import Mathlib.Data.List.Infix
import Mathlib.Tactic.Common
import TableShell.Text.Offset
import TableShell.Text.Search

/-!
# Boundaries of a text

A byte offset is a boundary of a text if the text splits there into two lists of characters. This
module shows that the functions on byte offsets agree with this reading: `isBoundary` decides it,
and `cutAtByte?` gives the two parts, which are the only ones.

The first of a character and the last character that satisfies a condition cut a text as well.
`cutFirst` and `cutLastWhere` find them. A text that occurs in another one stands between two parts
of it.
-/

namespace TableShell.Text

/-- Byte `n` lies between two characters of a text or at an end of it. -/
def Boundary (n : Nat) (cs : List Char) : Prop :=
  ∃ before after, cs = before ++ after ∧ byteLength before = n

/-! ### Lengths -/

/-- An empty text has no bytes. -/
@[simp] lemma byteLength_nil : byteLength [] = 0 := rfl

/-- The first character adds its bytes. -/
@[simp] lemma byteLength_cons (c : Char) (cs : List Char) :
    byteLength (c :: cs) = c.utf8Size + byteLength cs := rfl

/-- Texts one after the other have the bytes of both. -/
@[simp] lemma byteLength_append (as bs : List Char) :
    byteLength (as ++ bs) = byteLength as + byteLength bs := by
  induction as with
  | nil => simp
  | cons c as ih => simp [ih, Nat.add_assoc]

/-- A text without bytes has no characters. -/
@[simp] lemma byteLength_eq_zero {cs : List Char} : byteLength cs = 0 ↔ cs = [] := by
  cases cs with
  | nil => simp
  | cons c cs =>
    have hpos := c.utf8Size_pos
    simp only [byteLength_cons, reduceCtorEq, iff_false]
    omega

/-- The bytes of a list of characters are those of the string that it makes. -/
@[simp] lemma utf8ByteSize_ofList (cs : List Char) :
    (String.ofList cs).utf8ByteSize = byteLength cs := by
  induction cs with
  | nil => rfl
  | cons c cs ih =>
    have hsplit : String.ofList (c :: cs) = String.singleton c ++ String.ofList cs := by
      rw [String.singleton_eq_ofList, ← String.ofList_append, List.singleton_append]
    rw [hsplit, String.utf8ByteSize_append, String.utf8ByteSize_singleton, ih, byteLength_cons]

/-- The bytes of a string are those of its characters. -/
lemma byteLength_toList (s : String) : byteLength s.toList = s.utf8ByteSize := by
  rw [← utf8ByteSize_ofList, String.ofList_toList]

/-! ### Cutting -/

/-- Cutting at any byte loses nothing. -/
lemma beforeByte_append_fromByte (n : Nat) (cs : List Char) :
    beforeByte n cs ++ fromByte n cs = cs := by
  induction cs generalizing n with
  | nil => rfl
  | cons c cs ih =>
    by_cases hc : c.utf8Size ≤ n
    · simp [beforeByte, fromByte, hc, ih]
    · simp [beforeByte, fromByte, hc]

/-- In front of the byte at which a text ends stands that text. -/
@[simp] lemma beforeByte_byteLength_append (as bs : List Char) :
    beforeByte (byteLength as) (as ++ bs) = as := by
  induction as with
  | nil =>
    cases bs with
    | nil => rfl
    | cons c bs => simp [beforeByte, Nat.ne_of_gt c.utf8Size_pos]
  | cons c as ih => simp [beforeByte, ih]

/-- Everything stands before the end. -/
lemma beforeByte_utf8ByteSize (s : String) : beforeByte s.utf8ByteSize s.toList = s.toList := by
  have h := beforeByte_byteLength_append s.toList []
  rwa [List.append_nil, byteLength_toList] at h

/-- From the byte at which a text ends on stands what follows it. -/
@[simp] lemma fromByte_byteLength_append (as bs : List Char) :
    fromByte (byteLength as) (as ++ bs) = bs := by
  have h := beforeByte_append_fromByte (byteLength as) (as ++ bs)
  rw [beforeByte_byteLength_append] at h
  exact List.append_cancel_left h

/-- Nothing stands behind the end. -/
lemma fromByte_utf8ByteSize (s : String) : fromByte s.utf8ByteSize s.toList = [] := by
  have h := fromByte_byteLength_append s.toList []
  rwa [List.append_nil, byteLength_toList] at h

/-- The test for boundaries finds exactly the places where a text splits into characters. -/
lemma isBoundary_iff {n : Nat} {cs : List Char} : isBoundary n cs = true ↔ Boundary n cs := by
  simp only [isBoundary, clampByte, beq_iff_eq]
  constructor
  · intro h
    exact ⟨beforeByte n cs, fromByte n cs, (beforeByte_append_fromByte n cs).symm, h⟩
  · rintro ⟨before, after, rfl, rfl⟩
    rw [beforeByte_byteLength_append]

/-- A text is cut at a byte into the only two parts whose first one has that many bytes. -/
lemma cutAtByte?_eq_some {n : Nat} {cs before after : List Char} :
    cutAtByte? n cs = some (before, after) ↔ cs = before ++ after ∧ byteLength before = n := by
  simp only [cutAtByte?, Option.ite_none_right_eq_some, isBoundary_iff, Option.some.injEq,
    Prod.mk.injEq]
  constructor
  · rintro ⟨⟨as, bs, rfl, rfl⟩, hbefore, hafter⟩
    rw [beforeByte_byteLength_append] at hbefore
    rw [fromByte_byteLength_append] at hafter
    rw [hbefore, hafter]
    exact ⟨rfl, rfl⟩
  · rintro ⟨rfl, rfl⟩
    exact ⟨⟨before, after, rfl, rfl⟩, by simp, by simp⟩

/-- At the byte at which one text ends and another one begins both are cut apart. -/
@[simp] lemma cutAtByte?_byteLength_append (as bs : List Char) :
    cutAtByte? (byteLength as) (as ++ bs) = some (as, bs) :=
  cutAtByte?_eq_some.mpr ⟨rfl, rfl⟩

/-- A text cannot be cut where there is no boundary. -/
lemma cutAtByte?_eq_none {n : Nat} {cs : List Char} :
    cutAtByte? n cs = none ↔ ¬ Boundary n cs := by
  simp [cutAtByte?, isBoundary_iff]

/-! ### Boundaries -/

/-- The end of a text is a boundary whatever follows. -/
lemma boundary_append (as bs : List Char) : Boundary (byteLength as) (as ++ bs) :=
  ⟨as, bs, rfl, rfl⟩

/-- The start of a text is a boundary. -/
lemma boundary_zero (cs : List Char) : Boundary 0 cs :=
  ⟨[], cs, rfl, rfl⟩

/-- The end of a text is a boundary. -/
lemma boundary_byteLength (cs : List Char) : Boundary (byteLength cs) cs :=
  ⟨cs, [], by simp, rfl⟩

/-- A boundary is not past the end of the text. -/
lemma Boundary.le {n : Nat} {cs : List Char} (h : Boundary n cs) : n ≤ byteLength cs := by
  obtain ⟨before, after, rfl, rfl⟩ := h
  simp

/-- Moving a byte down to a boundary gives a boundary. -/
lemma boundary_clampByte (n : Nat) (cs : List Char) : Boundary (clampByte n cs) cs :=
  ⟨beforeByte n cs, fromByte n cs, (beforeByte_append_fromByte n cs).symm, rfl⟩

/-- What stands before a byte is what stands before the boundary that it is moved down to. -/
lemma beforeByte_clampByte (n : Nat) (cs : List Char) :
    beforeByte (clampByte n cs) cs = beforeByte n cs := by
  have h := beforeByte_byteLength_append (beforeByte n cs) (fromByte n cs)
  rwa [beforeByte_append_fromByte] at h

/-- Boundaries stay where they are. -/
lemma Boundary.clampByte_eq {n : Nat} {cs : List Char} (h : Boundary n cs) :
    clampByte n cs = n := by
  obtain ⟨before, after, rfl, rfl⟩ := h
  rw [clampByte, beforeByte_byteLength_append]

/-- An end of the text before a cursor starts at a boundary. -/
lemma boundary_of_beforeByte {n : Nat} {cs head tail : List Char}
    (h : beforeByte n cs = head ++ tail) : Boundary (byteLength head) cs := by
  refine ⟨head, tail ++ fromByte n cs, ?_, rfl⟩
  rw [← List.append_assoc, ← h, beforeByte_append_fromByte]

/-- An end of the text before a cursor is the text from its start up to the cursor. -/
lemma sliceBytes_of_beforeByte {n : Nat} {s : String} {head tail : List Char}
    (h : beforeByte n s.toList = head ++ tail) :
    sliceBytes (byteLength head) (clampByte n s.toList) s = .ofList tail := by
  rw [sliceBytes, takeBytes, dropBytes, beforeByte_clampByte, h, String.toList_ofList,
    fromByte_byteLength_append]

/-! ### Parts of a string -/

/-- As many bytes as a text has are that text. -/
lemma takeBytes_byteLength_append (as bs : List Char) :
    takeBytes (byteLength as) (.ofList (as ++ bs)) = .ofList as := by
  rw [takeBytes, String.toList_ofList, beforeByte_byteLength_append]

/-- Behind as many bytes as a text has stands what follows it. -/
lemma dropBytes_byteLength_append (as bs : List Char) :
    dropBytes (byteLength as) (.ofList (as ++ bs)) = .ofList bs := by
  rw [dropBytes, String.toList_ofList, fromByte_byteLength_append]

/-- The part between two boundaries is what stands between them. -/
lemma sliceBytes_byteLength_append (as bs cs : List Char) :
    sliceBytes (byteLength as) (byteLength (as ++ bs)) (.ofList (as ++ bs ++ cs)) = .ofList bs := by
  rw [sliceBytes, takeBytes_byteLength_append, dropBytes_byteLength_append]

/-! ### The first of a character -/

/-- A text is cut at the first separator. -/
lemma cutFirst_append_cons {sep : Char} {before : List Char} (h : sep ∉ before)
    (after : List Char) : cutFirst sep (before ++ sep :: after) = some (before, after) := by
  induction before with
  | nil => simp [cutFirst]
  | cons c before ih =>
    have hc : c ≠ sep := fun hc => h (hc ▸ List.mem_cons_self)
    have hrest := ih fun hmem => h (List.mem_cons_of_mem _ hmem)
    simp [cutFirst, hc, hrest]

/-- A text is cut at the first of a character. -/
lemma cutFirst_eq_some {sep : Char} {cs before after : List Char} :
    cutFirst sep cs = some (before, after) ↔ cs = before ++ sep :: after ∧ sep ∉ before := by
  constructor
  · intro h
    induction cs generalizing before with
    | nil => cases h
    | cons c cs ih =>
      rw [cutFirst] at h
      by_cases hc : c = sep
      · rw [if_pos (beq_iff_eq.mpr hc)] at h
        obtain ⟨rfl, rfl⟩ := Prod.mk.inj (Option.some.inj h)
        exact ⟨by rw [hc]; rfl, List.not_mem_nil⟩
      · rw [if_neg (by simpa using hc)] at h
        obtain ⟨⟨start, rest⟩, hcut, heq⟩ := Option.map_eq_some_iff.mp h
        obtain ⟨rfl, rfl⟩ := Prod.mk.inj heq
        obtain ⟨rfl, hstart⟩ := ih hcut
        refine ⟨rfl, ?_⟩
        rw [List.mem_cons, not_or]
        exact ⟨Ne.symm hc, hstart⟩
  · rintro ⟨rfl, hbefore⟩
    exact cutFirst_append_cons hbefore after

/-! ### The last character of a kind -/

/-- Nothing is cut off exactly if no character satisfies the condition. -/
lemma cutLastWhere_eq_none {p : Char → Bool} {cs : List Char} :
    cutLastWhere p cs = none ↔ ∀ c ∈ cs, p c = false := by
  induction cs with
  | nil => simp [cutLastWhere]
  | cons c cs ih =>
    rw [cutLastWhere, List.forall_mem_cons, ← ih]
    cases cutLastWhere p cs <;> simp

/-- A text is cut at the last character of a kind. -/
lemma cutLastWhere_append_cons {p : Char → Bool} {c : Char} (before : List Char)
    {after : List Char} (hc : p c = true) (hafter : ∀ x ∈ after, p x = false) :
    cutLastWhere p (before ++ c :: after) = some (before, after) := by
  induction before with
  | nil => simp [cutLastWhere, cutLastWhere_eq_none.mpr hafter, hc]
  | cons x before ih => simp [cutLastWhere, ih]

/-- A text is cut at the last character that satisfies a condition. -/
lemma cutLastWhere_eq_some {p : Char → Bool} {cs before after : List Char} :
    cutLastWhere p cs = some (before, after) ↔
      ∃ c, cs = before ++ c :: after ∧ p c = true ∧ ∀ x ∈ after, p x = false := by
  constructor
  · intro h
    induction cs generalizing before with
    | nil => simp [cutLastWhere] at h
    | cons x cs ih =>
      rw [cutLastWhere] at h
      cases hcs : cutLastWhere p cs with
      | some parts =>
        simp only [hcs, Option.some.injEq, Prod.mk.injEq] at h
        obtain ⟨rfl, rfl⟩ := h
        obtain ⟨c, rfl, hc, hafter⟩ := ih hcs
        exact ⟨c, rfl, hc, hafter⟩
      | none =>
        simp only [hcs, Option.ite_none_right_eq_some, Option.some.injEq, Prod.mk.injEq] at h
        obtain ⟨hx, rfl, rfl⟩ := h
        exact ⟨x, rfl, hx, cutLastWhere_eq_none.mp hcs⟩
  · rintro ⟨c, rfl, hc, hafter⟩
    exact cutLastWhere_append_cons before hc hafter

/-! ### Texts in a text -/

/-- The search finds a text where it stands inside the other one. -/
lemma occursIn_iff {needle cs : List Char} : occursIn needle cs = true ↔ needle <:+: cs := by
  induction cs with
  | nil => simp [occursIn]
  | cons c cs ih =>
    rw [occursIn, Bool.or_eq_true, List.isPrefixOf_iff_prefix, ih, List.infix_cons_iff]

/-- A string is found in another one where it stands inside it. -/
lemma contains_iff {text needle : String} :
    contains text needle = true ↔ needle.toList <:+: text.toList :=
  occursIn_iff

/-- A string starts with another one that stands in front of it. -/
lemma startsWith_iff {text start : String} :
    startsWith text start = true ↔ start.toList <+: text.toList :=
  List.isPrefixOf_iff_prefix

/-- What is left behind the start of a text is the rest of the text. -/
lemma afterStart?_eq_some {start cs rest : List Char} :
    afterStart? start cs = some rest ↔ cs = start ++ rest := by
  induction start generalizing cs with
  | nil => simp [afterStart?]
  | cons p start ih =>
    cases cs with
    | nil => simp [afterStart?]
    | cons c cs =>
      rw [afterStart?, List.cons_append, List.cons.injEq, eq_comm (a := c), ← ih]
      by_cases hsame : p = c
      · simp [hsame]
      · simp [hsame]

end TableShell.Text
