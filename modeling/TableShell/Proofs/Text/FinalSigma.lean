import Mathlib.Data.List.TakeWhile
import TableShell.Proofs.Text.Boundary
import TableShell.Proofs.Text.Order
import TableShell.Text.Lowercase

/-!
# Lower case within a text

A character is put into lower case on its own, except for the capital sigma, which looks at what
stands around it. So the lower case of a part of a text is the part of its lower case that belongs
to it only if every sigma of the part looks the same from within the part as from within the text.
It fails to in two ways: the part ends in a final sigma and a cased character follows, or its first
letter is a sigma that is made final by what precedes the part.
-/

namespace TableShell.Text

variable {before before' text after after' : List Char}

/-- Whether a sigma between two texts, the first given from last to first, is a final one. -/
def isFinalSigma (before after : List Char) : Bool :=
  beginsCased before && !beginsCased after

/-- The lower-case mapping of a character between two texts, the first given from last to first. -/
def smallBetween (before : List Char) (c : Char) (after : List Char) : List Char :=
  if c == 'Σ' then
    if isFinalSigma before after then ['ς'] else ['σ']
  else lowerChar c

/-- The lower-case mapping of a text between two others, the first given from last to first. -/
def lowerBetween : (before text after : List Char) → List Char
  | _, [], _ => []
  | before, c :: cs, after =>
    smallBetween before c (cs ++ after) ++ lowerBetween (c :: before) cs after

/-- Whether the last letter of a text is a sigma that is final where the text ends. -/
def endsInFinalSigma (text : List Char) : Bool :=
  match text.reverse.dropWhile isCaseIgnorable with
  | [] => false
  | c :: before => c == 'Σ' && beginsCased before

/-- Whether the first letter of a text is a sigma that is final behind a cased character, with
`after` standing behind the text. -/
def opensWithFinalSigma (text after : List Char) : Bool :=
  match text.dropWhile isCaseIgnorable with
  | [] => false
  | c :: rest => c == 'Σ' && !beginsCased (rest ++ after)

/-- Whether every sigma of a text is final in it exactly if it is final in the longer text with
`a` in front of it and `b` behind it. -/
def keepsSigmas (a text b : List Char) : Bool :=
  !(endsInFinalSigma text && beginsCased b) &&
    !(opensWithFinalSigma text b && beginsCased a.reverse)

/-- A text stands at a place of another one when both are in lower case. -/
def StandsAt (text s : List Char) (n : Nat) : Prop :=
  lowerChars text <+: (lowerChars s).drop n

/-! ### Lower case by parts -/

/-- The mapping of a text with another one behind it is that of both parts, each with the other one
beside it. -/
lemma lowerAfter_append (before text after : List Char) :
    lowerAfter before (text ++ after) =
      lowerBetween before text after ++ lowerAfter (text.reverse ++ before) after := by
  induction text generalizing before with
  | nil => rfl
  | cons c cs ih =>
    have hstep : lowerAfter before (c :: cs ++ after) =
        smallBetween before c (cs ++ after) ++ lowerAfter (c :: before) (cs ++ after) := rfl
    rw [hstep, ih, lowerBetween, List.reverse_cons, List.append_assoc, List.append_assoc,
      List.singleton_append]

/-- With nothing around it, a text is mapped as it is alone. -/
lemma lowerBetween_nil (text : List Char) : lowerBetween [] text [] = lowerChars text := by
  have h := lowerAfter_append [] text []
  rw [List.append_nil, lowerAfter, List.append_nil] at h
  exact h.symm

/-- A text in three parts is put into lower case part by part. -/
lemma lowerChars_append_append (a text b : List Char) : lowerChars (a ++ text ++ b) =
    lowerBetween [] a (text ++ b) ++
      (lowerBetween a.reverse text b ++ lowerAfter (text.reverse ++ a.reverse) b) := by
  rw [lowerChars, List.append_assoc, lowerAfter_append, List.append_nil, lowerAfter_append]

/-- A character is mapped to as many characters wherever it stands. -/
lemma length_smallBetween (c : Char) :
    (smallBetween before c after).length = (smallBetween before' c after').length := by
  unfold smallBetween
  split
  · split <;> split <;> rfl
  · rfl

/-- What stands around a text does not change the length of its lower case. -/
lemma length_lowerBetween :
    (lowerBetween before text after).length = (lowerBetween before' text after').length := by
  induction text generalizing before before' with
  | nil => rfl
  | cons c cs ih =>
    rw [lowerBetween, lowerBetween, List.length_append, List.length_append, length_smallBetween, ih]

/-! ### Sigmas that look the same -/

/-- A character is mapped alike in two places unless it is a sigma that is final in only one of
them. -/
lemma smallBetween_eq_iff {c : Char} :
    smallBetween before c after = smallBetween before' c after' ↔
      (c = 'Σ' → isFinalSigma before after = isFinalSigma before' after') := by
  unfold smallBetween
  by_cases hc : c = 'Σ'
  · subst hc
    cases isFinalSigma before after <;> cases isFinalSigma before' after' <;> decide
  · simp [hc]

/-- A text has the same lower case at two places if each of its sigmas is final at both or at
none. -/
lemma lowerBetween_eq_iff :
    lowerBetween before text after = lowerBetween before' text after' ↔
      ∀ p q, text = p ++ 'Σ' :: q →
        isFinalSigma (p.reverse ++ before) (q ++ after) =
          isFinalSigma (p.reverse ++ before') (q ++ after') := by
  induction text generalizing before before' with
  | nil =>
    refine ⟨fun _ p q h => ?_, fun _ => rfl⟩
    exact absurd h.symm (List.append_ne_nil_of_right_ne_nil p (List.cons_ne_nil _ q))
  | cons c cs ih =>
    rw [lowerBetween, lowerBetween]
    constructor
    · intro h p q htext
      obtain ⟨hfirst, hrest⟩ := List.append_inj h (length_smallBetween c)
      cases p with
      | nil =>
        obtain ⟨rfl, rfl⟩ := List.cons.inj htext
        exact smallBetween_eq_iff.mp hfirst rfl
      | cons x p =>
        obtain ⟨rfl, rfl⟩ := List.cons.inj htext
        simpa using ih.mp hrest p q rfl
    · intro h
      have hfirst :
          smallBetween before c (cs ++ after) = smallBetween before' c (cs ++ after') := by
        refine smallBetween_eq_iff.mpr ?_
        rintro rfl
        exact h [] cs rfl
      have hrest : lowerBetween (c :: before) cs after = lowerBetween (c :: before') cs after' := by
        refine ih.mpr ?_
        rintro p q rfl
        simpa using h (c :: p) q rfl
      rw [hfirst, hrest]

/-! ### Where they do not -/

/-- Behind characters that are passed over, the rest of a text decides. -/
lemma beginsCased_append_of_ignorable (h : ∀ c ∈ text, isCaseIgnorable c = true)
    (after : List Char) : beginsCased (text ++ after) = beginsCased after := by
  rw [beginsCased, beginsCased, List.dropWhile_append_of_pos h]

/-- Where not all characters are passed over, the rest of a text does not matter. -/
lemma beginsCased_append_of_not_ignorable (h : ¬∀ c ∈ text, isCaseIgnorable c = true)
    (after : List Char) : beginsCased (text ++ after) = beginsCased text := by
  have hrest : text.dropWhile isCaseIgnorable ≠ [] := by
    rwa [Ne, List.dropWhile_eq_nil_iff]
  obtain ⟨c, cs, hcs⟩ := List.exists_cons_of_ne_nil hrest
  rw [beginsCased, beginsCased, List.dropWhile_append, hcs]
  rfl

/-- A text of characters that are skipped begins with no cased one. -/
lemma beginsCased_of_ignorable (h : ∀ c ∈ text, isCaseIgnorable c = true) :
    beginsCased text = false := by
  rw [beginsCased, List.dropWhile_eq_nil_iff.mpr h]

/-- Behind the characters that are skipped in front stands a sigma. -/
lemma dropWhile_eq_sigma_iff {rest : List Char} :
    text.dropWhile isCaseIgnorable = 'Σ' :: rest ↔
      ∃ p, text = p ++ 'Σ' :: rest ∧ ∀ c ∈ p, isCaseIgnorable c = true := by
  have hsigma : isCaseIgnorable 'Σ' = false := by decide +kernel
  constructor
  · intro h
    refine ⟨text.takeWhile isCaseIgnorable, ?_, fun c => List.mem_takeWhile_imp⟩
    rw [← h, List.takeWhile_append_dropWhile]
  · rintro ⟨p, rfl, hp⟩
    rw [List.dropWhile_append_of_pos hp, List.dropWhile_cons_of_neg (by simp [hsigma])]

/-- A text ends in a final sigma if only characters that are skipped stand behind the sigma, and a
cased one stands in front of it. -/
lemma endsInFinalSigma_iff : endsInFinalSigma text = true ↔
    ∃ p q, text = p ++ 'Σ' :: q ∧ beginsCased p.reverse = true ∧
      ∀ c ∈ q, isCaseIgnorable c = true := by
  constructor
  · intro h
    unfold endsInFinalSigma at h
    split at h
    · exact absurd h Bool.false_ne_true
    · next c before hdrop =>
      rw [Bool.and_eq_true, beq_iff_eq] at h
      obtain ⟨rfl, hcased⟩ := h
      obtain ⟨q, htext, hq⟩ := dropWhile_eq_sigma_iff.mp hdrop
      refine ⟨before.reverse, q.reverse, ?_, by rwa [List.reverse_reverse], by simpa using hq⟩
      rw [← List.reverse_reverse text, htext]
      simp
  · rintro ⟨p, q, rfl, hcased, hq⟩
    have hdrop : (p ++ 'Σ' :: q).reverse.dropWhile isCaseIgnorable = 'Σ' :: p.reverse :=
      dropWhile_eq_sigma_iff.mpr ⟨q.reverse, by simp, by simpa using hq⟩
    rw [endsInFinalSigma, hdrop]
    simp [hcased]

/-- A text opens with a sigma that can be final if only characters that are skipped stand in front
of it, and no cased one behind it. -/
lemma opensWithFinalSigma_iff : opensWithFinalSigma text after = true ↔
    ∃ p q, text = p ++ 'Σ' :: q ∧ (∀ c ∈ p, isCaseIgnorable c = true) ∧
      beginsCased (q ++ after) = false := by
  constructor
  · intro h
    unfold opensWithFinalSigma at h
    split at h
    · exact absurd h Bool.false_ne_true
    · next c rest hdrop =>
      rw [Bool.and_eq_true, beq_iff_eq, Bool.not_eq_true'] at h
      obtain ⟨rfl, hcased⟩ := h
      obtain ⟨p, htext, hp⟩ := dropWhile_eq_sigma_iff.mp hdrop
      exact ⟨p, rest, htext, hp, hcased⟩
  · rintro ⟨p, q, rfl, hp, hcased⟩
    rw [opensWithFinalSigma, dropWhile_eq_sigma_iff.mpr ⟨p, rfl, hp⟩]
    simp [hcased]

/-- A sigma between two texts stays what it is when more is put around them, unless a cased
character now follows directly, or only now precedes it. -/
lemma isFinalSigma_append_eq_iff {p q a b : List Char} :
    isFinalSigma (p ++ a) (q ++ b) = isFinalSigma p q ↔
      ¬(beginsCased p = true ∧ (∀ c ∈ q, isCaseIgnorable c = true) ∧ beginsCased b = true) ∧
        ¬((∀ c ∈ p, isCaseIgnorable c = true) ∧ beginsCased (q ++ b) = false ∧
          beginsCased a = true) := by
  unfold isFinalSigma
  by_cases hp : ∀ c ∈ p, isCaseIgnorable c = true
  · -- Within `p` nothing cased precedes the sigma, so it is not final there.
    rw [beginsCased_append_of_ignorable hp, beginsCased_of_ignorable hp]
    cases beginsCased (q ++ b) <;> cases beginsCased a <;> simp [iff_true_intro hp]
  · rw [beginsCased_append_of_not_ignorable hp]
    by_cases hq : ∀ c ∈ q, isCaseIgnorable c = true
    · -- Within `q` nothing cased follows it, so what follows `q` decides.
      rw [beginsCased_append_of_ignorable hq, beginsCased_of_ignorable hq]
      cases beginsCased p <;> cases beginsCased b <;> simp [hp, iff_true_intro hq]
    · rw [beginsCased_append_of_not_ignorable hq]
      simp [hp, hq]

/-- Sigmas of a text are kept unless its last one loses the end of the word or its first one gains
the start of it. -/
lemma keepsSigmas_iff {a b : List Char} : keepsSigmas a text b = true ↔
    ¬(endsInFinalSigma text = true ∧ beginsCased b = true) ∧
      ¬(opensWithFinalSigma text b = true ∧ beginsCased a.reverse = true) := by
  simp only [keepsSigmas, Bool.and_eq_true, Bool.not_eq_true', ← Bool.not_eq_true]

/-- Nothing stands in front of the start of a text, so only its end can be looked at. -/
lemma keepsSigmas_nil_iff {b : List Char} : keepsSigmas [] text b = true ↔
    ¬(endsInFinalSigma text = true ∧ beginsCased b = true) := by
  have hnothing : beginsCased [] = false := rfl
  simp [keepsSigmas_iff, hnothing]

/-- A text without a capital sigma is put into lower case regardless of what stands around it. -/
lemma keepsSigmas_of_notMem (a b : List Char) (h : 'Σ' ∉ text) : keepsSigmas a text b = true := by
  rw [keepsSigmas_iff]
  constructor
  · rintro ⟨hends, -⟩
    obtain ⟨p, q, rfl, -⟩ := endsInFinalSigma_iff.mp hends
    simp at h
  · rintro ⟨hopens, -⟩
    obtain ⟨p, q, rfl, -⟩ := opensWithFinalSigma_iff.mp hopens
    simp at h

/-- The lower case of a text is the part of the lower case of a longer one that belongs to it,
unless one of its sigmas is final in one of the two only. -/
theorem lowerBetween_eq_lowerChars_iff {a b : List Char} :
    lowerBetween a.reverse text b = lowerChars text ↔ keepsSigmas a text b = true := by
  rw [keepsSigmas_iff, ← lowerBetween_nil, lowerBetween_eq_iff, endsInFinalSigma_iff,
    opensWithFinalSigma_iff]
  simp only [List.append_nil, isFinalSigma_append_eq_iff, List.mem_reverse]
  constructor
  · intro h
    constructor
    · rintro ⟨⟨p, q, htext, hp, hq⟩, hb⟩
      exact (h p q htext).1 ⟨hp, hq, hb⟩
    · rintro ⟨⟨p, q, htext, hp, hq⟩, ha⟩
      exact (h p q htext).2 ⟨hp, hq, ha⟩
  · rintro ⟨hends, hopens⟩ p q htext
    constructor
    · rintro ⟨hp, hq, hb⟩
      exact hends ⟨⟨p, q, htext, hp, hq⟩, hb⟩
    · rintro ⟨hp, hq, ha⟩
      exact hopens ⟨⟨p, q, htext, hp, hq⟩, ha⟩

/-! ### Texts found in lower case -/

/-- A text occurs in another one in lower case exactly if it stands there at some place. -/
lemma occursIn_lowerChars_iff {s : List Char} :
    occursIn (lowerChars text) (lowerChars s) = true ↔ ∃ n, StandsAt text s n := by
  rw [occursIn_iff, List.infix_iff_prefix_suffix]
  constructor
  · rintro ⟨tail, hprefix, hsuffix⟩
    rw [List.suffix_iff_eq_drop] at hsuffix
    exact ⟨_, hsuffix ▸ hprefix⟩
  · rintro ⟨n, hn⟩
    exact ⟨_, hn, List.drop_suffix n _⟩

/-- A text that is a part of another one stands in its place in lower case too, exactly if that
keeps its sigmas. -/
theorem standsAt_iff {a b : List Char} :
    StandsAt text (a ++ text ++ b) (lowerChars a).length ↔ keepsSigmas a text b = true := by
  have hfront : (lowerBetween [] a (text ++ b)).length = (lowerChars a).length := by
    rw [← lowerBetween_nil, length_lowerBetween]
  have hlength : (lowerChars text).length = (lowerBetween a.reverse text b).length := by
    rw [← lowerBetween_nil, length_lowerBetween]
  rw [StandsAt, lowerChars_append_append, List.drop_left' hfront, ← lowerBetween_eq_lowerChars_iff]
  constructor
  · rintro ⟨back, hback⟩
    exact (List.append_inj_left hback hlength).symm
  · intro h
    rw [h]
    exact List.prefix_append _ _

/-- A name that begins with what is typed also does so without regard to case, unless what is typed
ends in a sigma that is final there and not in the name. -/
lemma startsFolded_iff_of_append {name typed : String} {rest : List Char}
    (h : name.toList = typed.toList ++ rest) :
    startsFolded name typed = true ↔
      ¬(endsInFinalSigma typed.toList = true ∧ beginsCased rest = true) := by
  rw [startsFolded, List.isPrefixOf_iff_prefix, h, ← keepsSigmas_nil_iff, ← standsAt_iff]
  rfl

end TableShell.Text
