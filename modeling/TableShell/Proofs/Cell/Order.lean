import Mathlib.Data.Int.ConditionallyCompleteOrder
import Mathlib.Data.Sum.Order
import Mathlib.Order.Monotone.Basic
import TableShell.Cell
import TableShell.Proofs.Number.Rounding
import TableShell.Proofs.Text.Order

/-!
# The order of cells

A cell is compared with another cell and with a typed literal by two functions of their own. Both
follow one linear order: values of one kind have ranks such that cells are compared as their ranks
are, and a cell of a higher rank is never nearer to the beginning when both are compared with the
same literal. This holds also for whole numbers that are compared with a literal that is no whole
number, because rounding to a floating-point number keeps the order.
-/

namespace TableShell

/-- In the order of sides, which runs from below over equal to above, one side is not behind the
other one. -/
def NotBehind (o o' : Ordering) : Prop :=
  (o' = .lt → o = .lt) ∧ (o = .gt → o' = .gt)

/-- A larger value is not on a lower side of a third one. -/
lemma notBehind_of_le {α : Type*} [LinearOrder α] {x y z : α} {o o' : Ordering}
    (h : o.Compares x z) (h' : o'.Compares y z) (hxy : x ≤ y) : NotBehind o o' := by
  constructor
  · rintro rfl
    exact h.eq_lt.mpr (hxy.trans_lt h')
  · rintro rfl
    exact h'.eq_gt.mpr (h.lt.trans_le hxy)

/-- The outcome of a comparison in a linear order says how the two elements stand to each other. -/
lemma compare_compares {α : Type*} [LinearOrder α] (x y : α) : (compare x y).Compares x y :=
  compare_iff x y |>.mp rfl

namespace Value

/-- Values of one kind, none of which is what is not a number, are alike. -/
lemma alike_of_typeName_eq {a b : Value} (h : a.typeName = b.typeName) (ha : a ≠ .real .nan)
    (hb : b ≠ .real .nan) : a.alike b = true := by
  cases a <;> cases b <;> simp_all [typeName, alike]

/-- Values are alike that are both texts, both whole numbers, both floating-point numbers, or both
sizes. -/
lemma alike_cases {a b : Value} (h : a.alike b = true) :
    (∃ s t, a = text s ∧ b = text t) ∨ (∃ i j, a = integer i ∧ b = integer j) ∨
      (∃ x y, a = real x ∧ b = real y ∧ x ≠ .nan ∧ y ≠ .nan) ∨ ∃ s t, a = size s ∧ b = size t := by
  cases a <;> cases b <;> simp_all [alike]

/-- The place of a value among the values of its kind; in a column of sizes all values count by
their bytes. -/
noncomputable def rank (sizeColumn : Bool) (v : Value) : EReal ⊕ₗ List Char :=
  if sizeColumn then Sum.inlₗ ((v.bytes : ℝ) : EReal)
  else match v with
    | text s => Sum.inrₗ (Text.lowerChars s.toList)
    | integer i => Sum.inlₗ ((i : ℝ) : EReal)
    | real x => Sum.inlₗ x.value
    | size s => Sum.inlₗ ((Size.bytesOf s : ℝ) : EReal)

end Value

namespace Cell

variable {a b : Cell} {sizeColumn : Bool} {literal : String} {o o' : Ordering}

/-- Whether two cells can stand in one column that orders its rows. -/
def Comparable (sizeColumn : Bool) (a b : Cell) : Prop :=
  sizeColumn = true ∨ a.value.alike b.value = true

/-! ### Comparison with another cell -/

/-- Numbers of bytes have ranks in their order. -/
lemma natCast_strictMono : StrictMono fun n : Nat => Sum.inlₗ (β := List Char) ((n : ℝ) : EReal) :=
  Sum.Lex.inl_strictMono.comp (EReal.coe_strictMono.comp Nat.strictMono_cast)

/-- Whole numbers have ranks in their order. -/
lemma intCast_strictMono : StrictMono fun i : Int => Sum.inlₗ (β := List Char) ((i : ℝ) : EReal) :=
  Sum.Lex.inl_strictMono.comp (EReal.coe_strictMono.comp Int.cast_strictMono)

/-- Cells of one column are compared as their ranks are. -/
theorem compareCells_compares (h : Comparable sizeColumn a b) :
    (a.compareCells b sizeColumn).Compares (a.value.rank sizeColumn) (b.value.rank sizeColumn) := by
  unfold compareCells Value.rank
  cases sizeColumn with
  | true => exact natCast_strictMono.compares.mpr (compare_compares _ _)
  | false =>
    obtain ⟨x, p⟩ := a
    obtain ⟨y, q⟩ := b
    have halike : x.alike y = true := h.resolve_left (by decide)
    obtain ⟨s, t, rfl, rfl⟩ | ⟨i, j, rfl, rfl⟩ | ⟨x, y, rfl, rfl, hx, hy⟩ | ⟨s, t, rfl, rfl⟩ :=
      Value.alike_cases halike
    · exact Sum.Lex.inr_strictMono.compares.mpr (Text.compareFolded_compares s t)
    · exact intCast_strictMono.compares.mpr (compare_compares i j)
    · obtain ⟨o, ho, hcompares⟩ := Binary64.exists_compare?_compares hx hy
      simp only [Bool.false_eq_true, if_false, ho, Option.getD_some]
      exact Sum.Lex.inl_strictMono.compares.mpr hcompares
    · exact natCast_strictMono.compares.mpr (compare_compares _ _)

/-! ### Comparison with a literal -/

/-- The side of a number on which a cell stands is found for both of two cells or for neither. -/
lemma isSome_compare? {x y z : Binary64} (hx : x ≠ .nan) (hy : y ≠ .nan) :
    (x.compare? z).isSome = (y.compare? z).isSome := by
  by_cases hz : z = .nan
  · subst hz
    cases x <;> cases y <;> rfl
  · obtain ⟨o, ho, -⟩ := Binary64.exists_compare?_compares hx hz
    obtain ⟨o', ho', -⟩ := Binary64.exists_compare?_compares hy hz
    rw [ho, ho']
    rfl

/-- A number of a larger value is not on a lower side of a third one. -/
lemma notBehind_of_compare? {x y z : Binary64} (hx : x ≠ .nan) (hy : y ≠ .nan)
    (hle : x.value ≤ y.value) (ho : x.compare? z = some o) (ho' : y.compare? z = some o') :
    NotBehind o o' := by
  have hz : z ≠ .nan := by
    rintro rfl
    cases x <;> simp [Binary64.compare?] at ho
  obtain ⟨p, hp, hcompares⟩ := Binary64.exists_compare?_compares hx hz
  obtain ⟨p', hp', hcompares'⟩ := Binary64.exists_compare?_compares hy hz
  obtain rfl : p = o := Option.some.inj (hp.symm.trans ho)
  obtain rfl : p' = o' := Option.some.inj (hp'.symm.trans ho')
  exact notBehind_of_le hcompares hcompares' hle

/-- A literal fits both of two cells of one column, or neither. -/
theorem isSome_compareLiteral? (h : Comparable sizeColumn a b) :
    (a.compareLiteral? literal sizeColumn).isSome =
      (b.compareLiteral? literal sizeColumn).isSome := by
  unfold compareLiteral?
  cases sizeColumn with
  | true => simp
  | false =>
    obtain ⟨x, p⟩ := a
    obtain ⟨y, q⟩ := b
    have halike : x.alike y = true := h.resolve_left (by decide)
    obtain ⟨s, t, rfl, rfl⟩ | ⟨i, j, rfl, rfl⟩ | ⟨x, y, rfl, rfl, hx, hy⟩ | ⟨s, t, rfl, rfl⟩ :=
      Value.alike_cases halike
    · rfl
    · dsimp only
      cases readInteger? (Text.trim literal) with
      | some r => rfl
      | none =>
        cases Binary64.read? (Text.trim literal) with
        | none => rfl
        | some r => exact isSome_compare? (Binary64.ofInt_ne_nan i) (Binary64.ofInt_ne_nan j)
    · dsimp only
      cases Binary64.read? (Text.trim literal) with
      | none => rfl
      | some r => exact isSome_compare? hx hy
    · simp

/-- Of two cells of one column, the one of the higher rank is not on a lower side of a literal. -/
theorem notBehind_of_compareLiteral? (h : Comparable sizeColumn a b)
    (hle : a.value.rank sizeColumn ≤ b.value.rank sizeColumn)
    (ho : a.compareLiteral? literal sizeColumn = some o)
    (ho' : b.compareLiteral? literal sizeColumn = some o') : NotBehind o o' := by
  -- In bytes, both cells are compared with the same number.
  have hbytes {m n : Nat} (hmn : m ≤ n)
      (hm : (Size.parse? literal).map (fun bytes => compare m bytes) = some o)
      (hn : (Size.parse? literal).map (fun bytes => compare n bytes) = some o') :
      NotBehind o o' := by
    obtain ⟨bytes, hparse, rfl⟩ := Option.map_eq_some_iff.mp hm
    rw [hparse] at hn
    obtain rfl := Option.some.inj hn
    exact notBehind_of_le (compare_compares m bytes) (compare_compares n bytes) hmn
  unfold compareLiteral? at ho ho'
  unfold Value.rank at hle
  cases sizeColumn with
  | true => exact hbytes (natCast_strictMono.le_iff_le.mp hle) ho ho'
  | false =>
    obtain ⟨x, p⟩ := a
    obtain ⟨y, q⟩ := b
    have halike : x.alike y = true := h.resolve_left (by decide)
    obtain ⟨s, t, rfl, rfl⟩ | ⟨i, j, rfl, rfl⟩ | ⟨x, y, rfl, rfl, hx, hy⟩ | ⟨s, t, rfl, rfl⟩ :=
      Value.alike_cases halike
    · obtain rfl := Option.some.inj ho
      obtain rfl := Option.some.inj ho'
      exact notBehind_of_le (Text.compareFolded_compares s _) (Text.compareFolded_compares t _)
        (Sum.Lex.inr_strictMono.le_iff_le.mp hle)
    · have hij : i ≤ j := intCast_strictMono.le_iff_le.mp hle
      dsimp only at ho ho'
      cases hread : readInteger? (Text.trim literal) with
      | some r =>
        rw [hread] at ho ho'
        obtain rfl := Option.some.inj ho
        obtain rfl := Option.some.inj ho'
        exact notBehind_of_le (compare_compares i r) (compare_compares j r) hij
      | none =>
        -- Here the whole numbers are rounded first.
        rw [hread] at ho ho'
        obtain ⟨r, hr, ho⟩ := Option.bind_eq_some_iff.mp ho
        rw [hr] at ho'
        exact notBehind_of_compare? (Binary64.ofInt_ne_nan i) (Binary64.ofInt_ne_nan j)
          (Binary64.value_ofInt_mono hij) ho ho'
    · obtain ⟨r, hr, ho⟩ := Option.bind_eq_some_iff.mp ho
      dsimp only at ho'
      rw [hr] at ho'
      exact notBehind_of_compare? hx hy (Sum.Lex.inl_strictMono.le_iff_le.mp hle) ho ho'
    · exact hbytes (natCast_strictMono.le_iff_le.mp hle) ho ho'

end Cell

end TableShell
