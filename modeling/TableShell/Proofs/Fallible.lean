import Mathlib.Tactic.Common

/-!
# Computations that can fail

What a sequence of two steps that can fail results in: a value exactly if both steps have one, and
otherwise the error of the first step that fails.
-/

namespace TableShell

variable {ε α β : Type}

/-- Two steps have a result if the first one has a value on which the second one has that
result. -/
lemma bind_eq_ok {x : Except ε α} {f : α → Except ε β} {b : β} :
    x >>= f = .ok b ↔ ∃ a, x = .ok a ∧ f a = .ok b := by
  cases x <;> simp [bind, Except.bind]

/-- Two steps fail if the first one does, or the second one on the value of the first. -/
lemma bind_eq_error {x : Except ε α} {f : α → Except ε β} {err : ε} :
    x >>= f = .error err ↔ x = .error err ∨ ∃ a, x = .ok a ∧ f a = .error err := by
  cases x <;> simp [bind, Except.bind]

/-- A mapped result is a value where the result was one that the function sends there. -/
lemma map_eq_ok {x : Except ε α} {f : α → β} {b : β} :
    x.map f = .ok b ↔ ∃ a, x = .ok a ∧ f a = b := by
  cases x <;> simp [Except.map]

/-- Mapping the value leaves an error as it was. -/
lemma map_eq_error {x : Except ε α} {f : α → β} {err : ε} :
    x.map f = .error err ↔ x = .error err := by
  cases x <;> simp [Except.map]

/-- What holds of every value of a step holds of all values of the step on a list. -/
lemma forall_mem_of_mapM_eq_ok {p : β → Prop} {f : α → Except ε β} {xs : List α} {ys : List β}
    (hf : ∀ x y, f x = .ok y → p y) (h : xs.mapM f = .ok ys) : ∀ y ∈ ys, p y := by
  induction xs generalizing ys with
  | nil =>
    obtain rfl : [] = ys := Except.ok.inj h
    simp
  | cons x xs ih =>
    rw [List.mapM_cons] at h
    obtain ⟨y, hy, h⟩ := bind_eq_ok.mp h
    obtain ⟨rest, hrest, h⟩ := bind_eq_ok.mp h
    obtain rfl : y :: rest = ys := Except.ok.inj h
    exact List.forall_mem_cons.mpr ⟨hf x y hy, ih hrest⟩

end TableShell
