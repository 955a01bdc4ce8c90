import Mathlib.Data.List.Induction
import Mathlib.Tactic.Common
import TableShell.Completion.Basic
import TableShell.Proofs.Text.Order

/-!
# Lists of names

Sorting and dropping repetitions do not change which names there are. Of a name that occurs several
times the first occurrence is kept.
-/

namespace TableShell

namespace Suggester

/-- Of several names, those are kept that begin with what is typed, in any case. -/
lemma mem_beginning {typed name : String} {names : List String} :
    name ∈ beginning typed names ↔ name ∈ names ∧ Text.startsFolded name typed = true := by
  rw [beginning, List.mem_filter]

/-- A name is kept unless it has occurred before. -/
lemma unique_concat (names : List String) (name : String) :
    unique (names ++ [name]) =
      if (unique names).contains name then unique names else unique names ++ [name] := by
  simp [unique]

/-- What is kept of names are their first occurrences. -/
theorem unique_eq_eraseDups (names : List String) : unique names = names.eraseDups := by
  induction names using List.reverseRecOn with
  | nil => rfl
  | append_singleton names name ih =>
    rw [unique_concat, ih, List.eraseDups_append]
    by_cases hold : name ∈ names
    · simp [List.removeAll, hold]
    · simp [List.removeAll, hold, List.eraseDups_cons]

/-- Leaving out repeated names loses none. -/
lemma mem_unique {name : String} {names : List String} :
    name ∈ unique names ↔ name ∈ names := by
  rw [unique_eq_eraseDups, List.mem_eraseDups]

end Suggester

end TableShell
