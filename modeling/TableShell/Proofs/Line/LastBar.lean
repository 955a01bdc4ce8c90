import Mathlib.Data.List.Basic
import Mathlib.Tactic.Common
import TableShell.Line.Context
import TableShell.Proofs.Text.Lines

/-!
# The last bar among tokens

The place of a cursor is told from a list of tokens in which a bar is one of the words: by a search
for the last bar, and by a look at every token that follows a bar. What is to be said of the place
is said by stages instead, which are what stands between two bars. Both are brought together here,
for any list of tokens.

Two tokens that stand next to each other are looked at, of which the first one is a bar. The second
one begins a stage, unless it is a bar itself; then the stage between the two is empty. So an empty
stage yields a bar where it has no first word (`filter_behindBars`). That makes no difference, since
no filter has the name of a bar.
-/

namespace TableShell

namespace Grammar

/-- A bar names no filter. -/
lemma isFilter_bar (g : Grammar) : g.isFilter "|" = false := by
  rw [isFilter, filter?, lookupName, Option.isSome_eq_false_iff, Option.isNone_iff_eq_none]
  exact List.find?_eq_none.mpr fun f hf => by simp [g.bar_isNoFilter f hf]

end Grammar

namespace Context

variable {front back tokens : List String} {earlier : List (List String)} {last : List String}

/-! ### The search -/

/-- From the end of tokens without a bar no bar is found. -/
lemma findIdx?_reverse_eq_none (h : "|" ∉ tokens) :
    tokens.reverse.findIdx? (fun token => token == "|") = none := by
  rw [List.findIdx?_eq_none_iff]
  intro token htoken
  rw [beq_eq_false_iff_ne]
  rintro rfl
  exact h (List.mem_reverse.mp htoken)

/-- Without a bar the search finds nothing. -/
lemma lastBar?_eq_none (h : "|" ∉ tokens) : lastBar? tokens = none := by
  rw [lastBar?, findIdx?_reverse_eq_none h]
  rfl

/-- The search finds the bar that no other one follows. -/
lemma lastBar?_append (h : "|" ∉ back) : lastBar? (front ++ "|" :: back) = some front.length := by
  rw [lastBar?, List.reverse_append, List.reverse_cons, List.append_assoc, List.findIdx?_append,
    findIdx?_reverse_eq_none h, List.singleton_append, List.findIdx?_cons,
    if_pos (beq_self_eq_true "|")]
  simp

/-! ### Stages -/

/-- Where there is a stage in front of the last one, a bar stands between them. -/
lemma exists_append_of_splitOn (h : tokens.splitOn "|" = earlier ++ [last]) (hne : earlier ≠ []) :
    ∃ front, tokens = front ++ "|" :: last ∧ front.splitOn "|" = earlier := by
  have hbars : ∀ stage ∈ earlier, "|" ∉ stage := by
    intro stage hstage
    have hmem : stage ∈ tokens.splitOn "|" := h ▸ List.mem_append_left _ hstage
    exact Text.notMem_of_mem_splitOn hmem
  have hjoin : ∀ stages : List (List String), stages ≠ [] →
      ["|"].intercalate (stages ++ [last]) = ["|"].intercalate stages ++ "|" :: last := by
    intro stages hstages
    induction stages with
    | nil => exact absurd rfl hstages
    | cons stage stages ih =>
      cases stages with
      | nil => simp
      | cons next stages =>
        rw [List.cons_append, List.cons_append, List.intercalate_cons_cons,
          List.intercalate_cons_cons, ← List.cons_append, ih (List.cons_ne_nil _ _),
          List.append_assoc, List.append_assoc, List.append_assoc]
  refine ⟨["|"].intercalate earlier, ?_, List.splitOn_intercalate _ hbars hne⟩
  rw [← hjoin earlier hne, ← h, List.intercalate_splitOn]

/-! ### Tokens behind a bar -/

/-- The tokens that follow a bar. -/
def behindBars (tokens : List String) : List String :=
  ((tokens.zip tokens.tail).filter fun (before, _) => before == "|").map Prod.snd

/-- The second of two tokens counts if the first one is a bar. -/
lemma behindBars_cons_cons (token next : String) (rest : List String) :
    behindBars (token :: next :: rest) =
      if token = "|" then next :: behindBars (next :: rest) else behindBars (next :: rest) := by
  unfold behindBars
  by_cases h : token = "|"
  · simp [h]
  · simp [h]

/-- The first stage begins with the first token, if that is no bar. -/
lemma head?_head?_splitOn (tokens : List String) :
    (tokens.splitOn "|").head?.bind List.head? = tokens.head?.filter fun token => token != "|" := by
  cases tokens with
  | nil => rfl
  | cons token rest =>
    obtain ⟨first, others, hsplit⟩ := List.exists_cons_of_ne_nil (List.splitOn_ne_nil "|" rest)
    rw [List.splitOn_cons_eq_if_modifyHead, hsplit]
    by_cases h : token = "|"
    · simp [h, Option.filter_some]
    · simp [h, Option.filter_some]

/-- The tokens that follow a bar, and are none, are the first words of the stages behind the first
one. -/
lemma filter_behindBars (tokens : List String) :
    (behindBars tokens).filter (fun token => token != "|") =
      (tokens.splitOn "|").tail.filterMap List.head? := by
  induction tokens with
  | nil => rfl
  | cons token rest ih =>
    obtain ⟨first, others, hsplit⟩ := List.exists_cons_of_ne_nil (List.splitOn_ne_nil "|" rest)
    have hfirst := head?_head?_splitOn rest
    rw [hsplit, List.head?_cons, Option.bind_some] at hfirst
    rw [hsplit, List.tail_cons] at ih
    rw [List.splitOn_cons_eq_if_modifyHead, hsplit]
    by_cases hbar : token = "|"
    · rw [if_pos (beq_iff_eq.mpr hbar), List.tail_cons, List.filterMap_cons, hfirst, ← ih]
      cases rest with
      | nil => rfl
      | cons next rest =>
        rw [behindBars_cons_cons, if_pos hbar, List.filter_cons, List.head?_cons]
        by_cases hnext : next = "|"
        · simp [hnext, Option.filter_some]
        · simp [hnext, Option.filter_some]
    · rw [if_neg (by simpa using hbar), List.modifyHead_cons, List.tail_cons, ← ih]
      cases rest with
      | nil => rfl
      | cons next rest => rw [behindBars_cons_cons, if_neg hbar]

/-- The filters that are used are named by the first words of the stages behind the first one, in
lower case. -/
theorem usedFilters_eq (g : Grammar) (tokens : List String) :
    usedFilters g tokens =
      (((tokens.splitOn "|").tail.filterMap List.head?).map Text.lowercase).filter g.isFilter := by
  have hbar : g.isFilter (Text.lowercase "|") = false := by
    have hlower : Text.lowercase "|" = "|" := by decide +kernel
    rw [hlower, g.isFilter_bar]
  have hused : usedFilters g tokens =
      ((behindBars tokens).map Text.lowercase).filter g.isFilter := by
    rw [usedFilters, behindBars, List.map_map]
    rfl
  rw [hused, ← filter_behindBars, List.filter_map, List.filter_map, List.filter_filter]
  congr 1
  apply List.filter_congr
  intro token _
  by_cases h : token = "|"
  · simp [h, hbar]
  · simp [h]

end Context

end TableShell
