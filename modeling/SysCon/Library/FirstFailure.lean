import Mathlib.Data.List.Basic

/-!
A loop that stops at the first element that fails, together with the calls its
steps made. The calls come from steps on elements of the list; a loop that got
through made all the calls of all its steps.
-/

namespace SysCon.Library

variable {result item call : Type*} [DecidableEq result]

def untilFailure (success : result) (step : Nat → item → result × List call) :
    Nat → List item → result × List call
  | _, [] => (success, [])
  | index, current :: rest =>
      let (made, calls) := step index current
      if made ≠ success then (made, calls)
      else
        let (final, later) := untilFailure success step (index + 1) rest
        (final, calls ++ later)

variable {success : result} {step : Nat → item → result × List call}

theorem untilFailure_cons_of_success {index : Nat} {current : item} (rest : List item)
    (passed : (step index current).1 = success) :
    untilFailure success step index (current :: rest) =
      ((untilFailure success step (index + 1) rest).1,
        (step index current).2 ++ (untilFailure success step (index + 1) rest).2) := by
  simp [untilFailure, passed]

theorem untilFailure_cons_of_failure {index : Nat} {current : item} (rest : List item)
    (failed : (step index current).1 ≠ success) :
    untilFailure success step index (current :: rest) = step index current := by
  simp [untilFailure, failed]

/-- Every call comes from the step on some element, and the other calls of that step were made. -/
theorem mem_untilFailure {made : call} {index : Nat} {items : List item}
    (listed : made ∈ (untilFailure success step index items).2) :
    ∃ offset current, items[offset]? = some current ∧ made ∈ (step (index + offset) current).2 ∧
      (step (index + offset) current).2 ⊆ (untilFailure success step index items).2 := by
  induction items generalizing index with
  | nil => simp [untilFailure] at listed
  | cons current rest ih =>
      by_cases passed : (step index current).1 = success
      · rw [untilFailure_cons_of_success rest passed] at listed ⊢
        rcases List.mem_append.mp listed with first | later
        · exact ⟨0, current, rfl, first, List.subset_append_left _ _⟩
        · obtain ⟨offset, other, found, source, others⟩ := ih later
          refine ⟨offset + 1, other, by simpa using found, ?_⟩
          rw [show index + (offset + 1) = index + 1 + offset by omega]
          exact ⟨source, List.subset_append_of_subset_right _ others⟩
      · rw [untilFailure_cons_of_failure rest passed] at listed ⊢
        exact ⟨0, current, rfl, listed, List.Subset.refl _⟩

theorem untilFailure_success_iff {index : Nat} {items : List item} :
    (untilFailure success step index items).1 = success ↔
      ∀ offset current, items[offset]? = some current →
        (step (index + offset) current).1 = success := by
  induction items generalizing index with
  | nil => simp [untilFailure]
  | cons current rest ih =>
      by_cases passed : (step index current).1 = success
      · rw [untilFailure_cons_of_success rest passed, ih]
        constructor
        · intro all offset other found
          cases offset with
          | zero =>
              have same : current = other := by simpa using found
              exact same ▸ passed
          | succ offset =>
              rw [show index + (offset + 1) = index + 1 + offset by omega]
              exact all offset other (by simpa using found)
        · intro all offset other found
          rw [show index + 1 + offset = index + (offset + 1) by omega]
          exact all (offset + 1) other (by simpa using found)
      · rw [untilFailure_cons_of_failure rest passed]
        constructor
        · intro same
          exact absurd same passed
        · intro all
          exact all 0 current rfl

theorem mem_untilFailure_of_success {made : call} {index offset : Nat} {items : List item}
    {current : item} (passed : (untilFailure success step index items).1 = success)
    (found : items[offset]? = some current) (source : made ∈ (step (index + offset) current).2) :
    made ∈ (untilFailure success step index items).2 := by
  induction items generalizing index offset with
  | nil => simp at found
  | cons first rest ih =>
      have firstPassed : (step index first).1 = success :=
        untilFailure_success_iff.mp passed 0 first rfl
      rw [untilFailure_cons_of_success rest firstPassed] at passed ⊢
      cases offset with
      | zero =>
          have same : first = current := by simpa using found
          exact List.mem_append_left _ (same ▸ source)
      | succ offset =>
          rw [show index + (offset + 1) = index + 1 + offset by omega] at source
          exact List.mem_append_right _ (ih passed (by simpa using found) source)

end SysCon.Library
