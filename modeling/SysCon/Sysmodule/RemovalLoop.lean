import SysCon.Library.EraseLoop
import SysCon.Sysmodule.Threads

/-!
`RemoveAllNonPlugged` as the loop that it is: it walks `controllerHandlers` and
erases from it on the way. What it leaves and what it destroys is what the
threads take it to leave and to destroy.
-/

namespace SysCon.Removal

open Library

/-- The inner loop of the search, which its `break` leaves. -/
def searchPlugged (interfaceID : Int) : List Int → Bool → Bool
  | [], found => found
  | plugged :: interfaceIDsPlugged, found =>
      if interfaceID = plugged then true else searchPlugged interfaceID interfaceIDsPlugged found

/-- The search for an interface of a handler among those that are plugged. -/
def found (interfaceIDsPlugged interfaces : List Int) : Bool :=
  interfaces.foldl (fun found interfaceID => searchPlugged interfaceID interfaceIDsPlugged found)
    false

/-- `none` when `fuel` turns are not enough, or an iterator is dereferenced outside the list. -/
def RemoveAllNonPlugged {handler : Type*} (interfaces : handler → List Int)
    (interfaceIDsPlugged : List Int) (fuel : Nat) (controllerHandlers : List handler) :
    Option (Sweep handler) :=
  Sweep.run (fun current => found interfaceIDsPlugged (interfaces current)) fuel
    { items := controllerHandlers }

theorem searchPlugged_iff {interfaceID : Int} {interfaceIDsPlugged : List Int} {found : Bool} :
    searchPlugged interfaceID interfaceIDsPlugged found = true ↔
      found = true ∨ interfaceID ∈ interfaceIDsPlugged := by
  induction interfaceIDsPlugged with
  | nil => simp [searchPlugged]
  | cons plugged rest ih =>
      rw [searchPlugged, List.mem_cons]
      split
      · rename_i same
        simp [same]
      · rename_i other
        rw [ih]
        simp [other]

theorem foldl_searchPlugged {interfaceIDsPlugged interfaces : List Int} {found : Bool} :
    interfaces.foldl
        (fun found interfaceID => searchPlugged interfaceID interfaceIDsPlugged found) found =
      true ↔ found = true ∨ ∃ interfaceID ∈ interfaces, interfaceID ∈ interfaceIDsPlugged := by
  induction interfaces generalizing found with
  | nil => simp
  | cons interfaceID rest ih =>
      rw [List.foldl_cons, ih, searchPlugged_iff, List.exists_mem_cons_iff, or_assoc]

theorem found_iff {interfaceIDsPlugged interfaces : List Int} :
    found interfaceIDsPlugged interfaces = true ↔
      ∃ interfaceID ∈ interfaces, interfaceID ∈ interfaceIDsPlugged := by
  rw [found, foldl_searchPlugged]
  simp

theorem found_eq (interfaceIDsPlugged interfaces : List Int) :
    found interfaceIDsPlugged interfaces =
      decide (∃ interfaceID ∈ interfaces, interfaceID ∈ interfaceIDsPlugged) := by
  rw [Bool.eq_iff_iff, found_iff, decide_eq_true_iff]

/-- Whatever the interfaces of the handlers are, the loop ends, leaves in their order those with a
plugged interface, and destroys each of the others once. -/
theorem removeAllNonPlugged_filters {handler : Type*} (interfaces : handler → List Int)
    (interfaceIDsPlugged : List Int) (controllerHandlers : List handler) :
    ∃ last : Sweep handler,
      (∀ fuel, controllerHandlers.length < fuel →
        RemoveAllNonPlugged interfaces interfaceIDsPlugged fuel controllerHandlers = some last) ∧
      last.items = controllerHandlers.filter (fun current =>
        ∃ interfaceID ∈ interfaces current, interfaceID ∈ interfaceIDsPlugged) ∧
      last.erased = controllerHandlers.filter (fun current =>
        ¬∃ interfaceID ∈ interfaces current, interfaceID ∈ interfaceIDsPlugged) ∧
      (last.items ++ last.erased).Perm controllerHandlers := by
  refine ⟨_, fun fuel enough => Sweep.run_start controllerHandlers enough, ?_, ?_, ?_⟩
  · simp only [found_eq]
  · simp only [found_eq, decide_not]
  · exact List.filter_append_perm _ controllerHandlers

-- The first handlers go, so the position is back at -1 twice.
example : RemoveAllNonPlugged id [7] 5 [[1], [], [2, 7], [3]] =
    some ⟨[[2, 7]], 1, [[1], [], [3]]⟩ := by decide

/-! The removal of the threads. -/

open Threads

theorem found_eq_any (interfaceIDsPlugged interfaces : List Int) :
    found interfaceIDsPlugged interfaces = interfaces.any interfaceIDsPlugged.contains := by
  rw [Bool.eq_iff_iff, found_iff, List.any_eq_true]
  simp only [List.contains_iff_mem]

theorem removes_as_threads (interfaceIDsPlugged : List Int) (controllerHandlers : List Handler) :
    ∃ last : Sweep Handler,
      RemoveAllNonPlugged Handler.interfaces interfaceIDsPlugged (controllerHandlers.length + 1)
        controllerHandlers = some last ∧
      last.erased = (Removes.allNonPlugged interfaceIDsPlugged).doomed controllerHandlers ∧
      last.items = last.erased.foldl List.erase controllerHandlers := by
  refine ⟨_, Sweep.run_start controllerHandlers (Nat.lt_succ_self _), ?_, ?_⟩
  · refine List.filter_congr ?_
    intro handler _
    rw [found_eq_any]
  · exact (foldl_erase_filter _ controllerHandlers).symm

end SysCon.Removal
