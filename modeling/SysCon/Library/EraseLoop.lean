import Mathlib.Data.List.Basic
import Mathlib.Data.List.Flatten
import Mathlib.Data.List.Nodup
import Mathlib.Tactic.Common

/-!
A loop that erases from the list it walks. The iterator is a position: to erase
an item it goes one step back, which is before the first item where that one is
erased, and the turn ends with a step forward. What is left is a filter.
-/

namespace SysCon.Library

variable {item : Type*}

structure Sweep (item : Type*) where
  items : List item
  position : Int := 0
  erased : List item := []
  deriving DecidableEq, Repr

namespace Sweep

/-- The item at the position; none before the first and after the last one. -/
def current? (sweep : Sweep item) : Option item :=
  if 0 ≤ sweep.position then sweep.items[sweep.position.toNat]? else none

/-- `erase(it--)`. -/
def erase (sweep : Sweep item) (current : item) : Sweep item where
  items := sweep.items.eraseIdx sweep.position.toNat
  position := sweep.position - 1
  erased := sweep.erased ++ [current]

def forward (sweep : Sweep item) : Sweep item := { sweep with position := sweep.position + 1 }

/-- A turn of the loop; none where the position names no item. -/
def turn (keep : item → Bool) (sweep : Sweep item) : Option (Sweep item) :=
  sweep.current?.map fun current =>
    (if keep current then sweep else sweep.erase current).forward

/-- The loop, which the end of the list as it is now stops; `none` when `fuel` turns were not
enough, or a turn was not possible. -/
def run (keep : item → Bool) : Nat → Sweep item → Option (Sweep item)
  | 0, _ => none
  | fuel + 1, sweep =>
      if sweep.position = sweep.items.length then some sweep
      else (sweep.turn keep).bind (run keep fuel)

/-- The loop with the items `behind` done and the items `ahead` to do. -/
def between (keep : item → Bool) (behind ahead : List item) : Sweep item where
  items := behind.filter keep ++ ahead
  position := (behind.filter keep).length
  erased := behind.filter fun current => !keep current

variable {keep : item → Bool} {behind ahead : List item} {current : item}

theorem current?_between : (between keep behind (current :: ahead)).current? = some current := by
  rw [current?, between, if_pos (Int.natCast_nonneg _), Int.toNat_natCast]
  simp

theorem turn_between :
    (between keep behind (current :: ahead)).turn keep =
      some (between keep (behind ++ [current]) ahead) := by
  rw [turn, current?_between, Option.map_some, Option.some.injEq]
  cases kept : keep current with
  | true =>
      simp [between, forward, List.filter_append, kept]
  | false =>
      -- the item after the erased one has moved to its place
      have closed : (behind.filter keep ++ current :: ahead).eraseIdx (behind.filter keep).length =
          behind.filter keep ++ ahead := by
        rw [List.eraseIdx_append_of_length_le (Nat.le_refl _), Nat.sub_self,
          List.eraseIdx_cons_zero]
      simp [between, erase, forward, List.filter_append, kept, closed]

theorem run_between {fuel : Nat} (enough : ahead.length < fuel) :
    run keep fuel (between keep behind ahead) = some (between keep (behind ++ ahead) []) := by
  induction ahead generalizing behind fuel with
  | nil =>
      obtain ⟨fuel, rfl⟩ := Nat.exists_eq_add_one_of_ne_zero (Nat.ne_of_gt enough)
      rw [run, if_pos (by simp [between]), List.append_nil]
  | cons current ahead ih =>
      obtain ⟨fuel, rfl⟩ := Nat.exists_eq_add_one_of_ne_zero (Nat.ne_zero_of_lt enough)
      have goesOn : (between keep behind (current :: ahead)).position ≠
          (between keep behind (current :: ahead)).items.length := by
        simp only [between, List.length_append, List.length_cons]
        omega
      rw [run, if_neg goesOn, turn_between, Option.bind_some,
        ih (Nat.lt_of_succ_lt_succ enough), List.append_assoc, List.singleton_append]

/-- The loop ends, with the items to keep in their order, and it has erased the others. -/
theorem run_start {fuel : Nat} (items : List item) (enough : items.length < fuel) :
    run keep fuel { items } =
      some { items := items.filter keep, position := (items.filter keep).length
             erased := items.filter fun current => !keep current } := by
  have start : ({ items } : Sweep item) = between keep [] items := rfl
  rw [start, run_between enough, List.nil_append, between, List.append_nil]

end Sweep

/-- Taking the others out one by one leaves the items to keep too. -/
theorem foldl_erase_filter [DecidableEq item] (keep : item → Bool) (items : List item) :
    (items.filter fun current => !keep current).foldl List.erase items = items.filter keep := by
  induction items with
  | nil => rfl
  | cons current rest ih =>
      cases kept : keep current with
      | true =>
          have stays : current ∉ rest.filter fun current => !keep current := by
            intro member
            have erased := (List.mem_filter.mp member).2
            rw [kept] at erased
            exact Bool.noConfusion erased
          rw [List.filter_cons_of_neg (by simp [kept]), List.filter_cons_of_pos kept,
            ← List.diff_eq_foldl, List.cons_diff_of_not_mem stays, List.diff_eq_foldl, ih]
      | false =>
          rw [List.filter_cons_of_pos (by simp [kept]), List.filter_cons_of_neg (by simp [kept]),
            List.foldl_cons, List.erase_cons_head, ih]

/-! A loop that keeps the items of which some key is in a list of names. -/

/-- Lists without a common member that all meet a list are no more than it has members. -/
theorem length_le_of_meets {lists : List (List item)} {names : List item}
    (apart : lists.flatten.Nodup) (meets : ∀ list ∈ lists, ∃ member ∈ list, member ∈ names) :
    lists.length ≤ names.length := by
  classical
  induction lists generalizing names with
  | nil => exact Nat.zero_le _
  | cons list others ih =>
      obtain ⟨⟨first, inList, inNames⟩, later⟩ := List.forall_mem_cons.mp meets
      rw [List.flatten_cons, List.nodup_append'] at apart
      obtain ⟨_, rest, disjoint⟩ := apart
      -- the others do not need the member that names this one
      have others_meet : ∀ list ∈ others, ∃ member ∈ list, member ∈ names.erase first := by
        intro list member
        obtain ⟨second, inOther, named⟩ := later list member
        refine ⟨second, inOther, (List.mem_erase_of_ne ?_).mpr named⟩
        rintro rfl
        exact disjoint inList (List.mem_flatten.mpr ⟨list, member, inOther⟩)
      have shorter := ih rest others_meet
      have positive : 0 < names.length := List.length_pos_of_mem inNames
      rw [List.length_erase_of_mem inNames] at shorter
      rw [List.length_cons]
      omega

theorem length_filter_meets_le {key : Type*} [BEq key] [LawfulBEq key] {items : List item}
    {keys : item → List key} (apart : (items.flatMap keys).Nodup) (names : List key) :
    (items.filter fun current => (keys current).any names.contains).length ≤ names.length := by
  let kept := items.filter fun current => (keys current).any names.contains
  have keptApart : (kept.map keys).flatten.Nodup := by
    rw [← List.flatMap_def]
    exact apart.sublist (List.filter_sublist.flatMap keys)
  have meets : ∀ list ∈ kept.map keys, ∃ member ∈ list, member ∈ names := by
    intro list member
    obtain ⟨current, isKept, rfl⟩ := List.mem_map.mp member
    obtain ⟨name, own, isNamed⟩ := List.any_eq_true.mp (List.mem_filter.mp isKept).2
    exact ⟨name, own, List.contains_iff_mem.mp isNamed⟩
  have bound := length_le_of_meets keptApart meets
  rwa [List.length_map] at bound

end SysCon.Library
