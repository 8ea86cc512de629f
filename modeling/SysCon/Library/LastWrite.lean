import Mathlib.Data.List.Basic
import Mathlib.Logic.Function.Basic

/-!
Registers under a run of operations. A projection of the state is a register
when every operation either stores a value in it that does not depend on the
state, or leaves it alone. A run then leaves the last stored value there.
-/

namespace SysCon.Library

variable {state op value : Type*}

/-- `write` tells which value, if any, an operation stores in the register `get`. -/
def Overwrites (step : state → op → state) (get : state → value) (write : op → Option value) :
    Prop :=
  ∀ current operation, get (step current operation) = (write operation).getD (get current)

/-- The value of the last operation that stores one. -/
def lastWrite (write : op → Option value) : List op → Option value
  | [] => none
  | operation :: rest => (lastWrite write rest).or (write operation)

@[simp] theorem lastWrite_nil (write : op → Option value) : lastWrite write [] = none := rfl

@[simp] theorem lastWrite_cons (write : op → Option value) (operation : op) (rest : List op) :
    lastWrite write (operation :: rest) = (lastWrite write rest).or (write operation) := rfl

@[simp] theorem lastWrite_append (write : op → Option value) (first second : List op) :
    lastWrite write (first ++ second) = (lastWrite write second).or (lastWrite write first) := by
  induction first with
  | nil => simp
  | cons operation rest ih => simp [ih, Option.or_assoc]

theorem lastWrite_concat (write : op → Option value) (earlier : List op) (last : op) :
    lastWrite write (earlier ++ [last]) = (write last).or (lastWrite write earlier) := by
  rw [lastWrite_append, lastWrite_cons, lastWrite_nil, Option.none_or]

theorem lastWrite_append_getD_iff {write : op → Option value} {first second : List op}
    {initial : value} :
    (lastWrite write first).getD initial = (lastWrite write (first ++ second)).getD initial ↔
      ∀ stored, lastWrite write second = some stored →
        stored = (lastWrite write first).getD initial := by
  rw [lastWrite_append]
  cases lastWrite write second with
  | none => simp
  | some stored => simp [eq_comm]

theorem lastWrite_eq_none {write : op → Option value} {operations : List op} :
    lastWrite write operations = none ↔ ∀ operation ∈ operations, write operation = none := by
  induction operations with
  | nil => simp
  | cons operation rest ih =>
      simp only [lastWrite_cons, Option.or_eq_none_iff, ih, List.mem_cons, forall_eq_or_imp]
      exact And.comm

theorem lastWrite_mem {write : op → Option value} {operations : List op} {stored : value}
    (found : lastWrite write operations = some stored) :
    ∃ operation ∈ operations, write operation = some stored := by
  induction operations with
  | nil => simp at found
  | cons operation rest ih =>
      rw [lastWrite_cons, Option.or_eq_some_iff] at found
      rcases found with later | ⟨_, here⟩
      · obtain ⟨source, member, stores⟩ := ih later
        exact ⟨source, by simp [member], stores⟩
      · exact ⟨operation, by simp, here⟩

theorem lastWrite_map {other : Type*} (write : op → Option value) (convert : value → other)
    (operations : List op) :
    lastWrite (fun operation => (write operation).map convert) operations =
      (lastWrite write operations).map convert := by
  induction operations with
  | nil => rfl
  | cons operation rest ih =>
      rw [lastWrite_cons, lastWrite_cons, ih]
      cases lastWrite write rest <;> simp

/-- After some dropped operations and a last one the register holds what the last one alone
leaves there: that one stores a value, or the dropped ones end on the value held before. -/
def LastSuffices (write : op → Option value) (before : value) (dropped : List op) (last : op) :
    Prop :=
  (write last).isSome ∨ ∀ stored, lastWrite write dropped = some stored → stored = before

namespace Overwrites

variable {step : state → op → state} {get : state → value} {write : op → Option value}

theorem foldl (register : Overwrites step get write) (initial : state) (operations : List op) :
    get (operations.foldl step initial) = (lastWrite write operations).getD (get initial) := by
  induction operations generalizing initial with
  | nil => rfl
  | cons operation rest ih =>
      rw [List.foldl_cons, ih, register, lastWrite_cons]
      cases lastWrite write rest <;> simp

theorem foldl_repeated (register : Overwrites step get write) (initial : state)
    (repeated between : List op) :
    get ((repeated ++ between ++ repeated).foldl step initial) =
      get ((between ++ repeated).foldl step initial) := by
  rw [register.foldl, register.foldl]
  simp only [lastWrite_append]
  cases lastWrite write repeated <;> simp

theorem foldl_eq_iff (register : Overwrites step get write) (initial : state)
    (first second : List op) :
    get (first.foldl step initial) = get (second.foldl step initial) ↔
      (lastWrite write first).getD (get initial) = (lastWrite write second).getD (get initial) := by
  rw [register.foldl, register.foldl]

theorem keepLast_iff (register : Overwrites step get write) (initial : state)
    (dropped : List op) (last : op) :
    get ((dropped ++ [last]).foldl step initial) = get (step initial last) ↔
      LastSuffices write (get initial) dropped last := by
  unfold LastSuffices
  rw [register.foldl, register]
  simp only [lastWrite_append, lastWrite_cons, lastWrite_nil, Option.none_or]
  cases write last with
  | some stored => simp
  | none => cases lastWrite write dropped <;> simp

end Overwrites

/-! A function updated at a list of arguments, each argument being a register. -/

section Updates

variable {index : Type*} [DecidableEq index]

def updates (initial : index → value) (assignments : List (index × value)) : index → value :=
  assignments.foldl (fun current entry => Function.update current entry.1 entry.2) initial

def assigned (argument : index) (entry : index × value) : Option value :=
  if entry.1 = argument then some entry.2 else none

theorem overwrites_update (argument : index) :
    Overwrites (fun (current : index → value) entry => Function.update current entry.1 entry.2)
      (fun current => current argument) (assigned argument) := by
  rintro current ⟨key, stored⟩
  by_cases same : key = argument
  · subst key
    simp [assigned]
  · simp [assigned, same, Function.update_of_ne (Ne.symm same)]

theorem updates_apply (initial : index → value) (assignments : List (index × value))
    (argument : index) :
    updates initial assignments argument =
      (lastWrite (assigned argument) assignments).getD (initial argument) :=
  (overwrites_update argument).foldl initial assignments

/-- Assignments that are all repeated later, with whatever values, have no effect. -/
theorem updates_updates (initial : index → value) {first second : List (index × value)}
    (repeated : first.map Prod.fst ⊆ second.map Prod.fst) :
    updates (updates initial first) second = updates initial second := by
  funext argument
  rw [updates_apply, updates_apply, updates_apply]
  cases found : lastWrite (assigned argument) second with
  | some stored => rfl
  | none =>
      have unwritten : lastWrite (assigned argument) first = none := by
        rw [lastWrite_eq_none] at found ⊢
        intro entry member
        obtain ⟨later, again, sameKey⟩ :=
          List.mem_map.mp (repeated (List.mem_map.mpr ⟨entry, member, rfl⟩))
        have skipped := found later again
        have other : entry.1 ≠ argument := by
          intro same
          simp [assigned, sameKey, same] at skipped
        exact if_neg other
      rw [unwritten]
      rfl

/-- Assignments to different arguments can be swapped. -/
theorem updates_comm (initial : index → value) {first second : List (index × value)}
    (disjoint : List.Disjoint (first.map Prod.fst) (second.map Prod.fst)) :
    updates (updates initial first) second = updates (updates initial second) first := by
  funext argument
  simp only [updates_apply]
  cases firstStored : lastWrite (assigned argument) first with
  | none => rfl
  | some stored =>
      have unwritten : lastWrite (assigned argument) second = none := by
        obtain ⟨entry, member, stores⟩ := lastWrite_mem firstStored
        obtain ⟨rfl, _⟩ := Option.ite_none_right_eq_some.mp stores
        rw [lastWrite_eq_none]
        intro other again
        refine if_neg fun sameKey => ?_
        exact disjoint (List.mem_map.mpr ⟨entry, member, rfl⟩)
          (List.mem_map.mpr ⟨other, again, sameKey⟩)
      rw [unwritten]
      rfl

theorem updates_concat (initial : index → value) (assignments : List (index × value))
    (argument : index) (stored : value) :
    updates initial (assignments ++ [(argument, stored)]) argument = stored := by
  simp [updates]

end Updates

end SysCon.Library
