import Mathlib.Logic.Function.Basic
import Mathlib.Logic.Relation

/-!
Threads that take locks and wait for the exit of others. A program that knows at
each of its points which locks it holds keeps in step with the mutexes; who
waits for whom can then be read from the points alone, and a rank of the points
that drops along every wait excludes a deadlock.
-/

namespace SysCon.Library

variable {thread resource : Type*}

def Deadlocked (waits : thread → thread → Prop) : Prop :=
  ∃ member, Relation.TransGen waits member member

theorem not_deadlocked_of_rank {waits : thread → thread → Prop} (rank : thread → Nat)
    (drops : ∀ waiting waited, waits waiting waited → rank waited < rank waiting) :
    ¬Deadlocked waits := by
  rintro ⟨member, cycle⟩
  have smaller : ∀ first last, Relation.TransGen waits first last → rank last < rank first := by
    intro first last path
    induction path with
    | single edge => exact drops _ _ edge
    | tail _ edge ih => exact Nat.lt_trans (drops _ _ edge) ih
  exact Nat.lt_irrefl _ (smaller member member cycle)

variable [DecidableEq thread]

/-- The holder, and how often it took the mutex again. -/
abbrev Mutex (thread : Type*) := Option (thread × Nat)

namespace Mutex

def depth (mutex : Mutex thread) (caller : thread) : Nat :=
  match mutex with
  | none => 0
  | some (holder, again) => if holder = caller then again + 1 else 0

def lock (recursive : Bool) (mutex : Mutex thread) (caller : thread) : Option (Mutex thread) :=
  match mutex with
  | none => some (some (caller, 0))
  | some (holder, again) =>
      if recursive ∧ holder = caller then some (some (holder, again + 1)) else none

def unlock (mutex : Mutex thread) (caller : thread) : Mutex thread :=
  match mutex with
  | none => none
  | some (holder, again) =>
      if holder = caller then
        match again with
        | 0 => none
        | again + 1 => some (holder, again)
      else some (holder, again)

theorem depth_lock {recursive : Bool} {mutex taken : Mutex thread} {caller : thread}
    (success : mutex.lock recursive caller = some taken) :
    taken.depth caller = mutex.depth caller + 1 ∧
      ∀ other, other ≠ caller → taken.depth other = mutex.depth other := by
  cases mutex with
  | none =>
      simp only [lock, Option.some.injEq] at success
      subst taken
      refine ⟨by simp [depth], ?_⟩
      intro other foreign
      simp [depth, Ne.symm foreign]
  | some entry =>
      obtain ⟨holder, again⟩ := entry
      simp only [lock, Option.ite_none_right_eq_some, Option.some.injEq] at success
      obtain ⟨⟨_, own⟩, rfl⟩ := success
      subst own
      refine ⟨by simp [depth], ?_⟩
      intro other foreign
      simp [depth, Ne.symm foreign]

theorem depth_unlock (mutex : Mutex thread) (caller : thread) :
    (mutex.unlock caller).depth caller = mutex.depth caller - 1 ∧
      ∀ other, other ≠ caller → (mutex.unlock caller).depth other = mutex.depth other := by
  cases mutex with
  | none => exact ⟨rfl, fun _ _ => rfl⟩
  | some entry =>
      obtain ⟨holder, again⟩ := entry
      by_cases own : holder = caller
      · subst own
        cases again with
        | zero =>
            refine ⟨by simp [unlock, depth], ?_⟩
            intro other foreign
            simp [unlock, depth, Ne.symm foreign]
        | succ again =>
            refine ⟨by simp [unlock, depth], ?_⟩
            intro other foreign
            simp [unlock, depth, Ne.symm foreign]
      · simp [unlock, depth, own]

theorem depth_eq_zero {mutex : Mutex thread} {caller other : thread}
    (holds : 0 < mutex.depth caller) (foreign : caller ≠ other) : mutex.depth other = 0 := by
  cases mutex with
  | none => rfl
  | some entry =>
      obtain ⟨holder, again⟩ := entry
      simp only [depth] at holds ⊢
      by_cases own : holder = caller
      · subst own
        rw [if_neg foreign]
      · rw [if_neg own] at holds
        exact absurd holds (Nat.lt_irrefl 0)

end Mutex

/-- What a step of a thread does to the locks. -/
inductive LockOp (resource : Type*)
  | stay
  | acquire (which : resource)
  | release (which : resource)

namespace LockOp

variable [DecidableEq resource]

def apply (recursive : resource → Bool) (locks : resource → Mutex thread) (caller : thread) :
    LockOp resource → Option (resource → Mutex thread)
  | .stay => some locks
  | .acquire which =>
      ((locks which).lock (recursive which) caller).map (Function.update locks which)
  | .release which => some (Function.update locks which ((locks which).unlock caller))

def change (held : resource → Nat) : LockOp resource → resource → Nat
  | .stay => held
  | .acquire which => Function.update held which (held which + 1)
  | .release which => Function.update held which (held which - 1)

theorem depth_update {locks : resource → Mutex thread} {target : resource} {mutex : Mutex thread}
    {caller : thread} {count : Nat} (own : mutex.depth caller = count)
    (foreign : ∀ other, other ≠ caller → mutex.depth other = (locks target).depth other)
    (member : thread) (which : resource) :
    (Function.update locks target mutex which).depth member =
      if member = caller then
        Function.update (fun which => (locks which).depth caller) target count which
      else (locks which).depth member := by
  by_cases here : which = target
  · subst here
    rw [Function.update_self]
    by_cases same : member = caller
    · subst same
      rw [if_pos rfl, Function.update_self, own]
    · rw [if_neg same, foreign member same]
  · rw [Function.update_of_ne here]
    by_cases same : member = caller
    · subst same
      rw [if_pos rfl, Function.update_of_ne here]
    · rw [if_neg same]

theorem depth_apply {recursive : resource → Bool} {locks taken : resource → Mutex thread}
    {caller : thread} {op : LockOp resource}
    (applied : op.apply recursive locks caller = some taken)
    (member : thread) (which : resource) :
    (taken which).depth member =
      if member = caller then op.change (fun which => (locks which).depth caller) which
      else (locks which).depth member := by
  cases op with
  | stay =>
      simp only [apply, Option.some.injEq] at applied
      subst taken
      by_cases same : member = caller
      · rw [if_pos same, same]
        rfl
      · rw [if_neg same]
  | acquire target =>
      simp only [apply, Option.map_eq_some_iff] at applied
      obtain ⟨mutex, locked, rfl⟩ := applied
      obtain ⟨own, foreign⟩ := Mutex.depth_lock locked
      exact depth_update own foreign member which
  | release target =>
      simp only [apply, Option.some.injEq] at applied
      subst taken
      obtain ⟨own, foreign⟩ := Mutex.depth_unlock (locks target) caller
      exact depth_update own foreign member which

end LockOp

/-- The mutexes are held as the points of the threads say. -/
def Disciplined (locks : resource → Mutex thread) (held : thread → resource → Nat) : Prop :=
  ∀ member which, (locks which).depth member = held member which

theorem Disciplined.apply [DecidableEq resource] {recursive : resource → Bool}
    {locks taken : resource → Mutex thread} {held later : thread → resource → Nat}
    {caller : thread} {op : LockOp resource} (disciplined : Disciplined locks held)
    (applied : op.apply recursive locks caller = some taken)
    (own : later caller = op.change (held caller))
    (foreign : ∀ other, other ≠ caller → later other = held other) : Disciplined taken later := by
  intro member which
  have heldByCaller : (fun which => (locks which).depth caller) = held caller :=
    funext fun which => disciplined caller which
  rw [LockOp.depth_apply applied, heldByCaller]
  by_cases same : member = caller
  · rw [if_pos same, same, own]
  · rw [if_neg same, foreign member same, disciplined]

/-- What a thread asks for at the point it has reached. -/
inductive Want (thread resource : Type*)
  | nothing
  | lock (which : resource)
  | exit (awaited : thread)

/-- `waiting` cannot go on before `waited` releases the lock, or exits. -/
def Waits (recursive : resource → Bool) (locks : resource → Mutex thread)
    (wants : thread → Want thread resource) (ended : thread → Prop) (waiting waited : thread) :
    Prop :=
  match wants waiting with
  | .nothing => False
  | .lock which => 0 < (locks which).depth waited ∧ (recursive which → waited ≠ waiting)
  | .exit awaited => waited = awaited ∧ ¬ended awaited

theorem Waits.lock {recursive : resource → Bool} {locks : resource → Mutex thread}
    {wants : thread → Want thread resource} {ended : thread → Prop} {waiting waited : thread}
    {which : resource} (want : wants waiting = .lock which)
    (holds : 0 < (locks which).depth waited) (foreign : waited ≠ waiting) :
    Waits recursive locks wants ended waiting waited := by
  rw [Waits, want]
  exact ⟨holds, fun _ => foreign⟩

theorem Waits.exit {recursive : resource → Bool} {locks : resource → Mutex thread}
    {wants : thread → Want thread resource} {ended : thread → Prop} {waiting waited : thread}
    (want : wants waiting = .exit waited) (running : ¬ended waited) :
    Waits recursive locks wants ended waiting waited := by
  rw [Waits, want]
  exact ⟨rfl, running⟩

theorem Disciplined.not_deadlocked {recursive : resource → Bool} {locks : resource → Mutex thread}
    {held : thread → resource → Nat} {wants : thread → Want thread resource} {ended : thread → Prop}
    (disciplined : Disciplined locks held) (rank : thread → Nat)
    (lockDrops : ∀ waiting which waited, wants waiting = .lock which → 0 < held waited which →
      (recursive which → held waiting which = 0) → rank waited < rank waiting)
    (exitDrops : ∀ waiting awaited, wants waiting = .exit awaited → ¬ended awaited →
      rank awaited < rank waiting) :
    ¬Deadlocked (Waits recursive locks wants ended) := by
  apply not_deadlocked_of_rank rank
  intro waiting waited waits
  unfold Waits at waits
  cases want : wants waiting with
  | nothing =>
      rw [want] at waits
      exact waits.elim
  | lock which =>
      rw [want] at waits
      obtain ⟨holds, foreign⟩ := waits
      have free : recursive which → held waiting which = 0 := by
        intro again
        rw [← disciplined]
        exact Mutex.depth_eq_zero holds (foreign again)
      rw [disciplined] at holds
      exact lockDrops waiting which waited want holds free
  | exit awaited =>
      rw [want] at waits
      obtain ⟨rfl, running⟩ := waits
      exact exitDrops waiting waited want running

end SysCon.Library
