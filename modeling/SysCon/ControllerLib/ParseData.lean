import SysCon.ControllerLib.BaseController

/-!
What the drivers' `ParseData` have in common: fixed arrays that C++ indexes
without a check, the packets a driver sends while it parses, and its results.
-/

namespace SysCon

/-- What ends an execution: an index past the end of an array with one entry for each input or
for each raw button, or a call on a controller that is not there. -/
inductive Fault
  | slotIndex (index : Nat)
  | buttonPin (pin : Nat)
  | nullController (index : Nat)
  deriving DecidableEq, Repr

abbrev Exec := Except Fault

/-- What an execution that goes through did first. -/
theorem Exec.bind_eq_ok {first second : Type} {action : Exec first} {next : first → Exec second}
    {final : second} (finished : action >>= next = .ok final) :
    ∃ middle, action = .ok middle ∧ next middle = .ok final := by
  cases action with
  | error fault => simp [bind, Except.bind] at finished
  | ok middle => exact ⟨middle, rfl, finished⟩

theorem Exec.exists_bind_pure {first second : Type} {action : Exec first}
    {wrap : first → second} :
    (∃ final, (action >>= fun middle => Pure.pure (wrap middle)) = .ok final) ↔
      ∃ middle, action = .ok middle := by
  cases action with
  | error fault => simp [bind, Except.bind]
  | ok middle => simp [bind, Except.bind, Pure.pure, Except.pure]

def Exec.Avoids {first : Type} (bad : Fault → Prop) (action : Exec first) : Prop :=
  ∀ fault, bad fault → action ≠ .error fault

abbrev Exec.Finishes {first : Type} (action : Exec first) : Prop :=
  action.Avoids fun _ => True

namespace Exec.Avoids

variable {first second : Type} {bad : Fault → Prop}

theorem ok (final : first) : Exec.Avoids bad (.ok final) :=
  fun fault _ => by simp

theorem pure (final : first) : Exec.Avoids bad (Pure.pure final) := ok final

theorem bind {action : Exec first} {next : first → Exec second} (avoids : action.Avoids bad)
    (rest : ∀ middle, action = .ok middle → (next middle).Avoids bad) :
    Exec.Avoids bad (action >>= next) := by
  cases taken : action with
  | error fault =>
      intro other isBad same
      simp only [Bind.bind, Except.bind, Except.error.injEq] at same
      exact avoids fault (same ▸ isBad) taken
  | ok middle => exact rest middle taken

theorem ite {condition : Prop} [Decidable condition] {action other : Exec first}
    (isTrue : condition → action.Avoids bad) (isFalse : ¬condition → other.Avoids bad) :
    Exec.Avoids bad (if condition then action else other) := by
  by_cases holds : condition
  · rw [if_pos holds]
    exact isTrue holds
  · rw [if_neg holds]
    exact isFalse holds

theorem map {action : Exec first} {wrap : first → second} (avoids : action.Avoids bad) :
    Exec.Avoids bad (action.map wrap) := by
  cases taken : action with
  | error fault =>
      intro other isBad same
      simp only [Except.map, Except.error.injEq] at same
      exact avoids fault (same ▸ isBad) taken
  | ok middle => exact ok _

theorem foldlM {step : first → second → Exec first} {items : List second}
    (avoids : ∀ current, ∀ item ∈ items, (step current item).Avoids bad) (current : first) :
    Exec.Avoids bad (items.foldlM step current) := by
  induction items generalizing current with
  | nil => exact pure current
  | cons item rest ih =>
      rw [List.foldlM_cons]
      apply bind (avoids current item (by simp))
      intro next _
      exact ih (fun current later member => avoids current later (by simp [member])) next

theorem mono {worse : Fault → Prop} {action : Exec first} (avoids : action.Avoids worse)
    (weaker : ∀ fault, bad fault → worse fault) : action.Avoids bad :=
  fun fault isBad => avoids fault (weaker fault isBad)

end Exec.Avoids

theorem Exec.Finishes.exists_ok {first : Type} {action : Exec first} (finishes : action.Finishes) :
    ∃ final, action = .ok final := by
  cases taken : action with
  | error fault => exact absurd taken (finishes fault trivial)
  | ok final => exact ⟨final, rfl⟩

theorem Exec.finishes_iff {first : Type} {action : Exec first} :
    action.Finishes ↔ ∃ final, action = .ok final := by
  constructor
  · exact Finishes.exists_ok
  · rintro ⟨final, rfl⟩
    exact Avoids.ok final

abbrev Slots (value : Type) := Vector value CONTROLLER_MAX_INPUTS

namespace Slots

variable {value : Type}

def fetch (slots : Slots value) (index : Nat) : Exec value :=
  if bound : index < CONTROLLER_MAX_INPUTS then .ok slots[index] else .error (.slotIndex index)

def put (slots : Slots value) (index : Nat) (stored : value) : Exec (Slots value) :=
  if bound : index < CONTROLLER_MAX_INPUTS then .ok (slots.set index stored)
  else .error (.slotIndex index)

theorem fetch_of_lt {slots : Slots value} {index : Nat} (bound : index < CONTROLLER_MAX_INPUTS) :
    slots.fetch index = .ok slots[index] := by simp [fetch, bound]

theorem put_of_lt {slots : Slots value} {index : Nat} (bound : index < CONTROLLER_MAX_INPUTS)
    (stored : value) : slots.put index stored = .ok (slots.set index stored) := by
  simp [put, bound]

theorem fetch_of_ge {slots : Slots value} {index : Nat} (outside : ¬index < CONTROLLER_MAX_INPUTS) :
    slots.fetch index = .error (.slotIndex index) := by simp [fetch, outside]

theorem put_of_ge {slots : Slots value} {index : Nat} (outside : ¬index < CONTROLLER_MAX_INPUTS)
    (stored : value) : slots.put index stored = .error (.slotIndex index) := by
  simp [put, outside]

theorem fetch_avoids {bad : Fault → Prop} (slots : Slots value) {index : Nat}
    (harmless : CONTROLLER_MAX_INPUTS ≤ index → ¬bad (.slotIndex index)) :
    (slots.fetch index).Avoids bad := by
  by_cases bound : index < CONTROLLER_MAX_INPUTS
  · rw [fetch_of_lt bound]
    exact .ok _
  · rw [fetch_of_ge bound]
    intro fault isBad same
    simp only [Except.error.injEq] at same
    subst fault
    exact harmless (Nat.not_lt.mp bound) isBad

theorem put_avoids {bad : Fault → Prop} (slots : Slots value) {index : Nat}
    (harmless : CONTROLLER_MAX_INPUTS ≤ index → ¬bad (.slotIndex index)) (stored : value) :
    (slots.put index stored).Avoids bad := by
  by_cases bound : index < CONTROLLER_MAX_INPUTS
  · rw [put_of_lt bound]
    exact .ok _
  · rw [put_of_ge bound]
    intro fault isBad same
    simp only [Except.error.injEq] at same
    subst fault
    exact harmless (Nat.not_lt.mp bound) isBad

end Slots

inductive Output
  | write (pipe : Nat) (bytes : List UInt8)
  | controlTransfer (interface : Nat) (bmRequestType bmRequest : UInt8) (wValue wIndex : UInt16)
      (bytes : List UInt8)
  deriving DecidableEq, Repr

abbrev WriteResults := Nat → List UInt8 → ControllerResult

structure Parsed (state : Type) where
  status : ControllerResult
  rawData : RawInputData
  inputIdx : Nat
  state : state
  sent : List Output := []

def BaseController.writeIfPresent (base : BaseController) (pipe : Nat)
    (packets : List (List UInt8)) :
    List Output :=
  if pipe < base.outPipe.length then packets.map (.write pipe) else []

end SysCon
