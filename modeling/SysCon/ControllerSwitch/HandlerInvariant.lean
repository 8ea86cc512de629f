import SysCon.ControllerSwitch.SwitchHDLHandler
import SysCon.ControllerSwitch.SwitchMITMHandler
import SysCon.Library.Runs

/-!
What every call of `UpdateInput` keeps. The facts about connection flags and
attached inputs need four laws of the backend only; the account of the calls
made to `hiddbg` is about that backend.
-/

namespace SysCon

open Library

structure GamepadBackend.Lawful {pads answers : Type} (backend : GamepadBackend pads answers) :
    Prop where
  attach_other : ∀ given current (inputIdx slot : InputIdx), slot ≠ inputIdx →
    backend.isControllerAttached (backend.attachController given current inputIdx) slot =
      backend.isControllerAttached current slot
  detach_self : ∀ current (inputIdx : InputIdx),
    backend.isControllerAttached (backend.detachController current inputIdx) inputIdx = false
  detach_other : ∀ current (inputIdx slot : InputIdx), slot ≠ inputIdx →
    backend.isControllerAttached (backend.detachController current inputIdx) slot =
      backend.isControllerAttached current slot
  update_attached : ∀ given current state (inputIdx slot : InputIdx) result after,
    backend.updateControllerState given current state inputIdx = .ok (result, after) →
      backend.isControllerAttached after slot →
        backend.isControllerAttached current slot
  update_other : ∀ given current state (inputIdx slot : InputIdx) result after,
    backend.updateControllerState given current state inputIdx = .ok (result, after) →
      slot ≠ inputIdx →
        backend.isControllerAttached after slot = backend.isControllerAttached current slot

namespace SwitchVirtualGamepadHandler

section Generic

variable {pads answers : Type} {backend : GamepadBackend pads answers}
  {handler after : SwitchVirtualGamepadHandler pads} {given : answers} {read : InputRead}
  {result : Result}

def AttachedConnected (backend : GamepadBackend pads answers)
    (handler : SwitchVirtualGamepadHandler pads) : Prop :=
  ∀ slot, backend.isControllerAttached handler.pads slot →
    (handler.controllerData slot).isConnected = true

/-- The same for one input. -/
def ConnectedAt (backend : GamepadBackend pads answers)
    (handler : SwitchVirtualGamepadHandler pads) (slot : InputIdx) : Prop :=
  backend.isControllerAttached handler.pads slot →
    (handler.controllerData slot).isConnected = true

theorem handleInput_cases (step : handleInput backend given handler read = .ok (result, after)) :
    let tracked := trackConnection backend handler read.inputIdx read.isControllerConnected
    let state := gamepadState read.normal
    let ready := reattach backend given tracked read.inputIdx state.buttons
    (((tracked.controllerData read.inputIdx).isConnected = false ∨ read.status ≠ .success) ∧
      result = .controller read.status ∧ after = tracked) ∨
    ((tracked.controllerData read.inputIdx).isConnected = true ∧ read.status = .success ∧
      ∃ updated,
        backend.updateControllerState given ready.pads state read.inputIdx = .ok (result, updated) ∧
        after = { ready with pads := updated }) := by
  intro tracked state ready
  unfold handleInput at step
  simp only at step
  split at step
  · rename_i disconnected
    simp only [pure, Except.pure, Except.ok.injEq, Prod.mk.injEq] at step
    exact Or.inl ⟨Or.inl disconnected, step.1.symm, step.2.symm⟩
  · rename_i connected
    split at step
    · rename_i failed
      simp only [pure, Except.pure, Except.ok.injEq, Prod.mk.injEq] at step
      exact Or.inl ⟨Or.inr failed, step.1.symm, step.2.symm⟩
    · rename_i succeeded
      refine Or.inr ⟨by simpa using connected, by simpa using succeeded, ?_⟩
      cases sent : backend.updateControllerState given ready.pads state read.inputIdx with
      | error fault =>
          change (backend.updateControllerState given ready.pads state read.inputIdx >>= _) = _
            at step
          rw [sent] at step
          simp [bind, Except.bind] at step
      | ok answer =>
          change (backend.updateControllerState given ready.pads state read.inputIdx >>= _) = _
            at step
          rw [sent] at step
          simp only [bind, Except.bind, pure, Except.pure, Except.ok.injEq, Prod.mk.injEq] at step
          obtain ⟨sameResult, sameHandler⟩ := step
          exact ⟨answer.2, by rw [← sameResult], sameHandler.symm⟩

theorem trackConnection_cases (backend : GamepadBackend pads answers)
    (handler : SwitchVirtualGamepadHandler pads) (connected : Bool) (inputIdx : InputIdx) :
    ((handler.controllerData inputIdx).isConnected = connected ∧
      trackConnection backend handler inputIdx connected = handler) ∨
    (connected = true ∧ trackConnection backend handler inputIdx connected =
      { handler with
        controllerData := Function.update handler.controllerData inputIdx
          { isConnected := true, reattachController := true } }) ∨
    (connected = false ∧ trackConnection backend handler inputIdx connected =
      { controllerData := Function.update handler.controllerData inputIdx
          { handler.controllerData inputIdx with isConnected := false }
        pads := backend.detachController handler.pads inputIdx }) := by
  by_cases same : (handler.controllerData inputIdx).isConnected = connected
  · exact Or.inl ⟨same, by simp [trackConnection, same]⟩
  · cases connected with
    | true => exact Or.inr (Or.inl ⟨rfl, by simp [trackConnection, same]⟩)
    | false => exact Or.inr (Or.inr ⟨rfl, by simp [trackConnection, same]⟩)

theorem trackConnection_isConnected (connected : Bool) (inputIdx : InputIdx) :
    ((trackConnection backend handler inputIdx connected).controllerData inputIdx).isConnected =
      connected := by
  rcases trackConnection_cases backend handler connected inputIdx with
    ⟨same, unchanged⟩ | ⟨isTrue, changed⟩ | ⟨isFalse, changed⟩
  · rw [unchanged, same]
  · rw [changed]
    simp only [Function.update_self, isTrue]
  · rw [changed]
    simp only [Function.update_self, isFalse]

theorem trackConnection_other (connected : Bool) {inputIdx slot : InputIdx}
    (other : slot ≠ inputIdx) :
    (trackConnection backend handler inputIdx connected).controllerData slot =
      handler.controllerData slot := by
  rcases trackConnection_cases backend handler connected inputIdx with
    ⟨_, unchanged⟩ | ⟨_, changed⟩ | ⟨_, changed⟩
  · rw [unchanged]
  · simp only [changed, Function.update_of_ne other]
  · simp only [changed, Function.update_of_ne other]

theorem trackConnection_connectedAt (lawful : backend.Lawful) (connected : Bool)
    (inputIdx : InputIdx) {slot : InputIdx} (invariant : ConnectedAt backend handler slot) :
    ConnectedAt backend (trackConnection backend handler inputIdx connected) slot := by
  intro attached
  rcases trackConnection_cases backend handler connected inputIdx with
    ⟨_, unchanged⟩ | ⟨_, changed⟩ | ⟨_, changed⟩
  · rw [unchanged] at attached ⊢
    exact invariant attached
  · rw [changed] at attached ⊢
    by_cases same : slot = inputIdx
    · simp only [same, Function.update_self]
    · simp only [Function.update_of_ne same]
      exact invariant attached
  · rw [changed] at attached ⊢
    by_cases same : slot = inputIdx
    · subst slot
      simp [lawful.detach_self] at attached
    · simp only [lawful.detach_other _ _ _ same] at attached
      simp only [Function.update_of_ne same]
      exact invariant attached

theorem trackConnection_other_attached (lawful : backend.Lawful) (connected : Bool)
    {inputIdx slot : InputIdx} (other : slot ≠ inputIdx) :
    backend.isControllerAttached
        (trackConnection backend handler inputIdx connected).pads slot =
      backend.isControllerAttached handler.pads slot := by
  rcases trackConnection_cases backend handler connected inputIdx with
    ⟨_, unchanged⟩ | ⟨_, changed⟩ | ⟨_, changed⟩
  · rw [unchanged]
  · rw [changed]
  · simp only [changed, lawful.detach_other _ _ _ other]

@[simp] theorem reattach_isConnected (buttons : UInt64) (inputIdx slot : InputIdx) :
    ((reattach backend given handler inputIdx buttons).controllerData slot).isConnected =
      (handler.controllerData slot).isConnected := by
  by_cases same : slot = inputIdx
  · subst slot
    simp [reattach]
  · simp [reattach, Function.update_of_ne same]

theorem reattach_other (buttons : UInt64) {inputIdx slot : InputIdx} (other : slot ≠ inputIdx) :
    (reattach backend given handler inputIdx buttons).controllerData slot =
      handler.controllerData slot := by
  simp [reattach, Function.update_of_ne other]

theorem reattach_pads (backend : GamepadBackend pads answers) (given : answers)
    (handler : SwitchVirtualGamepadHandler pads) (buttons : UInt64) (inputIdx : InputIdx) :
    (reattach backend given handler inputIdx buttons).pads =
        backend.attachController given handler.pads inputIdx ∨
      (reattach backend given handler inputIdx buttons).pads = handler.pads := by
  simp only [reattach]
  split
  · split
    · exact Or.inl rfl
    · exact Or.inr rfl
  · split
    · exact Or.inl rfl
    · exact Or.inr rfl

theorem reattach_other_attached (lawful : backend.Lawful) (buttons : UInt64)
    {inputIdx slot : InputIdx} (other : slot ≠ inputIdx) :
    backend.isControllerAttached (reattach backend given handler inputIdx buttons).pads slot =
      backend.isControllerAttached handler.pads slot := by
  rcases reattach_pads backend given handler buttons inputIdx with attached | unchanged
  · rw [attached, lawful.attach_other _ _ _ _ other]
  · rw [unchanged]

/-! The three facts about a whole call. -/

theorem handleInput_isConnected
    (step : handleInput backend given handler read = .ok (result, after)) :
    (after.controllerData read.inputIdx).isConnected = read.isControllerConnected := by
  rcases handleInput_cases step with ⟨_, _, same⟩ | ⟨_, _, updated, _, same⟩
  · rw [same, trackConnection_isConnected]
  · rw [same]
    simp only [reattach_isConnected, trackConnection_isConnected]

theorem handleInput_other (step : handleInput backend given handler read = .ok (result, after))
    {slot : InputIdx} (other : slot ≠ read.inputIdx) :
    after.controllerData slot = handler.controllerData slot := by
  rcases handleInput_cases step with ⟨_, _, same⟩ | ⟨_, _, updated, _, same⟩
  · rw [same, trackConnection_other _ other]
  · rw [same]
    simp only [reattach_other _ other, trackConnection_other _ other]

theorem handleInput_other_attached (lawful : backend.Lawful)
    (step : handleInput backend given handler read = .ok (result, after))
    {slot : InputIdx} (other : slot ≠ read.inputIdx) :
    backend.isControllerAttached after.pads slot =
      backend.isControllerAttached handler.pads slot := by
  rcases handleInput_cases step with ⟨_, _, same⟩ | ⟨_, _, updated, sent, same⟩
  · rw [same, trackConnection_other_attached lawful _ other]
  · rw [same]
    simp only [lawful.update_other _ _ _ _ _ _ _ sent other,
      reattach_other_attached lawful _ other, trackConnection_other_attached lawful _ other]

theorem handleInput_connectedAt (lawful : backend.Lawful)
    (step : handleInput backend given handler read = .ok (result, after)) {slot : InputIdx}
    (invariant : ConnectedAt backend handler slot) : ConnectedAt backend after slot := by
  have tracked : ConnectedAt backend (trackConnection backend handler read.inputIdx
      read.isControllerConnected) slot := trackConnection_connectedAt lawful _ _ invariant
  rcases handleInput_cases step with ⟨_, _, same⟩ | ⟨connected, _, updated, sent, same⟩
  · rw [same]
    exact tracked
  · intro attached
    rw [same] at attached ⊢
    simp only [reattach_isConnected]
    by_cases handled : slot = read.inputIdx
    · subst slot
      exact connected
    · have before := lawful.update_attached _ _ _ _ _ _ _ sent attached
      rw [reattach_other_attached lawful _ handled] at before
      exact tracked before

theorem handleInput_attached (lawful : backend.Lawful)
    (step : handleInput backend given handler read = .ok (result, after))
    (invariant : AttachedConnected backend handler) : AttachedConnected backend after :=
  fun slot => handleInput_connectedAt lawful step (invariant slot)

theorem updateInput_handleInput {around : Surroundings} {controller next : Controller}
    (step : updateInput backend given around controller handler = .ok (result, next, after)) :
    ∃ (read : ReadInput) (normal : NormalizedButtonData) (inputIdx : InputIdx) (connected : Bool),
      controller.readInput around {} 0 = .ok read ∧ read.controller = next ∧
      read.inputIdx = inputIdx ∧
      next.driver.isControllerConnected inputIdx = .ok connected ∧
      handleInput backend given handler ⟨read.status, inputIdx, connected, normal⟩ =
        .ok (result, after) := by
  unfold updateInput at step
  obtain ⟨read, readOk, step⟩ := Exec.bind_eq_ok step
  obtain ⟨normal, _, step⟩ := Exec.bind_eq_ok step
  split at step
  · rename_i bound
    obtain ⟨connected, connectedOk, step⟩ := Exec.bind_eq_ok step
    obtain ⟨⟨result', handler'⟩, handled, step⟩ := Exec.bind_eq_ok step
    simp only [pure, Except.pure, Except.ok.injEq, Prod.mk.injEq] at step
    obtain ⟨rfl, rfl, rfl⟩ := step
    exact ⟨read, normal, ⟨read.inputIdx, bound⟩, connected, readOk, rfl, rfl, connectedOk, handled⟩
  · simp at step

end Generic

end SwitchVirtualGamepadHandler

namespace SwitchMITMHandler

theorem lawful : backend.Lawful where
  attach_other given current inputIdx slot other := by
    simp only [backend, attachController]
    split
    · rfl
    · simp [isControllerAttached, Function.update_of_ne other]
  detach_self current inputIdx := by
    simp only [backend, detachController]
    split
    · rename_i detached
      simpa using detached
    · simp [isControllerAttached]
  detach_other current inputIdx slot other := by
    simp only [backend, detachController]
    split
    · rfl
    · simp [isControllerAttached, Function.update_of_ne other]
  update_attached given current state inputIdx slot result after sent attached := by
    simp only [backend, updateControllerState] at sent
    split at sent
    · simp at sent
    · simp only [Except.ok.injEq, Prod.mk.injEq] at sent
      rw [← sent.2] at attached
      exact attached
  update_other given current state inputIdx slot result after sent other := by
    simp only [backend, updateControllerState] at sent
    split at sent
    · simp at sent
    · simp only [Except.ok.injEq, Prod.mk.injEq] at sent
      rw [sent.2]

end SwitchMITMHandler

namespace SwitchHDLHandler

/-! How many virtual devices of an input were made and given back. -/

def attachCount (calls : List HiddbgCall) (slot : InputIdx) : Nat :=
  calls.count (.attachHdlsVirtualDevice slot true)

def isDetach (slot : InputIdx) : HiddbgCall → Bool
  | .detachHdlsVirtualDevice inputIdx _ => inputIdx = slot
  | _ => false

def detachCount (calls : List HiddbgCall) (slot : InputIdx) : Nat := calls.countP (isDetach slot)

/-- As many devices were made as were given back, and one more for an attached input. -/
def Balanced (pads : HdlPads) : Prop :=
  ∀ slot, attachCount pads.calls slot =
    detachCount pads.calls slot + (isControllerAttached pads slot).toNat

-- What an operation on one input leaves alone.
def SameSlot (before after : HdlPads) (slot : InputIdx) : Prop :=
  after.hdlHandle slot = before.hdlHandle slot ∧ after.hdlState slot = before.hdlState slot

theorem attachController_balanced {pads : HdlPads} (given : HiddbgAnswers) (inputIdx : InputIdx)
    (balanced : Balanced pads) : Balanced (attachController given pads inputIdx) := by
  intro slot
  have before := balanced slot
  unfold attachController
  split
  · exact before
  · rename_i detached
    split
    · simpa [attachCount, detachCount, isDetach, isControllerAttached] using before
    · rename_i handle _
      by_cases same : slot = inputIdx
      · subst slot
        simp only [Bool.not_eq_true] at detached
        rw [detached] at before
        have nonzero := handle.property
        simp_all [attachCount, detachCount, isDetach, isControllerAttached]
      · simpa [attachCount, detachCount, isDetach, isControllerAttached,
          Function.update_of_ne same, Ne.symm same] using before

theorem detachController_balanced {pads : HdlPads} (inputIdx : InputIdx)
    (balanced : Balanced pads) : Balanced (detachController pads inputIdx) := by
  intro slot
  have before := balanced slot
  unfold detachController
  split
  · exact before
  · rename_i attached
    by_cases same : slot = inputIdx
    · subst slot
      simp only [Bool.not_eq_true, Bool.not_eq_false'] at attached
      rw [attached] at before
      simpa [attachCount, detachCount, isDetach, isControllerAttached] using before
    · simpa [attachCount, detachCount, isDetach, isControllerAttached,
        Function.update_of_ne same, Ne.symm same] using before

theorem updateControllerState_balanced {pads : HdlPads} (given : HiddbgAnswers)
    (state : GamepadState) (inputIdx : InputIdx) (balanced : Balanced pads) :
    Balanced (updateControllerState given pads state inputIdx).2 := by
  have stored : Balanced
      { pads with hdlState := Function.update pads.hdlState inputIdx state } := balanced
  have sent : Balanced
      { pads with
        hdlState := Function.update pads.hdlState inputIdx state
        calls := .setHdlsState inputIdx (pads.hdlHandle inputIdx) state :: pads.calls } := by
    intro slot
    simpa [attachCount, detachCount, isDetach, isControllerAttached] using balanced slot
  simp only [updateControllerState]
  split
  · split
    · exact detachController_balanced inputIdx sent
    · exact sent
  · exact stored

theorem attachController_other (pads : HdlPads) (given : HiddbgAnswers)
    {inputIdx slot : InputIdx} (other : slot ≠ inputIdx) :
    SameSlot pads (attachController given pads inputIdx) slot := by
  unfold attachController
  split
  · exact ⟨rfl, rfl⟩
  · split
    · exact ⟨rfl, rfl⟩
    · exact ⟨Function.update_of_ne other _ _, rfl⟩

theorem detachController_other (pads : HdlPads) {inputIdx slot : InputIdx}
    (other : slot ≠ inputIdx) : SameSlot pads (detachController pads inputIdx) slot := by
  unfold detachController
  split
  · exact ⟨rfl, rfl⟩
  · exact ⟨Function.update_of_ne other _ _, rfl⟩

theorem updateControllerState_other (pads : HdlPads) (given : HiddbgAnswers)
    (state : GamepadState) {inputIdx slot : InputIdx} (other : slot ≠ inputIdx) :
    SameSlot pads (updateControllerState given pads state inputIdx).2 slot := by
  simp only [updateControllerState]
  split
  · split
    · have detached := detachController_other
        { pads with
          hdlState := Function.update pads.hdlState inputIdx state
          calls := .setHdlsState inputIdx (pads.hdlHandle inputIdx) state :: pads.calls } other
      exact ⟨detached.1, detached.2.trans (Function.update_of_ne other _ _)⟩
    · exact ⟨rfl, Function.update_of_ne other _ _⟩
  · exact ⟨rfl, Function.update_of_ne other _ _⟩

theorem updateControllerState_attached {pads : HdlPads} (given : HiddbgAnswers)
    (state : GamepadState) {inputIdx slot : InputIdx}
    (attached : isControllerAttached (updateControllerState given pads state inputIdx).2 slot) :
    isControllerAttached pads slot := by
  simp only [updateControllerState] at attached
  split at attached
  · rename_i attachedBefore
    split at attached
    · by_cases same : slot = inputIdx
      · subst slot
        exact attachedBefore
      · have detached := detachController_other
          { pads with
            hdlState := Function.update pads.hdlState inputIdx state
            calls := .setHdlsState inputIdx (pads.hdlHandle inputIdx) state :: pads.calls } same
        simpa [isControllerAttached, detached.1] using attached
    · exact attached
  · exact attached

theorem isControllerAttached_of_same {before after : HdlPads} {slot : InputIdx}
    (same : SameSlot before after slot) :
    isControllerAttached after slot = isControllerAttached before slot := by
  simp only [isControllerAttached, same.1]

theorem update_eq_ok {given : HiddbgAnswers} {pads after : HdlPads} {state : GamepadState}
    {inputIdx : InputIdx} {result : Result} :
    backend.updateControllerState given pads state inputIdx = .ok (result, after) ↔
      updateControllerState given pads state inputIdx = (result, after) := by
  simp only [backend, Except.ok.injEq]

theorem lawful : backend.Lawful where
  attach_other given current inputIdx slot other :=
    isControllerAttached_of_same (attachController_other current given other)
  detach_self current inputIdx := by
    simp only [backend, detachController]
    split
    · rename_i detached
      simpa using detached
    · simp [isControllerAttached]
  detach_other current inputIdx slot other :=
    isControllerAttached_of_same (detachController_other current other)
  update_attached given current state inputIdx slot result after sent attached := by
    have kept :
        isControllerAttached (updateControllerState given current state inputIdx).2 slot := by
      rw [update_eq_ok.mp sent]
      exact attached
    exact updateControllerState_attached given state kept
  update_other given current state inputIdx slot result after sent other := by
    have same := updateControllerState_other current given state other
    rw [update_eq_ok.mp sent] at same
    exact isControllerAttached_of_same same

open SwitchVirtualGamepadHandler

/-! One call of `UpdateInput`, then a run of calls. -/

structure HandledCall where
  given : HiddbgAnswers
  read : InputRead

def updateStep (before : SwitchVirtualGamepadHandler HdlPads) (call : HandledCall)
    (after : SwitchVirtualGamepadHandler HdlPads) : Prop :=
  ∃ result, handleInput backend call.given before call.read = .ok (result, after)

variable {before after : SwitchVirtualGamepadHandler HdlPads} {given : HiddbgAnswers}
  {read : InputRead} {result : Result}

theorem handleInput_ok (given : HiddbgAnswers) (before : SwitchVirtualGamepadHandler HdlPads)
    (read : InputRead) :
    ∃ result after, handleInput backend given before read = .ok (result, after) := by
  simp only [handleInput]
  split
  · exact ⟨_, _, rfl⟩
  · split
    · exact ⟨_, _, rfl⟩
    · exact ⟨_, _, rfl⟩

theorem trackConnection_balanced (connected : Bool) (inputIdx : InputIdx)
    (balanced : Balanced before.pads) :
    Balanced (trackConnection backend before inputIdx connected).pads := by
  rcases trackConnection_cases backend before connected inputIdx with
    ⟨_, unchanged⟩ | ⟨_, changed⟩ | ⟨_, changed⟩
  · rw [unchanged]
    exact balanced
  · rw [changed]
    exact balanced
  · rw [changed]
    exact detachController_balanced inputIdx balanced

theorem trackConnection_sameSlot (before : SwitchVirtualGamepadHandler HdlPads) (connected : Bool)
    {inputIdx slot : InputIdx}
    (other : slot ≠ inputIdx) :
    SameSlot before.pads (trackConnection backend before inputIdx connected).pads slot := by
  rcases trackConnection_cases backend before connected inputIdx with
    ⟨_, unchanged⟩ | ⟨_, changed⟩ | ⟨_, changed⟩
  · rw [unchanged]
    exact ⟨rfl, rfl⟩
  · rw [changed]
    exact ⟨rfl, rfl⟩
  · rw [changed]
    exact detachController_other _ other

theorem reattach_balanced (given : HiddbgAnswers) (buttons : UInt64) (inputIdx : InputIdx)
    (balanced : Balanced before.pads) :
    Balanced (reattach backend given before inputIdx buttons).pads := by
  rcases reattach_pads backend given before buttons inputIdx with attached | unchanged
  · rw [attached]
    exact attachController_balanced given inputIdx balanced
  · rw [unchanged]
    exact balanced

theorem reattach_sameSlot (before : SwitchVirtualGamepadHandler HdlPads)
    (given : HiddbgAnswers) (buttons : UInt64) {inputIdx slot : InputIdx}
    (other : slot ≠ inputIdx) :
    SameSlot before.pads (reattach backend given before inputIdx buttons).pads slot := by
  rcases reattach_pads backend given before buttons inputIdx with attached | unchanged
  · rw [attached]
    exact attachController_other _ given other
  · rw [unchanged]
    exact ⟨rfl, rfl⟩

theorem handleInput_balanced (step : handleInput backend given before read = .ok (result, after))
    (balanced : Balanced before.pads) : Balanced after.pads := by
  have tracked := trackConnection_balanced read.isControllerConnected read.inputIdx balanced
  rcases handleInput_cases step with ⟨_, _, same⟩ | ⟨_, _, updated, sent, same⟩
  · rw [same]
    exact tracked
  · have kept := updateControllerState_balanced given (gamepadState read.normal) read.inputIdx
      (reattach_balanced given (gamepadState read.normal).buttons read.inputIdx tracked)
    rw [update_eq_ok.mp sent] at kept
    rw [same]
    exact kept

theorem handleInput_sameSlot (step : handleInput backend given before read = .ok (result, after))
    {slot : InputIdx} (other : slot ≠ read.inputIdx) : SameSlot before.pads after.pads slot := by
  have unplugged := trackConnection_sameSlot before read.isControllerConnected other
  rcases handleInput_cases step with ⟨_, _, same⟩ | ⟨_, _, updated, sent, same⟩
  · rw [same]
    exact unplugged
  · let tracked := trackConnection backend before read.inputIdx read.isControllerConnected
    let state := gamepadState read.normal
    have ready := reattach_sameSlot tracked given state.buttons other
    have kept := updateControllerState_other
      (reattach backend given tracked read.inputIdx state.buttons).pads given state other
    rw [update_eq_ok.mp sent] at kept
    rw [same]
    exact ⟨(kept.1.trans ready.1).trans unplugged.1, (kept.2.trans ready.2).trans unplugged.2⟩

structure SlotInvariant (handler : SwitchVirtualGamepadHandler HdlPads) : Prop where
  connected : AttachedConnected backend handler
  balanced : Balanced handler.pads

theorem updateStep_invariant {call : HandledCall} (invariant : SlotInvariant before)
    (step : updateStep before call after) : SlotInvariant after := by
  obtain ⟨result, step⟩ := step
  exact ⟨handleInput_attached lawful step invariant.connected,
    handleInput_balanced step invariant.balanced⟩

theorem slotInvariant_of_detached {handler : SwitchVirtualGamepadHandler HdlPads}
    (detached : ∀ slot, isControllerAttached handler.pads slot = false)
    (uncalled : handler.pads.calls = []) : SlotInvariant handler := by
  constructor
  · intro slot attached
    have free := detached slot
    simp only [backend] at attached
    simp [free] at attached
  · intro slot
    simp [uncalled, detached slot, attachCount, detachCount]

theorem update_slots {initial before : SwitchVirtualGamepadHandler HdlPads}
    {calls : List HandledCall}
    (fresh : ∀ slot, isControllerAttached initial.pads slot = false ∧
      (initial.controllerData slot).isConnected = false)
    (uncalled : initial.pads.calls = [])
    (run : Run updateStep initial calls before) (call : HandledCall) :
    ∃ result after, handleInput backend call.given before call.read = .ok (result, after) ∧
      (after.controllerData call.read.inputIdx).isConnected = call.read.isControllerConnected ∧
      (∀ slot, isControllerAttached after.pads slot →
        (after.controllerData slot).isConnected = true) ∧
      (∀ slot, (attachCount after.pads.calls slot : Int) - detachCount after.pads.calls slot =
        if isControllerAttached after.pads slot then 1 else 0) ∧
      (∀ slot, slot ≠ call.read.inputIdx →
        after.controllerData slot = before.controllerData slot ∧
        SameSlot before.pads after.pads slot) := by
  have start := slotInvariant_of_detached (fun slot => (fresh slot).1) uncalled
  have reached := run.invariant start (fun _ _ _ => updateStep_invariant)
  obtain ⟨result, after, step⟩ := handleInput_ok call.given before call.read
  have kept := updateStep_invariant reached ⟨result, step⟩
  refine ⟨result, after, step, handleInput_isConnected step, kept.connected, ?_, ?_⟩
  · intro slot
    have counts := kept.balanced slot
    split
    · rename_i attached
      simp only [attached, Bool.toNat_true] at counts
      omega
    · rename_i detached
      simp only [Bool.not_eq_true] at detached
      simp only [detached, Bool.toNat_false] at counts
      omega
  · intro slot other
    exact ⟨handleInput_other step other, handleInput_sameSlot step other⟩

/-! A controller is plugged in at input 2 and attached, then unplugged while the read fails. -/

def plugged : HandledCall where
  given := ⟨.ok ⟨7, by decide⟩, 0⟩
  read := ⟨.success, 2, true, {}⟩

def unplugged : HandledCall where
  given := ⟨.error 1, 1⟩
  read := ⟨.nothingTodo, 2, false, {}⟩

theorem update_slots_unplugged :
    ∃ result before after,
      updateStep { pads := {} } plugged before ∧ isControllerAttached before.pads 2 = true ∧
      handleInput backend unplugged.given before unplugged.read = .ok (result, after) ∧
      (after.controllerData 2).isConnected = false ∧
      (attachCount after.pads.calls 2 : Int) - detachCount after.pads.calls 2 =
        if isControllerAttached after.pads 2 then 1 else 0 := by
  obtain ⟨_, before, step⟩ := handleInput_ok plugged.given { pads := {} } plugged.read
  have attached : isControllerAttached before.pads 2 = true := by
    simp only [handleInput, plugged] at step
    cases step
    decide
  have run : Run updateStep { pads := {} } [plugged] before :=
    Run.cons ⟨_, step⟩ (Run.nil before)
  obtain ⟨result, after, handled, connected, _, counts, _⟩ :=
    update_slots (fun slot => ⟨by simp [isControllerAttached], rfl⟩) rfl run unplugged
  exact ⟨result, before, after, ⟨_, step⟩, attached, handled, connected, counts 2⟩

end SwitchHDLHandler

end SysCon
