import SysCon.ControllerSwitch.SwitchVirtualGamepadHandler

/-!
`SwitchHDLHandler`: virtual controllers made by `hiddbg`. The state keeps the
calls that were made, newest first, next to the handles.
-/

namespace SysCon

/-- What the system answers during one call: an attached device has a handle that is not zero. -/
structure HiddbgAnswers where
  attach : Except UInt32 { handle : UInt64 // handle ≠ 0 }
  setState : UInt32

inductive HiddbgCall
  | attachHdlsVirtualDevice (inputIdx : InputIdx) (succeeded : Bool)
  | detachHdlsVirtualDevice (inputIdx : InputIdx) (handle : UInt64)
  | setHdlsState (inputIdx : InputIdx) (handle : UInt64) (state : GamepadState)
  deriving DecidableEq, Repr

structure HdlPads where
  hdlHandle : InputIdx → UInt64 := fun _ => 0
  hdlState : InputIdx → GamepadState := fun _ => {}
  calls : List HiddbgCall := []

namespace SwitchHDLHandler

def isControllerAttached (pads : HdlPads) (inputIdx : InputIdx) : Bool :=
  pads.hdlHandle inputIdx ≠ 0

def reset (pads : HdlPads) (inputIdx : InputIdx) : HdlPads :=
  { pads with
    hdlHandle := Function.update pads.hdlHandle inputIdx 0
    hdlState := Function.update pads.hdlState inputIdx {} }

def resetController (pads : HdlPads) (inputIdx : Nat) : Exec HdlPads :=
  if bound : inputIdx < CONTROLLER_MAX_INPUTS then .ok (reset pads ⟨inputIdx, bound⟩)
  else .error (.slotIndex inputIdx)

/-- `Initialize`, behind that of the controller. The inputs that the driver does not count keep
what was in their memory. -/
def initializePads (controller : Controller) (memory : HdlPads) : Exec HdlPads :=
  (List.range controller.driver.getInputCount).foldlM resetController memory

def attachController (given : HiddbgAnswers) (pads : HdlPads) (inputIdx : InputIdx) : HdlPads :=
  if isControllerAttached pads inputIdx then pads
  else match given.attach with
    | .error _ =>
        { pads with calls := .attachHdlsVirtualDevice inputIdx false :: pads.calls }
    | .ok handle =>
        { pads with
          hdlHandle := Function.update pads.hdlHandle inputIdx handle.val
          calls := .attachHdlsVirtualDevice inputIdx true :: pads.calls }

def detachController (pads : HdlPads) (inputIdx : InputIdx) : HdlPads :=
  if !isControllerAttached pads inputIdx then pads
  else
    { pads with
      hdlHandle := Function.update pads.hdlHandle inputIdx 0
      calls := .detachHdlsVirtualDevice inputIdx (pads.hdlHandle inputIdx) :: pads.calls }

def updateControllerState (given : HiddbgAnswers) (pads : HdlPads) (state : GamepadState)
    (inputIdx : InputIdx) : Result × HdlPads :=
  let pads := { pads with hdlState := Function.update pads.hdlState inputIdx state }
  if isControllerAttached pads inputIdx then
    let pads :=
      { pads with calls := .setHdlsState inputIdx (pads.hdlHandle inputIdx) state :: pads.calls }
    if given.setState ≠ 0 then (.system given.setState, detachController pads inputIdx)
    else (.system 0, pads)
  else (.system 0, pads)

def backend : GamepadBackend HdlPads HiddbgAnswers where
  isControllerAttached := isControllerAttached
  attachController := attachController
  detachController := detachController
  updateControllerState given pads state inputIdx :=
    .ok (updateControllerState given pads state inputIdx)

end SwitchHDLHandler

end SysCon
