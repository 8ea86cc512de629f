import SysCon.ControllerSwitch.SwitchVirtualGamepadHandler

/-!
`SwitchMITMHandler`: virtual controllers placed in the shared memory of `hid`.
The shared memory manager hands out a player, or none when all are taken.
-/

namespace SysCon

structure MitmAnswers where
  attach : Option Nat
  update : UInt32

structure MitmPads where
  controllerList : InputIdx → Option Nat := fun _ => none

namespace SwitchMITMHandler

def isControllerAttached (pads : MitmPads) (inputIdx : InputIdx) : Bool :=
  (pads.controllerList inputIdx).isSome

def attachController (given : MitmAnswers) (pads : MitmPads) (inputIdx : InputIdx) : MitmPads :=
  if isControllerAttached pads inputIdx then pads
  else ⟨Function.update pads.controllerList inputIdx given.attach⟩

def detachController (pads : MitmPads) (inputIdx : InputIdx) : MitmPads :=
  if !isControllerAttached pads inputIdx then pads
  else ⟨Function.update pads.controllerList inputIdx none⟩

-- `Update` is called on the controller of the input without looking whether there is one.
def updateControllerState (given : MitmAnswers) (pads : MitmPads) (_state : GamepadState)
    (inputIdx : InputIdx) : Exec (Result × MitmPads) :=
  match pads.controllerList inputIdx with
  | none => .error (.nullController inputIdx)
  | some _ => .ok (.system given.update, pads)

def backend : GamepadBackend MitmPads MitmAnswers where
  isControllerAttached := isControllerAttached
  attachController := attachController
  detachController := detachController
  updateControllerState := updateControllerState

end SwitchMITMHandler

end SysCon
