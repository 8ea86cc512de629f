import SysCon.ControllerLib.Controllers
import Mathlib.Algebra.Order.Floor.Defs

/-!
`SwitchVirtualGamepadHandler`: the part of a handler that is the same for both
ways of making virtual controllers. A backend is what a derived class provides;
the functions that follow are the methods of the base class over it. The sticks
are computed in exact rational numbers, where the code has 32-bit floats.
-/

namespace SysCon

/-- An input of a handler, once an index was seen to lie inside `m_controllerData`. -/
abbrev InputIdx := Fin CONTROLLER_MAX_INPUTS

/-- A `Result`: a code of the controller library or of the system. -/
inductive Result
  | controller (status : ControllerResult)
  | system (code : UInt32)
  deriving DecidableEq, Repr

def Result.failed : Result → Bool
  | .controller status => status ≠ .success
  | .system code => code ≠ 0

structure GamepadState where
  buttons : UInt64 := 0
  analogStickL : Int × Int := (0, 0)
  analogStickR : Int × Int := (0, 0)
  deriving DecidableEq, Repr

/-- The virtual methods of a handler, over the state `pads` of a derived class. `answers` is what
the system answers to the requests of one call. -/
structure GamepadBackend (pads answers : Type) where
  isControllerAttached : pads → InputIdx → Bool
  attachController : answers → pads → InputIdx → pads
  detachController : pads → InputIdx → pads
  updateControllerState : answers → pads → GamepadState → InputIdx → Exec (Result × pads)

structure SwitchVirtualGamepadHandlerData where
  reattachController : Bool := false
  isConnected : Bool := false
  deriving DecidableEq, Repr

structure SwitchVirtualGamepadHandler (pads : Type) where
  controllerData : InputIdx → SwitchVirtualGamepadHandlerData := fun _ => {}
  pads : pads

namespace SwitchVirtualGamepadHandler

def JOYSTICK_MAX : ℚ := 32767
def JOYSTICK_MIN : ℚ := -32767

def BIT (position : UInt64) : UInt64 := 1 <<< position

def HidNpadButton_L : UInt64 := BIT 6
def HidNpadButton_R : UInt64 := BIT 7

def npadButtonList : List (ControllerButton × UInt64) :=
  [(.x, BIT 2), (.a, BIT 0), (.b, BIT 1), (.y, BIT 3), (.lstickClick, BIT 4),
   (.rstickClick, BIT 5), (.l, HidNpadButton_L), (.r, HidNpadButton_R), (.zl, BIT 8),
   (.zr, BIT 9), (.minus, BIT 11), (.plus, BIT 10), (.dpadUp, BIT 13),
   (.dpadRight, BIT 14), (.dpadDown, BIT 15), (.dpadLeft, BIT 12), (.capture, BIT 19),
   (.home, BIT 18)]

def npadButtons (data : NormalizedButtonData) : UInt64 :=
  npadButtonList.foldl
    (fun buttons (button, mask) => if data.buttons button then buttons ||| mask else buttons) 0

-- The conversion of a `float` to an integer drops the fraction.
def truncate (value : ℚ) : Int := value.num.tdiv value.den

def convertAxisToSwitchAxis (x y : ℚ) : Int × Int :=
  let newRange := JOYSTICK_MAX - JOYSTICK_MIN
  (truncate ((x + 1) * newRange / 2 + JOYSTICK_MIN),
    truncate (-((y + 1) * newRange / 2 + JOYSTICK_MIN)))

def gamepadState (data : NormalizedButtonData) : GamepadState where
  buttons := npadButtons data
  analogStickL := convertAxisToSwitchAxis (data.sticks .leftX) (data.sticks .leftY)
  analogStickR := convertAxisToSwitchAxis (data.sticks .rightX) (data.sticks .rightY)

/-! `UpdateInput` after its `ReadInput`, in three steps: the connection flag follows the driver,
a controller is attached again where this was asked for, the state is sent. -/

section UpdateInput

variable {pads answers : Type} (backend : GamepadBackend pads answers)

def trackConnection (handler : SwitchVirtualGamepadHandler pads) (inputIdx : InputIdx)
    (isControllerConnected : Bool) : SwitchVirtualGamepadHandler pads :=
  let data := handler.controllerData inputIdx
  if data.isConnected ≠ isControllerConnected then
    if isControllerConnected then
      { handler with
        controllerData := Function.update handler.controllerData inputIdx
          { isConnected := true, reattachController := true } }
    else
      { controllerData := Function.update handler.controllerData inputIdx
          { data with isConnected := false }
        pads := backend.detachController handler.pads inputIdx }
  else handler

def reattach (given : answers) (handler : SwitchVirtualGamepadHandler pads) (inputIdx : InputIdx)
    (buttons : UInt64) : SwitchVirtualGamepadHandler pads :=
  let data := handler.controllerData inputIdx
  let reattachController :=
    if !backend.isControllerAttached handler.pads inputIdx && !data.reattachController then
      buttons &&& HidNpadButton_L ≠ 0 && buttons &&& HidNpadButton_R ≠ 0
    else data.reattachController
  { controllerData := Function.update handler.controllerData inputIdx
      { data with reattachController := false }
    pads :=
      if reattachController then backend.attachController given handler.pads inputIdx
      else handler.pads }

/-- What `UpdateInput` learns from the driver. -/
structure InputRead where
  status : ControllerResult
  inputIdx : InputIdx
  isControllerConnected : Bool
  normal : NormalizedButtonData

def handleInput (given : answers) (handler : SwitchVirtualGamepadHandler pads) (read : InputRead) :
    Exec (Result × SwitchVirtualGamepadHandler pads) := do
  let handler := trackConnection backend handler read.inputIdx read.isControllerConnected
  if (handler.controllerData read.inputIdx).isConnected = false then
    return (.controller read.status, handler)
  else if read.status ≠ .success then
    return (.controller read.status, handler)
  else
    let state := gamepadState read.normal
    let handler := reattach backend given handler read.inputIdx state.buttons
    let (result, pads) ← backend.updateControllerState given handler.pads state read.inputIdx
    return (result, { handler with pads })

def updateInput (given : answers) (around : Surroundings) (controller : Controller)
    (handler : SwitchVirtualGamepadHandler pads) :
    Exec (Result × Controller × SwitchVirtualGamepadHandler pads) := do
  let read ← controller.readInput around {} 0
  let normal ← read.normal
  if bound : read.inputIdx < CONTROLLER_MAX_INPUTS then
    let isControllerConnected ← read.controller.driver.isControllerConnected read.inputIdx
    let (result, handler) ← handleInput backend given handler
      ⟨read.status, ⟨read.inputIdx, bound⟩, isControllerConnected, normal⟩
    return (result, read.controller, handler)
  else .error (.slotIndex read.inputIdx)

/-! The input thread calls `UpdateInput` until it is told to stop. -/

structure UpdateCall (answers : Type) where
  given : answers
  around : Surroundings

def runOnce (state : Controller × SwitchVirtualGamepadHandler pads) (call : UpdateCall answers) :
    Exec (Controller × SwitchVirtualGamepadHandler pads) := do
  let (_, controller, handler) ← updateInput backend call.given call.around state.1 state.2
  return (controller, handler)

def onRun (calls : List (UpdateCall answers))
    (state : Controller × SwitchVirtualGamepadHandler pads) :
    Exec (Controller × SwitchVirtualGamepadHandler pads) :=
  calls.foldlM (runOnce backend) state

/-! `Exit`: the driver closes its interfaces, then the first `GetInputCount()` inputs are
detached. -/

def detachController (current : pads) (inputIdx : Nat) : Exec pads :=
  if bound : inputIdx < CONTROLLER_MAX_INPUTS then
    .ok (backend.detachController current ⟨inputIdx, bound⟩)
  else .error (.slotIndex inputIdx)

def exit (controller : Controller) (handler : SwitchVirtualGamepadHandler pads) :
    Exec (Controller × SwitchVirtualGamepadHandler pads) := do
  let controller ← controller.exit
  let detached ←
    (List.range controller.driver.getInputCount).foldlM (detachController backend) handler.pads
  return (controller, { handler with pads := detached })

end UpdateInput

end SwitchVirtualGamepadHandler

end SysCon
