import SysCon.ControllerLib.ParseData

/-!
`GenericHIDController`: a report is decoded by a joystick built from the HID
report descriptor of the device. The joystick itself is foreign code; what it
returns for a report is an input of `parseData` here.
-/

namespace SysCon

open BaseController (normalize)

inductive HIDJoystickHatSwitch
  | neutral | up | upRight | right | downRight | down | downLeft | left | upLeft
  deriving DecidableEq, Repr

structure HIDJoystickData where
  index : Nat := 0
  buttons : List Bool := []
  buttonCount : buttons.length ≤ MAX_HID_CONTROLLER_BUTTONS := by decide
  rx : Int := 0
  ry : Int := 0
  x : Int := 0
  y : Int := 0
  z : Int := 0
  rz : Int := 0
  slider : Int := 0
  dial : Int := 0
  brake : Int := 0
  accelerator : Int := 0
  hatSwitch : HIDJoystickHatSwitch := .neutral

structure GenericHIDController where
  joystickCount : UInt8 := 0

namespace GenericHIDController

-- `m_interfaces[0]` exists, since opening found an endpoint.
def initializeJoystick (descriptor : ControllerResult) (joystickCount : UInt8) :
    ControllerResult × GenericHIDController :=
  if descriptor ≠ .success then (descriptor, ⟨0⟩)
  else if joystickCount = 0 then (.hidIsNotJoystick, ⟨joystickCount⟩)
  else (.success, ⟨joystickCount⟩)

def getInputCount (controller : GenericHIDController) : Nat :=
  min controller.joystickCount.toNat CONTROLLER_MAX_INPUTS

def HIDJoystickHatSwitch.isUp (hat : HIDJoystickHatSwitch) : Bool :=
  hat = .up ∨ hat = .upRight ∨ hat = .upLeft

def HIDJoystickHatSwitch.isRight (hat : HIDJoystickHatSwitch) : Bool :=
  hat = .right ∨ hat = .upRight ∨ hat = .downRight

def HIDJoystickHatSwitch.isDown (hat : HIDJoystickHatSwitch) : Bool :=
  hat = .down ∨ hat = .downRight ∨ hat = .downLeft

def HIDJoystickHatSwitch.isLeft (hat : HIDJoystickHatSwitch) : Bool :=
  hat = .left ∨ hat = .upLeft ∨ hat = .downLeft

def numberedButtons (data : HIDJoystickData) : List (ButtonId × Bool) :=
  List.ofFn fun index : Fin data.buttons.length =>
    (index.castLE (Nat.le_trans data.buttonCount (by decide)), data.buttons[index])

def buttons (data : HIDJoystickData) : List (ButtonId × Bool) :=
  numberedButtons data ++
    [(DPAD_UP_BUTTON_ID, HIDJoystickHatSwitch.isUp data.hatSwitch),
     (DPAD_RIGHT_BUTTON_ID, HIDJoystickHatSwitch.isRight data.hatSwitch),
     (DPAD_DOWN_BUTTON_ID, HIDJoystickHatSwitch.isDown data.hatSwitch),
     (DPAD_LEFT_BUTTON_ID, HIDJoystickHatSwitch.isLeft data.hatSwitch)]

def axis (value : Int) : ℚ := normalize value (-32768) 32767

def analog (data : HIDJoystickData) : List (ControllerAnalogType × ℚ) :=
  [(.rx, axis data.rx), (.ry, axis data.ry), (.x, axis data.x), (.y, axis data.y),
   (.z, axis data.z), (.rz, axis data.rz), (.slider, axis data.slider), (.dial, axis data.dial),
   (.brake, axis data.brake), (.accelerator, axis data.accelerator)]

-- `joystick` is the result of `HIDJoystick::parse_data` on the report.
def parseData (joystick : Option HIDJoystickData) (controller : GenericHIDController)
    (rawData : RawInputData) (inputIdx : Nat) : Parsed GenericHIDController :=
  match joystick with
  | none => ⟨.unexpectedData, rawData, inputIdx, controller, []⟩
  | some data =>
      if data.index ≥ controller.getInputCount then
        ⟨.unexpectedData, rawData, inputIdx, controller, []⟩
      else
        ⟨.success, rawData.assign (buttons data) (analog data),
          if inputIdx = 0 then data.index else inputIdx, controller, []⟩

end GenericHIDController

end SysCon
