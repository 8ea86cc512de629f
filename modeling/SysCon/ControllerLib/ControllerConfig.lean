import Mathlib.Data.Rat.Defs

/-!
The configuration record of a controller and the enumerations around it
(`ControllerResult.h`, `ControllerTypes.h`, `ControllerConfig.h`). Character
data is a list of characters, one for each byte. Floating point numbers are
rationals. Arrays indexed by an enumeration are functions of it.
-/

namespace SysCon

/-- A C string without its terminator, or the bytes of a file. -/
abbrev CString := List Char

abbrev CONTROLLER_MAX_INPUTS : Nat := 4
abbrev CONTROLLER_INPUT_BUFFER_SIZE : Nat := 256
abbrev MAX_PIN_BY_BUTTONS : Nat := 2
abbrev MAX_HID_CONTROLLER_BUTTONS : Nat := 32
abbrev MAX_CONTROLLER_BUTTONS : Nat := 36
abbrev MAX_CONTROLLER_COMBO : Nat := 16

inductive ControllerResult
  | success
  | invalidEndpoint
  | bufferEmpty
  | nothingTodo
  | notImplemented
  | unexpectedData
  | invalidArgument
  | invalidReportDescriptor
  | hidIsNotJoystick
  | noInterfaces
  | noDataAvailable
  | outOfMemory
  | usbInterfaceAcquire
  | openFailed
  | writeFailed
  | readFailed
  | timeout
  | usbEndpointOpen
  | invalidIndex
  | unknownError
  deriving DecidableEq, Repr

def ControllerResult.failed (result : ControllerResult) : Bool := result != .success

inductive ControllerButton
  | none | x | a | b | y
  | lstickClick | lstickLeft | lstickRight | lstickUp | lstickDown
  | rstickClick | rstickLeft | rstickRight | rstickUp | rstickDown
  | l | r | zl | zr | minus | plus
  | dpadUp | dpadRight | dpadDown | dpadLeft
  | capture | home
  deriving DecidableEq, Repr

def ControllerButton.toNat (button : ControllerButton) : Nat := button.ctorIdx

def ControllerButton.count : Nat := 27

/-- `ControllerAnalogBinding`, and `ControllerAnalogType`, whose enumerators have the same order. -/
inductive ControllerAnalogBinding
  | unknown | x | y | z | rz | rx | ry | slider | dial | brake | accelerator
  deriving DecidableEq, Repr

def ControllerAnalogBinding.toNat (binding : ControllerAnalogBinding) : Nat := binding.ctorIdx

def ControllerAnalogBinding.count : Nat := 11

abbrev ControllerAnalogType := ControllerAnalogBinding

theorem ControllerButton.toNat_lt_count (button : ControllerButton) :
    button.toNat < ControllerButton.count := by
  cases button <;> decide

theorem ControllerAnalogBinding.toNat_lt_count (binding : ControllerAnalogBinding) :
    binding.toNat < ControllerAnalogBinding.count := by
  cases binding <;> decide

/-- The colour word; its bytes are the named components, little endian. -/
structure RGBAColor where
  rgbaValue : UInt32
  deriving DecidableEq, Repr

def RGBAColor.ofComponents (r g b a : UInt8) : RGBAColor :=
  ⟨r.toUInt32 ||| (g.toUInt32 <<< 8) ||| (b.toUInt32 <<< 16) ||| (a.toUInt32 <<< 24)⟩

inductive ControllerType
  | unknown | pro | proWithBattery | tarragon | snes | pokeballPlus | gamecube
  | thirdPartyPro | n64 | sega | nes | famicom
  deriving DecidableEq, Repr

structure ControllerAnalogConfig where
  sign : ℚ := 1
  bind : ControllerAnalogBinding := .unknown
  deriving DecidableEq, Repr

structure ControllerComboConfig where
  buttonSimulated : ControllerButton := .none
  buttons : ControllerButton × ControllerButton := (.none, .none)
  deriving DecidableEq, Repr

def noPins : Vector UInt8 MAX_PIN_BY_BUTTONS := Vector.replicate MAX_PIN_BY_BUTTONS 0

structure ControllerConfig where
  driver : CString := []
  profile : CString := []
  inputMaxPacketSize : UInt32 := 0
  outputMaxPacketSize : UInt32 := 0
  controllerType : ControllerType := .pro
  analogDeadzonePercent : ControllerAnalogBinding → UInt8 := fun _ => 0
  analogFactorPercent : ControllerAnalogBinding → UInt8 := fun _ => 100
  buttonsPin : ControllerButton → Vector UInt8 MAX_PIN_BY_BUTTONS := fun _ => noPins
  buttonsAnalogUsed : Bool := false
  -- `{0}` zeroes the sign of the first entry only, the others keep their default.
  buttonsAnalog : ControllerButton → ControllerAnalogConfig :=
    fun button => if button = .none then { sign := 0 } else {}
  simulateCombos : Vector ControllerComboConfig MAX_CONTROLLER_COMBO :=
    Vector.replicate MAX_CONTROLLER_COMBO {}
  bodyColor : RGBAColor := .ofComponents 0 0 0 255
  buttonsColor : RGBAColor := .ofComponents 0 0 0 255
  leftGripColor : RGBAColor := .ofComponents 0 0 0 255
  rightGripColor : RGBAColor := .ofComponents 0 0 0 255

end SysCon
