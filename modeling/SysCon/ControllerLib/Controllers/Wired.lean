import SysCon.ControllerLib.ParseData

/-!
The drivers of wired single controllers: `XboxController`, `Xbox360Controller`,
`Dualshock3Controller` and `SwitchController`. Only the last one keeps a state,
its stick calibration.
-/

namespace SysCon

open BaseController (normalize normalizeAround readBitsLE)

namespace XboxController

def sizeofButtonData : Nat := 20

def buttons (data : Buffer) : List (ButtonId × Bool) :=
  [(1, data.uint8 4 > 0), (2, data.uint8 5 > 0), (3, data.uint8 6 > 0), (4, data.uint8 7 > 0),
   (5, data.uint8 8 > 0), (6, data.uint8 9 > 0), (7, data.bit 2 4), (8, data.bit 2 5),
   (9, data.bit 2 6), (10, data.bit 2 7),
   (DPAD_UP_BUTTON_ID, data.bit 2 0), (DPAD_RIGHT_BUTTON_ID, data.bit 2 3),
   (DPAD_DOWN_BUTTON_ID, data.bit 2 1), (DPAD_LEFT_BUTTON_ID, data.bit 2 2)]

def analog (data : Buffer) : List (ControllerAnalogType × ℚ) :=
  [(.rx, normalize (data.uint8 10) 0 255), (.ry, normalize (data.uint8 11) 0 255),
   (.x, normalize (data.int16 12) (-32768) 32767), (.y, normalize (-data.int16 14) (-32768) 32767),
   (.z, normalize (data.int16 16) (-32768) 32767), (.rz, normalize (-data.int16 18) (-32768) 32767)]

def parseData (buffer : Buffer) (size : Nat) (rawData : RawInputData) (inputIdx : Nat) :
    Parsed Unit :=
  if size < sizeofButtonData then ⟨.unexpectedData, rawData, inputIdx, (), []⟩
  else ⟨.success, rawData.assign (buttons buffer) (analog buffer), inputIdx, (), []⟩

end XboxController

namespace Xbox360Controller

def sizeofButtonData : Nat := 14

def XBOX360INPUT_BUTTON : UInt8 := 0

def buttons (data : Buffer) : List (ButtonId × Bool) :=
  [(1, data.bit 3 4), (2, data.bit 3 5), (3, data.bit 3 6), (4, data.bit 3 7), (5, data.bit 3 0),
   (6, data.bit 3 1), (7, data.bit 2 4), (8, data.bit 2 5), (9, data.bit 2 6), (10, data.bit 2 7),
   (11, data.bit 3 2),
   (DPAD_UP_BUTTON_ID, data.bit 2 0), (DPAD_RIGHT_BUTTON_ID, data.bit 2 3),
   (DPAD_DOWN_BUTTON_ID, data.bit 2 1), (DPAD_LEFT_BUTTON_ID, data.bit 2 2)]

def analog (data : Buffer) : List (ControllerAnalogType × ℚ) :=
  [(.rx, normalize (data.uint8 4) 0 255), (.ry, normalize (data.uint8 5) 0 255),
   (.x, normalize (data.int16 6) (-32768) 32767), (.y, normalize (-data.int16 8) (-32768) 32767),
   (.z, normalize (data.int16 10) (-32768) 32767), (.rz, normalize (-data.int16 12) (-32768) 32767)]

def parseData (buffer : Buffer) (size : Nat) (rawData : RawInputData) (inputIdx : Nat) :
    Parsed Unit :=
  if size < sizeofButtonData then ⟨.unexpectedData, rawData, inputIdx, (), []⟩
  else if buffer 0 = XBOX360INPUT_BUTTON then
    ⟨.success, rawData.assign (buttons buffer) (analog buffer), inputIdx, (), []⟩
  else ⟨.unexpectedData, rawData, inputIdx, (), []⟩

end Xbox360Controller

namespace Dualshock3Controller

def sizeofButtonData : Nat := 49

def Ds3InputPacket_Button : UInt8 := 0x01

def buttons (data : Buffer) : List (ButtonId × Bool) :=
  [(1, data.bit 3 4), (2, data.bit 3 5), (3, data.bit 3 6), (4, data.bit 3 7), (5, data.bit 3 0),
   (6, data.bit 3 1), (7, data.bit 3 2), (8, data.bit 3 3), (9, data.bit 2 0), (10, data.bit 2 1),
   (11, data.bit 2 2), (12, data.bit 2 3), (13, data.bit 4 0),
   (DPAD_UP_BUTTON_ID, data.bit 2 4), (DPAD_RIGHT_BUTTON_ID, data.bit 2 5),
   (DPAD_DOWN_BUTTON_ID, data.bit 2 6), (DPAD_LEFT_BUTTON_ID, data.bit 2 7)]

def analog (data : Buffer) : List (ControllerAnalogType × ℚ) :=
  [(.rx, normalize (data.uint8 18) 0 255), (.ry, normalize (data.uint8 19) 0 255),
   (.x, normalize (data.uint8 6) 0 255), (.y, normalize (data.uint8 7) 0 255),
   (.z, normalize (data.uint8 8) 0 255), (.rz, normalize (data.uint8 9) 0 255)]

def parseData (buffer : Buffer) (size : Nat) (rawData : RawInputData) (inputIdx : Nat) :
    Parsed Unit :=
  if size < sizeofButtonData then ⟨.unexpectedData, rawData, inputIdx, (), []⟩
  else if buffer 0 = Ds3InputPacket_Button then
    ⟨.success, rawData.assign (buttons buffer) (analog buffer), inputIdx, (), []⟩
  else ⟨.unexpectedData, rawData, inputIdx, (), []⟩

end Dualshock3Controller

structure SwitchCalibration where
  min : Nat := 600
  max : Nat := 3400
  deriving DecidableEq, Repr

def SwitchCalibration.widen (calibration : SwitchCalibration) (value : Nat) : SwitchCalibration :=
  ⟨Nat.min value calibration.min, Nat.max value calibration.max⟩

structure SwitchController where
  calLeftX : SwitchCalibration := {}
  calLeftY : SwitchCalibration := {}
  calRightX : SwitchCalibration := {}
  calRightY : SwitchCalibration := {}
  deriving DecidableEq, Repr

namespace SwitchController

def SWITCH_INPUT_BUFFER_SIZE : Nat := 64

def sizeofButtonData : Nat := 12

def buttons (data : Buffer) : List (ButtonId × Bool) :=
  [(1, data.bit 3 0), (2, data.bit 3 1), (3, data.bit 3 2), (4, data.bit 3 3), (5, data.bit 3 4),
   (6, data.bit 3 5), (7, data.bit 3 6), (8, data.bit 3 7), (9, data.bit 4 0), (10, data.bit 4 1),
   (11, data.bit 4 2), (12, data.bit 4 3), (13, data.bit 4 4), (14, data.bit 4 5),
   (15, data.bit 4 6), (16, data.bit 5 4), (17, data.bit 5 5), (18, data.bit 5 6),
   (19, data.bit 5 7),
   (DPAD_UP_BUTTON_ID, data.bit 5 1), (DPAD_RIGHT_BUTTON_ID, data.bit 5 2),
   (DPAD_DOWN_BUTTON_ID, data.bit 5 0), (DPAD_LEFT_BUTTON_ID, data.bit 5 3)]

def leftX (data : Buffer) : Nat := readBitsLE (data.shift 6) 0 12
def leftY (data : Buffer) : Nat := readBitsLE (data.shift 6) 12 12
def rightX (data : Buffer) : Nat := readBitsLE (data.shift 9) 0 12
def rightY (data : Buffer) : Nat := readBitsLE (data.shift 9) 12 12

def calibrate (controller : SwitchController) (data : Buffer) : SwitchController where
  calLeftX := controller.calLeftX.widen (leftX data)
  calLeftY := controller.calLeftY.widen (leftY data)
  calRightX := controller.calRightX.widen (rightX data)
  calRightY := controller.calRightY.widen (rightY data)

def analog (controller : SwitchController) (data : Buffer) : List (ControllerAnalogType × ℚ) :=
  [(.x, normalizeAround (leftX data) controller.calLeftX.min controller.calLeftX.max 2000),
   (.y, -1 * normalizeAround (leftY data) controller.calLeftY.min controller.calLeftY.max 2000),
   (.z, normalizeAround (rightX data) controller.calRightX.min controller.calRightX.max 2000),
   (.rz, -1 * normalizeAround (rightY data) controller.calRightY.min controller.calRightY.max 2000)]

def parseData (controller : SwitchController) (buffer : Buffer) (size : Nat)
    (rawData : RawInputData) (inputIdx : Nat) : Parsed SwitchController :=
  if size < sizeofButtonData then ⟨.unexpectedData, rawData, inputIdx, controller, []⟩
  else if buffer 0 ≠ 0x30 then ⟨.nothingTodo, rawData, inputIdx, controller, []⟩
  else
    let calibrated := controller.calibrate buffer
    ⟨.success, rawData.assign (buttons buffer) (calibrated.analog buffer), inputIdx, calibrated, []⟩

end SwitchController

end SysCon
