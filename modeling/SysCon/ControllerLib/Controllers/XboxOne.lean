import SysCon.ControllerLib.ParseData

/-!
`XboxOneController`: input reports and mode-button reports update one raw input
record that the driver keeps; the mode button may ask for an acknowledgement.
-/

namespace SysCon

open BaseController (normalize)

structure XboxOneController where
  rawInput : RawInputData := {}

namespace XboxOneController

def GIP_CMD_ACK : UInt8 := 0x01
def GIP_CMD_VIRTUAL_KEY : UInt8 := 0x07
def GIP_CMD_INPUT : UInt8 := 0x20
def GIP_OPT_ACK : UInt8 := 0x10
def GIP_OPT_INTERNAL : UInt8 := 0x20

def sizeofButtonData : Nat := 18

def modeButton : ButtonId := 12

def buttons (data : Buffer) : List (ButtonId × Bool) :=
  [(1, data.bit 4 4), (2, data.bit 4 5), (3, data.bit 4 6), (4, data.bit 4 7), (5, data.bit 4 0),
   (6, data.bit 4 2), (7, data.bit 4 3), (8, data.bit 5 4), (9, data.bit 5 5), (10, data.bit 5 6),
   (11, data.bit 5 7),
   (DPAD_UP_BUTTON_ID, data.bit 5 0), (DPAD_RIGHT_BUTTON_ID, data.bit 5 3),
   (DPAD_DOWN_BUTTON_ID, data.bit 5 1), (DPAD_LEFT_BUTTON_ID, data.bit 5 2)]

def analog (data : Buffer) : List (ControllerAnalogType × ℚ) :=
  [(.rx, normalize (data.uint16 6) 0 1023), (.ry, normalize (data.uint16 8) 0 1023),
   (.x, normalize (data.int16 10) (-32768) 32767), (.y, normalize (-data.int16 12) (-32768) 32767),
   (.z, normalize (data.int16 14) (-32768) 32767), (.rz, normalize (-data.int16 16) (-32768) 32767)]

def ackModeReport (sequence : UInt8) : List UInt8 :=
  [GIP_CMD_ACK, GIP_OPT_INTERNAL, sequence, 9, 0x00, GIP_CMD_VIRTUAL_KEY, GIP_OPT_INTERNAL, 0x02,
   0x00, 0x00, 0x00, 0x00, 0x00]

def writeAckModeReport (base : BaseController) (results : WriteResults) (inputIdx : Nat)
    (sequence : UInt8) : ControllerResult × List Output :=
  if base.outPipe.length ≤ inputIdx then (.success, [])
  else (results inputIdx (ackModeReport sequence), [.write inputIdx (ackModeReport sequence)])

def storeInput (controller : XboxOneController) (buffer : Buffer) : XboxOneController :=
  ⟨controller.rawInput.assign (buttons buffer) (analog buffer)⟩

def storeMode (controller : XboxOneController) (buffer : Buffer) : XboxOneController :=
  ⟨controller.rawInput.assign [(modeButton, buffer 4 ≠ 0)] []⟩

def parseData (base : BaseController) (results : WriteResults) (controller : XboxOneController)
    (buffer : Buffer) (size : Nat) (rawData : RawInputData) (inputIdx : Nat) :
    Parsed XboxOneController :=
  if buffer 0 = GIP_CMD_INPUT then
    if size < sizeofButtonData then ⟨.unexpectedData, rawData, inputIdx, controller, []⟩
    else
      let stored := controller.storeInput buffer
      ⟨.success, stored.rawInput, inputIdx, stored, []⟩
  else if buffer 0 = GIP_CMD_VIRTUAL_KEY then
    if size < 6 then ⟨.unexpectedData, rawData, inputIdx, controller, []⟩
    else
      let stored := controller.storeMode buffer
      if buffer 1 = GIP_OPT_ACK ||| GIP_OPT_INTERNAL then
        let (result, sent) := writeAckModeReport base results inputIdx (buffer 2)
        if result ≠ .success then ⟨result, rawData, inputIdx, stored, sent⟩
        else ⟨.success, stored.rawInput, inputIdx, stored, sent⟩
      else ⟨.success, stored.rawInput, inputIdx, stored, []⟩
  else ⟨.nothingTodo, rawData, inputIdx, controller, []⟩

end XboxOneController

end SysCon
