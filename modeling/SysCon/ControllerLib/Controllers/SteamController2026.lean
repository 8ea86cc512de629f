import SysCon.ControllerLib.ParseData

/-!
`SteamController2026`: up to four controllers behind one receiver, with one raw
input record for all of them. An input report connects its controller, a
wireless status report connects or disconnects it.
-/

namespace SysCon

open BaseController (normalize)

structure SteamController2026 where
  rawInput : RawInputData := {}
  isConnected : Slots Bool := Vector.replicate CONTROLLER_MAX_INPUTS false
  controllerCount : Nat

namespace SteamController2026

def STEAMCONTROLLER_MAX_INPUTS : Nat := 4

def REPORT_INPUT : UInt8 := 0x42
def REPORT_INPUT_BLE : UInt8 := 0x45
def REPORT_WIRELESS_STATUS_X : UInt8 := 0x46
def REPORT_WIRELESS_STATUS : UInt8 := 0x79
def HID_FEATURE_REPORT_BYTES : Nat := 64
def ID_SET_SETTINGS_VALUES : UInt8 := 0x87
def SETTING_LIZARD_MODE : UInt8 := 0x09
def LIZARD_MODE_OFF : UInt8 := 0x00
def SETTING_STEAM_WATCHDOG_ENABLE : UInt8 := 0x47
def WATCHDOG_DISABLE : UInt8 := 0x00

def sizeofInputReport : Nat := 46

def create (base : BaseController) : SteamController2026 where
  controllerCount := if base.interfaces.length > 1 then STEAMCONTROLLER_MAX_INPUTS else 1

def buttons (data : Buffer) : List (ButtonId × Bool) :=
  [(1, data.bit 2 0), (2, data.bit 2 1), (3, data.bit 2 3), (4, data.bit 2 2), (5, data.bit 4 3),
   (6, data.bit 3 1), (7, data.bit 5 3), (8, data.bit 4 7), (9, data.bit 3 6), (10, data.bit 2 6),
   (11, data.bit 2 4), (12, data.bit 4 0), (13, data.bit 3 7), (14, data.bit 2 5),
   (DPAD_UP_BUTTON_ID, data.bit 3 5), (DPAD_RIGHT_BUTTON_ID, data.bit 3 3),
   (DPAD_DOWN_BUTTON_ID, data.bit 3 2), (DPAD_LEFT_BUTTON_ID, data.bit 3 4)]

def analog (data : Buffer) : List (ControllerAnalogType × ℚ) :=
  [(.x, normalize (data.int16 10) (-32768) 32767), (.y, normalize (-data.int16 12) (-32768) 32767),
   (.z, normalize (data.int16 14) (-32768) 32767), (.rz, normalize (-data.int16 16) (-32768) 32767)]

def lizardReport : List UInt8 :=
  [1, ID_SET_SETTINGS_VALUES, 6, SETTING_LIZARD_MODE, LIZARD_MODE_OFF, 0,
   SETTING_STEAM_WATCHDOG_ENABLE, WATCHDOG_DISABLE, 0] ++
    List.replicate (HID_FEATURE_REPORT_BYTES - 9) 0

-- `UpdateLizard` is only called with the controller just marked as connected.
def updateLizard (base : BaseController) (inputIdx : Nat) : List Output :=
  match base.interfaces[inputIdx]? with
  | none => []
  | some bInterfaceNumber =>
      [.controlTransfer inputIdx 0x21 0x09 ((3 : UInt16) <<< 8 ||| 1) bInterfaceNumber.toUInt16
        lizardReport]

def onControllerConnect (base : BaseController) (controller : SteamController2026)
    (inputIdx : Nat) : Exec (SteamController2026 × List Output) := do
  let isConnected ← controller.isConnected.put inputIdx true
  return ({ controller with isConnected }, updateLizard base inputIdx)

def onControllerDisconnect (controller : SteamController2026) (inputIdx : Nat) :
    Exec (SteamController2026 × List Output) := do
  let isConnected ← controller.isConnected.put inputIdx false
  return ({ controller with isConnected }, [])

def isInputReport (reportId : UInt8) : Bool :=
  reportId = REPORT_INPUT ∨ reportId = REPORT_INPUT_BLE

def isStatusReport (reportId : UInt8) : Bool :=
  reportId = REPORT_WIRELESS_STATUS_X ∨ reportId = REPORT_WIRELESS_STATUS

def parseStatus (base : BaseController) (controller : SteamController2026) (isConnected : Bool)
    (inputIdx : Nat) : Exec (SteamController2026 × List Output) := do
  let wasConnected ← controller.isConnected.fetch inputIdx
  if !wasConnected && isConnected then onControllerConnect base controller inputIdx
  else if wasConnected && !isConnected then onControllerDisconnect controller inputIdx
  else return (controller, [])

theorem parseStatus_of_lt (base : BaseController) (controller : SteamController2026)
    (isConnected : Bool) {inputIdx : Nat} (bound : inputIdx < CONTROLLER_MAX_INPUTS) :
    ∃ sent, parseStatus base controller isConnected inputIdx =
      .ok ({ controller with isConnected := controller.isConnected.set inputIdx isConnected },
        sent) := by
  have two : inputIdx < 4 := bound
  by_cases same : controller.isConnected[inputIdx] = isConnected
  · refine ⟨[], ?_⟩
    have unchanged : controller.isConnected.set inputIdx isConnected = controller.isConnected := by
      rw [← same]
      exact Vector.set_getElem_self two
    rw [unchanged]
    simp [parseStatus, Slots.fetch_of_lt bound, same, bind, Except.bind, pure, Except.pure]
  · cases isConnected with
    | false =>
        refine ⟨[], ?_⟩
        simp [parseStatus, onControllerDisconnect, Slots.fetch_of_lt bound, Slots.put_of_lt bound,
          same, bind, Except.bind, pure, Except.pure]
    | true =>
        refine ⟨updateLizard base inputIdx, ?_⟩
        simp [parseStatus, onControllerConnect, Slots.fetch_of_lt bound, Slots.put_of_lt bound,
          same, bind, Except.bind, pure, Except.pure]

def parseData (base : BaseController) (controller : SteamController2026) (buffer : Buffer)
    (size : Nat) (rawData : RawInputData) (inputIdx : Nat) : Exec (Parsed SteamController2026) := do
  if inputIdx ≥ STEAMCONTROLLER_MAX_INPUTS then
    return ⟨.invalidIndex, rawData, inputIdx, controller, []⟩
  else if isInputReport (buffer 0) then
    if size < sizeofInputReport then
      return ⟨.unexpectedData, rawData, inputIdx, controller, []⟩
    else
      let stored :=
        { controller with rawInput := controller.rawInput.assign (buttons buffer) (analog buffer) }
      if !(← stored.isConnected.fetch inputIdx) then
        let (connected, sent) ← onControllerConnect base stored inputIdx
        return ⟨.success, stored.rawInput, inputIdx, connected, sent⟩
      else return ⟨.success, stored.rawInput, inputIdx, stored, []⟩
  else if isStatusReport (buffer 0) then
    let (controller, sent) ← parseStatus base controller (buffer 1 ≠ 0x01) inputIdx
    return ⟨.nothingTodo, rawData, inputIdx, controller, sent⟩
  else return ⟨.nothingTodo, rawData, inputIdx, controller, []⟩

def isControllerConnected (controller : SteamController2026) (inputIdx : Nat) : Exec Bool :=
  controller.isConnected.fetch inputIdx

end SteamController2026

end SysCon
