import SysCon.ControllerLib.Controllers.Wired

/-!
`Xbox360WirelessController`: four controllers behind one receiver. Reports with
bit 3 set in their first byte connect or disconnect a controller, and the input
reports are those of the wired controller behind a header of four bytes.
-/

namespace SysCon

structure Xbox360WirelessController where
  isConnected : Slots Bool := Vector.replicate CONTROLLER_MAX_INPUTS false
  deriving DecidableEq, Repr

namespace Xbox360WirelessController

def XBOX360_MAX_INPUTS : Nat := 4

def XBOX360LED_TOPLEFT : Nat := 6

def reconnectPacket : List UInt8 := [0x08, 0x00, 0x0F, 0xC0, 0, 0, 0, 0, 0, 0, 0, 0]
def poweroffPacket : List UInt8 := [0x00, 0x00, 0x08, 0xC0, 0, 0, 0, 0, 0, 0, 0, 0]
def initDriverPacket : List UInt8 := [0x00, 0x00, 0x02, 0x80, 0, 0, 0, 0, 0, 0, 0, 0]

def ledPacket (inputIdx value : Nat) : List UInt8 :=
  [0x00, UInt8.ofNat (inputIdx + 1), 0x08, UInt8.ofNat (value ||| 0x40), 0, 0, 0, 0, 0, 0, 0, 0]

def openInterfaces (device : UsbDevice) (base : BaseController) :
    ControllerResult × BaseController :=
  let (result, base) := base.openInterfaces device
  if result ≠ .success then (result, base)
  else if base.inPipe.length < XBOX360_MAX_INPUTS then (.invalidEndpoint, base)
  else (.success, base)

def onControllerConnect (base : BaseController) (controller : Xbox360WirelessController)
    (inputIdx : Nat) : Exec (Xbox360WirelessController × List Output) := do
  let isConnected ← controller.isConnected.put inputIdx true
  return (⟨isConnected⟩, base.writeIfPresent inputIdx
    [reconnectPacket, initDriverPacket, ledPacket inputIdx (XBOX360LED_TOPLEFT + inputIdx)])

def onControllerDisconnect (base : BaseController) (controller : Xbox360WirelessController)
    (inputIdx : Nat) : Exec (Xbox360WirelessController × List Output) := do
  let isConnected ← controller.isConnected.put inputIdx false
  return (⟨isConnected⟩, base.writeIfPresent inputIdx [poweroffPacket])

def closeInput (base : BaseController) (current : Xbox360WirelessController × List Output)
    (inputIdx : Nat) : Exec (Xbox360WirelessController × List Output) := do
  if ← current.1.isConnected.fetch inputIdx then
    let (controller, sent) ← onControllerDisconnect base current.1 inputIdx
    return (controller, current.2 ++ sent)
  else return current

def closeInterfaces (base : BaseController) (controller : Xbox360WirelessController) :
    Exec (Xbox360WirelessController × List Output) :=
  (List.range XBOX360_MAX_INPUTS).foldlM (closeInput base) (controller, [])

def isStatusReport (buffer : Buffer) : Bool := buffer.bit 0 3

def isControllerData (buffer : Buffer) : Bool :=
  buffer 0 = 0x00 ∧ buffer 1 = 0x01 ∧ buffer 2 = 0x00 ∧ buffer 3 = 0xf0

def parseStatus (base : BaseController) (controller : Xbox360WirelessController)
    (isConnected : Bool) (inputIdx : Nat) : Exec (Xbox360WirelessController × List Output) := do
  if (← controller.isConnected.fetch inputIdx) ≠ isConnected then
    if isConnected then onControllerConnect base controller inputIdx
    else onControllerDisconnect base controller inputIdx
  else return (controller, [])

theorem parseStatus_of_lt (base : BaseController) (controller : Xbox360WirelessController)
    (isConnected : Bool) {inputIdx : Nat} (bound : inputIdx < CONTROLLER_MAX_INPUTS) :
    ∃ sent, parseStatus base controller isConnected inputIdx =
      .ok (⟨controller.isConnected.set inputIdx isConnected⟩, sent) := by
  have two : inputIdx < 4 := bound
  by_cases same : controller.isConnected[inputIdx] = isConnected
  · refine ⟨[], ?_⟩
    have unchanged : controller.isConnected.set inputIdx isConnected = controller.isConnected := by
      rw [← same]
      exact Vector.set_getElem_self two
    rw [unchanged]
    simp [parseStatus, Slots.fetch_of_lt bound, same, bind, Except.bind, pure, Except.pure]
  · cases isConnected with
    | false =>
        refine ⟨base.writeIfPresent inputIdx [poweroffPacket], ?_⟩
        simp [parseStatus, onControllerDisconnect, Slots.fetch_of_lt bound, Slots.put_of_lt bound,
          same, bind, Except.bind, pure, Except.pure]
    | true =>
        refine ⟨base.writeIfPresent inputIdx [reconnectPacket, initDriverPacket,
          ledPacket inputIdx (XBOX360LED_TOPLEFT + inputIdx)], ?_⟩
        simp [parseStatus, onControllerConnect, Slots.fetch_of_lt bound, Slots.put_of_lt bound,
          same, bind, Except.bind, pure, Except.pure]

theorem parseStatus_of_ge (base : BaseController) (controller : Xbox360WirelessController)
    (isConnected : Bool) {inputIdx : Nat} (outside : ¬inputIdx < CONTROLLER_MAX_INPUTS) :
    parseStatus base controller isConnected inputIdx = .error (.slotIndex inputIdx) := by
  simp [parseStatus, Slots.fetch_of_ge outside, bind, Except.bind]

def parseData (base : BaseController) (controller : Xbox360WirelessController) (buffer : Buffer)
    (size : Nat) (rawData : RawInputData) (inputIdx : Nat) :
    Exec (Parsed Xbox360WirelessController) := do
  if isStatusReport buffer then
    let (controller, sent) ← parseStatus base controller (buffer.bit 1 7) inputIdx
    return ⟨.nothingTodo, rawData, inputIdx, controller, sent⟩
  else if isControllerData buffer then
    let data := buffer.shift 4
    if size < Xbox360Controller.sizeofButtonData then
      return ⟨.unexpectedData, rawData, inputIdx, controller, []⟩
    else if data 0 = Xbox360Controller.XBOX360INPUT_BUTTON then
      return ⟨.success, rawData.assign (Xbox360Controller.buttons data)
        (Xbox360Controller.analog data), inputIdx, controller, []⟩
    else return ⟨.nothingTodo, rawData, inputIdx, controller, []⟩
  else return ⟨.nothingTodo, rawData, inputIdx, controller, []⟩

def isControllerConnected (controller : Xbox360WirelessController) (inputIdx : Nat) : Exec Bool :=
  controller.isConnected.fetch inputIdx

end Xbox360WirelessController

end SysCon
