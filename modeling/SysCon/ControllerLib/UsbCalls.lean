import SysCon.ControllerLib.InitBytes
import SysCon.ControllerLib.Replies
import SysCon.Library.Runs

/-!
The calls of a driver into the USB layer, with the arrays that they receive
into: what `Initialize` sends and asks for, the reads of `ReadInput` and the
replies to what they bring, and what `Exit` still sends.
-/

namespace SysCon

/-- A call on an entry of `m_inPipe`, `m_outPipe` or `m_interfaces`. What it receives has to fit
into an array of `room` bytes. -/
inductive UsbCall
  | output (output : Output)
  | read (endpointIdx size room timeoutUs : Nat)
  | controlInput (interface : Nat) (bmRequestType bmRequest : UInt8) (wValue wIndex : UInt16)
      (wLength room : Nat)
  deriving DecidableEq, Repr

/-- What `Initialize` meets: the device, and what the USB service makes of the calls. -/
structure SetupSurroundings where
  vendor : UInt16 := 0
  product : UInt16 := 0
  writeResults : WriteResults := fun _ _ => .success
  -- what waits at the first endpoint
  waiting : List ReadOutcome := []
  -- whether `usbHsIfCtrlXfer` sends, and what it receives
  sends : Output → Bool := fun _ => true
  receives : UsbCall → Option (List UInt8) := fun _ => none
  -- `HIDJoystick::get_count` of a report descriptor
  joystickCount : List UInt8 → UInt8 := fun _ => 0

namespace SwitchUSBInterface

def USB_ENDPOINT_IN : UInt8 := 0x80

def sizeofUsbBuffer : Nat := 0x1000

def controlTransferOutput (bmRequestType : UInt8) (sent : Bool) : ControllerResult :=
  if bmRequestType &&& USB_ENDPOINT_IN ≠ 0 then .invalidArgument
  else if sent then .success else .unknownError

def controlTransferInput (bmRequestType : UInt8) (wLength : Nat) (received : Option (List UInt8)) :
    ControllerResult × List UInt8 :=
  if bmRequestType &&& USB_ENDPOINT_IN = 0 then (.invalidArgument, [])
  else
    match received with
    | none => (.unknownError, [])
    | some bytes => if bytes.length ≤ wLength then (.success, bytes) else (.invalidArgument, [])

end SwitchUSBInterface

open Library
open SwitchUSBInterface (controlTransferOutput controlTransferInput)

/-! `Initialize`. -/

namespace Xbox360Controller

def XBOX360LED_TOPLEFT : UInt8 := 6

def setLED (base : BaseController) (inputIdx : Nat) (value : UInt8) : List UsbCall :=
  (base.writeIfPresent inputIdx [[0x01, 0x03, value]]).map .output

end Xbox360Controller

namespace Dualshock3Controller

def Ds3FeatureUnknown1 : UInt16 := 0x0201
def Ds3FeatureStartDevice : UInt16 := 0x03F4
def DS3LED_1 : UInt8 := 0x01
def LED_PERMANENT : List UInt8 := [0xff, 0x27, 0x00, 0x00, 0x32]

def sendCommand (feature : UInt16) (bytes : List UInt8) : Output :=
  .controlTransfer 0 0x21 0x09 feature 0 bytes

def startDevice : Output := sendCommand Ds3FeatureStartDevice [0x42, 0x0C, 0x00, 0x00]

def setLED (value : UInt8) : Output :=
  sendCommand Ds3FeatureUnknown1 (List.replicate 9 (0x00 : UInt8) ++ value <<< 1 ::
    (LED_PERMANENT ++ LED_PERMANENT ++ LED_PERMANENT ++ LED_PERMANENT))

def openInterfaces (around : SetupSurroundings) (device : UsbDevice) (base : BaseController) :
    ControllerResult × BaseController × List UsbCall :=
  let (result, base) := base.openInterfaces device
  if result ≠ .success then (result, base, [])
  else (controlTransferOutput 0x21 (around.sends startDevice), base, [.output startDevice])

end Dualshock3Controller

namespace SwitchController

def flushRead : UsbCall := .read 0 SWITCH_INPUT_BUFFER_SIZE SWITCH_INPUT_BUFFER_SIZE (100 * 1000)

def flushReads : List ReadOutcome → List UsbCall
  | [] => [flushRead]
  | outcome :: rest => flushRead :: if outcome.status = .success then flushReads rest else []

def initPacket (command : UInt8) : List UInt8 :=
  [0x80, command] ++ List.replicate (SWITCH_INPUT_BUFFER_SIZE - 2) 0x00

def setUp (around : SetupSurroundings) (base : BaseController) :
    ControllerResult × List UsbCall :=
  if base.outPipe.isEmpty then (.invalidEndpoint, [])
  else (.success, flushReads around.waiting ++
    [.output (.write 0 (initPacket 0x02)),
      .read 0 SWITCH_INPUT_BUFFER_SIZE SWITCH_INPUT_BUFFER_SIZE (500 * 1000),
      .output (.write 0 (initPacket 0x04))])

end SwitchController

namespace WiiController

def setUp (base : BaseController) : ControllerResult × List UsbCall :=
  if base.outPipe.isEmpty then (.invalidEndpoint, [])
  else (.success, [.output (.write 0 [0x13])])

end WiiController

namespace GenericHIDController

def CONTROLLER_HID_REPORT_BUFFER_SIZE : Nat := 512
def USB_DT_REPORT : UInt16 := 0x22
def USB_REQUEST_GET_DESCRIPTOR : UInt8 := 0x06
def USB_REQUEST_SET_IDLE : UInt8 := 0x0A
def USB_RECIPIENT_INTERFACE : UInt8 := 0x01

def setIdle (bInterfaceNumber : UInt8) : Output :=
  .controlTransfer 0 (0x20 ||| USB_RECIPIENT_INTERFACE) USB_REQUEST_SET_IDLE 0
    bInterfaceNumber.toUInt16 []

def getDescriptor (bInterfaceNumber : UInt8) : UsbCall :=
  .controlInput 0 (0x80 ||| USB_RECIPIENT_INTERFACE) USB_REQUEST_GET_DESCRIPTOR
    (USB_DT_REPORT <<< 8) bInterfaceNumber.toUInt16 CONTROLLER_HID_REPORT_BUFFER_SIZE
    CONTROLLER_HID_REPORT_BUFFER_SIZE

def descriptorOf (around : SetupSurroundings) (base : BaseController) :
    ControllerResult × List UInt8 :=
  controlTransferInput (0x80 ||| USB_RECIPIENT_INTERFACE) CONTROLLER_HID_REPORT_BUFFER_SIZE
    (around.receives (getDescriptor (base.interfaces.getD 0 0)))

-- `SET_IDLE` may fail.
def setUp (around : SetupSurroundings) (base : BaseController) :
    ControllerResult × GenericHIDController × List UsbCall :=
  let (result, descriptor) := descriptorOf around base
  let (result, state) := initializeJoystick result (around.joystickCount descriptor)
  (result, state, [.output (setIdle (base.interfaces.getD 0 0)),
    getDescriptor (base.interfaces.getD 0 0)])

end GenericHIDController

/-- `SendInitBytes` receives into an array of the size of the read. -/
def UsbCall.ofInit : XboxOneController.InitCall → UsbCall
  | .write inputIdx bytes => .output (.write inputIdx bytes)
  | .read inputIdx size timeout => .read inputIdx size size timeout

namespace Driver

def openTraced (driver : Driver) (around : SetupSurroundings) (device : UsbDevice)
    (base : BaseController) : ControllerResult × BaseController × List UsbCall :=
  match driver with
  | .dualshock3 => Dualshock3Controller.openInterfaces around device base
  | .xbox360Wireless _ =>
      let (result, base) := Xbox360WirelessController.openInterfaces device base
      (result, base, [])
  | _ =>
      let (result, base) := base.openInterfaces device
      (result, base, [])

def setUpTraced (driver : Driver) (around : SetupSurroundings) (base : BaseController) :
    ControllerResult × Driver × List UsbCall :=
  match driver with
  | .xbox360 => (.success, driver,
      Xbox360Controller.setLED base 0 Xbox360Controller.XBOX360LED_TOPLEFT)
  | .dualshock3 => (.success, driver,
      [.output (Dualshock3Controller.setLED Dualshock3Controller.DS3LED_1)])
  | .xboxOne _ =>
      let (result, calls) := XboxOneController.sendInitBytes around.vendor around.product
        around.writeResults 0 base
      (result, driver, calls.map .ofInit)
  | .switch _ =>
      let (result, calls) := SwitchController.setUp around base
      (result, driver, calls)
  | .wii _ =>
      let (result, calls) := WiiController.setUp base
      (result, driver, calls)
  | .genericHID _ =>
      let (result, state, calls) := GenericHIDController.setUp around base
      (result, .genericHID state, calls)
  | _ => (.success, driver, [])

end Driver

/-- `Initialize`, with its calls. -/
def Controller.initializeTraced (controller : Controller) (around : SetupSurroundings)
    (device : UsbDevice) : ControllerResult × Controller × List UsbCall :=
  let (result, base, opening) := controller.driver.openTraced around device controller.base
  if result ≠ .success then (result, { controller with base }, opening)
  else
    let (result, driver, calls) := controller.driver.setUpTraced around base
    (result, { controller with base, driver }, opening ++ calls)

/-- What the calls of `Initialize` come to, for the drivers that ask. -/
def SetupSurroundings.answers (around : SetupSurroundings) (base : BaseController) :
    SetupAnswers where
  startDevice := controlTransferOutput 0x21 (around.sends Dualshock3Controller.startDevice)
  initBytes := (XboxOneController.sendInitBytes around.vendor around.product around.writeResults 0
    base).1
  hidDescriptor := (GenericHIDController.descriptorOf around base).1
  joystickCount := around.joystickCount (GenericHIDController.descriptorOf around base).2

theorem Driver.openTraced_eq (driver : Driver) (around : SetupSurroundings) (device : UsbDevice)
    (base : BaseController) :
    driver.openInterfaces (around.answers (base.openInterfaces device).2) device base =
      ((driver.openTraced around device base).1, (driver.openTraced around device base).2.1) := by
  cases driver with
  | dualshock3 =>
      simp only [openInterfaces, openTraced, Dualshock3Controller.openInterfaces]
      split <;> rfl
  | _ => rfl

theorem Driver.openTraced_base (driver : Driver) (around : SetupSurroundings) (device : UsbDevice)
    (base : BaseController) :
    (driver.openTraced around device base).2.1 = (base.openInterfaces device).2 := by
  cases driver with
  | dualshock3 =>
      simp only [openTraced, Dualshock3Controller.openInterfaces]
      split <;> rfl
  | xbox360Wireless state =>
      simp only [openTraced, Xbox360WirelessController.openInterfaces]
      split
      · rfl
      · split <;> rfl
  | _ => rfl

theorem Driver.setUpTraced_eq (driver : Driver) (around : SetupSurroundings)
    (base : BaseController) :
    driver.setUp (around.answers base) base =
      ((driver.setUpTraced around base).1, (driver.setUpTraced around base).2.1) := by
  cases driver with
  | switch state =>
      simp only [setUp, setUpTraced, SwitchController.setUp]
      split <;> rfl
  | wii state =>
      simp only [setUp, setUpTraced, WiiController.setUp]
      split <;> rfl
  | _ => rfl

/-- The calls answer what `initializeController` leaves to its surroundings. -/
theorem Controller.initializeTraced_eq (controller : Controller) (around : SetupSurroundings)
    (device : UsbDevice) :
    controller.initializeController
        (around.answers (controller.base.openInterfaces device).2) device =
      ((controller.initializeTraced around device).1,
        (controller.initializeTraced around device).2.1) := by
  have base := controller.driver.openTraced_base around device controller.base
  simp only [initializeController, initializeTraced, Driver.openTraced_eq, base]
  split
  · rfl
  · rw [Driver.setUpTraced_eq]

/-! The reads of `ReadInput`. -/

namespace BaseController

/-- The drain loop. What it receives is copied on into the array of the caller. -/
def drainReads (endpointIdx capacity room : Nat) : List ReadOutcome → List UsbCall
  | [] => [.read endpointIdx capacity (min CONTROLLER_INPUT_BUFFER_SIZE room) 0]
  | outcome :: rest =>
      .read endpointIdx capacity (min CONTROLLER_INPUT_BUFFER_SIZE room) 0 ::
        if outcome.status ≠ .success ∨ (outcome.bytes.take capacity).length = 0 then []
        else drainReads endpointIdx capacity room rest

def latestReads (endpointIdx wMaxPacketSize : Nat) (pending : List ReadOutcome)
    (size room timeoutUs : Nat) : List UsbCall :=
  let capacity := min wMaxPacketSize size
  .read endpointIdx capacity room timeoutUs ::
    match pending with
    | [] => []
    | outcome :: rest =>
        if outcome.status ≠ .success ∨ (outcome.bytes.take capacity).length = 0 then []
        else drainReads endpointIdx capacity room rest

def pipeReads (base : BaseController) (endpointIdx : Nat) (pending : Pending)
    (size room timeoutUs : Nat) : List UsbCall :=
  latestReads endpointIdx (base.maxPacketSize endpointIdx) (pending endpointIdx) size room timeoutUs

def fastPassReads (base : BaseController) (size room : Nat) :
    (remaining i : Nat) → Pending → Buffer → List UsbCall
  | 0, _, _, _ => []
  | remaining + 1, i, pending, buffer =>
      let endpointIdx := (base.currentControllerIdx + i) % base.inPipe.length
      let (read, later) := base.readPipe endpointIdx pending buffer size
      base.pipeReads endpointIdx pending size room 0 ++
        if read.status = .success then []
        else fastPassReads base size room remaining (i + 1) later read.buffer

def nextReads (base : BaseController) (pending : Pending) (buffer : Buffer)
    (size inputIdx room timeoutUs : Nat) : List UsbCall :=
  if base.inPipe.length = 0 then []
  else
    let swept := base.fastPass size inputIdx base.inPipe.length 0 pending buffer
    base.fastPassReads size room base.inPipe.length 0 pending buffer ++
      if swept.status = .success then []
      else base.pipeReads base.currentControllerIdx swept.pending size room timeoutUs

end BaseController

/-- One `ReadInput`: what it meets and what it is given. -/
structure Turn where
  around : Surroundings := {}
  normalData : NormalizedButtonData := {}
  inputIdx : Nat := 0
  timeoutUs : UInt32 := 0

/-- The adapter reads into its own buffer, the other drivers into that of `ReadInput`. -/
def Controller.reads (controller : Controller) (turn : Turn) : List UsbCall :=
  match controller.driver with
  | .wii state =>
      if state.currentWiiControllerIdx = 0 then
        controller.base.nextReads turn.around.pending state.buffer
          WiiController.WII_INPUT_BUFFER_SIZE 0 WiiController.WII_INPUT_BUFFER_SIZE
          turn.timeoutUs.toNat
      else []
  | driver =>
      controller.base.nextReads turn.around.pending turn.around.stack
        (min CONTROLLER_INPUT_BUFFER_SIZE driver.getMaxInputBufferSize) turn.inputIdx
        CONTROLLER_INPUT_BUFFER_SIZE turn.timeoutUs.toNat

/-- A `ReadInput` that ends, with its calls. -/
def turnStep (controller : Controller) (action : Turn × List UsbCall) (next : Controller) : Prop :=
  ∃ read, controller.readInput action.1.around action.1.normalData action.1.inputIdx = .ok read ∧
    next = read.controller ∧
    action.2 = controller.reads action.1 ++ read.sent.map .output

/-- A new controller after `Initialize` or some turns after that, with all its calls. -/
inductive Lives (fresh : Controller) (around : SetupSurroundings) (device : UsbDevice) :
    List UsbCall → Controller → Prop
  | initialized : Lives fresh around device (fresh.initializeTraced around device).2.2
      (fresh.initializeTraced around device).2.1
  | reading {turns last} (success : (fresh.initializeTraced around device).1 = .success)
      (run : Run turnStep (fresh.initializeTraced around device).2.1 turns last) :
      Lives fresh around device
        ((fresh.initializeTraced around device).2.2 ++ turns.flatMap Prod.snd) last

/-- What `Exit` sends before the device is closed. -/
def Controller.exitSends (controller : Controller) : Exec (List Output) :=
  match controller.driver with
  | .xbox360Wireless state => (state.closeInterfaces controller.base).map Prod.snd
  | _ => .ok []

/-! A queue loses as many outcomes as there were reads of its endpoint. -/

namespace BaseController

theorem drain_pending (endpointIdx capacity room : Nat) (pending : List ReadOutcome)
    (buffer : Buffer) (latestSize : Nat) :
    (drain capacity pending buffer latestSize).pending =
      pending.drop (drainReads endpointIdx capacity room pending).length := by
  induction pending generalizing buffer latestSize with
  | nil => rfl
  | cons outcome rest ih =>
      simp only [drain, drainReads, List.length_cons, List.drop_succ_cons]
      split
      · rfl
      · exact ih _ _

theorem readEndpointLatest_pending (endpointIdx wMaxPacketSize : Nat) (pending : List ReadOutcome)
    (buffer : Buffer) (size room timeoutUs : Nat) :
    (readEndpointLatest wMaxPacketSize pending buffer size).pending =
      pending.drop
        (latestReads endpointIdx wMaxPacketSize pending size room timeoutUs).length := by
  cases pending with
  | nil => rfl
  | cons outcome rest =>
      rw [readEndpointLatest_cons]
      simp only [latestReads, List.length_cons, List.drop_succ_cons]
      by_cases failed : outcome.status ≠ .success
      · rw [if_pos failed, if_pos (Or.inl failed)]
        rfl
      · by_cases empty : (outcome.bytes.take (min wMaxPacketSize size)).length = 0
        · rw [if_neg failed, if_pos empty, if_pos (Or.inr empty)]
          rfl
        · rw [if_neg failed, if_neg empty, if_neg (not_or.mpr ⟨failed, empty⟩)]
          exact drain_pending endpointIdx _ room rest _ _

end BaseController

def UsbCall.readsFrom (endpointIdx : Nat) : UsbCall → Bool
  | .read idx _ _ _ => idx = endpointIdx
  | _ => false

namespace BaseController

theorem mem_drainReads {endpointIdx capacity room : Nat} {pending : List ReadOutcome}
    {call : UsbCall} (made : call ∈ drainReads endpointIdx capacity room pending) :
    call = .read endpointIdx capacity (min CONTROLLER_INPUT_BUFFER_SIZE room) 0 := by
  induction pending with
  | nil => exact List.mem_singleton.mp made
  | cons outcome rest ih =>
      rw [drainReads] at made
      rcases List.mem_cons.mp made with rfl | later
      · rfl
      · split at later
        · cases later
        · exact ih later

theorem mem_latestReads {endpointIdx wMaxPacketSize size room timeoutUs : Nat}
    {pending : List ReadOutcome} {call : UsbCall}
    (made : call ∈ latestReads endpointIdx wMaxPacketSize pending size room timeoutUs) :
    call = .read endpointIdx (min wMaxPacketSize size) room timeoutUs ∨
      call = .read endpointIdx (min wMaxPacketSize size)
        (min CONTROLLER_INPUT_BUFFER_SIZE room) 0 := by
  rcases List.mem_cons.mp made with rfl | later
  · exact Or.inl rfl
  · right
    cases pending with
    | nil => cases later
    | cons outcome rest =>
        simp only at later
        split at later
        · cases later
        · exact mem_drainReads later

variable {base : BaseController} {pending : Pending}

theorem countP_pipeReads (endpointIdx place size room timeoutUs : Nat) :
    (base.pipeReads endpointIdx pending size room timeoutUs).countP (UsbCall.readsFrom place) =
      if endpointIdx = place then (base.pipeReads endpointIdx pending size room timeoutUs).length
      else 0 := by
  split
  · rename_i same
    refine List.countP_eq_length.mpr fun call made => ?_
    rcases mem_latestReads made with rfl | rfl
    · exact decide_eq_true same
    · exact decide_eq_true same
  · rename_i other
    refine List.countP_eq_zero.mpr fun call made => ?_
    rcases mem_latestReads made with rfl | rfl
    · simpa [UsbCall.readsFrom] using other
    · simpa [UsbCall.readsFrom] using other

theorem readPipe_pending (base : BaseController) (endpointIdx : Nat) (pending : Pending)
    (buffer : Buffer) (size room timeoutUs place : Nat) :
    (base.readPipe endpointIdx pending buffer size).2 place =
      (pending place).drop ((base.pipeReads endpointIdx pending size room timeoutUs).countP
        (UsbCall.readsFrom place)) := by
  rw [countP_pipeReads]
  by_cases same : endpointIdx = place
  · subst same
    rw [if_pos rfl]
    exact (Function.update_self _ _ _).trans (readEndpointLatest_pending endpointIdx _ _ _ _ _ _)
  · rw [if_neg same, List.drop_zero]
    exact Function.update_of_ne (Ne.symm same) _ _

theorem fastPass_pending (base : BaseController) (size inputIdx room : Nat) (pending : Pending)
    (buffer : Buffer) (remaining i place : Nat) :
    (base.fastPass size inputIdx remaining i pending buffer).pending place =
      (pending place).drop ((base.fastPassReads size room remaining i pending buffer).countP
        (UsbCall.readsFrom place)) := by
  induction remaining generalizing i pending buffer with
  | zero => rfl
  | succ remaining ih =>
      let endpointIdx := (base.currentControllerIdx + i) % base.inPipe.length
      have read := readPipe_pending base endpointIdx pending buffer size room 0 place
      simp only [fastPass, fastPassReads, List.countP_append]
      split
      · simpa using read
      · rw [ih, read, List.drop_drop]

/-- Each queue loses an outcome for each of the reads of its endpoint. -/
theorem readNextBuffer_pending (base : BaseController) (pending : Pending) (buffer : Buffer)
    (size inputIdx room timeoutUs place : Nat) :
    (base.readNextBuffer pending buffer size inputIdx).pending place =
      (pending place).drop ((base.nextReads pending buffer size inputIdx room timeoutUs).countP
        (UsbCall.readsFrom place)) := by
  have swept := base.fastPass_pending size inputIdx room pending buffer base.inPipe.length 0 place
  unfold readNextBuffer nextReads
  split
  · rfl
  · simp only [List.countP_append]
    split
    · simpa using swept
    · rw [← List.drop_drop, ← swept, ← readPipe_pending]
      split <;> rfl

end BaseController

end SysCon
