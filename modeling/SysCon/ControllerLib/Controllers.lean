import SysCon.ControllerLib.Mapping
import SysCon.ControllerLib.Controllers.Wired
import SysCon.ControllerLib.Controllers.Xbox360Wireless
import SysCon.ControllerLib.Controllers.XboxOne
import SysCon.ControllerLib.Controllers.SteamController2026
import SysCon.ControllerLib.Controllers.Wii
import SysCon.ControllerLib.Controllers.GenericHID

/-!
A controller: the common part, the state of its driver and its configuration,
with the virtual methods of `IController` resolved by driver.
-/

namespace SysCon

inductive Driver
  | xbox
  | xbox360
  | dualshock3
  | xbox360Wireless (state : Xbox360WirelessController)
  | xboxOne (state : XboxOneController)
  | switch (state : SwitchController)
  | steamController2026 (state : SteamController2026)
  | wii (state : WiiController)
  | genericHID (state : GenericHIDController)

inductive DriverKind
  | xbox | xbox360 | dualshock3 | xbox360Wireless | xboxOne | switch | steamController2026 | wii
  | genericHID
  deriving DecidableEq, Repr

/-- What the device answers during `Initialize`, beyond the opening of its parts. -/
structure SetupAnswers where
  startDevice : ControllerResult := .success
  initBytes : ControllerResult := .success
  hidDescriptor : ControllerResult := .success
  joystickCount : UInt8 := 0

/-- What one `ReadInput` meets: the endpoints, uninitialised stack bytes, the results of writes,
and what the joystick of a generic driver makes of the report. -/
structure Surroundings where
  pending : Pending := fun _ => []
  stack : Buffer := fun _ => 0
  writeResults : WriteResults := fun _ _ => .success
  joystick : Option HIDJoystickData := none

structure Controller where
  base : BaseController := {}
  driver : Driver
  config : ControllerConfig := {}

namespace Driver

def kind : Driver → DriverKind
  | .xbox => .xbox
  | .xbox360 => .xbox360
  | .dualshock3 => .dualshock3
  | .xbox360Wireless _ => .xbox360Wireless
  | .xboxOne _ => .xboxOne
  | .switch _ => .switch
  | .steamController2026 _ => .steamController2026
  | .wii _ => .wii
  | .genericHID _ => .genericHID

-- The constructors; `memory` and `flags` are what they leave uninitialised.
def create (memory : Buffer) (flags : Slots Bool) : DriverKind → Driver
  | .xbox => .xbox
  | .xbox360 => .xbox360
  | .dualshock3 => .dualshock3
  | .xbox360Wireless => .xbox360Wireless {}
  | .xboxOne => .xboxOne {}
  | .switch => .switch {}
  | .steamController2026 => .steamController2026 (SteamController2026.create {})
  | .wii => .wii { buffer := memory, rumbleSupported := flags }
  | .genericHID => .genericHID {}

def openInterfaces (driver : Driver) (answers : SetupAnswers) (device : UsbDevice)
    (base : BaseController) : ControllerResult × BaseController :=
  match driver with
  | .xbox360Wireless _ => Xbox360WirelessController.openInterfaces device base
  | .dualshock3 =>
      let (result, base) := base.openInterfaces device
      if result ≠ .success then (result, base) else (answers.startDevice, base)
  | _ => base.openInterfaces device

-- The part of `Initialize` after the interfaces were opened.
def setUp (driver : Driver) (answers : SetupAnswers) (base : BaseController) :
    ControllerResult × Driver :=
  match driver with
  | .xboxOne _ => (answers.initBytes, driver)
  | .switch _ => (if base.outPipe.isEmpty then .invalidEndpoint else .success, driver)
  | .wii _ => (if base.outPipe.isEmpty then .invalidEndpoint else .success, driver)
  | .genericHID _ =>
      let (result, state) :=
        GenericHIDController.initializeJoystick answers.hidDescriptor answers.joystickCount
      (result, .genericHID state)
  | _ => (.success, driver)

def getInputCount : Driver → Nat
  | .xbox360Wireless _ => Xbox360WirelessController.XBOX360_MAX_INPUTS
  | .steamController2026 state => state.controllerCount
  | .wii _ => WiiController.WII_MAX_INPUTS
  | .genericHID state => state.getInputCount
  | _ => 1

def getMaxInputBufferSize : Driver → Nat
  | .switch _ => SwitchController.SWITCH_INPUT_BUFFER_SIZE
  | _ => CONTROLLER_INPUT_BUFFER_SIZE

def isControllerConnected (driver : Driver) (inputIdx : Nat) : Exec Bool :=
  match driver with
  | .xbox360Wireless state => state.isControllerConnected inputIdx
  | .steamController2026 state => state.isControllerConnected inputIdx
  | .wii state => state.isControllerConnected inputIdx
  | _ => .ok true

def readNextBuffer (driver : Driver) (base : BaseController) (pending : Pending) (buffer : Buffer)
    (size inputIdx : Nat) : BaseController.NextBuffer × Driver :=
  match driver with
  | .wii state =>
      let (next, state) := state.readNextBuffer base pending buffer inputIdx
      (next, .wii state)
  | driver => (base.readNextBuffer pending buffer size inputIdx, driver)

end Driver

def Parsed.map {state other : Type} (wrap : state → other) (parsed : Parsed state) : Parsed other :=
  ⟨parsed.status, parsed.rawData, parsed.inputIdx, wrap parsed.state, parsed.sent⟩

namespace Driver

def parseData (driver : Driver) (base : BaseController) (around : Surroundings) (buffer : Buffer)
    (size : Nat) (rawData : RawInputData) (inputIdx : Nat) : Exec (Parsed Driver) :=
  match driver with
  | .xbox =>
      .ok ((XboxController.parseData buffer size rawData inputIdx).map fun _ => .xbox)
  | .xbox360 =>
      .ok ((Xbox360Controller.parseData buffer size rawData inputIdx).map fun _ => .xbox360)
  | .dualshock3 =>
      .ok ((Dualshock3Controller.parseData buffer size rawData inputIdx).map fun _ => .dualshock3)
  | .xbox360Wireless state =>
      (state.parseData base buffer size rawData inputIdx).map (Parsed.map .xbox360Wireless)
  | .xboxOne state =>
      .ok ((state.parseData base around.writeResults buffer size rawData inputIdx).map .xboxOne)
  | .switch state => .ok ((state.parseData buffer size rawData inputIdx).map .switch)
  | .steamController2026 state =>
      (state.parseData base buffer size rawData inputIdx).map (Parsed.map .steamController2026)
  | .wii state => (state.parseData buffer size rawData inputIdx).map (Parsed.map .wii)
  | .genericHID state =>
      .ok ((state.parseData around.joystick rawData inputIdx).map .genericHID)

end Driver

-- A fault of the mapping comes after the state of the driver has changed, hence `normal`.
structure ReadInput where
  status : ControllerResult
  inputIdx : Nat
  normal : Exec NormalizedButtonData
  controller : Controller
  sent : List Output

namespace Controller

def initializeController (controller : Controller) (answers : SetupAnswers) (device : UsbDevice) :
    ControllerResult × Controller :=
  let (result, base) := controller.driver.openInterfaces answers device controller.base
  if result ≠ .success then (result, { controller with base })
  else
    let (result, driver) := controller.driver.setUp answers base
    (result, { controller with base, driver })

def readInput (controller : Controller) (around : Surroundings) (normalData : NormalizedButtonData)
    (inputIdx : Nat) : Exec ReadInput := do
  let size := min CONTROLLER_INPUT_BUFFER_SIZE controller.driver.getMaxInputBufferSize
  let (next, driver) :=
    controller.driver.readNextBuffer controller.base around.pending around.stack size inputIdx
  let controller := { controller with base := next.base, driver }
  if next.status ≠ .success then
    return ⟨next.status, next.inputIdx, .ok normalData, controller, []⟩
  else
    let parsed ← driver.parseData next.base around next.buffer next.size {} next.inputIdx
    let controller := { controller with driver := parsed.state }
    if parsed.status ≠ .success then
      return ⟨parsed.status, parsed.inputIdx, .ok normalData, controller, parsed.sent⟩
    else
      return ⟨.success, parsed.inputIdx,
        BaseController.mapRawInputToNormalized controller.config parsed.rawData normalData,
        controller, parsed.sent⟩

/-- `Exit`; only the wireless receiver does more than to close the device. -/
def exit (controller : Controller) : Exec Controller :=
  match controller.driver with
  | .xbox360Wireless state => do
      let (state, _) ← state.closeInterfaces controller.base
      return { controller with driver := .xbox360Wireless state }
  | _ => .ok controller

end Controller

end SysCon
