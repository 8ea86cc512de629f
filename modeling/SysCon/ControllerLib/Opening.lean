import Mathlib.Data.List.ReduceOption
import SysCon.ControllerLib.Controllers

/-!
Which devices a driver accepts: `Initialize` succeeds exactly when every part of
the device opens, there is an IN endpoint, and the needs of the driver are met.
-/

namespace SysCon

inductive Direction
  | input
  | output
  deriving DecidableEq, Repr

def UsbInterface.endpoints (interface : UsbInterface) :
    Direction → Vector (Option UsbEndpoint) SWITCH_USB_MAX_ENDPOINTS
  | .input => interface.inEndpoints
  | .output => interface.outEndpoints

def UsbInterface.listed (interface : UsbInterface) (direction : Direction) : List UsbEndpoint :=
  (interface.endpoints direction).toList.reduceOption

def UsbInterface.pipes (interface : UsbInterface) (direction : Direction) (idx : Nat) :
    List Pipe :=
  (interface.listed direction).map fun endpoint => ⟨idx, endpoint.wMaxPacketSize⟩

structure UsbInterface.AllOpen (interface : UsbInterface) : Prop where
  session : interface.openResult = .success
  endpoints : ∀ direction, ∀ endpoint ∈ interface.listed direction,
    endpoint.openResult = .success

structure UsbDevice.AllOpen (device : UsbDevice) : Prop where
  opened : device.openResult = .success
  interfaces : ∀ interface ∈ device.interfaces, interface.AllOpen

def endpointCount (interfaces : List UsbInterface) (direction : Direction) : Nat :=
  (interfaces.map fun interface => (interface.listed direction).length).sum

/-- What a driver asks for besides an IN endpoint, given the number of endpoints. -/
def Driver.Accepts (driver : Driver) (answers : SetupAnswers) (count : Direction → Nat) : Prop :=
  match driver with
  | .xbox360Wireless _ => Xbox360WirelessController.XBOX360_MAX_INPUTS ≤ count .input
  | .dualshock3 => answers.startDevice = .success
  | .xboxOne _ => answers.initBytes = .success
  | .switch _ => 0 < count .output
  | .wii _ => 0 < count .output
  | .genericHID _ => answers.hidDescriptor = .success ∧ answers.joystickCount ≠ 0
  | _ => True

namespace BaseController

theorem openEndpoints_success_iff (interface : Nat) (endpoints : List (Option UsbEndpoint))
    (pipes : List Pipe) :
    (openEndpoints interface endpoints pipes).1 = .success ↔
      ∀ endpoint ∈ endpoints.reduceOption, endpoint.openResult = .success := by
  induction endpoints generalizing pipes with
  | nil => simp [openEndpoints]
  | cons slot rest ih =>
      cases slot with
      | none => simpa [openEndpoints] using ih pipes
      | some endpoint =>
          by_cases opened : endpoint.openResult = .success
          · simpa [openEndpoints, opened] using ih _
          · simp [openEndpoints, opened]

theorem openEndpoints_eq {interface : Nat} {endpoints : List (Option UsbEndpoint)}
    {pipes : List Pipe} (passed : (openEndpoints interface endpoints pipes).1 = .success) :
    (openEndpoints interface endpoints pipes).2 =
      pipes ++ endpoints.reduceOption.map fun endpoint => ⟨interface, endpoint.wMaxPacketSize⟩ := by
  induction endpoints generalizing pipes with
  | nil => simp [openEndpoints]
  | cons slot rest ih =>
      cases slot with
      | none => simpa [openEndpoints] using ih (by simpa [openEndpoints] using passed)
      | some endpoint =>
          have opened : endpoint.openResult = .success :=
            (openEndpoints_success_iff interface _ pipes).mp passed endpoint (by simp)
          simp only [openEndpoints, opened, ne_eq, not_true_eq_false, if_false] at passed ⊢
          rw [ih passed, List.reduceOption_cons_of_some, List.map_cons, List.append_assoc]
          rfl

structure Grown (base grown : BaseController) (inputs outputs : Nat) : Prop where
  inputs : grown.inPipe.length = base.inPipe.length + inputs
  outputs : grown.outPipe.length = base.outPipe.length + outputs

def withInterface (base : BaseController) (interface : UsbInterface) : BaseController where
  inPipe := base.inPipe ++ interface.pipes .input base.interfaces.length
  outPipe := base.outPipe ++ interface.pipes .output base.interfaces.length
  interfaces := base.interfaces ++ [interface.bInterfaceNumber]
  currentControllerIdx := base.currentControllerIdx

theorem grown_withInterface (base : BaseController) (interface : UsbInterface) :
    Grown base (base.withInterface interface) (interface.listed .input).length
      (interface.listed .output).length :=
  ⟨by simp [withInterface, UsbInterface.pipes], by simp [withInterface, UsbInterface.pipes]⟩

theorem openInterface_of_allOpen {interface : UsbInterface} (all : interface.AllOpen)
    (base : BaseController) :
    openInterface interface base = (.success, base.withInterface interface) := by
  have inputs := (openEndpoints_success_iff base.interfaces.length interface.inEndpoints.toList
    base.inPipe).mpr (all.endpoints .input)
  have outputs := (openEndpoints_success_iff base.interfaces.length interface.outEndpoints.toList
    base.outPipe).mpr (all.endpoints .output)
  simp only [openInterface, all.session, inputs, outputs, ne_eq, not_true_eq_false, if_false,
    openEndpoints_eq inputs, openEndpoints_eq outputs]
  rfl

theorem openInterface_success_iff (interface : UsbInterface) (base : BaseController) :
    (openInterface interface base).1 = .success ↔ interface.AllOpen := by
  constructor
  · intro passed
    by_cases session : interface.openResult = .success
    · have inputs := openEndpoints_success_iff base.interfaces.length
        interface.inEndpoints.toList base.inPipe
      have outputs := openEndpoints_success_iff base.interfaces.length
        interface.outEndpoints.toList base.outPipe
      by_cases inSame : (openEndpoints base.interfaces.length interface.inEndpoints.toList
          base.inPipe).1 = .success
      · by_cases outSame : (openEndpoints base.interfaces.length interface.outEndpoints.toList
            base.outPipe).1 = .success
        · refine ⟨session, fun direction => ?_⟩
          cases direction with
          | input => exact inputs.mp inSame
          | output => exact outputs.mp outSame
        · simp [openInterface, session, inSame, outSame] at passed
      · simp [openInterface, session, inSame] at passed
    · simp [openInterface, session] at passed
  · intro all
    rw [openInterface_of_allOpen all base]

theorem openEach_success_iff (interfaces : List UsbInterface) (base : BaseController) :
    (openEach interfaces base).1 = .success ↔ ∀ interface ∈ interfaces, interface.AllOpen := by
  induction interfaces generalizing base with
  | nil => simp [openEach]
  | cons interface rest ih =>
      by_cases all : interface.AllOpen
      · have passed := (openInterface_success_iff interface base).mpr all
        simpa [openEach, passed, all] using ih _
      · have failed := mt (openInterface_success_iff interface base).mp all
        simp [openEach, failed, all]

theorem openEach_of_allOpen {interfaces : List UsbInterface}
    (all : ∀ interface ∈ interfaces, interface.AllOpen) (base : BaseController) :
    openEach interfaces base = (.success, interfaces.foldl withInterface base) := by
  induction interfaces generalizing base with
  | nil => rfl
  | cons interface rest ih =>
      have first := openInterface_of_allOpen (all interface List.mem_cons_self) base
      have later := ih (fun other member => all other (List.mem_cons_of_mem _ member))
        (base.withInterface interface)
      simp only [openEach, first, ne_eq, not_true_eq_false, if_false, later, List.foldl_cons]

theorem grown_openEach {interfaces : List UsbInterface}
    (all : ∀ interface ∈ interfaces, interface.AllOpen) (base : BaseController) :
    Grown base (openEach interfaces base).2 (endpointCount interfaces .input)
      (endpointCount interfaces .output) := by
  rw [openEach_of_allOpen all base]
  clear all
  induction interfaces generalizing base with
  | nil => exact ⟨rfl, rfl⟩
  | cons interface rest ih =>
      have first := grown_withInterface base interface
      have later := ih (base.withInterface interface)
      constructor
      · rw [List.foldl_cons, later.inputs, first.inputs, Nat.add_assoc]
        rfl
      · rw [List.foldl_cons, later.outputs, first.outputs, Nat.add_assoc]
        rfl

theorem openInterfaces_success_iff (device : UsbDevice) :
    (openInterfaces device {}).1 = .success ↔
      device.AllOpen ∧ 0 < endpointCount device.interfaces .input := by
  by_cases opened : device.openResult = .success
  · by_cases all : ∀ interface ∈ device.interfaces, interface.AllOpen
    · have passed := (openEach_success_iff device.interfaces {}).mpr all
      have count := (grown_openEach all {}).inputs
      have allOpen : device.AllOpen := ⟨opened, all⟩
      simp only [openInterfaces, opened, passed, ne_eq, not_true_eq_false, if_false, allOpen,
        true_and, List.isEmpty_iff_length_eq_zero, count]
      simp only [List.length_nil, Nat.zero_add]
      by_cases none : endpointCount device.interfaces .input = 0
      · simp [none]
      · simp [none, Nat.pos_of_ne_zero none]
    · have failed := mt (openEach_success_iff device.interfaces {}).mp all
      have partly : ¬device.AllOpen := fun whole => all whole.interfaces
      simp [openInterfaces, opened, failed, partly]
  · have shut : ¬device.AllOpen := fun whole => opened whole.opened
    simp [openInterfaces, opened, shut]

theorem openInterfaces_eq {device : UsbDevice}
    (passed : (openInterfaces device {}).1 = .success) :
    openInterfaces device {} = openEach device.interfaces {} := by
  obtain ⟨all, some⟩ := (openInterfaces_success_iff device).mp passed
  have each := (openEach_success_iff device.interfaces {}).mpr all.interfaces
  have listed : (openEach device.interfaces {}).2.inPipe.isEmpty = false := by
    have count := (grown_openEach all.interfaces {}).inputs
    simp only [List.length_nil, Nat.zero_add] at count
    rw [List.isEmpty_eq_false_iff_exists_mem]
    exact List.exists_mem_of_length_pos (by omega)
  simp only [openInterfaces, all.opened, each, listed, ne_eq, not_true_eq_false, if_false,
    Bool.false_eq_true]
  exact Prod.ext each.symm rfl

theorem grown_openInterfaces {device : UsbDevice}
    (passed : (openInterfaces device {}).1 = .success) :
    Grown {} (openInterfaces device {}).2 (endpointCount device.interfaces .input)
      (endpointCount device.interfaces .output) := by
  rw [openInterfaces_eq passed]
  exact grown_openEach ((openInterfaces_success_iff device).mp passed).1.interfaces {}

end BaseController

/-- `Initialize` of a new controller. -/
theorem Controller.initializeController_success_iff (driver : Driver) (config : ControllerConfig)
    (answers : SetupAnswers) (device : UsbDevice) :
    (Controller.initializeController { driver, config } answers device).1 = .success ↔
      device.AllOpen ∧ 0 < endpointCount device.interfaces .input ∧
        driver.Accepts answers (endpointCount device.interfaces) := by
  by_cases passed : (BaseController.openInterfaces device {}).1 = .success
  · have grown := BaseController.grown_openInterfaces passed
    obtain ⟨all, some⟩ := (BaseController.openInterfaces_success_iff device).mp passed
    have inputs := grown.inputs
    have outputs := grown.outputs
    simp only [List.length_nil, Nat.zero_add] at inputs outputs
    simp only [all, some, true_and]
    cases driver with
    | xbox360Wireless _ =>
        by_cases few : endpointCount device.interfaces .input <
            Xbox360WirelessController.XBOX360_MAX_INPUTS
        · simp [initializeController, Driver.openInterfaces,
            Xbox360WirelessController.openInterfaces, passed, inputs, Driver.Accepts, few]
        · simp [initializeController, Driver.openInterfaces,
            Xbox360WirelessController.openInterfaces, passed, inputs, Driver.setUp,
            Driver.Accepts, few, not_lt.mp few]
    | dualshock3 =>
        by_cases started : answers.startDevice = .success <;>
          simp [initializeController, Driver.openInterfaces, passed, started, Driver.setUp,
            Driver.Accepts]
    | switch _ =>
        simp [initializeController, Driver.openInterfaces, passed, Driver.setUp, Driver.Accepts,
          ← outputs, List.length_pos_iff]
    | wii _ =>
        simp [initializeController, Driver.openInterfaces, passed, Driver.setUp, Driver.Accepts,
          ← outputs, List.length_pos_iff]
    | genericHID _ =>
        by_cases described : answers.hidDescriptor = .success <;>
          by_cases none : answers.joystickCount = 0 <;>
          simp [initializeController, Driver.openInterfaces, passed, Driver.setUp, Driver.Accepts,
            GenericHIDController.initializeJoystick, described, none]
    | _ =>
        simp [initializeController, Driver.openInterfaces, passed, Driver.setUp, Driver.Accepts]
  · have refused : (driver.openInterfaces answers device {}).1 ≠ .success := by
      cases driver with
      | xbox360Wireless _ =>
          simp [Driver.openInterfaces, Xbox360WirelessController.openInterfaces, passed]
      | dualshock3 => simp [Driver.openInterfaces, passed]
      | _ => simpa [Driver.openInterfaces] using passed
    have missing := mt (BaseController.openInterfaces_success_iff device).mpr passed
    constructor
    · intro initialized
      simp [initializeController, refused] at initialized
    · rintro ⟨all, some, _⟩
      exact absurd ⟨all, some⟩ missing

end SysCon
