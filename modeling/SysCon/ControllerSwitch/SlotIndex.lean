import SysCon.ControllerLib.ReadPath
import SysCon.ControllerSwitch.HandlerInvariant

/-!
Whether the index of an input stays inside the arrays with one entry for each
input. The index of a driver that reads its endpoints with `ReadNextBuffer` of
`BaseController` is the number of an endpoint, and nothing bounds that number.
-/

namespace SysCon

def Fault.IsSlot : Fault → Prop
  | .slotIndex _ => True
  | _ => False

namespace Driver

theorem setUp_same (driver : Driver) (answers : SetupAnswers) (base : BaseController) :
    (driver.setUp answers base).2.kind = driver.kind ∧
      (driver.setUp answers base).2.port = driver.port := by
  cases driver <;> exact ⟨rfl, rfl⟩

end Driver

/-- No endpoint after the fourth can deliver a byte. -/
def NoFifthEndpoint (base : BaseController) : Prop :=
  ∀ endpointIdx, CONTROLLER_MAX_INPUTS ≤ endpointIdx → base.maxPacketSize endpointIdx = 0

theorem noFifthEndpoint_of_length {base : BaseController}
    (few : base.inPipe.length ≤ CONTROLLER_MAX_INPUTS) : NoFifthEndpoint base := by
  intro endpointIdx outside
  by_contra delivers
  have listed := BaseController.lt_of_maxPacketSize_pos (Nat.pos_of_ne_zero delivers)
  omega

/-! A controller whose initialisation succeeded. -/

structure Started (kind : DriverKind) (memory : Buffer) (flags : Slots Bool)
    (config : ControllerConfig) (answers : SetupAnswers) (device : UsbDevice)
    (controller : Controller) : Prop where
  initialized : Controller.initializeController
    { driver := Driver.create memory flags kind, config } answers device = (.success, controller)

namespace Started

variable {kind : DriverKind} {memory : Buffer} {flags : Slots Bool} {config : ControllerConfig}
  {answers : SetupAnswers} {device : UsbDevice} {controller : Controller}

theorem facts (started : Started kind memory flags config answers device controller) :
    controller.driver.kind = kind ∧
      controller.driver.port = 0 ∧ controller.config = config := by
  have created : (Driver.create memory flags kind).kind = kind ∧
      (Driver.create memory flags kind).port = 0 := by
    cases kind <;> exact ⟨rfl, rfl⟩
  have initialized := started.initialized
  simp only [Controller.initializeController] at initialized
  split at initialized
  · rename_i failed
    exact absurd (congrArg Prod.fst initialized) failed
  · obtain ⟨_, sameController⟩ := Prod.mk.inj initialized
    rw [← sameController]
    have same := Driver.setUp_same (Driver.create memory flags kind) answers
      ((Driver.create memory flags kind).openInterfaces answers device {}).2
    exact ⟨same.1.trans created.1, same.2.trans created.2, rfl⟩

end Started

namespace SwitchVirtualGamepadHandler

section Safe

variable {pads given : Type} {backend : GamepadBackend pads given}

/-- No run of the input thread indexes one of the arrays past its end. -/
def SlotSafe (backend : GamepadBackend pads given) (controller : Controller) : Prop :=
  ∀ handler calls index,
    onRun backend calls (controller, handler) ≠ .error (.slotIndex index)

theorem mapping_avoids_slot (config : ControllerConfig) (rawData : RawInputData)
    (normalData : NormalizedButtonData) :
    (BaseController.mapRawInputToNormalized config rawData normalData).Avoids Fault.IsSlot :=
  BaseController.mapRawInputToNormalized_avoids (fun _ _ _ _ isSlot => isSlot) rawData normalData

theorem isControllerConnected_finishes (driver : Driver) {inputIdx : Nat}
    (bound : inputIdx < CONTROLLER_MAX_INPUTS) :
    (driver.isControllerConnected inputIdx).Finishes := by
  have harmless : CONTROLLER_MAX_INPUTS ≤ inputIdx → ¬True := by omega
  cases driver with
  | xbox360Wireless state => exact Slots.fetch_avoids _ harmless
  | steamController2026 state => exact Slots.fetch_avoids _ harmless
  | wii state => exact Slots.fetch_avoids _ harmless
  | _ => exact Exec.Avoids.ok _

theorem handleInput_avoids {bad : Fault → Prop}
    (backendAvoids : ∀ answers current state inputIdx,
      (backend.updateControllerState answers current state inputIdx).Avoids bad)
    (answers : given) (handler : SwitchVirtualGamepadHandler pads) (read : InputRead) :
    (handleInput backend answers handler read).Avoids bad := by
  apply Exec.Avoids.ite (fun _ => .pure _)
  intro _
  apply Exec.Avoids.ite (fun _ => .pure _)
  intro _
  exact .bind (backendAvoids _ _ _ _) (fun _ _ => .pure _)

theorem updateInput_avoids_slot
    (backendAvoids : ∀ answers current state inputIdx,
      (backend.updateControllerState answers current state inputIdx).Avoids Fault.IsSlot)
    {controller : Controller} (narrow : controller.Narrow) (answers : given)
    (around : Surroundings) (handler : SwitchVirtualGamepadHandler pads) :
    (updateInput backend answers around controller handler).Avoids Fault.IsSlot := by
  apply Exec.Avoids.bind ((Controller.readInput_finishes narrow around {}).mono fun _ _ => trivial)
  intro read finished
  obtain ⟨_, source⟩ := Controller.readInput_progress finished
  have bound := source.bound narrow
  apply Exec.Avoids.bind
  · rcases Controller.readInput_normal finished with unread | ⟨rawData, mapped⟩
    · rw [unread]
      exact .ok _
    · rw [mapped]
      exact mapping_avoids_slot _ _ _
  · intro normal _
    rw [dif_pos bound]
    apply Exec.Avoids.bind ((isControllerConnected_finishes _ bound).mono fun _ _ => trivial)
    intro connected _
    exact .bind (handleInput_avoids backendAvoids _ _ _) (fun _ _ => .pure _)

theorem runOnce_progress {state next : Controller × SwitchVirtualGamepadHandler pads}
    {call : UpdateCall given} (step : runOnce backend state call = .ok next) :
    Controller.Progress state.1 next.1 := by
  obtain ⟨⟨result, controller, handler⟩, updates, same⟩ := Exec.bind_eq_ok step
  cases same
  obtain ⟨read, _, _, _, finished, sameController, _⟩ := updateInput_handleInput updates
  rw [← sameController]
  exact (Controller.readInput_progress finished).1

theorem hdl_avoids_slot (answers : HiddbgAnswers) (current : HdlPads) (state : GamepadState)
    (inputIdx : InputIdx) :
    (SwitchHDLHandler.backend.updateControllerState answers current state inputIdx).Avoids
      Fault.IsSlot := .ok _

theorem mitm_avoids_slot (answers : MitmAnswers) (current : MitmPads) (state : GamepadState)
    (inputIdx : InputIdx) :
    (SwitchMITMHandler.backend.updateControllerState answers current state inputIdx).Avoids
      Fault.IsSlot := by
  simp only [SwitchMITMHandler.backend, SwitchMITMHandler.updateControllerState]
  split
  · intro fault isSlot same
    simp only [Except.error.injEq] at same
    subst fault
    exact isSlot
  · exact .ok _

theorem slotSafe_of_narrow
    (backendAvoids : ∀ answers current state inputIdx,
      (backend.updateControllerState answers current state inputIdx).Avoids Fault.IsSlot)
    {controller : Controller} (narrow : controller.Narrow) : SlotSafe backend controller := by
  intro handler calls index
  suffices safe : ∀ (state : Controller × SwitchVirtualGamepadHandler pads), state.1.Narrow →
      (onRun backend calls state).Avoids Fault.IsSlot from
    safe (controller, handler) narrow _ trivial
  induction calls with
  | nil => exact fun state _ => .pure state
  | cons call rest ih =>
      intro state narrow
      unfold onRun
      rw [List.foldlM_cons]
      apply Exec.Avoids.bind
      · exact .bind (updateInput_avoids_slot backendAvoids narrow _ _ _) (fun _ _ => .pure _)
      · intro next step
        exact ih next ((runOnce_progress step).narrow narrow)

end Safe

/-! The other direction: a report of one byte at an endpoint after the fourth. -/

section Unsafe

variable {pads given : Type} {backend : GamepadBackend pads given}

def strayReport : List UInt8 := [0xFF]

def strayAt (endpointIdx : Nat) : Surroundings :=
  Controller.reportAt endpointIdx strayReport none

theorem parseData_stray {driver : Driver} (base : BaseController) (buffer : Buffer)
    {endpointIdx : Nat} (notWii : driver.kind ≠ .wii)
    (outside : CONTROLLER_MAX_INPUTS ≤ endpointIdx) :
    driver.parseData base (strayAt endpointIdx) buffer 1 {} endpointIdx =
        .error (.slotIndex endpointIdx) ∨
      ∃ parsed, driver.parseData base (strayAt endpointIdx) buffer 1 {} endpointIdx = .ok parsed ∧
        parsed.status ≠ .success ∧ parsed.inputIdx = endpointIdx := by
  by_cases generic : driver.kind = .genericHID
  · cases driver <;> simp only [Driver.kind, reduceCtorEq] at generic
    exact Or.inr ⟨_, rfl, ControllerResult.noConfusion, rfl⟩
  · cases parses : driver.parseData base (strayAt endpointIdx) buffer 1 {} endpointIdx with
    | error fault =>
        have onlyFault : (driver.parseData base (strayAt endpointIdx) buffer 1 {}
            endpointIdx).Avoids (fun fault => fault ≠ .slotIndex endpointIdx) :=
          Driver.parseData_avoids (fun _ other => other rfl)
        by_cases same : fault = .slotIndex endpointIdx
        · exact Or.inl (by rw [same])
        · exact absurd parses (onlyFault fault same)
    | ok parsed =>
        have decoded := Driver.parseData_decoded (by decide) parses
        refine Or.inr ⟨parsed, rfl, fun success => ?_, ?_⟩
        · have enough := decoded.enough success
          have large : 1 < Driver.smallestReport driver.kind := by
            cases kindIs : driver.kind <;>
              first | decide | exact absurd kindIs generic
          omega
        · rcases decoded.index with same | ⟨first, _⟩
          · exact same
          · omega

theorem updateInput_stray {controller : Controller} {endpointIdx : Nat}
    (notWii : controller.driver.kind ≠ .wii)
    (positive : 0 < controller.base.maxPacketSize endpointIdx)
    (outside : CONTROLLER_MAX_INPUTS ≤ endpointIdx) (answers : given)
    (handler : SwitchVirtualGamepadHandler pads) :
    updateInput backend answers (strayAt endpointIdx) controller handler =
      .error (.slotIndex endpointIdx) := by
  have report : strayReport ≠ [] := by decide
  obtain ⟨base, reads⟩ :=
    Controller.readInput_reportAt {} none notWii report (by decide) positive
  have size : strayReport.length = 1 := rfl
  rw [size] at reads
  unfold updateInput strayAt
  rw [reads]
  rcases parseData_stray base (Buffer.write (fun _ => 0) strayReport) notWii outside with
    faults | ⟨parsed, parses, rejected, sameIdx⟩
  · rw [strayAt] at faults
    rw [faults]
    rfl
  · rw [strayAt] at parses
    rw [parses]
    have unread : (controller.afterParse base {} parsed).normal = .ok {} := if_pos rejected
    have index : ¬(controller.afterParse base {} parsed).inputIdx < CONTROLLER_MAX_INPUTS := by
      simp only [Controller.afterParse, sameIdx]
      omega
    simp only [Except.map, bind, Except.bind, unread]
    rw [dif_neg index]
    simp only [Controller.afterParse, sameIdx]

theorem not_slotSafe_of_stray {controller : Controller} {endpointIdx : Nat}
    (notWii : controller.driver.kind ≠ .wii)
    (positive : 0 < controller.base.maxPacketSize endpointIdx)
    (outside : CONTROLLER_MAX_INPUTS ≤ endpointIdx) (answers : given)
    (handler : SwitchVirtualGamepadHandler pads) : ¬SlotSafe backend controller := by
  intro safe
  apply safe handler [⟨answers, strayAt endpointIdx⟩] endpointIdx
  simp only [onRun, List.foldlM_cons, runOnce,
    updateInput_stray notWii positive outside answers handler]
  rfl

theorem slotSafe_iff_of_avoids
    (backendAvoids : ∀ answers current state inputIdx,
      (backend.updateControllerState answers current state inputIdx).Avoids Fault.IsSlot)
    (answers : given) (handler : SwitchVirtualGamepadHandler pads) {controller : Controller}
    (port : controller.driver.port < CONTROLLER_MAX_INPUTS) :
    SlotSafe backend controller ↔
      controller.driver.kind = .wii ∨ NoFifthEndpoint controller.base := by
  constructor
  · intro safe
    by_contra missing
    simp only [NoFifthEndpoint, not_or, not_forall] at missing
    obtain ⟨notWii, endpointIdx, outside, large⟩ := missing
    exact not_slotSafe_of_stray notWii (Nat.pos_of_ne_zero large) outside answers handler safe
  · intro condition
    exact slotSafe_of_narrow backendAvoids ⟨port, condition⟩

end Unsafe

theorem slotSafe_iff_noFifthEndpoint {kind : DriverKind} {memory : Buffer} {flags : Slots Bool}
    {config : ControllerConfig} {answers : SetupAnswers} {device : UsbDevice}
    {controller : Controller}
    (started : Started kind memory flags config answers device controller) :
    (SlotSafe SwitchHDLHandler.backend controller ↔ kind = .wii ∨ NoFifthEndpoint controller.base) ∧
    (SlotSafe SwitchMITMHandler.backend controller ↔
      kind = .wii ∨ NoFifthEndpoint controller.base) := by
  obtain ⟨sameKind, port, _⟩ := started.facts
  have inside : controller.driver.port < CONTROLLER_MAX_INPUTS := by
    rw [port]
    decide
  rw [← sameKind]
  exact ⟨slotSafe_iff_of_avoids hdl_avoids_slot ⟨.error 1, 0⟩ { pads := {} } inside,
    slotSafe_iff_of_avoids mitm_avoids_slot ⟨none, 0⟩ { pads := {} } inside⟩

/-! A wired pad with one IN endpoint, and the receiver with five interfaces of one each. -/

def inEndpointOnly (wMaxPacketSize : Nat) : UsbInterface where
  inEndpoints := (Vector.replicate SWITCH_USB_MAX_ENDPOINTS none).set 0 (some { wMaxPacketSize })
  outEndpoints := Vector.replicate SWITCH_USB_MAX_ENDPOINTS none

def wiredPad : Controller where
  base := { inPipe := [⟨0, 32⟩], interfaces := [0] }
  driver := .xbox360

theorem wiredPad_started : Started .xbox360 (fun _ => 0) (Vector.replicate _ false) {} {}
    { interfaces := [inEndpointOnly 32] } wiredPad := ⟨rfl⟩

theorem wiredPad_slotSafe :
    SlotSafe SwitchHDLHandler.backend wiredPad ∧ SlotSafe SwitchMITMHandler.backend wiredPad := by
  obtain ⟨hdl, mitm⟩ := slotSafe_iff_noFifthEndpoint wiredPad_started
  have noFifth : NoFifthEndpoint wiredPad.base := noFifthEndpoint_of_length (by decide)
  exact ⟨hdl.mpr (Or.inr noFifth), mitm.mpr (Or.inr noFifth)⟩

def puckController : Controller where
  base :=
    { inPipe := (List.range 5).map fun interface => ⟨interface, 64⟩
      interfaces := List.replicate 5 0 }
  driver := Driver.create (fun _ => 0) (Vector.replicate _ false) .steamController2026

theorem puck_started : Started .steamController2026 (fun _ => 0) (Vector.replicate _ false) {} {}
    { interfaces := List.replicate 5 (inEndpointOnly 64) } puckController := ⟨rfl⟩

theorem puck_not_slotSafe :
    ¬∀ (kind : DriverKind) (memory : Buffer) (flags : Slots Bool) (config : ControllerConfig)
      (answers : SetupAnswers) (device : UsbDevice) (controller : Controller),
      Started kind memory flags config answers device controller →
        SlotSafe SwitchHDLHandler.backend controller ∧
        SlotSafe SwitchMITMHandler.backend controller := by
  intro always
  have safe := (always _ _ _ _ _ _ _ puck_started).1
  have notWii : puckController.driver.kind ≠ .wii := by decide
  have positive : 0 < puckController.base.maxPacketSize 4 := by decide
  exact not_slotSafe_of_stray notWii positive (Nat.le_refl 4) ⟨.error 1, 0⟩ { pads := {} } safe

end SwitchVirtualGamepadHandler

end SysCon
