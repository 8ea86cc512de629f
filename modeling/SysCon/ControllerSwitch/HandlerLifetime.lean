import SysCon.ControllerSwitch.SlotIndex

/-!
What a handler leaves behind. `Exit` detaches the inputs below `GetInputCount()`,
so an input is left attached when a run attached one that is not below it.
-/

namespace SysCon

namespace SwitchVirtualGamepadHandler

section Exit

variable {pads given : Type} {backend : GamepadBackend pads given}

theorem detachController_ok (current : pads) {inputIdx : Nat}
    (bound : inputIdx < CONTROLLER_MAX_INPUTS) :
    detachController backend current inputIdx =
      .ok (backend.detachController current ⟨inputIdx, bound⟩) := by
  rw [detachController, dif_pos bound]

theorem detachLoop_attached (lawful : backend.Lawful) (current : pads) {count : Nat}
    (bound : count ≤ CONTROLLER_MAX_INPUTS) :
    ∃ final, (List.range count).foldlM (detachController backend) current = .ok final ∧
      ∀ slot : InputIdx, backend.isControllerAttached final slot =
        if slot.val < count then false else backend.isControllerAttached current slot := by
  induction count with
  | zero => exact ⟨current, rfl, fun slot => by simp⟩
  | succ count ih =>
      obtain ⟨detached, loops, attached⟩ := ih (by omega)
      have inside : count < CONTROLLER_MAX_INPUTS := bound
      refine ⟨backend.detachController detached ⟨count, inside⟩, ?_, ?_⟩
      · rw [List.range_succ, List.foldlM_append, loops]
        simp only [List.foldlM_cons, List.foldlM_nil, bind, Except.bind,
          detachController_ok detached inside]
        rfl
      · intro slot
        by_cases same : slot = ⟨count, inside⟩
        · subst slot
          simp [lawful.detach_self]
        · have other : slot.val ≠ count := fun equal => same (Fin.ext equal)
          rw [lawful.detach_other _ _ _ same, attached slot]
          by_cases below : slot.val < count
          · rw [if_pos below, if_pos (by omega)]
          · rw [if_neg below, if_neg (by omega)]

end Exit

end SwitchVirtualGamepadHandler

theorem Xbox360WirelessController.closeInterfaces_finishes (controller : Xbox360WirelessController)
    (base : BaseController) : (controller.closeInterfaces base).Finishes := by
  apply Exec.Avoids.foldlM
  intro current inputIdx member
  have inside : ¬CONTROLLER_MAX_INPUTS ≤ inputIdx := Nat.not_le.mpr (List.mem_range.mp member)
  have harmless : CONTROLLER_MAX_INPUTS ≤ inputIdx → ¬True := fun outside => absurd outside inside
  apply Exec.Avoids.bind (Slots.fetch_avoids _ harmless)
  intro connected _
  apply Exec.Avoids.ite _ (fun _ => .pure _)
  intro _
  exact .bind (.bind (Slots.put_avoids _ harmless _) (fun _ _ => .pure _)) (fun _ _ => .pure _)

namespace Controller

theorem exit_finishes (controller : Controller) : controller.exit.Finishes := by
  unfold exit
  split
  · rename_i state _
    exact .bind (state.closeInterfaces_finishes _) (fun _ _ => .pure _)
  · exact .ok _

theorem exit_getInputCount {controller closed : Controller}
    (exited : controller.exit = .ok closed) :
    closed.driver.getInputCount = controller.driver.getInputCount := by
  unfold exit at exited
  cases driverIs : controller.driver with
  | xbox360Wireless state =>
      simp only [driverIs] at exited
      obtain ⟨⟨closedState, _⟩, _, exited⟩ := Exec.bind_eq_ok exited
      cases exited
      rfl
  | _ =>
      simp only [driverIs] at exited
      cases exited
      rw [driverIs]

end Controller

namespace SwitchVirtualGamepadHandler

section Exit

variable {pads given : Type} {backend : GamepadBackend pads given}

theorem exit_attached (lawful : backend.Lawful) (controller : Controller)
    (handler : SwitchVirtualGamepadHandler pads)
    (bound : controller.driver.getInputCount ≤ CONTROLLER_MAX_INPUTS) :
    ∃ closed left, exit backend controller handler = .ok (closed, left) ∧
      ∀ slot : InputIdx, backend.isControllerAttached left.pads slot =
        if slot.val < controller.driver.getInputCount then false
        else backend.isControllerAttached handler.pads slot := by
  obtain ⟨closed, exited⟩ := controller.exit_finishes.exists_ok
  have sameCount := Controller.exit_getInputCount exited
  obtain ⟨detached, loops, attached⟩ := detachLoop_attached lawful handler.pads bound
  refine ⟨closed, { handler with pads := detached }, ?_, attached⟩
  unfold exit
  simp only [exited, bind, Except.bind, sameCount]
  rw [loops]
  rfl

/-- Every run of the input thread that starts with no input attached ends, after `Exit`, with no
input attached. -/
def DetachesAll (backend : GamepadBackend pads given) (controller : Controller) : Prop :=
  ∀ (handler : SwitchVirtualGamepadHandler pads) calls reached last,
    (∀ slot, backend.isControllerAttached handler.pads slot = false) →
    onRun backend calls (controller, handler) = .ok (reached, last) →
    ∃ closed left, exit backend reached last = .ok (closed, left) ∧
      ∀ slot, backend.isControllerAttached left.pads slot = false

/-- No input at or above the count can deliver a report that is read with success. -/
def CountCovers (controller : Controller) : Prop :=
  controller.driver.kind = .wii ∨
    ∀ endpointIdx, controller.driver.getInputCount ≤ endpointIdx →
      controller.base.maxPacketSize endpointIdx <
        Driver.smallestReport controller.driver.kind

/-! What a run keeps: no input at or above the count is attached. -/

theorem trackConnection_attached_before (lawful : backend.Lawful)
    {handler : SwitchVirtualGamepadHandler pads} {inputIdx slot : InputIdx} {connected : Bool}
    (attached : backend.isControllerAttached
      (trackConnection backend handler inputIdx connected).pads slot = true) :
    backend.isControllerAttached handler.pads slot = true := by
  rcases trackConnection_cases backend handler connected inputIdx with
    ⟨_, unchanged⟩ | ⟨_, changed⟩ | ⟨_, changed⟩
  · rw [unchanged] at attached
    exact attached
  · rw [changed] at attached
    exact attached
  · rw [changed] at attached
    by_cases same : slot = inputIdx
    · subst slot
      simp [lawful.detach_self] at attached
    · simpa only [lawful.detach_other _ _ _ same] using attached

theorem handleInput_failed (lawful : backend.Lawful) {answers : given}
    {handler after : SwitchVirtualGamepadHandler pads} {read : InputRead} {result : Result}
    (step : handleInput backend answers handler read = .ok (result, after))
    (failed : read.status ≠ .success) {slot : InputIdx}
    (attached : backend.isControllerAttached after.pads slot = true) :
    backend.isControllerAttached handler.pads slot = true := by
  rcases handleInput_cases step with ⟨_, _, same⟩ | ⟨_, success, _⟩
  · rw [same] at attached
    exact trackConnection_attached_before lawful attached
  · exact absurd success failed

structure Covered (backend : GamepadBackend pads given)
    (state : Controller × SwitchVirtualGamepadHandler pads) : Prop where
  port : state.1.driver.port < CONTROLLER_MAX_INPUTS
  wiiCount : state.1.driver.kind = .wii → state.1.driver.getInputCount = CONTROLLER_MAX_INPUTS
  covers : CountCovers state.1
  free : ∀ slot : InputIdx, state.1.driver.getInputCount ≤ slot.val →
    backend.isControllerAttached state.2.pads slot = false

theorem successful_index {controller : Controller} {inputIdx : Nat}
    (port : controller.driver.port < CONTROLLER_MAX_INPUTS)
    (wiiCount : controller.driver.kind = .wii →
      controller.driver.getInputCount = CONTROLLER_MAX_INPUTS)
    (covers : CountCovers controller)
    (source : Controller.IndexFrom controller 0 .success inputIdx) :
    inputIdx < controller.driver.getInputCount := by
  rcases source with ⟨failed, _⟩ | ⟨named, _⟩ | ⟨isWii, isPort⟩ | ⟨notWii, _, enough⟩
  · exact absurd rfl failed
  · exact named
  · rw [isPort, wiiCount isWii]
    exact port
  · by_contra outside
    rcases covers with isWii | small
    · exact absurd isWii notWii
    · have tooSmall := small inputIdx (Nat.not_lt.mp outside)
      have large := enough rfl
      omega

theorem runOnce_covered (lawful : backend.Lawful)
    {state next : Controller × SwitchVirtualGamepadHandler pads} {call : UpdateCall given}
    (invariant : Covered backend state) (step : runOnce backend state call = .ok next) :
    Covered backend next := by
  have progress := runOnce_progress step
  obtain ⟨⟨result, controller, handler⟩, updates, same⟩ := Exec.bind_eq_ok step
  cases same
  obtain ⟨read, normal, inputIdx, connected, finished, sameController, sameIdx, _, handled⟩ :=
    updateInput_handleInput updates
  have source := (Controller.readInput_progress finished).2
  refine ⟨progress.driver.port invariant.port, ?_, ?_, ?_⟩
  · rw [progress.driver.kind, progress.driver.inputCount]
    exact invariant.wiiCount
  · unfold CountCovers
    rw [progress.driver.kind, progress.driver.inputCount]
    simp only [progress.maxPacketSize]
    exact invariant.covers
  · intro slot outside
    rw [progress.driver.inputCount] at outside
    have before := invariant.free slot outside
    by_contra attached
    simp only [Bool.not_eq_false] at attached
    by_cases handledSlot : slot = inputIdx
    · by_cases success : read.status = .success
      · rw [success, sameIdx] at source
        have below := successful_index invariant.port invariant.wiiCount invariant.covers source
        rw [handledSlot] at outside
        omega
      · have kept := handleInput_failed lawful handled success attached
        simp [kept] at before
    · rw [handleInput_other_attached lawful handled handledSlot] at attached
      simp [attached] at before

theorem onRun_covered (lawful : backend.Lawful) {calls : List (UpdateCall given)}
    {state last : Controller × SwitchVirtualGamepadHandler pads}
    (invariant : Covered backend state) (run : onRun backend calls state = .ok last) :
    Covered backend last :=
  (Library.Run.of_foldlM run).invariant invariant
    (fun _ _ _ kept step => runOnce_covered lawful kept step)

theorem onRun_progress {calls : List (UpdateCall given)}
    {state last : Controller × SwitchVirtualGamepadHandler pads}
    (run : onRun backend calls state = .ok last) : Controller.Progress state.1 last.1 := by
  have steps := Library.Run.of_foldlM run
  clear run
  induction steps with
  | nil current =>
      exact ⟨⟨current.1.base.currentControllerIdx, rfl⟩, rfl, Driver.SameDriver.rfl _⟩
  | cons step _ ih => exact (runOnce_progress step).trans ih

theorem detachesAll_of_covers (lawful : backend.Lawful) {controller : Controller}
    (port : controller.driver.port < CONTROLLER_MAX_INPUTS)
    (wiiCount : controller.driver.kind = .wii →
      controller.driver.getInputCount = CONTROLLER_MAX_INPUTS)
    (bound : controller.driver.getInputCount ≤ CONTROLLER_MAX_INPUTS)
    (covers : CountCovers controller) : DetachesAll backend controller := by
  intro handler calls reached last fresh run
  have start : Covered backend (controller, handler) :=
    ⟨port, wiiCount, covers, fun slot _ => fresh slot⟩
  have kept := onRun_covered lawful start run
  have sameCount : reached.driver.getInputCount = controller.driver.getInputCount :=
    (onRun_progress run).driver.inputCount
  obtain ⟨closed, left, exits, attached⟩ := exit_attached lawful reached last (by omega)
  refine ⟨closed, left, exits, fun slot => ?_⟩
  rw [attached slot]
  split
  · rfl
  · rename_i outside
    exact kept.free slot (Nat.not_lt.mp outside)

end Exit

/-! The other direction: the smallest report that is read with success, at an input that the
count leaves out. -/

section Left

variable {pads given : Type} {backend : GamepadBackend pads given}

def smallestInput : DriverKind → List UInt8
  | .xbox => List.replicate 20 0
  | .xbox360 => List.replicate 14 0
  | .dualshock3 => 1 :: List.replicate 48 0
  | .xbox360Wireless => List.replicate 14 0
  | .xboxOne => 7 :: List.replicate 5 0
  | .switch => 0x30 :: List.replicate 11 0
  | .steamController2026 => 0x42 :: List.replicate 45 0
  | .wii => List.replicate 9 0
  | .genericHID => [0]

theorem smallestInput_length (kind : DriverKind) :
    (smallestInput kind).length = Driver.smallestReport kind := by
  cases kind <;> rfl

def smallestAt (kind : DriverKind) (inputIdx : Nat) : Surroundings :=
  Controller.reportAt inputIdx (smallestInput kind) (some {})

theorem steam_parseData_smallest (base : BaseController) (state : SteamController2026)
    {inputIdx : Nat} (bound : inputIdx < CONTROLLER_MAX_INPUTS) :
    ∃ parsed, state.parseData base
        (Buffer.write (fun _ => 0) (smallestInput .steamController2026)) 46 {} inputIdx =
          .ok parsed ∧
      parsed.status = .success ∧ parsed.inputIdx = inputIdx ∧
      parsed.state.isControllerConnected inputIdx = .ok true := by
  have inside : ¬inputIdx ≥ SteamController2026.STEAMCONTROLLER_MAX_INPUTS := Nat.not_le.mpr bound
  have isInput : SteamController2026.isInputReport
      (Buffer.write (fun _ => 0) (smallestInput .steamController2026) 0) = true := by decide
  let data := Buffer.write (fun _ => 0) (smallestInput .steamController2026)
  let rawInput := state.rawInput.assign (SteamController2026.buttons data)
    (SteamController2026.analog data)
  unfold SteamController2026.parseData
  rw [if_neg inside, if_pos isInput, if_neg (by decide)]
  simp only [Slots.fetch_of_lt bound]
  cases wasConnected : state.isConnected[inputIdx] with
  | false =>
      refine ⟨⟨.success, rawInput, inputIdx,
        { state with rawInput, isConnected := state.isConnected.set inputIdx true },
        SteamController2026.updateLizard base inputIdx⟩, ?_, rfl, rfl, ?_⟩
      · simp only [SteamController2026.onControllerConnect, Slots.put_of_lt bound]
        rfl
      · simp [SteamController2026.isControllerConnected, Slots.fetch_of_lt bound]
  | true =>
      refine ⟨⟨.success, rawInput, inputIdx, { state with rawInput }, []⟩, rfl, rfl, rfl, ?_⟩
      simp [SteamController2026.isControllerConnected, Slots.fetch_of_lt bound, wasConnected]

theorem genericHID_parseData_smallest (state : GenericHIDController) {inputIdx : Nat}
    (counted : 0 < state.getInputCount) (positive : inputIdx ≠ 0) :
    (state.parseData (some {}) {} inputIdx).status = .success ∧
      (state.parseData (some {}) {} inputIdx).inputIdx = inputIdx := by
  have known : ¬0 ≥ state.getInputCount := Nat.not_le.mpr counted
  simp only [GenericHIDController.parseData, if_neg known, if_neg positive]
  exact ⟨trivial, trivial⟩

theorem parseData_smallest {driver : Driver} (base : BaseController) {inputIdx : Nat}
    (notWii : driver.kind ≠ .wii) (notWireless : driver.kind ≠ .xbox360Wireless)
    (counted : 0 < driver.getInputCount) (positive : inputIdx ≠ 0)
    (bound : inputIdx < CONTROLLER_MAX_INPUTS) :
    ∃ parsed, driver.parseData base (smallestAt driver.kind inputIdx)
        (Buffer.write (fun _ => 0) (smallestInput driver.kind))
        (smallestInput driver.kind).length {} inputIdx = .ok parsed ∧
      parsed.status = .success ∧ parsed.inputIdx = inputIdx ∧
      parsed.state.isControllerConnected inputIdx = .ok true := by
  cases driver with
  | xbox => exact ⟨_, rfl, rfl, rfl, rfl⟩
  | xbox360 => exact ⟨_, rfl, rfl, rfl, rfl⟩
  | dualshock3 => exact ⟨_, rfl, rfl, rfl, rfl⟩
  | xbox360Wireless state => exact absurd rfl notWireless
  | xboxOne state => exact ⟨_, rfl, rfl, rfl, rfl⟩
  | switch state => exact ⟨_, rfl, rfl, rfl, rfl⟩
  | steamController2026 state =>
      obtain ⟨parsed, parses, success, sameIdx, connected⟩ :=
        steam_parseData_smallest base state bound
      refine ⟨parsed.map .steamController2026, ?_, success, sameIdx, connected⟩
      exact congrArg (Except.map (Parsed.map Driver.steamController2026)) parses
  | wii state => exact absurd rfl notWii
  | genericHID state =>
      obtain ⟨success, sameIdx⟩ := genericHID_parseData_smallest state counted positive
      exact ⟨_, rfl, success, sameIdx, rfl⟩

/-- With these answers an input that is to be attached is attached and stays so. -/
structure AttachesWith (backend : GamepadBackend pads given) (answers : given) : Prop where
  attach : ∀ current slot,
    backend.isControllerAttached (backend.attachController answers current slot) slot = true
  update : ∀ current state slot, backend.isControllerAttached current slot = true →
    ∃ result after, backend.updateControllerState answers current state slot = .ok (result, after) ∧
      backend.isControllerAttached after slot = true

theorem handleInput_attaches {answers : given} (attaches : AttachesWith backend answers)
    (handler : SwitchVirtualGamepadHandler pads) (inputIdx : InputIdx)
    (normal : NormalizedButtonData)
    (fresh : (handler.controllerData inputIdx).isConnected = false) :
    ∃ result after, handleInput backend answers handler ⟨.success, inputIdx, true, normal⟩ =
        .ok (result, after) ∧ backend.isControllerAttached after.pads inputIdx = true := by
  let tracked : SwitchVirtualGamepadHandler pads :=
    { handler with
      controllerData := Function.update handler.controllerData inputIdx
        { isConnected := true, reattachController := true } }
  have tracks : trackConnection backend handler inputIdx true = tracked := by
    simp [trackConnection, fresh, tracked]
  have ready : (reattach backend answers tracked inputIdx (gamepadState normal).buttons).pads =
      backend.attachController answers handler.pads inputIdx := by
    simp [reattach, tracked]
  obtain ⟨result, after, updates, attached⟩ :=
    attaches.update _ (gamepadState normal) inputIdx (attaches.attach handler.pads inputIdx)
  let again := reattach backend answers tracked inputIdx (gamepadState normal).buttons
  refine ⟨result, { again with pads := after }, ?_, attached⟩
  have connected : ¬(tracked.controllerData inputIdx).isConnected = false := by simp [tracked]
  simp only [handleInput, tracks]
  rw [if_neg connected, if_neg (by simp), ready, updates]
  rfl

theorem defaultPins_finish (rawData : RawInputData) (normalData : NormalizedButtonData) :
    (BaseController.mapRawInputToNormalized {} rawData normalData).Finishes := by
  apply BaseController.mapRawInputToNormalized_avoids
  intro button index bound outside
  have zero : ((({} : ControllerConfig).buttonsPin button)[index]).toNat = 0 := by
    have two : index < 2 := bound
    have cases : index = 0 ∨ index = 1 := by omega
    rcases cases with rfl | rfl
    · rfl
    · rfl
  exact absurd outside (by rw [zero]; decide)

theorem updateInput_smallest {answers : given} (attaches : AttachesWith backend answers)
    {controller : Controller} {inputIdx : InputIdx} (start : pads)
    (pins : controller.config = {})
    (notWii : controller.driver.kind ≠ .wii)
    (notWireless : controller.driver.kind ≠ .xbox360Wireless)
    (counted : 0 < controller.driver.getInputCount) (positive : inputIdx.val ≠ 0)
    (large : Driver.smallestReport controller.driver.kind ≤
      controller.base.maxPacketSize inputIdx) :
    ∃ result next after,
      updateInput backend answers (smallestAt controller.driver.kind inputIdx) controller
        { pads := start } = .ok (result, next, after) ∧
      backend.isControllerAttached after.pads inputIdx = true := by
  have nonempty : smallestInput controller.driver.kind ≠ [] := by
    cases controller.driver.kind <;> decide
  have short : (smallestInput controller.driver.kind).length ≤ 64 := by
    cases controller.driver.kind <;> decide
  rw [← smallestInput_length] at large
  obtain ⟨base, reads⟩ :=
    Controller.readInput_reportAt {} (some {}) notWii nonempty short large
  obtain ⟨parsed, parses, success, sameIdx, connected⟩ :=
    parseData_smallest base notWii notWireless counted positive inputIdx.isLt
  obtain ⟨normal, mapped⟩ := (defaultPins_finish parsed.rawData {}).exists_ok
  have normalIs : (controller.afterParse base {} parsed).normal = .ok normal := by
    simp only [Controller.afterParse, success, ne_eq, not_true_eq_false, if_false, pins, mapped]
  obtain ⟨result, after, handled, attached⟩ :=
    handleInput_attaches attaches { pads := start } inputIdx normal rfl
  refine ⟨result, (controller.afterParse base {} parsed).controller, after, ?_, attached⟩
  unfold smallestAt at parses
  rw [parses] at reads
  unfold updateInput smallestAt
  simp only [reads, Except.map, bind, Except.bind, normalIs]
  rw [dif_pos (by simp only [Controller.afterParse, sameIdx]; exact inputIdx.isLt)]
  simp only [Controller.afterParse, sameIdx, connected, success, handled]
  rfl

theorem not_detachesAll_of_uncovered (lawful : backend.Lawful) {answers : given}
    (attaches : AttachesWith backend answers) {controller : Controller} {inputIdx : InputIdx}
    (start : pads) (free : ∀ slot, backend.isControllerAttached start slot = false)
    (pins : controller.config = {})
    (notWii : controller.driver.kind ≠ .wii)
    (notWireless : controller.driver.kind ≠ .xbox360Wireless)
    (counted : 0 < controller.driver.getInputCount)
    (countBound : controller.driver.getInputCount ≤ CONTROLLER_MAX_INPUTS)
    (uncovered : controller.driver.getInputCount ≤ inputIdx.val)
    (large : Driver.smallestReport controller.driver.kind ≤
      controller.base.maxPacketSize inputIdx) :
    ¬DetachesAll backend controller := by
  intro detaches
  obtain ⟨result, next, after, updates, attached⟩ :=
    updateInput_smallest attaches start pins notWii notWireless counted (by omega) large
  have run : onRun backend [⟨answers, smallestAt controller.driver.kind inputIdx⟩]
      (controller, { pads := start }) = .ok (next, after) := by
    simp only [onRun, List.foldlM_cons, List.foldlM_nil, runOnce, updates, bind, Except.bind]
    rfl
  obtain ⟨closed, left, exits, none⟩ := detaches _ _ _ _ free run
  have sameCount : next.driver.getInputCount = controller.driver.getInputCount :=
    (onRun_progress run).driver.inputCount
  obtain ⟨closed', left', exits', leftAttached⟩ := exit_attached lawful next after (by omega)
  rw [exits'] at exits
  cases exits
  have stays := leftAttached inputIdx
  rw [if_neg (by omega), none inputIdx, attached] at stays
  simp at stays

theorem exists_uncovered {controller : Controller}
    (wireless : controller.driver.kind = .xbox360Wireless →
      controller.driver.getInputCount = CONTROLLER_MAX_INPUTS)
    (few : controller.base.inPipe.length ≤ CONTROLLER_MAX_INPUTS)
    (uncovered : ¬CountCovers controller) :
    ∃ inputIdx : InputIdx, controller.driver.getInputCount ≤ inputIdx.val ∧
      controller.driver.kind ≠ .wii ∧ controller.driver.kind ≠ .xbox360Wireless ∧
      Driver.smallestReport controller.driver.kind ≤ controller.base.maxPacketSize inputIdx := by
  simp only [CountCovers, not_or, not_forall, Nat.not_lt] at uncovered
  obtain ⟨notWii, endpointIdx, outside, large⟩ := uncovered
  have smallest : 0 < Driver.smallestReport controller.driver.kind := by
    cases controller.driver.kind <;> decide
  have listed : endpointIdx < controller.base.inPipe.length :=
    BaseController.lt_of_maxPacketSize_pos (by omega)
  refine ⟨⟨endpointIdx, by omega⟩, outside, notWii, fun isWireless => ?_, large⟩
  have all := wireless isWireless
  omega

theorem detachesAll_iff_of_attaches (lawful : backend.Lawful) {answers : given}
    (attaches : AttachesWith backend answers) {controller : Controller}
    (start : pads) (free : ∀ slot, backend.isControllerAttached start slot = false)
    (inside : controller.driver.port < CONTROLLER_MAX_INPUTS)
    (pins : controller.config = {})
    (counted : 0 < controller.driver.getInputCount)
    (countBound : controller.driver.getInputCount ≤ CONTROLLER_MAX_INPUTS)
    (four : controller.driver.kind = .wii ∨ controller.driver.kind = .xbox360Wireless →
      controller.driver.getInputCount = CONTROLLER_MAX_INPUTS)
    (few : controller.base.inPipe.length ≤ CONTROLLER_MAX_INPUTS) :
    (∀ config, DetachesAll backend { controller with config }) ↔ CountCovers controller := by
  constructor
  · intro detaches
    by_contra uncovered
    obtain ⟨inputIdx, outside, notWii, notWireless, large⟩ :=
      exists_uncovered (fun isWireless => four (Or.inr isWireless)) few uncovered
    have always := detaches controller.config
    exact not_detachesAll_of_uncovered lawful attaches start free pins notWii notWireless counted
      countBound outside large always
  · intro covers config
    exact detachesAll_of_covers lawful inside (fun isWii => four (Or.inl isWii)) countBound covers

end Left

/-! Both backends, for every controller whose initialisation succeeded. -/

theorem hdl_attachesWith : AttachesWith SwitchHDLHandler.backend ⟨.ok ⟨1, by decide⟩, 0⟩ where
  attach current slot := by
    simp only [SwitchHDLHandler.backend, SwitchHDLHandler.attachController]
    split
    · assumption
    · simp [SwitchHDLHandler.isControllerAttached]
  update current state slot attached := by
    let answer := SwitchHDLHandler.updateControllerState ⟨.ok ⟨1, by decide⟩, 0⟩ current state slot
    have kept : answer.2.hdlHandle = current.hdlHandle := by
      simp only [answer, SwitchHDLHandler.updateControllerState]
      split
      · rfl
      · rfl
    refine ⟨answer.1, answer.2, rfl, ?_⟩
    simp only [SwitchHDLHandler.backend, SwitchHDLHandler.isControllerAttached, kept]
    exact attached

theorem mitm_attachesWith : AttachesWith SwitchMITMHandler.backend ⟨some 0, 0⟩ where
  attach current slot := by
    simp only [SwitchMITMHandler.backend, SwitchMITMHandler.attachController]
    split
    · assumption
    · simp [SwitchMITMHandler.isControllerAttached]
  update current state slot attached := by
    simp only [SwitchMITMHandler.backend, SwitchMITMHandler.isControllerAttached] at attached ⊢
    obtain ⟨player, isPlayer⟩ := Option.isSome_iff_exists.mp attached
    refine ⟨.system 0, current, ?_, attached⟩
    simp only [SwitchMITMHandler.updateControllerState, isPlayer]

theorem setUp_count {kind : DriverKind} {memory : Buffer} {flags : Slots Bool}
    {answers : SetupAnswers} {base : BaseController}
    (success : ((Driver.create memory flags kind).setUp answers base).1 = .success) :
    0 < ((Driver.create memory flags kind).setUp answers base).2.getInputCount ∧
      ((Driver.create memory flags kind).setUp answers base).2.getInputCount ≤
        CONTROLLER_MAX_INPUTS ∧
      (kind = .wii ∨ kind = .xbox360Wireless →
        ((Driver.create memory flags kind).setUp answers base).2.getInputCount =
          CONTROLLER_MAX_INPUTS) := by
  cases kind with
  | genericHID =>
      refine ⟨?_, Driver.genericHID_getInputCount_le _, by simp⟩
      simp only [Driver.create, Driver.setUp, GenericHIDController.initializeJoystick] at success ⊢
      split at success
      · rename_i failed
        exact absurd success failed
      · rename_i described
        rw [if_neg described]
        split at success
        · simp at success
        · rename_i counted
          rw [if_neg counted]
          have positive : 0 < answers.joystickCount.toNat := by
            by_contra zero
            exact counted (UInt8.toNat_inj.mp (by simpa using zero))
          simp only [Driver.getInputCount, GenericHIDController.getInputCount]
          have four : 0 < CONTROLLER_MAX_INPUTS := by decide
          omega
  | wii => exact ⟨Nat.succ_pos 3, Nat.le_refl 4, fun _ => rfl⟩
  | xbox360Wireless => exact ⟨Nat.succ_pos 3, Nat.le_refl 4, fun _ => rfl⟩
  | _ => exact ⟨Nat.succ_pos 0, Nat.succ_le_succ (Nat.zero_le 3), by simp⟩

theorem started_count {kind : DriverKind} {memory : Buffer} {flags : Slots Bool}
    {config : ControllerConfig} {answers : SetupAnswers} {device : UsbDevice}
    {controller : Controller}
    (started : Started kind memory flags config answers device controller) :
    0 < controller.driver.getInputCount ∧
      controller.driver.getInputCount ≤ CONTROLLER_MAX_INPUTS ∧
      (kind = .wii ∨ kind = .xbox360Wireless →
        controller.driver.getInputCount = CONTROLLER_MAX_INPUTS) := by
  have initialized := started.initialized
  simp only [Controller.initializeController] at initialized
  split at initialized
  · rename_i failed
    exact absurd (congrArg Prod.fst initialized) failed
  · obtain ⟨success, sameController⟩ := Prod.mk.inj initialized
    rw [← sameController]
    exact setUp_count success

/-- With at most four IN endpoints, `Exit` leaves no input attached, whatever the configuration
and the run, exactly when the count covers the inputs that can deliver. -/
theorem detachesAll_iff_countCovers {kind : DriverKind} {memory : Buffer} {flags : Slots Bool}
    {answers : SetupAnswers} {device : UsbDevice} {controller : Controller}
    (started : Started kind memory flags {} answers device controller)
    (few : controller.base.inPipe.length ≤ CONTROLLER_MAX_INPUTS) :
    ((∀ config, DetachesAll SwitchHDLHandler.backend { controller with config }) ↔
      CountCovers controller) ∧
    ((∀ config, DetachesAll SwitchMITMHandler.backend { controller with config }) ↔
      CountCovers controller) := by
  obtain ⟨sameKind, port, pins⟩ := started.facts
  obtain ⟨counted, countBound, four⟩ := started_count started
  rw [← sameKind] at four
  have inside : controller.driver.port < CONTROLLER_MAX_INPUTS := by
    rw [port]
    decide
  exact ⟨detachesAll_iff_of_attaches SwitchHDLHandler.lawful hdl_attachesWith {} (fun _ => rfl)
      inside pins counted countBound four few,
    detachesAll_iff_of_attaches SwitchMITMHandler.lawful mitm_attachesWith {} (fun _ => rfl)
      inside pins counted countBound four few⟩

theorem wiredPad_detachesAll :
    (∀ config, DetachesAll SwitchHDLHandler.backend { wiredPad with config }) ∧
      ∀ config, DetachesAll SwitchMITMHandler.backend { wiredPad with config } := by
  have covers : CountCovers wiredPad := by
    refine Or.inr (fun endpointIdx outside => ?_)
    by_contra large
    have listed : endpointIdx < wiredPad.base.inPipe.length :=
      BaseController.lt_of_maxPacketSize_pos (by
        simp only [wiredPad, Driver.kind, Driver.smallestReport,
          Xbox360Controller.sizeofButtonData] at large ⊢
        omega)
    simp only [wiredPad, Driver.getInputCount, List.length_singleton] at listed outside
    omega
  obtain ⟨hdl, mitm⟩ := detachesAll_iff_countCovers wiredPad_started (by decide)
  exact ⟨hdl.mpr covers, mitm.mpr covers⟩

/-! Two controllers behind one receiver, of which only the first is detached. -/

def pairController : Controller where
  base := { inPipe := [⟨0, 64⟩, ⟨1, 64⟩], interfaces := [0, 0] }
  driver := Driver.create (fun _ => 0) (Vector.replicate _ false) .steamController2026

theorem pair_started : Started .steamController2026 (fun _ => 0) (Vector.replicate _ false) {} {}
    { interfaces := List.replicate 2 (inEndpointOnly 64) } pairController := ⟨rfl⟩

theorem pair_not_detachesAll :
    ¬∀ (kind : DriverKind) (memory : Buffer) (flags : Slots Bool) (config : ControllerConfig)
      (answers : SetupAnswers) (device : UsbDevice) (controller : Controller),
      Started kind memory flags config answers device controller →
        controller.base.inPipe.length ≤ CONTROLLER_MAX_INPUTS →
        DetachesAll SwitchHDLHandler.backend controller ∧
        DetachesAll SwitchMITMHandler.backend controller := by
  intro always
  have detaches := (always _ _ _ _ _ _ _ pair_started (by decide)).1
  have notWii : pairController.driver.kind ≠ .wii := by decide
  have notWireless : pairController.driver.kind ≠ .xbox360Wireless := by decide
  have large : Driver.smallestReport pairController.driver.kind ≤
      pairController.base.maxPacketSize (1 : InputIdx) := by decide
  exact not_detachesAll_of_uncovered SwitchHDLHandler.lawful hdl_attachesWith {}
    (fun slot => rfl) rfl notWii notWireless (by decide) (by decide) (by decide) large detaches

end SwitchVirtualGamepadHandler

end SysCon
