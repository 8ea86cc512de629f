import SysCon.ControllerLib.ReadPath
import SysCon.ControllerLib.ReportState

/-!
Keeping only the latest report of a queue. `ReadEndpointLatest` drains an
endpoint and hands its last report to `ParseData`; the same reports could be
parsed one after the other. The drivers with a state end in the same state
exactly where the last report stores whatever the dropped ones changed.
-/

namespace SysCon

open Library

namespace Driver

variable (base : BaseController) (around : Surroundings) {inputIdx : Nat}

def stateAfter (base : BaseController) (around : Surroundings) (inputIdx : Nat) (driver : Driver)
    (report : Delivery) : Exec Driver :=
  (driver.parseData base around report.buffer report.size {} inputIdx).map Parsed.state

/-- The driver after each of the reports was parsed, one after the other. -/
def inOrder (driver : Driver) (base : BaseController) (around : Surroundings) (inputIdx : Nat)
    (reports : List Delivery) : Exec Driver :=
  reports.foldlM (stateAfter base around inputIdx) driver

def LatestSuffices (driver : Driver) (inputIdx : Nat) (dropped : List Delivery)
    (newest : Delivery) : Prop :=
  match driver with
  | .xboxOne state => state.LatestSuffices dropped newest
  | .xbox360Wireless state => state.LatestSuffices inputIdx dropped newest
  | .steamController2026 state => state.LatestSuffices inputIdx dropped newest
  | _ => True

theorem map_parsed_state {state : Type} (wrap : state → Driver) (parsed : Exec (Parsed state)) :
    (parsed.map (Parsed.map wrap)).map Parsed.state = (parsed.map Parsed.state).map wrap := by
  cases parsed with
  | error fault => rfl
  | ok parsed => rfl

theorem stateAfter_xboxOne (state : XboxOneController) (report : Delivery) :
    stateAfter base around inputIdx (.xboxOne state) report =
      .ok (.xboxOne (state.afterReport report)) := by
  rw [← state.parseData_state base around.writeResults report {} inputIdx]
  rfl

theorem stateAfter_xbox360Wireless (state : Xbox360WirelessController)
    (inputIdx : Fin CONTROLLER_MAX_INPUTS) (report : Delivery) :
    stateAfter base around inputIdx (.xbox360Wireless state) report =
      .ok (.xbox360Wireless (state.afterStatus inputIdx report)) := by
  unfold stateAfter parseData
  rw [map_parsed_state, state.parseData_state]
  rfl

theorem stateAfter_xbox360Wireless_outside (state : Xbox360WirelessController)
    (outside : ¬inputIdx < CONTROLLER_MAX_INPUTS) (report : Delivery) :
    stateAfter base around inputIdx (.xbox360Wireless state) report =
      if Xbox360WirelessController.isStatusReport report.buffer then .error (.slotIndex inputIdx)
      else .ok (.xbox360Wireless state) := by
  unfold stateAfter parseData
  rw [map_parsed_state, state.parseData_state_outside base report {} outside]
  by_cases status : Xbox360WirelessController.isStatusReport report.buffer
  · rw [if_pos status, if_pos status]
    rfl
  · rw [if_neg status, if_neg status]
    rfl

theorem stateAfter_steamController2026 (state : SteamController2026)
    (inputIdx : Fin CONTROLLER_MAX_INPUTS) (report : Delivery) :
    stateAfter base around inputIdx (.steamController2026 state) report =
      .ok (.steamController2026 (state.afterReport inputIdx report)) := by
  unfold stateAfter parseData
  rw [map_parsed_state, state.parseData_state]
  rfl

theorem stateAfter_steamController2026_outside (state : SteamController2026)
    (outside : ¬inputIdx < CONTROLLER_MAX_INPUTS) (report : Delivery) :
    stateAfter base around inputIdx (.steamController2026 state) report =
      .ok (.steamController2026 state) := by
  unfold stateAfter parseData
  rw [map_parsed_state, state.parseData_outside base report.buffer report.size {}
    (Nat.not_lt.mp outside)]
  rfl

theorem inOrder_eq_foldl {state : Type} (wrap : state → Driver) (after : state → Delivery → state)
    (each : ∀ current report,
      stateAfter base around inputIdx (wrap current) report = .ok (wrap (after current report)))
    (start : state) (reports : List Delivery) :
    (wrap start).inOrder base around inputIdx reports = .ok (wrap (reports.foldl after start)) := by
  unfold inOrder
  induction reports generalizing start with
  | nil => rfl
  | cons report rest ih =>
      rw [List.foldlM_cons, each]
      exact ih (after start report)

theorem inOrder_xbox360Wireless_outside (state : Xbox360WirelessController)
    (outside : ¬inputIdx < CONTROLLER_MAX_INPUTS) (reports : List Delivery) :
    (xbox360Wireless state).inOrder base around inputIdx reports =
      if reports.any fun report => Xbox360WirelessController.isStatusReport report.buffer then
        .error (.slotIndex inputIdx)
      else .ok (.xbox360Wireless state) := by
  unfold inOrder
  induction reports with
  | nil => rfl
  | cons report rest ih =>
      rw [List.foldlM_cons, stateAfter_xbox360Wireless_outside base around state outside]
      cases status : Xbox360WirelessController.isStatusReport report.buffer with
      | true => simp [status, bind, Except.bind]
      | false =>
          simp only [List.any_cons, status, Bool.false_or]
          exact ih

section KeepsLatest

variable (other : BaseController) (dropped : List Delivery) (newest : Delivery)

theorem keepsLatest_xboxOne (state : XboxOneController) :
    stateAfter other around inputIdx (.xboxOne state) newest =
        (xboxOne state).inOrder base around inputIdx (dropped ++ [newest]) ↔
      state.LatestSuffices dropped newest := by
  rw [stateAfter_xboxOne, inOrder_eq_foldl base around _ _ (stateAfter_xboxOne base around),
    Except.ok.injEq, xboxOne.injEq, eq_comm]
  exact state.keepLatest_iff dropped newest

theorem keepsLatest_xbox360Wireless (state : Xbox360WirelessController) :
    stateAfter other around inputIdx (.xbox360Wireless state) newest =
        (xbox360Wireless state).inOrder base around inputIdx (dropped ++ [newest]) ↔
      state.LatestSuffices inputIdx dropped newest := by
  by_cases bound : inputIdx < CONTROLLER_MAX_INPUTS
  · rw [stateAfter_xbox360Wireless other around state ⟨inputIdx, bound⟩,
      inOrder_eq_foldl base around _ _
        (fun current => stateAfter_xbox360Wireless base around current ⟨inputIdx, bound⟩),
      Except.ok.injEq, xbox360Wireless.injEq, eq_comm]
    exact state.keepLatest_iff ⟨inputIdx, bound⟩ dropped newest
  · rw [stateAfter_xbox360Wireless_outside other around state bound,
      inOrder_xbox360Wireless_outside base around state bound,
      Xbox360WirelessController.LatestSuffices, dif_neg bound, List.any_append]
    cases status : Xbox360WirelessController.isStatusReport newest.buffer with
    | true => simp [status]
    | false =>
        cases lost : dropped.any
            (fun report => Xbox360WirelessController.isStatusReport report.buffer) with
        | true => simp [status]
        | false => simp [status]

theorem keepsLatest_steamController2026 (state : SteamController2026) :
    stateAfter other around inputIdx (.steamController2026 state) newest =
        (steamController2026 state).inOrder base around inputIdx (dropped ++ [newest]) ↔
      state.LatestSuffices inputIdx dropped newest := by
  by_cases bound : inputIdx < CONTROLLER_MAX_INPUTS
  · rw [stateAfter_steamController2026 other around state ⟨inputIdx, bound⟩,
      inOrder_eq_foldl base around _ _
        (fun current => stateAfter_steamController2026 base around current ⟨inputIdx, bound⟩),
      Except.ok.injEq, steamController2026.injEq, eq_comm]
    exact state.keepLatest_iff ⟨inputIdx, bound⟩ dropped newest
  · rw [stateAfter_steamController2026_outside other around state bound,
      inOrder_eq_foldl base around _ (fun current _ => current)
        (fun current => stateAfter_steamController2026_outside base around current bound),
      List.foldl_fixed]
    constructor
    · exact fun _ inside => absurd inside bound
    · exact fun _ => rfl

end KeepsLatest

end Driver

namespace Controller

def capacity (controller : Controller) (endpointIdx : Nat) : Nat :=
  min (controller.base.maxPacketSize endpointIdx) controller.bufferSize

/-- One `ReadInput` over the waiting reports leaves the driver as parsing all of them does. -/
def KeepsLatest (controller : Controller) (around : Surroundings)
    (normalData : NormalizedButtonData) (given endpointIdx : Nat) (reports : List (List UInt8)) :
    Prop :=
  (controller.readInput around normalData given).map (fun read => read.controller.driver) =
    controller.driver.inOrder controller.base around endpointIdx
      (deliveries (controller.capacity endpointIdx) ⟨around.stack, 0⟩ reports)

def LatestSuffices (controller : Controller) (around : Surroundings) (endpointIdx : Nat)
    (earlier : List (List UInt8)) (last : List UInt8) : Prop :=
  let capacity := controller.capacity endpointIdx
  controller.driver.LatestSuffices endpointIdx (deliveries capacity ⟨around.stack, 0⟩ earlier)
    ((earlier.foldl (Delivery.next capacity) ⟨around.stack, 0⟩).next capacity last)

/-- Reports that wait at one endpoint, and nothing at any other. -/
structure Queued (controller : Controller) (around : Surroundings) (endpointIdx : Nat)
    (reports : List (List UInt8)) : Prop where
  delivers : 0 < controller.base.maxPacketSize endpointIdx
  queued : around.pending endpointIdx = waiting reports
  quiet : ∀ other, other ≠ endpointIdx → around.pending other = []
  nonempty : ∀ report ∈ reports, report ≠ []

theorem map_afterParse_driver (controller : Controller) (base : BaseController)
    (normalData : NormalizedButtonData) (parsed : Exec (Parsed Driver)) :
    (parsed.map (controller.afterParse base normalData)).map (fun read => read.controller.driver) =
      parsed.map Parsed.state := by
  cases parsed with
  | error fault => rfl
  | ok parsed => rfl

theorem readInput_queued {controller : Controller} {around : Surroundings} {endpointIdx : Nat}
    {earlier : List (List UInt8)} {last : List UInt8} (normalData : NormalizedButtonData)
    (given : Nat) (notWii : controller.driver.kind ≠ .wii)
    (queue : Queued controller around endpointIdx (earlier ++ [last])) :
    ∃ base, (controller.readInput around normalData given).map
        (fun read => read.controller.driver) =
      Driver.stateAfter base around endpointIdx controller.driver
        ((earlier.foldl (Delivery.next (controller.capacity endpointIdx)) ⟨around.stack, 0⟩).next
          (controller.capacity endpointIdx) last) := by
  have positive : 0 < min (controller.base.maxPacketSize endpointIdx) controller.bufferSize := by
    have room := controller.bufferSize_ge
    have delivers := queue.delivers
    omega
  have read := BaseController.readEndpointLatest_waiting positive around.stack
    (show earlier ++ [last] ≠ [] by simp) queue.nonempty
  rw [← queue.queued] at read
  obtain ⟨base, parsed⟩ := readInput_only normalData given notWii
    (BaseController.lt_of_maxPacketSize_pos queue.delivers) queue.quiet (by rw [read])
  refine ⟨base, ?_⟩
  rw [parsed, map_afterParse_driver, read, List.foldl_append]
  rfl

theorem keepsLatest_iff_latestSuffices (controller : Controller)
    (stateful : controller.driver.kind = .xboxOne ∨ controller.driver.kind = .xbox360Wireless ∨
      controller.driver.kind = .steamController2026)
    (around : Surroundings) (normalData : NormalizedButtonData) (given endpointIdx : Nat)
    (earlier : List (List UInt8)) (last : List UInt8)
    (queue : Queued controller around endpointIdx (earlier ++ [last])) :
    controller.KeepsLatest around normalData given endpointIdx (earlier ++ [last]) ↔
      controller.LatestSuffices around endpointIdx earlier last := by
  have notWii : controller.driver.kind ≠ .wii := by
    rcases stateful with isKind | isKind | isKind <;> rw [isKind] <;> decide
  obtain ⟨base, read⟩ := readInput_queued normalData given notWii queue
  unfold KeepsLatest LatestSuffices
  rw [read, deliveries_append]
  cases driverIs : controller.driver with
  | xboxOne state => exact Driver.keepsLatest_xboxOne _ _ _ _ _ state
  | xbox360Wireless state => exact Driver.keepsLatest_xbox360Wireless _ _ _ _ _ state
  | steamController2026 state => exact Driver.keepsLatest_steamController2026 _ _ _ _ _ state
  | _ => simp [driverIs, Driver.kind] at stateful

def receiver : Controller where
  base := { inPipe := List.replicate 4 ⟨0, 32⟩ }
  driver := .xbox360Wireless {}

def waitingAt (reports : List (List UInt8)) : Surroundings where
  pending := Function.update (fun _ => []) 0 (waiting reports)

theorem receiver_queued {reports : List (List UInt8)} (nonempty : ∀ report ∈ reports, report ≠ []) :
    Queued receiver (waitingAt reports) 0 reports := by
  refine ⟨by decide, ?_, ?_, nonempty⟩
  · simp [waitingAt]
  · intro other notServed
    simp [waitingAt, notServed]

theorem receiver_keeps_disconnect :
    receiver.KeepsLatest (waitingAt [[0x08, 0x80], [0x08, 0x00]]) {} 0 0
      ([[0x08, 0x80]] ++ [[0x08, 0x00]]) := by
  apply (keepsLatest_iff_latestSuffices receiver (by decide) _ {} 0 0 [[0x08, 0x80]] [0x08, 0x00]
    (receiver_queued (by decide))).mpr
  intro slot
  by_cases own : slot = 0
  · subst own
    exact Or.inl (by decide)
  · refine Or.inr fun stored found => ?_
    obtain ⟨report, _, stores⟩ := lastWrite_mem found
    simp only [Xbox360WirelessController.storedFlag, assigned] at stores
    split at stores
    · rw [if_neg (fun same => own same.symm)] at stores
      simp at stores
    · simp at stores

theorem receiver_loses_connect :
    ¬∀ (controller : Controller) (around : Surroundings) (normalData : NormalizedButtonData)
      (given endpointIdx : Nat) (reports : List (List UInt8)), reports ≠ [] →
      (controller.driver.kind = .xboxOne ∨ controller.driver.kind = .xbox360Wireless ∨
        controller.driver.kind = .steamController2026) →
      Queued controller around endpointIdx reports →
        controller.KeepsLatest around normalData given endpointIdx reports := by
  intro always
  have keeps := always receiver (waitingAt [[0x08, 0x80], [0x00, 0x00]]) {} 0 0
    [[0x08, 0x80], [0x00, 0x00]] (by decide) (by decide) (receiver_queued (by decide))
  have flags := congrArg (fun final => final.toOption.map fun driver =>
    (driver.isControllerConnected 0).toOption) keeps
  revert flags
  decide

end Controller

end SysCon
