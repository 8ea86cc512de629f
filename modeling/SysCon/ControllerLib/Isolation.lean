import SysCon.ControllerLib.LatestReport
import SysCon.Library.Runs

/-!
The controllers behind one receiver. What `ParseData` returns for one of them,
and whether it is connected, does not depend on the reports of the others. The
Steam receiver has one raw input record for all of them; every input report
overwrites each field that any of them can set.
-/

namespace SysCon

open Library

structure ReportCall where
  report : Delivery
  inputIdx : Fin CONTROLLER_MAX_INPUTS

/-- What a call stores for one of the inputs: nothing, unless it is its own. -/
def ownWrite {value : Type} (write : Delivery → Option value) (mine : Fin CONTROLLER_MAX_INPUTS)
    (call : ReportCall) : Option value :=
  if call.inputIdx = mine then write call.report else none

theorem Slots.fetch_stored {value : Type} {slots stored : Slots value}
    {index : Fin CONTROLLER_MAX_INPUTS} {write : Option value}
    (same : stored.get index = write.getD (slots.get index)) :
    stored.fetch index = (write.map Except.ok).getD (slots.fetch index) := by
  rw [Slots.fetch_of_lt index.isLt, Slots.fetch_of_lt index.isLt]
  cases write with
  | none => exact congrArg Except.ok same
  | some value => exact congrArg Except.ok same

/-- What the caller gets. -/
def Parsed.answer {state : Type} (parsed : Parsed state) : ControllerResult × RawInputData :=
  (parsed.status, parsed.rawData)

namespace Driver

def answer (base : BaseController) (around : Surroundings) (driver : Driver) (call : ReportCall) :
    Exec (ControllerResult × RawInputData) :=
  (driver.parseData base around call.report.buffer call.report.size {} call.inputIdx).map
    Parsed.answer

-- A call that faults has no next state; these drivers do not fault on an index below four.
def next (base : BaseController) (around : Surroundings) (driver : Driver) (call : ReportCall) :
    Driver :=
  match stateAfter base around call.inputIdx driver call.report with
  | .ok next => next
  | .error _ => driver

def serve (base : BaseController) (around : Surroundings) (driver : Driver) (call : ReportCall) :
    Exec (ControllerResult × RawInputData) × Driver :=
  (driver.answer base around call, driver.next base around call)

end Driver

namespace RawInputData

theorem assign_assign (raw : RawInputData) {buttons laterButtons : List (ButtonId × Bool)}
    {analog laterAnalog : List (ControllerAnalogType × ℚ)}
    (sameButtons : buttons.map Prod.fst = laterButtons.map Prod.fst)
    (sameAnalog : analog.map Prod.fst = laterAnalog.map Prod.fst) :
    (raw.assign buttons analog).assign laterButtons laterAnalog =
      raw.assign laterButtons laterAnalog := by
  have coveredButtons : buttons.map Prod.fst ⊆ laterButtons.map Prod.fst :=
    sameButtons ▸ List.Subset.refl _
  have coveredAnalog : analog.map Prod.fst ⊆ laterAnalog.map Prod.fst :=
    sameAnalog ▸ List.Subset.refl _
  simp only [assign, updates_updates _ coveredButtons, updates_updates _ coveredAnalog]

end RawInputData

namespace Xbox360WirelessController

/-- The connection that a report announces. -/
def connection (report : Delivery) : Option Bool :=
  if isStatusReport report.buffer then some (report.buffer.bit 1 7) else none

theorem parseData_answer (base : BaseController) (first second : Xbox360WirelessController)
    (report : Delivery) (rawData : RawInputData) (inputIdx : Fin CONTROLLER_MAX_INPUTS) :
    (first.parseData base report.buffer report.size rawData inputIdx).map Parsed.answer =
      (second.parseData base report.buffer report.size rawData inputIdx).map Parsed.answer := by
  by_cases status : isStatusReport report.buffer
  · obtain ⟨sent, parsed⟩ := parseStatus_of_lt base first (report.buffer.bit 1 7) inputIdx.isLt
    obtain ⟨otherSent, otherParsed⟩ :=
      parseStatus_of_lt base second (report.buffer.bit 1 7) inputIdx.isLt
    rw [parseData_status base first status, parseData_status base second status, parsed,
      otherParsed]
    rfl
  · by_cases header : isControllerData report.buffer
    · rw [parseData_controllerData base first header, parseData_controllerData base second header]
      split
      · rfl
      · split <;> rfl
    · rw [parseData_other base first status header, parseData_other base second status header]
      rfl

theorem overwrites_connection (slot : Fin CONTROLLER_MAX_INPUTS) :
    Overwrites (fun controller call => afterStatus call.inputIdx controller call.report)
      (fun controller => controller.isConnected.get slot) (ownWrite connection slot) := by
  intro controller call
  refine (overwrites_flag call.inputIdx slot controller call.report).trans ?_
  rw [storedFlag, ownWrite, connection]
  split
  · rfl
  · rw [ite_self]
    rfl

end Xbox360WirelessController

namespace WiiController

def afterPort (inputIdx : Fin CONTROLLER_MAX_INPUTS) (controller : WiiController)
    (report : Delivery) : WiiController :=
  if report.size < 9 then controller
  else
    { controller with
      rumbleSupported :=
        controller.rumbleSupported.set inputIdx (report.buffer.bit 0 STATE_EXTRA_POWER_BIT)
          inputIdx.isLt
      isConnected := controller.isConnected.set inputIdx
        (report.buffer.bit 0 STATE_NORMAL_BIT || report.buffer.bit 0 STATE_WAVEBIRD_BIT)
        inputIdx.isLt }

def connection (report : Delivery) : Option Bool :=
  if report.size < 9 then none
  else some (report.buffer.bit 0 STATE_NORMAL_BIT || report.buffer.bit 0 STATE_WAVEBIRD_BIT)

theorem parseData_long (controller : WiiController) {report : Delivery} (long : ¬report.size < 9)
    (rawData : RawInputData) (inputIdx : Fin CONTROLLER_MAX_INPUTS) :
    controller.parseData report.buffer report.size rawData inputIdx =
      if !(report.buffer.bit 0 STATE_NORMAL_BIT || report.buffer.bit 0 STATE_WAVEBIRD_BIT) then
        .ok ⟨.nothingTodo, rawData, inputIdx, afterPort inputIdx controller report, []⟩
      else .ok ⟨.success, rawData.assign (buttons report.buffer) (analog report.buffer), inputIdx,
        afterPort inputIdx controller report, []⟩ := by
  rw [parseData, if_neg long, afterPort, if_neg long]
  simp only [Slots.put_of_lt inputIdx.isLt, bind, Except.bind, pure, Except.pure]

theorem parseData_short (controller : WiiController) {report : Delivery} (short : report.size < 9)
    (rawData : RawInputData) (inputIdx : Fin CONTROLLER_MAX_INPUTS) :
    controller.parseData report.buffer report.size rawData inputIdx =
      .ok ⟨.unexpectedData, rawData, inputIdx, afterPort inputIdx controller report, []⟩ := by
  rw [parseData, if_pos short, afterPort, if_pos short]
  rfl

theorem parseData_state (controller : WiiController) (report : Delivery) (rawData : RawInputData)
    (inputIdx : Fin CONTROLLER_MAX_INPUTS) :
    (controller.parseData report.buffer report.size rawData inputIdx).map Parsed.state =
      .ok (afterPort inputIdx controller report) := by
  by_cases short : report.size < 9
  · rw [parseData_short controller short]
    rfl
  · rw [parseData_long controller short]
    split <;> rfl

theorem parseData_answer (first second : WiiController) (report : Delivery)
    (rawData : RawInputData) (inputIdx : Fin CONTROLLER_MAX_INPUTS) :
    (first.parseData report.buffer report.size rawData inputIdx).map Parsed.answer =
      (second.parseData report.buffer report.size rawData inputIdx).map Parsed.answer := by
  by_cases short : report.size < 9
  · rw [parseData_short first short, parseData_short second short]
    rfl
  · rw [parseData_long first short, parseData_long second short]
    split <;> rfl

theorem overwrites_connection (slot : Fin CONTROLLER_MAX_INPUTS) :
    Overwrites (fun controller call => afterPort call.inputIdx controller call.report)
      (fun controller => controller.isConnected.get slot) (ownWrite connection slot) := by
  intro controller call
  change (afterPort call.inputIdx controller call.report).isConnected.get slot = _
  rw [afterPort, ownWrite, connection]
  by_cases short : call.report.size < 9
  · rw [if_pos short, if_pos short, ite_self]
    rfl
  · rw [if_neg short, if_neg short]
    exact controller.isConnected.getElem_set_assigned call.inputIdx slot _

end WiiController

namespace SteamController2026

def connection (report : Delivery) : Option Bool :=
  if (wholeInput report).isSome then some true
  else if isStatusReport (report.buffer 0) then some (report.buffer 1 ≠ 0x01)
  else none

theorem buttons_keys (first second : Buffer) :
    (buttons first).map Prod.fst = (buttons second).map Prod.fst := by
  simp only [buttons, List.map_cons, List.map_nil]

theorem analog_keys (first second : Buffer) :
    (analog first).map Prod.fst = (analog second).map Prod.fst := by
  simp only [analog, List.map_cons, List.map_nil]

/-- An input report leaves nothing of what the record holds. -/
def Overwritten (controller : SteamController2026) : Prop :=
  ∀ data, controller.rawInput.assign (buttons data) (analog data) =
    ({} : RawInputData).assign (buttons data) (analog data)

theorem parseData_answer (base : BaseController) {controller : SteamController2026}
    (inv : controller.Overwritten) (report : Delivery) (rawData : RawInputData)
    (inputIdx : Fin CONTROLLER_MAX_INPUTS) :
    (controller.parseData base report.buffer report.size rawData inputIdx).map Parsed.answer =
      .ok (if isInputReport (report.buffer 0) then
          if report.size < sizeofInputReport then (.unexpectedData, rawData)
          else (.success, ({} : RawInputData).assign (buttons report.buffer) (analog report.buffer))
        else (.nothingTodo, rawData)) := by
  have inside : ¬inputIdx.val ≥ STEAMCONTROLLER_MAX_INPUTS := Nat.not_le.mpr inputIdx.isLt
  by_cases isInput : isInputReport (report.buffer 0)
  · rw [parseData, if_neg inside, if_pos isInput, if_pos isInput]
    by_cases short : report.size < sizeofInputReport
    · rw [if_pos short, if_pos short]
      rfl
    · rw [if_neg short, if_neg short, ← inv report.buffer]
      simp only [Slots.fetch_of_lt inputIdx.isLt, onControllerConnect,
        Slots.put_of_lt inputIdx.isLt, bind, Except.bind, pure, Except.pure]
      by_cases connected : controller.isConnected[inputIdx.val] = true
      · simp [connected, Except.map, Parsed.answer]
      · simp [connected, Except.map, Parsed.answer]
  · by_cases status : isStatusReport (report.buffer 0)
    · obtain ⟨sent, parsed⟩ :=
        parseStatus_of_lt base controller (report.buffer 1 ≠ 0x01) inputIdx.isLt
      rw [parseData_status base controller status _ _ inputIdx.isLt, parsed, if_neg isInput]
      rfl
    · rw [parseData, if_neg inside, if_neg isInput, if_neg isInput, if_neg status]
      rfl

theorem afterReport_overwritten {controller : SteamController2026} (inv : controller.Overwritten)
    (inputIdx : Fin CONTROLLER_MAX_INPUTS) (report : Delivery) :
    (afterReport inputIdx controller report).Overwritten := by
  rcases afterReport_cases inputIdx controller report with
    ⟨_, _, after⟩ | ⟨_, _, after⟩ | ⟨_, _, after⟩
  · intro data
    rw [after]
    change (controller.rawInput.assign _ _).assign _ _ = _
    rw [RawInputData.assign_assign _ (buttons_keys _ _) (analog_keys _ _)]
    exact inv data
  · rw [after]
    exact inv
  · rw [after]
    exact inv

theorem overwrites_connection (slot : Fin CONTROLLER_MAX_INPUTS) :
    Overwrites (fun controller call => afterReport call.inputIdx controller call.report)
      (fun controller => controller.isConnected.get slot) (ownWrite connection slot) := by
  intro controller call
  refine (overwrites_flag call.inputIdx slot controller call.report).trans ?_
  rw [storedFlag, ownWrite, connection]
  split
  · rfl
  · split
    · rfl
    · rw [ite_self]
      rfl

end SteamController2026

namespace Driver

/-- A driver of several controllers, in a state that it can reach. -/
inductive Receives : DriverKind → Driver → Prop
  | xbox360Wireless (state) : Receives .xbox360Wireless (.xbox360Wireless state)
  | wii (state) : Receives .wii (.wii state)
  | steamController2026 {state} (overwritten : state.Overwritten) :
      Receives .steamController2026 (.steamController2026 state)

def connection : DriverKind → Delivery → Option Bool
  | .xbox360Wireless => Xbox360WirelessController.connection
  | .wii => WiiController.connection
  | .steamController2026 => SteamController2026.connection
  | _ => fun _ => none

variable {base : BaseController} {around : Surroundings} {kind : DriverKind}

theorem stateAfter_wii (state : WiiController) (inputIdx : Fin CONTROLLER_MAX_INPUTS)
    (report : Delivery) :
    stateAfter base around inputIdx (.wii state) report =
      .ok (.wii (state.afterPort inputIdx report)) := by
  unfold stateAfter parseData
  rw [map_parsed_state, state.parseData_state]
  rfl

theorem Receives.next {driver : Driver} (receives : Receives kind driver) (call : ReportCall) :
    Receives kind (driver.next base around call) := by
  unfold Driver.next
  cases receives with
  | xbox360Wireless state =>
      rw [stateAfter_xbox360Wireless]
      exact .xbox360Wireless _
  | wii state =>
      rw [stateAfter_wii]
      exact .wii _
  | steamController2026 overwritten =>
      rw [stateAfter_steamController2026]
      exact .steamController2026 (SteamController2026.afterReport_overwritten overwritten _ _)

theorem map_parsed_answer {state : Type} (wrap : state → Driver) (parsed : Exec (Parsed state)) :
    (parsed.map (Parsed.map wrap)).map Parsed.answer = parsed.map Parsed.answer := by
  cases parsed with
  | error fault => rfl
  | ok parsed => rfl

theorem Receives.connected_next {driver : Driver} (receives : Receives kind driver)
    (call : ReportCall) (mine : Fin CONTROLLER_MAX_INPUTS) :
    (driver.next base around call).isControllerConnected mine =
      ((ownWrite (connection kind) mine call).map Except.ok).getD
        (driver.isControllerConnected mine) := by
  unfold Driver.next
  cases receives with
  | xbox360Wireless state =>
      rw [stateAfter_xbox360Wireless]
      exact Slots.fetch_stored (Xbox360WirelessController.overwrites_connection mine state call)
  | wii state =>
      rw [stateAfter_wii]
      exact Slots.fetch_stored (WiiController.overwrites_connection mine state call)
  | @steamController2026 state overwritten =>
      rw [stateAfter_steamController2026]
      exact Slots.fetch_stored (SteamController2026.overwrites_connection mine state call)

theorem Receives.answer_eq {first second : Driver} (firstReceives : Receives kind first)
    (secondReceives : Receives kind second) (call : ReportCall) :
    first.answer base around call = second.answer base around call := by
  unfold Driver.answer Driver.parseData
  cases firstReceives with
  | xbox360Wireless state =>
      cases secondReceives with
      | xbox360Wireless other =>
          simp only [map_parsed_answer]
          exact Xbox360WirelessController.parseData_answer base state other _ _ _
  | wii state =>
      cases secondReceives with
      | wii other =>
          simp only [map_parsed_answer]
          exact WiiController.parseData_answer state other _ _ _
  | steamController2026 overwritten =>
      cases secondReceives with
      | steamController2026 otherOverwritten =>
          simp only [map_parsed_answer]
          rw [SteamController2026.parseData_answer base overwritten,
            SteamController2026.parseData_answer base otherOverwritten]

theorem receivers_isolated (base : BaseController) (around : Surroundings) (kind : DriverKind) :
    Isolated (serve base around) ReportCall.inputIdx
      (fun mine driver => driver.isControllerConnected mine.val) (Receives kind) where
  preserved := fun receives call => receives.next call
  others := by
    intro driver receives call mine other
    exact (receives.connected_next call mine).trans (by rw [ownWrite, if_neg other]; rfl)
  own := by
    intro first second firstReceives secondReceives call same
    refine ⟨firstReceives.answer_eq secondReceives call, ?_⟩
    simp only [serve]
    rw [firstReceives.connected_next, secondReceives.connected_next, same]

theorem answer_finishes (base : BaseController) (around : Surroundings) (driver : Driver)
    (call : ReportCall) : ∃ result, (serve base around driver call).1 = .ok result := by
  have inside := call.inputIdx.isLt
  exact Exec.Finishes.exists_ok (Exec.Avoids.map
    (parseData_avoids fun outside => absurd inside (Nat.not_lt.mpr outside)))

theorem create_receives (multi : kind ∈ [.xbox360Wireless, .wii, .steamController2026])
    (memory : Buffer) (flags : Slots Bool) : Receives kind (create memory flags kind) := by
  simp only [List.mem_cons, List.not_mem_nil, or_false] at multi
  rcases multi with rfl | rfl | rfl
  · exact .xbox360Wireless _
  · exact .wii _
  · exact .steamController2026 fun data => rfl

theorem create_connected (multi : kind ∈ [.xbox360Wireless, .wii, .steamController2026])
    (memory : Buffer) (flags : Slots Bool) (mine : Fin CONTROLLER_MAX_INPUTS) :
    (create memory flags kind).isControllerConnected mine = .ok false := by
  have unconnected :
      Slots.fetch (Vector.replicate CONTROLLER_MAX_INPUTS false) mine = .ok false := by
    rw [Slots.fetch_of_lt mine.isLt, Vector.getElem_replicate]
  simp only [List.mem_cons, List.not_mem_nil, or_false] at multi
  rcases multi with rfl | rfl | rfl <;> exact unconnected

/-- Whether one of the controllers is connected after some calls: its last report that says so
decides. -/
theorem Receives.connected_after {driver : Driver} (receives : Receives kind driver)
    (calls : List ReportCall) (mine : Fin CONTROLLER_MAX_INPUTS) :
    (afterInputs (serve base around) driver calls).isControllerConnected mine =
      ((lastWrite (ownWrite (connection kind) mine) calls).map Except.ok).getD
        (driver.isControllerConnected mine) := by
  induction calls generalizing driver with
  | nil => rfl
  | cons call rest ih =>
      have next : Receives kind (driver.next base around call) := receives.next call
      have later := ih next
      rw [receives.connected_next] at later
      refine later.trans ?_
      rw [lastWrite_cons]
      cases lastWrite (ownWrite (connection kind) mine) rest <;> rfl

theorem lastWrite_ownWrite {value : Type} (write : Delivery → Option value)
    (mine : Fin CONTROLLER_MAX_INPUTS) (calls : List ReportCall) :
    lastWrite (ownWrite write mine) calls =
      lastWrite write ((calls.filter fun call => call.inputIdx = mine).map ReportCall.report) := by
  induction calls with
  | nil => rfl
  | cons call rest ih =>
      rw [lastWrite_cons, ih]
      by_cases own : call.inputIdx = mine
      · rw [List.filter_cons_of_pos (by simpa using own), List.map_cons, lastWrite_cons, ownWrite,
          if_pos own]
      · rw [List.filter_cons_of_neg (by simpa using own), ownWrite, if_neg own, Option.or_none]

theorem receivers_isolate {kind : DriverKind}
    (multi : kind ∈ [.xbox360Wireless, .wii, .steamController2026]) (memory : Buffer)
    (flags : Slots Bool) (base : BaseController) (around : Surroundings)
    (mine : Fin CONTROLLER_MAX_INPUTS) {first second : List ReportCall}
    (same : (first.filter fun call => call.inputIdx = mine) =
      second.filter fun call => call.inputIdx = mine) :
    let run := afterInputs (serve base around) (create memory flags kind)
    let answers := answersTo (serve base around) ReportCall.inputIdx mine
      (create memory flags kind)
    answers first = answers second ∧ (∀ answer ∈ answers first, ∃ result, answer = .ok result) ∧
      (run first).isControllerConnected mine = (run second).isControllerConnected mine ∧
      (run first).isControllerConnected mine =
        .ok ((lastWrite (connection kind)
          ((first.filter fun call => call.inputIdx = mine).map ReportCall.report)).getD false) := by
  have receives := create_receives multi memory flags
  obtain ⟨answers, connected⟩ :=
    (receivers_isolated base around kind).noninterference mine receives same
  refine ⟨answers, answersTo_forall (answer_finishes base around) mine _ first, connected, ?_⟩
  rw [receives.connected_after, create_connected multi, lastWrite_ownWrite]
  cases lastWrite (connection kind) _ <;> rfl

/-- The connection of a controller of the wireless receiver, among reports of its neighbours. -/
def wirelessStatus (connected : Bool) (inputIdx : Fin CONTROLLER_MAX_INPUTS) : ReportCall :=
  ⟨⟨fun index => if index = 0 then 0x08 else if connected then 0x80 else 0, 2⟩, inputIdx⟩

theorem receivers_isolate_wireless :
    (afterInputs (serve {} {}) (create (fun _ => 0) (Vector.replicate 4 false) .xbox360Wireless)
      [wirelessStatus true 2, wirelessStatus true 1, wirelessStatus false 2]).isControllerConnected
        1 = .ok true := by
  have multi : DriverKind.xbox360Wireless ∈ [.xbox360Wireless, .wii, .steamController2026] := by
    decide
  have same : ([wirelessStatus true 2, wirelessStatus true 1, wirelessStatus false 2].filter
      fun call => call.inputIdx = 1) =
        [wirelessStatus true 1].filter fun call => call.inputIdx = 1 := rfl
  exact (receivers_isolate multi (fun _ => 0) _ {} {} 1 same).2.2.2

end Driver

end SysCon
