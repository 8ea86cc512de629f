import SysCon.ControllerLib.ReadNextBuffer
import SysCon.ControllerLib.ReceivedBytes

/-!
What a report stores in the state of its driver. Each part of a state is a
register of the reports: a report replaces what the part holds, whatever that
was, or leaves it alone.
-/

namespace SysCon

open Library

/-- A report in the buffer, as a read leaves it there. -/
structure Delivery where
  buffer : Buffer
  size : Nat

namespace Delivery

def next (capacity : Nat) (previous : Delivery) (report : List UInt8) : Delivery where
  buffer := previous.buffer.write (report.take capacity)
  size := (report.take capacity).length

end Delivery

def deliveries (capacity : Nat) : Delivery → List (List UInt8) → List Delivery
  | _, [] => []
  | previous, report :: rest =>
      previous.next capacity report :: deliveries capacity (previous.next capacity report) rest

theorem deliveries_append (capacity : Nat) (start : Delivery) (earlier later : List (List UInt8)) :
    deliveries capacity start (earlier ++ later) = deliveries capacity start earlier ++
      deliveries capacity (earlier.foldl (Delivery.next capacity) start) later := by
  induction earlier generalizing start with
  | nil => rfl
  | cons report rest ih => simp only [List.cons_append, deliveries, ih, List.foldl_cons]

def waiting (reports : List (List UInt8)) : List ReadOutcome :=
  reports.map fun report => ⟨.success, report⟩

theorem take_length_ne_zero {capacity : Nat} (positive : 0 < capacity) {report : List UInt8}
    (nonempty : report ≠ []) : (report.take capacity).length ≠ 0 := by
  have filled := List.length_pos_iff.mpr nonempty
  rw [List.length_take]
  omega

namespace BaseController

theorem drain_waiting {capacity : Nat} (positive : 0 < capacity) (start : Delivery)
    (reports : List (List UInt8)) (nonempty : ∀ report ∈ reports, report ≠ []) :
    drain capacity (waiting reports) start.buffer start.size =
      ⟨.success, (reports.foldl (Delivery.next capacity) start).buffer,
        (reports.foldl (Delivery.next capacity) start).size, []⟩ := by
  induction reports generalizing start with
  | nil => rfl
  | cons report rest ih =>
      have filled := take_length_ne_zero positive (nonempty report (by simp))
      have later := ih (start.next capacity report)
        (fun other member => nonempty other (by simp [member]))
      rw [List.foldl_cons, ← later]
      simp only [waiting, List.map_cons, drain]
      rw [if_neg (by simpa using filled)]
      rfl

theorem readEndpointLatest_waiting {wMaxPacketSize size : Nat}
    (positive : 0 < min wMaxPacketSize size) (buffer : Buffer) {reports : List (List UInt8)}
    (some : reports ≠ [])
    (nonempty : ∀ report ∈ reports, report ≠ []) :
    let latest := reports.foldl (Delivery.next (min wMaxPacketSize size)) ⟨buffer, 0⟩
    readEndpointLatest wMaxPacketSize (waiting reports) buffer size =
      ⟨.success, latest.buffer, latest.size, []⟩ := by
  cases reports with
  | nil => exact absurd rfl some
  | cons report rest =>
      have filled := take_length_ne_zero positive (nonempty report (by simp))
      simp only [waiting, List.map_cons, readEndpointLatest_cons]
      rw [if_neg (by simp), if_neg filled]
      exact drain_waiting positive (Delivery.next _ ⟨buffer, 0⟩ report) rest
        (fun other member => nonempty other (by simp [member]))

end BaseController

theorem Slots.getElem_set_assigned {value : Type} (slots : Slots value)
    (index slot : Fin CONTROLLER_MAX_INPUTS) (stored : value) :
    (slots.set index stored)[slot] = (assigned slot (index, stored)).getD slots[slot] := by
  by_cases own : index = slot
  · subst own
    simp [assigned]
  · have other : index.val ≠ slot.val := fun same => own (Fin.ext same)
    simp [assigned, own, other]

/-! What a report stores in each part of a driver's state. -/

namespace XboxOneController

def afterReport (controller : XboxOneController) (report : Delivery) : XboxOneController :=
  if report.buffer 0 = GIP_CMD_INPUT then
    if report.size < sizeofButtonData then controller else controller.storeInput report.buffer
  else if report.buffer 0 = GIP_CMD_VIRTUAL_KEY then
    if report.size < 6 then controller else controller.storeMode report.buffer
  else controller

theorem parseData_state (base : BaseController) (results : WriteResults)
    (controller : XboxOneController) (report : Delivery) (rawData : RawInputData)
    (inputIdx : Nat) :
    (controller.parseData base results report.buffer report.size rawData inputIdx).state =
      controller.afterReport report := by
  unfold parseData afterReport
  by_cases isInput : report.buffer 0 = GIP_CMD_INPUT
  · rw [if_pos isInput, if_pos isInput]
    by_cases short : report.size < sizeofButtonData
    · rw [if_pos short, if_pos short]
    · rw [if_neg short, if_neg short]
  · rw [if_neg isInput, if_neg isInput]
    by_cases isKey : report.buffer 0 = GIP_CMD_VIRTUAL_KEY
    · rw [if_pos isKey, if_pos isKey]
      by_cases short : report.size < 6
      · rw [if_pos short, if_pos short]
      · rw [if_neg short, if_neg short]
        by_cases asks : report.buffer 1 = GIP_OPT_ACK ||| GIP_OPT_INTERNAL
        · rw [if_pos asks]
          cases writeAckModeReport base results inputIdx (report.buffer 2) with
          | mk result sent =>
              by_cases failed : result ≠ .success
              · simp only [if_pos failed]
              · simp only [if_neg failed]
        · rw [if_neg asks]
    · rw [if_neg isKey, if_neg isKey]

def storedButton (id : ButtonId) (report : Delivery) : Option Bool :=
  if report.buffer 0 = GIP_CMD_INPUT then
    if report.size < sizeofButtonData then none
    else lastWrite (assigned id) (buttons report.buffer)
  else if report.buffer 0 = GIP_CMD_VIRTUAL_KEY then
    if report.size < 6 then none else assigned id (modeButton, report.buffer 4 ≠ 0)
  else none

def storedAnalog (analogType : ControllerAnalogType) (report : Delivery) : Option ℚ :=
  if report.buffer 0 = GIP_CMD_INPUT then
    if report.size < sizeofButtonData then none
    else lastWrite (assigned analogType) (analog report.buffer)
  else none

theorem overwrites_button (id : ButtonId) :
    Overwrites afterReport (fun controller => controller.rawInput.buttons id)
      (storedButton id) := by
  intro controller report
  unfold afterReport storedButton
  by_cases isInput : report.buffer 0 = GIP_CMD_INPUT
  · rw [if_pos isInput, if_pos isInput]
    by_cases short : report.size < sizeofButtonData
    · rw [if_pos short, if_pos short]
      rfl
    · rw [if_neg short, if_neg short]
      exact updates_apply _ _ _
  · rw [if_neg isInput, if_neg isInput]
    by_cases isKey : report.buffer 0 = GIP_CMD_VIRTUAL_KEY
    · rw [if_pos isKey, if_pos isKey]
      by_cases short : report.size < 6
      · rw [if_pos short, if_pos short]
        rfl
      · rw [if_neg short, if_neg short]
        exact updates_apply _ _ _
    · rw [if_neg isKey, if_neg isKey]
      rfl

theorem overwrites_analog (analogType : ControllerAnalogType) :
    Overwrites afterReport (fun controller => controller.rawInput.analog analogType)
      (storedAnalog analogType) := by
  intro controller report
  unfold afterReport storedAnalog
  by_cases isInput : report.buffer 0 = GIP_CMD_INPUT
  · rw [if_pos isInput, if_pos isInput]
    by_cases short : report.size < sizeofButtonData
    · rw [if_pos short, if_pos short]
      rfl
    · rw [if_neg short, if_neg short]
      exact updates_apply _ _ _
  · rw [if_neg isInput, if_neg isInput]
    by_cases isKey : report.buffer 0 = GIP_CMD_VIRTUAL_KEY
    · rw [if_pos isKey]
      by_cases short : report.size < 6
      · rw [if_pos short]
        rfl
      · rw [if_neg short]
        rfl
    · rw [if_neg isKey]
      rfl

/-- No part of the stored input needs a report that was dropped. -/
def LatestSuffices (controller : XboxOneController) (dropped : List Delivery) (newest : Delivery) :
    Prop :=
  (∀ id, LastSuffices (storedButton id) (controller.rawInput.buttons id) dropped newest) ∧
    ∀ analogType, LastSuffices (storedAnalog analogType) (controller.rawInput.analog analogType)
      dropped newest

theorem eq_iff {first second : XboxOneController} :
    first = second ↔ (∀ id, first.rawInput.buttons id = second.rawInput.buttons id) ∧
      ∀ analogType, first.rawInput.analog analogType = second.rawInput.analog analogType := by
  constructor
  · rintro rfl
    exact ⟨fun _ => rfl, fun _ => rfl⟩
  · rintro ⟨sameButtons, sameAnalog⟩
    cases first
    cases second
    congr 1
    exact RawInputData.ext (funext sameButtons) (funext sameAnalog)

theorem keepLatest_iff (controller : XboxOneController) (dropped : List Delivery)
    (newest : Delivery) :
    (dropped ++ [newest]).foldl afterReport controller = controller.afterReport newest ↔
      controller.LatestSuffices dropped newest := by
  rw [eq_iff]
  exact and_congr
    (forall_congr' fun id => (overwrites_button id).keepLast_iff controller dropped newest)
    (forall_congr' fun analogType =>
      (overwrites_analog analogType).keepLast_iff controller dropped newest)

end XboxOneController

namespace Xbox360WirelessController

def afterStatus (inputIdx : Fin CONTROLLER_MAX_INPUTS) (controller : Xbox360WirelessController)
    (report : Delivery) : Xbox360WirelessController :=
  if isStatusReport report.buffer then
    ⟨controller.isConnected.set inputIdx (report.buffer.bit 1 7)⟩
  else controller

theorem parseData_ignored (base : BaseController) (controller : Xbox360WirelessController)
    {report : Delivery} (noStatus : ¬isStatusReport report.buffer) (rawData : RawInputData)
    (inputIdx : Nat) :
    (controller.parseData base report.buffer report.size rawData inputIdx).map Parsed.state =
      .ok controller := by
  by_cases header : isControllerData report.buffer
  · rw [parseData_controllerData base controller header]
    by_cases short : report.size < Xbox360Controller.sizeofButtonData
    · rw [if_pos short]
      rfl
    · rw [if_neg short]
      by_cases isButton : report.buffer 4 = Xbox360Controller.XBOX360INPUT_BUTTON
      · rw [if_pos isButton]
        rfl
      · rw [if_neg isButton]
        rfl
  · rw [parseData_other base controller noStatus header]
    rfl

theorem parseData_state (base : BaseController) (controller : Xbox360WirelessController)
    (report : Delivery) (rawData : RawInputData) (inputIdx : Fin CONTROLLER_MAX_INPUTS) :
    (controller.parseData base report.buffer report.size rawData inputIdx).map Parsed.state =
      .ok (afterStatus inputIdx controller report) := by
  by_cases status : isStatusReport report.buffer
  · obtain ⟨sent, parsed⟩ :=
      parseStatus_of_lt base controller (report.buffer.bit 1 7) inputIdx.isLt
    rw [parseData_status base controller status, parsed, afterStatus, if_pos status]
    rfl
  · rw [parseData_ignored base controller status, afterStatus, if_neg status]

theorem parseData_state_outside (base : BaseController) (controller : Xbox360WirelessController)
    (report : Delivery) (rawData : RawInputData) {inputIdx : Nat}
    (outside : ¬inputIdx < CONTROLLER_MAX_INPUTS) :
    (controller.parseData base report.buffer report.size rawData inputIdx).map Parsed.state =
      if isStatusReport report.buffer then .error (.slotIndex inputIdx) else .ok controller := by
  by_cases status : isStatusReport report.buffer
  · rw [parseData_status base controller status, parseStatus_of_ge base controller _ outside,
      if_pos status]
    rfl
  · rw [parseData_ignored base controller status, if_neg status]

def storedFlag (inputIdx slot : Fin CONTROLLER_MAX_INPUTS) (report : Delivery) : Option Bool :=
  if isStatusReport report.buffer then assigned slot (inputIdx, report.buffer.bit 1 7) else none

theorem overwrites_flag (inputIdx slot : Fin CONTROLLER_MAX_INPUTS) :
    Overwrites (afterStatus inputIdx) (fun controller => controller.isConnected[slot])
      (storedFlag inputIdx slot) := by
  intro controller report
  unfold afterStatus storedFlag
  by_cases status : isStatusReport report.buffer
  · rw [if_pos status, if_pos status]
    exact controller.isConnected.getElem_set_assigned inputIdx slot _
  · rw [if_neg status, if_neg status]
    rfl

def LatestSuffices (controller : Xbox360WirelessController) (inputIdx : Nat)
    (dropped : List Delivery) (newest : Delivery) : Prop :=
  if bound : inputIdx < CONTROLLER_MAX_INPUTS then
    ∀ slot, LastSuffices (storedFlag ⟨inputIdx, bound⟩ slot) controller.isConnected[slot] dropped
      newest
  else dropped.any (fun report => isStatusReport report.buffer) → isStatusReport newest.buffer

theorem keepLatest_iff (controller : Xbox360WirelessController)
    (inputIdx : Fin CONTROLLER_MAX_INPUTS) (dropped : List Delivery) (newest : Delivery) :
    (dropped ++ [newest]).foldl (afterStatus inputIdx) controller =
        afterStatus inputIdx controller newest ↔
      controller.LatestSuffices inputIdx dropped newest := by
  rw [LatestSuffices, dif_pos inputIdx.isLt]
  have flags (slot : Fin CONTROLLER_MAX_INPUTS) :=
    (overwrites_flag inputIdx slot).keepLast_iff controller dropped newest
  constructor
  · intro same slot
    rw [← flags slot, same]
  · intro enough
    generalize (dropped ++ [newest]).foldl _ controller = inOrder at flags ⊢
    cases inOrder
    cases latest : afterStatus inputIdx controller newest
    congr 1
    apply Vector.ext
    intro slot bound
    have same := (flags ⟨slot, bound⟩).mpr (enough ⟨slot, bound⟩)
    rw [latest] at same
    exact same

end Xbox360WirelessController

namespace SteamController2026

def afterReport (inputIdx : Fin CONTROLLER_MAX_INPUTS) (controller : SteamController2026)
    (report : Delivery) : SteamController2026 :=
  if isInputReport (report.buffer 0) then
    if report.size < sizeofInputReport then controller
    else
      { controller with
        rawInput := controller.rawInput.assign (buttons report.buffer) (analog report.buffer)
        isConnected := controller.isConnected.set inputIdx true }
  else if isStatusReport (report.buffer 0) then
    { controller with
      isConnected := controller.isConnected.set inputIdx (report.buffer 1 ≠ 0x01) }
  else controller

theorem parseData_state (base : BaseController) (controller : SteamController2026)
    (report : Delivery) (rawData : RawInputData) (inputIdx : Fin CONTROLLER_MAX_INPUTS) :
    (controller.parseData base report.buffer report.size rawData inputIdx).map Parsed.state =
      .ok (afterReport inputIdx controller report) := by
  have inside : ¬inputIdx.val ≥ STEAMCONTROLLER_MAX_INPUTS := Nat.not_le.mpr inputIdx.isLt
  unfold afterReport
  by_cases isInput : isInputReport (report.buffer 0)
  · rw [parseData, if_neg inside, if_pos isInput, if_pos isInput]
    by_cases short : report.size < sizeofInputReport
    · rw [if_pos short, if_pos short]
      rfl
    · rw [if_neg short, if_neg short]
      simp only [Slots.fetch_of_lt inputIdx.isLt, onControllerConnect,
        Slots.put_of_lt inputIdx.isLt, bind, Except.bind, pure, Except.pure]
      by_cases connected : controller.isConnected[inputIdx.val] = true
      · have unchanged : controller.isConnected.set inputIdx.val true = controller.isConnected := by
          rw [← connected]
          exact Vector.set_getElem_self inputIdx.isLt
        simp [connected, Except.map, unchanged]
      · simp [connected, Except.map]
  · by_cases status : isStatusReport (report.buffer 0)
    · obtain ⟨sent, parsed⟩ :=
        parseStatus_of_lt base controller (report.buffer 1 ≠ 0x01) inputIdx.isLt
      rw [parseData_status base controller status _ _ inputIdx.isLt, parsed, if_neg isInput,
        if_pos status]
      rfl
    · rw [parseData, if_neg inside, if_neg isInput, if_neg isInput, if_neg status, if_neg status]
      rfl

theorem afterReport_cases (inputIdx : Fin CONTROLLER_MAX_INPUTS) (controller : SteamController2026)
    (report : Delivery) :
    (isInputReport (report.buffer 0) ∧ ¬report.size < sizeofInputReport ∧
      afterReport inputIdx controller report =
        { controller with
          rawInput := controller.rawInput.assign (buttons report.buffer) (analog report.buffer)
          isConnected := controller.isConnected.set inputIdx true }) ∨
    (¬isInputReport (report.buffer 0) ∧ isStatusReport (report.buffer 0) ∧
      afterReport inputIdx controller report =
        { controller with
          isConnected := controller.isConnected.set inputIdx (report.buffer 1 ≠ 0x01) }) ∨
    ((isInputReport (report.buffer 0) → report.size < sizeofInputReport) ∧
      (¬isInputReport (report.buffer 0) → ¬isStatusReport (report.buffer 0)) ∧
      afterReport inputIdx controller report = controller) := by
  unfold afterReport
  by_cases isInput : isInputReport (report.buffer 0)
  · by_cases short : report.size < sizeofInputReport
    · refine Or.inr (Or.inr ⟨fun _ => short, fun other => absurd isInput other, ?_⟩)
      rw [if_pos isInput, if_pos short]
    · refine Or.inl ⟨isInput, short, ?_⟩
      rw [if_pos isInput, if_neg short]
  · by_cases status : isStatusReport (report.buffer 0)
    · refine Or.inr (Or.inl ⟨isInput, status, ?_⟩)
      rw [if_neg isInput, if_pos status]
    · refine Or.inr (Or.inr ⟨fun other => absurd other isInput, fun _ => status, ?_⟩)
      rw [if_neg isInput, if_neg status]

def wholeInput (report : Delivery) : Option Buffer :=
  if isInputReport (report.buffer 0) ∧ ¬report.size < sizeofInputReport then some report.buffer
  else none

def storedButton (id : ButtonId) (report : Delivery) : Option Bool :=
  (wholeInput report).bind fun data => lastWrite (assigned id) (buttons data)

def storedAnalog (analogType : ControllerAnalogType) (report : Delivery) : Option ℚ :=
  (wholeInput report).bind fun data => lastWrite (assigned analogType) (analog data)

def storedFlag (inputIdx slot : Fin CONTROLLER_MAX_INPUTS) (report : Delivery) : Option Bool :=
  if (wholeInput report).isSome then assigned slot (inputIdx, true)
  else if isStatusReport (report.buffer 0) then
    assigned slot (inputIdx, decide (report.buffer 1 ≠ 0x01))
  else none

theorem overwrites_button (inputIdx : Fin CONTROLLER_MAX_INPUTS) (id : ButtonId) :
    Overwrites (afterReport inputIdx) (fun controller => controller.rawInput.buttons id)
      (storedButton id) := by
  intro controller report
  rcases afterReport_cases inputIdx controller report with
    ⟨isInput, enough, after⟩ | ⟨isInput, _, after⟩ | ⟨short, _, after⟩
  · have whole : wholeInput report = some report.buffer := if_pos ⟨isInput, enough⟩
    rw [after, storedButton, whole]
    exact updates_apply _ _ _
  · have whole : wholeInput report = none := if_neg fun both => isInput both.1
    rw [after, storedButton, whole]
    rfl
  · have whole : wholeInput report = none := if_neg fun both => both.2 (short both.1)
    rw [after, storedButton, whole]
    rfl

theorem overwrites_analog (inputIdx : Fin CONTROLLER_MAX_INPUTS)
    (analogType : ControllerAnalogType) :
    Overwrites (afterReport inputIdx) (fun controller => controller.rawInput.analog analogType)
      (storedAnalog analogType) := by
  intro controller report
  rcases afterReport_cases inputIdx controller report with
    ⟨isInput, enough, after⟩ | ⟨isInput, _, after⟩ | ⟨short, _, after⟩
  · have whole : wholeInput report = some report.buffer := if_pos ⟨isInput, enough⟩
    rw [after, storedAnalog, whole]
    exact updates_apply _ _ _
  · have whole : wholeInput report = none := if_neg fun both => isInput both.1
    rw [after, storedAnalog, whole]
    rfl
  · have whole : wholeInput report = none := if_neg fun both => both.2 (short both.1)
    rw [after, storedAnalog, whole]
    rfl

theorem overwrites_flag (inputIdx slot : Fin CONTROLLER_MAX_INPUTS) :
    Overwrites (afterReport inputIdx) (fun controller => controller.isConnected[slot])
      (storedFlag inputIdx slot) := by
  intro controller report
  rcases afterReport_cases inputIdx controller report with
    ⟨isInput, enough, after⟩ | ⟨isInput, status, after⟩ | ⟨short, ignored, after⟩
  · have whole : wholeInput report = some report.buffer := if_pos ⟨isInput, enough⟩
    rw [after, storedFlag, whole, if_pos Option.isSome_some]
    exact controller.isConnected.getElem_set_assigned inputIdx slot true
  · have whole : wholeInput report = none := if_neg fun both => isInput both.1
    rw [after, storedFlag, whole, if_neg (by simp), if_pos status]
    exact controller.isConnected.getElem_set_assigned inputIdx slot _
  · have whole : wholeInput report = none := if_neg fun both => both.2 (short both.1)
    rw [after, storedFlag, whole, if_neg (by simp)]
    by_cases isInput : isInputReport (report.buffer 0)
    · have noStatus : ¬isStatusReport (report.buffer 0) := fun status =>
        isInputReport_of_status status isInput
      rw [if_neg noStatus]
      rfl
    · rw [if_neg (ignored isInput)]
      rfl

theorem afterReport_controllerCount (inputIdx : Fin CONTROLLER_MAX_INPUTS)
    (controller : SteamController2026) (report : Delivery) :
    (afterReport inputIdx controller report).controllerCount = controller.controllerCount := by
  rcases afterReport_cases inputIdx controller report with
    ⟨_, _, after⟩ | ⟨_, _, after⟩ | ⟨_, _, after⟩ <;> rw [after]

theorem foldl_controllerCount (inputIdx : Fin CONTROLLER_MAX_INPUTS)
    (controller : SteamController2026) (reports : List Delivery) :
    (reports.foldl (afterReport inputIdx) controller).controllerCount =
      controller.controllerCount := by
  induction reports generalizing controller with
  | nil => rfl
  | cons report rest ih => rw [List.foldl_cons, ih, afterReport_controllerCount]

def LatestSuffices (controller : SteamController2026) (inputIdx : Nat) (dropped : List Delivery)
    (newest : Delivery) : Prop :=
  ∀ bound : inputIdx < CONTROLLER_MAX_INPUTS,
    (∀ id, LastSuffices (storedButton id) (controller.rawInput.buttons id) dropped newest) ∧
    (∀ analogType, LastSuffices (storedAnalog analogType) (controller.rawInput.analog analogType)
      dropped newest) ∧
    ∀ slot, LastSuffices (storedFlag ⟨inputIdx, bound⟩ slot) controller.isConnected[slot] dropped
      newest

theorem eq_of_parts {first second : SteamController2026}
    (sameButtons : ∀ id, first.rawInput.buttons id = second.rawInput.buttons id)
    (sameAnalog : ∀ analogType, first.rawInput.analog analogType =
      second.rawInput.analog analogType)
    (sameFlags : ∀ slot : Fin CONTROLLER_MAX_INPUTS,
      first.isConnected[slot] = second.isConnected[slot])
    (sameCount : first.controllerCount = second.controllerCount) : first = second := by
  cases first
  cases second
  congr 1
  · exact RawInputData.ext (funext sameButtons) (funext sameAnalog)
  · exact Vector.ext fun slot bound => sameFlags ⟨slot, bound⟩

theorem keepLatest_iff (controller : SteamController2026) (inputIdx : Fin CONTROLLER_MAX_INPUTS)
    (dropped : List Delivery) (newest : Delivery) :
    (dropped ++ [newest]).foldl (afterReport inputIdx) controller =
        afterReport inputIdx controller newest ↔
      controller.LatestSuffices inputIdx dropped newest := by
  have button (id : ButtonId) :=
    (overwrites_button inputIdx id).keepLast_iff controller dropped newest
  have stick (analogType : ControllerAnalogType) :=
    (overwrites_analog inputIdx analogType).keepLast_iff controller dropped newest
  have flag (slot : Fin CONTROLLER_MAX_INPUTS) :=
    (overwrites_flag inputIdx slot).keepLast_iff controller dropped newest
  constructor
  · intro same _
    refine ⟨?_, ?_, ?_⟩
    · intro id
      rw [← button id, same]
    · intro analogType
      rw [← stick analogType, same]
    · intro slot
      rw [← flag slot, same]
  · intro enough
    obtain ⟨buttonsSuffice, sticksSuffice, flagsSuffice⟩ := enough inputIdx.isLt
    apply eq_of_parts
    · exact fun id => (button id).mpr (buttonsSuffice id)
    · exact fun analogType => (stick analogType).mpr (sticksSuffice analogType)
    · exact fun slot => (flag slot).mpr (flagsSuffice slot)
    · rw [foldl_controllerCount, afterReport_controllerCount]

end SteamController2026

end SysCon
