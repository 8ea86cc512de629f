import SysCon.ControllerLib.Isolation
import SysCon.ControllerLib.Replies
import Mathlib.Data.List.Induction

/-!
The Xbox One driver over a history of reports. Its record is what the last whole
input report and the last whole mode-button report say, whatever came between
and whichever acknowledgement failed.
-/

namespace SysCon

open Library

namespace XboxOneController

/-! What a history of reports says. -/

def inputData (report : Delivery) : Option Buffer :=
  if report.buffer 0 = GIP_CMD_INPUT ∧ sizeofButtonData ≤ report.size then some report.buffer
  else none

def modePressed (report : Delivery) : Option Bool :=
  if report.buffer 0 = GIP_CMD_VIRTUAL_KEY ∧ 6 ≤ report.size then some (report.buffer 4 ≠ 0)
  else none

def decoded (data : Buffer) : RawInputData :=
  ({} : RawInputData).assign (buttons data) (analog data)

/-- The last input report decoded, with the mode button of the last mode-button report. -/
def history (reports : List Delivery) : RawInputData :=
  let input := ((lastWrite inputData reports).map decoded).getD {}
  { input with
    buttons := Function.update input.buttons modeButton
      ((lastWrite modePressed reports).getD false) }

/-! Calls of `ParseData`, one after the other. -/

structure ParseCall where
  report : Delivery
  results : WriteResults
  rawData : RawInputData
  inputIdx : Nat

def ParseCall.parse (base : BaseController) (controller : XboxOneController) (call : ParseCall) :
    Parsed XboxOneController :=
  controller.parseData base call.results call.report.buffer call.report.size call.rawData
    call.inputIdx

def afterCalls (base : BaseController) (calls : List ParseCall) : XboxOneController :=
  calls.foldl (fun controller call => (call.parse base controller).state) {}

theorem afterReport_cases (controller : XboxOneController) (report : Delivery) :
    (∃ data, inputData report = some data ∧ modePressed report = none ∧
      controller.afterReport report = controller.storeInput data) ∨
    (∃ pressed, inputData report = none ∧ modePressed report = some pressed ∧
      controller.afterReport report =
        ⟨controller.rawInput.assign [(modeButton, pressed)] []⟩) ∨
    (inputData report = none ∧ modePressed report = none ∧
      controller.afterReport report = controller) := by
  unfold afterReport inputData modePressed
  by_cases isInput : report.buffer 0 = GIP_CMD_INPUT
  · have noKey : report.buffer 0 ≠ GIP_CMD_VIRTUAL_KEY := by
      rw [isInput]
      decide
    rw [if_pos isInput, if_neg (fun key => noKey key.1 : ¬(_ ∧ 6 ≤ report.size))]
    by_cases short : report.size < sizeofButtonData
    · refine .inr (.inr ⟨if_neg fun whole => ?_, rfl, if_pos short⟩)
      exact absurd whole.2 (Nat.not_le.mpr short)
    · exact .inl ⟨_, if_pos ⟨isInput, Nat.not_lt.mp short⟩, rfl, if_neg short⟩
  · rw [if_neg isInput, if_neg (fun whole => isInput whole.1 : ¬(_ ∧ _ ≤ report.size))]
    by_cases isKey : report.buffer 0 = GIP_CMD_VIRTUAL_KEY
    · rw [if_pos isKey]
      by_cases short : report.size < 6
      · refine .inr (.inr ⟨rfl, if_neg fun whole => ?_, if_pos short⟩)
        exact absurd whole.2 (Nat.not_le.mpr short)
      · exact .inr (.inl ⟨_, rfl, if_pos ⟨isKey, Nat.not_lt.mp short⟩, if_neg short⟩)
    · rw [if_neg isKey]
      exact .inr (.inr ⟨rfl, if_neg fun whole => isKey whole.1, rfl⟩)

theorem buttons_keys (first second : Buffer) :
    (buttons first).map Prod.fst = (buttons second).map Prod.fst := by
  simp only [buttons, List.map_cons, List.map_nil]

theorem analog_keys (first second : Buffer) :
    (analog first).map Prod.fst = (analog second).map Prod.fst := by
  simp only [analog, List.map_cons, List.map_nil]

theorem modeButton_unread (data : Buffer) (pressed : Bool) :
    List.Disjoint ([(modeButton, pressed)].map Prod.fst) ((buttons data).map Prod.fst) := by
  have unread : modeButton ∉ (buttons fun _ => 0).map Prod.fst := by decide
  rw [buttons_keys data fun _ => 0]
  intro key member
  rw [List.map_singleton, List.mem_singleton] at member
  exact member ▸ unread

theorem storeInput_history (reports : List Delivery) (data : Buffer) :
    (history reports).assign (buttons data) (analog data) =
      (decoded data).assign [(modeButton, (lastWrite modePressed reports).getD false)] [] := by
  have overwritten : (((lastWrite inputData reports).map decoded).getD {}).assign (buttons data)
      (analog data) = decoded data := by
    cases lastWrite inputData reports with
    | none => rfl
    | some earlier => exact RawInputData.assign_assign _ (buttons_keys _ _) (analog_keys _ _)
  rw [← overwritten]
  refine RawInputData.ext ?_ rfl
  exact updates_comm _ (modeButton_unread data _)

theorem foldl_afterReport (reports : List Delivery) :
    (reports.foldl afterReport {}).rawInput = history reports := by
  induction reports using List.reverseRecOn with
  | nil =>
      refine RawInputData.ext ?_ rfl
      exact (Function.update_eq_self modeButton _).symm
  | append_singleton reports report ih =>
      rw [List.foldl_concat]
      rcases afterReport_cases (reports.foldl afterReport {}) report with
        ⟨data, input, mode, after⟩ | ⟨pressed, input, mode, after⟩ | ⟨input, mode, after⟩
      · rw [after, storeInput, ih, storeInput_history]
        simp only [history, lastWrite_concat, input, mode, Option.none_or, Option.some_or]
        rfl
      · rw [after, ih]
        simp only [history, lastWrite_concat, input, mode, Option.none_or, Option.some_or]
        refine RawInputData.ext ?_ rfl
        exact Function.update_idem _ _ _
      · rw [after, ih]
        simp only [history, lastWrite_concat, input, mode, Option.none_or]

theorem afterCalls_rawInput (base : BaseController) (calls : List ParseCall) :
    (afterCalls base calls).rawInput = history (calls.map ParseCall.report) := by
  rw [← foldl_afterReport, List.foldl_map, afterCalls]
  simp only [ParseCall.parse, parseData_state]

section Call

variable (base : BaseController) (controller : XboxOneController) (call : ParseCall)

theorem ParseCall.parse_success (success : (call.parse base controller).status = .success) :
    (call.parse base controller).rawData = (call.parse base controller).state.rawInput := by
  generalize made : call.parse base controller = parsed at success ⊢
  unfold ParseCall.parse parseData at made
  split at made
  · split at made
    · subst made
      simp at success
    · subst made
      rfl
  · split at made
    · split at made
      · subst made
        simp at success
      · split at made
        · simp only at made
          split at made
          · rename_i failed
            subst made
            exact absurd success failed
          · subst made
            rfl
        · subst made
          rfl
    · subst made
      simp at success

/-- A report that is neither a whole input report nor a whole mode-button report. -/
theorem ParseCall.parse_ignored (noInput : inputData call.report = none)
    (noMode : modePressed call.report = none) :
    (call.parse base controller).state = controller ∧
      (call.parse base controller).status ≠ .success ∧
      (call.parse base controller).rawData = call.rawData := by
  unfold inputData at noInput
  unfold modePressed at noMode
  rw [ite_eq_right_iff] at noInput noMode
  unfold ParseCall.parse parseData
  by_cases isInput : call.report.buffer 0 = GIP_CMD_INPUT
  · have short : call.report.size < sizeofButtonData :=
      Nat.not_le.mp fun long => by simpa using noInput ⟨isInput, long⟩
    rw [if_pos isInput, if_pos short]
    exact ⟨rfl, by simp, rfl⟩
  · rw [if_neg isInput]
    by_cases isKey : call.report.buffer 0 = GIP_CMD_VIRTUAL_KEY
    · have short : call.report.size < 6 :=
        Nat.not_le.mp fun long => by simpa using noMode ⟨isKey, long⟩
      rw [if_pos isKey, if_pos short]
      exact ⟨rfl, by simp, rfl⟩
    · rw [if_neg isKey]
      exact ⟨rfl, by simp, rfl⟩

theorem modePressed_ne_none {report : Delivery} : modePressed report ≠ none ↔
    report.buffer 0 = GIP_CMD_VIRTUAL_KEY ∧ 6 ≤ report.size := by
  simp [modePressed]

/-- The acknowledgement, when it is asked for and there is an endpoint for it. -/
theorem ParseCall.parse_sent : (call.parse base controller).sent =
    if modePressed call.report ≠ none ∧ call.report.buffer 1 = 0x30 ∧
        call.inputIdx < base.outPipe.length then
      [.write call.inputIdx (ackModeReport (call.report.buffer 2))]
    else [] := by
  have reacts := parseData_reacts base call.results controller call.report.buffer call.report.size
    call.rawData call.inputIdx
  simp only [modePressed_ne_none, and_assoc]
  by_cases asks : call.report.buffer 0 = GIP_CMD_VIRTUAL_KEY ∧ 6 ≤ call.report.size ∧
      call.report.buffer 1 = GIP_OPT_ACK ||| GIP_OPT_INTERNAL
  · refine (reacts.asked asks).trans ?_
    obtain ⟨isKey, long, wantsAck⟩ := asks
    have flags : call.report.buffer 1 = 0x30 := wantsAck
    simp [BaseController.writeIfPresent, isKey, long, flags]
  · refine (reacts.quiet asks).trans (if_neg fun all => asks ?_).symm
    exact ⟨all.1, all.2.1, all.2.2.1⟩

end Call

structure FollowsHistory (base : BaseController) (earlier : List ParseCall) (call : ParseCall)
    (parsed : Parsed XboxOneController) : Prop where
  success : parsed.status = .success →
    parsed.rawData = history ((earlier ++ [call]).map ParseCall.report)
  ignored : inputData call.report = none → modePressed call.report = none →
    parsed.state = afterCalls base earlier ∧ parsed.status ≠ .success ∧
      parsed.rawData = call.rawData
  sent : parsed.sent =
    if modePressed call.report ≠ none ∧ call.report.buffer 1 = 0x30 ∧
        call.inputIdx < base.outPipe.length then
      [.write call.inputIdx (ackModeReport (call.report.buffer 2))]
    else []

theorem parseData_followsHistory (base : BaseController) (earlier : List ParseCall)
    (call : ParseCall) :
    FollowsHistory base earlier call (call.parse base (afterCalls base earlier)) where
  success := by
    intro success
    rw [ParseCall.parse_success _ _ _ success, ← afterCalls_rawInput base]
    simp [afterCalls]
  ignored := ParseCall.parse_ignored base _ call
  sent := ParseCall.parse_sent base _ call

end XboxOneController

end SysCon
