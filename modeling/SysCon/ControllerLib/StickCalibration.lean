import SysCon.Library.Samples
import SysCon.ControllerLib.BitExtraction
import SysCon.ControllerLib.Controllers.Wired
import SysCon.ControllerLib.Normalization
import Mathlib.Data.List.Induction
import Mathlib.Tactic.NormNum

/-!
The stick calibration of `SwitchController` over a whole sequence of reports:
each of the four records is the extent of what was read from the axis so far,
so that `Normalize` stays between its ends.
-/

namespace SysCon

open Library BaseController

/-- The four records, with the half of the stick field each of them follows. -/
inductive CalibratedAxis
  | leftX | leftY | rightX | rightY
  deriving DecidableEq, Repr

namespace CalibratedAxis

def read (data : Buffer) : CalibratedAxis → Nat
  | .leftX => SwitchController.leftX data
  | .leftY => SwitchController.leftY data
  | .rightX => SwitchController.rightX data
  | .rightY => SwitchController.rightY data

def analogType : CalibratedAxis → ControllerAnalogType
  | .leftX => .x
  | .leftY => .y
  | .rightX => .z
  | .rightY => .rz

def sign : CalibratedAxis → ℚ
  | .leftX | .rightX => 1
  | .leftY | .rightY => -1

theorem read_lt (data : Buffer) (axis : CalibratedAxis) : axis.read data < 2 ^ 12 := by
  cases axis with
  | leftX => exact readBitsLE_lt (data.shift 6) 0 12
  | leftY => exact readBitsLE_lt (data.shift 6) 12 12
  | rightX => exact readBitsLE_lt (data.shift 9) 0 12
  | rightY => exact readBitsLE_lt (data.shift 9) 12 12

end CalibratedAxis

def SwitchCalibration.extent (calibration : SwitchCalibration) : Extent Nat :=
  ⟨calibration.min, calibration.max⟩

theorem SwitchCalibration.extent_widen (calibration : SwitchCalibration) (value : Nat) :
    (calibration.widen value).extent = calibration.extent.widen value := rfl

namespace SwitchController

def calibration (controller : SwitchController) : CalibratedAxis → SwitchCalibration
  | .leftX => controller.calLeftX
  | .leftY => controller.calLeftY
  | .rightX => controller.calRightX
  | .rightY => controller.calRightY

/-- One call of `ParseData`. -/
structure ParseCall where
  buffer : Buffer
  size : Nat
  rawData : RawInputData
  inputIdx : Nat

def ParseCall.Accepted (call : ParseCall) : Prop :=
  sizeofButtonData ≤ call.size ∧ call.buffer 0 = 0x30

instance (call : ParseCall) : Decidable call.Accepted :=
  inferInstanceAs (Decidable (_ ∧ _))

def parseCall (controller : SwitchController) (call : ParseCall) : Parsed SwitchController :=
  controller.parseData call.buffer call.size call.rawData call.inputIdx

def controllerAfter (calls : List ParseCall) : SwitchController :=
  calls.foldl (fun controller call => (parseCall controller call).state) {}

/-- What the accepted reports held for an axis. -/
def seen (axis : CalibratedAxis) (calls : List ParseCall) : List Nat :=
  (calls.filter ParseCall.Accepted).map fun call => axis.read call.buffer

/-- Each bit of a stick field is read for one of its two axes. -/
theorem stick_fields (data : Buffer) :
    leftX data + 2 ^ 12 * leftY data = littleEndian [data 6, data 7, data 8] ∧
      rightX data + 2 ^ 12 * rightY data = littleEndian [data 9, data 10, data 11] := by
  have left := stick_halves (data 6) (data 7) (data 8) (data.shift 6)
  have right := stick_halves (data 9) (data 10) (data 11) (data.shift 9)
  have leftField : (data.shift 6).write [data 6, data 7, data 8] = data.shift 6 :=
    (data.shift 6).write_map_range 3
  have rightField : (data.shift 9).write [data 9, data 10, data 11] = data.shift 9 :=
    (data.shift 9).write_map_range 3
  rw [leftField] at left
  rw [rightField] at right
  exact ⟨left, right⟩

theorem parseCall_accepted {call : ParseCall} (accepted : call.Accepted)
    (controller : SwitchController) :
    parseCall controller call =
      ⟨.success, call.rawData.assign (buttons call.buffer)
        ((controller.calibrate call.buffer).analog call.buffer), call.inputIdx,
        controller.calibrate call.buffer, []⟩ := by
  obtain ⟨enough, input⟩ := accepted
  rw [parseCall, parseData, if_neg (not_lt.mpr enough), if_neg (not_not.mpr input)]

theorem parseCall_rejected {call : ParseCall} (rejected : ¬call.Accepted)
    (controller : SwitchController) : (parseCall controller call).state = controller := by
  unfold parseCall parseData
  split
  · rfl
  · rename_i enough
    split
    · rfl
    · rename_i input
      exact absurd ⟨not_lt.mp enough, not_not.mp input⟩ rejected

theorem calibration_calibrate (controller : SwitchController) (data : Buffer)
    (axis : CalibratedAxis) :
    (controller.calibrate data).calibration axis =
      (controller.calibration axis).widen (axis.read data) := by
  cases axis <;> rfl

theorem analog_calibrated (controller : SwitchController) (data : Buffer) (raw : RawInputData)
    (axis : CalibratedAxis) :
    (raw.assign (buttons data) (controller.analog data)).analog axis.analogType =
      axis.sign * normalizeAround (axis.read data) (controller.calibration axis).min
        (controller.calibration axis).max 2000 := by
  cases axis <;> simp [RawInputData.assign, analog, updates, CalibratedAxis.analogType,
    CalibratedAxis.sign, CalibratedAxis.read, calibration]

/-- A record is the extent of the values seen, over its first bounds. -/
theorem extent_controllerAfter (calls : List ParseCall) (axis : CalibratedAxis) :
    ((controllerAfter calls).calibration axis).extent =
      (SwitchCalibration.extent {}).widenAll (seen axis calls) := by
  induction calls using List.reverseRecOn with
  | nil => cases axis <;> rfl
  | append_singleton calls call ih =>
      rw [controllerAfter, List.foldl_append, ← controllerAfter, List.foldl_cons, List.foldl_nil]
      by_cases accepted : call.Accepted
      · have grown : seen axis (calls ++ [call]) = seen axis calls ++ [axis.read call.buffer] := by
          simp [seen, accepted]
        rw [parseCall_accepted accepted, calibration_calibrate, SwitchCalibration.extent_widen, ih,
          grown, Extent.widenAll, Extent.widenAll, List.foldl_append, List.foldl_cons,
          List.foldl_nil]
      · have same : seen axis (calls ++ [call]) = seen axis calls := by
          simp [seen, accepted]
        rw [parseCall_rejected accepted, ih, same]

/-- What holds of an axis after a report: `before` and `now` are its records, `earlier` the values
that were read from it before, `value` the one just read. -/
structure Calibrated (before now : SwitchCalibration) (earlier : List Nat) (value : Nat) :
    Prop where
  initial : now.min ≤ 600 ∧ 3400 ≤ now.max
  widened : now.min ≤ before.min ∧ before.max ≤ now.max
  contains : now.min ≤ value ∧ value ≤ now.max
  ranges : 0 < (2000 : Int) - now.min ∧ 0 < (now.max : Int) - 2000
  unclamped : normalizeAround value now.min now.max 2000 = normalizeRet value now.min now.max 2000
  bounded : -1 ≤ normalizeRet value now.min now.max 2000 ∧
    normalizeRet value now.min now.max 2000 ≤ 1
  centered : normalizeAround value now.min now.max 2000 = 0 ↔ value = 2000
  bottom : normalizeAround value now.min now.max 2000 = -1 ↔
    value ≤ 600 ∧ ∀ other ∈ earlier, value ≤ other
  top : normalizeAround value now.min now.max 2000 = 1 ↔
    3400 ≤ value ∧ ∀ other ∈ earlier, other ≤ value

theorem calibration_initial (calls : List ParseCall) (axis : CalibratedAxis) :
    ((controllerAfter calls).calibration axis).min ≤ 600 ∧
      3400 ≤ ((controllerAfter calls).calibration axis).max := by
  have within := (SwitchCalibration.extent {}).within_widenAll (seen axis calls)
  rwa [← extent_controllerAfter] at within

section Widen

variable {before : SwitchCalibration} {earlier : List Nat}
  (history : before.extent = (SwitchCalibration.extent {}).widenAll earlier) (value : Nat)

include history

theorem eq_min_widen_iff :
    value = (before.widen value).min ↔ value ≤ 600 ∧ ∀ other ∈ earlier, value ≤ other := by
  have least : before.min = ((SwitchCalibration.extent {}).widenAll earlier).least :=
    congrArg Extent.least history
  calc value = (before.widen value).min
    _ ↔ value ≤ before.min := left_eq_inf
    _ ↔ value ≤ 600 ∧ ∀ other ∈ earlier, value ≤ other := by
      rw [least]
      exact Extent.le_least_widenAll

theorem eq_max_widen_iff :
    value = (before.widen value).max ↔ 3400 ≤ value ∧ ∀ other ∈ earlier, other ≤ value := by
  have greatest : before.max = ((SwitchCalibration.extent {}).widenAll earlier).greatest :=
    congrArg Extent.greatest history
  calc value = (before.widen value).max
    _ ↔ before.max ≤ value := left_eq_sup
    _ ↔ 3400 ≤ value ∧ ∀ other ∈ earlier, other ≤ value := by
      rw [greatest]
      exact Extent.greatest_widenAll_le

theorem calibrated_widen : Calibrated before (before.widen value) earlier value := by
  have within := (SwitchCalibration.extent {}).within_widenAll earlier
  rw [← history] at within
  have widened := before.extent.within_widen value
  have initial := within.trans widened
  obtain ⟨reached, covered⟩ := before.extent.contains_widen value
  rw [← SwitchCalibration.extent_widen] at widened initial reached covered
  obtain ⟨low, high⟩ : (before.widen value).min ≤ 600 ∧ 3400 ≤ (before.widen value).max := initial
  have below : ((before.widen value).min : Int) < 2000 := by omega
  have above : (2000 : Int) < (before.widen value).max := by omega
  have lowest : ((before.widen value).min : Int) ≤ value := Int.ofNat_le.mpr reached
  have highest : (value : Int) ≤ (before.widen value).max := Int.ofNat_le.mpr covered
  constructor
  case initial => exact ⟨low, high⟩
  case widened => exact widened
  case contains => exact ⟨reached, covered⟩
  case ranges => constructor <;> omega
  case unclamped => exact normalizeAround_unclamped below above lowest highest
  case bounded => exact normalizeRet_mem below above lowest highest
  case centered =>
    rw [normalizeAround_eq_zero_iff below above lowest highest]
    omega
  case bottom =>
    rw [normalizeAround_eq_neg_one_iff below above lowest highest, Int.ofNat_inj]
    exact eq_min_widen_iff history value
  case top =>
    rw [normalizeAround_eq_one_iff below above lowest highest, Int.ofNat_inj]
    exact eq_max_widen_iff history value

end Widen

/-- Over every sequence of reports, each record keeps to what was seen, and every stick value that
an accepted report leaves comes from a `Normalize` that had nothing to clamp. -/
theorem stick_calibration (calls : List ParseCall) {call : ParseCall} (accepted : call.Accepted)
    (axis : CalibratedAxis) :
    let before := (controllerAfter calls).calibration axis
    let now := (controllerAfter (calls ++ [call])).calibration axis
    let value := axis.read call.buffer
    (before.min ≤ 600 ∧ 3400 ≤ before.max) ∧ value < 2 ^ 12 ∧
      Calibrated before now (seen axis calls) value ∧
      (parseCall (controllerAfter calls) call).rawData.analog axis.analogType =
        axis.sign * normalizeAround value now.min now.max 2000 := by
  have next : controllerAfter (calls ++ [call]) =
      (controllerAfter calls).calibrate call.buffer := by
    rw [controllerAfter, List.foldl_append, ← controllerAfter, List.foldl_cons, List.foldl_nil,
      parseCall_accepted accepted]
  refine ⟨calibration_initial calls axis, axis.read_lt call.buffer, ?_, ?_⟩
  · rw [next, calibration_calibrate]
    exact calibrated_widen (extent_controllerAfter calls axis) _
  · rw [next, parseCall_accepted accepted, analog_calibrated]

def receivedReport (bytes : List UInt8) : ParseCall :=
  ⟨Buffer.write (fun _ => 0) bytes, 64, {}, 0⟩

def restReport : ParseCall :=
  receivedReport [0x30, 0x0D, 0x91, 0x01, 0x80, 0x00, 0xB9, 0x77, 0x7D, 0xDB, 0xF7, 0x7B, 0x09]

def leftReport : ParseCall :=
  receivedReport [0x30, 0xFC, 0x91, 0x00, 0x80, 0x00, 0xC6, 0xB1, 0x72, 0xE5, 0xE7, 0x79, 0x03]

/-- The left stick is read as 454, below the first bound and below 1977 of the report before. -/
theorem stick_calibration_leftReport :
    ((controllerAfter [restReport, leftReport]).calibration .leftX).min = 454 ∧
      (parseCall (controllerAfter [restReport]) leftReport).rawData.analog .x = -1 := by
  have accepted : leftReport.Accepted := by decide
  obtain ⟨_, _, calibrated, written⟩ := stick_calibration [restReport] accepted .leftX
  have lowest : CalibratedAxis.leftX.read leftReport.buffer ≤ 600 ∧
      ∀ other ∈ seen .leftX [restReport], CalibratedAxis.leftX.read leftReport.buffer ≤ other := by
    decide
  constructor
  · decide
  · exact written.trans (by rw [calibrated.bottom.mpr lowest, CalibratedAxis.sign, one_mul])

end SwitchController

end SysCon
