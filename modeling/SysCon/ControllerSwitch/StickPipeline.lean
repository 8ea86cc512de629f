import SysCon.ControllerLib.Normalization
import SysCon.ControllerLib.Sticks
import SysCon.ControllerSwitch.SwitchVirtualGamepadHandler
import Mathlib.Data.Rat.Floor

/-!
The way of a raw stick value to the virtual stick: `Normalize`, `ApplyDeadzone`,
`MapRawInputToNormalized` and `ConvertAxisToSwitchAxis`, as one response curve.
-/

namespace SysCon

open Library

namespace BaseController

/-! An axis with its two directions bound to the two signs of one raw axis. -/

structure BoundToAxis (config : ControllerConfig) (axis : ControllerAnalogType) : Prop where
  known : axis ≠ .unknown
  left : config.buttonsAnalog .lstickLeft = ⟨-1, axis⟩
  right : config.buttonsAnalog .lstickRight = ⟨1, axis⟩
  leftPins : config.buttonsPin .lstickLeft = noPins
  rightPins : config.buttonsPin .lstickRight = noPins

def factorOf (percent : UInt8) : ℚ := percent.toNat / 100

def response (deadzonePercent factorPercent : UInt8) (value : ℚ) : ℚ :=
  clamp 1 (applyDeadzone deadzonePercent value * factorOf factorPercent)

theorem factorOf_nonneg (percent : UInt8) : 0 ≤ factorOf percent := by
  unfold factorOf
  positivity

theorem one_le_factorOf {percent : UInt8} (full : 100 ≤ percent.toNat) : 1 ≤ factorOf percent := by
  have bound : (100 : ℚ) ≤ percent.toNat := by exact_mod_cast full
  rw [factorOf, le_div_iff₀ (by norm_num)]
  linarith

/-- Both directions with the values of one axis: the left one counts where the right one does
not. -/
theorem opposite_directions (value : ℚ) :
    (if (if value > 1 then 1 else value) > 0 then if value > 1 then 1 else value
      else if (if -value > 1 then 1 else -value) > 0 then -(if -value > 1 then 1 else -value)
      else 0) = clamp 1 value := by
  rcases lt_trichotomy value 0 with negative | rfl | positive
  · have small : ¬value > 1 := by linarith
    have idle : ¬value > 0 := by linarith
    simp only [small, idle, if_false]
    by_cases full : -value > 1
    · rw [if_pos full, if_pos zero_lt_one]
      exact (clamp_of_le zero_le_one (by linarith)).symm
    · rw [if_neg full, if_pos (neg_pos.mpr negative), neg_neg]
      exact (clamp_of_inside (by linarith) (by linarith)).symm
  · simp [clamp_zero, show ¬(1 : ℚ) < 0 by norm_num]
  · by_cases full : value > 1
    · simp only [full, if_true, zero_lt_one]
      exact (clamp_of_ge zero_le_one full.le).symm
    · simp only [full, if_false, gt_iff_lt, positive, if_true]
      exact (clamp_of_inside (by linarith) (not_lt.mp full)).symm

theorem axisPosition_leftX {config : ControllerConfig} {axis : ControllerAnalogType}
    (bound : BoundToAxis config axis) {raw : RawInputData} (idle : raw.buttons 0 = false) :
    axisPosition config raw .leftX =
      response (config.analogDeadzonePercent axis) (config.analogFactorPercent axis)
        (raw.analog axis) := by
  have scaled : (deadzoned config raw).analog axis =
      applyDeadzone (config.analogDeadzonePercent axis) (raw.analog axis) := if_neg bound.known
  simp only [axisPosition, directions, stickTurn, stickValue, bound.left, bound.right, scaled,
    anyPinDown_noPins bound.leftPins idle, anyPinDown_noPins bound.rightPins idle,
    Bool.false_eq_true, if_false, response, one_mul, neg_mul]
  exact opposite_directions _

theorem response_monotone {deadzonePercent : UInt8} (inRange : deadzonePercent.toNat ≤ 99)
    (factorPercent : UInt8) : Monotone (response deadzonePercent factorPercent) := by
  intro first second ordered
  refine clamp_monotone 1 (mul_le_mul_of_nonneg_right ?_ (factorOf_nonneg factorPercent))
  exact applyDeadzone_monotone inRange ordered

end BaseController

namespace SwitchVirtualGamepadHandler

theorem truncate_eq_towardZero (value : ℚ) : truncate value = towardZero value := by
  unfold truncate towardZero
  split
  · rename_i positive
    rw [Rat.floor_def', Int.tdiv_eq_ediv_of_nonneg (Rat.num_nonneg.mpr positive)]
  · rename_i negative
    have flipped : 0 ≤ -value.num := by
      have := Rat.num_nonneg.mpr (neg_nonneg.mpr (not_le.mp negative).le)
      rwa [Rat.neg_num] at this
    rw [Rat.ceil_def', ← Int.tdiv_eq_ediv_of_nonneg flipped, Int.neg_tdiv, neg_neg]

def axisOutput (position : ℚ) : Int := towardZero (32767 * position)

theorem convertAxisToSwitchAxis_fst (x y : ℚ) : (convertAxisToSwitchAxis x y).1 = axisOutput x := by
  change truncate ((x + 1) * (JOYSTICK_MAX - JOYSTICK_MIN) / 2 + JOYSTICK_MIN) = _
  rw [truncate_eq_towardZero, axisOutput, JOYSTICK_MAX, JOYSTICK_MIN]
  congr 1
  ring

theorem axisOutput_monotone : Monotone axisOutput :=
  fun _ _ ordered => towardZero_monotone (mul_le_mul_of_nonneg_left ordered (by norm_num))

theorem axisOutput_one : axisOutput 1 = 32767 := by
  rw [axisOutput, mul_one]
  exact_mod_cast towardZero_intCast 32767

theorem axisOutput_neg_one : axisOutput (-1) = -32767 := by
  rw [axisOutput, mul_neg_one]
  exact_mod_cast towardZero_intCast (-32767)

theorem axisOutput_zero : axisOutput 0 = 0 := by
  rw [axisOutput, mul_zero]
  exact_mod_cast towardZero_intCast 0

open BaseController

/-- `x_out` for a raw input. -/
def xOut (config : ControllerConfig) (raw : RawInputData) : Exec Int := do
  let normal ← mapRawInputToNormalized config raw {}
  return (convertAxisToSwitchAxis (normal.sticks .leftX) (normal.sticks .leftY)).1

def withAxis (raw : RawInputData) (axis : ControllerAnalogType) (value : ℚ) : RawInputData :=
  { raw with analog := Function.update raw.analog axis value }

/-- Whatever the pins of the other controls are, they can only end the mapping. -/
theorem xOut_of_ok {config : ControllerConfig} {axis : ControllerAnalogType}
    (bound : BoundToAxis config axis) {raw : RawInputData} (idle : raw.buttons 0 = false)
    {value : ℚ} {out : Int} (finished : xOut config (withAxis raw axis value) = .ok out) :
    out = axisOutput (response (config.analogDeadzonePercent axis)
      (config.analogFactorPercent axis) value) := by
  have held : (withAxis raw axis value).analog axis = value := Function.update_self ..
  have stillIdle : (withAxis raw axis value).buttons 0 = false := idle
  have position := axisPosition_leftX bound stillIdle
  rw [held] at position
  obtain ⟨normal, mapped, finished⟩ := Exec.bind_eq_ok finished
  rw [← position, ← mapRawInputToNormalized_sticks mapped, ← convertAxisToSwitchAxis_fst]
  exact (Except.ok.inj finished).symm

theorem xOut_finishes {config : ControllerConfig} (pins : PinsInRange config)
    (raw : RawInputData) : ∃ out, xOut config raw = .ok out := by
  rw [xOut, mapRawInputToNormalized_eq pins]
  exact ⟨_, rfl⟩

structure StickCurve (curve : Int → Int) (min max center : Int)
    (deadzonePercent factorPercent : UInt8) : Prop where
  monotone : Monotone curve
  inRange : ∀ value, -32767 ≤ curve value ∧ curve value ≤ 32767
  rest : ∀ value, |normalizeAround value min max center| ≤ deadzonePercent.toNat / 100 →
    curve value = 0
  top : 100 ≤ factorPercent.toNat → ∀ value, max ≤ value → curve value = 32767
  bottom : 100 ≤ factorPercent.toNat → ∀ value, value ≤ min → curve value = -32767

theorem stick_pipeline {config : ControllerConfig} {axis : ControllerAnalogType}
    (bound : BoundToAxis config axis)
    (percent : (config.analogDeadzonePercent axis).toNat ≤ 99) {raw : RawInputData}
    (idle : raw.buttons 0 = false) {min max center : Int} (below : min < center)
    (above : center < max) :
    ∃ curve : Int → Int,
      (∀ value out,
        xOut config (withAxis raw axis (normalizeAround value min max center)) = .ok out →
          out = curve value) ∧
      (PinsInRange config → ∀ value,
        xOut config (withAxis raw axis (normalizeAround value min max center)) =
          .ok (curve value)) ∧
      StickCurve curve min max center (config.analogDeadzonePercent axis)
        (config.analogFactorPercent axis) := by
  refine ⟨_, fun value out => xOut_of_ok bound idle, ?_, ?_, ?_, ?_, ?_, ?_⟩
  · intro pins value
    obtain ⟨out, finished⟩ := xOut_finishes pins
      (withAxis raw axis (normalizeAround value min max center))
    rw [finished, xOut_of_ok bound idle finished]
  · exact axisOutput_monotone.comp
      ((response_monotone percent _).comp (normalizeAround_monotone below above))
  · intro value
    constructor
    · rw [← axisOutput_neg_one]
      exact axisOutput_monotone (neg_le_clamp 1 _)
    · rw [← axisOutput_one]
      exact axisOutput_monotone (clamp_le zero_le_one _)
  · intro value inside
    rw [response, applyDeadzone_inside inside, zero_mul, clamp_zero zero_le_one, axisOutput_zero]
  · intro factor value high
    have full : 1 ≤ factorOf (config.analogFactorPercent axis) := one_le_factorOf factor
    rw [normalizeAround_of_ge below above high, response, applyDeadzone_one percent, one_mul,
      clamp_of_ge zero_le_one full, axisOutput_one]
  · intro factor value low
    have full : 1 ≤ factorOf (config.analogFactorPercent axis) := one_le_factorOf factor
    rw [normalizeAround_of_le below low, response, applyDeadzone_neg_one percent, neg_one_mul,
      clamp_of_le zero_le_one (neg_le_neg full), axisOutput_neg_one]

def leftStickOnX : ControllerConfig where
  analogDeadzonePercent := fun _ => 10
  analogFactorPercent := fun _ => 120
  buttonsAnalog := fun button =>
    if button = .lstickLeft then ⟨-1, .x⟩ else if button = .lstickRight then ⟨1, .x⟩ else {}

theorem stick_pipeline_leftStickOnX :
    ∃ curve : Int → Int,
      (∀ value, xOut leftStickOnX (withAxis {} .x (normalizeAround value (-32768) 32767 0)) =
        .ok (curve value)) ∧
      StickCurve curve (-32768) 32767 0 10 120 := by
  have pins : PinsInRange leftStickOnX := fun _ _ _ => by simp [leftStickOnX, noPins]
  have bound : BoundToAxis leftStickOnX .x := ⟨by decide, rfl, rfl, rfl, rfl⟩
  have percent : (leftStickOnX.analogDeadzonePercent .x).toNat ≤ 99 := by decide
  have idle : ({} : RawInputData).buttons 0 = false := rfl
  have below : (-32768 : Int) < 0 := by decide
  have above : (0 : Int) < 32767 := by decide
  obtain ⟨curve, _, outputs, limits⟩ := stick_pipeline bound percent idle below above
  exact ⟨curve, outputs pins, limits⟩

end SwitchVirtualGamepadHandler

end SysCon
