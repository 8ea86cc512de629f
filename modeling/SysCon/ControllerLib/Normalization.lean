import SysCon.Library.Samples
import SysCon.ControllerLib.RawInput

/-!
`Normalize` and `ApplyDeadzone` over the rationals: as pieces of a response curve,
and where each of them reaches its ends.
-/

namespace SysCon

open Library

namespace BaseController

theorem saturate_eq_clamp (value : ℚ) :
    (if value > 1 then 1 else if value < -1 then -1 else value) = clamp 1 value := by
  split
  · rename_i large
    exact (clamp_of_ge zero_le_one large.le).symm
  · rename_i high
    split
    · rename_i small
      exact (clamp_of_le zero_le_one small.le).symm
    · rename_i low
      exact (clamp_of_inside (not_lt.mp low) (not_lt.mp high)).symm

/-- `ret` of `Normalize`, before it is clamped. -/
def normalizeRet (value min max center : Int) : ℚ :=
  if value < center then ((value - min : ℚ) / (center - min : Int)) - 1
  else (value - center : ℚ) / (max - center : Int)

theorem normalizeAround_ret (value min max center : Int) :
    normalizeAround value min max center = clamp 1 (normalizeRet value min max center) :=
  saturate_eq_clamp _

theorem normalizeRet_eq {min center : Int} (below : min < center) (value max : Int) :
    normalizeRet value min max center =
      ramp ((center - min : Int) : ℚ) ((max - center : Int) : ℚ) center value := by
  have width : ((center - min : Int) : ℚ) ≠ 0 := by
    exact_mod_cast (sub_pos.mpr below).ne'
  rw [normalizeRet, ramp]
  by_cases left : value < center
  · have moved : (value - min : ℚ) / (center - min : Int) - 1 =
        (value - center : ℚ) / (center - min : Int) := by
      rw [div_sub_one width]
      push_cast
      ring
    have leftCast : (value : ℚ) < center := by exact_mod_cast left
    simp only [left, leftCast, if_true, moved]
  · have rightCast : ¬(value : ℚ) < center := by exact_mod_cast left
    simp only [left, rightCast, if_false]

theorem normalizeRet_center {min center : Int} (below : min < center) (max : Int) :
    normalizeRet center min max center = 0 := by
  rw [normalizeRet_eq below, ramp_center]

theorem normalizeRet_min {min center : Int} (below : min < center) (max : Int) :
    normalizeRet min min max center = -1 := by
  have left : (0 : ℚ) < (center - min : Int) := by exact_mod_cast sub_pos.mpr below
  have bottom := ramp_bottom ((max - center : Int) : ℚ) (center : ℚ) left
  rwa [Int.cast_sub center min, sub_sub_cancel, ← Int.cast_sub center min,
    ← normalizeRet_eq below] at bottom

theorem normalizeAround_eq {min max center : Int} (below : min < center) (value : Int) :
    normalizeAround value min max center =
      clamp 1 (ramp ((center - min : Int) : ℚ) ((max - center : Int) : ℚ) center value) := by
  rw [normalizeAround_ret, normalizeRet_eq below]

theorem normalizeAround_monotone {min max center : Int} (below : min < center)
    (above : center < max) : Monotone fun value => normalizeAround value min max center := by
  have left : (0 : ℚ) < (center - min : Int) := by exact_mod_cast sub_pos.mpr below
  have right : (0 : ℚ) < (max - center : Int) := by exact_mod_cast sub_pos.mpr above
  intro first second ordered
  simp only [normalizeAround_eq below]
  exact clamp_monotone 1 (ramp_monotone _ left right (by exact_mod_cast ordered))

theorem normalizeAround_of_ge {value min max center : Int} (below : min < center)
    (above : center < max) (high : max ≤ value) : normalizeAround value min max center = 1 := by
  have right : (0 : ℚ) < (max - center : Int) := by exact_mod_cast sub_pos.mpr above
  have apart : ¬(value : ℚ) < center := by
    have : center ≤ value := above.le.trans high
    exact_mod_cast not_lt.mpr this
  rw [normalizeAround_eq below, ramp, if_neg apart]
  refine clamp_of_ge zero_le_one ?_
  rw [le_div_iff₀ right, one_mul]
  exact_mod_cast sub_le_sub_right high center

theorem normalizeAround_of_le {value min max center : Int} (below : min < center)
    (low : value ≤ min) : normalizeAround value min max center = -1 := by
  have left : (0 : ℚ) < (center - min : Int) := by exact_mod_cast sub_pos.mpr below
  have apart : (value : ℚ) < center := by exact_mod_cast low.trans_lt below
  rw [normalizeAround_eq below, ramp, if_pos apart]
  refine clamp_of_le zero_le_one ?_
  rw [div_le_iff₀ left, neg_one_mul, Int.cast_sub, neg_sub]
  exact_mod_cast sub_le_sub_right low center

/-! Between the two ends of the range nothing is left to clamp. -/

section Inside

variable {min max center : Int} (below : min < center) (above : center < max)

include below above

theorem normalizeRet_strictMono : StrictMono fun value => normalizeRet value min max center := by
  have left : (0 : ℚ) < (center - min : Int) := by exact_mod_cast sub_pos.mpr below
  have right : (0 : ℚ) < (max - center : Int) := by exact_mod_cast sub_pos.mpr above
  intro first second ordered
  simp only [normalizeRet_eq below]
  exact ramp_strictMono _ left right (by exact_mod_cast ordered)

theorem normalizeRet_max : normalizeRet max min max center = 1 := by
  have right : (0 : ℚ) < (max - center : Int) := by exact_mod_cast sub_pos.mpr above
  have top := ramp_top ((center - min : Int) : ℚ) (center : ℚ) right
  rwa [Int.cast_sub max center, add_sub_cancel, ← Int.cast_sub max center,
    ← normalizeRet_eq below] at top

variable {value : Int} (low : min ≤ value) (high : value ≤ max)

include low high

theorem normalizeRet_mem : -1 ≤ normalizeRet value min max center ∧
    normalizeRet value min max center ≤ 1 := by
  have ordered := (normalizeRet_strictMono below above).monotone
  constructor
  · rw [← normalizeRet_min below max]
    exact ordered low
  · rw [← normalizeRet_max below above]
    exact ordered high

theorem normalizeAround_unclamped :
    normalizeAround value min max center = normalizeRet value min max center := by
  obtain ⟨bottom, top⟩ := normalizeRet_mem below above low high
  rw [normalizeAround_ret, clamp_of_inside bottom top]

theorem normalizeAround_eq_zero_iff :
    normalizeAround value min max center = 0 ↔ value = center := by
  rw [normalizeAround_unclamped below above low high, ← normalizeRet_center below max]
  exact (normalizeRet_strictMono below above).injective.eq_iff

theorem normalizeAround_eq_neg_one_iff :
    normalizeAround value min max center = -1 ↔ value = min := by
  rw [normalizeAround_unclamped below above low high, ← normalizeRet_min below max]
  exact (normalizeRet_strictMono below above).injective.eq_iff

theorem normalizeAround_eq_one_iff :
    normalizeAround value min max center = 1 ↔ value = max := by
  rw [normalizeAround_unclamped below above low high, ← normalizeRet_max below above]
  exact (normalizeRet_strictMono below above).injective.eq_iff

end Inside

/-! The dead zone. -/

def deadzoneOf (percent : UInt8) : ℚ := percent.toNat / 100

theorem deadzoneOf_nonneg (percent : UInt8) : 0 ≤ deadzoneOf percent := by
  unfold deadzoneOf
  positivity

theorem deadzoneOf_lt_one {percent : UInt8} (inRange : percent.toNat ≤ 99) :
    deadzoneOf percent < 1 := by
  have bound : (percent.toNat : ℚ) ≤ 99 := by exact_mod_cast inRange
  rw [deadzoneOf, div_lt_one (by norm_num)]
  linarith

theorem le_of_deadzoneOf_lt_one {percent : UInt8} (small : deadzoneOf percent < 1) :
    percent.toNat ≤ 99 := by
  rw [deadzoneOf, div_lt_one (by norm_num)] at small
  have bound : percent.toNat < 100 := by exact_mod_cast small
  omega

theorem deadzoneOf_eq_one {percent : UInt8} : deadzoneOf percent = 1 ↔ percent = 100 := by
  rw [deadzoneOf, div_eq_one_iff_eq (by norm_num)]
  constructor
  · intro full
    have same : percent.toNat = 100 := by exact_mod_cast full
    exact UInt8.toNat_inj.mp same
  · rintro rfl
    have value : (100 : UInt8).toNat = 100 := rfl
    rw [value, Nat.cast_ofNat]

theorem applyDeadzone_eq (percent : UInt8) (value : ℚ) :
    applyDeadzone percent value =
      shrink (deadzoneOf percent) value * (1 / (1 - deadzoneOf percent)) := by
  have zone := deadzoneOf_nonneg percent
  change (if |value| < deadzoneOf percent then 0 else
    if value > 0 then (value - deadzoneOf percent) * (1 / (1 - deadzoneOf percent))
    else (value + deadzoneOf percent) * (1 / (1 - deadzoneOf percent))) = _
  by_cases inside : |value| < deadzoneOf percent
  · rw [if_pos inside, shrink_of_abs_le inside.le, zero_mul]
  · rw [if_neg inside]
    by_cases positive : value > 0
    · rw [abs_of_pos positive, not_lt] at inside
      rw [if_pos positive, shrink_of_ge zone inside]
    · rw [abs_of_nonpos (not_lt.mp positive), not_lt] at inside
      rw [if_neg positive, shrink_of_le zone (by linarith)]

theorem applyDeadzone_monotone {percent : UInt8} (inRange : percent.toNat ≤ 99) :
    Monotone (applyDeadzone percent) := by
  have scale : 0 ≤ 1 / (1 - deadzoneOf percent) :=
    one_div_nonneg.mpr (sub_nonneg.mpr (deadzoneOf_lt_one inRange).le)
  intro first second ordered
  rw [applyDeadzone_eq, applyDeadzone_eq]
  exact mul_le_mul_of_nonneg_right (shrink_monotone _ ordered) scale

theorem applyDeadzone_inside {percent : UInt8} {value : ℚ} (inside : |value| ≤ deadzoneOf percent) :
    applyDeadzone percent value = 0 := by
  rw [applyDeadzone_eq, shrink_of_abs_le inside, zero_mul]

theorem applyDeadzone_neg (percent : UInt8) (value : ℚ) :
    applyDeadzone percent (-value) = -applyDeadzone percent value := by
  rw [applyDeadzone_eq, applyDeadzone_eq, shrink_neg, neg_mul]

theorem applyDeadzone_one {percent : UInt8} (inRange : percent.toNat ≤ 99) :
    applyDeadzone percent 1 = 1 := by
  have smaller := deadzoneOf_lt_one inRange
  rw [applyDeadzone_eq, shrink_of_ge (deadzoneOf_nonneg percent) smaller.le]
  exact mul_one_div_cancel (sub_pos.mpr smaller).ne'

theorem applyDeadzone_neg_one {percent : UInt8} (inRange : percent.toNat ≤ 99) :
    applyDeadzone percent (-1) = -1 := by
  have smaller := deadzoneOf_lt_one inRange
  rw [applyDeadzone_eq, shrink_of_le (deadzoneOf_nonneg percent) (neg_le_neg smaller.le)]
  rw [show -1 + deadzoneOf percent = -(1 - deadzoneOf percent) by ring, neg_mul,
    mul_one_div_cancel (sub_pos.mpr smaller).ne']

end BaseController

end SysCon
