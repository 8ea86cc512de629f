import SysCon.ControllerLib.Normalization
import SysCon.Sysmodule.AutoAdd
import SysCon.Sysmodule.BindingTokens

/-!
`ApplyDeadzone` at every percentage that a line of the configuration can store.
A division by zero is an outcome of its own here: the rationals would give it a
value.
-/

namespace SysCon

namespace BaseController

open Library

/-- A division whose divisor may be zero. -/
def divide (dividend divisor : ℚ) : Option ℚ :=
  if divisor = 0 then none else some (dividend / divisor)

def applyDeadzoneChecked (deadzonePercent : UInt8) (value : ℚ) : Option ℚ :=
  let deadzone : ℚ := deadzonePercent.toNat / 100
  if |value| < deadzone then some 0
  else
    (divide 1 (1 - deadzone)).map fun scale =>
      if value > 0 then (value - deadzone) * scale else (value + deadzone) * scale

/-- Without a division by zero, `ApplyDeadzone` has the value it has over the rationals. -/
theorem applyDeadzoneChecked_eq (percent : UInt8) (value : ℚ) :
    applyDeadzoneChecked percent value =
      if deadzoneOf percent ≤ |value| ∧ percent = 100 then none
      else some (applyDeadzone percent value) := by
  change (if |value| < deadzoneOf percent then some 0 else
    (divide 1 (1 - deadzoneOf percent)).map _) = _
  by_cases inside : |value| < deadzoneOf percent
  · have idle : ¬(deadzoneOf percent ≤ |value| ∧ percent = 100) := fun both =>
      absurd inside (not_lt.mpr both.1)
    rw [if_pos inside, if_neg idle, applyDeadzone_inside inside.le]
  · rw [if_neg inside, divide]
    by_cases full : percent = 100
    · have zero : 1 - deadzoneOf percent = 0 := sub_eq_zero.mpr (deadzoneOf_eq_one.mpr full).symm
      rw [if_pos zero, if_pos ⟨not_lt.mp inside, full⟩, Option.map_none]
    · have nonzero : 1 - deadzoneOf percent ≠ 0 := fun zero =>
        full (deadzoneOf_eq_one.mp (sub_eq_zero.mp zero).symm)
      have other : ¬(deadzoneOf percent ≤ |value| ∧ percent = 100) := fun both => full both.2
      rw [if_neg nonzero, if_neg other, Option.map_some]
      change some _ = some (if |value| < deadzoneOf percent then 0 else _)
      rw [if_neg inside]
      rfl

/-- What the arithmetic of the dead zone is for, at one percentage and one value. -/
structure DeadzoneDefined (percent : UInt8) (value result : ℚ) : Prop where
  divides : applyDeadzoneChecked percent value = some result
  bounded : -1 ≤ result ∧ result ≤ 1
  sign : result = 0 ∨ (0 < value ∧ 0 < result) ∨ (value < 0 ∧ result < 0)
  odd : applyDeadzoneChecked percent (-value) = some (-result)

theorem sign_applyDeadzone {percent : UInt8} (inRange : percent.toNat ≤ 99) (value : ℚ) :
    applyDeadzone percent value = 0 ∨ (0 < value ∧ 0 < applyDeadzone percent value) ∨
      (value < 0 ∧ applyDeadzone percent value < 0) := by
  have ordered := applyDeadzone_monotone inRange
  have rest : applyDeadzone percent 0 = 0 := by
    refine applyDeadzone_inside ?_
    rw [abs_zero]
    exact deadzoneOf_nonneg percent
  rcases lt_trichotomy (applyDeadzone percent value) 0 with negative | zero | positive
  · have below : applyDeadzone percent value < applyDeadzone percent 0 := by rwa [rest]
    exact Or.inr (Or.inr ⟨ordered.reflect_lt below, negative⟩)
  · exact Or.inl zero
  · have above : applyDeadzone percent 0 < applyDeadzone percent value := by rwa [rest]
    exact Or.inr (Or.inl ⟨ordered.reflect_lt above, positive⟩)

theorem defined_of_inside {percent : UInt8} {value : ℚ} (inside : |value| < deadzoneOf percent) :
    DeadzoneDefined percent value 0 := by
  constructor
  case divides => exact if_pos inside
  case bounded => constructor <;> norm_num
  case sign => exact Or.inl rfl
  case odd =>
    rw [← abs_neg] at inside
    rw [neg_zero]
    exact if_pos inside

section Defined

variable {percent : UInt8} {value : ℚ} (low : -1 ≤ value) (high : value ≤ 1)

include low high

theorem bounded_applyDeadzone (inRange : percent.toNat ≤ 99) :
    -1 ≤ applyDeadzone percent value ∧ applyDeadzone percent value ≤ 1 := by
  have ordered := applyDeadzone_monotone inRange
  constructor
  · rw [← applyDeadzone_neg_one inRange]
    exact ordered low
  · rw [← applyDeadzone_one inRange]
    exact ordered high

/-- A value outside a zone short of everything. -/
theorem defined_of_short (inRange : percent.toNat ≤ 99) :
    DeadzoneDefined percent value (applyDeadzone percent value) := by
  have short : percent ≠ 100 := by
    rintro rfl
    exact absurd inRange (by decide)
  constructor
  case divides => rw [applyDeadzoneChecked_eq, if_neg fun both => short both.2]
  case bounded => exact bounded_applyDeadzone low high inRange
  case sign => exact sign_applyDeadzone inRange value
  case odd => rw [applyDeadzoneChecked_eq, if_neg fun both => short both.2, applyDeadzone_neg]

theorem exists_defined_iff :
    (∃ result, DeadzoneDefined percent value result) ↔ ¬(percent = 100 ∧ |value| = 1) := by
  have within : |value| ≤ 1 := abs_le.mpr ⟨low, high⟩
  constructor
  · rintro ⟨result, defined⟩ ⟨rfl, full⟩
    have divides := defined.divides
    have reached : deadzoneOf 100 ≤ |value| := by rw [full, deadzoneOf_eq_one.mpr rfl]
    rw [applyDeadzoneChecked_eq, if_pos ⟨reached, rfl⟩] at divides
    exact absurd divides (by simp)
  · intro notFull
    by_cases inside : |value| < deadzoneOf percent
    · exact ⟨0, defined_of_inside inside⟩
    · have outside := not_lt.mp inside
      rcases lt_or_eq_of_le (outside.trans within) with short | one
      · exact ⟨_, defined_of_short low high (le_of_deadzoneOf_lt_one short)⟩
      · rw [one] at outside
        exact absurd ⟨deadzoneOf_eq_one.mp one, le_antisymm within outside⟩ notFull

end Defined

end BaseController

/-! What a line of the file can store. -/

namespace ConfigHandler

open CLibrary

theorem settingOf_deadzone {entry : CString × ControllerAnalogBinding}
    (listed : entry ∈ deadzoneNames) (value : CString) :
    settingOf entry.1 value = .deadzone entry.2 (toUInt8 (atoi value)) := by
  simp only [deadzoneNames, List.mem_cons, List.not_mem_nil, or_false] at listed
  rcases listed with rfl | rfl | rfl | rfl | rfl | rfl | rfl | rfl
  all_goals rfl

theorem digitChar_read {digit : Nat} (small : digit < 10) :
    (Nat.digitChar digit).isDigit = true ∧ digitValue (Nat.digitChar digit) = digit := by
  have all : ∀ digit : Fin 10, (Nat.digitChar digit.val).isDigit = true ∧
      digitValue (Nat.digitChar digit.val) = digit.val := by decide
  exact all ⟨digit, small⟩

theorem magnitude_decimal (width value : Nat) :
    magnitude 10 (decimal width value) = value % 10 ^ width := by
  induction width generalizing value with
  | zero => rw [pow_zero, Nat.mod_one]; rfl
  | succ width ih =>
      have last := (digitChar_read (Nat.mod_lt value (by omega : 10 > 0))).2
      rw [decimal, magnitude_concat, ih, last, pow_succ', Nat.mod_mul, Nat.add_comm, Nat.mul_comm]

theorem isNumber_decimal (width value : Nat) : isNumber (decimal (width + 1) value) = true := by
  have digits : ∀ width value, (decimal width value).all Char.isDigit = true := by
    intro width
    induction width with
    | zero => exact fun _ => rfl
    | succ width ih =>
        intro value
        have last := (digitChar_read (Nat.mod_lt value (by omega : 10 > 0))).1
        rw [decimal, List.all_append, ih, List.all_cons, last]
        rfl
  rw [isNumber, digits, Bool.and_true]
  simp [decimal]

/-- The percentage as three digits is read back by `atoi` and fits the byte. -/
theorem stores_percent (percent : UInt8) {entry : CString × ControllerAnalogBinding}
    (listed : entry ∈ deadzoneNames) :
    settingOf entry.1 (decimal 3 percent.toNat) = .deadzone entry.2 percent := by
  have small := percent.toNat_lt
  have value : magnitude 10 (decimal 3 percent.toNat) = percent.toNat := by
    rw [magnitude_decimal, Nat.mod_eq_of_lt (by omega)]
  have fits : magnitude 10 (decimal 3 percent.toNat) < 2 ^ 31 := by omega
  rw [settingOf_deadzone listed, atoi_isNumber (isNumber_decimal 2 _) fits, value, toUInt8_toNat]

/-- Every percentage can be stored for every axis that has a key, and its arithmetic is defined
except where the zone takes everything and the stick is all the way out. -/
theorem deadzone_defined_iff (percent : UInt8) {value : ℚ} (low : -1 ≤ value) (high : value ≤ 1) :
    (∀ entry ∈ deadzoneNames, ∃ text, settingOf entry.1 text = .deadzone entry.2 percent) ∧
      ((∃ result, BaseController.DeadzoneDefined percent value result) ↔
        ¬(percent = 100 ∧ |value| = 1)) :=
  ⟨fun _ listed => ⟨_, stores_percent percent listed⟩, BaseController.exists_defined_iff low high⟩

theorem deadzone_defined_ten : ∃ result, BaseController.DeadzoneDefined 10 (1 / 5) result := by
  have holds := deadzone_defined_iff 10 (by norm_num : (-1 : ℚ) ≤ 1 / 5) (by norm_num)
  exact holds.2.mpr fun full => absurd full.1 (by decide)

/-- `deadzone_x=100` with the stick all the way out, which `Normalize` turns into 1. -/
theorem deadzone_undefined_at_full :
    settingOf "deadzone_x".toList "100".toList = .deadzone .x 100 ∧
      BaseController.normalizeAround 255 0 255 127 = 1 ∧
      BaseController.applyDeadzoneChecked 100 1 = none ∧
      ¬∃ result, BaseController.DeadzoneDefined 100 1 result := by
  have undefined : BaseController.applyDeadzoneChecked 100 1 = none := by
    rw [BaseController.applyDeadzoneChecked_eq, abs_one,
      BaseController.deadzoneOf_eq_one.mpr rfl, if_pos ⟨le_rfl, rfl⟩]
  refine ⟨rfl, BaseController.normalizeAround_of_ge (by decide) (by decide) le_rfl, undefined, ?_⟩
  rintro ⟨result, defined⟩
  exact absurd (undefined.symm.trans defined.divides) (by simp)

end ConfigHandler

end SysCon
