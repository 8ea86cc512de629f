import SysCon.Sysmodule.CLibrary
import Mathlib.Data.List.Induction
import Mathlib.Data.List.TakeWhile
import Mathlib.Order.MinMax
import Mathlib.Tactic.Ring

/-!
Texts of digits only, as `strtol` and `atoi` read them: nothing is skipped in
front, nothing is left behind, and the value is the positional one.
-/

namespace SysCon.CLibrary

theorem isAlphanum_of_digitValue {c : Char} (digit : digitValue c < 36) : c.isAlphanum = true := by
  unfold digitValue at digit
  split at digit
  · rename_i decimal
    exact (Bool.or_eq_true _ _).mpr (Or.inr decimal)
  · split at digit
    · rename_i lower
      have letter : c.isLower = true :=
        (Bool.and_eq_true _ _).mpr ⟨decide_eq_true lower.1, decide_eq_true lower.2⟩
      exact (Bool.or_eq_true _ _).mpr (Or.inl ((Bool.or_eq_true _ _).mpr (Or.inr letter)))
    · split at digit
      · rename_i upper
        have letter : c.isUpper = true := decide_eq_true upper
        exact (Bool.or_eq_true _ _).mpr (Or.inl ((Bool.or_eq_true _ _).mpr (Or.inl letter)))
      · omega

theorem digitValue_of_isDigitOf {base : Nat} {c : Char} (digit : isDigitOf base c = true) :
    digitValue c < base := of_decide_eq_true digit

/-- No digit is the letter of a prefix. -/
theorem skipHexPrefix_digits {text : CString} (digits : ∀ c ∈ text, isDigitOf 16 c = true) :
    skipHexPrefix text = text := by
  unfold skipHexPrefix
  split
  · rename_i x digit rest
    have second := digits x (by simp)
    have plain : ¬(x = 'x' ∨ x = 'X') := by
      rintro (rfl | rfl)
      · exact absurd second (by decide)
      · exact absurd second (by decide)
    rw [if_neg fun both => plain both.1]
  · rfl

section Digits

variable {base : Nat} {text : CString} (narrow : base ≤ 36)
  (digits : ∀ c ∈ text, isDigitOf base c = true)

include digits

include narrow

theorem isAlphanum_of_digits : ∀ c ∈ text, c.isAlphanum = true := by
  intro c member
  have digit := digitValue_of_isDigitOf (digits c member)
  exact isAlphanum_of_digitValue (by omega)

theorem dropWhile_isspace_digits : text.dropWhile isspace = text := by
  cases text with
  | nil => rfl
  | cons c rest =>
      have plain := isAlphanum_of_digits narrow digits c List.mem_cons_self
      rw [List.dropWhile_cons, isspace_of_isAlphanum plain, if_neg Bool.false_ne_true]

theorem signOf_digits : signOf text = (false, text) := by
  have plain := isAlphanum_of_digits narrow digits
  unfold signOf
  split
  · exact absurd (plain '-' List.mem_cons_self) (by decide)
  · exact absurd (plain '+' List.mem_cons_self) (by decide)
  · rfl

theorem strtol_digits : strtol base text = min (magnitude base text : Int) LONG_MAX := by
  have front : (if base = 16 then skipHexPrefix text else text) = text := by
    split
    · rename_i hex
      exact skipHexPrefix_digits (hex ▸ digits)
    · rfl
  have all : text.takeWhile (isDigitOf base) = text := List.takeWhile_eq_self_iff.mpr digits
  rw [strtol, dropWhile_isspace_digits narrow digits, signOf_digits narrow digits]
  simp only [front, all, Bool.false_eq_true, if_false]

theorem strtol_digits_of_lt (small : magnitude base text < 2 ^ 63) :
    strtol base text = magnitude base text := by
  rw [strtol_digits narrow digits]
  apply min_eq_left
  rw [LONG_MAX]
  omega

end Digits

theorem magnitude_concat (base : Nat) (text : CString) (c : Char) :
    magnitude base (text ++ [c]) = magnitude base text * base + digitValue c := by
  rw [magnitude, List.foldl_append, ← magnitude, List.foldl_cons, List.foldl_nil]

theorem magnitude_append (base : Nat) (first second : CString) :
    magnitude base (first ++ second) =
      magnitude base first * base ^ second.length + magnitude base second := by
  induction second using List.reverseRecOn with
  | nil => simp [magnitude]
  | append_singleton second c ih =>
      rw [← List.append_assoc, magnitude_concat, magnitude_concat, ih, List.length_append,
        List.length_singleton, pow_succ]
      ring

theorem toUInt8_toNat (value : UInt8) : toUInt8 value.toNat = value := by
  have small := value.toNat_lt
  have reduced : ((value.toNat : Int) % 2 ^ 8).toNat = value.toNat := by omega
  rw [toUInt8, UInt8.ofInt, reduced, UInt8.ofNat_toNat]

theorem toUInt16_toNat (value : UInt16) : toUInt16 value.toNat = value := by
  have small := value.toNat_lt
  have reduced : ((value.toNat : Int) % 2 ^ 16).toNat = value.toNat := by omega
  rw [toUInt16, UInt16.ofInt, reduced, UInt16.ofNat_toNat]

theorem toNat_toUInt32 {value : Nat} (small : value < 2 ^ 32) :
    (toUInt32 value).toNat = value := by
  have reduced : ((value : Int) % 2 ^ 32).toNat = value := by omega
  rw [toUInt32, UInt32.ofInt, reduced, UInt32.toNat_ofNat_of_lt' small]

end SysCon.CLibrary
