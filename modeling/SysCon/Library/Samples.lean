import Mathlib.Algebra.Order.Field.Basic
import Mathlib.Algebra.Order.Floor.Ring
import Mathlib.Algebra.Order.Group.MinMax
import Mathlib.Algebra.Order.Group.Nat
import Mathlib.Data.Int.ConditionallyCompleteOrder
import Mathlib.Data.Nat.Digits.Defs
import Mathlib.Order.Lattice
import Mathlib.Order.MinMax
import Mathlib.Tactic.Ring

/-!
From the bytes of a report to the value of an axis: bit fields of a natural
number, the extent of the values seen so far, and the pieces of a response curve
over an ordered field, each monotone.
-/

namespace SysCon.Library

/-! Bit fields: how neighbouring fields join, how a field grows by one bit on top, and where the
bits of a positional numeral stand. -/

/-- The bits of a number from `offset` on, `width` of them. -/
def bitField (value offset width : Nat) : Nat := value / 2 ^ offset % 2 ^ width

theorem bitField_lt (value offset width : Nat) : bitField value offset width < 2 ^ width :=
  Nat.mod_lt _ (Nat.two_pow_pos width)

theorem bitField_width_zero (value offset : Nat) : bitField value offset 0 = 0 := by
  rw [bitField, pow_zero, Nat.mod_one]

theorem bitField_join (value offset low high : Nat) :
    bitField value offset low + 2 ^ low * bitField value (offset + low) high =
      bitField value offset (low + high) := by
  unfold bitField
  rw [pow_add 2 low high, Nat.mod_mul, pow_add 2 offset low, Nat.div_div_eq_div_mul]

theorem bitField_whole {value width : Nat} (small : value < 2 ^ width) :
    bitField value 0 width = value := by
  rw [bitField, pow_zero, Nat.div_one, Nat.mod_eq_of_lt small]

theorem or_shiftLeft_of_lt {low width : Nat} (small : low < 2 ^ width) (top : Nat) :
    low ||| (top <<< width) = low + 2 ^ width * top := by
  rw [Nat.or_comm, ← Nat.shiftLeft_add_eq_or_of_lt small, Nat.shiftLeft_eq, Nat.add_comm,
    Nat.mul_comm top]

/-- A bit put on top of a field by `or` is added. -/
theorem bitField_push (value offset width : Nat) :
    bitField value offset width ||| (bitField value (offset + width) 1 <<< width) =
      bitField value offset (width + 1) := by
  rw [or_shiftLeft_of_lt (bitField_lt value offset width), bitField_join]

theorem shiftRight_and_one (value offset : Nat) :
    (value >>> offset) &&& 1 = bitField value offset 1 := by
  rw [Nat.and_one_is_mod, Nat.shiftRight_eq_div_pow, bitField, pow_one]

section Numeral

variable {width : Nat} (low : Nat) (high : Nat) {offset size : Nat}

theorem bitField_low_digit (fits : offset + size ≤ width) :
    bitField (low + 2 ^ width * high) offset size = bitField low offset size := by
  obtain ⟨rest, rfl⟩ := Nat.exists_eq_add_of_le fits
  have moved : low + 2 ^ (offset + size + rest) * high =
      low + 2 ^ offset * (2 ^ size * (2 ^ rest * high)) := by
    rw [pow_add, pow_add, Nat.mul_assoc, Nat.mul_assoc]
  rw [bitField, moved, Nat.add_mul_div_left _ _ (Nat.two_pow_pos offset), Nat.add_mul_mod_self_left,
    bitField]

theorem bitField_high_digits (small : low < 2 ^ width) :
    bitField (low + 2 ^ width * high) (width + offset) size = bitField high offset size := by
  rw [bitField, pow_add, ← Nat.div_div_eq_div_mul, Nat.add_mul_div_left _ _ (Nat.two_pow_pos width),
    Nat.div_eq_of_lt small, Nat.zero_add, bitField]

end Numeral

/-- A field inside one digit of a numeral is the field of that digit. -/
theorem bitField_ofDigits {width : Nat} {digits : List Nat}
    (small : ∀ digit ∈ digits, digit < 2 ^ width) {index digit : Nat}
    (found : digits[index]? = some digit) {offset size : Nat} (fits : offset + size ≤ width) :
    bitField (Nat.ofDigits (2 ^ width) digits) (width * index + offset) size =
      bitField digit offset size := by
  induction digits generalizing index with
  | nil => simp at found
  | cons first rest ih =>
      rw [Nat.ofDigits_cons]
      cases index with
      | zero =>
          simp only [List.getElem?_cons_zero, Option.some.injEq] at found
          rw [Nat.mul_zero, Nat.zero_add, bitField_low_digit _ _ fits, found]
      | succ index =>
          rw [List.getElem?_cons_succ] at found
          have later := ih (fun other member => small other (List.mem_cons_of_mem _ member)) found
          have moved : width * (index + 1) + offset = width + (width * index + offset) := by
            rw [Nat.mul_succ, Nat.add_right_comm, Nat.add_comm]
          rw [moved, bitField_high_digits _ _ (small first List.mem_cons_self), later]

/-! The least and the greatest of the values seen so far, from two first bounds on: each value can
only widen them, and they are the tightest bounds that do. -/

structure Extent (value : Type*) where
  least : value
  greatest : value

namespace Extent

variable {value : Type*} [LinearOrder value]

def widen (extent : Extent value) (next : value) : Extent value :=
  ⟨min next extent.least, max next extent.greatest⟩

def widenAll (extent : Extent value) (values : List value) : Extent value :=
  values.foldl widen extent

def Contains (extent : Extent value) (item : value) : Prop :=
  extent.least ≤ item ∧ item ≤ extent.greatest

def Within (inner outer : Extent value) : Prop :=
  outer.least ≤ inner.least ∧ inner.greatest ≤ outer.greatest

theorem within_widen (extent : Extent value) (next : value) : extent.Within (extent.widen next) :=
  ⟨min_le_right _ _, le_max_right _ _⟩

theorem contains_widen (extent : Extent value) (next : value) : (extent.widen next).Contains next :=
  ⟨min_le_left _ _, le_max_left _ _⟩

theorem Within.trans {inner middle outer : Extent value} (first : inner.Within middle)
    (second : middle.Within outer) : inner.Within outer :=
  ⟨second.1.trans first.1, first.2.trans second.2⟩

theorem within_widenAll (extent : Extent value) (values : List value) :
    extent.Within (extent.widenAll values) := by
  induction values generalizing extent with
  | nil => exact ⟨le_rfl, le_rfl⟩
  | cons head rest ih => exact (within_widen extent head).trans (ih (extent.widen head))

theorem le_least_widenAll {extent : Extent value} {values : List value} {bound : value} :
    bound ≤ (extent.widenAll values).least ↔
      bound ≤ extent.least ∧ ∀ item ∈ values, bound ≤ item := by
  induction values generalizing extent with
  | nil => simp [widenAll]
  | cons head rest ih =>
      have step : bound ≤ (extent.widen head).least ↔ bound ≤ head ∧ bound ≤ extent.least :=
        le_min_iff
      rw [widenAll, List.foldl_cons, ← widenAll, ih, step, List.forall_mem_cons]
      constructor
      · rintro ⟨⟨first, start⟩, later⟩
        exact ⟨start, first, later⟩
      · rintro ⟨start, first, later⟩
        exact ⟨⟨first, start⟩, later⟩

theorem greatest_widenAll_le {extent : Extent value} {values : List value} {bound : value} :
    (extent.widenAll values).greatest ≤ bound ↔
      extent.greatest ≤ bound ∧ ∀ item ∈ values, item ≤ bound := by
  induction values generalizing extent with
  | nil => simp [widenAll]
  | cons head rest ih =>
      have step : (extent.widen head).greatest ≤ bound ↔ head ≤ bound ∧ extent.greatest ≤ bound :=
        max_le_iff
      rw [widenAll, List.foldl_cons, ← widenAll, ih, step, List.forall_mem_cons]
      constructor
      · rintro ⟨⟨first, start⟩, later⟩
        exact ⟨start, first, later⟩
      · rintro ⟨start, first, later⟩
        exact ⟨⟨first, start⟩, later⟩

end Extent

/-! Two slopes that meet at a centre, saturation at a limit, a dead zone around zero, and rounding
toward zero. -/

section Field

variable {field : Type*} [Field field] [LinearOrder field]

def ramp (below above center value : field) : field :=
  if value < center then (value - center) / below else (value - center) / above

theorem ramp_center (below above center : field) : ramp below above center center = 0 := by
  rw [ramp, if_neg (lt_irrefl center), sub_self, zero_div]

def clamp (limit value : field) : field := max (-limit) (min limit value)

theorem clamp_monotone (limit : field) : Monotone (clamp limit) :=
  fun _ _ ordered => max_le_max_left _ (min_le_min_left _ ordered)

theorem neg_le_clamp (limit value : field) : -limit ≤ clamp limit value := le_max_left _ _

theorem clamp_of_inside {limit value : field} (low : -limit ≤ value) (high : value ≤ limit) :
    clamp limit value = value := by
  rw [clamp, min_eq_right high, max_eq_right low]

variable [IsStrictOrderedRing field]

theorem ramp_strictMono {below above : field} (center : field) (belowPositive : 0 < below)
    (abovePositive : 0 < above) : StrictMono (ramp below above center) := by
  intro first second ordered
  unfold ramp
  by_cases firstBelow : first < center
  · by_cases secondBelow : second < center
    · simp only [firstBelow, secondBelow, if_true]
      gcongr
    · simp only [firstBelow, secondBelow, if_true, if_false]
      have negative : (first - center) / below < 0 :=
        div_neg_of_neg_of_pos (sub_neg.mpr firstBelow) belowPositive
      have positive : 0 ≤ (second - center) / above :=
        div_nonneg (sub_nonneg.mpr (not_lt.mp secondBelow)) abovePositive.le
      exact negative.trans_le positive
  · have secondAbove : ¬second < center := fun later => firstBelow (ordered.trans later)
    simp only [firstBelow, secondAbove, if_false]
    gcongr

theorem ramp_monotone {below above : field} (center : field) (belowPositive : 0 < below)
    (abovePositive : 0 < above) : Monotone (ramp below above center) :=
  (ramp_strictMono center belowPositive abovePositive).monotone

theorem ramp_bottom {below : field} (above center : field) (belowPositive : 0 < below) :
    ramp below above center (center - below) = -1 := by
  rw [ramp, if_pos (sub_lt_self center belowPositive), sub_sub_cancel_left, neg_div,
    div_self belowPositive.ne']

theorem ramp_top {above : field} (below center : field) (abovePositive : 0 < above) :
    ramp below above center (center + above) = 1 := by
  have apart : ¬center + above < center := by
    rw [not_lt]
    exact le_add_of_nonneg_right abovePositive.le
  rw [ramp, if_neg apart, add_sub_cancel_left, div_self abovePositive.ne']

theorem clamp_le {limit : field} (positive : 0 ≤ limit) (value : field) :
    clamp limit value ≤ limit :=
  max_le (by linarith) (min_le_left _ _)

theorem clamp_of_ge {limit value : field} (positive : 0 ≤ limit) (large : limit ≤ value) :
    clamp limit value = limit := by
  rw [clamp, min_eq_left large, max_eq_right (by linarith)]

theorem clamp_of_le {limit value : field} (positive : 0 ≤ limit) (small : value ≤ -limit) :
    clamp limit value = -limit := by
  rw [clamp, min_eq_right (by linarith), max_eq_left small]

theorem clamp_zero {limit : field} (positive : 0 ≤ limit) : clamp limit 0 = 0 :=
  clamp_of_inside (by linarith) positive

/-- What is left of a value outside the zone. -/
def shrink (zone value : field) : field := max (value - zone) 0 + min (value + zone) 0

theorem shrink_monotone (zone : field) : Monotone (shrink zone) :=
  fun _ _ ordered =>
    add_le_add (max_le_max_right _ (by linarith)) (min_le_min_right _ (by linarith))

theorem shrink_of_abs_le {zone value : field} (inside : |value| ≤ zone) :
    shrink zone value = 0 := by
  obtain ⟨low, high⟩ := abs_le.mp inside
  rw [shrink, max_eq_right (by linarith), min_eq_right (by linarith), add_zero]

theorem shrink_of_ge {zone value : field} (positive : 0 ≤ zone) (above : zone ≤ value) :
    shrink zone value = value - zone := by
  rw [shrink, max_eq_left (by linarith), min_eq_right (by linarith), add_zero]

theorem shrink_of_le {zone value : field} (positive : 0 ≤ zone) (below : value ≤ -zone) :
    shrink zone value = value + zone := by
  rw [shrink, max_eq_right (by linarith), min_eq_left (by linarith), zero_add]

theorem shrink_neg (zone value : field) : shrink zone (-value) = -shrink zone value := by
  have above : -value - zone = -(value + zone) := by ring
  have below : -value + zone = -(value - zone) := by ring
  have flippedMax : max (-(value + zone)) 0 = -min (value + zone) 0 := by
    rw [← neg_zero, max_neg_neg, neg_zero]
  have flippedMin : min (-(value - zone)) 0 = -max (value - zone) 0 := by
    rw [← neg_zero, min_neg_neg, neg_zero]
  rw [shrink, shrink, above, below, flippedMax, flippedMin]
  ring

end Field

section Floor

variable {field : Type*} [Ring field] [LinearOrder field] [FloorRing field]

def towardZero (value : field) : Int := if 0 ≤ value then ⌊value⌋ else ⌈value⌉

theorem towardZero_monotone : Monotone (towardZero : field → Int) := by
  intro first second ordered
  unfold towardZero
  by_cases firstPositive : 0 ≤ first
  · rw [if_pos firstPositive, if_pos (firstPositive.trans ordered)]
    exact Int.floor_le_floor ordered
  · rw [if_neg firstPositive]
    have negative : ⌈first⌉ ≤ 0 := Int.ceil_le.mpr (by simpa using (not_le.mp firstPositive).le)
    split
    · rename_i secondPositive
      exact negative.trans (Int.floor_nonneg.mpr secondPositive)
    · exact Int.ceil_le_ceil ordered

theorem towardZero_intCast [IsStrictOrderedRing field] (value : Int) :
    towardZero (value : field) = value := by
  unfold towardZero
  split
  · exact Int.floor_intCast value
  · exact Int.ceil_intCast value

end Floor

end SysCon.Library
