import SysCon.Library.Samples
import SysCon.ControllerLib.RawInput

/-!
`ReadBitsLE` as a field of the little-endian number that the bytes stand for,
and how far the loop reads.
-/

namespace SysCon

open Library

def littleEndian (bytes : List UInt8) : Nat := Nat.ofDigits (2 ^ 8) (bytes.map UInt8.toNat)

theorem digit_lt (bytes : List UInt8) : ∀ digit ∈ bytes.map UInt8.toNat, digit < 2 ^ 8 := by
  intro digit member
  obtain ⟨byte, _, rfl⟩ := List.mem_map.mp member
  exact byte.toNat_lt

theorem littleEndian_bit {bytes : List UInt8} {index : Nat} {byte : UInt8}
    (found : bytes[index]? = some byte) {position : Nat} (inside : position < 8) :
    (byte.toNat >>> position) &&& 1 = bitField (littleEndian bytes) (8 * index + position) 1 := by
  have digit : (bytes.map UInt8.toNat)[index]? = some byte.toNat := by
    rw [List.getElem?_map, found, Option.map_some]
  rw [littleEndian, bitField_ofDigits (digit_lt bytes) digit (by omega), shiftRight_and_one]

theorem littleEndian_lt (bytes : List UInt8) : littleEndian bytes < 2 ^ (8 * bytes.length) := by
  have bound := Nat.ofDigits_lt_base_pow_length (by decide : 1 < 2 ^ 8) (digit_lt bytes)
  rwa [List.length_map, ← pow_mul] at bound

theorem littleEndian_append (first second : List UInt8) :
    littleEndian (first ++ second) =
      littleEndian first + 2 ^ (8 * first.length) * littleEndian second := by
  rw [littleEndian, List.map_append, Nat.ofDigits_append, List.length_map, ← pow_mul]
  rfl

theorem littleEndian_inj {first second : List UInt8} (lengths : first.length = second.length)
    (same : littleEndian first = littleEndian second) : first = second := by
  have size : (first.map UInt8.toNat).length = (second.map UInt8.toNat).length := by
    rw [List.length_map, List.length_map, lengths]
  have digits := Nat.ofDigits_inj_of_len_eq (by decide) size (digit_lt first) (digit_lt second) same
  exact List.map_injective_iff.mpr (fun _ _ => UInt8.toNat_inj.mp) digits

/-- Memory holds its own first bytes. -/
theorem Buffer.write_map_range (buffer : Buffer) (size : Nat) :
    buffer.write ((List.range size).map buffer) = buffer := by
  funext index
  by_cases held : index < size
  · simp [Buffer.write, held]
  · simp [Buffer.write, held]

namespace BaseController

/-! The loop over memory that may end: a byte behind the end is not there to be read. -/

def readBitsLELoopWithin (memory : Nat → Option UInt8) :
    (remaining i byteIndex bitIndex result : Nat) → Option Nat
  | 0, _, _, _, result => some result
  | remaining + 1, i, byteIndex, bitIndex, result =>
      let (byteIndex, bitIndex) :=
        if bitIndex > 7 then (byteIndex + 1, 0) else (byteIndex, bitIndex)
      match memory byteIndex with
      | none => none
      | some byte =>
          let bit := (byte.toNat >>> bitIndex) &&& 1
          readBitsLELoopWithin memory remaining (i + 1) byteIndex (bitIndex + 1)
            (result ||| (bit <<< i))

def readBitsLEWithin (memory : Nat → Option UInt8) (bitOffset bitLength : Nat) : Option Nat :=
  readBitsLELoopWithin memory bitLength 0 (bitOffset / 8) (bitOffset % 8) 0

/-- Where the loop over ending memory has a result, the loop of the source has it too. -/
theorem readBitsLELoop_of_within {memory : Nat → Option UInt8} {buffer : Buffer}
    (holds : ∀ index byte, memory index = some byte → buffer index = byte) {value : Nat}
    (remaining i byteIndex bitIndex result : Nat)
    (read : readBitsLELoopWithin memory remaining i byteIndex bitIndex result = some value) :
    readBitsLELoop buffer remaining i byteIndex bitIndex result = value := by
  induction remaining generalizing i byteIndex bitIndex result with
  | zero => simpa [readBitsLELoopWithin, readBitsLELoop] using read
  | succ remaining ih =>
      simp only [readBitsLELoopWithin] at read
      simp only [readBitsLELoop]
      split at read
      · simp at read
      · rename_i byte found
        rw [holds _ _ found]
        exact ih _ _ _ _ read

/-- The byte and the position of the next bit; a position of 8 still means the byte before. -/
structure AtBit (byteIndex bitIndex position : Nat) : Prop where
  place : 8 * byteIndex + bitIndex = position
  lazy : bitIndex ≤ 8

theorem AtBit.wrapped {byteIndex bitIndex position : Nat}
    (place : AtBit byteIndex bitIndex position) :
    (if bitIndex > 7 then (byteIndex + 1, 0) else (byteIndex, bitIndex)) =
      (position / 8, position % 8) := by
  obtain ⟨rfl, lazy⟩ := place
  split
  · have full : bitIndex = 8 := by omega
    ext <;> omega
  · ext <;> omega

theorem AtBit.next (position : Nat) : AtBit (position / 8) (position % 8 + 1) (position + 1) where
  place := by omega
  lazy := by omega

/-- Each round puts the next bit of the number on top of the field read so far. -/
theorem readBitsLELoopWithin_eq {bytes : List UInt8} {memory : Nat → Option UInt8}
    {bitOffset last : Nat} (holds : ∀ index ≤ last, memory index = bytes[index]?)
    (inside : last < bytes.length) (remaining i byteIndex bitIndex : Nat)
    (place : AtBit byteIndex bitIndex (bitOffset + i))
    (enough : remaining = 0 ∨ bitOffset + i + remaining ≤ 8 * (last + 1)) :
    readBitsLELoopWithin memory remaining i byteIndex bitIndex
        (bitField (littleEndian bytes) bitOffset i) =
      some (bitField (littleEndian bytes) bitOffset (i + remaining)) := by
  induction remaining generalizing i byteIndex bitIndex with
  | zero => rfl
  | succ remaining ih =>
      have reached : (bitOffset + i) / 8 ≤ last := by omega
      obtain ⟨byte, found⟩ : ∃ byte, bytes[(bitOffset + i) / 8]? = some byte :=
        ⟨_, List.getElem?_eq_getElem (by omega)⟩
      have bit := littleEndian_bit found (Nat.mod_lt (bitOffset + i) (by decide : 0 < 8))
      rw [Nat.div_add_mod] at bit
      simp only [readBitsLELoopWithin, place.wrapped, holds _ reached, found, bit, bitField_push]
      rw [ih (i + 1) _ _ (AtBit.next (bitOffset + i)) (by omega), Nat.add_right_comm, Nat.add_assoc]

def memoryUpTo (bytes : List UInt8) (last : Nat) : Nat → Option UInt8 :=
  fun index => if index ≤ last then bytes[index]? else none

theorem readBitsLEWithin_eq {bytes : List UInt8} {bitOffset bitLength : Nat}
    (inside : bitOffset + bitLength ≤ 8 * bytes.length) :
    readBitsLEWithin (memoryUpTo bytes ((bitOffset + bitLength - 1) / 8)) bitOffset bitLength =
      some (bitField (littleEndian bytes) bitOffset bitLength) := by
  cases bitLength with
  | zero => simp [readBitsLEWithin, readBitsLELoopWithin, bitField_width_zero]
  | succ length =>
      have start : AtBit (bitOffset / 8) (bitOffset % 8) (bitOffset + 0) := by
        constructor <;> omega
      have holds : ∀ index ≤ (bitOffset + (length + 1) - 1) / 8,
          memoryUpTo bytes ((bitOffset + (length + 1) - 1) / 8) index = bytes[index]? :=
        fun _ reached => if_pos reached
      have loop := readBitsLELoopWithin_eq holds (by omega) (length + 1) 0 _ _ start (by omega)
      rw [bitField_width_zero, Nat.zero_add] at loop
      exact loop

theorem readBitsLE_write {bytes : List UInt8} {bitOffset bitLength : Nat}
    (inside : bitOffset + bitLength ≤ 8 * bytes.length) (behind : Buffer) :
    readBitsLE (behind.write bytes) bitOffset bitLength =
      bitField (littleEndian bytes) bitOffset bitLength := by
  refine readBitsLELoop_of_within ?_ _ _ _ _ _ (readBitsLEWithin_eq inside)
  intro index byte found
  unfold memoryUpTo at found
  split at found
  · rw [Buffer.write, found, Option.getD_some]
  · simp at found

theorem readBitsLE_lt (buffer : Buffer) (bitOffset bitLength : Nat) :
    readBitsLE buffer bitOffset bitLength < 2 ^ bitLength := by
  have inside : bitOffset + bitLength ≤
      8 * ((List.range (bitOffset + bitLength)).map buffer).length := by
    rw [List.length_map, List.length_range]
    omega
  have read := readBitsLE_write inside buffer
  rw [Buffer.write_map_range] at read
  rw [read]
  exact bitField_lt _ _ _

/-- The two halves of a stick field are its 24 bits. -/
theorem stick_halves (first second third : UInt8) (behind : Buffer) :
    readBitsLE (behind.write [first, second, third]) 0 12 +
        2 ^ 12 * readBitsLE (behind.write [first, second, third]) 12 12 =
      littleEndian [first, second, third] := by
  have lowInside : 0 + 12 ≤ 8 * [first, second, third].length := by simp
  have highInside : 12 + 12 ≤ 8 * [first, second, third].length := by simp
  have joined := bitField_join (littleEndian [first, second, third]) 0 12 12
  rw [readBitsLE_write lowInside behind, readBitsLE_write highInside behind]
  exact joined.trans (bitField_whole (littleEndian_lt [first, second, third]))

/-- A read is the field of the number that the bytes stand for, and none of it comes from behind
the last byte of the field. -/
theorem readBitsLE_eq (bytes : List UInt8) (bitOffset bitLength : Nat) (narrow : bitLength ≤ 32)
    (inside : bitOffset + bitLength ≤ 8 * bytes.length) (behind : Buffer) :
    readBitsLE (behind.write bytes) bitOffset bitLength =
        littleEndian bytes / 2 ^ bitOffset % 2 ^ bitLength ∧
      readBitsLE (behind.write bytes) bitOffset bitLength < 2 ^ 32 ∧
      readBitsLEWithin (memoryUpTo bytes ((bitOffset + bitLength - 1) / 8)) bitOffset bitLength =
        some (readBitsLE (behind.write bytes) bitOffset bitLength) ∧
      ∀ first second third : UInt8,
        let stick := behind.write [first, second, third]
        readBitsLE stick 0 12 < 2 ^ 12 ∧ readBitsLE stick 12 12 < 2 ^ 12 ∧
          readBitsLE stick 0 12 + 2 ^ 12 * readBitsLE stick 12 12 =
            littleEndian [first, second, third] := by
  have read := readBitsLE_write inside behind
  constructor
  · exact read
  constructor
  · have fits : 2 ^ bitLength ≤ 2 ^ 32 := Nat.pow_le_pow_right (by omega) narrow
    exact (readBitsLE_lt _ bitOffset bitLength).trans_le fits
  constructor
  · rw [read]
    exact readBitsLEWithin_eq inside
  · intro first second third
    exact ⟨readBitsLE_lt _ 0 12, readBitsLE_lt _ 12 12, stick_halves first second third behind⟩

/-- An unaligned field over two bytes of a field of three, with other memory behind it. -/
theorem readBitsLE_eq_upper_half :
    let bytes : List UInt8 := [0xC6, 0xB1, 0x72]
    let buffer := Buffer.write (fun _ => 0xFF) bytes
    readBitsLE buffer 12 12 = littleEndian bytes / 2 ^ 12 % 2 ^ 12 ∧
      readBitsLE buffer 12 12 = 1835 ∧
      readBitsLEWithin (memoryUpTo bytes 2) 12 12 = some 1835 := by
  have read := readBitsLE_eq [0xC6, 0xB1, 0x72] 12 12 (by decide) (by decide) fun _ => 0xFF
  have value : readBitsLE (Buffer.write (fun _ => 0xFF) [0xC6, 0xB1, 0x72]) 12 12 = 1835 := by
    decide
  refine ⟨read.1, value, ?_⟩
  rw [← value]
  exact read.2.2.1

end BaseController

end SysCon
