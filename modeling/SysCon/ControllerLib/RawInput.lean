import SysCon.Library.LastWrite
import SysCon.ControllerLib.ControllerConfig
import Mathlib.Algebra.Order.Field.Rat

/-!
Report buffers, the raw input record and the numeric helpers of
`BaseController` (`BaseController.h`, `BaseController.cpp`). A buffer is the
memory behind a pointer, also past the bytes that were received.
-/

namespace SysCon

open Library

/-- Memory as seen from the start of a buffer. -/
abbrev Buffer := Nat → UInt8

namespace Buffer

def write (buffer : Buffer) (bytes : List UInt8) : Buffer :=
  fun index => bytes[index]?.getD (buffer index)

theorem map_range_write (buffer : Buffer) (bytes : List UInt8) :
    (List.range bytes.length).map (buffer.write bytes) = bytes := by
  refine List.ext_getElem (by simp) ?_
  intro index _ bound
  simp [write, bound]

def shift (buffer : Buffer) (offset : Nat) : Buffer := fun index => buffer (offset + index)

def AgreeOn (size : Nat) (first second : Buffer) : Prop :=
  ∀ index < size, first index = second index

theorem AgreeOn.symm {size : Nat} {first second : Buffer} (agree : AgreeOn size first second) :
    AgreeOn size second first :=
  fun index bound => (agree index bound).symm

def bit (buffer : Buffer) (byte position : Nat) : Bool := (buffer byte).toNat.testBit position

def uint16 (buffer : Buffer) (offset : Nat) : Int :=
  (buffer offset).toNat + 256 * (buffer (offset + 1)).toNat

def int16 (buffer : Buffer) (offset : Nat) : Int := (buffer.uint16 offset).bmod 65536

def uint8 (buffer : Buffer) (offset : Nat) : Int := (buffer offset).toNat

end Buffer

abbrev ButtonId := Fin MAX_CONTROLLER_BUTTONS

instance : NeZero MAX_CONTROLLER_BUTTONS := ⟨Nat.succ_ne_zero 35⟩

def DPAD_UP_BUTTON_ID : ButtonId := 32
def DPAD_DOWN_BUTTON_ID : ButtonId := 33
def DPAD_LEFT_BUTTON_ID : ButtonId := 34
def DPAD_RIGHT_BUTTON_ID : ButtonId := 35

@[ext] structure RawInputData where
  buttons : ButtonId → Bool := fun _ => false
  analog : ControllerAnalogType → ℚ := fun _ => 0

namespace RawInputData

def assign (raw : RawInputData) (buttons : List (ButtonId × Bool))
    (analog : List (ControllerAnalogType × ℚ)) : RawInputData where
  buttons := updates raw.buttons buttons
  analog := updates raw.analog analog

end RawInputData

namespace BaseController

def normalizeAround (value min max center : Int) : ℚ :=
  let ret : ℚ :=
    if value < center then ((value - min : ℚ) / (center - min : Int)) - 1
    else (value - center : ℚ) / (max - center : Int)
  if ret > 1 then 1 else if ret < -1 then -1 else ret

def normalize (value min max : Int) : ℚ := normalizeAround value min max ((max + min).tdiv 2)

def applyDeadzone (deadzonePercent : UInt8) (value : ℚ) : ℚ :=
  let deadzone : ℚ := deadzonePercent.toNat / 100
  if |value| < deadzone then 0
  else
    let scale := 1 / (1 - deadzone)
    if value > 0 then (value - deadzone) * scale else (value + deadzone) * scale

def readBitsLELoop (buffer : Buffer) : (remaining i byteIndex bitIndex result : Nat) → Nat
  | 0, _, _, _, result => result
  | remaining + 1, i, byteIndex, bitIndex, result =>
      let (byteIndex, bitIndex) :=
        if bitIndex > 7 then (byteIndex + 1, 0) else (byteIndex, bitIndex)
      let bit := ((buffer byteIndex).toNat >>> bitIndex) &&& 1
      readBitsLELoop buffer remaining (i + 1) byteIndex (bitIndex + 1) (result ||| (bit <<< i))

def readBitsLE (buffer : Buffer) (bitOffset bitLength : Nat) : Nat :=
  readBitsLELoop buffer bitLength 0 (bitOffset / 8) (bitOffset % 8) 0

end BaseController

end SysCon
