import SysCon.ControllerLib.ControllerConfig
import Mathlib.Algebra.Group.Int.Defs
import Mathlib.Algebra.Group.Nat.Defs

/-!
What the configuration code uses of the C library, on strings without their
terminator: character classes, `strtok_r`, `strtol` and `atoi` (with a `long` of
64 and an `int` of 32 bits).
-/

namespace SysCon.CLibrary

def isspace (c : Char) : Bool :=
  c = ' ' || c = '\t' || c = '\n' || c = '\x0b' || c = '\x0c' || c = '\r'

theorem ne_of_isAlphanum {c special : Char} (plain : c.isAlphanum = true)
    (other : special.isAlphanum = false) : c ≠ special := by
  rintro rfl
  rw [plain] at other
  exact Bool.noConfusion other

theorem isspace_of_isAlphanum {c : Char} (plain : c.isAlphanum = true) : isspace c = false := by
  simp only [isspace, Bool.or_eq_false_iff, decide_eq_false_iff_not]
  refine ⟨⟨⟨⟨⟨?_, ?_⟩, ?_⟩, ?_⟩, ?_⟩, ?_⟩ <;> exact ne_of_isAlphanum plain (by decide)

def tolower (c : Char) : Char := c.toLower

/-- The tokens of repeated calls of `strtok_r` with one separator. -/
def strtok (separator : Char) (str : CString) : List CString :=
  (str.splitOn separator).filter fun token => !token.isEmpty

theorem separator_not_mem_splitOn (separator : Char) (str : CString) :
    ∀ part ∈ str.splitOn separator, separator ∉ part := by
  induction str with
  | nil => simp
  | cons c rest ih =>
      rw [List.splitOn_cons_eq_if_modifyHead]
      split
      · intro part member
        rcases List.mem_cons.mp member with rfl | later
        · simp
        · exact ih part later
      · rename_i other
        cases parts : rest.splitOn separator with
        | nil => exact absurd parts (List.splitOn_ne_nil _ _)
        | cons head tail =>
            rw [parts] at ih
            intro part member
            rw [List.modifyHead_cons] at member
            rcases List.mem_cons.mp member with rfl | later
            · rw [List.mem_cons, not_or]
              refine ⟨?_, ih head List.mem_cons_self⟩
              intro same
              exact other (by simp [same])
            · exact ih part (List.mem_cons_of_mem _ later)

def LONG_MAX : Int := 2 ^ 63 - 1
def LONG_MIN : Int := -2 ^ 63

def digitValue (c : Char) : Nat :=
  if c.isDigit then c.toNat - '0'.toNat
  else if 'a' ≤ c ∧ c ≤ 'z' then c.toNat - 'a'.toNat + 10
  else if 'A' ≤ c ∧ c ≤ 'Z' then c.toNat - 'A'.toNat + 10
  else 36

def isDigitOf (base : Nat) (c : Char) : Bool := digitValue c < base

-- `0x` counts as a prefix only in front of a digit.
def skipHexPrefix : CString → CString
  | '0' :: x :: digit :: rest =>
      if (x = 'x' ∨ x = 'X') ∧ isDigitOf 16 digit then digit :: rest else '0' :: x :: digit :: rest
  | str => str

def magnitude (base : Nat) (digits : CString) : Nat :=
  digits.foldl (fun value c => value * base + digitValue c) 0

def signOf : CString → Bool × CString
  | '-' :: rest => (true, rest)
  | '+' :: rest => (false, rest)
  | str => (false, str)

def strtol (base : Nat) (str : CString) : Int :=
  let (negative, str) := signOf (str.dropWhile isspace)
  let str := if base = 16 then skipHexPrefix str else str
  let value : Int := magnitude base (str.takeWhile (isDigitOf base))
  if negative then max (-value) LONG_MIN else min value LONG_MAX

def atoi (str : CString) : Int := (strtol 10 str).bmod (2 ^ 32)

def toUInt8 (value : Int) : UInt8 := UInt8.ofInt value
def toUInt16 (value : Int) : UInt16 := UInt16.ofInt value
def toUInt32 (value : Int) : UInt32 := UInt32.ofInt value

example : atoi "  -12abc".toList = -12 := by decide

end SysCon.CLibrary
