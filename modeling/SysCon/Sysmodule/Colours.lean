import SysCon.ControllerLib.BitExtraction
import SysCon.ControllerSwitch.SwitchHDLHandler
import SysCon.Sysmodule.ConfigHandler
import SysCon.Sysmodule.Numerals

/-!
The two ways to a colour, the text of the configuration and the braces of the
defaults, and the word that `SwitchHDLHandler::Initialize` makes of it. Both end in
one word, but with its bytes in opposite orders.
-/

namespace SysCon

open Library CLibrary

namespace RGBAColor

def r (color : RGBAColor) : UInt8 := color.rgbaValue.toUInt8
def g (color : RGBAColor) : UInt8 := (color.rgbaValue >>> 8).toUInt8
def b (color : RGBAColor) : UInt8 := (color.rgbaValue >>> 16).toUInt8
def a (color : RGBAColor) : UInt8 := (color.rgbaValue >>> 24).toUInt8

theorem eq_of_toNat {first second : RGBAColor}
    (same : first.rgbaValue.toNat = second.rgbaValue.toNat) : first = second :=
  congrArg RGBAColor.mk (UInt32.toNat_inj.mp same)

theorem toNat_shifted (byte : UInt8) {shift : UInt32} (fits : shift.toNat ≤ 24) :
    (byte.toUInt32 <<< shift).toNat = byte.toNat <<< shift.toNat := by
  have small : byte.toNat < 2 ^ 8 := byte.toNat_lt
  have power : 2 ^ shift.toNat ≤ 2 ^ 24 := Nat.pow_le_pow_right (by omega) fits
  have bound : byte.toNat * 2 ^ shift.toNat < 2 ^ 32 :=
    calc byte.toNat * 2 ^ shift.toNat
      _ ≤ byte.toNat * 2 ^ 24 := Nat.mul_le_mul_left _ power
      _ < 2 ^ 32 := by omega
  rw [UInt32.toNat_shiftLeft, UInt8.toNat_toUInt32, Nat.mod_eq_of_lt (by omega : shift.toNat < 32),
    Nat.shiftLeft_eq, Nat.mod_eq_of_lt bound]

/-- The bytes of the word are the components, the first one lowest. -/
theorem toNat_ofComponents (r g b a : UInt8) :
    (ofComponents r g b a).rgbaValue.toNat = littleEndian [r, g, b, a] := by
  have rSmall : r.toNat < 2 ^ 8 := r.toNat_lt
  have gSmall := g.toNat_lt
  have bSmall := b.toNat_lt
  have aSmall := a.toNat_lt
  have green : (g.toUInt32 <<< 8).toNat = g.toNat <<< 8 := toNat_shifted g (by decide)
  have blue : (b.toUInt32 <<< 16).toNat = b.toNat <<< 16 := toNat_shifted b (by decide)
  have alpha : (a.toUInt32 <<< 24).toNat = a.toNat <<< 24 := toNat_shifted a (by decide)
  rw [ofComponents, UInt32.toNat_or, UInt32.toNat_or, UInt32.toNat_or, green, blue, alpha,
    UInt8.toNat_toUInt32, or_shiftLeft_of_lt rSmall,
    or_shiftLeft_of_lt (by omega : r.toNat + 2 ^ 8 * g.toNat < 2 ^ 16),
    or_shiftLeft_of_lt (by omega : r.toNat + 2 ^ 8 * g.toNat + 2 ^ 16 * b.toNat < 2 ^ 24)]
  simp only [littleEndian, List.map_cons, List.map_nil, Nat.ofDigits_cons, Nat.ofDigits_nil]
  omega

theorem littleEndian_four (r g b a : UInt8) :
    littleEndian [r, g, b, a] =
      r.toNat + 2 ^ 8 * (g.toNat + 2 ^ 8 * (b.toNat + 2 ^ 8 * a.toNat)) := by
  simp [littleEndian, Nat.ofDigits_cons]

theorem components_ofComponents (r g b a : UInt8) :
    (ofComponents r g b a).r = r ∧ (ofComponents r g b a).g = g ∧
      (ofComponents r g b a).b = b ∧ (ofComponents r g b a).a = a := by
  have word := toNat_ofComponents r g b a
  rw [littleEndian_four] at word
  have rSmall := r.toNat_lt
  have gSmall := g.toNat_lt
  have bSmall := b.toNat_lt
  have aSmall := a.toNat_lt
  refine ⟨?_, ?_, ?_, ?_⟩
  · apply UInt8.toNat_inj.mp
    rw [RGBAColor.r, UInt32.toNat_toUInt8, word]
    omega
  · apply UInt8.toNat_inj.mp
    rw [RGBAColor.g, UInt32.toNat_toUInt8, UInt32.toNat_shiftRight, word, Nat.shiftRight_eq_div_pow]
    change _ / 2 ^ 8 % 2 ^ 8 = _
    omega
  · apply UInt8.toNat_inj.mp
    rw [RGBAColor.b, UInt32.toNat_toUInt8, UInt32.toNat_shiftRight, word, Nat.shiftRight_eq_div_pow]
    change _ / 2 ^ 16 % 2 ^ 8 = _
    omega
  · apply UInt8.toNat_inj.mp
    rw [RGBAColor.a, UInt32.toNat_toUInt8, UInt32.toNat_shiftRight, word, Nat.shiftRight_eq_div_pow]
    change _ / 2 ^ 24 % 2 ^ 8 = _
    omega

theorem ofComponents_inj {r g b a r' g' b' a' : UInt8} :
    ofComponents r g b a = ofComponents r' g' b' a' ↔ r = r' ∧ g = g' ∧ b = b' ∧ a = a' := by
  constructor
  · intro same
    have words := congrArg (fun color => color.rgbaValue.toNat) same
    simp only [toNat_ofComponents] at words
    have bytes := littleEndian_inj (by simp) words
    simpa using bytes
  · rintro ⟨rfl, rfl, rfl, rfl⟩
    rfl

end RGBAColor

/-- `__builtin_bswap32`: the bytes of the word the other way round. -/
def bswap32 (word : UInt32) : UInt32 :=
  let color : RGBAColor := ⟨word⟩
  (RGBAColor.ofComponents color.a color.b color.g color.r).rgbaValue

theorem bswap32_ofComponents (r g b a : UInt8) :
    bswap32 (RGBAColor.ofComponents r g b a).rgbaValue =
      (RGBAColor.ofComponents a b g r).rgbaValue := by
  obtain ⟨red, green, blue, alpha⟩ := RGBAColor.components_ofComponents r g b a
  simp only [bswap32, red, green, blue, alpha]

/-- The colours of a `HiddbgHdlsDeviceInfo`. -/
structure DeviceColors where
  singleColorBody : UInt32
  singleColorButtons : UInt32
  colorLeftGrip : UInt32
  colorRightGrip : UInt32
  deriving DecidableEq, Repr

/-- What `Initialize` hands to HDL. -/
def SwitchHDLHandler.deviceColors (config : ControllerConfig) : DeviceColors where
  singleColorBody := bswap32 config.bodyColor.rgbaValue
  singleColorButtons := bswap32 config.buttonsColor.rgbaValue
  colorLeftGrip := bswap32 config.leftGripColor.rgbaValue
  colorRightGrip := bswap32 config.rightGripColor.rgbaValue

/-- A colour has these components, is the one built from them, and is handed to HDL as that one. -/
structure SameColour (color : RGBAColor) (r g b a : UInt8) : Prop where
  components : color.r = r ∧ color.g = g ∧ color.b = b ∧ color.a = a
  built : color = .ofComponents r g b a
  handed : bswap32 color.rgbaValue = bswap32 (RGBAColor.ofComponents r g b a).rgbaValue

theorem sameColour_iff {color : RGBAColor} {r g b a : UInt8} :
    SameColour color r g b a ↔ color = .ofComponents r g b a := by
  constructor
  · exact fun same => same.built
  · rintro rfl
    exact ⟨RGBAColor.components_ofComponents r g b a, rfl, rfl⟩

/-- A colour and the same bytes from the other end. -/
theorem sameColour_reversed_iff {r g b a : UInt8} :
    SameColour (.ofComponents a b g r) r g b a ↔ r = a ∧ g = b := by
  rw [sameColour_iff, RGBAColor.ofComponents_inj]
  constructor
  · rintro ⟨rfl, rfl, _, _⟩
    exact ⟨rfl, rfl⟩
  · rintro ⟨rfl, rfl⟩
    exact ⟨rfl, rfl, rfl, rfl⟩

namespace ConfigHandler

/-! The digits of a colour. -/

/-- Two hexadecimal digits for each byte, in either case. -/
inductive Spells : List UInt8 → CString → Prop
  | nil : Spells [] []
  | cons {byte rest high low text} : digitValue high = byte.toNat / 16 →
      digitValue low = byte.toNat % 16 → Spells rest text →
      Spells (byte :: rest) (high :: low :: text)

namespace Spells

theorem length {bytes : List UInt8} {text : CString} (spelled : Spells bytes text) :
    text.length = 2 * bytes.length := by
  induction spelled with
  | nil => rfl
  | cons _ _ _ ih =>
      simp only [List.length_cons, ih]
      omega

theorem digits {bytes : List UInt8} {text : CString} (spelled : Spells bytes text) :
    ∀ c ∈ text, isDigitOf 16 c = true := by
  induction spelled with
  | nil => simp
  | @cons byte _ _ _ _ high low _ ih =>
      have small := byte.toNat_lt
      simp only [List.forall_mem_cons, isDigitOf, decide_eq_true_eq]
      refine ⟨by omega, by omega, ?_⟩
      intro c member
      exact of_decide_eq_true (ih c member)

theorem magnitude {bytes : List UInt8} {text : CString} (spelled : Spells bytes text) :
    CLibrary.magnitude 16 text = littleEndian bytes.reverse := by
  induction spelled with
  | nil => rfl
  | @cons byte rest high low text highDigit lowDigit spelled ih =>
      have byteValue : CLibrary.magnitude 16 [high, low] = byte.toNat := by
        simp only [CLibrary.magnitude, List.foldl_cons, List.foldl_nil, highDigit, lowDigit]
        omega
      have power : 16 ^ text.length = 2 ^ (8 * rest.length) := by
        rw [spelled.length, show 16 = 2 ^ 4 by rfl, ← pow_mul]
        congr 1
        omega
      have single : littleEndian [byte] = byte.toNat := by simp [littleEndian]
      have split : high :: low :: text = [high, low] ++ text := rfl
      rw [split, magnitude_append, byteValue, power, ih, List.reverse_cons, littleEndian_append,
        List.length_reverse, single]
      ring

theorem strtol {bytes : List UInt8} {text : CString} (spelled : Spells bytes text)
    (short : bytes.length ≤ 4) : CLibrary.strtol 16 text = (littleEndian bytes.reverse : Nat) := by
  have bound := littleEndian_lt bytes.reverse
  have power : 2 ^ (8 * bytes.reverse.length) ≤ 2 ^ 32 := by
    rw [List.length_reverse]
    exact Nat.pow_le_pow_right (by omega) (by omega)
  rw [← spelled.magnitude] at bound ⊢
  exact strtol_digits_of_lt (by decide) spelled.digits (by omega)

end Spells

/-! What the parser makes of a text. -/

section Parsed

variable {r g b a : UInt8} {eight six : CString}

theorem hexStringColorToRGBA_eight (spelled : Spells [r, g, b, a] eight) :
    hexStringColorToRGBA ('#' :: eight) = .ofComponents a b g r := by
  have length : eight.length = 8 := spelled.length
  have value := spelled.strtol (by simp)
  have small := littleEndian_lt [r, g, b, a].reverse
  rw [hexStringColorToRGBA]
  simp only [List.head?_cons, if_true, List.tail_cons, length, value]
  apply RGBAColor.eq_of_toNat
  rw [RGBAColor.toNat_ofComponents]
  exact toNat_toUInt32 small

theorem hexStringColorToRGBA_six (spelled : Spells [r, g, b] six) :
    hexStringColorToRGBA ('#' :: six) = .ofComponents 255 b g r := by
  have length : six.length = 6 := spelled.length
  have value := spelled.strtol (by simp)
  have small : littleEndian [b, g, r] < 2 ^ 24 := littleEndian_lt [b, g, r]
  have word : (toUInt32 (littleEndian [b, g, r])).toNat = littleEndian [b, g, r] :=
    toNat_toUInt32 (by omega)
  have shifted :
      (toUInt32 (littleEndian [b, g, r]) <<< 8).toNat = littleEndian [b, g, r] <<< 8 := by
    rw [UInt32.toNat_shiftLeft, word]
    change _ <<< 8 % 2 ^ 32 = _
    rw [Nat.mod_eq_of_lt]
    rw [Nat.shiftLeft_eq]
    omega
  have added : littleEndian (255 :: [b, g, r]) = 255 + 2 ^ 8 * littleEndian [b, g, r] :=
    Nat.ofDigits_cons ..
  rw [hexStringColorToRGBA]
  simp only [List.head?_cons, if_true, List.tail_cons, length, value]
  apply RGBAColor.eq_of_toNat
  change (toUInt32 (littleEndian [b, g, r]) <<< 8 ||| 0xFF).toNat = _
  rw [UInt32.toNat_or, shifted, RGBAColor.toNat_ofComponents, added, Nat.or_comm]
  exact or_shiftLeft_of_lt (by decide) _

/-- HDL is handed a parsed colour with red in the lowest byte. -/
theorem handed_parsed (spelled : Spells [r, g, b, a] eight) :
    bswap32 (hexStringColorToRGBA ('#' :: eight)).rgbaValue =
      (RGBAColor.ofComponents r g b a).rgbaValue := by
  rw [hexStringColorToRGBA_eight spelled, bswap32_ofComponents]

/-- The text and the braces mean the same colour only where its bytes read the same from both
ends. -/
theorem colour_paths_agree_iff (spelledEight : Spells [r, g, b, a] eight)
    (spelledSix : Spells [r, g, b] six) :
    (SameColour (hexStringColorToRGBA ('#' :: eight)) r g b a ↔ r = a ∧ g = b) ∧
      (SameColour (hexStringColorToRGBA ('#' :: six)) r g b 255 ↔ r = 255 ∧ g = b) := by
  constructor
  · rw [hexStringColorToRGBA_eight spelledEight]
    exact sameColour_reversed_iff
  · rw [hexStringColorToRGBA_six spelledSix]
    exact sameColour_reversed_iff

end Parsed

theorem colour_paths_agree_grey :
    (SameColour (hexStringColorToRGBA "#ff8080fF".toList) 0xFF 0x80 0x80 0xFF ↔
        (0xFF : UInt8) = 0xFF ∧ (0x80 : UInt8) = 0x80) ∧
      (SameColour (hexStringColorToRGBA "#fF8080".toList) 0xFF 0x80 0x80 255 ↔
        (0xFF : UInt8) = 255 ∧ (0x80 : UInt8) = 0x80) := by
  have red {rest text} (spelled : Spells rest text) : Spells (0x80 :: 0x80 :: rest)
      ('8' :: '0' :: '8' :: '0' :: text) :=
    .cons (by decide) (by decide) (.cons (by decide) (by decide) spelled)
  exact colour_paths_agree_iff
    (.cons (by decide) (by decide) (red (.cons (by decide) (by decide) .nil)))
    (.cons (by decide) (by decide) (red .nil))

/-- The built-in colour, set by its text instead: another colour for the parser's reader and
another word for HDL. -/
theorem default_colour_differs :
    let default : ControllerConfig := {}
    let parsed := hexStringColorToRGBA "#000000ff".toList
    default.bodyColor = .ofComponents 0 0 0 255 ∧ ¬SameColour parsed 0 0 0 255 ∧
      (SwitchHDLHandler.deviceColors default).singleColorBody = 0x000000FF ∧
      (SwitchHDLHandler.deviceColors { default with bodyColor := parsed }).singleColorBody =
        0xFF000000 := by
  refine ⟨rfl, ?_, by decide, by decide⟩
  rw [sameColour_iff]
  decide

end ConfigHandler

end SysCon
