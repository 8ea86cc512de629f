import SysCon.Sysmodule.ConfigLayers
import SysCon.ControllerLib.Mapping
import Mathlib.Tactic.IntervalCases

/-!
The raw button pins of a loaded configuration. A pin is checked as an `int`
against `MAX_CONTROLLER_BUTTONS` and then stored in a byte, so a number that
`atoi` makes negative passes the check and can leave any byte behind.
-/

namespace SysCon.ConfigHandler

open Library CLibrary
open Ini (Entry)

/-- The numbers of a binding that pass the check of `parseBinding`. -/
def acceptedPins (tokens : List CString) : List Int :=
  ((tokens.filter isNumber).map atoi).filter fun pin => pin < MAX_CONTROLLER_BUTTONS

def bindingPins (value : CString) : List Int := acceptedPins (strtok ',' value)

/-- Each of the numbers that are stored is a pin also as a byte. -/
def SafePins (value : CString) : Prop :=
  ∀ pin ∈ (bindingPins value).take MAX_PIN_BY_BUTTONS, (toUInt8 pin).toNat < MAX_CONTROLLER_BUTTONS

def IsPin (tok : CString) : Prop := isNumber tok = true ∧ atoi tok < MAX_CONTROLLER_BUTTONS

theorem acceptedPins_cons_of_isPin {tok : CString} (accepted : IsPin tok) (rest : List CString) :
    acceptedPins (tok :: rest) = atoi tok :: acceptedPins rest := by
  unfold acceptedPins
  rw [List.filter_cons_of_pos accepted.1, List.map_cons,
    List.filter_cons_of_pos (by simpa only [decide_eq_true_eq] using accepted.2)]

theorem acceptedPins_cons_of_not {tok : CString} (other : ¬IsPin tok) (rest : List CString) :
    acceptedPins (tok :: rest) = acceptedPins rest := by
  unfold acceptedPins
  by_cases number : isNumber tok = true
  · have large : ¬atoi tok < MAX_CONTROLLER_BUTTONS := fun small => other ⟨number, small⟩
    rw [List.filter_cons_of_pos number, List.map_cons,
      List.filter_cons_of_neg (by simpa only [decide_eq_true_eq] using large)]
  · rw [List.filter_cons_of_neg number]

theorem addToken_of_room {binding : Binding} {tok : CString} (accepted : IsPin tok)
    (room : binding.buttonPinIdx < MAX_PIN_BY_BUTTONS) :
    binding.addToken tok = { binding with
      buttonPin := binding.buttonPin.set binding.buttonPinIdx (toUInt8 (atoi tok))
      buttonPinIdx := binding.buttonPinIdx + 1 } := by
  rw [Binding.addToken, if_pos accepted.1, dif_pos room]
  exact if_pos accepted.2

theorem addToken_pins {binding : Binding} {tok : CString}
    (ignored : ¬(IsPin tok ∧ binding.buttonPinIdx < MAX_PIN_BY_BUTTONS)) :
    (binding.addToken tok).buttonPin = binding.buttonPin ∧
      (binding.addToken tok).buttonPinIdx = binding.buttonPinIdx := by
  by_cases number : isNumber tok = true
  · rw [Binding.addToken, if_pos number]
    by_cases room : binding.buttonPinIdx < MAX_PIN_BY_BUTTONS
    · have large : ¬atoi tok < MAX_CONTROLLER_BUTTONS :=
        fun small => ignored ⟨⟨number, small⟩, room⟩
      rw [dif_pos room, if_neg large]
      exact ⟨rfl, rfl⟩
    · rw [dif_neg room]
      exact ⟨rfl, rfl⟩
  · rw [Binding.addToken, if_neg number]
    exact ⟨rfl, rfl⟩

theorem foldl_addToken_buttonPin (tokens : List CString) (binding : Binding) {index : Nat}
    (bound : index < MAX_PIN_BY_BUTTONS) (started : binding.buttonPinIdx ≤ MAX_PIN_BY_BUTTONS) :
    (tokens.foldl Binding.addToken binding).buttonPin[index] =
      if index < binding.buttonPinIdx then binding.buttonPin[index]
      else (((acceptedPins tokens)[index - binding.buttonPinIdx]?).map toUInt8).getD
        binding.buttonPin[index] := by
  induction tokens generalizing binding with
  | nil => simp [acceptedPins]
  | cons tok rest ih =>
      rw [List.foldl_cons]
      by_cases stored : IsPin tok ∧ binding.buttonPinIdx < MAX_PIN_BY_BUTTONS
      · obtain ⟨accepted, room⟩ := stored
        rw [addToken_of_room accepted room, ih _ (Nat.succ_le_of_lt room),
          acceptedPins_cons_of_isPin accepted]
        by_cases here : index = binding.buttonPinIdx
        · subst here
          simp
        · have other : binding.buttonPinIdx ≠ index := fun same => here same.symm
          by_cases before : index < binding.buttonPinIdx
          · simp [before, Nat.lt_succ_of_lt before, other]
          · have later : ¬index < binding.buttonPinIdx + 1 := by omega
            obtain ⟨offset, offsetIs⟩ : ∃ offset, index - binding.buttonPinIdx = offset + 1 :=
              ⟨index - binding.buttonPinIdx - 1, by omega⟩
            have shorter : index - (binding.buttonPinIdx + 1) = offset := by omega
            simp [before, later, offsetIs, shorter, other]
      · obtain ⟨samePins, sameIdx⟩ := addToken_pins stored
        rw [ih (binding.addToken tok) (by rw [sameIdx]; exact started)]
        simp only [samePins, sameIdx]
        by_cases accepted : IsPin tok
        · have before : index < binding.buttonPinIdx := by
            have full : ¬binding.buttonPinIdx < MAX_PIN_BY_BUTTONS :=
              fun room => stored ⟨accepted, room⟩
            omega
          rw [if_pos before, if_pos before]
        · rw [acceptedPins_cons_of_not accepted]

theorem noPins_getElem {index : Nat} (bound : index < MAX_PIN_BY_BUTTONS) :
    noPins[index] = 0 := by
  have two : index < 2 := bound
  interval_cases index <;> rfl

theorem parseBinding_buttonPin (value : CString) {index : Nat}
    (bound : index < MAX_PIN_BY_BUTTONS) :
    (parseBinding value).buttonPin[index] =
      (((bindingPins value)[index]?).map toUInt8).getD 0 := by
  have filled := foldl_addToken_buttonPin (strtok ',' value) {} bound (Nat.zero_le _)
  rw [parseBinding, bindingPins]
  simpa only [Nat.not_lt_zero, if_false, Nat.sub_zero, noPins_getElem bound] using filled

theorem safePins_iff (value : CString) :
    SafePins value ↔ ∀ index (bound : index < MAX_PIN_BY_BUTTONS),
      (parseBinding value).buttonPin[index].toNat < MAX_CONTROLLER_BUTTONS := by
  constructor
  · intro safe index bound
    rw [parseBinding_buttonPin value bound]
    cases present : (bindingPins value)[index]? with
    | none => exact Nat.succ_pos _
    | some pin =>
        obtain ⟨listed, pinIs⟩ := List.getElem?_eq_some_iff.mp present
        exact safe pin (List.mem_take_iff_getElem.mpr ⟨index, by omega, pinIs⟩)
  · intro small pin taken
    obtain ⟨index, bound, pinIs⟩ := List.mem_take_iff_getElem.mp taken
    have inside : index < MAX_PIN_BY_BUTTONS := by omega
    have stored := small index inside
    rw [parseBinding_buttonPin value inside, List.getElem?_eq_getElem (by omega), pinIs] at stored
    exact stored

/-! The register of a button's pins. -/

def bindingValue (button : ControllerButton) (entry : Entry) : Option CString :=
  if button ≠ .none ∧ stringToButton (convertToLowercase entry.name) = button then some entry.value
  else none

theorem entrySetting_binding {entry : Entry}
    (named : stringToButton (convertToLowercase entry.name) ≠ .none) :
    entrySetting entry = .binding (stringToButton (convertToLowercase entry.name))
      (parseBinding entry.value).buttonPin (parseBinding entry.value).analogCfg := by
  rw [entrySetting, settingOf, if_pos named]

theorem otherSetting_ne_binding (name value : CString) (button : ControllerButton)
    (pins : Vector UInt8 MAX_PIN_BY_BUTTONS) (analog : ControllerAnalogConfig) :
    otherSetting name value ≠ .binding button pins analog := by
  unfold otherSetting
  cases deadzoneNames.lookup name <;> cases factorNames.lookup name <;>
    cases colorNames.lookup name <;> simp

theorem settingOf_ne_binding {name : CString} (unnamed : stringToButton name = .none)
    (value : CString) (button : ControllerButton) (pins : Vector UInt8 MAX_PIN_BY_BUTTONS)
    (analog : ControllerAnalogConfig) : settingOf name value ≠ .binding button pins analog := by
  unfold settingOf simulateSetting
  rw [if_neg (not_not.mpr unnamed)]
  split_ifs <;> first | exact otherSetting_ne_binding name value button pins analog | simp

theorem applySetting_buttonsPin {setting : Setting}
    (other : ∀ button pins analog, setting ≠ .binding button pins analog)
    (config : ControllerConfig) : (applySetting config setting).buttonsPin = config.buttonsPin := by
  cases setting with
  | binding button pins analog => exact absurd rfl (other button pins analog)
  | color field color => cases field <;> rfl
  | _ => rfl

theorem overwrites_buttonsPin (button : ControllerButton) :
    Overwrites applyEntry (fun config => config.buttonsPin button)
      (fun entry =>
        (bindingValue button entry).map fun value => (parseBinding value).buttonPin) := by
  intro config entry
  change (applySetting config (entrySetting entry)).buttonsPin button =
    ((bindingValue button entry).map fun value => (parseBinding value).buttonPin).getD
      (config.buttonsPin button)
  unfold bindingValue
  by_cases named : stringToButton (convertToLowercase entry.name) = .none
  · have kept := applySetting_buttonsPin (settingOf_ne_binding named entry.value) config
    have silent : ¬(button ≠ .none ∧ stringToButton (convertToLowercase entry.name) = button) := by
      rintro ⟨real, own⟩
      exact real (own.symm.trans named)
    rw [if_neg silent]
    exact congrFun kept button
  · rw [entrySetting_binding named]
    by_cases own : stringToButton (convertToLowercase entry.name) = button
    · rw [if_pos ⟨own ▸ named, own⟩, own]
      exact Function.update_self _ _ _
    · rw [if_neg (fun both => own both.2)]
      exact Function.update_of_ne (Ne.symm own) _ _

/-- Every index that the mapping takes from the configuration is inside its array. -/
structure IndexSafe (config : ControllerConfig) : Prop where
  pins : ∀ button index (bound : index < MAX_PIN_BY_BUTTONS),
    (config.buttonsPin button)[index].toNat < MAX_CONTROLLER_BUTTONS
  binds : ∀ button, (config.buttonsAnalog button).bind.toNat < ControllerAnalogBinding.count
  combos : ∀ combo ∈ usedCombos config,
    combo.buttonSimulated.toNat < ControllerButton.count ∧
      combo.buttons.1.toNat < ControllerButton.count ∧
      combo.buttons.2.toNat < ControllerButton.count
  accesses : ∀ rawData normalData,
    (BaseController.mapRawInputToNormalized config rawData normalData).Finishes

theorem indexSafe_of_pins {config : ControllerConfig}
    (pins : ∀ button index (bound : index < MAX_PIN_BY_BUTTONS),
      (config.buttonsPin button)[index].toNat < MAX_CONTROLLER_BUTTONS) : IndexSafe config where
  pins := pins
  binds := fun button => (config.buttonsAnalog button).bind.toNat_lt_count
  combos := fun combo _ =>
    ⟨combo.buttonSimulated.toNat_lt_count, combo.buttons.1.toNat_lt_count,
      combo.buttons.2.toNat_lt_count⟩
  accesses := by
    intro rawData normalData
    apply BaseController.mapRawInputToNormalized_avoids
    intro button index bound outside
    exact absurd (pins button index bound) (Nat.not_lt.mpr outside)

theorem loadControllerConfig_indexSafe_iff (answers : AppendAnswers) (vidPid : ControllerVidPid)
    (autoAddController : Bool) (defaultProfile : CString) (file : Option CString) :
    IndexSafe
        (loadControllerConfig answers file vidPid autoAddController defaultProfile {}).2 ↔
      ∀ button value,
        lastWrite (bindingValue button)
          (appliedEntries answers vidPid autoAddController defaultProfile file) = some value →
        SafePins value := by
  rw [loadControllerConfig_config]
  generalize appliedEntries answers vidPid autoAddController defaultProfile file = applied
  have stored (button : ControllerButton) :
      (applied.foldl applyEntry {}).buttonsPin button =
        ((lastWrite (bindingValue button) applied).map fun value =>
          (parseBinding value).buttonPin).getD noPins := by
    rw [(overwrites_buttonsPin button).foldl, lastWrite_map]
  constructor
  · intro safe button value last
    rw [safePins_iff]
    intro index bound
    have small := safe.pins button index bound
    simp only [stored button, last, Option.map_some, Option.getD_some] at small
    exact small
  · intro safe
    apply indexSafe_of_pins
    intro button index bound
    rcases Option.eq_none_or_eq_some (lastWrite (bindingValue button) applied) with
      last | ⟨value, last⟩
    · simp only [stored button, last, Option.map_none, Option.getD_none, noPins_getElem bound]
      decide
    · simp only [stored button, last, Option.map_some, Option.getD_some]
      exact (safePins_iff value).mp (safe button value last) index bound

theorem overflowingPin_not_indexSafe :
    ¬∀ (answers : AppendAnswers) (vidPid : ControllerVidPid) (autoAddController : Bool)
      (defaultProfile : CString) (file : Option CString),
      IndexSafe
        (loadControllerConfig answers file vidPid autoAddController defaultProfile {}).2 := by
  intro always
  have pins := (always {} ⟨0, 0⟩ false [] (some "[default]\na=4294967295\n".toList)).pins .a 0
    (by decide)
  revert pins
  decide

end SysCon.ConfigHandler
