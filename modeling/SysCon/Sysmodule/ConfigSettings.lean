import SysCon.Library.LastWrite
import SysCon.Sysmodule.ConfigHandler
import SysCon.Sysmodule.IniEntries

/-!
The configuration as a set of registers. Every setting but a simulated button
replaces what its key held, whatever that was; simulated buttons fill the slots
in order until none is free.
-/

namespace SysCon.ConfigHandler

open Library
open Ini (Entry)

inductive SettingKey
  | binding (button : ControllerButton)
  | driver | profile | inputMaxPacketSize | outputMaxPacketSize | controllerType
  | deadzone (axis : ControllerAnalogBinding)
  | factor (axis : ControllerAnalogBinding)
  | color (field : ColorField)
  deriving DecidableEq, Repr

def Setting.key : Setting → Option SettingKey
  | .binding button _ _ => some (.binding button)
  | .driver _ => some .driver
  | .profile _ => some .profile
  | .inputMaxPacketSize _ => some .inputMaxPacketSize
  | .outputMaxPacketSize _ => some .outputMaxPacketSize
  | .controllerType _ => some .controllerType
  | .simulate _ _ => none
  | .deadzone axis _ => some (.deadzone axis)
  | .factor axis _ => some (.factor axis)
  | .color field _ => some (.color field)
  | .unknown => none

def colorOf (config : ControllerConfig) : ColorField → RGBAColor
  | .body => config.bodyColor
  | .buttons => config.buttonsColor
  | .leftGrip => config.leftGripColor
  | .rightGrip => config.rightGripColor

/-- The setting that gives a key the value it has. -/
def current (config : ControllerConfig) : SettingKey → Setting
  | .binding button => .binding button (config.buttonsPin button) (config.buttonsAnalog button)
  | .driver => .driver config.driver
  | .profile => .profile config.profile
  | .inputMaxPacketSize => .inputMaxPacketSize config.inputMaxPacketSize
  | .outputMaxPacketSize => .outputMaxPacketSize config.outputMaxPacketSize
  | .controllerType => .controllerType config.controllerType
  | .deadzone axis => .deadzone axis (config.analogDeadzonePercent axis)
  | .factor axis => .factor axis (config.analogFactorPercent axis)
  | .color field => .color field (colorOf config field)

theorem colorOf_applyColor (config : ControllerConfig) (color : RGBAColor)
    (changed field : ColorField) :
    colorOf (applyColor config color changed) field =
      if changed = field then color else colorOf config field := by
  cases changed <;> cases field <;> rfl

theorem current_applyColor (config : ControllerConfig) (color : RGBAColor) (changed : ColorField)
    (key : SettingKey) :
    current (applyColor config color changed) key =
      if SettingKey.color changed = key then .color changed color else current config key := by
  cases key with
  | color field =>
      simp only [current, colorOf_applyColor, SettingKey.color.injEq]
      by_cases own : changed = field
      · rw [if_pos own, if_pos own, own]
      · rw [if_neg own, if_neg own]
  | _ => cases changed <;> rfl

def storedSetting (key : SettingKey) (setting : Setting) : Option Setting :=
  if setting.key = some key then some setting else none

theorem overwrites_current (key : SettingKey) :
    Overwrites applySetting (fun config => current config key) (storedSetting key) := by
  intro config setting
  cases setting with
  | binding button pins analog =>
      cases key with
      | binding other =>
          by_cases own : button = other
          · subst own
            simp [applySetting, current, storedSetting, Setting.key]
          · simp [applySetting, current, storedSetting, Setting.key, own,
              Function.update_of_ne (Ne.symm own)]
      | _ => rfl
  | deadzone axis percent =>
      cases key with
      | deadzone other =>
          by_cases own : axis = other
          · subst own
            simp [applySetting, current, storedSetting, Setting.key]
          · simp [applySetting, current, storedSetting, Setting.key, own,
              Function.update_of_ne (Ne.symm own)]
      | _ => rfl
  | factor axis percent =>
      cases key with
      | factor other =>
          by_cases own : axis = other
          · subst own
            simp [applySetting, current, storedSetting, Setting.key]
          · simp [applySetting, current, storedSetting, Setting.key, own,
              Function.update_of_ne (Ne.symm own)]
      | _ => rfl
  | color changed color =>
      simp only [applySetting, current_applyColor, storedSetting, Setting.key, Option.some.injEq]
      by_cases own : SettingKey.color changed = key
      · rw [if_pos own, if_pos own]
        rfl
      · rw [if_neg own, if_neg own]
        rfl
  | _ => cases key <;> rfl

def storedAnalogUsed : Setting → Option Bool
  | .binding _ _ _ => some true
  | _ => none

theorem overwrites_analogUsed :
    Overwrites applySetting (fun config => config.buttonsAnalogUsed) storedAnalogUsed := by
  intro config setting
  cases setting with
  | color changed color => cases changed <;> rfl
  | _ => rfl

/-- The parts that one line sets and the next one may replace. -/
def SameSettings (first second : ControllerConfig) : Prop :=
  (∀ key, current first key = current second key) ∧
    first.buttonsAnalogUsed = second.buttonsAnalogUsed

theorem eq_of_sameSettings {first second : ControllerConfig} (same : SameSettings first second)
    (sameCombos : first.simulateCombos = second.simulateCombos) : first = second := by
  obtain ⟨sameKeys, sameUsed⟩ := same
  have driver := sameKeys .driver
  have profile := sameKeys .profile
  have inputSize := sameKeys .inputMaxPacketSize
  have outputSize := sameKeys .outputMaxPacketSize
  have type := sameKeys .controllerType
  have body := sameKeys (.color .body)
  have buttons := sameKeys (.color .buttons)
  have leftGrip := sameKeys (.color .leftGrip)
  have rightGrip := sameKeys (.color .rightGrip)
  have deadzone : first.analogDeadzonePercent = second.analogDeadzonePercent := by
    funext axis
    simpa [current] using sameKeys (.deadzone axis)
  have factor : first.analogFactorPercent = second.analogFactorPercent := by
    funext axis
    simpa [current] using sameKeys (.factor axis)
  have pins : first.buttonsPin = second.buttonsPin := by
    funext button
    have both := sameKeys (.binding button)
    simp only [current, Setting.binding.injEq, true_and] at both
    exact both.1
  have analog : first.buttonsAnalog = second.buttonsAnalog := by
    funext button
    have both := sameKeys (.binding button)
    simp only [current, Setting.binding.injEq, true_and] at both
    exact both.2
  cases first
  cases second
  simp_all [current, colorOf]

/-! Entries of the file as settings, and the simulated buttons they define. -/

def entrySetting (entry : Entry) : Setting :=
  settingOf (convertToLowercase entry.name) entry.value

def applyEntry (config : ControllerConfig) (entry : Entry) : ControllerConfig :=
  applySetting config (entrySetting entry)

def storedEntry (key : SettingKey) (entry : Entry) : Option Setting :=
  storedSetting key (entrySetting entry)

def usesAnalog (entry : Entry) : Option Bool := storedAnalogUsed (entrySetting entry)

theorem overwrites_entry (key : SettingKey) :
    Overwrites applyEntry (fun config => current config key) (storedEntry key) :=
  fun config entry => overwrites_current key config (entrySetting entry)

theorem overwrites_usesAnalog :
    Overwrites applyEntry (fun config => config.buttonsAnalogUsed) usesAnalog :=
  fun config entry => overwrites_analogUsed config (entrySetting entry)

def definedCombo (entry : Entry) : Option ControllerComboConfig :=
  match entrySetting entry with
  | .simulate button value => some ⟨button, parseHotKey value (.none, .none)⟩
  | _ => none

def definedCombos (entries : List Entry) : List ControllerComboConfig :=
  entries.filterMap definedCombo

theorem definedCombo_simulates {entry : Entry} {combo : ControllerComboConfig}
    (defined : definedCombo entry = some combo) : combo.buttonSimulated ≠ .none := by
  unfold definedCombo at defined
  cases setting : entrySetting entry with
  | simulate button value =>
      simp only [setting, Option.some.injEq] at defined
      rw [← defined]
      exact button.property
  | _ => simp [setting] at defined

theorem definedCombos_simulate {entries : List Entry} {combo : ControllerComboConfig}
    (member : combo ∈ definedCombos entries) : combo.buttonSimulated ≠ .none := by
  obtain ⟨entry, _, defined⟩ := List.mem_filterMap.mp member
  exact definedCombo_simulates defined

/-- The slots after some definitions: the first of them, then free slots. -/
def filledSlots (combos : List ControllerComboConfig) : List ControllerComboConfig :=
  combos.take MAX_CONTROLLER_COMBO ++
    List.replicate (MAX_CONTROLLER_COMBO - combos.length) ({} : ControllerComboConfig)

theorem takeFreeSlot_used (button : SimulatedButton) (value : CString)
    {used : List ControllerComboConfig} (simulate : ∀ combo ∈ used, combo.buttonSimulated ≠ .none)
    (free : List ControllerComboConfig) :
    takeFreeSlot button value (used ++ free) = used ++ takeFreeSlot button value free := by
  induction used with
  | nil => rfl
  | cons combo rest ih =>
      have first := simulate combo (by simp)
      have later := ih (fun other member => simulate other (by simp [member]))
      rw [List.cons_append, takeFreeSlot, if_pos first, later, List.cons_append]

theorem takeFreeSlot_filledSlots (button : SimulatedButton) (value : CString)
    {combos : List ControllerComboConfig}
    (simulate : ∀ combo ∈ combos, combo.buttonSimulated ≠ .none) :
    takeFreeSlot button value (filledSlots combos) =
      filledSlots (combos ++ [⟨button, parseHotKey value (.none, .none)⟩]) := by
  have taken : ∀ combo ∈ combos.take MAX_CONTROLLER_COMBO, combo.buttonSimulated ≠ .none :=
    fun combo member => simulate combo (List.mem_of_mem_take member)
  unfold filledSlots
  rw [takeFreeSlot_used button value taken, List.length_append, List.length_singleton]
  by_cases room : combos.length < MAX_CONTROLLER_COMBO
  · obtain ⟨left, leftIs⟩ : ∃ left, MAX_CONTROLLER_COMBO - combos.length = left + 1 :=
      ⟨MAX_CONTROLLER_COMBO - combos.length - 1, by omega⟩
    rw [leftIs, List.replicate_succ, takeFreeSlot, if_neg (by simp),
      List.take_of_length_le (Nat.le_of_lt room),
      List.take_of_length_le (by rw [List.length_append, List.length_singleton]; omega),
      show MAX_CONTROLLER_COMBO - (combos.length + 1) = left by omega, List.append_assoc]
    rfl
  · rw [show MAX_CONTROLLER_COMBO - combos.length = 0 by omega,
      show MAX_CONTROLLER_COMBO - (combos.length + 1) = 0 by omega,
      List.take_append_of_le_length (Nat.not_lt.mp room)]
    rfl

theorem applyEntry_combos (config : ControllerConfig) (entry : Entry) :
    (applyEntry config entry).simulateCombos.toList =
      match entrySetting entry with
      | .simulate button value => takeFreeSlot button value config.simulateCombos.toList
      | _ => config.simulateCombos.toList := by
  unfold applyEntry
  cases entrySetting entry with
  | simulate button value => simp [applySetting, simulateCombo]
  | color field color => cases field <;> rfl
  | _ => rfl

theorem foldl_simulateCombos (earlier later : List Entry) {config : ControllerConfig}
    (slots : config.simulateCombos.toList = filledSlots (definedCombos earlier)) :
    (later.foldl applyEntry config).simulateCombos.toList =
      filledSlots (definedCombos (earlier ++ later)) := by
  induction later generalizing earlier config with
  | nil => simpa using slots
  | cons entry rest ih =>
      rw [List.foldl_cons, show earlier ++ entry :: rest = earlier ++ [entry] ++ rest by simp]
      apply ih
      have grown : definedCombos (earlier ++ [entry]) =
          definedCombos earlier ++ (definedCombo entry).toList := by
        simp only [definedCombos, List.filterMap_append, List.filterMap_cons, List.filterMap_nil]
        cases definedCombo entry <;> rfl
      rw [applyEntry_combos, slots, grown, definedCombo]
      cases setting : entrySetting entry with
      | simulate button value =>
          exact takeFreeSlot_filledSlots button value fun _ => definedCombos_simulate
      | _ => exact congrArg filledSlots (List.append_nil _).symm

theorem fresh_simulateCombos (entries : List Entry) :
    (entries.foldl applyEntry {}).simulateCombos.toList = filledSlots (definedCombos entries) :=
  foldl_simulateCombos [] entries rfl

end SysCon.ConfigHandler
