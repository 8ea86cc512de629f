import SysCon.Sysmodule.ConfigPasses
import Mathlib.Data.Finset.Card
import Mathlib.Data.Finset.Dedup

/-!
The order of the sections: `[default]` is overridden by the profile and the
profile by the section of the controller. Loading applies the last one twice.
For settings that makes no difference; simulated buttons take a slot each time.
-/

namespace SysCon.ConfigHandler

open Library
open Ini (Entry firstError)

section Layers

variable (answers : AppendAnswers) (vidPid : ControllerVidPid) (defaultProfile text : CString)

/-- The profile that `[default]` and the section of the controller leave in force. -/
def fileProfile : CString :=
  profileInForce (defaultEntries text ++ controllerEntries vidPid text)

/-- Each section once, in the documented order. -/
def layeredEntries : List Entry :=
  defaultEntries text ++ profileEntries text (fileProfile vidPid text) ++
    controllerEntries vidPid text

/-- The sections as the passes apply them. -/
def passEntries : List Entry :=
  defaultEntries text ++ controllerEntries vidPid text ++
    profilePasses vidPid text (defaultEntries text ++ controllerEntries vidPid text)

theorem appliedEntries_clean (clean : firstError text = 0) :
    appliedEntries answers vidPid false defaultProfile (some text) = passEntries vidPid text := by
  simp only [appliedEntries, laterEntries, clean, Bool.and_false]
  rfl

theorem appliedEntries_broken (broken : firstError text ≠ 0) :
    appliedEntries answers vidPid false defaultProfile (some text) = defaultEntries text := by
  simp only [appliedEntries, if_pos broken]

/-- A register cannot tell the passes from one application of each section. -/
theorem register_passEntries {value : Type} {get : ControllerConfig → value}
    {write : Entry → Option value} (register : Overwrites applyEntry get write) :
    get ((passEntries vidPid text).foldl applyEntry {}) =
      get ((layeredEntries vidPid text).foldl applyEntry {}) := by
  unfold passEntries layeredEntries profilePasses fileProfile
  generalize profileInForce (defaultEntries text ++ controllerEntries vidPid text) = profile
  by_cases unset : profile = []
  · rw [if_pos unset, profileEntries, if_pos unset, List.append_nil, List.append_nil]
  · have after (rest : List Entry) : (defaultEntries text ++ rest).foldl applyEntry {} =
        rest.foldl applyEntry ((defaultEntries text).foldl applyEntry {}) := List.foldl_append
    rw [if_neg unset, List.append_assoc, List.append_assoc, after, after, ← List.append_assoc]
    exact register.foldl_repeated _ _ _

theorem loadControllerConfig_layered (clean : firstError text = 0) :
    let layered := (layeredEntries vidPid text).foldl applyEntry {}
    { (loadControllerConfig answers (some text) vidPid false defaultProfile {}).2 with
      simulateCombos := layered.simulateCombos } = layered := by
  intro layered
  rw [loadControllerConfig_config, appliedEntries_clean answers vidPid defaultProfile text clean]
  have same : SameSettings ((passEntries vidPid text).foldl applyEntry {}) layered :=
    ⟨fun key => register_passEntries vidPid text (overwrites_entry key),
      register_passEntries vidPid text overwrites_usesAnalog⟩
  apply eq_of_sameSettings
  · refine ⟨fun key => ?_, same.2⟩
    rw [← same.1 key]
    cases key with
    | color field => cases field <;> rfl
    | _ => rfl
  · rfl

/-! Simulated buttons. -/

def usedCombos (config : ControllerConfig) : List ControllerComboConfig :=
  config.simulateCombos.toList.filter fun combo => combo.buttonSimulated ≠ .none

/-- The hotkeys that an entry defines for a button. -/
def hotkeysFor (button : ControllerButton) (entry : Entry) :
    Option (ControllerButton × ControllerButton) :=
  (definedCombo entry).bind fun combo =>
    if combo.buttonSimulated = button then some combo.buttons else none

/-- The last definition of the controller's section, else of the profile, else of `[default]`. -/
def effectiveHotkeys (button : ControllerButton) : Option (ControllerButton × ControllerButton) :=
  (lastWrite (hotkeysFor button) (controllerEntries vidPid text)).or
    ((lastWrite (hotkeysFor button) (profileEntries text (fileProfile vidPid text))).or
      (lastWrite (hotkeysFor button) (defaultEntries text)))

def simulatedButtons (entries : List Entry) : Finset ControllerButton :=
  ((definedCombos entries).map ControllerComboConfig.buttonSimulated).toFinset

structure LayeredCombos (config : ControllerConfig) : Prop where
  unique : ∀ button, ((usedCombos config).filter
    fun combo => combo.buttonSimulated = button).length ≤ 1
  effective : ∀ combo ∈ usedCombos config,
    effectiveHotkeys vidPid text combo.buttonSimulated = some combo.buttons
  complete : (simulatedButtons (layeredEntries vidPid text)).card ≤ MAX_CONTROLLER_COMBO →
    ∀ button, (effectiveHotkeys vidPid text button).isSome →
      ∃ combo ∈ usedCombos config, combo.buttonSimulated = button

/-- The definitions in the order of the passes do not meet in the slots: the first sixteen are for
different buttons, and where there are more, those sixteen are the ones in force. -/
structure SeparateCombos : Prop where
  different : (((definedCombos (passEntries vidPid text)).take MAX_CONTROLLER_COMBO).map
    ControllerComboConfig.buttonSimulated).Nodup
  inForce : MAX_CONTROLLER_COMBO < (definedCombos (passEntries vidPid text)).length →
    ∀ combo ∈ (definedCombos (passEntries vidPid text)).take MAX_CONTROLLER_COMBO,
      effectiveHotkeys vidPid text combo.buttonSimulated = some combo.buttons

theorem filter_filledSlots {combos : List ControllerComboConfig}
    (simulate : ∀ combo ∈ combos, combo.buttonSimulated ≠ .none) :
    (filledSlots combos).filter (fun combo => combo.buttonSimulated ≠ .none) =
      combos.take MAX_CONTROLLER_COMBO := by
  unfold filledSlots
  rw [List.filter_append, List.filter_eq_self.mpr, List.filter_eq_nil_iff.mpr, List.append_nil]
  · intro combo member
    rw [List.eq_of_mem_replicate member]
    simp
  · intro combo member
    simpa using simulate combo (List.mem_of_mem_take member)

theorem usedCombos_foldl (entries : List Entry) :
    usedCombos (entries.foldl applyEntry {}) =
      (definedCombos entries).take MAX_CONTROLLER_COMBO := by
  rw [usedCombos, fresh_simulateCombos]
  exact filter_filledSlots fun _ => definedCombos_simulate

theorem mem_passEntries {entry : Entry} :
    entry ∈ passEntries vidPid text ↔ entry ∈ layeredEntries vidPid text := by
  unfold passEntries layeredEntries profilePasses fileProfile
  generalize profileInForce (defaultEntries text ++ controllerEntries vidPid text) = profile
  by_cases unset : profile = []
  · simp [unset, profileEntries]
  · rw [if_neg unset]
    simp only [List.mem_append]
    tauto

theorem effectiveHotkeys_eq (button : ControllerButton) :
    effectiveHotkeys vidPid text button =
      lastWrite (hotkeysFor button) (layeredEntries vidPid text) := by
  rw [layeredEntries, lastWrite_append, lastWrite_append]
  rfl

theorem hotkeysFor_eq_some {button : ControllerButton} {entry : Entry}
    {hotkeys : ControllerButton × ControllerButton} :
    hotkeysFor button entry = some hotkeys ↔ definedCombo entry = some ⟨button, hotkeys⟩ := by
  unfold hotkeysFor
  cases definedCombo entry with
  | none => simp
  | some combo =>
      obtain ⟨simulated, keys⟩ := combo
      simp only [Option.bind_some, Option.ite_none_right_eq_some, Option.some.injEq,
        ControllerComboConfig.mk.injEq]

theorem mem_of_effectiveHotkeys {button : ControllerButton}
    {hotkeys : ControllerButton × ControllerButton}
    (effective : effectiveHotkeys vidPid text button = some hotkeys) :
    ⟨button, hotkeys⟩ ∈ definedCombos (passEntries vidPid text) := by
  rw [effectiveHotkeys_eq] at effective
  obtain ⟨entry, member, defines⟩ := lastWrite_mem effective
  exact List.mem_filterMap.mpr
    ⟨entry, (mem_passEntries vidPid text).mpr member, hotkeysFor_eq_some.mp defines⟩

theorem effectiveHotkeys_isSome {combo : ControllerComboConfig}
    (member : combo ∈ definedCombos (passEntries vidPid text)) :
    ∃ hotkeys, effectiveHotkeys vidPid text combo.buttonSimulated = some hotkeys := by
  obtain ⟨entry, present, defined⟩ := List.mem_filterMap.mp member
  rw [effectiveHotkeys_eq]
  cases found : lastWrite (hotkeysFor combo.buttonSimulated) (layeredEntries vidPid text) with
  | some hotkeys => exact ⟨hotkeys, rfl⟩
  | none =>
      have silent := lastWrite_eq_none.mp found entry ((mem_passEntries vidPid text).mp present)
      have defines : hotkeysFor combo.buttonSimulated entry = some combo.buttons :=
        hotkeysFor_eq_some.mpr defined
      rw [defines] at silent
      simp at silent

theorem nodup_buttons_iff (combos : List ControllerComboConfig) :
    (combos.map ControllerComboConfig.buttonSimulated).Nodup ↔
      ∀ button, (combos.filter fun combo => combo.buttonSimulated = button).length ≤ 1 := by
  rw [List.nodup_iff_count_le_one]
  apply forall_congr'
  intro button
  rw [List.count, List.countP_map, List.countP_eq_length_filter]
  rfl

theorem eq_of_nodup_buttons {combos : List ControllerComboConfig}
    (different : (combos.map ControllerComboConfig.buttonSimulated).Nodup)
    {first second : ControllerComboConfig} (firstIn : first ∈ combos) (secondIn : second ∈ combos)
    (same : first.buttonSimulated = second.buttonSimulated) : first = second :=
  List.inj_on_of_nodup_map different firstIn secondIn same

theorem simulatedButtons_passEntries :
    simulatedButtons (passEntries vidPid text) = simulatedButtons (layeredEntries vidPid text) := by
  ext button
  simp only [simulatedButtons, definedCombos, List.mem_toFinset, List.mem_map, List.mem_filterMap,
    mem_passEntries]

theorem mem_firstButtons
    (different : (((definedCombos (passEntries vidPid text)).take MAX_CONTROLLER_COMBO).map
      ControllerComboConfig.buttonSimulated).Nodup)
    (few : (simulatedButtons (layeredEntries vidPid text)).card ≤ MAX_CONTROLLER_COMBO)
    {combo : ControllerComboConfig} (member : combo ∈ definedCombos (passEntries vidPid text)) :
    combo.buttonSimulated ∈ ((definedCombos (passEntries vidPid text)).take
      MAX_CONTROLLER_COMBO).map ControllerComboConfig.buttonSimulated := by
  rw [← simulatedButtons_passEntries] at few
  unfold simulatedButtons at few
  generalize definedCombos (passEntries vidPid text) = combos at different few member ⊢
  by_cases all : combos.length ≤ MAX_CONTROLLER_COMBO
  · rw [List.take_of_length_le all]
    exact List.mem_map_of_mem member
  · have sixteen : (((combos.take MAX_CONTROLLER_COMBO).map
        ControllerComboConfig.buttonSimulated).toFinset).card = MAX_CONTROLLER_COMBO := by
      rw [List.toFinset_card_of_nodup different, List.length_map, List.length_take]
      omega
    have part : ((combos.take MAX_CONTROLLER_COMBO).map
          ControllerComboConfig.buttonSimulated).toFinset ⊆
        (combos.map ControllerComboConfig.buttonSimulated).toFinset := by
      intro button
      simp only [List.mem_toFinset, List.mem_map]
      rintro ⟨first, taken, simulates⟩
      exact ⟨first, List.mem_of_mem_take taken, simulates⟩
    have whole := Finset.eq_of_subset_of_card_le part (by rw [sixteen]; exact few)
    rw [← List.mem_toFinset, whole, List.mem_toFinset]
    exact List.mem_map_of_mem member

theorem layeredCombos_iff_separateCombos (clean : firstError text = 0) :
    LayeredCombos vidPid text
        (loadControllerConfig answers (some text) vidPid false defaultProfile {}).2 ↔
      SeparateCombos vidPid text := by
  rw [loadControllerConfig_config, appliedEntries_clean answers vidPid defaultProfile text clean]
  have used := usedCombos_foldl (passEntries vidPid text)
  constructor
  · intro layered
    refine ⟨?_, ?_⟩
    · rw [nodup_buttons_iff, ← used]
      exact layered.unique
    · intro _ combo member
      rw [← used] at member
      exact layered.effective combo member
  · intro separate
    refine ⟨?_, ?_, ?_⟩
    · rw [used]
      exact (nodup_buttons_iff _).mp separate.different
    · rw [used]
      intro combo taken
      by_cases many : MAX_CONTROLLER_COMBO < (definedCombos (passEntries vidPid text)).length
      · exact separate.inForce many combo taken
      · have different := separate.different
        rw [List.take_of_length_le (Nat.not_lt.mp many)] at different taken
        obtain ⟨hotkeys, effective⟩ := effectiveHotkeys_isSome vidPid text taken
        have same := eq_of_nodup_buttons different
          (mem_of_effectiveHotkeys vidPid text effective) taken rfl
        rw [effective, ← same]
    · rw [used]
      intro few button defined
      obtain ⟨hotkeys, effective⟩ := Option.isSome_iff_exists.mp defined
      exact List.mem_map.mp (mem_firstButtons vidPid text separate.different few
        (mem_of_effectiveHotkeys vidPid text effective))

end Layers

def padFile : CString := "[default]\nprofile=pad\nb=1\n[057e-2009]\nb=3,-x\n[pad]\nb=2\n".toList

theorem padFile_layered :
    { (loadControllerConfig {} (some padFile) ⟨0x057e, 0x2009⟩ false [] {}).2 with
      simulateCombos :=
        ((layeredEntries ⟨0x057e, 0x2009⟩ padFile).foldl applyEntry {}).simulateCombos } =
      (layeredEntries ⟨0x057e, 0x2009⟩ padFile).foldl applyEntry {} :=
  loadControllerConfig_layered {} ⟨0x057e, 0x2009⟩ [] padFile (by decide)

def homeOnce : CString := "[default]
simulate_home=l+r
".toList

theorem homeOnce_layeredCombos :
    LayeredCombos ⟨0, 0⟩ homeOnce
      (loadControllerConfig {} (some homeOnce) ⟨0, 0⟩ false [] {}).2 :=
  (layeredCombos_iff_separateCombos {} ⟨0, 0⟩ [] homeOnce (by decide)).mpr
    ⟨by decide, fun many => absurd many (by decide)⟩

def homeTwice : CString :=
  "[default]\nsimulate_home=l+r\n[057e-2009]\nsimulate_home=minus+plus\n".toList

theorem homeTwice_not_layeredCombos :
    ¬∀ (answers : AppendAnswers) (vidPid : ControllerVidPid) (defaultProfile text : CString),
      firstError text = 0 → LayeredCombos vidPid text
        (loadControllerConfig answers (some text) vidPid false defaultProfile {}).2 := by
  intro always
  have unique := (always {} ⟨0x057e, 0x2009⟩ [] homeTwice (by decide)).unique .home
  revert unique
  decide

end SysCon.ConfigHandler
