import SysCon.Sysmodule.ConfigLayers
import SysCon.Sysmodule.IniErrors

/-!
A bad line in the configuration file. The parser reports it and keeps parsing;
the loading stops behind the pass that reports it, and its caller goes on with
the configuration that this pass left.
-/

namespace SysCon.ConfigHandler

open Library
open Ini (Entry Fits Malformed entries fileLines firstError joinLines)

/-! Which settings two lists of entries leave. -/

/-- For each setting the value that is stored last is the same, and the simulated buttons that find
a slot are. -/
structure SameOutcome (first second : List Entry) : Prop where
  settings : ∀ key, (lastWrite (storedEntry key) first).getD (current {} key) =
    (lastWrite (storedEntry key) second).getD (current {} key)
  analogUsed : (lastWrite usesAnalog first).getD false = (lastWrite usesAnalog second).getD false
  combos : (definedCombos first).take MAX_CONTROLLER_COMBO =
    (definedCombos second).take MAX_CONTROLLER_COMBO

theorem SameOutcome.refl (entries : List Entry) : SameOutcome entries entries :=
  ⟨fun _ => rfl, rfl, rfl⟩

theorem filledSlots_eq_of_take {first second : List ControllerComboConfig}
    (same : first.take MAX_CONTROLLER_COMBO = second.take MAX_CONTROLLER_COMBO) :
    filledSlots first = filledSlots second := by
  have lengths := congrArg List.length same
  rw [List.length_take, List.length_take] at lengths
  unfold filledSlots
  rw [same, show MAX_CONTROLLER_COMBO - first.length = MAX_CONTROLLER_COMBO - second.length by
    omega]

/-- Two configurations are compared by what their entries store, so that a condition on a file
needs no load of it. -/
theorem foldl_applyEntry_eq_iff (first second : List Entry) :
    first.foldl applyEntry {} = second.foldl applyEntry {} ↔ SameOutcome first second := by
  constructor
  · intro same
    refine ⟨fun key => ?_, ?_, ?_⟩
    · have value := congrArg (fun config => current config key) same
      exact ((overwrites_entry key).foldl_eq_iff {} first second).mp value
    · have value := congrArg (fun config => config.buttonsAnalogUsed) same
      exact (overwrites_usesAnalog.foldl_eq_iff {} first second).mp value
    · have used := congrArg usedCombos same
      rwa [usedCombos_foldl, usedCombos_foldl] at used
  · intro outcome
    apply eq_of_sameSettings
    · refine ⟨fun key => ?_, ?_⟩
      · exact ((overwrites_entry key).foldl_eq_iff {} first second).mpr (outcome.settings key)
      · exact (overwrites_usesAnalog.foldl_eq_iff {} first second).mpr outcome.analogUsed
    · apply Vector.toList_inj.mp
      rw [fresh_simulateCombos, fresh_simulateCombos, filledSlots_eq_of_take outcome.combos]

/-- What the later entries store is there already: a setting that they write has the value that they
write, and no simulated button of theirs finds a slot. -/
structure StoresNothingNew (earlier later : List Entry) : Prop where
  settings : ∀ key stored, lastWrite (storedEntry key) later = some stored →
    stored = (lastWrite (storedEntry key) earlier).getD (current {} key)
  analogUsed : ∀ used, lastWrite usesAnalog later = some used →
    used = (lastWrite usesAnalog earlier).getD false
  combos : definedCombos later = [] ∨ MAX_CONTROLLER_COMBO ≤ (definedCombos earlier).length

theorem take_definedCombos_append_iff (earlier later : List Entry) :
    (definedCombos earlier).take MAX_CONTROLLER_COMBO =
        (definedCombos (earlier ++ later)).take MAX_CONTROLLER_COMBO ↔
      definedCombos later = [] ∨ MAX_CONTROLLER_COMBO ≤ (definedCombos earlier).length := by
  unfold definedCombos
  rw [List.filterMap_append, List.take_append, List.self_eq_append_right, List.take_eq_nil_iff,
    Nat.sub_eq_zero_iff_le, or_comm]

theorem sameOutcome_append_iff (earlier later : List Entry) :
    SameOutcome earlier (earlier ++ later) ↔ StoresNothingNew earlier later := by
  constructor
  · intro same
    exact ⟨fun key => lastWrite_append_getD_iff.mp (same.settings key),
      lastWrite_append_getD_iff.mp same.analogUsed,
      (take_definedCombos_append_iff earlier later).mp same.combos⟩
  · intro nothing
    exact ⟨fun key => lastWrite_append_getD_iff.mpr (nothing.settings key),
      lastWrite_append_getD_iff.mpr nothing.analogUsed,
      (take_definedCombos_append_iff earlier later).mpr nothing.combos⟩

section BadLine

variable (answers : AppendAnswers) (vidPid : ControllerVidPid) (defaultProfile : CString)

def fileOf (lines : List CString) (rest : CString) : CString := joinLines lines ++ rest

/-- What the passes behind `[default]` apply. -/
def entriesBehind (text : CString) : List Entry :=
  controllerEntries vidPid text ++
    profilePasses vidPid text (defaultEntries text ++ controllerEntries vidPid text)

theorem passEntries_eq (text : CString) :
    passEntries vidPid text = defaultEntries text ++ entriesBehind vidPid text :=
  List.append_assoc _ _ _

def entriesDespite (lines : List CString) (bad rest : CString) : List Entry :=
  if ∃ line ∈ lines, ¬Fits line then passEntries vidPid (fileOf lines rest)
  else if Fits bad then defaultEntries (fileOf lines rest)
  else passEntries vidPid (fileOf lines [])

theorem entries_congr {first second : CString} (same : fileLines first = fileLines second) :
    entries first = entries second := by
  rw [Ini.entries_eq, Ini.entries_eq, same]

theorem firstError_congr {first second : CString} (same : fileLines first = fileLines second) :
    firstError first = firstError second := by
  rw [Ini.firstError_eq, Ini.firstError_eq, same]

theorem defaultEntries_congr {first second : CString} (same : entries first = entries second) :
    defaultEntries first = defaultEntries second := by
  unfold defaultEntries sectionEntries
  rw [same]

theorem passEntries_congr {first second : CString} (same : entries first = entries second) :
    passEntries vidPid first = passEntries vidPid second := by
  unfold passEntries profilePasses profileEntries defaultEntries controllerEntries sectionEntries
  rw [same]

variable {lines : List CString} {bad rest : CString}

theorem whole_concat (whole : ∀ line ∈ lines, '\n' ∉ line) (malformed : Malformed bad) :
    ∀ line ∈ lines ++ [bad], '\n' ∉ line := by
  intro line member
  rcases List.mem_append.mp member with early | last
  · exact whole line early
  · rw [List.mem_singleton.mp last]
    exact malformed.oneLine

theorem fileLines_unreached (bad rest : CString) (whole : ∀ line ∈ lines, '\n' ∉ line)
    (overlong : ∃ line ∈ lines, ¬Fits line) :
    fileLines (fileOf (lines ++ [bad]) rest) = fileLines (fileOf lines rest) := by
  have text : fileOf (lines ++ [bad]) rest = joinLines lines ++ (bad ++ '\n' :: rest) := by
    simp [fileOf, joinLines]
  rw [text]
  exact Ini.fileLines_overlong whole overlong _ _

/-- The bad line is too long for the reader, which takes it for the end of the file. -/
theorem fileLines_cut (rest : CString) (whole : ∀ line ∈ lines, '\n' ∉ line)
    (fit : ∀ line ∈ lines, Fits line) (malformed : Malformed bad) (overlong : ¬Fits bad) :
    fileLines (fileOf (lines ++ [bad]) rest) = fileLines (fileOf lines []) := by
  have text : fileOf (lines ++ [bad]) rest = joinLines lines ++ (bad ++ '\n' :: rest) := by
    simp [fileOf, joinLines]
  have ends : fileLines (bad ++ '\n' :: rest) = [] := by
    rw [Ini.fileLines_append malformed.oneLine]
    exact if_neg overlong
  rw [text, fileOf, Ini.fileLines_joinLines whole fit, Ini.fileLines_joinLines whole fit, ends]
  rfl

theorem firstError_cut (whole : ∀ line ∈ lines, '\n' ∉ line) (fit : ∀ line ∈ lines, Fits line)
    (clean : firstError (fileOf lines rest) = 0) : firstError (fileOf lines []) = 0 := by
  rw [fileOf, Ini.firstError_eq, Ini.fileLines_joinLines whole fit] at clean ⊢
  have read := Ini.recordLines_error_of_append clean
  have nothing : fileLines [] = [] := rfl
  rw [nothing, List.append_nil]
  exact read

theorem parse_badLine (rest : CString) (begun : lines ≠ [])
    (whole : ∀ line ∈ lines, '\n' ∉ line) (malformed : Malformed bad)
    (fit : ∀ line ∈ lines, Fits line) (fits : Fits bad) :
    entries (fileOf (lines ++ [bad]) rest) = entries (fileOf lines rest) ∧
      firstError (fileOf (lines ++ [bad]) rest) ≠ 0 := by
  have allFit : ∀ line ∈ lines ++ [bad], Fits line := by
    intro line member
    rcases List.mem_append.mp member with early | last
    · exact fit line early
    · rw [List.mem_singleton.mp last]
      exact fits
  have parsed := Ini.recordLines_malformed begun malformed (fileLines rest)
  rw [Ini.entries_eq, Ini.entries_eq, Ini.firstError_eq, fileOf, fileOf,
    Ini.fileLines_joinLines (whole_concat whole malformed) allFit,
    Ini.fileLines_joinLines whole fit, List.append_assoc]
  exact parsed

theorem appliedEntries_badLine (begun : lines ≠ []) (whole : ∀ line ∈ lines, '\n' ∉ line)
    (malformed : Malformed bad) (clean : firstError (fileOf lines rest) = 0) :
    appliedEntries answers vidPid false defaultProfile (some (fileOf (lines ++ [bad]) rest)) =
      entriesDespite vidPid lines bad rest := by
  unfold entriesDespite
  by_cases overlong : ∃ line ∈ lines, ¬Fits line
  · have same := fileLines_unreached bad rest whole overlong
    rw [if_pos overlong, appliedEntries_clean _ _ _ _ ((firstError_congr same).trans clean)]
    exact passEntries_congr vidPid (entries_congr same)
  · have fit : ∀ line ∈ lines, Fits line := by
      intro line member
      by_contra tooLong
      exact overlong ⟨line, member, tooLong⟩
    rw [if_neg overlong]
    by_cases fits : Fits bad
    · obtain ⟨same, broken⟩ := parse_badLine rest begun whole malformed fit fits
      rw [if_pos fits, appliedEntries_broken _ _ _ _ broken]
      exact defaultEntries_congr same
    · have same := fileLines_cut rest whole fit malformed fits
      have cleanCut := firstError_cut whole fit clean
      rw [if_neg fits, appliedEntries_clean _ _ _ _ ((firstError_congr same).trans cleanCut)]
      exact passEntries_congr vidPid (entries_congr same)

/-- When the bad line does no harm: it is not reached; or it is read, and the passes that it takes
away store nothing new; or it ends the file for the reader, and the lines before it are enough. -/
def Harmless (lines : List CString) (bad rest : CString) : Prop :=
  (∃ line ∈ lines, ¬Fits line) ∨
    (Fits bad ∧ StoresNothingNew (defaultEntries (fileOf lines rest))
      (entriesBehind vidPid (fileOf lines rest))) ∨
    (¬Fits bad ∧
      SameOutcome (passEntries vidPid (fileOf lines [])) (passEntries vidPid (fileOf lines rest)))

theorem sameOutcome_entriesDespite_iff :
    SameOutcome (entriesDespite vidPid lines bad rest) (passEntries vidPid (fileOf lines rest)) ↔
      Harmless vidPid lines bad rest := by
  unfold entriesDespite Harmless
  by_cases overlong : ∃ line ∈ lines, ¬Fits line
  · rw [if_pos overlong]
    exact iff_of_true (SameOutcome.refl _) (Or.inl overlong)
  · rw [if_neg overlong, or_iff_right overlong]
    by_cases fits : Fits bad
    · rw [if_pos fits, passEntries_eq, sameOutcome_append_iff]
      simp [fits]
    · rw [if_neg fits]
      simp [fits]

theorem loadControllerConfig_badLine_iff (begun : lines ≠ [])
    (whole : ∀ line ∈ lines, '\n' ∉ line) (malformed : Malformed bad)
    (clean : firstError (fileOf lines rest) = 0) :
    (loadControllerConfig answers (some (fileOf (lines ++ [bad]) rest)) vidPid false
          defaultProfile {}).2 =
        (loadControllerConfig answers (some (fileOf lines rest)) vidPid false
          defaultProfile {}).2 ↔
      Harmless vidPid lines bad rest := by
  rw [loadControllerConfig_config, loadControllerConfig_config,
    appliedEntries_badLine answers vidPid defaultProfile begun whole malformed clean,
    appliedEntries_clean answers vidPid defaultProfile _ clean, foldl_applyEntry_eq_iff]
  exact sameOutcome_entriesDespite_iff vidPid

end BadLine

def oops : CString := "oops".toList

theorem oops_malformed : Malformed oops :=
  ⟨by decide, by decide, by decide, 'o', "ops".toList, by decide⟩

def defaultLines : List CString := ["[default]".toList, "a=1".toList]

/-- A bad line does no harm where only `[default]` has settings for the controller. -/
theorem otherPad_badLine :
    (loadControllerConfig {} (some (fileOf (defaultLines ++ [oops]) "[045e-028e]\na=2\n".toList))
        ⟨0x057e, 0x2009⟩ false [] {}).2 =
      (loadControllerConfig {} (some (fileOf defaultLines "[045e-028e]\na=2\n".toList))
        ⟨0x057e, 0x2009⟩ false [] {}).2 := by
  refine (loadControllerConfig_badLine_iff {} ⟨0x057e, 0x2009⟩ [] (by decide) (by decide)
    oops_malformed (by decide)).mpr ?_
  refine Or.inr (Or.inl ⟨by decide, ?_⟩)
  have nothing : entriesBehind ⟨0x057e, 0x2009⟩
      (fileOf defaultLines "[045e-028e]\na=2\n".toList) = [] := by decide
  rw [nothing]
  exact ⟨fun _ _ stored => by simp at stored, fun _ stored => by simp at stored, Or.inl rfl⟩

theorem ownPad_not_badLine :
    ¬∀ (answers : AppendAnswers) (vidPid : ControllerVidPid) (defaultProfile : CString)
      (lines : List CString) (bad rest : CString), lines ≠ [] → (∀ line ∈ lines, '\n' ∉ line) →
      Malformed bad → firstError (fileOf lines rest) = 0 →
      (loadControllerConfig answers (some (fileOf (lines ++ [bad]) rest)) vidPid false
          defaultProfile {}).2 =
        (loadControllerConfig answers (some (fileOf lines rest)) vidPid false
          defaultProfile {}).2 := by
  intro always
  have same := always {} ⟨0x057e, 0x2009⟩ [] defaultLines oops "[057e-2009]\na=2\n".toList
    (by decide) (by decide) oops_malformed (by decide)
  have pins := congrArg (fun config => config.buttonsPin .a) same
  revert pins
  decide

end SysCon.ConfigHandler
