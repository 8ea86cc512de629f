import SysCon.Sysmodule.ConfigSettings

/-!
The passes of `LoadControllerConfig` as one list of entries. A pass applies the
entries of its section in the order of the file; a file with a bad line ends
the loading after the pass that meets it.
-/

namespace SysCon.ConfigHandler

open Library
open Ini (Entry entries firstError)

def sectionEntries (iniSection text : CString) : List Entry :=
  (entries text).filter fun entry => iniSection = convertToLowercase entry.sectionName

theorem foldl_parseControllerConfigLine (entries : List Entry) (data : ConfigINIData) :
    entries.foldl (Ini.Handler.after parseControllerConfigLine) data =
      let own := entries.filter fun entry =>
        data.iniSection = convertToLowercase entry.sectionName
      { data with
        iniSectionFound := data.iniSectionFound || !own.isEmpty
        controllerConfig := own.foldl applyEntry data.controllerConfig } := by
  induction entries generalizing data with
  | nil => simp
  | cons entry rest ih =>
      rw [List.foldl_cons, ih]
      by_cases own : data.iniSection = convertToLowercase entry.sectionName
      · have passed : Ini.Handler.after parseControllerConfigLine data entry =
            { data with
              iniSectionFound := true
              controllerConfig := applyEntry data.controllerConfig entry } := by
          rw [Ini.Handler.after, parseControllerConfigLine, if_neg (not_not.mpr own)]
          rfl
        simp [passed, own]
      · have passed : Ini.Handler.after parseControllerConfigLine data entry = data := by
          rw [Ini.Handler.after, parseControllerConfigLine, if_pos own]
        simp [passed, own]

theorem parseControllerConfigLine_succeeds : Ini.Handler.succeeds parseControllerConfigLine := by
  intro data sectionName name value
  unfold parseControllerConfigLine
  by_cases other : data.iniSection ≠ convertToLowercase sectionName
  · rw [if_pos other]
    exact Int.one_ne_zero
  · rw [if_neg other]
    exact Int.one_ne_zero

theorem readFromConfig_some (text : CString) (data : ConfigINIData) :
    readFromConfig (some text) data =
      ((firstError text : Int),
        { data with
          iniSectionFound :=
            data.iniSectionFound || !(sectionEntries data.iniSection text).isEmpty
          controllerConfig :=
            (sectionEntries data.iniSection text).foldl applyEntry data.controllerConfig }) := by
  simp only [readFromConfig, Ini.iniParseStream_eq parseControllerConfigLine_succeeds,
    foldl_parseControllerConfigLine]
  rfl

def profileValue (entry : Entry) : Option CString :=
  match entrySetting entry with
  | .profile profile => some profile
  | _ => none

def profileInForce (entries : List Entry) : CString := (lastWrite profileValue entries).getD []

theorem overwrites_profile :
    Overwrites applyEntry (fun config => config.profile) profileValue := by
  intro config entry
  unfold applyEntry profileValue
  cases entrySetting entry with
  | color field color => cases field <;> rfl
  | _ => rfl

theorem foldl_profile (entries : List Entry) :
    (entries.foldl applyEntry {}).profile = profileInForce entries :=
  overwrites_profile.foldl {} entries

section Load

variable (answers : AppendAnswers) (vidPid : ControllerVidPid) (autoAddController : Bool)
  (defaultProfile : CString)

def defaultEntries (text : CString) : List Entry :=
  sectionEntries (convertToLowercase "default".toList) text

def controllerEntries (text : CString) : List Entry :=
  sectionEntries (convertToLowercase vidPid.toString) text

/-- The entries of the profile section, none without a profile. -/
def profileEntries (text profile : CString) : List Entry :=
  if profile = [] then [] else sectionEntries (convertToLowercase profile) text

/-- What the last two passes apply; `before` was applied before them. -/
def profilePasses (text : CString) (before : List Entry) : List Entry :=
  if profileInForce before = [] then []
  else profileEntries text (profileInForce before) ++ controllerEntries vidPid text

theorem loadProfile_eq {text : CString} (clean : firstError text = 0) (before : List Entry)
    (found : Bool) :
    loadProfile (some text)
        ⟨convertToLowercase vidPid.toString, before.foldl applyEntry {}, found⟩ =
      (0, (before ++ profilePasses vidPid text before).foldl applyEntry {}) := by
  unfold loadProfile profilePasses profileEntries
  simp only [foldl_profile, List.length_pos_iff]
  by_cases empty : profileInForce before = []
  · simp [empty]
  · simp only [if_neg empty, if_pos empty, readFromConfig_some, clean, ConfigINIData.create]
    simp [controllerEntries]

theorem addControllerToConfig_cases (text sectionName profile : CString) :
    ((addControllerToConfig answers (some text) sectionName profile).1 ≠ 0) ∨
      addControllerToConfig answers (some text) sectionName profile =
        (0, some (text ++ newSection answers sectionName profile)) := by
  unfold addControllerToConfig
  cases answers.fileExists with
  | false => simp
  | true =>
      cases answers.opens with
      | false => simp
      | true =>
          cases answers.written with
          | false => simp
          | true => simp

/-- What is applied after both first passes, over a file without a bad line. -/
def laterEntries (text : CString) (before : List Entry) : List Entry :=
  if (controllerEntries vidPid text).isEmpty && autoAddController then
    let grown := text ++ newSection answers vidPid.toString defaultProfile
    if (addControllerToConfig answers (some text) vidPid.toString defaultProfile).1 ≠ 0 then []
    else if firstError grown ≠ 0 then controllerEntries vidPid grown
    else
      controllerEntries vidPid grown ++
        profilePasses vidPid grown (before ++ controllerEntries vidPid grown)
  else profilePasses vidPid text before

/-- Every entry that a load applies, in the order in which it does. -/
def appliedEntries (file : Option CString) : List Entry :=
  match file with
  | none => []
  | some text =>
      if firstError text ≠ 0 then defaultEntries text
      else
        let before := defaultEntries text ++ controllerEntries vidPid text
        before ++ laterEntries answers vidPid autoAddController defaultProfile text before

theorem autoAdd_loadProfile {text : CString} (clean : firstError text = 0) (before : List Entry)
    (found : Bool) (foundIs : found = !(controllerEntries vidPid text).isEmpty) :
    let added := autoAdd answers (some text) vidPid autoAddController defaultProfile
      ⟨convertToLowercase vidPid.toString, before.foldl applyEntry {}, found⟩
    (if added.1 ≠ 0 then (added.1, added.2.2.controllerConfig)
      else loadProfile added.2.1 added.2.2).2 =
      (before ++ laterEntries answers vidPid autoAddController defaultProfile text before).foldl
        applyEntry {} := by
  intro added
  have addedIs : added = autoAdd answers (some text) vidPid autoAddController defaultProfile
    ⟨convertToLowercase vidPid.toString, before.foldl applyEntry {}, found⟩ := rfl
  unfold autoAdd at addedIs
  unfold laterEntries
  simp only [foundIs, Bool.not_not] at addedIs
  by_cases adds : (controllerEntries vidPid text).isEmpty && autoAddController
  · rw [if_pos adds] at addedIs ⊢
    rcases addControllerToConfig_cases answers text vidPid.toString defaultProfile with
      failed | succeeded
    · rw [if_pos failed] at addedIs ⊢
      rw [addedIs, if_pos failed, List.append_nil]
    · have written : ¬(addControllerToConfig answers (some text) vidPid.toString
          defaultProfile).1 ≠ 0 := by
        rw [succeeded]
        exact not_not.mpr rfl
      rw [if_neg written] at addedIs ⊢
      rw [succeeded, readFromConfig_some, ← List.foldl_append] at addedIs
      by_cases cleanGrown :
          firstError (text ++ newSection answers vidPid.toString defaultProfile) = 0
      · rw [if_neg (not_not.mpr cleanGrown)]
        rw [cleanGrown] at addedIs
        rw [addedIs, if_neg (by simp), ← List.append_assoc]
        exact congrArg Prod.snd (loadProfile_eq vidPid cleanGrown _ _)
      · rw [if_pos cleanGrown]
        rw [addedIs, if_pos (by simpa using cleanGrown)]
        rfl
  · rw [if_neg adds] at addedIs ⊢
    rw [addedIs, if_neg (by simp)]
    exact congrArg Prod.snd (loadProfile_eq vidPid clean _ _)

theorem loadControllerConfig_config (file : Option CString) :
    (loadControllerConfig answers file vidPid autoAddController defaultProfile {}).2 =
      (appliedEntries answers vidPid autoAddController defaultProfile file).foldl
        applyEntry {} := by
  cases file with
  | none => rfl
  | some text =>
      unfold loadControllerConfig appliedEntries
      simp only [readFromConfig_some, ConfigINIData.create]
      by_cases clean : firstError text = 0
      · have succeeded : ¬(firstError text : Int) ≠ 0 := by simp [clean]
        rw [if_neg succeeded, if_neg succeeded, if_neg (not_not.mpr clean), ← List.foldl_append]
        exact autoAdd_loadProfile answers vidPid autoAddController defaultProfile clean
          (defaultEntries text ++ controllerEntries vidPid text) _ rfl
      · have failed : (firstError text : Int) ≠ 0 := by simpa using clean
        rw [if_pos failed, if_pos clean]
        rfl

end Load

end SysCon.ConfigHandler
