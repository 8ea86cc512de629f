import SysCon.Sysmodule.ConfigPasses
import SysCon.Sysmodule.IniReaders
import SysCon.Sysmodule.IniWritten

/-!
`LoadControllerConfig` with the file it leaves: the section of an unknown
controller is appended, the old file stays in front of it, and the next load
finds the section, appends nothing and ends in the same configuration.
-/

namespace SysCon.ConfigHandler

open CLibrary (ne_of_isAlphanum)
open Ini (Entry entries firstError recordEntry recordLines fileLines joinLines Fits Short Word
  ParseState parseLine lastLine wholeLines)

/-- A `tm` as `localtime_r` fills it. The system clock counts nanoseconds in 64 bits, so its year
has four digits. -/
structure TimeInfo where
  year : Fin 10000
  month : Fin 13
  day : Fin 32
  hour : Fin 24
  minute : Fin 60
  second : Fin 61
  fourDigits : 1000 ≤ year.val

def decimal : (width : Nat) → Nat → CString
  | 0, _ => []
  | width + 1, value => decimal width (value / 10) ++ [Nat.digitChar (value % 10)]

/-- `std::put_time` with `%Y-%m-%d %H:%M:%S UTC`. -/
def putTime (timeinfo : TimeInfo) : CString :=
  decimal 4 timeinfo.year ++ '-' :: decimal 2 timeinfo.month ++ '-' :: decimal 2 timeinfo.day ++
    ' ' :: decimal 2 timeinfo.hour ++ ':' :: decimal 2 timeinfo.minute ++
    ':' :: decimal 2 timeinfo.second ++ " UTC".toList

def granted (timeinfo : TimeInfo) : AppendAnswers := { time := putTime timeinfo }

/-- The profiles that `UsbEventThreadFunc` passes. -/
def defaultProfiles : List CString :=
  ["".toList, "xbox360".toList, "xbox360w".toList, "xboxone".toList, "xbox".toList]

structure Loaded where
  rc : Int
  file : Option CString
  config : ControllerConfig

section Load

variable (answers : AppendAnswers) (file : Option CString) (vidPid : ControllerVidPid)
  (autoAddController : Bool) (defaultProfile : CString)

/-- `LoadControllerConfig`, with the file as it is afterwards. -/
def loadAndKeep (config : ControllerConfig) : Loaded :=
  let (rc, cfgDefault) := readFromConfig file (.create "default".toList config)
  if rc ≠ 0 then ⟨rc, file, cfgDefault.controllerConfig⟩
  else
    let (rc, cfgController) :=
      readFromConfig file (.create vidPid.toString cfgDefault.controllerConfig)
    if rc ≠ 0 then ⟨rc, file, cfgController.controllerConfig⟩
    else
      let (rc, file, cfgController) :=
        autoAdd answers file vidPid autoAddController defaultProfile cfgController
      if rc ≠ 0 then ⟨rc, file, cfgController.controllerConfig⟩
      else
        let (rc, config) := loadProfile file cfgController
        ⟨rc, file, config⟩

theorem loadAndKeep_config (config : ControllerConfig) :
    ((loadAndKeep answers file vidPid autoAddController defaultProfile config).rc,
      (loadAndKeep answers file vidPid autoAddController defaultProfile config).config) =
      loadControllerConfig answers file vidPid autoAddController defaultProfile config := by
  unfold loadAndKeep loadControllerConfig
  simp only
  split
  · rfl
  · split
    · rfl
    · split <;> rfl

end Load

/-! The appended section, line by line. -/

def addedPairs (profile : CString) : List (CString × CString) :=
  if profile ≠ [] then [("profile".toList, profile)]
  else
    [("b".toList, "1".toList), ("a".toList, "2".toList), ("x".toList, "3".toList),
     ("y".toList, "4".toList), ("l".toList, "5".toList), ("r".toList, "6".toList),
     ("zl".toList, "7".toList), ("zr".toList, "8".toList), ("minus".toList, "9".toList),
     ("plus".toList, "10".toList), ("capture".toList, "11".toList), ("home".toList, "12".toList)]

def pairLine (pair : CString × CString) : CString := pair.1 ++ '=' :: pair.2

def headerLine (sectionName time : CString) : CString :=
  '[' :: (sectionName ++ ']' :: (" ; Automatically added on ".toList ++ time))

def addedLines (answers : AppendAnswers) (sectionName profile : CString) : List CString :=
  [] :: headerLine sectionName answers.time :: (addedPairs profile).map pairLine

def sectionLines (answers : AppendAnswers) (sectionName profile : CString) : List CString :=
  headerLine sectionName answers.time :: (addedPairs profile).map pairLine

theorem addedLines_eq (answers : AppendAnswers) (sectionName profile : CString) :
    addedLines answers sectionName profile = [] :: sectionLines answers sectionName profile := rfl

theorem newSection_eq (answers : AppendAnswers) (sectionName profile : CString) :
    newSection answers sectionName profile =
      joinLines (addedLines answers sectionName profile) := by
  by_cases named : profile = []
  · simp [newSection, addedLines, addedPairs, pairLine, headerLine, joinLines, named]
  · simp [newSection, addedLines, addedPairs, pairLine, headerLine, joinLines, named]

/-! What the characters of the appended header can be. -/

theorem word_decimal (width value : Nat) : Word (decimal width value) := by
  have digits : ∀ digit : Fin 10, (Nat.digitChar digit.val).isAlphanum = true := by decide
  induction width generalizing value with
  | zero => exact fun c member => absurd member List.not_mem_nil
  | succ width ih =>
      intro c member
      rcases List.mem_append.mp member with before | last
      · exact ih _ c before
      · rw [List.mem_singleton.mp last]
        exact digits ⟨value % 10, Nat.mod_lt _ (by omega)⟩

theorem length_decimal (width value : Nat) : (decimal width value).length = width := by
  induction width generalizing value with
  | zero => rfl
  | succ width ih => rw [decimal, List.length_append, ih, List.length_singleton]

theorem word_hexWord (value : UInt16) : Word (hexWord value) := by
  have digits : ∀ digit : Fin 16, (hexDigit digit.val).isAlphanum = true := by decide
  have bound : value.toNat < 65536 := value.toNat_lt
  intro c member
  simp only [hexWord, List.mem_cons, List.not_mem_nil, or_false] at member
  rcases member with rfl | rfl | rfl | rfl
  · exact digits ⟨value.toNat / 4096, by omega⟩
  · exact digits ⟨value.toNat / 256 % 16, by omega⟩
  · exact digits ⟨value.toNat / 16 % 16, by omega⟩
  · exact digits ⟨value.toNat % 16, by omega⟩

theorem mem_toString {vidPid : ControllerVidPid} {c : Char} (member : c ∈ vidPid.toString) :
    c.isAlphanum = true ∨ c = '-' := by
  rcases List.mem_append.mp member with vid | behind
  · exact Or.inl (word_hexWord _ c vid)
  · rcases List.mem_cons.mp behind with dash | pid
    · exact Or.inr dash
    · exact Or.inl (word_hexWord _ c pid)

theorem length_toString (vidPid : ControllerVidPid) : vidPid.toString.length = 9 := rfl

theorem mem_putTime {timeinfo : TimeInfo} {c : Char} (member : c ∈ putTime timeinfo) :
    c.isAlphanum = true ∨ c = '-' ∨ c = ' ' ∨ c = ':' := by
  have words {width value : Nat} (digit : c ∈ decimal width value) : c.isAlphanum = true :=
    word_decimal width value c digit
  have ends : ∀ c ∈ " UTC".toList, c.isAlphanum = true ∨ c = ' ' := by simp
  simp only [putTime, List.mem_append, List.mem_cons] at member
  rcases member with (((((year | rfl | month) | rfl | day) | rfl | hour) | rfl | minute) |
    rfl | second) | zone
  · exact Or.inl (words year)
  · simp
  · exact Or.inl (words month)
  · simp
  · exact Or.inl (words day)
  · simp
  · exact Or.inl (words hour)
  · simp
  · exact Or.inl (words minute)
  · simp
  · exact Or.inl (words second)
  · rcases ends c zone with letter | space
    · exact Or.inl letter
    · simp [space]

theorem length_putTime (timeinfo : TimeInfo) : (putTime timeinfo).length = 23 := by
  simp [putTime, length_decimal]

theorem mem_headerLine {vidPid : ControllerVidPid} {timeinfo : TimeInfo} {c : Char}
    (member : c ∈ headerLine vidPid.toString (putTime timeinfo)) :
    c.isAlphanum = true ∨ c ∈ "[]-;: ".toList := by
  have between : ∀ c ∈ " ; Automatically added on ".toList,
      c.isAlphanum = true ∨ c ∈ "[]-;: ".toList := by simp
  have special : ∀ c ∈ ['[', ']', '-', ' ', ':'], c ∈ "[]-;: ".toList := by simp
  simp only [headerLine, List.mem_cons, List.mem_append] at member
  rcases member with bracket | inSection | bracket | text | time
  · exact Or.inr (special c (by simp [bracket]))
  · rcases mem_toString inSection with plain | dash
    · exact Or.inl plain
    · exact Or.inr (special c (by simp [dash]))
  · exact Or.inr (special c (by simp [bracket]))
  · exact between c text
  · rcases mem_putTime time with plain | dash | space | colon
    · exact Or.inl plain
    · exact Or.inr (special c (by simp [dash]))
    · exact Or.inr (special c (by simp [space]))
    · exact Or.inr (special c (by simp [colon]))

theorem not_mem_headerLine (vidPid : ControllerVidPid) (timeinfo : TimeInfo) {c : Char}
    (plain : c.isAlphanum = false) (other : c ∉ "[]-;: ".toList) :
    c ∉ headerLine vidPid.toString (putTime timeinfo) := by
  intro member
  rcases mem_headerLine member with letter | special
  · exact ne_of_isAlphanum letter plain rfl
  · exact other special

/-! The parser on the appended lines. -/

def entryOf (sectionName : CString) (pair : CString × CString) : Entry :=
  ⟨sectionName, pair.1, pair.2⟩

structure PlainPair (pair : CString × CString) : Prop where
  named : pair.1 ≠ []
  name : Word pair.1
  value : Word pair.2

theorem parseLine_pairLine (state : ParseState (List Entry)) {pair : CString × CString}
    (plain : PlainPair pair) :
    parseLine recordEntry state (pairLine pair) =
      { state with
        lineno := state.lineno + 1
        prevName := pair.1.take (Ini.MAX_NAME - 1)
        data := state.data ++ [entryOf state.sectionName pair] } := by
  rw [Ini.parseLine_eq, pairLine, Ini.readingOf_pair _ _ plain.named plain.name plain.value]
  rfl

theorem foldl_pairLine {pairs : List (CString × CString)}
    (plain : ∀ pair ∈ pairs, PlainPair pair) (state : ParseState (List Entry)) :
    let final := (pairs.map pairLine).foldl (parseLine recordEntry) state
    final.error = state.error ∧
      final.data = state.data ++ pairs.map (entryOf state.sectionName) := by
  induction pairs generalizing state with
  | nil => simp
  | cons pair rest ih =>
      have later := ih (fun other member => plain other (List.mem_cons_of_mem _ member))
        (parseLine recordEntry state (pairLine pair))
      have first := parseLine_pairLine state (plain pair List.mem_cons_self)
      simp only [List.map_cons, List.foldl_cons]
      refine ⟨later.1.trans (by rw [first]), ?_⟩
      rw [later.2, first]
      simp

theorem parseLine_blank (state : ParseState (List Entry)) :
    parseLine recordEntry state [] = { state with lineno := state.lineno + 1 } := by
  have nothing : Ini.readingOf state.prevName (state.lineno + 1) [] = .nothing := by
    simp [Ini.readingOf, Ini.skipBom, Ini.rstrip, Ini.lskip]
  rw [Ini.parseLine_eq, nothing]
  rfl

theorem parseLine_headerLine (state : ParseState (List Entry)) (vidPid : ControllerVidPid)
    (timeinfo : TimeInfo) :
    parseLine recordEntry state (headerLine vidPid.toString (putTime timeinfo)) =
      { state with
        lineno := state.lineno + 1
        sectionName := vidPid.toString
        prevName := [] } := by
  have passes : ∀ c ∈ vidPid.toString, c ∉ [']'] ∧ c ≠ ';' := by
    intro c member
    rcases mem_toString member with plain | dash
    · have bracket : c ≠ ']' := ne_of_isAlphanum plain (by decide)
      exact ⟨by simp [bracket], ne_of_isAlphanum plain (by decide)⟩
    · rw [dash]
      decide
  have noNul : '\x00' ∉ headerLine vidPid.toString (putTime timeinfo) :=
    not_mem_headerLine vidPid timeinfo (by decide) (by decide)
  rw [Ini.parseLine_eq, headerLine, Ini.readingOf_header _ _ noNul passes]
  rfl

theorem foldl_sectionLines (state : ParseState (List Entry)) (vidPid : ControllerVidPid)
    (timeinfo : TimeInfo) {profile : CString}
    (plain : ∀ pair ∈ addedPairs profile, PlainPair pair) :
    let final := (sectionLines (granted timeinfo) vidPid.toString profile).foldl
      (parseLine recordEntry) state
    final.error = state.error ∧
      final.data = state.data ++ (addedPairs profile).map (entryOf vidPid.toString) := by
  have pairs := foldl_pairLine plain
    { state with lineno := state.lineno + 1, sectionName := vidPid.toString, prevName := [] }
  simp only [sectionLines, List.foldl_cons]
  rw [granted, parseLine_headerLine]
  exact pairs

theorem foldl_addedLines (state : ParseState (List Entry)) (vidPid : ControllerVidPid)
    (timeinfo : TimeInfo) {profile : CString}
    (plain : ∀ pair ∈ addedPairs profile, PlainPair pair) :
    let final := (addedLines (granted timeinfo) vidPid.toString profile).foldl
      (parseLine recordEntry) state
    final.error = state.error ∧
      final.data = state.data ++ (addedPairs profile).map (entryOf vidPid.toString) := by
  simp only [addedLines_eq, List.foldl_cons, parseLine_blank]
  exact foldl_sectionLines _ vidPid timeinfo plain

/-! The default profiles write plain, short lines. -/

theorem word_of_known {profile : CString} (known : profile ∈ defaultProfiles) : Word profile := by
  revert profile
  simp [defaultProfiles, Word]

theorem plainPair_addedPairs {profile : CString} (known : profile ∈ defaultProfiles) :
    ∀ pair ∈ addedPairs profile, PlainPair pair := by
  intro pair member
  by_cases named : profile = []
  · subst named
    have buttons : ∀ pair ∈ addedPairs [], pair.1 ≠ [] ∧ Word pair.1 ∧ Word pair.2 := by
      simp [addedPairs, Word]
    obtain ⟨key, name, value⟩ := buttons pair member
    exact ⟨key, name, value⟩
  · rw [addedPairs, if_pos named, List.mem_singleton] at member
    subst member
    exact ⟨by simp, by simp [Word], word_of_known known⟩

theorem addedPairs_ne_nil (profile : CString) : addedPairs profile ≠ [] := by
  unfold addedPairs
  split <;> simp

theorem addedLines_fit (vidPid : ControllerVidPid) (timeinfo : TimeInfo) {profile : CString}
    (known : profile ∈ defaultProfiles) :
    ∀ line ∈ addedLines (granted timeinfo) vidPid.toString profile,
      '\n' ∉ line ∧ Fits line := by
  have pairs : ∀ profile ∈ defaultProfiles, ∀ line ∈ (addedPairs profile).map pairLine,
      '\n' ∉ line ∧ Fits line := by decide
  intro line member
  simp only [addedLines, List.mem_cons] at member
  rcases member with blank | header | pair
  · rw [blank]
    decide
  · rw [header]
    refine ⟨not_mem_headerLine vidPid timeinfo (by decide) (by decide), ?_⟩
    have length : (headerLine vidPid.toString (putTime timeinfo)).length = 60 := by
      simp [headerLine, length_toString, length_putTime]
    unfold Fits Ini.INI_MAX_LINE
    rw [granted, length]
    decide
  · exact pairs profile known line pair

/-! The file after the section was appended. -/

section Grown

variable {file : CString} (terminated : lastLine file = [])
  (short : ∀ line ∈ file.splitOn '\n', Short line) (vidPid : ControllerVidPid)
  (timeinfo : TimeInfo) {profile : CString} (known : profile ∈ defaultProfiles)

def grownFile (file : CString) (vidPid : ControllerVidPid) (timeinfo : TimeInfo)
    (profile : CString) : CString :=
  file ++ newSection (granted timeinfo) vidPid.toString profile

def addedEntries (vidPid : ControllerVidPid) (profile : CString) : List Entry :=
  (addedPairs profile).map (entryOf vidPid.toString)

include terminated short known

theorem fileLines_grownFile :
    fileLines (grownFile file vidPid timeinfo profile) =
      fileLines file ++ addedLines (granted timeinfo) vidPid.toString profile := by
  have whole : joinLines (wholeLines file) = file := by
    conv_rhs => rw [Ini.file_eq file, terminated, List.append_nil]
  have added := addedLines_fit vidPid timeinfo known
  have joined := Ini.fileLines_joinLines (fun line member => (added line member).1)
    (fun line member => (added line member).2) []
  rw [List.append_nil, ← newSection_eq] at joined
  rw [grownFile]
  conv_lhs => rw [← whole]
  rw [Ini.fileLines_joinLines (Ini.oneLine_wholeLines file) (Ini.fits_wholeLines short), joined,
    Ini.fileLines_eq_wholeLines short]
  exact congrArg _ (List.append_nil _)

theorem grownFile_readings :
    firstError (grownFile file vidPid timeinfo profile) = firstError file ∧
      entries (grownFile file vidPid timeinfo profile) =
        entries file ++ addedEntries vidPid profile := by
  have folded := foldl_addedLines (recordLines (fileLines file)) vidPid timeinfo
    (plainPair_addedPairs known)
  simp only [Ini.firstError_eq, Ini.entries_eq,
    fileLines_grownFile terminated short vidPid timeinfo known]
  rw [recordLines, List.foldl_append]
  exact folded

theorem controllerEntries_grownFile :
    controllerEntries vidPid (grownFile file vidPid timeinfo profile) =
      controllerEntries vidPid file ++ addedEntries vidPid profile := by
  have own : (addedEntries vidPid profile).filter (fun entry =>
      convertToLowercase vidPid.toString = convertToLowercase entry.sectionName) =
      addedEntries vidPid profile := by
    refine List.filter_eq_self.mpr ?_
    intro entry member
    obtain ⟨pair, _, rfl⟩ := List.mem_map.mp member
    exact decide_eq_true rfl
  rw [controllerEntries, sectionEntries,
    (grownFile_readings terminated short vidPid timeinfo known).2, List.filter_append, own]
  rfl

theorem defaultEntries_grownFile :
    defaultEntries (grownFile file vidPid timeinfo profile) = defaultEntries file := by
  have other : (addedEntries vidPid profile).filter (fun entry =>
      convertToLowercase "default".toList = convertToLowercase entry.sectionName) = [] := by
    refine List.filter_eq_nil_iff.mpr ?_
    intro entry member same
    obtain ⟨pair, _, rfl⟩ := List.mem_map.mp member
    have lengths := congrArg List.length (of_decide_eq_true same)
    simp [convertToLowercase, entryOf, length_toString] at lengths
  rw [defaultEntries, sectionEntries,
    (grownFile_readings terminated short vidPid timeinfo known).2, List.filter_append, other,
    List.append_nil]
  rfl

end Grown

/-! Both loads. -/

section Loads

variable (vidPid : ControllerVidPid) {text : CString}

def configAfter (text : CString) (before : List Entry) : ControllerConfig :=
  (before ++ profilePasses vidPid text before).foldl applyEntry {}

/-- Over a file without a bad line, the first two passes find the entries of the controller. -/
theorem loadAndKeep_eq (answers : AppendAnswers) (autoAddController : Bool)
    (defaultProfile : CString) (clean : firstError text = 0) :
    loadAndKeep answers (some text) vidPid autoAddController defaultProfile {} =
      let added := autoAdd answers (some text) vidPid autoAddController defaultProfile
        ⟨convertToLowercase vidPid.toString,
          (defaultEntries text ++ controllerEntries vidPid text).foldl applyEntry {},
          !(controllerEntries vidPid text).isEmpty⟩
      if added.1 ≠ 0 then ⟨added.1, added.2.1, added.2.2.controllerConfig⟩
      else
        ⟨(loadProfile added.2.1 added.2.2).1, added.2.1, (loadProfile added.2.1 added.2.2).2⟩ := by
  have passed : ¬((firstError text : Nat) : Int) ≠ 0 := by simp [clean]
  unfold loadAndKeep
  simp only [readFromConfig_some, ConfigINIData.create, if_neg passed, List.foldl_append]
  rfl

theorem loadAndKeep_found (answers : AppendAnswers) (autoAddController : Bool)
    (defaultProfile : CString) (clean : firstError text = 0)
    (found : controllerEntries vidPid text ≠ []) :
    loadAndKeep answers (some text) vidPid autoAddController defaultProfile {} =
      ⟨0, some text, configAfter vidPid text
        (defaultEntries text ++ controllerEntries vidPid text)⟩ := by
  have isFound : (controllerEntries vidPid text).isEmpty = false := by simpa using found
  rw [loadAndKeep_eq vidPid answers autoAddController defaultProfile clean, isFound]
  simp only [autoAdd, Bool.not_false, Bool.not_true, Bool.false_and, Bool.false_eq_true, if_false,
    ne_eq, not_true_eq_false, loadProfile_eq vidPid clean]
  rfl

theorem loadAndKeep_added (timeinfo : TimeInfo) (profile : CString) (clean : firstError text = 0)
    (missing : controllerEntries vidPid text = [])
    (cleanGrown : firstError (grownFile text vidPid timeinfo profile) = 0) :
    loadAndKeep (granted timeinfo) (some text) vidPid true profile {} =
      ⟨0, some (grownFile text vidPid timeinfo profile),
        configAfter vidPid (grownFile text vidPid timeinfo profile)
          (defaultEntries text ++
            controllerEntries vidPid (grownFile text vidPid timeinfo profile))⟩ := by
  have written : addControllerToConfig (granted timeinfo) (some text) vidPid.toString profile =
      (0, some (grownFile text vidPid timeinfo profile)) := rfl
  have reread := readFromConfig_some (grownFile text vidPid timeinfo profile)
    ⟨convertToLowercase vidPid.toString, (defaultEntries text).foldl applyEntry {}, false⟩
  rw [cleanGrown, ← List.foldl_append] at reread
  rw [loadAndKeep_eq vidPid (granted timeinfo) true profile clean, missing, List.append_nil]
  simp only [autoAdd, List.isEmpty_nil, Bool.not_true, Bool.not_false, Bool.and_self, if_true,
    written, reread, ne_eq, not_true_eq_false, if_false, Int.natCast_zero]
  rw [← controllerEntries, loadProfile_eq vidPid cleanGrown]
  rfl

end Loads

/-- The first load of an unknown controller appends its section and nothing else; the next one
leaves the file alone and ends in the same configuration. -/
theorem autoAdd_idempotent (vidPid : ControllerVidPid) (timeinfo later : TimeInfo)
    {file defaultProfile : CString} (terminated : lastLine file = [])
    (short : ∀ line ∈ file.splitOn '\n', Short line) (clean : firstError file = 0)
    (noKeys : controllerEntries vidPid file = []) (known : defaultProfile ∈ defaultProfiles) :
    let first := loadAndKeep (granted timeinfo) (some file) vidPid true defaultProfile {}
    ∃ grown, first.file = some grown ∧ file <+: grown ∧
      let second := loadAndKeep (granted later) (some grown) vidPid true defaultProfile {}
      first.rc = 0 ∧ second.rc = 0 ∧ second.file = some grown ∧
        second.config = first.config := by
  intro first
  obtain ⟨sameError, _⟩ := grownFile_readings terminated short vidPid timeinfo known
  have cleanGrown := sameError.trans clean
  have loaded := loadAndKeep_added vidPid timeinfo defaultProfile clean noKeys cleanGrown
  have found : controllerEntries vidPid (grownFile file vidPid timeinfo defaultProfile) ≠ [] := by
    rw [controllerEntries_grownFile terminated short vidPid timeinfo known, noKeys]
    simpa [addedEntries] using addedPairs_ne_nil defaultProfile
  have reloaded := loadAndKeep_found vidPid (granted later) true defaultProfile cleanGrown found
  rw [defaultEntries_grownFile terminated short vidPid timeinfo known] at reloaded
  refine ⟨grownFile file vidPid timeinfo defaultProfile, ?_, List.prefix_append _ _, ?_⟩
  · simp only [first, loaded]
  · simp only [first, loaded, reloaded, and_self]

/-- The last line before the appended section is a pair, and an empty section of the controller
stands in front of it. -/
theorem autoAdd_idempotent_empty_section :
    let file := "[057E-2009]\n[default]\nprofile=xbox\n[xbox360]\na=1\n".toList
    let vidPid : ControllerVidPid := ⟨0x057e, 0x2009⟩
    let timeinfo : TimeInfo := ⟨2024, 2, 29, 12, 30, 5, by decide⟩
    let later : TimeInfo := ⟨2024, 3, 1, 8, 0, 0, by decide⟩
    let first := loadAndKeep (granted timeinfo) (some file) vidPid true "xbox360".toList {}
    ∃ grown, first.file = some grown ∧ file <+: grown ∧
      let second := loadAndKeep (granted later) (some grown) vidPid true "xbox360".toList {}
      first.rc = 0 ∧ second.rc = 0 ∧ second.file = some grown ∧
        second.config = first.config := by
  intro file vidPid timeinfo later
  exact autoAdd_idempotent vidPid timeinfo later (by decide) (by decide) (by decide) (by decide)
    (by decide)

end SysCon.ConfigHandler
