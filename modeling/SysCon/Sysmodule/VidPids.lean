import SysCon.Sysmodule.AutoAdd
import SysCon.Sysmodule.Numerals

/-!
`ControllerVidPid` as text and back. The text of a device names its section in the
configuration file, so that no two devices share one.
-/

namespace SysCon.ConfigHandler

open CLibrary
open Ini (Entry entries fileLines joinLines recordLines Fits)

/-- The constructor from a string. -/
def ControllerVidPid.ofString (vidpid : CString) : ControllerVidPid :=
  match vidpid.idxOf? '-' with
  | none => ⟨0, 0⟩
  | some delimIdx =>
      let vidStr := vidpid.take delimIdx
      let pidStr := vidpid.drop (delimIdx + 1)
      ⟨toUInt16 (strtol 16 vidStr), toUInt16 (strtol 16 pidStr)⟩

/-! The four digits of a number. -/

theorem hexDigit_read {digit : Nat} (small : digit < 16) :
    digitValue (hexDigit digit) = digit ∧ tolower (hexDigit digit) = hexDigit digit := by
  have all : ∀ digit : Fin 16, digitValue (hexDigit digit.val) = digit.val ∧
      tolower (hexDigit digit.val) = hexDigit digit.val := by decide
  exact all ⟨digit, small⟩

/-- A statement about the digits of a word, one for each of them. -/
theorem forall_hexWord {good : Char → Prop} (each : ∀ digit < 16, good (hexDigit digit))
    (value : UInt16) : ∀ c ∈ hexWord value, good c := by
  have small := value.toNat_lt
  simp only [hexWord, List.forall_mem_cons, List.not_mem_nil, false_imp_iff, implies_true, and_true]
  exact ⟨each _ (by omega), each _ (by omega), each _ (by omega), each _ (by omega)⟩

theorem isDigitOf_hexWord (value : UInt16) : ∀ c ∈ hexWord value, isDigitOf 16 c = true := by
  refine forall_hexWord ?_ value
  intro digit small
  rw [isDigitOf, (hexDigit_read small).1, decide_eq_true_eq]
  exact small

theorem tolower_hexWord (value : UInt16) : (hexWord value).map tolower = hexWord value := by
  have unchanged : ∀ c ∈ hexWord value, tolower c = c :=
    forall_hexWord (fun _ small => (hexDigit_read small).2) value
  exact (List.map_congr_left unchanged).trans (List.map_id _)

theorem magnitude_hexWord (value : UInt16) : magnitude 16 (hexWord value) = value.toNat := by
  have small := value.toNat_lt
  have first := (hexDigit_read (by omega : value.toNat / 4096 < 16)).1
  have second := (hexDigit_read (by omega : value.toNat / 256 % 16 < 16)).1
  have third := (hexDigit_read (by omega : value.toNat / 16 % 16 < 16)).1
  have fourth := (hexDigit_read (by omega : value.toNat % 16 < 16)).1
  simp only [magnitude, hexWord, List.foldl_cons, List.foldl_nil, first, second, third, fourth]
  omega

theorem strtol_hexWord (value : UInt16) : strtol 16 (hexWord value) = value.toNat := by
  have small := value.toNat_lt
  rw [← magnitude_hexWord value] at small ⊢
  exact strtol_digits_of_lt (by decide) (isDigitOf_hexWord value) (by omega)

theorem dash_not_mem_hexWord (value : UInt16) : '-' ∉ hexWord value := by
  intro member
  exact absurd (isDigitOf_hexWord value '-' member) (by decide)

/-! The text of a device. -/

theorem idxOf_append_cons {separator : Char} {front : CString} (clean : separator ∉ front)
    (rest : CString) : (front ++ separator :: rest).idxOf? separator = some front.length := by
  induction front with
  | nil => simp [List.idxOf?_cons]
  | cons c front ih =>
      rw [List.mem_cons, not_or] at clean
      have later := ih clean.2
      have other : (c == separator) = false := beq_false_of_ne (Ne.symm clean.1)
      rw [List.cons_append, List.idxOf?_cons, other, later]
      rfl

theorem ofString_toString (vidPid : ControllerVidPid) :
    ControllerVidPid.ofString vidPid.toString = vidPid := by
  have delimIdx : vidPid.toString.idxOf? '-' = some 4 :=
    idxOf_append_cons (dash_not_mem_hexWord vidPid.vid) (hexWord vidPid.pid)
  have vidStr : vidPid.toString.take 4 = hexWord vidPid.vid := rfl
  have pidStr : vidPid.toString.drop (4 + 1) = hexWord vidPid.pid := rfl
  rw [ControllerVidPid.ofString, delimIdx]
  simp only [vidStr, pidStr, strtol_hexWord, toUInt16_toNat]

theorem toString_injective : Function.Injective ControllerVidPid.toString :=
  Function.LeftInverse.injective ofString_toString

theorem convertToLowercase_toString (vidPid : ControllerVidPid) :
    convertToLowercase vidPid.toString = vidPid.toString := by
  rw [convertToLowercase, ControllerVidPid.toString, List.map_append, List.map_cons,
    tolower_hexWord, tolower_hexWord]
  rfl

/-! Which devices a section of the file is for. -/

theorem iniSectionFound_iff {vidPid : ControllerVidPid} {config : ControllerConfig}
    {sectionName name value : CString} :
    (parseControllerConfigLine (.create vidPid.toString config) sectionName name
        value).2.iniSectionFound = true ↔ vidPid.toString = convertToLowercase sectionName := by
  rw [parseControllerConfigLine, ConfigINIData.create, convertToLowercase_toString]
  by_cases same : vidPid.toString = convertToLowercase sectionName
  · simp [same]
  · simp [same]

theorem sectionEntries_added (vidPid other : ControllerVidPid) (profile : CString) :
    (addedEntries vidPid profile).filter (fun entry =>
      convertToLowercase other.toString = convertToLowercase entry.sectionName) =
        if other = vidPid then addedEntries vidPid profile else [] := by
  have named : ∀ entry ∈ addedEntries vidPid profile, entry.sectionName = vidPid.toString := by
    intro entry member
    obtain ⟨pair, _, rfl⟩ := List.mem_map.mp member
    rfl
  split
  · rename_i own
    refine List.filter_eq_self.mpr ?_
    intro entry member
    rw [named entry member, own]
    exact decide_eq_true rfl
  · rename_i foreign
    refine List.filter_eq_nil_iff.mpr ?_
    intro entry member same
    have texts := of_decide_eq_true same
    rw [named entry member, convertToLowercase_toString, convertToLowercase_toString] at texts
    exact foreign (toString_injective texts)

/-! The section in the file that it was appended to, whatever that file was. -/

theorem joinLines_splitOn (file : CString) :
    joinLines (file.splitOn '\n') = file ++ ['\n'] := by
  have lines : file.splitOn '\n' = Ini.wholeLines file ++ [Ini.lastLine file] :=
    (List.dropLast_append_getLast _).symm
  conv_rhs => rw [Ini.file_eq file]
  rw [lines, joinLines, List.flatMap_append, List.flatMap_singleton, ← List.append_assoc, joinLines]

theorem fileLines_whole {lines : List CString} (whole : ∀ line ∈ lines, '\n' ∉ line)
    (fit : ∀ line ∈ lines, Fits line) : fileLines (joinLines lines) = lines := by
  have read := Ini.fileLines_joinLines whole fit []
  rw [List.append_nil] at read
  exact read.trans (List.append_nil lines)

section Appended

variable (file : CString) (vidPid : ControllerVidPid) (timeinfo : TimeInfo) {profile : CString}
  (known : profile ∈ defaultProfiles)

theorem grownFile_eq (profile : CString) :
    grownFile file vidPid timeinfo profile =
      joinLines (file.splitOn '\n') ++
        joinLines (sectionLines (granted timeinfo) vidPid.toString profile) := by
  rw [grownFile, newSection_eq, addedLines_eq, joinLines_splitOn]
  simp [joinLines]

include known

/-- The reader gets to the section unless a line of the old file is too long for it. -/
theorem entries_grownFile :
    entries (grownFile file vidPid timeinfo profile) =
      entries (file ++ ['\n']) ++
        if ∀ line ∈ file.splitOn '\n', Fits line then addedEntries vidPid profile else [] := by
  have whole := separator_not_mem_splitOn '\n' file
  have added := addedLines_fit vidPid timeinfo known
  rw [addedLines_eq] at added
  have own : ∀ line ∈ sectionLines (granted timeinfo) vidPid.toString profile,
      '\n' ∉ line ∧ Fits line := fun line member => added line (List.mem_cons_of_mem _ member)
  rw [grownFile_eq, ← joinLines_splitOn, Ini.entries_eq, Ini.entries_eq]
  by_cases fit : ∀ line ∈ file.splitOn '\n', Fits line
  · have grown := Ini.fileLines_joinLines whole fit
      (joinLines (sectionLines (granted timeinfo) vidPid.toString profile))
    rw [if_pos fit, grown, fileLines_whole whole fit,
      fileLines_whole (fun line member => (own line member).1)
        (fun line member => (own line member).2), recordLines, List.foldl_append]
    exact (foldl_sectionLines _ vidPid timeinfo (plainPair_addedPairs known)).2
  · have overlong : ∃ line ∈ file.splitOn '\n', ¬Fits line := by
      simpa only [not_forall, exists_prop] using fit
    have unread := Ini.fileLines_overlong whole overlong
      (joinLines (sectionLines (granted timeinfo) vidPid.toString profile)) []
    rw [List.append_nil] at unread
    rw [if_neg fit, unread, List.append_nil]

/-- What a device finds in the file with the section of another one, or with its own. -/
theorem controllerEntries_appended (other : ControllerVidPid) :
    controllerEntries other (grownFile file vidPid timeinfo profile) =
      controllerEntries other (file ++ ['\n']) ++
        if other = vidPid ∧ ∀ line ∈ file.splitOn '\n', Fits line then addedEntries vidPid profile
        else [] := by
  rw [controllerEntries, sectionEntries, entries_grownFile file vidPid timeinfo known,
    List.filter_append]
  refine congrArg _ ?_
  by_cases fit : ∀ line ∈ file.splitOn '\n', Fits line
  · rw [if_pos fit, sectionEntries_added]
    exact (if_congr (and_iff_left fit) rfl rfl).symm
  · rw [if_neg fit, List.filter_nil, if_neg fun both => fit both.2]

end Appended

/-- A device is read back from its text, its section is its own in every file, and the section
that is written for it says something to no other device. -/
theorem vidPid_round_trip (vidPid other : ControllerVidPid) :
    ControllerVidPid.ofString vidPid.toString = vidPid ∧
      convertToLowercase vidPid.toString = vidPid.toString ∧
      (∀ config otherConfig sectionName name value,
        (parseControllerConfigLine (.create vidPid.toString config) sectionName name
            value).2.iniSectionFound = true →
          (parseControllerConfigLine (.create other.toString otherConfig) sectionName name
            value).2.iniSectionFound = true → other = vidPid) ∧
      (∀ config name value,
        (parseControllerConfigLine (.create other.toString config) vidPid.toString name
          value).2.iniSectionFound = true ↔ other = vidPid) ∧
      ∀ file timeinfo, ∀ profile ∈ defaultProfiles,
        addControllerToConfig (granted timeinfo) (some file) vidPid.toString profile =
            (0, some (grownFile file vidPid timeinfo profile)) ∧
          controllerEntries other (grownFile file vidPid timeinfo profile) =
            controllerEntries other (file ++ ['\n']) ++
              if other = vidPid ∧ ∀ line ∈ file.splitOn '\n', Fits line then
                addedEntries vidPid profile
              else [] := by
  refine ⟨ofString_toString vidPid, convertToLowercase_toString vidPid, ?_, ?_, ?_⟩
  · intro config otherConfig sectionName name value own foreign
    rw [iniSectionFound_iff] at own foreign
    exact toString_injective (foreign.trans own.symm)
  · intro config name value
    rw [iniSectionFound_iff, convertToLowercase_toString]
    exact toString_injective.eq_iff
  · intro file timeinfo profile known
    exact ⟨rfl, controllerEntries_appended file vidPid timeinfo known other⟩

/-- Identifiers that differ only in where their zeros stand, and a file without a last newline. -/
theorem vidPid_round_trip_padded :
    let vidPid : ControllerVidPid := ⟨0x000f, 0x00a0⟩
    let other : ControllerVidPid := ⟨0x00f0, 0x000a⟩
    let timeinfo : TimeInfo := ⟨2024, 2, 29, 12, 30, 5, by decide⟩
    let file := "[default]\na=1".toList
    vidPid.toString = "000f-00a0".toList ∧ ControllerVidPid.ofString vidPid.toString = vidPid ∧
      controllerEntries other (grownFile file vidPid timeinfo "xbox".toList) = [] ∧
      controllerEntries vidPid (grownFile file vidPid timeinfo "xbox".toList) =
        addedEntries vidPid "xbox".toList := by
  intro vidPid other timeinfo file
  obtain ⟨parsed, _, _, _, written⟩ := vidPid_round_trip vidPid other
  obtain ⟨_, _, _, _, ownWritten⟩ := vidPid_round_trip vidPid vidPid
  refine ⟨by decide, parsed, ?_, ?_⟩
  · refine (written file timeinfo "xbox".toList (by decide)).2.trans ?_
    rw [if_neg fun both => absurd both.1 (by decide), List.append_nil]
    decide
  · refine (ownWritten file timeinfo "xbox".toList (by decide)).2.trans ?_
    have fit : ∀ line ∈ file.splitOn '\n', Fits line := by decide
    have before : controllerEntries vidPid (file ++ ['\n']) = [] := by decide
    rw [if_pos ⟨rfl, fit⟩, before, List.nil_append]

end SysCon.ConfigHandler
