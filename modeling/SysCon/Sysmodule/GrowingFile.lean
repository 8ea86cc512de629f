import SysCon.Sysmodule.ConfigLayers
import SysCon.Sysmodule.Hotplug
import SysCon.Sysmodule.VidPids

/-!
The configuration file while the discovery thread runs. A turn loads the
configuration of the controller that it finds, and a load may append a section
to the file. What was in the file stays, no controller gets a second section,
and what a section says to the handlers that exist does not change.
-/

namespace SysCon.Discovery

open CLibrary
open ConfigHandler
open Ini (Entry entries firstError joinLines lastLine wholeLines Short)
open Threads (MaxControllerHandlersSize)
open Usb (UsbHsInterface USB_CLASS_HID)

/-- A file that a load reads to its end: whole lines that fit the buffer, and no bad one. -/
structure Sound (text : CString) : Prop where
  terminated : lastLine text = []
  short : ∀ line ∈ text.splitOn '\n', Short line
  clean : firstError text = 0

structure NewSection where
  vidPid : ControllerVidPid
  timeinfo : TimeInfo
  profile : CString
  known : profile ∈ defaultProfiles

def NewSection.text (new : NewSection) : CString :=
  newSection (granted new.timeinfo) new.vidPid.toString new.profile

def NewSection.entries (new : NewSection) : List Entry := addedEntries new.vidPid new.profile

def withSections (text : CString) (added : List NewSection) : CString :=
  text ++ added.flatMap NewSection.text

theorem withSections_concat (text : CString) (added : List NewSection) (new : NewSection) :
    withSections text (added ++ [new]) =
      grownFile (withSections text added) new.vidPid new.timeinfo new.profile := by
  simp [withSections, grownFile, NewSection.text]

/-! The appended lines are whole and short, so the file stays sound. -/

theorem addedLines_short (vidPid : ControllerVidPid) (timeinfo : TimeInfo) {profile : CString}
    (known : profile ∈ defaultProfiles) :
    ∀ line ∈ addedLines (granted timeinfo) vidPid.toString profile, Short line := by
  have pairs : ∀ profile ∈ defaultProfiles, ∀ line ∈ (addedPairs profile).map pairLine,
      Short line := by decide
  intro line member
  simp only [addedLines, List.mem_cons] at member
  rcases member with blank | header | pair
  · rw [blank]
    decide
  · have length : (headerLine vidPid.toString (putTime timeinfo)).length = 60 := by
      simp [headerLine, length_toString, length_putTime]
    rw [header, granted, Short, length]
    decide
  · exact pairs profile known line pair

theorem splitOn_joinLines {lines : List CString} (whole : ∀ line ∈ lines, '\n' ∉ line) :
    (joinLines lines).splitOn '\n' = lines ++ [[]] := by
  have ended : ∀ line ∈ lines ++ [[]], '\n' ∉ line := by
    intro line member
    rcases List.mem_append.mp member with inside | last
    · exact whole line inside
    · rw [List.mem_singleton.mp last]
      exact List.not_mem_nil
  have joined := Ini.joinLines_eq_intercalate lines []
  rw [List.append_nil] at joined
  rw [joined, List.splitOn_intercalate _ ended (by simp)]

section Growing

variable {text : CString} (sound : Sound text)

include sound

theorem Sound.grown (vidPid : ControllerVidPid) (timeinfo : TimeInfo) {profile : CString}
    (known : profile ∈ defaultProfiles) : Sound (grownFile text vidPid timeinfo profile) := by
  have added := addedLines_fit vidPid timeinfo known
  have whole : ∀ line ∈ wholeLines text ++ addedLines (granted timeinfo) vidPid.toString profile,
      '\n' ∉ line := by
    intro line member
    rcases List.mem_append.mp member with old | new
    · exact Ini.oneLine_wholeLines text line old
    · exact (added line new).1
  have file : grownFile text vidPid timeinfo profile =
      joinLines (wholeLines text ++ addedLines (granted timeinfo) vidPid.toString profile) := by
    have old := Ini.file_eq text
    have joined (before behind : List CString) :
        joinLines (before ++ behind) = joinLines before ++ joinLines behind := List.flatMap_append
    rw [sound.terminated, List.append_nil] at old
    rw [joined, ← old, grownFile, newSection_eq]
  have split := splitOn_joinLines whole
  rw [← file] at split
  refine ⟨?_, ?_, ?_⟩
  · simp only [lastLine, split, List.getLast_append_singleton]
  · intro line member
    rw [split, List.append_assoc, List.mem_append, List.mem_append] at member
    rcases member with old | new | last
    · exact sound.short line (Ini.mem_wholeLines old)
    · exact addedLines_short vidPid timeinfo known line new
    · rw [List.mem_singleton.mp last]
      decide
  · exact (grownFile_readings sound.terminated sound.short vidPid timeinfo known).1.trans
      sound.clean

theorem Sound.withSections (added : List NewSection) : Sound (withSections text added) := by
  induction added using List.reverseRecOn with
  | nil => simpa [Discovery.withSections] using sound
  | append_singleton earlier new ih =>
      rw [withSections_concat]
      exact ih.grown new.vidPid new.timeinfo new.known

theorem entries_withSections (added : List NewSection) :
    entries (Discovery.withSections text added) =
      entries text ++ added.flatMap NewSection.entries := by
  induction added using List.reverseRecOn with
  | nil => simp [Discovery.withSections]
  | append_singleton earlier new ih =>
      have before := sound.withSections earlier
      rw [withSections_concat,
        (grownFile_readings before.terminated before.short new.vidPid new.timeinfo new.known).2,
        ih, List.append_assoc, List.flatMap_append, List.flatMap_singleton]
      rfl

theorem sectionEntries_withSections (added : List NewSection) (sectionName : CString) :
    sectionEntries sectionName (Discovery.withSections text added) =
      sectionEntries sectionName text ++
        (added.filter fun new => sectionName = new.vidPid.toString).flatMap
          NewSection.entries := by
  have own (new : NewSection) : (new.entries.filter fun entry =>
      sectionName = convertToLowercase entry.sectionName) =
        if sectionName = new.vidPid.toString then new.entries else [] := by
    have named : ∀ entry ∈ new.entries,
        convertToLowercase entry.sectionName = new.vidPid.toString := by
      intro entry member
      obtain ⟨pair, _, rfl⟩ := List.mem_map.mp member
      exact convertToLowercase_toString new.vidPid
    split
    · rename_i same
      refine List.filter_eq_self.mpr ?_
      intro entry member
      rw [named entry member]
      exact decide_eq_true same
    · rename_i other
      refine List.filter_eq_nil_iff.mpr ?_
      intro entry member
      rw [named entry member]
      exact fun same => other (of_decide_eq_true same)
  rw [sectionEntries, entries_withSections sound, List.filter_append, List.filter_flatMap]
  refine congrArg _ ?_
  induction added with
  | nil => rfl
  | cons new later ih =>
      rw [List.flatMap_cons, ih, own, List.filter_cons]
      by_cases same : sectionName = new.vidPid.toString
      · simp [same]
      · simp [same]

end Growing

/-! One load. -/

section Load

variable (autoAddController : Bool) (vidPid : ControllerVidPid)

/-- The text of the time is one of a clock, and no write fails: what a failed one leaves in the
file is not said by the model. -/
def Whole (answers : AppendAnswers) : Prop :=
  answers.written = true ∧ ∃ timeinfo, answers.time = putTime timeinfo

theorem whole_granted (timeinfo : TimeInfo) : Whole (granted timeinfo) := ⟨rfl, timeinfo, rfl⟩

/-- No section has to be written for the controller. -/
def Settled (text : CString) : Prop :=
  autoAddController = true → controllerEntries vidPid text ≠ []

inductive Left (defaultProfile text : CString) (next : Option CString) : Prop
  | same (file : next = some text)
  | grown (timeinfo : TimeInfo) (asked : autoAddController = true)
      (missing : controllerEntries vidPid text = [])
      (file : next = some (grownFile text vidPid timeinfo defaultProfile))

theorem addControllerToConfig_file (answers : AppendAnswers) (text sectionName profile : CString) :
    (addControllerToConfig answers (some text) sectionName profile).2 = some text ∨
      (addControllerToConfig answers (some text) sectionName profile).2 =
        some (text ++ newSection answers sectionName profile) := by
  unfold addControllerToConfig
  split
  · exact Or.inl rfl
  · split
    · exact Or.inl rfl
    · split
      · exact Or.inl rfl
      · exact Or.inr rfl

theorem autoAdd_file (answers : AppendAnswers) (file : Option CString) (defaultProfile : CString)
    (cfgController : ConfigINIData) :
    (autoAdd answers file vidPid autoAddController defaultProfile cfgController).2.1 =
      if !cfgController.iniSectionFound && autoAddController then
        (addControllerToConfig answers file vidPid.toString defaultProfile).2
      else file := by
  unfold autoAdd
  split
  · simp only
    split <;> rfl
  · rfl

variable {text : CString} (sound : Sound text)

include sound

theorem fileAfterLoad_eq (answers : AppendAnswers) (defaultProfile : CString) :
    fileAfterLoad autoAddController answers (some text) vidPid defaultProfile =
      if (controllerEntries vidPid text).isEmpty && autoAddController then
        (addControllerToConfig answers (some text) vidPid.toString defaultProfile).2
      else some text := by
  rw [fileAfterLoad, loadAndKeep_eq vidPid answers autoAddController defaultProfile sound.clean]
  simp only [apply_ite Loaded.file, ite_self, autoAdd_file, Bool.not_not]

theorem fileAfterLoad_left {answers : AppendAnswers} (whole : Whole answers)
    (defaultProfile : CString) :
    Left autoAddController vidPid defaultProfile text
      (fileAfterLoad autoAddController answers (some text) vidPid defaultProfile) := by
  obtain ⟨_, timeinfo, time⟩ := whole
  rw [fileAfterLoad_eq autoAddController vidPid sound]
  by_cases adds : ((controllerEntries vidPid text).isEmpty && autoAddController) = true
  · obtain ⟨missing, asked⟩ := Bool.and_eq_true_iff.mp adds
    have sameSection : newSection answers vidPid.toString defaultProfile =
        newSection (granted timeinfo) vidPid.toString defaultProfile := by
      simp only [newSection, granted, time]
    have written := addControllerToConfig_file answers text vidPid.toString defaultProfile
    rw [sameSection, ← grownFile] at written
    rw [if_pos adds]
    rcases written with failed | grown
    · exact .same failed
    · exact .grown timeinfo asked (List.isEmpty_iff.mp missing) grown
  · rw [if_neg adds]
    exact .same rfl

theorem loadControllerConfig_settled (settled : Settled autoAddController vidPid text)
    (answers : AppendAnswers) (defaultProfile : CString) :
    (loadControllerConfig answers (some text) vidPid autoAddController defaultProfile {}).2 =
      (passEntries vidPid text).foldl applyEntry {} := by
  have nothing : ((controllerEntries vidPid text).isEmpty && autoAddController) = false := by
    cases autoAddController with
    | false => exact Bool.and_false _
    | true => simpa using settled rfl
  rw [loadControllerConfig_config]
  simp only [appliedEntries, laterEntries, nothing, sound.clean]
  rfl

/-- A load whose section is written ends with a file that has one for the controller, and with
what this file says. -/
theorem load_settles (timeinfo : TimeInfo) {defaultProfile : CString}
    (known : defaultProfile ∈ defaultProfiles) :
    ∃ next, fileAfterLoad autoAddController (granted timeinfo) (some text) vidPid defaultProfile =
        some next ∧
      Settled autoAddController vidPid next ∧
      (loadControllerConfig (granted timeinfo) (some text) vidPid autoAddController defaultProfile
        {}).2 = (passEntries vidPid next).foldl applyEntry {} := by
  by_cases settled : Settled autoAddController vidPid text
  · refine ⟨text, ?_, settled,
      loadControllerConfig_settled autoAddController vidPid sound settled _ _⟩
    have nothing : ¬((controllerEntries vidPid text).isEmpty && autoAddController) = true := by
      intro both
      obtain ⟨missing, asked⟩ := Bool.and_eq_true_iff.mp both
      exact settled asked (List.isEmpty_iff.mp missing)
    rw [fileAfterLoad_eq autoAddController vidPid sound, if_neg nothing]
  · obtain ⟨asked, missing⟩ : autoAddController = true ∧ controllerEntries vidPid text = [] := by
      simpa [Settled] using settled
    subst asked
    have grown := grownFile_readings sound.terminated sound.short vidPid timeinfo known
    have loaded := loadAndKeep_added vidPid timeinfo defaultProfile sound.clean missing
      (grown.1.trans sound.clean)
    refine ⟨grownFile text vidPid timeinfo defaultProfile, ?_, ?_, ?_⟩
    · rw [fileAfterLoad_eq true vidPid sound, missing]
      rfl
    · intro _
      rw [controllerEntries_grownFile sound.terminated sound.short vidPid timeinfo known, missing]
      simpa [addedEntries] using addedPairs_ne_nil defaultProfile
    · rw [← loadAndKeep_config, loaded, passEntries,
        defaultEntries_grownFile sound.terminated sound.short vidPid timeinfo known]
      rfl

end Load

/-! A section of one controller and the configuration of another. -/

section Apart

/-- No profile is named like the section of a controller. -/
def ProfilesApart (entries : List Entry) : Prop :=
  ∀ entry ∈ entries, ∀ profile, profileValue entry = some profile →
    ∀ vidPid : ControllerVidPid, convertToLowercase profile ≠ vidPid.toString

theorem profileValue_added (vidPid : ControllerVidPid) {profile : CString}
    (known : profile ∈ defaultProfiles) :
    ∀ entry ∈ addedEntries vidPid profile, ∀ value, profileValue entry = some value →
      value ∈ defaultProfiles := by
  have pairs : ∀ profile ∈ defaultProfiles, ∀ pair ∈ addedPairs profile,
      ∀ value ∈ profileValue ⟨[], pair.1, pair.2⟩, value ∈ defaultProfiles := by decide
  intro entry member value found
  obtain ⟨pair, isPair, rfl⟩ := List.mem_map.mp member
  exact pairs profile known pair isPair value found

theorem profilesApart_of_length {entries : List Entry}
    (lengths : ∀ entry ∈ entries, ∀ profile ∈ profileValue entry, profile.length ≠ 9) :
    ProfilesApart entries := by
  intro entry member profile found vidPid same
  have length := congrArg List.length same
  rw [length_toString, convertToLowercase, List.length_map] at length
  exact lengths entry member profile found length

theorem profilesApart_added (vidPid : ControllerVidPid) {profile : CString}
    (known : profile ∈ defaultProfiles) : ProfilesApart (addedEntries vidPid profile) := by
  have lengths : ∀ profile ∈ defaultProfiles, profile.length ≠ 9 := by decide
  refine profilesApart_of_length ?_
  intro entry member value found
  exact lengths value (profileValue_added vidPid known entry member value found)

variable {text : CString} (sound : Sound text) (new : NewSection) {vidPid : ControllerVidPid}

include sound

theorem sectionEntries_grown {sectionName : CString} (other : sectionName ≠ new.vidPid.toString) :
    sectionEntries sectionName (grownFile text new.vidPid new.timeinfo new.profile) =
      sectionEntries sectionName text := by
  have read := sectionEntries_withSections sound [new] sectionName
  rw [← List.nil_append [new], withSections_concat] at read
  simpa [withSections, other] using read

theorem controllerEntries_grown (other : vidPid ≠ new.vidPid) :
    controllerEntries vidPid (grownFile text new.vidPid new.timeinfo new.profile) =
      controllerEntries vidPid text := by
  refine sectionEntries_grown sound new ?_
  rw [convertToLowercase_toString]
  exact fun same => other (toString_injective same)

theorem profileEntries_grown (apart : ProfilesApart (entries text)) {before : List Entry}
    (own : before ⊆ entries text) :
    profileEntries (grownFile text new.vidPid new.timeinfo new.profile) (profileInForce before) =
      profileEntries text (profileInForce before) := by
  unfold profileEntries profileInForce
  cases found : Library.lastWrite profileValue before with
  | none => rfl
  | some profile =>
      obtain ⟨entry, member, stores⟩ := Library.lastWrite_mem found
      have other := apart entry (own member) profile stores new.vidPid
      rw [Option.getD_some, sectionEntries_grown sound new other]

theorem passEntries_grown (apart : ProfilesApart (entries text)) (other : vidPid ≠ new.vidPid) :
    passEntries vidPid (grownFile text new.vidPid new.timeinfo new.profile) =
      passEntries vidPid text := by
  have own : defaultEntries text ++ controllerEntries vidPid text ⊆ entries text :=
    List.append_subset.mpr ⟨List.filter_sublist.subset, List.filter_sublist.subset⟩
  unfold passEntries profilePasses
  rw [defaultEntries_grownFile sound.terminated sound.short new.vidPid new.timeinfo new.known,
    controllerEntries_grown sound new other, profileEntries_grown sound new apart own]

theorem profilesApart_grown (apart : ProfilesApart (entries text)) :
    ProfilesApart (entries (grownFile text new.vidPid new.timeinfo new.profile)) := by
  rw [(grownFile_readings sound.terminated sound.short new.vidPid new.timeinfo new.known).2]
  intro entry member
  rcases List.mem_append.mp member with old | added
  · exact apart entry old
  · exact profilesApart_added new.vidPid new.known entry added

end Apart

/-! What a turn does to the file. -/

section Turns

variable {autoAddController : Bool} {answers : Answers} {state : State}

def deviceOf (interface : UsbHsInterface) : ControllerVidPid :=
  ⟨interface.idVendor, interface.idProduct⟩

def Handler.device (handler : Handler) : Option ControllerVidPid :=
  handler.interfaces.head?.map deviceOf

inductive TurnLoads (autoAddController : Bool) (answers : Answers) (state next : State) : Prop
  | none (file : next.file = state.file) (handlers : next.handlers = state.handlers)
  | one (interface : UsbHsInterface) (profile : CString) (available : interface ∈ state.available)
      (known : profile ∈ defaultProfiles)
      (file : next.file =
        fileAfterLoad autoAddController answers.append state.file (deviceOf interface) profile)
      (handlers : next.handlers = state.handlers ∨ ∃ handler : Handler,
        next.handlers = state.handlers ++ [handler] ∧ handler.device = deviceOf interface ∧
          handler.driver = driverOf (loadControllerConfig answers.append state.file
            (deviceOf interface) autoAddController profile {}).2)

theorem defaultProfile_known (kind : Kind) : kind.defaultProfile ∈ defaultProfiles := by
  cases kind <;> decide

theorem head_takes (driver : DriverKind) (interface : UsbHsInterface)
    (others : List UsbHsInterface) :
    (takes driver (interface :: others)).head? = interface := by
  cases driver <;> rfl

theorem turn_loads (autoAddController : Bool) (answers : Answers) (state : State) :
    TurnLoads autoAddController answers state (turn autoAddController answers state) := by
  unfold turn
  cases asked : firstFound answers state.available queryOrder with
  | none => exact .none rfl rfl
  | some result =>
      obtain ⟨kind, interface, others⟩ := result
      have isAvailable := (firstFound_spec asked).sublist.subset List.mem_cons_self
      have known := defaultProfile_known kind
      simp only
      by_cases limit : MaxControllerHandlersSize ≤ state.handlers.length
      · rw [if_pos limit]
        exact .none rfl rfl
      · rw [if_neg limit]
        split
        · refine .one interface kind.defaultProfile isAvailable known rfl
            (Or.inr ⟨_, rfl, ?_, rfl⟩)
          rw [Handler.device, head_takes]
          rfl
        · exact .one interface kind.defaultProfile isAvailable known rfl (Or.inl rfl)

structure Grown (autoAddController : Bool) (text : CString) (interfaces : List UsbHsInterface)
    (added : List NewSection) (state : State) : Prop where
  file : state.file = some (withSections text added)
  once : (added.map NewSection.vidPid).Nodup
  missing : ∀ new ∈ added, controllerEntries new.vidPid text = []
  plugged : ∀ new ∈ added, ∃ interface ∈ interfaces, deviceOf interface = new.vidPid
  asked : autoAddController = false → added = []
  known : state.interfaces ⊆ interfaces

variable {text : CString} {interfaces : List UsbHsInterface} {added : List NewSection}

theorem not_written_of_missing (sound : Sound text) {vidPid : ControllerVidPid}
    (missing : controllerEntries vidPid (withSections text added) = []) :
    controllerEntries vidPid text = [] ∧ vidPid ∉ added.map NewSection.vidPid := by
  rw [controllerEntries, sectionEntries_withSections sound, List.append_eq_nil_iff] at missing
  refine ⟨missing.1, ?_⟩
  intro member
  obtain ⟨new, isNew, same⟩ := List.mem_map.mp member
  have nothing := List.flatMap_eq_nil_iff.mp missing.2 new
    (List.mem_filter.mpr ⟨isNew, by simp [convertToLowercase_toString, same]⟩)
  rw [NewSection.entries, addedEntries, List.map_eq_nil_iff] at nothing
  exact addedPairs_ne_nil new.profile nothing

theorem TurnLoads.grown {next : State} (sound : Sound text) (whole : Whole answers.append)
    (loads : TurnLoads autoAddController answers state next) (known : next.interfaces ⊆ interfaces)
    (grown : Grown autoAddController text interfaces added state) :
    ∃ later, Grown autoAddController text interfaces later next := by
  obtain ⟨file, once, missing, plugged, asked, knownBefore⟩ := grown
  cases loads with
  | none same handlers => exact ⟨added, same.trans file, once, missing, plugged, asked, known⟩
  | one interface profile available isProfile loaded handlers =>
      rw [file] at loaded
      cases fileAfterLoad_left autoAddController (deviceOf interface) (sound.withSections added)
        whole profile with
      | same left =>
          exact ⟨added, loaded.trans left, once, missing, plugged, asked, known⟩
      | grown timeinfo asks none left =>
          obtain ⟨unknown, unwritten⟩ := not_written_of_missing sound none
          let new : NewSection := ⟨deviceOf interface, timeinfo, profile, isProfile⟩
          have isPlugged : interface ∈ interfaces :=
            knownBefore (List.mem_append_right _ available)
          refine ⟨added ++ [new], ?_, ?_, ?_, ?_, ?_, known⟩
          · rw [withSections_concat]
            exact loaded.trans left
          · rw [List.map_append, List.map_singleton, List.nodup_append_comm]
            exact List.nodup_cons.mpr ⟨unwritten, once⟩
          · intro other member
            rcases List.mem_append.mp member with old | last
            · exact missing other old
            · rw [List.mem_singleton.mp last]
              exact unknown
          · intro other member
            rcases List.mem_append.mp member with old | last
            · exact plugged other old
            · rw [List.mem_singleton.mp last]
              exact ⟨interface, isPlugged, rfl⟩
          · intro off
            rw [asks] at off
            exact Bool.noConfusion off

/-! The drivers of the handlers that exist. -/

def settledDriver (vidPid : ControllerVidPid) (text : CString) : DriverKind :=
  driverOf ((passEntries vidPid text).foldl applyEntry {})

structure Configured (autoAddController : Bool) (text : CString) (handlers : List Handler) :
    Prop where
  sound : Sound text
  apart : ProfilesApart (entries text)
  settled : ∀ handler ∈ handlers, ∃ vidPid, handler.device = some vidPid ∧
    Settled autoAddController vidPid text ∧ handler.driver = settledDriver vidPid text

theorem Configured.grown {handlers : List Handler}
    (configured : Configured true text handlers) (new : NewSection)
    (missing : controllerEntries new.vidPid text = []) :
    Configured true (grownFile text new.vidPid new.timeinfo new.profile) handlers := by
  obtain ⟨sound, apart, settled⟩ := configured
  refine ⟨sound.grown new.vidPid new.timeinfo new.known, profilesApart_grown sound new apart, ?_⟩
  intro handler member
  obtain ⟨vidPid, device, found, driver⟩ := settled handler member
  -- the new section is for a controller that no handler has
  have other : vidPid ≠ new.vidPid := by
    intro same
    rw [same] at found
    exact found rfl missing
  refine ⟨vidPid, device, ?_, ?_⟩
  · intro asked
    rw [controllerEntries_grown sound new other]
    exact found asked
  · rw [settledDriver, passEntries_grown sound new apart other]
    exact driver

theorem Configured.load {handlers : List Handler}
    (configured : Configured autoAddController text handlers) (vidPid : ControllerVidPid)
    (timeinfo : TimeInfo) {profile : CString} (known : profile ∈ defaultProfiles)
    {next : CString} (file : fileAfterLoad autoAddController (granted timeinfo) (some text) vidPid
      profile = some next) : Configured autoAddController next handlers := by
  cases fileAfterLoad_left autoAddController vidPid configured.sound (whole_granted timeinfo)
    profile with
  | same left =>
      rw [file] at left
      rw [Option.some.inj left]
      exact configured
  | grown written asked missing left =>
      rw [file] at left
      rw [Option.some.inj left]
      subst asked
      exact configured.grown ⟨vidPid, written, profile, known⟩ missing

theorem TurnLoads.configured {next : State} {timeinfo : TimeInfo}
    (append : answers.append = granted timeinfo)
    (loads : TurnLoads autoAddController answers state next) (file : state.file = some text)
    (configured : Configured autoAddController text state.handlers) :
    ∃ later, next.file = some later ∧ Configured autoAddController later next.handlers := by
  cases loads with
  | none same handlers =>
      rw [handlers]
      exact ⟨text, same.trans file, configured⟩
  | one interface profile available known loaded handlers =>
      rw [append, file] at loaded
      obtain ⟨later, left, settled, config⟩ := load_settles autoAddController (deviceOf interface)
        configured.sound timeinfo known
      have kept := configured.load (deviceOf interface) timeinfo known left
      refine ⟨later, loaded.trans left, ?_⟩
      rcases handlers with same | ⟨handler, adds, device, driver⟩
      · rw [same]
        exact kept
      · rw [adds]
        refine ⟨kept.sound, kept.apart, ?_⟩
        intro other member
        rcases List.mem_append.mp member with old | new
        · exact kept.settled other old
        · rw [append, file, config] at driver
          rw [List.mem_singleton.mp new]
          exact ⟨deviceOf interface, device, settled, driver⟩

end Turns

end SysCon.Discovery

namespace SysCon.Hotplug

open CLibrary
open ConfigHandler
open Discovery
open Ini (entries)
open Library (Run)
open Usb (UsbHsInterface USB_CLASS_HID)

/-! Whole lives, in which devices come and go. -/

section Lives

variable {autoAddController : Bool} {text : CString}

def Event.Whole : Event → Prop
  | .turn answers => Discovery.Whole answers.append
  | .plug _ | .unplug _ | .change _ => True

/-- Every section that is to be added is written. -/
def Event.Writes : Event → Prop
  | .turn answers => ∃ timeinfo, answers.append = granted timeinfo
  | .plug _ | .unplug _ | .change _ => True

theorem step_beside (autoAddController : Bool) (state : State) {event : Event}
    (beside : ∀ answers, event ≠ .turn answers) :
    (step autoAddController state event).file = state.file ∧
      (step autoAddController state event).handlers ⊆ state.handlers := by
  cases event with
  | turn answers => exact absurd rfl (beside answers)
  | plug interfaces => exact ⟨rfl, List.Subset.refl _⟩
  | unplug interfaceIDs => exact ⟨rfl, List.Subset.refl _⟩
  | change interfaceIDsPlugged =>
      rw [step_change]
      exact ⟨rfl, List.filter_subset_self _⟩

theorem step_grown (sound : Sound text) {interfaces : List UsbHsInterface}
    {added : List NewSection} {state : State} {event : Event} (whole : event.Whole)
    (grown : Grown autoAddController text interfaces added state.toState) :
    ∃ later, Grown autoAddController text (interfaces ++ event.interfaces) later
      (step autoAddController state event).toState := by
  have known : (step autoAddController state event).interfaces ⊆
      interfaces ++ event.interfaces := by
    refine List.Subset.trans (step_interfaces autoAddController state event).subset ?_
    exact List.append_subset.mpr
      ⟨List.Subset.trans grown.known (List.subset_append_left _ _), List.subset_append_right _ _⟩
  cases event with
  | turn answers =>
      have inside : (step autoAddController state (.turn answers)).interfaces ⊆ interfaces := by
        simpa [Event.interfaces] using known
      obtain ⟨later, next⟩ := (turn_loads autoAddController answers state.toState).grown sound whole
        inside grown
      refine ⟨later, ?_⟩
      rw [Event.interfaces, List.append_nil]
      exact next
  | plug | unplug | change =>
      refine ⟨added, ?_, grown.once, grown.missing, ?_, grown.asked, known⟩
      · exact (step_beside autoAddController state (by simp)).1.trans grown.file
      · intro new member
        obtain ⟨interface, isPlugged, same⟩ := grown.plugged new member
        exact ⟨interface, List.mem_append_left _ isPlugged, same⟩

theorem run_grown (sound : Sound text) {interfaces : List UsbHsInterface}
    {added : List NewSection} {events : List Event} {first last : State}
    (whole : ∀ event ∈ events, event.Whole)
    (grown : Grown autoAddController text interfaces added first.toState)
    (run : Run (Happens autoAddController) first events last) :
    ∃ later, Grown autoAddController text (interfaces ++ events.flatMap Event.interfaces) later
      last.toState := by
  induction run generalizing interfaces added with
  | nil current =>
      refine ⟨added, ?_⟩
      rw [List.flatMap_nil, List.append_nil]
      exact grown
  | cons taken rest ih =>
      obtain ⟨here, behind⟩ := List.forall_mem_cons.mp whole
      obtain ⟨_, rfl⟩ := taken
      obtain ⟨next, isNext⟩ := step_grown sound here grown
      rw [List.flatMap_cons, ← List.append_assoc]
      exact ih behind isNext

/-- However devices come and go and whatever fails, a file that a load reads to its end is the one
from before with sections behind it: at most one for a controller, for none that had a key line, and
each for a controller that was plugged. It is still read to its end, and what was there says the
same. -/
theorem run_file (autoAddController : Bool) (available : List UsbHsInterface) (text : CString)
    (sound : Sound text) (events : List Event) (whole : ∀ event ∈ events, event.Whole)
    (last : State)
    (run : Run (Happens autoAddController) { available, file := some text } events last) :
    ∃ added : List NewSection,
      last.file = some (withSections text added) ∧
        (added.map NewSection.vidPid).Nodup ∧
        (∀ new ∈ added, controllerEntries new.vidPid text = [] ∧
          ∃ interface ∈ available ++ events.flatMap Event.interfaces,
            deviceOf interface = new.vidPid) ∧
        (autoAddController = false → added = []) ∧
        Sound (withSections text added) ∧
        ∀ sectionName, sectionEntries sectionName (withSections text added) =
          sectionEntries sectionName text ++
            (added.filter fun new => sectionName = new.vidPid.toString).flatMap
              NewSection.entries := by
  have start : Grown autoAddController text available [] { available, file := some text } := by
    refine ⟨?_, List.nodup_nil, ?_, ?_, fun _ => rfl, ?_⟩
    · simp [withSections]
    · simp
    · simp
    · exact List.Subset.refl _
  obtain ⟨added, file, once, missing, plugged, asked, _⟩ := run_grown sound whole start run
  exact ⟨added, file, once, fun new member => ⟨missing new member, plugged new member⟩, asked,
    sound.withSections added, sectionEntries_withSections sound added⟩

theorem step_configured {state : State} {event : Event} (writes : event.Writes)
    (file : state.file = some text)
    (configured : Configured autoAddController text state.handlers) :
    ∃ later, (step autoAddController state event).file = some later ∧
      Configured autoAddController later (step autoAddController state event).handlers := by
  have beside : (∀ answers, event ≠ .turn answers) → _ := step_beside autoAddController state
  cases event with
  | turn answers =>
      obtain ⟨timeinfo, append⟩ := writes
      exact (turn_loads autoAddController answers state.toState).configured append file configured
  | plug | unplug | change =>
      obtain ⟨same, fewer⟩ := beside (by simp)
      exact ⟨text, same.trans file, configured.sound, configured.apart,
        fun handler member => configured.settled handler (fewer member)⟩

theorem run_configured {events : List Event} {first last : State}
    (writes : ∀ event ∈ events, event.Writes) (file : first.file = some text)
    (configured : Configured autoAddController text first.handlers)
    (run : Run (Happens autoAddController) first events last) :
    ∃ later, last.file = some later ∧ Configured autoAddController later last.handlers := by
  induction run generalizing text with
  | nil current => exact ⟨text, file, configured⟩
  | cons taken rest ih =>
      obtain ⟨here, behind⟩ := List.forall_mem_cons.mp writes
      obtain ⟨_, rfl⟩ := taken
      obtain ⟨next, left, isNext⟩ := step_configured here file configured
      exact ih behind left isNext

/-- When a load reads the file to its end and every section that is to be added is written, each
handler has at any time the driver that a load of the file as it then is gives to its controller,
whatever kind of interface the load is for and whatever was added for others. So the handlers of
one controller have one driver, also when it was unplugged in between. -/
theorem run_drivers (autoAddController : Bool) (available : List UsbHsInterface) (text : CString)
    (sound : Sound text) (apart : ProfilesApart (entries text)) (events : List Event)
    (writes : ∀ event ∈ events, event.Writes) (last : State)
    (run : Run (Happens autoAddController) { available, file := some text } events last) :
    (∀ handler ∈ last.handlers, ∃ vidPid, handler.device = some vidPid ∧
      ∀ answers defaultProfile, handler.driver = driverOf (loadControllerConfig answers last.file
        vidPid autoAddController defaultProfile {}).2) ∧
      ∀ handler ∈ last.handlers, ∀ other ∈ last.handlers, handler.device = other.device →
        handler.driver = other.driver := by
  have start : Configured autoAddController text [] := ⟨sound, apart, by simp⟩
  obtain ⟨file, isFile, configured⟩ := run_configured writes rfl start run
  constructor
  · intro handler member
    obtain ⟨vidPid, device, settled, driver⟩ := configured.settled handler member
    refine ⟨vidPid, device, ?_⟩
    intro answers defaultProfile
    rw [isFile, loadControllerConfig_settled autoAddController vidPid configured.sound settled]
    exact driver
  · intro handler member other isOther same
    obtain ⟨vidPid, device, _, driver⟩ := configured.settled handler member
    obtain ⟨otherVidPid, otherDevice, _, otherDriver⟩ := configured.settled other isOther
    rw [device, otherDevice, Option.some.injEq] at same
    rw [driver, otherDriver, same]

def leapDay : TimeInfo := ⟨2024, 2, 29, 12, 30, 5, by decide⟩

def xbox360File : CString := "[default]\nb=1\n[xbox360]\ndriver=xbox360\na=2\n".toList

theorem sound_xbox360File : Sound xbox360File := ⟨by decide, by decide, by decide⟩

def writing : Discovery.Answers := { append := granted leapDay }

/-- Two interfaces of one device, of different kinds. -/
def twoKinds : State where
  available := [⟨1, 0x045e, 0x028e, 0x0114, USB_CLASS_HID, 0, 0⟩, xbox360Pad 2]
  file := some xbox360File

theorem twoKinds_once :
    let last := Discovery.run true [writing, writing] twoKinds.toState
    ∃ added : List NewSection,
      last.file = some (withSections xbox360File added) ∧
        (added.map NewSection.vidPid).Nodup := by
  intro last
  obtain ⟨added, file, once, _⟩ := run_file true twoKinds.available xbox360File sound_xbox360File
    _ (by simp [Event.Whole, writing, whole_granted]) _ (run_turns [writing, writing] twoKinds)
  exact ⟨added, file, once⟩

theorem twoKinds_oneDriver :
    let last := Discovery.run true [writing, writing] twoKinds.toState
    last.handlers.map Handler.driver = [.xbox360, .xbox360] ∧
      ∀ handler ∈ last.handlers, ∀ other ∈ last.handlers, handler.device = other.device →
        handler.driver = other.driver := by
  intro last
  refine ⟨by decide +kernel, ?_⟩
  exact (run_drivers true twoKinds.available xbox360File sound_xbox360File
    (profilesApart_of_length (by decide)) _ (by simp [Event.Writes, writing]) _
    (run_turns [writing, writing] twoKinds)).2

end Lives

end SysCon.Hotplug
