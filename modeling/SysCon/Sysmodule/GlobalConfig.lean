import SysCon.Sysmodule.VidPids
import SysCon.Sysmodule.IniNormalForm

/-!
The global settings (`ParseGlobalConfigLine` and `LoadGlobalConfig`). A scalar
setting is what its last line says, and the lines of `discovery_vidpid` add up.
Neither these nor the settings of a controller tell a file from its normal form.
-/

namespace SysCon.ConfigHandler

open CLibrary Library
open Ini (Entry entries firstError normalForm)

def LOG_LEVEL_INFO : Int := 3

/-! `DiscoveryMode`; the setting is cast from a number, whatever that is. -/

def HID_AND_XBOX : Int := 0
def VIDPID_AND_XBOX : Int := 1
def VIDPID : Int := 2

structure GlobalConfig where
  pollingTimeoutMs : UInt16 := 10
  pollingThreadPriority : Int8 := 30
  logLevel : Int := LOG_LEVEL_INFO
  discoveryMode : Int := HID_AND_XBOX
  discoveryVidPid : List ControllerVidPid := []
  autoAddController : Bool := true
  deriving DecidableEq

structure GlobalINIData where
  iniSection : CString
  globalConfig : GlobalConfig
  iniSectionFound : Bool := false

def GlobalINIData.create (iniSection : CString) (config : GlobalConfig) : GlobalINIData :=
  { iniSection := convertToLowercase iniSection, globalConfig := config }

inductive GlobalSetting
  | pollingTimeoutMs (timeout : UInt16)
  | pollingThreadPriority (priority : Int8)
  | logLevel (level : Int)
  | discoveryMode (mode : Int)
  | autoAddController (add : Bool)
  | discoveryVidPid (vidPids : List ControllerVidPid)
  | unknown
  deriving DecidableEq

/-- The setting that `ParseGlobalConfigLine` finds in a pair; `name` is in lower case. -/
def globalSettingOf (name value : CString) : GlobalSetting :=
  if name = "polling_timeout_ms".toList then .pollingTimeoutMs (toUInt16 (atoi value))
  else if name = "polling_thread_priority".toList then
    .pollingThreadPriority (Int8.ofInt (atoi value))
  else if name = "log_level".toList then .logLevel (atoi value)
  else if name = "discovery_mode".toList then .discoveryMode (atoi value)
  else if name = "auto_add_controller".toList then .autoAddController (atoi value ≠ 0)
  else if name = "discovery_vidpid".toList then
    .discoveryVidPid ((strtok ',' value).map ControllerVidPid.ofString)
  else .unknown

def applyGlobalSetting (config : GlobalConfig) : GlobalSetting → GlobalConfig
  | .pollingTimeoutMs timeout => { config with pollingTimeoutMs := timeout }
  | .pollingThreadPriority priority => { config with pollingThreadPriority := priority }
  | .logLevel level => { config with logLevel := level }
  | .discoveryMode mode => { config with discoveryMode := mode }
  | .autoAddController add => { config with autoAddController := add }
  | .discoveryVidPid vidPids =>
      { config with discoveryVidPid := config.discoveryVidPid ++ vidPids }
  | .unknown => config

def parseGlobalConfigLine : Ini.Handler GlobalINIData :=
  fun data sectionName name value =>
    if data.iniSection ≠ convertToLowercase sectionName then (1, data)
    else (1, { data with
      iniSectionFound := true
      globalConfig :=
        applyGlobalSetting data.globalConfig (globalSettingOf (convertToLowercase name) value) })

/-- What a failed parse has set stays set. The file is what `open` finds at the path, if
anything. -/
def loadGlobalConfig (file : Option CString) (config : GlobalConfig) : Int × GlobalConfig :=
  match file with
  | none => (-1, config)
  | some text =>
      let (error, data) :=
        Ini.iniParseStream parseGlobalConfigLine text (.create "global".toList config)
      (error, data.globalConfig)

/-! What a file sets. -/

def globalEntries (text : CString) : List Entry := sectionEntries "global".toList text

def globalSetting (entry : Entry) : GlobalSetting :=
  globalSettingOf (convertToLowercase entry.name) entry.value

def applyGlobalEntry (config : GlobalConfig) (entry : Entry) : GlobalConfig :=
  applyGlobalSetting config (globalSetting entry)

theorem foldl_parseGlobalConfigLine (entries : List Entry) (data : GlobalINIData) :
    entries.foldl (Ini.Handler.after parseGlobalConfigLine) data =
      let own := entries.filter fun entry =>
        data.iniSection = convertToLowercase entry.sectionName
      { data with
        iniSectionFound := data.iniSectionFound || !own.isEmpty
        globalConfig := own.foldl applyGlobalEntry data.globalConfig } := by
  induction entries generalizing data with
  | nil => simp
  | cons entry rest ih =>
      rw [List.foldl_cons, ih]
      by_cases own : data.iniSection = convertToLowercase entry.sectionName
      · have passed : Ini.Handler.after parseGlobalConfigLine data entry =
            { data with
              iniSectionFound := true
              globalConfig := applyGlobalEntry data.globalConfig entry } := by
          rw [Ini.Handler.after, parseGlobalConfigLine, if_neg (not_not.mpr own)]
          rfl
        simp [passed, own]
      · have passed : Ini.Handler.after parseGlobalConfigLine data entry = data := by
          rw [Ini.Handler.after, parseGlobalConfigLine, if_pos own]
        simp [passed, own]

theorem parseGlobalConfigLine_succeeds : Ini.Handler.succeeds parseGlobalConfigLine := by
  intro data sectionName name value
  unfold parseGlobalConfigLine
  by_cases other : data.iniSection ≠ convertToLowercase sectionName
  · rw [if_pos other]
    exact Int.one_ne_zero
  · rw [if_neg other]
    exact Int.one_ne_zero

theorem loadGlobalConfig_some (text : CString) (config : GlobalConfig) :
    loadGlobalConfig (some text) config =
      ((firstError text : Int), (globalEntries text).foldl applyGlobalEntry config) := by
  simp only [loadGlobalConfig, Ini.iniParseStream_eq parseGlobalConfigLine_succeeds,
    foldl_parseGlobalConfigLine]
  rfl

section Registers

def storedTimeout : GlobalSetting → Option UInt16
  | .pollingTimeoutMs timeout => some timeout
  | _ => none

def storedPriority : GlobalSetting → Option Int8
  | .pollingThreadPriority priority => some priority
  | _ => none

def storedLogLevel : GlobalSetting → Option Int
  | .logLevel level => some level
  | _ => none

def storedMode : GlobalSetting → Option Int
  | .discoveryMode mode => some mode
  | _ => none

def storedAutoAdd : GlobalSetting → Option Bool
  | .autoAddController add => some add
  | _ => none

def listedVidPids : GlobalSetting → List ControllerVidPid
  | .discoveryVidPid vidPids => vidPids
  | _ => []

/-- A scalar setting that only its own kind of line stores. -/
theorem overwrites_global {value : Type} {get : GlobalConfig → value}
    {stored : GlobalSetting → Option value}
    (register : ∀ config setting,
      get (applyGlobalSetting config setting) = (stored setting).getD (get config)) :
    Overwrites applyGlobalEntry get (fun entry => stored (globalSetting entry)) := by
  intro config entry
  exact register config (globalSetting entry)

theorem foldl_discoveryVidPid (own : List Entry) (config : GlobalConfig) :
    (own.foldl applyGlobalEntry config).discoveryVidPid =
      config.discoveryVidPid ++ own.flatMap fun entry => listedVidPids (globalSetting entry) := by
  induction own generalizing config with
  | nil => simp
  | cons entry rest ih =>
      have here : (applyGlobalEntry config entry).discoveryVidPid =
          config.discoveryVidPid ++ listedVidPids (globalSetting entry) := by
        unfold applyGlobalEntry
        cases globalSetting entry <;> simp [applyGlobalSetting, listedVidPids]
      rw [List.foldl_cons, ih, here, List.flatMap_cons, List.append_assoc]

end Registers

/-- The last of the lines that set something says what it is, and `before` says it without one. -/
def lastSetting {value : Type} (stored : GlobalSetting → Option value) (before : value)
    (own : List Entry) : value :=
  (lastWrite (fun entry => stored (globalSetting entry)) own).getD before

theorem foldl_applyGlobalEntry (own : List Entry) (config : GlobalConfig) :
    own.foldl applyGlobalEntry config =
      { pollingTimeoutMs := lastSetting storedTimeout config.pollingTimeoutMs own
        pollingThreadPriority := lastSetting storedPriority config.pollingThreadPriority own
        logLevel := lastSetting storedLogLevel config.logLevel own
        discoveryMode := lastSetting storedMode config.discoveryMode own
        discoveryVidPid := config.discoveryVidPid ++
          own.flatMap fun entry => listedVidPids (globalSetting entry)
        autoAddController := lastSetting storedAutoAdd config.autoAddController own } := by
  have timeout : Overwrites applyGlobalEntry GlobalConfig.pollingTimeoutMs
      fun entry => storedTimeout (globalSetting entry) :=
    overwrites_global (by intro config setting; cases setting <;> rfl)
  have priority : Overwrites applyGlobalEntry GlobalConfig.pollingThreadPriority
      fun entry => storedPriority (globalSetting entry) :=
    overwrites_global (by intro config setting; cases setting <;> rfl)
  have level : Overwrites applyGlobalEntry GlobalConfig.logLevel
      fun entry => storedLogLevel (globalSetting entry) :=
    overwrites_global (by intro config setting; cases setting <;> rfl)
  have mode : Overwrites applyGlobalEntry GlobalConfig.discoveryMode
      fun entry => storedMode (globalSetting entry) :=
    overwrites_global (by intro config setting; cases setting <;> rfl)
  have add : Overwrites applyGlobalEntry GlobalConfig.autoAddController
      fun entry => storedAutoAdd (globalSetting entry) :=
    overwrites_global (by intro config setting; cases setting <;> rfl)
  have vidPids := foldl_discoveryVidPid own config
  have timeouts := timeout.foldl config own
  have priorities := priority.foldl config own
  have levels := level.foldl config own
  have modes := mode.foldl config own
  have adds := add.foldl config own
  generalize own.foldl applyGlobalEntry config = last at *
  cases last
  simp only [GlobalConfig.mk.injEq]
  exact ⟨timeouts, priorities, levels, modes, vidPids, adds⟩

/-! The normal form of a file. -/

theorem entries_normalForm (text : CString) : entries (normalForm text) = entries text :=
  Ini.normalForm_data Ini.recordEntry text []

theorem sectionEntries_normalForm (iniSection text : CString) :
    sectionEntries iniSection (normalForm text) = sectionEntries iniSection text := by
  rw [sectionEntries, sectionEntries, entries_normalForm]

theorem readFromConfig_normalForm {text : CString} (clean : firstError text = 0)
    (data : ConfigINIData) :
    readFromConfig (some (normalForm text)) data = readFromConfig (some text) data := by
  rw [readFromConfig_some, readFromConfig_some, sectionEntries_normalForm,
    Ini.normalForm_firstError, clean]

theorem loadProfile_normalForm {text : CString} (clean : firstError text = 0)
    (cfgController : ConfigINIData) :
    loadProfile (some (normalForm text)) cfgController = loadProfile (some text) cfgController := by
  unfold loadProfile
  simp only [readFromConfig_normalForm clean]

theorem readFromConfig_found (text : CString) (vidPid : ControllerVidPid)
    (config : ControllerConfig) :
    (readFromConfig (some text) (.create vidPid.toString config)).2.iniSectionFound =
      !(sectionEntries vidPid.toString text).isEmpty := by
  rw [readFromConfig_some]
  simp [ConfigINIData.create, convertToLowercase_toString]

theorem autoAdd_skipped (answers : AppendAnswers) (vidPid : ControllerVidPid)
    (defaultProfile : CString) {autoAddController : Bool} {cfgController : ConfigINIData}
    (skips : (!cfgController.iniSectionFound && autoAddController) = false)
    (file : Option CString) :
    autoAdd answers file vidPid autoAddController defaultProfile cfgController =
      (0, file, cfgController) := by
  rw [autoAdd, skips]
  rfl

/-- A file without a bad line and its normal form configure the sysmodule alike, and every
controller that would not be added to the file. -/
theorem load_normalForm (text : CString) (clean : firstError text = 0) :
    (∀ config, loadGlobalConfig (some (normalForm text)) config =
      loadGlobalConfig (some text) config) ∧
    ∀ answers vidPid autoAddController defaultProfile config,
      (autoAddController = true → sectionEntries vidPid.toString text ≠ []) →
      loadControllerConfig answers (some (normalForm text)) vidPid autoAddController
          defaultProfile config =
        loadControllerConfig answers (some text) vidPid autoAddController defaultProfile
          config := by
  constructor
  · intro config
    rw [loadGlobalConfig_some, loadGlobalConfig_some, globalEntries, globalEntries,
      sectionEntries_normalForm, Ini.normalForm_firstError, clean]
  · intro answers vidPid autoAddController defaultProfile config listed
    simp only [loadControllerConfig, readFromConfig_normalForm clean]
    split
    · rfl
    · split
      · rfl
      · have skips : (!(readFromConfig (some text) (.create vidPid.toString
            (readFromConfig (some text)
              (.create "default".toList config)).2.controllerConfig)).2.iniSectionFound &&
            autoAddController) = false := by
          rw [readFromConfig_found]
          cases adds : autoAddController with
          | false => exact Bool.and_false _
          | true => simpa using listed adds
        rw [autoAdd_skipped answers vidPid defaultProfile skips,
          autoAdd_skipped answers vidPid defaultProfile skips]
        simp only [loadProfile_normalForm clean]

def commentedFile : CString :=
  ("; Sony\n[ Global ] ; all of them\n  discovery_mode = 2\ndiscovery_vidpid : 054c-*,\n" ++
    "[054C-0268]\na = 15 ; cross\n").toList

theorem commentedFile_normalForm :
    normalForm commentedFile =
        ("\n[ Global ]\ndiscovery_mode=2\ndiscovery_vidpid=054c-*,\n" ++
          "[054C-0268]\na=15\n").toList ∧
      loadGlobalConfig (some (normalForm commentedFile)) {} =
        loadGlobalConfig (some commentedFile) {} ∧
      loadControllerConfig {} (some (normalForm commentedFile)) ⟨0x054c, 0x0268⟩ true [] {} =
        loadControllerConfig {} (some commentedFile) ⟨0x054c, 0x0268⟩ true [] {} := by
  obtain ⟨globally, alike⟩ := load_normalForm commentedFile (by decide)
  exact ⟨by decide, globally {}, alike {} ⟨0x054c, 0x0268⟩ true [] {} (fun _ => by decide)⟩

end SysCon.ConfigHandler
