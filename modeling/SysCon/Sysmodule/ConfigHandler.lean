import SysCon.Sysmodule.Ini

/-!
The controller configuration file (`config_handler.cpp`): what one line sets,
and the passes of `LoadControllerConfig` over the file. The line handler is
split in two: which setting a key and its value stand for, and how a setting
changes the configuration.
-/

namespace SysCon.ConfigHandler

open CLibrary

def convertToLowercase (str : CString) : CString := str.map tolower

def buttonNames : List (CString × ControllerButton) :=
  [("b".toList, .b), ("a".toList, .a), ("x".toList, .x), ("y".toList, .y),
   ("lstick_click".toList, .lstickClick), ("lstick_left".toList, .lstickLeft),
   ("lstick_right".toList, .lstickRight), ("lstick_up".toList, .lstickUp),
   ("lstick_down".toList, .lstickDown), ("rstick_click".toList, .rstickClick),
   ("rstick_left".toList, .rstickLeft), ("rstick_right".toList, .rstickRight),
   ("rstick_up".toList, .rstickUp), ("rstick_down".toList, .rstickDown),
   ("l".toList, .l), ("r".toList, .r), ("zl".toList, .zl), ("zr".toList, .zr),
   ("minus".toList, .minus), ("plus".toList, .plus), ("dpad_up".toList, .dpadUp),
   ("dpad_right".toList, .dpadRight), ("dpad_down".toList, .dpadDown),
   ("dpad_left".toList, .dpadLeft), ("capture".toList, .capture), ("home".toList, .home)]

def stringToButton (name : CString) : ControllerButton :=
  (buttonNames.lookup (convertToLowercase name)).getD .none

def hexStringColorToRGBA (value : CString) : RGBAColor :=
  let value := if value.head? = some '#' then value.tail else value
  if value.length = 8 then ⟨toUInt32 (strtol 16 value)⟩
  else if value.length = 6 then ⟨(toUInt32 (strtol 16 value) <<< 8) ||| 0xFF⟩
  else ⟨0x000000FF⟩

def analogNames : List (CString × ControllerAnalogBinding) :=
  [("x".toList, .x), ("y".toList, .y), ("z".toList, .z), ("rz".toList, .rz), ("rx".toList, .rx),
   ("ry".toList, .ry), ("slider".toList, .slider), ("dial".toList, .dial),
   ("brake".toList, .brake), ("accelerator".toList, .accelerator), ("none".toList, .unknown)]

-- A name that is not listed leaves the sign and no axis; the caller only logs it.
def stringToAnalogConfig (cfg : CString) : ControllerAnalogConfig :=
  let stickcfg := convertToLowercase cfg
  let name :=
    if stickcfg.head? = some '-' ∨ stickcfg.head? = some '+' then stickcfg.tail else stickcfg
  { sign := if stickcfg.head? = some '-' then -1 else 1
    bind := (analogNames.lookup name).getD .unknown }

def parseHotKey (value : CString) (hotkeys : ControllerButton × ControllerButton) :
    ControllerButton × ControllerButton :=
  match strtok '+' value with
  | [] => hotkeys
  | [first] => (stringToButton first, hotkeys.2)
  | first :: second :: _ => (stringToButton first, stringToButton second)

def isNumber (s : CString) : Bool := !s.isEmpty && s.all Char.isDigit

structure Binding where
  buttonPin : Vector UInt8 MAX_PIN_BY_BUTTONS := noPins
  buttonPinIdx : Nat := 0
  analogCfg : ControllerAnalogConfig := { sign := 0, bind := .unknown }
  deriving DecidableEq

def Binding.addToken (binding : Binding) (tok : CString) : Binding :=
  if isNumber tok then
    let pin := atoi tok
    if bound : binding.buttonPinIdx < MAX_PIN_BY_BUTTONS then
      if pin < MAX_CONTROLLER_BUTTONS then
        { binding with
          buttonPin := binding.buttonPin.set binding.buttonPinIdx (toUInt8 pin)
          buttonPinIdx := binding.buttonPinIdx + 1 }
      else binding
    else binding
  else { binding with analogCfg := stringToAnalogConfig tok }

def parseBinding (value : CString) : Binding := (strtok ',' value).foldl Binding.addToken {}

def controllerTypeNames : List (CString × ControllerType) :=
  [("prowithbattery".toList, .proWithBattery), ("tarragon".toList, .tarragon),
   ("snes".toList, .snes), ("pokeballplus".toList, .pokeballPlus), ("gamecube".toList, .gamecube),
   ("pro".toList, .pro), ("3rdpartypro".toList, .thirdPartyPro), ("n64".toList, .n64),
   ("sega".toList, .sega), ("nes".toList, .nes), ("famicom".toList, .famicom)]

def stringToControllerType (value : CString) : ControllerType :=
  (controllerTypeNames.lookup (convertToLowercase value)).getD .unknown

def deadzoneNames : List (CString × ControllerAnalogBinding) :=
  [("deadzone_x".toList, .x), ("deadzone_y".toList, .y), ("deadzone_z".toList, .z),
   ("deadzone_rz".toList, .rz), ("deadzone_rx".toList, .rx), ("deadzone_ry".toList, .ry),
   ("deadzone_slider".toList, .slider), ("deadzone_dial".toList, .dial)]

def factorNames : List (CString × ControllerAnalogBinding) :=
  [("factor_x".toList, .x), ("factor_y".toList, .y), ("factor_z".toList, .z),
   ("factor_rz".toList, .rz), ("factor_rx".toList, .rx), ("factor_ry".toList, .ry),
   ("factor_slider".toList, .slider), ("factor_dial".toList, .dial)]

inductive ColorField
  | body | buttons | leftGrip | rightGrip
  deriving DecidableEq, Repr

def colorNames : List (CString × ColorField) :=
  [("color_body".toList, .body), ("color_buttons".toList, .buttons),
   ("color_leftgrip".toList, .leftGrip), ("color_rightgrip".toList, .rightGrip)]

abbrev SimulatedButton := { button : ControllerButton // button ≠ .none }

/-- What a line of the file sets. -/
inductive Setting
  | binding (button : ControllerButton) (pins : Vector UInt8 MAX_PIN_BY_BUTTONS)
      (analog : ControllerAnalogConfig)
  | driver (driver : CString)
  | profile (profile : CString)
  | inputMaxPacketSize (size : UInt32)
  | outputMaxPacketSize (size : UInt32)
  | controllerType (type : ControllerType)
  | simulate (button : SimulatedButton) (value : CString)
  | deadzone (axis : ControllerAnalogBinding) (percent : UInt8)
  | factor (axis : ControllerAnalogBinding) (percent : UInt8)
  | color (field : ColorField) (color : RGBAColor)
  | unknown
  deriving DecidableEq

def simulatePrefix : CString := "simulate_".toList

def simulateSetting (name value : CString) : Setting :=
  if valid : stringToButton (name.drop 9) ≠ .none then
    .simulate ⟨stringToButton (name.drop 9), valid⟩ value
  else .unknown

def otherSetting (name value : CString) : Setting :=
  match deadzoneNames.lookup name, factorNames.lookup name, colorNames.lookup name with
  | some axis, _, _ => .deadzone axis (toUInt8 (atoi value))
  | none, some axis, _ => .factor axis (toUInt8 (atoi value))
  | none, none, some field => .color field (hexStringColorToRGBA value)
  | none, none, none => .unknown

/-- The setting that `ParseControllerConfigLine` finds in a pair; `name` is in lower case. -/
def settingOf (name value : CString) : Setting :=
  if stringToButton name ≠ .none then
    .binding (stringToButton name) (parseBinding value).buttonPin (parseBinding value).analogCfg
  else if name = "driver".toList then .driver (convertToLowercase value)
  else if name = "profile".toList then .profile (convertToLowercase value)
  else if name = "input_max_packet_size".toList then .inputMaxPacketSize (toUInt32 (atoi value))
  else if name = "output_max_packet_size".toList then .outputMaxPacketSize (toUInt32 (atoi value))
  else if name = "controller_type".toList then .controllerType (stringToControllerType value)
  else if simulatePrefix.isPrefixOf name then simulateSetting name value
  else otherSetting name value

/-- The first slot that simulates nothing takes the button; without one nothing changes. -/
def takeFreeSlot (button : SimulatedButton) (value : CString) :
    List ControllerComboConfig → List ControllerComboConfig
  | [] => []
  | slot :: rest =>
      if slot.buttonSimulated ≠ .none then slot :: takeFreeSlot button value rest
      else ⟨button, parseHotKey value slot.buttons⟩ :: rest

theorem takeFreeSlot_length (button : SimulatedButton) (value : CString)
    (slots : List ControllerComboConfig) :
    (takeFreeSlot button value slots).length = slots.length := by
  induction slots with
  | nil => rfl
  | cons slot rest ih =>
      unfold takeFreeSlot
      split
      · simp [ih]
      · simp

def simulateCombo (combos : Vector ControllerComboConfig MAX_CONTROLLER_COMBO)
    (button : SimulatedButton) (value : CString) :
    Vector ControllerComboConfig MAX_CONTROLLER_COMBO :=
  ⟨(takeFreeSlot button value combos.toList).toArray, by simp [takeFreeSlot_length]⟩

def applyColor (config : ControllerConfig) (color : RGBAColor) : ColorField → ControllerConfig
  | .body => { config with bodyColor := color }
  | .buttons => { config with buttonsColor := color }
  | .leftGrip => { config with leftGripColor := color }
  | .rightGrip => { config with rightGripColor := color }

def applySetting (config : ControllerConfig) : Setting → ControllerConfig
  | .binding button pins analog =>
      { config with
        buttonsAnalogUsed := true
        buttonsPin := Function.update config.buttonsPin button pins
        buttonsAnalog := Function.update config.buttonsAnalog button analog }
  | .driver driver => { config with driver }
  | .profile profile => { config with profile }
  | .inputMaxPacketSize size => { config with inputMaxPacketSize := size }
  | .outputMaxPacketSize size => { config with outputMaxPacketSize := size }
  | .controllerType type => { config with controllerType := type }
  | .simulate button value =>
      { config with simulateCombos := simulateCombo config.simulateCombos button value }
  | .deadzone axis percent =>
      { config with
        analogDeadzonePercent := Function.update config.analogDeadzonePercent axis percent }
  | .factor axis percent =>
      { config with
        analogFactorPercent := Function.update config.analogFactorPercent axis percent }
  | .color field color => applyColor config color field
  | .unknown => config

structure ConfigINIData where
  iniSection : CString
  controllerConfig : ControllerConfig
  iniSectionFound : Bool := false

def ConfigINIData.create (iniSection : CString) (config : ControllerConfig) : ConfigINIData :=
  { iniSection := convertToLowercase iniSection, controllerConfig := config }

def parseControllerConfigLine : Ini.Handler ConfigINIData :=
  fun data sectionName name value =>
    if data.iniSection ≠ convertToLowercase sectionName then (1, data)
    else (1, { data with
      iniSectionFound := true
      controllerConfig :=
        applySetting data.controllerConfig (settingOf (convertToLowercase name) value) })

/-- `ReadFromConfig`; the file is what `open` finds at the path, if anything. -/
def readFromConfig (file : Option CString) (data : ConfigINIData) : Int × ConfigINIData :=
  match file with
  | none => (-1, data)
  | some text =>
      let (error, data) := Ini.iniParseStream parseControllerConfigLine text data
      (error, data)

/-- What the file system answers while a section is appended, and the text of the time. -/
structure AppendAnswers where
  fileExists : Bool := true
  opens : Bool := true
  written : Bool := true
  time : CString := []

def newSection (answers : AppendAnswers) (sectionName profile : CString) : CString :=
  "\n[".toList ++ sectionName ++ "] ; Automatically added on ".toList ++ answers.time ++
    "\n".toList ++
    if profile ≠ [] then "profile=".toList ++ profile ++ "\n".toList
    else
      ("b=1\na=2\nx=3\ny=4\nl=5\nr=6\nzl=7\nzr=8\nminus=9\nplus=10\ncapture=11\n" ++
        "home=12\n").toList

-- After a failed write the file is not read again, so what it then holds is left open.
def addControllerToConfig (answers : AppendAnswers) (file : Option CString)
    (sectionName profile : CString) : Int × Option CString :=
  if !answers.fileExists then (-1, file)
  else if !answers.opens then (-1, file)
  else if !answers.written then (-1, file)
  else (0, some (file.getD [] ++ newSection answers sectionName profile))

def hexDigit (value : Nat) : Char :=
  if value < 10 then Char.ofNat ('0'.toNat + value) else Char.ofNat ('a'.toNat + (value - 10))

def hexWord (value : UInt16) : CString :=
  [hexDigit (value.toNat / 4096), hexDigit (value.toNat / 256 % 16),
   hexDigit (value.toNat / 16 % 16), hexDigit (value.toNat % 16)]

structure ControllerVidPid where
  vid : UInt16
  pid : UInt16
  deriving DecidableEq, Repr

def ControllerVidPid.toString (vidPid : ControllerVidPid) : CString :=
  hexWord vidPid.vid ++ '-' :: hexWord vidPid.pid

section Load

variable (answers : AppendAnswers) (file : Option CString) (vidPid : ControllerVidPid)
  (autoAddController : Bool) (defaultProfile : CString)

/-- From the profile on: both remaining passes, when a profile is set. -/
def loadProfile (cfgController : ConfigINIData) : Int × ControllerConfig :=
  let config := cfgController.controllerConfig
  if config.profile.length > 0 then
    let (rc, cfgProfile) := readFromConfig file (.create config.profile config)
    if rc ≠ 0 then (rc, cfgProfile.controllerConfig)
    else
      let (rc, cfgController) :=
        readFromConfig file { cfgController with controllerConfig := cfgProfile.controllerConfig }
      (rc, cfgController.controllerConfig)
  else (0, config)

/-- The controller is added to the file where it has no section, and the file is read again. -/
def autoAdd (cfgController : ConfigINIData) : Int × Option CString × ConfigINIData :=
  if !cfgController.iniSectionFound && autoAddController then
    let (rc, file) := addControllerToConfig answers file vidPid.toString defaultProfile
    if rc ≠ 0 then (rc, file, cfgController)
    else
      let (rc, cfgController) := readFromConfig file cfgController
      (rc, file, cfgController)
  else (0, file, cfgController)

def loadControllerConfig (config : ControllerConfig) : Int × ControllerConfig :=
  let (rc, cfgDefault) := readFromConfig file (.create "default".toList config)
  if rc ≠ 0 then (rc, cfgDefault.controllerConfig)
  else
    let (rc, cfgController) :=
      readFromConfig file (.create vidPid.toString cfgDefault.controllerConfig)
    if rc ≠ 0 then (rc, cfgController.controllerConfig)
    else
      let (rc, file, cfgController) :=
        autoAdd answers file vidPid autoAddController defaultProfile cfgController
      if rc ≠ 0 then (rc, cfgController.controllerConfig)
      else loadProfile file cfgController

end Load

example : ControllerVidPid.toString ⟨0x057e, 0x2009⟩ = "057e-2009".toList := by decide

end SysCon.ConfigHandler
