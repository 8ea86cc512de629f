import SysCon.ControllerLib.Sticks
import SysCon.ControllerSwitch.ShownState
import SysCon.Sysmodule.ConfigLayers
import SysCon.Sysmodule.ConfigPins

/-!
From the configuration file to the console: the state that a virtual device is
told, by the lines of the file and the raw data of the report.
-/

namespace SysCon

open Library

namespace BaseController

/-! The buttons of a mapping that goes through, whatever the pins are. -/

theorem foldlM_mapButton_of_ok {config : ControllerConfig} {raw : RawInputData}
    {items : List ControllerButton} {buttons mapped : Buttons}
    (finished : items.foldlM (mapButton config (deadzoned config raw)) buttons = .ok mapped) :
    mapped = items.foldl
      (fun current item => Function.update current item (anyPinDown config raw item)) buttons := by
  induction items generalizing buttons with
  | nil => exact (Except.ok.inj finished).symm
  | cons item rest ih =>
      obtain ⟨turned, turn, finished⟩ := Exec.bind_eq_ok finished
      obtain ⟨pressed, read, turn⟩ := Exec.bind_eq_ok turn
      have down : pressed = anyPinDown config raw item := isPressed_of_ok read
      rw [List.foldl_cons, ← down, ih finished, ← Except.ok.inj turn]

theorem mapRawInputToNormalized_buttons_of_ok {config : ControllerConfig} {raw : RawInputData}
    {normal : NormalizedButtonData}
    (mapped : mapRawInputToNormalized config raw {} = .ok normal) :
    normal.buttons = (activeCombos config).foldl comboTurn (buttonDown config raw) := by
  unfold mapRawInputToNormalized at mapped
  obtain ⟨sticks, _, mapped⟩ := Exec.bind_eq_ok mapped
  obtain ⟨pressed, finished, mapped⟩ := Exec.bind_eq_ok mapped
  have before : (if config.buttonsAnalogUsed then
      controllerButtonList.foldl (mapAnalogButton config (deadzoned config raw)) pressed
      else pressed) = buttonDown config raw := by
    funext button
    have here : pressed button =
        (controllerButtonList.contains button && anyPinDown config raw button) := by
      rw [foldlM_mapButton_of_ok finished, foldl_update]
      by_cases listed : button ∈ controllerButtonList
      · simp [listed]
      · simp [listed]
    split
    · rename_i used
      rw [foldl_mapAnalogButton, here, buttonDown, used, Bool.true_and, ← Bool.and_or_distrib_left]
    · rename_i unused
      rw [here, buttonDown, Bool.eq_false_iff.mpr unused, Bool.false_and, Bool.or_false]
  rw [← Except.ok.inj mapped, ← before]
  exact simulate_eq_foldl _ _

end BaseController

namespace ConfigHandler

open BaseController
open Ini (Entry firstError)

/-- The lines that count: the last one for each button and each axis. -/
structure LastLines where
  binding : ControllerButton → Binding
  deadzonePercent : ControllerAnalogBinding → UInt8
  factorPercent : ControllerAnalogBinding → UInt8

namespace LastLines

variable (lines : LastLines) (raw : RawInputData)

def pinsDown (button : ControllerButton) : Bool :=
  (lines.binding button).buttonPin.toList.any (pinDown raw)

/-- How far the axis of a button is out on the bound side. -/
def axisOut (button : ControllerButton) : ℚ :=
  let analogCfg := (lines.binding button).analogCfg
  analogCfg.sign * if analogCfg.bind = .unknown then 0 else
    applyDeadzone (lines.deadzonePercent analogCfg.bind) (raw.analog analogCfg.bind)

def stickOut (button : ControllerButton) : ℚ :=
  let value := lines.axisOut raw button *
    ((lines.factorPercent (lines.binding button).analogCfg.bind).toNat / 100)
  if value > 1 then 1 else value

/-- One direction of a stick. A pin that is down goes before the axis. -/
def stickTurn (position : ℚ) (stick : StickButton) : ℚ :=
  if lines.pinsDown raw stick.button then stick.sign * 1
  else if lines.stickOut raw stick.button > 0 then stick.sign * lines.stickOut raw stick.button
  else position

def axisPosition (axis : StickAxis) : ℚ :=
  lines.stickTurn raw (lines.stickTurn raw 0 (directions axis).1) (directions axis).2

def down (button : ControllerButton) : Bool :=
  controllerButtonList.contains button &&
    (lines.pinsDown raw button || lines.axisOut raw button > 0)

end LastLines

def deadzoneValue (axis : ControllerAnalogBinding) (entry : Entry) : Option UInt8 :=
  match entrySetting entry with
  | .deadzone stored percent => if stored = axis then some percent else none
  | _ => none

def factorValue (axis : ControllerAnalogBinding) (entry : Entry) : Option UInt8 :=
  match entrySetting entry with
  | .factor stored percent => if stored = axis then some percent else none
  | _ => none

def lastLines (entries : List Entry) : LastLines where
  binding := fun button => ((lastWrite (bindingValue button) entries).map parseBinding).getD {}
  deadzonePercent := fun axis => (lastWrite (deadzoneValue axis) entries).getD 0
  factorPercent := fun axis => (lastWrite (factorValue axis) entries).getD 100

/-! The configuration that entries leave. -/

section Entries

variable (entries : List Entry)

theorem overwrites_deadzone (axis : ControllerAnalogBinding) :
    Overwrites applyEntry (fun config => config.analogDeadzonePercent axis)
      (deadzoneValue axis) := by
  intro config entry
  unfold applyEntry deadzoneValue
  cases entrySetting entry with
  | deadzone stored percent =>
      by_cases own : stored = axis
      · subst own
        simp [applySetting]
      · simp [applySetting, own, Function.update_of_ne (Ne.symm own)]
  | color field color => cases field <;> rfl
  | _ => rfl

theorem overwrites_factor (axis : ControllerAnalogBinding) :
    Overwrites applyEntry (fun config => config.analogFactorPercent axis) (factorValue axis) := by
  intro config entry
  unfold applyEntry factorValue
  cases entrySetting entry with
  | factor stored percent =>
      by_cases own : stored = axis
      · subst own
        simp [applySetting]
      · simp [applySetting, own, Function.update_of_ne (Ne.symm own)]
  | color field color => cases field <;> rfl
  | _ => rfl

theorem storedEntry_binding (button : ControllerButton) (entry : Entry) :
    storedEntry (.binding button) entry = (bindingValue button entry).map fun value =>
      .binding button (parseBinding value).buttonPin (parseBinding value).analogCfg := by
  unfold storedEntry storedSetting bindingValue
  by_cases unnamed : stringToButton (convertToLowercase entry.name) = .none
  · have silent : ¬(button ≠ .none ∧ stringToButton (convertToLowercase entry.name) = button) := by
      rintro ⟨real, own⟩
      exact real (own.symm.trans unnamed)
    have other := settingOf_ne_binding unnamed entry.value
    rw [if_neg silent]
    cases setting : entrySetting entry with
    | binding bound pins analog => exact absurd setting (other bound pins analog)
    | _ => simp [Setting.key]
  · rw [entrySetting_binding unnamed]
    simp only [Setting.key, Option.some.injEq, SettingKey.binding.injEq]
    by_cases own : stringToButton (convertToLowercase entry.name) = button
    · rw [if_pos own, if_pos ⟨own ▸ unnamed, own⟩, own]
      rfl
    · rw [if_neg own, if_neg fun both => own both.2]
      rfl

theorem binding_foldl (button : ControllerButton) :
    current (entries.foldl applyEntry {}) (.binding button) =
      ((lastWrite (bindingValue button) entries).map fun value =>
        Setting.binding button (parseBinding value).buttonPin (parseBinding value).analogCfg).getD
          (current {} (.binding button)) := by
  rw [(overwrites_entry (.binding button)).foldl, ← lastWrite_map]
  congr 2
  funext entry
  exact storedEntry_binding button entry

/-- An unbound button keeps the sign of the record, which nothing depends on without an axis. -/
theorem bound_foldl (button : ControllerButton) :
    (entries.foldl applyEntry {}).buttonsPin button =
        ((lastLines entries).binding button).buttonPin ∧
      ((entries.foldl applyEntry {}).buttonsAnalog button =
          ((lastLines entries).binding button).analogCfg ∨
        ((entries.foldl applyEntry {}).buttonsAnalog button).bind = .unknown ∧
          ((lastLines entries).binding button).analogCfg.bind = .unknown) := by
  have stored := binding_foldl entries button
  have line : (lastLines entries).binding button =
      ((lastWrite (bindingValue button) entries).map parseBinding).getD {} := rfl
  rw [line]
  cases bound : lastWrite (bindingValue button) entries with
  | some value =>
      rw [bound] at stored
      obtain ⟨-, pins, analog⟩ := Setting.binding.inj stored
      exact ⟨pins, Or.inl analog⟩
  | none =>
      rw [bound] at stored
      obtain ⟨-, pins, analog⟩ := Setting.binding.inj stored
      refine ⟨pins, Or.inr ⟨?_, rfl⟩⟩
      rw [analog]
      cases button <;> rfl

theorem axisOut_foldl (raw : RawInputData) (button : ControllerButton) :
    ((entries.foldl applyEntry {}).buttonsAnalog button).sign *
        (deadzoned (entries.foldl applyEntry {}) raw).analog
          ((entries.foldl applyEntry {}).buttonsAnalog button).bind =
      (lastLines entries).axisOut raw button := by
  have percent (axis : ControllerAnalogBinding) :
      (entries.foldl applyEntry {}).analogDeadzonePercent axis =
        (lastLines entries).deadzonePercent axis := (overwrites_deadzone axis).foldl {} entries
  unfold LastLines.axisOut deadzoned
  simp only [percent]
  rcases (bound_foldl entries button).2 with analog | ⟨unset, unbound⟩
  · rw [analog]
  · rw [if_pos unset, if_pos unbound, mul_zero, mul_zero]

theorem stickOut_foldl (raw : RawInputData) (button : ControllerButton) :
    stickValue (entries.foldl applyEntry {}) (deadzoned (entries.foldl applyEntry {}) raw) button =
      (lastLines entries).stickOut raw button := by
  have percent (axis : ControllerAnalogBinding) :
      (entries.foldl applyEntry {}).analogFactorPercent axis =
        (lastLines entries).factorPercent axis := (overwrites_factor axis).foldl {} entries
  unfold stickValue LastLines.stickOut
  simp only [percent, axisOut_foldl]
  rcases (bound_foldl entries button).2 with analog | ⟨unset, unbound⟩
  · rw [analog]
  · rw [unset, unbound]

theorem analogUsed_foldl {button : ControllerButton} {value : CString}
    (bound : lastWrite (bindingValue button) entries = some value) :
    (entries.foldl applyEntry {}).buttonsAnalogUsed = true := by
  have used : (entries.foldl applyEntry {}).buttonsAnalogUsed =
      (lastWrite usesAnalog entries).getD false := overwrites_usesAnalog.foldl {} entries
  rw [used]
  obtain ⟨entry, member, names⟩ := lastWrite_mem bound
  have named : stringToButton (convertToLowercase entry.name) ≠ .none := by
    intro unnamed
    unfold bindingValue at names
    rw [unnamed, if_neg (fun both => both.1 both.2.symm)] at names
    cases names
  cases last : lastWrite usesAnalog entries with
  | none =>
      have silent := lastWrite_eq_none.mp last entry member
      rw [usesAnalog, entrySetting_binding named] at silent
      cases silent
  | some flag =>
      obtain ⟨writer, _, writes⟩ := lastWrite_mem last
      unfold usesAnalog at writes
      cases setting : entrySetting writer with
      | binding other pins analog =>
          rw [setting] at writes
          exact (Option.some.inj writes).symm
      | _ =>
          rw [setting] at writes
          cases writes

theorem pinsDown_foldl (raw : RawInputData) (button : ControllerButton) :
    anyPinDown (entries.foldl applyEntry {}) raw button =
      (lastLines entries).pinsDown raw button := by
  rw [anyPinDown, (bound_foldl entries button).1]
  rfl

theorem down_foldl (raw : RawInputData) (button : ControllerButton) :
    buttonDown (entries.foldl applyEntry {}) raw button = (lastLines entries).down raw button := by
  unfold buttonDown axisDown LastLines.down
  rw [pinsDown_foldl, axisOut_foldl]
  cases bound : lastWrite (bindingValue button) entries with
  | some value => rw [analogUsed_foldl entries bound, Bool.true_and]
  | none =>
      have idle : (lastLines entries).axisOut raw button = 0 := by
        simp only [LastLines.axisOut, lastLines, bound, Option.map_none, Option.getD_none, zero_mul]
      simp only [idle, gt_iff_lt, lt_irrefl, decide_false, Bool.and_false]

theorem axisPosition_foldl (raw : RawInputData) (axis : StickAxis) :
    axisPosition (entries.foldl applyEntry {}) raw axis =
      (lastLines entries).axisPosition raw axis := by
  unfold axisPosition LastLines.axisPosition stickTurn LastLines.stickTurn
  simp only [pinsDown_foldl, stickOut_foldl]

theorem activeCombos_foldl :
    activeCombos (entries.foldl applyEntry {}) =
      (definedCombos entries).take MAX_CONTROLLER_COMBO := by
  rw [activeCombos, fresh_simulateCombos, filledSlots, List.takeWhile_append_of_pos]
  · cases MAX_CONTROLLER_COMBO - (definedCombos entries).length with
    | zero => simp
    | succ free => simp [List.replicate_succ]
  · intro combo member
    exact decide_eq_true (definedCombos_simulate (List.mem_of_mem_take member))

end Entries

/-- The combo neither simulates the button nor has it as a hotkey. -/
def Spares (button : ControllerButton) (combo : ControllerComboConfig) : Prop :=
  button ≠ combo.buttonSimulated ∧ button ≠ combo.buttons.1 ∧ button ≠ combo.buttons.2

theorem comboTurn_spared {combo : ControllerComboConfig} {button : ControllerButton}
    (spares : Spares button combo) (buttons : Buttons) :
    comboTurn buttons combo button = buttons button := by
  obtain ⟨simulated, first, second⟩ := spares
  unfold comboTurn
  split
  · simp only [Function.update_of_ne second, Function.update_of_ne first,
      Function.update_of_ne simulated]
  · rfl

theorem foldl_comboTurn_spared {combos : List ControllerComboConfig} {button : ControllerButton}
    (spares : ∀ combo ∈ combos, Spares button combo) (buttons : Buttons) :
    combos.foldl comboTurn buttons button = buttons button := by
  induction combos generalizing buttons with
  | nil => rfl
  | cons combo rest ih =>
      obtain ⟨here, later⟩ := List.forall_mem_cons.mp spares
      rw [List.foldl_cons, ih later, comboTurn_spared here]

section File

variable (vidPid : ControllerVidPid) (text : CString)

/-- Loading applies the section of the controller twice, and the last lines stay the last. -/
theorem lastWrite_passEntries {value : Type} (write : Entry → Option value) :
    lastWrite write (passEntries vidPid text) = lastWrite write (layeredEntries vidPid text) := by
  unfold passEntries layeredEntries profilePasses fileProfile
  generalize profileInForce (defaultEntries text ++ controllerEntries vidPid text) = profile
  by_cases unset : profile = []
  · simp [unset, profileEntries]
  · rw [if_neg unset]
    simp only [lastWrite_append]
    cases lastWrite write (controllerEntries vidPid text) <;> simp

theorem appliedEntries_kept (answers : AppendAnswers) {autoAddController : Bool}
    (defaultProfile : CString) (clean : firstError text = 0)
    (listed : autoAddController = true → controllerEntries vidPid text ≠ []) :
    appliedEntries answers vidPid autoAddController defaultProfile (some text) =
      passEntries vidPid text := by
  have skips : ((controllerEntries vidPid text).isEmpty && autoAddController) = false := by
    cases adds : autoAddController with
    | false => exact Bool.and_false _
    | true => simpa using listed adds
  simp only [appliedEntries, laterEntries, clean, skips]
  rfl

/-- The lines in the documented order of the sections. -/
def layeredLines : LastLines := lastLines (layeredEntries vidPid text)

/-- What the file makes of raw data. After the lines of the buttons, each `simulate_` line that
found a slot has its turn. -/
def fileData (raw : RawInputData) : NormalizedButtonData where
  buttons := ((definedCombos (passEntries vidPid text)).take MAX_CONTROLLER_COMBO).foldl comboTurn
    ((layeredLines vidPid text).down raw)
  sticks := (layeredLines vidPid text).axisPosition raw

theorem fileData_spared (raw : RawInputData) {button : ControllerButton}
    (spares : ∀ combo ∈ definedCombos (layeredEntries vidPid text), Spares button combo) :
    (fileData vidPid text raw).buttons button = (layeredLines vidPid text).down raw button := by
  refine foldl_comboTurn_spared ?_ _
  intro combo member
  obtain ⟨entry, written, defines⟩ := List.mem_filterMap.mp (List.mem_of_mem_take member)
  exact spares combo
    (List.mem_filterMap.mpr ⟨entry, (mem_passEntries vidPid text).mp written, defines⟩)

variable {vidPid text}

theorem mapped_eq_fileData {answers : AppendAnswers} {autoAddController : Bool}
    {defaultProfile : CString} {raw : RawInputData} {normal : NormalizedButtonData}
    (clean : firstError text = 0)
    (listed : autoAddController = true → controllerEntries vidPid text ≠ [])
    (mapped : mapRawInputToNormalized
      (loadControllerConfig answers (some text) vidPid autoAddController defaultProfile {}).2
      raw {} = .ok normal) : normal = fileData vidPid text raw := by
  have lines : lastLines (passEntries vidPid text) = layeredLines vidPid text := by
    simp only [lastLines, layeredLines, lastWrite_passEntries]
  rw [loadControllerConfig_config,
    appliedEntries_kept vidPid text answers defaultProfile clean listed] at mapped
  have buttons := mapRawInputToNormalized_buttons_of_ok mapped
  have sticks := mapRawInputToNormalized_sticks mapped
  rw [activeCombos_foldl, funext (down_foldl _ raw), lines] at buttons
  rw [funext (axisPosition_foldl _ raw), lines] at sticks
  cases normal
  exact congrArg₂ NormalizedButtonData.mk buttons sticks

end File

end ConfigHandler

namespace SwitchHDLHandler

open SwitchVirtualGamepadHandler ConfigHandler
open Ini (firstError)

/-- A read that brought a report, and the raw data that the driver parsed it to. -/
def ParsedTo (kind : DriverKind) (read : InputRead) (raw : RawInputData) : Prop :=
  ∃ controller around next parsed, Reads controller around read next ∧
    controller.driver.kind = kind ∧
    let arrived := controller.nextBuffer around 0
    arrived.2.parseData arrived.1.base around arrived.1.buffer arrived.1.size {}
        arrived.1.inputIdx = .ok parsed ∧
      parsed.status = .success ∧ parsed.inputIdx = read.inputIdx ∧ parsed.rawData = raw

theorem reads_parsed {controller next : Controller} {around : Surroundings} {read : InputRead}
    (reads : Reads controller around read next) (success : read.status = .success) :
    ∃ raw, ParsedTo controller.driver.kind read raw ∧
      BaseController.mapRawInputToNormalized controller.config raw {} = .ok read.normal := by
  have answered := reads
  obtain ⟨answer, finished, -, status, inputIdx, normal, -⟩ := answered
  by_cases served : (controller.nextBuffer around 0).1.status = .success
  · obtain ⟨parsed, parses, rfl⟩ := Controller.readInput_parsed_eq served finished
    have passed : parsed.status = .success := status.trans success
    simp only [Controller.afterParse, passed, ne_eq, not_true_eq_false, if_false] at normal
    exact ⟨parsed.rawData,
      ⟨controller, around, next, parsed, reads, rfl, parses, passed, inputIdx, rfl⟩, normal⟩
  · rw [Controller.readInput_idle served] at finished
    cases finished
    exact absurd (status.trans success) served

/-- Each report of the run, parsed by a driver of one kind and mapped under one configuration. -/
structure Mapped (kind : DriverKind) (config : ControllerConfig) (slot : InputIdx)
    (actions : List (UpdateCall HiddbgAnswers × InputRead))
    (state : Controller × SwitchVirtualGamepadHandler HdlPads) : Prop where
  faithful : Faithful config slot actions state
  sameKind : state.1.driver.kind = kind
  mapped : ∀ read ∈ actions.map Prod.snd, read.status = .success → ∃ raw, ParsedTo kind read raw ∧
    BaseController.mapRawInputToNormalized config raw {} = .ok read.normal

theorem inputStep_mapped {kind : DriverKind} {config : ControllerConfig} {slot : InputIdx}
    {actions : List (UpdateCall HiddbgAnswers × InputRead)}
    {state next : Controller × SwitchVirtualGamepadHandler HdlPads}
    {action : UpdateCall HiddbgAnswers × InputRead} (mapped : Mapped kind config slot actions state)
    (step : inputStep backend state action next) :
    Mapped kind config slot (actions ++ [action]) next := by
  have reads := step.1
  have answered := reads
  obtain ⟨answer, finished, same, -⟩ := answered
  refine ⟨inputStep_faithful mapped.faithful step, ?_, ?_⟩
  · rw [← same, (Controller.readInput_progress finished).1.driver.kind, mapped.sameKind]
  · intro read member success
    rw [List.map_append] at member
    rcases List.mem_append.mp member with before | here
    · exact mapped.mapped read before success
    · obtain rfl := List.mem_singleton.mp here
      rw [← mapped.sameKind, ← mapped.faithful.sameConfig]
      exact reads_parsed reads success

/-- The device of the input was last told what the file makes of the raw data of this report. A
button outside the `simulate_` lines was told to be down exactly when a pin or the axis that its
last line binds it to is. -/
def ToldByFile (vidPid : ControllerVidPid) (text : CString) (kind : DriverKind) (pads : HdlPads)
    (slot : InputIdx) (read : InputRead) : Prop :=
  ∃ raw, ParsedTo kind read raw ∧ read.Delivers slot ∧
    (callsOf pads slot).head? = some (.setHdlsState slot (pads.hdlHandle slot)
      (gamepadState (fileData vidPid text raw))) ∧
    ∀ button mask, (button, mask) ∈ npadButtonList →
      (∀ combo ∈ definedCombos (layeredEntries vidPid text), Spares button combo) →
      ((gamepadState (fileData vidPid text raw)).buttons &&& mask ≠ 0 ↔
        (layeredLines vidPid text).pinsDown raw button = true ∨
          0 < (layeredLines vidPid text).axisOut raw button)

theorem gamepadState_fileData (vidPid : ControllerVidPid) (text : CString) (raw : RawInputData)
    {button : ControllerButton} {mask : UInt64} (listed : (button, mask) ∈ npadButtonList)
    (spares : ∀ combo ∈ definedCombos (layeredEntries vidPid text), Spares button combo) :
    (gamepadState (fileData vidPid text raw)).buttons &&& mask ≠ 0 ↔
      (layeredLines vidPid text).pinsDown raw button = true ∨
        0 < (layeredLines vidPid text).axisOut raw button := by
  have mappable : ∀ each ∈ npadButtonList,
      BaseController.controllerButtonList.contains each.1 = true := by decide
  rw [gamepadState, npadButtons_and_ne_zero _ listed, fileData_spared vidPid text raw spares,
    LastLines.down, mappable _ listed, Bool.true_and, Bool.or_eq_true, decide_eq_true_eq]

def swappedFile : CString := "[default]\na=2\nb=1,rx\nsimulate_home=l+r\n".toList

def swappedPad : Controller where
  base := { inPipe := [⟨0, 32⟩], interfaces := [0] }
  driver := .xbox360
  config := (loadControllerConfig {} (some swappedFile) ⟨0x045e, 0x028e⟩ false [] {}).2

def pinOnePressed (handle : { handle : UInt64 // handle ≠ 0 }) : UpdateCall HiddbgAnswers :=
  ⟨⟨.ok handle, 0⟩,
    Controller.reportAt 0 [0, 14, 0, 0x10, 0, 0, 0, 0, 0, 0, 0, 0, 0, 0] none⟩

def swappedPads : HdlPads := reset {} ⟨0, by decide⟩

end SwitchHDLHandler

end SysCon
