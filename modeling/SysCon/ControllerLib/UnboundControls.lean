import SysCon.ControllerLib.ReadPath
import SysCon.ControllerLib.Sticks

/-!
Pin 0 marks a control that is not bound, and it is a raw button too. No driver
but the generic one ever sets that button, whatever it keeps between reports, so
what is not bound stays neutral; only a combo can raise a button then.
-/

namespace SysCon

open Library

def RawInputData.ZeroUp (raw : RawInputData) : Prop := raw.buttons 0 = false

theorem RawInputData.ZeroUp.assign {raw : RawInputData} (up : raw.ZeroUp)
    {buttons : List (ButtonId × Bool)} (numbered : 0 ∉ buttons.map Prod.fst)
    (analog : List (ControllerAnalogType × ℚ)) : (raw.assign buttons analog).ZeroUp := by
  have unwritten : lastWrite (assigned 0) buttons = none := by
    rw [lastWrite_eq_none]
    intro entry member
    refine if_neg ?_
    intro zero
    exact numbered (List.mem_map.mpr ⟨entry, member, zero⟩)
  change updates raw.buttons buttons 0 = false
  rw [updates_apply, unwritten]
  exact up

/-! The drivers. -/

section Drivers

variable {base : BaseController} {buffer : Buffer} {size inputIdx : Nat} {rawData : RawInputData}

theorem ParsedAs.zeroUp {state : Type} {smallest : Nat} {parsed : Parsed state}
    (parsedAs : ParsedAs smallest size inputIdx rawData parsed) (up : rawData.ZeroUp) :
    parsed.rawData.ZeroUp := by
  cases parsedAs with
  | ignored _ => exact up
  | input _ numbered => exact up.assign numbered _

theorem XboxOneController.buttons_numbered (data : Buffer) : 0 ∉ (buttons data).map Prod.fst := by
  simp only [buttons, List.map_cons, List.map_nil]
  decide

/-- The record that the driver keeps is the one that it hands out. -/
theorem XboxOneController.parseData_zeroUp {controller : XboxOneController}
    {results : WriteResults} (kept : controller.rawInput.ZeroUp) (up : rawData.ZeroUp) :
    let parsed := controller.parseData base results buffer size rawData inputIdx
    parsed.rawData.ZeroUp ∧ parsed.state.rawInput.ZeroUp := by
  have input : (controller.storeInput buffer).rawInput.ZeroUp :=
    kept.assign (buttons_numbered buffer) _
  have other : (0 : ButtonId) ≠ modeButton := by decide
  have mode : (controller.storeMode buffer).rawInput.ZeroUp := kept.assign (by simpa using other) _
  unfold parseData
  split
  · split
    · exact ⟨up, kept⟩
    · exact ⟨input, input⟩
  · split
    · split
      · exact ⟨up, kept⟩
      · split
        · simp only
          split
          · exact ⟨up, mode⟩
          · exact ⟨mode, mode⟩
        · exact ⟨mode, mode⟩
    · exact ⟨up, kept⟩

theorem SteamController2026.buttons_numbered (data : Buffer) : 0 ∉ (buttons data).map Prod.fst := by
  simp only [buttons, List.map_cons, List.map_nil]
  decide

theorem SteamController2026.parseStatus_rawInput {controller : SteamController2026}
    {isConnected : Bool} {stored : SteamController2026 × List Output}
    (finished : controller.parseStatus base isConnected inputIdx = .ok stored) :
    stored.1.rawInput = controller.rawInput := by
  unfold parseStatus at finished
  obtain ⟨_, _, finished⟩ := Exec.bind_eq_ok finished
  split at finished
  · obtain ⟨_, _, finished⟩ := Exec.bind_eq_ok finished
    cases finished
    rfl
  · split at finished
    · obtain ⟨_, _, finished⟩ := Exec.bind_eq_ok finished
      cases finished
      rfl
    · cases finished
      rfl

theorem SteamController2026.parseData_zeroUp {controller : SteamController2026}
    {parsed : Parsed SteamController2026} (kept : controller.rawInput.ZeroUp) (up : rawData.ZeroUp)
    (finished : controller.parseData base buffer size rawData inputIdx = .ok parsed) :
    parsed.rawData.ZeroUp ∧ parsed.state.rawInput.ZeroUp := by
  have input := kept.assign (buttons_numbered buffer) (analog buffer)
  unfold parseData at finished
  split at finished
  · cases finished
    exact ⟨up, kept⟩
  · split at finished
    · split at finished
      · cases finished
        exact ⟨up, kept⟩
      · simp only at finished
        obtain ⟨connected, _, finished⟩ := Exec.bind_eq_ok finished
        split at finished
        · obtain ⟨⟨stored, sent⟩, stores, finished⟩ := Exec.bind_eq_ok finished
          obtain ⟨_, _, stores⟩ := Exec.bind_eq_ok stores
          cases stores
          cases finished
          exact ⟨input, input⟩
        · cases finished
          exact ⟨input, input⟩
    · split at finished
      · obtain ⟨⟨stored, sent⟩, stores, finished⟩ := Exec.bind_eq_ok finished
        cases finished
        refine ⟨up, ?_⟩
        rw [parseStatus_rawInput stores]
        exact kept
      · cases finished
        exact ⟨up, kept⟩

end Drivers

namespace Driver

/-- What the driver keeps between reports has raw button 0 up. -/
def ZeroUp : Driver → Prop
  | .xboxOne state => state.rawInput.ZeroUp
  | .steamController2026 state => state.rawInput.ZeroUp
  | .genericHID _ => False
  | _ => True

theorem create_zeroUp {kind : DriverKind} (known : kind ≠ .genericHID) (memory : Buffer)
    (flags : Slots Bool) : (create memory flags kind).ZeroUp := by
  cases kind with
  | xboxOne => rfl
  | steamController2026 => rfl
  | genericHID => exact absurd rfl known
  | _ => trivial

theorem readNextBuffer_zeroUp {driver : Driver} (kept : driver.ZeroUp) (base : BaseController)
    (pending : Pending) (buffer : Buffer) (size inputIdx : Nat) :
    (driver.readNextBuffer base pending buffer size inputIdx).2.ZeroUp := by
  cases driver with
  | wii state => trivial
  | _ => exact kept

theorem parseData_zeroUp {driver : Driver} {base : BaseController} {around : Surroundings}
    {buffer : Buffer} {size inputIdx : Nat} {rawData : RawInputData} {parsed : Parsed Driver}
    (kept : driver.ZeroUp) (up : rawData.ZeroUp)
    (finished : driver.parseData base around buffer size rawData inputIdx = .ok parsed) :
    parsed.rawData.ZeroUp ∧ parsed.state.ZeroUp := by
  cases driver with
  | xbox =>
      cases finished
      exact ⟨XboxController.parseData_parsedAs.zeroUp up, trivial⟩
  | xbox360 =>
      cases finished
      exact ⟨Xbox360Controller.parseData_parsedAs.zeroUp up, trivial⟩
  | dualshock3 =>
      cases finished
      exact ⟨Dualshock3Controller.parseData_parsedAs.zeroUp up, trivial⟩
  | switch state =>
      cases finished
      exact ⟨SwitchController.parseData_parsedAs.zeroUp up, trivial⟩
  | xboxOne state =>
      cases finished
      exact XboxOneController.parseData_zeroUp kept up
  | xbox360Wireless state =>
      obtain ⟨inner, parsedOk, rfl⟩ := map_eq_ok finished
      exact ⟨(Xbox360WirelessController.parseData_parsedAs parsedOk).zeroUp up, trivial⟩
  | wii state =>
      obtain ⟨inner, parsedOk, rfl⟩ := map_eq_ok finished
      exact ⟨(WiiController.parseData_parsedAs parsedOk).1.zeroUp up, trivial⟩
  | steamController2026 state =>
      obtain ⟨inner, parsedOk, rfl⟩ := map_eq_ok finished
      exact SteamController2026.parseData_zeroUp kept up parsedOk
  | genericHID state => exact kept.elim

end Driver

/-! What is not bound stays neutral as long as raw button 0 is up. -/

namespace BaseController

structure Unbound (config : ControllerConfig) (button : ControllerButton) : Prop where
  pins : config.buttonsPin button = noPins
  binding : (config.buttonsAnalog button).bind = .unknown

/-- A combo that simulates the button fires in its turn. -/
def Simulated (config : ControllerConfig) (raw : RawInputData) (button : ControllerButton) : Prop :=
  ∃ earlier combo later, activeCombos config = earlier ++ combo :: later ∧
    combo.buttonSimulated = button ∧
    fires (earlier.foldl comboTurn (buttonDown config raw)) combo = true

structure Neutral (config : ControllerConfig) (raw : RawInputData)
    (normal : NormalizedButtonData) : Prop where
  buttons : ∀ button, Unbound config button → normal.buttons button = true →
    Simulated config raw button
  sticks : ∀ axis, Unbound config (directions axis).1.button →
    Unbound config (directions axis).2.button → normal.sticks axis = 0

section Unbound

variable {config : ControllerConfig} {raw : RawInputData}

theorem deadzoned_unknown (config : ControllerConfig) (raw : RawInputData) :
    (deadzoned config raw).analog .unknown = 0 := by
  simp [deadzoned]

theorem Unbound.buttonDown {button : ControllerButton} (unbound : Unbound config button)
    (up : raw.ZeroUp) : buttonDown config raw button = false := by
  have axis : axisDown config raw button = false := by
    rw [axisDown, unbound.binding, deadzoned_unknown, mul_zero]
    exact decide_eq_false (lt_irrefl 0)
  rw [BaseController.buttonDown, anyPinDown_noPins unbound.pins up, axis, Bool.and_false,
    Bool.or_false, Bool.and_false]

theorem Unbound.stickTurn {stick : StickButton} (unbound : Unbound config stick.button)
    (up : raw.ZeroUp) (current : ℚ) : stickTurn config raw current stick = current := by
  have value : stickValue config (deadzoned config raw) stick.button = 0 := by
    rw [stickValue, unbound.binding, deadzoned_unknown, mul_zero, zero_mul]
    exact if_neg (not_lt.mpr zero_le_one)
  rw [BaseController.stickTurn, anyPinDown_noPins unbound.pins up, value]
  simp

theorem comboTurn_raised {buttons : Buttons} {combo : ControllerComboConfig}
    {button : ControllerButton} (up : buttons button = false)
    (down : comboTurn buttons combo button = true) :
    combo.buttonSimulated = button ∧ fires buttons combo = true := by
  cases fired : fires buttons combo with
  | false =>
      rw [comboTurn_idle fired, up] at down
      exact Bool.noConfusion down
  | true =>
      refine ⟨?_, rfl⟩
      rw [comboTurn_fired fired] at down
      split at down
      · exact Bool.noConfusion down
      · split at down
        · rename_i same
          exact same.symm
        · rw [up] at down
          exact Bool.noConfusion down

theorem foldl_comboTurn_raised {combos : List ControllerComboConfig} {buttons : Buttons}
    {button : ControllerButton} (up : buttons button = false)
    (down : combos.foldl comboTurn buttons button = true) :
    ∃ earlier combo later, combos = earlier ++ combo :: later ∧ combo.buttonSimulated = button ∧
      fires (earlier.foldl comboTurn buttons) combo = true := by
  induction combos generalizing buttons with
  | nil =>
      rw [List.foldl_nil, up] at down
      exact Bool.noConfusion down
  | cons combo rest ih =>
      cases turned : comboTurn buttons combo button with
      | true => exact ⟨[], combo, rest, rfl, comboTurn_raised up turned⟩
      | false =>
          obtain ⟨earlier, raising, later, rfl, simulates, fired⟩ := ih turned down
          exact ⟨combo :: earlier, raising, later, rfl, simulates, fired⟩

theorem neutral_of_zeroUp (up : raw.ZeroUp) :
    Neutral config raw ⟨(activeCombos config).foldl comboTurn (buttonDown config raw),
      axisPosition config raw⟩ where
  buttons := by
    intro button unbound down
    exact foldl_comboTurn_raised (unbound.buttonDown up) down
  sticks := by
    intro axis first second
    change axisPosition config raw axis = 0
    rw [axisPosition, second.stickTurn up, first.stickTurn up]

end Unbound

end BaseController

/-! Runs of `ReadInput`. -/

namespace Controller

structure ReadCall where
  around : Surroundings
  normalData : NormalizedButtonData
  given : Nat

def Reads (controller : Controller) (call : ReadCall) (next : Controller) : Prop :=
  ∃ read, controller.readInput call.around call.normalData call.given = .ok read ∧
    read.controller = next

/-- What `ParseData` makes of the report that a `ReadInput` reads. -/
def parsed (controller : Controller) (around : Surroundings) (given : Nat) :
    Exec (Parsed Driver) :=
  let (next, driver) := controller.nextBuffer around given
  driver.parseData next.base around next.buffer next.size {} next.inputIdx

variable {controller next last : Controller} {around : Surroundings} {given : Nat}
  {normalData : NormalizedButtonData} {read : ReadInput}

theorem parsed_zeroUp (kept : controller.driver.ZeroUp) {result : Parsed Driver}
    (finished : controller.parsed around given = .ok result) :
    result.rawData.ZeroUp ∧ result.state.ZeroUp :=
  Driver.parseData_zeroUp (Driver.readNextBuffer_zeroUp kept _ _ _ _ _)
    (rfl : RawInputData.ZeroUp {}) finished

structure Inv (config : ControllerConfig) (controller : Controller) : Prop where
  driver : controller.driver.ZeroUp
  config : controller.config = config

theorem Inv.reads {config : ControllerConfig} (inv : Inv config controller) {call : ReadCall}
    (reads : Reads controller call next) : Inv config next := by
  obtain ⟨read, finished, rfl⟩ := reads
  refine ⟨?_, (readInput_progress finished).1.config.trans inv.config⟩
  by_cases success : (controller.nextBuffer call.around call.given).1.status = .success
  · obtain ⟨result, parses, rfl⟩ := readInput_parsed_eq success finished
    exact (parsed_zeroUp inv.driver parses).2
  · rw [readInput_idle success] at finished
    cases finished
    exact Driver.readNextBuffer_zeroUp inv.driver _ _ _ _ _

theorem Inv.run {config : ControllerConfig} (inv : Inv config controller) {calls : List ReadCall}
    (run : Run Reads controller calls last) : Inv config last :=
  run.invariant inv fun _ _ _ inv reads => inv.reads reads

theorem readInput_success (finished : controller.readInput around normalData given = .ok read)
    (success : read.status = .success) :
    ∃ result, controller.parsed around given = .ok result ∧
      read.normal = BaseController.mapRawInputToNormalized controller.config result.rawData
        normalData := by
  by_cases served : (controller.nextBuffer around given).1.status = .success
  · obtain ⟨result, parses, rfl⟩ := readInput_parsed_eq served finished
    exact ⟨result, parses, if_neg (not_not.mpr success)⟩
  · rw [readInput_idle served] at finished
    cases finished
    exact absurd success served

theorem unbound_neutral {kind : DriverKind} (known : kind ≠ .genericHID) (memory : Buffer)
    (flags : Slots Bool) (base : BaseController) {config : ControllerConfig}
    (pins : BaseController.PinsInRange config) {calls : List ReadCall} {last : Controller}
    (run : Run Reads { base, driver := .create memory flags kind, config } calls last)
    {around : Surroundings} {given : Nat} {read : ReadInput}
    (finished : last.readInput around {} given = .ok read) (success : read.status = .success) :
    ∃ result normal, last.parsed around given = .ok result ∧ read.normal = .ok normal ∧
      BaseController.Neutral config result.rawData normal := by
  have start : Inv config { base, driver := .create memory flags kind, config } :=
    ⟨Driver.create_zeroUp known memory flags, rfl⟩
  have inv := start.run run
  obtain ⟨result, parses, normal⟩ := readInput_success finished success
  rw [inv.config, BaseController.mapRawInputToNormalized_eq pins] at normal
  have up := (parsed_zeroUp inv.driver parses).1
  exact ⟨result, _, parses, normal, BaseController.neutral_of_zeroUp up⟩

/-- An Xbox controller with nothing bound, and a report with every button down. -/
def unboundXbox : Controller where
  base := { inPipe := [⟨0, 32⟩] }
  driver := .create (fun _ => 0) (Vector.replicate CONTROLLER_MAX_INPUTS false) .xbox

def allDown : Surroundings := reportAt 0 (List.replicate 20 0xff) none

theorem unbound_neutral_xbox :
    ∃ last read, Run Reads unboundXbox [⟨allDown, {}, 0⟩] last ∧
      last.readInput allDown {} 0 = .ok read ∧ read.status = .success ∧
      ∃ result normal, last.parsed allDown 0 = .ok result ∧ read.normal = .ok normal ∧
        BaseController.Neutral {} result.rawData normal := by
  have pins : BaseController.PinsInRange {} := by
    intro button index bound
    simp [noPins]
  have run : Run Reads unboundXbox [⟨allDown, {}, 0⟩] _ := .cons ⟨_, rfl, rfl⟩ (.nil _)
  have known : DriverKind.xbox ≠ .genericHID := by decide
  exact ⟨_, _, run, rfl, rfl, unbound_neutral known _ _ _ pins run rfl rfl⟩

end Controller

end SysCon
