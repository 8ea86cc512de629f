import SysCon.ControllerLib.ReportBytes

/-!
Which bytes of its buffer `ParseData` looks at. A driver decodes a report from
the bytes received when no other memory behind them changes the status, the raw
input or the driver. The drivers that read their header before they look at the
size do not do so for every truncated report.
-/

namespace SysCon

open Buffer (AgreeOn)
open BaseController (normalize)

namespace Xbox360WirelessController

theorem dependsOn_buttons :
    DependsOn (fun buffer : Buffer => Xbox360Controller.buttons (buffer.shift 4)) (Set.Iio 18) :=
  Buffer.dependsOn_of_take fun _ => rfl

theorem dependsOn_analog :
    DependsOn (fun buffer : Buffer => Xbox360Controller.analog (buffer.shift 4)) (Set.Iio 18) :=
  Buffer.dependsOn_of_take fun _ => rfl

/-- What was received may begin a controller report, but ends inside its header. -/
def HeaderCut (buffer : Buffer) (size : Nat) : Prop :=
  size < 4 ∧ buffer 0 = 0x00 ∧ (1 < size → buffer 1 = 0x01) ∧ (2 < size → buffer 2 = 0x00)

/-- A controller report that passes the check of its size, which leaves out the header. -/
def ButtonDataCut (buffer : Buffer) (size : Nat) : Prop :=
  isControllerData buffer ∧ Xbox360Controller.sizeofButtonData ≤ size ∧
    size < 4 + Xbox360Controller.sizeofButtonData ∧ buffer 4 = Xbox360Controller.XBOX360INPUT_BUTTON

def HeaderReceived (buffer : Buffer) (size inputIdx : Nat) : Prop :=
  (isStatusReport buffer → 2 ≤ size ∨ CONTROLLER_MAX_INPUTS ≤ inputIdx) ∧
    ¬HeaderCut buffer size ∧ ¬ButtonDataCut buffer size

theorem parseData_status (base : BaseController) (controller : Xbox360WirelessController)
    {buffer : Buffer} (status : isStatusReport buffer) (size : Nat) (rawData : RawInputData)
    (inputIdx : Nat) :
    controller.parseData base buffer size rawData inputIdx =
      (controller.parseStatus base (buffer.bit 1 7) inputIdx >>= fun next =>
        .ok ⟨.nothingTodo, rawData, inputIdx, next.1, next.2⟩) := by
  rw [parseData, if_pos status]
  rfl

theorem parseData_controllerData (base : BaseController) (controller : Xbox360WirelessController)
    {buffer : Buffer} (header : isControllerData buffer) (size : Nat) (rawData : RawInputData)
    (inputIdx : Nat) :
    controller.parseData base buffer size rawData inputIdx =
      if size < Xbox360Controller.sizeofButtonData then
        .ok ⟨.unexpectedData, rawData, inputIdx, controller, []⟩
      else if buffer 4 = Xbox360Controller.XBOX360INPUT_BUTTON then
        .ok ⟨.success, rawData.assign (Xbox360Controller.buttons (buffer.shift 4))
          (Xbox360Controller.analog (buffer.shift 4)), inputIdx, controller, []⟩
      else .ok ⟨.nothingTodo, rawData, inputIdx, controller, []⟩ := by
  have noStatus : ¬isStatusReport buffer := by
    simp only [isControllerData, decide_eq_true_eq] at header
    rw [isStatusReport, Buffer.bit, header.1]
    decide
  rw [parseData, if_neg noStatus, if_pos header]
  rfl

theorem parseData_other (base : BaseController) (controller : Xbox360WirelessController)
    {buffer : Buffer} (noStatus : ¬isStatusReport buffer) (noHeader : ¬isControllerData buffer)
    (size : Nat) (rawData : RawInputData) (inputIdx : Nat) :
    controller.parseData base buffer size rawData inputIdx =
      .ok ⟨.nothingTodo, rawData, inputIdx, controller, []⟩ := by
  rw [parseData, if_neg noStatus, if_neg noHeader]
  rfl

theorem isStatusReport_congr {buffer other : Buffer} {size : Nat}
    (agree : AgreeOn size buffer other) (nonempty : 1 ≤ size) :
    isStatusReport other = isStatusReport buffer := by
  rw [isStatusReport, isStatusReport, Buffer.bit, Buffer.bit, agree 0 nonempty]

theorem isControllerData_congr {buffer other : Buffer} {size : Nat}
    (agree : AgreeOn size buffer other) (nonempty : 1 ≤ size)
    (whole : ¬HeaderCut buffer size) : isControllerData other = isControllerData buffer := by
  by_cases short : size < 4
  · have differs : ¬isControllerData buffer ∧ ¬isControllerData other := by
      simp only [isControllerData, decide_eq_true_eq]
      constructor
      · rintro ⟨first, second, third, _⟩
        exact whole ⟨short, first, fun _ => second, fun _ => third⟩
      · rintro ⟨first, second, third, _⟩
        refine whole ⟨short, ?_, ?_, ?_⟩
        · rw [agree 0 nonempty, first]
        · intro received
          rw [agree 1 received, second]
        · intro received
          rw [agree 2 received, third]
    rw [Bool.eq_false_of_not_eq_true differs.1, Bool.eq_false_of_not_eq_true differs.2]
  · rw [isControllerData, isControllerData, agree 0 (by omega), agree 1 (by omega),
      agree 2 (by omega), agree 3 (by omega)]

theorem parseData_congr (base : BaseController) (controller : Xbox360WirelessController)
    {buffer other : Buffer} {size : Nat} (agree : AgreeOn size buffer other) (nonempty : 1 ≤ size)
    (rawData : RawInputData) (inputIdx : Nat) (received : HeaderReceived buffer size inputIdx) :
    controller.parseData base buffer size rawData inputIdx =
      controller.parseData base other size rawData inputIdx := by
  obtain ⟨flagReceived, headerWhole, buttonsWhole⟩ := received
  have sameStatus := isStatusReport_congr agree nonempty
  have sameHeader := isControllerData_congr agree nonempty headerWhole
  by_cases status : isStatusReport buffer
  · rw [parseData_status base controller status,
      parseData_status base controller (sameStatus.trans status)]
    rcases flagReceived status with flag | outside
    · rw [Buffer.bit, Buffer.bit, agree 1 flag]
    · rw [parseStatus_of_ge base controller _ (Nat.not_lt.mpr outside),
        parseStatus_of_ge base controller _ (Nat.not_lt.mpr outside)]
  · by_cases header : isControllerData buffer
    · rw [parseData_controllerData base controller header,
        parseData_controllerData base controller (sameHeader.trans header)]
      by_cases short : size < Xbox360Controller.sizeofButtonData
      · rw [if_pos short, if_pos short]
      · have enough : 14 ≤ size := Nat.not_lt.mp short
        rw [if_neg short, if_neg short, agree 4 (by omega)]
        by_cases isButton : other 4 = Xbox360Controller.XBOX360INPUT_BUTTON
        · have all : 18 ≤ size := by
            apply Nat.not_lt.mp
            intro cut
            exact buttonsWhole ⟨header, enough, cut, (agree 4 (by omega)).trans isButton⟩
          rw [agree.reading_eq dependsOn_buttons all, agree.reading_eq dependsOn_analog all]
        · rw [if_neg isButton, if_neg isButton]
    · rw [parseData_other base controller status header,
        parseData_other base controller (sameStatus ▸ status) (sameHeader ▸ header)]

/-! Memory behind a truncated report that makes a difference. -/

theorem parseData_status_ne (base : BaseController) (controller : Xbox360WirelessController)
    {buffer other : Buffer} (status : isStatusReport buffer) (otherStatus : isStatusReport other)
    (differs : buffer.bit 1 7 ≠ other.bit 1 7) (size otherSize : Nat) (rawData : RawInputData)
    {inputIdx : Nat} (bound : inputIdx < CONTROLLER_MAX_INPUTS) :
    (controller.parseData base buffer size rawData inputIdx).map Parsed.outcome ≠
      (controller.parseData base other otherSize rawData inputIdx).map Parsed.outcome := by
  rw [parseData_status base controller status, parseData_status base controller otherStatus]
  obtain ⟨sent, parsed⟩ := parseStatus_of_lt base controller (buffer.bit 1 7) bound
  obtain ⟨otherSent, otherParsed⟩ := parseStatus_of_lt base controller (other.bit 1 7) bound
  rw [parsed, otherParsed]
  intro same
  apply differs
  have two : inputIdx < 4 := bound
  have flags := congrArg
    (fun final => final.toOption.map fun outcome => outcome.2.2.isConnected[inputIdx]) same
  simpa [bind, Except.bind, Except.map, Except.toOption, Parsed.outcome] using flags

theorem analog_rz (raw : RawInputData) (buttons : List (ButtonId × Bool)) (data : Buffer) :
    (raw.assign buttons (Xbox360Controller.analog data)).analog .rz =
      normalize (-data.int16 12) (-32768) 32767 := by
  obtain ⟨front, last⟩ : ∃ front, Xbox360Controller.analog data =
      front ++ [(.rz, normalize (-data.int16 12) (-32768) 32767)] := ⟨[_, _, _, _, _], rfl⟩
  rw [last]
  exact Library.updates_concat raw.analog front .rz _

theorem normalize_of_nonpos {value : Int} (lower : -32768 ≤ value) (upper : value ≤ 0) :
    normalize value (-32768) 32767 = value / 32768 := by
  have lowerQ : (-32768 : ℚ) ≤ value := by exact_mod_cast lower
  have upperQ : (value : ℚ) ≤ 0 := by exact_mod_cast upper
  have scaled : (if value < 0 then ((value - (-32768 : Int) : ℚ) / (0 - (-32768) : Int)) - 1
      else (value - (0 : Int) : ℚ) / (32767 - 0 : Int)) = (value : ℚ) / 32768 := by
    by_cases negative : value < 0
    · rw [if_pos negative]
      push_cast
      linarith
    · have zero : value = 0 := by omega
      subst value
      norm_num
  have above : ¬(value : ℚ) / 32768 > 1 := by linarith
  have below : ¬(value : ℚ) / 32768 < -1 := by linarith
  have center : ((32767 : Int) + -32768).tdiv 2 = 0 := by decide
  rw [BaseController.normalize, center]
  unfold BaseController.normalizeAround
  rw [scaled]
  simp only [above, below, if_false]

theorem rz_of_high_zero {buffer : Buffer} (high : buffer 17 = 0x00) :
    -(1 / 2) < normalize (-(buffer.shift 4).int16 12) (-32768) 32767 := by
  have low := (buffer 16).toNat_lt
  have value : (buffer.shift 4).int16 12 = (buffer 16).toNat := by
    simp only [Buffer.int16, Buffer.uint16, Buffer.shift, Nat.reduceAdd, high]
    simp [Int.bmod]
    omega
  rw [value, normalize_of_nonpos (by omega) (by omega)]
  have small : ((buffer 16).toNat : ℚ) < 256 := by exact_mod_cast low
  push_cast
  linarith

theorem rz_of_high_half {buffer : Buffer} (high : buffer 17 = 0x40) :
    normalize (-(buffer.shift 4).int16 12) (-32768) 32767 ≤ -(1 / 2) := by
  have low := (buffer 16).toNat_lt
  have value : (buffer.shift 4).int16 12 = (buffer 16).toNat + 16384 := by
    simp only [Buffer.int16, Buffer.uint16, Buffer.shift, Nat.reduceAdd, high]
    simp [Int.bmod]
    omega
  rw [value, normalize_of_nonpos (by omega) (by omega)]
  have small : (0 : ℚ) ≤ (buffer 16).toNat := by exact_mod_cast Nat.zero_le _
  push_cast
  linarith

section Indifferent

variable {base : BaseController} {controller : Xbox360WirelessController} {buffer : Buffer}
  {size inputIdx : Nat} {rawData : RawInputData}

def Indifferent (base : BaseController) (controller : Xbox360WirelessController) (buffer : Buffer)
    (size : Nat) (rawData : RawInputData) (inputIdx : Nat) : Prop :=
  ∀ memory other : Buffer,
    (controller.parseData base (buffer.before size memory) size rawData inputIdx).map
        Parsed.outcome =
      (controller.parseData base (buffer.before size other) size rawData inputIdx).map
        Parsed.outcome

theorem before_of_lt (memory : Buffer) {index : Nat} (bound : index < size) :
    buffer.before size memory index = buffer index :=
  (Buffer.agreeOn_before buffer size memory index bound).symm

theorem flag_received (same : Indifferent base controller buffer size rawData inputIdx)
    (nonempty : 1 ≤ size) (status : isStatusReport buffer) :
    2 ≤ size ∨ CONTROLLER_MAX_INPUTS ≤ inputIdx := by
  by_contra neither
  obtain ⟨cut, bound⟩ := not_or.mp neither
  have keepsStatus (memory : Buffer) : isStatusReport (buffer.before size memory) :=
    (isStatusReport_congr (Buffer.agreeOn_before buffer size memory) nonempty).trans status
  apply parseData_status_ne base controller (keepsStatus fun _ => 0x80)
    (keepsStatus fun _ => 0x00) ?_ size size rawData (Nat.not_le.mp bound)
  · exact same (fun _ => 0x80) (fun _ => 0x00)
  · simp only [Buffer.bit, Buffer.before_of_ge buffer _ (Nat.not_lt.mp cut)]
    decide

theorem header_completed (nonempty : 1 ≤ size) (headerCut : HeaderCut buffer size) :
    isControllerData
      (buffer.before size fun index => [0x00, 0x01, 0x00, 0xf0].getD index 0) := by
  obtain ⟨short, first, second, third⟩ := headerCut
  simp only [isControllerData, decide_eq_true_eq]
  refine ⟨?_, ?_, ?_, ?_⟩
  · rw [before_of_lt _ nonempty, first]
  · by_cases bound : 1 < size
    · rw [before_of_lt _ bound, second bound]
    · rw [Buffer.before_of_ge buffer _ (Nat.not_lt.mp bound)]
      rfl
  · by_cases bound : 2 < size
    · rw [before_of_lt _ bound, third bound]
    · rw [Buffer.before_of_ge buffer _ (Nat.not_lt.mp bound)]
      rfl
  · rw [Buffer.before_of_ge buffer _ (by omega)]
    rfl

theorem not_headerCut (same : Indifferent base controller buffer size rawData inputIdx)
    (nonempty : 1 ≤ size) : ¬HeaderCut buffer size := by
  intro headerCut
  have complete := header_completed nonempty headerCut
  obtain ⟨short, first, _, _⟩ := headerCut
  have noStatus : ¬isStatusReport (buffer.before size fun _ => 0xff) := by
    rw [isStatusReport, Buffer.bit, before_of_lt _ nonempty, first]
    decide
  have noHeader : ¬isControllerData (buffer.before size fun _ => 0xff) := by
    simp only [isControllerData, decide_eq_true_eq]
    rintro ⟨_, _, _, last⟩
    rw [Buffer.before_of_ge buffer _ (by omega)] at last
    exact absurd last (by decide)
  have outcomes := same (fun index => [0x00, 0x01, 0x00, 0xf0].getD index 0) (fun _ => 0xff)
  rw [parseData_controllerData base controller complete,
    if_pos (show size < Xbox360Controller.sizeofButtonData from Nat.lt_trans short (by decide)),
    parseData_other base controller noStatus noHeader] at outcomes
  simp [Except.map, Parsed.outcome] at outcomes

theorem not_buttonDataCut (same : Indifferent base controller buffer size rawData inputIdx)
    (nonempty : 1 ≤ size) : ¬ButtonDataCut buffer size := by
  rintro ⟨header, enough, cut, isButton⟩
  have least : 14 ≤ size := enough
  have most : size < 18 := cut
  have keepsHeader (memory : Buffer) : isControllerData (buffer.before size memory) :=
    (isControllerData_congr (Buffer.agreeOn_before buffer size memory) nonempty
      (fun headerCut => by have short := headerCut.1; omega)).trans header
  have outcomes := same (fun _ => 0x00) (fun _ => 0x40)
  rw [parseData_controllerData base controller (keepsHeader _),
    parseData_controllerData base controller (keepsHeader _), if_neg (Nat.not_lt.mpr enough),
    if_neg (Nat.not_lt.mpr enough), before_of_lt _ (by omega), before_of_lt _ (by omega),
    if_pos isButton, if_pos isButton] at outcomes
  simp only [Except.map, Parsed.outcome, Except.ok.injEq, Prod.mk.injEq, and_true, true_and]
    at outcomes
  have sticks := congrArg (fun raw => raw.analog .rz) outcomes
  simp only [analog_rz] at sticks
  have above := rz_of_high_zero (Buffer.before_of_ge buffer (fun _ => 0x00)
    (show size ≤ 17 by omega))
  have below := rz_of_high_half (Buffer.before_of_ge buffer (fun _ => 0x40)
    (show size ≤ 17 by omega))
  rw [sticks] at above
  linarith

theorem headerReceived_of_same (nonempty : 1 ≤ size)
    (same : Indifferent base controller buffer size rawData inputIdx) :
    HeaderReceived buffer size inputIdx :=
  ⟨flag_received same nonempty, not_headerCut same nonempty, not_buttonDataCut same nonempty⟩

end Indifferent

end Xbox360WirelessController

namespace SteamController2026

theorem dependsOn_buttons : DependsOn buttons (Set.Iio sizeofInputReport) :=
  Buffer.dependsOn_of_take fun _ => rfl

theorem dependsOn_analog : DependsOn analog (Set.Iio sizeofInputReport) :=
  Buffer.dependsOn_of_take fun _ => rfl

def HeaderReceived (buffer : Buffer) (size inputIdx : Nat) : Prop :=
  isStatusReport (buffer 0) → 2 ≤ size ∨ STEAMCONTROLLER_MAX_INPUTS ≤ inputIdx

theorem parseData_outside (base : BaseController) (controller : SteamController2026)
    (buffer : Buffer) (size : Nat) (rawData : RawInputData) {inputIdx : Nat}
    (outside : STEAMCONTROLLER_MAX_INPUTS ≤ inputIdx) :
    controller.parseData base buffer size rawData inputIdx =
      .ok ⟨.invalidIndex, rawData, inputIdx, controller, []⟩ := by
  rw [parseData, if_pos outside]
  rfl

theorem isInputReport_of_status {reportId : UInt8} (status : isStatusReport reportId) :
    ¬isInputReport reportId := by
  simp only [isStatusReport, decide_eq_true_eq] at status
  rcases status with rfl | rfl <;> decide

theorem parseData_status (base : BaseController) (controller : SteamController2026)
    {buffer : Buffer} (status : isStatusReport (buffer 0)) (size : Nat) (rawData : RawInputData)
    {inputIdx : Nat} (bound : inputIdx < CONTROLLER_MAX_INPUTS) :
    controller.parseData base buffer size rawData inputIdx =
      (controller.parseStatus base (buffer 1 ≠ 0x01) inputIdx >>= fun next =>
        .ok ⟨.nothingTodo, rawData, inputIdx, next.1, next.2⟩) := by
  have inside : ¬inputIdx ≥ STEAMCONTROLLER_MAX_INPUTS := Nat.not_le.mpr bound
  rw [parseData, if_neg inside, if_neg (isInputReport_of_status status), if_pos status]
  rfl

theorem parseData_congr (base : BaseController) (controller : SteamController2026)
    {buffer other : Buffer} {size : Nat} (agree : AgreeOn size buffer other) (nonempty : 1 ≤ size)
    (rawData : RawInputData) (inputIdx : Nat) (received : HeaderReceived buffer size inputIdx) :
    controller.parseData base buffer size rawData inputIdx =
      controller.parseData base other size rawData inputIdx := by
  by_cases outside : STEAMCONTROLLER_MAX_INPUTS ≤ inputIdx
  · rw [parseData_outside base controller _ _ _ outside,
      parseData_outside base controller _ _ _ outside]
  · have inside : ¬inputIdx ≥ STEAMCONTROLLER_MAX_INPUTS := outside
    have first : buffer 0 = other 0 := agree 0 nonempty
    by_cases status : isStatusReport (buffer 0)
    · have flag : 2 ≤ size := (received status).resolve_right outside
      rw [parseData_status base controller status size rawData (Nat.not_le.mp outside),
        parseData_status base controller (first ▸ status) size rawData (Nat.not_le.mp outside),
        agree 1 flag]
    · rw [first] at status
      rw [parseData, parseData, if_neg inside, if_neg inside, first]
      by_cases isInput : isInputReport (other 0)
      · rw [if_pos isInput, if_pos isInput]
        by_cases short : size < sizeofInputReport
        · rw [if_pos short, if_pos short]
        · have enough := Nat.not_lt.mp short
          rw [if_neg short, if_neg short, agree.reading_eq dependsOn_buttons enough,
            agree.reading_eq dependsOn_analog enough]
      · rw [if_neg isInput, if_neg isInput, if_neg status, if_neg status]

theorem headerReceived_of_same (base : BaseController) (controller : SteamController2026)
    {buffer : Buffer} {size : Nat} (nonempty : 1 ≤ size) (rawData : RawInputData) (inputIdx : Nat)
    (same : ∀ memory other : Buffer,
      (controller.parseData base (buffer.before size memory) size rawData inputIdx).map
          Parsed.outcome =
        (controller.parseData base (buffer.before size other) size rawData inputIdx).map
          Parsed.outcome) :
    HeaderReceived buffer size inputIdx := by
  intro status
  by_contra neither
  obtain ⟨cut, outside⟩ := not_or.mp neither
  have bound : inputIdx < 4 := Nat.not_le.mp outside
  have keepsStatus (memory : Buffer) : isStatusReport (buffer.before size memory 0) := by
    rw [← Buffer.agreeOn_before buffer size memory 0 nonempty]
    exact status
  have flag (byte : UInt8) : buffer.before size (fun _ => byte) 1 = byte :=
    Buffer.before_of_ge buffer _ (Nat.not_lt.mp cut)
  obtain ⟨sent, connected⟩ := parseStatus_of_lt base controller true bound
  obtain ⟨otherSent, disconnected⟩ := parseStatus_of_lt base controller false bound
  have outcomes := same (fun _ => 0x00) (fun _ => 0x01)
  rw [parseData_status base controller (keepsStatus _) size rawData bound,
    parseData_status base controller (keepsStatus _) size rawData bound, flag, flag,
    show decide ((0x00 : UInt8) ≠ 0x01) = true from rfl,
    show decide ((0x01 : UInt8) ≠ 0x01) = false from rfl, connected, disconnected] at outcomes
  have flags := congrArg
    (fun final => final.toOption.map fun outcome => outcome.2.2.isConnected[inputIdx]) outcomes
  simp [bind, Except.bind, Except.map, Except.toOption, Parsed.outcome] at flags

end SteamController2026

namespace Driver

/-- The driver decodes what was received: no memory behind it makes a difference. -/
def DecodesReceived (driver : Driver) (base : BaseController) (around : Surroundings)
    (buffer : Buffer) (size : Nat) (rawData : RawInputData) (inputIdx : Nat) : Prop :=
  ∀ first second, AgreeOn size buffer first → AgreeOn size buffer second →
    (driver.parseData base around first size rawData inputIdx).map Parsed.outcome =
      (driver.parseData base around second size rawData inputIdx).map Parsed.outcome

/-- Of the drivers that look at bytes before they check the size: those bytes were received. -/
def HeaderReceived (driver : Driver) (buffer : Buffer) (size inputIdx : Nat) : Prop :=
  match driver with
  | .xbox360Wireless _ => Xbox360WirelessController.HeaderReceived buffer size inputIdx
  | .steamController2026 _ => SteamController2026.HeaderReceived buffer size inputIdx
  | _ => True

theorem map_outcome_injective {state : Type} {wrap : state → Driver}
    (injective : Function.Injective wrap) {first second : Exec (Parsed state)}
    (same : (first.map (Parsed.map wrap)).map Parsed.outcome =
      (second.map (Parsed.map wrap)).map Parsed.outcome) :
    first.map Parsed.outcome = second.map Parsed.outcome := by
  cases first with
  | error fault =>
      cases second with
      | error other => simpa [Except.map] using same
      | ok second => simp [Except.map] at same
  | ok first =>
      cases second with
      | error other => simp [Except.map] at same
      | ok second =>
          simp only [Except.map, Parsed.outcome, Parsed.map, Except.ok.injEq, Prod.mk.injEq]
            at same ⊢
          exact ⟨same.1, same.2.1, injective same.2.2⟩

theorem decodesReceived_of_congr {driver : Driver} {base : BaseController} {around : Surroundings}
    {buffer : Buffer} {size : Nat} {rawData : RawInputData} {inputIdx : Nat}
    (congr : ∀ other, AgreeOn size buffer other →
      driver.parseData base around buffer size rawData inputIdx =
        driver.parseData base around other size rawData inputIdx) :
    driver.DecodesReceived base around buffer size rawData inputIdx := by
  intro first second agreeFirst agreeSecond
  rw [← congr first agreeFirst, ← congr second agreeSecond]

theorem decodesReceived_of_headerReceived {driver : Driver} (known : driver.kind ≠ .genericHID)
    (base : BaseController) (around : Surroundings) {buffer : Buffer} {size : Nat}
    (nonempty : 1 ≤ size) (rawData : RawInputData) {inputIdx : Nat}
    (received : driver.HeaderReceived buffer size inputIdx) :
    driver.DecodesReceived base around buffer size rawData inputIdx := by
  apply decodesReceived_of_congr
  intro other agree
  cases driver with
  | xbox => simp only [parseData, XboxController.parseData_congr agree]
  | xbox360 => simp only [parseData, Xbox360Controller.parseData_congr agree]
  | dualshock3 => simp only [parseData, Dualshock3Controller.parseData_congr agree]
  | xbox360Wireless state =>
      simp only [parseData, state.parseData_congr base agree nonempty _ _ received]
  | xboxOne state => simp only [parseData, state.parseData_congr base _ agree nonempty]
  | switch state => simp only [parseData, state.parseData_congr agree]
  | steamController2026 state =>
      simp only [parseData, state.parseData_congr base agree nonempty _ _ received]
  | wii state => simp only [parseData, state.parseData_congr agree]
  | genericHID state => exact absurd rfl known

theorem headerReceived_of_decodesReceived {driver : Driver} {base : BaseController}
    {around : Surroundings} {buffer : Buffer} {size : Nat} (nonempty : 1 ≤ size)
    {rawData : RawInputData} {inputIdx : Nat}
    (decodes : driver.DecodesReceived base around buffer size rawData inputIdx) :
    driver.HeaderReceived buffer size inputIdx := by
  have same (memory other : Buffer) :=
    decodes (buffer.before size memory) (buffer.before size other)
      (Buffer.agreeOn_before buffer size memory) (Buffer.agreeOn_before buffer size other)
  cases driver with
  | xbox360Wireless state =>
      apply Xbox360WirelessController.headerReceived_of_same nonempty
      intro memory other
      exact map_outcome_injective (fun _ _ => by simp) (same memory other)
  | steamController2026 state =>
      apply state.headerReceived_of_same base nonempty rawData inputIdx
      intro memory other
      exact map_outcome_injective (fun _ _ => by simp) (same memory other)
  | _ => trivial

theorem decodesReceived_iff_headerReceived (driver : Driver) (known : driver.kind ≠ .genericHID)
    (base : BaseController) (around : Surroundings) (buffer : Buffer) (size : Nat)
    (nonempty : 1 ≤ size) (rawData : RawInputData) (inputIdx : Nat) :
    driver.DecodesReceived base around buffer size rawData inputIdx ↔
      driver.HeaderReceived buffer size inputIdx :=
  ⟨headerReceived_of_decodesReceived nonempty,
    decodesReceived_of_headerReceived known base around nonempty rawData⟩

theorem two_byte_status_decodesReceived :
    (xbox360Wireless {}).DecodesReceived {} {} (fun _ => 0x88) 2 {} 0 :=
  (decodesReceived_iff_headerReceived (xbox360Wireless {}) (by decide) {} {} (fun _ => 0x88) 2
    (by decide) {} 0).mpr
    ⟨fun _ => .inl (by decide), fun cut => absurd cut.2.1 (by decide),
      fun cut => absurd cut.1 (by decide)⟩

theorem one_byte_status_not_decodesReceived :
    ¬(xbox360Wireless {}).DecodesReceived {} {} (fun _ => 0x08) 1 {} 0 := by
  intro decodes
  have outcomes := decodes (fun _ => 0x08) (fun index => if index = 0 then 0x08 else 0xff)
    (fun _ _ => rfl) (fun index bound => by simp [show index = 0 by omega])
  have flags := congrArg (fun final => final.toOption.map fun outcome =>
    outcome.2.2.isControllerConnected 0 |>.toOption) outcomes
  revert flags
  decide

end Driver

end SysCon
