import SysCon.ControllerLib.Opening
import SysCon.ControllerLib.ReadPath

/-!
Where the packets go that a driver sends while it parses a report. The drivers
use the index of the IN endpoint for the OUT endpoints and the interfaces of the
device, which are lists of their own.
-/

namespace SysCon

/-- The endpoints of all interfaces, in the order in which they are opened. -/
def pipesFrom (direction : Direction) : Nat → List UsbInterface → List Pipe
  | _, [] => []
  | idx, interface :: rest => interface.pipes direction idx ++ pipesFrom direction (idx + 1) rest

namespace UsbDevice

def interfaceOf (device : UsbDevice) (direction : Direction) (endpointIdx : Nat) : Option Nat :=
  (pipesFrom direction 0 device.interfaces)[endpointIdx]?.map Pipe.interface

end UsbDevice

theorem foldl_withInterface (interfaces : List UsbInterface) (base : BaseController) :
    interfaces.foldl BaseController.withInterface base =
      { base with
        inPipe := base.inPipe ++ pipesFrom .input base.interfaces.length interfaces
        outPipe := base.outPipe ++ pipesFrom .output base.interfaces.length interfaces
        interfaces := base.interfaces ++ interfaces.map UsbInterface.bInterfaceNumber } := by
  induction interfaces generalizing base with
  | nil => simp [pipesFrom]
  | cons interface rest ih =>
      rw [List.foldl_cons, ih]
      simp [BaseController.withInterface, pipesFrom]

theorem BaseController.openInterfaces_pipes {device : UsbDevice}
    (passed : (openInterfaces device {}).1 = .success) :
    (openInterfaces device {}).2 =
      { inPipe := pipesFrom .input 0 device.interfaces
        outPipe := pipesFrom .output 0 device.interfaces
        interfaces := device.interfaces.map UsbInterface.bInterfaceNumber } := by
  have all := ((openInterfaces_success_iff device).mp passed).1.interfaces
  rw [openInterfaces_eq passed, openEach_of_allOpen all, foldl_withInterface]
  simp

/-- The interface that an output goes to. -/
def Output.interface (base : BaseController) : Output → Option Nat
  | .write pipe _ => base.outPipe[pipe]?.map Pipe.interface
  | .controlTransfer interface _ _ _ _ _ => some interface

theorem writeIfPresent_returns_iff (base : BaseController) (pipe : Nat)
    {packets : List (List UInt8)} (some : packets ≠ []) (origin : Option Nat) :
    (∀ output ∈ base.writeIfPresent pipe packets, output.interface base = origin) ↔
      (pipe < base.outPipe.length → base.outPipe[pipe]?.map Pipe.interface = origin) := by
  unfold BaseController.writeIfPresent
  split
  · rename_i present
    simp only [present, true_implies, List.forall_mem_map, Output.interface]
    constructor
    · intro all
      obtain ⟨packet, member⟩ := List.exists_mem_of_ne_nil _ some
      exact all packet member
    · exact fun same _ _ => same
  · rename_i missing
    simp [missing]

theorem updateLizard_returns_iff (base : BaseController) (inputIdx : Nat) (origin : Option Nat) :
    (∀ output ∈ SteamController2026.updateLizard base inputIdx, output.interface base = origin) ↔
      (inputIdx < base.interfaces.length → some inputIdx = origin) := by
  unfold SteamController2026.updateLizard
  by_cases present : inputIdx < base.interfaces.length
  · simp [present, Output.interface]
  · simp [present]

/-! What each driver sends while it parses. -/

theorem Slots.getElem?_of_fetch {value : Type} {slots : Slots value} {index : Nat} {held : value}
    (fetched : slots.fetch index = .ok held) : slots[index]? = some held := by
  by_cases bound : index < CONTROLLER_MAX_INPUTS
  · rw [fetch_of_lt bound] at fetched
    rw [← Except.ok.inj fetched]
    exact Vector.getElem?_eq_getElem bound
  · simp [fetch_of_ge bound] at fetched

/-- A reply to what asks for it, and nothing otherwise. -/
structure Reacts (asks : Prop) (reply sent : List Output) : Prop where
  asked : asks → sent = reply
  quiet : ¬asks → sent = []

theorem Reacts.forall_iff {asks : Prop} {reply sent : List Output} (reacts : Reacts asks reply sent)
    (good : Output → Prop) :
    (∀ output ∈ sent, good output) ↔ (asks → ∀ output ∈ reply, good output) := by
  by_cases asked : asks
  · simp [reacts.asked asked, asked]
  · simp [reacts.quiet asked, asked]

theorem XboxOneController.writeAckModeReport_sent (base : BaseController) (results : WriteResults)
    (inputIdx : Nat) (sequence : UInt8) :
    (writeAckModeReport base results inputIdx sequence).2 =
      base.writeIfPresent inputIdx [ackModeReport sequence] := by
  unfold writeAckModeReport BaseController.writeIfPresent
  by_cases present : inputIdx < base.outPipe.length
  · simp [Nat.not_le.mpr present, present]
  · simp [Nat.not_lt.mp present, present]

theorem XboxOneController.parseData_reacts (base : BaseController) (results : WriteResults)
    (controller : XboxOneController) (buffer : Buffer) (size : Nat) (rawData : RawInputData)
    (inputIdx : Nat) :
    Reacts (buffer 0 = GIP_CMD_VIRTUAL_KEY ∧ 6 ≤ size ∧ buffer 1 = GIP_OPT_ACK ||| GIP_OPT_INTERNAL)
      (base.writeIfPresent inputIdx [ackModeReport (buffer 2)])
      (controller.parseData base results buffer size rawData inputIdx).sent := by
  constructor
  · rintro ⟨isKey, long, wantsAck⟩
    have notInput : buffer 0 ≠ GIP_CMD_INPUT := by
      rw [isKey]
      decide
    rw [← writeAckModeReport_sent base results, parseData, if_neg notInput, if_pos isKey,
      if_neg (Nat.not_lt.mpr long)]
    simp only [wantsAck, if_true]
    split <;> rfl
  · intro silent
    unfold parseData
    split
    · split <;> rfl
    · split
      · rename_i isKey
        split
        · rfl
        · rename_i long
          rw [if_neg fun wantsAck => silent ⟨isKey, Nat.not_lt.mp long, wantsAck⟩]
      · rfl

theorem Xbox360WirelessController.onControllerConnect_sent {base : BaseController}
    {controller : Xbox360WirelessController} {inputIdx : Nat}
    {ended : Xbox360WirelessController × List Output}
    (finished : onControllerConnect base controller inputIdx = .ok ended) :
    ended.2 = base.writeIfPresent inputIdx
      [reconnectPacket, initDriverPacket, ledPacket inputIdx (XBOX360LED_TOPLEFT + inputIdx)] := by
  obtain ⟨isConnected, _, rest⟩ := Exec.bind_eq_ok finished
  exact Except.ok.inj rest ▸ rfl

theorem Xbox360WirelessController.onControllerDisconnect_sent {base : BaseController}
    {controller : Xbox360WirelessController} {inputIdx : Nat}
    {ended : Xbox360WirelessController × List Output}
    (finished : onControllerDisconnect base controller inputIdx = .ok ended) :
    ended.2 = base.writeIfPresent inputIdx [poweroffPacket] := by
  obtain ⟨isConnected, _, rest⟩ := Exec.bind_eq_ok finished
  exact Except.ok.inj rest ▸ rfl

theorem Xbox360WirelessController.parseStatus_reacts {base : BaseController}
    {controller : Xbox360WirelessController} {isConnected : Bool} {inputIdx : Nat}
    {ended : Xbox360WirelessController × List Output}
    (finished : parseStatus base controller isConnected inputIdx = .ok ended) :
    ∃ packets ≠ [], Reacts (controller.isConnected[inputIdx]? = some (!isConnected))
      (base.writeIfPresent inputIdx packets) ended.2 := by
  obtain ⟨wasConnected, fetched, rest⟩ := Exec.bind_eq_ok finished
  rw [Slots.getElem?_of_fetch fetched]
  split at rest
  · rename_i changed
    have asked : some wasConnected = some (!isConnected) := congrArg some (Bool.eq_not.mpr changed)
    split at rest
    · exact ⟨_, List.cons_ne_nil _ _, fun _ => onControllerConnect_sent rest,
        fun silent => absurd asked silent⟩
    · exact ⟨_, List.cons_ne_nil _ _, fun _ => onControllerDisconnect_sent rest,
        fun silent => absurd asked silent⟩
  · rename_i same
    rw [ne_eq, not_not] at same
    refine ⟨[poweroffPacket], by simp, fun asked => ?_, fun _ => Except.ok.inj rest ▸ rfl⟩
    simp [same] at asked

theorem Xbox360WirelessController.parseData_reacts {base : BaseController}
    {controller : Xbox360WirelessController} {buffer : Buffer} {size : Nat}
    {rawData : RawInputData} {inputIdx : Nat} {parsed : Parsed Xbox360WirelessController}
    (finished : controller.parseData base buffer size rawData inputIdx = .ok parsed) :
    ∃ packets ≠ [], Reacts (isStatusReport buffer = true ∧
        controller.isConnected[inputIdx]? = some (!buffer.bit 1 7))
      (base.writeIfPresent inputIdx packets) parsed.sent := by
  unfold parseData at finished
  split at finished
  · rename_i status
    obtain ⟨ended, handled, rest⟩ := Exec.bind_eq_ok finished
    obtain ⟨packets, some, reacts⟩ := parseStatus_reacts handled
    obtain rfl := Except.ok.inj rest
    simpa [status] using ⟨packets, some, reacts⟩
  · rename_i other
    have quiet : parsed.sent = [] := by
      split at finished
      · split at finished
        · exact Except.ok.inj finished ▸ rfl
        · simp only at finished
          split at finished <;> exact Except.ok.inj finished ▸ rfl
      · exact Except.ok.inj finished ▸ rfl
    exact ⟨[poweroffPacket], by simp, ⟨fun asked => absurd asked.1 other, fun _ => quiet⟩⟩

theorem SteamController2026.onControllerConnect_sent {base : BaseController}
    {controller : SteamController2026} {inputIdx : Nat} {ended : SteamController2026 × List Output}
    (finished : controller.onControllerConnect base inputIdx = .ok ended) :
    ended.2 = updateLizard base inputIdx := by
  obtain ⟨isConnected, _, rest⟩ := Exec.bind_eq_ok finished
  exact Except.ok.inj rest ▸ rfl

theorem SteamController2026.onControllerDisconnect_sent {controller : SteamController2026}
    {inputIdx : Nat} {ended : SteamController2026 × List Output}
    (finished : controller.onControllerDisconnect inputIdx = .ok ended) : ended.2 = [] := by
  obtain ⟨isConnected, _, rest⟩ := Exec.bind_eq_ok finished
  exact Except.ok.inj rest ▸ rfl

theorem SteamController2026.parseStatus_reacts {base : BaseController}
    {controller : SteamController2026} {isConnected : Bool} {inputIdx : Nat}
    {ended : SteamController2026 × List Output}
    (finished : parseStatus base controller isConnected inputIdx = .ok ended) :
    Reacts (controller.isConnected[inputIdx]? = some false ∧ isConnected = true)
      (updateLizard base inputIdx) ended.2 := by
  obtain ⟨wasConnected, fetched, rest⟩ := Exec.bind_eq_ok finished
  rw [Slots.getElem?_of_fetch fetched]
  split at rest
  · rename_i connects
    rw [Bool.and_eq_true, Bool.not_eq_true'] at connects
    exact ⟨fun _ => onControllerConnect_sent rest,
      fun silent => absurd ⟨congrArg some connects.1, connects.2⟩ silent⟩
  · rename_i stays
    refine ⟨fun asked => absurd ?_ stays, fun _ => ?_⟩
    · simp [Option.some.inj asked.1, asked.2]
    · split at rest
      · exact onControllerDisconnect_sent rest
      · exact Except.ok.inj rest ▸ rfl

theorem SteamController2026.parseData_reacts {base : BaseController}
    {controller : SteamController2026} {buffer : Buffer} {size : Nat}
    {rawData : RawInputData} {inputIdx : Nat} {parsed : Parsed SteamController2026}
    (finished : controller.parseData base buffer size rawData inputIdx = .ok parsed) :
    Reacts (controller.isConnected[inputIdx]? = some false ∧
        (isInputReport (buffer 0) = true ∧ sizeofInputReport ≤ size ∨
          isStatusReport (buffer 0) = true ∧ buffer 1 ≠ 0x01))
      (updateLizard base inputIdx) parsed.sent := by
  unfold parseData at finished
  split at finished
  · rename_i outside
    have unlisted : controller.isConnected[inputIdx]? = none := by
      simpa [CONTROLLER_MAX_INPUTS, STEAMCONTROLLER_MAX_INPUTS] using outside
    refine ⟨fun asked => ?_, fun _ => Except.ok.inj finished ▸ rfl⟩
    simp [unlisted] at asked
  · split at finished
    · rename_i input
      have noStatus : isStatusReport (buffer 0) = false := by
        rw [isInputReport, decide_eq_true_eq] at input
        rcases input with report | report <;> rw [report] <;> decide
      split at finished
      · rename_i short
        refine ⟨fun asked => ?_, fun _ => Except.ok.inj finished ▸ rfl⟩
        rcases asked.2 with ⟨_, long⟩ | ⟨status, _⟩
        · omega
        · simp [noStatus] at status
      · rename_i long
        obtain ⟨wasConnected, fetched, rest⟩ := Exec.bind_eq_ok finished
        have listed := Slots.getElem?_of_fetch fetched
        simp only at listed
        split at rest
        · rename_i away
          obtain ⟨ended, connected, rest⟩ := Exec.bind_eq_ok rest
          have asked : controller.isConnected[inputIdx]? = some false := by
            rw [listed, (Bool.not_eq_true' _).mp away]
          obtain rfl := Except.ok.inj rest
          exact ⟨fun _ => onControllerConnect_sent connected,
            fun silent => absurd ⟨asked, .inl ⟨input, Nat.not_lt.mp long⟩⟩ silent⟩
        · rename_i present
          refine ⟨fun asked => ?_, fun _ => Except.ok.inj rest ▸ rfl⟩
          rw [listed] at asked
          simp [Option.some.inj asked.1] at present
    · rename_i noInput
      split at finished
      · rename_i status
        obtain ⟨ended, handled, rest⟩ := Exec.bind_eq_ok finished
        obtain rfl := Except.ok.inj rest
        simpa [noInput, status] using parseStatus_reacts handled
      · rename_i noStatus
        refine ⟨fun asked => ?_, fun _ => Except.ok.inj finished ▸ rfl⟩
        simp [noInput, noStatus] at asked

/-! The outputs of a parse and the topology of the device. -/

/-- The report asks its driver for an output. -/
def Driver.Asks (driver : Driver) (buffer : Buffer) (size inputIdx : Nat) : Prop :=
  match driver with
  | .xboxOne _ =>
      buffer 0 = XboxOneController.GIP_CMD_VIRTUAL_KEY ∧ 6 ≤ size ∧
        buffer 1 = XboxOneController.GIP_OPT_ACK ||| XboxOneController.GIP_OPT_INTERNAL
  | .xbox360Wireless state =>
      Xbox360WirelessController.isStatusReport buffer = true ∧
        state.isConnected[inputIdx]? = some (!buffer.bit 1 7)
  | .steamController2026 state =>
      state.isConnected[inputIdx]? = some false ∧
        (SteamController2026.isInputReport (buffer 0) = true ∧
            SteamController2026.sizeofInputReport ≤ size ∨
          SteamController2026.isStatusReport (buffer 0) = true ∧ buffer 1 ≠ 0x01)
  | _ => False

/-- What the driver finds at the index of an IN endpoint belongs to the interface of that one. -/
def Driver.Aligned (driver : Driver) (device : UsbDevice) (inputIdx : Nat) : Prop :=
  match driver with
  | .steamController2026 _ =>
      inputIdx < device.interfaces.length → device.interfaceOf .input inputIdx = some inputIdx
  | _ =>
      device.interfaceOf .output inputIdx = none ∨
        device.interfaceOf .output inputIdx = device.interfaceOf .input inputIdx

section Returns

variable {driver : Driver} {answers : SetupAnswers} {device : UsbDevice} {base : BaseController}
  {around : Surroundings} {buffer : Buffer} {size inputIdx : Nat} {rawData : RawInputData}

theorem Driver.openInterfaces_base
    (opened : driver.openInterfaces answers device {} = (.success, base)) :
    BaseController.openInterfaces device {} = (.success, base) := by
  cases driver with
  | dualshock3 =>
      simp only [Driver.openInterfaces] at opened
      split at opened
      · rename_i failed
        exact absurd (congrArg Prod.fst opened) failed
      · rename_i passed
        exact Prod.ext (not_not.mp passed) (Prod.ext_iff.mp opened).2
  | xbox360Wireless state =>
      simp only [Driver.openInterfaces, Xbox360WirelessController.openInterfaces] at opened
      split at opened
      · rename_i failed
        exact absurd (congrArg Prod.fst opened) failed
      · rename_i passed
        split at opened
        · simp at opened
        · exact Prod.ext (not_not.mp passed) (Prod.ext_iff.mp opened).2
  | _ => exact opened

theorem Driver.opened_pipes (opened : driver.openInterfaces answers device {} = (.success, base)) :
    base =
      { inPipe := pipesFrom .input 0 device.interfaces
        outPipe := pipesFrom .output 0 device.interfaces
        interfaces := device.interfaces.map UsbInterface.bInterfaceNumber } := by
  have passed := openInterfaces_base opened
  have pipes := BaseController.openInterfaces_pipes (congrArg Prod.fst passed)
  rwa [passed] at pipes

theorem Driver.Asks.exists_parsed (asks : driver.Asks buffer size inputIdx)
    (base : BaseController) (around : Surroundings) (rawData : RawInputData) :
    ∃ parsed, driver.parseData base around buffer size rawData inputIdx = .ok parsed := by
  have inside : driver.Asks buffer size inputIdx → inputIdx < CONTROLLER_MAX_INPUTS ∨
      ∃ parsed, driver.parseData base around buffer size rawData inputIdx = .ok parsed := by
    intro asks
    cases driver with
    | xbox360Wireless state => exact .inl (Vector.getElem?_eq_some_iff.mp asks.2).1
    | steamController2026 state => exact .inl (Vector.getElem?_eq_some_iff.mp asks.1).1
    | xboxOne state => exact .inr ⟨_, rfl⟩
    | _ => exact asks.elim
  rcases inside asks with bound | parsed
  · exact Exec.Finishes.exists_ok
      (Driver.parseData_avoids fun outside => absurd bound (Nat.not_lt.mpr outside))
  · exact parsed

theorem interfaceOf_output (opened : driver.openInterfaces answers device {} = (.success, base)) :
    base.outPipe[inputIdx]?.map Pipe.interface = device.interfaceOf .output inputIdx := by
  rw [Driver.opened_pipes opened]
  rfl

theorem interfaceOf_input (opened : driver.openInterfaces answers device {} = (.success, base)) :
    base.inPipe[inputIdx]?.map Pipe.interface = device.interfaceOf .input inputIdx := by
  rw [Driver.opened_pipes opened]
  rfl

theorem writeIfPresent_aligned_iff
    (opened : driver.openInterfaces answers device {} = (.success, base))
    {packets : List (List UInt8)} (some : packets ≠ []) :
    (∀ output ∈ base.writeIfPresent inputIdx packets,
        output.interface base = device.interfaceOf .input inputIdx) ↔
      (device.interfaceOf .output inputIdx = none ∨
        device.interfaceOf .output inputIdx = device.interfaceOf .input inputIdx) := by
  rw [writeIfPresent_returns_iff base inputIdx some, ← interfaceOf_output opened]
  by_cases present : inputIdx < base.outPipe.length
  · simp [present]
  · simp [present]

theorem updateLizard_aligned_iff
    (opened : driver.openInterfaces answers device {} = (.success, base)) :
    (∀ output ∈ SteamController2026.updateLizard base inputIdx,
        output.interface base = device.interfaceOf .input inputIdx) ↔
      (inputIdx < device.interfaces.length →
        device.interfaceOf .input inputIdx = some inputIdx) := by
  have count : base.interfaces.length = device.interfaces.length := by
    rw [Driver.opened_pipes opened, List.length_map]
  rw [updateLizard_returns_iff, count]
  exact imp_congr_right fun _ => eq_comm

/-- The other drivers send nothing while they parse. -/
theorem Driver.parseData_silent
    (other : driver.kind ∉ [.xboxOne, .xbox360Wireless, .steamController2026])
    {parsed : Parsed Driver}
    (finished : driver.parseData base around buffer size rawData inputIdx = .ok parsed) :
    parsed.sent = [] := by
  cases driver with
  | xboxOne state | xbox360Wireless state | steamController2026 state => simp [kind] at other
  | xbox =>
      obtain rfl := Except.ok.inj finished
      simp only [Parsed.map, XboxController.parseData]
      split <;> rfl
  | xbox360 =>
      obtain rfl := Except.ok.inj finished
      simp only [Parsed.map, Xbox360Controller.parseData]
      split
      · rfl
      · split <;> rfl
  | dualshock3 =>
      obtain rfl := Except.ok.inj finished
      simp only [Parsed.map, Dualshock3Controller.parseData]
      split
      · rfl
      · split <;> rfl
  | switch state =>
      obtain rfl := Except.ok.inj finished
      simp only [Parsed.map, SwitchController.parseData]
      split
      · rfl
      · split <;> rfl
  | genericHID state =>
      obtain rfl := Except.ok.inj finished
      simp only [Parsed.map, GenericHIDController.parseData]
      split
      · rfl
      · split <;> rfl
  | wii state =>
      obtain ⟨inner, parsedOk, rfl⟩ := map_eq_ok finished
      unfold WiiController.parseData at parsedOk
      split at parsedOk
      · exact Except.ok.inj parsedOk ▸ rfl
      · obtain ⟨rumbleSupported, _, rest⟩ := Exec.bind_eq_ok parsedOk
        obtain ⟨isConnected, _, rest⟩ := Exec.bind_eq_ok rest
        split at rest <;> exact Except.ok.inj rest ▸ rfl

theorem Driver.parseData_reacts
    (opened : driver.openInterfaces answers device {} = (.success, base))
    {parsed : Parsed Driver}
    (finished : driver.parseData base around buffer size rawData inputIdx = .ok parsed) :
    ∃ reply, Reacts (driver.Asks buffer size inputIdx) reply parsed.sent ∧
      ((∀ output ∈ reply, output.interface base = device.interfaceOf .input inputIdx) ↔
        driver.Aligned device inputIdx) := by
  cases driver with
  | xboxOne state =>
      obtain rfl := Except.ok.inj finished
      exact ⟨_, XboxOneController.parseData_reacts base _ state buffer size rawData inputIdx,
        writeIfPresent_aligned_iff opened (by simp)⟩
  | xbox360Wireless state =>
      obtain ⟨inner, parsedOk, rfl⟩ := map_eq_ok finished
      obtain ⟨packets, some, reacts⟩ := Xbox360WirelessController.parseData_reacts parsedOk
      exact ⟨_, reacts, writeIfPresent_aligned_iff opened some⟩
  | steamController2026 state =>
      obtain ⟨inner, parsedOk, rfl⟩ := map_eq_ok finished
      exact ⟨_, SteamController2026.parseData_reacts parsedOk, updateLizard_aligned_iff opened⟩
  | _ => exact ⟨_, ⟨False.elim, fun _ => parseData_silent (by simp [kind]) finished⟩,
      writeIfPresent_aligned_iff opened (List.cons_ne_nil [] [])⟩

/-- The outputs of a parse go to the interface of the report exactly when the report asks for none
or the device is aligned at its endpoint. -/
theorem replies_return_iff (opened : driver.openInterfaces answers device {} = (.success, base))
    (around : Surroundings) (buffer : Buffer) (size : Nat) (rawData : RawInputData)
    (inputIdx : Nat) :
    (∀ parsed, driver.parseData base around buffer size rawData inputIdx = .ok parsed →
        ∀ output ∈ parsed.sent,
          output.interface base = base.inPipe[inputIdx]?.map Pipe.interface) ↔
      (driver.Asks buffer size inputIdx → driver.Aligned device inputIdx) := by
  rw [interfaceOf_input opened]
  constructor
  · intro returns asks
    obtain ⟨parsed, finished⟩ := asks.exists_parsed base around rawData
    obtain ⟨reply, reacts, aligned⟩ := Driver.parseData_reacts opened finished
    exact aligned.mp ((reacts.forall_iff _).mp (returns parsed finished) asks)
  · intro aligned parsed finished
    obtain ⟨reply, reacts, returns⟩ := Driver.parseData_reacts opened finished
    exact (reacts.forall_iff _).mpr fun asks => returns.mpr (aligned asks)

end Returns

/-! A pad whose first interface has an IN endpoint more than it has OUT endpoints. -/

def firstEndpoints (count : Nat) : Vector (Option UsbEndpoint) SWITCH_USB_MAX_ENDPOINTS :=
  Vector.ofFn fun idx => if idx.val < count then some ⟨64, .success⟩ else none

def unevenInterfaces : List UsbInterface :=
  [{ inEndpoints := firstEndpoints 2, outEndpoints := firstEndpoints 1 },
   { inEndpoints := firstEndpoints 1, outEndpoints := firstEndpoints 1 }]

def unevenPad : UsbDevice where
  interfaces := unevenInterfaces
  interfaceCount := by decide

def unevenBase : BaseController := (BaseController.openInterfaces unevenPad {}).2

/-- The guide button pressed, with a request for an acknowledgement. -/
def guideButton : Buffer := fun index => [0x07, 0x30, 0x01, 0x02, 0x01, 0x5b].getD index 0

theorem unevenPad_opens :
    (Driver.xboxOne {}).openInterfaces {} unevenPad {} = (.success, unevenBase) :=
  Prod.ext (by decide) rfl

theorem replies_return_iff_unevenPad :
    (∀ parsed, (Driver.xboxOne {}).parseData unevenBase {} guideButton 6 {} 1 = .ok parsed →
        ∀ output ∈ parsed.sent,
          output.interface unevenBase = unevenBase.inPipe[1]?.map Pipe.interface) ↔
      ((Driver.xboxOne {}).Asks guideButton 6 1 → (Driver.xboxOne {}).Aligned unevenPad 1) :=
  replies_return_iff unevenPad_opens {} guideButton 6 {} 1

/-- The acknowledgement of a report from the second endpoint of the first interface goes out through
the second interface. -/
theorem acknowledged_elsewhere :
    ¬∀ (driver : Driver) (answers : SetupAnswers) (device : UsbDevice) (base : BaseController)
      (around : Surroundings) (buffer : Buffer) (size : Nat) (rawData : RawInputData)
      (inputIdx : Nat) (parsed : Parsed Driver),
      driver.openInterfaces answers device {} = (.success, base) →
      inputIdx < base.inPipe.length →
      driver.parseData base around buffer size rawData inputIdx = .ok parsed →
      ∀ output ∈ parsed.sent,
        output.interface base = base.inPipe[inputIdx]?.map Pipe.interface := by
  intro always
  have returned := always (.xboxOne {}) {} unevenPad unevenBase {} guideButton 6 {} 1 _
    unevenPad_opens (by decide) rfl (.write 1 (XboxOneController.ackModeReport 0x01))
    (by decide)
  exact absurd returned (by decide)

/-! Devices with one endpoint of each direction on every interface are aligned. -/

theorem pipesFrom_single {direction : Direction} {interfaces : List UsbInterface}
    (single : ∀ interface ∈ interfaces, (interface.listed direction).length = 1) (first : Nat) :
    (pipesFrom direction first interfaces).map Pipe.interface =
      List.range' first interfaces.length := by
  induction interfaces generalizing first with
  | nil => rfl
  | cons interface rest ih =>
      obtain ⟨singleHere, singleLater⟩ := List.forall_mem_cons.mp single
      obtain ⟨endpoint, listed⟩ := List.length_eq_one_iff.mp singleHere
      rw [pipesFrom, List.map_append, ih singleLater, UsbInterface.pipes, listed,
        List.length_cons, List.range'_succ]
      rfl

theorem aligned_of_single {device : UsbDevice}
    (single : ∀ direction, ∀ interface ∈ device.interfaces,
      (interface.listed direction).length = 1) (driver : Driver) (inputIdx : Nat) :
    driver.Aligned device inputIdx := by
  have listed : ∀ direction, device.interfaceOf direction inputIdx =
      (List.range' 0 device.interfaces.length)[inputIdx]? := by
    intro direction
    rw [← pipesFrom_single (single direction) 0, List.getElem?_map]
    rfl
  cases driver with
  | steamController2026 state =>
      intro present
      rw [listed, List.getElem?_range' present, Nat.zero_add, Nat.one_mul]
  | _ => exact .inr (by rw [listed, listed])

end SysCon
