import SysCon.ControllerLib.ParsedIndex
import SysCon.ControllerLib.ReadNextBuffer

/-!
Where the index of an input comes from: what the read of any driver says about
the endpoint it served, what `ParseData` makes of the index, and that nothing
else of the controller changes in a `ReadInput`.
-/

namespace SysCon

namespace Driver

/-- The port that a GameCube adapter hands out next. -/
def port : Driver → Nat
  | .wii state => state.currentWiiControllerIdx
  | _ => 0

-- Reading and parsing change what the driver stores, not which driver it is.
structure SameDriver (before after : Driver) : Prop where
  kind : after.kind = before.kind
  inputCount : after.getInputCount = before.getInputCount
  port : before.port < CONTROLLER_MAX_INPUTS → after.port < CONTROLLER_MAX_INPUTS

theorem SameDriver.rfl (driver : Driver) : SameDriver driver driver := ⟨.refl _, .refl _, id⟩

theorem SameDriver.trans {first second third : Driver} (left : SameDriver first second)
    (right : SameDriver second third) : SameDriver first third :=
  ⟨right.kind.trans left.kind, right.inputCount.trans left.inputCount,
    fun bound => right.port (left.port bound)⟩

structure ServedDriver (driver : Driver) (base : BaseController) (size inputIdx : Nat)
    (answer : BaseController.NextBuffer × Driver) : Prop where
  sameDriver : SameDriver driver answer.2
  sameBase : ∃ cursor, answer.1.base = { base with currentControllerIdx := cursor }
  positive : answer.1.status = .success → 0 < answer.1.size
  delivered : answer.1.status = .success →
    (driver.kind = .wii ∧ answer.1.inputIdx = driver.port) ∨
    (driver.kind ≠ .wii ∧ answer.1.size ≤ min (base.maxPacketSize answer.1.inputIdx) size)
  idle : answer.1.status ≠ .success → answer.1.inputIdx = inputIdx

theorem nextPort_bound (state : WiiController) (buffer : Buffer) (base : BaseController)
    (pending : Pending) :
    (state.nextPort buffer base pending).2.currentWiiControllerIdx < CONTROLLER_MAX_INPUTS :=
  Nat.mod_lt _ (by decide)

theorem wii_readNextBuffer_served (state : WiiController) (base : BaseController)
    (pending : Pending) (buffer : Buffer) (size inputIdx : Nat) :
    ServedDriver (.wii state) base size inputIdx
      ((Driver.wii state).readNextBuffer base pending buffer size inputIdx) := by
  simp only [readNextBuffer, WiiController.readNextBuffer]
  by_cases first : state.currentWiiControllerIdx = 0
  · rw [if_pos first]
    obtain ⟨cursor, sameBase⟩ := (BaseController.readNextBuffer_served base pending
      state.buffer WiiController.WII_INPUT_BUFFER_SIZE 0).sameBase
    generalize base.readNextBuffer pending state.buffer WiiController.WII_INPUT_BUFFER_SIZE 0 = next
      at sameBase
    split
    · rename_i failed
      exact ⟨⟨rfl, rfl, id⟩, ⟨cursor, sameBase⟩, fun success => absurd success failed,
        fun success => absurd success failed, fun _ => rfl⟩
    · split
      · exact ⟨⟨rfl, rfl, id⟩, ⟨cursor, sameBase⟩, fun success => by simp at success,
          fun success => by simp at success, fun _ => rfl⟩
      · have ported :=
          nextPort_bound { state with buffer := next.buffer } buffer next.base next.pending
        exact ⟨⟨rfl, rfl, fun _ => ported⟩, ⟨cursor, sameBase⟩, fun _ => Nat.succ_pos 8,
          fun _ => Or.inl ⟨rfl, rfl⟩, fun failed => absurd rfl failed⟩
  · rw [if_neg first]
    have ported := nextPort_bound state buffer base pending
    exact ⟨⟨rfl, rfl, fun _ => ported⟩, ⟨base.currentControllerIdx, rfl⟩, fun _ => Nat.succ_pos 8,
      fun _ => Or.inl ⟨rfl, rfl⟩, fun failed => absurd rfl failed⟩

theorem readNextBuffer_served (driver : Driver) (base : BaseController) (pending : Pending)
    (buffer : Buffer) (size inputIdx : Nat) :
    ServedDriver driver base size inputIdx
      (driver.readNextBuffer base pending buffer size inputIdx) := by
  by_cases isWii : driver.kind = .wii
  · cases driver <;> simp only [kind, reduceCtorEq] at isWii
    exact wii_readNextBuffer_served _ base pending buffer size inputIdx
  · have served := BaseController.readNextBuffer_served base pending buffer size inputIdx
    have shared : driver.readNextBuffer base pending buffer size inputIdx =
        (base.readNextBuffer pending buffer size inputIdx, driver) := by
      cases driver <;> first | rfl | exact absurd rfl isWii
    rw [shared]
    exact ⟨SameDriver.rfl driver, served.sameBase, fun success => (served.delivered success).1,
      fun success => Or.inr ⟨isWii, (served.delivered success).2⟩, served.idle⟩

theorem genericHID_getInputCount_le (state : GenericHIDController) :
    state.getInputCount ≤ CONTROLLER_MAX_INPUTS := Nat.min_le_right _ _

-- The size of the smallest report that a driver reads with success.
def smallestReport : DriverKind → Nat
  | .xbox => XboxController.sizeofButtonData
  | .xbox360 => Xbox360Controller.sizeofButtonData
  | .dualshock3 => Dualshock3Controller.sizeofButtonData
  | .xbox360Wireless => Xbox360Controller.sizeofButtonData
  | .xboxOne => 6
  | .switch => SwitchController.sizeofButtonData
  | .steamController2026 => SteamController2026.sizeofInputReport
  | .wii => WiiController.portSize
  | .genericHID => 1

structure Decoded (driver : Driver) (size inputIdx : Nat) (parsed : Parsed Driver) : Prop where
  sameDriver : SameDriver driver parsed.state
  index : parsed.inputIdx = inputIdx ∨
    (inputIdx = 0 ∧ parsed.inputIdx < driver.getInputCount ∧
      driver.getInputCount ≤ CONTROLLER_MAX_INPUTS)
  enough : parsed.status = .success → smallestReport driver.kind ≤ size

theorem decoded_of_keeps {state : Type} {driver : Driver} {wrap : state → Driver}
    {smallest size inputIdx : Nat} {parsed : Parsed state}
    (keeps : KeepsIndex smallest size inputIdx parsed)
    (same : SameDriver driver (wrap parsed.state))
    (smallestIs : smallestReport driver.kind = smallest) :
    Decoded driver size inputIdx (parsed.map wrap) :=
  ⟨same, Or.inl keeps.1, fun success => smallestIs ▸ keeps.2 success⟩

theorem map_eq_ok {first second : Type} {action : Exec first} {wrap : first → second}
    {final : second} (finished : action.map wrap = .ok final) :
    ∃ inner, action = .ok inner ∧ final = wrap inner := by
  cases action with
  | error fault => simp [Except.map] at finished
  | ok inner =>
      simp only [Except.map, Except.ok.injEq] at finished
      exact ⟨inner, rfl, finished.symm⟩

theorem parseData_decoded {driver : Driver} {base : BaseController} {around : Surroundings}
    {buffer : Buffer} {size inputIdx : Nat} {rawData : RawInputData} {parsed : Parsed Driver}
    (positive : 0 < size)
    (finished : driver.parseData base around buffer size rawData inputIdx = .ok parsed) :
    Decoded driver size inputIdx parsed := by
  cases driver with
  | xbox =>
      cases finished
      exact decoded_of_keeps XboxController.parseData_parsedAs.keepsIndex (SameDriver.rfl _) rfl
  | xbox360 =>
      cases finished
      exact decoded_of_keeps Xbox360Controller.parseData_parsedAs.keepsIndex (SameDriver.rfl _) rfl
  | dualshock3 =>
      cases finished
      exact decoded_of_keeps Dualshock3Controller.parseData_parsedAs.keepsIndex (SameDriver.rfl _)
        rfl
  | xboxOne state =>
      cases finished
      exact decoded_of_keeps XboxOneController.parseData_keeps ⟨rfl, rfl, id⟩ rfl
  | switch state =>
      cases finished
      exact decoded_of_keeps SwitchController.parseData_parsedAs.keepsIndex ⟨rfl, rfl, id⟩ rfl
  | xbox360Wireless state =>
      obtain ⟨inner, parsedOk, rfl⟩ := map_eq_ok finished
      exact decoded_of_keeps (Xbox360WirelessController.parseData_parsedAs parsedOk).keepsIndex
        ⟨rfl, rfl, id⟩ rfl
  | steamController2026 state =>
      obtain ⟨inner, parsedOk, rfl⟩ := map_eq_ok finished
      obtain ⟨keeps, sameCount⟩ := SteamController2026.parseData_keeps parsedOk
      exact decoded_of_keeps keeps ⟨rfl, sameCount, id⟩ rfl
  | wii state =>
      obtain ⟨inner, parsedOk, rfl⟩ := map_eq_ok finished
      obtain ⟨parsedAs, samePort⟩ := WiiController.parseData_parsedAs parsedOk
      refine decoded_of_keeps parsedAs.keepsIndex ⟨rfl, rfl, fun bound => ?_⟩ rfl
      simpa only [port, samePort] using bound
  | genericHID state =>
      cases finished
      refine ⟨?_, ?_, fun _ => positive⟩
      · simp only [Parsed.map, GenericHIDController.parseData_state]
        exact SameDriver.rfl _
      · rcases GenericHIDController.parseData_index state around.joystick rawData inputIdx with
          same | ⟨first, named⟩
        · exact Or.inl same
        · exact Or.inr ⟨first, named, genericHID_getInputCount_le state⟩

theorem parseData_avoids {bad : Fault → Prop} {driver : Driver} {base : BaseController}
    {around : Surroundings} {buffer : Buffer} {size inputIdx : Nat} {rawData : RawInputData}
    (harmless : CONTROLLER_MAX_INPUTS ≤ inputIdx → ¬bad (.slotIndex inputIdx)) :
    (driver.parseData base around buffer size rawData inputIdx).Avoids bad := by
  cases driver with
  | xbox360Wireless state =>
      exact Exec.Avoids.map (Xbox360WirelessController.parseData_avoids harmless)
  | steamController2026 state =>
      exact Exec.Avoids.map (SteamController2026.parseData_avoids harmless)
  | wii state => exact Exec.Avoids.map (WiiController.parseData_avoids harmless)
  | _ => exact Exec.Avoids.ok _

end Driver

namespace Controller

variable {controller : Controller} {around : Surroundings} {normalData : NormalizedButtonData}
  {given : Nat} {read : ReadInput}

/-! One `ReadInput`: what it reads, then what it makes of it. -/

def bufferSize (controller : Controller) : Nat :=
  min CONTROLLER_INPUT_BUFFER_SIZE controller.driver.getMaxInputBufferSize

def nextBuffer (controller : Controller) (around : Surroundings) (given : Nat) :
    BaseController.NextBuffer × Driver :=
  controller.driver.readNextBuffer controller.base around.pending around.stack
    controller.bufferSize given

theorem nextBuffer_served (controller : Controller) (around : Surroundings) (given : Nat) :
    Driver.ServedDriver controller.driver controller.base controller.bufferSize given
      (controller.nextBuffer around given) :=
  Driver.readNextBuffer_served _ _ _ _ _ _

theorem readInput_idle
    (failed : (controller.nextBuffer around given).1.status ≠ .success) :
    controller.readInput around normalData given =
      .ok ⟨(controller.nextBuffer around given).1.status,
        (controller.nextBuffer around given).1.inputIdx, .ok normalData,
        { controller with
          base := (controller.nextBuffer around given).1.base
          driver := (controller.nextBuffer around given).2 }, []⟩ := by
  unfold readInput
  exact if_pos failed

def afterParse (controller : Controller) (base : BaseController)
    (normalData : NormalizedButtonData) (parsed : Parsed Driver) : ReadInput where
  status := parsed.status
  inputIdx := parsed.inputIdx
  normal :=
    if parsed.status ≠ .success then .ok normalData
    else BaseController.mapRawInputToNormalized controller.config parsed.rawData normalData
  controller := { controller with base, driver := parsed.state }
  sent := parsed.sent

theorem readInput_parsed
    (success : (controller.nextBuffer around given).1.status = .success) :
    controller.readInput around normalData given =
      ((controller.nextBuffer around given).2.parseData
        (controller.nextBuffer around given).1.base around
        (controller.nextBuffer around given).1.buffer (controller.nextBuffer around given).1.size {}
        (controller.nextBuffer around given).1.inputIdx).map
        (controller.afterParse (controller.nextBuffer around given).1.base normalData) := by
  have shape : ∀ action : Exec (Parsed Driver),
      (do
        let parsed ← action
        let controller :=
          { controller with
            base := (controller.nextBuffer around given).1.base, driver := parsed.state }
        if parsed.status ≠ .success then
          return ⟨parsed.status, parsed.inputIdx, .ok normalData, controller, parsed.sent⟩
        else
          return ⟨.success, parsed.inputIdx,
            BaseController.mapRawInputToNormalized controller.config parsed.rawData normalData,
            controller, parsed.sent⟩) =
        action.map
          (controller.afterParse (controller.nextBuffer around given).1.base normalData) := by
    intro action
    cases action with
    | error fault => rfl
    | ok parsed =>
        by_cases failed : parsed.status ≠ .success
        · simp [bind, Except.bind, Except.map, afterParse, failed, pure, Except.pure]
        · have succeeded := not_not.mp failed
          simp [bind, Except.bind, Except.map, afterParse, succeeded, pure, Except.pure]
  rw [← shape]
  unfold readInput
  exact if_neg (not_not.mpr success)

theorem readInput_parsed_eq
    (success : (controller.nextBuffer around given).1.status = .success)
    (finished : controller.readInput around normalData given = .ok read) :
    ∃ parsed, (controller.nextBuffer around given).2.parseData
        (controller.nextBuffer around given).1.base around
        (controller.nextBuffer around given).1.buffer (controller.nextBuffer around given).1.size {}
        (controller.nextBuffer around given).1.inputIdx = .ok parsed ∧
      read =
        controller.afterParse (controller.nextBuffer around given).1.base normalData parsed := by
  rw [readInput_parsed success] at finished
  exact Driver.map_eq_ok finished

structure Progress (before after : Controller) : Prop where
  sameBase : ∃ cursor, after.base = { before.base with currentControllerIdx := cursor }
  config : after.config = before.config
  driver : Driver.SameDriver before.driver after.driver

theorem Progress.maxPacketSize {before after : Controller} (progress : Progress before after)
    (endpointIdx : Nat) :
    after.base.maxPacketSize endpointIdx = before.base.maxPacketSize endpointIdx := by
  obtain ⟨cursor, sameBase⟩ := progress.sameBase
  rw [sameBase]
  rfl

theorem Progress.trans {first second third : Controller} (left : Progress first second)
    (right : Progress second third) : Progress first third := by
  obtain ⟨_, leftBase⟩ := left.sameBase
  obtain ⟨cursor, rightBase⟩ := right.sameBase
  exact ⟨⟨cursor, by rw [rightBase, leftBase]⟩, right.config.trans left.config,
    left.driver.trans right.driver⟩

/-- Where the index of a read comes from: it is the given one, the joystick named it, it is the
port of an adapter, or it is an endpoint that can deliver such a report. -/
def IndexFrom (controller : Controller) (given : Nat) (status : ControllerResult)
    (inputIdx : Nat) : Prop :=
  (status ≠ .success ∧ inputIdx = given) ∨
  (inputIdx < controller.driver.getInputCount ∧
    controller.driver.getInputCount ≤ CONTROLLER_MAX_INPUTS) ∨
  (controller.driver.kind = .wii ∧ inputIdx = controller.driver.port) ∨
  (controller.driver.kind ≠ .wii ∧ 0 < controller.base.maxPacketSize inputIdx ∧
    (status = .success →
      Driver.smallestReport controller.driver.kind ≤ controller.base.maxPacketSize inputIdx))

theorem readInput_progress
    (finished : controller.readInput around normalData given = .ok read) :
    Progress controller read.controller ∧
      IndexFrom controller given read.status read.inputIdx := by
  have served := controller.nextBuffer_served around given
  by_cases success : (controller.nextBuffer around given).1.status = .success
  · obtain ⟨parsed, parses, rfl⟩ := readInput_parsed_eq success finished
    have decoded := Driver.parseData_decoded (served.positive success) parses
    constructor
    · exact ⟨served.sameBase, rfl, served.sameDriver.trans decoded.sameDriver⟩
    · simp only [afterParse]
      rcases decoded.index with kept | ⟨_, named, bound⟩
      · have positive := served.positive success
        have enough := decoded.enough
        rw [served.sameDriver.kind] at enough
        rcases served.delivered success with ⟨isWii, fromPort⟩ | ⟨notWii, fits⟩
        · exact Or.inr (Or.inr (Or.inl ⟨isWii, kept.trans fromPort⟩))
        · rw [← kept] at fits
          refine Or.inr (Or.inr (Or.inr ⟨notWii, ?_, fun parsedOk => ?_⟩))
          · omega
          · have large := enough parsedOk
            omega
      · rw [served.sameDriver.inputCount] at named bound
        exact Or.inr (Or.inl ⟨named, bound⟩)
  · rw [readInput_idle success] at finished
    cases finished
    exact ⟨⟨served.sameBase, rfl, served.sameDriver⟩, Or.inl ⟨success, served.idle success⟩⟩

def Narrow (controller : Controller) : Prop :=
  controller.driver.port < CONTROLLER_MAX_INPUTS ∧
    (controller.driver.kind = .wii ∨
      ∀ endpointIdx, CONTROLLER_MAX_INPUTS ≤ endpointIdx →
        controller.base.maxPacketSize endpointIdx = 0)

theorem Progress.narrow {before after : Controller} (progress : Progress before after)
    (narrow : Narrow before) : Narrow after := by
  refine ⟨progress.driver.port narrow.1, ?_⟩
  rw [progress.driver.kind]
  rcases narrow.2 with isWii | small
  · exact Or.inl isWii
  · refine Or.inr (fun endpointIdx bound => ?_)
    rw [progress.maxPacketSize]
    exact small endpointIdx bound

theorem IndexFrom.bound {status : ControllerResult} {inputIdx : Nat} (narrow : Narrow controller)
    (source : IndexFrom controller 0 status inputIdx) : inputIdx < CONTROLLER_MAX_INPUTS := by
  rcases source with ⟨_, isGiven⟩ | ⟨named, bound⟩ | ⟨_, isPort⟩ | ⟨notWii, positive, _⟩
  · rw [isGiven]
    decide
  · exact Nat.lt_of_lt_of_le named bound
  · rw [isPort]
    exact narrow.1
  · rcases narrow.2 with isWii | small
    · exact absurd isWii notWii
    · by_contra outside
      have empty := small inputIdx (Nat.not_lt.mp outside)
      omega

theorem readInput_finishes (narrow : Narrow controller) (around : Surroundings)
    (normalData : NormalizedButtonData) :
    (controller.readInput around normalData 0).Finishes := by
  have served := controller.nextBuffer_served around 0
  by_cases success : (controller.nextBuffer around 0).1.status = .success
  · rw [readInput_parsed success]
    apply Exec.Avoids.map
    · refine Driver.parseData_avoids (fun outside => absurd outside (Nat.not_le.mpr ?_))
      rcases served.delivered success with ⟨_, fromPort⟩ | ⟨notWii, fits⟩
      · rw [fromPort]
        exact narrow.1
      · rcases narrow.2 with isWii | small
        · exact absurd isWii notWii
        · by_contra outside
          have empty := small _ (Nat.not_lt.mp outside)
          have positive := served.positive success
          omega
  · rw [readInput_idle success]
    exact Exec.Avoids.ok _

/-- A mapping that reads a pin outside the raw buttons is the only fault after parsing. -/
theorem readInput_normal
    (finished : controller.readInput around normalData given = .ok read) :
    read.normal = .ok normalData ∨
      ∃ rawData, read.normal =
        BaseController.mapRawInputToNormalized controller.config rawData normalData := by
  by_cases success : (controller.nextBuffer around given).1.status = .success
  · obtain ⟨parsed, _, rfl⟩ := readInput_parsed_eq success finished
    by_cases failed : parsed.status ≠ .success
    · exact Or.inl (if_pos failed)
    · exact Or.inr ⟨parsed.rawData, if_neg failed⟩
  · rw [readInput_idle success] at finished
    cases finished
    exact Or.inl rfl

/-! The read of a single report that waits at one endpoint. -/

def reportAt (endpointIdx : Nat) (bytes : List UInt8) (joystick : Option HIDJoystickData) :
    Surroundings where
  pending := Function.update (fun _ => []) endpointIdx [⟨.success, bytes⟩]
  joystick := joystick

theorem bufferSize_ge (controller : Controller) : 64 ≤ controller.bufferSize := by
  unfold bufferSize Driver.getMaxInputBufferSize
  cases controller.driver <;>
    simp [SwitchController.SWITCH_INPUT_BUFFER_SIZE, CONTROLLER_INPUT_BUFFER_SIZE]

theorem nextBuffer_base (controller : Controller) (around : Surroundings) (given : Nat)
    (notWii : controller.driver.kind ≠ .wii) :
    controller.nextBuffer around given =
      (controller.base.readNextBuffer around.pending around.stack controller.bufferSize given,
        controller.driver) := by
  unfold nextBuffer
  cases driverIs : controller.driver <;> first | rfl | exact absurd (by rw [driverIs]; rfl) notWii

theorem readInput_only {endpointIdx : Nat} (normalData : NormalizedButtonData) (given : Nat)
    (notWii : controller.driver.kind ≠ .wii)
    (listed : endpointIdx < controller.base.inPipe.length)
    (quiet : ∀ other, other ≠ endpointIdx → around.pending other = [])
    (success : (BaseController.readEndpointLatest (controller.base.maxPacketSize endpointIdx)
      (around.pending endpointIdx) around.stack controller.bufferSize).status = .success) :
    let read := BaseController.readEndpointLatest (controller.base.maxPacketSize endpointIdx)
      (around.pending endpointIdx) around.stack controller.bufferSize
    ∃ base, controller.readInput around normalData given =
      (controller.driver.parseData base around read.buffer read.size {} endpointIdx).map
        (controller.afterParse base normalData) := by
  intro read
  have delivers : BaseController.Delivers endpointIdx read
      (controller.base.readNextBuffer around.pending around.stack controller.bufferSize given) :=
    BaseController.readNextBuffer_only listed quiet success
  refine ⟨(controller.nextBuffer around given).1.base, ?_⟩
  have served := controller.nextBuffer_base around given notWii
  rw [readInput_parsed (by rw [served]; exact delivers.status), served]
  simp only [delivers.inputIdx, delivers.size, delivers.buffer]

theorem readInput_reportAt {endpointIdx : Nat} {bytes : List UInt8}
    (normalData : NormalizedButtonData) (joystick : Option HIDJoystickData)
    (notWii : controller.driver.kind ≠ .wii) (nonempty : bytes ≠ []) (short : bytes.length ≤ 64)
    (fits : bytes.length ≤ controller.base.maxPacketSize endpointIdx) :
    ∃ base, controller.readInput (reportAt endpointIdx bytes joystick) normalData 0 =
      (controller.driver.parseData base (reportAt endpointIdx bytes joystick)
        (Buffer.write (fun _ => 0) bytes) bytes.length {} endpointIdx).map
        (controller.afterParse base normalData) := by
  have positive : 0 < bytes.length := List.length_pos_iff.mpr nonempty
  have room := controller.bufferSize_ge
  have queued : (reportAt endpointIdx bytes joystick).pending endpointIdx =
      [⟨.success, bytes⟩] := by simp [reportAt]
  have quiet : ∀ other, other ≠ endpointIdx →
      (reportAt endpointIdx bytes joystick).pending other = [] := by
    intro other notServed
    simp [reportAt, notServed]
  have listed : endpointIdx < controller.base.inPipe.length :=
    BaseController.lt_of_maxPacketSize_pos (by omega)
  have read := BaseController.readEndpointLatest_single (reportAt endpointIdx bytes joystick).stack
    nonempty (show bytes.length ≤
      min (controller.base.maxPacketSize endpointIdx) controller.bufferSize by omega)
  rw [← queued] at read
  obtain ⟨base, parsed⟩ := readInput_only normalData 0 notWii listed
    quiet (by rw [read])
  refine ⟨base, ?_⟩
  rw [parsed, read]
  rfl

end Controller

end SysCon
