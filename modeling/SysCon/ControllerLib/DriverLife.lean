import SysCon.ControllerLib.UsbCalls

/-!
The USB calls of a controller over its life. Each goes to a pipe or an interface
that is there, and for each driver there is a bound between what its reads ask
for and the arrays that they receive into.
-/

namespace SysCon

open Library

/-- The size of `m_usb_buffer_in` and of `m_usb_buffer_out`. -/
def SwitchUSBEndpoint.sizeofUsbBuffer : Nat := 512

def UINT64_MAX : Nat := 2 ^ 64 - 1

/-- No read of the driver asks for more, and none receives into less. -/
def DriverKind.readLimit : DriverKind → Nat
  | .wii => WiiController.WII_INPUT_BUFFER_SIZE
  | .switch => SwitchController.SWITCH_INPUT_BUFFER_SIZE
  | _ => CONTROLLER_INPUT_BUFFER_SIZE

theorem DriverKind.readLimit_le (kind : DriverKind) :
    kind.readLimit ≤ CONTROLLER_INPUT_BUFFER_SIZE := by
  cases kind <;> decide

/-- `Read` does not wait without a limit, as it would for `UINT64_MAX`. -/
def UsbCall.Within (limit : Nat) (base : BaseController) : UsbCall → Prop
  | .output (.write pipe bytes) =>
      pipe < base.outPipe.length ∧ bytes.length ≤ SwitchUSBEndpoint.sizeofUsbBuffer
  | .output (.controlTransfer interface _ _ _ _ bytes) =>
      interface < base.interfaces.length ∧ bytes.length ≤ SwitchUSBInterface.sizeofUsbBuffer
  | .read endpointIdx size room timeoutUs =>
      endpointIdx < base.inPipe.length ∧ size ≤ limit ∧ limit ≤ room ∧ timeoutUs < UINT64_MAX
  | .controlInput interface _ _ _ _ wLength room =>
      interface < base.interfaces.length ∧ wLength ≤ SwitchUSBInterface.sizeofUsbBuffer ∧
        wLength ≤ room

theorem UsbCall.within_cursor {limit : Nat} {base : BaseController} (cursor : Nat)
    {call : UsbCall} :
    call.Within limit { base with currentControllerIdx := cursor } ↔ call.Within limit base := by
  cases call with
  | output output => cases output <;> rfl
  | _ => rfl

/-- An opened base: it has an interface, and the cursor is on an IN endpoint. -/
structure Ready (base : BaseController) : Prop where
  interfaces : 0 < base.interfaces.length
  cursor : base.currentControllerIdx < base.inPipe.length

theorem ready_openInterfaces {device : UsbDevice}
    (passed : (BaseController.openInterfaces device {}).1 = .success) :
    Ready (BaseController.openInterfaces device {}).2 := by
  have pipes := BaseController.openInterfaces_pipes passed
  have inputs := (BaseController.grown_openInterfaces passed).inputs
  obtain ⟨-, some⟩ := (BaseController.openInterfaces_success_iff device).mp passed
  rw [List.length_nil, Nat.zero_add] at inputs
  constructor
  · rw [pipes, List.length_map, List.length_pos_iff]
    intro none
    simp [none, endpointCount] at some
  · rw [inputs, pipes]
    exact some

/-! `Initialize`. -/

section Initialize

variable {limit : Nat} {base : BaseController}

theorem within_writeIfPresent {pipe : Nat} {packets : List (List UInt8)}
    (short : ∀ packet ∈ packets, packet.length ≤ SwitchUSBEndpoint.sizeofUsbBuffer)
    {output : Output} (sent : output ∈ base.writeIfPresent pipe packets) :
    (UsbCall.output output).Within limit base := by
  unfold BaseController.writeIfPresent at sent
  split at sent
  · rename_i present
    obtain ⟨packet, listed, rfl⟩ := List.mem_map.mp sent
    exact ⟨present, short packet listed⟩
  · cases sent

theorem Driver.openTraced_within (driver : Driver) (around : SetupSurroundings)
    (device : UsbDevice) :
    (∀ call ∈ (driver.openTraced around device {}).2.2,
      call.Within limit (driver.openTraced around device {}).2.1) ∧
    ((driver.openTraced around device {}).1 = .success →
      Ready (driver.openTraced around device {}).2.1) := by
  rw [openTraced_base]
  by_cases passed : (BaseController.openInterfaces device {}).1 = .success
  · have ready := ready_openInterfaces passed
    refine ⟨?_, fun _ => ready⟩
    cases driver with
    | dualshock3 =>
        simp only [openTraced, Dualshock3Controller.openInterfaces,
          if_neg (not_not.mpr passed), List.forall_mem_singleton]
        exact ⟨ready.interfaces, by decide⟩
    | _ => simp [openTraced]
  · constructor
    · cases driver with
      | dualshock3 => simp [openTraced, Dualshock3Controller.openInterfaces, passed]
      | _ => simp [openTraced]
    · intro opened
      cases driver with
      | dualshock3 =>
          simp [openTraced, Dualshock3Controller.openInterfaces, passed] at opened
      | xbox360Wireless state =>
          simp [openTraced, Xbox360WirelessController.openInterfaces, passed] at opened
      | _ => exact absurd opened passed

theorem SwitchController.flushReads_within (listed : 0 < base.inPipe.length)
    (waiting : List ReadOutcome) {call : UsbCall} (made : call ∈ flushReads waiting) :
    call.Within DriverKind.switch.readLimit base := by
  have flush : flushRead.Within DriverKind.switch.readLimit base :=
    ⟨listed, Nat.le_refl _, Nat.le_refl _, by decide⟩
  induction waiting with
  | nil => exact List.mem_singleton.mp made ▸ flush
  | cons outcome rest ih =>
      rcases List.mem_cons.mp made with rfl | later
      · exact flush
      · split at later
        · exact ih later
        · cases later

theorem XboxOneController.sendInitBytes_within (ready : Ready base) (vendor product : UInt16)
    (results : WriteResults) {call : InitCall}
    (made : call ∈ (sendInitBytes vendor product results 0 base).2) :
    (UsbCall.ofInit call).Within DriverKind.xboxOne.readLimit base := by
  have short : ∀ packet ∈ xboxone_init_packets,
      packet.data.length ≤ SwitchUSBEndpoint.sizeofUsbBuffer := by decide
  have readable : 0 < base.inPipe.length := Nat.zero_lt_of_lt ready.cursor
  rw [sendInitBytes] at made
  split at made
  · cases made
  · rename_i writable
    refine forall_sendPackets (fun call => (UsbCall.ofInit call).Within
      DriverKind.xboxOne.readLimit base) 1 ?_ ?_ made
    · intro packet listed packetSeq
      refine ⟨Nat.lt_of_not_le writable, ?_⟩
      rw [List.length_set]
      exact short packet listed
    · exact ⟨readable, Nat.le_refl _, Nat.le_refl _, by decide⟩

theorem Driver.setUpTraced_within (ready : Ready base) (driver : Driver)
    (around : SetupSurroundings) {call : UsbCall}
    (made : call ∈ (driver.setUpTraced around base).2.2) :
    call.Within driver.kind.readLimit base := by
  have readable : 0 < base.inPipe.length := Nat.zero_lt_of_lt ready.cursor
  cases driver with
  | xbox360 =>
      obtain ⟨output, sent, rfl⟩ := List.mem_map.mp made
      exact within_writeIfPresent (by decide) sent
  | dualshock3 =>
      obtain rfl := List.mem_singleton.mp made
      exact ⟨ready.interfaces, by decide⟩
  | xboxOne state =>
      obtain ⟨sent, listed, rfl⟩ := List.mem_map.mp made
      exact XboxOneController.sendInitBytes_within ready _ _ _ listed
  | switch state =>
      simp only [setUpTraced, SwitchController.setUp] at made
      split at made
      · cases made
      · rename_i written
        have writable : 0 < base.outPipe.length :=
          List.length_pos_iff.mpr (by simpa using written)
        rcases List.mem_append.mp made with flushed | made
        · exact SwitchController.flushReads_within readable _ flushed
        · simp only [List.mem_cons, List.not_mem_nil, or_false] at made
          rcases made with rfl | rfl | rfl
          · exact ⟨writable, by decide⟩
          · exact ⟨readable, Nat.le_refl _, Nat.le_refl _, by decide⟩
          · exact ⟨writable, by decide⟩
  | wii state =>
      simp only [setUpTraced, WiiController.setUp] at made
      split at made
      · cases made
      · rename_i written
        obtain rfl := List.mem_singleton.mp made
        exact ⟨List.length_pos_iff.mpr (by simpa using written), by decide⟩
  | genericHID state =>
      simp only [setUpTraced, GenericHIDController.setUp, List.mem_cons, List.not_mem_nil,
        or_false] at made
      rcases made with rfl | rfl
      · exact ⟨ready.interfaces, Nat.zero_le _⟩
      · exact ⟨ready.interfaces, by decide, Nat.le_refl _⟩
  | _ => cases made

end Initialize

/-! `ReadInput`. -/

namespace BaseController

variable {limit size room timeoutUs : Nat} {base : BaseController} {pending : Pending}

theorem within_pipeReads {endpointIdx : Nat} (listed : endpointIdx < base.inPipe.length)
    (small : size ≤ limit) (roomy : limit ≤ min CONTROLLER_INPUT_BUFFER_SIZE room)
    (timed : timeoutUs < UINT64_MAX) {call : UsbCall}
    (made : call ∈ base.pipeReads endpointIdx pending size room timeoutUs) :
    call.Within limit base := by
  have asked := Nat.le_trans (Nat.min_le_right (base.maxPacketSize endpointIdx) size) small
  rcases mem_latestReads made with rfl | rfl
  · exact ⟨listed, asked, Nat.le_trans roomy (Nat.min_le_right _ _), timed⟩
  · exact ⟨listed, asked, roomy, by decide⟩

theorem within_fastPassReads (nonempty : 0 < base.inPipe.length) (small : size ≤ limit)
    (roomy : limit ≤ min CONTROLLER_INPUT_BUFFER_SIZE room) {remaining i : Nat} {buffer : Buffer}
    {call : UsbCall} (made : call ∈ base.fastPassReads size room remaining i pending buffer) :
    call.Within limit base := by
  induction remaining generalizing i pending buffer with
  | zero => cases made
  | succ remaining ih =>
      rw [fastPassReads] at made
      rcases List.mem_append.mp made with here | later
      · exact within_pipeReads (Nat.mod_lt _ nonempty) small roomy (by decide) here
      · split at later
        · cases later
        · exact ih later

theorem within_nextReads (cursor : base.currentControllerIdx < base.inPipe.length)
    (small : size ≤ limit) (roomy : limit ≤ min CONTROLLER_INPUT_BUFFER_SIZE room)
    (timed : timeoutUs < UINT64_MAX) {buffer : Buffer} {inputIdx : Nat} {call : UsbCall}
    (made : call ∈ base.nextReads pending buffer size inputIdx room timeoutUs) :
    call.Within limit base := by
  unfold nextReads at made
  split at made
  · cases made
  · rcases List.mem_append.mp made with swept | blocking
    · exact within_fastPassReads (Nat.zero_lt_of_lt cursor) small roomy swept
    · split at blocking
      · cases blocking
      · exact within_pipeReads cursor small roomy timed blocking

theorem fastPass_cursor (cursor : base.currentControllerIdx < base.inPipe.length)
    {inputIdx remaining i : Nat} {buffer : Buffer} :
    let next := base.fastPass size inputIdx remaining i pending buffer
    next.base.currentControllerIdx < next.base.inPipe.length := by
  induction remaining generalizing i pending buffer with
  | zero => exact cursor
  | succ remaining ih =>
      simp only [fastPass]
      split
      · exact Nat.mod_lt _ (Nat.zero_lt_of_lt cursor)
      · exact ih

theorem readNextBuffer_cursor (cursor : base.currentControllerIdx < base.inPipe.length)
    {inputIdx : Nat} {buffer : Buffer} :
    let next := base.readNextBuffer pending buffer size inputIdx
    next.base.currentControllerIdx < next.base.inPipe.length := by
  unfold readNextBuffer
  split
  · exact cursor
  · simp only
    split
    · exact fastPass_cursor cursor
    · split
      · exact Nat.mod_lt _ (Nat.zero_lt_of_lt cursor)
      · exact Nat.mod_lt _ (Nat.zero_lt_of_lt cursor)

end BaseController

theorem Driver.readNextBuffer_cursor (driver : Driver) {base : BaseController}
    (cursor : base.currentControllerIdx < base.inPipe.length) {pending : Pending} {buffer : Buffer}
    {size inputIdx : Nat} :
    let next := (driver.readNextBuffer base pending buffer size inputIdx).1
    next.base.currentControllerIdx < next.base.inPipe.length := by
  cases driver with
  | wii state =>
      simp only [readNextBuffer, WiiController.readNextBuffer]
      split
      · split
        · exact BaseController.readNextBuffer_cursor cursor
        · split
          · exact BaseController.readNextBuffer_cursor cursor
          · exact BaseController.readNextBuffer_cursor cursor
      · exact cursor
  | _ => exact BaseController.readNextBuffer_cursor cursor

theorem Controller.reads_within {controller : Controller} (ready : Ready controller.base)
    (turn : Turn) {call : UsbCall} (made : call ∈ controller.reads turn) :
    call.Within controller.driver.kind.readLimit controller.base := by
  have timed : turn.timeoutUs.toNat < UINT64_MAX :=
    Nat.lt_of_lt_of_le turn.timeoutUs.toNat_lt (by decide)
  obtain ⟨base, driver, config⟩ := controller
  unfold reads at made
  split at made
  · rename_i state isWii
    simp only at isWii
    subst isWii
    split at made
    · exact BaseController.within_nextReads ready.cursor (Nat.le_refl _)
        (le_min (DriverKind.readLimit_le .wii) (Nat.le_refl _)) timed made
    · cases made
  · rename_i notWii
    have small : min CONTROLLER_INPUT_BUFFER_SIZE driver.getMaxInputBufferSize ≤
        driver.kind.readLimit := by
      cases driver with
      | wii state => exact absurd rfl (notWii state)
      | _ => exact Nat.min_le_right _ _
    have roomy := driver.kind.readLimit_le
    exact BaseController.within_nextReads ready.cursor small (le_min roomy roomy) timed made

theorem Reacts.mem_reply {asks : Prop} {reply sent : List Output}
    (reacts : Reacts asks reply sent) {output : Output} (made : output ∈ sent) :
    output ∈ reply := by
  by_cases asked : asks
  · exact reacts.asked asked ▸ made
  · rw [reacts.quiet asked] at made
    cases made

section Parse

variable {limit : Nat} {base : BaseController} {buffer : Buffer} {size inputIdx : Nat}
  {rawData : RawInputData}

theorem XboxOneController.parseData_within (results : WriteResults)
    (controller : XboxOneController) {output : Output}
    (sent : output ∈ (controller.parseData base results buffer size rawData inputIdx).sent) :
    (UsbCall.output output).Within limit base := by
  have reacts := controller.parseData_reacts base results buffer size rawData inputIdx
  refine within_writeIfPresent ?_ (reacts.mem_reply sent)
  simp [ackModeReport, SwitchUSBEndpoint.sizeofUsbBuffer]

theorem Xbox360WirelessController.onControllerDisconnect_within
    {controller : Xbox360WirelessController} {ended : Xbox360WirelessController × List Output}
    (finished : controller.onControllerDisconnect base inputIdx = .ok ended) {output : Output}
    (sent : output ∈ ended.2) : (UsbCall.output output).Within limit base := by
  rw [onControllerDisconnect_sent finished] at sent
  exact within_writeIfPresent (by decide) sent

theorem Xbox360WirelessController.onControllerConnect_within
    {controller : Xbox360WirelessController} {ended : Xbox360WirelessController × List Output}
    (finished : controller.onControllerConnect base inputIdx = .ok ended) {output : Output}
    (sent : output ∈ ended.2) : (UsbCall.output output).Within limit base := by
  rw [onControllerConnect_sent finished] at sent
  refine within_writeIfPresent ?_ sent
  simp [reconnectPacket, initDriverPacket, ledPacket, SwitchUSBEndpoint.sizeofUsbBuffer]

theorem Xbox360WirelessController.parseData_within {controller : Xbox360WirelessController}
    {parsed : Parsed Xbox360WirelessController}
    (finished : controller.parseData base buffer size rawData inputIdx = .ok parsed)
    {output : Output} (sent : output ∈ parsed.sent) :
    (UsbCall.output output).Within limit base := by
  unfold parseData at finished
  split at finished
  · obtain ⟨ended, handled, rest⟩ := Exec.bind_eq_ok finished
    obtain rfl := Except.ok.inj rest
    obtain ⟨wasConnected, _, rest⟩ := Exec.bind_eq_ok handled
    split at rest
    · split at rest
      · exact onControllerConnect_within rest sent
      · exact onControllerDisconnect_within rest sent
    · obtain rfl := Except.ok.inj rest
      cases sent
  · have quiet : parsed.sent = [] := by
      split at finished
      · split at finished
        · exact Except.ok.inj finished ▸ rfl
        · simp only at finished
          split at finished <;> exact Except.ok.inj finished ▸ rfl
      · exact Except.ok.inj finished ▸ rfl
    rw [quiet] at sent
    cases sent

theorem SteamController2026.parseData_within {controller : SteamController2026}
    {parsed : Parsed SteamController2026}
    (finished : controller.parseData base buffer size rawData inputIdx = .ok parsed)
    {output : Output} (sent : output ∈ parsed.sent) :
    (UsbCall.output output).Within limit base := by
  have replied := (parseData_reacts finished).mem_reply sent
  unfold updateLizard at replied
  split at replied
  · cases replied
  · rename_i listed
    obtain rfl := List.mem_singleton.mp replied
    exact ⟨(List.getElem?_eq_some_iff.mp listed).1, by decide⟩

theorem Driver.parseData_within {driver : Driver} {around : Surroundings} {parsed : Parsed Driver}
    (finished : driver.parseData base around buffer size rawData inputIdx = .ok parsed)
    {output : Output} (sent : output ∈ parsed.sent) :
    (UsbCall.output output).Within limit base := by
  cases driver with
  | xboxOne state =>
      obtain rfl := Except.ok.inj finished
      exact XboxOneController.parseData_within _ state sent
  | xbox360Wireless state =>
      obtain ⟨inner, parsedOk, rfl⟩ := map_eq_ok finished
      exact Xbox360WirelessController.parseData_within parsedOk sent
  | steamController2026 state =>
      obtain ⟨inner, parsedOk, rfl⟩ := map_eq_ok finished
      exact SteamController2026.parseData_within parsedOk sent
  | _ =>
      rw [parseData_silent (by simp [kind]) finished] at sent
      cases sent

end Parse

theorem Controller.readInput_cursor {controller : Controller}
    (cursor : controller.base.currentControllerIdx < controller.base.inPipe.length)
    {around : Surroundings} {normalData : NormalizedButtonData} {inputIdx : Nat} {read : ReadInput}
    (finished : controller.readInput around normalData inputIdx = .ok read) :
    read.controller.base.currentControllerIdx < read.controller.base.inPipe.length := by
  have next : (controller.nextBuffer around inputIdx).1.base.currentControllerIdx <
      (controller.nextBuffer around inputIdx).1.base.inPipe.length :=
    controller.driver.readNextBuffer_cursor cursor
  by_cases success : (controller.nextBuffer around inputIdx).1.status = .success
  · obtain ⟨parsed, _, rfl⟩ := readInput_parsed_eq success finished
    exact next
  · rw [readInput_idle success] at finished
    obtain rfl := Except.ok.inj finished
    exact next

theorem Controller.readInput_sent {controller : Controller} {around : Surroundings}
    {normalData : NormalizedButtonData} {inputIdx : Nat} {read : ReadInput}
    (finished : controller.readInput around normalData inputIdx = .ok read) {limit : Nat}
    {output : Output} (sent : output ∈ read.sent) :
    (UsbCall.output output).Within limit controller.base := by
  by_cases success : (controller.nextBuffer around inputIdx).1.status = .success
  · obtain ⟨parsed, parses, rfl⟩ := readInput_parsed_eq success finished
    obtain ⟨cursor, sameBase⟩ := (controller.nextBuffer_served around inputIdx).sameBase
    rw [sameBase] at parses
    exact (UsbCall.within_cursor cursor).mp (Driver.parseData_within parses sent)
  · rw [readInput_idle success] at finished
    obtain rfl := Except.ok.inj finished
    cases sent

/-! Whole lives. -/

/-- One turn: its calls, and what stays for the turns after it. -/
theorem turnStep_within {controller next : Controller} {action : Turn × List UsbCall}
    (ready : Ready controller.base) (step : turnStep controller action next) :
    (∀ call ∈ action.2, call.Within controller.driver.kind.readLimit controller.base) ∧
      Ready next.base ∧ next.driver.kind = controller.driver.kind ∧
      ∃ cursor, next.base = { controller.base with currentControllerIdx := cursor } := by
  obtain ⟨read, finished, rfl, calls⟩ := step
  have progress := (Controller.readInput_progress finished).1
  obtain ⟨cursor, sameBase⟩ := progress.sameBase
  refine ⟨?_, ?_, progress.driver.kind, cursor, sameBase⟩
  · intro call made
    rw [calls] at made
    rcases List.mem_append.mp made with asked | replied
    · exact controller.reads_within ready action.1 asked
    · obtain ⟨output, sent, rfl⟩ := List.mem_map.mp replied
      exact Controller.readInput_sent finished sent
  · refine ⟨?_, Controller.readInput_cursor ready.cursor finished⟩
    rw [sameBase]
    exact ready.interfaces

theorem run_within {controller last : Controller} {turns : List (Turn × List UsbCall)}
    (run : Run turnStep controller turns last) (ready : Ready controller.base) :
    (∀ call ∈ turns.flatMap Prod.snd,
      call.Within controller.driver.kind.readLimit controller.base) ∧
    ∃ cursor, last.base = { controller.base with currentControllerIdx := cursor } := by
  induction run with
  | nil controller => exact ⟨by simp, controller.base.currentControllerIdx, rfl⟩
  | cons step _ ih =>
      obtain ⟨within, readied, kind, cursor, sameBase⟩ := turnStep_within ready step
      obtain ⟨later, final, lastBase⟩ := ih readied
      constructor
      · intro call made
        rcases List.mem_append.mp (List.flatMap_cons ▸ made) with first | rest
        · exact within call first
        · have bounded := later call rest
          rw [kind, sameBase] at bounded
          exact (UsbCall.within_cursor cursor).mp bounded
      · exact ⟨final, by rw [lastBase, sameBase]⟩

section Life

variable {driver : Driver} {config : ControllerConfig} {around : SetupSurroundings}
  {device : UsbDevice} {calls : List UsbCall} {last : Controller}

theorem Controller.initializeTraced_within (driver : Driver) (config : ControllerConfig)
    (around : SetupSurroundings) (device : UsbDevice) :
    let started := Controller.initializeTraced { driver, config } around device
    (∀ call ∈ started.2.2, call.Within driver.kind.readLimit started.2.1.base) ∧
      (started.1 = .success →
        Ready started.2.1.base ∧ started.2.1.driver.kind = driver.kind) := by
  obtain ⟨opening, opened⟩ := driver.openTraced_within around device
  unfold initializeTraced
  simp only
  split
  · rename_i failed
    exact ⟨opening, fun success => absurd success failed⟩
  · rename_i passed
    have ready := opened (not_not.mp passed)
    refine ⟨?_, fun _ => ⟨ready, ?_⟩⟩
    · intro call made
      rcases List.mem_append.mp made with early | late
      · exact opening call early
      · exact driver.setUpTraced_within ready around late
    · cases driver <;> rfl

theorem Lives.within (life : Lives { driver, config } around device calls last) {call : UsbCall}
    (made : call ∈ calls) : call.Within driver.kind.readLimit last.base := by
  obtain ⟨started, begun⟩ := Controller.initializeTraced_within driver config around device
  cases life with
  | initialized => exact started call made
  | reading success run =>
      obtain ⟨ready, kind⟩ := begun success
      obtain ⟨turns, cursor, lastBase⟩ := run_within run ready
      rw [lastBase]
      refine (UsbCall.within_cursor cursor).mpr ?_
      rcases List.mem_append.mp made with early | late
      · exact started call early
      · exact kind ▸ turns call late

theorem Xbox360WirelessController.closeInterfaces_within {limit : Nat} {base : BaseController}
    {controller : Xbox360WirelessController} {ended : Xbox360WirelessController × List Output}
    (finished : controller.closeInterfaces base = .ok ended) :
    ∀ output ∈ ended.2, (UsbCall.output output).Within limit base := by
  let within (current : Xbox360WirelessController × List Output) : Prop :=
    ∀ output ∈ current.2, (UsbCall.output output).Within limit base
  have closed : within ended := by
    refine (Run.of_foldlM finished).invariant (fun output sent => by cases sent) ?_
    intro current inputIdx next before step output sent
    obtain ⟨isConnected, _, rest⟩ := Exec.bind_eq_ok step
    split at rest
    · obtain ⟨away, disconnected, rest⟩ := Exec.bind_eq_ok rest
      obtain rfl := Except.ok.inj rest
      rcases List.mem_append.mp sent with earlier | last
      · exact before output earlier
      · exact onControllerDisconnect_within disconnected last
    · obtain rfl := Except.ok.inj rest
      exact before output sent
  exact closed

theorem Controller.exitSends_within {controller : Controller} {limit : Nat} {sent : List Output}
    (finished : controller.exitSends = .ok sent) :
    ∀ output ∈ sent, (UsbCall.output output).Within limit controller.base := by
  obtain ⟨base, driver, config⟩ := controller
  cases driver with
  | xbox360Wireless state =>
      obtain ⟨ended, closed, rfl⟩ := Driver.map_eq_ok finished
      exact Xbox360WirelessController.closeInterfaces_within closed
  | _ =>
      obtain rfl := Except.ok.inj finished
      simp

/-- In every life of a controller each USB call goes to a pipe or an interface that is there and
fits the transfer buffers. What a call asks for fits into the array it receives into: the one limit
between the two depends on the driver only. -/
theorem life_within (life : Lives { driver, config } around device calls last) :
    driver.kind.readLimit ≤ SwitchUSBEndpoint.sizeofUsbBuffer ∧
      (∀ call ∈ calls, call.Within driver.kind.readLimit last.base) ∧
      ∀ sent, last.exitSends = .ok sent →
        ∀ output ∈ sent, (UsbCall.output output).Within driver.kind.readLimit last.base := by
  refine ⟨?_, fun _ made => life.within made, ?_⟩
  · exact Nat.le_trans driver.kind.readLimit_le (by decide)
  · intro sent finished
    exact Controller.exitSends_within finished

end Life

/-- An Xbox One pad that is turned on, and a turn that finds nothing to read. -/
theorem xboxOnePad_lives :
    ∃ last, Lives { driver := .xboxOne {} } { vendor := 0x045e, product := 0x02dd }
      XboxOneController.pdpPad
      [.output (.write 0 [0x05, 0x20, 1, 0x01, 0x00]), .read 0 256 256 (250 * 1000),
        .read 0 64 256 0, .read 0 64 256 1000] last := by
  let turn : Turn := { timeoutUs := 1000 }
  let started := Controller.initializeTraced { driver := .xboxOne {} }
    { vendor := 0x045e, product := 0x02dd } XboxOneController.pdpPad
  have success : started.1 = .success := by decide
  have step : ∃ next, turnStep started.2.1 (turn, started.2.1.reads turn) next :=
    ⟨_, _, rfl, rfl, (List.append_nil _).symm⟩
  obtain ⟨next, step⟩ := step
  exact ⟨next, Lives.reading success (Run.cons step (Run.nil next))⟩

theorem xboxOnePad_within :
    ∃ last : Controller,
      DriverKind.xboxOne.readLimit ≤ SwitchUSBEndpoint.sizeofUsbBuffer ∧
      ∀ call ∈ [UsbCall.output (.write 0 [0x05, 0x20, 1, 0x01, 0x00]),
        .read 0 256 256 (250 * 1000), .read 0 64 256 0, .read 0 64 256 1000],
        call.Within DriverKind.xboxOne.readLimit last.base := by
  obtain ⟨last, life⟩ := xboxOnePad_lives
  obtain ⟨limited, within, -⟩ := life_within life
  exact ⟨last, limited, within⟩

end SysCon
