import SysCon.ControllerSwitch.HandlerLifetime
import SysCon.Library.Runs

/-!
What the console was last told about an input of a `SwitchHDLHandler`: for every
attached input it is the state of the latest report. And when the console took
a virtual device away, what makes the handler ask for one again.
-/

namespace SysCon

open Library

namespace SwitchVirtualGamepadHandler

/-! The mask of the buttons says exactly which of them are down. -/

theorem or_and_eq_zero (first second bits : UInt64) :
    (first ||| second) &&& bits = 0 ↔ first &&& bits = 0 ∧ second &&& bits = 0 := by
  rw [← UInt64.or_eq_zero_iff, ← UInt64.toBitVec_inj, ← UInt64.toBitVec_inj]
  simp only [UInt64.toBitVec_and, UInt64.toBitVec_or, BitVec.and_or_distrib_right]

theorem foldl_or_and_eq_zero {item : Type} (down : item → Bool) (mask : item → UInt64)
    (items : List item) (start bits : UInt64) :
    items.foldl (fun buttons each => if down each then buttons ||| mask each else buttons) start &&&
        bits = 0 ↔
      start &&& bits = 0 ∧ ∀ each ∈ items, down each = true → mask each &&& bits = 0 := by
  induction items generalizing start with
  | nil => simp
  | cons each rest ih =>
      rw [List.foldl_cons, ih, List.forall_mem_cons]
      by_cases pressed : down each = true
      · simp only [pressed, if_true, or_and_eq_zero, forall_const, and_assoc]
      · simp [pressed]

theorem npadButtons_and_ne_zero (data : NormalizedButtonData) {button : ControllerButton}
    {mask : UInt64} (listed : (button, mask) ∈ npadButtonList) :
    npadButtons data &&& mask ≠ 0 ↔ data.buttons button = true := by
  have apart : ∀ first ∈ npadButtonList, ∀ second ∈ npadButtonList,
      first.2 &&& second.2 = 0 ↔ first ≠ second := by decide
  have zero : npadButtons data &&& mask = 0 ↔
      0 &&& mask = 0 ∧ ∀ each ∈ npadButtonList, data.buttons each.1 = true → each.2 &&& mask = 0 :=
    foldl_or_and_eq_zero (fun each : ControllerButton × UInt64 => data.buttons each.1) Prod.snd
      npadButtonList 0 mask
  rw [ne_eq, zero]
  constructor
  · intro some
    by_contra up
    refine some ⟨UInt64.zero_and, ?_⟩
    intro each member pressed
    refine (apart each member _ listed).mpr ?_
    rintro rfl
    exact up pressed
  · rintro pressed ⟨-, none⟩
    exact (apart _ listed _ listed).mp (none _ listed pressed) rfl

/-! What one read does to its own input. -/

/-- The read brings a report of a connected controller. -/
structure InputRead.Delivers (read : InputRead) (slot : InputIdx) : Prop where
  inputIdx : read.inputIdx = slot
  connected : read.isControllerConnected = true
  success : read.status = .success

/-- The read is for another input, or it brings nothing while the controller stays connected. -/
def InputRead.Stays (slot : InputIdx) (read : InputRead) : Prop :=
  read.inputIdx = slot → read.isControllerConnected = true ∧ read.status ≠ .success

section Fate

variable {pads answers : Type} {backend : GamepadBackend pads answers}
  {handler after : SwitchVirtualGamepadHandler pads} {given : answers} {read : InputRead}
  {result : Result}

theorem trackConnection_pads_of_connected (handler : SwitchVirtualGamepadHandler pads)
    (inputIdx : InputIdx) :
    (trackConnection backend handler inputIdx true).pads = handler.pads := by
  rcases trackConnection_cases backend handler true inputIdx with
    ⟨_, unchanged⟩ | ⟨_, changed⟩ | ⟨isFalse, _⟩
  · rw [unchanged]
  · rw [changed]
  · simp at isFalse

theorem trackConnection_detaches (lawful : backend.Lawful)
    {inputIdx : InputIdx} (invariant : ConnectedAt backend handler inputIdx) :
    let tracked := trackConnection backend handler inputIdx false
    backend.isControllerAttached tracked.pads inputIdx = false ∧
      (tracked.pads = backend.detachController handler.pads inputIdx ∨
        tracked.pads = handler.pads) := by
  constructor
  · have tracked := trackConnection_connectedAt lawful false inputIdx invariant
    rw [ConnectedAt, trackConnection_isConnected] at tracked
    simpa using tracked
  · rcases trackConnection_cases backend handler false inputIdx with
      ⟨_, unchanged⟩ | ⟨isTrue, _⟩ | ⟨_, changed⟩
    · exact Or.inr (by rw [unchanged])
    · simp at isTrue
    · exact Or.inl (by rw [changed])

/-- The input of a read loses its device, is left alone, or is sent the state of the report. -/
theorem handleInput_fate (lawful : backend.Lawful)
    (invariant : ConnectedAt backend handler read.inputIdx)
    (step : handleInput backend given handler read = .ok (result, after)) :
    (read.isControllerConnected = false ∧
      backend.isControllerAttached after.pads read.inputIdx = false ∧
      (after.pads = backend.detachController handler.pads read.inputIdx ∨
        after.pads = handler.pads)) ∨
    (read.Stays read.inputIdx ∧ after.pads = handler.pads) ∨
    (read.Delivers read.inputIdx ∧ ∃ ready,
      (ready = backend.attachController given handler.pads read.inputIdx ∨
        ready = handler.pads) ∧
      backend.updateControllerState given ready (gamepadState read.normal) read.inputIdx =
        .ok (result, after.pads)) := by
  have connection : ((trackConnection backend handler read.inputIdx
      read.isControllerConnected).controllerData read.inputIdx).isConnected =
      read.isControllerConnected :=
    trackConnection_isConnected _ _
  rcases handleInput_cases step with ⟨idle, _, same⟩ | ⟨connected, success, updated, sent, same⟩
  · cases connected : read.isControllerConnected with
    | false =>
        left
        rw [same, connected]
        exact ⟨rfl, trackConnection_detaches lawful invariant⟩
    | true =>
        right
        left
        rw [connection, connected] at idle
        refine ⟨fun _ => ⟨connected, idle.resolve_left (by simp)⟩, ?_⟩
        rw [same, connected]
        exact trackConnection_pads_of_connected handler read.inputIdx
  · right
    right
    rw [connection] at connected
    have ready := reattach_pads backend given (trackConnection backend handler read.inputIdx
      read.isControllerConnected) (gamepadState read.normal).buttons read.inputIdx
    rw [connected, trackConnection_pads_of_connected] at ready
    rw [connected] at sent
    refine ⟨⟨rfl, connected, success⟩, _, ready, ?_⟩
    rw [same]
    exact sent

end Fate

end SwitchVirtualGamepadHandler

open SwitchVirtualGamepadHandler

def HiddbgCall.inputIdx : HiddbgCall → InputIdx
  | .attachHdlsVirtualDevice inputIdx _ => inputIdx
  | .detachHdlsVirtualDevice inputIdx _ => inputIdx
  | .setHdlsState inputIdx _ _ => inputIdx

namespace SwitchHDLHandler

/-- The calls for an input, newest first. -/
def callsOf (pads : HdlPads) (slot : InputIdx) : List HiddbgCall :=
  pads.calls.filter fun call => call.inputIdx = slot

section Calls

variable {given : HiddbgAnswers} {pads : HdlPads} {inputIdx slot : InputIdx}

theorem callsOf_attachController_other (given : HiddbgAnswers) (pads : HdlPads)
    (other : slot ≠ inputIdx) : callsOf (attachController given pads inputIdx) slot =
      callsOf pads slot := by
  unfold attachController
  split
  · rfl
  · split
    · simp [callsOf, HiddbgCall.inputIdx, other.symm]
    · simp [callsOf, HiddbgCall.inputIdx, other.symm]

theorem callsOf_detachController_other (pads : HdlPads) (other : slot ≠ inputIdx) :
    callsOf (detachController pads inputIdx) slot = callsOf pads slot := by
  unfold detachController
  split
  · rfl
  · simp [callsOf, HiddbgCall.inputIdx, other.symm]

theorem callsOf_updateControllerState_other (given : HiddbgAnswers) (pads : HdlPads)
    (state : GamepadState) (other : slot ≠ inputIdx) :
    callsOf (updateControllerState given pads state inputIdx).2 slot = callsOf pads slot := by
  unfold updateControllerState
  simp only
  split
  · split
    · rw [callsOf_detachController_other _ other]
      simp [callsOf, HiddbgCall.inputIdx, other.symm]
    · simp [callsOf, HiddbgCall.inputIdx, other.symm]
  · rfl

/-- A device that is still there after a state was sent has been told that state. -/
theorem updateControllerState_told (state : GamepadState)
    (attached : isControllerAttached (updateControllerState given pads state inputIdx).2 inputIdx =
      true) :
    let after := (updateControllerState given pads state inputIdx).2
    (callsOf after inputIdx).head? =
      some (.setHdlsState inputIdx (after.hdlHandle inputIdx) state) := by
  unfold updateControllerState at attached ⊢
  simp only at attached ⊢
  split
  · rename_i before
    rw [if_pos before] at attached
    split
    · rename_i refused
      rw [if_pos refused] at attached
      have gone : isControllerAttached (detachController { pads with
          hdlState := Function.update pads.hdlState inputIdx state
          calls := .setHdlsState inputIdx (pads.hdlHandle inputIdx) state :: pads.calls } inputIdx)
          inputIdx = false := lawful.detach_self _ _
      exact absurd (gone.symm.trans attached) Bool.false_ne_true
    · simp [callsOf, HiddbgCall.inputIdx]
  · rename_i detached
    rw [if_neg detached] at attached
    exact absurd attached detached

end Calls

variable {before after : SwitchVirtualGamepadHandler HdlPads} {given : HiddbgAnswers}
  {read : InputRead} {result : Result} {slot : InputIdx}

theorem handleInput_callsOf_other
    (step : handleInput backend given before read = .ok (result, after))
    (other : slot ≠ read.inputIdx) : callsOf after.pads slot = callsOf before.pads slot := by
  have unplugged : callsOf (trackConnection backend before read.inputIdx
      read.isControllerConnected).pads slot = callsOf before.pads slot := by
    rcases trackConnection_cases backend before read.isControllerConnected read.inputIdx with
      ⟨_, unchanged⟩ | ⟨_, changed⟩ | ⟨_, changed⟩
    · rw [unchanged]
    · rw [changed]
    · rw [changed]
      exact callsOf_detachController_other _ other
  rcases handleInput_cases step with ⟨_, _, same⟩ | ⟨_, _, updated, sent, same⟩
  · rw [same, unplugged]
  · let tracked := trackConnection backend before read.inputIdx read.isControllerConnected
    let state := gamepadState read.normal
    have ready : callsOf (reattach backend given tracked read.inputIdx state.buttons).pads slot =
        callsOf tracked.pads slot := by
      rcases reattach_pads backend given tracked state.buttons read.inputIdx with asked | unchanged
      · rw [asked]
        exact callsOf_attachController_other given _ other
      · rw [unchanged]
    have kept := callsOf_updateControllerState_other given
      (reattach backend given tracked read.inputIdx state.buttons).pads state other
    rw [update_eq_ok.mp sent] at kept
    rw [same]
    exact (kept.trans ready).trans unplugged

/-! An attached input was last told the state of its latest report, and has brought none since. -/

/-- The device of the input was last told the state of this report. -/
def ToldBy (pads : HdlPads) (slot : InputIdx) (read : InputRead) : Prop :=
  read.Delivers slot ∧ (callsOf pads slot).head? =
    some (.setHdlsState slot (pads.hdlHandle slot) (gamepadState read.normal))

def Shows (reads : List InputRead) (pads : HdlPads) (slot : InputIdx) : Prop :=
  isControllerAttached pads slot = true →
    Since (fun _ read => ToldBy pads slot read) (InputRead.Stays slot) reads

theorem handleInput_shows {reads : List InputRead} (invariant : ConnectedAt backend before slot)
    (shows : Shows reads before.pads slot)
    (step : handleInput backend given before read = .ok (result, after)) :
    Shows (reads ++ [read]) after.pads slot := by
  intro attached
  by_cases own : slot = read.inputIdx
  · subst own
    rcases handleInput_fate lawful invariant step with
      ⟨_, gone, _⟩ | ⟨stays, same⟩ | ⟨delivers, ready, -, sent⟩
    · exact absurd (gone.symm.trans attached) Bool.false_ne_true
    · rw [same] at attached ⊢
      exact (shows attached).kept stays
    · have same : updateControllerState given ready (gamepadState read.normal) read.inputIdx =
          (result, after.pads) := update_eq_ok.mp sent
      refine Since.started ⟨delivers, ?_⟩
      have told : (updateControllerState given ready (gamepadState read.normal)
          read.inputIdx).2 = after.pads := congrArg Prod.snd same
      rw [← told] at attached ⊢
      exact updateControllerState_told (gamepadState read.normal) attached
  · have same := handleInput_sameSlot step own
    have before : isControllerAttached before.pads slot = true := by
      rwa [← isControllerAttached_of_same same]
    refine ((shows before).mono ?_ fun _ stays => stays).kept fun here => absurd here.symm own
    rintro _ here ⟨delivers, told⟩
    refine ⟨delivers, ?_⟩
    rw [handleInput_callsOf_other step own, same.1]
    exact told

end SwitchHDLHandler

namespace SwitchVirtualGamepadHandler

/-! A run of the input thread, with what each call of `UpdateInput` read. -/

/-- The report behind a read: the driver parsed it, and the configuration made the buttons and
sticks of it. -/
def Decoded (config : ControllerConfig) (read : InputRead) : Prop :=
  ∃ (driver : Driver) (base : BaseController) (around : Surroundings) (buffer : Buffer)
    (size given : Nat) (parsed : Parsed Driver),
    driver.parseData base around buffer size {} given = .ok parsed ∧
      parsed.status = .success ∧ parsed.inputIdx = read.inputIdx ∧
      BaseController.mapRawInputToNormalized config parsed.rawData {} = .ok read.normal

def Reads (controller : Controller) (around : Surroundings) (read : InputRead)
    (next : Controller) : Prop :=
  ∃ answer, controller.readInput around {} 0 = .ok answer ∧ answer.controller = next ∧
    answer.status = read.status ∧ answer.inputIdx = read.inputIdx ∧
    answer.normal = .ok read.normal ∧
    next.driver.isControllerConnected read.inputIdx = .ok read.isControllerConnected

theorem Reads.decoded {controller next : Controller} {around : Surroundings} {read : InputRead}
    (reads : Reads controller around read next) (success : read.status = .success) :
    Decoded controller.config read := by
  obtain ⟨answer, finished, -, status, inputIdx, normal, -⟩ := reads
  by_cases served : (controller.nextBuffer around 0).1.status = .success
  · obtain ⟨parsed, parses, rfl⟩ := Controller.readInput_parsed_eq served finished
    have passed : parsed.status = .success := status.trans success
    simp only [Controller.afterParse, passed, ne_eq, not_true_eq_false, if_false] at normal
    exact ⟨_, _, _, _, _, _, parsed, parses, passed, inputIdx, normal⟩
  · rw [Controller.readInput_idle served] at finished
    cases finished
    exact absurd (status.trans success) served

theorem Reads.config {controller next : Controller} {around : Surroundings} {read : InputRead}
    (reads : Reads controller around read next) : next.config = controller.config := by
  obtain ⟨answer, finished, rfl, -⟩ := reads
  exact (Controller.readInput_progress finished).1.config

section Run

variable {pads answers : Type} {backend : GamepadBackend pads answers}

/-- One turn of the input thread that read `action.2`. -/
def inputStep (backend : GamepadBackend pads answers)
    (state : Controller × SwitchVirtualGamepadHandler pads)
    (action : UpdateCall answers × InputRead)
    (next : Controller × SwitchVirtualGamepadHandler pads) : Prop :=
  Reads state.1 action.1.around action.2 next.1 ∧
    ∃ result, handleInput backend action.1.given state.2 action.2 = .ok (result, next.2)

theorem exists_read {state next : Controller × SwitchVirtualGamepadHandler pads}
    {call : UpdateCall answers} (step : runOnce backend state call = .ok next) :
    ∃ read, inputStep backend state (call, read) next := by
  unfold runOnce updateInput at step
  obtain ⟨⟨result, controller, handler⟩, updated, step⟩ := Exec.bind_eq_ok step
  obtain ⟨answer, readOk, updated⟩ := Exec.bind_eq_ok updated
  obtain ⟨normal, normalOk, updated⟩ := Exec.bind_eq_ok updated
  split at updated
  · rename_i bound
    obtain ⟨connected, connectedOk, updated⟩ := Exec.bind_eq_ok updated
    obtain ⟨⟨result', handler'⟩, handled, updated⟩ := Exec.bind_eq_ok updated
    simp only [pure, Except.pure, Except.ok.injEq, Prod.mk.injEq] at updated step
    obtain ⟨rfl, rfl, rfl⟩ := updated
    subst step
    exact ⟨⟨answer.status, ⟨answer.inputIdx, bound⟩, connected, normal⟩,
      ⟨answer, readOk, rfl, rfl, rfl, normalOk, connectedOk⟩, result', handled⟩
  · simp at updated

theorem exists_reads {calls : List (UpdateCall answers)}
    {state last : Controller × SwitchVirtualGamepadHandler pads}
    (finished : onRun backend calls state = .ok last) :
    ∃ reads : List InputRead, reads.length = calls.length ∧
      Run (inputStep backend) state (calls.zip reads) last := by
  have run := Run.of_foldlM finished
  induction run with
  | nil current => exact ⟨[], rfl, Run.nil current⟩
  | @cons current call next calls last step _ ih =>
      obtain ⟨read, taken⟩ := exists_read step
      obtain ⟨reads, length, later⟩ := ih (by
        unfold onRun at finished ⊢
        rw [List.foldlM_cons, step] at finished
        exact finished)
      exact ⟨read :: reads, congrArg Nat.succ length, Run.cons taken later⟩

end Run

end SwitchVirtualGamepadHandler

namespace SwitchHDLHandler

/-! A run after `Initialize`, which knows the inputs that the driver counts. -/

theorem resetLoop_attached {pads initial : HdlPads} {count : Nat}
    (loops : (List.range count).foldlM resetController initial = .ok pads)
    (counted : slot.val < count) : isControllerAttached pads slot = false := by
  induction count generalizing pads with
  | zero => exact absurd counted (Nat.not_lt_zero _)
  | succ count ih =>
      rw [List.range_succ, List.foldlM_append] at loops
      obtain ⟨before, earlier, last⟩ := Exec.bind_eq_ok loops
      rw [List.foldlM_cons] at last
      obtain ⟨after, step, same⟩ := Exec.bind_eq_ok last
      cases same
      unfold resetController at step
      split at step
      · rename_i bound
        cases step
        by_cases here : slot = ⟨count, bound⟩
        · simp [isControllerAttached, reset, here]
        · have below : slot.val < count :=
            Nat.lt_of_le_of_ne (Nat.le_of_lt_succ counted) fun equal => here (Fin.ext equal)
          have detached := ih earlier below
          simpa [isControllerAttached, reset, Function.update_of_ne here] using detached
      · simp at step

theorem initializePads_attached {controller : Controller} {memory pads : HdlPads}
    (initialized : initializePads controller memory = .ok pads)
    (counted : slot.val < controller.driver.getInputCount) :
    isControllerAttached pads slot = false :=
  resetLoop_attached initialized counted

structure Faithful (config : ControllerConfig) (slot : InputIdx)
    (actions : List (UpdateCall HiddbgAnswers × InputRead))
    (state : Controller × SwitchVirtualGamepadHandler HdlPads) : Prop where
  sameConfig : state.1.config = config
  connected : ConnectedAt backend state.2 slot
  shows : Shows (actions.map Prod.snd) state.2.pads slot
  decoded : ∀ read ∈ actions.map Prod.snd, read.status = .success → Decoded config read

theorem faithful_start {controller : Controller} {pads : HdlPads}
    (detached : isControllerAttached pads slot = false) :
    Faithful controller.config slot [] (controller, { pads }) := by
  refine ⟨rfl, ?_, ?_, by simp⟩
  · intro attached
    exact absurd (detached.symm.trans attached) Bool.false_ne_true
  · intro attached
    exact absurd (detached.symm.trans attached) Bool.false_ne_true

theorem inputStep_faithful {config : ControllerConfig}
    {actions : List (UpdateCall HiddbgAnswers × InputRead)}
    {state next : Controller × SwitchVirtualGamepadHandler HdlPads}
    {action : UpdateCall HiddbgAnswers × InputRead} (faithful : Faithful config slot actions state)
    (step : inputStep backend state action next) :
    Faithful config slot (actions ++ [action]) next := by
  obtain ⟨reads, result, handled⟩ := step
  constructor
  · rw [reads.config, faithful.sameConfig]
  · exact handleInput_connectedAt lawful handled faithful.connected
  · rw [List.map_append]
    exact handleInput_shows faithful.connected faithful.shows handled
  · intro read member success
    rw [List.map_append] at member
    rcases List.mem_append.mp member with before | here
    · exact faithful.decoded read before success
    · obtain rfl := List.mem_singleton.mp here
      exact faithful.sameConfig ▸ reads.decoded success

/-- After `Initialize` and any calls of `UpdateInput`, whatever the device sends and the console
answers, every device that the console still has of the inputs that the driver counts was last told
the state of the latest report of its input. -/
theorem onRun_shows {controller last : Controller} {memory pads : HdlPads}
    {after : SwitchVirtualGamepadHandler HdlPads} {calls : List (UpdateCall HiddbgAnswers)}
    (initialized : initializePads controller memory = .ok pads)
    (finished : onRun backend calls (controller, { pads }) = .ok (last, after)) :
    ∃ reads : List InputRead, reads.length = calls.length ∧
      Run (inputStep backend) (controller, { pads }) (calls.zip reads) (last, after) ∧
      ∀ slot : InputIdx, slot.val < controller.driver.getInputCount →
        isControllerAttached after.pads slot = true →
          Since (fun _ read => ToldBy after.pads slot read ∧ Decoded controller.config read ∧
              ∀ button mask, (button, mask) ∈ npadButtonList →
                ((gamepadState read.normal).buttons &&& mask ≠ 0 ↔
                  read.normal.buttons button = true))
            (InputRead.Stays slot) reads := by
  obtain ⟨reads, length, run⟩ := exists_reads finished
  refine ⟨reads, length, run, ?_⟩
  intro slot counted attached
  have faithful := run.history (faithful_start (initializePads_attached initialized counted))
    fun _ _ _ _ => inputStep_faithful
  have same : (calls.zip reads).map Prod.snd = reads :=
    List.map_snd_zip (Nat.le_of_eq length)
  rw [List.nil_append] at faithful
  have shows := faithful.shows attached
  rw [same] at shows
  obtain ⟨earlier, read, later, shape, told, stays⟩ := shows
  refine ⟨earlier, read, later, shape, ⟨told, ?_, ?_⟩, stays⟩
  · refine faithful.decoded read ?_ told.1.success
    rw [same, shape]
    simp
  · intro button mask listed
    exact npadButtons_and_ne_zero read.normal listed

/-- The Steam receiver, with a report at the second of its four inputs. -/
def steamReceiver : Controller where
  base := { inPipe := [⟨0, 64⟩, ⟨1, 64⟩, ⟨2, 64⟩, ⟨3, 64⟩], interfaces := [0, 1, 2, 3] }
  driver := .steamController2026 { controllerCount := 4 }

theorem steamReceiver_shows :
    ∃ (pads : HdlPads) (last : Controller) (after : SwitchVirtualGamepadHandler HdlPads)
        (reads : List InputRead),
      initializePads steamReceiver {} = .ok pads ∧
      onRun backend [⟨⟨.ok ⟨1, by decide⟩, 0⟩, smallestAt steamReceiver.driver.kind 1⟩]
        (steamReceiver, { pads }) = .ok (last, after) ∧
      isControllerAttached after.pads 1 = true ∧
      Since (fun _ read => ToldBy after.pads 1 read) (InputRead.Stays 1) reads := by
  have counted : 0 < steamReceiver.driver.getInputCount := by decide
  have large : Driver.smallestReport steamReceiver.driver.kind ≤
      steamReceiver.base.maxPacketSize (1 : InputIdx) := by decide
  let pads : HdlPads := [0, 1, 2, 3].foldl reset {}
  have initialized : initializePads steamReceiver {} = .ok pads := rfl
  obtain ⟨result, last, after, updated, attached⟩ :=
    updateInput_smallest hdl_attachesWith pads rfl (by decide) (by decide) counted (by decide)
      large
  have run : onRun backend
      [⟨⟨.ok ⟨1, by decide⟩, 0⟩, smallestAt steamReceiver.driver.kind 1⟩]
      (steamReceiver, { pads }) = .ok (last, after) := by
    have second : ((1 : InputIdx) : Nat) = 1 := rfl
    rw [second] at updated
    simp only [onRun, List.foldlM_cons, List.foldlM_nil, runOnce, updated, bind, Except.bind]
    rfl
  obtain ⟨reads, -, -, shows⟩ := onRun_shows initialized run
  exact ⟨pads, last, after, reads, initialized, run, attached, (shows 1 (by decide) attached).mono
    (fun _ _ told => told.1) fun _ stays => stays⟩

/-! A device that the console took away. The handler asks for it again when the controller was
connected anew, or when a report presses L and R. -/

section Asking

variable {before after : SwitchVirtualGamepadHandler HdlPads} {given : HiddbgAnswers}
  {read : InputRead} {result : Result} {slot : InputIdx}

/-- A device is asked for at the next report of the input, if it has none. -/
def Due (handler : SwitchVirtualGamepadHandler HdlPads) (slot : InputIdx) : Prop :=
  (handler.controllerData slot).isConnected = false ∨
    (handler.controllerData slot).reattachController = true

abbrev PressesLR (read : InputRead) : Prop :=
  read.normal.buttons .l = true ∧ read.normal.buttons .r = true

theorem reattach_asks_iff {handler : SwitchVirtualGamepadHandler HdlPads} (given : HiddbgAnswers)
    {inputIdx : InputIdx} (read : InputRead)
    (detached : isControllerAttached handler.pads inputIdx = false) :
    (reattach backend given handler inputIdx (gamepadState read.normal).buttons).pads =
      if (handler.controllerData inputIdx).reattachController = true ∨ PressesLR read then
        attachController given handler.pads inputIdx
      else handler.pads := by
  have l : (gamepadState read.normal).buttons &&& HidNpadButton_L ≠ 0 ↔
      read.normal.buttons .l = true := npadButtons_and_ne_zero read.normal (by decide)
  have r : (gamepadState read.normal).buttons &&& HidNpadButton_R ≠ 0 ↔
      read.normal.buttons .r = true := npadButtons_and_ne_zero read.normal (by decide)
  have free : backend.isControllerAttached handler.pads inputIdx = false := detached
  simp only [reattach, free, l, r]
  cases (handler.controllerData inputIdx).reattachController <;> simp [backend]

theorem callsOf_attachController_self (given : HiddbgAnswers) {pads : HdlPads}
    (detached : isControllerAttached pads slot = false) :
    ∃ succeeded, callsOf (attachController given pads slot) slot =
      .attachHdlsVirtualDevice slot succeeded :: callsOf pads slot := by
  unfold attachController
  rw [if_neg (by simp [detached])]
  split
  · exact ⟨false, by simp [callsOf, HiddbgCall.inputIdx]⟩
  · exact ⟨true, by simp [callsOf, HiddbgCall.inputIdx]⟩

theorem callsOf_suffix_attachController (given : HiddbgAnswers) (pads : HdlPads)
    (inputIdx : InputIdx) :
    callsOf pads slot <:+ callsOf (attachController given pads inputIdx) slot := by
  refine List.IsSuffix.filter _ ?_
  unfold attachController
  split
  · exact List.suffix_rfl
  · split
    · exact List.suffix_cons _ _
    · exact List.suffix_cons _ _

theorem callsOf_suffix_detachController (pads : HdlPads) (inputIdx : InputIdx) :
    callsOf pads slot <:+ callsOf (detachController pads inputIdx) slot := by
  refine List.IsSuffix.filter _ ?_
  unfold detachController
  split
  · exact List.suffix_rfl
  · exact List.suffix_cons _ _

theorem callsOf_suffix_updateControllerState (given : HiddbgAnswers) (pads : HdlPads)
    (state : GamepadState) (inputIdx : InputIdx) :
    callsOf pads slot <:+ callsOf (updateControllerState given pads state inputIdx).2 slot := by
  unfold updateControllerState
  simp only
  split
  · have sent : callsOf pads slot <:+ callsOf { pads with
        hdlState := Function.update pads.hdlState inputIdx state
        calls := .setHdlsState inputIdx (pads.hdlHandle inputIdx) state :: pads.calls } slot :=
      List.IsSuffix.filter _ (List.suffix_cons _ _)
    split
    · exact sent.trans (callsOf_suffix_detachController _ _)
    · exact sent
  · exact List.suffix_rfl

theorem updateControllerState_detached (given : HiddbgAnswers) {pads : HdlPads}
    (state : GamepadState)
    (detached : isControllerAttached pads slot = false) :
    isControllerAttached (updateControllerState given pads state slot).2 slot = false ∧
      callsOf (updateControllerState given pads state slot).2 slot = callsOf pads slot := by
  have free : isControllerAttached
      { pads with hdlState := Function.update pads.hdlState slot state } slot = false := detached
  unfold updateControllerState
  simp only
  rw [if_neg (by simp [free])]
  exact ⟨free, rfl⟩

/-- Calls are only ever added. -/
theorem handleInput_suffix (step : handleInput backend given before read = .ok (result, after))
    (slot : InputIdx) : callsOf before.pads slot <:+ callsOf after.pads slot := by
  let tracked := trackConnection backend before read.inputIdx read.isControllerConnected
  let state := gamepadState read.normal
  let ready := reattach backend given tracked read.inputIdx state.buttons
  have first : callsOf before.pads slot <:+ callsOf tracked.pads slot := by
    rcases trackConnection_cases backend before read.isControllerConnected read.inputIdx with
      ⟨_, unchanged⟩ | ⟨_, changed⟩ | ⟨_, changed⟩
    · simp only [tracked, unchanged, List.suffix_rfl]
    · simp only [tracked, changed, List.suffix_rfl]
    · simp only [tracked, changed]
      exact callsOf_suffix_detachController _ _
  rcases handleInput_cases step with ⟨_, _, same⟩ | ⟨_, _, updated, sent, same⟩
  · rw [same]
    exact first
  · have second : callsOf tracked.pads slot <:+ callsOf ready.pads slot := by
      rcases reattach_pads backend given tracked state.buttons read.inputIdx with asked | unchanged
      · simp only [ready, asked]
        exact callsOf_suffix_attachController given _ _
      · simp only [ready, unchanged, List.suffix_rfl]
    have third : callsOf ready.pads slot <:+
        callsOf (updateControllerState given ready.pads state read.inputIdx).2 slot :=
      callsOf_suffix_updateControllerState given ready.pads state read.inputIdx
    rw [update_eq_ok.mp sent] at third
    rw [same]
    exact (first.trans second).trans third

theorem trackConnection_disconnected (detached : isControllerAttached before.pads slot = false) :
    (trackConnection backend before slot false).pads = before.pads ∧
      Due (trackConnection backend before slot false) slot := by
  refine ⟨?_, Or.inl (trackConnection_isConnected false slot)⟩
  rcases trackConnection_cases backend before false slot with
    ⟨_, unchanged⟩ | ⟨isTrue, _⟩ | ⟨_, changed⟩
  · rw [unchanged]
  · simp at isTrue
  · rw [changed]
    exact if_pos (by simp [detached])

theorem trackConnection_due (before : SwitchVirtualGamepadHandler HdlPads) (slot : InputIdx) :
    ((trackConnection backend before slot true).controllerData slot).reattachController = true ↔
      Due before slot := by
  rcases trackConnection_cases backend before true slot with
    ⟨connected, unchanged⟩ | ⟨_, changed⟩ | ⟨isFalse, _⟩
  · rw [unchanged, Due, connected]
    simp
  · by_cases connected : (before.controllerData slot).isConnected = true
    · simp [trackConnection, connected, Due]
    · rw [changed]
      simp [Due, connected]
  · simp at isFalse

/-- A report for an input without a device asks for one, or leaves the console alone. -/
theorem handleInput_detached_report (detached : isControllerAttached before.pads slot = false)
    (delivers : read.Delivers slot)
    (step : handleInput backend given before read = .ok (result, after)) :
    (Due before slot ∨ PressesLR read →
      (callsOf before.pads slot).length < (callsOf after.pads slot).length) ∧
    (¬(Due before slot ∨ PressesLR read) →
      isControllerAttached after.pads slot = false ∧
        callsOf after.pads slot = callsOf before.pads slot) := by
  obtain ⟨rfl, isConnected, delivered⟩ := delivers
  rcases handleInput_cases step with ⟨idle, _, _⟩ | ⟨_, _, updated, sent, same⟩
  · rw [trackConnection_isConnected, isConnected] at idle
    exact absurd delivered (idle.resolve_left (by simp))
  · rw [isConnected] at sent
    let tracked := trackConnection backend before read.inputIdx true
    have free : isControllerAttached tracked.pads read.inputIdx = false := by
      rw [trackConnection_pads_of_connected]
      exact detached
    have asks := reattach_asks_iff given read free
    rw [trackConnection_pads_of_connected] at asks
    have due : (tracked.controllerData read.inputIdx).reattachController = true ∨
        PressesLR read ↔ Due before read.inputIdx ∨ PressesLR read :=
      or_congr_left (trackConnection_due before read.inputIdx)
    constructor
    · intro asked
      rw [if_pos (due.mpr asked)] at asks
      obtain ⟨succeeded, calls⟩ := callsOf_attachController_self given detached
      let attempted := attachController given before.pads read.inputIdx
      have longer : callsOf attempted read.inputIdx <:+ callsOf (updateControllerState given
          attempted (gamepadState read.normal) read.inputIdx).2 read.inputIdx :=
        callsOf_suffix_updateControllerState given attempted _ read.inputIdx
      have grown := longer.length_le
      rw [asks] at sent
      rw [update_eq_ok.mp sent, calls, List.length_cons] at grown
      rw [same]
      exact grown
    · intro quiet
      rw [if_neg (mt due.mp quiet)] at asks
      have left := updateControllerState_detached given (gamepadState read.normal) detached
      rw [asks] at sent
      rw [update_eq_ok.mp sent] at left
      rw [same]
      exact left

theorem not_due_of_delivers (delivers : read.Delivers slot)
    (step : handleInput backend given before read = .ok (result, after)) : ¬Due after slot := by
  have connection := handleInput_isConnected step
  rw [delivers.inputIdx, delivers.connected] at connection
  rcases handleInput_cases step with ⟨idle, _, _⟩ | ⟨_, _, updated, _, same⟩
  · rw [trackConnection_isConnected, delivers.connected] at idle
    exact absurd delivers.success (idle.resolve_left (by simp))
  · have settled : (after.controllerData slot).reattachController = false := by
      rw [same, ← delivers.inputIdx]
      simp [reattach]
    simp [Due, connection, settled]

/-- What a read does to an input without a device. -/
theorem handleInput_detached (detached : isControllerAttached before.pads slot = false)
    (step : handleInput backend given before read = .ok (result, after)) :
    (read.Delivers slot ∧ (Due before slot ∨ PressesLR read) ∧
      (callsOf before.pads slot).length < (callsOf after.pads slot).length) ∨
    ((read.Delivers slot → ¬(Due before slot ∨ PressesLR read)) ∧
      isControllerAttached after.pads slot = false ∧
      callsOf after.pads slot = callsOf before.pads slot ∧
      (Due after slot ↔
        Due before slot ∨ (read.inputIdx = slot ∧ read.isControllerConnected = false))) := by
  by_cases delivers : read.Delivers slot
  · have reported := handleInput_detached_report detached delivers step
    have settled := not_due_of_delivers delivers step
    by_cases asked : Due before slot ∨ PressesLR read
    · exact Or.inl ⟨delivers, asked, reported.1 asked⟩
    · obtain ⟨free, same⟩ := reported.2 asked
      refine Or.inr ⟨fun _ => asked, free, same, iff_of_false settled ?_⟩
      rintro (due | ⟨-, lost⟩)
      · exact asked (Or.inl due)
      · exact absurd (lost.symm.trans delivers.connected) Bool.false_ne_true
  · refine Or.inr ⟨fun now => absurd now delivers, ?_⟩
    by_cases own : slot = read.inputIdx
    · subst own
      have connection : ((trackConnection backend before read.inputIdx
          read.isControllerConnected).controllerData read.inputIdx).isConnected =
          read.isControllerConnected :=
        trackConnection_isConnected _ _
      rcases handleInput_cases step with ⟨_, _, same⟩ | ⟨connected, success, _⟩
      · rw [same]
        cases connected : read.isControllerConnected with
        | false =>
            obtain ⟨pads, due⟩ := trackConnection_disconnected detached
            rw [pads]
            exact ⟨detached, rfl, iff_of_true due (Or.inr ⟨rfl, rfl⟩)⟩
        | true =>
            rw [trackConnection_pads_of_connected]
            refine ⟨detached, rfl, ?_⟩
            rw [connected] at connection
            rw [Due, connection, trackConnection_due before read.inputIdx]
            simp
      · rw [connection] at connected
        exact absurd ⟨rfl, connected, success⟩ delivers
    · have sameSlot := handleInput_sameSlot step own
      have sameData := handleInput_other step own
      refine ⟨?_, handleInput_callsOf_other step own, ?_⟩
      · rw [isControllerAttached_of_same sameSlot]
        exact detached
      · rw [Due, Due, sameData]
        simp [Ne.symm own]

theorem updateStep_suffix {calls : List HandledCall} (run : Run updateStep before calls after)
    (slot : InputIdx) : callsOf before.pads slot <:+ callsOf after.pads slot := by
  have grown (first last : SwitchVirtualGamepadHandler HdlPads) (call : HandledCall)
      (step : updateStep first call last) : callsOf first.pads slot <:+ callsOf last.pads slot := by
    obtain ⟨_, handled⟩ := step
    exact handleInput_suffix handled slot
  induction run with
  | nil _ => exact List.suffix_rfl
  | cons step _ ih => exact (grown _ _ _ step).trans ih

theorem detached_run_iff {calls : List HandledCall}
    (detached : isControllerAttached before.pads slot = false)
    (run : Run updateStep before calls after) :
    callsOf after.pads slot = callsOf before.pads slot ↔
      ∀ earlier call later, calls = earlier ++ call :: later → call.read.Delivers slot →
        ¬(Due before slot ∨ PressesLR call.read) ∧ ∀ other ∈ earlier,
          other.read.inputIdx = slot → other.read.isControllerConnected = true := by
  induction run with
  | nil _ => simp
  | @cons before call next calls after step later ih =>
      obtain ⟨result, handled⟩ := step
      rw [forall_split_cons]
      rcases handleInput_detached detached handled with
        ⟨delivers, asked, grown⟩ | ⟨quiet, free, same, due⟩
      · have longer := (updateStep_suffix later slot).length_le
        refine iff_of_false ?_ ?_
        · intro unchanged
          have length := congrArg List.length unchanged
          omega
        · rintro ⟨first, -⟩
          exact (first delivers).1 asked
      · have first : call.read.Delivers slot →
            ¬(Due before slot ∨ PressesLR call.read) ∧ ∀ other ∈ ([] : List HandledCall),
              other.read.inputIdx = slot → other.read.isControllerConnected = true :=
          fun delivers => ⟨quiet delivers, by simp⟩
        have carried : ∀ (earlier : List HandledCall) (other : HandledCall),
            (¬(Due next slot ∨ PressesLR other.read) ∧ ∀ former ∈ earlier,
              former.read.inputIdx = slot → former.read.isControllerConnected = true) ↔
            (¬(Due before slot ∨ PressesLR other.read) ∧ ∀ former ∈ call :: earlier,
              former.read.inputIdx = slot → former.read.isControllerConnected = true) := by
          intro earlier other
          rw [List.forall_mem_cons, due]
          by_cases lost : call.read.inputIdx = slot → call.read.isControllerConnected = true
          · have kept : ¬(call.read.inputIdx = slot ∧ call.read.isControllerConnected = false) := by
              rintro ⟨own, gone⟩
              exact absurd (gone.symm.trans (lost own)) Bool.false_ne_true
            rw [or_iff_left kept, and_iff_right lost]
          · have gone : call.read.inputIdx = slot ∧ call.read.isControllerConnected = false := by
              simpa using lost
            simp [gone]
        rw [and_iff_right first, ← same, ih free]
        simp only [carried]

end Asking

/-- A report has left its input without a device: the console refused to attach one, or took it
away. The console is then left in peace about this input for as long as no report presses L and R
and none follows a disconnection. -/
theorem left_in_peace_iff {before refused after : SwitchVirtualGamepadHandler HdlPads}
    {call : HandledCall} {calls : List HandledCall} {slot : InputIdx}
    (delivers : call.read.Delivers slot) (step : updateStep before call refused)
    (taken : isControllerAttached refused.pads slot = false)
    (run : Run updateStep refused calls after) :
    callsOf after.pads slot = callsOf refused.pads slot ↔
      ∀ earlier next later, calls = earlier ++ next :: later → next.read.Delivers slot →
        ¬PressesLR next.read ∧ ∀ other ∈ earlier,
          other.read.inputIdx = slot → other.read.isControllerConnected = true := by
  obtain ⟨result, handled⟩ := step
  rw [detached_run_iff taken run]
  simp only [not_due_of_delivers delivers handled, false_or]

def report (slot : InputIdx) (pressed : List ControllerButton) : InputRead where
  status := .success
  inputIdx := slot
  isControllerConnected := true
  normal := { buttons := fun button => button ∈ pressed }

/-- The console takes the device of input 0 away. Reports without both L and R do not ask for it. -/
theorem left_in_peace_pressingL :
    ∃ refused after : SwitchVirtualGamepadHandler HdlPads,
      updateStep { pads := {} } ⟨⟨.ok ⟨1, by decide⟩, 1⟩, report 0 []⟩ refused ∧
      Run updateStep refused [⟨⟨.ok ⟨2, by decide⟩, 0⟩, report 0 [.l, .a]⟩] after ∧
      callsOf after.pads 0 = callsOf refused.pads 0 := by
  obtain ⟨result, refused, step⟩ :=
    handleInput_ok ⟨.ok ⟨1, by decide⟩, 1⟩ { pads := {} } (report 0 [])
  obtain ⟨_, after, later⟩ :=
    handleInput_ok ⟨.ok ⟨2, by decide⟩, 0⟩ refused (report 0 [.l, .a])
  have taken : isControllerAttached refused.pads 0 = false := by
    cases step
    decide
  have handled : updateStep { pads := {} } ⟨⟨.ok ⟨1, by decide⟩, 1⟩, report 0 []⟩ refused :=
    ⟨result, step⟩
  have run : Run updateStep refused [⟨⟨.ok ⟨2, by decide⟩, 0⟩, report 0 [.l, .a]⟩] after :=
    Run.cons ⟨_, later⟩ (Run.nil after)
  refine ⟨refused, after, ⟨result, step⟩, run,
    (left_in_peace_iff ⟨rfl, rfl, rfl⟩ handled taken run).mpr ?_⟩
  intro earlier next later shape _
  cases earlier with
  | nil =>
      obtain ⟨rfl, -⟩ := List.cons.inj shape
      exact ⟨by decide, by simp⟩
  | cons first rest => simp at shape

end SwitchHDLHandler

end SysCon
