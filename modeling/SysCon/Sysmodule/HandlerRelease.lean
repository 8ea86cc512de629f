import SysCon.Library.FirstFailure
import SysCon.ControllerLib.Opening
import SysCon.Sysmodule.Deadlock

/-!
What `controllers::Insert` acquires of a device before it succeeds or fails, and
what the destruction of the handler gives back (`Exit`, `ExitThread`,
`SwitchUSBDevice::Close`). Both are lists of the calls made, in order. `Exit`
waits for the exit of the input thread before it gives anything back, and when
that wait comes to an end is said by the model of the threads. A driver also
writes to its device on these paths; writes acquire nothing and are left out.
-/

namespace SysCon

open Library

/-- A call that acquires or gives back something; `interface` and `endpoint` are indices. -/
inductive ResourceCall
  | openInterface (interface : Nat) (result : ControllerResult)
  | openEndpoint (interface : Nat) (direction : Direction) (endpoint : Nat)
      (result : ControllerResult)
  | threadCreate (created : Bool)
  | threadStart (started : Bool)
  | threadWaitForExit
  | threadClose
  | closeEndpoint (interface : Nat) (direction : Direction) (endpoint : Nat)
  | closeInterface (interface : Nat)
  deriving DecidableEq, Repr

def UsbInterface.getEndpoint (interface : UsbInterface) (direction : Direction) (index : Nat) :
    Option UsbEndpoint :=
  (interface.endpoints direction)[index]?.join

namespace ResourceCall

/-! The calls of `BaseController::OpenInterfaces`, up to the one that fails. -/

def ofEndpoint (interface : Nat) (direction : Direction) (index : Nat) :
    Option UsbEndpoint → ControllerResult × List ResourceCall
  | none => (.success, [])
  | some endpoint =>
      (endpoint.openResult, [.openEndpoint interface direction index endpoint.openResult])

def ofEndpoints (idx : Nat) (interface : UsbInterface) (direction : Direction) :
    ControllerResult × List ResourceCall :=
  untilFailure .success (ofEndpoint idx direction) 0 (interface.endpoints direction).toList

def ofInterface (idx : Nat) (interface : UsbInterface) : ControllerResult × List ResourceCall :=
  let opened := ResourceCall.openInterface idx interface.openResult
  if interface.openResult ≠ .success then (interface.openResult, [opened])
  else
    let (inResult, inputs) := ofEndpoints idx interface .input
    if inResult ≠ .success then (inResult, opened :: inputs)
    else
      let (outResult, outputs) := ofEndpoints idx interface .output
      (outResult, opened :: (inputs ++ outputs))

def ofDevice (device : UsbDevice) : ControllerResult × List ResourceCall :=
  if device.openResult ≠ .success then (device.openResult, [])
  else untilFailure .success ofInterface 0 device.interfaces

/-! `InitThread` and `Insert`. -/

structure ThreadAnswers where
  created : Bool
  started : Bool

def ofInitThread (threads : ThreadAnswers) : Bool × List ResourceCall :=
  if ¬threads.created then (false, [.threadCreate false])
  else (threads.started, [.threadCreate true, .threadStart threads.started])

-- The controller was just created for the device: nothing of it is open yet.
def ofInsert (driver : Driver) (config : ControllerConfig) (answers : SetupAnswers)
    (threads : ThreadAnswers) (device : UsbDevice) : Bool × List ResourceCall :=
  let controller : Controller := { driver, config }
  if (controller.initializeController answers device).1 ≠ .success then (false, (ofDevice device).2)
  else
    let (started, calls) := ofInitThread threads
    (started, (ofDevice device).2 ++ calls)

/-- What the calls of `Insert` have left of the input thread. -/
def leftBehind (acquired : List ResourceCall) : Threads.InitThread :=
  if .threadCreate true ∈ acquired then
    if .threadStart true ∈ acquired then .started else .notStarted
  else .notReached

/-! `Exit` of the handler; the endpoints of an interface exist once its session was acquired. -/

def ofCloseEndpoints (idx : Nat) (interface : UsbInterface) : List ResourceCall :=
  (List.range SWITCH_USB_MAX_ENDPOINTS).flatMap fun index =>
    [Direction.input, .output].flatMap fun direction =>
      if (interface.getEndpoint direction index).isSome then [.closeEndpoint idx direction index]
      else []

def ofCloseInterface (acquired : List ResourceCall) (idx : Nat) (interface : UsbInterface) :
    List ResourceCall :=
  (if .openInterface idx .success ∈ acquired then ofCloseEndpoints idx interface else []) ++
    [.closeInterface idx]

def ofClose (device : UsbDevice) (acquired : List ResourceCall) : List ResourceCall :=
  device.interfaces.zipIdx.flatMap fun (interface, idx) => ofCloseInterface acquired idx interface

/-- The calls that `Exit` makes while the input thread is at `thread`; all others follow the wait
for its end. -/
def ofExit (thread : Threads.InputPoint) (device : UsbDevice) (acquired : List ResourceCall) :
    List ResourceCall :=
  .threadWaitForExit ::
    if thread.ended then .threadClose :: ofClose device acquired else []

/-! The calls of an opening are those of the function modelled in `BaseController`. -/

theorem result_ofEndpoints (idx start : Nat) (direction : Direction)
    (endpoints : List (Option UsbEndpoint)) (interface : Nat) (pipes : List Pipe) :
    (untilFailure .success (ofEndpoint idx direction) start endpoints).1 =
      (BaseController.openEndpoints interface endpoints pipes).1 := by
  induction endpoints generalizing start pipes with
  | nil => rfl
  | cons slot rest ih =>
      cases slot with
      | none =>
          have passed : (ofEndpoint idx direction start none).1 = .success := rfl
          rw [untilFailure_cons_of_success rest passed]
          exact ih _ _
      | some endpoint =>
          by_cases opened : endpoint.openResult = .success
          · rw [untilFailure_cons_of_success rest opened]
            simp only [BaseController.openEndpoints, opened, ne_eq, not_true_eq_false, if_false]
            exact ih _ _
          · rw [untilFailure_cons_of_failure rest opened]
            simp [BaseController.openEndpoints, opened, ofEndpoint]

theorem result_ofInterface (idx : Nat) (interface : UsbInterface) (base : BaseController) :
    (ofInterface idx interface).1 = (BaseController.openInterface interface base).1 := by
  have inputs := result_ofEndpoints idx 0 .input interface.inEndpoints.toList
    base.interfaces.length base.inPipe
  have outputs := result_ofEndpoints idx 0 .output interface.outEndpoints.toList
    base.interfaces.length base.outPipe
  by_cases opened : interface.openResult = .success
  · by_cases inOpened : (ofEndpoints idx interface .input).1 = .success
    · by_cases outOpened : (ofEndpoints idx interface .output).1 = .success
      · have inSame := inputs.symm.trans inOpened
        have outSame := outputs.symm.trans outOpened
        simp [ofInterface, BaseController.openInterface, opened, inOpened, outOpened, inSame,
          outSame]
      · have inSame := inputs.symm.trans inOpened
        have outSame : (BaseController.openEndpoints base.interfaces.length
            interface.outEndpoints.toList base.outPipe).1 ≠ .success := outputs ▸ outOpened
        simp only [ofInterface, BaseController.openInterface, opened, inOpened, inSame, outSame,
          ne_eq, not_true_eq_false, not_false_eq_true, if_true, if_false]
        exact outputs
    · have inSame : (BaseController.openEndpoints base.interfaces.length
          interface.inEndpoints.toList base.inPipe).1 ≠ .success := inputs ▸ inOpened
      simp only [ofInterface, BaseController.openInterface, opened, inOpened, inSame, ne_eq,
        not_true_eq_false, not_false_eq_true, if_true, if_false]
      exact inputs
  · simp [ofInterface, BaseController.openInterface, opened]

theorem result_ofInterfaces (start : Nat) (interfaces : List UsbInterface)
    (base : BaseController) :
    (untilFailure .success ofInterface start interfaces).1 =
      (BaseController.openEach interfaces base).1 := by
  induction interfaces generalizing start base with
  | nil => rfl
  | cons interface rest ih =>
      have same := result_ofInterface start interface base
      by_cases opened : (ofInterface start interface).1 = .success
      · rw [untilFailure_cons_of_success rest opened]
        simp only [BaseController.openEach, ← same, opened, ne_eq, not_true_eq_false, if_false]
        exact ih _ _
      · rw [untilFailure_cons_of_failure rest opened]
        simp [BaseController.openEach, ← same, opened]

/-! Where the calls of an opening come from. -/

theorem mem_ofEndpoints {made : ResourceCall} {idx : Nat} {interface : UsbInterface}
    {direction : Direction} (listed : made ∈ (ofEndpoints idx interface direction).2) :
    ∃ index endpoint, interface.getEndpoint direction index = some endpoint ∧
      index < SWITCH_USB_MAX_ENDPOINTS ∧
      made = .openEndpoint idx direction index endpoint.openResult := by
  obtain ⟨index, slot, found, source, _⟩ := mem_untilFailure listed
  cases slot with
  | none => simp [ofEndpoint] at source
  | some endpoint =>
      have bound : index < (interface.endpoints direction).toList.length :=
        (List.getElem?_eq_some_iff.mp found).1
      refine ⟨index, endpoint, ?_, by simpa using bound, by simpa [ofEndpoint] using source⟩
      rw [Vector.getElem?_toList] at found
      simp [UsbInterface.getEndpoint, found]

theorem mem_ofInterface {made : ResourceCall} {idx : Nat} {interface : UsbInterface}
    (listed : made ∈ (ofInterface idx interface).2) :
    made = .openInterface idx interface.openResult ∨
      interface.openResult = .success ∧
        ∃ direction, made ∈ (ofEndpoints idx interface direction).2 := by
  by_cases opened : interface.openResult = .success
  · simp only [ofInterface, opened, ne_eq, not_true_eq_false, if_false] at listed ⊢
    split at listed
    · rcases List.mem_cons.mp listed with first | input
      · exact Or.inl first
      · exact Or.inr ⟨trivial, .input, input⟩
    · rcases List.mem_cons.mp listed with first | later
      · exact Or.inl first
      · rcases List.mem_append.mp later with input | output
        · exact Or.inr ⟨trivial, .input, input⟩
        · exact Or.inr ⟨trivial, .output, output⟩
  · simp only [ofInterface, ne_eq, opened, not_false_eq_true, if_true] at listed
    exact Or.inl (List.mem_singleton.mp listed)

theorem openInterface_mem_ofInterface (idx : Nat) (interface : UsbInterface) :
    .openInterface idx interface.openResult ∈ (ofInterface idx interface).2 := by
  simp only [ofInterface]
  split
  · exact List.mem_cons_self
  · split <;> exact List.mem_cons_self

theorem mem_ofDevice {made : ResourceCall} {device : UsbDevice}
    (listed : made ∈ (ofDevice device).2) :
    ∃ idx interface, device.interfaces[idx]? = some interface ∧
      made ∈ (ofInterface idx interface).2 ∧
      .openInterface idx interface.openResult ∈ (ofDevice device).2 := by
  by_cases opened : device.openResult = .success
  · simp only [ofDevice, opened, ne_eq, not_true_eq_false, if_false] at listed ⊢
    obtain ⟨idx, interface, found, source, others⟩ := mem_untilFailure listed
    rw [Nat.zero_add] at source others
    exact ⟨idx, interface, found, source, others (openInterface_mem_ofInterface idx interface)⟩
  · simp [ofDevice, opened] at listed

theorem mem_ofDevice_of_openInterface {idx : Nat} {result : ControllerResult} {device : UsbDevice}
    (listed : .openInterface idx result ∈ (ofDevice device).2) :
    ∃ interface, device.interfaces[idx]? = some interface ∧ interface.openResult = result := by
  obtain ⟨other, interface, found, source, _⟩ := mem_ofDevice listed
  rcases mem_ofInterface source with first | ⟨_, direction, later⟩
  · simp only [openInterface.injEq] at first
    exact ⟨interface, first.1 ▸ found, first.2.symm⟩
  · obtain ⟨_, _, _, _, same⟩ := mem_ofEndpoints later
    simp at same

theorem mem_ofDevice_of_openEndpoint {idx index : Nat} {direction : Direction}
    {result : ControllerResult} {device : UsbDevice}
    (listed : .openEndpoint idx direction index result ∈ (ofDevice device).2) :
    ∃ interface, device.interfaces[idx]? = some interface ∧
      (interface.getEndpoint direction index).isSome ∧ index < SWITCH_USB_MAX_ENDPOINTS ∧
      .openInterface idx .success ∈ (ofDevice device).2 := by
  obtain ⟨other, interface, found, source, first⟩ := mem_ofDevice listed
  rcases mem_ofInterface source with same | ⟨opened, side, later⟩
  · simp at same
  · obtain ⟨position, endpoint, present, bound, same⟩ := mem_ofEndpoints later
    simp only [openEndpoint.injEq] at same
    obtain ⟨rfl, rfl, rfl, _⟩ := same
    exact ⟨interface, found, by simp [present], bound, opened ▸ first⟩

/-! What `Exit` gives back. -/

theorem mem_ofExit {thread : Threads.InputPoint} {device : UsbDevice}
    {acquired : List ResourceCall} {made : ResourceCall} :
    made ∈ ofExit thread device acquired ↔ made = .threadWaitForExit ∨
      thread.ended = true ∧ (made = .threadClose ∨ made ∈ ofClose device acquired) := by
  unfold ofExit
  by_cases ended : thread.ended = true <;> simp [ended]

theorem closeInterface_subset_ofClose {device : UsbDevice} {acquired : List ResourceCall}
    {idx : Nat} {interface : UsbInterface} (found : device.interfaces[idx]? = some interface) :
    ofCloseInterface acquired idx interface ⊆ ofClose device acquired := by
  intro made listed
  refine List.mem_flatMap.mpr ⟨(interface, idx), ?_, listed⟩
  exact List.mk_mem_zipIdx_iff_getElem?.mpr found

theorem closeEndpoint_mem_ofCloseEndpoints {idx index : Nat} {direction : Direction}
    {interface : UsbInterface} (present : (interface.getEndpoint direction index).isSome)
    (bound : index < SWITCH_USB_MAX_ENDPOINTS) :
    .closeEndpoint idx direction index ∈ ofCloseEndpoints idx interface := by
  refine List.mem_flatMap.mpr ⟨index, List.mem_range.mpr bound, ?_⟩
  refine List.mem_flatMap.mpr ⟨direction, ?_, ?_⟩
  · cases direction <;> simp
  · rw [if_pos present]
    exact List.mem_singleton_self _

/-! The whole of `Insert`. -/

theorem ofDevice_passed {driver : Driver} {config : ControllerConfig} {answers : SetupAnswers}
    {device : UsbDevice} (initialized :
      (Controller.initializeController { driver, config } answers device).1 = .success) :
    (ofDevice device).1 = .success := by
  obtain ⟨all, _, _⟩ :=
    (Controller.initializeController_success_iff driver config answers device).mp initialized
  have each := (BaseController.openEach_success_iff device.interfaces {}).mpr all.interfaces
  simp only [ofDevice, all.opened, ne_eq, not_true_eq_false, if_false]
  exact (result_ofInterfaces 0 device.interfaces {}).trans each

theorem openInterface_mem_ofDevice {device : UsbDevice} (passed : (ofDevice device).1 = .success)
    {idx : Nat} {interface : UsbInterface} (found : device.interfaces[idx]? = some interface) :
    .openInterface idx .success ∈ (ofDevice device).2 := by
  by_cases opened : device.openResult = .success
  · simp only [ofDevice, opened, ne_eq, not_true_eq_false, if_false] at passed ⊢
    have stepPassed := untilFailure_success_iff.mp passed idx interface found
    rw [Nat.zero_add] at stepPassed
    have session : interface.openResult = .success := by
      by_contra refused
      simp [ofInterface, refused] at stepPassed
    refine mem_untilFailure_of_success passed found ?_
    rw [Nat.zero_add, ← session]
    exact openInterface_mem_ofInterface idx interface
  · exact absurd passed (by simp [ofDevice, opened])

def ThreadCall : ResourceCall → Prop
  | .threadCreate _ => True
  | .threadStart _ => True
  | _ => False

theorem ofInsert_calls (driver : Driver) (config : ControllerConfig) (answers : SetupAnswers)
    (threads : ThreadAnswers) (device : UsbDevice) :
    ∃ calls, (ofInsert driver config answers threads device).2 = (ofDevice device).2 ++ calls ∧
      ∀ call ∈ calls, ThreadCall call := by
  by_cases initialized :
      (Controller.initializeController { driver, config } answers device).1 = .success
  · refine ⟨(ofInitThread threads).2, by simp [ofInsert, initialized], ?_⟩
    intro call member
    unfold ofInitThread at member
    split at member
    · rw [List.mem_singleton.mp member]
      trivial
    · simp only [List.mem_cons, List.not_mem_nil, or_false] at member
      rcases member with rfl | rfl <;> trivial
  · exact ⟨[], by simp [ofInsert, initialized], by simp⟩

theorem threadCreate_mem_ofInsert_iff (driver : Driver) (config : ControllerConfig)
    (answers : SetupAnswers) (threads : ThreadAnswers) (device : UsbDevice) :
    .threadCreate true ∈ (ofInsert driver config answers threads device).2 ↔
      (Controller.initializeController { driver, config } answers device).1 = .success ∧
        threads.created := by
  have opening : .threadCreate true ∉ (ofDevice device).2 := by
    intro listed
    obtain ⟨_, _, _, source, _⟩ := mem_ofDevice listed
    rcases mem_ofInterface source with same | ⟨_, _, later⟩
    · simp at same
    · obtain ⟨_, _, _, _, same⟩ := mem_ofEndpoints later
      simp at same
  by_cases initialized :
      (Controller.initializeController { driver, config } answers device).1 = .success
  · by_cases created : threads.created <;>
      simp [ofInsert, initialized, ofInitThread, created, opening]
  · simp [ofInsert, initialized, opening]

theorem ofInsert_succeeds_iff (driver : Driver) (config : ControllerConfig)
    (answers : SetupAnswers) (threads : ThreadAnswers) (device : UsbDevice) :
    (ofInsert driver config answers threads device).1 = true ↔
      (Controller.initializeController { driver, config } answers device).1 = .success ∧
        threads.created ∧ threads.started := by
  by_cases initialized :
      (Controller.initializeController { driver, config } answers device).1 = .success
  · by_cases created : threads.created <;> simp [ofInsert, initialized, ofInitThread, created]
  · simp [ofInsert, initialized]

theorem threadStart_mem_ofInsert (driver : Driver) (config : ControllerConfig)
    (answers : SetupAnswers) (threads : ThreadAnswers) (device : UsbDevice)
    (listed : .threadStart true ∈ (ofInsert driver config answers threads device).2) :
    (ofInsert driver config answers threads device).1 = true := by
  have opening : .threadStart true ∉ (ofDevice device).2 := by
    intro member
    obtain ⟨_, _, _, source, _⟩ := mem_ofDevice member
    rcases mem_ofInterface source with same | ⟨_, _, later⟩
    · simp at same
    · obtain ⟨_, _, _, _, same⟩ := mem_ofEndpoints later
      simp at same
  by_cases initialized :
      (Controller.initializeController { driver, config } answers device).1 = .success
  · by_cases created : threads.created
    · cases started : threads.started with
      | true => simp [ofInsert, initialized, ofInitThread, created, started]
      | false => simp [ofInsert, initialized, ofInitThread, created, started, opening] at listed
    · simp [ofInsert, initialized, ofInitThread, created, opening] at listed
  · simp [ofInsert, initialized, opening] at listed

/-- After a failure there is no input thread, or one that was created and not started. -/
theorem leftBehind_of_failed {driver : Driver} {config : ControllerConfig}
    {answers : SetupAnswers} {threads : ThreadAnswers} {device : UsbDevice}
    (failed : (ofInsert driver config answers threads device).1 = false) :
    leftBehind (ofInsert driver config answers threads device).2 =
      if .threadCreate true ∈ (ofInsert driver config answers threads device).2 then .notStarted
      else .notReached := by
  have unstarted : .threadStart true ∉ (ofInsert driver config answers threads device).2 := by
    intro listed
    have succeeded := threadStart_mem_ofInsert driver config answers threads device listed
    rw [failed] at succeeded
    exact Bool.noConfusion succeeded
  rw [leftBehind, if_neg unstarted]

end ResourceCall

open ResourceCall

/-! When the wait of `ExitThread` comes to an end. -/

namespace Threads

/-- The thread that discards a handler after a failed `Insert` gets past the wait for its input
thread if and only if there is none: one that was created and not started never ends. Only `main`
cuts this wait short, with a cancellation at the end of the sysmodule. -/
theorem discard_goes_on_iff {state : State} (consistent : Consistent state) {handler : Handler}
    (waits : state.discovery = .exitThread handler) :
    (∃ actions last, Run Steps state actions last ∧ last.discovery ≠ .exitThread handler) ↔
      (state.input handler.id).ended = true := by
  constructor
  · rintro ⟨actions, last, run, leaves⟩
    rcases consistent.born.discarding handler waits with absent | created
    · rw [absent]
      rfl
    · have stuck : (fun current : State => current.discovery = .exitThread handler ∧
          current.input handler.id = .created) last := by
        apply run.invariant ⟨waits, created⟩
        intro current action next inv stepped
        obtain ⟨waits, created⟩ := inv
        obtain ⟨caller, choice⟩ := action
        obtain ⟨op, moved, locks, moves, applied, rfl⟩ := steps_iff.mp stepped
        cases caller with
        | discovery =>
            have moves : discoveryMove current choice = some (op, moved) := moves
            simp [discoveryMove, waits, created, InputPoint.ended] at moves
        | remover which =>
            have spec := removerMove_spec moves
            exact ⟨spec.discovery.trans waits, (congrFun spec.input _).trans created⟩
        | input running =>
            have spec := inputMove_spec moves
            exact ⟨spec.discovery.trans waits, spec.still (Or.inr rfl) created⟩
      exact absurd stuck.1 leaves
  · intro ended
    have stepped : Steps state (.discovery, {})
        { state with discovery := .working (.discard handler) 0 } := by
      refine steps_stay ?_ rfl
      simp only [move, discoveryMove, waits, if_pos ended]
    exact ⟨_, _, .cons stepped (.nil _), by simp⟩

end Threads

/-- The release gives back what was acquired, and nothing else. -/
structure ReleasesExactly (acquired released : List ResourceCall) : Prop where
  thread : .threadWaitForExit ∈ released ∨ .threadClose ∈ released →
    .threadCreate true ∈ acquired
  sessions : ∀ idx, .closeInterface idx ∈ released → .openInterface idx .success ∈ acquired
  interfaces : ∀ idx, .openInterface idx .success ∈ acquired → .closeInterface idx ∈ released
  endpoints : ∀ idx direction index, .openEndpoint idx direction index .success ∈ acquired →
    .closeEndpoint idx direction index ∈ released

/-- Nothing that was opened stays open, if the wait for the input thread comes to an end. -/
theorem opened_is_closed (driver : Driver) (config : ControllerConfig) (answers : SetupAnswers)
    (threads : ThreadAnswers) (device : UsbDevice) {thread : Threads.InputPoint}
    (ended : thread.ended = true) :
    let acquired := (ofInsert driver config answers threads device).2
    (∀ idx, .openInterface idx .success ∈ acquired →
      .closeInterface idx ∈ ofExit thread device acquired) ∧
      ∀ idx direction index, .openEndpoint idx direction index .success ∈ acquired →
        .closeEndpoint idx direction index ∈ ofExit thread device acquired := by
  intro acquired
  obtain ⟨calls, split, threadCalls⟩ := ofInsert_calls driver config answers threads device
  have parts : acquired = (ofDevice device).2 ++ calls := split
  have opening : ∀ call ∈ acquired, ¬ThreadCall call → call ∈ (ofDevice device).2 := by
    intro call member other
    rw [parts] at member
    rcases List.mem_append.mp member with opened | thread
    · exact opened
    · exact absurd (threadCalls call thread) other
  have kept : (ofDevice device).2 ⊆ acquired := by
    rw [parts]
    exact List.subset_append_left _ _
  have closes {made : ResourceCall} (listed : made ∈ ofClose device acquired) :
      made ∈ ofExit thread device acquired := mem_ofExit.mpr (Or.inr ⟨ended, Or.inr listed⟩)
  constructor
  · intro idx listed
    obtain ⟨interface, found, _⟩ :=
      mem_ofDevice_of_openInterface (opening _ listed not_false)
    refine closes (closeInterface_subset_ofClose found ?_)
    exact List.mem_append_right _ (List.mem_singleton_self _)
  · intro idx direction index listed
    obtain ⟨interface, found, present, bound, session⟩ :=
      mem_ofDevice_of_openEndpoint (opening _ listed not_false)
    refine closes (closeInterface_subset_ofClose found (List.mem_append_left _ ?_))
    rw [if_pos (kept session)]
    exact closeEndpoint_mem_ofCloseEndpoints present bound

/-- `Insert` came as far as a thread, so an interface is open; nothing closes it when the thread
could not be started. -/
theorem unstarted_stays_open {driver : Driver} {config : ControllerConfig}
    {answers : SetupAnswers} {threads : ThreadAnswers} {device : UsbDevice}
    (listed : .threadCreate true ∈ (ofInsert driver config answers threads device).2) :
    .openInterface 0 .success ∈ (ofInsert driver config answers threads device).2 ∧
      .closeInterface 0 ∉ ofExit Threads.InitThread.notStarted.point device
        (ofInsert driver config answers threads device).2 := by
  obtain ⟨initialized, _⟩ :=
    (threadCreate_mem_ofInsert_iff driver config answers threads device).mp listed
  obtain ⟨_, positive, _⟩ :=
    (Controller.initializeController_success_iff driver config answers device).mp initialized
  obtain ⟨calls, split, _⟩ := ofInsert_calls driver config answers threads device
  constructor
  · cases interfaces : device.interfaces with
    | nil => simp [interfaces, endpointCount] at positive
    | cons first rest =>
        have found : device.interfaces[0]? = some first := by
          rw [interfaces, List.getElem?_cons_zero]
        rw [split]
        exact List.mem_append_left _
          (openInterface_mem_ofDevice (ofDevice_passed initialized) found)
  · simp [mem_ofExit, Threads.InitThread.point, Threads.InputPoint.ended]

/-- No failure of `Insert` is cleaned up as it should: `Exit` waits for a thread that was never
created, or it waits for one that never ends and closes nothing. So the release is right as long as
nothing fails. -/
theorem released_exactly_iff (driver : Driver) (config : ControllerConfig)
    (answers : SetupAnswers) (threads : ThreadAnswers) (device : UsbDevice) :
    let inserted := ofInsert driver config answers threads device
    (inserted.1 = false →
      ReleasesExactly inserted.2 (ofExit (leftBehind inserted.2).point device inserted.2)) ↔
      device.AllOpen ∧ 0 < endpointCount device.interfaces .input ∧
        driver.Accepts answers (endpointCount device.interfaces) ∧ threads.created ∧
          threads.started := by
  intro inserted
  have succeeds := ofInsert_succeeds_iff driver config answers threads device
  rw [Controller.initializeController_success_iff, and_assoc, and_assoc] at succeeds
  rw [← succeeds]
  constructor
  · intro exactly
    by_contra failed
    have failed : inserted.1 = false := Bool.eq_false_iff.mpr failed
    have released := exactly failed
    by_cases listed : .threadCreate true ∈ inserted.2
    · rw [leftBehind_of_failed failed, if_pos listed] at released
      obtain ⟨opened, left⟩ := unstarted_stays_open listed
      exact left (released.interfaces 0 opened)
    · exact listed (released.thread (Or.inl (mem_ofExit.mpr (Or.inl rfl))))
  · intro succeeded failed
    exact absurd (failed.symm.trans succeeded) Bool.false_ne_true

def refusedPad : UsbDevice where
  interfaces := [{
    openResult := .usbInterfaceAcquire
    inEndpoints :=
      (Vector.replicate SWITCH_USB_MAX_ENDPOINTS none).set 0 (some ⟨32, .success⟩) (Nat.succ_pos _)
    outEndpoints := Vector.replicate SWITCH_USB_MAX_ENDPOINTS none }]

/-- The session of the only interface was refused: the session is closed all the same, and a
thread that was never created is waited for and closed. -/
theorem refused_session_released :
    let inserted := ofInsert .xbox360 {} {} ⟨true, true⟩ refusedPad
    let released := ofExit (leftBehind inserted.2).point refusedPad inserted.2
    inserted.1 = false ∧ inserted.2 = [.openInterface 0 .usbInterfaceAcquire] ∧
      released = [.threadWaitForExit, .threadClose, .closeInterface 0] ∧
      ¬ReleasesExactly inserted.2 released := by
  refine ⟨by decide, by decide, by decide, ?_⟩
  intro exactly
  exact absurd (exactly.sessions 0 (by decide)) (by decide)

end SysCon
