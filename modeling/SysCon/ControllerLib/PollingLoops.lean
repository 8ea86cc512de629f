import SysCon.ControllerLib.ReadNextBuffer
import SysCon.Library.Polling

/-!
The loops that read an endpoint until it fails: the flush of
`SwitchController::Initialize` and the drain of `ReadEndpointLatest`, over an
endless sequence of answers instead of a queue. Where they end they do what
they do on the queue of the answers that they used.
-/

namespace SysCon

open Library

/-- What the reads of an endpoint answer, one after the other. -/
abbrev Answers := Nat → ReadOutcome

namespace SwitchController

def flush (answers : Answers) (fuel : Nat) (buffer : Buffer) : Option (Nat × Buffer) :=
  readWhile (fun outcome => outcome.status = .success)
    (fun buffer outcome => (IUSBEndpoint.read [outcome] buffer SWITCH_INPUT_BUFFER_SIZE).buffer)
    answers fuel 0 buffer

/-- The result, what was opened, and the number of reads. The answer of the device to the first
packet is one more read, whatever it answers. -/
def initializePolling (base : BaseController) (device : UsbDevice) (answers : Answers)
    (fuel : Nat) : Option (ControllerResult × BaseController × Nat) :=
  let (result, base) := base.openInterfaces device
  if result ≠ .success then some (result, base, 0)
  else if base.outPipe.isEmpty then some (.invalidEndpoint, base, 0)
  else (flush answers fuel fun _ => 0).map fun flushed => (.success, base, flushed.1 + 1)

end SwitchController

namespace BaseController

def fresh (capacity : Nat) (outcome : ReadOutcome) : Bool :=
  outcome.status = .success && (outcome.bytes.take capacity).length ≠ 0

/-- The report in `buffer`, of `latestSize` bytes, and the drain loop behind it. -/
def drainPolling (capacity : Nat) (answers : Answers) (fuel reads : Nat) (buffer : Buffer)
    (latestSize : Nat) : Option (Nat × Buffer × Nat) :=
  readWhile (fresh capacity)
    (fun latest outcome =>
      let drained := outcome.bytes.take capacity
      if fresh capacity outcome then (latest.1.write drained, drained.length) else latest)
    answers fuel reads (buffer, latestSize)

def readEndpointLatestPolling (wMaxPacketSize : Nat) (answers : Answers) (fuel : Nat)
    (buffer : Buffer) (size : Nat) : Option (Nat × EndpointRead) :=
  let capacity := min wMaxPacketSize size
  let first := IUSBEndpoint.read [answers 0] buffer capacity
  if first.status ≠ .success then some (1, { first with size })
  else if first.size = 0 then some (1, { first with status := .nothingTodo, size })
  else (drainPolling capacity answers fuel 1 first.buffer first.size).map fun drained =>
    (drained.1, ⟨.success, drained.2.1, drained.2.2, []⟩)

theorem fresh_iff {capacity : Nat} {outcome : ReadOutcome} :
    fresh capacity outcome = true ↔
      ¬(outcome.status ≠ .success ∨ (outcome.bytes.take capacity).length = 0) := by
  rw [fresh, Bool.and_eq_true, decide_eq_true_eq, decide_eq_true_eq, not_or, not_not]

theorem drain_cons (capacity : Nat) (outcome : ReadOutcome) (rest : List ReadOutcome)
    (buffer : Buffer) (latestSize : Nat) :
    drain capacity (outcome :: rest) buffer latestSize =
      if fresh capacity outcome then
        drain capacity rest (buffer.write (outcome.bytes.take capacity))
          (outcome.bytes.take capacity).length
      else ⟨.success, buffer, latestSize, rest⟩ := by
  rw [drain]
  by_cases failed : outcome.status ≠ .success ∨ (outcome.bytes.take capacity).length = 0
  · rw [if_pos failed, if_neg fun isFresh => fresh_iff.mp isFresh failed]
  · rw [if_neg failed, if_pos (fresh_iff.mpr failed)]

theorem drainPolling_eq {capacity fuel reads latestSize : Nat} {answers : Answers}
    {buffer : Buffer} {ended : Nat × Buffer × Nat}
    (finished : drainPolling capacity answers fuel reads buffer latestSize = some ended) :
    ∃ count, ended.1 = reads + count ∧
      drain capacity ((List.range' reads count).map answers) buffer latestSize =
        ⟨.success, ended.2.1, ended.2.2, []⟩ := by
  induction fuel generalizing reads buffer latestSize with
  | zero => simp [drainPolling, readWhile] at finished
  | succ fuel ih =>
      rw [drainPolling, readWhile] at finished
      cases goesOn : fresh capacity (answers reads) with
      | false =>
          simp only [goesOn, Bool.false_eq_true, if_false, Option.some.injEq] at finished
          refine ⟨1, by rw [← finished], ?_⟩
          rw [List.range'_one, List.map_singleton, drain_cons, goesOn, ← finished]
          rfl
      | true =>
          simp only [goesOn, if_true] at finished
          obtain ⟨count, counted, drained⟩ := ih finished
          refine ⟨count + 1, by omega, ?_⟩
          rw [List.range'_succ, List.map_cons, drain_cons, goesOn, ← drained]
          rfl

/-- A `ReadEndpointLatest` that ends is the one on the queue of the answers that it used. -/
theorem readEndpointLatestPolling_eq {wMaxPacketSize size fuel : Nat} {answers : Answers}
    {buffer : Buffer} {ended : Nat × EndpointRead}
    (finished : readEndpointLatestPolling wMaxPacketSize answers fuel buffer size = some ended) :
    readEndpointLatest wMaxPacketSize ((List.range ended.1).map answers) buffer size = ended.2 := by
  unfold readEndpointLatestPolling at finished
  simp only at finished
  split at finished
  · rename_i failed
    obtain rfl := Option.some.inj finished
    exact if_pos failed
  · rename_i succeeded
    split at finished
    · rename_i empty
      obtain rfl := Option.some.inj finished
      exact (if_neg succeeded).trans (if_pos empty)
    · rename_i filled
      obtain ⟨drained, loop, rfl⟩ := Option.map_eq_some_iff.mp finished
      obtain ⟨count, counted, same⟩ := drainPolling_eq loop
      rw [counted, List.range_eq_range', Nat.add_comm, List.range'_succ, List.map_cons,
        readEndpointLatest_cons]
      exact (if_neg succeeded).trans ((if_neg filled).trans same)

theorem drainPolling_ends (capacity : Nat) (answers : Answers) (reads : Nat) (buffer : Buffer)
    (latestSize : Nat) :
    (∃ fuel, (drainPolling capacity answers fuel reads buffer latestSize).isSome) ↔
      ∃ read, fresh capacity (answers (reads + read)) = false :=
  readWhile_ends_iff reads _

theorem readEndpointLatestPolling_ends (wMaxPacketSize : Nat) (answers : Answers)
    (buffer : Buffer) (size : Nat) :
    (∃ fuel, (readEndpointLatestPolling wMaxPacketSize answers fuel buffer size).isSome) ↔
      ∃ read, fresh (min wMaxPacketSize size) (answers read) = false := by
  unfold readEndpointLatestPolling
  simp only
  by_cases first : fresh (min wMaxPacketSize size) (answers 0) = true
  · have goesOn := fresh_iff.mp first
    rw [not_or, not_not] at goesOn
    simp only [IUSBEndpoint.read, goesOn.1, goesOn.2, ne_eq, not_true, if_false,
      Option.isSome_map, drainPolling_ends]
    constructor
    · rintro ⟨read, stops⟩
      exact ⟨1 + read, stops⟩
    · rintro ⟨read, stops⟩
      have later : read ≠ 0 := by
        rintro rfl
        simp [first] at stops
      obtain ⟨read, rfl⟩ := Nat.exists_eq_add_of_le' (Nat.one_le_iff_ne_zero.mpr later)
      exact ⟨read, Nat.add_comm _ _ ▸ stops⟩
  · refine iff_of_true ⟨0, ?_⟩ ⟨0, Bool.not_eq_true _ ▸ first⟩
    rw [fresh_iff, not_not] at first
    split
    · rfl
    · rename_i succeeded
      have empty : (IUSBEndpoint.read [answers 0] buffer (min wMaxPacketSize size)).size = 0 :=
        first.resolve_left succeeded
      rw [if_pos empty]
      rfl

end BaseController

namespace SwitchController

theorem flush_ends (answers : Answers) (buffer : Buffer) :
    (∃ fuel, (flush answers fuel buffer).isSome) ↔
      ∃ read, (answers read).status ≠ .success := by
  unfold flush
  rw [readWhile_ends_iff]
  simp

/-- An `Initialize` that ends has the result of the one without the loop. -/
theorem initializePolling_eq {controller : Controller} {state : SwitchController}
    (pad : controller.driver = .switch state) {setup : SetupAnswers} {device : UsbDevice}
    {answers : Answers} {fuel : Nat} {ended : ControllerResult × BaseController × Nat}
    (finished : initializePolling controller.base device answers fuel = some ended) :
    controller.initializeController setup device =
      (ended.1, { controller with base := ended.2.1 }) := by
  unfold initializePolling at finished
  simp only [Controller.initializeController, pad, Driver.openInterfaces, Driver.setUp]
  cases opened : controller.base.openInterfaces device with
  | mk result base =>
      simp only [opened] at finished ⊢
      split at finished
      · rename_i failed
        rw [if_pos failed, ← Option.some.inj finished]
      · rename_i succeeded
        rw [if_neg succeeded]
        split at finished
        · rename_i noOutput
          rw [if_pos noOutput, ← Option.some.inj finished]
        · rename_i output
          obtain ⟨flushed, _, rfl⟩ := Option.map_eq_some_iff.mp finished
          rw [if_neg output]

end SwitchController

/-! When both loops end. -/

/-- The flush ends exactly when a read fails, `ReadEndpointLatest` when a read fails or delivers
nothing. -/
theorem polling_ends_iff (flushed polled : Answers) (buffer latest : Buffer)
    (wMaxPacketSize size : Nat) :
    ((∃ fuel, (SwitchController.flush flushed fuel buffer).isSome) ∧
      ∃ fuel, (BaseController.readEndpointLatestPolling wMaxPacketSize polled fuel latest
        size).isSome) ↔
    (∃ read, (flushed read).status ≠ .success) ∧
      ∃ read, (polled read).status ≠ .success ∨
        ((polled read).bytes.take (min wMaxPacketSize size)).length = 0 := by
  rw [SwitchController.flush_ends, BaseController.readEndpointLatestPolling_ends]
  refine and_congr_right fun _ => exists_congr fun read => ?_
  rw [← Bool.not_eq_true, BaseController.fresh_iff, not_not]

/-- A device that always has a fresh report ready. -/
def streaming : Answers := fun _ => ⟨.success, [0x30]⟩

theorem streaming_never_ends :
    (¬∃ fuel, (SwitchController.flush streaming fuel fun _ => 0).isSome) ∧
      ¬∃ fuel, (BaseController.readEndpointLatestPolling 64 streaming fuel (fun _ => 0)
        64).isSome := by
  rw [SwitchController.flush_ends, BaseController.readEndpointLatestPolling_ends]
  simp [streaming, BaseController.fresh]

end SysCon
