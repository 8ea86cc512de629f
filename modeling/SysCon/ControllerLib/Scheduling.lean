import SysCon.ControllerLib.ReportState

/-!
Which IN endpoint `ReadNextBuffer` serves when each of them is a queue of
reports. One call is a round over the endpoints from the cursor on.
-/

namespace SysCon

open Library

namespace BaseController

/-- The outcome delivers a whole report. -/
def Deliverable (capacity : Nat) (outcome : ReadOutcome) : Prop :=
  outcome.status = .success ∧ 0 < outcome.bytes.length ∧ outcome.bytes.length ≤ capacity

def capacity (base : BaseController) (size endpointIdx : Nat) : Nat :=
  min (base.maxPacketSize endpointIdx) size

def AllQueues (base : BaseController) (size : Nat) (pending : Pending) : Prop :=
  ∀ endpointIdx < base.inPipe.length, ∀ outcome ∈ pending endpointIdx,
    Deliverable (base.capacity size endpointIdx) outcome

/-- The buffer holds the last report of the queue. -/
def HoldsNewest (queue : List ReadOutcome) (buffer : Buffer) (size : Nat) : Prop :=
  ∃ newest ∈ queue.getLast?, size = newest.bytes.length ∧
    (List.range size).map buffer = newest.bytes

theorem queue_eq_waiting {capacity : Nat} {queue : List ReadOutcome}
    (deliverable : ∀ outcome ∈ queue, Deliverable capacity outcome) :
    queue = waiting (queue.map ReadOutcome.bytes) := by
  rw [waiting, List.map_map]
  conv_lhs => rw [← List.map_id queue]
  refine List.map_congr_left ?_
  intro outcome member
  rw [id_eq, Function.comp_apply, ← (deliverable outcome member).1]

theorem readEndpointLatest_queue {wMaxPacketSize size : Nat} (buffer : Buffer)
    {queue : List ReadOutcome} (ready : queue ≠ [])
    (deliverable : ∀ outcome ∈ queue, Deliverable (min wMaxPacketSize size) outcome) :
    ∃ latest size', readEndpointLatest wMaxPacketSize queue buffer size =
      ⟨.success, latest, size', []⟩ ∧ HoldsNewest queue latest size' := by
  obtain ⟨earlier, newest, rfl⟩ := (List.eq_nil_or_concat queue).resolve_left ready
  obtain ⟨_, filled, fits⟩ := deliverable newest (by simp)
  have nonempty : ∀ report ∈ (earlier.concat newest).map ReadOutcome.bytes, report ≠ [] := by
    intro report member
    obtain ⟨outcome, listed, rfl⟩ := List.mem_map.mp member
    exact List.ne_nil_of_length_pos (deliverable outcome listed).2.1
  have positive : 0 < min wMaxPacketSize size := Nat.lt_of_lt_of_le filled fits
  have read := readEndpointLatest_waiting positive buffer (by simp) nonempty
  rw [← queue_eq_waiting deliverable] at read
  refine ⟨_, _, read, newest, by simp, ?_, ?_⟩
  · simp [Delivery.next, List.take_of_length_le fits]
  · simp [Delivery.next, List.take_of_length_le fits, Buffer.map_range_write]

/-- The first endpoint from the cursor on that has a report is served with its newest report, and
the other queues are as they were. -/
structure Scheduled (base : BaseController) (pending : Pending) (next : NextBuffer) : Prop where
  status : next.status = .success
  first : FirstReady base.inPipe.length base.currentControllerIdx (fun idx => pending idx ≠ [])
    next.inputIdx
  newest : HoldsNewest (pending next.inputIdx) next.buffer next.size
  queues : next.pending = Function.update pending next.inputIdx []
  cursor : next.base = base.advanceFrom next.inputIdx

theorem fastPass_queues {base : BaseController} {pending : Pending} {size inputIdx : Nat}
    {buffer : Buffer} (queues : AllQueues base size pending) {remaining i skipped : Nat}
    (bound : skipped < remaining) {endpointIdx : Nat}
    (reached : (base.currentControllerIdx + (i + skipped)) % base.inPipe.length = endpointIdx)
    (listed : endpointIdx < base.inPipe.length) (ready : pending endpointIdx ≠ [])
    (unready : ∀ nearer < skipped,
      pending ((base.currentControllerIdx + (i + nearer)) % base.inPipe.length) = []) :
    ∃ latest size', base.fastPass size inputIdx remaining i pending buffer =
      ⟨.success, latest, size', endpointIdx, base.advanceFrom endpointIdx,
        Function.update pending endpointIdx []⟩ ∧
      HoldsNewest (pending endpointIdx) latest size' := by
  induction skipped generalizing remaining i with
  | zero =>
      obtain ⟨remaining, rfl⟩ := Nat.exists_eq_succ_of_ne_zero (Nat.ne_of_gt bound)
      rw [Nat.add_zero] at reached
      obtain ⟨latest, size', read, newest⟩ :=
        readEndpointLatest_queue buffer ready (queues endpointIdx listed)
      refine ⟨latest, size', ?_, newest⟩
      rw [fastPass_hit (by rw [reached, read])]
      simp only [reached, read]
  | succ skipped ih =>
      have positive : remaining ≠ 0 := Nat.ne_of_gt (Nat.zero_lt_of_lt bound)
      obtain ⟨remaining, rfl⟩ := Nat.exists_eq_succ_of_ne_zero positive
      have empty := unready 0 (Nat.succ_pos skipped)
      rw [Nat.add_zero] at empty
      have same : Function.update pending
          ((base.currentControllerIdx + i) % base.inPipe.length) [] = pending := by
        rw [← empty, Function.update_eq_self]
      rw [fastPass_miss (by rw [empty, readEndpointLatest_nil]; simp)]
      simp only [empty, readEndpointLatest_nil, same]
      refine ih (by omega) (by rw [← reached]; congr 2; omega) ?_
      intro nearer closer
      rw [← unready (nearer + 1) (by omega)]
      congr 3
      omega

theorem readNextBuffer_scheduled {base : BaseController} {pending : Pending} {size : Nat}
    (queues : AllQueues base size pending)
    (ready : ∃ endpointIdx < base.inPipe.length, pending endpointIdx ≠ []) (buffer : Buffer)
    (inputIdx : Nat) :
    Scheduled base pending (base.readNextBuffer pending buffer size inputIdx) := by
  obtain ⟨place, listed, waits⟩ := ready
  let waiting (idx : Nat) : Prop := pending idx ≠ []
  obtain ⟨served, distance, bound, reached, ready, unready⟩ :
      ∃ served, FirstReady base.inPipe.length base.currentControllerIdx waiting served :=
    exists_firstReady _ listed waits
  have inside : served < base.inPipe.length := reached ▸ Nat.mod_lt _ (by omega)
  have swept : ∃ latest size', base.fastPass size inputIdx _ 0 pending buffer = _ ∧ _ :=
    fastPass_queues queues bound (by rw [Nat.zero_add, reached]) inside ready
      fun nearer closer => by
        rw [Nat.zero_add]
        exact not_not.mp (unready nearer closer)
  obtain ⟨latest, size', answer, newest⟩ := swept
  rw [readNextBuffer_hit (by omega) (by rw [answer]), answer]
  exact ⟨rfl, ⟨distance, bound, reached, ready, unready⟩, newest, rfl, rfl⟩

/-! One call after the other, with reports that arrive in between. -/

structure PollCall where
  arrivals : Pending
  buffer : Buffer
  inputIdx : Nat

/-- The queues that each call found, and what it answered. -/
def polls (size : Nat) : BaseController → Pending → List PollCall → List (Pending × NextBuffer)
  | _, _, [] => []
  | base, pending, call :: rest =>
      let queued : Pending := fun idx => pending idx ++ call.arrivals idx
      let next := base.readNextBuffer queued call.buffer size call.inputIdx
      (queued, next) :: polls size next.base next.pending rest

theorem polls_length (size : Nat) (base : BaseController) (pending : Pending)
    (calls : List PollCall) : (polls size base pending calls).length = calls.length := by
  induction calls generalizing base pending with
  | nil => rfl
  | cons call rest ih => rw [polls, List.length_cons, List.length_cons, ih]

theorem AllQueues.arrive {base : BaseController} {size : Nat} {pending arrivals : Pending}
    (queues : AllQueues base size pending) (arriving : AllQueues base size arrivals) :
    AllQueues base size fun idx => pending idx ++ arrivals idx := by
  intro endpointIdx listed outcome member
  rcases List.mem_append.mp member with earlier | arrived
  · exact queues endpointIdx listed outcome earlier
  · exact arriving endpointIdx listed outcome arrived

theorem Scheduled.allQueues {base : BaseController} {size : Nat} {pending : Pending}
    {next : NextBuffer} (scheduled : Scheduled base pending next)
    (queues : AllQueues base size pending) : AllQueues base size next.pending := by
  intro endpointIdx listed outcome member
  rw [scheduled.queues] at member
  by_cases served : endpointIdx = next.inputIdx
  · simp [served] at member
  · rw [Function.update_of_ne served] at member
    exact queues endpointIdx listed outcome member

theorem polls_roundRobin {size place : Nat} {base : BaseController} {pending : Pending}
    {calls : List PollCall} (listed : place < base.inPipe.length)
    (queues : AllQueues base size pending)
    (arriving : ∀ call ∈ calls, AllQueues base size call.arrivals)
    (waits : ∀ poll ∈ polls size base pending calls, poll.1 place ≠ []) :
    (∀ poll ∈ polls size base pending calls, poll.2.status = .success) ∧
      RoundRobin base.inPipe.length base.currentControllerIdx
        ((polls size base pending calls).map fun poll =>
          (fun idx => poll.1 idx ≠ [], poll.2.inputIdx)) := by
  induction calls generalizing base pending with
  | nil => exact ⟨by simp [polls], .nil _⟩
  | cons call rest ih =>
      obtain ⟨arrivingNow, arrivingLater⟩ := List.forall_mem_cons.mp arriving
      obtain ⟨waitsNow, waitsLater⟩ := List.forall_mem_cons.mp waits
      have queued := queues.arrive arrivingNow
      have scheduled := readNextBuffer_scheduled queued ⟨place, listed, waitsNow⟩ call.buffer
        call.inputIdx
      have samePipes := congrArg BaseController.inPipe scheduled.cursor
      have movedCursor := congrArg currentControllerIdx scheduled.cursor
      have later := ih (samePipes ▸ listed)
        (by rw [scheduled.cursor]; exact scheduled.allQueues queued)
        (by rw [scheduled.cursor]; exact arrivingLater) waitsLater
      rw [samePipes, movedCursor] at later
      exact ⟨List.forall_mem_cons.mpr ⟨scheduled.status, later.1⟩, .cons scheduled.first later.2⟩

/-- The endpoint that a call serves, and that no endpoint starves: one with a report before each of
as many calls as there are endpoints is served by one of them. -/
theorem fair_scheduling (base : BaseController) (size : Nat) :
    (∀ pending buffer inputIdx, AllQueues base size pending →
      (∃ endpointIdx < base.inPipe.length, pending endpointIdx ≠ []) →
      Scheduled base pending (base.readNextBuffer pending buffer size inputIdx)) ∧
    ∀ place < base.inPipe.length, ∀ pending calls, AllQueues base size pending →
      (∀ call ∈ calls, AllQueues base size call.arrivals) →
      calls.length = base.inPipe.length →
      (∀ poll ∈ polls size base pending calls, poll.1 place ≠ []) →
      ∃ poll ∈ polls size base pending calls,
        poll.2.status = .success ∧ poll.2.inputIdx = place := by
  refine ⟨fun pending buffer inputIdx queues ready =>
    readNextBuffer_scheduled queues ready buffer inputIdx, ?_⟩
  intro place listed pending calls queues arriving count waits
  obtain ⟨served, rounds⟩ := polls_roundRobin listed queues arriving waits
  have enough : base.inPipe.length ≤ (polls size base pending calls).length := by
    rw [polls_length, count]
  obtain ⟨round, member, found⟩ := rounds.serves listed (by rwa [List.length_map])
    (List.forall_mem_map.mpr waits)
  obtain ⟨poll, polled, rfl⟩ := List.mem_map.mp member
  exact ⟨poll, polled, served poll polled, found⟩

def twoEndpoints : BaseController where
  inPipe := [⟨0, 64⟩, ⟨0, 64⟩]

def oneReportEach : Pending := fun idx => if idx < 2 then [⟨.success, [7]⟩] else []

theorem fair_scheduling_twoEndpoints :
    Scheduled twoEndpoints oneReportEach
      (twoEndpoints.readNextBuffer oneReportEach (fun _ => 0) 64 0) ∧
    ∃ poll ∈ polls 64 twoEndpoints oneReportEach
        [⟨fun _ => [], fun _ => 0, 0⟩, ⟨fun _ => [], fun _ => 0, 0⟩],
      poll.2.status = .success ∧ poll.2.inputIdx = 1 := by
  have queues : AllQueues twoEndpoints 64 oneReportEach := by
    intro endpointIdx listed outcome member
    have bound : endpointIdx < 2 := listed
    simp only [oneReportEach, bound, if_true, List.mem_singleton] at member
    subst member
    refine ⟨rfl, by decide, ?_⟩
    rcases (by omega : endpointIdx = 0 ∨ endpointIdx = 1) with rfl | rfl <;> decide
  have fair := fair_scheduling twoEndpoints 64
  exact ⟨fair.1 _ _ _ queues ⟨0, by decide, by decide⟩,
    fair.2 1 (by decide) _ _ queues (by simp [AllQueues]) rfl (by decide)⟩

end BaseController

end SysCon
