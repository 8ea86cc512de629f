import SysCon.ControllerLib.Controllers
import Mathlib.Data.List.Basic

/-!
The GameCube adapter over whole runs. Four calls hand out the four ports of one
report, and only the first of them reads; a read that fails or is refused leaves
its bytes in the buffer of the driver and the turn where it was.
-/

namespace SysCon

namespace WiiController

/-- What a read of the base class leaves: its result, the buffer of the driver, and the size. -/
structure BaseRead where
  status : ControllerResult
  buffer : Buffer
  size : Nat

def BaseRead.Valid (read : BaseRead) : Prop :=
  read.status = .success ∧ read.buffer 0 = 0x21 ∧ WII_INPUT_BUFFER_SIZE ≤ read.size

instance (read : BaseRead) : Decidable read.Valid := by
  unfold BaseRead.Valid
  infer_instance

/-- What the caller of `ReadNextBuffer` gets. -/
structure PortRead where
  status : ControllerResult
  buffer : Buffer
  size : Nat
  inputIdx : Nat

/-- A call, with the read that the base class makes if the call asks it for one. -/
structure PortCall where
  read : BaseRead
  buffer : Buffer
  inputIdx : Nat

def handOut (controller : WiiController) (buffer : Buffer) : PortRead × WiiController :=
  let port := controller.currentWiiControllerIdx
  (⟨.success, buffer.write (portBytes controller.buffer port), portSize, port⟩,
    { controller with currentWiiControllerIdx := (port + 1) % WII_MAX_INPUTS })

def answer (controller : WiiController) (call : PortCall) : PortRead × WiiController :=
  if controller.currentWiiControllerIdx = 0 then
    let controller := { controller with buffer := call.read.buffer }
    if call.read.status ≠ .success then
      (⟨call.read.status, call.buffer, call.read.size, call.inputIdx⟩, controller)
    else if call.read.buffer 0 ≠ 0x21 ∨ call.read.size < WII_INPUT_BUFFER_SIZE then
      (⟨.unexpectedData, call.buffer, call.read.size, call.inputIdx⟩, controller)
    else controller.handOut call.buffer
  else controller.handOut call.buffer

/-- The call that a `ReadNextBuffer` of the adapter is, with the read that it makes. -/
def PortCall.of (base : BaseController) (controller : WiiController) (pending : Pending)
    (buffer : Buffer) (inputIdx : Nat) : PortCall :=
  let made := base.readNextBuffer pending controller.buffer WII_INPUT_BUFFER_SIZE 0
  ⟨⟨made.status, made.buffer, made.size⟩, buffer, inputIdx⟩

def PortRead.of (next : BaseController.NextBuffer) : PortRead :=
  ⟨next.status, next.buffer, next.size, next.inputIdx⟩

theorem readNextBuffer_eq_answer (base : BaseController) (controller : WiiController)
    (pending : Pending) (buffer : Buffer) (inputIdx : Nat) :
    let next := controller.readNextBuffer base pending buffer inputIdx
    controller.answer (PortCall.of base controller pending buffer inputIdx) =
      (PortRead.of next.1, next.2) := by
  intro next
  have asked : next = controller.readNextBuffer base pending buffer inputIdx := rfl
  rw [readNextBuffer] at asked
  by_cases first : controller.currentWiiControllerIdx = 0
  · rw [if_pos first] at asked
    rw [answer, if_pos first]
    by_cases failed :
        (base.readNextBuffer pending controller.buffer WII_INPUT_BUFFER_SIZE 0).status ≠ .success
    · rw [if_pos failed] at asked
      rw [asked]
      exact if_pos failed
    · rw [if_neg failed] at asked
      refine (if_neg failed).trans ?_
      by_cases refused :
          (base.readNextBuffer pending controller.buffer WII_INPUT_BUFFER_SIZE 0).buffer 0 ≠ 0x21 ∨
            (base.readNextBuffer pending controller.buffer WII_INPUT_BUFFER_SIZE 0).size <
              WII_INPUT_BUFFER_SIZE
      · rw [if_pos refused] at asked
        rw [asked]
        exact if_pos refused
      · rw [if_neg refused] at asked
        rw [asked]
        exact if_neg refused
  · rw [if_neg first] at asked
    rw [asked]
    exact if_neg first

theorem answer_valid {controller : WiiController} {call : PortCall}
    (first : controller.currentWiiControllerIdx = 0) (valid : call.read.Valid) :
    controller.answer call =
      { controller with buffer := call.read.buffer }.handOut call.buffer := by
  obtain ⟨success, header, long⟩ := valid
  rw [answer, if_pos first]
  simp only [success, header, Nat.not_lt.mpr long, ne_eq, not_true_eq_false, or_self, if_false]

theorem answer_refused {controller : WiiController} {call : PortCall}
    (first : controller.currentWiiControllerIdx = 0) (refused : ¬call.read.Valid) :
    (controller.answer call).1.status ≠ .success ∧
      (controller.answer call).2 = { controller with buffer := call.read.buffer } := by
  rw [answer, if_pos first]
  simp only
  split
  · rename_i failed
    exact ⟨failed, rfl⟩
  · rename_i success
    split
    · exact ⟨by simp, rfl⟩
    · rename_i whole
      rw [not_or, not_not, Nat.not_lt] at whole
      exact absurd ⟨not_not.mp success, whole⟩ refused

theorem answer_later {controller : WiiController} {call : PortCall}
    (later : controller.currentWiiControllerIdx ≠ 0) :
    controller.answer call = controller.handOut call.buffer := if_neg later

theorem answer_error_iff (controller : WiiController) (call : PortCall) :
    (controller.answer call).1.status ≠ .success ↔
      controller.currentWiiControllerIdx = 0 ∧ ¬call.read.Valid := by
  constructor
  · intro error
    by_cases first : controller.currentWiiControllerIdx = 0
    · refine ⟨first, ?_⟩
      intro valid
      rw [answer_valid first valid] at error
      exact error rfl
    · rw [answer_later first] at error
      exact absurd rfl error
  · rintro ⟨first, refused⟩
    exact (answer_refused first refused).1

/-! Runs of calls. -/

structure Adapter where
  controller : WiiController
  reads : List BaseRead := []
  answers : List PortRead := []

namespace Adapter

def poll (adapter : Adapter) (call : PortCall) : Adapter where
  controller := (adapter.controller.answer call).2
  reads :=
    if adapter.controller.currentWiiControllerIdx = 0 then adapter.reads ++ [call.read]
    else adapter.reads
  answers := adapter.answers ++ [(adapter.controller.answer call).1]

def delivered (adapter : Adapter) : List PortRead :=
  adapter.answers.filter fun answer => answer.status = .success

def valid (adapter : Adapter) : List BaseRead := adapter.reads.filter fun read => read.Valid

def run (start : WiiController) (calls : List PortCall) : Adapter :=
  calls.foldl poll { controller := start }

/-- The `k`-th port that is handed out is port `k % 4` of the valid report `k / 4`. -/
def HandsOut (valid : List BaseRead) (k : Nat) (answer : PortRead) : Prop :=
  answer.inputIdx = k % 4 ∧ answer.size = 9 ∧ ∃ report, valid[k / 4]? = some report ∧
    (List.range 9).map answer.buffer =
      (List.range 9).map fun index => report.buffer (1 + 9 * (k % 4) + index)

structure Inv (adapter : Adapter) : Prop where
  cursor : adapter.controller.currentWiiControllerIdx = adapter.delivered.length % 4
  reports : adapter.valid.length = (adapter.delivered.length + 3) / 4
  current : adapter.controller.currentWiiControllerIdx ≠ 0 →
    ∃ report, adapter.valid[adapter.delivered.length / 4]? = some report ∧
      report.buffer = adapter.controller.buffer
  handsOut : ∀ k answer, adapter.delivered[k]? = some answer → HandsOut adapter.valid k answer

theorem HandsOut.append {valid : List BaseRead} {k : Nat} {answer : PortRead}
    (handed : HandsOut valid k answer) (more : List BaseRead) :
    HandsOut (valid ++ more) k answer := by
  obtain ⟨port, size, report, listed, bytes⟩ := handed
  have inside := (List.getElem?_eq_some_iff.mp listed).1
  exact ⟨port, size, report, by rw [List.getElem?_append_left inside, listed], bytes⟩

/-- One more answer, with the reports that are valid by then. -/
theorem handsOut_concat {valid later : List BaseRead} {answers : List PortRead} {next : PortRead}
    (earlier : ∀ k answer, answers[k]? = some answer → HandsOut valid k answer)
    (grows : valid <+: later) (last : HandsOut later answers.length next) (k : Nat)
    (answer : PortRead) (listed : (answers ++ [next])[k]? = some answer) :
    HandsOut later k answer := by
  obtain ⟨more, rfl⟩ := grows
  rcases Nat.lt_trichotomy k answers.length with early | rfl | outside
  · rw [List.getElem?_append_left early] at listed
    exact (earlier k answer listed).append more
  · rw [List.getElem?_concat_length, Option.some.injEq] at listed
    exact listed ▸ last
  · have inside := (List.getElem?_eq_some_iff.mp listed).1
    rw [List.length_append, List.length_singleton] at inside
    omega

section poll

variable {adapter : Adapter} {call : PortCall}

theorem delivered_of_success (success : (adapter.controller.answer call).1.status = .success) :
    (adapter.poll call).delivered =
      adapter.delivered ++ [(adapter.controller.answer call).1] := by
  simp [delivered, poll, List.filter_append, success]

theorem delivered_of_error (error : (adapter.controller.answer call).1.status ≠ .success) :
    (adapter.poll call).delivered = adapter.delivered := by
  simp [delivered, poll, List.filter_append, error]

theorem valid_of_first (first : adapter.controller.currentWiiControllerIdx = 0)
    (valid : call.read.Valid) : (adapter.poll call).valid = adapter.valid ++ [call.read] := by
  simp [Adapter.valid, poll, List.filter_append, first, valid]

theorem valid_of_refused (first : adapter.controller.currentWiiControllerIdx = 0)
    (refused : ¬call.read.Valid) : (adapter.poll call).valid = adapter.valid := by
  simp [Adapter.valid, poll, List.filter_append, first, refused]

theorem valid_of_later (later : adapter.controller.currentWiiControllerIdx ≠ 0) :
    (adapter.poll call).valid = adapter.valid := by
  simp [Adapter.valid, poll, later]

/-- The port of a report that is handed out next. -/
theorem handsOut_handOut {controller : WiiController} {valid : List BaseRead} {k : Nat}
    {report : BaseRead} (cursor : controller.currentWiiControllerIdx = k % 4)
    (listed : valid[k / 4]? = some report) (held : report.buffer = controller.buffer)
    (buffer : Buffer) : HandsOut valid k (controller.handOut buffer).1 := by
  refine ⟨cursor, rfl, report, listed, ?_⟩
  have written := Buffer.map_range_write buffer
    (portBytes controller.buffer controller.currentWiiControllerIdx)
  rw [portBytes, List.length_map, List.length_range] at written
  rw [held, ← cursor, Nat.mul_comm 9]
  exact written

/-- A step that hands a port of the report in hand out. -/
theorem Inv.handsOut_next (inv : adapter.Inv) {report : BaseRead} {controller : WiiController}
    (answered : adapter.controller.answer call = controller.handOut call.buffer)
    (cursor : controller.currentWiiControllerIdx = adapter.controller.currentWiiControllerIdx)
    (grows : adapter.valid <+: (adapter.poll call).valid)
    (count : (adapter.poll call).valid.length = (adapter.delivered.length + 4) / 4)
    (listed : (adapter.poll call).valid[adapter.delivered.length / 4]? = some report)
    (held : report.buffer = controller.buffer) : (adapter.poll call).Inv := by
  have delivered : (adapter.poll call).delivered =
      adapter.delivered ++ [(controller.handOut call.buffer).1] := by
    rw [delivered_of_success (by rw [answered]; rfl), answered]
  have turn : (adapter.poll call).controller = (controller.handOut call.buffer).2 := by
    rw [poll, answered]
  have place : controller.currentWiiControllerIdx = adapter.delivered.length % 4 :=
    cursor.trans inv.cursor
  have nextPlace : (adapter.poll call).controller.currentWiiControllerIdx =
      (adapter.delivered.length + 1) % 4 := by
    rw [turn, handOut, place]
    simp only [WII_MAX_INPUTS]
    omega
  constructor
  · rw [nextPlace, delivered, List.length_append, List.length_singleton]
  · rw [delivered, List.length_append, List.length_singleton, count]
  · intro more
    rw [nextPlace] at more
    have sameReport : (adapter.delivered.length + 1) / 4 = adapter.delivered.length / 4 := by omega
    refine ⟨report, ?_, held.trans (by rw [turn, handOut])⟩
    rw [delivered, List.length_append, List.length_singleton, sameReport, listed]
  · rw [delivered]
    exact handsOut_concat inv.handsOut grows (handsOut_handOut place listed held call.buffer)

theorem Inv.refused (inv : adapter.Inv) (first : adapter.controller.currentWiiControllerIdx = 0)
    (refused : ¬call.read.Valid) : (adapter.poll call).Inv := by
  obtain ⟨error, kept⟩ := answer_refused first refused
  have delivered := delivered_of_error error
  have valid := valid_of_refused first refused
  have turn : (adapter.poll call).controller.currentWiiControllerIdx = 0 := by
    rw [poll, kept]
    exact first
  constructor
  · rw [turn, delivered, ← inv.cursor, first]
  · rw [valid, delivered, inv.reports]
  · exact fun more => absurd turn more
  · rw [delivered, valid]
    exact inv.handsOut

theorem Inv.opens (inv : adapter.Inv) (first : adapter.controller.currentWiiControllerIdx = 0)
    (valid : call.read.Valid) : (adapter.poll call).Inv := by
  have grows := valid_of_first first valid
  have whole : adapter.delivered.length % 4 = 0 := inv.cursor ▸ first
  have count := inv.reports
  have listed : (adapter.poll call).valid[adapter.delivered.length / 4]? = some call.read := by
    have place : adapter.delivered.length / 4 = adapter.valid.length := by omega
    rw [grows, place, List.getElem?_concat_length]
  refine inv.handsOut_next (answer_valid first valid) rfl ?_ ?_ listed rfl
  · exact ⟨_, grows.symm⟩
  · rw [grows, List.length_append, List.length_singleton, count]
    omega

theorem Inv.goesOn (inv : adapter.Inv) (later : adapter.controller.currentWiiControllerIdx ≠ 0) :
    (adapter.poll call).Inv := by
  have same : (adapter.poll call).valid = adapter.valid := valid_of_later later
  obtain ⟨report, listed, held⟩ := inv.current later
  have inside : adapter.delivered.length % 4 ≠ 0 := inv.cursor ▸ later
  refine inv.handsOut_next (answer_later later) rfl ?_ ?_ ?_ held
  · exact ⟨[], by rw [same, List.append_nil]⟩
  · rw [same, inv.reports]
    omega
  · rw [same, listed]

end poll

theorem Inv.poll {adapter : Adapter} (inv : adapter.Inv) (call : PortCall) :
    (adapter.poll call).Inv := by
  by_cases first : adapter.controller.currentWiiControllerIdx = 0
  · by_cases valid : call.read.Valid
    · exact inv.opens first valid
    · exact inv.refused first valid
  · exact inv.goesOn first

theorem Inv.foldl_poll {adapter : Adapter} (inv : adapter.Inv) (calls : List PortCall) :
    (calls.foldl Adapter.poll adapter).Inv := by
  induction calls generalizing adapter with
  | nil => exact inv
  | cons call rest ih => exact ih (inv.poll call)

theorem run_inv {start : WiiController} (first : start.currentWiiControllerIdx = 0)
    (calls : List PortCall) : (run start calls).Inv := by
  refine Inv.foldl_poll ⟨first, by simp [valid, delivered], fun more => absurd first more, ?_⟩ calls
  intro k answer listed
  cases listed

end Adapter

/-- The ports of the adapter, over every run of calls from the driver as it is created: the
`k`-th answer with data is port `k % 4` of the valid report `k / 4`. A call that is answered with
an error leaves the turn and the reports as they are, and only a refused read makes one. -/
theorem ports_demultiplex (memory : Buffer) (flags : Slots Bool) (calls : List PortCall) :
    let adapter := Adapter.run { buffer := memory, rumbleSupported := flags } calls
    (∀ k answer, adapter.delivered[k]? = some answer → Adapter.HandsOut adapter.valid k answer) ∧
      (∀ call, (adapter.controller.answer call).1.status ≠ .success ↔
        adapter.controller.currentWiiControllerIdx = 0 ∧ ¬call.read.Valid) ∧
      (∀ call, (adapter.controller.answer call).1.status ≠ .success →
        (adapter.poll call).delivered = adapter.delivered ∧
          (adapter.poll call).valid = adapter.valid ∧
          (adapter.poll call).controller.currentWiiControllerIdx =
            adapter.controller.currentWiiControllerIdx) ∧
      ∀ base pending buffer inputIdx,
        let made := PortCall.of base adapter.controller pending buffer inputIdx
        let next := adapter.controller.readNextBuffer base pending buffer inputIdx
        adapter.controller.answer made = (PortRead.of next.1, next.2) := by
  intro adapter
  have inv : adapter.Inv := Adapter.run_inv rfl calls
  refine ⟨inv.handsOut, ?_, ?_, ?_⟩
  · exact answer_error_iff adapter.controller
  · intro call error
    obtain ⟨first, refused⟩ := (answer_error_iff adapter.controller call).mp error
    refine ⟨Adapter.delivered_of_error error, Adapter.valid_of_refused first refused, ?_⟩
    rw [Adapter.poll, (answer_refused first refused).2]
  · intro base pending buffer inputIdx
    exact readNextBuffer_eq_answer base adapter.controller pending buffer inputIdx

end WiiController

end SysCon
