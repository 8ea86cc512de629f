import SysCon.ControllerLib.Controllers
import SysCon.Library.Polling

/-!
`ReadNextBuffer` of the base class: the endpoint that it serves, the report that
it leaves in the buffer, and what is served when one endpoint alone has
something to read.
-/

namespace SysCon

open Library

namespace BaseController

variable {base : BaseController} {pending : Pending} {buffer : Buffer} {size inputIdx : Nat}

theorem drain_size {capacity latestSize : Nat} (rest : List ReadOutcome)
    (positive : 0 < latestSize) (bound : latestSize ≤ capacity) :
    0 < (drain capacity rest buffer latestSize).size ∧
      (drain capacity rest buffer latestSize).size ≤ capacity := by
  induction rest generalizing buffer latestSize with
  | nil => exact ⟨positive, bound⟩
  | cons outcome rest ih =>
      simp only [drain]
      split
      · exact ⟨positive, bound⟩
      · rename_i fresh
        have shorter := List.length_take_le capacity outcome.bytes
        apply ih
        · omega
        · exact shorter

theorem readEndpointLatest_nil (wMaxPacketSize : Nat) :
    readEndpointLatest wMaxPacketSize [] buffer size = ⟨.timeout, buffer, size, []⟩ := rfl

theorem readEndpointLatest_cons {wMaxPacketSize : Nat} (outcome : ReadOutcome)
    (rest : List ReadOutcome) :
    let capacity := min wMaxPacketSize size
    let bytes := outcome.bytes.take capacity
    readEndpointLatest wMaxPacketSize (outcome :: rest) buffer size =
      if outcome.status ≠ .success then ⟨outcome.status, buffer.write bytes, size, rest⟩
      else if bytes.length = 0 then ⟨.nothingTodo, buffer.write bytes, size, rest⟩
      else drain capacity rest (buffer.write bytes) bytes.length := rfl

theorem readEndpointLatest_size (wMaxPacketSize : Nat) (outcomes : List ReadOutcome)
    (buffer : Buffer) (size : Nat)
    (success : (readEndpointLatest wMaxPacketSize outcomes buffer size).status = .success) :
    0 < (readEndpointLatest wMaxPacketSize outcomes buffer size).size ∧
      (readEndpointLatest wMaxPacketSize outcomes buffer size).size ≤ min wMaxPacketSize size := by
  cases outcomes with
  | nil => simp [readEndpointLatest_nil] at success
  | cons outcome rest =>
      rw [readEndpointLatest_cons] at success ⊢
      by_cases failed : outcome.status ≠ .success
      · rw [if_pos failed] at success
        exact absurd success failed
      · rw [if_neg failed] at success ⊢
        by_cases empty : (outcome.bytes.take (min wMaxPacketSize size)).length = 0
        · rw [if_pos empty] at success
          simp at success
        · rw [if_neg empty]
          exact drain_size rest (by omega) (List.length_take_le _ _)

/-- A served endpoint delivered a report that fits it, and the index says which; without a
report the index stays. Only the cursor of the controller moves. -/
structure Served (base : BaseController) (size inputIdx : Nat) (next : NextBuffer) : Prop where
  sameBase : ∃ cursor, next.base = { base with currentControllerIdx := cursor }
  delivered : next.status = .success →
    0 < next.size ∧ next.size ≤ min (base.maxPacketSize next.inputIdx) size
  idle : next.status ≠ .success → next.inputIdx = inputIdx

theorem fastPass_hit {remaining i : Nat} (success : (readEndpointLatest
      (base.maxPacketSize ((base.currentControllerIdx + i) % base.inPipe.length))
      (pending ((base.currentControllerIdx + i) % base.inPipe.length)) buffer size).status =
        .success) :
    base.fastPass size inputIdx (remaining + 1) i pending buffer =
      let endpointIdx := (base.currentControllerIdx + i) % base.inPipe.length
      let read :=
        readEndpointLatest (base.maxPacketSize endpointIdx) (pending endpointIdx) buffer size
      ⟨.success, read.buffer, read.size, endpointIdx, base.advanceFrom endpointIdx,
        Function.update pending endpointIdx read.pending⟩ := by
  rw [fastPass]
  exact if_pos success

theorem fastPass_miss {remaining i : Nat} (failed : (readEndpointLatest
      (base.maxPacketSize ((base.currentControllerIdx + i) % base.inPipe.length))
      (pending ((base.currentControllerIdx + i) % base.inPipe.length)) buffer size).status ≠
        .success) :
    base.fastPass size inputIdx (remaining + 1) i pending buffer =
      let endpointIdx := (base.currentControllerIdx + i) % base.inPipe.length
      let read :=
        readEndpointLatest (base.maxPacketSize endpointIdx) (pending endpointIdx) buffer size
      base.fastPass size inputIdx remaining (i + 1)
        (Function.update pending endpointIdx read.pending) read.buffer := by
  rw [fastPass]
  exact if_neg failed

theorem fastPass_served (base : BaseController) (size inputIdx : Nat) (pending : Pending)
    (buffer : Buffer) (remaining i : Nat) :
    Served base size inputIdx (base.fastPass size inputIdx remaining i pending buffer) := by
  induction remaining generalizing i pending buffer with
  | zero => exact ⟨⟨base.currentControllerIdx, rfl⟩, fun success => by simp [fastPass] at success,
      fun _ => rfl⟩
  | succ remaining ih =>
      let endpointIdx := (base.currentControllerIdx + i) % base.inPipe.length
      by_cases success : (readEndpointLatest (base.maxPacketSize endpointIdx) (pending endpointIdx)
          buffer size).status = .success
      · rw [fastPass_hit success]
        exact ⟨⟨_, rfl⟩, fun _ => readEndpointLatest_size _ _ _ _ success,
          fun failed => absurd rfl failed⟩
      · rw [fastPass_miss success]
        exact ih _ _ (i + 1)

theorem readNextBuffer_hit (nonempty : base.inPipe.length ≠ 0)
    (swept : (base.fastPass size inputIdx base.inPipe.length 0 pending buffer).status = .success) :
    base.readNextBuffer pending buffer size inputIdx =
      base.fastPass size inputIdx base.inPipe.length 0 pending buffer := by
  rw [readNextBuffer, if_neg nonempty]
  exact if_pos swept

theorem readNextBuffer_served (base : BaseController) (pending : Pending) (buffer : Buffer)
    (size inputIdx : Nat) :
    Served base size inputIdx (base.readNextBuffer pending buffer size inputIdx) := by
  by_cases empty : base.inPipe.length = 0
  · rw [readNextBuffer, if_pos empty]
    exact ⟨⟨base.currentControllerIdx, rfl⟩, fun success => by simp at success, fun _ => rfl⟩
  · have swept := fastPass_served base size inputIdx pending buffer base.inPipe.length 0
    by_cases hit :
        (base.fastPass size inputIdx base.inPipe.length 0 pending buffer).status = .success
    · rw [readNextBuffer_hit empty hit]
      exact swept
    · rw [readNextBuffer, if_neg empty]
      simp only [if_neg hit]
      generalize base.fastPass size inputIdx base.inPipe.length 0 pending buffer = sweep
      have readSize := readEndpointLatest_size (base.maxPacketSize base.currentControllerIdx)
        (sweep.pending base.currentControllerIdx) sweep.buffer size
      cases answer : base.readPipe base.currentControllerIdx sweep.pending sweep.buffer size with
      | mk read left =>
          obtain ⟨rfl, _⟩ := Prod.mk.inj answer
          split
          · rename_i failed
            exact ⟨⟨_, rfl⟩, fun success => absurd success failed, fun _ => rfl⟩
          · rename_i succeeded
            exact ⟨⟨_, rfl⟩, fun _ => readSize (not_not.mp succeeded),
              fun failed => absurd rfl failed⟩

/-! Where one endpoint alone has something to read, its read is the one that is served. -/

structure Delivers (endpointIdx : Nat) (read : EndpointRead) (next : NextBuffer) : Prop where
  status : next.status = .success
  inputIdx : next.inputIdx = endpointIdx
  size : next.size = read.size
  buffer : next.buffer = read.buffer

theorem fastPass_only {endpointIdx remaining i : Nat}
    (quiet : ∀ other, other ≠ endpointIdx → pending other = [])
    (success : (readEndpointLatest (base.maxPacketSize endpointIdx) (pending endpointIdx)
      buffer size).status = .success)
    (ahead : ∃ offset < remaining,
      (base.currentControllerIdx + (i + offset)) % base.inPipe.length = endpointIdx) :
    Delivers endpointIdx
      (readEndpointLatest (base.maxPacketSize endpointIdx) (pending endpointIdx) buffer size)
      (base.fastPass size inputIdx remaining i pending buffer) := by
  induction remaining generalizing i pending with
  | zero =>
      obtain ⟨offset, bound, _⟩ := ahead
      omega
  | succ remaining ih =>
      obtain ⟨offset, bound, reached⟩ := ahead
      by_cases here : (base.currentControllerIdx + i) % base.inPipe.length = endpointIdx
      · rw [fastPass_hit (by rw [here]; exact success)]
        simp only [here]
        exact ⟨rfl, rfl, rfl, rfl⟩
      · have empty := quiet _ here
        have same : Function.update pending
            ((base.currentControllerIdx + i) % base.inPipe.length) [] = pending := by
          rw [← empty, Function.update_eq_self]
        rw [fastPass_miss (by rw [empty, readEndpointLatest_nil]; simp)]
        simp only [empty, readEndpointLatest_nil, same]
        apply ih quiet success
        have later : offset ≠ 0 := by
          rintro rfl
          exact here reached
        refine ⟨offset - 1, by omega, ?_⟩
        rw [← reached]
        congr 2
        omega

theorem readNextBuffer_only {endpointIdx : Nat} (listed : endpointIdx < base.inPipe.length)
    (quiet : ∀ other, other ≠ endpointIdx → pending other = [])
    (success : (readEndpointLatest (base.maxPacketSize endpointIdx) (pending endpointIdx)
      buffer size).status = .success) :
    Delivers endpointIdx
      (readEndpointLatest (base.maxPacketSize endpointIdx) (pending endpointIdx) buffer size)
      (base.readNextBuffer pending buffer size inputIdx) := by
  have ahead := exists_distance base.currentControllerIdx listed
  have swept : Delivers endpointIdx _ (base.fastPass size inputIdx _ 0 pending buffer) :=
    fastPass_only quiet success (by simpa using ahead)
  rw [readNextBuffer_hit (by omega) swept.status]
  exact swept

theorem lt_of_maxPacketSize_pos {endpointIdx : Nat}
    (positive : 0 < base.maxPacketSize endpointIdx) :
    endpointIdx < base.inPipe.length := by
  by_contra outside
  simp [maxPacketSize, List.getElem?_eq_none (Nat.not_lt.mp outside)] at positive

theorem readEndpointLatest_single {wMaxPacketSize : Nat} {bytes : List UInt8} (buffer : Buffer)
    (nonempty : bytes ≠ []) (fits : bytes.length ≤ min wMaxPacketSize size) :
    readEndpointLatest wMaxPacketSize [⟨.success, bytes⟩] buffer size =
      ⟨.success, buffer.write bytes, bytes.length, []⟩ := by
  have whole : bytes.take (min wMaxPacketSize size) = bytes := List.take_of_length_le fits
  have positive : bytes.length ≠ 0 := fun empty => nonempty (List.length_eq_zero_iff.mp empty)
  rw [readEndpointLatest_cons]
  simp only [whole]
  rw [if_neg (by simp), if_neg positive]
  rfl

end BaseController

end SysCon
