import SysCon.ControllerSwitch.SwitchMITMManager

/-!
The touch screen of a process: `OnRun` polls the real ring and pushes its newest
sample into the fake one. The writes of the system fall between two polls, or
between the two reads of a poll.
-/

namespace SysCon.TouchMirror

open Library

abbrev Sample := HidTouchScreenStateAtomicStorage

def number (sample : Sample) : Nat := sample.samplingNumber.toNat

/-- What is written until a poll reads the tail, and then until it has copied the sample. -/
structure Round where
  before : List Sample
  during : List Sample

def written (rounds : List Round) : List Sample :=
  rounds.flatMap fun round => round.before ++ round.during

def writeReal (samples : List Sample) (entry : HidSharedMemoryEntry) : HidSharedMemoryEntry :=
  { entry with
    real := { entry.real with touchscreen := entry.real.touchscreen.storeAll samples } }

def poll (round : Round) (entry : HidSharedMemoryEntry) : HidSharedMemoryEntry :=
  let seen := writeReal round.before entry
  writeReal round.during (seen.onRun (seen.real.touchscreen.storeAll round.during))

/-- What a poll shows: the newest samples of the two rings, and what was pushed. -/
structure Observed where
  newestReal : Sample
  newestFake : Sample
  pushed : Option Sample
  deriving DecidableEq

def observe (round : Round) (entry : HidSharedMemoryEntry) : Observed :=
  let fake := (poll round entry).fake.touchscreen
  { newestReal := (writeReal round.before entry).real.touchscreen.newest
    newestFake := fake.newest
    pushed := if fake.tail = entry.fake.touchscreen.tail then none else some fake.newest }

def observations : HidSharedMemoryEntry → List Round → List Observed
  | _, [] => []
  | entry, round :: rest => observe round entry :: observations (poll round entry) rest

def pushes (polls : List Observed) : List Sample := polls.filterMap Observed.pushed

structure Mirrors (polls : List Observed) : Prop where
  current : ∀ observed ∈ polls, observed.newestFake = observed.newestReal
  increasing : ((pushes polls).map number).Pairwise (· < ·)

/-- The two tails differ exactly when there is something to push. A poll pushes one sample for all
that were written since the poll before: `lag` counts the others, `pending` what was written while
the last poll was copying. -/
def InStep : Nat → Nat → List Round → Prop
  | _, _, [] => True
  | lag, pending, round :: rest =>
    let fresh := pending + round.before.length
    (fresh = 0 ↔ 17 ∣ lag + fresh) ∧ InStep (lag + (fresh - 1)) round.during.length rest

/-! The two tails. -/

/-- The rings after a poll, with `pending` the samples written since it read the tail. -/
structure Cursor (entry : HidSharedMemoryEntry) (lag : Nat) (pending : List Sample) : Prop where
  real : entry.real.touchscreen.WellFormed
  realSize : entry.real.touchscreen.bufferCount = 17
  realCount : entry.real.touchscreen.count = 16
  fake : entry.fake.touchscreen.tail < 17
  fakeSize : entry.fake.touchscreen.bufferCount = 17
  prevTail : entry.touchscreenPrevTail = entry.fake.touchscreen.tail
  apart : entry.real.touchscreen.tail = (entry.fake.touchscreen.tail + lag + pending.length) % 17
  newest : entry.real.touchscreen.newest = pending.getLast?.getD entry.fake.touchscreen.newest

variable {entry : HidSharedMemoryEntry} {lag : Nat} {pending : List Sample} {round : Round}

theorem onRun_same {seen : HidSharedMemoryEntry} (copied : RingBuffer Sample)
    (same : seen.real.touchscreen.tail = seen.touchscreenPrevTail) : seen.onRun copied = seen := by
  simp [HidSharedMemoryEntry.onRun, same]

theorem onRun_push {seen : HidSharedMemoryEntry} (copied : RingBuffer Sample)
    (count : seen.real.touchscreen.count = 16)
    (moved : seen.real.touchscreen.tail ≠ seen.touchscreenPrevTail) :
    seen.onRun copied = { seen with
      fake := { seen.fake with
        touchscreen :=
          seen.fake.touchscreen.store (copied.storage seen.real.touchscreen.tail) }
      touchscreenPrevTail := seen.fake.touchscreen.next } := by
  simp [HidSharedMemoryEntry.onRun, count, moved]

theorem writeReal_append (first second : List Sample) :
    writeReal second (writeReal first entry) = writeReal (first ++ second) entry := by
  simp [writeReal, RingBuffer.storeAll]

theorem getLast?_getD_append (first second : List Sample) (default : Sample) :
    (first ++ second).getLast?.getD default =
      second.getLast?.getD (first.getLast?.getD default) := by
  rw [List.getLast?_append]
  cases second.getLast? with
  | none => rfl
  | some last => rfl

theorem Cursor.write (cursor : Cursor entry lag pending) (samples : List Sample) :
    Cursor (writeReal samples entry) lag (pending ++ samples) where
  real := cursor.real.storeAll samples
  realSize := (RingBuffer.storeAll_bufferCount samples).trans cursor.realSize
  realCount := (RingBuffer.storeAll_count samples).trans cursor.realCount
  fake := cursor.fake
  fakeSize := cursor.fakeSize
  prevTail := cursor.prevTail
  apart := by
    simp only [writeReal]
    rw [RingBuffer.tail_storeAll cursor.real, cursor.apart, cursor.realSize, Nat.mod_add_mod,
      List.length_append, Nat.add_assoc _ pending.length]
  newest := by
    simp only [writeReal]
    rw [RingBuffer.newest_storeAll, cursor.newest, getLast?_getD_append]

theorem Cursor.same_tail_iff (cursor : Cursor entry lag pending) :
    entry.real.touchscreen.tail = entry.touchscreenPrevTail ↔ 17 ∣ lag + pending.length := by
  have inside := cursor.fake
  rw [cursor.apart, cursor.prevTail]
  omega

def pushNewest (entry : HidSharedMemoryEntry) : HidSharedMemoryEntry :=
  { entry with
    fake := { entry.fake with
      touchscreen := entry.fake.touchscreen.store entry.real.touchscreen.newest }
    touchscreenPrevTail := entry.fake.touchscreen.next }

theorem Cursor.pushNewest (cursor : Cursor entry lag pending) (fresh : pending.length ≠ 0) :
    Cursor (pushNewest entry) (lag + (pending.length - 1)) [] where
  real := cursor.real
  realSize := cursor.realSize
  realCount := cursor.realCount
  fake := by
    have formed : entry.fake.touchscreen.next < entry.fake.touchscreen.bufferCount := by
      have inside := cursor.fake
      rw [RingBuffer.next_eq_mod (by rw [cursor.fakeSize]; exact inside)]
      exact Nat.mod_lt _ (by rw [cursor.fakeSize]; decide)
    exact cursor.fakeSize ▸ formed
  fakeSize := cursor.fakeSize
  prevTail := rfl
  apart := by
    have inside := cursor.fake
    have apart := cursor.apart
    simp only [TouchMirror.pushNewest, RingBuffer.store_tail, List.length_nil]
    rw [RingBuffer.next_eq_mod (by rw [cursor.fakeSize]; exact inside), cursor.fakeSize, apart]
    omega
  newest := RingBuffer.newest_store.symm

theorem Cursor.poll_same (cursor : Cursor entry lag pending)
    (same : 17 ∣ lag + (pending.length + round.before.length)) :
    poll round entry = writeReal (round.before ++ round.during) entry := by
  have unmoved := (cursor.write round.before).same_tail_iff.mpr (by simpa using same)
  rw [poll, onRun_same _ unmoved, writeReal_append]

theorem Cursor.poll_push (cursor : Cursor entry lag pending) (few : round.during.length < 16)
    (moved : ¬17 ∣ lag + (pending.length + round.before.length)) :
    poll round entry =
      writeReal round.during (TouchMirror.pushNewest (writeReal round.before entry)) := by
  have seen := cursor.write round.before
  have tails : (writeReal round.before entry).real.touchscreen.tail ≠
      (writeReal round.before entry).touchscreenPrevTail := by
    rw [Ne, seen.same_tail_iff, List.length_append]
    exact moved
  have copied := RingBuffer.storage_tail_storeAll seen.real round.during
    (by rw [seen.realSize]; omega)
  rw [poll, onRun_push _ seen.realCount tails, copied]
  rfl

/-! What the polls show. -/

theorem next_ne_tail (cursor : Cursor entry lag pending) :
    entry.fake.touchscreen.next ≠ entry.fake.touchscreen.tail := by
  have inside := cursor.fake
  rw [RingBuffer.next, cursor.fakeSize]
  split <;> omega

theorem Cursor.newestReal (cursor : Cursor entry lag pending) :
    (observe round entry).newestReal =
      (pending ++ round.before).getLast?.getD entry.fake.touchscreen.newest :=
  (cursor.write round.before).newest

theorem Cursor.observe_same (cursor : Cursor entry lag pending)
    (same : 17 ∣ lag + (pending.length + round.before.length)) :
    (observe round entry).newestFake = entry.fake.touchscreen.newest ∧
      (observe round entry).pushed = none := by
  simp only [observe, cursor.poll_same same]
  exact ⟨rfl, if_pos rfl⟩

theorem Cursor.observe_push (cursor : Cursor entry lag pending) (few : round.during.length < 16)
    (moved : ¬17 ∣ lag + (pending.length + round.before.length)) :
    (observe round entry).newestFake = (observe round entry).newestReal ∧
      (observe round entry).pushed = some (observe round entry).newestReal := by
  have newest : (poll round entry).fake.touchscreen.newest = (observe round entry).newestReal := by
    rw [cursor.poll_push few moved]
    exact RingBuffer.newest_store
  have tail : (poll round entry).fake.touchscreen.tail = entry.fake.touchscreen.next := by
    rw [cursor.poll_push few moved]
    rfl
  refine ⟨newest, ?_⟩
  rw [← newest]
  simp only [observe, tail, if_neg (next_ne_tail cursor)]

/-- The samples written from here on, each numbered above the newest fake one. -/
def Fresh (entry : HidSharedMemoryEntry) (pending : List Sample) (rounds : List Round) : Prop :=
  ((entry.fake.touchscreen.newest :: (pending ++ written rounds)).map number).Pairwise (· < ·)

theorem fresh_after {newest : Sample} {seen later : List Sample} {last : Sample}
    (fresh : ((newest :: (seen ++ later)).map number).Pairwise (· < ·)) (member : last ∈ seen) :
    number newest < number last ∧ ((last :: later).map number).Pairwise (· < ·) := by
  have split := List.pairwise_cons.mp (List.map_cons ▸ fresh)
  refine ⟨split.1 _ (List.mem_map_of_mem (List.mem_append_left _ member)), ?_⟩
  have kept : (last :: later).Sublist (seen ++ later) :=
    (List.singleton_sublist.mpr member).append (List.Sublist.refl later)
  exact split.2.sublist (kept.map number)

theorem getLast?_getD_mem {seen : List Sample} (default : Sample) (filled : seen.length ≠ 0) :
    seen.getLast?.getD default ∈ seen := by
  have some : seen ≠ [] := by
    intro empty
    exact filled (by rw [empty]; rfl)
  rw [List.getLast?_eq_some_getLast some, Option.getD_some]
  exact List.getLast_mem some

/-- What one poll can do, with `fresh` the samples written since the poll before. -/
inductive PollCase (round : Round) (entry : HidSharedMemoryEntry) (lag fresh : Nat)
    (later : List Round) : Prop
  | quiet (none : fresh = 0) (aligned : 17 ∣ lag + fresh)
      (current : (observe round entry).newestFake = (observe round entry).newestReal)
      (pushed : (observe round entry).pushed = .none)
      (newest : (poll round entry).fake.touchscreen.newest = entry.fake.touchscreen.newest)
      (next : Cursor (poll round entry) lag round.during)
      (freshLater : Fresh (poll round entry) round.during later)
  | missed (some : fresh ≠ 0) (aligned : 17 ∣ lag + fresh)
      (stale : (observe round entry).newestFake ≠ (observe round entry).newestReal)
  | repeated (none : fresh = 0) (apart : ¬17 ∣ lag + fresh)
      (current : (observe round entry).newestFake = (observe round entry).newestReal)
      (pushed : (observe round entry).pushed = .some entry.fake.touchscreen.newest)
  | pushed (some : fresh ≠ 0) (apart : ¬17 ∣ lag + fresh) (last : Sample)
      (current : (observe round entry).newestFake = (observe round entry).newestReal)
      (pushed : (observe round entry).pushed = .some last)
      (larger : number entry.fake.touchscreen.newest < number last)
      (newest : (poll round entry).fake.touchscreen.newest = last)
      (next : Cursor (poll round entry) (lag + (fresh - 1)) round.during)
      (freshLater : Fresh (poll round entry) round.during later)

theorem Cursor.poll_cases (cursor : Cursor entry lag pending) (few : round.during.length < 16)
    {later : List Round} (fresh : Fresh entry pending (round :: later)) :
    PollCase round entry lag (pending.length + round.before.length) later := by
  have total : (pending ++ round.before).length = pending.length + round.before.length :=
    List.length_append
  have newest : (observe round entry).newestReal =
      (pending ++ round.before).getLast?.getD entry.fake.touchscreen.newest := cursor.newestReal
  rw [Fresh, written, List.flatMap_cons, ← written, List.append_assoc, ← List.append_assoc]
    at fresh
  by_cases aligned : 17 ∣ lag + (pending.length + round.before.length)
  · obtain ⟨fake, quiet⟩ := cursor.observe_same aligned
    by_cases empty : pending.length + round.before.length = 0
    · obtain ⟨noPending, noBefore⟩ := Nat.add_eq_zero_iff.mp empty
      obtain rfl := List.length_eq_zero_iff.mp noPending
      have before := List.length_eq_zero_iff.mp noBefore
      simp only [before, List.append_nil, List.getLast?_nil, Option.getD_none,
        List.nil_append] at newest fresh
      have unmoved : poll round entry = writeReal round.during entry := by
        rw [cursor.poll_same aligned, before, List.nil_append]
      have next := cursor.write round.during
      rw [← unmoved, List.nil_append] at next
      exact .quiet empty aligned (fake.trans newest.symm) quiet (by rw [unmoved]; rfl) next
        (by rw [unmoved]; exact fresh)
    · have member := getLast?_getD_mem entry.fake.touchscreen.newest (total ▸ empty)
      have smaller := (fresh_after fresh member).1
      refine .missed empty aligned ?_
      rw [fake, newest]
      exact fun same => Nat.ne_of_lt smaller (congrArg number same)
  · obtain ⟨current, pushed⟩ := cursor.observe_push few aligned
    rw [newest] at pushed
    by_cases empty : pending.length + round.before.length = 0
    · rw [List.length_eq_zero_iff.mp (total.trans empty)] at pushed
      exact .repeated empty aligned current pushed
    · have member := getLast?_getD_mem entry.fake.touchscreen.newest (total ▸ empty)
      obtain ⟨smaller, freshLater⟩ := fresh_after fresh member
      have next := ((cursor.write round.before).pushNewest (total ▸ empty)).write round.during
      have moved := cursor.poll_push few aligned
      have last : (poll round entry).fake.touchscreen.newest =
          (pending ++ round.before).getLast?.getD entry.fake.touchscreen.newest := by
        rw [moved, ← newest]
        exact RingBuffer.newest_store
      rw [← moved, List.nil_append, total] at next
      exact .pushed empty aligned _ current pushed smaller last next
        (by rw [Fresh, last]; exact freshLater)

/-! What a list of polls shows, the newest fake sample before them counted as pushed. -/

structure MirrorsAfter (newest : Sample) (polls : List Observed) : Prop where
  current : ∀ observed ∈ polls, observed.newestFake = observed.newestReal
  increasing : ((newest :: pushes polls).map number).Pairwise (· < ·)

theorem pushes_quiet {observed : Observed} {polls : List Observed}
    (quiet : observed.pushed = none) : pushes (observed :: polls) = pushes polls :=
  List.filterMap_cons_none quiet

theorem pushes_pushed {observed : Observed} {polls : List Observed} {last : Sample}
    (pushed : observed.pushed = some last) : pushes (observed :: polls) = last :: pushes polls :=
  List.filterMap_cons_some pushed

theorem mirrorsAfter_quiet {newest : Sample} {observed : Observed} {polls : List Observed}
    (current : observed.newestFake = observed.newestReal) (quiet : observed.pushed = none) :
    MirrorsAfter newest (observed :: polls) ↔ MirrorsAfter newest polls := by
  constructor
  · rintro ⟨allCurrent, increasing⟩
    rw [pushes_quiet quiet] at increasing
    exact ⟨(List.forall_mem_cons.mp allCurrent).2, increasing⟩
  · rintro ⟨allCurrent, increasing⟩
    rw [← pushes_quiet quiet] at increasing
    exact ⟨List.forall_mem_cons.mpr ⟨current, allCurrent⟩, increasing⟩

theorem mirrorsAfter_pushed {newest last : Sample} {observed : Observed} {polls : List Observed}
    (current : observed.newestFake = observed.newestReal) (pushed : observed.pushed = some last) :
    MirrorsAfter newest (observed :: polls) ↔
      number newest < number last ∧ MirrorsAfter last polls := by
  constructor
  · rintro ⟨allCurrent, increasing⟩
    rw [pushes_pushed pushed, List.map_cons, List.map_cons, List.pairwise_cons] at increasing
    exact ⟨increasing.1 _ List.mem_cons_self, (List.forall_mem_cons.mp allCurrent).2, increasing.2⟩
  · rintro ⟨smaller, allCurrent, increasing⟩
    refine ⟨List.forall_mem_cons.mpr ⟨current, allCurrent⟩, ?_⟩
    rw [pushes_pushed pushed, List.map_cons, List.map_cons, List.pairwise_cons]
    refine ⟨?_, increasing⟩
    intro other member
    rcases List.mem_cons.mp member with here | later
    · exact here ▸ smaller
    · exact Nat.lt_trans smaller ((List.pairwise_cons.mp increasing).1 other later)

theorem Cursor.mirrorsAfter_iff (cursor : Cursor entry lag pending) {rounds : List Round}
    (few : ∀ round ∈ rounds, round.during.length < 16) (fresh : Fresh entry pending rounds) :
    MirrorsAfter entry.fake.touchscreen.newest (observations entry rounds) ↔
      InStep lag pending.length rounds := by
  induction rounds generalizing entry lag pending with
  | nil => exact iff_of_true ⟨by simp [observations], by simp [observations, pushes]⟩ trivial
  | cons round rest ih =>
      obtain ⟨fewHere, fewLater⟩ := List.forall_mem_cons.mp few
      rw [observations, InStep]
      rcases cursor.poll_cases fewHere fresh with
        ⟨none, aligned, current, pushed, newest, next, freshLater⟩ | ⟨some, aligned, stale⟩ |
        ⟨none, apart, current, pushed⟩ |
        ⟨some, apart, last, current, pushed, larger, newest, next, freshLater⟩
      · have following := ih next fewLater freshLater
        rw [newest] at following
        have behind : lag + (pending.length + round.before.length - 1) = lag := by omega
        rw [mirrorsAfter_quiet current pushed, following, behind]
        exact (and_iff_right (iff_of_true none aligned)).symm
      · refine iff_of_false ?_ (fun inStep => some (inStep.1.mpr aligned))
        intro mirrors
        exact stale (mirrors.current _ List.mem_cons_self)
      · refine iff_of_false ?_ (fun inStep => apart (inStep.1.mp none))
        rw [mirrorsAfter_pushed current pushed]
        exact fun mirrors => Nat.lt_irrefl _ mirrors.1
      · have following := ih next fewLater freshLater
        rw [newest] at following
        rw [mirrorsAfter_pushed current pushed]
        exact and_congr (iff_of_true larger (iff_of_false some apart)) following

theorem Cursor.mirrorsAfter_of_mirrors (cursor : Cursor entry 0 pending) {rounds : List Round}
    (few : ∀ round ∈ rounds, round.during.length < 16) (fresh : Fresh entry pending rounds)
    (mirrors : Mirrors (observations entry rounds)) :
    MirrorsAfter entry.fake.touchscreen.newest (observations entry rounds) := by
  induction rounds generalizing entry pending with
  | nil => exact ⟨mirrors.current, by simp [observations, pushes]⟩
  | cons round rest ih =>
      obtain ⟨fewHere, fewLater⟩ := List.forall_mem_cons.mp few
      rw [observations] at mirrors ⊢
      obtain ⟨allCurrent, increasing⟩ := mirrors
      rcases cursor.poll_cases fewHere fresh with
        ⟨none, aligned, current, pushed, newest, next, freshLater⟩ | ⟨some, aligned, stale⟩ |
        ⟨none, apart, current, pushed⟩ |
        ⟨some, apart, last, current, pushed, larger, newest, next, freshLater⟩
      · rw [pushes_quiet pushed] at increasing
        rw [mirrorsAfter_quiet current pushed, ← newest]
        exact ih next fewLater freshLater ⟨(List.forall_mem_cons.mp allCurrent).2, increasing⟩
      · exact absurd (allCurrent _ List.mem_cons_self) stale
      · exact absurd (by rw [none]; decide) apart
      · rw [pushes_pushed pushed] at increasing
        rw [mirrorsAfter_pushed current pushed]
        exact ⟨larger, (List.forall_mem_cons.mp allCurrent).2, increasing⟩

theorem Cursor.create {memory : HidSharedMemory} (size : memory.touchscreen.bufferCount = 17)
    (count : memory.touchscreen.count = 16) (inside : memory.touchscreen.tail < 17) :
    Cursor (.create memory) 0 [] where
  real := ⟨by simpa [HidSharedMemoryEntry.create, size] using inside,
    by simp [HidSharedMemoryEntry.create, size, count]⟩
  realSize := size
  realCount := count
  fake := inside
  fakeSize := size
  prevTail := rfl
  apart := (Nat.mod_eq_of_lt inside).symm
  newest := rfl

/-- The fake ring mirrors the real one exactly when every poll tells from the tails whether there
is something new. -/
theorem mirrors_iff_in_step {memory : HidSharedMemory} {rounds : List Round}
    (size : memory.touchscreen.bufferCount = 17) (count : memory.touchscreen.count = 16)
    (inside : memory.touchscreen.tail < 17) (few : ∀ round ∈ rounds, round.during.length < 16)
    (fresh : ((memory.touchscreen.newest :: written rounds).map number).Pairwise (· < ·)) :
    Mirrors (observations (.create memory) rounds) ↔ InStep 0 0 rounds := by
  have cursor := Cursor.create size count inside
  refine Iff.trans ?_ (cursor.mirrorsAfter_iff few fresh)
  constructor
  · exact cursor.mirrorsAfter_of_mirrors few fresh
  · rintro ⟨current, increasing⟩
    exact ⟨current, (List.pairwise_cons.mp increasing).2⟩

def idleMemory : HidSharedMemory where
  npad := fun _ => HidSharedMemoryController.zeroState
  touchscreen := { bufferCount := 17, tail := 3, count := 16, storage := fun _ => {} }

-- One sample before each of two polls, then a poll without any.
theorem mirrors_single_writes :
    Mirrors (observations (.create idleMemory)
      [⟨[{ samplingNumber := 1 }], []⟩, ⟨[{ samplingNumber := 2 }], []⟩, ⟨[], []⟩]) :=
  (mirrors_iff_in_step rfl rfl (by decide) (by decide) (by decide)).mpr
    ⟨by decide, by decide, by decide, trivial⟩

/-- Fewer than sixteen samples from the tail read by a poll to the next. -/
def Paced (rounds : List Round) : Prop :=
  rounds.IsChain fun first second => first.during.length + second.before.length < 16

-- Two samples before a poll: the next poll pushes the second one again.
theorem sample_pushed_twice :
    ¬∀ (memory : HidSharedMemory) (rounds : List Round), memory.touchscreen.bufferCount = 17 →
      memory.touchscreen.count = 16 → memory.touchscreen.tail < 17 → Paced rounds →
      (∀ round ∈ rounds, round.during.length < 16) →
      ((memory.touchscreen.newest :: written rounds).map number).Pairwise (· < ·) →
        Mirrors (observations (.create memory) rounds) := by
  intro always
  have mirrors := always idleMemory
    [⟨[{ samplingNumber := 1 }, { samplingNumber := 2 }], []⟩, ⟨[], []⟩] rfl rfl (by decide)
    (by simp [Paced]) (by decide) (by decide)
  exact absurd mirrors.increasing (by decide)

end SysCon.TouchMirror
