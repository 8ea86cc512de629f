import Mathlib.Data.List.Basic
import Mathlib.Data.List.Range
import Mathlib.Logic.Function.Basic

/-!
Ring buffers: a storage used cyclically, a tail that points at the newest
sample, and a count of the samples that are valid. Storing one sample puts it
in front of the history and drops what no longer fits.
-/

namespace SysCon.Library

structure RingBuffer (sample : Type*) where
  bufferCount : Nat
  tail : Nat
  count : Nat
  storage : Nat → sample

namespace RingBuffer

variable {sample : Type*}

def next (ring : RingBuffer sample) : Nat :=
  if ring.tail + 1 ≥ ring.bufferCount then 0 else ring.tail + 1

/-- One more sample, the number of valid ones left as it is. -/
def store (ring : RingBuffer sample) (value : sample) : RingBuffer sample :=
  { ring with
    tail := ring.next
    storage := Function.update ring.storage ring.next value }

def grow (ring : RingBuffer sample) : RingBuffer sample :=
  { ring with count := if ring.count < ring.bufferCount then ring.count + 1 else ring.count }

def push (ring : RingBuffer sample) (value : sample) : RingBuffer sample :=
  (ring.store value).grow

def slot (ring : RingBuffer sample) (age : Nat) : Nat :=
  (ring.tail + ring.bufferCount - age) % ring.bufferCount

def newest (ring : RingBuffer sample) : sample := ring.storage ring.tail

/-- The valid samples, the newest first. -/
def recent (ring : RingBuffer sample) : List sample :=
  (List.range ring.count).map fun age => ring.storage (ring.slot age)

/-- The valid samples, the oldest first. -/
def history (ring : RingBuffer sample) : List sample := ring.recent.reverse

def Increasing (key : sample → Nat) (ring : RingBuffer sample) : Prop :=
  (ring.history.map key).Pairwise (· < ·)

instance (key : sample → Nat) (ring : RingBuffer sample) : Decidable (ring.Increasing key) :=
  inferInstanceAs (Decidable (List.Pairwise _ _))

structure WellFormed (ring : RingBuffer sample) : Prop where
  tail_lt : ring.tail < ring.bufferCount
  count_le : ring.count ≤ ring.bufferCount

variable {ring : RingBuffer sample} {value : sample}

@[simp] theorem store_tail : (ring.store value).tail = ring.next := rfl

@[simp] theorem store_bufferCount : (ring.store value).bufferCount = ring.bufferCount := rfl

@[simp] theorem newest_store : (ring.store value).newest = value := by
  simp [newest, store]

theorem WellFormed.next_lt (formed : ring.WellFormed) : ring.next < ring.bufferCount := by
  have := formed.tail_lt
  unfold next
  split <;> omega

theorem WellFormed.store (formed : ring.WellFormed) : (ring.store value).WellFormed :=
  ⟨formed.next_lt, formed.count_le⟩

theorem next_eq_mod (inside : ring.tail < ring.bufferCount) :
    ring.next = (ring.tail + 1) % ring.bufferCount := by
  unfold next
  split
  · have : ring.tail + 1 = ring.bufferCount := by omega
    rw [this, Nat.mod_self]
  · rw [Nat.mod_eq_of_lt (by omega)]

@[simp] theorem slot_zero (inside : ring.tail < ring.bufferCount) : ring.slot 0 = ring.tail := by
  simp [slot, Nat.mod_eq_of_lt inside]

theorem slot_eq (inside : ring.tail < ring.bufferCount) {age : Nat}
    (young : age < ring.bufferCount) :
    ring.slot age =
      if age ≤ ring.tail then ring.tail - age else ring.tail + ring.bufferCount - age := by
  unfold slot
  split
  · have split : ring.tail + ring.bufferCount - age = ring.tail - age + ring.bufferCount := by omega
    rw [split, Nat.add_mod_right, Nat.mod_eq_of_lt (by omega)]
  · rw [Nat.mod_eq_of_lt (by omega)]

theorem slot_store (formed : ring.WellFormed) {age : Nat} (young : age + 1 < ring.bufferCount) :
    (ring.store value).slot (age + 1) = ring.slot age := by
  have inside := formed.tail_lt
  rw [slot_eq formed.store.tail_lt young, slot_eq inside (by omega)]
  simp only [store_tail, store_bufferCount, next]
  split <;> split <;> split <;> omega

theorem slot_ne_next (formed : ring.WellFormed) {age : Nat} (young : age + 1 < ring.bufferCount) :
    ring.slot age ≠ ring.next := by
  have inside := formed.tail_lt
  rw [slot_eq inside (by omega), next]
  split <;> split <;> omega

theorem storage_store (formed : ring.WellFormed) {age : Nat} (young : age + 1 < ring.bufferCount) :
    (ring.store value).storage ((ring.store value).slot (age + 1)) =
      ring.storage (ring.slot age) := by
  rw [slot_store formed young]
  exact Function.update_of_ne (slot_ne_next formed young) _ _

@[simp] theorem length_recent : ring.recent.length = ring.count := by
  simp [recent]

theorem recent_eq_cons (formed : ring.WellFormed) (filled : ring.count ≠ 0) :
    ∃ older, ring.recent = ring.newest :: older := by
  obtain ⟨count, counted⟩ := Nat.exists_eq_succ_of_ne_zero filled
  rw [recent, counted, List.range_succ_eq_map, List.map_cons, slot_zero formed.tail_lt]
  exact ⟨_, rfl⟩

theorem push_count : (ring.push value).count =
    if ring.count < ring.bufferCount then ring.count + 1 else ring.count := rfl

@[simp] theorem push_bufferCount : (ring.push value).bufferCount = ring.bufferCount := rfl

theorem getLast?_history (formed : ring.WellFormed) (filled : ring.count ≠ 0) :
    ring.history.getLast? = some ring.newest := by
  obtain ⟨older, shape⟩ := recent_eq_cons formed filled
  rw [history, List.getLast?_reverse, shape, List.head?_cons]

theorem WellFormed.push (formed : ring.WellFormed) : (ring.push value).WellFormed := by
  refine ⟨formed.next_lt, ?_⟩
  have := formed.count_le
  rw [push_count, push_bufferCount]
  split <;> omega

theorem push_count_ne_zero (formed : ring.WellFormed) : (ring.push value).count ≠ 0 := by
  have := formed.tail_lt
  rw [push_count]
  split <;> omega

@[simp] theorem newest_push : (ring.push value).newest = value := by
  change (ring.store value).newest = value
  exact newest_store

theorem recent_push (formed : ring.WellFormed) :
    (ring.push value).recent = (value :: ring.recent).take ring.bufferCount := by
  have inside := formed.tail_lt
  have counted := formed.count_le
  apply List.ext_getElem
  · rw [length_recent, push_count, List.length_take, List.length_cons, length_recent]
    split <;> omega
  intro age young _
  rw [length_recent] at young
  have bounded : (ring.push value).count ≤ ring.bufferCount := formed.push.count_le
  simp only [recent, List.getElem_map, List.getElem_range, List.getElem_take]
  cases age with
  | zero =>
      rw [slot_zero formed.push.tail_lt, List.getElem_cons_zero]
      exact newest_push
  | succ age =>
      rw [List.getElem_cons_succ, List.getElem_map, List.getElem_range]
      exact storage_store formed (Nat.lt_of_lt_of_le young bounded)

theorem increasing_iff {key : sample → Nat} :
    ring.Increasing key ↔ ring.recent.Pairwise fun newer older => key older < key newer := by
  rw [Increasing, history, List.map_reverse, List.pairwise_reverse, List.pairwise_map]

theorem increasing_push {key : sample → Nat} (formed : ring.WellFormed)
    (increasing : ring.Increasing key)
    (larger : ring.count ≠ 0 → key ring.newest < key value) :
    (ring.push value).Increasing key := by
  rw [increasing_iff] at increasing ⊢
  rw [recent_push formed]
  refine List.Pairwise.take (List.pairwise_cons.mpr ⟨?_, increasing⟩)
  intro older member
  have filled : ring.count ≠ 0 := by
    intro empty
    simp [recent, empty] at member
  obtain ⟨rest, shape⟩ := recent_eq_cons formed filled
  rw [shape] at increasing member
  rcases List.mem_cons.mp member with here | later
  · exact here ▸ larger filled
  · exact Nat.lt_trans ((List.pairwise_cons.mp increasing).1 older later) (larger filled)

theorem newest_lt_of_increasing_push {key : sample → Nat} (formed : ring.WellFormed)
    (roomy : 2 ≤ ring.bufferCount) (filled : ring.count ≠ 0)
    (increasing : (ring.push value).Increasing key) : key ring.newest < key value := by
  obtain ⟨rest, shape⟩ := recent_eq_cons formed filled
  obtain ⟨fewer, size⟩ := Nat.exists_eq_add_of_le' roomy
  rw [increasing_iff, recent_push formed, shape, size, List.take_succ_cons, List.take_succ_cons]
    at increasing
  exact (List.pairwise_cons.mp increasing).1 _ List.mem_cons_self

/-! Stores one after the other leave the samples before them in place until the ring is full. -/

def storeAll (ring : RingBuffer sample) (values : List sample) : RingBuffer sample :=
  values.foldl store ring

theorem WellFormed.storeAll (formed : ring.WellFormed) (values : List sample) :
    (ring.storeAll values).WellFormed := by
  induction values generalizing ring with
  | nil => exact formed
  | cons value rest ih => exact ih formed.store

@[simp] theorem storeAll_bufferCount (values : List sample) :
    (ring.storeAll values).bufferCount = ring.bufferCount := by
  induction values generalizing ring with
  | nil => rfl
  | cons value rest ih => exact ih

@[simp] theorem storeAll_count (values : List sample) :
    (ring.storeAll values).count = ring.count := by
  induction values generalizing ring with
  | nil => rfl
  | cons value rest ih => exact ih

theorem tail_storeAll (formed : ring.WellFormed) (values : List sample) :
    (ring.storeAll values).tail = (ring.tail + values.length) % ring.bufferCount := by
  induction values generalizing ring with
  | nil => exact (Nat.mod_eq_of_lt formed.tail_lt).symm
  | cons value rest ih =>
      rw [storeAll, List.foldl_cons, ← storeAll, ih formed.store, store_tail,
        next_eq_mod formed.tail_lt, store_bufferCount, Nat.mod_add_mod, List.length_cons]
      congr 1
      omega

theorem storage_storeAll (formed : ring.WellFormed) {age : Nat} (values : List sample)
    (young : age + values.length < ring.bufferCount) :
    (ring.storeAll values).storage (ring.slot age) = ring.storage (ring.slot age) := by
  induction values generalizing ring age with
  | nil => rfl
  | cons value rest ih =>
      rw [List.length_cons] at young
      have younger : age + 1 + rest.length < (ring.store value).bufferCount := by
        rw [store_bufferCount]
        omega
      have kept := ih formed.store younger
      rw [storage_store formed (by omega), slot_store formed (by omega)] at kept
      exact kept

theorem storage_tail_storeAll (formed : ring.WellFormed) (values : List sample)
    (few : values.length < ring.bufferCount) :
    (ring.storeAll values).storage ring.tail = ring.newest := by
  have young : 0 + values.length < ring.bufferCount := by omega
  have kept := storage_storeAll formed values young
  rwa [slot_zero formed.tail_lt] at kept

theorem newest_storeAll (values : List sample) :
    (ring.storeAll values).newest = values.getLast?.getD ring.newest := by
  induction values generalizing ring with
  | nil => rfl
  | cons value rest ih =>
      rw [storeAll, List.foldl_cons, ← storeAll, ih, newest_store, List.getLast?_cons]
      rfl

end RingBuffer

end SysCon.Library
