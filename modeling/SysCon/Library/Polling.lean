import Mathlib.Data.List.Basic
import Mathlib.Data.Nat.Find

/-!
Asking again and again. A loop that reads as long as the items say so ends
exactly when one of them stops it. A round robin over some places serves in each
round the first ready place from its cursor on, so no place that stays ready is
passed over for long.
-/

namespace SysCon.Library

section ReadLoop

variable {state item : Type*}

/-- The number of reads when the loop ends, and the state that it leaves; `none` when `fuel` reads
were not enough. -/
def readWhile (continues : item → Bool) (use : state → item → state) (items : Nat → item) :
    (fuel reads : Nat) → state → Option (Nat × state)
  | 0, _, _ => none
  | fuel + 1, reads, current =>
      let next := use current (items reads)
      if continues (items reads) then readWhile continues use items fuel (reads + 1) next
      else some (reads + 1, next)

variable {continues : item → Bool} {use : state → item → state} {items : Nat → item}

theorem readWhile_stopped {fuel reads : Nat} {current : state} {ended : Nat × state}
    (finished : readWhile continues use items fuel reads current = some ended) :
    ∃ read, continues (items (reads + read)) = false ∧ ended.1 = reads + read + 1 := by
  induction fuel generalizing reads current with
  | zero => simp [readWhile] at finished
  | succ fuel ih =>
      rw [readWhile] at finished
      cases goesOn : continues (items reads) with
      | true =>
          rw [goesOn] at finished
          obtain ⟨read, stops, count⟩ := ih finished
          refine ⟨read + 1, ?_, by omega⟩
          rw [← stops]
          congr 2
          omega
      | false =>
          simp only [goesOn, Bool.false_eq_true, if_false, Option.some.injEq] at finished
          exact ⟨0, goesOn, finished ▸ rfl⟩

theorem readWhile_isSome {read fuel reads : Nat} (current : state)
    (stops : continues (items (reads + read)) = false) (enough : read < fuel) :
    (readWhile continues use items fuel reads current).isSome := by
  induction fuel generalizing read reads current with
  | zero => omega
  | succ fuel ih =>
      rw [readWhile]
      cases goesOn : continues (items reads) with
      | false => simp
      | true =>
          have later : read ≠ 0 := by
            rintro rfl
            simp [goesOn] at stops
          have ahead : continues (items (reads + 1 + (read - 1))) = false := by
            rw [← stops]
            congr 2
            omega
          exact ih _ ahead (by omega)

/-- The loop ends exactly when some item stops it. -/
theorem readWhile_ends_iff (reads : Nat) (current : state) :
    (∃ fuel, (readWhile continues use items fuel reads current).isSome) ↔
      ∃ read, continues (items (reads + read)) = false := by
  constructor
  · rintro ⟨fuel, finished⟩
    obtain ⟨ended, finished⟩ := Option.isSome_iff_exists.mp finished
    obtain ⟨read, stops, _⟩ := readWhile_stopped finished
    exact ⟨read, stops⟩
  · rintro ⟨read, stops⟩
    exact ⟨read + 1, readWhile_isSome current stops (Nat.lt_succ_self read)⟩

end ReadLoop

/-! Round robin over `count` places. The distance of a place from the cursor shrinks as long as the
place is ready and not served. -/

theorem exists_distance (cursor : Nat) {count place : Nat} (listed : place < count) :
    ∃ distance < count, (cursor + distance) % count = place := by
  have start : cursor % count < count := Nat.mod_lt _ (by omega)
  refine ⟨(place + (count - cursor % count)) % count, Nat.mod_lt _ (by omega), ?_⟩
  rw [Nat.add_mod_mod, ← Nat.mod_add_mod]
  rw [show cursor % count + (place + (count - cursor % count)) = place + count by omega,
    Nat.add_mod_right, Nat.mod_eq_of_lt listed]

def FirstReady (count cursor : Nat) (ready : Nat → Prop) (served : Nat) : Prop :=
  ∃ distance < count, (cursor + distance) % count = served ∧ ready served ∧
    ∀ nearer < distance, ¬ready ((cursor + nearer) % count)

theorem exists_firstReady (cursor : Nat) {count place : Nat} {ready : Nat → Prop}
    (listed : place < count) (waits : ready place) :
    ∃ served, FirstReady count cursor ready served := by
  classical
  obtain ⟨distance, bound, apart⟩ := exists_distance cursor listed
  have found : ∃ distance, ready ((cursor + distance) % count) := ⟨distance, apart ▸ waits⟩
  have nearest : Nat.find found ≤ distance := Nat.find_min' found (apart ▸ waits)
  exact ⟨_, Nat.find found, by omega, rfl, Nat.find_spec found, fun _ => Nat.find_min found⟩

theorem FirstReady.served_or_nearer {count cursor served distance : Nat} {ready : Nat → Prop}
    (first : FirstReady count cursor ready served) {place : Nat} (waits : ready place)
    (apart : (cursor + distance) % count = place) :
    served = place ∨ ∃ nearer < distance, ((served + 1) % count + nearer) % count = place := by
  obtain ⟨skipped, _, reached, _, unready⟩ := first
  rcases Nat.lt_trichotomy skipped distance with before | same | behind
  · right
    refine ⟨distance - skipped - 1, by omega, ?_⟩
    rw [← reached, Nat.mod_add_mod, Nat.add_assoc, Nat.mod_add_mod, ← apart]
    congr 1
    omega
  · left
    rw [← reached, same, apart]
  · exact absurd (apart ▸ waits) (unready distance behind)

/-- The rounds of a schedule, each with the places that were ready and the one that was served. -/
inductive RoundRobin (count : Nat) : Nat → List ((Nat → Prop) × Nat) → Prop
  | nil (cursor) : RoundRobin count cursor []
  | cons {cursor ready served rounds} : FirstReady count cursor ready served →
      RoundRobin count ((served + 1) % count) rounds →
      RoundRobin count cursor ((ready, served) :: rounds)

namespace RoundRobin

variable {count cursor place : Nat} {rounds : List ((Nat → Prop) × Nat)}

theorem serves_within {distance : Nat} (schedule : RoundRobin count cursor rounds)
    (apart : (cursor + distance) % count = place) (enough : distance < rounds.length)
    (waits : ∀ round ∈ rounds, round.1 place) : ∃ round ∈ rounds, round.2 = place := by
  induction schedule generalizing distance with
  | nil _ => simp at enough
  | @cons cursor ready served rounds first _ ih =>
      obtain ⟨waitsNow, waitsLater⟩ := List.forall_mem_cons.mp waits
      rcases first.served_or_nearer waitsNow apart with here | ⟨nearer, closer, ahead⟩
      · exact ⟨_, List.mem_cons_self, here⟩
      · have fewer : nearer < rounds.length := by
          rw [List.length_cons] at enough
          omega
        obtain ⟨round, member, found⟩ := ih ahead fewer waitsLater
        exact ⟨round, List.mem_cons_of_mem _ member, found⟩

/-- A place that is ready in `count` rounds in a row is served in one of them. -/
theorem serves (schedule : RoundRobin count cursor rounds) (listed : place < count)
    (enough : count ≤ rounds.length) (waits : ∀ round ∈ rounds, round.1 place) :
    ∃ round ∈ rounds, round.2 = place := by
  obtain ⟨distance, bound, apart⟩ := exists_distance cursor listed
  exact schedule.serves_within apart (by omega) waits

end RoundRobin

end SysCon.Library
