import SysCon.Sysmodule.ThreadSteps

/-!
When the threads block each other for good. The discovery thread waits for
`controllerMutex` while it holds `usbMutex`; a remover needs `usbMutex` for
every handler that it destroys under `controllerMutex`. In a run in which these
two never meet, the points of the threads have a rank that drops along every
wait.
-/

namespace SysCon.Threads

open Library

/-- The mutexes say what the points of the threads say. -/
structure Locking (state : State) : Prop where
  disciplined : Disciplined state.locks state.held
  unborn : Unborn state

structure Consistent (state : State) : Prop where
  disciplined : Disciplined state.locks state.held
  born : Born state

theorem Consistent.locking {state : State} (consistent : Consistent state) : Locking state :=
  ⟨consistent.disciplined, consistent.born.toUnborn⟩

theorem consistent_start : Consistent {} := by
  refine ⟨?_, ⟨fun _ _ => rfl, ?_⟩, ?_, ?_⟩
  · intro member which
    cases member <;> cases which <;> rfl
  · intro handler creates
    exact absurd creates (by simp [DiscoveryPoint.creating])
  · intro handler discards
    exact absurd discards (by simp)
  · intro id created
    exact absurd created (by simp)

section Step

variable {state next : State} {op : LockOp Lock} {locks : Lock → Mutex Thread}

theorem Locking.discovery {choice : Choice} (locking : Locking state)
    (spec : DiscoverySpec state choice op next)
    (applied : op.apply Lock.recursive state.locks .discovery = some locks) :
    Locking { next with locks } := by
  obtain ⟨unborn, creating⟩ := spec.unborn
  refine ⟨locking.disciplined.apply applied spec.held ?_, unborn, creating⟩
  intro other foreign
  cases other with
  | discovery => exact absurd rfl foreign
  | remover which => exact congrArg (fun point => (point which).held) spec.remover
  | input handler => exact spec.inputHeld handler

theorem Locking.remover {which : Remover} (locking : Locking state)
    (spec : RemoverSpec state which op next)
    (applied : op.apply Lock.recursive state.locks (.remover which) = some locks) :
    Locking { next with locks } := by
  refine ⟨locking.disciplined.apply applied spec.held ?_, ?_⟩
  · intro other foreign
    cases other with
    | discovery => exact congrArg DiscoveryPoint.held spec.discovery
    | remover another =>
        have different : another ≠ which := fun same => foreign (congrArg Thread.remover same)
        exact congrArg RemoverPoint.held (spec.others another different)
    | input handler => exact congrArg (fun point => (point handler).held) spec.input
  · obtain ⟨unborn, creating⟩ := locking.unborn
    rw [← spec.fresh, ← spec.input] at unborn
    rw [← spec.fresh, ← spec.input, ← spec.discovery] at creating
    exact ⟨unborn, creating⟩

/-- A thread that takes a step is none of those that do not exist or did not start. -/
theorem InputSpec.still {handler : Nat} (spec : InputSpec state handler op next) {id : Nat}
    {point : InputPoint} (silent : point = .absent ∨ point = .created)
    (here : state.input id = point) : next.input id = point := by
  obtain ⟨notAbsent, notCreated⟩ := spec.alive
  have other : id ≠ handler := by
    rintro rfl
    rcases silent with rfl | rfl
    · exact notAbsent here
    · exact notCreated here
  rw [spec.others id other, here]

theorem Locking.input {handler : Nat} (locking : Locking state)
    (spec : InputSpec state handler op next)
    (applied : op.apply Lock.recursive state.locks (.input handler) = some locks) :
    Locking { next with locks } := by
  refine ⟨locking.disciplined.apply applied spec.held ?_, ?_, ?_⟩
  · intro other foreign
    cases other with
    | discovery => exact congrArg DiscoveryPoint.held spec.discovery
    | remover which => exact congrArg (fun point => (point which).held) spec.remover
    | input another =>
        have different : another ≠ handler := fun same => foreign (congrArg Thread.input same)
        exact congrArg InputPoint.held (spec.others another different)
  · intro id later
    rw [spec.fresh] at later
    exact spec.still (Or.inl rfl) (locking.unborn.unborn id later)
  · intro created creates
    rw [spec.discovery] at creates
    obtain ⟨known, absent⟩ := locking.unborn.creating created creates
    rw [spec.fresh]
    exact ⟨known, spec.still (Or.inl rfl) absent⟩

theorem Locking.step {action : Thread × Choice} (locking : Locking state)
    (stepped : Steps state action next) : Locking next := by
  obtain ⟨caller, choice⟩ := action
  obtain ⟨op, moved, locks, moves, applied, rfl⟩ := steps_iff.mp stepped
  cases caller with
  | discovery => exact locking.discovery (discoveryMove_spec locking.unborn moves) applied
  | remover which => exact locking.remover (removerMove_spec moves) applied
  | input handler => exact locking.input (inputMove_spec moves) applied

/-- Two threads are not inside the same lock. -/
theorem Locking.exclusive (locking : Locking state) {which : Lock} {caller other : Thread}
    (holds : 0 < state.held caller which) (foreign : caller ≠ other) :
    state.held other which = 0 := by
  rw [← locking.disciplined] at holds ⊢
  exact Mutex.depth_eq_zero holds foreign

theorem Born.remover {which : Remover} (born : Born state) (unborn : Unborn next)
    (spec : RemoverSpec state which op next) : Born next := by
  refine { unborn with discarding := ?_, unstarted := ?_ }
  · rw [spec.input, spec.discovery]
    exact born.discarding
  · rw [spec.input, spec.discovery]
    exact born.unstarted

theorem Born.input {handler : Nat} (born : Born state) (unborn : Unborn next)
    (spec : InputSpec state handler op next) : Born next := by
  refine { unborn with discarding := ?_, unstarted := ?_ }
  · intro discarded discards
    rw [spec.discovery] at discards
    rcases born.discarding discarded discards with absent | created
    · exact Or.inl (spec.still (Or.inl rfl) absent)
    · exact Or.inr (spec.still (Or.inr rfl) created)
  · intro id created
    have other : id ≠ handler := by
      rintro rfl
      exact spec.started created
    obtain ⟨discarded, waits, same⟩ :=
      born.unstarted id ((spec.others id other).symm.trans created)
    exact ⟨discarded, spec.discovery.trans waits, same⟩

theorem Consistent.step {action : Thread × Choice} (consistent : Consistent state)
    (stepped : Steps state action next) : Consistent next := by
  have locking := consistent.locking.step stepped
  obtain ⟨caller, choice⟩ := action
  obtain ⟨op, moved, locks, moves, applied, rfl⟩ := steps_iff.mp stepped
  have unborn : Unborn moved := ⟨locking.unborn.unborn, locking.unborn.creating⟩
  suffices born : Born moved from
    ⟨locking.disciplined, locking.unborn, born.discarding, born.unstarted⟩
  cases caller with
  | discovery => exact (discoveryMove_spec consistent.born.toUnborn moves).born consistent.born
  | remover which => exact consistent.born.remover unborn (removerMove_spec moves)
  | input handler => exact consistent.born.input unborn (inputMove_spec moves)

end Step

/-! The condition on the steps, and what it keeps apart. -/

/-- A remover has interfaces left to close. -/
def State.closing (state : State) : Bool :=
  (state.remover .change).needsUsb || (state.remover .power).needsUsb

/-- The discovery thread does not come to `controllerMutex` while a remover that has it is still
closing interfaces, and no remover takes it to destroy handlers while the discovery thread waits. -/
def Orderly (state : State) : Thread × Choice → Prop
  | (.discovery, choice) => reachesControllers state choice = true → state.closing = false
  | (.remover which, _) =>
      state.discovery.atControllers = true → state.handlersToDestroy which = []
  | (.input _, _) => True

instance (state : State) (action : Thread × Choice) : Decidable (Orderly state action) :=
  match action with
  | (.discovery, choice) =>
      inferInstanceAs
        (Decidable (reachesControllers state choice = true → state.closing = false))
  | (.remover which, _) =>
      inferInstanceAs
        (Decidable (state.discovery.atControllers = true → state.handlersToDestroy which = []))
  | (.input _, _) => inferInstanceAs (Decidable True)

def Apart (state : State) : Prop :=
  state.discovery.atControllers = true → ∀ which, (state.remover which).needsUsb = false

theorem closing_eq_false {state : State} :
    state.closing = false ↔ ∀ which, (state.remover which).needsUsb = false := by
  unfold State.closing
  rw [Bool.or_eq_false_iff]
  constructor
  · rintro ⟨change, power⟩ which
    cases which
    · exact change
    · exact power
  · intro quiet
    exact ⟨quiet .change, quiet .power⟩

theorem Apart.step {state next : State} {action : Thread × Choice} (consistent : Consistent state)
    (apart : Apart state) (orderly : Orderly state action) (stepped : Steps state action next) :
    Apart next := by
  obtain ⟨caller, choice⟩ := action
  obtain ⟨op, moved, locks, moves, applied, rfl⟩ := steps_iff.mp stepped
  intro waits other
  cases caller with
  | discovery =>
      have spec := discoveryMove_spec consistent.born.toUnborn moves
      have quiet := closing_eq_false.mp (orderly (spec.reaches waits)) other
      rw [← spec.remover] at quiet
      exact quiet
  | remover which =>
      have spec := removerMove_spec moves
      have waiting : state.discovery.atControllers = true := by
        rw [← spec.discovery]
        exact waits
      by_cases own : other = which
      · rw [own]
        exact spec.needsUsb (apart waiting which) (orderly waiting)
      · have quiet := apart waiting other
        rw [← spec.others other own] at quiet
        exact quiet
  | input handler =>
      have spec := inputMove_spec moves
      have quiet := apart (by rw [← spec.discovery]; exact waits) other
      rw [← spec.remover] at quiet
      exact quiet

/-! The rank of a thread: how far along a chain of waits it can stand. -/

def DiscoveryPoint.rank : DiscoveryPoint → Nat
  | .atUsb | .atLimit | .atInsert _ | .exitThread _ => 1
  | .waitObjects | .working _ _ | .atNested _ _ | .limit | .inserting _ | .leaving => 0

def RemoverPoint.rank : RemoverPoint → Nat
  | .atQuery | .removing (.atUsb _ _ _ 0) => 2
  | .removing (.exitThread _ _) => 3
  | .atControllers _ => 4
  | _ => 0

def InputPoint.rank : InputPoint → Nat
  | .atUsb => 2
  | _ => 0

def State.rank (state : State) : Thread → Nat
  | .discovery => state.discovery.rank
  | .remover which => (state.remover which).rank
  | .input handler => (state.input handler).rank

theorem DiscoveryPoint.rank_le (point : DiscoveryPoint) : point.rank ≤ 1 := by
  cases point <;> simp [DiscoveryPoint.rank]

theorem InputPoint.rank_le (point : InputPoint) : point.rank ≤ 2 := by
  cases point <;> simp [InputPoint.rank]

/-- Who holds `usbMutex` waits at most for `controllerMutex`. -/
theorem RemoverPoint.rank_of_holds_usb {point : RemoverPoint} (holds : 0 < point.held .usbMutex) :
    point.rank = 0 := by
  cases point with
  | removing removal =>
      cases removal with
      | atUsb handler toClose later nested =>
          cases nested with
          | zero => exact absurd holds (Nat.lt_irrefl 0)
          | succ nested => rfl
      | inUsb handler toClose later nested => rfl
      | _ => exact absurd holds (Nat.lt_irrefl 0)
  | querying => rfl
  | _ => exact absurd holds (Nat.lt_irrefl 0)

theorem InputPoint.rank_of_holds_usb {point : InputPoint} (holds : 0 < point.held .usbMutex) :
    point.rank = 0 := by
  cases point with
  | inUsb => rfl
  | _ => exact absurd holds (Nat.lt_irrefl 0)

theorem DiscoveryPoint.rank_of_holds_controllers {point : DiscoveryPoint}
    (holds : 0 < point.held .controllerMutex) : point.rank = 0 := by
  cases point with
  | limit => rfl
  | inserting handler => rfl
  | _ => exact absurd holds (Nat.lt_irrefl 0)

theorem RemoverPoint.rank_of_holds_controllers {point : RemoverPoint}
    (holds : 0 < point.held .controllerMutex) :
    point.rank ≤ 3 ∧ (point.needsUsb = false → point.rank = 0) := by
  cases point with
  | removing removal =>
      cases removal with
      | next doomed => exact ⟨Nat.zero_le 3, fun _ => rfl⟩
      | atUsb handler toClose later nested =>
          cases nested <;> simp [RemoverPoint.rank, needsUsb, Removal.needsUsb]
      | _ => simp [RemoverPoint.rank, needsUsb, Removal.needsUsb]
  | _ => exact absurd holds (Nat.lt_irrefl 0)

theorem InputPoint.held_controllers (point : InputPoint) : point.held .controllerMutex = 0 := by
  cases point <;> rfl

section Rank

variable {state : State}

theorem rank_of_holds_usb {caller : Thread} (holds : 0 < state.held caller .usbMutex) :
    state.rank caller ≤ 1 ∧ (caller ≠ .discovery → state.rank caller = 0) := by
  cases caller with
  | discovery => exact ⟨state.discovery.rank_le, fun foreign => absurd rfl foreign⟩
  | remover which =>
      have still : state.rank (.remover which) = 0 := RemoverPoint.rank_of_holds_usb holds
      exact ⟨by omega, fun _ => still⟩
  | input handler =>
      have still : state.rank (.input handler) = 0 := InputPoint.rank_of_holds_usb holds
      exact ⟨by omega, fun _ => still⟩

theorem rank_of_holds_controllers {caller : Thread}
    (holds : 0 < state.held caller .controllerMutex) :
    state.rank caller ≤ 3 ∧
      ((∀ which, (state.remover which).needsUsb = false) → state.rank caller = 0) := by
  cases caller with
  | discovery =>
      have still : state.rank .discovery = 0 := DiscoveryPoint.rank_of_holds_controllers holds
      exact ⟨by omega, fun _ => still⟩
  | remover which =>
      obtain ⟨bound, still⟩ := RemoverPoint.rank_of_holds_controllers holds
      exact ⟨bound, fun quiet => still (quiet which)⟩
  | input handler =>
      have none : state.held (.input handler) .controllerMutex = 0 :=
        (state.input handler).held_controllers
      omega

theorem rank_drops_at_usb {waiting waited : Thread}
    (wants : state.wants waiting = .lock .usbMutex) (holds : 0 < state.held waited .usbMutex)
    (free : state.held waiting .usbMutex = 0) : state.rank waited < state.rank waiting := by
  obtain ⟨bound, still⟩ := rank_of_holds_usb holds
  cases waiting with
  | discovery =>
      have foreign : waited ≠ .discovery := by
        rintro rfl
        omega
      have rank : state.rank .discovery = 1 := by
        simp only [State.wants, State.held, State.rank] at wants free ⊢
        cases point : state.discovery with
        | atUsb => rfl
        | atNested work nested =>
            rw [point] at free
            exact absurd free (Nat.succ_ne_zero nested)
        | _ => simp [point, DiscoveryPoint.wants] at wants
      rw [still foreign, rank]
      exact Nat.one_pos
  | remover which =>
      have rank : state.rank (.remover which) = 2 := by
        simp only [State.wants, State.held, State.rank] at wants free ⊢
        cases point : state.remover which with
        | atQuery => rfl
        | removing removal =>
            rw [point] at wants free
            cases removal with
            | atUsb handler toClose later nested =>
                cases nested with
                | zero => rfl
                | succ nested => exact absurd free (Nat.succ_ne_zero nested)
            | _ => simp [RemoverPoint.wants] at wants
        | _ => simp [point, RemoverPoint.wants] at wants
      omega
  | input handler =>
      have rank : state.rank (.input handler) = 2 := by
        simp only [State.wants, State.rank] at wants ⊢
        cases point : state.input handler with
        | atUsb => rfl
        | _ => simp [point, InputPoint.wants] at wants
      omega

theorem rank_drops_at_controllers (apart : Apart state) {waiting waited : Thread}
    (wants : state.wants waiting = .lock .controllerMutex)
    (holds : 0 < state.held waited .controllerMutex) :
    state.rank waited < state.rank waiting := by
  obtain ⟨bound, still⟩ := rank_of_holds_controllers holds
  cases waiting with
  | discovery =>
      have both : state.discovery.atControllers = true ∧ state.rank .discovery = 1 := by
        simp only [State.wants, State.rank] at wants ⊢
        cases point : state.discovery with
        | atLimit => exact ⟨rfl, rfl⟩
        | atInsert handler => exact ⟨rfl, rfl⟩
        | _ => simp [point, DiscoveryPoint.wants] at wants
      rw [still (apart both.1), both.2]
      exact Nat.one_pos
  | remover which =>
      have rank : state.rank (.remover which) = 4 := by
        simp only [State.wants, State.rank] at wants ⊢
        cases point : state.remover which with
        | atControllers removes => rfl
        | removing removal =>
            rw [point] at wants
            cases removal <;> simp [RemoverPoint.wants] at wants
        | _ => simp [point, RemoverPoint.wants] at wants
      omega
  | input handler =>
      simp only [State.wants] at wants
      cases point : state.input handler <;> simp [point, InputPoint.wants] at wants

theorem rank_drops_at_exit (consistent : Consistent state) {waiting awaited : Thread}
    (wants : state.wants waiting = .exit awaited) (running : ¬state.ended awaited) :
    state.rank awaited < state.rank waiting := by
  cases waiting with
  | discovery =>
      simp only [State.wants] at wants
      cases point : state.discovery with
      | exitThread handler =>
          simp only [point, DiscoveryPoint.wants, Want.exit.injEq] at wants
          subst wants
          have rank : state.rank .discovery = 1 := by rw [State.rank, point]; rfl
          rcases consistent.born.discarding handler point with absent | created
          · exact absurd (by rw [State.ended, absent]; rfl) running
          · rw [rank, State.rank, created]
            exact Nat.one_pos
      | _ => simp [point, DiscoveryPoint.wants] at wants
  | remover which =>
      simp only [State.wants] at wants
      cases point : state.remover which with
      | removing removal =>
          rw [point] at wants
          cases removal with
          | exitThread handler later =>
              simp only [RemoverPoint.wants, Want.exit.injEq] at wants
              subst wants
              have rank : state.rank (.remover which) = 3 := by rw [State.rank, point]; rfl
              have bound : state.rank (.input handler.id) ≤ 2 :=
                (state.input handler.id).rank_le
              omega
          | _ => simp [RemoverPoint.wants] at wants
      | _ => simp [point, RemoverPoint.wants] at wants
  | input handler =>
      simp only [State.wants] at wants
      cases point : state.input handler <;> simp [point, InputPoint.wants] at wants

theorem not_deadlocked (consistent : Consistent state) (apart : Apart state) :
    ¬Deadlocked state.waits := by
  refine consistent.disciplined.not_deadlocked state.rank ?_ ?_
  · intro waiting which waited wants holds free
    cases which with
    | usbMutex => exact rank_drops_at_usb wants holds (free rfl)
    | controllerMutex => exact rank_drops_at_controllers apart wants holds
  · intro waiting awaited wants running
    exact rank_drops_at_exit consistent wants running

end Rank

/-- No run whose steps are all orderly reaches a deadlock. -/
theorem not_deadlocked_of_orderly {actions : List (Thread × Choice)} {state : State}
    (run : Run (Guarded Orderly Steps) {} actions state) : ¬Deadlocked state.waits := by
  have kept : (fun current => Consistent current ∧ Apart current) state := by
    apply run.invariant
    · refine ⟨consistent_start, ?_⟩
      intro waits
      exact absurd waits (by decide)
    · intro current action next inv stepped
      obtain ⟨consistent, apart⟩ := inv
      obtain ⟨orderly, steps⟩ := stepped
      exact ⟨consistent.step steps, apart.step consistent orderly steps⟩
  exact not_deadlocked kept.1 kept.2

/-! A controller is plugged in, another one replaces it. -/

def quiet : Choice := {}

def plugIn : List (Thread × Choice) :=
  [(.discovery, quiet), (.discovery, quiet), (.discovery, { interfacesAvailable := true }),
    (.discovery, quiet), (.discovery, { device := (1, []) }),
    (.discovery, { initThread := .started }), (.discovery, quiet), (.discovery, quiet),
    (.discovery, quiet)]

/-- Its removal: the input thread makes another USB call before it ends. -/
def unplug : List (Thread × Choice) :=
  [(.remover .change, quiet), (.remover .change, quiet), (.remover .change, quiet),
    (.remover .change, quiet), (.input 0, { usbCall := true }), (.remover .change, quiet),
    (.input 0, quiet), (.input 0, quiet), (.input 0, quiet), (.remover .change, quiet),
    (.remover .change, quiet), (.remover .change, quiet), (.remover .change, quiet),
    (.remover .change, quiet), (.remover .change, quiet)]

def unplugged : State := ((plugIn ++ unplug).foldlM step {}).getD {}

theorem unplugged_not_deadlocked :
    unplugged.controllerHandlers = [] ∧ ¬Deadlocked unplugged.waits := by
  have run : Run (Guarded Orderly Steps) {} (plugIn ++ unplug) unplugged := by
    apply Run.of_foldlM_guarded
    rfl
  exact ⟨rfl, not_deadlocked_of_orderly run⟩

/-- Both threads that notice the change are under way at the same time. -/
def exchange : List (Thread × Choice) :=
  plugIn ++
    [(.remover .change, quiet), (.remover .change, quiet), (.remover .change, quiet),
      (.discovery, quiet), (.discovery, quiet), (.discovery, { interfacesAvailable := true }),
      (.remover .change, quiet), (.remover .change, quiet), (.input 0, quiet),
      (.remover .change, quiet), (.remover .change, quiet)]

theorem exchange_deadlocks :
    ¬∀ actions state, Run Steps {} actions state → ¬Deadlocked state.waits := by
  intro always
  have finished : ∃ state, exchange.foldlM step {} = some state ∧
      state.waits .discovery (.remover .change) ∧ state.waits (.remover .change) .discovery :=
    ⟨(exchange.foldlM step {}).getD {}, rfl, Waits.lock (by rfl) (by decide) (by decide),
      Waits.lock (by rfl) (by decide) (by decide)⟩
  obtain ⟨state, reached, forth, back⟩ := finished
  exact always exchange state (Run.of_foldlM_some reached)
    ⟨.discovery, .tail (.single forth) back⟩

end SysCon.Threads
