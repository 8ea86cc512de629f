import SysCon.Sysmodule.Deadlock

/-!
What the condition on the steps excludes. Once the discovery thread waits for
`controllerMutex` and the remover that has it still has interfaces to close, a
deadlock can be reached; so every step that is not orderly leads to one.
-/

namespace SysCon.Threads

open Library

def LeadsToDeadlock (state : State) : Prop :=
  ∃ actions last, Run Steps state actions last ∧ Deadlocked last.waits

theorem LeadsToDeadlock.before {state next : State} {action : Thread × Choice}
    (stepped : Steps state action next) (later : LeadsToDeadlock next) :
    LeadsToDeadlock state := by
  obtain ⟨actions, last, run, deadlocked⟩ := later
  exact ⟨action :: actions, last, .cons stepped run, deadlocked⟩

theorem LeadsToDeadlock.here {state : State} (deadlocked : Deadlocked state.waits) :
    LeadsToDeadlock state :=
  ⟨[], state, .nil state, deadlocked⟩

theorem DiscoveryPoint.waits_of_atControllers {point : DiscoveryPoint}
    (waits : point.atControllers = true) :
    point.wants = .lock .controllerMutex ∧ point.held .usbMutex = 1 := by
  cases point with
  | atLimit => exact ⟨rfl, rfl⟩
  | atInsert handler => exact ⟨rfl, rfl⟩
  | _ => exact Bool.noConfusion waits

theorem Removal.held_controllers (removal : Removal) : removal.held .controllerMutex = 1 := by
  cases removal <;> rfl

/-- The discovery thread waits for `controllerMutex`, which a remover has. -/
structure Meeting (state : State) (which : Remover) (removal : Removal) : Prop where
  consistent : Consistent state
  waits : state.discovery.atControllers = true
  removing : state.remover which = .removing removal

namespace Meeting

variable {state next : State} {which : Remover} {removal later : Removal} {choice : Choice}

theorem discoveryHolds (meeting : Meeting state which removal) :
    0 < (state.locks .usbMutex).depth .discovery := by
  rw [meeting.consistent.disciplined, State.held,
    (DiscoveryPoint.waits_of_atControllers meeting.waits).2]
  exact Nat.one_pos

theorem discoveryWaits (meeting : Meeting state which removal) :
    state.waits .discovery (.remover which) := by
  refine Waits.lock (DiscoveryPoint.waits_of_atControllers meeting.waits).1 ?_ (by simp)
  rw [meeting.consistent.disciplined, State.held, meeting.removing, RemoverPoint.held,
    removal.held_controllers]
  exact Nat.one_pos

theorem waitsForDiscovery (meeting : Meeting state which removal) {caller : Thread}
    (wants : state.wants caller = .lock .usbMutex) (foreign : caller ≠ .discovery) :
    state.waits caller .discovery :=
  Waits.lock wants meeting.discoveryHolds (Ne.symm foreign)

theorem held_usb (meeting : Meeting state which removal) (caller : Thread)
    (foreign : caller ≠ .discovery) : state.held caller .usbMutex = 0 := by
  rw [← meeting.consistent.disciplined]
  exact Mutex.depth_eq_zero meeting.discoveryHolds (Ne.symm foreign)

theorem goesOn (meeting : Meeting state which removal)
    (moves : removalMove state which choice removal = some (.stay, next))
    (locks : next.locks = state.locks) (removing : next.remover which = .removing later) :
    Steps state (.remover which, choice) next ∧ Meeting next which later := by
  have moved : removerMove state which choice = some (.stay, next) := by
    unfold removerMove
    simp only [meeting.removing]
    exact moves
  have stepped : Steps state (.remover which, choice) next := steps_stay moved locks
  refine ⟨stepped, meeting.consistent.step stepped, ?_, removing⟩
  rw [(removerMove_spec moved).discovery]
  exact meeting.waits

theorem atUsb_deadlocks {handler : Handler} {toClose : List Int} {later : List Handler}
    {nested : Nat} (meeting : Meeting state which (.atUsb handler toClose later nested)) :
    LeadsToDeadlock state := by
  have back : state.waits (.remover which) .discovery := by
    apply meeting.waitsForDiscovery
    · rw [State.wants, meeting.removing]
      rfl
    · simp
  exact .here ⟨.discovery, .tail (.single meeting.discoveryWaits) back⟩

theorem exiting_deadlocks {handler : Handler} {interface : Int} {rest : List Int}
    {later : List Handler}
    (meeting : Meeting state which (.exiting handler (interface :: rest) later)) :
    LeadsToDeadlock state := by
  obtain ⟨stepped, meets⟩ := meeting.goesOn
    (show removalMove state which {} _ = some (.stay, state.goto which
      (.removing (.atUsb handler rest later 0))) from rfl) rfl (Function.update_self ..)
  exact meets.atUsb_deadlocks.before stepped

theorem joining_deadlocks {handler : Handler} {later : List Handler}
    (meeting : Meeting state which (.exitThread handler later))
    (waiting : state.input handler.id = .atUsb) : LeadsToDeadlock state := by
  have joins : state.waits (.remover which) (.input handler.id) := by
    have wants : state.wants (.remover which) = .exit (.input handler.id) := by
      rw [State.wants, meeting.removing]
      rfl
    refine Waits.exit wants ?_
    rw [State.ended, waiting]
    exact Bool.noConfusion
  have back : state.waits (.input handler.id) .discovery := by
    apply meeting.waitsForDiscovery
    · rw [State.wants, waiting]
      rfl
    · simp
  exact .here ⟨.discovery, .tail (.tail (.single meeting.discoveryWaits) joins) back⟩

theorem exitThread_deadlocks {handler : Handler} {later : List Handler}
    (meeting : Meeting state which (.exitThread handler later)) : LeadsToDeadlock state := by
  have proceeds (ended : (state.input handler.id).ended = true) : LeadsToDeadlock state := by
    obtain ⟨stepped, meets⟩ := meeting.goesOn
      (show removalMove state which {} _ = some (.stay, state.goto which
        (.removing (.exiting handler handler.interfaces later))) from if_pos ended) rfl
      (Function.update_self ..)
    obtain ⟨interface, rest, opened⟩ := List.exists_cons_of_ne_nil handler.opened
    rw [opened] at stepped meets
    exact meets.exiting_deadlocks.before stepped
  cases point : state.input handler.id with
  | absent => exact proceeds (by rw [point]; rfl)
  | finished => exact proceeds (by rw [point]; rfl)
  | atUsb => exact meeting.joining_deadlocks point
  | looping =>
      have moves : move state (.input handler.id) { usbCall := true } = some (.stay,
          { state with input := Function.update state.input handler.id .atUsb }) := by
        simp only [move, inputMove, point, if_true]
      have stepped := steps_stay moves rfl
      have meets : Meeting { state with input := Function.update state.input handler.id .atUsb }
          which (.exitThread handler later) :=
        ⟨meeting.consistent.step stepped, meeting.waits, meeting.removing⟩
      exact (meets.joining_deadlocks (Function.update_self ..)).before stepped
  | inUsb =>
      have free := meeting.held_usb (.input handler.id) (by simp)
      rw [State.held, point] at free
      exact absurd free (Nat.succ_ne_zero 0)
  | created =>
      have started := meeting.consistent.born.allStarted
        (fun other joins => by
          have waits := meeting.waits
          rw [joins] at waits
          exact Bool.noConfusion waits) handler.id
      exact absurd point started

theorem next_deadlocks {handler : Handler} {later : List Handler}
    (meeting : Meeting state which (.next (handler :: later))) : LeadsToDeadlock state := by
  obtain ⟨stepped, meets⟩ := meeting.goesOn
    (show removalMove state which {} _ = some (.stay,
      { state with
        threadIsRunning := Function.update state.threadIsRunning handler.id false }.goto which
          (.removing (.exitThread handler later))) from rfl) rfl (Function.update_self ..)
  exact meets.exitThread_deadlocks.before stepped

theorem deadlocks (meeting : Meeting state which removal) (needs : removal.needsUsb = true) :
    LeadsToDeadlock state := by
  cases removal with
  | next doomed =>
      cases doomed with
      | nil => exact Bool.noConfusion needs
      | cons handler later => exact meeting.next_deadlocks
  | exitThread handler later => exact meeting.exitThread_deadlocks
  | exiting handler toClose later =>
      cases toClose with
      | cons interface rest => exact meeting.exiting_deadlocks
      | nil =>
          cases later with
          | nil => exact Bool.noConfusion needs
          | cons following rest =>
              obtain ⟨stepped, meets⟩ := meeting.goesOn
                (show removalMove state which {} _ = some (.stay,
                  { state with
                    controllerHandlers := state.controllerHandlers.erase handler }.goto which
                      (.removing (.next (following :: rest)))) from rfl) rfl
                (Function.update_self ..)
              exact meets.next_deadlocks.before stepped
  | atUsb handler toClose later nested => exact meeting.atUsb_deadlocks
  | inUsb handler toClose later nested =>
      have free := meeting.held_usb (.remover which) (by simp)
      rw [State.held, meeting.removing] at free
      exact absurd free (Nat.succ_ne_zero nested)

end Meeting

theorem atControllers_of_reaches {state next : State} {choice : Choice} {op : LockOp Lock}
    (reaches : reachesControllers state choice = true)
    (moved : discoveryMove state choice = some (op, next)) :
    next.discovery.atControllers = true := by
  unfold reachesControllers at reaches
  unfold discoveryMove at moved
  cases point : state.discovery with
  | working work nested =>
      simp only [point] at reaches moved
      cases nested with
      | succ nested => cases work <;> exact Bool.noConfusion reaches
      | zero =>
          cases work with
          | discard handler => exact Bool.noConfusion reaches
          | query =>
              simp only [Bool.and_eq_true, Bool.not_eq_true'] at reaches
              simp only [reaches.1, Bool.false_eq_true, if_false, Option.some.injEq,
                Prod.mk.injEq] at moved
              rw [← moved.2, finishWork, reaches.2]
              rfl
          | create handler =>
              simp only [Bool.and_eq_true, Bool.not_eq_true', decide_eq_true_eq] at reaches
              simp only [reaches.1, Bool.false_eq_true, if_false, Option.some.injEq,
                Prod.mk.injEq] at moved
              rw [← moved.2, finishWork, reaches.2]
              rfl
  | _ =>
      simp only [point] at reaches
      exact Bool.noConfusion reaches

theorem Consistent.deadlocks {state next : State} {action : Thread × Choice}
    (consistent : Consistent state) (stepped : Steps state action next)
    (disorderly : ¬Orderly state action) : LeadsToDeadlock next := by
  have consistentNext := consistent.step stepped
  obtain ⟨caller, choice⟩ := action
  obtain ⟨op, moved, locks, moves, applied, rfl⟩ := steps_iff.mp stepped
  cases caller with
  | discovery =>
      obtain ⟨reaches, busy⟩ := Classical.not_imp.mp disorderly
      have spec := discoveryMove_spec consistent.born.toUnborn moves
      have found : ¬∀ which, (state.remover which).needsUsb = false :=
        fun quiet => busy (closing_eq_false.mpr quiet)
      obtain ⟨which, needs⟩ := not_forall.mp found
      rw [Bool.not_eq_false, ← spec.remover] at needs
      cases point : moved.remover which with
      | removing removal =>
          rw [point] at needs
          have waits := atControllers_of_reaches reaches moves
          have meeting : Meeting { moved with locks } which removal :=
            ⟨consistentNext, waits, point⟩
          exact meeting.deadlocks needs
      | _ =>
          rw [point] at needs
          exact Bool.noConfusion needs
  | remover which =>
      obtain ⟨waits, busy⟩ := Classical.not_imp.mp disorderly
      have spec := removerMove_spec moves
      cases point : state.remover which with
      | atControllers removes =>
          simp only [State.handlersToDestroy, point] at busy
          simp only [move, removerMove, point, Option.some.injEq, Prod.mk.injEq] at moves
          obtain ⟨rfl, rfl⟩ := moves
          have meeting : Meeting { state.goto which (.removing (.next
              (removes.doomed state.controllerHandlers))) with locks } which
              (.next (removes.doomed state.controllerHandlers)) :=
            ⟨consistentNext, waits, Function.update_self ..⟩
          apply meeting.deadlocks
          cases doomed : removes.doomed state.controllerHandlers with
          | nil => exact absurd doomed busy
          | cons handler later => rfl
      | _ =>
          simp only [State.handlersToDestroy, point] at busy
          exact absurd trivial busy
  | input handler => exact absurd trivial disorderly

/-- A step that is not orderly leads to a deadlock, whenever it is taken. -/
theorem deadlocks_of_not_orderly {actions : List (Thread × Choice)} {state next : State}
    {action : Thread × Choice} (run : Run Steps {} actions state)
    (stepped : Steps state action next) (disorderly : ¬Orderly state action) :
    LeadsToDeadlock next := by
  have consistent : Consistent state := by
    apply run.invariant consistent_start
    intro current taken following kept steps
    exact kept.step steps
  exact consistent.deadlocks stepped disorderly

end SysCon.Threads
