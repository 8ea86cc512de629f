import SysCon.Sysmodule.Shutdown

/-!
What `main` leaves behind. As long as no cancellation ends the wait for the exit
of a running input thread, a run of the shutdown is a run of the threads, and at
its end there is nothing left. Where one does, a handler is closed under the
thread that uses it.
-/

namespace SysCon.Shutdown

open Library
open Threads (Handler Choice Thread Remover RemoverPoint Removal DiscoveryPoint Consistent Owned)

/-! The runs in which no wait for an exit is cut short are runs of the threads. -/

section Threads

variable {state next : State} {loop : Loop}

theorem interrupted_removal {threads moved : Threads.State} {which : Remover}
    (cut : interrupted.removal threads which = some moved)
    (ended : (joins.removal (threads.remover which)).all fun handler =>
      (threads.input handler).ended) :
    moved = threads ∨ Threads.Steps threads (.remover which, {}) moved := by
  unfold interrupted.removal at cut
  cases point : threads.remover which with
  | removing removal =>
      rw [point] at cut ended
      cases removal with
      | exitThread handler later =>
          simp only [Option.some.injEq] at cut
          subst cut
          simp only [joins.removal, Option.all_some] at ended
          refine Or.inr (Threads.steps_stay ?_ rfl)
          simp only [Threads.move, Threads.removerMove, point, Threads.removalMove, if_pos ended]
      | inUsb handler toClose later nested =>
          simp only [Option.some.injEq] at cut
          exact Or.inl cut.symm
      | _ => simp at cut
  | _ => simp [point] at cut

theorem interrupted_steps {threads moved : Threads.State}
    (cut : interrupted threads loop = some moved)
    (ended : (joins threads loop).all fun handler => (threads.input handler).ended) :
    moved = threads ∨ Threads.Steps threads (loop.thread, {}) moved := by
  cases loop with
  | changes => exact interrupted_removal cut ended
  | power => exact interrupted_removal cut ended
  | events =>
      unfold interrupted at cut
      unfold joins at ended
      cases point : threads.discovery with
      | exitThread handler =>
          simp only [point, Option.some.injEq] at cut
          subst cut
          simp only [point, Option.all_some] at ended
          refine Or.inr (Threads.steps_stay ?_ rfl)
          simp only [Loop.thread, Threads.move, Threads.discoveryMove, point, if_pos ended]
      | working work nested =>
          simp only [point, Option.some.injEq] at cut
          exact Or.inl cut.symm
      | _ => simp [point] at cut

/-- What the step of a thread does not touch: the points of the others. -/
theorem idle_frame {threads moved : Threads.State} {caller : Thread} {choice : Choice}
    (steps : Threads.Steps threads (caller, choice) moved) (foreign : caller ≠ loop.thread) :
    idle moved loop = idle threads loop := by
  obtain ⟨op, middle, locks, moves, applied, rfl⟩ := Threads.steps_iff.mp steps
  cases caller with
  | discovery =>
      have effect := Threads.discoveryMove_effect moves
      cases loop with
      | events => exact absurd rfl foreign
      | changes => simp only [idle, effect.remover]
      | power => simp only [idle, effect.remover]
  | remover which =>
      have spec := Threads.removerMove_spec moves
      have others (other : Remover) (own : Thread.remover which ≠ .remover other) :
          middle.remover other = threads.remover other :=
        spec.others other fun same => own (congrArg Thread.remover same.symm)
      cases loop with
      | events => simp only [idle, spec.discovery]
      | changes => simp only [idle, others .change foreign]
      | power => simp only [idle, others .power foreign]
  | input handler =>
      have spec := Threads.inputMove_spec moves
      cases loop with
      | events => simp only [idle, spec.discovery]
      | changes => simp only [idle, spec.remover]
      | power => simp only [idle, spec.remover]

/-- What a step does to the threads. -/
inductive Worked (state next : State) : Prop
  | not (threads : next.threads = state.threads)
      (gates : ∀ loop, next.gate loop ≠ .body → state.gate loop ≠ .body)
      (main : next.main = state.main ∨
        state.main.head? ≠ some .clear ∧ next.main = state.main.tail)
  | loop (loop : Loop) (choice : Choice) (alive : state.gate loop ≠ .exited)
      (steps : Threads.Steps state.threads (loop.thread, choice) next.threads)
      (others : ∀ other, other ≠ loop → next.gate other = state.gate other)
      (rests : next.gate loop ≠ .body → idle next.threads loop = true)
      (main : next.main = state.main)
  | clears (choice : Choice) (rest : List Call) (before : state.main = .clear :: rest)
      (steps : Threads.Steps state.threads (.remover .power, choice) next.threads)
      (gates : next.gate = state.gate)
      (after : next.main = if next.threads.remover .power = .idle then rest else .clear :: rest)
  | input (handler : Nat) (choice : Choice)
      (steps : Threads.Steps state.threads (.input handler, choice) next.threads)
      (gates : next.gate = state.gate) (main : next.main = state.main)

theorem enter_worked {base : State} (entered : enter base loop = some next)
    (waiting : state.gate loop = .waiting) (threads : base.threads = state.threads)
    (gates : base.gate = state.gate) (main : base.main = state.main) : Worked state next := by
  obtain ⟨moved, steps, rfl⟩ := Option.map_eq_some_iff.mp entered
  rw [threads] at steps
  refine .loop loop {} (by simp [waiting]) steps ?_ (by simp [State.at]) main
  intro other foreign
  rw [State.gate_at, Function.update_of_ne foreign, gates]

theorem wait_worked {wake : Wake} (waiting : state.gate loop = .waiting)
    (waited : waitStep state loop wake = some next) : Worked state next := by
  -- the gate of a thread that has not begun to work changes from one that is not the body
  have stays {base : State} (threads : base.threads = state.threads)
      (gates : base.gate = state.gate) (main : base.main = state.main) :
      Worked state (base.at loop .testing) := by
    refine .not threads ?_ (Or.inl main)
    intro other out
    by_cases own : other = loop
    · simp [own, waiting]
    · rwa [State.gate_at, Function.update_of_ne own, gates] at out
  cases wake with
  | cancelled =>
      simp only [waitStep, Option.ite_none_right_eq_some, Option.some.injEq] at waited
      obtain ⟨_, rfl⟩ := waited
      exact stays rfl rfl rfl
  | nothing =>
      simp only [waitStep, Option.some.injEq] at waited
      subst waited
      exact stays rfl rfl rfl
  | event => exact enter_worked waited waiting rfl rfl rfl
  | shutdown =>
      simp only [waitStep, Option.ite_none_right_eq_some] at waited
      exact enter_worked waited.2 waiting rfl rfl rfl

theorem main_worked {choice : Choice} (called : mainStep state choice = some next) :
    Worked state next := by
  unfold mainStep at called
  cases calls : state.main with
  | nil => simp [calls] at called
  | cons call rest =>
      simp only [calls] at called
      have other (different : call ≠ .clear) : state.main.head? ≠ some .clear := by
        simpa [calls] using different
      have rests : rest = state.main.tail := by rw [calls, List.tail_cons]
      cases call with
      | isRunning =>
          simp only at called
          split at called
          · simp only [Option.some.injEq] at called
            subst called
            exact .not rfl (fun _ out => out) (Or.inl rfl)
          · simp only [Option.some.injEq] at called
            subst called
            exact .not rfl (fun _ out => out) (Or.inr ⟨other (by simp), rests⟩)
      | join own =>
          simp only [Option.ite_none_right_eq_some, Option.some.injEq] at called
          obtain ⟨_, rfl⟩ := called
          exact .not rfl (fun _ out => out) (Or.inr ⟨other (by simp), rests⟩)
      | clear =>
          obtain ⟨threads, steps, rfl⟩ := Option.map_eq_some_iff.mp called
          exact .clears choice rest calls steps rfl rfl
      | _ =>
          simp only [Option.some.injEq] at called
          subst called
          exact .not rfl (fun _ out => out) (Or.inr ⟨other (by simp), rests⟩)

theorem happens_worked {action : Action} (allowed : Undisturbed state action)
    (happens : Happens state action next) : Worked state next := by
  unfold Happens step at happens
  cases action with
  | main choice => exact main_worked happens
  | wait loop wake =>
      simp only [Option.ite_none_right_eq_some] at happens
      exact wait_worked happens.1 happens.2
  | work loop choice =>
      simp only [Option.ite_none_right_eq_some, Option.map_eq_some_iff] at happens
      obtain ⟨inBody, threads, steps, rfl⟩ := happens
      refine .loop loop choice (by simp [inBody]) steps ?_ ?_ rfl
      · intro other foreign
        exact Function.update_of_ne foreign _ _
      · intro out
        by_contra busy
        have still : idle threads loop = false := Bool.eq_false_iff.mpr busy
        simp [still] at out
  | interrupt loop =>
      simp only [Option.ite_none_right_eq_some, Option.map_eq_some_iff] at happens
      obtain ⟨⟨inBody, _⟩, threads, cut, rfl⟩ := happens
      rcases interrupted_steps cut allowed with same | steps
      · exact .not same (fun _ out => out) (Or.inl rfl)
      · exact .loop loop {} (by simp [inBody]) steps (fun _ _ => rfl)
          (fun out => absurd inBody out) rfl
  | test loop =>
      simp only [Option.ite_none_right_eq_some, Option.some.injEq] at happens
      obtain ⟨testing, rfl⟩ := happens
      refine .not rfl ?_ (Or.inl rfl)
      intro other out
      by_cases own : other = loop
      · simp [own, testing]
      · rwa [State.gate_at, Function.update_of_ne own] at out
  | input handler choice =>
      obtain ⟨threads, steps, rfl⟩ := Option.map_eq_some_iff.mp happens
      exact .input handler choice steps rfl rfl

/-- The power thread, or `main` in its place, is done with `Clear`. -/
theorem cleared_of_idle {threads moved : Threads.State} {choice : Choice}
    (steps : Threads.Steps threads (.remover .power, choice) moved)
    (done : moved.remover .power = .idle) (clears : threads.clears) :
    moved.controllerHandlers = [] := by
  obtain ⟨op, middle, locks, moves, applied, rfl⟩ := Threads.steps_iff.mp steps
  have now : middle.remover .power = .idle := done
  have moves : Threads.removerMove threads .power choice = some (op, middle) := moves
  unfold Threads.removerMove at moves
  cases point : threads.remover .power with
  | removing removal =>
      rw [Threads.State.clears, point] at clears
      simp only [point] at moves
      obtain ⟨base, target, same, goes, _⟩ := Threads.removalMove_cases moves
      have target_idle : target = .idle := by
        rw [same] at now
        simpa [Threads.State.goto] using now
      rw [target_idle] at goes
      cases goes with
      | done =>
          simp only [Threads.removalMove, Option.some.injEq, Prod.mk.injEq] at moves
          obtain ⟨_, rfl⟩ := moves
          exact clears.symm
  | _ =>
      simp only [point, Option.some.injEq, Prod.mk.injEq] at moves
      obtain ⟨_, rfl⟩ := moves
      simp [Threads.State.goto] at now

theorem last_calls {calls : List Call} (left : calls <:+ main)
    (rest : calls.tail = [.clear] ∨ calls.tail = []) :
    calls.head? = some .clear ∨ calls = [] := by
  have all : ∀ calls ∈ main.tails, calls.tail = [.clear] ∨ calls.tail = [] →
      calls.head? = some .clear ∨ calls = [] := by decide
  exact all calls ((List.mem_tails calls main).mpr left) rest

structure Settled (state : State) : Prop where
  reached : ∃ actions, Run Threads.Steps {} actions state.threads
  rests : ∀ loop, state.gate loop ≠ .body →
    idle state.threads loop = true ∨ loop = .power ∧ state.main.head? = some .clear
  empty : state.main = [.clear] ∨ state.main = [] → state.threads.controllerHandlers = []

theorem steps_reached {threads moved : Threads.State} {action : Thread × Choice}
    (reached : ∃ actions, Run Threads.Steps {} actions threads)
    (steps : Threads.Steps threads action moved) :
    ∃ actions, Run Threads.Steps {} actions moved := by
  obtain ⟨actions, run⟩ := reached
  exact ⟨actions ++ [action], run.append (.cons steps (.nil _))⟩

/-- An empty list stays empty, unless the discovery thread inserts. -/
theorem empty_frame {threads moved : Threads.State} {caller : Thread} {choice : Choice}
    (steps : Threads.Steps threads (caller, choice) moved) (foreign : caller ≠ .discovery)
    (empty : threads.controllerHandlers = []) : moved.controllerHandlers = [] := by
  obtain ⟨op, middle, locks, moves, applied, rfl⟩ := Threads.steps_iff.mp steps
  suffices after : middle.controllerHandlers = [] from after
  cases caller with
  | discovery => exact absurd rfl foreign
  | remover which =>
      cases Threads.removerMove_effect moves with
      | same handlers doomed exits => rw [handlers, empty]
      | erases handler later exits removing handlers before after =>
          rw [handlers, empty]
          rfl
  | input handler => rw [Plugged.inputMove_handlers moves, empty]

namespace Settled

/-- A step that leaves the threads alone. -/
theorem still (controlled : Controlled state) (settled : Settled state)
    (threads : next.threads = state.threads)
    (gates : ∀ loop, next.gate loop ≠ .body → state.gate loop ≠ .body)
    (main : next.main = state.main ∨
      state.main.head? ≠ some .clear ∧ next.main = state.main.tail) : Settled next := by
  refine ⟨?_, ?_, ?_⟩
  · rw [threads]
    exact settled.reached
  · rw [threads]
    intro loop out
    rcases settled.rests loop (gates loop out) with rests | ⟨power, clearing⟩
    · exact Or.inl rests
    · rcases main with same | ⟨other, _⟩
      · exact Or.inr ⟨power, by rw [same, clearing]⟩
      · exact absurd clearing other
  · rw [threads]
    intro ends
    rcases main with same | ⟨other, rest⟩
    · rw [same] at ends
      exact settled.empty ends
    · rw [rest] at ends
      rcases last_calls controlled.left ends with clearing | nothing
      · exact absurd clearing other
      · exact settled.empty (Or.inr nothing)

/-- At the end every thread with a loop has exited, so none of them has taken the step. -/
theorem looped {choice : Choice} (controlled : Controlled state) (settled : Settled state)
    (alive : state.gate loop ≠ .exited)
    (steps : Threads.Steps state.threads (loop.thread, choice) next.threads)
    (others : ∀ other, other ≠ loop → next.gate other = state.gate other)
    (rests : next.gate loop ≠ .body → idle next.threads loop = true)
    (main : next.main = state.main) : Settled next := by
  refine ⟨steps_reached settled.reached steps, ?_, ?_⟩
  · intro other out
    by_cases own : other = loop
    · subst own
      exact Or.inl (rests out)
    · rw [others other own] at out
      rw [main]
      have foreign : loop.thread ≠ other.thread := by
        cases loop <;> cases other <;> simp [Loop.thread] at own ⊢
      rw [idle_frame steps foreign]
      exact settled.rests other out
  · rw [main]
    intro ends
    have last : .join loop ∉ state.main := by
      rcases ends with ends | ends <;> simp [ends]
    exact absurd (controlled.joined loop last) alive

/-- `main` clears in place of the power thread. -/
theorem cleared {choice : Choice} {rest : List Call} (settled : Settled state)
    (before : state.main = .clear :: rest)
    (steps : Threads.Steps state.threads (.remover .power, choice) next.threads)
    (gates : next.gate = state.gate)
    (after : next.main =
      if next.threads.remover .power = .idle then rest else .clear :: rest) : Settled next := by
  refine ⟨steps_reached settled.reached steps, ?_, ?_⟩
  · rw [gates, after]
    intro loop out
    by_cases own : loop = .power
    · subst own
      by_cases done : next.threads.remover .power = .idle
      · exact Or.inl (by simp [idle, done])
      · exact Or.inr ⟨rfl, by rw [if_neg done]; rfl⟩
    · have foreign : Thread.remover .power ≠ loop.thread := by
        cases loop <;> simp [Loop.thread] at own ⊢
      rcases settled.rests loop out with rests | ⟨power, _⟩
      · exact Or.inl ((idle_frame steps foreign).trans rests)
      · exact absurd power own
  · intro ends
    by_cases done : next.threads.remover .power = .idle
    · obtain ⟨actions, run⟩ := settled.reached
      exact cleared_of_idle steps done (Threads.clears_of_run run)
    · rw [after, if_neg done] at ends
      rw [← before] at ends
      exact empty_frame steps (by simp) (settled.empty ends)

theorem input {handler : Nat} {choice : Choice} (settled : Settled state)
    (steps : Threads.Steps state.threads (.input handler, choice) next.threads)
    (gates : next.gate = state.gate) (main : next.main = state.main) : Settled next := by
  refine ⟨steps_reached settled.reached steps, ?_, ?_⟩
  · rw [gates, main]
    intro loop out
    have foreign : Thread.input handler ≠ loop.thread := by
      cases loop <;> simp [Loop.thread]
    rw [idle_frame steps foreign]
    exact settled.rests loop out
  · rw [main]
    intro ends
    exact empty_frame steps (by simp) (settled.empty ends)

theorem step (controlled : Controlled state) (settled : Settled state)
    (worked : Worked state next) : Settled next := by
  cases worked with
  | not threads gates main => exact settled.still controlled threads gates main
  | loop loop choice alive steps others rests main =>
      exact settled.looped controlled alive steps others rests main
  | clears choice rest before steps gates after => exact settled.cleared before steps gates after
  | input handler choice steps gates main => exact settled.input steps gates main

end Settled

theorem settled_of_run {actions : List Action}
    (run : Run (Guarded Undisturbed Happens) {} actions state) :
    Controlled state ∧ Settled state := by
  have kept : (fun current => Controlled current ∧ Settled current) state := by
    apply run.invariant
    · refine ⟨controlled_of_run (.nil _), ⟨[], .nil _⟩, ?_, by simp [main, pscExit]⟩
      intro loop _
      exact Or.inl (by cases loop <;> rfl)
    · intro current action next inv happens
      obtain ⟨controlled, settled⟩ := inv
      obtain ⟨allowed, happens⟩ := happens
      exact ⟨controlled.step happens, settled.step controlled (happens_worked allowed happens)⟩
  exact kept

end Threads

/-- The thread of a handler that is being closed has ended. -/
def ClosesEnded (threads : Threads.State) : Prop :=
  (∀ which handler, (threads.remover which).exits = some handler →
    (threads.input handler.id).ended = true) ∧
  ∀ handler, threads.discovery.discards = some handler → (threads.input handler.id).ended = true

theorem interrupted_joins {threads moved : Threads.State}
    (cut : interrupted threads loop = some moved) (closes : ClosesEnded moved) :
    (joins threads loop).all fun handler => (threads.input handler).ended := by
  have remover (which : Remover) (cut : interrupted.removal threads which = some moved) :
      (joins.removal (threads.remover which)).all fun handler =>
        (threads.input handler).ended := by
    unfold interrupted.removal at cut
    cases point : threads.remover which with
    | removing removal =>
        rw [point] at cut
        cases removal with
        | exitThread handler later =>
            simp only [Option.some.injEq] at cut
            subst cut
            simp only [joins.removal, Option.all_some]
            exact closes.1 which handler (by
              simp [Threads.State.goto, RemoverPoint.exits, Removal.exits])
        | _ => rfl
    | _ => rfl
  cases loop with
  | changes => exact remover .change cut
  | power => exact remover .power cut
  | events =>
      unfold interrupted at cut
      unfold joins
      cases point : threads.discovery with
      | exitThread handler =>
          simp only [point, Option.some.injEq] at cut
          subst cut
          simp only [Option.all_some]
          exact closes.2 handler rfl
      | _ => rfl

/-- That condition is exact: the first step that breaks it closes a handler whose thread runs. -/
theorem undisturbed_iff {state next : State} {actions : List Action} {action : Action}
    (run : Run (Guarded Undisturbed Happens) {} actions state)
    (happens : Happens state action next) :
    Undisturbed state action ↔ ClosesEnded next.threads := by
  obtain ⟨controlled, settled⟩ := settled_of_run run
  constructor
  · intro allowed
    obtain ⟨threadActions, threadRun⟩ :=
      (settled.step controlled (happens_worked allowed happens)).reached
    have owned := (Threads.owned_of_run threadRun).2
    exact ⟨owned.exited, owned.discarded⟩
  · intro closes
    cases action with
    | interrupt loop =>
        unfold Happens step at happens
        simp only [Option.ite_none_right_eq_some, Option.map_eq_some_iff] at happens
        obtain ⟨_, threads, cut, rfl⟩ := happens
        exact interrupted_joins cut closes
    | _ => rfl

/-- A thread that rests holds no lock. -/
theorem held_of_rest {threads : Threads.State} (rests : ∀ loop, idle threads loop = true)
    (inputs : ∀ id, (threads.input id).ended = true) (caller : Thread) (lock : Threads.Lock) :
    threads.held caller lock = 0 := by
  have discovery : threads.discovery = .waitObjects := by simpa [idle] using rests .events
  have change : threads.remover .change = .idle := by simpa [idle] using rests .changes
  have power : threads.remover .power = .idle := by simpa [idle] using rests .power
  cases caller with
  | discovery =>
      rw [Threads.State.held, discovery]
      cases lock <;> rfl
  | remover which =>
      rw [Threads.State.held]
      cases which with
      | change =>
          rw [change]
          cases lock <;> rfl
      | power =>
          rw [power]
          cases lock <;> rfl
  | input id =>
      have stopped := inputs id
      rw [Threads.State.held]
      cases point : threads.input id <;> rw [point] at stopped <;>
        first | exact Bool.noConfusion stopped | (cases lock <;> rfl)

theorem free_of_unheld {threads : Threads.State} (locking : Threads.Locking threads)
    {lock : Threads.Lock} (unheld : ∀ caller, threads.held caller lock = 0) :
    threads.locks lock = none := by
  cases taken : threads.locks lock with
  | none => rfl
  | some holding =>
      obtain ⟨holder, again⟩ := holding
      have depth := locking.disciplined holder lock
      rw [unheld, taken, Mutex.depth, if_pos rfl] at depth
      exact absurd depth (Nat.succ_ne_zero again)

/-- When `main` has ended, only input threads could still take steps. -/
theorem stuck {state : State} (ended : state.main = [])
    (exited : ∀ loop, state.gate loop = .exited)
    (inputs : ∀ id, (state.threads.input id).ended = true) (action : Action) (next : State) :
    ¬Happens state action next := by
  intro happens
  unfold Happens step at happens
  cases action with
  | main choice => simp [mainStep, ended] at happens
  | input id choice =>
      obtain ⟨moved, steps, _⟩ := Option.map_eq_some_iff.mp happens
      obtain ⟨op, middle, locks, moves, _⟩ := Threads.steps_iff.mp steps
      have runs := Threads.inputMove_running moves
      rw [inputs id] at runs
      exact Bool.noConfusion runs
  | _ => simp [exited] at happens

/-- Nothing is left when `main` ends, in any run in which no cancellation ends the wait for the exit
of a running input thread: every thread has ended, every handler is destroyed and the locks are
free. And no step is possible any more. -/
theorem nothing_left {state : State} {actions : List Action}
    (run : Run (Guarded Undisturbed Happens) {} actions state) (ended : state.main = []) :
    state.threads.existing = [] ∧ (∀ id, (state.threads.input id).ended = true) ∧
      (∀ loop, state.gate loop = .exited) ∧ (∀ lock, state.threads.locks lock = none) ∧
      ∀ action next, ¬Happens state action next := by
  obtain ⟨controlled, settled⟩ := settled_of_run run
  obtain ⟨threadActions, threadRun⟩ := settled.reached
  obtain ⟨consistent, owned⟩ := Threads.owned_of_run threadRun
  have exited (loop : Loop) : state.gate loop = .exited :=
    controlled.joined loop ((order controlled.left loop).2.2.2 ended)
  have rests (loop : Loop) : idle state.threads loop = true := by
    rcases settled.rests loop (by simp [exited]) with rests | ⟨_, clearing⟩
    · exact rests
    · simp [ended] at clearing
  have nobody : state.threads.existing = [] := by
    have discovery : state.threads.discovery = .waitObjects := by simpa [idle] using rests .events
    rw [Threads.State.existing, settled.empty (Or.inr ended), discovery]
    rfl
  have inputs (id : Nat) : (state.threads.input id).ended = true := by
    by_contra runs
    obtain ⟨handler, member, _⟩ := owned.running id (Bool.eq_false_iff.mpr runs)
    rw [nobody] at member
    exact absurd member List.not_mem_nil
  refine ⟨nobody, inputs, exited, ?_, stuck ended exited inputs⟩
  intro lock
  exact free_of_unheld consistent.locking fun caller => held_of_rest rests inputs caller lock

def shutDownState : State := ((plugIn ++ shutDown).foldlM step {}).getD {}

theorem run_shutDown :
    Run (Guarded Undisturbed Happens) {} (plugIn ++ shutDown) shutDownState := by
  apply Run.of_foldlM_guarded
  rfl

theorem shutDown_leaves_nothing : shutDownState.threads.fresh = 1 ∧
    shutDownState.threads.existing = [] ∧ shutDownState.threads.locks .usbMutex = none := by
  obtain ⟨nobody, _, _, free, _⟩ := nothing_left run_shutDown rfl
  exact ⟨rfl, nobody, free .usbMutex⟩

/-- `main` does not wait until the power thread has cleared: it cancels its wait for the exit of the
input thread, which runs on. -/
def hurry : List Action :=
  plugIn ++ [.wait .power .shutdown, .work .power quiet, .work .power quiet,
    .main quiet, .main quiet, .main quiet]

def hurried : State := (hurry.foldlM step {}).getD {}

def overtaken : State := (step hurried (.interrupt .power)).getD {}

theorem overtaken_closes_running : ¬ClosesEnded overtaken.threads := by
  have run : Run (Guarded Undisturbed Happens) {} hurry hurried := by
    apply Run.of_foldlM_guarded
    rfl
  have happens : Happens hurried (.interrupt .power) overtaken := rfl
  intro closes
  exact absurd ((undisturbed_iff run happens).mpr closes) (by decide)

end SysCon.Shutdown
