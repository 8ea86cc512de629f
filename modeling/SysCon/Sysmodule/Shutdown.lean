import Mathlib.Data.List.Infix
import SysCon.Sysmodule.HandlerMemory

/-!
The end of the sysmodule. Each of the three threads that `main` has started runs
a loop: it waits for an event, works, and tests its flag. `main` lowers the
flag, cancels the wait with `svcCancelSynchronization` and waits for the exit of
the thread, first in `psc::Exit` and then in `usb::Exit`; what is left on the
list it clears itself. A cancellation ends the wait of its thread that is under
way, or else the next one, whatever that wait is for.
-/

namespace SysCon.Shutdown

open Library
open Threads (Handler Choice Thread Remover RemoverPoint Removal DiscoveryPoint Consistent Owned)

/-- `UsbEventThreadFunc`, `UsbInterfaceChangeThreadFunc` and `PscThreadFunc`. -/
inductive Loop
  | events
  | changes
  | power
  deriving DecidableEq, Repr

def Loop.thread : Loop → Thread
  | .events => .discovery
  | .changes => .remover .change
  | .power => .remover .power

/-- The thread is not in the body of its loop. -/
def idle (threads : Threads.State) : Loop → Bool
  | .events => threads.discovery = .waitObjects
  | .changes => threads.remover .change = .idle
  | .power => threads.remover .power = .idle

inductive Gate
  | waiting
  | body
  | testing
  | exited
  deriving DecidableEq, Repr

/-- What `main` does, call by call. -/
inductive Call
  | isRunning
  | lower (loop : Loop)
  | cancel (loop : Loop)
  | join (loop : Loop)
  | clear
  deriving DecidableEq, Repr

/-- `psc::Exit`. -/
def pscExit : List Call := [.lower .power, .cancel .power, .join .power]

/-- `usb::Exit`. -/
def usbExit : List Call :=
  [.lower .events, .lower .changes, .cancel .events, .join .events, .cancel .changes,
    .join .changes, .clear]

/-- `controllers::Exit`. -/
def controllersExit : List Call := [.clear]

def main : List Call := .isRunning :: (pscExit ++ usbExit ++ controllersExit)

structure State where
  threads : Threads.State := {}
  running : Loop → Bool := fun _ => true
  cancelled : Loop → Bool := fun _ => false
  gate : Loop → Gate := fun _ => .waiting
  main : List Call := main

/-- How a wait ends. The power thread finds a request to sleep or to shut down, or none that it
has to do something about. -/
inductive Wake
  | cancelled
  | nothing
  | event
  | shutdown
  deriving DecidableEq, Repr

inductive Action
  | main (choice : Choice)
  | wait (loop : Loop) (wake : Wake)
  | work (loop : Loop) (choice : Choice)
  | interrupt (loop : Loop)
  | test (loop : Loop)
  | input (handler : Nat) (choice : Choice)

def State.at (state : State) (loop : Loop) (gate : Gate) : State :=
  { state with gate := Function.update state.gate loop gate }

@[simp] theorem State.gate_at (state : State) (loop : Loop) (gate : Gate) :
    (state.at loop gate).gate = Function.update state.gate loop gate := rfl

/-- A call of `main`. Its `Clear` takes the place of the power thread, which has exited. -/
def mainStep (state : State) (choice : Choice) : Option State :=
  match state.main with
  | [] => none
  | .isRunning :: rest =>
      if state.running .power then some state else some { state with main := rest }
  | .lower loop :: rest =>
      some { state with running := Function.update state.running loop false, main := rest }
  | .cancel loop :: rest =>
      some { state with cancelled := Function.update state.cancelled loop true, main := rest }
  | .join loop :: rest =>
      if state.gate loop = .exited then some { state with main := rest } else none
  | .clear :: rest =>
      (Threads.step state.threads (.remover .power, choice)).map fun threads =>
        { state with
          threads
          main := if threads.remover .power = .idle then rest else .clear :: rest }

/-- The body of the loop begins. -/
def enter (state : State) (loop : Loop) : Option State :=
  (Threads.step state.threads (loop.thread, {})).map fun threads =>
    { state with threads }.at loop .body

def waitStep (state : State) (loop : Loop) : Wake → Option State
  | .cancelled =>
      if state.cancelled loop then
        some ({ state with cancelled := Function.update state.cancelled loop false }.at loop
          .testing)
      else none
  | .nothing => some (state.at loop .testing)
  | .event => enter state loop
  | .shutdown =>
      if loop = .power then
        enter { state with running := Function.update state.running loop false } loop
      else none

/-- A wait inside the body that a cancellation ends: a transfer, or the one for the exit of an input
thread, which returns although that thread may run. -/
def interrupted (threads : Threads.State) : Loop → Option Threads.State
  | .events =>
      match threads.discovery with
      | .exitThread handler => some { threads with discovery := .working (.discard handler) 0 }
      | .working _ _ => some threads
      | _ => none
  | .changes => removal threads .change
  | .power => removal threads .power
where
  removal (threads : Threads.State) (which : Remover) : Option Threads.State :=
    match threads.remover which with
    | .removing (.exitThread handler later) =>
        some (threads.goto which (.removing (.exiting handler handler.interfaces later)))
    | .removing (.inUsb _ _ _ _) => some threads
    | _ => none

def step (state : State) : Action → Option State
  | .main choice => mainStep state choice
  | .wait loop wake => if state.gate loop = .waiting then waitStep state loop wake else none
  | .work loop choice =>
      if state.gate loop = .body then
        (Threads.step state.threads (loop.thread, choice)).map fun threads =>
          { state with threads }.at loop (if idle threads loop then .testing else .body)
      else none
  | .interrupt loop =>
      if state.gate loop = .body ∧ state.cancelled loop = true then
        (interrupted state.threads loop).map fun threads =>
          { state with threads, cancelled := Function.update state.cancelled loop false }
      else none
  | .test loop =>
      if state.gate loop = .testing then
        some (state.at loop (if state.running loop then .waiting else .exited))
      else none
  | .input handler choice =>
      (Threads.step state.threads (.input handler, choice)).map fun threads =>
        { state with threads }

def Happens (state : State) (action : Action) (next : State) : Prop :=
  step state action = some next

/-- The input thread that a loop waits for the exit of. -/
def joins (threads : Threads.State) : Loop → Option Nat
  | .events =>
      match threads.discovery with
      | .exitThread handler => some handler.id
      | _ => none
  | .changes => removal (threads.remover .change)
  | .power => removal (threads.remover .power)
where
  removal : RemoverPoint → Option Nat
    | .removing (.exitThread handler _) => some handler.id
    | _ => none

/-- No cancellation ends the wait for the exit of an input thread that still runs. -/
def undisturbed (state : State) : Action → Bool
  | .interrupt loop =>
      (joins state.threads loop).all fun handler => (state.threads.input handler).ended
  | _ => true

def Undisturbed (state : State) (action : Action) : Prop := undisturbed state action = true

instance (state : State) (action : Action) : Decidable (Undisturbed state action) :=
  inferInstanceAs (Decidable (undisturbed state action = true))

/-! The flags, the cancellations and the gates, in every run. -/

theorem order {calls : List Call} (left : calls <:+ main) (loop : Loop) :
    (.cancel loop ∉ calls → .lower loop ∉ calls) ∧ (.join loop ∉ calls → .cancel loop ∉ calls) ∧
      (.clear ∈ calls.head? → .join loop ∉ calls) ∧ (calls = [] → .join loop ∉ calls) := by
  have all : ∀ calls ∈ main.tails, ∀ loop ∈ [Loop.events, .changes, .power],
      (.cancel loop ∉ calls → .lower loop ∉ calls) ∧ (.join loop ∉ calls → .cancel loop ∉ calls) ∧
        (.clear ∈ calls.head? → .join loop ∉ calls) ∧ (calls = [] → .join loop ∉ calls) := by
    decide
  exact all calls ((List.mem_tails calls main).mpr left) loop (by cases loop <;> simp)

structure Controlled (state : State) : Prop where
  left : state.main <:+ main
  lowered : ∀ loop, .lower loop ∉ state.main → state.running loop = false
  cancelled : ∀ loop, .cancel loop ∉ state.main → state.gate loop = .waiting →
    state.cancelled loop = true
  joined : ∀ loop, .join loop ∉ state.main → state.gate loop = .exited

/-- What a step of a thread with a loop does to its flag, its cancellation and its gate. -/
structure LoopStep (state : State) (loop : Loop) (next : State) : Prop where
  main : next.main = state.main
  running : ∀ other, state.running other = false → next.running other = false
  others : ∀ other, other ≠ loop →
    next.cancelled other = state.cancelled other ∧ next.gate other = state.gate other
  alive : state.gate loop ≠ .exited
  waits : next.gate loop = .waiting → state.running loop = true

section Control

variable {state next : State} {loop : Loop}

theorem LoopStep.at {base : State} {gate : Gate} (main : base.main = state.main)
    (running : ∀ other, state.running other = false → base.running other = false)
    (cancelled : ∀ other, other ≠ loop → base.cancelled other = state.cancelled other)
    (gates : base.gate = state.gate) (alive : state.gate loop ≠ .exited)
    (waits : gate = .waiting → state.running loop = true) :
    LoopStep state loop (base.at loop gate) := by
  refine ⟨main, running, ?_, alive, ?_⟩
  · intro other foreign
    refine ⟨cancelled other foreign, ?_⟩
    rw [State.gate_at, Function.update_of_ne foreign, gates]
  · rw [State.gate_at, Function.update_self]
    exact waits

theorem enter_step {base : State} (entered : enter base loop = some next)
    (main : base.main = state.main)
    (running : ∀ other, state.running other = false → base.running other = false)
    (cancelled : base.cancelled = state.cancelled) (gates : base.gate = state.gate)
    (alive : state.gate loop ≠ .exited) : LoopStep state loop next := by
  obtain ⟨threads, _, rfl⟩ := Option.map_eq_some_iff.mp entered
  exact .at main running (fun _ _ => by rw [cancelled]) gates alive (by simp)

theorem wait_step {wake : Wake} (waiting : state.gate loop = .waiting)
    (waited : waitStep state loop wake = some next) : LoopStep state loop next := by
  have alive : state.gate loop ≠ .exited := by simp [waiting]
  have same : ∀ other, state.running other = false → state.running other = false :=
    fun _ lowered => lowered
  cases wake with
  | cancelled =>
      simp only [waitStep, Option.ite_none_right_eq_some, Option.some.injEq] at waited
      obtain ⟨_, rfl⟩ := waited
      exact .at rfl same (fun other foreign => Function.update_of_ne foreign _ _) rfl alive
        (by simp)
  | nothing =>
      simp only [waitStep, Option.some.injEq] at waited
      subst waited
      exact .at rfl same (fun _ _ => rfl) rfl alive (by simp)
  | event => exact enter_step waited rfl same rfl rfl alive
  | shutdown =>
      simp only [waitStep, Option.ite_none_right_eq_some] at waited
      obtain ⟨_, entered⟩ := waited
      refine enter_step entered rfl ?_ rfl rfl alive
      intro other lowered
      by_cases own : other = loop
      · simp only [own, Function.update_self]
      · simpa only [Function.update_of_ne own] using lowered

theorem Controlled.looped (controlled : Controlled state) (step : LoopStep state loop next) :
    Controlled next := by
  obtain ⟨main, running, others, alive, waits⟩ := step
  refine ⟨?_, ?_, ?_, ?_⟩
  · rw [main]
    exact controlled.left
  · rw [main]
    intro other past
    exact running other (controlled.lowered other past)
  · rw [main]
    intro other past waiting
    by_cases own : other = loop
    · -- it waits again only if its flag is up, and that has been lowered before
      rw [own] at past waiting
      have lowered := controlled.lowered loop ((order controlled.left loop).1 past)
      rw [waits waiting] at lowered
      exact Bool.noConfusion lowered
    · obtain ⟨cancelled, gate⟩ := others other own
      rw [gate] at waiting
      rw [cancelled]
      exact controlled.cancelled other past waiting
  · rw [main]
    intro other past
    have exited := controlled.joined other past
    have foreign : other ≠ loop := by
      rintro rfl
      exact alive exited
    rw [(others other foreign).2, exited]

/-- A call that is over is past for its own loop only. -/
theorem Controlled.past (controlled : Controlled state) {call : Call} {rest : List Call}
    (calls : state.main = call :: rest) (main : next.main = rest)
    (gate : next.gate = state.gate)
    (lowers : ∀ loop, call = .lower loop ∨ state.running loop = false →
      next.running loop = false)
    (cancels : ∀ loop, call = .cancel loop ∨ state.cancelled loop = true →
      next.cancelled loop = true)
    (joins : ∀ loop, call = .join loop → state.gate loop = .exited) : Controlled next := by
  obtain ⟨left, lowered, cancelled, joined⟩ := controlled
  rw [calls] at left lowered cancelled joined
  have past {other : Call} (foreign : call ≠ other) (gone : other ∉ rest) :
      other ∉ call :: rest := by
    rw [List.mem_cons, not_or]
    exact ⟨foreign.symm, gone⟩
  refine ⟨?_, ?_, ?_, ?_⟩
  · rw [main]
    exact (List.suffix_cons call rest).trans left
  · rw [main]
    intro loop gone
    by_cases own : call = .lower loop
    · exact lowers loop (Or.inl own)
    · exact lowers loop (Or.inr (lowered loop (past own gone)))
  · rw [main, gate]
    intro loop gone waiting
    by_cases own : call = .cancel loop
    · exact cancels loop (Or.inl own)
    · exact cancels loop (Or.inr (cancelled loop (past own gone) waiting))
  · rw [main, gate]
    intro loop gone
    by_cases own : call = .join loop
    · exact joins loop own
    · exact joined loop (past own gone)

/-- During `Clear` every join is over. -/
theorem Controlled.clearing (controlled : Controlled state) {rest : List Call}
    (calls : state.main = .clear :: rest) (main : next.main = rest ∨ next.main = .clear :: rest)
    (running : next.running = state.running) (cancelled : next.cancelled = state.cancelled)
    (gate : next.gate = state.gate) : Controlled next := by
  rcases main with ended | again
  · refine controlled.past calls ended gate ?_ ?_ (by simp)
    · rintro loop (clear | lowered)
      · exact Call.noConfusion clear
      · rwa [running]
    · rintro loop (clear | pending)
      · exact Call.noConfusion clear
      · rwa [cancelled]
  · rw [← calls] at again
    refine ⟨?_, ?_, ?_, ?_⟩
    · rw [again]
      exact controlled.left
    · rw [again, running]
      exact controlled.lowered
    · rw [again, gate, cancelled]
      exact controlled.cancelled
    · rw [again, gate]
      exact controlled.joined

theorem Controlled.called {choice : Choice} (controlled : Controlled state)
    (called : mainStep state choice = some next) : Controlled next := by
  unfold mainStep at called
  cases calls : state.main with
  | nil => simp [calls] at called
  | cons call rest =>
      simp only [calls] at called
      cases call with
      | isRunning =>
          simp only at called
          split at called
          · simp only [Option.some.injEq] at called
            exact called ▸ controlled
          · simp only [Option.some.injEq] at called
            subst called
            exact controlled.past calls rfl rfl (by simp) (by simp) (by simp)
      | lower own =>
          simp only [Option.some.injEq] at called
          subst called
          refine controlled.past calls rfl rfl ?_ (by simp) (by simp)
          intro loop lowered
          by_cases same : loop = own
          · simp only [same, Function.update_self]
          · simp only [Function.update_of_ne same]
            exact lowered.resolve_left (by simpa using Ne.symm same)
      | cancel own =>
          simp only [Option.some.injEq] at called
          subst called
          refine controlled.past calls rfl rfl (by simp) ?_ (by simp)
          intro loop pending
          by_cases same : loop = own
          · simp only [same, Function.update_self]
          · simp only [Function.update_of_ne same]
            exact pending.resolve_left (by simpa using Ne.symm same)
      | join own =>
          simp only [Option.ite_none_right_eq_some, Option.some.injEq] at called
          obtain ⟨exited, rfl⟩ := called
          refine controlled.past calls rfl rfl (by simp) (by simp) ?_
          rintro loop ⟨⟩
          exact exited
      | clear =>
          obtain ⟨threads, _, rfl⟩ := Option.map_eq_some_iff.mp called
          refine controlled.clearing calls ?_ rfl rfl rfl
          by_cases done : threads.remover .power = .idle
          · exact Or.inl (if_pos done)
          · exact Or.inr (if_neg done)

/-- A step is one of a thread with a loop, of `main`, or touches neither flags nor gates. -/
inductive Control (state next : State) : Prop
  | loop (loop : Loop) (step : LoopStep state loop next)
  | main (choice : Choice) (called : mainStep state choice = some next)
  | same (main : next.main = state.main) (running : next.running = state.running)
      (cancelled : ∀ loop, state.gate loop = .waiting →
        next.cancelled loop = state.cancelled loop)
      (gate : next.gate = state.gate)

theorem happens_control {action : Action} (happens : Happens state action next) :
    Control state next := by
  unfold Happens Shutdown.step at happens
  cases action with
  | main choice => exact .main choice happens
  | wait loop wake =>
      simp only [Option.ite_none_right_eq_some] at happens
      exact .loop loop (wait_step happens.1 happens.2)
  | work loop choice =>
      simp only [Option.ite_none_right_eq_some, Option.map_eq_some_iff] at happens
      obtain ⟨inBody, threads, _, rfl⟩ := happens
      refine .loop loop (.at rfl (fun _ lowered => lowered) (fun _ _ => rfl) rfl
        (by simp [inBody]) ?_)
      split <;> simp
  | interrupt loop =>
      simp only [Option.ite_none_right_eq_some, Option.map_eq_some_iff] at happens
      obtain ⟨⟨inBody, _⟩, threads, _, rfl⟩ := happens
      refine .same rfl rfl ?_ rfl
      intro other waiting
      have foreign : other ≠ loop := by
        rintro rfl
        rw [inBody] at waiting
        exact Gate.noConfusion waiting
      exact Function.update_of_ne foreign _ _
  | test loop =>
      simp only [Option.ite_none_right_eq_some, Option.some.injEq] at happens
      obtain ⟨testing, rfl⟩ := happens
      refine .loop loop (.at rfl (fun _ lowered => lowered) (fun _ _ => rfl) rfl
        (by simp [testing]) ?_)
      intro again
      by_contra lowered
      rw [if_neg lowered] at again
      exact Gate.noConfusion again
  | input handler choice =>
      obtain ⟨threads, _, rfl⟩ := Option.map_eq_some_iff.mp happens
      exact .same rfl rfl (fun _ _ => rfl) rfl

theorem Controlled.step {action : Action} (controlled : Controlled state)
    (happens : Happens state action next) : Controlled next := by
  cases happens_control happens with
  | loop loop step => exact controlled.looped step
  | main choice called => exact controlled.called called
  | same main running cancelled gate =>
      refine ⟨?_, ?_, ?_, ?_⟩
      · rw [main]
        exact controlled.left
      · rw [main, running]
        exact controlled.lowered
      · rw [main, gate]
        intro loop past waiting
        rw [cancelled loop waiting]
        exact controlled.cancelled loop past waiting
      · rw [main, gate]
        exact controlled.joined

theorem controlled_of_run {actions : List Action} (run : Run Happens {} actions state) :
    Controlled state := by
  have start : Controlled {} := by
    refine ⟨List.suffix_refl _, ?_, ?_, ?_⟩ <;>
      (intro loop gone; exact absurd (by cases loop <;> decide) gone)
  exact run.invariant start fun _ _ _ controlled happens => controlled.step happens

/-- `main` makes its calls in order and leaves the gates to the threads. -/
theorem mainStep_frame {choice : Choice} (called : mainStep state choice = some next) :
    next.gate = state.gate ∧ next.main <:+ state.main := by
  unfold mainStep at called
  cases calls : state.main with
  | nil => simp [calls] at called
  | cons call rest =>
      simp only [calls] at called
      cases call with
      | isRunning =>
          simp only at called
          split at called
          · simp only [Option.some.injEq] at called
            subst called
            exact ⟨rfl, calls ▸ List.suffix_refl _⟩
          · simp only [Option.some.injEq] at called
            subst called
            exact ⟨rfl, List.suffix_cons _ _⟩
      | join own =>
          simp only [Option.ite_none_right_eq_some, Option.some.injEq] at called
          obtain ⟨_, rfl⟩ := called
          exact ⟨rfl, List.suffix_cons _ _⟩
      | clear =>
          obtain ⟨threads, _, rfl⟩ := Option.map_eq_some_iff.mp called
          refine ⟨rfl, ?_⟩
          simp only
          split
          · exact List.suffix_cons _ _
          · exact List.suffix_refl _
      | _ =>
          simp only [Option.some.injEq] at called
          subst called
          exact ⟨rfl, List.suffix_cons _ _⟩

theorem gone_step {action : Action} {call : Call} (happens : Happens state action next)
    (gone : call ∉ state.main) : call ∉ next.main := by
  cases happens_control happens with
  | loop loop step =>
      rw [step.main]
      exact gone
  | main choice called => exact fun here => gone ((mainStep_frame called).2.subset here)
  | same main running cancelled gate =>
      rw [main]
      exact gone

/-- A thread whose wait has been cancelled, and has ended, does not wait again. -/
theorem out_step {action : Action} (controlled : Controlled state)
    (happens : Happens state action next) (past : .cancel loop ∉ state.main)
    (out : state.gate loop ≠ .waiting) : next.gate loop ≠ .waiting := by
  have lowered := controlled.lowered loop ((order controlled.left loop).1 past)
  cases happens_control happens with
  | loop other step =>
      by_cases own : loop = other
      · subst own
        intro waiting
        rw [step.waits waiting] at lowered
        exact Bool.noConfusion lowered
      · rw [(step.others loop own).2]
        exact out
  | main choice called =>
      rw [(mainStep_frame called).1]
      exact out
  | same main running cancelled gate =>
      rw [gate]
      exact out

end Control

/-- No wake-up is lost. Once `main` has cancelled the wait of a thread, the thread does not wait
any more, or its cancellation is still to come and the end of this wait leads to its exit. -/
theorem no_lost_wakeup {state : State} {actions : List Action} (run : Run Happens {} actions state)
    (loop : Loop) (past : .cancel loop ∉ state.main) :
    state.running loop = false ∧
      (state.gate loop = .waiting → ∃ next last,
        Happens state (.wait loop .cancelled) next ∧ Happens next (.test loop) last ∧
          last.gate loop = .exited) ∧
      ∀ later last, Run Happens state later last → state.gate loop ≠ .waiting →
        last.gate loop ≠ .waiting := by
  have controlled := controlled_of_run run
  have lowered := controlled.lowered loop ((order controlled.left loop).1 past)
  refine ⟨lowered, ?_, ?_⟩
  · intro waiting
    have pending := controlled.cancelled loop past waiting
    let next := { state with cancelled := Function.update state.cancelled loop false }.at loop
      .testing
    refine ⟨next, next.at loop .exited, ?_, ?_, by simp⟩
    · simp only [Happens, step, if_pos waiting, waitStep, if_pos pending, next]
    · simp [Happens, step, next, State.at, lowered]
  · intro later last rest out
    have kept : (fun current => Controlled current ∧ .cancel loop ∉ current.main ∧
        current.gate loop ≠ .waiting) last := by
      apply rest.invariant ⟨controlled, past, out⟩
      intro current action next inv happens
      obtain ⟨controlled, past, out⟩ := inv
      exact ⟨controlled.step happens, gone_step happens past, out_step controlled happens past out⟩
    exact kept.2.2

/-! A controller is plugged in, the console shuts down, and `main` comes to its end. -/

def quiet : Choice := {}

def plugIn : List Action :=
  .wait .events .event ::
    (Threads.plugIn.drop 1).map fun action => .work .events action.2

def shutDown : List Action :=
  [.test .events, .wait .power .shutdown, .work .power quiet, .work .power quiet,
    .input 0 quiet, .work .power quiet, .work .power quiet, .work .power quiet,
    .work .power quiet, .work .power quiet, .work .power quiet, .test .power] ++
  -- psc::Exit
  [.main quiet, .main quiet, .main quiet, .main quiet] ++
  -- usb::Exit, up to its Clear
  [.main quiet, .main quiet, .main quiet, .wait .events .cancelled, .test .events, .main quiet,
    .main quiet, .wait .changes .cancelled, .test .changes, .main quiet] ++
  -- the two Clear
  [.main quiet, .main quiet, .main quiet, .main quiet, .main quiet, .main quiet]

/-- The discovery thread waits, and its wait has been cancelled. -/
def cancelledState : State := (((plugIn ++ shutDown).take 28).foldlM step {}).getD {}

theorem cancelledState_wakes : cancelledState.gate .events = .waiting ∧
    ∃ next last, Happens cancelledState (.wait .events .cancelled) next ∧
      Happens next (.test .events) last ∧ last.gate .events = .exited := by
  have run : Run Happens {} ((plugIn ++ shutDown).take 28) cancelledState := by
    apply Run.of_foldlM_some
    rfl
  exact ⟨rfl, (no_lost_wakeup run .events (by decide)).2.1 rfl⟩

end SysCon.Shutdown
