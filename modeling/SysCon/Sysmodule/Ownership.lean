import SysCon.Sysmodule.ShutdownRuns

/-!
Locks and handlers in every run of the sysmodule, with `main`. A wait that is
cancelled ends early, but it neither takes a lock nor gives one back, so the
critical sections stay apart in every run. A handler outlives its input thread
in the runs in which no cancellation ends the wait for the exit of one that
still runs.
-/

namespace SysCon.Shutdown

open Library
open Threads (Handler Choice Thread Remover RemoverPoint DiscoveryPoint Work Lock Locking Consistent
  Owned)

/-! What a cancelled wait leaves as it was. -/

structure CutFrame (threads moved : Threads.State) : Prop where
  locks : moved.locks = threads.locks
  held : moved.held = threads.held
  fresh : moved.fresh = threads.fresh
  input : moved.input = threads.input
  existing : moved.existing = threads.existing
  creating : ∀ handler, moved.discovery.creating = some handler →
    threads.discovery.creating = some handler

section Cut

variable {state next : State} {loop : Loop}

theorem CutFrame.refl (threads : Threads.State) : CutFrame threads threads :=
  ⟨rfl, rfl, rfl, rfl, rfl, fun _ creates => creates⟩

theorem cutFrame_removal {threads moved : Threads.State} {which : Remover}
    (cut : interrupted.removal threads which = some moved) : CutFrame threads moved := by
  unfold interrupted.removal at cut
  split at cut
  · rename_i handler later point
    simp only [Option.some.injEq] at cut
    subst cut
    refine ⟨rfl, ?_, rfl, rfl, rfl, fun _ creates => creates⟩
    funext caller
    cases caller with
    | discovery => rfl
    | input id => rfl
    | remover other =>
        by_cases own : other = which
        · subst own
          simp only [Threads.State.held, Threads.State.goto, Function.update_self, point]
          rfl
        · simp only [Threads.State.held, Threads.State.goto, Function.update_of_ne own]
  · simp only [Option.some.injEq] at cut
    exact cut ▸ .refl _
  · simp at cut

theorem cutFrame_of_interrupted {threads moved : Threads.State}
    (cut : interrupted threads loop = some moved) : CutFrame threads moved := by
  cases loop with
  | changes => exact cutFrame_removal cut
  | power => exact cutFrame_removal cut
  | events =>
      unfold interrupted at cut
      cases point : threads.discovery with
      | exitThread handler =>
          simp only [point, Option.some.injEq] at cut
          subst cut
          refine ⟨rfl, ?_, rfl, rfl, ?_, by simp [DiscoveryPoint.creating, Work.creating]⟩
          · funext caller
            cases caller with
            | discovery =>
                simp only [Threads.State.held, point]
                rfl
            | _ => rfl
          · simp only [Threads.State.existing, point]
            rfl
      | working work nested =>
          simp only [point, Option.some.injEq] at cut
          exact cut ▸ .refl _
      | _ => simp [point] at cut

theorem Worked.threads (worked : Worked state next) :
    next.threads = state.threads ∨ ∃ taken, Threads.Steps state.threads taken next.threads := by
  cases worked with
  | not threads gates main => exact Or.inl threads
  | loop loop choice alive steps others rests main => exact Or.inr ⟨_, steps⟩
  | clears choice rest before steps gates after => exact Or.inr ⟨_, steps⟩
  | input handler choice steps gates main => exact Or.inr ⟨_, steps⟩

theorem happens_threads {action : Action} (happens : Happens state action next) :
    (∃ taken, Threads.Steps state.threads taken next.threads) ∨
      CutFrame state.threads next.threads := by
  by_cases allowed : Undisturbed state action
  · rcases (happens_worked allowed happens).threads with same | steps
    · exact Or.inr (same ▸ .refl _)
    · exact Or.inl steps
  · cases action with
    | interrupt loop =>
        unfold Happens step at happens
        simp only [Option.ite_none_right_eq_some, Option.map_eq_some_iff] at happens
        obtain ⟨_, threads, cut, rfl⟩ := happens
        exact Or.inr (cutFrame_of_interrupted cut)
    | _ => exact absurd rfl allowed

end Cut

theorem CutFrame.locking {threads moved : Threads.State} (cut : CutFrame threads moved)
    (locking : Locking threads) : Locking moved := by
  refine ⟨?_, ?_, ?_⟩
  · rw [cut.locks, cut.held]
    exact locking.disciplined
  · rw [cut.fresh, cut.input]
    exact locking.unborn.unborn
  · rw [cut.fresh, cut.input]
    intro handler creates
    exact locking.unborn.creating handler (cut.creating handler creates)

/-! Critical sections. -/

section Locks

variable {state : State} {actions : List Action}

theorem locking_of_run (run : Run Happens {} actions state) : Locking state.threads := by
  have kept : (fun current : State => Locking current.threads) state := by
    apply run.invariant Threads.consistent_start.locking
    intro current action next locking happens
    rcases happens_threads happens with ⟨taken, steps⟩ | cut
    · exact locking.step steps
    · exact cut.locking locking
  exact kept

end Locks

/-! Handlers. -/

section Handlers

variable {state next last : State} {actions later : List Action} {action : Action}

theorem owned_of_run (run : Run (Guarded Undisturbed Happens) {} actions state) :
    Consistent state.threads ∧ Owned state.threads := by
  obtain ⟨threadActions, threadRun⟩ := (settled_of_run run).2.reached
  exact Threads.owned_of_run threadRun

/-- An input thread that has not ended has one handler. A handler that is being closed is still on
the list, and its thread has ended. Whoever destroys handlers does so alone, and each once. -/
theorem handlers_in_order (run : Run (Guarded Undisturbed Happens) {} actions state) :
    (∀ id, (state.threads.input id).ended = false →
      ∃! handler, handler ∈ state.threads.existing ∧ handler.id = id) ∧
    (∀ which handler, (state.threads.remover which).exits = some handler →
      handler ∈ state.threads.controllerHandlers ∧
        (state.threads.input handler.id).ended = true) ∧
    (∀ which, (state.threads.remover which).doomed.Nodup ∧
      (state.threads.remover which).doomed ⊆ state.threads.controllerHandlers) ∧
    ∀ which other, (state.threads.remover which).doomed ≠ [] →
      (state.threads.remover other).doomed ≠ [] → which = other := by
  obtain ⟨consistent, owned⟩ := owned_of_run run
  refine ⟨?_, ?_, ?_, ?_⟩
  · intro id runs
    obtain ⟨handler, member, same⟩ := owned.running id runs
    refine ⟨handler, ⟨member, same⟩, ?_⟩
    rintro other ⟨alsoMember, alsoSame⟩
    exact List.inj_on_of_nodup_map owned.distinct alsoMember member (alsoSame.trans same.symm)
  · intro which handler exits
    exact ⟨owned.exits_listed exits, owned.exited which handler exits⟩
  · intro which
    have listed : (state.threads.remover which).doomed.Sublist state.threads.existing :=
      (owned.doomed which).trans (List.sublist_append_left _ _)
    exact ⟨(List.Nodup.of_map _ owned.distinct).sublist listed, (owned.doomed which).subset⟩
  · intro which other busy alsoBusy
    by_contra different
    have foreign : Thread.remover which ≠ .remover other := by
      simpa using different
    rcases Nat.eq_zero_or_pos ((state.threads.remover which).held .controllerMutex) with
      outside | removes
    · exact busy (RemoverPoint.doomed_eq_nil outside).1
    · have inside : 0 < state.threads.held (.remover which) .controllerMutex := removes
      exact alsoBusy (RemoverPoint.doomed_eq_nil (consistent.locking.exclusive inside foreign)).1

def pluggedIn : State := (plugIn.foldlM step {}).getD {}

theorem pluggedIn_in_order : ∃! handler, handler ∈ pluggedIn.threads.existing ∧ handler.id = 0 := by
  have run : Run (Guarded Undisturbed Happens) {} plugIn pluggedIn := by
    apply Run.of_foldlM_guarded
    rfl
  exact (handlers_in_order run).1 0 rfl

theorem gone_of_destroyed (owned : Owned state.threads) {handler : Handler}
    (existed : handler ∈ state.threads.existing) (destroyed : handler ∉ next.threads.existing)
    {taken : Thread × Choice} (steps : Threads.Steps state.threads taken next.threads) :
    next.threads.gone handler.id := by
  have known := owned.known handler existed
  obtain ⟨fresh, existing⟩ := Threads.existing_step steps
  refine ⟨Nat.lt_of_lt_of_le known fresh, ?_⟩
  intro other member same
  rcases existing other member with old | new
  · -- two handlers of one number are the same one
    rw [List.inj_on_of_nodup_map owned.distinct old existed same] at member
    exact destroyed member
  · rw [new] at same
    exact Nat.ne_of_lt known same.symm

/-- What is gone stays gone, cancelled waits or not. -/
theorem gone_of_rest {id : Nat} (rest : Run Happens next later last)
    (gone : next.threads.gone id) (ended : (next.threads.input id).ended = true) :
    last.threads.gone id ∧ (last.threads.input id).ended = true := by
  have kept : (fun current : State => current.threads.gone id ∧
      (current.threads.input id).ended = true) last := by
    apply rest.invariant ⟨gone, ended⟩
    intro current action following inv happens
    obtain ⟨gone, ended⟩ := inv
    rcases happens_threads happens with ⟨taken, steps⟩ | cut
    · exact ⟨gone.step steps, gone.ended_step ended steps⟩
    · rw [Threads.State.gone, cut.fresh, cut.existing, cut.input]
      exact ⟨gone, ended⟩
  exact kept

/-- A handler is destroyed when its input thread has ended, and once: from then on there is no
handler of its number, and its thread does not run, whatever is cancelled. -/
theorem destroyed_for_good {handler : Handler}
    (run : Run (Guarded Undisturbed Happens) {} actions state)
    (allowed : Undisturbed state action) (happens : Happens state action next)
    (existed : handler ∈ state.threads.existing) (destroyed : handler ∉ next.threads.existing)
    (rest : Run Happens next later last) :
    (state.threads.input handler.id).ended = true ∧
      (last.threads.input handler.id).ended = true ∧
      ∀ other ∈ last.threads.existing, other.id ≠ handler.id := by
  have owned := (owned_of_run run).2
  have ownedNext := (owned_of_run (run.append (.cons ⟨allowed, happens⟩ (.nil _)))).2
  rcases (happens_worked allowed happens).threads with same | ⟨taken, steps⟩
  · rw [same] at destroyed
    exact absurd existed destroyed
  · have gone := gone_of_destroyed owned existed destroyed steps
    have ended : (next.threads.input handler.id).ended = true := by
      by_contra runs
      obtain ⟨other, member, same⟩ := ownedNext.running handler.id (Bool.eq_false_iff.mpr runs)
      exact gone.2 other member same
    obtain ⟨goneLast, endedLast⟩ := gone_of_rest rest gone ended
    exact ⟨Threads.ended_of_destroyed owned steps existed destroyed, endedLast, goneLast.2⟩

/-- The shutdown up to the destruction of the handler that was plugged in. -/
def doomedActions : List Action := plugIn ++ shutDown.take 9

def doomed : State := (doomedActions.foldlM step {}).getD {}

theorem doomed_for_good : (shutDownState.threads.input 0).ended = true ∧
    ∀ other ∈ shutDownState.threads.existing, other.id ≠ 0 := by
  let gone := (step doomed (.work .power quiet)).getD {}
  have before : Run (Guarded Undisturbed Happens) {} doomedActions doomed := by
    apply Run.of_foldlM_guarded
    rfl
  have rest : Run Happens gone (shutDown.drop 10) shutDownState := by
    apply Run.of_foldlM_some
    rfl
  have existed : (⟨0, [1], List.cons_ne_nil _ _⟩ : Handler) ∈ doomed.threads.existing :=
    List.mem_singleton_self _
  have happens : Happens doomed (.work .power quiet) gone := rfl
  have allowed : Undisturbed doomed (.work .power quiet) := rfl
  exact (destroyed_for_good before allowed happens existed (by decide) rest).2

/-- When `Clear` gives the lock back, the list is empty, and an input thread that still runs belongs
to the handler that the discovery thread is working at. -/
theorem clear_leaves_nothing (run : Run (Guarded Undisturbed Happens) {} actions state)
    (cleared : state.threads.remover .power = .removing (.next [])) :
    state.threads.controllerHandlers = [] ∧ ∀ id, (state.threads.input id).ended = false →
      ∃ handler, state.threads.discovery.keeps = some handler ∧ handler.id = id := by
  obtain ⟨threadActions, threadRun⟩ := (settled_of_run run).2.reached
  have clears := Threads.clears_of_run threadRun
  rw [Threads.State.clears, cleared] at clears
  have empty : state.threads.controllerHandlers = [] := clears.symm
  refine ⟨empty, ?_⟩
  intro id runs
  obtain ⟨handler, member, same⟩ := (owned_of_run run).2.running id runs
  rw [Threads.State.existing, empty, List.nil_append, Option.mem_toList] at member
  exact ⟨handler, member, same⟩

/-- A controller is plugged in, and the power thread has cleared. -/
def cleared : State := ((plugIn ++ shutDown.take 10).foldlM step {}).getD {}

theorem cleared_nothing : cleared.threads.fresh = 1 ∧ cleared.threads.controllerHandlers = [] ∧
    ∀ id, (cleared.threads.input id).ended = false →
      ∃ handler, cleared.threads.discovery.keeps = some handler ∧ handler.id = id := by
  have run : Run (Guarded Undisturbed Happens) {} (plugIn ++ shutDown.take 10) cleared := by
    apply Run.of_foldlM_guarded
    rfl
  exact ⟨rfl, clear_leaves_nothing run rfl⟩

end Handlers

end SysCon.Shutdown
