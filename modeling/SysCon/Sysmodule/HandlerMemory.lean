import Mathlib.Data.List.Nodup
import SysCon.Sysmodule.PluggedHandlers
import SysCon.Sysmodule.Meeting

/-!
Which handlers there are, and who destroys them. A handler is owned by the
discovery thread from its construction until it is inserted or discarded, and by
`controllerHandlers` after that. An input thread uses its handler as long as it
runs, so it must have ended before the handler is destroyed.
-/

namespace SysCon.Threads

open Library

def Work.keeps : Work → Option Handler
  | .query => none
  | .create handler | .discard handler => some handler

def DiscoveryPoint.keeps : DiscoveryPoint → Option Handler
  | .working work _ | .atNested work _ => work.keeps
  | .atInsert handler | .inserting handler | .exitThread handler => some handler
  | .waitObjects | .atUsb | .atLimit | .limit | .leaving => none

def Work.discards : Work → Option Handler
  | .query | .create _ => none
  | .discard handler => some handler

/-- The handler that is closed and destroyed; its thread has exited. -/
def DiscoveryPoint.discards : DiscoveryPoint → Option Handler
  | .working work _ | .atNested work _ => work.discards
  | _ => none

def Removal.exits : Removal → Option Handler
  | .next _ | .exitThread _ _ => none
  | .exiting handler _ _ | .atUsb handler _ _ _ | .inUsb handler _ _ _ => some handler

def RemoverPoint.exits : RemoverPoint → Option Handler
  | .removing removal => removal.exits
  | .idle | .atQuery | .querying | .atControllers _ => none

/-- The handlers a remover has still to destroy, with the one that it is at. -/
def Removal.doomed : Removal → List Handler
  | .next doomed => doomed
  | .exitThread handler later | .exiting handler _ later | .atUsb handler _ later _
  | .inUsb handler _ later _ => handler :: later

def RemoverPoint.doomed : RemoverPoint → List Handler
  | .removing removal => removal.doomed
  | .idle | .atQuery | .querying | .atControllers _ => []

/-- The handlers that have been constructed and not destroyed. -/
def State.existing (state : State) : List Handler :=
  state.controllerHandlers ++ state.discovery.keeps.toList

theorem State.kept_mem {state : State} {handler : Handler}
    (keeps : state.discovery.keeps = some handler) : handler ∈ state.existing := by
  rw [existing, keeps]
  exact List.mem_append_right _ (List.mem_singleton_self handler)

/-! What a step of each thread does to the handlers. -/

section Effects

variable {state next : State} {choice : Choice} {op : LockOp Lock}

inductive ExistingChange (state next : State) : Prop
  | same (existing : next.existing = state.existing) (fresh : next.fresh = state.fresh)
      (input : ∀ id, next.input id ≠ state.input id →
        ∃ handler, state.discovery.keeps = some handler ∧ handler.id = id)
  | creates (handler : Handler) (newest : handler.id = state.fresh)
      (existing : next.existing = state.existing ++ [handler])
      (fresh : next.fresh = state.fresh + 1) (input : next.input = state.input)
      (room : state.existing.length < MaxControllerHandlersSize)
  | drops (handler : Handler) (discards : state.discovery.discards = some handler)
      (existing : state.existing = next.existing ++ [handler])
      (fresh : next.fresh = state.fresh) (input : next.input = state.input)

structure DiscoveryEffect (state next : State) : Prop where
  existing : ExistingChange state next
  remover : next.remover = state.remover
  listed : next.controllerHandlers = state.controllerHandlers ∨
    (∃ handler, next.controllerHandlers = state.controllerHandlers ++ [handler]) ∧
      0 < state.discovery.held .controllerMutex
  discards : ∀ handler, next.discovery.discards = some handler → next.input = state.input ∧
    (state.discovery.discards = some handler ∨ (state.input handler.id).ended = true)

/-- The discovery thread goes on with what it has. -/
theorem DiscoveryEffect.moves {point : DiscoveryPoint}
    (keeps : point.keeps = state.discovery.keeps)
    (discards : ∀ handler, point.discards = some handler →
      state.discovery.discards = some handler ∨ (state.input handler.id).ended = true) :
    DiscoveryEffect state { state with discovery := point } := by
  refine ⟨.same ?_ rfl ?_, rfl, Or.inl rfl, ?_⟩
  · rw [State.existing, State.existing, keeps]
  · intro id changed
    exact absurd rfl changed
  · intro handler discarded
    exact ⟨rfl, discards handler discarded⟩

theorem finishWork_effect {work : Work} (point : state.discovery = .working work 0) :
    DiscoveryEffect state (finishWork state choice work) := by
  cases work with
  | query =>
      refine .moves ?_ ?_
      · rw [point]
        by_cases found : choice.interfacesAvailable = true <;> simp [found] <;> rfl
      · intro handler discards
        by_cases found : choice.interfacesAvailable = true <;>
          simp [found, DiscoveryPoint.discards] at discards
  | create handler =>
      have keeps : state.discovery.keeps = some handler := by rw [point]; rfl
      have target : (finishWork state choice (.create handler)).discovery =
          if choice.initThread = .started then .atInsert handler else .exitThread handler := rfl
      refine ⟨.same ?_ rfl ?_, rfl, Or.inl rfl, ?_⟩
      · rw [State.existing, State.existing, keeps, target]
        by_cases started : choice.initThread = .started <;> simp [started] <;> rfl
      · intro id changed
        by_cases own : id = handler.id
        · exact ⟨handler, keeps, own.symm⟩
        · exact absurd (Function.update_of_ne own _ _) changed
      · intro discarded discards
        rw [target] at discards
        by_cases started : choice.initThread = .started <;>
          simp [started, DiscoveryPoint.discards] at discards
  | discard handler =>
      have keeps : state.discovery.keeps = some handler := by rw [point]; rfl
      refine ⟨.drops handler (by rw [point]; rfl) ?_ rfl rfl, rfl, Or.inl rfl, ?_⟩
      · rw [State.existing, State.existing, keeps]
        simp [finishWork, DiscoveryPoint.keeps]
      · intro discarded discards
        simp [finishWork, DiscoveryPoint.discards] at discards

theorem createHandler_effect (point : state.discovery = .limit) :
    DiscoveryEffect state (createHandler state choice) := by
  have keeps : state.discovery.keeps = none := by rw [point]; rfl
  unfold createHandler
  by_cases full : MaxControllerHandlersSize ≤ state.controllerHandlers.length
  · rw [if_pos full]
    exact .moves (by rw [keeps]; rfl) (by simp [DiscoveryPoint.discards])
  · rw [if_neg full]
    refine ⟨.creates ⟨state.fresh, choice.device.1 :: choice.device.2, List.cons_ne_nil _ _⟩ rfl ?_
      rfl rfl ?_, rfl, Or.inl rfl, ?_⟩
    · rw [State.existing, State.existing, keeps]
      simp [DiscoveryPoint.keeps, Work.keeps]
    · simpa [State.existing, keeps] using full
    · simp [DiscoveryPoint.discards, Work.discards]

theorem discoveryMove_effect (moved : discoveryMove state choice = some (op, next)) :
    DiscoveryEffect state next := by
  unfold discoveryMove at moved
  cases point : state.discovery with
  | working work nested =>
      have goesOn (depth : Nat) : DiscoveryEffect state
          { state with discovery := .working work depth } ∧ DiscoveryEffect state
          { state with discovery := .atNested work depth } := by
        constructor <;> refine .moves (by rw [point]; rfl) ?_ <;>
          (rw [point]; exact fun _ same => Or.inl same)
      by_cases call : choice.usbCall = true
      · have calls : some (LockOp.stay, { state with discovery := .atNested work nested }) =
            some (op, next) := by
          cases nested <;> simpa [point, call] using moved
        simp only [Option.some.injEq, Prod.mk.injEq] at calls
        obtain ⟨rfl, rfl⟩ := calls
        exact (goesOn nested).2
      · cases nested with
        | succ nested =>
            simp only [point, if_neg call, Option.some.injEq, Prod.mk.injEq] at moved
            obtain ⟨rfl, rfl⟩ := moved
            exact (goesOn nested).1
        | zero =>
            simp only [point, if_neg call, Option.some.injEq, Prod.mk.injEq] at moved
            obtain ⟨rfl, rfl⟩ := moved
            exact finishWork_effect point
  | atNested work nested =>
      simp only [point, Option.some.injEq, Prod.mk.injEq] at moved
      obtain ⟨rfl, rfl⟩ := moved
      exact .moves (by rw [point]; rfl) (by rw [point]; exact fun _ same => Or.inl same)
  | limit =>
      simp only [point, Option.some.injEq, Prod.mk.injEq] at moved
      obtain ⟨rfl, rfl⟩ := moved
      exact createHandler_effect point
  | inserting handler =>
      simp only [point, Option.some.injEq, Prod.mk.injEq] at moved
      obtain ⟨rfl, rfl⟩ := moved
      refine ⟨.same ?_ rfl fun _ changed => absurd rfl changed, rfl,
        Or.inr ⟨⟨handler, rfl⟩, ?_⟩, ?_⟩
      · simp [State.existing, point, DiscoveryPoint.keeps]
      · rw [point]
        exact Nat.one_pos
      · simp [DiscoveryPoint.discards]
  | exitThread handler =>
      simp only [point, Option.ite_none_right_eq_some, Option.some.injEq, Prod.mk.injEq] at moved
      obtain ⟨ended, rfl, rfl⟩ := moved
      refine .moves (by rw [point]; rfl) ?_
      intro discarded discards
      simp only [DiscoveryPoint.discards, Work.discards, Option.some.injEq] at discards
      exact Or.inr (discards ▸ ended)
  | _ =>
      simp only [point, Option.some.injEq, Prod.mk.injEq] at moved
      obtain ⟨rfl, rfl⟩ := moved
      exact .moves (by rw [point]; rfl) (by simp [DiscoveryPoint.discards, Work.discards])

/-- A remover changes the list only when it has destroyed the handler that it is at. -/
inductive RemoverEffect (state next : State) (which : Remover) : Prop
  | same (handlers : next.controllerHandlers = state.controllerHandlers)
      (doomed : (next.remover which).doomed = (state.remover which).doomed ∨
        ∃ removes, state.remover which = .atControllers removes ∧
          (next.remover which).doomed = removes.doomed state.controllerHandlers)
      (exits : ∀ handler, (next.remover which).exits = some handler →
        (state.remover which).exits = some handler ∨ (state.input handler.id).ended = true)
  | erases (handler : Handler) (later : List Handler)
      (exits : (state.remover which).exits = some handler)
      (removing : 0 < (state.remover which).held .controllerMutex)
      (handlers : next.controllerHandlers = state.controllerHandlers.erase handler)
      (before : (state.remover which).doomed = handler :: later)
      (after : next.remover which = .removing (.next later))

theorem RemoverEffect.moves {which : Remover} {base : State} {point : RemoverPoint}
    (handlers : base.controllerHandlers = state.controllerHandlers)
    (doomed : point.doomed = (state.remover which).doomed)
    (exits : ∀ handler, point.exits = some handler →
      (state.remover which).exits = some handler ∨ (state.input handler.id).ended = true) :
    RemoverEffect state (base.goto which point) which := by
  have now : (base.goto which point).remover which = point := Function.update_self _ _ _
  exact .same handlers (Or.inl (by rw [now, doomed])) (by rw [now]; exact exits)

theorem removalMove_effect {which : Remover} {removal : Removal}
    (point : state.remover which = .removing removal)
    (moved : removalMove state which choice removal = some (op, next)) :
    RemoverEffect state next which := by
  have goesOn {handler : Handler} (exits : removal.exits = some handler) (other : Handler)
      (same : some handler = some other) :
      (state.remover which).exits = some other ∨ (state.input other.id).ended = true := by
    rw [point]
    exact Or.inl (exits.trans same)
  unfold removalMove at moved
  cases removal with
  | next doomed =>
      cases doomed with
      | nil =>
          simp only [Option.some.injEq, Prod.mk.injEq] at moved
          obtain ⟨rfl, rfl⟩ := moved
          exact .moves rfl (by rw [point]; rfl) (by simp [RemoverPoint.exits])
      | cons handler later =>
          simp only [Option.some.injEq, Prod.mk.injEq] at moved
          obtain ⟨rfl, rfl⟩ := moved
          exact .moves rfl (by rw [point]; rfl) (by simp [RemoverPoint.exits, Removal.exits])
  | exitThread handler later =>
      simp only [Option.ite_none_right_eq_some, Option.some.injEq, Prod.mk.injEq] at moved
      obtain ⟨ended, rfl, rfl⟩ := moved
      refine .moves rfl (by rw [point]; rfl) ?_
      intro exiting exits
      simp only [RemoverPoint.exits, Removal.exits, Option.some.injEq] at exits
      exact Or.inr (exits ▸ ended)
  | exiting handler toClose later =>
      cases toClose with
      | nil =>
          simp only [Option.some.injEq, Prod.mk.injEq] at moved
          obtain ⟨rfl, rfl⟩ := moved
          refine .erases handler later (by rw [point]; rfl) ?_ rfl (by rw [point]; rfl)
            (Function.update_self _ _ _)
          rw [point]
          exact Nat.one_pos
      | cons interface rest =>
          simp only at moved
          split at moved <;>
            (simp only [Option.some.injEq, Prod.mk.injEq] at moved
             obtain ⟨rfl, rfl⟩ := moved
             exact .moves rfl (by rw [point]; rfl) (goesOn rfl))
  | atUsb handler toClose later nested =>
      simp only [Option.some.injEq, Prod.mk.injEq] at moved
      obtain ⟨rfl, rfl⟩ := moved
      exact .moves rfl (by rw [point]; rfl) (goesOn rfl)
  | inUsb handler toClose later nested =>
      by_cases call : choice.usbCall = true
      · simp only [if_pos call, Option.some.injEq, Prod.mk.injEq] at moved
        obtain ⟨rfl, rfl⟩ := moved
        exact .moves rfl (by rw [point]; rfl) (goesOn rfl)
      · cases nested <;>
          (simp only [if_neg call, Option.some.injEq, Prod.mk.injEq] at moved
           obtain ⟨rfl, rfl⟩ := moved
           exact .moves rfl (by rw [point]; rfl) (goesOn rfl))

theorem removerMove_effect {which : Remover}
    (moved : removerMove state which choice = some (op, next)) :
    RemoverEffect state next which := by
  unfold removerMove at moved
  cases point : state.remover which with
  | idle =>
      simp only [point] at moved
      cases which <;>
        (simp only [Option.some.injEq, Prod.mk.injEq] at moved
         obtain ⟨rfl, rfl⟩ := moved
         exact .moves rfl (by rw [point]; rfl) (by simp [RemoverPoint.exits]))
  | atControllers removes =>
      simp only [point, Option.some.injEq, Prod.mk.injEq] at moved
      obtain ⟨rfl, rfl⟩ := moved
      refine .same rfl (Or.inr ⟨removes, point, ?_⟩) ?_
      · simp [State.goto, RemoverPoint.doomed, Removal.doomed]
      · simp [State.goto, RemoverPoint.exits, Removal.exits]
  | removing removal =>
      simp only [point] at moved
      exact removalMove_effect point moved
  | _ =>
      simp only [point, Option.some.injEq, Prod.mk.injEq] at moved
      obtain ⟨rfl, rfl⟩ := moved
      exact .moves rfl (by rw [point]; rfl) (by simp [RemoverPoint.exits])

/-- Only a thread that runs takes a step. -/
theorem inputMove_running {handler : Nat}
    (moved : inputMove state handler choice = some (op, next)) :
    (state.input handler).ended = false := by
  unfold inputMove at moved
  cases point : state.input handler with
  | absent => simp [point] at moved
  | finished => simp [point] at moved
  | _ => rfl

end Effects

/-! The invariant of every run, whatever the threads do in between. -/

/-- Only in a removal does a remover have handlers to destroy. -/
theorem RemoverPoint.doomed_eq_nil {point : RemoverPoint}
    (outside : point.held .controllerMutex = 0) : point.doomed = [] ∧ point.exits = none := by
  cases point with
  | removing removal =>
      rw [held, removal.held_controllers] at outside
      exact absurd outside Nat.one_ne_zero
  | _ => exact ⟨rfl, rfl⟩

theorem Removes.doomed_sublist (removes : Removes) (handlers : List Handler) :
    (removes.doomed handlers).Sublist handlers := by
  cases removes with
  | allNonPlugged interfaceIDsPlugged => exact List.filter_sublist
  | all => exact List.Sublist.refl _

/-- Every handler has a number of its own, and every input thread a handler. -/
structure Accounted (state : State) : Prop where
  distinct : (state.existing.map Handler.id).Nodup
  known : ∀ handler ∈ state.existing, handler.id < state.fresh
  room : state.existing.length ≤ MaxControllerHandlersSize
  running : ∀ id, (state.input id).ended = false → ∃ handler ∈ state.existing, handler.id = id

structure Owned (state : State) : Prop extends Accounted state where
  discarded : ∀ handler, state.discovery.discards = some handler →
    (state.input handler.id).ended = true
  exited : ∀ which handler, (state.remover which).exits = some handler →
    (state.input handler.id).ended = true
  doomed : ∀ which, (state.remover which).doomed.Sublist state.controllerHandlers

theorem owned_start : Owned {} :=
  ⟨⟨List.nodup_nil, by simp [State.existing, DiscoveryPoint.keeps],
    Nat.zero_le _, fun _ runs => Bool.noConfusion runs⟩, by simp [DiscoveryPoint.discards],
    by simp [RemoverPoint.exits], fun _ => List.nil_sublist _⟩

namespace Accounted

variable {state next : State}

/-- The discovery thread may change the input thread of its own handler. -/
theorem keeps (accounted : Accounted state) (existing : next.existing = state.existing)
    (fresh : next.fresh = state.fresh)
    (input : ∀ id, next.input id ≠ state.input id →
      ∃ handler, state.discovery.keeps = some handler ∧ handler.id = id) : Accounted next := by
  refine ⟨?_, ?_, ?_, ?_⟩
  · rw [existing]
    exact accounted.distinct
  · rw [existing, fresh]
    exact accounted.known
  · rw [existing]
    exact accounted.room
  · rw [existing]
    intro id runs
    by_cases changed : next.input id = state.input id
    · rw [changed] at runs
      exact accounted.running id runs
    · obtain ⟨kept, keeps, same⟩ := input id changed
      exact ⟨kept, State.kept_mem keeps, same⟩

theorem creates (accounted : Accounted state) {handler : Handler}
    (newest : handler.id = state.fresh) (existing : next.existing = state.existing ++ [handler])
    (fresh : next.fresh = state.fresh + 1) (input : next.input = state.input)
    (room : state.existing.length < MaxControllerHandlersSize) : Accounted next := by
  refine ⟨?_, ?_, ?_, ?_⟩
  · rw [existing, List.map_append, List.nodup_append]
    refine ⟨accounted.distinct, by simp, ?_⟩
    intro old isOld new isNew
    obtain ⟨other, member, rfl⟩ := List.mem_map.mp isOld
    rw [List.map_singleton, List.mem_singleton] at isNew
    rw [isNew, newest]
    exact Nat.ne_of_lt (accounted.known other member)
  · rw [existing, fresh]
    intro other member
    rcases List.mem_append.mp member with old | new
    · exact Nat.lt_succ_of_lt (accounted.known other old)
    · rw [List.mem_singleton.mp new, newest]
      exact Nat.lt_succ_self _
  · rw [existing, List.length_append]
    exact room
  · rw [existing, input]
    intro id runs
    obtain ⟨owner, member, same⟩ := accounted.running id runs
    exact ⟨owner, List.mem_append_left _ member, same⟩

/-- A handler whose input thread has ended can go. -/
theorem drops (accounted : Accounted state) {gone : Handler}
    (ended : (state.input gone.id).ended = true) (remains : next.existing.Sublist state.existing)
    (others : ∀ handler ∈ state.existing, handler ∈ next.existing ∨ handler = gone)
    (fresh : next.fresh = state.fresh) (input : next.input = state.input) : Accounted next := by
  refine ⟨accounted.distinct.sublist (remains.map _), ?_,
    Nat.le_trans remains.length_le accounted.room, ?_⟩
  · rw [fresh]
    intro handler member
    exact accounted.known handler (remains.subset member)
  · rw [input]
    intro id runs
    obtain ⟨owner, member, same⟩ := accounted.running id runs
    rcases others owner member with stays | rfl
    · exact ⟨owner, stays, same⟩
    · rw [same, runs] at ended
      exact Bool.noConfusion ended

end Accounted

namespace Owned

variable {state next : State} {choice : Choice} {op : LockOp Lock}

/-- A handler on the list is not the one that the discovery thread has. -/
theorem kept_ne_listed (owned : Owned state) {kept listed : Handler}
    (keeps : state.discovery.keeps = some kept) (member : listed ∈ state.controllerHandlers) :
    listed.id ≠ kept.id := by
  have distinct := owned.distinct
  rw [State.existing, keeps, List.map_append, List.nodup_append] at distinct
  exact distinct.2.2 _ (List.mem_map_of_mem member) _ (by simp)

theorem exits_listed (owned : Owned state) {which : Remover} {handler : Handler}
    (exits : (state.remover which).exits = some handler) :
    handler ∈ state.controllerHandlers := by
  refine (owned.doomed which).subset ?_
  cases point : state.remover which with
  | removing removal =>
      rw [point] at exits
      cases removal <;>
        simp_all [RemoverPoint.exits, Removal.exits, RemoverPoint.doomed, Removal.doomed]
  | _ => simp [point, RemoverPoint.exits] at exits

/-- The discovery thread touches the input thread of its own handler only. -/
theorem input_listed (owned : Owned state) (effect : DiscoveryEffect state next) {listed : Handler}
    (member : listed ∈ state.controllerHandlers) :
    next.input listed.id = state.input listed.id := by
  cases effect.existing with
  | same existing fresh input =>
      by_contra changed
      obtain ⟨kept, keeps, same⟩ := input listed.id changed
      exact owned.kept_ne_listed keeps member same.symm
  | creates handler newest existing fresh input room => rw [input]
  | drops handler discards existing fresh input => rw [input]

theorem accounted_discovery (owned : Owned state) (effect : DiscoveryEffect state next) :
    Accounted next := by
  cases effect.existing with
  | same existing fresh input => exact owned.keeps existing fresh input
  | creates handler newest existing fresh input room =>
      exact owned.creates newest existing fresh input room
  | drops handler discards existing fresh input =>
      refine owned.drops (owned.discarded handler discards) ?_ ?_ fresh input
      · rw [existing]
        exact List.sublist_append_left _ _
      · intro other member
        rw [existing] at member
        exact (List.mem_append.mp member).imp_right List.mem_singleton.mp

theorem discovery (owned : Owned state) (effect : DiscoveryEffect state next) : Owned next := by
  refine { owned.accounted_discovery effect with discarded := ?_, exited := ?_, doomed := ?_ }
  · intro handler discards
    obtain ⟨input, before | ended⟩ := effect.discards handler discards
    · rw [input]
      exact owned.discarded handler before
    · rw [input]
      exact ended
  · rw [effect.remover]
    intro which handler exits
    rw [owned.input_listed effect (owned.exits_listed exits)]
    exact owned.exited which handler exits
  · rw [effect.remover]
    intro which
    rcases effect.listed with same | ⟨⟨handler, inserted⟩, _⟩
    · rw [same]
      exact owned.doomed which
    · rw [inserted]
      exact (owned.doomed which).trans (List.sublist_append_left _ _)

section Remover

variable {which : Remover}

/-- A remover that goes on leaves the list as it is. -/
theorem goesOn (owned : Owned state) (spec : RemoverSpec state which op next)
    (handlers : next.controllerHandlers = state.controllerHandlers)
    (doomed : (next.remover which).doomed = (state.remover which).doomed ∨
      ∃ removes, state.remover which = .atControllers removes ∧
        (next.remover which).doomed = removes.doomed state.controllerHandlers)
    (exits : ∀ handler, (next.remover which).exits = some handler →
      (state.remover which).exits = some handler ∨ (state.input handler.id).ended = true) :
    Owned next := by
  have existing : next.existing = state.existing := by
    rw [State.existing, State.existing, handlers, spec.discovery]
  have accounted : Accounted next :=
    owned.keeps existing spec.fresh fun id changed => absurd (congrFun spec.input id) changed
  refine { accounted with discarded := ?_, exited := ?_, doomed := ?_ }
  · rw [spec.discovery, spec.input]
    exact owned.discarded
  · rw [spec.input]
    intro other handler now
    by_cases own : other = which
    · subst own
      rcases exits handler now with before | ended
      · exact owned.exited other handler before
      · exact ended
    · rw [spec.others other own] at now
      exact owned.exited other handler now
  · rw [handlers]
    intro other
    by_cases own : other = which
    · subst own
      rcases doomed with before | ⟨removes, asked, all⟩
      · rw [before]
        exact owned.doomed other
      · rw [all]
        exact removes.doomed_sublist _
    · rw [spec.others other own]
      exact owned.doomed other

theorem accounted_erases (owned : Owned state) (spec : RemoverSpec state which op next)
    {handler : Handler} (exits : (state.remover which).exits = some handler)
    (handlers : next.controllerHandlers = state.controllerHandlers.erase handler) :
    Accounted next := by
  have existing : next.existing =
      state.controllerHandlers.erase handler ++ state.discovery.keeps.toList := by
    rw [State.existing, handlers, spec.discovery]
  refine owned.drops (owned.exited which handler exits) ?_ ?_ spec.fresh spec.input
  · rw [existing]
    exact List.erase_sublist.append_right _
  · intro other member
    rw [existing]
    by_cases erased : other = handler
    · exact Or.inr erased
    · rcases List.mem_append.mp member with listed | kept
      · exact Or.inl (List.mem_append_left _ ((List.mem_erase_of_ne erased).mpr listed))
      · exact Or.inl (List.mem_append_right _ kept)

/-- A remover that has destroyed a handler takes it off the list. -/
theorem erases (owned : Owned state) (consistent : Consistent state)
    (spec : RemoverSpec state which op next) {handler : Handler} {later : List Handler}
    (exits : (state.remover which).exits = some handler)
    (removing : 0 < (state.remover which).held .controllerMutex)
    (handlers : next.controllerHandlers = state.controllerHandlers.erase handler)
    (before : (state.remover which).doomed = handler :: later)
    (after : next.remover which = .removing (.next later)) : Owned next := by
  refine { owned.accounted_erases spec exits handlers with
    discarded := ?_, exited := ?_, doomed := ?_ }
  · rw [spec.discovery, spec.input]
    exact owned.discarded
  · rw [spec.input]
    intro other exiting now
    by_cases own : other = which
    · rw [own, after] at now
      exact absurd now (by simp [RemoverPoint.exits, Removal.exits])
    · rw [spec.others other own] at now
      exact owned.exited other exiting now
  · rw [handlers]
    intro other
    by_cases own : other = which
    · rw [own, after]
      have shorter := (owned.doomed which).erase handler
      rwa [before, List.erase_cons_head] at shorter
    · have foreign : Thread.remover which ≠ .remover other := by
        simpa using Ne.symm own
      have removes : 0 < state.held (.remover which) .controllerMutex := removing
      have outside : (state.remover other).held .controllerMutex = 0 :=
        consistent.locking.exclusive removes foreign
      rw [spec.others other own, (RemoverPoint.doomed_eq_nil outside).1]
      exact List.nil_sublist _

theorem remover (owned : Owned state) (consistent : Consistent state)
    (spec : RemoverSpec state which op next) (effect : RemoverEffect state next which) :
    Owned next := by
  cases effect with
  | same handlers doomed exits => exact owned.goesOn spec handlers doomed exits
  | erases handler later exits removing handlers before after =>
      exact owned.erases consistent spec exits removing handlers before after

end Remover

theorem input {handler : Nat} (owned : Owned state) (spec : InputSpec state handler op next)
    (handlers : next.controllerHandlers = state.controllerHandlers)
    (runs : (state.input handler).ended = false) : Owned next := by
  have existing : next.existing = state.existing := by
    rw [State.existing, State.existing, handlers, spec.discovery]
  have stays {id : Nat} (ended : (state.input id).ended = true) :
      (next.input id).ended = true := by
    have other : id ≠ handler := by
      rintro rfl
      rw [runs] at ended
      exact Bool.noConfusion ended
    rw [spec.others id other]
    exact ended
  refine ⟨⟨?_, ?_, ?_, ?_⟩, ?_, ?_, ?_⟩
  · rw [existing]
    exact owned.distinct
  · rw [existing, spec.fresh]
    exact owned.known
  · rw [existing]
    exact owned.room
  · rw [existing]
    intro id live
    apply owned.running
    cases ended : (state.input id).ended with
    | false => rfl
    | true => exact (stays ended).symm.trans live
  · rw [spec.discovery]
    intro discarded discards
    exact stays (owned.discarded discarded discards)
  · rw [spec.remover]
    intro which exiting exits
    exact stays (owned.exited which exiting exits)
  · rw [spec.remover, handlers]
    exact owned.doomed

theorem step {action : Thread × Choice} (owned : Owned state) (consistent : Consistent state)
    (stepped : Steps state action next) : Owned next := by
  obtain ⟨caller, choice⟩ := action
  obtain ⟨op, moved, locks, moves, applied, rfl⟩ := steps_iff.mp stepped
  -- the locks are no part of what is owned
  suffices after : Owned moved from
    ⟨⟨after.distinct, after.known, after.room, after.running⟩, after.discarded, after.exited,
      after.doomed⟩
  cases caller with
  | discovery => exact owned.discovery (discoveryMove_effect moves)
  | remover which =>
      exact owned.remover consistent (removerMove_spec moves) (removerMove_effect moves)
  | input handler =>
      exact owned.input (inputMove_spec moves) (Plugged.inputMove_handlers moves)
        (inputMove_running moves)

end Owned

section Runs

variable {state next last : State} {actions later : List (Thread × Choice)}
  {action : Thread × Choice}

theorem owned_of_run (run : Run Steps {} actions state) : Consistent state ∧ Owned state := by
  have kept : (fun current => Consistent current ∧ Owned current) state := by
    apply run.invariant ⟨consistent_start, owned_start⟩
    intro current action next inv stepped
    exact ⟨inv.1.step stepped, inv.2.step inv.1 stepped⟩
  exact kept

/-- The check of the limit and the insertion are two critical sections; still the list never gets
longer, not even with the handler that is under construction. -/
theorem existing_length_le (run : Run Steps {} actions state) :
    state.controllerHandlers.length ≤ MaxControllerHandlersSize ∧
      state.existing.length ≤ MaxControllerHandlersSize := by
  have room := (owned_of_run run).2.room
  have listed : state.controllerHandlers.Sublist state.existing := List.sublist_append_left _ _
  exact ⟨Nat.le_trans listed.length_le room, room⟩

def pluggedIn : State := (plugIn.foldlM step {}).getD {}

theorem run_pluggedIn : Run Steps {} plugIn pluggedIn := by
  apply Run.of_foldlM_some
  rfl

theorem pluggedIn_length_le :
    pluggedIn.controllerHandlers.length ≤ MaxControllerHandlersSize ∧
      pluggedIn.existing.length ≤ MaxControllerHandlersSize :=
  existing_length_le run_pluggedIn

/-- A new handler gets a number that none had. -/
theorem existing_step (stepped : Steps state action next) :
    state.fresh ≤ next.fresh ∧
      ∀ handler ∈ next.existing, handler ∈ state.existing ∨ handler.id = state.fresh := by
  obtain ⟨caller, choice⟩ := action
  obtain ⟨op, moved, locks, moves, applied, rfl⟩ := steps_iff.mp stepped
  suffices after : state.fresh ≤ moved.fresh ∧
      ∀ handler ∈ moved.existing, handler ∈ state.existing ∨ handler.id = state.fresh from after
  cases caller with
  | discovery =>
      cases (discoveryMove_effect moves).existing with
      | same existing fresh input =>
          rw [existing, fresh]
          exact ⟨Nat.le_refl _, fun _ member => Or.inl member⟩
      | creates handler newest existing fresh input room =>
          rw [existing, fresh]
          refine ⟨Nat.le_succ _, fun other member => (List.mem_append.mp member).imp_right ?_⟩
          intro new
          rw [List.mem_singleton.mp new, newest]
      | drops handler discards existing fresh input =>
          rw [existing, fresh]
          exact ⟨Nat.le_refl _, fun _ member => Or.inl (List.mem_append_left _ member)⟩
  | remover which =>
      have spec := removerMove_spec moves
      have remains : moved.existing ⊆ state.existing := by
        rw [State.existing, State.existing, spec.discovery]
        cases removerMove_effect moves with
        | same handlers doomed exits =>
            rw [handlers]
            exact List.Subset.refl _
        | erases handler later exits removing handlers before after =>
            rw [handlers]
            exact (List.erase_sublist.append_right _).subset
      rw [spec.fresh]
      exact ⟨Nat.le_refl _, fun _ member => Or.inl (remains member)⟩
  | input handler =>
      have spec := inputMove_spec moves
      rw [spec.fresh, State.existing, Plugged.inputMove_handlers moves, spec.discovery]
      exact ⟨Nat.le_refl _, fun _ member => Or.inl member⟩

/-- `id` is the number of a handler that has been destroyed. -/
def State.gone (state : State) (id : Nat) : Prop :=
  id < state.fresh ∧ ∀ handler ∈ state.existing, handler.id ≠ id

theorem State.gone.step {id : Nat} (gone : state.gone id) (stepped : Steps state action next) :
    next.gone id := by
  obtain ⟨fresh, existing⟩ := existing_step stepped
  refine ⟨Nat.lt_of_lt_of_le gone.1 fresh, ?_⟩
  intro handler member
  rcases existing handler member with old | new
  · exact gone.2 handler old
  · rw [new]
    exact (Nat.ne_of_lt gone.1).symm

/-- The input thread of a destroyed handler does not come back. -/
theorem State.gone.ended_step {id : Nat} (gone : state.gone id)
    (ended : (state.input id).ended = true) (stepped : Steps state action next) :
    (next.input id).ended = true := by
  obtain ⟨caller, choice⟩ := action
  obtain ⟨op, moved, locks, moves, applied, rfl⟩ := steps_iff.mp stepped
  suffices after : (moved.input id).ended = true from after
  cases caller with
  | discovery =>
      cases (discoveryMove_effect moves).existing with
      | same existing fresh input =>
          by_cases changed : moved.input id = state.input id
          · rwa [changed]
          · obtain ⟨handler, keeps, own⟩ := input id changed
            exact absurd own (gone.2 handler (State.kept_mem keeps))
      | creates handler newest existing fresh input room => rwa [input]
      | drops handler discards existing fresh input => rwa [input]
  | remover which => rwa [(removerMove_spec moves).input]
  | input running =>
      have other : id ≠ running := by
        rintro rfl
        rw [inputMove_running moves] at ended
        exact Bool.noConfusion ended
      rwa [(inputMove_spec moves).others id other]

/-- The step that destroys a handler finds its input thread at the end. -/
theorem ended_of_destroyed (owned : Owned state) (stepped : Steps state action next)
    {handler : Handler} (existed : handler ∈ state.existing)
    (destroyed : handler ∉ next.existing) : (state.input handler.id).ended = true := by
  obtain ⟨caller, choice⟩ := action
  obtain ⟨op, moved, locks, moves, applied, rfl⟩ := steps_iff.mp stepped
  have missing : handler ∉ moved.existing := destroyed
  cases caller with
  | discovery =>
      cases (discoveryMove_effect moves).existing with
      | same existing fresh input =>
          rw [existing] at missing
          exact absurd existed missing
      | creates created newest existing fresh input room =>
          rw [existing] at missing
          exact absurd (List.mem_append_left _ existed) missing
      | drops dropped discards existing fresh input =>
          rw [existing] at existed
          rcases List.mem_append.mp existed with stays | this
          · exact absurd stays missing
          · rw [List.mem_singleton.mp this]
            exact owned.discarded dropped discards
  | remover which =>
      have spec := removerMove_spec moves
      rw [State.existing, spec.discovery] at missing
      cases removerMove_effect moves with
      | same handlers doomed exits =>
          rw [handlers] at missing
          exact absurd existed missing
      | erases exiting later exits removing handlers before after =>
          by_cases this : handler = exiting
          · rw [this]
            exact owned.exited which exiting exits
          · rw [handlers] at missing
            rcases List.mem_append.mp existed with listed | kept
            · exact absurd (List.mem_append_left _ ((List.mem_erase_of_ne this).mpr listed)) missing
            · exact absurd (List.mem_append_right _ kept) missing
  | input running =>
      have spec := inputMove_spec moves
      rw [State.existing, Plugged.inputMove_handlers moves, spec.discovery] at missing
      exact absurd existed missing

end Runs

/-! `Clear` destroys every handler, as nothing is inserted while it has the lock. -/

/-- What the power thread has to destroy while it clears is what is on the list. -/
def RemoverPoint.clears (handlers : List Handler) : RemoverPoint → Prop
  | .idle => True
  | .atQuery | .querying => False
  | .atControllers removes => removes = .all
  | .removing removal => removal.doomed = handlers

def State.clears (state : State) : Prop :=
  (state.remover .power).clears state.controllerHandlers

theorem RemoverPoint.clears_outside {point : RemoverPoint} {handlers others : List Handler}
    (outside : point.held .controllerMutex = 0) (clears : point.clears handlers) :
    point.clears others := by
  cases point with
  | removing removal =>
      rw [held, removal.held_controllers] at outside
      exact absurd outside Nat.one_ne_zero
  | _ => exact clears

section Clear

variable {state next : State} {choice : Choice} {op : LockOp Lock}

/-- A removal by the power thread takes one handler off both lists, or none. -/
theorem clears_removal {removal : Removal} (point : state.remover .power = .removing removal)
    (clears : removal.doomed = state.controllerHandlers)
    (moved : removalMove state .power choice removal = some (op, next)) :
    (next.remover .power).clears next.controllerHandlers := by
  have effect := removalMove_effect point moved
  obtain ⟨base, target, rfl, goes, -⟩ := removalMove_cases moved
  have now : (base.goto .power target).remover .power = target := by
    simp only [State.goto, Function.update_self]
  cases effect with
  | same handlers doomed exits =>
      rw [now, handlers]
      cases target with
      | idle => trivial
      | removing removal' =>
          rcases doomed with before | ⟨removes, asked, _⟩
          · rw [now, point] at before
            exact before.trans clears
          · rw [point] at asked
            exact RemoverPoint.noConfusion asked
      | _ => cases goes
  | erases handler later exits removing handlers before after =>
      rw [point] at before
      rw [after, handlers, ← clears]
      exact (List.erase_cons_head handler later ▸ congrArg (List.erase · handler) before).symm

theorem clears_power (clears : state.clears)
    (moved : removerMove state .power choice = some (op, next)) : next.clears := by
  unfold State.clears at clears ⊢
  unfold removerMove at moved
  cases point : state.remover .power with
  | idle =>
      simp only [point, Option.some.injEq, Prod.mk.injEq] at moved
      obtain ⟨rfl, rfl⟩ := moved
      simp [State.goto, RemoverPoint.clears]
  | atControllers removes =>
      simp only [point, Option.some.injEq, Prod.mk.injEq] at moved
      obtain ⟨rfl, rfl⟩ := moved
      rw [point] at clears
      have all : removes = .all := clears
      simp [State.goto, RemoverPoint.clears, Removal.doomed, all, Removes.doomed]
  | removing removal =>
      simp only [point] at moved
      rw [point] at clears
      exact clears_removal point clears moved
  | _ =>
      rw [point] at clears
      exact clears.elim

theorem State.clears.step {action : Thread × Choice} (clears : state.clears)
    (consistent : Consistent state) (stepped : Steps state action next) : next.clears := by
  obtain ⟨caller, choice⟩ := action
  obtain ⟨op, moved, locks, moves, applied, rfl⟩ := steps_iff.mp stepped
  suffices after : moved.clears from after
  -- who changes the list has the lock, so the power thread does not clear
  have elsewhere (other : Thread) (foreign : other ≠ .remover .power)
      (holds : 0 < state.held other .controllerMutex)
      (same : moved.remover .power = state.remover .power) : moved.clears := by
    rw [State.clears, same]
    exact RemoverPoint.clears_outside (consistent.locking.exclusive holds foreign) clears
  have nowhere (handlers : moved.controllerHandlers = state.controllerHandlers)
      (same : moved.remover .power = state.remover .power) : moved.clears := by
    rw [State.clears, handlers, same]
    exact clears
  cases caller with
  | discovery =>
      have effect := discoveryMove_effect moves
      have same : moved.remover .power = state.remover .power := by rw [effect.remover]
      rcases effect.listed with handlers | ⟨_, holds⟩
      · exact nowhere handlers same
      · exact elsewhere .discovery (by simp) holds same
  | remover which =>
      cases which with
      | power => exact clears_power clears moves
      | change =>
          have same := (removerMove_spec moves).others .power (by simp)
          cases removerMove_effect moves with
          | same handlers doomed exits => exact nowhere handlers same
          | erases handler later exits removing handlers before after =>
              exact elsewhere (.remover .change) (by simp) removing same
  | input handler =>
      have spec := inputMove_spec moves
      exact nowhere (Plugged.inputMove_handlers moves) (by rw [spec.remover])

theorem clears_of_run {actions : List (Thread × Choice)} (run : Run Steps {} actions state) :
    state.clears := by
  have kept : (fun current => Consistent current ∧ current.clears) state := by
    apply run.invariant ⟨consistent_start, trivial⟩
    intro current action next inv stepped
    exact ⟨inv.1.step stepped, inv.2.step inv.1 stepped⟩
  exact kept.2

end Clear

end SysCon.Threads
