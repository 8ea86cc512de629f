import SysCon.Sysmodule.Threads

/-!
What one step of each thread can do: to the locks that it holds, to the points
of the other threads, and to the input threads that there are.
-/

namespace SysCon.Threads

open Library

/-! What one step does to the locks its thread holds. -/

@[simp] theorem change_stay (held : Lock → Nat) : LockOp.change held .stay = held := rfl

@[simp] theorem change_acquire_usb (usb controllers : Nat) :
    LockOp.change (counts usb controllers) (.acquire .usbMutex) = counts (usb + 1) controllers := by
  funext which
  cases which <;> rfl

@[simp] theorem change_release_usb (usb controllers : Nat) :
    LockOp.change (counts (usb + 1) controllers) (.release .usbMutex) = counts usb controllers := by
  funext which
  cases which <;> rfl

@[simp] theorem change_acquire_controllers (usb controllers : Nat) :
    LockOp.change (counts usb controllers) (.acquire .controllerMutex) =
      counts usb (controllers + 1) := by
  funext which
  cases which <;> rfl

@[simp] theorem change_release_controllers (usb controllers : Nat) :
    LockOp.change (counts usb (controllers + 1)) (.release .controllerMutex) =
      counts usb controllers := by
  funext which
  cases which <;> rfl

/-! Which input threads there can be. -/

def Work.creating : Work → Option Handler
  | .create handler => some handler
  | .query | .discard _ => none

def DiscoveryPoint.creating : DiscoveryPoint → Option Handler
  | .working work _ | .atNested work _ => work.creating
  | _ => none

/-- There is no input thread for a number that is still free, nor for the handler that is under
construction. -/
structure Unborn (state : State) : Prop where
  unborn : ∀ id, state.fresh ≤ id → state.input id = .absent
  creating : ∀ handler, state.discovery.creating = some handler →
    handler.id < state.fresh ∧ state.input handler.id = .absent

structure Born (state : State) : Prop extends Unborn state where
  discarding : ∀ handler, state.discovery = .exitThread handler →
    state.input handler.id = .absent ∨ state.input handler.id = .created
  unstarted : ∀ id, state.input id = .created →
    ∃ handler, state.discovery = .exitThread handler ∧ handler.id = id

theorem Born.allStarted {state : State} (born : Born state)
    (leaves : ∀ handler, state.discovery = .exitThread handler →
      (state.input handler.id).ended = true) (id : Nat) : state.input id ≠ .created := by
  intro created
  obtain ⟨handler, waits, rfl⟩ := born.unstarted id created
  have ended := leaves handler waits
  rw [created] at ended
  exact Bool.noConfusion ended

def DiscoveryPoint.atControllers : DiscoveryPoint → Bool
  | .atLimit | .atInsert _ => true
  | _ => false

/-- The next step of the discovery thread takes it to `controllerMutex`. -/
def reachesControllers (state : State) (choice : Choice) : Bool :=
  match state.discovery with
  | .working .query 0 => !choice.usbCall && choice.interfacesAvailable
  | .working (.create _) 0 => !choice.usbCall && choice.initThread = .started
  | _ => false

structure DiscoverySpec (state : State) (choice : Choice) (op : LockOp Lock) (next : State) :
    Prop where
  held : next.discovery.held = op.change state.discovery.held
  remover : next.remover = state.remover
  inputHeld : ∀ id, (next.input id).held = (state.input id).held
  reaches : next.discovery.atControllers = true → reachesControllers state choice = true
  unborn : Unborn next
  born : Born state → Born next

section Discovery

variable {state next : State} {choice : Choice} {op : LockOp Lock}

theorem DiscoverySpec.moves {point : DiscoveryPoint} (unborn : Unborn state)
    (held : point.held = op.change state.discovery.held)
    (reaches : point.atControllers = true → reachesControllers state choice = true)
    (creating : ∀ handler, point.creating = some handler →
      state.discovery.creating = some handler)
    (keeps : ∀ handler, point ≠ .exitThread handler)
    (leaves : ∀ handler, state.discovery = .exitThread handler →
      (state.input handler.id).ended = true) :
    DiscoverySpec state choice op { state with discovery := point } := by
  have still : Unborn { state with discovery := point } := by
    refine ⟨unborn.unborn, ?_⟩
    intro handler creates
    exact unborn.creating handler (creating handler creates)
  refine ⟨held, rfl, fun _ => rfl, reaches, still, fun born => ⟨still, ?_, ?_⟩⟩
  · intro handler discards
    exact absurd discards (keeps handler)
  · intro id created
    exact absurd created (born.allStarted leaves id)

theorem createHandler_spec (unborn : Unborn state) (point : state.discovery = .limit) :
    DiscoverySpec state choice (.release .controllerMutex) (createHandler state choice) := by
  unfold createHandler
  by_cases full : MaxControllerHandlersSize ≤ state.controllerHandlers.length
  · rw [if_pos full]
    exact .moves unborn (by rw [point]; simp [DiscoveryPoint.held])
      (by simp [DiscoveryPoint.atControllers]) (by simp [DiscoveryPoint.creating]) (by simp)
      (by simp [point])
  · rw [if_neg full]
    have still : Unborn { state with
        discovery := .working
          (.create ⟨state.fresh, choice.device.1 :: choice.device.2, List.cons_ne_nil _ _⟩) 0
        fresh := state.fresh + 1 } := by
      constructor
      · intro id later
        exact unborn.unborn id (Nat.le_of_succ_le later)
      · intro handler creates
        simp only [DiscoveryPoint.creating, Work.creating, Option.some.injEq] at creates
        rw [← creates]
        exact ⟨Nat.lt_succ_self _, unborn.unborn _ (Nat.le_refl _)⟩
    refine ⟨by rw [point]; simp [DiscoveryPoint.held], rfl, fun _ => rfl, ?_, still,
      fun born => ⟨still, ?_, ?_⟩⟩
    · simp [DiscoveryPoint.atControllers]
    · simp
    · intro id created
      exact absurd created (born.allStarted (by simp [point]) id)

/-- The thread of a new handler: its input changes for this handler only. -/
theorem initThread_unborn (unborn : Unborn state) {handler : Handler}
    (point : state.discovery = .working (.create handler) 0) :
    Unborn (finishWork state choice (.create handler)) := by
  obtain ⟨known, _⟩ := unborn.creating handler (by rw [point]; rfl)
  constructor
  · intro id later
    have other : id ≠ handler.id := Nat.ne_of_gt (Nat.lt_of_lt_of_le known later)
    exact (Function.update_of_ne other _ _).trans (unborn.unborn id later)
  · intro created creates
    have target : (finishWork state choice (.create handler)).discovery =
        if choice.initThread = .started then .atInsert handler else .exitThread handler := rfl
    rw [target] at creates
    by_cases started : choice.initThread = .started
    · simp [started, DiscoveryPoint.creating] at creates
    · simp [started, DiscoveryPoint.creating] at creates

theorem initThread_born (born : Born state) {handler : Handler}
    (point : state.discovery = .working (.create handler) 0) :
    Born (finishWork state choice (.create handler)) := by
  have others (id : Nat) (other : id ≠ handler.id) :
      Function.update state.input handler.id choice.initThread.point id = state.input id :=
    Function.update_of_ne other _ _
  have target : (finishWork state choice (.create handler)).discovery =
      if choice.initThread = .started then .atInsert handler else .exitThread handler := rfl
  refine { initThread_unborn born.toUnborn point with
    discarding := ?discarding
    unstarted := ?unstarted }
  case discarding =>
    intro discarded discards
    rw [target] at discards
    by_cases started : choice.initThread = .started
    · simp [started] at discards
    · simp only [if_neg started, DiscoveryPoint.exitThread.injEq] at discards
      rw [← discards]
      simp only [finishWork, Function.update_self]
      cases result : choice.initThread with
      | notReached => exact Or.inl rfl
      | notStarted => exact Or.inr rfl
      | started => exact absurd result started
  case unstarted =>
    intro id created
    by_cases own : id = handler.id
    · subst own
      simp only [finishWork, Function.update_self] at created
      have failed : choice.initThread ≠ .started := by
        intro started
        rw [started] at created
        exact InputPoint.noConfusion created
      exact ⟨handler, by rw [target, if_neg failed], rfl⟩
    · exact absurd ((others id own).symm.trans created) (born.allStarted (by simp [point]) id)

theorem initThread_spec (unborn : Unborn state) {handler : Handler}
    (point : state.discovery = .working (.create handler) 0) (quiet : choice.usbCall = false) :
    DiscoverySpec state choice .stay (finishWork state choice (.create handler)) := by
  obtain ⟨_, absent⟩ := unborn.creating handler (by rw [point]; rfl)
  have target : (finishWork state choice (.create handler)).discovery =
      if choice.initThread = .started then .atInsert handler else .exitThread handler := rfl
  constructor
  case held =>
    rw [target, point]
    by_cases started : choice.initThread = .started
    · rw [if_pos started]
      rfl
    · rw [if_neg started]
      rfl
  case remover => rfl
  case inputHeld =>
    intro id
    by_cases own : id = handler.id
    · rw [own, absent]
      simp only [finishWork, Function.update_self]
      cases choice.initThread <;> rfl
    · exact congrArg InputPoint.held (Function.update_of_ne own _ _)
  case reaches =>
    rw [target, reachesControllers, point]
    by_cases started : choice.initThread = .started
    · simp [started, quiet]
    · simp [started, DiscoveryPoint.atControllers]
  case unborn => exact initThread_unborn unborn point
  case born => exact fun born => initThread_born born point

theorem finishWork_spec (unborn : Unborn state) {work : Work}
    (point : state.discovery = .working work 0) (quiet : choice.usbCall = false) :
    DiscoverySpec state choice .stay (finishWork state choice work) := by
  have held : state.discovery.held = counts 1 0 := by rw [point]; rfl
  cases work with
  | create handler => exact initThread_spec unborn point quiet
  | discard handler =>
      exact .moves unborn held.symm (by simp [DiscoveryPoint.atControllers])
        (by simp [DiscoveryPoint.creating]) (by simp) (by simp [point])
  | query =>
      unfold finishWork
      cases found : choice.interfacesAvailable with
      | true =>
          refine .moves unborn held.symm ?_ (by simp [DiscoveryPoint.creating]) (by simp)
            (by simp [point])
          intro _
          rw [reachesControllers, point]
          simp [quiet, found]
      | false =>
          exact .moves unborn held.symm (by simp [DiscoveryPoint.atControllers])
            (by simp [DiscoveryPoint.creating]) (by simp) (by simp [point])

theorem working_spec (unborn : Unborn state) {work : Work} {nested : Nat}
    (point : state.discovery = .working work nested)
    (moved : discoveryMove state choice = some (op, next)) :
    DiscoverySpec state choice op next := by
  have goesOn (depth : Nat) : DiscoveryPoint.creating (.working work depth) =
      state.discovery.creating := by rw [point]; rfl
  have held : state.discovery.held = counts (nested + 1) 0 := by rw [point]; rfl
  unfold discoveryMove at moved
  simp only [point] at moved
  by_cases call : choice.usbCall = true
  · have calls : some (LockOp.stay, { state with discovery := .atNested work nested }) =
        some (op, next) := by
      cases nested <;> simpa only [if_pos call] using moved
    simp only [Option.some.injEq, Prod.mk.injEq] at calls
    obtain ⟨rfl, rfl⟩ := calls
    refine .moves unborn held.symm (by simp [DiscoveryPoint.atControllers]) ?_ (by simp)
      (by simp [point])
    intro handler creates
    rw [← goesOn nested]
    exact creates
  · cases nested with
    | succ nested =>
        simp only [if_neg call, Option.some.injEq, Prod.mk.injEq] at moved
        obtain ⟨rfl, rfl⟩ := moved
        refine .moves unborn ?_ (by simp [DiscoveryPoint.atControllers]) ?_ (by simp)
          (by simp [point])
        · rw [held, change_release_usb]
          rfl
        · intro handler creates
          rw [← goesOn nested]
          exact creates
    | zero =>
        simp only [if_neg call, Option.some.injEq, Prod.mk.injEq] at moved
        obtain ⟨rfl, rfl⟩ := moved
        have quiet : choice.usbCall = false := Bool.eq_false_iff.mpr call
        exact finishWork_spec unborn point quiet

theorem discoveryMove_spec (unborn : Unborn state)
    (moved : discoveryMove state choice = some (op, next)) :
    DiscoverySpec state choice op next := by
  cases point : state.discovery with
  | working work nested => exact working_spec unborn point moved
  | atNested work nested =>
      simp only [discoveryMove, point, Option.some.injEq, Prod.mk.injEq] at moved
      obtain ⟨rfl, rfl⟩ := moved
      refine .moves unborn ?_ (by simp [DiscoveryPoint.atControllers]) ?_ (by simp)
        (by simp [point])
      · rw [point]
        simp [DiscoveryPoint.held]
      · intro handler creates
        rw [point]
        exact creates
  | limit =>
      simp only [discoveryMove, point, Option.some.injEq, Prod.mk.injEq] at moved
      obtain ⟨rfl, rfl⟩ := moved
      exact createHandler_spec unborn point
  | inserting handler =>
      simp only [discoveryMove, point, Option.some.injEq, Prod.mk.injEq] at moved
      obtain ⟨rfl, rfl⟩ := moved
      have still : Unborn { state with
          discovery := .leaving
          controllerHandlers := state.controllerHandlers ++ [handler] } :=
        ⟨unborn.unborn, by simp [DiscoveryPoint.creating]⟩
      refine ⟨?_, rfl, fun _ => rfl, by simp [DiscoveryPoint.atControllers], still,
        fun born => ⟨still, by simp, ?_⟩⟩
      · rw [point]
        simp [DiscoveryPoint.held]
      · intro id created
        exact absurd created (born.allStarted (by simp [point]) id)
  | exitThread handler =>
      simp only [discoveryMove, point, Option.ite_none_right_eq_some, Option.some.injEq,
        Prod.mk.injEq] at moved
      obtain ⟨ended, rfl, rfl⟩ := moved
      refine .moves unborn (by rw [point]; rfl) (by simp [DiscoveryPoint.atControllers])
        (by simp [DiscoveryPoint.creating, Work.creating]) (by simp) ?_
      intro joined joins
      rw [point] at joins
      cases joins
      exact ended
  | _ =>
      simp only [discoveryMove, point, Option.some.injEq, Prod.mk.injEq] at moved
      obtain ⟨rfl, rfl⟩ := moved
      exact .moves unborn (by rw [point]; simp [DiscoveryPoint.held])
        (by simp [DiscoveryPoint.atControllers])
        (by simp [DiscoveryPoint.creating, Work.creating]) (by simp) (by simp [point])

end Discovery

/-! Removers. -/

/-- There are interfaces left to close. -/
def Removal.needsUsb : Removal → Bool
  | .next doomed => !doomed.isEmpty
  | .exiting _ toClose later => !toClose.isEmpty || !later.isEmpty
  | .exitThread _ _ | .atUsb _ _ _ _ | .inUsb _ _ _ _ => true

def RemoverPoint.needsUsb : RemoverPoint → Bool
  | .removing removal => removal.needsUsb
  | .idle | .atQuery | .querying | .atControllers _ => false

/-- What a remover that takes `controllerMutex` now has to destroy. -/
def State.handlersToDestroy (state : State) (which : Remover) : List Handler :=
  match state.remover which with
  | .atControllers removes => removes.doomed state.controllerHandlers
  | _ => []

structure RemoverSpec (state : State) (which : Remover) (op : LockOp Lock) (next : State) :
    Prop where
  held : (next.remover which).held = op.change (state.remover which).held
  others : ∀ other, other ≠ which → next.remover other = state.remover other
  discovery : next.discovery = state.discovery
  input : next.input = state.input
  fresh : next.fresh = state.fresh
  needsUsb : (state.remover which).needsUsb = false → state.handlersToDestroy which = [] →
    (next.remover which).needsUsb = false

section Removers

variable {state next : State} {which : Remover} {choice : Choice} {op : LockOp Lock}

theorem RemoverSpec.moves {base : State} {point : RemoverPoint}
    (held : point.held = op.change (state.remover which).held)
    (remover : base.remover = state.remover) (discovery : base.discovery = state.discovery)
    (input : base.input = state.input) (fresh : base.fresh = state.fresh)
    (needsUsb : (state.remover which).needsUsb = false → state.handlersToDestroy which = [] →
      point.needsUsb = false) :
    RemoverSpec state which op (base.goto which point) := by
  refine ⟨?_, ?_, discovery, input, fresh, ?_⟩
  · simp only [State.goto, Function.update_self, held]
  · intro other foreign
    simp only [State.goto, Function.update_of_ne foreign, remover]
  · simpa only [State.goto, Function.update_self] using needsUsb

inductive Removal.Goes : Removal → LockOp Lock → RemoverPoint → Prop
  | done : Goes (.next []) (.release .controllerMutex) .idle
  | stop (handler : Handler) (later : List Handler) :
      Goes (.next (handler :: later)) .stay (.removing (.exitThread handler later))
  | stopped (handler : Handler) (later : List Handler) :
      Goes (.exitThread handler later) .stay
        (.removing (.exiting handler handler.interfaces later))
  | exited (handler : Handler) (later : List Handler) :
      Goes (.exiting handler [] later) .stay (.removing (.next later))
  | calls (handler : Handler) (interface : Int) (rest toClose : List Int) (later : List Handler) :
      Goes (.exiting handler (interface :: rest) later) .stay
        (.removing (.atUsb handler toClose later 0))
  | locks (handler : Handler) (toClose : List Int) (later : List Handler) (nested : Nat) :
      Goes (.atUsb handler toClose later nested) (.acquire .usbMutex)
        (.removing (.inUsb handler toClose later nested))
  | nests (handler : Handler) (toClose : List Int) (later : List Handler) (nested : Nat) :
      Goes (.inUsb handler toClose later nested) .stay
        (.removing (.atUsb handler toClose later (nested + 1)))
  | unnests (handler : Handler) (toClose : List Int) (later : List Handler) (nested : Nat) :
      Goes (.inUsb handler toClose later (nested + 1)) (.release .usbMutex)
        (.removing (.inUsb handler toClose later nested))
  | unlocks (handler : Handler) (toClose : List Int) (later : List Handler) :
      Goes (.inUsb handler toClose later 0) (.release .usbMutex)
        (.removing (.exiting handler toClose later))

/-- A step of a removal changes its point, the flag of a thread that has to stop, and the list,
which loses the handler that has exited. -/
structure RemovalStep (state : State) (which : Remover) (removal : Removal) (op : LockOp Lock)
    (next base : State) (point : RemoverPoint) : Prop where
  next : next = base.goto which point
  goes : removal.Goes op point
  remover : base.remover = state.remover
  discovery : base.discovery = state.discovery
  input : base.input = state.input
  fresh : base.fresh = state.fresh
  handlers : base.controllerHandlers ⊆ state.controllerHandlers

theorem removalMove_cases {removal : Removal}
    (moved : removalMove state which choice removal = some (op, next)) :
    ∃ base point, RemovalStep state which removal op next base point := by
  have same := List.Subset.refl state.controllerHandlers
  cases removal with
  | next doomed =>
      cases doomed with
      | nil =>
          simp only [removalMove, Option.some.injEq, Prod.mk.injEq] at moved
          obtain ⟨rfl, rfl⟩ := moved
          exact ⟨state, _, rfl, .done, rfl, rfl, rfl, rfl, same⟩
      | cons handler later =>
          simp only [removalMove, Option.some.injEq, Prod.mk.injEq] at moved
          obtain ⟨rfl, rfl⟩ := moved
          exact ⟨_, _, rfl, .stop handler later, rfl, rfl, rfl, rfl, same⟩
  | exitThread handler later =>
      simp only [removalMove, Option.ite_none_right_eq_some, Option.some.injEq,
        Prod.mk.injEq] at moved
      obtain ⟨_, rfl, rfl⟩ := moved
      exact ⟨state, _, rfl, .stopped handler later, rfl, rfl, rfl, rfl, same⟩
  | exiting handler toClose later =>
      cases toClose with
      | nil =>
          simp only [removalMove, Option.some.injEq, Prod.mk.injEq] at moved
          obtain ⟨rfl, rfl⟩ := moved
          exact ⟨_, _, rfl, .exited handler later, rfl, rfl, rfl, rfl, List.erase_subset⟩
      | cons interface rest =>
          simp only [removalMove] at moved
          split at moved <;>
            (simp only [Option.some.injEq, Prod.mk.injEq] at moved
             obtain ⟨rfl, rfl⟩ := moved
             exact ⟨state, _, rfl, .calls handler interface rest _ later, rfl, rfl, rfl, rfl, same⟩)
  | atUsb handler toClose later nested =>
      simp only [removalMove, Option.some.injEq, Prod.mk.injEq] at moved
      obtain ⟨rfl, rfl⟩ := moved
      exact ⟨state, _, rfl, .locks handler toClose later nested, rfl, rfl, rfl, rfl, same⟩
  | inUsb handler toClose later nested =>
      by_cases call : choice.usbCall = true
      · simp only [removalMove, if_pos call, Option.some.injEq, Prod.mk.injEq] at moved
        obtain ⟨rfl, rfl⟩ := moved
        exact ⟨state, _, rfl, .nests handler toClose later nested, rfl, rfl, rfl, rfl, same⟩
      · cases nested with
        | zero =>
            simp only [removalMove, if_neg call, Option.some.injEq, Prod.mk.injEq] at moved
            obtain ⟨rfl, rfl⟩ := moved
            exact ⟨state, _, rfl, .unlocks handler toClose later, rfl, rfl, rfl, rfl, same⟩
        | succ nested =>
            simp only [removalMove, if_neg call, Option.some.injEq, Prod.mk.injEq] at moved
            obtain ⟨rfl, rfl⟩ := moved
            exact ⟨state, _, rfl, .unnests handler toClose later nested, rfl, rfl, rfl, rfl, same⟩

theorem removalMove_spec {removal : Removal} (point : state.remover which = .removing removal)
    (moved : removalMove state which choice removal = some (op, next)) :
    RemoverSpec state which op next := by
  obtain ⟨base, target, rfl, goes, remover, discovery, input, fresh, _⟩ :=
    removalMove_cases moved
  have held : target.held = op.change (state.remover which).held := by
    rw [point]
    cases goes <;> simp [RemoverPoint.held, Removal.held]
  refine .moves held remover discovery input fresh ?_
  rw [point]
  intro quiet _
  cases goes with
  | done => rfl
  | exited handler later => simpa [RemoverPoint.needsUsb, Removal.needsUsb] using quiet
  | _ => simp [RemoverPoint.needsUsb, Removal.needsUsb] at quiet

theorem removerMove_spec (moved : removerMove state which choice = some (op, next)) :
    RemoverSpec state which op next := by
  unfold removerMove at moved
  cases point : state.remover which with
  | idle =>
      simp only [point] at moved
      cases which with
      | change =>
          simp only [Option.some.injEq, Prod.mk.injEq] at moved
          obtain ⟨rfl, rfl⟩ := moved
          exact .moves (by rw [point]; rfl) rfl rfl rfl rfl (fun _ _ => rfl)
      | power =>
          simp only [Option.some.injEq, Prod.mk.injEq] at moved
          obtain ⟨rfl, rfl⟩ := moved
          exact .moves (by rw [point]; rfl) rfl rfl rfl rfl (fun _ _ => rfl)
  | atControllers removes =>
      simp only [point, Option.some.injEq, Prod.mk.injEq] at moved
      obtain ⟨rfl, rfl⟩ := moved
      refine .moves ?_ rfl rfl rfl rfl ?_
      · rw [point]
        simp [RemoverPoint.held, Removal.held]
      · intro _ nothing
        rw [State.handlersToDestroy, point] at nothing
        simp only at nothing
        rw [nothing]
        rfl
  | removing removal =>
      simp only [point] at moved
      exact removalMove_spec point moved
  | _ =>
      simp only [point, Option.some.injEq, Prod.mk.injEq] at moved
      obtain ⟨rfl, rfl⟩ := moved
      exact .moves (by rw [point]; simp [RemoverPoint.held]) rfl rfl rfl rfl (fun _ _ => rfl)

end Removers

/-! Input threads. -/

/-- What a step of an input thread can do. -/
structure InputSpec (state : State) (handler : Nat) (op : LockOp Lock) (next : State) : Prop where
  held : (next.input handler).held = op.change (state.input handler).held
  others : ∀ other, other ≠ handler → next.input other = state.input other
  discovery : next.discovery = state.discovery
  remover : next.remover = state.remover
  fresh : next.fresh = state.fresh
  alive : state.input handler ≠ .absent ∧ state.input handler ≠ .created
  started : next.input handler ≠ .created

section Inputs

variable {state next : State} {handler : Nat} {choice : Choice} {op : LockOp Lock}

theorem InputSpec.moves {point : InputPoint}
    (held : point.held = op.change (state.input handler).held)
    (alive : state.input handler ≠ .absent ∧ state.input handler ≠ .created)
    (started : point ≠ .created) :
    InputSpec state handler op
      { state with input := Function.update state.input handler point } := by
  refine ⟨?_, ?_, rfl, rfl, rfl, alive, ?_⟩
  · simp only [Function.update_self, held]
  · intro other foreign
    exact Function.update_of_ne foreign _ _
  · simpa only [Function.update_self] using started

theorem inputMove_spec (moved : inputMove state handler choice = some (op, next)) :
    InputSpec state handler op next := by
  unfold inputMove at moved
  cases point : state.input handler with
  | looping =>
      have alive : state.input handler ≠ .absent ∧ state.input handler ≠ .created := by
        simp [point]
      simp only [point] at moved
      by_cases call : choice.usbCall = true
      · simp only [if_pos call, Option.some.injEq, Prod.mk.injEq] at moved
        obtain ⟨rfl, rfl⟩ := moved
        exact .moves (by rw [point]; rfl) alive (by simp)
      · by_cases running : state.threadIsRunning handler = true
        · simp only [if_neg call, if_pos running, Option.some.injEq, Prod.mk.injEq] at moved
          obtain ⟨rfl, rfl⟩ := moved
          exact ⟨rfl, fun _ _ => rfl, rfl, rfl, rfl, alive, alive.2⟩
        · simp only [if_neg call, if_neg running, Option.some.injEq, Prod.mk.injEq] at moved
          obtain ⟨rfl, rfl⟩ := moved
          exact .moves (by rw [point]; rfl) alive (by simp)
  | atUsb =>
      simp only [point, Option.some.injEq, Prod.mk.injEq] at moved
      obtain ⟨rfl, rfl⟩ := moved
      exact .moves (by rw [point]; simp [InputPoint.held]) (by simp [point]) (by simp)
  | inUsb =>
      simp only [point, Option.some.injEq, Prod.mk.injEq] at moved
      obtain ⟨rfl, rfl⟩ := moved
      exact .moves (by rw [point]; simp [InputPoint.held]) (by simp [point]) (by simp)
  | _ => simp [point] at moved

end Inputs

end SysCon.Threads
