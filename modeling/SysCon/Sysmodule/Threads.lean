import SysCon.Library.Runs
import SysCon.Library.WaitGraph

/-!
The threads of the sysmodule and the two locks between them. The discovery
thread keeps `usbMutex` while it creates a controller and hands it over under
`controllerMutex`. The interface change thread and the power thread destroy
controllers under `controllerMutex`; that waits for the controller's input
thread and takes `usbMutex`. Every USB call of an input thread takes it too.
-/

namespace SysCon.Threads

open Library

def MaxControllerHandlersSize : Nat := 10

inductive Lock
  | usbMutex
  | controllerMutex
  deriving DecidableEq, Repr

def Lock.recursive : Lock → Bool
  | .usbMutex => true
  | .controllerMutex => false

/-- The threads that destroy controllers: `UsbInterfaceChangeThreadFunc` and `PscThreadFunc`. -/
inductive Remover
  | change
  | power
  deriving DecidableEq, Repr

inductive Thread
  | discovery
  | remover (which : Remover)
  | input (handler : Nat)
  deriving DecidableEq, Repr

/-- A handler has opened at least one interface. -/
structure Handler where
  id : Nat
  interfaces : List Int
  opened : interfaces ≠ []
  deriving DecidableEq, Repr

/-- What `RemoveAllNonPlugged` and `Clear` destroy. -/
inductive Removes
  | allNonPlugged (interfaceIDsPlugged : List Int)
  | all
  deriving DecidableEq, Repr

def Removes.doomed : Removes → List Handler → List Handler
  | .allNonPlugged interfaceIDsPlugged, handlers =>
      handlers.filter fun handler => !handler.interfaces.any interfaceIDsPlugged.contains
  | .all, handlers => handlers

/-! The points at which a thread can be. `nested` counts the locks of `usbMutex` that the calls
under way hold on top of each other. -/

inductive Work
  | query
  | create (handler : Handler)
  | discard (handler : Handler)
  deriving DecidableEq, Repr

inductive DiscoveryPoint
  | waitObjects
  | atUsb
  | working (work : Work) (nested : Nat)
  | atNested (work : Work) (nested : Nat)
  | atLimit
  | limit
  | atInsert (handler : Handler)
  | inserting (handler : Handler)
  | exitThread (handler : Handler)
  | leaving
  deriving DecidableEq, Repr

/-- Destroying handlers, `later` being those after the current one. -/
inductive Removal
  | next (doomed : List Handler)
  | exitThread (handler : Handler) (later : List Handler)
  | exiting (handler : Handler) (toClose : List Int) (later : List Handler)
  | atUsb (handler : Handler) (toClose : List Int) (later : List Handler) (nested : Nat)
  | inUsb (handler : Handler) (toClose : List Int) (later : List Handler) (nested : Nat)
  deriving DecidableEq, Repr

inductive RemoverPoint
  | idle
  | atQuery
  | querying
  | atControllers (removes : Removes)
  | removing (removal : Removal)
  deriving DecidableEq, Repr

/-- `created` is a thread that could not be started. -/
inductive InputPoint
  | absent
  | created
  | looping
  | atUsb
  | inUsb
  | finished
  deriving DecidableEq, Repr

structure State where
  locks : Lock → Mutex Thread := fun _ => none
  controllerHandlers : List Handler := []
  fresh : Nat := 0
  threadIsRunning : Nat → Bool := fun _ => false
  discovery : DiscoveryPoint := .waitObjects
  remover : Remover → RemoverPoint := fun _ => .idle
  input : Nat → InputPoint := fun _ => .absent

/-! What the points hold and what they ask for. -/

def counts (usb controllers : Nat) : Lock → Nat
  | .usbMutex => usb
  | .controllerMutex => controllers

def DiscoveryPoint.held : DiscoveryPoint → Lock → Nat
  | .waitObjects | .atUsb => counts 0 0
  | .working _ nested | .atNested _ nested => counts (nested + 1) 0
  | .atLimit | .atInsert _ | .exitThread _ | .leaving => counts 1 0
  | .limit | .inserting _ => counts 1 1

def Removal.held : Removal → Lock → Nat
  | .next _ | .exitThread _ _ | .exiting _ _ _ => counts 0 1
  | .atUsb _ _ _ nested => counts nested 1
  | .inUsb _ _ _ nested => counts (nested + 1) 1

def RemoverPoint.held : RemoverPoint → Lock → Nat
  | .idle | .atQuery | .atControllers _ => counts 0 0
  | .querying => counts 1 0
  | .removing removal => removal.held

def InputPoint.held : InputPoint → Lock → Nat
  | .inUsb => counts 1 0
  | .absent | .created | .looping | .atUsb | .finished => counts 0 0

def State.held (state : State) : Thread → Lock → Nat
  | .discovery => state.discovery.held
  | .remover which => (state.remover which).held
  | .input handler => (state.input handler).held

def DiscoveryPoint.wants : DiscoveryPoint → Want Thread Lock
  | .atUsb | .atNested _ _ => .lock .usbMutex
  | .atLimit | .atInsert _ => .lock .controllerMutex
  | .exitThread handler => .exit (.input handler.id)
  | .waitObjects | .working _ _ | .limit | .inserting _ | .leaving => .nothing

def RemoverPoint.wants : RemoverPoint → Want Thread Lock
  | .atQuery | .removing (.atUsb _ _ _ _) => .lock .usbMutex
  | .atControllers _ => .lock .controllerMutex
  | .removing (.exitThread handler _) => .exit (.input handler.id)
  | .idle | .querying | .removing (.next _) | .removing (.exiting _ _ _)
  | .removing (.inUsb _ _ _ _) => .nothing

def InputPoint.wants : InputPoint → Want Thread Lock
  | .atUsb => .lock .usbMutex
  | .absent | .created | .looping | .inUsb | .finished => .nothing

def State.wants (state : State) : Thread → Want Thread Lock
  | .discovery => state.discovery.wants
  | .remover which => (state.remover which).wants
  | .input handler => (state.input handler).wants

/-- `threadWaitForExit` returns at once for a thread that does not exist. -/
def InputPoint.ended : InputPoint → Bool
  | .absent | .finished => true
  | .created | .looping | .atUsb | .inUsb => false

def State.ended (state : State) : Thread → Prop
  | .input handler => (state.input handler).ended = true
  | .discovery | .remover _ => False

def State.waits (state : State) : Thread → Thread → Prop :=
  Waits Lock.recursive state.locks state.wants state.ended

/-! Steps. A step of a thread gives the next state and what happens to the locks. -/

/-- What `InitThread` leaves behind; nothing when `Initialize` failed before it. -/
inductive InitThread
  | notReached
  | notStarted
  | started
  deriving DecidableEq, Repr

def InitThread.point : InitThread → InputPoint
  | .notReached => .absent
  | .notStarted => .created
  | .started => .looping

/-- The results of the calls into the system, and whether a thread makes another USB call. -/
structure Choice where
  usbCall : Bool := false
  interfacesAvailable : Bool := false
  device : Int × List Int := (0, [])
  initThread : InitThread := .notReached
  interfaceIDsPlugged : List Int := []
  deriving Repr

def createHandler (state : State) (choice : Choice) : State :=
  if MaxControllerHandlersSize ≤ state.controllerHandlers.length then
    { state with discovery := .leaving }
  else
    { state with
      discovery := .working
        (.create ⟨state.fresh, choice.device.1 :: choice.device.2, List.cons_ne_nil _ _⟩) 0
      fresh := state.fresh + 1 }

def finishWork (state : State) (choice : Choice) : Work → State
  | .query =>
      { state with discovery := if choice.interfacesAvailable then .atLimit else .leaving }
  | .create handler =>
      { state with
        discovery :=
          if choice.initThread = .started then .atInsert handler else .exitThread handler
        threadIsRunning :=
          Function.update state.threadIsRunning handler.id (choice.initThread = .started)
        input := Function.update state.input handler.id choice.initThread.point }
  | .discard _ => { state with discovery := .leaving }

/-- `UsbEventThreadFunc`. -/
def discoveryMove (state : State) (choice : Choice) : Option (LockOp Lock × State) :=
  match state.discovery with
  | .waitObjects => some (.stay, { state with discovery := .atUsb })
  | .atUsb => some (.acquire .usbMutex, { state with discovery := .working .query 0 })
  | .working work 0 =>
      if choice.usbCall then some (.stay, { state with discovery := .atNested work 0 })
      else some (.stay, finishWork state choice work)
  | .working work (nested + 1) =>
      if choice.usbCall then some (.stay, { state with discovery := .atNested work (nested + 1) })
      else some (.release .usbMutex, { state with discovery := .working work nested })
  | .atNested work nested =>
      some (.acquire .usbMutex, { state with discovery := .working work (nested + 1) })
  | .atLimit => some (.acquire .controllerMutex, { state with discovery := .limit })
  | .limit => some (.release .controllerMutex, createHandler state choice)
  | .atInsert handler =>
      some (.acquire .controllerMutex, { state with discovery := .inserting handler })
  | .inserting handler =>
      some (.release .controllerMutex,
        { state with
          discovery := .leaving
          controllerHandlers := state.controllerHandlers ++ [handler] })
  | .exitThread handler =>
      if (state.input handler.id).ended then
        some (.stay, { state with discovery := .working (.discard handler) 0 })
      else none
  | .leaving => some (.release .usbMutex, { state with discovery := .waitObjects })

def State.goto (state : State) (which : Remover) (point : RemoverPoint) : State :=
  { state with remover := Function.update state.remover which point }

/-- Destroying the handlers of `controllerHandlers`: `Exit` of each, then the next one. -/
def removalMove (state : State) (which : Remover) (choice : Choice) :
    Removal → Option (LockOp Lock × State)
  | .next [] => some (.release .controllerMutex, state.goto which .idle)
  | .next (handler :: later) =>
      some (.stay,
        { state with
          threadIsRunning := Function.update state.threadIsRunning handler.id false }.goto which
            (.removing (.exitThread handler later)))
  | .exitThread handler later =>
      if (state.input handler.id).ended then
        some (.stay, state.goto which (.removing (.exiting handler handler.interfaces later)))
      else none
  | .exiting handler [] later =>
      some (.stay,
        { state with controllerHandlers := state.controllerHandlers.erase handler }.goto which
          (.removing (.next later)))
  | .exiting handler (interface :: rest) later =>
      if choice.usbCall then
        some (.stay, state.goto which (.removing (.atUsb handler (interface :: rest) later 0)))
      else some (.stay, state.goto which (.removing (.atUsb handler rest later 0)))
  | .atUsb handler toClose later nested =>
      some (.acquire .usbMutex,
        state.goto which (.removing (.inUsb handler toClose later nested)))
  | .inUsb handler toClose later nested =>
      if choice.usbCall then
        some (.stay, state.goto which (.removing (.atUsb handler toClose later (nested + 1))))
      else
        match nested with
        | 0 =>
            some (.release .usbMutex,
              state.goto which (.removing (.exiting handler toClose later)))
        | nested + 1 =>
            some (.release .usbMutex,
              state.goto which (.removing (.inUsb handler toClose later nested)))

/-- `UsbInterfaceChangeThreadFunc` and `PscThreadFunc`. -/
def removerMove (state : State) (which : Remover) (choice : Choice) :
    Option (LockOp Lock × State) :=
  match state.remover which with
  | .idle =>
      match which with
      | .change => some (.stay, state.goto which .atQuery)
      | .power => some (.stay, state.goto which (.atControllers .all))
  | .atQuery => some (.acquire .usbMutex, state.goto which .querying)
  | .querying =>
      some (.release .usbMutex,
        state.goto which (.atControllers (.allNonPlugged choice.interfaceIDsPlugged)))
  | .atControllers removes =>
      some (.acquire .controllerMutex,
        state.goto which (.removing (.next (removes.doomed state.controllerHandlers))))
  | .removing removal => removalMove state which choice removal

/-- `OnRun`. -/
def inputMove (state : State) (handler : Nat) (choice : Choice) : Option (LockOp Lock × State) :=
  match state.input handler with
  | .absent | .created | .finished => none
  | .looping =>
      if choice.usbCall then
        some (.stay, { state with input := Function.update state.input handler .atUsb })
      else if state.threadIsRunning handler then some (.stay, state)
      else some (.stay, { state with input := Function.update state.input handler .finished })
  | .atUsb =>
      some (.acquire .usbMutex, { state with input := Function.update state.input handler .inUsb })
  | .inUsb =>
      some (.release .usbMutex,
        { state with input := Function.update state.input handler .looping })

def move (state : State) (caller : Thread) (choice : Choice) : Option (LockOp Lock × State) :=
  match caller with
  | .discovery => discoveryMove state choice
  | .remover which => removerMove state which choice
  | .input handler => inputMove state handler choice

/-- A thread's next step; none while it waits. -/
def step (state : State) (action : Thread × Choice) : Option State :=
  match move state action.1 action.2 with
  | none => none
  | some (op, next) =>
      (op.apply Lock.recursive state.locks action.1).map fun locks => { next with locks }

def Steps (state : State) (action : Thread × Choice) (next : State) : Prop :=
  step state action = some next

theorem steps_iff {state next : State} {caller : Thread} {choice : Choice} :
    Steps state (caller, choice) next ↔
      ∃ op moved locks, move state caller choice = some (op, moved) ∧
        op.apply Lock.recursive state.locks caller = some locks ∧
        next = { moved with locks } := by
  unfold Steps step
  cases moves : move state caller choice with
  | none => simp
  | some result =>
      obtain ⟨op, moved⟩ := result
      simp only [Option.map_eq_some_iff]
      constructor
      · rintro ⟨locks, applied, rfl⟩
        exact ⟨op, moved, locks, rfl, applied, rfl⟩
      · rintro ⟨_, _, locks, same, applied, rfl⟩
        simp only [Option.some.injEq, Prod.mk.injEq] at same
        obtain ⟨rfl, rfl⟩ := same
        exact ⟨locks, applied, rfl⟩

theorem steps_stay {state next : State} {caller : Thread} {choice : Choice}
    (moves : move state caller choice = some (.stay, next)) (locks : next.locks = state.locks) :
    Steps state (caller, choice) next := by
  rw [steps_iff]
  refine ⟨.stay, next, state.locks, moves, rfl, ?_⟩
  rw [← locks]

end SysCon.Threads
