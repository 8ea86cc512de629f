import SysCon.Sysmodule.ThreadSteps

/-!
The interfaces that handlers have acquired, beside the threads. The change
thread reads them under `usbMutex`, gives the lock back and then removes, under
`controllerMutex`, every handler that its reading does not name. A handler that
is inserted in between is removed although it is plugged.
-/

namespace SysCon.Plugged

open Library
open Threads (Handler Remover RemoverPoint Removal Removes Choice Thread DiscoveryPoint Work)

/-- `acquired` holds the number of a handler and the ID of an interface that it has a session of. -/
structure State where
  threads : Threads.State := {}
  acquired : List (Nat × Int) := []

inductive Event
  | move (caller : Thread) (choice : Choice)
  | acquire (interfaceID : Int)
  | lose (handler : Nat) (interfaceID : Int)

/-- A thread moves; `SwitchUSBInterface::Open` of the handler under construction acquires one of its
interfaces, under its own lock of `usbMutex`; an interface is closed or its device goes away. -/
def step (state : State) : Event → Option State
  | .move caller choice =>
      (Threads.step state.threads (caller, choice)).map fun threads => { state with threads }
  | .acquire interfaceID =>
      match state.threads.discovery with
      | .working (.create handler) (_ + 1) =>
          if interfaceID ∈ handler.interfaces then
            some { state with acquired := (handler.id, interfaceID) :: state.acquired }
          else none
      | _ => none
  | .lose handler interfaceID =>
      some { state with acquired := state.acquired.filter (· ≠ (handler, interfaceID)) }

def Happens (state : State) (event : Event) (next : State) : Prop := step state event = some next

def plugged (acquired : List (Nat × Int)) (handler : Handler) : Bool :=
  handler.interfaces.any fun interfaceID => acquired.contains (handler.id, interfaceID)

def named (interfaceIDsPlugged : List Int) (handler : Handler) : Bool :=
  handler.interfaces.any interfaceIDsPlugged.contains

/-- `RemoveAllNonPlugged` destroys a handler that has an acquired interface. -/
def RemovesPlugged (state : State) : Prop :=
  ∃ handler later, state.threads.remover .change = .removing (.next (handler :: later)) ∧
    plugged state.acquired handler = true

/-- The reading names every inserted handler that has an acquired interface, and so it does for a
handler that is inserted between the reading and the removal. -/
def allows (state : State) : Event → Bool
  | .move (.remover .change) choice =>
      match state.threads.remover .change with
      | .querying => state.threads.controllerHandlers.all fun handler =>
          !plugged state.acquired handler || named choice.interfaceIDsPlugged handler
      | _ => true
  | .move .discovery _ =>
      match state.threads.discovery, state.threads.remover .change with
      | .inserting handler, .atControllers (.allNonPlugged interfaceIDsPlugged) =>
          !plugged state.acquired handler || named interfaceIDsPlugged handler
      | _, _ => true
  | _ => true

def Allowed (state : State) (event : Event) : Prop := allows state event = true

instance (state : State) (event : Event) : Decidable (Allowed state event) :=
  inferInstanceAs (Decidable (allows state event = true))

/-! What a step does to the handlers, those listed and those on their way in or out. -/

def pending : DiscoveryPoint → Option Handler
  | .working work _ => work.creating
  | .atNested work _ => work.creating
  | .atInsert handler => some handler
  | .inserting handler => some handler
  | _ => none

def awaiting : RemoverPoint → List Handler
  | .removing (.next doomed) => doomed
  | .removing (.exitThread _ later) => later
  | .removing (.exiting _ _ later) => later
  | .removing (.atUsb _ _ later _) => later
  | .removing (.inUsb _ _ later _) => later
  | _ => []

section Moves

variable {state next : Threads.State} {choice : Choice} {op : LockOp Threads.Lock}

inductive DiscoveryChange (state next : Threads.State) : Prop
  | stays (handlers : next.controllerHandlers = state.controllerHandlers)
      (fresh : next.fresh = state.fresh)
      (pends : ∀ handler, pending next.discovery = some handler →
        pending state.discovery = some handler)
  | creates (handlers : next.controllerHandlers = state.controllerHandlers)
      (fresh : next.fresh = state.fresh + 1)
      (pends : ∀ handler, pending next.discovery = some handler → handler.id = state.fresh)
  | inserts (handler : Handler) (inserting : state.discovery = .inserting handler)
      (handlers : next.controllerHandlers = state.controllerHandlers ++ [handler])
      (fresh : next.fresh = state.fresh) (pends : pending next.discovery = none)

/-- The work that was finished leaves at most the handler that it was creating. -/
theorem finishWork_change {work : Work} {nested : Nat}
    (point : state.discovery = .working work nested) :
    DiscoveryChange state (Threads.finishWork state choice work) := by
  cases work with
  | query =>
      refine .stays rfl rfl ?_
      intro handler pends
      by_cases found : choice.interfacesAvailable = true <;>
        simp [Threads.finishWork, pending, found] at pends
  | create created =>
      refine .stays rfl rfl ?_
      intro handler pends
      rw [point]
      by_cases started : choice.initThread = .started
      · simpa [Threads.finishWork, pending, started, Work.creating] using pends
      · simp [Threads.finishWork, pending, started] at pends
  | discard _ => exact .stays rfl rfl (by simp [Threads.finishWork, pending])

theorem finishWork_remover (work : Work) :
    (Threads.finishWork state choice work).remover = state.remover := by
  cases work <;> rfl

theorem discoveryMove_change (moved : Threads.discoveryMove state choice = some (op, next)) :
    next.remover = state.remover ∧ DiscoveryChange state next := by
  unfold Threads.discoveryMove at moved
  cases point : state.discovery with
  | working work nested =>
      by_cases call : choice.usbCall = true
      · have calls : some (LockOp.stay, { state with discovery := .atNested work nested }) =
            some (op, next) := by
          cases nested <;> simpa [point, call] using moved
        simp only [Option.some.injEq, Prod.mk.injEq] at calls
        obtain ⟨rfl, rfl⟩ := calls
        exact ⟨rfl, .stays rfl rfl (by rw [point]; exact fun _ same => same)⟩
      · cases nested with
        | succ nested =>
            simp only [point, if_neg call, Option.some.injEq, Prod.mk.injEq] at moved
            obtain ⟨rfl, rfl⟩ := moved
            exact ⟨rfl, .stays rfl rfl (by rw [point]; exact fun _ same => same)⟩
        | zero =>
            simp only [point, if_neg call, Option.some.injEq, Prod.mk.injEq] at moved
            obtain ⟨rfl, rfl⟩ := moved
            exact ⟨finishWork_remover work, finishWork_change point⟩
  | limit =>
      simp only [point, Option.some.injEq, Prod.mk.injEq] at moved
      obtain ⟨rfl, rfl⟩ := moved
      unfold Threads.createHandler
      split
      · exact ⟨rfl, .stays rfl rfl (by simp [pending])⟩
      · refine ⟨rfl, .creates rfl rfl ?_⟩
        intro handler pends
        simp only [pending, Work.creating, Option.some.injEq] at pends
        rw [← pends]
  | inserting handler =>
      simp only [point, Option.some.injEq, Prod.mk.injEq] at moved
      obtain ⟨rfl, rfl⟩ := moved
      exact ⟨rfl, .inserts handler point rfl rfl rfl⟩
  | exitThread handler =>
      simp only [point, Option.ite_none_right_eq_some, Option.some.injEq, Prod.mk.injEq] at moved
      obtain ⟨_, rfl, rfl⟩ := moved
      exact ⟨rfl, .stays rfl rfl (by simp [pending, Work.creating])⟩
  | _ =>
      simp only [point, Option.some.injEq, Prod.mk.injEq] at moved
      obtain ⟨rfl, rfl⟩ := moved
      exact ⟨rfl, .stays rfl rfl (by rw [point]; simp [pending, Work.creating])⟩

/-- What a remover does with the handlers; only the power thread asks for all of them. -/
structure RemoverChange (state : Threads.State) (which : Remover) (choice : Choice)
    (next : Threads.State) : Prop where
  handlers : next.controllerHandlers ⊆ state.controllerHandlers
  awaits : (∃ removes, state.remover which = .atControllers removes ∧
      next.remover which =
        .removing (.next (removes.doomed state.controllerHandlers))) ∨
    awaiting (next.remover which) ⊆ awaiting (state.remover which)
  asks : ∀ removes, next.remover which = .atControllers removes →
    which = .power ∨ state.remover which = .querying ∧
      removes = .allNonPlugged choice.interfaceIDsPlugged

theorem RemoverChange.moves {which : Remover} {base : Threads.State} {point : RemoverPoint}
    (handlers : base.controllerHandlers ⊆ state.controllerHandlers)
    (awaits : awaiting point ⊆ awaiting (state.remover which))
    (asks : ∀ removes, point ≠ .atControllers removes) :
    RemoverChange state which choice (base.goto which point) := by
  have now : (base.goto which point).remover which = point := Function.update_self _ _ _
  refine ⟨handlers, Or.inr (by rw [now]; exact awaits), ?_⟩
  intro removes asked
  rw [now] at asked
  exact absurd asked (asks removes)

theorem removalMove_change {which : Remover} {removal : Removal}
    (point : state.remover which = .removing removal)
    (moved : Threads.removalMove state which choice removal = some (op, next)) :
    RemoverChange state which choice next := by
  obtain ⟨base, target, rfl, goes, _, _, _, _, handlers⟩ := Threads.removalMove_cases moved
  refine .moves handlers ?_ ?_
  · rw [point]
    cases goes with
    | done => exact List.nil_subset _
    | stop handler later => exact List.subset_cons_self _ _
    | _ => exact List.Subset.refl _
  · intro removes asked
    rw [asked] at goes
    cases goes

theorem removerMove_change {which : Remover}
    (moved : Threads.removerMove state which choice = some (op, next)) :
    RemoverChange state which choice next := by
  have same := List.Subset.refl state.controllerHandlers
  unfold Threads.removerMove at moved
  cases point : state.remover which with
  | idle =>
      simp only [point] at moved
      cases which with
      | change =>
          simp only [Option.some.injEq, Prod.mk.injEq] at moved
          obtain ⟨rfl, rfl⟩ := moved
          exact .moves same (List.nil_subset _) (by simp)
      | power =>
          simp only [Option.some.injEq, Prod.mk.injEq] at moved
          obtain ⟨rfl, rfl⟩ := moved
          refine ⟨same, Or.inr ?_, fun _ _ => Or.inl rfl⟩
          simp [Threads.State.goto, awaiting]
  | atQuery =>
      simp only [point, Option.some.injEq, Prod.mk.injEq] at moved
      obtain ⟨rfl, rfl⟩ := moved
      exact .moves same (List.nil_subset _) (by simp)
  | querying =>
      simp only [point, Option.some.injEq, Prod.mk.injEq] at moved
      obtain ⟨rfl, rfl⟩ := moved
      refine ⟨same, Or.inr (by simp [Threads.State.goto, awaiting]), ?_⟩
      intro removes asked
      simp only [Threads.State.goto, Function.update_self, RemoverPoint.atControllers.injEq]
        at asked
      exact Or.inr ⟨point, asked.symm⟩
  | atControllers removes =>
      simp only [point, Option.some.injEq, Prod.mk.injEq] at moved
      obtain ⟨rfl, rfl⟩ := moved
      refine ⟨same, Or.inl ⟨removes, point, by simp [Threads.State.goto]⟩, ?_⟩
      intro others asked
      simp [Threads.State.goto] at asked
  | removing removal =>
      simp only [point] at moved
      exact removalMove_change point moved

theorem inputMove_handlers {handler : Nat}
    (moved : Threads.inputMove state handler choice = some (op, next)) :
    next.controllerHandlers = state.controllerHandlers := by
  unfold Threads.inputMove at moved
  cases point : state.input handler with
  | looping =>
      simp only [point] at moved
      split at moved
      · simp only [Option.some.injEq, Prod.mk.injEq] at moved
        exact moved.2 ▸ rfl
      · split at moved <;>
          simp only [Option.some.injEq, Prod.mk.injEq] at moved <;> exact moved.2 ▸ rfl
  | atUsb =>
      simp only [point, Option.some.injEq, Prod.mk.injEq] at moved
      exact moved.2 ▸ rfl
  | inUsb =>
      simp only [point, Option.some.injEq, Prod.mk.injEq] at moved
      exact moved.2 ▸ rfl
  | _ => simp [point] at moved

end Moves

/-! The invariant of the runs that meet the condition. -/

def known (threads : Threads.State) : List Handler :=
  threads.controllerHandlers ++ awaiting (threads.remover .change)

structure Inv (threads : Threads.State) (acquired : List (Nat × Int)) : Prop where
  old : ∀ handler ∈ known threads, handler.id < threads.fresh
  pends : ∀ handler, pending threads.discovery = some handler →
    handler.id < threads.fresh ∧ ∀ other ∈ known threads, other.id ≠ handler.id
  reading : ∀ removes, threads.remover .change = .atControllers removes →
    ∃ interfaceIDsPlugged, removes = .allNonPlugged interfaceIDsPlugged ∧
      ∀ handler ∈ threads.controllerHandlers, plugged acquired handler = true →
        named interfaceIDsPlugged handler = true
  awaits : ∀ handler ∈ awaiting (threads.remover .change), plugged acquired handler = false

theorem mem_doomed {interfaceIDsPlugged : List Int} {handler : Handler} {handlers : List Handler} :
    handler ∈ (Removes.allNonPlugged interfaceIDsPlugged).doomed handlers ↔
      handler ∈ handlers ∧ named interfaceIDsPlugged handler = false := by
  simp [Removes.doomed, named]

namespace Inv

variable {state next : Threads.State} {choice : Choice} {op : LockOp Threads.Lock}
  {acquired : List (Nat × Int)}

theorem keeps (inv : Inv state acquired)
    (handlers : next.controllerHandlers = state.controllerHandlers)
    (change : next.remover .change = state.remover .change) (fresh : state.fresh ≤ next.fresh)
    (pends : ∀ handler, pending next.discovery = some handler → handler.id < next.fresh ∧
      ∀ other ∈ known state, other.id ≠ handler.id) : Inv next acquired := by
  have same : known next = known state := by rw [known, known, handlers, change]
  refine ⟨?_, ?_, ?_, ?_⟩
  · rw [same]
    intro handler member
    exact Nat.lt_of_lt_of_le (inv.old handler member) fresh
  · rw [same]
    exact pends
  · rw [handlers, change]
    exact inv.reading
  · rw [change]
    exact inv.awaits

theorem discovery (inv : Inv state acquired)
    (fine : Allowed ⟨state, acquired⟩ (.move .discovery choice))
    (moved : Threads.discoveryMove state choice = some (op, next)) : Inv next acquired := by
  obtain ⟨remover, changed⟩ := discoveryMove_change moved
  have change : next.remover .change = state.remover .change := by rw [remover]
  cases changed with
  | stays handlers fresh pends =>
      refine inv.keeps handlers change (Nat.le_of_eq fresh.symm) ?_
      rw [fresh]
      intro handler pending
      exact inv.pends handler (pends handler pending)
  | creates handlers fresh pends =>
      refine inv.keeps handlers change (by omega) ?_
      intro handler pending
      have newest := pends handler pending
      refine ⟨by omega, ?_⟩
      intro other member
      have older := inv.old other member
      omega
  | inserts handler inserting handlers fresh pends =>
      have listed : pending state.discovery = some handler := by rw [inserting]; rfl
      have same : ∀ other ∈ known next, other ∈ known state ∨ other = handler := by
        intro other member
        rw [known, handlers, remover] at member
        rcases List.mem_append.mp member with listed | waits
        · rcases List.mem_append.mp listed with before | own
          · exact Or.inl (List.mem_append_left _ before)
          · exact Or.inr (List.mem_singleton.mp own)
        · exact Or.inl (List.mem_append_right _ waits)
      refine ⟨?_, ?_, ?_, ?_⟩
      · rw [fresh]
        intro other member
        rcases same other member with before | own
        · exact inv.old other before
        · exact own ▸ (inv.pends handler listed).1
      · intro other pending
        simp [pends] at pending
      · rw [handlers, change]
        intro removes asked
        obtain ⟨interfaceIDsPlugged, rfl, names⟩ := inv.reading removes asked
        refine ⟨interfaceIDsPlugged, rfl, ?_⟩
        intro other member isPlugged
        rcases List.mem_append.mp member with before | own
        · exact names other before isPlugged
        · rw [List.mem_singleton.mp own] at isPlugged ⊢
          simpa [Allowed, allows, inserting, asked, isPlugged] using fine
      · rw [change]
        exact inv.awaits

theorem remover {which : Remover} (inv : Inv state acquired)
    (fine : Allowed ⟨state, acquired⟩ (.move (.remover which) choice))
    (moved : Threads.removerMove state which choice = some (op, next)) : Inv next acquired := by
  have spec := Threads.removerMove_spec moved
  have change := removerMove_change moved
  have awaits : ∀ handler ∈ awaiting (next.remover .change),
      handler ∈ known state ∧ plugged acquired handler = false := by
    intro handler member
    cases which with
    | power =>
        rw [spec.others .change (by decide)] at member
        exact ⟨List.mem_append_right _ member, inv.awaits handler member⟩
    | change =>
        rcases change.awaits with ⟨removes, asked, begun⟩ | less
        · obtain ⟨interfaceIDsPlugged, rfl, names⟩ := inv.reading removes asked
          rw [begun, awaiting] at member
          obtain ⟨listed, unnamed⟩ := mem_doomed.mp member
          refine ⟨List.mem_append_left _ listed, ?_⟩
          by_contra isPlugged
          rw [names handler listed (by simpa using isPlugged)] at unnamed
          exact Bool.noConfusion unnamed
        · exact ⟨List.mem_append_right _ (less member), inv.awaits handler (less member)⟩
  have fewer : known next ⊆ known state := by
    intro handler member
    rcases List.mem_append.mp member with listed | waits
    · exact List.mem_append_left _ (change.handlers listed)
    · exact (awaits handler waits).1
  refine ⟨?_, ?_, ?_, fun handler member => (awaits handler member).2⟩
  · rw [spec.fresh]
    intro handler member
    exact inv.old handler (fewer member)
  · rw [spec.fresh, spec.discovery]
    intro handler pending
    obtain ⟨older, others⟩ := inv.pends handler pending
    exact ⟨older, fun other member => others other (fewer member)⟩
  · intro removes asked
    cases which with
    | power =>
        rw [spec.others .change (by decide)] at asked
        obtain ⟨interfaceIDsPlugged, same, names⟩ := inv.reading removes asked
        exact ⟨interfaceIDsPlugged, same,
          fun handler member => names handler (change.handlers member)⟩
    | change =>
        rcases change.asks removes asked with wrong | ⟨querying, answer⟩
        · exact Remover.noConfusion wrong
        · refine ⟨choice.interfaceIDsPlugged, answer, ?_⟩
          intro handler member isPlugged
          simp only [Allowed, allows, querying, List.all_eq_true] at fine
          simpa [isPlugged] using fine handler (change.handlers member)

theorem input {handler : Nat} (inv : Inv state acquired)
    (moved : Threads.inputMove state handler choice = some (op, next)) : Inv next acquired := by
  have spec := Threads.inputMove_spec moved
  refine inv.keeps (inputMove_handlers moved) (by rw [spec.remover])
    (Nat.le_of_eq spec.fresh.symm) ?_
  rw [spec.fresh, spec.discovery]
  exact inv.pends

theorem weaken (inv : Inv state acquired) {fewer : List (Nat × Int)}
    (less : ∀ handler ∈ known state, plugged fewer handler = true →
      plugged acquired handler = true) : Inv state fewer := by
  refine ⟨inv.old, inv.pends, ?_, ?_⟩
  · intro removes asked
    obtain ⟨interfaceIDsPlugged, same, names⟩ := inv.reading removes asked
    refine ⟨interfaceIDsPlugged, same, ?_⟩
    intro handler member isPlugged
    exact names handler member (less handler (List.mem_append_left _ member) isPlugged)
  · intro handler member
    by_contra isPlugged
    have before := less handler (List.mem_append_right _ member) (by simpa using isPlugged)
    rw [inv.awaits handler member] at before
    exact Bool.noConfusion before

end Inv

theorem plugged_iff {acquired : List (Nat × Int)} {handler : Handler} :
    plugged acquired handler = true ↔
      ∃ interfaceID ∈ handler.interfaces, (handler.id, interfaceID) ∈ acquired := by
  simp [plugged]

theorem Inv.step {state next : State} {event : Event} (inv : Inv state.threads state.acquired)
    (fine : Allowed state event) (happens : Happens state event next) :
    Inv next.threads next.acquired := by
  cases event with
  | move caller choice =>
      simp only [Happens, Plugged.step, Option.map_eq_some_iff] at happens
      obtain ⟨threads, stepped, rfl⟩ := happens
      obtain ⟨op, moved, locks, moves, _, rfl⟩ := Threads.steps_iff.mp stepped
      -- nothing in the invariant is about the locks
      have kept : Inv moved state.acquired := by
        cases caller with
        | discovery => exact inv.discovery fine moves
        | remover which => exact inv.remover fine moves
        | input handler => exact inv.input moves
      exact ⟨kept.old, kept.pends, kept.reading, kept.awaits⟩
  | acquire interfaceID =>
      unfold Happens Plugged.step at happens
      simp only at happens
      split at happens
      · rename_i created nested point
        split at happens
        · simp only [Option.some.injEq] at happens
          obtain rfl := happens
          have pends : pending state.threads.discovery = some created := by rw [point]; rfl
          refine inv.weaken ?_
          intro handler member isPlugged
          obtain ⟨own, listed, held⟩ := plugged_iff.mp isPlugged
          rcases List.mem_cons.mp held with added | before
          · simp only [Prod.mk.injEq] at added
            exact absurd added.1 ((inv.pends created pends).2 handler member)
          · exact plugged_iff.mpr ⟨own, listed, before⟩
        · simp at happens
      · simp at happens
  | lose owner interfaceID =>
      simp only [Happens, Plugged.step, Option.some.injEq] at happens
      obtain rfl := happens
      refine inv.weaken ?_
      intro handler _ isPlugged
      obtain ⟨own, listed, held⟩ := plugged_iff.mp isPlugged
      exact plugged_iff.mpr ⟨own, listed, (List.mem_filter.mp held).1⟩

theorem inv_start : Inv ({} : Threads.State) [] := by
  refine ⟨by simp [known, awaiting], by simp [pending], by simp, by simp [awaiting]⟩

/-- As long as the reading names the plugged handlers, those inserted after it included, only
handlers without an acquired interface are removed. -/
theorem only_unplugged_removed {events : List Event} {state : State}
    (run : Run (Guarded Allowed Happens) {} events state) : ¬RemovesPlugged state := by
  have inv : Inv state.threads state.acquired := by
    refine @Run.invariant State Event _ _ _ _
      (fun reached => Inv reached.threads reached.acquired) run inv_start ?_
    intro current event next inv taken
    exact inv.step taken.1 taken.2
  rintro ⟨handler, later, removing, isPlugged⟩
  have unplugged := inv.awaits handler (by rw [removing]; exact List.mem_cons_self)
  rw [isPlugged] at unplugged
  exact Bool.noConfusion unplugged

/-- A listed handler that the reading does not name is destroyed, plugged or not. -/
theorem unnamed_awaits {state next : State} {interfaceIDsPlugged : List Int} {handler : Handler}
    {choice : Choice}
    (point : state.threads.remover .change = .atControllers (.allNonPlugged interfaceIDsPlugged))
    (listed : handler ∈ state.threads.controllerHandlers)
    (unnamed : named interfaceIDsPlugged handler = false)
    (happens : Happens state (.move (.remover .change) choice) next) :
    next.acquired = state.acquired ∧ handler ∈ awaiting (next.threads.remover .change) := by
  simp only [Happens, step, Option.map_eq_some_iff] at happens
  obtain ⟨threads, stepped, rfl⟩ := happens
  obtain ⟨op, moved, locks, moves, _, rfl⟩ := Threads.steps_iff.mp stepped
  refine ⟨rfl, ?_⟩
  simp only [Threads.move, Threads.removerMove, point, Option.some.injEq, Prod.mk.injEq] at moves
  obtain ⟨-, rfl⟩ := moves
  simp only [Threads.State.goto, Function.update_self, awaiting]
  exact mem_doomed.mpr ⟨listed, unnamed⟩

/-! A controller with the interface 7 is plugged in, and another reading is taken. -/

def discovers (choice : Choice) : Event := .move .discovery choice

def notices (choice : Choice) : Event := .move (.remover .change) choice

def plugIn : List Event :=
  [discovers {}, discovers {}, discovers { interfacesAvailable := true }, discovers {},
    discovers { device := (7, []) }, discovers { usbCall := true }, discovers {}, .acquire 7,
    discovers {}, discovers { initThread := .started }, discovers {}, discovers {}, discovers {}]

def removal (interfaceIDsPlugged : List Int) : List Event :=
  [notices {}, notices {}, notices { interfaceIDsPlugged }, notices {}]

/-- The controller is noticed, then it is unplugged and noticed again. -/
def plugInAndOut : List Event := plugIn ++ removal [7] ++ [notices {}, .lose 0 7] ++ removal []

def unplugged : State := (plugInAndOut.foldlM step {}).getD {}

theorem unplugged_removed :
    unplugged.threads.remover .change = .removing (.next [⟨0, [7], by decide⟩]) ∧
      ¬RemovesPlugged unplugged := by
  have run : Run (Guarded Allowed Happens) {} plugInAndOut unplugged := by
    apply Run.of_foldlM_guarded
    rfl
  exact ⟨rfl, only_unplugged_removed run⟩

/-- The reading is taken, the controller is plugged in, and the removal follows. -/
def insertedMeanwhile : List Event :=
  [notices {}, notices {}, notices {}] ++ plugIn ++ [notices {}]

theorem plugged_removed :
    ¬∀ events state, Run Happens {} events state → ¬RemovesPlugged state := by
  intro always
  have finished : ∃ state, insertedMeanwhile.foldlM step {} = some state ∧
      state.threads.remover .change = .removing (.next [⟨0, [7], by decide⟩]) ∧
      plugged state.acquired ⟨0, [7], by decide⟩ = true :=
    ⟨(insertedMeanwhile.foldlM step {}).getD {}, rfl, rfl, rfl⟩
  obtain ⟨state, reached, removing, isPlugged⟩ := finished
  exact always insertedMeanwhile state (Run.of_foldlM_some reached)
    ⟨_, _, removing, isPlugged⟩

end SysCon.Plugged
