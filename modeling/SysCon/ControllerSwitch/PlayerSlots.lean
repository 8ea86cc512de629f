import SysCon.ControllerSwitch.SwitchMITMManager
import SysCon.Library.SlotPool
import SysCon.Library.Runs

/-!
The players of the manager under the calls of any number of handlers. An attach
or a detach of a handler asks the manager, which answers under its mutex, and
then stores the answer in the pointer of the input. Other threads come in
between the two.
-/

namespace SysCon

namespace HidSharedMemoryManager

variable {manager : HidSharedMemoryManager}

theorem attachController_cases :
    (manager.attachController = (none, manager) ∧ ∀ i, manager.controllerList i ≠ none) ∨
      ∃ i, manager.controllerList i = none ∧
        manager.attachController = (some manager.controllers.length, { manager with
          controllerList :=
            Function.update manager.controllerList i (some manager.controllers.length)
          controllers := manager.controllers ++ [{ playerIdx := i }] }) := by
  rw [attachController]
  cases found : (List.finRange 8).find? fun i => (manager.controllerList i).isNone with
  | none =>
      left
      refine ⟨rfl, ?_⟩
      intro i free
      have taken := List.find?_eq_none.mp found i (List.mem_finRange i)
      simp [free] at taken
  | some i =>
      right
      have free := List.find?_some found
      exact ⟨i, Option.isNone_iff_eq_none.mp free, rfl⟩

theorem detachController_cases (controller : Option Nat) :
    (manager.detachController controller = manager ∧
        ∀ i, manager.controllerList i ≠ controller) ∨
      ∃ i, manager.controllerList i = controller ∧
        manager.detachController controller =
          { manager with controllerList := Function.update manager.controllerList i none } := by
  rw [detachController]
  cases found : (List.finRange 8).find? fun i => manager.controllerList i = controller with
  | none =>
      left
      refine ⟨rfl, ?_⟩
      intro i here
      have other := List.find?_eq_none.mp found i (List.mem_finRange i)
      simp [here] at other
  | some i =>
      right
      have here := List.find?_some found
      exact ⟨i, of_decide_eq_true here, rfl⟩

/-- The player an object on the heap was made for. -/
def player (manager : HidSharedMemoryManager) (pointer : Nat) : Option PlayerIdx :=
  manager.controllers[pointer]?.map HidSharedMemoryController.playerIdx

end HidSharedMemoryManager

namespace PlayerSlots

open Library SwitchMITMHandler

/-- Where the thread of an input stands: outside of a call, or back from the manager with the
pointer of the input not yet stored. -/
inductive Phase
  | idle
  | attaching (answer : Option Nat)
  | detaching
  deriving DecidableEq

structure State (handler : Type) where
  manager : HidSharedMemoryManager := {}
  pads : handler → MitmPads := fun _ => {}
  phase : handler × InputIdx → Phase := fun _ => .idle

inductive Action (handler : Type)
  | attach (port : handler × InputIdx)
  | detach (port : handler × InputIdx)
  | finish (port : handler × InputIdx)

section Holding

variable {handler : Type}

def Phase.holds (pointer : Option Nat) : Phase → Option Nat
  | .idle => pointer
  | .attaching answer => answer
  | .detaching => none

/-- What an input holds, from the answer of the manager to an attach until the manager has taken
it back. Outside of a call this is the pointer of the input. -/
def held (state : State handler) (port : handler × InputIdx) : Option Nat :=
  (state.phase port).holds ((state.pads port.1).controllerList port.2)

structure Consistent (state : State handler) : Prop where
  matched : Matched state.manager.controllerList (held state)
  placed : ∀ slot pointer, state.manager.controllerList slot = some pointer →
    state.manager.player pointer = some slot

theorem Consistent.fresh {state : State handler} (consistent : Consistent state)
    (slot : PlayerIdx) :
    state.manager.controllerList slot ≠ some state.manager.controllers.length := by
  intro taken
  have placed := consistent.placed slot _ taken
  simp [HidSharedMemoryManager.player] at placed

theorem Consistent.start : Consistent ({} : State handler) :=
  ⟨Matched.empty, by simp⟩

/-- Every player is held by one input at most, and a taken player by exactly one. -/
structure Exclusive (state : State handler) : Prop where
  exclusive : ∀ first second pointer other, held state first = some pointer →
    held state second = some other →
    pointer = other ∨ state.manager.player pointer = state.manager.player other → first = second
  placed : ∀ port pointer, held state port = some pointer →
    ∃ slot, state.manager.player pointer = some slot ∧
      state.manager.controllerList slot = some pointer
  owned : ∀ slot pointer, state.manager.controllerList slot = some pointer →
    ∃! port, held state port = some pointer
  refused : state.manager.attachController.1 = none → {port | held state port ≠ none}.ncard = 8

theorem Consistent.exclusive {state : State handler} (consistent : Consistent state) :
    Exclusive state := by
  have placed : ∀ port pointer, held state port = some pointer →
      ∃ slot, state.manager.player pointer = some slot ∧
        state.manager.controllerList slot = some pointer := by
    intro port pointer holds
    obtain ⟨slot, filled⟩ := (consistent.matched.same_tokens pointer).mpr ⟨port, holds⟩
    exact ⟨slot, consistent.placed slot pointer filled, filled⟩
  refine ⟨?_, placed, fun slot pointer => consistent.matched.existsUnique_holder, ?_⟩
  · rintro first second pointer other holds otherHolds (rfl | samePlayer)
    · exact consistent.matched.holder_unique holds otherHolds
    obtain ⟨slot, player, filled⟩ := placed first pointer holds
    obtain ⟨place, otherPlayer, otherFilled⟩ := placed second other otherHolds
    have same : slot = place := by
      rw [player, otherPlayer] at samePlayer
      exact Option.some.inj samePlayer
    rw [same, otherFilled, Option.some.injEq] at filled
    exact consistent.matched.holder_unique holds (filled ▸ otherHolds)
  · intro refused
    rcases state.manager.attachController_cases with ⟨_, full⟩ | ⟨slot, _, answered⟩
    · exact (consistent.matched.ncard_of_full full).trans (Nat.card_fin 8)
    · simp [answered] at refused

end Holding

section Steps

variable {handler : Type} [DecidableEq handler]

def setPointer (pads : handler → MitmPads) (port : handler × InputIdx) (pointer : Option Nat) :
    handler → MitmPads :=
  Function.update pads port.1
    ⟨Function.update (pads port.1).controllerList port.2 pointer⟩

def step (state : State handler) : Action handler → Option (State handler)
  | .attach port =>
    match state.phase port with
    | .idle =>
      if isControllerAttached (state.pads port.1) port.2 then some state
      else
        let (answer, manager) := state.manager.attachController
        some { state with manager, phase := Function.update state.phase port (.attaching answer) }
    | _ => none
  | .detach port =>
    match state.phase port with
    | .idle =>
      if !isControllerAttached (state.pads port.1) port.2 then some state
      else
        let manager := state.manager.detachController ((state.pads port.1).controllerList port.2)
        some { state with manager, phase := Function.update state.phase port .detaching }
    | _ => none
  | .finish port =>
    match state.phase port with
    | .idle => none
    | .attaching answer =>
      some { state with
        pads := setPointer state.pads port answer
        phase := Function.update state.phase port .idle }
    | .detaching =>
      some { state with
        pads := setPointer state.pads port none
        phase := Function.update state.phase port .idle }

@[simp] theorem setPointer_same (pads : handler → MitmPads) (port : handler × InputIdx)
    (pointer : Option Nat) :
    (setPointer pads port pointer port.1).controllerList port.2 = pointer := by
  simp [setPointer]

theorem setPointer_other (pads : handler → MitmPads) {port other : handler × InputIdx}
    (pointer : Option Nat) (apart : other ≠ port) :
    (setPointer pads port pointer other.1).controllerList other.2 =
      (pads other.1).controllerList other.2 := by
  rw [setPointer]
  by_cases sameHandler : other.1 = port.1
  · have otherInput : other.2 ≠ port.2 := fun sameInput => apart (Prod.ext sameHandler sameInput)
    rw [sameHandler, Function.update_self]
    exact Function.update_of_ne otherInput _ _
  · rw [Function.update_of_ne sameHandler]

theorem attach_finish {state middle last : State handler} {port : handler × InputIdx}
    (detached : isControllerAttached (state.pads port.1) port.2 = false)
    (asked : step state (.attach port) = some middle)
    (stored : step middle (.finish port) = some last) (update : UInt32) :
    last.pads port.1 =
        attachController ⟨state.manager.attachController.1, update⟩ (state.pads port.1) port.2 ∧
      last.manager = state.manager.attachController.2 := by
  rw [step] at asked
  split at asked
  · simp only [detached, Bool.false_eq_true, if_false, Option.some.injEq] at asked
    subst asked
    simp only [step, Function.update_self, Option.some.injEq] at stored
    subst stored
    simp [attachController, detached, setPointer]
  · simp at asked

theorem detach_finish {state middle last : State handler} {port : handler × InputIdx}
    (attached : isControllerAttached (state.pads port.1) port.2 = true)
    (asked : step state (.detach port) = some middle)
    (stored : step middle (.finish port) = some last) :
    last.pads port.1 = detachController (state.pads port.1) port.2 ∧
      last.manager =
        state.manager.detachController ((state.pads port.1).controllerList port.2) := by
  rw [step] at asked
  split at asked
  · simp only [attached, Bool.not_true, Bool.false_eq_true, if_false, Option.some.injEq] at asked
    subst asked
    simp only [step, Function.update_self, Option.some.injEq] at stored
    subst stored
    simp [detachController, attached, setPointer]
  · simp at asked

inductive Effect (state next : State handler) : Prop
  | kept (manager : next.manager = state.manager) (same : held next = held state)
  | asked (port : handler × InputIdx) (empty : held state port = none)
      (manager : next.manager = state.manager.attachController.2)
      (holds : held next = Function.update (held state) port state.manager.attachController.1)
  | gaveBack (port : handler × InputIdx) (pointer : Nat) (had : held state port = some pointer)
      (manager : next.manager = state.manager.detachController (some pointer))
      (holds : held next = Function.update (held state) port none)

theorem held_enter (state : State handler) (manager : HidSharedMemoryManager)
    (port : handler × InputIdx) (phase : Phase) :
    held { state with manager, phase := Function.update state.phase port phase } =
      Function.update (held state) port
        (phase.holds ((state.pads port.1).controllerList port.2)) := by
  funext other
  by_cases same : other = port
  · subst same
    simp [held]
  · simp [held, same]

theorem held_setPointer {state next : State handler} {port : handler × InputIdx}
    {pointer : Option Nat} (had : held state port = pointer)
    (pads : next.pads = setPointer state.pads port pointer)
    (changed : next.phase = Function.update state.phase port .idle) : held next = held state := by
  funext other
  by_cases same : other = port
  · rw [same, had, held, changed, Function.update_self, pads]
    exact setPointer_same ..
  · rw [held, held, changed, pads, Function.update_of_ne same, setPointer_other _ _ same]

theorem step_effect {state next : State handler} {action : Action handler}
    (taken : step state action = some next) : Effect state next := by
  cases action with
  | attach port =>
      rw [step] at taken
      split at taken
      · rename_i idle
        split at taken
        · obtain rfl := Option.some.inj taken
          exact .kept rfl rfl
        · rename_i detached
          obtain rfl := Option.some.inj taken
          refine .asked port ?_ rfl ?_
          · rw [held, idle, Phase.holds]
            simpa [isControllerAttached] using detached
          · exact held_enter ..
      · simp at taken
  | detach port =>
      rw [step] at taken
      split at taken
      · rename_i idle
        split at taken
        · obtain rfl := Option.some.inj taken
          exact .kept rfl rfl
        · rename_i attached
          obtain rfl := Option.some.inj taken
          have stored : (state.pads port.1).controllerList port.2 ≠ none := by
            simpa [isControllerAttached] using attached
          obtain ⟨pointer, stored⟩ := Option.ne_none_iff_exists'.mp stored
          refine .gaveBack port pointer ?_ ?_ ?_
          · rw [held, idle]
            exact stored
          · simp [stored]
          · exact held_enter ..
      · simp at taken
  | finish port =>
      rw [step] at taken
      split at taken
      · simp at taken
      all_goals
        rename_i phase
        obtain rfl := Option.some.inj taken
        exact .kept rfl (held_setPointer (by rw [held, phase, Phase.holds]) rfl rfl)

theorem player_append {manager : HidSharedMemoryManager} {pointer : Nat} {slot : PlayerIdx}
    (known : manager.player pointer = some slot) (made : HidSharedMemoryController) :
    (manager.controllers ++ [made])[pointer]?.map HidSharedMemoryController.playerIdx =
      some slot := by
  obtain ⟨controller, found, rfl⟩ := Option.map_eq_some_iff.mp known
  have bound := (List.getElem?_eq_some_iff.mp found).1
  rw [List.getElem?_append_left bound, found, Option.map_some]

theorem Consistent.attach {state next : State handler} {port : handler × InputIdx}
    (consistent : Consistent state) (empty : held state port = none)
    (manager : next.manager = state.manager.attachController.2)
    (holds : held next = Function.update (held state) port state.manager.attachController.1) :
    Consistent next := by
  rcases state.manager.attachController_cases with ⟨refused, _⟩ | ⟨slot, free, answered⟩
  · rw [refused] at manager holds
    rw [← empty, Function.update_eq_self] at holds
    exact ⟨by rw [manager, holds]; exact consistent.matched, by
      rw [manager]; exact consistent.placed⟩
  · rw [answered] at manager holds
    refine ⟨?_, ?_⟩
    · rw [manager, holds]
      exact consistent.matched.fill consistent.fresh free empty
    · rw [manager]
      intro other pointer filled
      rcases Matched.update_eq_some.mp filled with ⟨rfl, made⟩ | ⟨_, before⟩
      · simp [HidSharedMemoryManager.player, ← Option.some.inj made]
      · exact player_append (consistent.placed other pointer before) _

theorem Consistent.detach {state next : State handler} {port : handler × InputIdx} {pointer : Nat}
    (consistent : Consistent state) (had : held state port = some pointer)
    (manager : next.manager = state.manager.detachController (some pointer))
    (holds : held next = Function.update (held state) port none) : Consistent next := by
  obtain ⟨slot, filled⟩ := (consistent.matched.same_tokens pointer).mpr ⟨port, had⟩
  rcases state.manager.detachController_cases (some pointer) with
    ⟨_, missing⟩ | ⟨found, here, freed⟩
  · exact absurd filled (missing slot)
  · rw [freed] at manager
    refine ⟨?_, ?_⟩
    · rw [manager, holds]
      exact consistent.matched.release here had
    · rw [manager]
      intro other kept still
      rcases Matched.update_eq_some.mp still with ⟨_, gone⟩ | ⟨_, before⟩
      · simp at gone
      · exact consistent.placed other kept before

theorem Consistent.step {state next : State handler} {action : Action handler}
    (consistent : Consistent state) (taken : step state action = some next) : Consistent next := by
  cases step_effect taken with
  | kept manager same =>
      exact ⟨by rw [manager, same]; exact consistent.matched, by
        rw [manager]; exact consistent.placed⟩
  | asked port empty manager holds => exact consistent.attach empty manager holds
  | gaveBack port pointer had manager holds => exact consistent.detach had manager holds

theorem players_exclusive {actions : List (Action handler)} {last : State handler}
    (run : Run (fun state action next => step state action = some next) {} actions last) :
    Exclusive last := by
  have consistent : Consistent last :=
    run.invariant Consistent.start fun _ _ _ => Consistent.step
  exact consistent.exclusive

end Steps

-- The player the first handler gives back goes to the third, and the second keeps its own.
def handover (input other : InputIdx) : List (Action (Fin 3)) :=
  [.attach (0, input), .attach (1, input), .finish (0, input), .finish (1, input),
    .detach (0, input), .attach (2, other), .finish (2, other), .finish (0, input)]

theorem players_exclusive_handover :
    ∃ last : State (Fin 3), held last (0, 0) = none ∧
      (held last (1, 0)).map last.manager.player = some (some 1) ∧
      (held last (2, 3)).map last.manager.player = some (some 0) ∧ Exclusive last := by
  have finished : ((handover 0 3).foldlM step {}).isSome = true := by decide
  exact ⟨((handover 0 3).foldlM step {}).get finished, rfl, rfl, rfl,
    players_exclusive (Run.of_foldlM_some (Option.some_get finished).symm)⟩

end PlayerSlots

end SysCon
