import SysCon.ControllerSwitch.MitmSystem
import SysCon.ControllerSwitch.NpadHistory
import SysCon.ControllerSwitch.ShownState

/-!
What the processes read of the players. Handlers come and go, processes open
`hid`, and yet a player that an input holds shows, in every process that was
there, the latest report of that input and nothing of the other inputs.
-/

namespace SysCon.MitmSystem

open Library SwitchVirtualGamepadHandler HidSharedMemoryController NpadHistory

/-- The memory of `hid` when a process opens it. The players that `hid` uses have buffers of their
size. -/
abbrev OpenedMemory :=
  { real : HidSharedMemory // ∀ player, (real.npad player).styleSet ≠ 0 →
      (real.npad player).fullKeyLifo.WellFormed ∧
        (real.npad player).fullKeyLifo.bufferCount = 17 }

inductive Event (handler : Type)
  | action (taken : Action handler)
  | add (real : OpenedMemory)

section Shown

variable {handler : Type}

def State.held (state : State handler) (port : handler × InputIdx) : Option Nat :=
  (state.handlers port.1).pads.controllerList port.2

/-- What the processes that opened `hid` came with at a player. -/
def opened (events : List (Event handler)) (player : PlayerIdx) : List HidNpadInternalState :=
  events.filterMap fun event => match event with
    | .add real => some (real.1.npad player)
    | .action _ => none

@[simp] theorem opened_action (events : List (Event handler)) (taken : Action handler)
    (player : PlayerIdx) : opened (events ++ [.action taken]) player = opened events player := by
  simp [opened]

@[simp] theorem opened_add (events : List (Event handler)) (real : OpenedMemory)
    (player : PlayerIdx) :
    opened (events ++ [.add real]) player = opened events player ++ [real.1.npad player] := by
  simp [opened]

/-- What the processes find at a player, in the order in which they came. -/
def npads (manager : HidSharedMemoryManager) (player : PlayerIdx) : List HidNpadInternalState :=
  manager.sharedmemoryEntryList.map fun entry => entry.fake.npad player

/-- The state is the newest one of the player in the first `known` processes. The processes after
them find what they came with. -/
structure ShowsState (states came : List HidNpadInternalState) (known : Nat)
    (state : GamepadState) : Prop where
  length_eq : states.length = came.length
  known_le : known ≤ states.length
  newest : ∀ internalState ∈ states.take known,
    internalState.styleSet ≠ 0 ∧ internalState.fullKeyLifo.newest.state = state
  untouched : states.drop known = came.drop known

def Brought (manager : HidSharedMemoryManager) (events : List (Event handler))
    (port : handler × InputIdx) (player : PlayerIdx) (earlier : List (Event handler))
    (event : Event handler) : Prop :=
  ∃ read, event = .action (.updateInput port.1 read) ∧ read.Delivers port.2 ∧
    ShowsState (npads manager player) (opened events player) (opened earlier player).length
      (gamepadState read.normal)

/-- The event brings no report of the input, and does not disconnect it. -/
def Unreported (port : handler × InputIdx) (event : Event handler) : Prop :=
  ∀ read, event = .action (.updateInput port.1 read) → read.Stays port.2

/-- Every input that holds a player holds it alone. -/
structure Holds (manager : HidSharedMemoryManager) (held : handler × InputIdx → Option Nat) :
    Prop where
  listed : ∀ port pointer, held port = some pointer →
    ∃ player, manager.player pointer = some player ∧ manager.controllerList player = some pointer
  alone : ∀ first second pointer, held first = some pointer → held second = some pointer →
    first = second

def Shows (manager : HidSharedMemoryManager) (held : handler × InputIdx → Option Nat)
    (events : List (Event handler)) (port : handler × InputIdx) : Prop :=
  ∀ pointer player, held port = some pointer → manager.player pointer = some player →
    Since (Brought manager events port player) (Unreported port) events

theorem Holds.apart {manager : HidSharedMemoryManager} {held : handler × InputIdx → Option Nat}
    (holds : Holds manager held) {first second : handler × InputIdx} (other : first ≠ second)
    {pointer rival : Nat} {player : PlayerIdx} (here : held first = some pointer)
    (there : held second = some rival) (owner : manager.player pointer = some player) :
    manager.player rival ≠ some player := by
  intro same
  obtain ⟨_, own, listed⟩ := holds.listed first pointer here
  obtain ⟨_, theirs, taken⟩ := holds.listed second rival there
  cases own.symm.trans owner
  cases theirs.symm.trans same
  obtain rfl := Option.some.inj (listed.symm.trans taken)
  exact other (holds.alone first second _ here there)

/-! Inputs lose their players, all else stays. -/

structure Shrinks (manager after : HidSharedMemoryManager)
    (held rest : handler × InputIdx → Option Nat) : Prop where
  entries : after.sharedmemoryEntryList = manager.sharedmemoryEntryList
  controllers : after.controllers = manager.controllers
  held : ∀ port pointer, rest port = some pointer → held port = some pointer
  listed : ∀ port pointer player, rest port = some pointer →
    manager.controllerList player = some pointer → after.controllerList player = some pointer

variable {manager after : HidSharedMemoryManager} {held rest : handler × InputIdx → Option Nat}
  {events : List (Event handler)} {port : handler × InputIdx}

theorem Shrinks.rfl : Shrinks manager manager held held :=
  ⟨Eq.refl _, Eq.refl _, fun _ _ here => here, fun _ _ _ _ listed => listed⟩

theorem Shrinks.player (shrinks : Shrinks manager after held rest) (pointer : Nat) :
    after.player pointer = manager.player pointer := by
  rw [HidSharedMemoryManager.player, shrinks.controllers, HidSharedMemoryManager.player]

theorem Shrinks.holds (shrinks : Shrinks manager after held rest) (holds : Holds manager held) :
    Holds after rest := by
  constructor
  · intro port pointer here
    obtain ⟨player, owner, listed⟩ := holds.listed port pointer (shrinks.held port pointer here)
    exact ⟨player, (shrinks.player pointer).trans owner,
      shrinks.listed port pointer player here listed⟩
  · intro first second pointer here there
    exact holds.alone first second pointer (shrinks.held _ _ here) (shrinks.held _ _ there)

theorem Brought.of_npads {player : PlayerIdx} {earlier : List (Event handler)}
    {event : Event handler} (brought : Brought manager events port player earlier event)
    (same : npads after player = npads manager player) (taken : Action handler) :
    Brought after (events ++ [.action taken]) port player earlier event := by
  obtain ⟨read, shape, delivers, shows⟩ := brought
  refine ⟨read, shape, delivers, ?_⟩
  rw [same, opened_action]
  exact shows

theorem Shrinks.shows (shrinks : Shrinks manager after held rest)
    (shows : Shows manager held events port) {taken : Action handler}
    (quiet : rest port ≠ none → Unreported port (.action taken)) :
    Shows after rest (events ++ [.action taken]) port := by
  intro pointer player here owner
  rw [shrinks.player] at owner
  have before := shows pointer player (shrinks.held port pointer here) owner
  refine Since.kept (before.mono ?_ fun _ stays => stays) (quiet (by simp [here]))
  intro earlier start brought
  exact brought.of_npads (by rw [npads, npads, shrinks.entries]) taken

/-! A process opens `hid`. -/

theorem npads_add (manager : HidSharedMemoryManager) (real : HidSharedMemory)
    (player : PlayerIdx) :
    npads (manager.add (.create real)) player = npads manager player ++ [real.npad player] := by
  simp [npads, HidSharedMemoryManager.add, HidSharedMemoryEntry.create]

theorem ShowsState.concat {states came : List HidNpadInternalState} {known : Nat}
    {state : GamepadState} (shows : ShowsState states came known state)
    (new : HidNpadInternalState) : ShowsState (states ++ [new]) (came ++ [new]) known state := by
  constructor
  · rw [List.length_append, List.length_append, shows.length_eq]
  · exact Nat.le_trans shows.known_le (by simp)
  · rw [List.take_append_of_le_length shows.known_le]
    exact shows.newest
  · rw [List.drop_append_of_le_length shows.known_le, shows.untouched,
      List.drop_append_of_le_length (shows.length_eq ▸ shows.known_le)]

theorem Shows.add (shows : Shows manager held events port) (real : OpenedMemory) :
    Shows (manager.add (.create real.1)) held (events ++ [.add real]) port := by
  intro pointer player here owner
  refine Since.kept ((shows pointer player here owner).mono ?_ fun _ stays => stays)
    (fun read shape => by simp at shape)
  rintro earlier start ⟨read, shape, delivers, told⟩
  refine ⟨read, shape, delivers, ?_⟩
  rw [npads_add, opened_add]
  exact told.concat _

/-! An input gets a player, and sends its state. -/

theorem update_of_found {pointer : Nat} {controller : HidSharedMemoryController}
    (found : manager.controllers[pointer]? = some controller) (state : GamepadState) :
    manager.update pointer state = { manager with
      controllers := manager.controllers.set pointer { controller with
        samplingNumber := (updateEntries controller.playerIdx state controller.samplingNumber
          manager.sharedmemoryEntryList).1 }
      sharedmemoryEntryList := (updateEntries controller.playerIdx state controller.samplingNumber
        manager.sharedmemoryEntryList).2 } := by
  simp only [HidSharedMemoryManager.update, found]
  rfl

theorem npads_update_self {pointer : Nat} {player : PlayerIdx}
    (owner : manager.player pointer = some player) (state : GamepadState)
    {came : List HidNpadInternalState}
    (counted : manager.sharedmemoryEntryList.length = came.length) :
    ShowsState (npads (manager.update pointer state) player) came came.length state := by
  obtain ⟨controller, found, rfl⟩ := Option.map_eq_some_iff.mp owner
  have length : (npads (manager.update pointer state) controller.playerIdx).length =
      manager.sharedmemoryEntryList.length := by
    rw [npads, update_of_found found, updateEntries_eq]
    simp
  rw [counted] at length
  constructor
  · exact length
  · exact Nat.le_of_eq length.symm
  · intro internalState member
    have written := List.mem_of_mem_take member
    rw [npads, update_of_found found, updateEntries_eq] at written
    obtain ⟨entry, listed, rfl⟩ := List.mem_map.mp written
    obtain ⟨index, bound, rfl⟩ := List.mem_mapIdx.mp listed
    rw [updateEntry_same, updateState_newest]
    exact ⟨updateState_styleSet _ _ _, rfl⟩
  · rw [List.drop_of_length_le (Nat.le_of_eq length), List.drop_length]

theorem npads_update_other {pointer : Nat} {player other : PlayerIdx}
    (owner : manager.player pointer = some player) (state : GamepadState)
    (apart : other ≠ player) :
    npads (manager.update pointer state) other = npads manager other := by
  obtain ⟨controller, found, rfl⟩ := Option.map_eq_some_iff.mp owner
  rw [npads, update_of_found found, npads]
  generalize controller.samplingNumber = samplingNumber
  induction manager.sharedmemoryEntryList generalizing samplingNumber with
  | nil => rfl
  | cons entry rest ih =>
      simp only [updateEntries, List.map_cons, updateEntry_other _ _ _ apart, ih]

theorem player_update (manager : HidSharedMemoryManager) (pointer rival : Nat)
    (state : GamepadState) :
    (manager.update pointer state).player rival = manager.player rival := by
  cases found : manager.controllers[pointer]? with
  | none => simp only [HidSharedMemoryManager.update, found]
  | some controller =>
      rw [update_of_found found, HidSharedMemoryManager.player, HidSharedMemoryManager.player]
      by_cases same : rival = pointer
      · subst same
        have bound := (List.getElem?_eq_some_iff.mp found).1
        rw [List.getElem?_set_self bound, found]
        rfl
      · rw [List.getElem?_set_ne (Ne.symm same)]

theorem Holds.update (holds : Holds manager held) (pointer : Nat) (state : GamepadState) :
    Holds (manager.update pointer state) held := by
  refine ⟨?_, holds.alone⟩
  intro port rival here
  obtain ⟨player, owner, listed⟩ := holds.listed port rival here
  refine ⟨player, (player_update manager pointer rival state).trans owner, ?_⟩
  rw [← listed]
  cases found : manager.controllers[pointer]? with
  | none => simp only [HidSharedMemoryManager.update, found]
  | some controller => rw [update_of_found found]

theorem length_update (manager : HidSharedMemoryManager) (pointer : Nat) (state : GamepadState) :
    (manager.update pointer state).sharedmemoryEntryList.length =
      manager.sharedmemoryEntryList.length := by
  cases found : manager.controllers[pointer]? with
  | none => simp only [HidSharedMemoryManager.update, found]
  | some controller => rw [update_of_found found, updateEntries_eq, List.length_mapIdx]

/-- The report of an input: the player of the input shows it, and the others what they showed. -/
theorem Shows.send (holds : Holds manager held)
    (counted : ∀ player, manager.sharedmemoryEntryList.length = (opened events player).length)
    {pointer : Nat}
    {read : InputRead} (here : held port = some pointer) (delivers : read.Delivers port.2)
    (others : ∀ other, other ≠ port → Shows manager held events other) (any : handler × InputIdx) :
    Shows (manager.update pointer (gamepadState read.normal)) held
      (events ++ [.action (.updateInput port.1 read)]) any := by
  obtain ⟨player, owner, -⟩ := holds.listed port pointer here
  intro rival shown there theirs
  rw [player_update] at theirs
  by_cases own : any = port
  · subst own
    obtain rfl := Option.some.inj (here.symm.trans there)
    obtain rfl := Option.some.inj (owner.symm.trans theirs)
    refine Since.started ⟨read, rfl, delivers, ?_⟩
    rw [opened_action]
    exact npads_update_self owner _ (counted player)
  · have apart : shown ≠ player := by
      rintro rfl
      exact holds.apart (Ne.symm own) here there owner theirs
    refine Since.kept ((others any own rival shown there theirs).mono ?_ fun _ stays => stays) ?_
    · intro earlier start brought
      exact brought.of_npads (npads_update_other owner _ apart) _
    · intro other shape inputIdx
      simp only [Event.action.injEq, Action.updateInput.injEq] at shape
      obtain ⟨place, rfl⟩ := shape
      exact absurd (Prod.ext place.symm (inputIdx.symm.trans delivers.inputIdx)) own

/-! An input gets a player. -/

/-- The manager with a new controller at a player. -/
def withController (manager : HidSharedMemoryManager) (player : PlayerIdx) :
    HidSharedMemoryManager :=
  { manager with
    controllerList := Function.update manager.controllerList player
      (some manager.controllers.length)
    controllers := manager.controllers ++ [{ playerIdx := player }] }

theorem attachController_pads {pads : SharedPads} {inputIdx : InputIdx} {pointer : Nat}
    (got : (pads.attachController inputIdx).own.controllerList inputIdx = some pointer) :
    pads.attachController inputIdx = pads ∨
      ∃ player, pads.manager.controllerList player = none ∧
        pointer = pads.manager.controllers.length ∧
        pads.attachController inputIdx = ⟨withController pads.manager player,
          ⟨Function.update pads.own.controllerList inputIdx (some pointer)⟩⟩ := by
  unfold SharedPads.attachController at got ⊢
  split at got
  · rename_i attached
    exact Or.inl (if_pos attached)
  · rename_i detached
    right
    rw [if_neg detached]
    have without : ¬SwitchMITMHandler.isControllerAttached pads.own inputIdx = true := detached
    simp only [SwitchMITMHandler.attachController] at got ⊢
    rw [if_neg without] at got ⊢
    rcases pads.manager.attachController_cases with ⟨refused, -⟩ | ⟨player, free, answered⟩
    · rw [refused] at got
      simp at got
    · rw [answered] at got ⊢
      simp only [Function.update_self, Option.some.injEq] at got
      subst got
      exact ⟨player, free, rfl, rfl⟩

/-- The pads of a handler when it sends a state: as they were, or with a player for the input. -/
theorem readied_cases {pads ready : SharedPads} {inputIdx : InputIdx} {pointer : Nat}
    (attach : ready = pads.attachController inputIdx ∨ ready = pads)
    (got : ready.own.controllerList inputIdx = some pointer) :
    ready = pads ∨ ∃ player, pads.manager.controllerList player = none ∧
      pointer = pads.manager.controllers.length ∧
      ready = ⟨withController pads.manager player,
        ⟨Function.update pads.own.controllerList inputIdx (some pointer)⟩⟩ := by
  rcases attach with asked | same
  · subst asked
    exact attachController_pads got
  · exact Or.inl same

theorem updateControllerState_pads {pads sent : SharedPads} {state : GamepadState}
    {inputIdx : InputIdx} {result : Result}
    (answer : pads.updateControllerState state inputIdx = .ok (result, sent)) :
    ∃ pointer, pads.own.controllerList inputIdx = some pointer ∧
      sent = ⟨pads.manager.update pointer state, pads.own⟩ := by
  rw [SharedPads.updateControllerState] at answer
  obtain ⟨⟨code, own⟩, called, answer⟩ := Exec.bind_eq_ok answer
  rw [SwitchMITMHandler.updateControllerState] at called
  cases found : pads.own.controllerList inputIdx with
  | none => simp [found] at called
  | some pointer =>
      simp only [found, Except.ok.injEq, Prod.mk.injEq] at called answer
      obtain ⟨-, rfl⟩ := called
      simp only [pure, Except.pure, Except.ok.injEq, Prod.mk.injEq] at answer
      exact ⟨pointer, rfl, answer.2.symm⟩

theorem player_withController {player : PlayerIdx} {pointer : Nat}
    (old : pointer < manager.controllers.length) :
    (withController manager player).player pointer = manager.player pointer := by
  simp only [HidSharedMemoryManager.player, withController, List.getElem?_append_left old]

theorem Holds.lt_length (holds : Holds manager held) {pointer : Nat}
    (here : held port = some pointer) : pointer < manager.controllers.length := by
  obtain ⟨player, owner, -⟩ := holds.listed port pointer here
  obtain ⟨controller, found, -⟩ := Option.map_eq_some_iff.mp owner
  exact (List.getElem?_eq_some_iff.mp found).1

/-! The steps of the system. -/

/-- The actions of a thread that runs, and those after its end. -/
def Enabled (state : State handler) : Action handler → Prop
  | .updateInput place _ | .exitThread place => state.running place = true
  | .detach place _ | .replace place => state.running place = false

instance (state : State handler) : DecidablePred (Enabled state)
  | .updateInput place _ | .exitThread place =>
      inferInstanceAs (Decidable (state.running place = true))
  | .detach place _ | .replace place => inferInstanceAs (Decidable (state.running place = false))

structure Displayed (events : List (Event handler)) (state : State handler) : Prop where
  counted : ∀ player, state.manager.sharedmemoryEntryList.length = (opened events player).length
  connected : ∀ place, state.running place = true →
    AttachedConnected SharedPads.backend (state.shared place)
  holds : Holds state.manager state.held
  shows : ∀ port, Shows state.manager state.held events port

theorem unreported_other {place : handler} {read : InputRead} {port : handler × InputIdx}
    (other : port ≠ (place, read.inputIdx)) :
    Unreported port (.action (.updateInput place read)) := by
  intro mine shape inputIdx
  simp only [Event.action.injEq, Action.updateInput.injEq] at shape
  obtain ⟨here, rfl⟩ := shape
  exact absurd (Prod.ext here.symm inputIdx.symm) other

theorem unreported_stays {place : handler} {read : InputRead} (stays : read.Stays read.inputIdx)
    (port : handler × InputIdx) : Unreported port (.action (.updateInput place read)) := by
  intro mine shape _
  simp only [Event.action.injEq, Action.updateInput.injEq] at shape
  obtain ⟨-, rfl⟩ := shape
  exact stays rfl

theorem displayed_shrink {state next : State handler} {taken : Action handler}
    (displayed : Displayed events state)
    (shrinks : Shrinks state.manager next.manager state.held next.held)
    (quiet : ∀ port, next.held port ≠ none → Unreported port (.action taken))
    (connected : ∀ place, next.running place = true →
      AttachedConnected SharedPads.backend (next.shared place)) :
    Displayed (events ++ [.action taken]) next where
  counted player := by rw [shrinks.entries, opened_action, displayed.counted player]
  connected := connected
  holds := shrinks.holds displayed.holds
  shows port := shrinks.shows (displayed.shows port) (quiet port)

theorem displayed_send {state next : State handler} {place : handler} {read : InputRead}
    {pointer : Nat} (displayed : Displayed events state) (holds : Holds manager held)
    (entries : manager.sharedmemoryEntryList = state.manager.sharedmemoryEntryList)
    (here : held (place, read.inputIdx) = some pointer) (delivers : read.Delivers read.inputIdx)
    (others : ∀ other, other ≠ (place, read.inputIdx) → Shows manager held events other)
    (sent : next.manager = manager.update pointer (gamepadState read.normal))
    (kept : next.held = held)
    (connected : ∀ place, next.running place = true →
      AttachedConnected SharedPads.backend (next.shared place)) :
    Displayed (events ++ [.action (.updateInput place read)]) next := by
  have counted (player : PlayerIdx) :
      manager.sharedmemoryEntryList.length = (opened events player).length :=
    (congrArg List.length entries).trans (displayed.counted player)
  refine ⟨?_, connected, ?_, ?_⟩
  · intro player
    rw [sent, opened_action, ← counted player]
    exact length_update _ _ _
  · rw [sent, kept]
    exact holds.update _ _
  · rw [sent, kept]
    exact Shows.send holds counted here delivers others

theorem start_displayed : Displayed [] ({} : State handler) := by
  constructor
  · exact fun _ => rfl
  · intro place _ slot attached
    simp [SharedPads.backend, SharedPads.isControllerAttached, State.shared,
      SwitchMITMHandler.isControllerAttached] at attached
  · exact ⟨fun port pointer here => by simp [State.held] at here,
      fun first second pointer here => by simp [State.held] at here⟩
  · intro port pointer player here
    simp [State.held] at here

variable [DecidableEq handler]

theorem Holds.attach (holds : Holds manager held) {player : PlayerIdx}
    (free : manager.controllerList player = none) :
    Holds (withController manager player)
      (Function.update held port (some manager.controllers.length)) := by
  constructor
  · intro any pointer here
    by_cases own : any = port
    · subst own
      rw [Function.update_self, Option.some.injEq] at here
      subst here
      exact ⟨player, by simp [HidSharedMemoryManager.player, withController],
        by simp [withController]⟩
    · rw [Function.update_of_ne own] at here
      obtain ⟨theirs, owner, listed⟩ := holds.listed any pointer here
      refine ⟨theirs, (player_withController (holds.lt_length here)).trans owner, ?_⟩
      have apart : theirs ≠ player := by
        rintro rfl
        simp [free] at listed
      simp only [withController, Function.update_of_ne apart, listed]
  · intro first second pointer here there
    by_cases own : first = port
    · by_cases same : second = port
      · rw [own, same]
      · rw [own, Function.update_self, Option.some.injEq] at here
        rw [Function.update_of_ne same] at there
        have old := holds.lt_length there
        omega
    · rw [Function.update_of_ne own] at here
      by_cases same : second = port
      · rw [same, Function.update_self, Option.some.injEq] at there
        have old := holds.lt_length here
        omega
      · rw [Function.update_of_ne same] at there
        exact holds.alone first second pointer here there

theorem Shows.attach (holds : Holds manager held) {player : PlayerIdx} {other : handler × InputIdx}
    (apart : other ≠ port) (shows : Shows manager held events other) :
    Shows (withController manager player)
      (Function.update held port (some manager.controllers.length)) events other := by
  intro pointer theirs here owner
  rw [Function.update_of_ne apart] at here
  rw [player_withController (holds.lt_length here)] at owner
  exact shows pointer theirs here owner

def eventStep (state : State handler) : Event handler → Option (State handler)
  | .action taken => if Enabled state taken then (step state taken).toOption else none
  | .add real => some { state with manager := state.manager.add (.create real.1) }

theorem held_put_same {state : State handler} {place : handler}
    {shared : SwitchVirtualGamepadHandler SharedPads}
    (own : shared.pads.own = (state.shared place).pads.own) :
    (state.put place shared).held = state.held := by
  funext port
  by_cases here : port.1 = place
  · simp [State.held, State.put, here, own, State.shared]
  · simp [State.held, State.put, here]

theorem held_put_update {state : State handler} {place : handler}
    {shared : SwitchVirtualGamepadHandler SharedPads} {inputIdx : InputIdx} {value : Option Nat}
    (own : shared.pads.own.controllerList =
      Function.update (state.shared place).pads.own.controllerList inputIdx value) :
    (state.put place shared).held = Function.update state.held (place, inputIdx) value := by
  funext port
  by_cases here : port.1 = place
  · have moved : (state.put place shared).held port = shared.pads.own.controllerList port.2 := by
      simp [State.held, State.put, here]
    rw [moved, own]
    by_cases same : port.2 = inputIdx
    · rw [same, Function.update_self, show port = (place, inputIdx) from Prod.ext here same,
        Function.update_self]
    · have other : port ≠ (place, inputIdx) := fun equal => same (congrArg Prod.snd equal)
      rw [Function.update_of_ne same, Function.update_of_ne other, State.held, here]
      rfl
  · have other : port ≠ (place, inputIdx) := fun equal => here (congrArg Prod.fst equal)
    rw [Function.update_of_ne other]
    simp [State.held, State.put, here]

theorem connected_put {state : State handler} {place : handler}
    {shared : SwitchVirtualGamepadHandler SharedPads}
    (connected : ∀ place, state.running place = true →
      AttachedConnected SharedPads.backend (state.shared place))
    (new : state.running place = true → AttachedConnected SharedPads.backend shared) :
    ∀ other, (state.put place shared).running other = true →
      AttachedConnected SharedPads.backend ((state.put place shared).shared other) := by
  intro other running
  by_cases own : other = place
  · subst own
    rw [shared_put_self]
    exact new running
  · have before := connected other running
    intro slot attached
    simp only [State.put, State.shared, Function.update_of_ne own] at attached ⊢
    exact before slot attached

theorem detachController_pads (pads : SharedPads) (inputIdx : InputIdx) :
    (pads.own.controllerList inputIdx = none ∧ pads.detachController inputIdx = pads) ∨
      ∃ pointer, pads.own.controllerList inputIdx = some pointer ∧
        pads.detachController inputIdx = ⟨pads.manager.detachController (some pointer),
          ⟨Function.update pads.own.controllerList inputIdx none⟩⟩ := by
  cases found : pads.own.controllerList inputIdx with
  | none =>
      left
      refine ⟨rfl, if_pos ?_⟩
      simp [SharedPads.isControllerAttached, SwitchMITMHandler.isControllerAttached, found]
  | some pointer =>
      right
      have attached : SwitchMITMHandler.isControllerAttached pads.own inputIdx = true := by
        simp [SwitchMITMHandler.isControllerAttached, found]
      refine ⟨pointer, rfl, ?_⟩
      rw [SharedPads.detachController, SharedPads.isControllerAttached, if_neg (by simp [attached]),
        SwitchMITMHandler.detachController, if_neg (by simp [attached]), found]

/-- An input gives its player back. -/
theorem detach_shrinks {state : State handler} (holds : Holds state.manager state.held)
    (place : handler) (inputIdx : InputIdx) {shared : SwitchVirtualGamepadHandler SharedPads}
    (pads : shared.pads = (state.shared place).pads.detachController inputIdx) :
    Shrinks state.manager (state.put place shared).manager state.held
        (state.put place shared).held ∧
      (state.put place shared).held (place, inputIdx) = none := by
  have manager : (state.put place shared).manager = shared.pads.manager := rfl
  rcases detachController_pads (state.shared place).pads inputIdx with
    ⟨free, same⟩ | ⟨pointer, taken, changed⟩
  · rw [same] at pads
    rw [manager, held_put_same (congrArg SharedPads.own pads), pads]
    exact ⟨⟨rfl, rfl, fun _ _ here => here, fun _ _ _ _ listed => listed⟩, free⟩
  · rw [changed] at pads
    have rest : (state.put place shared).held =
        Function.update state.held (place, inputIdx) none :=
      held_put_update (congrArg (fun pads => pads.own.controllerList) pads)
    rw [manager, rest, pads]
    obtain ⟨entries, controllers⟩ := detachController_keeps state.manager (some pointer)
    have held : ∀ port theirs, Function.update state.held (place, inputIdx) none port =
        some theirs → port ≠ (place, inputIdx) ∧ state.held port = some theirs := by
      intro port theirs here
      by_cases own : port = (place, inputIdx)
      · simp [own] at here
      · rw [Function.update_of_ne own] at here
        exact ⟨own, here⟩
    refine ⟨⟨entries, controllers, fun port theirs here => (held port theirs here).2, ?_⟩,
      Function.update_self _ _ _⟩
    intro port theirs player here listed
    obtain ⟨other, there⟩ := held port theirs here
    have manager : (state.shared place).pads.manager = state.manager := rfl
    rw [manager]
    rcases state.manager.detachController_cases (some pointer) with
      ⟨unchanged, -⟩ | ⟨freed, own, emptied⟩
    · rw [unchanged]
      exact listed
    · have apart : player ≠ freed := by
        rintro rfl
        obtain rfl := Option.some.inj (own.symm.trans listed)
        exact other (holds.alone port (place, inputIdx) _ there taken)
      rw [emptied]
      simp only [Function.update_of_ne apart, listed]

theorem kept_shrinks {state : State handler} {place : handler}
    {shared : SwitchVirtualGamepadHandler SharedPads}
    (kept : shared.pads = (state.shared place).pads) :
    Shrinks state.manager (state.put place shared).manager state.held
      (state.put place shared).held := by
  have manager : (state.put place shared).manager = shared.pads.manager := rfl
  rw [manager, kept, held_put_same (congrArg SharedPads.own kept)]
  exact Shrinks.rfl

theorem updateInput_displayed {state : State handler} {place : handler} {read : InputRead}
    {result : Result} {handled : SwitchVirtualGamepadHandler SharedPads}
    (displayed : Displayed events state) (running : state.running place = true)
    (step : handleInput SharedPads.backend () (state.shared place) read = .ok (result, handled)) :
    Displayed (events ++ [.action (.updateInput place read)]) (state.put place handled) := by
  have before := displayed.connected place running
  have connected : ∀ other, (state.put place handled).running other = true →
      AttachedConnected SharedPads.backend ((state.put place handled).shared other) :=
    connected_put displayed.connected fun _ =>
      handleInput_attached SharedPads.lawful step before
  rcases handleInput_fate SharedPads.lawful (before read.inputIdx) step with
    ⟨_, gone, given | kept⟩ | ⟨stays, kept⟩ | ⟨delivers, ready, attach, sent⟩
  · obtain ⟨shrinks, free⟩ := detach_shrinks displayed.holds place read.inputIdx given
    refine displayed_shrink displayed shrinks ?_ connected
    intro port still
    exact unreported_other fun own => still (own ▸ free)
  · refine displayed_shrink displayed (kept_shrinks kept) ?_ connected
    intro port still
    refine unreported_other fun own => still ?_
    rw [held_put_same (congrArg SharedPads.own kept), own, ← Option.isNone_iff_eq_none]
    simpa [kept, SharedPads.backend, SharedPads.isControllerAttached,
      SwitchMITMHandler.isControllerAttached, State.shared, State.held] using gone
  · exact displayed_shrink displayed (kept_shrinks kept)
      (fun port _ => unreported_stays stays port) connected
  · obtain ⟨pointer, got, pads⟩ := updateControllerState_pads sent
    rcases readied_cases attach got with rfl | ⟨player, free, rfl, rfl⟩
    · have same : (state.put place handled).held = state.held := held_put_same (by rw [pads])
      exact displayed_send displayed displayed.holds rfl got delivers
        (fun other _ => displayed.shows other) (congrArg SharedPads.manager pads) same connected
    · have held : (state.put place handled).held = _ :=
        held_put_update (congrArg (fun pads => pads.own.controllerList) pads)
      exact displayed_send displayed (displayed.holds.attach free) rfl
        (Function.update_self _ _ _) delivers
        (fun other apart => Shows.attach displayed.holds apart (displayed.shows other))
        (congrArg SharedPads.manager pads) held connected

theorem connected_setRunning {state : State handler} {place : handler} {runs : Bool}
    (connected : ∀ place, state.running place = true →
      AttachedConnected SharedPads.backend (state.shared place))
    (new : runs = true → AttachedConnected SharedPads.backend (state.shared place)) :
    ∀ other, (state.setRunning place runs).running other = true →
      AttachedConnected SharedPads.backend ((state.setRunning place runs).shared other) := by
  intro other running
  by_cases own : other = place
  · subst own
    exact new (by simpa [State.setRunning] using running)
  · exact connected other (by simpa [State.setRunning, own] using running)

/-- A handler whose thread has ended is replaced by a new one, which holds no player. -/
theorem displayed_replace {state : State handler} {place : handler}
    (displayed : Displayed events state) (ended : ¬state.running place = true) :
    Displayed (events ++ [.action (.replace place)])
      ((state.put place { pads := ⟨state.manager, {}⟩ }).setRunning place true) := by
  refine displayed_shrink displayed ⟨Eq.refl _, Eq.refl _, ?_, fun _ _ _ _ listed => listed⟩
    (fun port _ read shape => by simp at shape) ?_
  · intro port pointer here
    by_cases own : port.1 = place
    · simp [State.held, State.put, State.setRunning, own] at here
    · simpa [State.held, State.put, State.setRunning, own] using here
  · refine connected_setRunning (connected_put displayed.connected fun running =>
      absurd running ended) fun _ => ?_
    rw [shared_put_self]
    intro slot attached
    simp [SharedPads.backend, SharedPads.isControllerAttached,
      SwitchMITMHandler.isControllerAttached] at attached

theorem eventStep_displayed {state next : State handler} {event : Event handler}
    (displayed : Displayed events state) (taken : eventStep state event = some next) :
    Displayed (events ++ [event]) next := by
  cases event with
  | add real =>
      cases Option.some.inj taken
      refine ⟨?_, displayed.connected, ⟨displayed.holds.listed, displayed.holds.alone⟩,
        fun port => (displayed.shows port).add real⟩
      intro player
      simp [HidSharedMemoryManager.add, displayed.counted player]
  | action act =>
      rw [eventStep, Option.ite_none_right_eq_some] at taken
      obtain ⟨enabled, taken⟩ := taken
      cases act with
      | updateInput place read =>
          rw [step, if_pos (show state.running place = true from enabled)] at taken
          cases handled : handleInput SharedPads.backend () (state.shared place) read with
          | error fault => simp [handled, bind, Except.bind, Except.toOption] at taken
          | ok answer =>
              simp only [handled, bind, Except.bind, pure, Except.pure, Except.toOption,
                Option.some.injEq] at taken
              subst taken
              exact updateInput_displayed displayed enabled handled
      | exitThread place =>
          cases Option.some.inj taken
          refine displayed_shrink displayed Shrinks.rfl
            (fun port _ read shape => by simp at shape) ?_
          exact connected_setRunning displayed.connected (by simp)
      | detach place inputIdx =>
          have ended : ¬state.running place = true := by simpa [Enabled] using enabled
          rw [step, if_neg ended] at taken
          cases Option.some.inj taken
          refine displayed_shrink displayed (detach_shrinks displayed.holds place inputIdx rfl).1
            (fun port _ read shape => by simp at shape) ?_
          exact connected_put displayed.connected fun running => absurd running ended
      | replace place =>
          have ended : ¬state.running place = true := by simpa [Enabled] using enabled
          rw [step, if_neg ended] at taken
          cases Option.some.inj taken
          exact displayed_replace displayed ended

/-- Handlers of any number, and processes that come at any time: an input that holds a player is the
only one that writes to it. The processes that had come by the latest report of the input show this
report as the newest state of the player, and those that came later what `hid` showed there. -/
theorem held_player_shows {last : State handler}
    (run : events.foldlM eventStep ({} : State handler) = some last) :
    (∀ first second pointer rival player, first ≠ second → last.held first = some pointer →
      last.held second = some rival → last.manager.player pointer = some player →
        last.manager.player rival ≠ some player) ∧
    ∀ port pointer, last.held port = some pointer →
      ∃ player, last.manager.player pointer = some player ∧
        last.manager.controllerList player = some pointer ∧
        Since (Brought last.manager events port player) (Unreported port) events := by
  have displayed := (Run.of_foldlM_some run).history start_displayed
    fun _ _ _ _ => eventStep_displayed
  rw [List.nil_append] at displayed
  constructor
  · intro first second pointer rival player other here there owner
    exact displayed.holds.apart other here there owner
  · intro port pointer here
    obtain ⟨player, owner, listed⟩ := displayed.holds.listed port pointer here
    exact ⟨player, owner, listed, displayed.shows port pointer player here owner⟩

end Shown

def usedState : HidNpadInternalState := updateState 0 { buttons := 1 } zeroState

/-- A memory in which `hid` shows a controller at each player. -/
def usedMemory : OpenedMemory where
  val :=
    { npad := fun _ => usedState
      touchscreen := { bufferCount := 17, tail := 0, count := 0, storage := fun _ => {} } }
  property _ _ := by
    have formed : usedState.fullKeyLifo.WellFormed := ⟨by decide, by decide⟩
    exact ⟨formed, rfl⟩

/-- Two handlers with an input each. A second process comes between their reports. -/
def twoHandlers (first second : InputIdx) : List (Event Bool) :=
  [.add usedMemory, .action (.updateInput false ⟨.success, first, true, {}⟩), .add usedMemory,
    .action (.updateInput true ⟨.success, second, true, {}⟩)]

theorem twoHandlers_show :
    ∃ last player, (twoHandlers 0 2).foldlM eventStep {} = some last ∧
      last.held (true, 2) = some 1 ∧ last.manager.player 1 = some player ∧
      Since (Brought last.manager (twoHandlers 0 2) (true, 2) player) (Unreported (true, 2))
        (twoHandlers 0 2) := by
  have computed : ((twoHandlers 0 2).foldlM eventStep {}).map (fun last => last.held (true, 2)) =
      some (some 1) := by decide
  obtain ⟨last, run, here⟩ := Option.map_eq_some_iff.mp computed
  obtain ⟨player, owner, -, since⟩ := (held_player_shows run).2 (true, 2) 1 here
  exact ⟨last, player, run, here, owner, since⟩

end SysCon.MitmSystem
