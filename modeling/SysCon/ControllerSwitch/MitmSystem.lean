import SysCon.ControllerSwitch.HandlerInvariant
import SysCon.ControllerSwitch.PlayerSlots

/-!
The handlers of one run of the sysmodule with the manager they share. A call of
`UpdateInput` asks the manager at most once, so the calls of the threads follow
one after the other. `Exit` asks it once for each input, after the thread ended.
-/

namespace SysCon

open Library SwitchVirtualGamepadHandler

theorem SwitchMITMHandler.attachController_self (given : MitmAnswers) (pads : MitmPads)
    (inputIdx : InputIdx) :
    isControllerAttached (attachController given pads inputIdx) inputIdx =
      (isControllerAttached pads inputIdx || given.attach.isSome) := by
  rw [attachController]
  split
  · rename_i attached
    simp [attached]
  · rename_i detached
    rw [Bool.eq_false_iff.mpr detached, Bool.false_or]
    simp only [isControllerAttached, Function.update_self]

/-- The pointers of one handler, and the manager as it stands during a call. -/
structure SharedPads where
  manager : HidSharedMemoryManager
  own : MitmPads

namespace SharedPads

def isControllerAttached (pads : SharedPads) (inputIdx : InputIdx) : Bool :=
  SwitchMITMHandler.isControllerAttached pads.own inputIdx

def attachController (pads : SharedPads) (inputIdx : InputIdx) : SharedPads :=
  if pads.isControllerAttached inputIdx then pads
  else
    let (attach, manager) := pads.manager.attachController
    ⟨manager, SwitchMITMHandler.attachController { attach, update := 0 } pads.own inputIdx⟩

def detachController (pads : SharedPads) (inputIdx : InputIdx) : SharedPads :=
  if !pads.isControllerAttached inputIdx then pads
  else
    ⟨pads.manager.detachController (pads.own.controllerList inputIdx),
      SwitchMITMHandler.detachController pads.own inputIdx⟩

def updateControllerState (pads : SharedPads) (state : GamepadState) (inputIdx : InputIdx) :
    Exec (Result × SharedPads) := do
  let (result, own) ←
    SwitchMITMHandler.updateControllerState { attach := none, update := 0 } pads.own state inputIdx
  match pads.own.controllerList inputIdx with
  | none => return (result, ⟨pads.manager, own⟩)
  | some controller => return (result, ⟨pads.manager.update controller state, own⟩)

def backend : GamepadBackend SharedPads Unit where
  isControllerAttached := isControllerAttached
  attachController _ := attachController
  detachController := detachController
  updateControllerState _ := updateControllerState

theorem attachController_other (pads : SharedPads) {inputIdx slot : InputIdx}
    (other : slot ≠ inputIdx) :
    (pads.attachController inputIdx).isControllerAttached slot =
      pads.isControllerAttached slot := by
  rw [attachController]
  split
  · rfl
  · exact SwitchMITMHandler.lawful.attach_other _ _ _ _ other

theorem attachController_self (pads : SharedPads) (inputIdx : InputIdx) :
    (pads.attachController inputIdx).isControllerAttached inputIdx = true ↔
      pads.isControllerAttached inputIdx = true ∨ ∃ i, pads.manager.controllerList i = none := by
  rw [attachController]
  split
  · rename_i attached
    simp [attached]
  · rename_i detached
    have before : SwitchMITMHandler.isControllerAttached pads.own inputIdx = false := by
      simpa [isControllerAttached] using detached
    simp only [isControllerAttached, SwitchMITMHandler.attachController_self, before,
      Bool.false_or, Bool.false_eq_true, false_or]
    rcases pads.manager.attachController_cases with ⟨refused, full⟩ | ⟨i, free, answered⟩
    · rw [refused]
      simpa using full
    · rw [answered]
      simpa using ⟨i, free⟩

theorem detachController_other (pads : SharedPads) {inputIdx slot : InputIdx}
    (other : slot ≠ inputIdx) :
    (pads.detachController inputIdx).isControllerAttached slot =
      pads.isControllerAttached slot := by
  rw [detachController]
  split
  · rfl
  · exact SwitchMITMHandler.lawful.detach_other _ _ _ other

theorem detachController_self (pads : SharedPads) (inputIdx : InputIdx) :
    (pads.detachController inputIdx).isControllerAttached inputIdx = false := by
  rw [detachController]
  split
  · rename_i detached
    simpa using detached
  · exact SwitchMITMHandler.lawful.detach_self _ _

theorem updateControllerState_ok {pads after : SharedPads} {state : GamepadState}
    {inputIdx : InputIdx} {result : Result}
    (sent : pads.updateControllerState state inputIdx = .ok (result, after)) :
    after.own = pads.own ∧ pads.isControllerAttached inputIdx = true := by
  rw [updateControllerState] at sent
  obtain ⟨⟨code, own⟩, called, sent⟩ := Exec.bind_eq_ok sent
  rw [SwitchMITMHandler.updateControllerState] at called
  cases found : pads.own.controllerList inputIdx with
  | none => simp [found] at called
  | some controller =>
      simp only [found, Except.ok.injEq, Prod.mk.injEq] at called sent
      obtain ⟨-, rfl⟩ := called
      simp only [pure, Except.pure, Except.ok.injEq, Prod.mk.injEq] at sent
      obtain ⟨-, rfl⟩ := sent
      exact ⟨rfl, by simp [isControllerAttached, SwitchMITMHandler.isControllerAttached, found]⟩

theorem updateControllerState_finishes (pads : SharedPads) (state : GamepadState)
    (inputIdx : InputIdx) :
    (∃ answer, pads.updateControllerState state inputIdx = .ok answer) ↔
      pads.isControllerAttached inputIdx = true := by
  constructor
  · rintro ⟨⟨result, after⟩, sent⟩
    exact (updateControllerState_ok sent).2
  · intro attached
    obtain ⟨controller, found⟩ := Option.isSome_iff_exists.mp attached
    simp [updateControllerState, SwitchMITMHandler.updateControllerState, found, bind, Except.bind,
      pure, Except.pure]

theorem lawful : backend.Lawful where
  attach_other _ pads _ _ other := attachController_other pads other
  detach_self := detachController_self
  detach_other pads _ _ other := detachController_other pads other
  update_attached _ pads state inputIdx slot result after sent attached := by
    have same := (updateControllerState_ok sent).1
    simp only [backend, isControllerAttached, same] at attached ⊢
    exact attached
  update_other _ pads state inputIdx slot result after sent _ := by
    have same := (updateControllerState_ok sent).1
    simp only [backend, isControllerAttached, same]

end SharedPads

namespace MitmSystem

section Handler

variable {handler after : SwitchVirtualGamepadHandler SharedPads} {read : InputRead}
  {result : Result}

/-- An input that is connected has a controller or is about to attach one. -/
def Ready (handler : SwitchVirtualGamepadHandler SharedPads) : Prop :=
  ∀ slot, (handler.controllerData slot).isConnected = true →
    handler.pads.isControllerAttached slot = true ∨
      (handler.controllerData slot).reattachController = true

theorem trackConnection_ready (ready : Ready handler) (connected : Bool) (inputIdx : InputIdx) :
    Ready (trackConnection SharedPads.backend handler inputIdx connected) := by
  intro slot isConnected
  rcases trackConnection_cases SharedPads.backend handler connected inputIdx with
    ⟨_, unchanged⟩ | ⟨_, changed⟩ | ⟨_, changed⟩
  · rw [unchanged] at isConnected ⊢
    exact ready slot isConnected
  · rw [changed] at isConnected ⊢
    by_cases same : slot = inputIdx
    · right
      simp [same]
    · simp only [Function.update_of_ne same] at isConnected ⊢
      exact ready slot isConnected
  · rw [changed] at isConnected ⊢
    by_cases same : slot = inputIdx
    · simp [same] at isConnected
    · simp only [Function.update_of_ne same] at isConnected ⊢
      have other : (SharedPads.backend.detachController handler.pads inputIdx).isControllerAttached
          slot = _ := SharedPads.detachController_other handler.pads same
      rw [other]
      exact ready slot isConnected

theorem trackConnection_pads (inputIdx : InputIdx) :
    (trackConnection SharedPads.backend handler inputIdx true).pads = handler.pads := by
  rcases trackConnection_cases SharedPads.backend handler true inputIdx with
    ⟨_, unchanged⟩ | ⟨_, changed⟩ | ⟨isFalse, _⟩
  · rw [unchanged]
  · rw [changed]
  · simp at isFalse

theorem reattach_self (buttons : UInt64) (inputIdx : InputIdx)
    (pending : handler.pads.isControllerAttached inputIdx = true ∨
      (handler.controllerData inputIdx).reattachController = true) :
    (reattach SharedPads.backend () handler inputIdx buttons).pads.isControllerAttached inputIdx =
        true ↔
      handler.pads.isControllerAttached inputIdx = true ∨
        ∃ i, handler.pads.manager.controllerList i = none := by
  by_cases attached : handler.pads.isControllerAttached inputIdx = true
  · have stays : (handler.pads.attachController inputIdx).isControllerAttached inputIdx = true :=
      (SharedPads.attachController_self _ _).mpr (.inl attached)
    rcases reattach_pads SharedPads.backend () handler buttons inputIdx with asked | kept
    · rw [asked]
      exact iff_of_true stays (.inl attached)
    · rw [kept]
      exact iff_of_true attached (.inl attached)
  · have due : (handler.controllerData inputIdx).reattachController = true :=
      pending.resolve_left attached
    have asked : (reattach SharedPads.backend () handler inputIdx buttons).pads =
        handler.pads.attachController inputIdx := by
      simp [reattach, due, SharedPads.backend]
    rw [asked]
    exact SharedPads.attachController_self _ _

/-- There is a player for the input of a read, if the read comes to use one. -/
def HasPlayer (manager : HidSharedMemoryManager) (own : MitmPads) (read : InputRead) : Prop :=
  read.isControllerConnected = true → read.status = .success →
    SwitchMITMHandler.isControllerAttached own read.inputIdx = false →
      ∃ i, manager.controllerList i = none

theorem handleInput_finishes (ready : Ready handler) :
    (∃ answer, handleInput SharedPads.backend () handler read = .ok answer) ↔
      HasPlayer handler.pads.manager handler.pads.own read := by
  have connection : ((trackConnection SharedPads.backend handler read.inputIdx
      read.isControllerConnected).controllerData read.inputIdx).isConnected =
        read.isControllerConnected := trackConnection_isConnected ..
  rw [HasPlayer, handleInput]
  simp only [connection]
  cases connected : read.isControllerConnected with
  | false => simp [pure, Except.pure]
  | true =>
      by_cases success : read.status = .success
      · have tracked := trackConnection_ready ready true read.inputIdx
        have pending := tracked read.inputIdx (by rw [connected] at connection; exact connection)
        have found := reattach_self (gamepadState read.normal).buttons read.inputIdx pending
        rw [trackConnection_pads] at found
        have sends := SharedPads.updateControllerState_finishes (reattach SharedPads.backend ()
          (trackConnection SharedPads.backend handler read.inputIdx true) read.inputIdx
          (gamepadState read.normal).buttons).pads (gamepadState read.normal) read.inputIdx
        simp only [success, ne_eq, not_true_eq_false, if_false, Bool.true_eq_false, forall_const]
        rw [← Bool.not_eq_true, ← or_iff_not_imp_left]
        exact Exec.exists_bind_pure.trans (sends.trans found)
      · simp [success, pure, Except.pure]

theorem handleInput_ready (ready : Ready handler)
    (step : handleInput SharedPads.backend () handler read = .ok (result, after)) :
    Ready after := by
  intro slot connected
  by_cases same : slot = read.inputIdx
  · subst same
    rcases handleInput_cases step with ⟨_, _, tracked⟩ | ⟨_, _, updated, sent, reached⟩
    · rw [tracked] at connected ⊢
      exact trackConnection_ready ready _ _ _ connected
    · left
      have answer := SharedPads.updateControllerState_ok sent
      rw [reached, SharedPads.isControllerAttached, answer.1]
      exact answer.2
  · rw [handleInput_other step same] at connected ⊢
    have attached := handleInput_other_attached SharedPads.lawful step same
    rw [show after.pads.isControllerAttached slot = _ from attached]
    exact ready slot connected

end Handler

structure State (handler : Type) where
  manager : HidSharedMemoryManager := {}
  handlers : handler → SwitchVirtualGamepadHandler MitmPads := fun _ => { pads := {} }
  running : handler → Bool := fun _ => true

/-- A thread handles what it read, or ends in `Exit`, which then detaches the inputs one by one
before a new handler takes the place. -/
inductive Action (handler : Type)
  | updateInput (place : handler) (read : InputRead)
  | exitThread (place : handler)
  | detach (place : handler) (inputIdx : InputIdx)
  | replace (place : handler)

section Run

variable {handler : Type}

def State.shared (state : State handler) (place : handler) :
    SwitchVirtualGamepadHandler SharedPads where
  controllerData := (state.handlers place).controllerData
  pads := ⟨state.manager, (state.handlers place).pads⟩

def AllReady (state : State handler) : Prop :=
  ∀ place, state.running place = true → Ready (state.shared place)

theorem start_ready : AllReady ({} : State handler) := by
  intro place _ slot connected
  simp [State.shared] at connected

variable [DecidableEq handler]

def State.put (state : State handler) (place : handler)
    (shared : SwitchVirtualGamepadHandler SharedPads) : State handler :=
  { state with
    manager := shared.pads.manager
    handlers := Function.update state.handlers place
      { controllerData := shared.controllerData, pads := shared.pads.own } }

def State.setRunning (state : State handler) (place : handler) (runs : Bool) : State handler :=
  { state with running := Function.update state.running place runs }

-- A thread that ended handles nothing, and only then are its inputs detached.
def step (state : State handler) : Action handler → Exec (State handler)
  | .updateInput place read =>
      if state.running place then do
        let (_, after) ← handleInput SharedPads.backend () (state.shared place) read
        return state.put place after
      else .ok state
  | .exitThread place => .ok (state.setRunning place false)
  | .detach place inputIdx =>
      let shared := state.shared place
      .ok (if state.running place then state
        else state.put place { shared with pads := shared.pads.detachController inputIdx })
  | .replace place =>
      .ok (if state.running place then state
        else (state.put place { pads := ⟨state.manager, {}⟩ }).setRunning place true)

/-- Before an `UpdateInput`: a player is left for the input, unless it has one or needs none. -/
def PlayerLeft (state : State handler) : Action handler → Prop
  | .updateInput place read =>
      state.running place = true → HasPlayer state.manager (state.handlers place).pads read
  | .exitThread _ | .detach _ _ | .replace _ => True

theorem shared_put_self (state : State handler) (place : handler)
    (shared : SwitchVirtualGamepadHandler SharedPads) :
    (state.put place shared).shared place = shared := by
  simp [State.put, State.shared]

theorem put_ready {state : State handler} (allReady : AllReady state) {place : handler}
    {shared : SwitchVirtualGamepadHandler SharedPads}
    (ready : state.running place = true → Ready shared) : AllReady (state.put place shared) := by
  intro other running
  by_cases same : other = place
  · subst same
    rw [shared_put_self]
    exact ready running
  · have before := allReady other running
    intro slot connected
    simp only [State.put, State.shared, Function.update_of_ne same] at connected ⊢
    exact before slot connected

theorem setRunning_ready {state : State handler} (allReady : AllReady state) {place : handler}
    {runs : Bool} (ready : runs = true → Ready (state.shared place)) :
    AllReady (state.setRunning place runs) := by
  intro other running
  by_cases same : other = place
  · subst same
    exact ready (by simpa [State.setRunning] using running)
  · exact allReady other (by simpa [State.setRunning, same] using running)

theorem step_taken {state : State handler} (allReady : AllReady state) (action : Action handler) :
    (∃ next, step state action = .ok next) ↔ PlayerLeft state action := by
  cases action with
  | updateInput place read =>
      rw [step, PlayerLeft]
      by_cases running : state.running place = true
      · simp only [running, if_true, forall_const]
        exact Exec.exists_bind_pure.trans (handleInput_finishes (allReady place running))
      · simp [running]
  | exitThread place => exact iff_of_true ⟨_, rfl⟩ trivial
  | detach place inputIdx => exact iff_of_true ⟨_, rfl⟩ trivial
  | replace place => exact iff_of_true ⟨_, rfl⟩ trivial

theorem fresh_ready (manager : HidSharedMemoryManager) :
    Ready { pads := ⟨manager, {}⟩ } := by
  intro slot connected
  simp at connected

theorem step_ready {state next : State handler} {action : Action handler}
    (allReady : AllReady state) (taken : step state action = .ok next) : AllReady next := by
  cases action with
  | updateInput place read =>
      rw [step] at taken
      split at taken
      · rename_i running
        obtain ⟨⟨result, after⟩, handled, taken⟩ := Exec.bind_eq_ok taken
        simp only [pure, Except.pure, Except.ok.injEq] at taken
        exact taken ▸ put_ready allReady fun _ => handleInput_ready (allReady place running) handled
      · exact Except.ok.inj taken ▸ allReady
  | exitThread place =>
      rw [step, Except.ok.injEq] at taken
      exact taken ▸ setRunning_ready allReady (fun runs => absurd runs Bool.false_ne_true)
  | detach place inputIdx =>
      rw [step, Except.ok.injEq] at taken
      subst taken
      split
      · exact allReady
      · rename_i ended
        exact put_ready allReady fun running => absurd running ended
  | replace place =>
      rw [step, Except.ok.injEq] at taken
      subst taken
      split
      · exact allReady
      · refine setRunning_ready (put_ready allReady fun _ => fresh_ready state.manager) fun _ => ?_
        rw [shared_put_self]
        exact fresh_ready state.manager

/-- No call reaches a missing controller exactly when a player is left at every step. -/
theorem finishes_iff_player_left (actions : List (Action handler)) :
    (actions.foldlM step {}).Finishes ↔
      ∀ earlier action later state, actions = earlier ++ action :: later →
        earlier.foldlM step {} = .ok state → PlayerLeft state action :=
  Exec.finishes_iff.trans
    (Run.foldlM_ok_iff start_ready (fun _ action allReady => step_taken allReady action)
      fun _ _ _ => step_ready)

end Run

-- Nine handlers, each with one connected input.
theorem ninth_handler_has_no_player :
    ¬∀ count ≤ 10, ∀ actions : List (Action (Fin count)), (actions.foldlM step {}).Finishes := by
  intro always
  refine always 9 (by decide)
    ((List.finRange 9).map fun place => .updateInput place ⟨.success, 0, true, {}⟩)
    (.nullController 0) trivial ?_
  rfl

end MitmSystem

end SysCon
