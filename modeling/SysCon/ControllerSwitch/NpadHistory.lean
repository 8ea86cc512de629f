import SysCon.ControllerSwitch.SwitchMITMManager
import SysCon.Library.Runs

/-!
The states of a player that a process finds in its fake memory: a ring of
samples, numbered by the controller that writes them. The controllers are those
ever made, attached or not, and any of them can be updated.
-/

namespace SysCon.NpadHistory

open Library HidSharedMemoryController

/-- The manager, and what each player was last updated with. -/
structure State where
  manager : HidSharedMemoryManager := {}
  latest : PlayerIdx → Option GamepadState := fun _ => none

/-- The entry of a process that has seen no controller yet. -/
abbrev NewEntry :=
  { entry : HidSharedMemoryEntry // ∀ player, entry.fake.npad player = zeroState }

inductive Action
  | attachController
  | detachController (controller : Option Nat)
  | add (entry : NewEntry)
  | update (pointer : Nat) (state : GamepadState)

def step (current : State) : Action → State
  | .attachController => { current with manager := current.manager.attachController.2 }
  | .detachController controller =>
    { current with manager := current.manager.detachController controller }
  | .add entry => { current with manager := current.manager.add entry }
  | .update pointer state =>
    { manager := current.manager.update pointer state
      latest :=
        match current.manager.controllers[pointer]? with
        | none => current.latest
        | some controller => Function.update current.latest controller.playerIdx (some state) }

def number (sample : HidNpadCommonStateAtomicStorage) : Nat := sample.samplingNumber.toNat

/-- What a process reads of an initialised player. -/
structure Readable (lifo : RingBuffer HidNpadCommonStateAtomicStorage)
    (latest : Option GamepadState) : Prop where
  tail_lt : lifo.tail < 17
  count_le : lifo.count ≤ 17
  increasing : lifo.Increasing number
  newest : lifo.history.getLast?.map (·.state) = latest

def Historic (current : State) : Prop :=
  ∀ entry ∈ current.manager.sharedmemoryEntryList, ∀ player,
    (entry.fake.npad player).styleSet ≠ 0 →
      Readable (entry.fake.npad player).fullKeyLifo (current.latest player)

def Started (entries : List HidSharedMemoryEntry) (player : PlayerIdx) : Prop :=
  ∃ entry ∈ entries, (entry.fake.npad player).styleSet ≠ 0

/-- An update carries on: a controller that has not numbered any sample writes for a player
without history, and the numbers do not wrap. -/
def CarriesOn (current : State) : Action → Prop
  | .update pointer _ =>
    ∀ controller, current.manager.controllers[pointer]? = some controller →
      (controller.samplingNumber = 0 →
          ¬Started current.manager.sharedmemoryEntryList controller.playerIdx) ∧
        controller.samplingNumber.toNat + current.manager.sharedmemoryEntryList.length ≤ 2 ^ 64
  | _ => True

/-! One internal state under an update. -/

structure Kept (lifo : RingBuffer HidNpadCommonStateAtomicStorage) : Prop where
  size : lifo.bufferCount = 17
  formed : lifo.WellFormed
  filled : lifo.count ≠ 0
  increasing : lifo.Increasing number

theorem Kept.readable {lifo : RingBuffer HidNpadCommonStateAtomicStorage} (kept : Kept lifo) :
    Readable lifo (some lifo.newest.state) := by
  refine ⟨kept.size ▸ kept.formed.tail_lt, kept.size ▸ kept.formed.count_le, kept.increasing, ?_⟩
  rw [RingBuffer.getLast?_history kept.formed kept.filled, Option.map_some]

theorem Kept.push {lifo : RingBuffer HidNpadCommonStateAtomicStorage}
    {sample : HidNpadCommonStateAtomicStorage} (size : lifo.bufferCount = 17)
    (formed : lifo.WellFormed) (increasing : lifo.Increasing number)
    (larger : lifo.count ≠ 0 → number lifo.newest < number sample) : Kept (lifo.push sample) where
  size := size
  formed := formed.push
  filled := RingBuffer.push_count_ne_zero formed
  increasing := RingBuffer.increasing_push formed increasing larger

theorem initializeState_styleSet : initializeState.styleSet ≠ 0 := by decide

theorem updateState_styleSet (samplingNumber : UInt64) (state : GamepadState)
    (internalState : HidNpadInternalState) :
    (updateState samplingNumber state internalState).styleSet ≠ 0 := by
  rw [updateState]
  split
  · exact initializeState_styleSet
  · assumption

theorem updateState_newest (samplingNumber : UInt64) (state : GamepadState)
    (internalState : HidNpadInternalState) :
    (updateState samplingNumber state internalState).fullKeyLifo.newest =
      npadSample samplingNumber state := RingBuffer.newest_push

theorem updateState_kept {samplingNumber : UInt64} {state : GamepadState}
    {internalState : HidNpadInternalState}
    (before : internalState.styleSet ≠ 0 → Kept internalState.fullKeyLifo ∧
      number internalState.fullKeyLifo.newest < samplingNumber.toNat) :
    Kept (updateState samplingNumber state internalState).fullKeyLifo := by
  rw [updateState]
  split
  · exact Kept.push rfl ⟨by decide, by decide⟩ (by decide) (fun filled => absurd rfl filled)
  · rename_i initialised
    obtain ⟨kept, smaller⟩ := before initialised
    exact Kept.push kept.size kept.formed kept.increasing fun _ => smaller

/-! The loop over the entries. -/

theorem updateEntries_eq (player : PlayerIdx) (state : GamepadState) (samplingNumber : UInt64)
    (entries : List HidSharedMemoryEntry) :
    updateEntries player state samplingNumber entries =
      (samplingNumber + UInt64.ofNat entries.length,
        entries.mapIdx fun index entry =>
          updateEntry player (samplingNumber + UInt64.ofNat index) state entry) := by
  induction entries generalizing samplingNumber with
  | nil => simp [updateEntries]
  | cons entry rest ih =>
      rw [updateEntries, ih]
      simp only [List.mapIdx_cons, List.length_cons, UInt64.ofNat_add, Prod.mk.injEq,
        List.cons.injEq]
      refine ⟨?_, ?_, ?_⟩
      · ac_rfl
      · simp
      · congr 1
        funext index other
        congr 1
        ac_rfl

theorem toNat_add_ofNat {samplingNumber : UInt64} {index : Nat}
    (fits : samplingNumber.toNat + index < 2 ^ 64) :
    (samplingNumber + UInt64.ofNat index).toNat = samplingNumber.toNat + index := by
  rw [UInt64.toNat_add, UInt64.toNat_ofNat']
  omega

theorem updateEntry_same (player : PlayerIdx) (samplingNumber : UInt64) (state : GamepadState)
    (entry : HidSharedMemoryEntry) :
    (updateEntry player samplingNumber state entry).fake.npad player =
      updateState samplingNumber state (entry.fake.npad player) := by
  simp [updateEntry]

theorem updateEntry_other {player other : PlayerIdx} (samplingNumber : UInt64)
    (state : GamepadState) (entry : HidSharedMemoryEntry) (apart : other ≠ player) :
    (updateEntry player samplingNumber state entry).fake.npad other = entry.fake.npad other := by
  simp [updateEntry, apart]

theorem mem_updateEntries {player : PlayerIdx} {state : GamepadState} {samplingNumber : UInt64}
    {entries : List HidSharedMemoryEntry} {updated : HidSharedMemoryEntry}
    (fits : samplingNumber.toNat + entries.length ≤ 2 ^ 64)
    (member : updated ∈ (updateEntries player state samplingNumber entries).2) :
    ∃ entry ∈ entries, ∃ given : UInt64, samplingNumber.toNat ≤ given.toNat ∧
      given.toNat < samplingNumber.toNat + entries.length ∧
      updated = updateEntry player given state entry := by
  rw [updateEntries_eq] at member
  obtain ⟨index, bound, rfl⟩ := List.mem_mapIdx.mp member
  have given : (samplingNumber + UInt64.ofNat index).toNat = samplingNumber.toNat + index :=
    toNat_add_ofNat (by omega)
  refine ⟨entries[index], List.getElem_mem bound, _, ?_, ?_, rfl⟩
  · omega
  · omega

theorem head?_updateEntries (player : PlayerIdx) (state : GamepadState) (samplingNumber : UInt64)
    (entries : List HidSharedMemoryEntry) :
    (updateEntries player state samplingNumber entries).2.head? =
      entries.head?.map (updateEntry player samplingNumber state) := by
  cases entries with
  | nil => rfl
  | cons entry rest => rfl

/-! The invariant of the runs that carry on: a controller that has numbered samples is ahead of
every history of its player, and it is the only one of the player. -/

def Numbered (manager : HidSharedMemoryManager) (pointer : Nat)
    (controller : HidSharedMemoryController) : Prop :=
  manager.controllers[pointer]? = some controller ∧ controller.samplingNumber ≠ 0

structure Counted (current : State) : Prop where
  kept : ∀ entry ∈ current.manager.sharedmemoryEntryList, ∀ player,
    (entry.fake.npad player).styleSet ≠ 0 → Kept (entry.fake.npad player).fullKeyLifo ∧
      current.latest player = some (entry.fake.npad player).fullKeyLifo.newest.state
  ahead : ∀ pointer controller, Numbered current.manager pointer controller →
    ∀ entry ∈ current.manager.sharedmemoryEntryList,
      (entry.fake.npad controller.playerIdx).styleSet ≠ 0 →
        number (entry.fake.npad controller.playerIdx).fullKeyLifo.newest <
          controller.samplingNumber.toNat
  started : ∀ pointer controller, Numbered current.manager pointer controller →
    Started current.manager.sharedmemoryEntryList controller.playerIdx
  single : ∀ pointer other controller rival, Numbered current.manager pointer controller →
    Numbered current.manager other rival → controller.playerIdx = rival.playerIdx →
      pointer = other
  first : ∀ player, Started current.manager.sharedmemoryEntryList player →
    ∃ entry, current.manager.sharedmemoryEntryList.head? = some entry ∧
      (entry.fake.npad player).styleSet ≠ 0

theorem Counted.historic {current : State} (counted : Counted current) : Historic current := by
  intro entry member player initialised
  obtain ⟨kept, latest⟩ := counted.kept entry member player initialised
  rw [latest]
  exact kept.readable

theorem Counted.start : Counted {} := by
  constructor <;> simp [Started, Numbered]

theorem Counted.of_same {current : State} (counted : Counted current)
    {manager : HidSharedMemoryManager}
    (entries : manager.sharedmemoryEntryList = current.manager.sharedmemoryEntryList)
    (controllers : ∀ pointer controller, Numbered manager pointer controller →
      Numbered current.manager pointer controller) : Counted { current with manager } := by
  constructor
  · simp only [entries]
    exact counted.kept
  · simp only [entries]
    intro pointer controller numbered
    exact counted.ahead pointer controller (controllers _ _ numbered)
  · simp only [entries]
    intro pointer controller numbered
    exact counted.started pointer controller (controllers _ _ numbered)
  · intro pointer other controller rival numbered rivalNumbered
    exact counted.single pointer other controller rival (controllers _ _ numbered)
      (controllers _ _ rivalNumbered)
  · simp only [entries]
    exact counted.first

theorem attachController_keeps (manager : HidSharedMemoryManager) :
    manager.attachController.2.sharedmemoryEntryList = manager.sharedmemoryEntryList ∧
      ∀ pointer controller, Numbered manager.attachController.2 pointer controller →
        Numbered manager pointer controller := by
  rw [HidSharedMemoryManager.attachController]
  split
  · exact ⟨rfl, fun _ _ numbered => numbered⟩
  · refine ⟨rfl, ?_⟩
    rintro pointer controller ⟨found, numbered⟩
    by_cases old : pointer < manager.controllers.length
    · rw [List.getElem?_append_left old] at found
      exact ⟨found, numbered⟩
    · rw [List.getElem?_append_right (Nat.le_of_not_lt old)] at found
      have fresh := List.mem_singleton.mp (List.mem_of_getElem? found)
      rw [fresh] at numbered
      exact absurd rfl numbered

theorem detachController_keeps (manager : HidSharedMemoryManager) (controller : Option Nat) :
    (manager.detachController controller).sharedmemoryEntryList = manager.sharedmemoryEntryList ∧
      (manager.detachController controller).controllers = manager.controllers := by
  rw [HidSharedMemoryManager.detachController]
  split
  · exact ⟨rfl, rfl⟩
  · exact ⟨rfl, rfl⟩

theorem started_append (entries : List HidSharedMemoryEntry) (entry : NewEntry)
    (player : PlayerIdx) : Started (entries ++ [entry.1]) player ↔ Started entries player := by
  have blank : (entry.1.fake.npad player).styleSet = 0 := by
    rw [entry.2 player]
    rfl
  simp [Started, or_and_right, exists_or, blank]

theorem Counted.add {current : State} (counted : Counted current) (entry : NewEntry) :
    Counted { current with manager := current.manager.add entry } := by
  have old : ∀ found ∈ current.manager.sharedmemoryEntryList ++ [entry.1], ∀ player,
      (found.fake.npad player).styleSet ≠ 0 →
        found ∈ current.manager.sharedmemoryEntryList := by
    intro found member player initialised
    rcases List.mem_append.mp member with before | isNew
    · exact before
    · rw [List.mem_singleton.mp isNew, entry.2 player] at initialised
      exact absurd rfl initialised
  constructor
  · intro found member player initialised
    exact counted.kept found (old found member player initialised) player initialised
  · intro pointer controller numbered found member initialised
    exact counted.ahead pointer controller numbered found (old found member _ initialised)
      initialised
  · intro pointer controller numbered
    exact (started_append ..).mpr (counted.started pointer controller numbered)
  · exact counted.single
  · intro player started
    obtain ⟨head, here, initialised⟩ := counted.first player ((started_append ..).mp started)
    refine ⟨head, ?_, initialised⟩
    change (current.manager.sharedmemoryEntryList ++ [entry.1]).head? = some head
    rw [List.head?_append, here, Option.some_or]

section Update

variable {entries : List HidSharedMemoryEntry} {player other : PlayerIdx} {state : GamepadState}
  {samplingNumber : UInt64}

theorem started_updateEntries_self (filled : entries ≠ []) :
    Started (updateEntries player state samplingNumber entries).2 player := by
  cases entries with
  | nil => exact absurd rfl filled
  | cons entry rest =>
      refine ⟨_, List.mem_cons_self, ?_⟩
      rw [updateEntry_same]
      exact updateState_styleSet _ _ _

theorem started_updateEntries_other (apart : other ≠ player) :
    Started (updateEntries player state samplingNumber entries).2 other ↔
      Started entries other := by
  induction entries generalizing samplingNumber with
  | nil => rfl
  | cons entry rest ih =>
      have later : Started (updateEntries player state (samplingNumber + 1) rest).2 other ↔
          Started rest other := ih
      simp only [Started, updateEntries, List.exists_mem_cons_iff] at later ⊢
      rw [later, updateEntry_other _ _ _ apart]

theorem first_updateEntries
    (first : ∀ player, Started entries player →
      ∃ entry, entries.head? = some entry ∧ (entry.fake.npad player).styleSet ≠ 0)
    (started : Started (updateEntries player state samplingNumber entries).2 other) :
    ∃ entry, (updateEntries player state samplingNumber entries).2.head? = some entry ∧
      (entry.fake.npad other).styleSet ≠ 0 := by
  rw [head?_updateEntries]
  by_cases same : other = player
  · cases entries with
    | nil => simp [Started, updateEntries] at started
    | cons entry rest =>
        refine ⟨_, rfl, ?_⟩
        rw [same, updateEntry_same]
        exact updateState_styleSet _ _ _
  · obtain ⟨entry, here, initialised⟩ := first other ((started_updateEntries_other same).mp started)
    refine ⟨updateEntry player samplingNumber state entry, by rw [here, Option.map_some], ?_⟩
    rwa [updateEntry_other _ _ _ same]

theorem toNat_updateEntries
    (fits : samplingNumber.toNat + entries.length ≤ 2 ^ 64)
    (numbered : (updateEntries player state samplingNumber entries).1 ≠ 0) :
    (updateEntries player state samplingNumber entries).1.toNat =
      samplingNumber.toNat + entries.length := by
  rw [updateEntries_eq] at numbered ⊢
  by_cases room : samplingNumber.toNat + entries.length < 2 ^ 64
  · exact toNat_add_ofNat room
  · refine absurd (UInt64.toNat_inj.mp ?_) numbered
    rw [UInt64.toNat_add, UInt64.toNat_ofNat']
    simp only [UInt64.toNat_zero]
    omega

end Update

section Step

variable {current : State} {pointer : Nat} {controller : HidSharedMemoryController}

theorem step_update (found : current.manager.controllers[pointer]? = some controller)
    (state : GamepadState) :
    step current (.update pointer state) =
      { manager := { current.manager with
          controllers := current.manager.controllers.set pointer { controller with
            samplingNumber := (updateEntries controller.playerIdx state controller.samplingNumber
              current.manager.sharedmemoryEntryList).1 }
          sharedmemoryEntryList := (updateEntries controller.playerIdx state
            controller.samplingNumber current.manager.sharedmemoryEntryList).2 }
        latest := Function.update current.latest controller.playerIdx (some state) } := by
  simp only [step, HidSharedMemoryManager.update, found]
  rfl

theorem Counted.alone (counted : Counted current)
    (found : current.manager.controllers[pointer]? = some controller)
    (carriesOn : controller.samplingNumber = 0 →
      ¬Started current.manager.sharedmemoryEntryList controller.playerIdx)
    {other : Nat} {rival : HidSharedMemoryController}
    (numbered : Numbered current.manager other rival)
    (same : rival.playerIdx = controller.playerIdx) : other = pointer := by
  by_cases fresh : controller.samplingNumber = 0
  · exact absurd (same ▸ counted.started other rival numbered) (carriesOn fresh)
  · exact counted.single other pointer rival controller numbered ⟨found, fresh⟩ same

/-- A number is above what its player has, where it does not start a player without history. -/
theorem Counted.behind (counted : Counted current)
    (found : current.manager.controllers[pointer]? = some controller)
    (carriesOn : controller.samplingNumber = 0 →
      ¬Started current.manager.sharedmemoryEntryList controller.playerIdx)
    {entry : HidSharedMemoryEntry} (member : entry ∈ current.manager.sharedmemoryEntryList)
    (initialised : (entry.fake.npad controller.playerIdx).styleSet ≠ 0) :
    number (entry.fake.npad controller.playerIdx).fullKeyLifo.newest <
      controller.samplingNumber.toNat := by
  by_cases fresh : controller.samplingNumber = 0
  · exact absurd ⟨entry, member, initialised⟩ (carriesOn fresh)
  · exact counted.ahead pointer controller ⟨found, fresh⟩ entry member initialised

theorem numbered_set {manager : HidSharedMemoryManager} {made : HidSharedMemoryController}
    {entries : List HidSharedMemoryEntry} {other : Nat} {rival : HidSharedMemoryController}
    (numbered : Numbered { manager with
      controllers := manager.controllers.set pointer made
      sharedmemoryEntryList := entries } other rival) :
    (other = pointer ∧ rival = made) ∨ (other ≠ pointer ∧ Numbered manager other rival) := by
  obtain ⟨found, numbered⟩ := numbered
  by_cases same : other = pointer
  · left
    subst same
    have bound := (List.getElem?_eq_some_iff.mp found).1
    rw [List.getElem?_set_self (by simpa using bound)] at found
    exact ⟨rfl, (Option.some.inj found).symm⟩
  · right
    rw [List.getElem?_set_ne (Ne.symm same)] at found
    exact ⟨same, found, numbered⟩

theorem Counted.update (counted : Counted current)
    (found : current.manager.controllers[pointer]? = some controller)
    (carriesOn : controller.samplingNumber = 0 →
      ¬Started current.manager.sharedmemoryEntryList controller.playerIdx)
    (fits : controller.samplingNumber.toNat + current.manager.sharedmemoryEntryList.length ≤
      2 ^ 64) (state : GamepadState) : Counted (step current (.update pointer state)) := by
  have others : ∀ other rival, other ≠ pointer → Numbered current.manager other rival →
      rival.playerIdx ≠ controller.playerIdx := by
    intro other rival apart numbered same
    exact apart (counted.alone found carriesOn numbered same)
  rw [step_update found]
  constructor
  case kept =>
    intro updated member player initialised
    obtain ⟨entry, old, given, atLeast, _, rfl⟩ := mem_updateEntries fits member
    by_cases same : player = controller.playerIdx
    · subst same
      simp only [Function.update_self, updateEntry_same, updateState_newest] at initialised ⊢
      refine ⟨updateState_kept ?_, rfl⟩
      intro before
      exact ⟨(counted.kept entry old _ before).1,
        Nat.lt_of_lt_of_le (counted.behind found carriesOn old before) atLeast⟩
    · simp only [Function.update_of_ne same, updateEntry_other _ _ _ same] at initialised ⊢
      exact counted.kept entry old player initialised
  case ahead =>
    intro other rival numbered updated member initialised
    obtain ⟨entry, old, given, _, below, rfl⟩ := mem_updateEntries fits member
    rcases numbered_set numbered with ⟨rfl, rfl⟩ | ⟨apart, before⟩
    · rw [updateEntry_same, updateState_newest, toNat_updateEntries fits numbered.2]
      exact below
    · rw [updateEntry_other _ _ _ (others _ _ apart before)] at initialised ⊢
      exact counted.ahead other rival before entry old initialised
  case started =>
    intro other rival numbered
    rcases numbered_set numbered with ⟨rfl, rfl⟩ | ⟨apart, before⟩
    · apply started_updateEntries_self
      intro empty
      have counts := toNat_updateEntries fits numbered.2
      have same : controller.samplingNumber ≠ 0 := by
        intro zero
        apply numbered.2
        simp only [empty, updateEntries, zero]
      obtain ⟨entry, member, _⟩ := counted.started other controller ⟨found, same⟩
      simp [empty] at member
    · exact (started_updateEntries_other (others _ _ apart before)).mpr
        (counted.started other rival before)
  case single =>
    intro first second here there numbered rivalNumbered same
    rcases numbered_set numbered with ⟨rfl, rfl⟩ | ⟨apart, before⟩ <;>
      rcases numbered_set rivalNumbered with ⟨rfl, rfl⟩ | ⟨rivalApart, rivalBefore⟩
    · rfl
    · exact absurd same.symm (others _ _ rivalApart rivalBefore)
    · exact absurd same (others _ _ apart before)
    · exact counted.single first second here there before rivalBefore same
  case first =>
    intro player started
    exact first_updateEntries counted.first started

theorem Counted.step {action : Action} (counted : Counted current)
    (carriesOn : CarriesOn current action) : Counted (step current action) := by
  cases action with
  | attachController =>
      have keeps := attachController_keeps current.manager
      exact counted.of_same keeps.1 keeps.2
  | detachController controller =>
      have keeps := detachController_keeps current.manager controller
      refine counted.of_same keeps.1 ?_
      intro pointer found numbered
      exact ⟨keeps.2 ▸ numbered.1, numbered.2⟩
  | add entry => exact counted.add entry
  | update pointer state =>
      cases found : current.manager.controllers[pointer]? with
      | some controller =>
          obtain ⟨blank, fits⟩ := carriesOn controller found
          exact counted.update found blank fits state
      | none =>
          have same : NpadHistory.step current (.update pointer state) = current := by
            simp only [NpadHistory.step, HidSharedMemoryManager.update, found]
          rw [same]
          exact counted

/-- A controller that starts to number again spoils the history of its player at once. -/
theorem Counted.restart_breaks (counted : Counted current)
    (found : current.manager.controllers[pointer]? = some controller)
    (fresh : controller.samplingNumber = 0)
    (started : Started current.manager.sharedmemoryEntryList controller.playerIdx)
    (state : GamepadState) : ¬Historic (NpadHistory.step current (.update pointer state)) := by
  intro historic
  obtain ⟨entry, first, initialised⟩ := counted.first _ started
  rw [step_update found, fresh] at historic
  have member : updateEntry controller.playerIdx 0 state entry ∈
      (updateEntries controller.playerIdx state 0 current.manager.sharedmemoryEntryList).2 := by
    apply List.mem_of_head?
    rw [head?_updateEntries, first, Option.map_some]
  have readable := historic _ member controller.playerIdx
  rw [updateEntry_same] at readable
  have increasing := (readable (updateState_styleSet _ _ _)).increasing
  obtain ⟨kept, _⟩ := counted.kept entry (List.mem_of_head? first) _ initialised
  rw [updateState, if_neg initialised] at increasing
  have smaller := RingBuffer.newest_lt_of_increasing_push kept.formed
    (by rw [kept.size]; decide) kept.filled increasing
  exact Nat.not_lt_zero _ smaller

end Step

theorem history_kept {actions : List Action} {last : State}
    (run : Run (Guarded CarriesOn fun current action next => step current action = next) {}
      actions last) : Historic last := by
  have counted : Counted last := by
    refine run.invariant Counted.start ?_
    rintro current action next before ⟨carriesOn, rfl⟩
    exact before.step carriesOn
  exact counted.historic

def newEntry : NewEntry :=
  ⟨.create { npad := fun _ => zeroState
             touchscreen := { bufferCount := 17, tail := 0, count := 0, storage := fun _ => {} } },
    fun _ => rfl⟩

def updatedTwice : List Action :=
  [.attachController, .add newEntry, .update 0 { buttons := 1 }, .update 0 {}]

theorem history_kept_twice : Historic (updatedTwice.foldl step {}) := by
  have run : Run (Guarded CarriesOn fun current action next => step current action = next) {}
      updatedTwice (updatedTwice.foldl step {}) := by
    refine .cons ⟨trivial, rfl⟩ (.cons ⟨trivial, rfl⟩ (.cons ⟨?_, rfl⟩ (.cons ⟨?_, rfl⟩ (.nil _))))
    · intro controller found
      obtain rfl := Option.some.inj found
      refine ⟨?_, by decide⟩
      rintro _ ⟨entry, member, initialised⟩
      obtain rfl := List.mem_singleton.mp member
      exact initialised rfl
    · intro controller found
      obtain rfl := Option.some.inj found
      exact ⟨fun zero => absurd zero (by decide), by decide⟩
  exact history_kept run

-- Attached again, the player gets a controller that numbers from 0 once more.
def reattached : List Action :=
  [.attachController, .add newEntry, .update 0 {}, .detachController (some 0), .attachController,
    .update 1 {}]

theorem reattached_breaks_history : ¬∀ actions : List Action, Historic (actions.foldl step {}) := by
  intro always
  have readable := always reattached _ List.mem_cons_self 0 (by decide)
  exact absurd readable.increasing (by decide)

end SysCon.NpadHistory
