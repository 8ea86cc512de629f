import SysCon.ControllerSwitch.SwitchMITMHandler
import SysCon.Library.RingBuffer

/-!
`HidSharedMemoryManager`: eight players shared by all handlers, and for each
process that opened `hid` one entry with the real memory and the fake copy the
process sees. A controller is an object on the heap, a pointer its position there.
-/

namespace SysCon

/-- An index into `m_controller_list`. -/
abbrev PlayerIdx := Fin 8

structure HidSharedMemoryController where
  playerIdx : PlayerIdx
  samplingNumber : UInt64 := 0
  deriving DecidableEq, Repr

structure HidNpadCommonStateAtomicStorage where
  samplingNumber : UInt64 := 0
  state : GamepadState := {}
  attributes : UInt32 := 0
  deriving DecidableEq, Repr

structure HidNpadInternalState where
  styleSet : UInt32
  fullKeyLifo : Library.RingBuffer HidNpadCommonStateAtomicStorage

structure HidTouchScreenStateAtomicStorage where
  samplingNumber : UInt64 := 0
  touches : List (UInt32 × UInt32) := []
  deriving DecidableEq, Repr

structure HidSharedMemory where
  npad : PlayerIdx → HidNpadInternalState
  touchscreen : Library.RingBuffer HidTouchScreenStateAtomicStorage

structure HidSharedMemoryEntry where
  real : HidSharedMemory
  fake : HidSharedMemory
  touchscreenPrevTail : Nat

/-- The entry of a new process: the fake memory starts as a copy of the real one. -/
def HidSharedMemoryEntry.create (real : HidSharedMemory) : HidSharedMemoryEntry where
  real := real
  fake := real
  touchscreenPrevTail := real.touchscreen.tail

/-- One turn of the loop of `OnRun` for an entry. `copied` is the real memory when the sample is
copied, which may be later than when the tail was read. -/
def HidSharedMemoryEntry.onRun (copied : Library.RingBuffer HidTouchScreenStateAtomicStorage)
    (entry : HidSharedMemoryEntry) : HidSharedMemoryEntry :=
  let tail := entry.real.touchscreen.tail
  if entry.real.touchscreen.count ≠ 16 then entry
  else if tail = entry.touchscreenPrevTail then entry
  else
    let touchscreen := entry.fake.touchscreen.store (copied.storage tail)
    { entry with
      fake := { entry.fake with touchscreen }
      touchscreenPrevTail := touchscreen.tail }

namespace HidSharedMemoryController

def HidNpadStyleTag_NpadFullKey : UInt32 := (1 : UInt32) <<< 0
def HidNpadStyleTag_NpadSystemExt : UInt32 := (1 : UInt32) <<< 29

def HidNpadAttribute_IsConnected : UInt32 := (1 : UInt32) <<< 0
def HidNpadAttribute_IsWired : UInt32 := (1 : UInt32) <<< 1

def zeroState : HidNpadInternalState where
  styleSet := 0
  fullKeyLifo := { bufferCount := 0, tail := 0, count := 0, storage := fun _ => {} }

def initializeState : HidNpadInternalState where
  styleSet := HidNpadStyleTag_NpadSystemExt ||| HidNpadStyleTag_NpadFullKey
  fullKeyLifo := { zeroState.fullKeyLifo with bufferCount := 17, tail := 0, count := 0 }

def npadSample (samplingNumber : UInt64) (state : GamepadState) :
    HidNpadCommonStateAtomicStorage where
  samplingNumber := samplingNumber
  state := state
  attributes := HidNpadAttribute_IsConnected ||| HidNpadAttribute_IsWired

def updateState (samplingNumber : UInt64) (state : GamepadState)
    (internalState : HidNpadInternalState) : HidNpadInternalState :=
  let internalState := if internalState.styleSet = 0 then initializeState else internalState
  { internalState with
    fullKeyLifo := internalState.fullKeyLifo.push (npadSample samplingNumber state) }

def updateEntry (playerIdx : PlayerIdx) (samplingNumber : UInt64) (state : GamepadState)
    (entry : HidSharedMemoryEntry) : HidSharedMemoryEntry :=
  { entry with
    fake := { entry.fake with
      npad := Function.update entry.fake.npad playerIdx
        (updateState samplingNumber state (entry.fake.npad playerIdx)) } }

-- The sampling number is counted up once for each entry.
def updateEntries (playerIdx : PlayerIdx) (state : GamepadState) :
    UInt64 → List HidSharedMemoryEntry → UInt64 × List HidSharedMemoryEntry
  | samplingNumber, [] => (samplingNumber, [])
  | samplingNumber, entry :: rest =>
      let (last, updated) := updateEntries playerIdx state (samplingNumber + 1) rest
      (last, updateEntry playerIdx samplingNumber state entry :: updated)

def update (state : GamepadState) (controller : HidSharedMemoryController)
    (entries : List HidSharedMemoryEntry) :
    HidSharedMemoryController × List HidSharedMemoryEntry :=
  let (samplingNumber, updated) :=
    updateEntries controller.playerIdx state controller.samplingNumber entries
  ({ controller with samplingNumber }, updated)

end HidSharedMemoryController

structure HidSharedMemoryManager where
  controllerList : PlayerIdx → Option Nat := fun _ => none
  controllers : List HidSharedMemoryController := []
  sharedmemoryEntryList : List HidSharedMemoryEntry := []

namespace HidSharedMemoryManager

def attachController (manager : HidSharedMemoryManager) : Option Nat × HidSharedMemoryManager :=
  match (List.finRange 8).find? fun i => (manager.controllerList i).isNone with
  | none => (none, manager)
  | some i =>
    let controller := manager.controllers.length
    (some controller, { manager with
      controllerList := Function.update manager.controllerList i (some controller)
      controllers := manager.controllers ++ [{ playerIdx := i }] })

def detachController (controller : Option Nat) (manager : HidSharedMemoryManager) :
    HidSharedMemoryManager :=
  match (List.finRange 8).find? fun i => manager.controllerList i = controller with
  | none => manager
  | some i => { manager with controllerList := Function.update manager.controllerList i none }

def add (entry : HidSharedMemoryEntry) (manager : HidSharedMemoryManager) :
    HidSharedMemoryManager :=
  { manager with sharedmemoryEntryList := manager.sharedmemoryEntryList ++ [entry] }

/-- `Update` called on the object a pointer stands for. -/
def update (pointer : Nat) (state : GamepadState) (manager : HidSharedMemoryManager) :
    HidSharedMemoryManager :=
  match manager.controllers[pointer]? with
  | none => manager
  | some controller =>
    let (controller, entries) := controller.update state manager.sharedmemoryEntryList
    { manager with
      controllers := manager.controllers.set pointer controller
      sharedmemoryEntryList := entries }

end HidSharedMemoryManager

end SysCon
