import SysCon.ControllerLib.ParseData

/-!
`WiiController`: the GameCube adapter. One report of 37 bytes carries four
ports, which four calls of `ReadNextBuffer` hand out one after the other.
-/

namespace SysCon

open BaseController (normalize)

structure WiiController where
  currentWiiControllerIdx : Nat := 0
  buffer : Buffer
  isConnected : Slots Bool := Vector.replicate CONTROLLER_MAX_INPUTS false
  rumbleSupported : Slots Bool

namespace WiiController

def WII_INPUT_BUFFER_SIZE : Nat := 37
def WII_MAX_INPUTS : Nat := 4
def STATE_EXTRA_POWER_BIT : Nat := 2
def STATE_NORMAL_BIT : Nat := 4
def STATE_WAVEBIRD_BIT : Nat := 5

def portSize : Nat := 9

def portBytes (buffer : Buffer) (port : Nat) : List UInt8 :=
  (List.range portSize).map fun index => buffer (1 + port * 9 + index)

def nextPort (controller : WiiController) (buffer : Buffer) (base : BaseController)
    (pending : Pending) : BaseController.NextBuffer × WiiController :=
  let port := controller.currentWiiControllerIdx
  (⟨.success, buffer.write (portBytes controller.buffer port), portSize, port, base, pending⟩,
    { controller with currentWiiControllerIdx := (port + 1) % WII_MAX_INPUTS })

def readNextBuffer (base : BaseController) (controller : WiiController) (pending : Pending)
    (buffer : Buffer) (inputIdx : Nat) : BaseController.NextBuffer × WiiController :=
  if controller.currentWiiControllerIdx = 0 then
    let next := base.readNextBuffer pending controller.buffer WII_INPUT_BUFFER_SIZE 0
    let controller := { controller with buffer := next.buffer }
    if next.status ≠ .success then
      (⟨next.status, buffer, next.size, inputIdx, next.base, next.pending⟩, controller)
    else if next.buffer 0 ≠ 0x21 ∨ next.size < WII_INPUT_BUFFER_SIZE then
      (⟨.unexpectedData, buffer, next.size, inputIdx, next.base, next.pending⟩, controller)
    else controller.nextPort buffer next.base next.pending
  else controller.nextPort buffer base pending

def buttons (data : Buffer) : List (ButtonId × Bool) :=
  [(1, data.bit 1 0), (2, data.bit 1 1), (3, data.bit 1 2), (4, data.bit 1 3), (5, data.bit 1 4),
   (6, data.bit 1 5), (7, data.bit 1 6), (8, data.bit 1 7), (9, data.bit 2 0), (10, data.bit 2 1),
   (11, data.bit 2 2), (12, data.bit 2 3), (13, data.bit 2 4), (14, data.bit 2 5),
   (15, data.bit 2 6), (16, data.bit 2 7)]

def analog (data : Buffer) : List (ControllerAnalogType × ℚ) :=
  [(.x, normalize (data.uint8 3) 0 255), (.y, normalize (data.uint8 4) 0 255),
   (.rx, normalize (data.uint8 5) 0 255), (.ry, normalize (data.uint8 6) 0 255),
   (.z, normalize (data.uint8 7) 0 255), (.rz, normalize (data.uint8 8) 0 255)]

def parseData (controller : WiiController) (buffer : Buffer) (size : Nat) (rawData : RawInputData)
    (inputIdx : Nat) : Exec (Parsed WiiController) := do
  if size < 9 then return ⟨.unexpectedData, rawData, inputIdx, controller, []⟩
  else
    let connected := buffer.bit 0 STATE_NORMAL_BIT || buffer.bit 0 STATE_WAVEBIRD_BIT
    let rumbleSupported ←
      controller.rumbleSupported.put inputIdx (buffer.bit 0 STATE_EXTRA_POWER_BIT)
    let isConnected ← controller.isConnected.put inputIdx connected
    let stored := { controller with rumbleSupported, isConnected }
    if !connected then return ⟨.nothingTodo, rawData, inputIdx, stored, []⟩
    else return ⟨.success, rawData.assign (buttons buffer) (analog buffer), inputIdx, stored, []⟩

def isControllerConnected (controller : WiiController) (inputIdx : Nat) : Exec Bool :=
  controller.isConnected.fetch inputIdx

end WiiController

end SysCon
