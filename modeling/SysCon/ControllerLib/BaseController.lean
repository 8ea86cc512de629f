import SysCon.ControllerLib.RawInput

/-!
Opening a device and reading its IN endpoints (`IUSBDevice.h`, `IUSBEndpoint.h`,
`BaseController.cpp`).

What an endpoint answers to the reads of one call is a list of outcomes, taken
from the front; once the list is empty a read times out. A list with reports
only is a FIFO of pending reports. An outcome never delivers more bytes than
the read asked for.
-/

namespace SysCon

def MaxUsbHsInterfacesSize : Nat := 8
def SWITCH_USB_MAX_ENDPOINTS : Nat := 15

structure UsbEndpoint where
  wMaxPacketSize : Nat
  openResult : ControllerResult := .success

structure UsbInterface where
  bInterfaceNumber : UInt8 := 0
  openResult : ControllerResult := .success
  inEndpoints : Vector (Option UsbEndpoint) SWITCH_USB_MAX_ENDPOINTS
  outEndpoints : Vector (Option UsbEndpoint) SWITCH_USB_MAX_ENDPOINTS

structure UsbDevice where
  openResult : ControllerResult := .success
  interfaces : List UsbInterface
  interfaceCount : interfaces.length ≤ MaxUsbHsInterfacesSize := by decide

/-- An entry of `m_inPipe` or `m_outPipe`, with the index of the interface it belongs to. -/
structure Pipe where
  interface : Nat
  wMaxPacketSize : Nat
  deriving DecidableEq, Repr

structure BaseController where
  inPipe : List Pipe := []
  outPipe : List Pipe := []
  -- `bInterfaceNumber` of each entry of `m_interfaces`
  interfaces : List UInt8 := []
  currentControllerIdx : Nat := 0
  deriving DecidableEq, Repr

structure ReadOutcome where
  status : ControllerResult
  bytes : List UInt8
  deriving DecidableEq, Repr

abbrev Pending := Nat → List ReadOutcome

structure EndpointRead where
  status : ControllerResult
  buffer : Buffer
  size : Nat
  pending : List ReadOutcome

namespace IUSBEndpoint

def read (pending : List ReadOutcome) (buffer : Buffer) (bufferSize : Nat) : EndpointRead :=
  match pending with
  | [] => ⟨.timeout, buffer, bufferSize, []⟩
  | outcome :: rest =>
      let bytes := outcome.bytes.take bufferSize
      ⟨outcome.status, buffer.write bytes, bytes.length, rest⟩

end IUSBEndpoint

namespace BaseController

/-! `OpenInterfaces`: every endpoint of every interface is opened and listed, IN endpoints
before OUT endpoints, until something fails. -/

def openEndpoints (interface : Nat) :
    List (Option UsbEndpoint) → List Pipe → ControllerResult × List Pipe
  | [], pipes => (.success, pipes)
  | none :: rest, pipes => openEndpoints interface rest pipes
  | some endpoint :: rest, pipes =>
      if endpoint.openResult ≠ .success then (endpoint.openResult, pipes)
      else openEndpoints interface rest (pipes ++ [⟨interface, endpoint.wMaxPacketSize⟩])

def openInterface (interface : UsbInterface) (base : BaseController) :
    ControllerResult × BaseController :=
  let idx := base.interfaces.length
  if interface.openResult ≠ .success then (interface.openResult, base)
  else
    let (inResult, inPipe) := openEndpoints idx interface.inEndpoints.toList base.inPipe
    if inResult ≠ .success then (inResult, { base with inPipe })
    else
      let (outResult, outPipe) := openEndpoints idx interface.outEndpoints.toList base.outPipe
      if outResult ≠ .success then (outResult, { base with inPipe, outPipe })
      else (.success,
        { base with
          inPipe, outPipe
          interfaces := base.interfaces ++ [interface.bInterfaceNumber] })

def openEach : List UsbInterface → BaseController → ControllerResult × BaseController
  | [], base => (.success, base)
  | interface :: rest, base =>
      let (result, base) := openInterface interface base
      if result ≠ .success then (result, base) else openEach rest base

def openInterfaces (device : UsbDevice) (base : BaseController) :
    ControllerResult × BaseController :=
  if device.openResult ≠ .success then (device.openResult, base)
  else
    let (result, base) := openEach device.interfaces base
    if result ≠ .success then (result, base)
    else if base.inPipe.isEmpty then (.invalidEndpoint, base)
    else (.success, base)

/-! `ReadEndpointLatest`: one read, then everything already queued is drained. -/

def maxPacketSize (base : BaseController) (endpointIdx : Nat) : Nat :=
  (base.inPipe[endpointIdx]?.map Pipe.wMaxPacketSize).getD 0

/-- The drain loop; `latestSize` bytes of `buffer` are the freshest report so far. -/
def drain (capacity : Nat) : List ReadOutcome → Buffer → Nat → EndpointRead
  | [], buffer, latestSize => ⟨.success, buffer, latestSize, []⟩
  | outcome :: rest, buffer, latestSize =>
      let drained := outcome.bytes.take capacity
      if outcome.status ≠ .success ∨ drained.length = 0 then ⟨.success, buffer, latestSize, rest⟩
      else drain capacity rest (buffer.write drained) drained.length

def readEndpointLatest (wMaxPacketSize : Nat) (pending : List ReadOutcome) (buffer : Buffer)
    (size : Nat) : EndpointRead :=
  let capacity := min wMaxPacketSize size
  let first := IUSBEndpoint.read pending buffer capacity
  if first.status ≠ .success then { first with size }
  else if first.size = 0 then { first with status := .nothingTodo, size }
  else drain capacity first.pending first.buffer first.size

/-! `ReadNextBuffer`: probe all endpoints from the cursor on, then block once on the next. -/

structure NextBuffer where
  status : ControllerResult
  buffer : Buffer
  size : Nat
  inputIdx : Nat
  base : BaseController
  pending : Pending

def readPipe (base : BaseController) (endpointIdx : Nat) (pending : Pending) (buffer : Buffer)
    (size : Nat) : EndpointRead × Pending :=
  let read := readEndpointLatest (base.maxPacketSize endpointIdx) (pending endpointIdx) buffer size
  (read, Function.update pending endpointIdx read.pending)

-- The cursor is below the number of endpoints (at most 120), so `uint8_t` never wraps.
def advanceFrom (base : BaseController) (endpointIdx : Nat) : BaseController :=
  { base with currentControllerIdx := (endpointIdx + 1) % base.inPipe.length }

def fastPass (base : BaseController) (size inputIdx : Nat) :
    (remaining i : Nat) → Pending → Buffer → NextBuffer
  | 0, _, pending, buffer => ⟨.nothingTodo, buffer, size, inputIdx, base, pending⟩
  | remaining + 1, i, pending, buffer =>
      let endpointIdx := (base.currentControllerIdx + i) % base.inPipe.length
      let (read, pending) := base.readPipe endpointIdx pending buffer size
      if read.status = .success then
        ⟨.success, read.buffer, read.size, endpointIdx, base.advanceFrom endpointIdx, pending⟩
      else fastPass base size inputIdx remaining (i + 1) pending read.buffer

def readNextBuffer (base : BaseController) (pending : Pending) (buffer : Buffer)
    (size inputIdx : Nat) : NextBuffer :=
  if base.inPipe.length = 0 then ⟨.nothingTodo, buffer, size, inputIdx, base, pending⟩
  else
    let swept := base.fastPass size inputIdx base.inPipe.length 0 pending buffer
    if swept.status = .success then swept
    else
      let endpointIdx := base.currentControllerIdx
      let (read, pending) := base.readPipe endpointIdx swept.pending swept.buffer size
      let base := base.advanceFrom endpointIdx
      if read.status ≠ .success then ⟨read.status, read.buffer, size, inputIdx, base, pending⟩
      else ⟨.success, read.buffer, read.size, endpointIdx, base, pending⟩

end BaseController

end SysCon
