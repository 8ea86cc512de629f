import SysCon.ControllerLib.RawInput
import SysCon.Library.Runs

/-!
`SwitchUSBEndpoint::Read` with a timeout, which is `ReadAsync`, over the USB
service of the system. A call posts a transfer or takes up the one that an
earlier call left behind, waits for its event, and fetches its report; the
service completes transfers at any time. All transfers of an endpoint use one
buffer.
-/

namespace SysCon

namespace SwitchUSBEndpoint

/-- A transfer as it was posted; `serial` counts the posts. -/
structure Transfer where
  serial : Nat
  xferId : UInt32
  size : Nat
  deriving DecidableEq, Repr

/-- The report of a completed transfer, with the bytes that the device sent. -/
structure XferReport where
  serial : Nat
  xferId : UInt32
  res : UInt32
  bytes : List UInt8
  deriving DecidableEq, Repr

inductive ReadPoint
  | idle
  | waits (bufferSize : Nat)
  | woken (bufferSize : Nat)
  | fetches (bufferSize : Nat) (tmpXferId : UInt32)
  deriving DecidableEq, Repr

/-- A finished call, with the report on which it copied and what it copied. -/
structure ReadCall where
  bufferSize : Nat
  status : ControllerResult
  copied : Option (XferReport × List UInt8) := none
  deriving DecidableEq, Repr

/-- The members of the endpoint and what the service keeps of it. `postedSize` is the size of the
last post. -/
structure Session where
  xferIdRead : UInt32 := 0
  usbBufferIn : Buffer := fun _ => 0
  posted : List Transfer := []
  reports : List XferReport := []
  signaled : Bool := false
  posts : Nat := 0
  postedSize : Nat := 0

structure State where
  session : Session := {}
  point : ReadPoint := .idle
  calls : List ReadCall := []

/-- What the service answers to the requests of a call, and the transfers that it completes.
`getReport` says which of the reports it hands out. -/
inductive Event
  | read (bufferSize : Nat) (xferId : Option UInt32)
  | wait (signaled : Bool)
  | clear
  | getReport (index : Option Nat)
  | complete (index : Nat) (res : UInt32) (bytes : List UInt8)
  deriving DecidableEq, Repr

namespace Session

def ids (session : Session) : List UInt32 :=
  session.reports.map XferReport.xferId ++ session.posted.map Transfer.xferId

def post (session : Session) (bufferSize : Nat) (xferId : UInt32) : Session :=
  { session with
    xferIdRead := xferId
    posted := session.posted ++ [⟨session.posts, xferId, bufferSize⟩]
    posts := session.posts + 1
    postedSize := bufferSize }

def complete (session : Session) (index : Nat) (transfer : Transfer) (res : UInt32)
    (bytes : List UInt8) : Session :=
  { session with
    posted := session.posted.eraseIdx index
    reports := session.reports ++ [⟨transfer.serial, transfer.xferId, res, bytes⟩]
    signaled := true
    usbBufferIn := session.usbBufferIn.write bytes }

def clear (session : Session) : Session := { session with signaled := false, xferIdRead := 0 }

def fetch (session : Session) (index : Nat) : Session :=
  { session with reports := session.reports.eraseIdx index }

end Session

/-- The end of a call that was handed a report. -/
def copyReport (session : Session) (bufferSize : Nat) (tmpXferId : UInt32) (report : XferReport) :
    ReadCall :=
  if tmpXferId ≠ report.xferId then { bufferSize, status := .noDataAvailable }
  else
    let copied := some (report, (List.range report.bytes.length).map session.usbBufferIn)
    if report.bytes.length = 0 then { bufferSize, status := .noDataAvailable, copied }
    else if report.res ≠ 0 then { bufferSize, status := .readFailed, copied }
    else { bufferSize, status := .success, copied }

def State.finish (state : State) (call : ReadCall) : State :=
  { state with point := .idle, calls := state.calls ++ [call] }

-- The service names a transfer by a number that is not zero and not in use.
def step (state : State) : Event → Option State
  | .read bufferSize xferId =>
      if state.point ≠ .idle then none
      else if state.session.xferIdRead ≠ 0 then some { state with point := .waits bufferSize }
      else match xferId with
        | none => some (state.finish { bufferSize, status := .readFailed })
        | some xferId =>
            if xferId = 0 ∨ xferId ∈ state.session.ids then none
            else some
              { state with
                session := state.session.post bufferSize xferId
                point := .waits bufferSize }
  | .wait signaled =>
      match state.point with
      | .waits bufferSize =>
          if !signaled then some (state.finish { bufferSize, status := .timeout })
          else if state.session.signaled then some { state with point := .woken bufferSize }
          else none
      | _ => none
  | .clear =>
      match state.point with
      | .woken bufferSize => some
          { state with
            session := state.session.clear
            point := .fetches bufferSize state.session.xferIdRead }
      | _ => none
  | .getReport index =>
      match state.point with
      | .fetches bufferSize tmpXferId =>
          match index with
          | none => some (state.finish { bufferSize, status := .readFailed })
          | some index =>
              match state.session.reports[index]? with
              | none => some (state.finish { bufferSize, status := .noDataAvailable })
              | some report => some
                  ({ state with session := state.session.fetch index }.finish
                    (copyReport state.session bufferSize tmpXferId report))
      | _ => none
  | .complete index res bytes =>
      match state.session.posted[index]? with
      | none => none
      | some transfer =>
          if bytes.length ≤ transfer.size then
            some { state with session := state.session.complete index transfer res bytes }
          else none

abbrev Steps (state : State) (event : Event) (next : State) : Prop := step state event = some next

end SwitchUSBEndpoint

end SysCon
