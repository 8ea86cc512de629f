import SysCon.ControllerSwitch.SwitchUSBEndpoint
import Mathlib.Data.List.Nodup
import Mathlib.Data.List.Perm.Basic

/-!
What the calls of `SwitchUSBEndpoint::Read` copy. At most one transfer is under
way and each report is used once. The size of a copy is that of the post, which
an earlier call made for a buffer of its own.
-/

namespace SysCon.SwitchUSBEndpoint

open Library

inductive Move (state : State) : Event → State → Prop
  | resume {bufferSize xferId} (idle : state.point = .idle)
      (pending : state.session.xferIdRead ≠ 0) :
      Move state (.read bufferSize xferId) { state with point := .waits bufferSize }
  | refused {bufferSize} (idle : state.point = .idle) :
      Move state (.read bufferSize none) (state.finish { bufferSize, status := .readFailed })
  | posts {bufferSize xferId} (idle : state.point = .idle)
      (cleared : state.session.xferIdRead = 0) (nonzero : xferId ≠ 0)
      (fresh : xferId ∉ state.session.ids) :
      Move state (.read bufferSize (some xferId))
        { state with session := state.session.post bufferSize xferId, point := .waits bufferSize }
  | timeout {bufferSize} (waits : state.point = .waits bufferSize) :
      Move state (.wait false) (state.finish { bufferSize, status := .timeout })
  | wakes {bufferSize} (waits : state.point = .waits bufferSize)
      (signaled : state.session.signaled = true) :
      Move state (.wait true) { state with point := .woken bufferSize }
  | clears {bufferSize} (woken : state.point = .woken bufferSize) :
      Move state .clear
        { state with
          session := state.session.clear
          point := .fetches bufferSize state.session.xferIdRead }
  | unread {bufferSize tmpXferId index status}
      (fetching : state.point = .fetches bufferSize tmpXferId) :
      Move state (.getReport index) (state.finish { bufferSize, status })
  | fetched {bufferSize tmpXferId index report}
      (fetching : state.point = .fetches bufferSize tmpXferId)
      (listed : state.session.reports[index]? = some report) :
      Move state (.getReport (some index))
        ({ state with session := state.session.fetch index }.finish
          (copyReport state.session bufferSize tmpXferId report))
  | completes {index transfer res bytes} (listed : state.session.posted[index]? = some transfer)
      (fits : bytes.length ≤ transfer.size) :
      Move state (.complete index res bytes)
        { state with session := state.session.complete index transfer res bytes }

theorem step_cases {state next : State} {event : Event} (taken : step state event = some next) :
    Move state event next := by
  cases event with
  | read bufferSize xferId =>
      simp only [step] at taken
      split at taken
      · simp at taken
      · rename_i idle
        rw [not_not] at idle
        split at taken
        · rename_i pending
          exact Option.some.inj taken ▸ .resume idle pending
        · rename_i cleared
          cases xferId with
          | none => exact Option.some.inj taken ▸ .refused idle
          | some xferId =>
              simp only [Option.ite_none_left_eq_some, not_or] at taken
              exact Option.some.inj taken.2 ▸
                .posts idle (not_not.mp cleared) taken.1.1 taken.1.2
  | wait signaled =>
      rw [step] at taken
      split at taken
      · rename_i bufferSize waits
        cases signaled with
        | false => exact Option.some.inj taken ▸ .timeout waits
        | true =>
            simp only [Bool.not_true, Bool.false_eq_true, if_false,
              Option.ite_none_right_eq_some] at taken
            exact Option.some.inj taken.2 ▸ .wakes waits taken.1
      · simp at taken
  | clear =>
      rw [step] at taken
      split at taken
      · rename_i bufferSize woken
        exact Option.some.inj taken ▸ .clears woken
      · simp at taken
  | getReport index =>
      rw [step] at taken
      split at taken
      · rename_i bufferSize tmpXferId fetching
        cases index with
        | none => exact Option.some.inj taken ▸ .unread fetching
        | some index =>
            cases listed : state.session.reports[index]? with
            | none =>
                simp only [listed] at taken
                exact Option.some.inj taken ▸ .unread fetching
            | some report =>
                simp only [listed] at taken
                exact Option.some.inj taken ▸ .fetched fetching listed
      · simp at taken
  | complete index res bytes =>
      rw [step] at taken
      cases listed : state.session.posted[index]? with
      | none => simp [listed] at taken
      | some transfer =>
          simp only [listed, Option.ite_none_right_eq_some] at taken
          exact Option.some.inj taken.2 ▸ .completes listed taken.1

/-! Where the transfer of the endpoint stands. -/

structure Delivered (session : Session) (xferId : UInt32) (report : XferReport) : Prop where
  listed : report ∈ session.reports
  named : report.xferId = xferId
  fits : report.bytes.length ≤ session.postedSize
  held : (List.range report.bytes.length).map session.usbBufferIn = report.bytes

inductive Standing (session : Session) : Prop
  | none (unposted : session.posted = []) (quiet : session.signaled = false)
      (cleared : session.xferIdRead = 0)
  | flying (transfer : Transfer) (posted : session.posted = [transfer])
      (quiet : session.signaled = false) (named : transfer.xferId = session.xferIdRead)
      (nonzero : session.xferIdRead ≠ 0) (sized : transfer.size = session.postedSize)
  | done (report : XferReport) (unposted : session.posted = []) (signaled : session.signaled = true)
      (nonzero : session.xferIdRead ≠ 0) (delivered : Delivered session session.xferIdRead report)

def AtPoint (session : Session) : ReadPoint → Prop
  | .idle => True
  | .waits _ => session.xferIdRead ≠ 0
  | .woken _ => session.signaled = true
  | .fetches _ tmpXferId =>
      session.xferIdRead = 0 ∧ ∃ report, Delivered session tmpXferId report

def ReadCall.serial (call : ReadCall) : Option Nat := call.copied.map fun copy => copy.1.serial

def State.serials (state : State) : List Nat :=
  state.calls.filterMap ReadCall.serial ++
    (state.session.reports.map XferReport.serial ++ state.session.posted.map Transfer.serial)

structure Inv (state : State) : Prop where
  standing : Standing state.session
  atPoint : AtPoint state.session state.point
  ids : state.session.ids.Nodup
  serials : state.serials.Nodup
  counted : ∀ serial ∈ state.serials, serial < state.session.posts

def start (buffer : Buffer) : State := { session := { usbBufferIn := buffer } }

theorem start_inv (buffer : Buffer) : Inv (start buffer) where
  standing := .none rfl rfl rfl
  atPoint := trivial
  ids := List.nodup_nil
  serials := List.nodup_nil
  counted := by simp [State.serials, start]

theorem Standing.none_of_cleared {session : Session} (standing : Standing session)
    (cleared : session.xferIdRead = 0) : session.posted = [] ∧ session.signaled = false := by
  cases standing with
  | none unposted quiet _ => exact ⟨unposted, quiet⟩
  | flying _ _ _ _ nonzero _ => exact absurd cleared nonzero
  | done _ _ _ nonzero _ => exact absurd cleared nonzero

theorem Standing.delivered {session : Session} (standing : Standing session)
    (signaled : session.signaled = true) :
    session.posted = [] ∧ ∃ report, Delivered session session.xferIdRead report := by
  cases standing with
  | none _ quiet _ => simp [quiet] at signaled
  | flying _ _ quiet _ _ _ => simp [quiet] at signaled
  | done report unposted _ _ delivered => exact ⟨unposted, report, delivered⟩

theorem Standing.of_listed {session : Session} (standing : Standing session) {index : Nat}
    {transfer : Transfer} (listed : session.posted[index]? = some transfer) :
    index = 0 ∧ session.posted = [transfer] ∧ transfer.xferId = session.xferIdRead ∧
      session.xferIdRead ≠ 0 ∧ transfer.size = session.postedSize := by
  cases standing with
  | none unposted _ _ => simp [unposted] at listed
  | flying other posted _ named nonzero sized =>
      rw [posted, List.getElem?_singleton] at listed
      split at listed
      · rename_i zero
        obtain rfl := Option.some.inj listed
        exact ⟨zero, posted, named, nonzero, sized⟩
      · simp at listed
  | done _ unposted _ _ _ => simp [unposted] at listed

section Preserved

variable {state : State}

theorem serials_finish {call : ReadCall} (uncopied : call.copied = none) :
    (state.finish call).serials = state.serials := by
  simp [State.serials, State.finish, ReadCall.serial, uncopied]

theorem Inv.finish (inv : Inv state) {call : ReadCall} (uncopied : call.copied = none) :
    Inv (state.finish call) where
  standing := inv.standing
  atPoint := trivial
  ids := inv.ids
  serials := (serials_finish uncopied).symm ▸ inv.serials
  counted := by
    rw [serials_finish uncopied]
    exact inv.counted

theorem Inv.atNew (inv : Inv state) {point : ReadPoint} (atPoint : AtPoint state.session point) :
    Inv { state with point } :=
  { inv with atPoint }

theorem Inv.post (inv : Inv state) {xferId : UInt32} (bufferSize : Nat)
    (cleared : state.session.xferIdRead = 0) (nonzero : xferId ≠ 0)
    (fresh : xferId ∉ state.session.ids) :
    Inv { state with
      session := state.session.post bufferSize xferId, point := .waits bufferSize } := by
  obtain ⟨unposted, quiet⟩ := inv.standing.none_of_cleared cleared
  have unused : state.session.posts ∉ state.serials := fun member =>
    absurd (inv.counted _ member) (Nat.lt_irrefl _)
  have serials : State.serials { state with
      session := state.session.post bufferSize xferId, point := .waits bufferSize } =
        state.serials ++ [state.session.posts] := by
    simp [State.serials, Session.post]
  refine ⟨?_, nonzero, ?_, ?_, ?_⟩
  · exact .flying ⟨state.session.posts, xferId, bufferSize⟩ (by simp [Session.post, unposted]) quiet
      rfl nonzero rfl
  · have ids := inv.ids
    simp only [Session.ids, Session.post, unposted, List.map_nil, List.append_nil] at ids fresh ⊢
    simpa [List.nodup_append, ids] using fresh
  · rw [serials]
    exact inv.serials.append (List.nodup_singleton _) (by simpa using unused)
  · intro serial member
    rw [serials, List.mem_append, List.mem_singleton] at member
    rcases member with earlier | rfl
    · exact (inv.counted serial earlier).trans (Nat.lt_succ_self _)
    · exact Nat.lt_succ_self _

theorem Inv.clear (inv : Inv state) {bufferSize : Nat} (woken : state.point = .woken bufferSize) :
    Inv { state with
      session := state.session.clear
      point := .fetches bufferSize state.session.xferIdRead } := by
  have signaled : state.session.signaled = true := by simpa [woken, AtPoint] using inv.atPoint
  obtain ⟨unposted, report, delivered⟩ := inv.standing.delivered signaled
  refine ⟨.none unposted rfl rfl, ⟨rfl, report, ?_⟩, inv.ids, inv.serials, inv.counted⟩
  exact ⟨delivered.listed, delivered.named, delivered.fits, delivered.held⟩

theorem Inv.complete (inv : Inv state) {index : Nat} {transfer : Transfer} {res : UInt32}
    {bytes : List UInt8} (listed : state.session.posted[index]? = some transfer)
    (fits : bytes.length ≤ transfer.size) :
    Inv { state with session := state.session.complete index transfer res bytes } := by
  obtain ⟨rfl, posted, named, nonzero, sized⟩ := inv.standing.of_listed listed
  have delivered : Delivered (state.session.complete 0 transfer res bytes)
      state.session.xferIdRead ⟨transfer.serial, transfer.xferId, res, bytes⟩ := by
    exact ⟨by simp [Session.complete], named, sized ▸ fits, Buffer.map_range_write _ bytes⟩
  refine ⟨.done _ (by simp [Session.complete, posted]) rfl nonzero delivered, ?_, ?_, ?_, ?_⟩
  · have atPoint := inv.atPoint
    cases point : state.point with
    | idle => trivial
    | waits _ => exact nonzero
    | woken _ => exact rfl
    | fetches _ _ =>
        rw [point] at atPoint
        exact absurd atPoint.1 nonzero
  · have ids := inv.ids
    simpa [Session.ids, Session.complete, posted] using ids
  · have serials := inv.serials
    simpa [State.serials, Session.complete, posted] using serials
  · have counted := inv.counted
    simpa [State.serials, Session.complete, posted] using counted

theorem copyReport_copied (session : Session) (bufferSize : Nat) (tmpXferId : UInt32)
    (report : XferReport) :
    (copyReport session bufferSize tmpXferId report).copied =
      if tmpXferId ≠ report.xferId then none
      else some (report, (List.range report.bytes.length).map session.usbBufferIn) := by
  unfold copyReport
  split
  · rfl
  · split
    · rfl
    · split <;> rfl

theorem serials_fetched {index : Nat} {report : XferReport}
    (listed : state.session.reports[index]? = some report) (bufferSize : Nat)
    (tmpXferId : UInt32) :
    (State.serials ({ state with session := state.session.fetch index }.finish
      (copyReport state.session bufferSize tmpXferId report))).Subperm state.serials := by
  obtain ⟨bound, rfl⟩ := List.getElem?_eq_some_iff.mp listed
  have reports : (state.session.reports[index].serial ::
      (state.session.reports.eraseIdx index).map XferReport.serial).Perm
        (state.session.reports.map XferReport.serial) := by
    simpa using (List.getElem_cons_eraseIdx_perm bound).map XferReport.serial
  have last : ([copyReport state.session bufferSize tmpXferId
      state.session.reports[index]].filterMap ReadCall.serial).Sublist
        [state.session.reports[index].serial] := by
    have copied := copyReport_copied state.session bufferSize tmpXferId state.session.reports[index]
    by_cases other : tmpXferId ≠ state.session.reports[index].xferId
    · simp [ReadCall.serial, copied, other]
    · rw [if_neg other] at copied
      simp [ReadCall.serial, copied]
  simp only [State.serials, State.finish, Session.fetch, List.filterMap_append, List.append_assoc]
  rw [List.subperm_append_left, ← List.append_assoc, List.subperm_append_right]
  exact ((List.subperm_append_right _).mpr last.subperm).trans reports.subperm

theorem Inv.fetched (inv : Inv state) {index bufferSize : Nat} {tmpXferId : UInt32}
    {report : XferReport} (fetching : state.point = .fetches bufferSize tmpXferId)
    (listed : state.session.reports[index]? = some report) :
    Inv ({ state with session := state.session.fetch index }.finish
      (copyReport state.session bufferSize tmpXferId report)) := by
  have cleared : state.session.xferIdRead = 0 := by
    have atPoint := inv.atPoint
    rw [fetching] at atPoint
    exact atPoint.1
  obtain ⟨unposted, quiet⟩ := inv.standing.none_of_cleared cleared
  obtain ⟨kept, same, fewer⟩ := serials_fetched listed bufferSize tmpXferId
  refine ⟨.none unposted quiet cleared, trivial, ?_, ?_, ?_⟩
  · refine inv.ids.sublist (List.Sublist.append ?_ (List.Sublist.refl _))
    exact (List.eraseIdx_sublist _ _).map _
  · exact same.nodup_iff.mp (inv.serials.sublist fewer)
  · exact fun serial member => inv.counted serial (fewer.subset (same.mem_iff.mpr member))

theorem Inv.delivered (inv : Inv state) {index bufferSize : Nat} {tmpXferId : UInt32}
    {report : XferReport} (fetching : state.point = .fetches bufferSize tmpXferId)
    (listed : state.session.reports[index]? = some report) (named : report.xferId = tmpXferId) :
    Delivered state.session tmpXferId report := by
  have atPoint := inv.atPoint
  rw [fetching] at atPoint
  obtain ⟨_, expected, delivered⟩ := atPoint
  have distinct := (List.nodup_append.mp inv.ids).1
  have same := List.inj_on_of_nodup_map distinct delivered.listed (List.mem_of_getElem? listed)
    (delivered.named.trans named.symm)
  exact same ▸ delivered

theorem Inv.step {next : State} {event : Event} (inv : Inv state) (moved : Move state event next) :
    Inv next := by
  cases moved with
  | resume idle pending => exact inv.atNew pending
  | refused idle => exact inv.finish rfl
  | posts idle cleared nonzero fresh => exact inv.post _ cleared nonzero fresh
  | timeout waits => exact inv.finish rfl
  | wakes waits signaled => exact inv.atNew signaled
  | clears woken => exact inv.clear woken
  | unread fetching => exact inv.finish rfl
  | fetched fetching listed => exact inv.fetched fetching listed
  | completes listed fits => exact inv.complete listed fits

end Preserved

/-! What a call copies. -/

/-- A call that finds the transfer of an earlier call has room for what that one asked for. -/
def Fits (state : State) : Event → Prop
  | .read bufferSize _ =>
      state.session.xferIdRead ≠ 0 → state.session.postedSize ≤ bufferSize
  | _ => True

instance (state : State) (event : Event) : Decidable (Fits state event) := by
  cases event <;> unfold Fits <;> infer_instance

def ReadPoint.bufferSize : ReadPoint → Option Nat
  | .idle => none
  | .waits bufferSize | .woken bufferSize | .fetches bufferSize _ => some bufferSize

def Roomy (state : State) : Prop :=
  ∀ bufferSize, state.point.bufferSize = some bufferSize → state.session.postedSize ≤ bufferSize

def Genuine (call : ReadCall) : Prop :=
  ∀ copy, call.copied = some copy → copy.2 = copy.1.bytes

def Bounded (call : ReadCall) : Prop :=
  ∀ copy, call.copied = some copy → copy.2.length ≤ call.bufferSize

structure ReadContract (state : State) : Prop where
  bounded : ∀ call ∈ state.calls, Bounded call
  single : state.session.posted.length ≤ 1
  once : (state.calls.filterMap ReadCall.serial).Nodup
  genuine : ∀ call ∈ state.calls, Genuine call

theorem copyReport_bufferSize (session : Session) (bufferSize : Nat) (tmpXferId : UInt32)
    (report : XferReport) :
    (copyReport session bufferSize tmpXferId report).bufferSize = bufferSize := by
  unfold copyReport
  split
  · rfl
  · split
    · rfl
    · split <;> rfl

/-- The calls stay as they are, or one is added that copied nothing or what it fetched. -/
theorem Move.calls {state next : State} {event : Event} (inv : Inv state)
    (moved : Move state event next) :
    next.calls = state.calls ∨ ∃ call, next.calls = state.calls ++ [call] ∧
      ∀ copy, call.copied = some copy →
        copy.2 = copy.1.bytes ∧ copy.1.bytes.length ≤ state.session.postedSize ∧
          state.point.bufferSize = some call.bufferSize := by
  cases moved with
  | resume _ _ | posts _ _ _ _ | wakes _ _ | clears _ | completes _ _ => exact .inl rfl
  | refused _ | timeout _ | unread _ => exact .inr ⟨_, rfl, fun copy copied => by simp at copied⟩
  | @fetched bufferSize tmpXferId index report fetching listed =>
      refine .inr ⟨_, rfl, fun copy copied => ?_⟩
      rw [copyReport_copied] at copied
      split at copied
      · simp at copied
      · rename_i named
        have delivered := inv.delivered fetching listed (not_not.mp named).symm
        obtain rfl := Option.some.inj copied
        refine ⟨delivered.held, delivered.fits, ?_⟩
        rw [copyReport_bufferSize, fetching]
        rfl

theorem Move.roomy {state next : State} {event : Event} (roomy : Roomy state)
    (fits : Fits state event) (moved : Move state event next) : Roomy next := by
  cases moved with
  | resume idle pending =>
      rintro bufferSize ⟨⟩
      exact fits pending
  | refused _ | timeout _ | unread _ | fetched _ _ =>
      intro bufferSize busy
      simp [State.finish, ReadPoint.bufferSize] at busy
  | posts _ _ _ _ =>
      rintro bufferSize ⟨⟩
      exact Nat.le_refl _
  | wakes waits _ => exact fun bufferSize busy => roomy bufferSize (by rw [waits]; exact busy)
  | clears woken => exact fun bufferSize busy => roomy bufferSize (by rw [woken]; exact busy)
  | completes _ _ => exact roomy

/-! Whole runs. -/

structure Sound (state : State) : Prop where
  inv : Inv state
  genuine : ∀ call ∈ state.calls, Genuine call

theorem start_sound (buffer : Buffer) : Sound (start buffer) :=
  ⟨start_inv buffer, fun call made => by simp [start] at made⟩

theorem Sound.step {state next : State} {event : Event} (sound : Sound state)
    (moved : Move state event next) : Sound next := by
  refine ⟨sound.inv.step moved, ?_⟩
  rcases moved.calls sound.inv with same | ⟨call, added, copies⟩
  · rw [same]
    exact sound.genuine
  · intro made member
    rw [added, List.mem_append, List.mem_singleton] at member
    rcases member with earlier | rfl
    · exact sound.genuine made earlier
    · exact fun copy copied => (copies copy copied).1

theorem run_sound {buffer : Buffer} {events : List Event} {last : State}
    (run : Run Steps (start buffer) events last) : Sound last :=
  run.invariant (start_sound buffer) fun _ _ _ sound taken => sound.step (step_cases taken)

theorem Standing.single {session : Session} (standing : Standing session) :
    session.posted.length ≤ 1 := by
  cases standing with
  | none unposted _ _ => simp [unposted]
  | flying _ posted _ _ _ _ => simp [posted]
  | done _ unposted _ _ _ => simp [unposted]

theorem Inv.once {state : State} (inv : Inv state) :
    (state.calls.filterMap ReadCall.serial).Nodup :=
  (List.nodup_append.mp inv.serials).1

structure Within (state : State) : Prop where
  sound : Sound state
  roomy : Roomy state
  bounded : ∀ call ∈ state.calls, Bounded call

theorem Within.step {state next : State} {event : Event} (within : Within state)
    (fits : Fits state event) (moved : Move state event next) : Within next := by
  refine ⟨within.sound.step moved, moved.roomy within.roomy fits, ?_⟩
  rcases moved.calls within.sound.inv with same | ⟨call, added, copies⟩
  · rw [same]
    exact within.bounded
  · intro made member
    rw [added, List.mem_append, List.mem_singleton] at member
    rcases member with earlier | rfl
    · exact within.bounded made earlier
    · intro copy copied
      obtain ⟨same, sized, busy⟩ := copies copy copied
      rw [same]
      exact sized.trans (within.roomy _ busy)

/-- The contract is kept as long as no call comes with a smaller buffer than the call whose
transfer it takes up. -/
theorem read_contract {buffer : Buffer} {events : List Event} {last : State}
    (run : Run (Guarded Fits Steps) (start buffer) events last) : ReadContract last := by
  have begin : Within (start buffer) := by
    refine ⟨start_sound buffer, ?_, fun call made => by simp [start] at made⟩
    intro bufferSize busy
    simp [start, ReadPoint.bufferSize] at busy
  have within : Within last := run.invariant begin fun _ _ _ within taken =>
    within.step taken.1 (step_cases taken.2)
  exact ⟨within.bounded, within.sound.inv.standing.single, within.sound.inv.once,
    within.sound.genuine⟩

theorem read_contract_taken_up :
    ∃ last, (last.calls.map ReadCall.status = [.timeout, .success]) ∧ ReadContract last := by
  let events : List Event := [.read 64 (some 1), .wait false, .read 256 none, .complete 0 0 [7, 8],
    .wait true, .clear, .getReport (some 0)]
  have finished : (events.foldlM (fun state event =>
      if Fits state event then step state event else none) (start fun _ => 0)).isSome = true := by
    decide
  exact ⟨Option.get _ finished, rfl,
    read_contract (Run.of_foldlM_guarded (Option.some_get finished).symm)⟩

/-! A read with a smaller buffer than that takes up a transfer that fills its own size. -/

theorem short_read_overruns {state : State} {transfer : Transfer} (idle : state.point = .idle)
    (posted : state.session.posted = [transfer])
    (named : transfer.xferId = state.session.xferIdRead)
    (pending : state.session.xferIdRead ≠ 0) {bufferSize : Nat}
    (short : bufferSize < transfer.size) :
    ∃ later last, Run Steps state later last ∧ ∃ call ∈ last.calls, ¬Bounded call := by
  let bytes := List.replicate transfer.size (0 : UInt8)
  let session := state.session.complete 0 transfer 0 bytes
  let report : XferReport := ⟨transfer.serial, transfer.xferId, 0, bytes⟩
  let call := copyReport session.clear bufferSize session.xferIdRead report
  have resumes : Steps state (.read bufferSize none) { state with point := .waits bufferSize } := by
    simp [Steps, step, idle, pending]
  have completes : Steps { state with point := .waits bufferSize } (.complete 0 0 bytes)
      { state with session, point := .waits bufferSize } := by
    simp [Steps, step, posted, bytes, session]
  have wakes : Steps { state with session, point := .waits bufferSize } (.wait true)
      { state with session, point := .woken bufferSize } := by
    simp [Steps, step, session, Session.complete]
  have clears : Steps { state with session, point := .woken bufferSize } .clear
      { state with session := session.clear, point := .fetches bufferSize session.xferIdRead } :=
    rfl
  have listed : session.clear.reports[state.session.reports.length]? = some report := by
    simp [session, Session.clear, Session.complete, report]
  have fetches : Steps
      { state with session := session.clear, point := .fetches bufferSize session.xferIdRead }
      (.getReport (some state.session.reports.length))
      ({ state with
          session := session.clear.fetch state.session.reports.length
          point := .fetches bufferSize session.xferIdRead }.finish call) := by
    simp [Steps, step, listed, call]
  refine ⟨_, _, .cons resumes (.cons completes (.cons wakes (.cons clears
    (.cons fetches (.nil _))))), call, by simp [State.finish], ?_⟩
  intro bounded
  have copied := bounded _ ((copyReport_copied _ _ _ _).trans (if_neg (not_not.mpr named.symm)))
  have size : call.bufferSize = bufferSize := copyReport_bufferSize _ _ _ _
  rw [size] at copied
  simp only [List.length_map, List.length_range, bytes, report, List.length_replicate] at copied
  omega

theorem short_read_overflows {buffer : Buffer} {events : List Event} {state : State}
    (run : Run Steps (start buffer) events state) (idle : state.point = .idle)
    (outstanding : state.session.posted ≠ []) {bufferSize : Nat}
    (short : bufferSize < state.session.postedSize) :
    ∃ later last, Run Steps state later last ∧ ∃ call ∈ last.calls, ¬Bounded call := by
  obtain ⟨transfer, listed⟩ := List.exists_mem_of_ne_nil _ outstanding
  obtain ⟨index, found⟩ := List.mem_iff_getElem?.mp listed
  obtain ⟨_, posted, named, pending, sized⟩ := (run_sound run).inv.standing.of_listed found
  exact short_read_overruns idle posted named pending (sized ▸ short)

/-- The transfer of 256 bytes of the Xbox One start-up, taken up by a read of 64 bytes. -/
theorem large_transfer_into_small_buffer :
    ¬∀ buffer events last, Run Steps (start buffer) events last → ReadContract last := by
  intro always
  let events : List Event := [.read 256 (some 1), .wait false]
  have finished : (events.foldlM step (start fun _ => 0)).isSome = true := by
    decide
  let state := (events.foldlM step (start fun _ => 0)).get finished
  have run : Run Steps _ events state := Run.of_foldlM_some (Option.some_get finished).symm
  have posted : state.session.posted = [⟨0, 1, 256⟩] := rfl
  have pending : state.session.xferIdRead = 1 := rfl
  have short : 64 < 256 := by decide
  obtain ⟨later, last, rest, call, made, overrun⟩ :=
    short_read_overruns rfl posted rfl (by simp [pending]) short
  exact overrun ((always _ _ last (run.append rest)).bounded call made)

end SysCon.SwitchUSBEndpoint
