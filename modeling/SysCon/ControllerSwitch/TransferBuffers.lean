import SysCon.ControllerLib.DriverLife
import SysCon.ControllerSwitch.EndpointReads
import SysCon.Library.Runs

/-!
The arrays that the drivers read into. A call may take up the transfer of an
earlier call and copy more than it asked for; what the drivers ask of one
endpoint keeps even such copies inside the arrays.
-/

namespace SysCon

open Library

namespace SwitchUSBEndpoint

def Event.asked : Event → Option Nat
  | .read bufferSize _ => some bufferSize
  | _ => none

/-- The calls so far, in order, ended or under way, and what they copied. -/
structure Contained (limit : Nat) (events : List Event) (state : State) : Prop where
  inv : Inv state
  posted : state.session.postedSize ≤ limit
  order : state.calls.map ReadCall.bufferSize ++ state.point.bufferSize.toList =
    events.filterMap Event.asked
  copied : ∀ call ∈ state.calls, ∀ copy, call.copied = some copy → copy.2.length ≤ limit

theorem start_contained (limit : Nat) (buffer : Buffer) : Contained limit [] (start buffer) where
  inv := start_inv buffer
  posted := Nat.zero_le limit
  order := rfl
  copied := by simp [start]

theorem Move.order {state next : State} {event : Event} (moved : Move state event next) :
    next.calls.map ReadCall.bufferSize ++ next.point.bufferSize.toList =
      state.calls.map ReadCall.bufferSize ++ state.point.bufferSize.toList ++
        event.asked.toList := by
  cases moved with
  | resume idle _ | refused idle | posts idle _ _ _ =>
      simp [idle, ReadPoint.bufferSize, Event.asked, State.finish]
  | timeout busy | wakes busy _ | clears busy | unread busy =>
      simp [busy, ReadPoint.bufferSize, Event.asked, State.finish]
  | fetched busy _ =>
      simp [busy, ReadPoint.bufferSize, Event.asked, State.finish, copyReport_bufferSize]
  | completes _ _ => simp [Event.asked]

theorem Move.posted {limit : Nat} {state next : State} {event : Event}
    (moved : Move state event next) (posted : state.session.postedSize ≤ limit)
    (small : ∀ bufferSize, event.asked = some bufferSize → bufferSize ≤ limit) :
    next.session.postedSize ≤ limit := by
  cases moved with
  | posts _ _ _ _ => exact small _ rfl
  | _ => exact posted

theorem Contained.step {limit : Nat} {events : List Event} {state next : State} {event : Event}
    (contained : Contained limit events state) (moved : Move state event next)
    (small : ∀ bufferSize, event.asked = some bufferSize → bufferSize ≤ limit) :
    Contained limit (events ++ [event]) next := by
  refine ⟨contained.inv.step moved, moved.posted contained.posted small, ?_, ?_⟩
  · rw [moved.order, contained.order, List.filterMap_append]
    cases asked : event.asked <;> simp [asked]
  · rcases moved.calls contained.inv with same | ⟨call, added, copies⟩
    · rw [same]
      exact contained.copied
    · intro made member
      rw [added, List.mem_append, List.mem_singleton] at member
      rcases member with earlier | rfl
      · exact contained.copied made earlier
      · intro copy copied
        obtain ⟨same, sized, -⟩ := copies copy copied
        rw [same]
        exact sized.trans contained.posted

/-- Where no call asks for more than the bound, none copies more, whoever posted the transfer. -/
theorem run_contained {limit : Nat} {buffer : Buffer} {events : List Event} {last : State}
    (run : Run Steps (start buffer) events last)
    (small : ∀ bufferSize ∈ events.filterMap Event.asked, bufferSize ≤ limit) :
    Contained limit events last := by
  let sized (past : List Event) (current : State) : Prop :=
    (∀ bufferSize ∈ past.filterMap Event.asked, bufferSize ≤ limit) → Contained limit past current
  have all : sized ([] ++ events) last := by
    refine run.history (fun _ => start_contained limit buffer) ?_
    intro earlier current event next before taken fits
    rw [List.filterMap_append] at fits
    refine (before fun bufferSize asked => ?_).step (step_cases taken) fun bufferSize asked => ?_
    · exact fits bufferSize (List.mem_append_left _ asked)
    · exact fits bufferSize (List.mem_append_right _ (by simp [asked]))
  exact all small

end SwitchUSBEndpoint

open SwitchUSBEndpoint

/-- What a read of the endpoint asks for, and the array that it receives into. -/
def UsbCall.readAt (endpointIdx : Nat) : UsbCall → Option (Nat × Nat)
  | .read idx size room _ => if idx = endpointIdx then some (size, room) else none
  | _ => none

section Life

variable {driver : Driver} {config : ControllerConfig} {around : SetupSurroundings}
  {device : UsbDevice} {calls : List UsbCall} {last : Controller}

theorem Lives.readAt_bounds (life : Lives { driver, config } around device calls last)
    {endpointIdx : Nat} {asked : Nat × Nat}
    (made : asked ∈ calls.filterMap (UsbCall.readAt endpointIdx)) :
    asked.1 ≤ driver.kind.readLimit ∧ driver.kind.readLimit ≤ asked.2 := by
  obtain ⟨call, listed, isRead⟩ := List.mem_filterMap.mp made
  have within := life.within listed
  cases call with
  | read idx size room timeoutUs =>
      simp only [UsbCall.readAt, Option.ite_none_right_eq_some, Option.some.injEq] at isRead
      obtain ⟨-, rfl⟩ := isRead
      exact ⟨within.2.1, within.2.2.1⟩
  | _ => simp [UsbCall.readAt] at isRead

/-- In every life of a controller and whatever the USB service does, the calls of an endpoint end in
the order in which the driver makes them, and none copies more bytes than its array holds. The life
and the endpoint agree on the sizes alone: what the life reads is never more than it asked for. -/
theorem life_contained (life : Lives { driver, config } around device calls last)
    {endpointIdx : Nat} {buffer : Buffer} {events : List Event} {state : State}
    (run : Run Steps (start buffer) events state)
    (asked : events.filterMap Event.asked <+:
      (calls.filterMap (UsbCall.readAt endpointIdx)).map Prod.fst)
    {position : Nat} {call : ReadCall} (ended : state.calls[position]? = some call) :
    ∃ size room, (calls.filterMap (UsbCall.readAt endpointIdx))[position]? = some (size, room) ∧
      call.bufferSize = size ∧
      ∀ report bytes, call.copied = some (report, bytes) → bytes.length ≤ room := by
  have contained : Contained driver.kind.readLimit events state := by
    refine run_contained run fun bufferSize member => ?_
    obtain ⟨read, made, rfl⟩ := List.mem_map.mp (asked.subset member)
    exact (life.readAt_bounds made).1
  have listed : (events.filterMap Event.asked)[position]? = some call.bufferSize := by
    have bound := (List.getElem?_eq_some_iff.mp ended).1
    rw [← contained.order, List.getElem?_append_left (by rwa [List.length_map]),
      List.getElem?_map, ended]
    rfl
  obtain ⟨rest, shape⟩ := asked
  have planned : ((calls.filterMap (UsbCall.readAt endpointIdx)).map Prod.fst)[position]? =
      some call.bufferSize := by
    rw [← shape, List.getElem?_append_left (List.getElem?_eq_some_iff.mp listed).1, listed]
  rw [List.getElem?_map, Option.map_eq_some_iff] at planned
  obtain ⟨⟨size, room⟩, found, sized⟩ := planned
  refine ⟨size, room, found, sized.symm, ?_⟩
  intro report bytes copied
  have member := List.mem_of_getElem? ended
  exact (contained.copied call member _ copied).trans
    (life.readAt_bounds (List.mem_of_getElem? found)).2

end Life

/-- The pad sends 65 bytes for the read that follows its start-up: the next call has asked for 64 of
them and copies them all. -/
theorem xboxOnePad_contained :
    ∃ state call report bytes, Run Steps (start fun _ => 0)
        [.read 256 (some 1), .wait false, .read 64 none, .complete 0 0 (List.replicate 65 0),
          .wait true, .clear, .getReport (some 0)] state ∧
      state.calls[1]? = some call ∧ call.copied = some (report, bytes) ∧
      call.bufferSize < bytes.length ∧ bytes.length ≤ CONTROLLER_INPUT_BUFFER_SIZE := by
  let events : List Event := [.read 256 (some 1), .wait false, .read 64 none,
    .complete 0 0 (List.replicate 65 0), .wait true, .clear, .getReport (some 0)]
  have finished : (events.foldlM step (start fun _ => 0)).isSome = true := by decide
  let state := (events.foldlM step (start fun _ => 0)).get finished
  have run : Run Steps _ events state := Run.of_foldlM_some (Option.some_get finished).symm
  obtain ⟨last, life⟩ := xboxOnePad_lives
  obtain ⟨call, ended⟩ : ∃ call, state.calls[1]? = some call := ⟨_, rfl⟩
  have asked : events.filterMap Event.asked <+: ([UsbCall.output (.write 0
      [0x05, 0x20, 1, 0x01, 0x00]), .read 0 256 256 (250 * 1000), .read 0 64 256 0,
      .read 0 64 256 1000].filterMap (UsbCall.readAt 0)).map Prod.fst := ⟨[64], rfl⟩
  obtain ⟨size, room, found, -, fits⟩ := life_contained life run asked ended
  have planned : some (64, CONTROLLER_INPUT_BUFFER_SIZE) = some (size, room) := found
  obtain ⟨rfl, rfl⟩ := Prod.mk.inj (Option.some.inj planned)
  obtain ⟨report, bytes, copied, long⟩ : ∃ report bytes, call.copied = some (report, bytes) ∧
      call.bufferSize < bytes.length := by
    obtain rfl := Option.some.inj ended
    exact ⟨_, _, rfl, by decide⟩
  exact ⟨state, call, report, bytes, run, ended, copied, long, fits report bytes copied⟩

end SysCon
