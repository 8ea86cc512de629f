import SysCon.Library.Runs
import SysCon.Sysmodule.Discovery
import SysCon.Sysmodule.RemovalLoop

/-!
Controllers that come and go. Between the turns of the discovery thread devices
are plugged and unplugged, and the change thread (`UsbInterfaceChangeThreadFunc`)
removes the handlers of which its reading names no interface. The reading has
room for eight interfaces, the list of handlers for ten.
-/

namespace SysCon.Hotplug

open CLibrary
open Discovery
open Library
open Removal (RemoveAllNonPlugged)
open Usb (UsbHsInterface)

/-- `lost` holds the IDs of interfaces that are not there any more. -/
structure State extends Discovery.State where
  lost : List Int := []

inductive Event
  | turn (answers : Discovery.Answers)
  | plug (interfaces : List UsbHsInterface)
  | unplug (interfaceIDs : List Int)
  | change (interfaceIDsPlugged : List Int)

def interfaceIDs (handler : Handler) : List Int := handler.interfaces.map UsbHsInterface.id

/-- A handler that is removed gives back the interfaces that are still there. -/
def step (autoAddController : Bool) (state : State) : Event → State
  | .turn answers => { state with toState := turn autoAddController answers state.toState }
  | .plug interfaces =>
      { state with
        available := state.available ++ interfaces
        lost := state.lost.filter (· ∉ interfaces.map UsbHsInterface.id) }
  | .unplug interfaceIDs =>
      { state with
        available := state.available.filter (·.id ∉ interfaceIDs)
        lost := state.lost ++ interfaceIDs }
  | .change interfaceIDsPlugged =>
      match RemoveAllNonPlugged interfaceIDs interfaceIDsPlugged (state.handlers.length + 1)
          state.handlers with
      | none => state
      | some sweep =>
          { state with
            handlers := sweep.items
            available := state.available ++
              (sweep.erased.flatMap Handler.interfaces).filter (·.id ∉ state.lost) }

def Event.interfaces : Event → List UsbHsInterface
  | .plug interfaces => interfaces
  | .turn _ | .unplug _ | .change _ => []

/-- An interface that comes has an ID of its own, and a reading fits the array it is for. -/
def Allowed (state : State) : Event → Prop
  | .plug interfaces => ((state.interfaces ++ interfaces).map UsbHsInterface.id).Nodup
  | .change interfaceIDsPlugged => interfaceIDsPlugged.length ≤ MaxUsbHsInterfacesSize
  | _ => True

def Happens (autoAddController : Bool) (state : State) (event : Event) (next : State) : Prop :=
  Allowed state event ∧ step autoAddController state event = next

section Steps

variable {autoAddController : Bool} {state next : State} {event : Event}

theorem run_turns (turns : List Discovery.Answers) (state : State) :
    Run (Happens autoAddController) state (turns.map Event.turn)
      { state with toState := run autoAddController turns state.toState } := by
  induction turns generalizing state with
  | nil => exact .nil state
  | cons answers later ih => exact .cons ⟨trivial, rfl⟩ (ih _)

def named (interfaceIDsPlugged : List Int) (handler : Handler) : Bool :=
  (interfaceIDs handler).any interfaceIDsPlugged.contains

theorem step_change (interfaceIDsPlugged : List Int) :
    step autoAddController state (.change interfaceIDsPlugged) =
      { state with
        handlers := state.handlers.filter (named interfaceIDsPlugged)
        available := state.available ++
          ((state.handlers.filter fun handler => !named interfaceIDsPlugged handler).flatMap
            Handler.interfaces).filter (·.id ∉ state.lost) } := by
  have swept : RemoveAllNonPlugged interfaceIDs interfaceIDsPlugged (state.handlers.length + 1)
      state.handlers = _ := Sweep.run_start state.handlers (Nat.lt_succ_self _)
  simp only [step, swept, Removal.found_eq_any]
  rfl

theorem step_interfaces (autoAddController : Bool) (state : State) (event : Event) :
    (step autoAddController state event).interfaces.Subperm
      (state.interfaces ++ event.interfaces) := by
  cases event with
  | turn answers =>
      have perm := (turn_spec autoAddController answers state.toState).perm
      rw [Event.interfaces, List.append_nil]
      exact perm.subperm
  | plug interfaces =>
      have same : (step autoAddController state (.plug interfaces)).interfaces =
          state.interfaces ++ interfaces := (List.append_assoc _ _ _).symm
      rw [same]
      exact List.Subperm.refl _
  | unplug interfaceIDs =>
      rw [Event.interfaces, List.append_nil]
      exact (List.filter_sublist.append_left _).subperm
  | change interfaceIDsPlugged =>
      have handlers := List.filter_append_perm (named interfaceIDsPlugged) state.handlers
      have interfaces := handlers.flatMap_right Handler.interfaces
      rw [List.flatMap_append] at interfaces
      rw [step_change, Event.interfaces, List.append_nil]
      refine (((List.filter_sublist.append_left state.available).append_left _).subperm).trans ?_
      let removed := state.handlers.filter fun handler => !named interfaceIDsPlugged handler
      have swapped : (state.available ++ removed.flatMap Handler.interfaces).Perm
          (removed.flatMap Handler.interfaces ++ state.available) := List.perm_append_comm
      have moved := swapped.append_left
        ((state.handlers.filter (named interfaceIDsPlugged)).flatMap Handler.interfaces)
      rw [← List.append_assoc _ _ state.available] at moved
      exact (moved.trans (interfaces.append_right state.available)).subperm

structure Inv (state : State) : Prop where
  discovery : Discovery.Inv state.toState
  distinct : (state.interfaces.map UsbHsInterface.id).Nodup
  there : ∀ interface ∈ state.available, interface.id ∉ state.lost

theorem nodup_map_of_subperm {item key : Type*} {few many : List item} (get : item → key)
    (subperm : few.Subperm many) (distinct : (many.map get).Nodup) : (few.map get).Nodup := by
  obtain ⟨between, perm, sublist⟩ := subperm
  exact (perm.map get).nodup_iff.mp (distinct.sublist (sublist.map get))

theorem available_turn (answers : Discovery.Answers) :
    (turn autoAddController answers state.toState).available ⊆ state.available := by
  cases turn_spec autoAddController answers state.toState with
  | adds kind handler room found alone handlers available timeout =>
      rw [available]
      exact List.diff_subset _ _
  | nothing _ _ available _ => exact available ▸ List.Subset.refl _
  | full _ _ available _ => exact available ▸ List.Subset.refl _
  | failed _ _ _ _ available _ => exact available ▸ List.Subset.refl _

theorem Inv.step_there (inv : Inv state) (autoAddController : Bool) (event : Event) :
    ∀ interface ∈ (step autoAddController state event).available,
      interface.id ∉ (step autoAddController state event).lost := by
  intro interface member
  cases event with
  | turn answers => exact inv.there interface (available_turn answers member)
  | plug interfaces =>
      intro lost
      obtain ⟨wasLost, notNew⟩ := List.mem_filter.mp lost
      rcases List.mem_append.mp member with old | new
      · exact inv.there interface old wasLost
      · exact of_decide_eq_true notNew (List.mem_map_of_mem new)
  | unplug interfaceIDs =>
      obtain ⟨old, stays⟩ := List.mem_filter.mp member
      intro lost
      rcases List.mem_append.mp lost with before | now
      · exact inv.there interface old before
      · exact of_decide_eq_true stays now
  | change interfaceIDsPlugged =>
      rw [step_change] at member ⊢
      rcases List.mem_append.mp member with old | released
      · exact inv.there interface old
      · exact of_decide_eq_true (List.mem_filter.mp released).2

theorem Inv.step (inv : Inv state) (happens : Happens autoAddController state event next) :
    Inv next := by
  obtain ⟨allowed, rfl⟩ := happens
  have distinct : ((state.interfaces ++ event.interfaces).map UsbHsInterface.id).Nodup := by
    cases event with
    | plug interfaces => exact allowed
    | turn | unplug | change => simpa [Event.interfaces] using inv.distinct
  refine ⟨?_, nodup_map_of_subperm _ (step_interfaces autoAddController state event) distinct,
    inv.step_there autoAddController event⟩
  cases event with
  | turn answers => exact (turn_spec autoAddController answers state.toState).inv inv.discovery
  | plug | unplug => exact ⟨inv.discovery.limit, inv.discovery.wellFormed⟩
  | change interfaceIDsPlugged =>
      rw [step_change]
      refine ⟨(List.length_filter_le _ _).trans inv.discovery.limit, ?_⟩
      intro handler member
      exact inv.discovery.wellFormed handler (List.mem_of_mem_filter member)

theorem inv_start {available : List UsbHsInterface} (file : Option CString)
    (distinct : (available.map UsbHsInterface.id).Nodup) : Inv { available, file } :=
  ⟨⟨Nat.zero_le _, by simp⟩, distinct, by simp⟩

theorem run_inv {events : List Event} {first last : State} (start : Inv first)
    (run : Run (Happens autoAddController) first events last) : Inv last :=
  run.invariant start fun _ _ _ inv happens => inv.step happens

/-! How many handlers a reading can name. -/

theorem Inv.handlers_apart (inv : Inv state) : (state.handlers.flatMap interfaceIDs).Nodup := by
  have distinct := inv.distinct
  rw [Discovery.State.interfaces, List.map_append, List.map_flatMap] at distinct
  exact (List.nodup_append'.mp distinct).1

theorem length_filter_named_le (inv : Inv state) (interfaceIDsPlugged : List Int) :
    (state.handlers.filter (named interfaceIDsPlugged)).length ≤ interfaceIDsPlugged.length :=
  length_filter_meets_le inv.handlers_apart interfaceIDsPlugged

/-- One of the interfaces of the handler is still there. -/
def State.plugged (state : State) (handler : Handler) : Bool :=
  (interfaceIDs handler).any (· ∉ state.lost)

/-- The IDs that a reading without a limit would name. -/
def State.acquired (state : State) : List Int :=
  (state.handlers.flatMap interfaceIDs).filter (· ∉ state.lost)

theorem State.plugged_iff (handler : Handler) :
    state.plugged handler = true ↔
      ∃ interfaceID ∈ interfaceIDs handler, interfaceID ∉ state.lost := by
  rw [State.plugged, List.any_eq_true]
  simp only [decide_eq_true_eq]

theorem named_iff (interfaceIDsPlugged : List Int) (handler : Handler) :
    named interfaceIDsPlugged handler = true ↔
      ∃ interfaceID ∈ interfaceIDs handler, interfaceID ∈ interfaceIDsPlugged := by
  rw [named, List.any_eq_true]
  simp only [List.contains_iff_mem]

theorem State.mem_acquired {handler : Handler} (member : handler ∈ state.handlers)
    {interfaceID : Int} (own : interfaceID ∈ interfaceIDs handler) :
    interfaceID ∈ state.acquired ↔ interfaceID ∉ state.lost := by
  rw [State.acquired, List.mem_filter, decide_eq_true_eq]
  exact and_iff_right (List.mem_flatMap.mpr ⟨handler, member, own⟩)

theorem named_acquired {interfaceIDsPlugged : List Int}
    (whole : ∀ interfaceID, interfaceID ∈ interfaceIDsPlugged ↔ interfaceID ∈ state.acquired)
    {handler : Handler} (member : handler ∈ state.handlers) :
    named interfaceIDsPlugged handler = state.plugged handler := by
  rw [Bool.eq_iff_iff, named_iff, State.plugged_iff]
  refine exists_congr fun interfaceID => and_congr_right ?_
  intro own
  rw [whole, State.mem_acquired member own]

/-- A reading of one interface of each handler that is plugged. -/
def State.oneEach (state : State) : List Int :=
  state.handlers.filterMap fun handler => (interfaceIDs handler).find? (· ∉ state.lost)

theorem State.length_oneEach (state : State) :
    state.oneEach.length = state.handlers.countP state.plugged := by
  rw [State.oneEach, List.length_filterMap_eq_countP]
  refine List.countP_congr ?_
  intro handler _
  rw [List.find?_isSome, State.plugged_iff]
  simp only [decide_eq_true_eq]

theorem State.oneEach_subset (state : State) : state.oneEach ⊆ state.acquired := by
  intro interfaceID member
  obtain ⟨handler, isHandler, found⟩ := List.mem_filterMap.mp member
  rw [State.mem_acquired isHandler (List.mem_of_find?_eq_some found)]
  simpa using List.find?_some found

theorem named_oneEach {handler : Handler} (member : handler ∈ state.handlers)
    (plugged : state.plugged handler = true) : named state.oneEach handler = true := by
  obtain ⟨interfaceID, own, isThere⟩ := (State.plugged_iff handler).mp plugged
  have some : ((interfaceIDs handler).find? (· ∉ state.lost)).isSome :=
    List.find?_isSome.mpr ⟨interfaceID, own, by simpa using isThere⟩
  obtain ⟨first, found⟩ := Option.isSome_iff_exists.mp some
  exact (named_iff state.oneEach handler).mpr
    ⟨first, List.mem_of_find?_eq_some found, List.mem_filterMap.mpr ⟨handler, member, found⟩⟩

/-- However devices come and go, no more than eight handlers outlive a change, although the list
has room for ten. A reading of every acquired interface leaves exactly the handlers that are
plugged, but one that fits and leaves them all exists only for eight handlers or fewer. -/
theorem change_leaves_eight (autoAddController : Bool) (available : List UsbHsInterface)
    (file : Option CString) (distinct : (available.map UsbHsInterface.id).Nodup)
    (events : List Event) (last : State)
    (run : Run (Happens autoAddController) { available, file } events last) :
    (∀ interfaceIDsPlugged, interfaceIDsPlugged.length ≤ MaxUsbHsInterfacesSize →
      (step autoAddController last (.change interfaceIDsPlugged)).handlers.length ≤
        MaxUsbHsInterfacesSize) ∧
      (∀ interfaceIDsPlugged,
        (∀ interfaceID, interfaceID ∈ interfaceIDsPlugged ↔ interfaceID ∈ last.acquired) →
          (step autoAddController last (.change interfaceIDsPlugged)).handlers =
            last.handlers.filter last.plugged) ∧
      ((∃ interfaceIDsPlugged ⊆ last.acquired,
          interfaceIDsPlugged.length ≤ MaxUsbHsInterfacesSize ∧
          ∀ handler ∈ last.handlers, last.plugged handler = true →
            handler ∈ (step autoAddController last (.change interfaceIDsPlugged)).handlers) ↔
        last.handlers.countP last.plugged ≤ MaxUsbHsInterfacesSize) := by
  have inv := run_inv (inv_start file distinct) run
  refine ⟨?_, ?_, ?_, ?_⟩
  · intro interfaceIDsPlugged few
    rw [step_change]
    exact (length_filter_named_le inv interfaceIDsPlugged).trans few
  · intro interfaceIDsPlugged whole
    rw [step_change]
    exact List.filter_congr fun handler member => named_acquired whole member
  · rintro ⟨interfaceIDsPlugged, _, few, stay⟩
    have isNamed : ∀ handler ∈ last.handlers, last.plugged handler = true →
        named interfaceIDsPlugged handler = true := by
      intro handler member plugged
      have kept := stay handler member plugged
      rw [step_change] at kept
      exact (List.mem_filter.mp kept).2
    have bound := length_filter_named_le inv interfaceIDsPlugged
    rw [← List.countP_eq_length_filter] at bound
    exact ((List.countP_mono_left isNamed).trans bound).trans few
  · intro few
    refine ⟨last.oneEach, last.oneEach_subset, ?_, ?_⟩
    · rw [State.length_oneEach]
      exact few
    · intro handler member plugged
      rw [step_change]
      exact List.mem_filter.mpr ⟨member, named_oneEach member plugged⟩

def hidPads (count : Nat) : List UsbHsInterface :=
  (List.range count).map fun place => hidPad place

def tenPads : Discovery.State := { available := hidPads 10, file := none }

/-- Ten turns find ten pads, and then no reading leaves all of them. -/
theorem tenPads_change :
    let last : State := { toState := Discovery.run false (List.replicate 10 {}) tenPads }
    ¬∃ interfaceIDsPlugged ⊆ last.acquired,
      interfaceIDsPlugged.length ≤ MaxUsbHsInterfacesSize ∧
        ∀ handler ∈ last.handlers, last.plugged handler = true →
          handler ∈ (step false last (.change interfaceIDsPlugged)).handlers := by
  intro last
  obtain ⟨_, _, fits⟩ := change_leaves_eight false (hidPads 10) none (by decide) _ last
    (run_turns (List.replicate 10 {}) { toState := tenPads })
  rw [fits]
  decide +kernel

/-! When the bus is quiet. -/

theorem turn_plugged (answers : Discovery.Answers) (inv : Inv state)
    (plugged : ∀ handler ∈ state.handlers, state.plugged handler = true) :
    ∀ handler ∈ (turn autoAddController answers state.toState).handlers,
      state.plugged handler = true := by
  intro handler member
  cases turn_spec autoAddController answers state.toState with
  | nothing _ handlers _ _ => exact plugged handler (handlers ▸ member)
  | full _ handlers _ _ => exact plugged handler (handlers ▸ member)
  | failed _ _ _ handlers _ _ => exact plugged handler (handlers ▸ member)
  | adds kind added room found alone handlers available timeout =>
      rw [handlers] at member
      rcases List.mem_append.mp member with old | new
      · exact plugged handler old
      · rw [List.mem_singleton.mp new]
        obtain ⟨interface, own⟩ := List.exists_mem_of_ne_nil _ found.some
        exact (State.plugged_iff added).mpr ⟨interface.id, List.mem_map_of_mem own,
          inv.there interface (found.sublist.subset own)⟩

theorem run_plugged (turns : List Discovery.Answers) (inv : Inv state)
    (plugged : ∀ handler ∈ state.handlers, state.plugged handler = true) :
    ∀ handler ∈ (Discovery.run autoAddController turns state.toState).handlers,
      state.plugged handler = true := by
  induction turns generalizing state with
  | nil => exact plugged
  | cons answers later ih =>
      have happens : Happens autoAddController state (.turn answers) _ := ⟨trivial, rfl⟩
      exact ih (inv.step happens) (turn_plugged answers inv plugged)

theorem there_change (interfaceIDsPlugged : List Int) {interface : UsbHsInterface}
    (member : interface ∈ state.interfaces) (isThere : interface.id ∉ state.lost) :
    interface ∈ (step autoAddController state (.change interfaceIDsPlugged)).interfaces := by
  rw [step_change]
  rcases List.mem_append.mp member with held | available
  · obtain ⟨handler, isHandler, own⟩ := List.mem_flatMap.mp held
    cases isNamed : named interfaceIDsPlugged handler with
    | true =>
        exact List.mem_append_left _ (List.mem_flatMap.mpr
          ⟨handler, List.mem_filter.mpr ⟨isHandler, isNamed⟩, own⟩)
    | false =>
        have removed : handler ∈ state.handlers.filter fun handler =>
            !named interfaceIDsPlugged handler := List.mem_filter.mpr ⟨isHandler, by simp [isNamed]⟩
        exact List.mem_append_right _ (List.mem_append_right _ (List.mem_filter.mpr
          ⟨List.mem_flatMap.mpr ⟨handler, removed, own⟩, decide_eq_true isThere⟩))
  · exact List.mem_append_right _ (List.mem_append_left _ available)

/-- When devices neither come nor go any more, a whole reading and as many turns without a failure
as interfaces wait make the handlers agree with the bus, whatever happened before: each handler is
plugged, and each interface that is there and recognised has a handler, or there are ten. -/
theorem change_settles (autoAddController : Bool) (available : List UsbHsInterface)
    (file : Option CString) (distinct : (available.map UsbHsInterface.id).Nodup)
    (events : List Event) (last : State)
    (run : Run (Happens autoAddController) { available, file } events last)
    (interfaceIDsPlugged : List Int)
    (few : interfaceIDsPlugged.length ≤ MaxUsbHsInterfacesSize)
    (whole : ∀ interfaceID, interfaceID ∈ interfaceIDsPlugged ↔ interfaceID ∈ last.acquired)
    (turns : List Discovery.Answers) (good : ∀ answers ∈ turns, answers.Good)
    (enough : (step autoAddController last (.change interfaceIDsPlugged)).waiting ≤
      turns.length) :
    let settled := Discovery.run autoAddController turns
      (step autoAddController last (.change interfaceIDsPlugged)).toState
    (∀ handler ∈ settled.handlers, last.plugged handler = true) ∧
      (settled.handlers.length = Threads.MaxControllerHandlersSize ∨
        ∀ interface ∈ last.interfaces, interface.id ∉ last.lost → recognised interface = true →
          ∃ handler ∈ settled.handlers, interface ∈ handler.interfaces) := by
  intro settled
  have inv := run_inv (inv_start file distinct) run
  have happens : Happens autoAddController last (.change interfaceIDsPlugged) _ := ⟨few, rfl⟩
  have next := inv.step happens
  have plugged : ∀ handler ∈ (step autoAddController last (.change interfaceIDsPlugged)).handlers,
      last.plugged handler = true := by
    rw [step_change]
    intro handler member
    obtain ⟨old, isNamed⟩ := List.mem_filter.mp member
    rw [← named_acquired whole old]
    exact isNamed
  have sameLost : (step autoAddController last (.change interfaceIDsPlugged)).lost =
      last.lost := by rw [step_change]
  constructor
  · intro handler member
    have kept := run_plugged turns next (by simpa only [State.plugged, sameLost] using plugged)
      handler member
    simpa only [State.plugged, sameLost] using kept
  · refine (run_done turns good next.discovery enough).imp_right ?_
    intro nothing interface member isThere known
    have inside : interface ∈ settled.interfaces := (run_perm turns _).mem_iff.mpr
      (there_change interfaceIDsPlugged member isThere)
    rcases List.mem_append.mp inside with held | waits
    · exact List.mem_flatMap.mp held
    · rw [nothing interface waits] at known
      exact Bool.noConfusion known

def twoPads : State := { available := [hidPad 1, xbox360Pad 2], file := none }

/-- A pad is exchanged for another one. -/
def exchange : List Event := [.turn {}, .turn {}, .unplug [1], .plug [hidPad 3]]

theorem exchange_settles :
    let last := exchange.foldl (step false) twoPads
    let settled := Discovery.run false [{}] (step false last (.change [2])).toState
    settled.handlers.flatMap interfaceIDs = [2, 3] ∧
      ∀ handler ∈ settled.handlers, last.plugged handler = true := by
  intro last settled
  have plugs : Allowed ([.turn {}, .turn {}, .unplug [1]].foldl (step false) twoPads)
      (.plug [hidPad 3]) := by
    unfold Allowed
    decide +kernel
  have run : Run (Happens false) twoPads exchange last :=
    .cons ⟨trivial, rfl⟩ (.cons ⟨trivial, rfl⟩ (.cons ⟨trivial, rfl⟩ (.cons ⟨plugs, rfl⟩ (.nil _))))
  have acquired : last.acquired = [2] := by decide +kernel
  refine ⟨by decide +kernel, ?_⟩
  exact (change_settles false twoPads.available none (by decide) exchange last run [2] (by decide)
    (by simp [acquired]) [{}] (by simp [Discovery.Answers.Good]) (by decide +kernel)).1

end Steps

end SysCon.Hotplug
