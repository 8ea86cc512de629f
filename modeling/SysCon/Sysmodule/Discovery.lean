import Mathlib.Data.List.Perm.Subperm
import SysCon.ControllerLib.Controllers
import SysCon.Sysmodule.AutoAdd
import SysCon.Sysmodule.Threads
import SysCon.Sysmodule.UsbEvents

/-!
What the discovery thread makes of the interfaces that are available
(`UsbEventThreadFunc`). A turn asks for the interfaces of one kind after the
other, and gives those of the first kind that has any to a new handler: all of
them, of whatever devices they are, unless the driver is the generic one.
-/

namespace SysCon.Discovery

open CLibrary
open ConfigHandler
open Threads (MaxControllerHandlersSize)
open Usb (UsbHsInterface USB_CLASS_HID)

def MaxUsbHsInterfacesSize : Nat := 8

def USB_CLASS_VENDOR_SPEC : UInt8 := 0xFF

/-- The kinds of interfaces that are asked for. -/
inductive Kind
  | xbox360
  | xbox360w
  | xboxone
  | xbox
  | hid
  deriving DecidableEq, Repr

def hasClass (iclass isubclass iprotocol : UInt8) (interface : UsbHsInterface) : Bool :=
  interface.bInterfaceClass = iclass && interface.bInterfaceSubClass = isubclass &&
    interface.bInterfaceProtocol = iprotocol

def Kind.asksFor : Kind → UsbHsInterface → Bool
  | .xbox360 => hasClass USB_CLASS_VENDOR_SPEC 0x5D 0x01
  | .xbox360w => hasClass USB_CLASS_VENDOR_SPEC 0x5D 0x81
  | .xboxone => hasClass USB_CLASS_VENDOR_SPEC 0x47 0xD0
  | .xbox => hasClass 0x58 0x42 0x00
  | .hid => fun interface => interface.bInterfaceClass = USB_CLASS_HID

def queryOrder : List Kind := [.xbox360, .xbox360w, .xboxone, .xbox, .hid]

def Kind.defaultProfile : Kind → CString
  | .xbox360 => "xbox360".toList
  | .xbox360w => "xbox360w".toList
  | .xboxone => "xboxone".toList
  | .xbox => "xbox".toList
  | .hid => "".toList

def driverNames : List (CString × DriverKind) :=
  [("dualshock3".toList, .dualshock3), ("xbox360w".toList, .xbox360Wireless),
   ("xbox360".toList, .xbox360), ("xboxone".toList, .xboxOne), ("xbox".toList, .xbox),
   ("switch".toList, .switch), ("wii".toList, .wii), ("steam2026".toList, .steamController2026)]

def driverOf (config : ControllerConfig) : DriverKind :=
  (driverNames.lookup config.driver).getD .genericHID

/-- The interfaces that the device of a new controller gets. -/
def takes (driver : DriverKind) (found : List UsbHsInterface) : List UsbHsInterface :=
  match driver with
  | .genericHID => found.take 1
  | _ => found

structure Handler where
  driver : DriverKind
  interfaces : List UsbHsInterface
  deriving DecidableEq, Repr

inductive Timeout
  | oneMs
  | forever
  deriving DecidableEq, Repr

structure State where
  available : List UsbHsInterface
  handlers : List Handler := []
  file : Option CString
  timeout : Timeout := .oneMs

/-- What the system answers in one turn. -/
structure Answers where
  queries : Kind → Bool := fun _ => true
  append : AppendAnswers := {}
  succeeds : DriverKind → List UsbHsInterface → Bool := fun _ _ => true

/-- `QueryAvailableInterfacesByClass…`; what is acquired is not available. -/
def query (answers : Answers) (available : List UsbHsInterface) (kind : Kind) :
    List UsbHsInterface :=
  if answers.queries kind then (available.filter kind.asksFor).take MaxUsbHsInterfacesSize else []

/-- The kinds are asked for until one has interfaces, which are not empty. -/
def firstFound (answers : Answers) (available : List UsbHsInterface) :
    List Kind → Option (Kind × UsbHsInterface × List UsbHsInterface)
  | [] => none
  | kind :: later =>
      match query answers available kind with
      | [] => firstFound answers available later
      | interface :: others => some (kind, interface, others)

section Turn

variable (autoAddController : Bool)

/-- The configuration file after `LoadControllerConfig`. -/
def fileAfterLoad (answers : AppendAnswers) (file : Option CString) (vidPid : ControllerVidPid)
    (defaultProfile : CString) : Option CString :=
  (loadAndKeep answers file vidPid autoAddController defaultProfile {}).file

/-- A turn of the loop after a wait that succeeded or ran out of time. A handler that cannot be
initialized gives its interfaces back. -/
def turn (answers : Answers) (state : State) : State :=
  match firstFound answers state.available queryOrder with
  | none => { state with timeout := .forever }
  | some (kind, interface, others) =>
      let state := { state with timeout := .oneMs }
      if MaxControllerHandlersSize ≤ state.handlers.length then state
      else
        let vidPid : ControllerVidPid := ⟨interface.idVendor, interface.idProduct⟩
        let config := (loadControllerConfig answers.append state.file vidPid autoAddController
          kind.defaultProfile {}).2
        let state := { state with
          file := fileAfterLoad autoAddController answers.append state.file vidPid
            kind.defaultProfile }
        let given := takes (driverOf config) (interface :: others)
        if answers.succeeds (driverOf config) given then
          { state with
            handlers := state.handlers ++ [⟨driverOf config, given⟩]
            available := state.available.diff given }
        else state

def run (turns : List Answers) (state : State) : State :=
  turns.foldl (fun state answers => turn autoAddController answers state) state

end Turn

/-! What a turn finds. -/

def recognised (interface : UsbHsInterface) : Bool :=
  queryOrder.any fun kind => kind.asksFor interface

structure Found (answers : Answers) (available : List UsbHsInterface) (kind : Kind)
    (found : List UsbHsInterface) : Prop where
  some : found ≠ []
  few : found.length ≤ MaxUsbHsInterfacesSize
  sublist : found.Sublist available
  asked : ∀ interface ∈ found, kind.asksFor interface = true

theorem query_sublist (answers : Answers) (available : List UsbHsInterface) (kind : Kind) :
    (query answers available kind).Sublist (available.filter kind.asksFor) := by
  unfold query
  split
  · exact List.take_sublist _ _
  · exact List.nil_sublist _

theorem firstFound_spec {answers : Answers} {available : List UsbHsInterface} {kinds : List Kind}
    {kind : Kind} {interface : UsbHsInterface} {others : List UsbHsInterface}
    (found : firstFound answers available kinds = some (kind, interface, others)) :
    Found answers available kind (interface :: others) := by
  induction kinds with
  | nil => simp [firstFound] at found
  | cons asked later ih =>
      rw [firstFound] at found
      split at found
      · exact ih found
      · rename_i first rest queried
        simp only [Option.some.injEq, Prod.mk.injEq] at found
        obtain ⟨rfl, rfl, rfl⟩ := found
        have own := query_sublist answers available asked
        rw [queried] at own
        refine ⟨List.cons_ne_nil _ _, ?_, own.trans List.filter_sublist, ?_⟩
        · rw [← queried, query]
          split
          · exact List.length_take_le _ _
          · exact Nat.zero_le _
        · intro member isMember
          exact (List.mem_filter.mp (own.subset isMember)).2

theorem firstFound_none {answers : Answers} {available : List UsbHsInterface} {kinds : List Kind}
    (succeeds : ∀ kind, answers.queries kind = true)
    (nothing : firstFound answers available kinds = none) :
    ∀ interface ∈ available, ∀ kind ∈ kinds, kind.asksFor interface = false := by
  induction kinds with
  | nil => simp
  | cons asked later ih =>
      rw [firstFound] at nothing
      split at nothing
      · rename_i queried
        intro interface member kind isKind
        rcases List.mem_cons.mp isKind with rfl | isLater
        · rw [query, if_pos (succeeds kind)] at queried
          by_contra asks
          have here : interface ∈ available.filter kind.asksFor :=
            List.mem_filter.mpr ⟨member, by simpa using asks⟩
          rcases List.take_eq_nil_iff.mp queried with zero | empty
          · exact absurd zero (by decide)
          · rw [empty] at here
            exact absurd here List.not_mem_nil
        · exact ih nothing interface member kind isLater
      · simp at nothing

theorem takes_spec (driver : DriverKind) {answers : Answers} {available : List UsbHsInterface}
    {kind : Kind} {interface : UsbHsInterface} {others : List UsbHsInterface}
    (found : Found answers available kind (interface :: others)) :
    Found answers available kind (takes driver (interface :: others)) := by
  have whole := found
  cases driver with
  | genericHID =>
      have first : takes .genericHID (interface :: others) = [interface] := rfl
      rw [first]
      refine ⟨List.cons_ne_nil _ _, Nat.one_le_ofNat, ?_, ?_⟩
      · exact (List.singleton_sublist.mpr List.mem_cons_self).trans found.sublist
      · intro member isMember
        rw [List.mem_singleton.mp isMember]
        exact found.asked interface List.mem_cons_self
  | _ => exact whole

theorem takes_alone (interface : UsbHsInterface) (others : List UsbHsInterface)
    {driver : DriverKind} (generic : driver = .genericHID) :
    (takes driver (interface :: others)).length = 1 := by
  rw [generic]
  rfl

/-- What a turn can do. -/
inductive Turned (answers : Answers) (state next : State) : Prop
  | nothing (none : firstFound answers state.available queryOrder = none)
      (handlers : next.handlers = state.handlers) (available : next.available = state.available)
      (timeout : next.timeout = .forever)
  | full (limit : MaxControllerHandlersSize ≤ state.handlers.length)
      (handlers : next.handlers = state.handlers) (available : next.available = state.available)
      (timeout : next.timeout = .oneMs)
  | failed (driver : DriverKind) (given : List UsbHsInterface)
      (fails : answers.succeeds driver given = false) (handlers : next.handlers = state.handlers)
      (available : next.available = state.available) (timeout : next.timeout = .oneMs)
  | adds (kind : Kind) (handler : Handler)
      (room : state.handlers.length < MaxControllerHandlersSize)
      (found : Found answers state.available kind handler.interfaces)
      (alone : handler.driver = .genericHID → handler.interfaces.length = 1)
      (handlers : next.handlers = state.handlers ++ [handler])
      (available : next.available = state.available.diff handler.interfaces)
      (timeout : next.timeout = .oneMs)

section Runs

variable {autoAddController : Bool} {answers : Answers} {state : State}

theorem turn_spec (autoAddController : Bool) (answers : Answers) (state : State) :
    Turned answers state (turn autoAddController answers state) := by
  unfold turn
  cases asked : firstFound answers state.available queryOrder with
  | none => exact .nothing asked rfl rfl rfl
  | some result =>
      obtain ⟨kind, interface, others⟩ := result
      have found := firstFound_spec asked
      simp only
      by_cases limit : MaxControllerHandlersSize ≤ state.handlers.length
      · rw [if_pos limit]
        exact .full limit rfl rfl rfl
      · rw [if_neg limit]
        split
        · exact .adds kind ⟨_, _⟩ (Nat.lt_of_not_le limit) (takes_spec _ found) (takes_alone _ _)
            rfl rfl rfl
        · rename_i fails
          exact .failed _ _ (Bool.eq_false_iff.mpr fails) rfl rfl rfl

/-- The interfaces that are given to handlers, with those that are not. -/
def State.interfaces (state : State) : List UsbHsInterface :=
  state.handlers.flatMap Handler.interfaces ++ state.available

theorem Turned.perm {next : State} (turned : Turned answers state next) :
    next.interfaces.Perm state.interfaces := by
  cases turned with
  | nothing none handlers available timeout =>
      rw [State.interfaces, State.interfaces, handlers, available]
  | full limit handlers available timeout =>
      rw [State.interfaces, State.interfaces, handlers, available]
  | failed driver given fails handlers available timeout =>
      rw [State.interfaces, State.interfaces, handlers, available]
  | adds kind handler room found alone handlers available timeout =>
      have back : (handler.interfaces ++ state.available.diff handler.interfaces).Perm
          state.available :=
        List.subperm_append_diff_self_of_count_le fun interface _ =>
          found.sublist.count_le interface
      rw [State.interfaces, State.interfaces, handlers, available, List.flatMap_append,
        List.flatMap_singleton, List.append_assoc]
      exact back.append_left _

/-- A handler has interfaces of one kind, and with the generic driver a single one. -/
def Handler.WellFormed (handler : Handler) : Prop :=
  handler.interfaces ≠ [] ∧ handler.interfaces.length ≤ MaxUsbHsInterfacesSize ∧
    (∃ kind : Kind, ∀ interface ∈ handler.interfaces, kind.asksFor interface = true) ∧
    (handler.driver = .genericHID → handler.interfaces.length = 1)

structure Inv (state : State) : Prop where
  limit : state.handlers.length ≤ MaxControllerHandlersSize
  wellFormed : ∀ handler ∈ state.handlers, handler.WellFormed

theorem Turned.inv {next : State} (turned : Turned answers state next) (inv : Inv state) :
    Inv next := by
  cases turned with
  | nothing none handlers available timeout =>
      exact ⟨by rw [handlers]; exact inv.limit, by rw [handlers]; exact inv.wellFormed⟩
  | full limit handlers available timeout =>
      exact ⟨by rw [handlers]; exact inv.limit, by rw [handlers]; exact inv.wellFormed⟩
  | failed driver given fails handlers available timeout =>
      exact ⟨by rw [handlers]; exact inv.limit, by rw [handlers]; exact inv.wellFormed⟩
  | adds kind handler room found alone handlers available timeout =>
      constructor
      · rw [handlers, List.length_append]
        exact room
      · rw [handlers]
        intro other member
        rcases List.mem_append.mp member with old | new
        · exact inv.wellFormed other old
        · rw [List.mem_singleton.mp new]
          exact ⟨found.some, found.few, ⟨kind, found.asked⟩, alone⟩

theorem run_perm (turns : List Answers) (state : State) :
    (run autoAddController turns state).interfaces.Perm state.interfaces := by
  induction turns generalizing state with
  | nil => exact List.Perm.refl _
  | cons answers later ih =>
      rw [run, List.foldl_cons]
      exact (ih _).trans (turn_spec autoAddController answers state).perm

theorem run_inv (turns : List Answers) (inv : Inv state) :
    Inv (run autoAddController turns state) := by
  induction turns generalizing state with
  | nil => exact inv
  | cons answers later ih =>
      rw [run, List.foldl_cons]
      exact ih ((turn_spec autoAddController answers state).inv inv)

/-- In every run of turns, with whatever failures, each interface is available or has one handler,
there are at most ten handlers, and each is well formed. -/
theorem run_shares (autoAddController : Bool) (turns : List Answers)
    (available : List UsbHsInterface) (file : Option CString) :
    let last := run autoAddController turns { available, file }
    (last.handlers.flatMap Handler.interfaces ++ last.available).Perm available ∧
      last.handlers.length ≤ MaxControllerHandlersSize ∧
      ∀ handler ∈ last.handlers, handler.WellFormed := by
  intro last
  have inv : Inv last := run_inv turns ⟨Nat.zero_le _, by simp⟩
  exact ⟨run_perm turns { available, file }, inv.limit, inv.wellFormed⟩

/-! When nothing fails. -/

def Answers.Good (answers : Answers) : Prop :=
  (∀ kind, answers.queries kind = true) ∧ ∀ driver given, answers.succeeds driver given = true

def State.waiting (state : State) : Nat := state.available.countP recognised

def State.Done (state : State) : Prop :=
  state.handlers.length = MaxControllerHandlersSize ∨
    ∀ interface ∈ state.available, recognised interface = false

theorem Found.recognised {kind : Kind} {found : List UsbHsInterface}
    (spec : Found answers state.available kind found) :
    ∀ interface ∈ found, recognised interface = true := by
  intro interface member
  refine List.any_eq_true.mpr ⟨kind, ?_, spec.asked interface member⟩
  cases kind <;> decide

/-- A turn takes at least one of the interfaces that wait, or there is nothing to do. -/
theorem Turned.progress {next : State} (turned : Turned answers state next)
    (good : answers.Good) (inv : Inv state) :
    (state.Done ∧ next.handlers = state.handlers ∧ next.available = state.available) ∨
      next.waiting < state.waiting := by
  cases turned with
  | nothing none handlers available timeout =>
      refine Or.inl ⟨Or.inr ?_, handlers, available⟩
      intro interface member
      refine Bool.eq_false_iff.mpr ?_
      intro known
      obtain ⟨kind, isKind, asks⟩ := List.any_eq_true.mp known
      rw [firstFound_none good.1 none interface member kind isKind] at asks
      exact Bool.noConfusion asks
  | full limit handlers available timeout =>
      exact Or.inl ⟨Or.inl (Nat.le_antisymm inv.limit limit), handlers, available⟩
  | failed driver given fails handlers available timeout =>
      rw [good.2] at fails
      exact Bool.noConfusion fails
  | adds kind handler room found alone handlers available timeout =>
      have taken : handler.interfaces.countP recognised = handler.interfaces.length :=
        List.countP_eq_length.mpr found.recognised
      have some : 0 < handler.interfaces.length := List.length_pos_iff.mpr found.some
      have back : (handler.interfaces ++ state.available.diff handler.interfaces).Perm
          state.available :=
        List.subperm_append_diff_self_of_count_le fun interface _ =>
          found.sublist.count_le interface
      have split := back.countP_eq recognised
      rw [List.countP_append, taken] at split
      refine Or.inr ?_
      rw [State.waiting, State.waiting, available]
      omega

theorem Turned.done {next : State} (turned : Turned answers state next) (done : state.Done) :
    next.Done := by
  cases turned with
  | adds kind handler room found alone handlers available timeout =>
      rcases done with full | nothing
      · exact absurd full (Nat.ne_of_lt room)
      · obtain ⟨interface, member⟩ := List.exists_mem_of_ne_nil _ found.some
        have known := found.recognised interface member
        rw [nothing interface (found.sublist.subset member)] at known
        exact Bool.noConfusion known
  | nothing none handlers available timeout =>
      rw [State.Done, handlers, available]
      exact done
  | full limit handlers available timeout =>
      rw [State.Done, handlers, available]
      exact done
  | failed driver given fails handlers available timeout =>
      rw [State.Done, handlers, available]
      exact done

theorem run_done_of_done (turns : List Answers) (done : state.Done) :
    (run autoAddController turns state).Done := by
  induction turns generalizing state with
  | nil => exact done
  | cons answers later ih =>
      rw [run, List.foldl_cons]
      exact ih ((turn_spec autoAddController answers state).done done)

theorem run_done (turns : List Answers) (good : ∀ answers ∈ turns, answers.Good) (inv : Inv state)
    (enough : state.waiting ≤ turns.length) : (run autoAddController turns state).Done := by
  induction turns generalizing state with
  | nil =>
      refine Or.inr ?_
      intro interface member
      have none : state.available.countP recognised = 0 := Nat.le_zero.mp enough
      exact Bool.eq_false_iff.mpr (List.countP_eq_zero.mp none interface member)
  | cons answers later ih =>
      obtain ⟨here, rest⟩ := List.forall_mem_cons.mp good
      have turned := turn_spec autoAddController answers state
      rcases turned.progress here inv with ⟨done, _⟩ | fewer
      · exact run_done_of_done (answers :: later) done
      · rw [run, List.foldl_cons]
        refine ih rest (turned.inv inv) ?_
        rw [List.length_cons] at enough
        omega

/-- The thread waits without a limit only when it has found nothing. -/
theorem turn_forever_iff (good : answers.Good) :
    (turn autoAddController answers state).timeout = .forever ↔
      ∀ interface ∈ state.available, recognised interface = false := by
  have spec := turn_spec autoAddController answers state
  constructor
  · intro forever
    cases spec with
    | nothing none handlers available timeout =>
        intro interface member
        refine Bool.eq_false_iff.mpr ?_
        intro known
        obtain ⟨kind, isKind, asks⟩ := List.any_eq_true.mp known
        rw [firstFound_none good.1 none interface member kind isKind] at asks
        exact Bool.noConfusion asks
    | full limit handlers available timeout => simp [timeout] at forever
    | failed driver given fails handlers available timeout => simp [timeout] at forever
    | adds kind handler room found alone handlers available timeout => simp [timeout] at forever
  · intro nothing
    unfold turn
    cases asked : firstFound answers state.available queryOrder with
    | none => rfl
    | some result =>
        obtain ⟨kind, interface, others⟩ := result
        have found := firstFound_spec asked
        have known := found.recognised interface List.mem_cons_self
        rw [nothing interface (found.sublist.subset List.mem_cons_self)] at known
        exact Bool.noConfusion known

/-- As many turns in which nothing fails as there are interfaces to recognise leave none of them
available, or ten handlers; the thread then waits without a limit in the first case only. -/
theorem run_complete (autoAddController : Bool) (turns : List Answers)
    (available : List UsbHsInterface) (file : Option CString)
    (good : ∀ answers ∈ turns, answers.Good) (enough : available.countP recognised ≤ turns.length) :
    let last := run autoAddController turns { available, file }
    (last.handlers.length = MaxControllerHandlersSize ∨
        ∀ interface ∈ last.available, recognised interface = false) ∧
      ∀ answers : Answers, answers.Good →
        ((turn autoAddController answers last).timeout = .forever ↔
          ∀ interface ∈ last.available, recognised interface = false) :=
  ⟨run_done turns good ⟨Nat.zero_le _, by simp⟩ enough, fun _ good => turn_forever_iff good⟩

def hidPad (id : Int) : UsbHsInterface := ⟨id, 0x054c, 0x05c4, 0x0100, USB_CLASS_HID, 0, 0⟩

def xbox360Pad (id : Int) : UsbHsInterface :=
  ⟨id, 0x045e, 0x028e, 0x0114, USB_CLASS_VENDOR_SPEC, 0x5D, 0x01⟩

theorem twoPads_complete :
    (run false [{}, {}] { available := [hidPad 1, xbox360Pad 2], file := none }).Done :=
  (run_complete false [{}, {}] [hidPad 1, xbox360Pad 2] none
    (by simp [Answers.Good]) (by decide)).1

/-! A controller that cannot be initialized. -/

/-- The interfaces of the first kind that has any are tried again and again as long as their
controller cannot be initialized, and those of the other kinds never have a turn. -/
theorem run_blocked (autoAddController : Bool) (turns : List Answers) (state : State) (kind : Kind)
    (interface : UsbHsInterface) (others : List UsbHsInterface)
    (first : ∀ answers ∈ turns,
      firstFound answers state.available queryOrder = some (kind, interface, others))
    (fails : ∀ answers ∈ turns, ∀ driver : DriverKind,
      answers.succeeds driver (takes driver (interface :: others)) = false) :
    (run autoAddController turns state).handlers = state.handlers ∧
      (run autoAddController turns state).available = state.available ∧
      (turns ≠ [] → (run autoAddController turns state).timeout = .oneMs) := by
  induction turns using List.reverseRecOn with
  | nil => exact ⟨rfl, rfl, fun none => absurd rfl none⟩
  | append_singleton earlier last ih =>
      obtain ⟨handlers, available, _⟩ := ih
        (fun answers member => first answers (List.mem_append_left _ member))
        (fun answers member => fails answers (List.mem_append_left _ member))
      have isLast : last ∈ earlier ++ [last] := by simp
      have found := first last isLast
      have fail := fails last isLast
      rw [← available] at found
      rw [run, List.foldl_append, List.foldl_cons, List.foldl_nil, ← run, turn]
      simp only [found]
      by_cases limit : MaxControllerHandlersSize ≤
          (run autoAddController earlier state).handlers.length
      · rw [if_pos limit]
        exact ⟨handlers, available, fun _ => rfl⟩
      · rw [if_neg limit, fail]
        exact ⟨handlers, available, fun _ => rfl⟩

/-- Only controllers of the class HID can be initialized. -/
def onlyHid : Answers where
  succeeds _ given := given.all fun interface => interface.bInterfaceClass = USB_CLASS_HID

theorem hidPad_blocked : (run false (List.replicate 3 onlyHid)
    { available := [hidPad 1, xbox360Pad 2], file := none }).handlers = [] := by
  have same : ∀ answers ∈ List.replicate 3 onlyHid, answers = onlyHid :=
    fun _ member => List.eq_of_mem_replicate member
  refine (run_blocked false (List.replicate 3 onlyHid)
    { available := [hidPad 1, xbox360Pad 2], file := none } .xbox360 (xbox360Pad 2) [] ?_ ?_).1
  · intro answers member
    rw [same answers member]
    rfl
  · intro answers member driver
    rw [same answers member]
    cases driver <;> rfl

end Runs

end SysCon.Discovery
