import SysCon.Sysmodule.GlobalConfig

/-!
Which devices wake the discovery thread. `usb::Initialize` creates an event for
each filter that the discovery mode asks for, three at most; a device that is
plugged in signals the events whose filters it passes.
-/

namespace SysCon.Usb

open CLibrary Library
open ConfigHandler
open Ini (Entry)

def MaxUsbEvents : Nat := 3

def USB_CLASS_HID : UInt8 := 0x03

/-- What the sysmodule looks at of an interface. -/
structure UsbHsInterface where
  id : Int
  idVendor : UInt16
  idProduct : UInt16
  bcdDevice : UInt16
  bInterfaceClass : UInt8
  bInterfaceSubClass : UInt8
  bInterfaceProtocol : UInt8
  deriving DecidableEq, Repr

/-- A field counts when its flag is set. -/
structure UsbHsInterfaceFilter where
  idVendor : Option UInt16 := none
  idProduct : Option UInt16 := none
  bcdDeviceMin : Option UInt16 := none
  bInterfaceClass : Option UInt8 := none
  deriving DecidableEq, Repr

/-- An interface passes a filter with the fields that count. -/
def UsbHsInterfaceFilter.passes (filter : UsbHsInterfaceFilter) (interface : UsbHsInterface) :
    Bool :=
  filter.idVendor.all (· = interface.idVendor) && filter.idProduct.all (· = interface.idProduct) &&
    filter.bcdDeviceMin.all (· ≤ interface.bcdDevice) &&
    filter.bInterfaceClass.all (· = interface.bInterfaceClass)

/-- `created` is whether `usbHsCreateInterfaceAvailableEvent` succeeded. -/
structure Event where
  filter : UsbHsInterfaceFilter
  created : Bool
  deriving DecidableEq, Repr

structure UsbModule where
  usbEvents : List Event := []
  autoAddController : Bool := false
  deriving DecidableEq, Repr

section Initialize

variable (creates : Nat → Bool)

/-- `AddEvent`; its callers do not look at the result. -/
def addEvent (usb : UsbModule) (filter : UsbHsInterfaceFilter) : UsbModule :=
  if MaxUsbEvents ≤ usb.usbEvents.length then usb
  else { usb with usbEvents := usb.usbEvents ++ [⟨filter, creates usb.usbEvents.length⟩] }

def filterAllDevices1 : UsbHsInterfaceFilter := { bcdDeviceMin := some 0 }

def filterAllDevices2 : UsbHsInterfaceFilter :=
  { bcdDeviceMin := some 0, bInterfaceClass := some USB_CLASS_HID }

def filterKnownDevice (vidPid : ControllerVidPid) : UsbHsInterfaceFilter :=
  { idVendor := some vidPid.vid, idProduct := if vidPid.pid ≠ 0 then some vidPid.pid else none }

/-- `usb::Initialize`, up to the start of its threads. -/
def usbInitialize (discoveryMode : Int) (discoveryVidPid : List ControllerVidPid)
    (autoAddController : Bool) (usb : UsbModule) : UsbModule :=
  let usb := { usb with autoAddController }
  let usb :=
    if discoveryMode = HID_AND_XBOX ∨ discoveryMode = VIDPID_AND_XBOX then
      addEvent creates usb filterAllDevices1
    else usb
  let usb :=
    if discoveryMode = HID_AND_XBOX then addEvent creates usb filterAllDevices2 else usb
  if discoveryMode = VIDPID ∨ discoveryMode = VIDPID_AND_XBOX then
    (discoveryVidPid.map filterKnownDevice).foldl (addEvent creates) usb
  else usb

/-- The filters that a discovery mode asks for, in their order. -/
def wantedFilters (discoveryMode : Int) (discoveryVidPid : List ControllerVidPid) :
    List UsbHsInterfaceFilter :=
  (if discoveryMode = HID_AND_XBOX ∨ discoveryMode = VIDPID_AND_XBOX then [filterAllDevices1]
    else []) ++
  (if discoveryMode = HID_AND_XBOX then [filterAllDevices2] else []) ++
  if discoveryMode = VIDPID ∨ discoveryMode = VIDPID_AND_XBOX then
    discoveryVidPid.map filterKnownDevice
  else []

theorem usbInitialize_eq (discoveryMode : Int) (discoveryVidPid : List ControllerVidPid)
    (autoAddController : Bool) (usb : UsbModule) :
    usbInitialize creates discoveryMode discoveryVidPid autoAddController usb =
      (wantedFilters discoveryMode discoveryVidPid).foldl (addEvent creates)
        { usb with autoAddController } := by
  have optional (wanted : Prop) [Decidable wanted] (filters : List UsbHsInterfaceFilter)
      (current : UsbModule) :
      (if wanted then filters.foldl (addEvent creates) current else current) =
        (if wanted then filters else []).foldl (addEvent creates) current := by
    split <;> rfl
  unfold usbInitialize wantedFilters
  rw [List.foldl_append, List.foldl_append, ← optional, ← optional, ← optional]
  rfl

/-- The first three filters get an event each, the others none. -/
theorem foldl_addEvent (filters : List UsbHsInterfaceFilter) (usb : UsbModule)
    (fresh : usb.usbEvents = []) :
    (filters.foldl (addEvent creates) usb).usbEvents =
      (filters.take MaxUsbEvents).mapIdx fun index filter => ⟨filter, creates index⟩ := by
  induction filters using List.reverseRecOn with
  | nil => simpa using fresh
  | append_singleton filters last ih =>
      rw [List.foldl_append, List.foldl_cons, List.foldl_nil, addEvent]
      have count : (filters.foldl (addEvent creates) usb).usbEvents.length =
          min MaxUsbEvents filters.length := by
        rw [ih, List.length_mapIdx, List.length_take]
      by_cases full : MaxUsbEvents ≤ filters.length
      · rw [if_pos (by omega), ih, List.take_append_of_le_length full]
      · have whole : filters.take MaxUsbEvents = filters := List.take_of_length_le (by omega)
        have wholeLast : (filters ++ [last]).take MaxUsbEvents = filters ++ [last] := by
          refine List.take_of_length_le ?_
          rw [List.length_append, List.length_singleton]
          omega
        rw [if_neg (by omega), count, ih, whole, wholeLast, List.mapIdx_concat,
          Nat.min_eq_right (by omega)]

end Initialize

/-- `waitObjects` returns for this interface. -/
def UsbModule.signals (usb : UsbModule) (interface : UsbHsInterface) : Bool :=
  usb.usbEvents.any fun event => event.created && event.filter.passes interface

/-- From the configuration file to the events that are waited for, as `main` does it. -/
def startUp (creates : Nat → Bool) (file : Option CString) : UsbModule :=
  let config := (loadGlobalConfig file {}).2
  usbInitialize creates config.discoveryMode config.discoveryVidPid config.autoAddController {}

def selects (vidPid : ControllerVidPid) (interface : UsbHsInterface) : Prop :=
  vidPid.vid = interface.idVendor ∧ (vidPid.pid = 0 ∨ vidPid.pid = interface.idProduct)

/-- One of the first `count` devices of the list, whose event is number `start` or a later one. -/
def SelectedAmong (creates : Nat → Bool) (start count : Nat)
    (discoveryVidPid : List ControllerVidPid) (interface : UsbHsInterface) : Prop :=
  ∃ index vidPid, index < count ∧ creates (start + index) = true ∧
    discoveryVidPid[index]? = some vidPid ∧ selects vidPid interface

/-- What a discovery mode means for a device that is plugged in. -/
def Wakes (creates : Nat → Bool) (discoveryMode : Int) (discoveryVidPid : List ControllerVidPid)
    (interface : UsbHsInterface) : Prop :=
  if discoveryMode = HID_AND_XBOX then
    creates 0 = true ∨ creates 1 = true ∧ interface.bInterfaceClass = USB_CLASS_HID
  else if discoveryMode = VIDPID_AND_XBOX then
    creates 0 = true ∨ SelectedAmong creates 1 2 discoveryVidPid interface
  else if discoveryMode = VIDPID then SelectedAmong creates 0 3 discoveryVidPid interface
  else False

section Signals

variable {creates : Nat → Bool} {interface : UsbHsInterface}

theorem passes_filterAllDevices1 : filterAllDevices1.passes interface = true := by
  simp [filterAllDevices1, UsbHsInterfaceFilter.passes]

theorem passes_filterAllDevices2 :
    filterAllDevices2.passes interface = true ↔ interface.bInterfaceClass = USB_CLASS_HID := by
  simp [filterAllDevices2, UsbHsInterfaceFilter.passes, eq_comm]

theorem passes_filterKnownDevice (vidPid : ControllerVidPid) :
    (filterKnownDevice vidPid).passes interface = true ↔ selects vidPid interface := by
  by_cases every : vidPid.pid = 0
  · simp [filterKnownDevice, UsbHsInterfaceFilter.passes, selects, every]
  · simp [filterKnownDevice, UsbHsInterfaceFilter.passes, selects, every]

/-- One of the first three filters has an event, and the interface passes it. -/
def Armed (creates : Nat → Bool) (wanted : List UsbHsInterfaceFilter)
    (interface : UsbHsInterface) : Prop :=
  ∃ index filter, index < MaxUsbEvents ∧ creates index = true ∧ wanted[index]? = some filter ∧
    filter.passes interface = true

theorem signals_usbInitialize (discoveryMode : Int) (discoveryVidPid : List ControllerVidPid)
    (autoAddController : Bool) :
    (usbInitialize creates discoveryMode discoveryVidPid autoAddController {}).signals interface =
        true ↔ Armed creates (wantedFilters discoveryMode discoveryVidPid) interface := by
  rw [UsbModule.signals, usbInitialize_eq, foldl_addEvent _ _ _ rfl, List.any_eq_true]
  simp only [List.mem_iff_getElem?, List.getElem?_mapIdx, Option.map_eq_some_iff, Bool.and_eq_true,
    List.getElem?_take]
  constructor
  · rintro ⟨event, ⟨index, filter, taken, rfl⟩, created, passes⟩
    obtain ⟨bound, wanted⟩ := Option.ite_none_right_eq_some.mp taken
    exact ⟨index, filter, bound, created, wanted, passes⟩
  · rintro ⟨index, filter, bound, created, wanted, passes⟩
    exact ⟨_, ⟨index, filter, by rw [if_pos bound, wanted], rfl⟩, created, passes⟩

/-- The filters of a list of devices, the first of which is number `start`. -/
theorem selectedAmong_iff (front : List UsbHsInterfaceFilter) (count : Nat)
    (discoveryVidPid : List ControllerVidPid) :
    (∃ index filter, index < count ∧ creates (front.length + index) = true ∧
        (front ++ discoveryVidPid.map filterKnownDevice)[front.length + index]? = some filter ∧
        filter.passes interface = true) ↔
      SelectedAmong creates front.length count discoveryVidPid interface := by
  simp only [SelectedAmong, List.getElem?_append_right (Nat.le_add_right _ _),
    Nat.add_sub_cancel_left, List.getElem?_map, Option.map_eq_some_iff]
  constructor
  · rintro ⟨index, filter, bound, created, ⟨vidPid, listed, rfl⟩, passes⟩
    exact ⟨index, vidPid, bound, created, listed, (passes_filterKnownDevice vidPid).mp passes⟩
  · rintro ⟨index, vidPid, bound, created, listed, selected⟩
    exact ⟨index, _, bound, created, ⟨vidPid, listed, rfl⟩,
      (passes_filterKnownDevice vidPid).mpr selected⟩

theorem armed_hidAndXbox (discoveryVidPid : List ControllerVidPid) :
    Armed creates (wantedFilters HID_AND_XBOX discoveryVidPid) interface ↔
      creates 0 = true ∨ creates 1 = true ∧ interface.bInterfaceClass = USB_CLASS_HID := by
  have wanted : wantedFilters HID_AND_XBOX discoveryVidPid =
      [filterAllDevices1, filterAllDevices2] := rfl
  rw [wanted]
  constructor
  · rintro ⟨index, filter, _, created, listed, passes⟩
    match index with
    | 0 => exact Or.inl created
    | 1 =>
        simp only [List.getElem?_cons_succ, List.getElem?_cons_zero, Option.some.injEq] at listed
        subst listed
        exact Or.inr ⟨created, passes_filterAllDevices2.mp passes⟩
    | index + 2 => simp at listed
  · rintro (created | ⟨created, hid⟩)
    · exact ⟨0, _, by decide, created, rfl, passes_filterAllDevices1⟩
    · exact ⟨1, _, by decide, created, rfl, passes_filterAllDevices2.mpr hid⟩

theorem armed_vidPidAndXbox (discoveryVidPid : List ControllerVidPid) :
    Armed creates (wantedFilters VIDPID_AND_XBOX discoveryVidPid) interface ↔
      creates 0 = true ∨ SelectedAmong creates 1 2 discoveryVidPid interface := by
  have wanted : wantedFilters VIDPID_AND_XBOX discoveryVidPid =
      [filterAllDevices1] ++ discoveryVidPid.map filterKnownDevice := rfl
  have selected : _ ↔ SelectedAmong creates 1 2 discoveryVidPid interface :=
    selectedAmong_iff [filterAllDevices1] 2 discoveryVidPid
  rw [wanted, ← selected]
  constructor
  · rintro ⟨index, filter, bound, created, listed, passes⟩
    cases index with
    | zero => exact Or.inl created
    | succ index =>
        rw [Nat.add_comm] at created listed
        exact Or.inr ⟨index, filter, Nat.lt_of_succ_lt_succ bound, created, listed, passes⟩
  · rintro (created | ⟨index, filter, bound, created, listed, passes⟩)
    · exact ⟨0, _, by decide, created, rfl, passes_filterAllDevices1⟩
    · refine ⟨1 + index, filter, ?_, created, listed, passes⟩
      rw [Nat.add_comm]
      exact Nat.succ_lt_succ bound

theorem armed_vidPid (discoveryVidPid : List ControllerVidPid) :
    Armed creates (wantedFilters VIDPID discoveryVidPid) interface ↔
      SelectedAmong creates 0 3 discoveryVidPid interface := by
  have wanted : wantedFilters VIDPID discoveryVidPid =
      [] ++ discoveryVidPid.map filterKnownDevice := rfl
  have selected : _ ↔ SelectedAmong creates 0 3 discoveryVidPid interface :=
    selectedAmong_iff [] 3 discoveryVidPid
  rw [wanted, ← selected]
  simp only [Armed, MaxUsbEvents, List.length_nil, Nat.zero_add]

theorem signals_iff_wakes (discoveryMode : Int) (discoveryVidPid : List ControllerVidPid)
    (autoAddController : Bool) :
    (usbInitialize creates discoveryMode discoveryVidPid autoAddController {}).signals interface =
        true ↔ Wakes creates discoveryMode discoveryVidPid interface := by
  rw [signals_usbInitialize]
  unfold Wakes
  by_cases both : discoveryMode = HID_AND_XBOX
  · rw [if_pos both, both]
    exact armed_hidAndXbox discoveryVidPid
  · rw [if_neg both]
    by_cases xbox : discoveryMode = VIDPID_AND_XBOX
    · rw [if_pos xbox, xbox]
      exact armed_vidPidAndXbox discoveryVidPid
    · rw [if_neg xbox]
      by_cases known : discoveryMode = VIDPID
      · rw [if_pos known, known]
        exact armed_vidPid discoveryVidPid
      · have nothing : wantedFilters discoveryMode discoveryVidPid = [] := by
          simp [wantedFilters, both, xbox, known]
        rw [if_neg known, nothing]
        simp [Armed]

/-- The file decides whom a device that is plugged in wakes: the last `discovery_mode` of its
sections `global`, and the devices of all their lines `discovery_vidpid`: the first three, the first
two beside the Xbox filter, and none beside the HID filter. -/
theorem signals_startUp (creates : Nat → Bool) (text : CString) (interface : UsbHsInterface) :
    (startUp creates (some text)).signals interface = true ↔
      Wakes creates (lastSetting storedMode HID_AND_XBOX (globalEntries text))
        ((globalEntries text).flatMap fun entry => listedVidPids (globalSetting entry))
        interface := by
  unfold startUp
  rw [loadGlobalConfig_some, foldl_applyGlobalEntry]
  exact signals_iff_wakes _ _ _

end Signals

end SysCon.Usb
