import SysCon.Library.FirstFailure
import SysCon.ControllerLib.Controllers.XboxOne
import SysCon.ControllerLib.Opening

/-!
`XboxOneController::SendInitBytes`: the packets of the table that are for the
device, each with the next sequence number, up to the first one that cannot be
written. After each packet the driver reads once, whatever comes.
-/

namespace SysCon.XboxOneController

open Library

def GIP_CMD_IDENTIFY : UInt8 := 0x04
def GIP_CMD_POWER : UInt8 := 0x05
def GIP_CMD_AUTHENTICATE : UInt8 := 0x06
def GIP_CMD_RUMBLE : UInt8 := 0x09
def GIP_CMD_LED : UInt8 := 0x0a
def GIP_SEQ0 : UInt8 := 0x00
def GIP_PWR_ON : UInt8 := 0x00
def GIP_LED_ON : UInt8 := 0x01
def GIP_MOTOR_ALL : UInt8 := 0x0f

def hori_pdp_ack_id_3a : List UInt8 :=
  [GIP_CMD_ACK, GIP_OPT_INTERNAL, GIP_SEQ0, 9, 0x00, GIP_CMD_IDENTIFY, GIP_OPT_INTERNAL, 0x3a,
   0x00, 0x00, 0x00, 0x80, 0x00]

def identify : List UInt8 := [GIP_CMD_IDENTIFY, GIP_OPT_INTERNAL, GIP_SEQ0, 0x00]

def pdp_ack_id_22 : List UInt8 :=
  [GIP_CMD_ACK, GIP_OPT_INTERNAL, GIP_SEQ0, 9, 0x00, GIP_CMD_IDENTIFY, GIP_OPT_INTERNAL, 0x22,
   0x01, 0x00, 0x00, 0x12, 0x00]

def power_on : List UInt8 := [GIP_CMD_POWER, GIP_OPT_INTERNAL, GIP_SEQ0, 1, GIP_PWR_ON]

def s_init : List UInt8 := [GIP_CMD_POWER, GIP_OPT_INTERNAL, GIP_SEQ0, 0x0f, 0x06]

def extra_input_packet_init : List UInt8 := [0x4d, 0x10, GIP_SEQ0, 0x02, 0x07, 0x00]

def pdp_led_on : List UInt8 :=
  [GIP_CMD_LED, GIP_OPT_INTERNAL, GIP_SEQ0, 3, 0x00, GIP_LED_ON, 0x14]

def pdp_auth0 : List UInt8 := [GIP_CMD_AUTHENTICATE, 0xa0, GIP_SEQ0, 0x00, 0x92, 0x02]

def pdp_auth : List UInt8 := [GIP_CMD_AUTHENTICATE, GIP_OPT_INTERNAL, GIP_SEQ0, 2, 0x01, 0x00]

def rumblebegin_init : List UInt8 :=
  [GIP_CMD_RUMBLE, 0x00, GIP_SEQ0, 9, 0x00, GIP_MOTOR_ALL, 0x00, 0x00, 0x1D, 0x1D, 0xFF, 0x00,
   0x00]

def rumbleend_init : List UInt8 :=
  [GIP_CMD_RUMBLE, 0x00, GIP_SEQ0, 9, 0x00, GIP_MOTOR_ALL, 0x00, 0x00, 0x00, 0x00, 0x00, 0x00,
   0x00]

/-- A vendor or product of 0 stands for any. -/
structure InitPacket where
  idVendor : UInt16
  idProduct : UInt16
  data : List UInt8
  deriving DecidableEq, Repr

def xboxone_init_packets : List InitPacket :=
  [⟨0x0e6f, 0x02ea, identify⟩, ⟨0x0e6f, 0x02ea, pdp_ack_id_22⟩,
   ⟨0x0e6f, 0x0165, hori_pdp_ack_id_3a⟩, ⟨0x0f0d, 0x0067, hori_pdp_ack_id_3a⟩,
   ⟨0x0000, 0x0000, power_on⟩, ⟨0x045e, 0x02ea, s_init⟩, ⟨0x045e, 0x0b00, s_init⟩,
   ⟨0x045e, 0x0b00, extra_input_packet_init⟩, ⟨0x0e6f, 0x0000, pdp_led_on⟩,
   ⟨0x0f0d, 0x01b2, pdp_led_on⟩, ⟨0x20d6, 0xa01a, pdp_led_on⟩, ⟨0x0e6f, 0x0000, pdp_auth0⟩,
   ⟨0x0e6f, 0x0000, pdp_auth⟩, ⟨0x0f0d, 0x01b2, pdp_auth⟩, ⟨0x20d6, 0xa01a, pdp_auth⟩,
   ⟨0x2dc8, 0x0000, pdp_auth⟩, ⟨0x24c6, 0x541a, rumblebegin_init⟩,
   ⟨0x24c6, 0x542a, rumblebegin_init⟩, ⟨0x24c6, 0x543a, rumblebegin_init⟩,
   ⟨0x24c6, 0x541a, rumbleend_init⟩, ⟨0x24c6, 0x542a, rumbleend_init⟩,
   ⟨0x24c6, 0x543a, rumbleend_init⟩]

inductive InitCall
  | write (inputIdx : Nat) (bytes : List UInt8)
  | read (inputIdx : Nat) (size timeout : Nat)
  deriving DecidableEq, Repr

section SendInitBytes

variable (vendor product : UInt16) (results : WriteResults) (inputIdx : Nat)

/-- The loop over the table from the packet sequence number on. -/
def sendPackets : (packetSeq : UInt8) → List InitPacket → ControllerResult × List InitCall
  | _, [] => (.success, [])
  | packetSeq, packet :: later =>
      if packet.idVendor ≠ 0 ∧ packet.idVendor ≠ vendor then sendPackets packetSeq later
      else if packet.idProduct ≠ 0 ∧ packet.idProduct ≠ product then sendPackets packetSeq later
      else
        let bufferOut := packet.data.set 2 packetSeq
        let result := results inputIdx bufferOut
        if result ≠ .success then (result, [.write inputIdx bufferOut])
        else
          let (final, calls) := sendPackets (packetSeq + 1) later
          (final, .write inputIdx bufferOut :: .read inputIdx 256 (250 * 1000) :: calls)

def sendInitBytes (base : BaseController) : ControllerResult × List InitCall :=
  if base.outPipe.length ≤ inputIdx then (.success, [])
  else sendPackets vendor product results inputIdx 1 xboxone_init_packets

end SendInitBytes

/-! The packets of a device, numbered, and the loop over them. -/

def InitPacket.isFor (vendor product : UInt16) (packet : InitPacket) : Bool :=
  (packet.idVendor = 0 || packet.idVendor = vendor) &&
    (packet.idProduct = 0 || packet.idProduct = product)

def numbered (start : Nat) (packets : List InitPacket) : List (List UInt8) :=
  packets.mapIdx fun position packet => packet.data.set 2 (UInt8.ofNat (start + position))

def initSequence (vendor product : UInt16) : List (List UInt8) :=
  numbered 1 (xboxone_init_packets.filter (InitPacket.isFor vendor product))

section Sequence

variable {vendor product : UInt16} {results : WriteResults} {inputIdx : Nat}

/-- One packet: a write, and a read after it when it went through. -/
def sendPacket (results : WriteResults) (inputIdx : Nat) (bytes : List UInt8) :
    ControllerResult × List InitCall :=
  (results inputIdx bytes,
    if results inputIdx bytes ≠ .success then [.write inputIdx bytes]
    else [.write inputIdx bytes, .read inputIdx 256 (250 * 1000)])

theorem numbered_cons (start : Nat) (packet : InitPacket) (later : List InitPacket) :
    numbered start (packet :: later) =
      packet.data.set 2 (UInt8.ofNat start) :: numbered (start + 1) later := by
  simp only [numbered, List.mapIdx_cons, Nat.add_zero, List.cons.injEq, true_and]
  refine List.mapIdx_eq_mapIdx_iff.mpr ?_
  intro position bound
  rw [Nat.add_assoc, Nat.add_comm 1]

theorem sendPackets_eq (start : Nat) (packets : List InitPacket) (index : Nat) :
    sendPackets vendor product results inputIdx (UInt8.ofNat start) packets =
      untilFailure .success (fun _ => sendPacket results inputIdx) index
        (numbered start (packets.filter (InitPacket.isFor vendor product))) := by
  induction packets generalizing start index with
  | nil => rfl
  | cons packet later ih =>
      have foreign (other : packet.isFor vendor product = false) :
          (packet :: later).filter (InitPacket.isFor vendor product) =
            later.filter (InitPacket.isFor vendor product) :=
        List.filter_cons_of_neg (by simp [other])
      rw [sendPackets]
      by_cases otherVendor : packet.idVendor ≠ 0 ∧ packet.idVendor ≠ vendor
      · rw [if_pos otherVendor, ih start index, foreign]
        simp [InitPacket.isFor, otherVendor]
      · rw [if_neg otherVendor]
        by_cases otherProduct : packet.idProduct ≠ 0 ∧ packet.idProduct ≠ product
        · rw [if_pos otherProduct, ih start index, foreign]
          simp [InitPacket.isFor, otherProduct]
        · have own : packet.isFor vendor product = true := by
            rw [not_and_or, not_not, not_not] at otherVendor otherProduct
            simp [InitPacket.isFor, otherVendor, otherProduct]
          have next : UInt8.ofNat start + 1 = UInt8.ofNat (start + 1) :=
            (UInt8.ofNat_add start 1).symm
          rw [if_neg otherProduct, List.filter_cons_of_pos own, numbered_cons]
          by_cases failed : results inputIdx (packet.data.set 2 (UInt8.ofNat start)) ≠ .success
          · rw [untilFailure_cons_of_failure _ failed]
            simp only [sendPacket, if_pos failed]
          · rw [untilFailure_cons_of_success _ (not_not.mp failed), next, ← ih (start + 1)]
            simp only [sendPacket, if_neg failed]
            rfl

/-- The calls for packets that go through. -/
def writtenAndRead (inputIdx : Nat) (packets : List (List UInt8)) : List InitCall :=
  packets.flatMap fun bytes => [.write inputIdx bytes, .read inputIdx 256 (250 * 1000)]

theorem sendAll_success (index : Nat) (packets : List (List UInt8))
    (passed : ∀ bytes ∈ packets, results inputIdx bytes = .success) :
    untilFailure .success (fun _ => sendPacket results inputIdx) index packets =
      (.success, writtenAndRead inputIdx packets) := by
  induction packets generalizing index with
  | nil => rfl
  | cons bytes later ih =>
      obtain ⟨here, rest⟩ := List.forall_mem_cons.mp passed
      rw [untilFailure_cons_of_success _ here, ih (index + 1) rest]
      simp [sendPacket, here, writtenAndRead]

theorem sendAll_failure (index : Nat) (earlier : List (List UInt8)) (bytes : List UInt8)
    (later : List (List UInt8))
    (passed : ∀ bytes ∈ earlier, results inputIdx bytes = .success)
    (failed : results inputIdx bytes ≠ .success) :
    untilFailure .success (fun _ => sendPacket results inputIdx) index
        (earlier ++ bytes :: later) =
      (results inputIdx bytes, writtenAndRead inputIdx earlier ++ [.write inputIdx bytes]) := by
  induction earlier generalizing index with
  | nil =>
      rw [List.nil_append, untilFailure_cons_of_failure _ failed]
      simp [sendPacket, failed, writtenAndRead]
  | cons first rest ih =>
      obtain ⟨here, others⟩ := List.forall_mem_cons.mp passed
      rw [List.cons_append, untilFailure_cons_of_success _ here, ih (index + 1) others]
      simp [sendPacket, here, writtenAndRead]

/-- Every packet of the table has a sequence number to replace. -/
theorem packets_numbered {packet : InitPacket} (listed : packet ∈ xboxone_init_packets) :
    2 < packet.data.length := by
  have all : ∀ packet ∈ xboxone_init_packets, 2 < packet.data.length := by decide
  exact all packet listed

theorem getElem?_initSequence {position : Nat} {bytes : List UInt8}
    (listed : (initSequence vendor product)[position]? = some bytes) :
    position < xboxone_init_packets.length ∧ bytes[2]? = some (UInt8.ofNat (position + 1)) := by
  rw [initSequence, numbered, List.getElem?_mapIdx, Option.map_eq_some_iff] at listed
  obtain ⟨packet, found, rfl⟩ := listed
  obtain ⟨bound, member⟩ := List.getElem?_eq_some_iff.mp found
  have inTable : packet ∈ xboxone_init_packets :=
    (List.mem_filter.mp (member ▸ List.getElem_mem bound)).1
  refine ⟨Nat.lt_of_lt_of_le bound (List.length_filter_le _ _), ?_⟩
  rw [List.getElem?_set_self (packets_numbered inTable), Nat.add_comm]

theorem powerOn_mem_initSequence (vendor product : UInt16) :
    ∃ packetSeq, power_on.set 2 packetSeq ∈ initSequence vendor product := by
  have own : (⟨0, 0, power_on⟩ : InitPacket) ∈
      xboxone_init_packets.filter (InitPacket.isFor vendor product) :=
    List.mem_filter.mpr ⟨by decide, by simp [InitPacket.isFor]⟩
  obtain ⟨position, bound, found⟩ := List.mem_iff_getElem.mp own
  refine ⟨UInt8.ofNat (1 + position), ?_⟩
  rw [initSequence, numbered, List.mem_mapIdx]
  exact ⟨position, bound, by rw [found]⟩

end Sequence

/-- The driver has the pipe that the call goes to. -/
def InitCall.IsOpen (base : BaseController) : InitCall → Prop
  | .write inputIdx _ => inputIdx < base.outPipe.length
  | .read inputIdx _ _ => inputIdx < base.inPipe.length

/-- What holds of the write of every packet, whatever its number, and of the reads after them. -/
theorem forall_sendPackets (good : InitCall → Prop) {vendor product : UInt16}
    {results : WriteResults} {inputIdx : Nat} (packetSeq : UInt8) {packets : List InitPacket}
    (writes : ∀ packet ∈ packets, ∀ packetSeq, good (.write inputIdx (packet.data.set 2 packetSeq)))
    (reads : good (.read inputIdx 256 (250 * 1000))) {call : InitCall}
    (made : call ∈ (sendPackets vendor product results inputIdx packetSeq packets).2) :
    good call := by
  induction packets generalizing packetSeq with
  | nil => cases made
  | cons packet later ih =>
      obtain ⟨written, others⟩ := List.forall_mem_cons.mp writes
      rw [sendPackets] at made
      split at made
      · exact ih packetSeq others made
      · split at made
        · exact ih packetSeq others made
        · simp only at made
          split at made
          · rcases List.mem_singleton.mp made with rfl
            exact written packetSeq
          · rcases List.mem_cons.mp made with rfl | made
            · exact written packetSeq
            · rcases List.mem_cons.mp made with rfl | made
              · exact reads
              · exact ih (packetSeq + 1) others made

/-- `SendInitBytes` only checks for the output pipe; `OpenInterfaces` has found an input pipe. -/
theorem isOpen_sendInitBytes {device : UsbDevice} {vendor product : UInt16}
    {results : WriteResults} (opened : (BaseController.openInterfaces device {}).1 = .success)
    {call : InitCall}
    (made : call ∈
      (sendInitBytes vendor product results 0 (BaseController.openInterfaces device {}).2).2) :
    call.IsOpen (BaseController.openInterfaces device {}).2 := by
  have inputs := (BaseController.grown_openInterfaces opened).inputs
  have some := ((BaseController.openInterfaces_success_iff device).mp opened).2
  rw [List.length_nil, Nat.zero_add] at inputs
  rw [sendInitBytes] at made
  split at made
  · cases made
  · next writable =>
      have readable : 0 < (BaseController.openInterfaces device {}).2.inPipe.length := by omega
      exact forall_sendPackets _ 1 (fun _ _ _ => Nat.lt_of_not_le writable) readable made

/-- A device that was opened and can be written to gets its packets in the order of the table,
numbered from 1 and each followed by a read, up to the first that fails. One of them turns it on,
and no call goes to a pipe that is not there. -/
theorem sendInitBytes_sequence (vendor product : UInt16) (results : WriteResults)
    (device : UsbDevice) (opened : (BaseController.openInterfaces device {}).1 = .success) :
    let base := (BaseController.openInterfaces device {}).2
    let packets := initSequence vendor product
    (base.outPipe = [] → sendInitBytes vendor product results 0 base = (.success, [])) ∧
    (base.outPipe ≠ [] → (∀ bytes ∈ packets, results 0 bytes = .success) →
      sendInitBytes vendor product results 0 base = (.success, writtenAndRead 0 packets)) ∧
    (base.outPipe ≠ [] → ∀ earlier bytes later, packets = earlier ++ bytes :: later →
      (∀ bytes ∈ earlier, results 0 bytes = .success) → results 0 bytes ≠ .success →
      sendInitBytes vendor product results 0 base =
        (results 0 bytes, writtenAndRead 0 earlier ++ [.write 0 bytes])) ∧
    (∀ position bytes, packets[position]? = some bytes →
      position + 1 < 256 ∧ bytes[2]? = some (UInt8.ofNat (position + 1))) ∧
    (∃ packetSeq, power_on.set 2 packetSeq ∈ packets) ∧
    ∀ call ∈ (sendInitBytes vendor product results 0 base).2, call.IsOpen base := by
  intro base packets
  have sent (writable : base.outPipe ≠ []) : sendInitBytes vendor product results 0 base =
      untilFailure .success (fun _ => sendPacket results 0) 0 packets := by
    have some := List.length_pos_iff.mpr writable
    rw [sendInitBytes, if_neg (Nat.not_le_of_lt some)]
    exact sendPackets_eq 1 xboxone_init_packets 0
  refine ⟨?_, ?_, ?_, ?_, powerOn_mem_initSequence vendor product, ?_⟩
  · intro silent
    rw [sendInitBytes, silent, List.length_nil, if_pos (Nat.le_refl 0)]
  · intro writable passed
    rw [sent writable, sendAll_success 0 packets passed]
  · intro writable earlier bytes later shape passed failed
    rw [sent writable, shape, sendAll_failure 0 earlier bytes later passed failed]
  · intro position bytes listed
    obtain ⟨bound, number⟩ := getElem?_initSequence listed
    have short : xboxone_init_packets.length = 22 := rfl
    exact ⟨by omega, number⟩
  · intro call made
    exact isOpen_sendInitBytes opened made

/-- A PDP pad with an endpoint of each direction. -/
def pdpPad : UsbDevice where
  interfaces := [{
    inEndpoints := (Vector.replicate _ none).setIfInBounds 0 (some ⟨64, .success⟩)
    outEndpoints := (Vector.replicate _ none).setIfInBounds 0 (some ⟨64, .success⟩) }]

/-- It is turned on, its LED goes on, and it refuses the first packet of its authentication. -/
theorem pdpPad_sequence :
    sendInitBytes 0x0e6f 0x02de
        (fun _ bytes => if bytes[0]? = some 0x06 then .writeFailed else .success) 0
        (BaseController.openInterfaces pdpPad {}).2 =
      (.writeFailed,
        writtenAndRead 0 [[0x05, 0x20, 1, 0x01, 0x00], [0x0a, 0x20, 2, 0x03, 0x00, 0x01, 0x14]] ++
          [.write 0 [0x06, 0xa0, 3, 0x00, 0x92, 0x02]]) :=
  (sendInitBytes_sequence 0x0e6f 0x02de _ pdpPad (by decide)).2.2.1 (by decide)
    [[0x05, 0x20, 1, 0x01, 0x00], [0x0a, 0x20, 2, 0x03, 0x00, 0x01, 0x14]]
    [0x06, 0xa0, 3, 0x00, 0x92, 0x02] [[0x06, 0x20, 4, 0x02, 0x01, 0x00]] (by decide) (by decide)
    (by decide)

end SysCon.XboxOneController
