import OpenVrrp.Socket

/-! The control messages that `recvmsg` delivers, in the layout of a 64-bit little-endian
machine. The loop of decodeControlMessage counts the records down and never moves on: what it
looks at, again and again, is the first one. -/
namespace OpenVrrp

/-- `sizeof(cmsghdr)`. -/
def controlHeader : Nat := 16

/-- A record with the bytes that fill it up to the next multiple of eight. -/
structure ControlMessage where
  level : UInt32
  type : UInt32
  data : List UInt8
  padding : List UInt8
  aligned : (data.length + padding.length) % 8 = 0
  tight : padding.length < 8

namespace ControlMessage

/-- `cmsg_len`. -/
def length (r : ControlMessage) : Nat := controlHeader + r.data.length

def bytes (r : ControlMessage) : List UInt8 :=
  Octets.encodeLE 8 r.length ++ (Octets.encodeLE 4 r.level.toNat ++
    (Octets.encodeLE 4 r.type.toNat ++ (r.data ++ r.padding)))

end ControlMessage

/-- The interface and the destination address of a packet. -/
abbrev PacketInfo := Int × IpAddress

/-- Level and type of a packet info: `SOL_IP` with `IP_PKTINFO`, `SOL_IPV6` with
`IPV6_PKTINFO`. -/
def packetInfoType : Family → Option (Nat × Nat)
  | .inet => some (0, 8)
  | .inet6 => some (41, 50)
  | .unspec => none

/-- `sizeof(in_pktinfo)` and `sizeof(in6_pktinfo)`. -/
def packetInfoSize : Family → Nat
  | .inet => 12
  | .inet6 => 20
  | .unspec => 0

/-- The fields of an `in_pktinfo` or an `in6_pktinfo` at an offset. -/
def readPacketInfo (family : Family) (m : Memory.Cells) (offset : Nat) : PacketInfo :=
  if family = .inet then
    (wrapInt (Octets.valueLE (Memory.slice m offset 4)), IpAddress.load m (offset + 8) .inet)
  else
    (wrapInt (Octets.valueLE (Memory.slice m (offset + 16) 4)), IpAddress.load m offset .inet6)

namespace VrrpSocket

/-! ### decodeControlMessage -/

/-- The loop at `ptr`; both families ask for the size of an `in_pktinfo`. -/
def decodeRecords (family : Family) (m : Memory.Cells) (ptr remaining : Nat)
    (info : PacketInfo) : PacketInfo :=
  if controlHeader ≤ remaining then
    let length := Octets.valueLE (Memory.slice m ptr 8)
    let level := Octets.valueLE (Memory.slice m (ptr + 8) 4)
    let type := Octets.valueLE (Memory.slice m (ptr + 12) 4)
    if length < controlHeader ∨ remaining < length then info
    else
      let info :=
        if family = .inet ∧ level = 0 ∧ type = 8 ∧ controlHeader + 12 ≤ length then
          readPacketInfo .inet m (ptr + controlHeader)
        else if family = .inet6 ∧ level = 41 ∧ type = 50 ∧ controlHeader + 12 ≤ length then
          readPacketInfo .inet6 m (ptr + controlHeader)
        else info
      decodeRecords family m ptr (remaining - length) info
  else info
termination_by remaining
decreasing_by
  simp only [controlHeader] at *
  omega

/-- What is left of the buffer is an unsigned 32-bit number. -/
def decodeControlMessage (family : Family) (m : Memory.Cells) (controllen : Nat)
    (info : PacketInfo) : PacketInfo :=
  decodeRecords family m 0 (controllen % 2 ^ 32) info

/-! ### One record after the other -/

/-- The packet info of the family that a record carries. -/
def carried (family : Family) (r : ControlMessage) : Option PacketInfo :=
  if packetInfoType family = some (r.level.toNat, r.type.toNat) ∧
      packetInfoSize family ≤ r.data.length then
    some (readPacketInfo family (Memory.store (fun _ => 0) 0 r.data) 0)
  else none

/-- The walk over all records: the last packet info wins. -/
def examine (family : Family) (records : List ControlMessage) (info : PacketInfo) : PacketInfo :=
  records.foldl (fun info r => (carried family r).getD info) info

def lastCarried (family : Family) (records : List ControlMessage) : Option PacketInfo :=
  (records.filterMap (carried family)).getLast?

theorem examine_eq (family : Family) (records : List ControlMessage) (info : PacketInfo) :
    examine family records info = (lastCarried family records).getD info := by
  unfold examine lastCarried
  induction records generalizing info with
  | nil => rfl
  | cons r rest ih =>
    rw [List.foldl_cons, ih, List.filterMap_cons]
    cases carried family r with
    | none => rfl
    | some found =>
      dsimp only [Option.getD_some]
      rw [List.getLast?_cons]
      cases (rest.filterMap (carried family)).getLast? <;> rfl

/-! ### What the loop looks at -/

/-- What the loop takes from the first record. Twelve bytes of data are enough for it, although
an `in6_pktinfo` is longer. -/
def firstTaken (family : Family) (m : Memory.Cells) : List ControlMessage → Option PacketInfo
  | [] => none
  | r :: _ =>
    if packetInfoType family = some (r.level.toNat, r.type.toNat) ∧ 12 ≤ r.data.length then
      some (readPacketInfo family m controlHeader)
    else none

/-- m_controlBuffer holds the records, each at a multiple of eight. -/
def LaidOut (m : Memory.Cells) (records : List ControlMessage) : Prop :=
  Memory.slice m 0 (records.flatMap ControlMessage.bytes).length =
    records.flatMap ControlMessage.bytes

structure Begins (m : Memory.Cells) (r : ControlMessage) : Prop where
  length : Octets.valueLE (Memory.slice m 0 8) = r.length
  level : Octets.valueLE (Memory.slice m 8 4) = r.level.toNat
  type : Octets.valueLE (Memory.slice m 12 4) = r.type.toNat
  data : Memory.slice m controlHeader r.data.length = r.data

theorem ControlMessage.length_le (r : ControlMessage) (rest : List ControlMessage) :
    r.length ≤ ((r :: rest).flatMap ControlMessage.bytes).length := by
  simp only [List.flatMap_cons, ControlMessage.bytes, ControlMessage.length, controlHeader,
    List.length_append, Octets.encodeLE_length]
  omega

theorem begins_of_laidOut {m : Memory.Cells} {r : ControlMessage} {rest : List ControlMessage}
    (laid : LaidOut m (r :: rest))
    (small : ((r :: rest).flatMap ControlMessage.bytes).length < 2 ^ 32) : Begins m r := by
  have short : r.length < 2 ^ 32 := (ControlMessage.length_le r rest).trans_lt small
  unfold LaidOut at laid
  generalize ((r :: rest).flatMap ControlMessage.bytes).length = count at laid
  rw [List.flatMap_cons] at laid
  generalize rest.flatMap ControlMessage.bytes = behind at laid
  simp only [ControlMessage.bytes, List.append_assoc] at laid
  have length := Memory.slice_middle (laid.trans (List.nil_append _).symm)
  have level := Memory.slice_middle laid
  rw [← List.append_assoc] at laid
  have type := Memory.slice_middle laid
  rw [← List.append_assoc] at laid
  have data := Memory.slice_middle laid
  simp only [List.length_nil, List.length_append, Octets.encodeLE_length, Nat.zero_add]
    at length level type data
  refine ⟨?_, ?_, ?_, data⟩
  · rw [length, Octets.valueLE_encodeLE]
    exact Nat.mod_eq_of_lt (short.trans (by decide))
  · rw [level, Octets.valueLE_encodeLE]
    exact Nat.mod_eq_of_lt r.level.toNat_lt
  · rw [type, Octets.valueLE_encodeLE]
    exact Nat.mod_eq_of_lt r.type.toNat_lt

theorem taken_eq (family : Family) (m : Memory.Cells) (r : ControlMessage)
    (rest : List ControlMessage) (info : PacketInfo) :
    (if family = .inet ∧ r.level.toNat = 0 ∧ r.type.toNat = 8 ∧
          controlHeader + 12 ≤ r.length then readPacketInfo .inet m controlHeader
      else if family = .inet6 ∧ r.level.toNat = 41 ∧ r.type.toNat = 50 ∧
          controlHeader + 12 ≤ r.length then readPacketInfo .inet6 m controlHeader
      else info) = (firstTaken family m (r :: rest)).getD info := by
  have size : controlHeader + 12 ≤ r.length ↔ 12 ≤ r.data.length := Nat.add_le_add_iff_left
  cases family with
  | unspec => simp [firstTaken, packetInfoType]
  | inet =>
    simp only [true_and, reduceCtorEq, false_and, if_false, size, firstTaken, packetInfoType,
      Option.some.injEq, Prod.mk.injEq, eq_comm, and_assoc]
    split <;> rfl
  | inet6 =>
    simp only [true_and, reduceCtorEq, false_and, if_false, size, firstTaken, packetInfoType,
      Option.some.injEq, Prod.mk.injEq, eq_comm, and_assoc]
    split <;> rfl

/-- The loop ends after some rounds, each of which takes the same from the first record. -/
theorem decodeRecords_eq (family : Family) {m : Memory.Cells} {r : ControlMessage}
    (rest : List ControlMessage) (begins : Begins m r) (remaining : Nat) (info : PacketInfo) :
    decodeRecords family m 0 remaining info =
      if r.length ≤ remaining then (firstTaken family m (r :: rest)).getD info else info := by
  have least : controlHeader ≤ r.length := Nat.le_add_right _ _
  have positive : 0 < controlHeader := by decide
  induction remaining using Nat.strongRecOn generalizing info with
  | ind remaining ih =>
    rw [decodeRecords]
    simp only [Nat.zero_add, begins.length, begins.level, begins.type, taken_eq family m r rest]
    by_cases complete : r.length ≤ remaining
    · rw [if_pos (least.trans complete), if_neg (by omega), if_pos complete,
        ih (remaining - r.length) (by omega)]
      cases firstTaken family m (r :: rest) <;> simp
    · rw [if_neg complete]
      split
      · rw [if_pos (by omega)]
      · rfl

theorem readPacketInfo_congr {family : Family} (known : family ≠ .unspec) {m n : Memory.Cells}
    {p q : Nat} (same : ∀ i < packetInfoSize family, m (p + i) = n (q + i)) :
    readPacketInfo family m p = readPacketInfo family n q := by
  have field : ∀ offset count, offset + count ≤ packetInfoSize family →
      Memory.slice m (p + offset) count = Memory.slice n (q + offset) count := by
    intro offset count room
    apply Memory.slice_relocate
    intro i inside
    rw [Nat.add_assoc, Nat.add_assoc]
    exact same _ (by omega)
  cases family with
  | unspec => exact absurd rfl known
  | inet =>
    have interface : Memory.slice m p 4 = Memory.slice n q 4 := field 0 4 (by decide)
    have address : IpAddress.load m (p + 8) .inet = IpAddress.load n (q + 8) .inet :=
      IpAddress.ext rfl (field 8 4 (by decide))
    simp only [readPacketInfo, if_true, interface, address]
  | inet6 =>
    have interface := field 16 4 (by decide)
    have address : IpAddress.load m p .inet6 = IpAddress.load n q .inet6 :=
      IpAddress.ext rfl (field 0 16 (by decide))
    simp only [readPacketInfo, reduceCtorEq, if_false, interface, address]

/-- Unless the first record is cut inside an `in6_pktinfo`, the loop takes what it carries. -/
theorem firstTaken_eq {family : Family} {m : Memory.Cells} {r : ControlMessage}
    (rest : List ControlMessage) (begins : Begins m r)
    (whole : r.data.length < 12 ∨ packetInfoSize family ≤ r.data.length) :
    firstTaken family m (r :: rest) = carried family r := by
  rw [firstTaken, carried]
  by_cases named : packetInfoType family = some (r.level.toNat, r.type.toNat)
  · have known : family ≠ .unspec := by
      rintro rfl
      cases named
    have least : 12 ≤ packetInfoSize family := by
      cases family <;> first | exact absurd rfl known | decide
    rcases whole with short | long
    · rw [if_neg fun taken => absurd taken.2 (by omega),
        if_neg fun taken => absurd taken.2 (by omega)]
    · rw [if_pos ⟨named, by omega⟩, if_pos ⟨named, long⟩]
      refine congrArg some (readPacketInfo_congr known fun i inside => ?_)
      exact Memory.slice_at (begins.data.trans (Memory.slice_store _ 0 _).symm) i (by omega)
  · rw [if_neg fun taken => named taken.1, if_neg fun taken => named taken.1]

theorem getD_inj {a b : Option PacketInfo} : (∀ info, a.getD info = b.getD info) ↔ a = b := by
  refine ⟨fun same => ?_, fun same _ => by rw [same]⟩
  have apart : ∀ x : PacketInfo, x ≠ (x.1 + 1, x.2) := fun x equal => by
    have := congrArg Prod.fst equal
    dsimp only at this
    omega
  cases a with
  | none =>
    cases b with
    | none => rfl
    | some y => exact absurd (same (y.1 + 1, y.2)).symm (apart y)
  | some x =>
    cases b with
    | none => exact absurd (same (x.1 + 1, x.2)) (apart x)
    | some y => exact congrArg some (same x)

/-- Whatever comes behind the first record, the loop takes the packet info of the first one. -/
theorem decodeControlMessage_eq (family : Family) {m : Memory.Cells} {records : List ControlMessage}
    (laid : LaidOut m records) (small : (records.flatMap ControlMessage.bytes).length < 2 ^ 32)
    (info : PacketInfo) :
    decodeControlMessage family m (records.flatMap ControlMessage.bytes).length info =
      (firstTaken family m records).getD info := by
  rw [decodeControlMessage, Nat.mod_eq_of_lt small]
  cases records with
  | nil =>
    rw [decodeRecords, if_neg (by decide)]
    rfl
  | cons r rest =>
    rw [decodeRecords_eq family rest (begins_of_laidOut laid small),
      if_pos (ControlMessage.length_le r rest)]

/-- In terms of the records: the first one carries the last packet info of the family, unless
it is cut inside an `in6_pktinfo`. -/
theorem examined_iff_carried {family : Family} {m : Memory.Cells} {r : ControlMessage}
    {rest : List ControlMessage} (laid : LaidOut m (r :: rest))
    (small : ((r :: rest).flatMap ControlMessage.bytes).length < 2 ^ 32)
    (whole : r.data.length < 12 ∨ packetInfoSize family ≤ r.data.length) :
    (∀ info, decodeControlMessage family m ((r :: rest).flatMap ControlMessage.bytes).length info =
        examine family (r :: rest) info) ↔
      carried family r = lastCarried family (r :: rest) := by
  rw [← getD_inj, ← firstTaken_eq rest (begins_of_laidOut laid small) whole]
  apply forall_congr'
  intro info
  rw [examine_eq, decodeControlMessage_eq family laid small]

/-- For every state before it, decodeControlMessage does what a walk over the records does if
and only if what it takes from the first record is what the last packet info of the family
says. -/
theorem control_examined_iff (family : Family) (m : Memory.Cells) (records : List ControlMessage)
    (laid : LaidOut m records)
    (small : (records.flatMap ControlMessage.bytes).length < 2 ^ 32) :
    (∀ info, decodeControlMessage family m (records.flatMap ControlMessage.bytes).length info =
        examine family records info) ↔
      firstTaken family m records = lastCarried family records := by
  rw [← getD_inj]
  apply forall_congr'
  intro info
  rw [examine_eq, decodeControlMessage_eq family laid small]

def ttlRecord : ControlMessage := ⟨0, 2, [255, 0, 0, 0], [0, 0, 0, 0], by decide, by decide⟩

/-- Received on interface 2 for 224.0.0.18. -/
def infoRecord : ControlMessage :=
  ⟨0, 8, [2, 0, 0, 0, 192, 0, 2, 1, 224, 0, 0, 18], [0, 0, 0, 0], by decide, by decide⟩

def controlBuffer (records : List ControlMessage) : Memory.Cells :=
  Memory.store (fun _ => 0) 0 (records.flatMap ControlMessage.bytes)

theorem controlBuffer_laidOut (records : List ControlMessage) :
    LaidOut (controlBuffer records) records := Memory.slice_store _ _ _

theorem control_examined_sample :
    decodeControlMessage .inet (controlBuffer [infoRecord, ttlRecord])
        ([infoRecord, ttlRecord].flatMap ControlMessage.bytes).length (0, .unspec) =
      examine .inet [infoRecord, ttlRecord] (0, .unspec) :=
  (control_examined_iff .inet _ _ (controlBuffer_laidOut _) (by decide)).mpr (by decide) _

/-- A packet info behind another record is not found. -/
theorem second_record_missed :
    LaidOut (controlBuffer [ttlRecord, infoRecord]) [ttlRecord, infoRecord] ∧
    decodeControlMessage .inet (controlBuffer [ttlRecord, infoRecord])
        ([ttlRecord, infoRecord].flatMap ControlMessage.bytes).length (0, .unspec) ≠
      examine .inet [ttlRecord, infoRecord] (0, .unspec) := by
  have laid := controlBuffer_laidOut [ttlRecord, infoRecord]
  refine ⟨laid, ?_⟩
  have begins := begins_of_laidOut laid (by decide)
  rw [decodeControlMessage, decodeRecords_eq .inet [infoRecord] begins]
  decide

end VrrpSocket

end OpenVrrp
