import OpenVrrp.Socket

/-! What `sendPacket` builds, `onSocketPacket` accepts: the same router id, priority and
interval, and the same addresses in ascending order. -/
namespace OpenVrrp.VrrpSocket

variable {ι : Type}

def addressBytes (addresses : List IpAddress) : List UInt8 := addresses.flatMap IpAddress.data

theorem addressBytes_length {family : Family} {addresses : List IpAddress}
    (same : ∀ a ∈ addresses, a.family = family) :
    (addressBytes addresses).length = addresses.length * familySize family := by
  induction addresses with
  | nil => simp [addressBytes]
  | cons a rest ih =>
    have tail := ih fun b inside => same b (by simp [inside])
    simp only [addressBytes, List.flatMap_cons, List.length_append, List.length_cons] at tail ⊢
    rw [tail, a.sized, same a (by simp), Nat.succ_mul, Nat.add_comm]

theorem appendAddresses_slice {family : Family} {addresses : List IpAddress}
    (same : ∀ a ∈ addresses, a.family = family) (buffer : Memory.Cells) (ptr : Nat) :
    ∃ filled, appendAddresses family addresses buffer ptr = some filled ∧
      Memory.slice filled 0 (ptr + addresses.length * familySize family) =
        Memory.slice buffer 0 ptr ++ addressBytes addresses := by
  induction addresses generalizing buffer ptr with
  | nil => exact ⟨buffer, rfl, by simp [addressBytes]⟩
  | cons a rest ih =>
    have here := same a (by simp)
    have size : a.data.length = familySize family := by rw [a.sized, here]
    obtain ⟨filled, appended, bytes⟩ := ih (fun b inside => same b (by simp [inside]))
      (Memory.store buffer ptr a.data) (ptr + familySize family)
    refine ⟨filled, ?_, ?_⟩
    · rw [appendAddresses, if_neg (by simp [here]), appended]
    · rw [List.length_cons, Nat.succ_mul, Nat.add_comm (rest.length * _), ← Nat.add_assoc, bytes,
        ← size, Memory.slice_store_append, List.append_assoc]
      rfl

/-- The first six bytes of a packet. -/
def packetHeader (virtualRouterId priority : UInt8) (maxAdvertisementInterval count : Nat) :
    List UInt8 :=
  [0x31, virtualRouterId, priority, UInt8.ofNat count,
    UInt8.ofNat (maxAdvertisementInterval / 256 % 16),
    UInt8.ofNat (maxAdvertisementInterval % 256)]

/-- The sum of a packet with an empty checksum and of its pseudo-header. -/
def packetSum (pseudo header body : List UInt8) : Nat :=
  Util.wordSum pseudo + (Util.wordSum header + Util.wordSum body)

theorem familySize_even (family : Family) : familySize family % 2 = 0 := by
  cases family <;> rfl

theorem pseudoHeader_multicast {family : Family} {address : IpAddress} (size : Nat)
    (known : family ≠ .unspec) (same : address.family = family) :
    ∃ pseudo, Util.pseudoHeader size address (multicastAddress family) protocolVrrp =
      some pseudo := by
  cases family with
  | unspec => exact absurd rfl known
  | inet => exact ⟨_, if_pos ⟨same, rfl⟩⟩
  | inet6 =>
    exact ⟨_, by rw [Util.pseudoHeader, if_neg (by simp [same]), if_pos ⟨same, rfl⟩]⟩

theorem even_packet (family : Family) (count : Nat) :
    (8 + count * familySize family) / 2 * 2 = 8 + count * familySize family := by
  have even : count * familySize family % 2 = 0 := by
    rw [Nat.mul_mod, familySize_even, Nat.mul_zero, Nat.zero_mod]
  omega

/-- The packet before its checksum is known: two zero bytes hold the place. -/
theorem unsummed_slice {family : Family} {addresses : List IpAddress}
    (same : ∀ a ∈ addresses, a.family = family) (buffer : Memory.Cells) (header : List UInt8)
    (six : header.length = 6) :
    ∃ filled, appendAddresses family addresses (Memory.store buffer 0 (header ++ [0, 0])) 8 =
        some filled ∧
      Memory.slice filled 0 (8 + addresses.length * familySize family) =
        header ++ ([0, 0] ++ addressBytes addresses) := by
  obtain ⟨filled, appended, bytes⟩ := appendAddresses_slice same
    (Memory.store buffer 0 (header ++ [0, 0])) 8
  have eight : (header ++ [0, 0]).length = 8 := by simp [six]
  have front := Memory.slice_store buffer 0 (header ++ [0, 0])
  rw [eight] at front
  exact ⟨filled, appended, by rw [bytes, front, List.append_assoc]⟩

theorem unsummed_checksum {m : Memory.Cells} {size : Nat} {srcAddr dstAddr : IpAddress}
    {pseudo header body : List UInt8} (six : header.length = 6) (even : size / 2 * 2 = size)
    (small : size ≤ 65535)
    (made : Util.pseudoHeader size srcAddr dstAddr protocolVrrp = some pseudo)
    (bytes : Memory.slice m 0 size = header ++ ([0, 0] ++ body)) :
    (Util.checksum m 0 size srcAddr dstAddr protocolVrrp).value =
      OnesComplement.complement (packetSum pseudo header body) := by
  have zero : Util.wordSum [0, 0] = 0 := rfl
  rw [Util.checksum_value m 0 made small, even, bytes, Util.wordSum_append 3 six,
    Util.wordSum_append 1 rfl, zero, Nat.zero_add]
  rfl

/-- The packet as a byte string: header, checksum, addresses. -/
theorem sendPacket_slice (socket : VrrpSocket ι) (buffer : Memory.Cells) {address : IpAddress}
    (virtualRouterId priority : UInt8) (interval : Nat) {addresses : IpAddressSet}
    (known : socket.family ≠ .unspec) (own : address.family = socket.family)
    (same : ∀ a ∈ addresses.toList, a.family = socket.family)
    (small : 8 + addresses.size * familySize socket.family ≤ 65535) :
    ∃ packet pseudo,
      socket.sendPacket buffer address virtualRouterId priority interval addresses =
        some packet ∧
      packet.size = 8 + addresses.size * familySize socket.family ∧
      Util.pseudoHeader packet.size address (multicastAddress socket.family) protocolVrrp =
        some pseudo ∧
      Memory.slice packet.buffer 0 packet.size =
        packetHeader virtualRouterId priority interval addresses.size ++
        (Octets.encode 2 (OnesComplement.complement (packetSum pseudo
          (packetHeader virtualRouterId priority interval addresses.size)
          (addressBytes addresses.toList))) ++ addressBytes addresses.toList) := by
  have count : addresses.toList.length = addresses.size := Std.TreeSet.length_toList
  obtain ⟨pseudo, made⟩ := pseudoHeader_multicast
    (8 + addresses.size * familySize socket.family) known own
  obtain ⟨filled, appended, bytes⟩ := unsummed_slice same buffer
    (packetHeader virtualRouterId priority interval addresses.size) rfl
  rw [count] at bytes
  have sum := unsummed_checksum rfl (even_packet socket.family addresses.size) small made bytes
  have summed := Memory.slice_replace bytes (Octets.encode_length 2
    (OnesComplement.complement (packetSum pseudo
      (packetHeader virtualRouterId priority interval addresses.size)
      (addressBytes addresses.toList))))
  refine ⟨⟨_, _⟩, pseudo, ?_, rfl, made, summed⟩
  have header : [0x31, virtualRouterId, priority, UInt8.ofNat addresses.size,
      UInt8.ofNat (interval / 256 % 16), UInt8.ofNat (interval % 256), 0, 0] =
        packetHeader virtualRouterId priority interval addresses.size ++ [0, 0] := rfl
  simp only [sendPacket, if_neg (not_not.mpr own)]
  rw [header, appended]
  simp only [sum]
  rfl

/-! ### The receiver -/

/-- m_buffer holds an IP header of the family and behind it the payload. -/
def Carries : Family → Memory.Cells → List UInt8 → Prop
  | .inet, m, payload => ∃ ihl, 5 ≤ ihl ∧ ihl ≤ 15 ∧ upperNibble (m 0) = 4 ∧
      lowerNibble (m 0) = ihl ∧ Memory.slice m 2 2 = Octets.encode 2 (ihl * 4 + payload.length) ∧
      m 8 = 255 ∧ Memory.slice m (ihl * 4) payload.length = payload ∧
      ihl * 4 + payload.length ≤ packetCapacity
  | .inet6, m, payload => upperNibble (m 0) = 6 ∧
      Memory.slice m 4 2 = Octets.encode 2 payload.length ∧ m 6 = UInt8.ofNat protocolVrrp ∧
      m 7 = 255 ∧ Memory.slice m 40 payload.length = payload ∧
      40 + payload.length ≤ packetCapacity
  | .unspec, _, _ => False

/-- m_buffer holds an IP header of the family and, as long as it says, the payload. -/
def Arrives : Family → Memory.Cells → List UInt8 → Prop
  | .inet, m, payload => ∃ ihl, 5 ≤ ihl ∧ ihl ≤ 15 ∧ lowerNibble (m 0) = ihl ∧
      Memory.slice m 2 2 = Octets.encode 2 (ihl * 4 + payload.length) ∧
      Memory.slice m (ihl * 4) payload.length = payload
  | .inet6, m, payload => Memory.slice m 4 2 = Octets.encode 2 payload.length ∧
      m 6 = UInt8.ofNat protocolVrrp ∧ Memory.slice m 40 payload.length = payload
  | .unspec, _, _ => False

theorem Carries.arrives {family : Family} {m : Memory.Cells} {payload : List UInt8}
    (carries : Carries family m payload) : Arrives family m payload := by
  cases family with
  | unspec => exact carries
  | inet =>
    obtain ⟨ihl, least, most, _, nibble, total, _, bytes, _⟩ := carries
    exact ⟨ihl, least, most, nibble, total, bytes⟩
  | inet6 =>
    obtain ⟨_, total, next, _, bytes, _⟩ := carries
    exact ⟨total, next, bytes⟩

theorem readHeader_arrives {family : Family} {m : Memory.Cells} {payload : List UInt8}
    (arrives : Arrives family m payload) (short : payload.length ≤ packetCapacity) :
    ∃ start, (readHeader family m).value =
        some (start, (payload.length : Int), m (if family = .inet then 8 else 7)) ∧
      Memory.slice m start payload.length = payload := by
  have capacity : packetCapacity = 2048 := rfl
  cases family with
  | unspec => exact arrives.elim
  | inet =>
    obtain ⟨ihl, least, most, nibble, total, bytes⟩ := arrives
    refine ⟨ihl * 4, ?_, bytes⟩
    have length : Octets.value (Memory.slice m 2 2) = ihl * 4 + payload.length := by
      rw [total, Octets.value_encode]
      exact Nat.mod_eq_of_lt (by omega)
    simp only [readHeader, if_true, Reading.bind_value, Reading.byte_value, Reading.bytes_value,
      Reading.pure_value, nibble, length, Option.some.injEq, Prod.mk.injEq, and_true, true_and]
    push_cast
    omega
  | inet6 =>
    obtain ⟨total, next, bytes⟩ := arrives
    refine ⟨40, ?_, bytes⟩
    have length : Octets.value (Memory.slice m 4 2) = payload.length := by
      rw [total, Octets.value_encode]
      exact Nat.mod_eq_of_lt (by omega)
    have vrrp : (UInt8.ofNat protocolVrrp).toNat = protocolVrrp := rfl
    rw [readHeader, if_neg (by decide), if_neg (by decide)]
    simp only [Reading.bind_value, Reading.byte_value, Reading.bytes_value, next, vrrp, if_true,
      Reading.pure_value, length]

theorem Carries.hops {family : Family} {m : Memory.Cells} {payload : List UInt8}
    (carries : Carries family m payload) :
    m (if family = .inet then 8 else 7) = 255 ∧ payload.length ≤ packetCapacity := by
  cases family with
  | unspec => exact carries.elim
  | inet =>
    obtain ⟨ihl, _, _, _, _, _, ttl, _, room⟩ := carries
    exact ⟨ttl, by omega⟩
  | inet6 =>
    obtain ⟨_, _, _, hops, _, room⟩ := carries
    exact ⟨hops, by omega⟩

theorem readHeader_carries {family : Family} {m : Memory.Cells} {payload : List UInt8}
    (carries : Carries family m payload) :
    ∃ start, (readHeader family m).value = some (start, (payload.length : Int), 255) ∧
      Memory.slice m start payload.length = payload ∧ payload.length ≤ packetCapacity := by
  obtain ⟨hops, short⟩ := carries.hops
  obtain ⟨start, header, bytes⟩ := readHeader_arrives carries.arrives short
  rw [hops] at header
  exact ⟨start, header, bytes, short⟩

theorem readAddresses_slice {family : Family} {m : Memory.Cells} {addresses : List IpAddress}
    (same : ∀ a ∈ addresses, a.family = family) {ptr : Nat}
    (bytes : Memory.slice m ptr (addressBytes addresses).length = addressBytes addresses) :
    (readAddresses family m addresses.length ptr).value = addresses := by
  induction addresses generalizing ptr with
  | nil => rfl
  | cons a rest ih =>
    have here := same a (by simp)
    have size : a.data.length = familySize family := by rw [a.sized, here]
    have split : Memory.slice m ptr (a.data ++ addressBytes rest).length =
        a.data ++ addressBytes rest := bytes
    rw [List.length_append, Memory.slice_add] at split
    have first := List.append_inj_left split (by simp)
    have later := List.append_inj_right split (by simp)
    rw [size] at first later
    simp only [List.length_cons, readAddresses, Reading.bind_value, Reading.pure_value,
      ih (fun b inside => same b (by simp [inside])) later, List.cons.injEq, and_true]
    exact IpAddress.ext here.symm first

theorem interval_bytes {interval : Nat} (bounded : interval ≤ 4095) :
    lowerNibble (UInt8.ofNat (interval / 256 % 16)) * 256 +
      (UInt8.ofNat (interval % 256)).toNat = interval := by
  simp only [lowerNibble, UInt8.toNat_ofNat']
  omega

theorem find_listeners {listeners : Nested.Registry Int UInt8 ι} {interface : Int}
    {virtualRouterId : UInt8} {listener : ι}
    (registered : Nested.find listeners interface virtualRouterId = some listener) :
    ∃ inner, listeners[interface]? = some inner ∧ inner[virtualRouterId]? = some listener :=
  Option.bind_eq_some_iff.mp registered

/-- Filling in the checksum completes the sum over a packet and its pseudo-header. -/
theorem packetSum_complete (pseudo : List UInt8) {header : List UInt8} (six : header.length = 6)
    (body : List UInt8) :
    Util.wordSum pseudo + Util.wordSum (header ++ (Octets.encode 2 (OnesComplement.complement
        (packetSum pseudo header body)) ++ body)) =
      packetSum pseudo header body + OnesComplement.complement (packetSum pseudo header body) := by
  have word : Util.wordSum (Octets.encode 2 (OnesComplement.complement
      (packetSum pseudo header body))) = OnesComplement.complement
        (packetSum pseudo header body) := by
    change Octets.value (Octets.encode 2 _) + 0 = _
    rw [Octets.value_encode, Nat.add_zero]
    exact Nat.mod_eq_of_lt (OnesComplement.complement_lt _)
  rw [Util.wordSum_append 3 six, Util.wordSum_append 1 (by simp), word]
  generalize OnesComplement.complement (packetSum pseudo header body) = sum
  rw [packetSum]
  omega

theorem verifyChecksum_packet {d : Datagram} {start : Nat} {pseudo header body : List UInt8}
    (made : Util.pseudoHeader (8 + body.length) d.srcAddress d.dstAddress protocolVrrp =
      some pseudo)
    (six : header.length = 6) (even : body.length % 2 = 0) (small : 8 + body.length ≤ 65535)
    (bytes : Memory.slice d.buffer start (8 + body.length) =
      header ++
        (Octets.encode 2 (OnesComplement.complement (packetSum pseudo header body)) ++ body)) :
    (verifyChecksum d start ((8 + body.length : Nat) : Int)).value = 0 := by
  unfold verifyChecksum
  split
  · rfl
  · rw [Int.toNat_natCast, Util.checksum_value _ _ made small,
      show (8 + body.length) / 2 * 2 = 8 + body.length by omega, bytes,
      packetSum_complete pseudo six body]
    exact OnesComplement.complement_add_complement _

theorem receivePacket_packet {family : Family} {d : Datagram} {start : Nat}
    {check : List UInt8} (listeners : Std.TreeMap UInt8 ι) {listener : ι}
    {virtualRouterId priority : UInt8} {interval : Nat} {addresses : List IpAddress}
    (bounded : interval ≤ 4095) (count : addresses.length ≤ 255)
    (same : ∀ a ∈ addresses, a.family = family)
    (found : listeners[virtualRouterId]? = some listener) (two : check.length = 2)
    (verified : (verifyChecksum d start ((8 + (addressBytes addresses).length : Nat) : Int)).value
      = 0)
    (bytes : Memory.slice d.buffer start (8 + (addressBytes addresses).length) =
      packetHeader virtualRouterId priority interval addresses.length ++
        (check ++ addressBytes addresses)) :
    (receivePacket family d listeners start ((8 + (addressBytes addresses).length : Nat) : Int)
      255).value = ⟨true, [.onIncomingVrrpPacket listener d.interface d.srcAddress virtualRouterId
        priority ⟨interval, Nat.lt_succ_of_le bounded⟩ addresses], none⟩ := by
  have first : d.buffer start = 0x31 := Memory.slice_prefix bytes 0 (by simp [packetHeader])
  have router : d.buffer (start + 1) = virtualRouterId :=
    Memory.slice_prefix bytes 1 (by simp [packetHeader])
  have prio : d.buffer (start + 2) = priority :=
    Memory.slice_prefix bytes 2 (by simp [packetHeader])
  have number : d.buffer (start + 3) = UInt8.ofNat addresses.length :=
    Memory.slice_prefix bytes 3 (by simp [packetHeader])
  have high : d.buffer (start + 4) = UInt8.ofNat (interval / 256 % 16) :=
    Memory.slice_prefix bytes 4 (by simp [packetHeader])
  have low : d.buffer (start + 5) = UInt8.ofNat (interval % 256) :=
    Memory.slice_prefix bytes 5 (by simp [packetHeader])
  have few : (UInt8.ofNat addresses.length).toNat = addresses.length := by
    rw [UInt8.toNat_ofNat']
    omega
  have size : (addressBytes addresses).length = addresses.length * familySize family :=
    addressBytes_length same
  have long : ¬ ((8 + (addressBytes addresses).length : Nat) : Int) <
      8 + addresses.length * familySize family := by
    rw [size]
    push_cast
    omega
  have body : Memory.slice d.buffer (start + 8) (addressBytes addresses).length =
      addressBytes addresses := by
    rw [← List.append_assoc] at bytes
    have behind := Memory.slice_suffix bytes
    rwa [List.length_append, two] at behind
  have list := readAddresses_slice same body
  have short : ¬ ((8 + (addressBytes addresses).length : Nat) : Int) < 8 := by omega
  have version : ¬ upperNibble 0x31 ≠ 3 := by decide
  have type : ¬ lowerNibble 0x31 ≠ 1 := by decide
  simp only [receivePacket, if_neg short, Reading.bind_value, Reading.byte_value, first,
    if_neg version, verified, ne_eq, not_true_eq_false, if_false, if_neg type,
    receiveAdvertisement, router, prio, number, high, low, few, found, if_neg long, list,
    Reading.pure_value, interval_bytes bounded]

/-- What `sendPacket` builds for an advertisement, a peer with a listener delivers once, as
it was sent, with its addresses in ascending order and without an error. -/
theorem round_trip {κ : Type} (sender : VrrpSocket κ) (receiver : VrrpSocket ι)
    (scratch : Memory.Cells) (address : IpAddress) (virtualRouterId priority : UInt8)
    (interval : Nat) (addresses : IpAddressSet) (known : sender.family ≠ .unspec)
    (peer : receiver.family = sender.family) (own : address.family = sender.family)
    (bounded : interval ≤ 4095) (count : addresses.size ≤ 255)
    (same : ∀ a ∈ addresses, a.family = sender.family) :
    ∃ packet, sender.sendPacket scratch address virtualRouterId priority interval addresses =
        some packet ∧
      ∀ (d : Datagram) (listener : ι),
        Carries sender.family d.buffer (Memory.slice packet.buffer 0 packet.size) →
        d.srcAddress = address → d.dstAddress = multicastAddress sender.family →
        Nested.find receiver.listeners d.interface virtualRouterId = some listener →
        ∃ received, (receiver.onSocketPacket d).value = some ⟨true,
            [.onIncomingVrrpPacket listener d.interface address virtualRouterId priority
              ⟨interval, Nat.lt_succ_of_le bounded⟩ received], none⟩ ∧
          received.Pairwise (· < ·) ∧ ∀ a, a ∈ received ↔ a ∈ addresses := by
  have each : ∀ a ∈ addresses.toList, a.family = sender.family := fun a inside =>
    same a (Std.TreeSet.mem_toList.mp inside)
  have length : addresses.toList.length = addresses.size := Std.TreeSet.length_toList
  have small : 8 + addresses.size * familySize sender.family ≤ 65535 := by
    have := familySize_le sender.family
    have := Nat.mul_le_mul count this
    omega
  obtain ⟨packet, pseudo, sent, size, made, bytes⟩ := sendPacket_slice sender scratch
    virtualRouterId priority interval known own each small
  refine ⟨packet, sent, fun d listener carries source destination registered => ?_⟩
  have ascending : addresses.toList.Pairwise (· < ·) :=
    Std.TreeSet.ordered_toList.imp compare_lt_iff_lt.mp
  refine ⟨addresses.toList, ?_, ascending, fun a => Std.TreeSet.mem_toList⟩
  obtain ⟨start, header, payload, room⟩ := readHeader_carries carries
  rw [Memory.slice_length] at header payload
  obtain ⟨listeners, outer, inner⟩ := find_listeners registered
  have body : (addressBytes addresses.toList).length =
      addresses.size * familySize sender.family := by rw [addressBytes_length each, length]
  rw [size, ← body] at header made
  rw [bytes, size, ← body, ← length] at payload
  have passed : (verifyChecksum d start
      ((8 + (addressBytes addresses.toList).length : Nat) : Int)).value = 0 := by
    refine verifyChecksum_packet ?_ rfl ?_ (by rw [body]; exact small) payload
    · rw [source, destination]
      exact made
    · have := even_packet sender.family addresses.size
      omega
  have answer := receivePacket_packet listeners bounded (by omega) each inner
    (Octets.encode_length 2 _) passed payload
  simp only [onSocketPacket, outer, peer, Reading.bind_value, header, Reading.map_value, answer,
    source]

def ipv4Buffer (payload : List UInt8) : Memory.Cells :=
  Memory.store (fun _ => 0) 0 ([0x45, 0] ++ Octets.encode 2 (20 + payload.length) ++
    [0, 0, 0, 0, 255, 112, 0, 0, 0, 0, 0, 0, 0, 0, 0, 0] ++ payload)

theorem ipv4Buffer_carries {payload : List UInt8} (room : 20 + payload.length ≤ packetCapacity) :
    Carries .inet (ipv4Buffer payload) payload := by
  have whole := Memory.slice_store (fun _ => 0) 0 ([0x45, 0] ++
    Octets.encode 2 (20 + payload.length) ++
    [0, 0, 0, 0, 255, 112, 0, 0, 0, 0, 0, 0, 0, 0, 0, 0] ++ payload)
  have first : ipv4Buffer payload 0 = 0x45 := rfl
  refine ⟨5, by decide, by decide, by rw [first]; rfl, by rw [first]; rfl, rfl, rfl, ?_, room⟩
  exact Memory.slice_suffix whole

theorem round_trip_sample : ∃ packet,
    sendPacket (ι := Unit) ⟨.inet, ∅, ∅⟩ (fun _ => 0) (.sample 1) 51 100 100
      ((∅ : IpAddressSet).insert (.sample 100)) = some packet ∧
    ∃ received, (onSocketPacket ⟨.inet, Nested.put ∅ 2 51 (), ∅⟩
        ⟨ipv4Buffer (Memory.slice packet.buffer 0 packet.size), 2, .sample 1,
          multicastAddress .inet⟩).value =
      some ⟨true, [.onIncomingVrrpPacket () 2 (.sample 1) 51 100 100 received], none⟩ ∧
      received.Pairwise (· < ·) ∧
      ∀ a, a ∈ received ↔ a ∈ (∅ : IpAddressSet).insert (.sample 100) := by
  have ⟨packet, sent, delivered⟩ := round_trip (κ := Unit) (ι := Unit) ⟨.inet, ∅, ∅⟩
    ⟨.inet, Nested.put ∅ 2 51 (), ∅⟩ (fun _ => 0) (.sample 1) 51 100 100
    ((∅ : IpAddressSet).insert (.sample 100)) (by decide) rfl rfl (by decide) (by decide)
    (fun a inside => by
      rw [Std.TreeSet.mem_insert] at inside
      rcases inside with same | absent
      · rw [← compare_eq_iff_eq.mp same]
        rfl
      · simp at absent)
  refine ⟨packet, sent, ?_⟩
  have size : packet.size = 12 := by
    have decided : ((sendPacket (ι := Unit) ⟨.inet, ∅, ∅⟩ (fun _ => 0) (.sample 1) 51 100 100
      ((∅ : IpAddressSet).insert (.sample 100))).map Packet.size) = some 12 := by decide
    rw [sent, Option.map_some, Option.some.injEq] at decided
    exact decided
  exact delivered ⟨ipv4Buffer (Memory.slice packet.buffer 0 packet.size), 2, .sample 1,
    multicastAddress .inet⟩ () (ipv4Buffer_carries (by simp [size, packetCapacity])) rfl rfl
    (Nested.find_put_self _ _ _ _)

end OpenVrrp.VrrpSocket
