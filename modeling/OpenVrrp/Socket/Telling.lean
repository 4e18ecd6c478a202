import OpenVrrp.Socket.Corruption

/-! What a listener is told: errors, or what stands in a packet that passed every check. -/
namespace OpenVrrp

namespace Call

variable {ι : Type}

def listener : Call ι → ι
  | .onIncomingVrrpPacket listener .. | .onIncomingVrrpError listener .. => listener

/-- One of the errors, or an advertisement of the datagram from the place of its packet on. -/
inductive Tells (listeners : Std.TreeMap UInt8 ι) (d : Datagram) (start : Nat) (size : Int)
    (ttl : UInt8) : Call ι → Prop where
  | error {listener : ι} {interface : Int} {virtualRouterId : UInt8} {error : ListenerError} :
      Tells listeners d start size ttl
        (.onIncomingVrrpError listener interface virtualRouterId error)
  | packet {listener : ι} {interval : WireInterval} {addresses : List IpAddress}
      (registered : listeners[d.buffer (start + 1)]? = some listener) (near : ttl = 255)
      (verified : (VrrpSocket.verifyChecksum d start size).value = 0) :
      Tells listeners d start size ttl (.onIncomingVrrpPacket listener d.interface d.srcAddress
        (d.buffer (start + 1)) (d.buffer (start + 2)) interval addresses)

end Call

namespace VrrpSocket

variable {ι : Type} {listeners : Std.TreeMap UInt8 ι} {d : Datagram} {start : Nat} {size : Int}
  {ttl : UInt8}

theorem notifyAll_tells (interface : Int) (error : ListenerError) :
    ∀ call ∈ notifyAll listeners interface error, call.Tells listeners d start size ttl := by
  intro call inside
  obtain ⟨entry, _, rfl⟩ := List.mem_map.mp inside
  exact .error

theorem notify_tells (interface : Int) (virtualRouterId : UInt8) (error : ListenerError) :
    ∀ call ∈ notify listeners interface virtualRouterId error,
      call.Tells listeners d start size ttl := by
  intro call inside
  unfold notify at inside
  split at inside
  · rw [List.mem_singleton.mp inside]
    exact .error
  · cases inside

theorem receivePacket_tells (family : Family) :
    ∀ call ∈ (receivePacket family d listeners start size ttl).value.calls,
      call.Tells listeners d start size ttl := by
  have none : ∀ call ∈ ([] : List (Call ι)), call.Tells listeners d start size ttl :=
    fun call inside => absurd inside List.not_mem_nil
  have one : ∀ {call : Call ι}, call.Tells listeners d start size ttl →
      ∀ other ∈ [call], other.Tells listeners d start size ttl :=
    fun tells other inside => List.mem_singleton.mp inside ▸ tells
  unfold receivePacket
  split
  · exact notifyAll_tells _ _
  rw [Reading.bind_value]
  split
  · split
    · exact notify_tells _ _ _
    · exact none
  rw [Reading.bind_value]
  split
  · exact none
  rename_i verified
  split
  · exact notifyAll_tells _ _
  rw [receiveAdvertisement, Reading.bind_value, Reading.bind_value, Reading.bind_value,
    Reading.bind_value, Reading.bind_value, Reading.byte_value d.buffer (start + 1),
    Reading.byte_value d.buffer (start + 2)]
  cases registered : listeners[d.buffer (start + 1)]? with
  | none => exact notifyAll_tells _ _
  | some listener =>
    dsimp only
    split
    · exact one .error
    rename_i near
    split
    · exact one .error
    · exact one (.packet registered (not_not.mp near) (not_not.mp verified))

theorem onSocketPacket_tells {socket : VrrpSocket ι} {handled : Handled ι}
    (result : (socket.onSocketPacket d).value = some handled) :
    ∀ call ∈ handled.calls, ∃ listeners start size ttl,
      socket.listeners[d.interface]? = some listeners ∧
      (readHeader socket.family d.buffer).value = some (start, size, ttl) ∧
      call.Tells listeners d start size ttl := by
  intro call inside
  unfold onSocketPacket at result
  cases outer : socket.listeners[d.interface]? with
  | none =>
    rw [outer] at result
    cases result
    cases inside
  | some listeners =>
    rw [outer, Reading.bind_value] at result
    cases header : (readHeader socket.family d.buffer).value with
    | none =>
      rw [header] at result
      cases result
    | some found =>
      obtain ⟨start, size, ttl⟩ := found
      rw [header] at result
      dsimp only at result
      rw [Reading.map_value, Option.some.injEq] at result
      subst result
      exact ⟨listeners, start, size, ttl, rfl, rfl, receivePacket_tells _ call inside⟩

/-- One byte changed, and the sum does not verify. -/
theorem verifyChecksum_damaged {κ : Type} {sender : VrrpSocket κ} {buffer : Memory.Cells}
    {address : IpAddress} {virtualRouterId priority : UInt8} {interval : Nat}
    {addresses : IpAddressSet} {packet : Packet} (known : sender.family ≠ .unspec)
    (sent : sender.sendPacket buffer address virtualRouterId priority interval addresses =
      some packet) (fits : packet.size ≤ packetCapacity) {place : Nat}
    (inside : place < packet.size) {b : UInt8} (other : b ≠ packet.buffer place)
    (source : d.srcAddress = address) (destination : d.dstAddress = multicastAddress sender.family)
    (bytes : Memory.slice d.buffer start packet.size =
      (Memory.slice packet.buffer 0 packet.size).set place b) :
    (verifyChecksum d start packet.size).value ≠ 0 := by
  obtain ⟨pseudo, made, even, complete⟩ := sendPacket_sum known sent fits
  have capacity : packetCapacity = 2048 := rfl
  have addressed : d.dstAddress.family ≠ .unspec := by
    rw [destination]
    cases family : sender.family <;> first | exact absurd family known | decide
  rw [← source, ← destination] at made
  rw [verifyChecksum, if_neg addressed, Int.toNat_natCast,
    Util.checksum_value _ _ made (by omega), even, bytes]
  have balance := Util.wordSum_set (Memory.slice packet.buffer 0 packet.size) place
    (by rw [Memory.slice_length, even]; exact inside) b
  rw [Memory.slice_getElem? _ _ _ _ inside, Option.getD_some, Nat.zero_add] at balance
  refine Util.checksum_changed place complete ⟨(packet.buffer place).toNat_lt, b.toNat_lt⟩
    (fun same => other (UInt8.toNat_inj.mp same).symm) ?_
  rw [Nat.add_assoc, balance, Nat.add_assoc]

/-- What sendPacket built, as the bytes on the wire. -/
theorem sent_bytes {socket : VrrpSocket ι} {buffer : Memory.Cells} {address : IpAddress}
    {virtualRouterId priority : UInt8} {interval : Nat} {addresses : IpAddressSet}
    {packet : Packet} (known : socket.family ≠ .unspec)
    (sent : socket.sendPacket buffer address virtualRouterId priority interval addresses =
      some packet) (few : addresses.size ≤ 255) :
    address.family = socket.family ∧ (∀ a ∈ addresses.toList, a.family = socket.family) ∧
    packet.size = 8 + addresses.size * familySize socket.family ∧
    ∃ pseudo, Util.pseudoHeader packet.size address (multicastAddress socket.family)
        protocolVrrp = some pseudo ∧
      Memory.slice packet.buffer 0 packet.size =
        packetHeader virtualRouterId priority interval addresses.size ++
        (Octets.encode 2 (OnesComplement.complement (packetSum pseudo
          (packetHeader virtualRouterId priority interval addresses.size)
          (addressBytes addresses.toList))) ++ addressBytes addresses.toList) := by
  have own : address.family = socket.family := by
    by_contra other
    rw [sendPacket, if_pos other] at sent
    cases sent
  have same : ∀ a ∈ addresses.toList, a.family = socket.family := by
    rw [sendPacket, if_neg (not_not.mpr own)] at sent
    dsimp only at sent
    split at sent
    · cases sent
    · rename_i appended
      exact appendAddresses_same appended
  have small : 8 + addresses.size * familySize socket.family ≤ 65535 := by
    have bound := Nat.mul_le_mul few (familySize_le socket.family)
    omega
  obtain ⟨built, pseudo, again, size, made, bytes⟩ := sendPacket_slice socket buffer
    virtualRouterId priority interval known own same small
  cases sent.symm.trans again
  exact ⟨own, same, size, pseudo, made, bytes⟩

/-- A datagram that carries the packet delivers it to the listener of its router. -/
theorem onSocketPacket_sent {κ : Type} {sender : VrrpSocket κ} {receiver : VrrpSocket ι}
    {buffer : Memory.Cells} {address : IpAddress} {virtualRouterId priority : UInt8}
    {interval : Nat} {addresses : IpAddressSet} {packet : Packet} {listener : ι}
    (known : sender.family ≠ .unspec) (peer : receiver.family = sender.family)
    (sent : sender.sendPacket buffer address virtualRouterId priority interval addresses =
      some packet) (bounded : interval ≤ 4095) (few : addresses.size ≤ 255)
    (source : d.srcAddress = address) (destination : d.dstAddress = multicastAddress sender.family)
    (carries : Carries sender.family d.buffer (Memory.slice packet.buffer 0 packet.size))
    (registered : Nested.find receiver.listeners d.interface virtualRouterId = some listener) :
    (receiver.onSocketPacket d).value = some ⟨true,
      [.onIncomingVrrpPacket listener d.interface address virtualRouterId priority
        ⟨interval, Nat.lt_succ_of_le bounded⟩ addresses.toList], none⟩ := by
  obtain ⟨own, same, size, pseudo, made, bytes⟩ := sent_bytes known sent few
  have length : addresses.toList.length = addresses.size := Std.TreeSet.length_toList
  have body : (addressBytes addresses.toList).length =
      addresses.size * familySize sender.family := by rw [addressBytes_length same, length]
  obtain ⟨start, header, payload, room⟩ := readHeader_carries carries
  obtain ⟨listeners, outer, inner⟩ := find_listeners registered
  rw [Memory.slice_length] at header payload room
  rw [size, ← body] at header made room
  rw [bytes, size, ← body, ← length] at payload
  have capacity : packetCapacity = 2048 := rfl
  have passed : (verifyChecksum d start
      ((8 + (addressBytes addresses.toList).length : Nat) : Int)).value = 0 := by
    refine verifyChecksum_packet ?_ rfl ?_ (by omega) payload
    · rw [source, destination]
      exact made
    · have even := even_packet sender.family addresses.size
      omega
  have answer := receivePacket_packet listeners bounded (by omega) same inner
    (Octets.encode_length 2 _) passed payload
  simp only [onSocketPacket, outer, peer, Reading.bind_value, header, Reading.map_value, answer,
    source]

end VrrpSocket

end OpenVrrp
