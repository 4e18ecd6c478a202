import OpenVrrp.Socket.Acceptance
import OpenVrrp.Socket.RoundTrip

/-! A packet of `sendPacket` of which one byte was changed on the way. A byte counts once or 256
times in the sum of words, and no multiple of 65535 lies that close to another. -/
namespace OpenVrrp

namespace Util

def weight (place : Nat) : Nat := if place % 2 = 0 then 256 else 1

/-- What one byte adds to the sum of words. -/
theorem wordSum_set (bytes : List UInt8) (place : Nat) (inside : place < bytes.length / 2 * 2)
    (b : UInt8) : wordSum (bytes.set place b) + weight place * (bytes[place]?.getD 0).toNat =
      wordSum bytes + weight place * b.toNat := by
  induction bytes using wordSum.induct generalizing place with
  | case1 hi lo rest ih =>
    rcases place with _ | _ | place
    · simp [wordSum, weight]
      omega
    · simp [wordSum, weight]
      omega
    · have later := ih place (by simp only [List.length_cons] at inside; omega)
      have same : weight (place + 2) = weight place := by simp [weight]
      simp only [List.set_cons_succ, wordSum, List.getElem?_cons_succ, same]
      omega
  | case2 bytes short =>
    rcases bytes with _ | ⟨_, _ | ⟨_, _⟩⟩
    · simp at inside
    · simp at inside
    · exact absurd rfl (short _ _ _)

theorem checksum_changed (place : Nat) {sum changed old new : Nat} (verified : sum % 65535 = 0)
    (small : old < 256 ∧ new < 256) (other : old ≠ new)
    (balance : changed + weight place * old = sum + weight place * new) :
    OnesComplement.complement changed ≠ 0 := by
  rw [Ne, OnesComplement.complement_eq_zero]
  unfold weight at balance
  split at balance <;> omega

end Util

namespace VrrpSocket

variable {ι : Type}

theorem receivePacket_mismatch (family : Family) {d : Datagram} (listeners : Std.TreeMap UInt8 ι)
    {start : Nat} {size : Int} (ttl : UInt8) (wrong : (verifyChecksum d start size).value ≠ 0) :
    Call.deliveredTo (receivePacket family d listeners start size ttl).value.calls = [] := by
  unfold receivePacket
  split
  · exact deliveredTo_notifyAll _ _ _
  · rw [Reading.bind_value]
    split
    · split
      · exact deliveredTo_notify _ _ _ _
      · rfl
    · rw [Reading.bind_value, if_pos wrong]
      rfl

theorem appendAddresses_same {family : Family} {addresses : List IpAddress}
    {buffer filled : Memory.Cells} {ptr : Nat}
    (appended : appendAddresses family addresses buffer ptr = some filled) :
    ∀ a ∈ addresses, a.family = family := by
  induction addresses generalizing buffer ptr with
  | nil => exact fun a inside => absurd inside List.not_mem_nil
  | cons a rest ih =>
    rw [appendAddresses] at appended
    split at appended
    · cases appended
    · rename_i own
      intro b inside
      rcases List.mem_cons.mp inside with rfl | inside
      · exact not_not.mp own
      · exact ih appended b inside

/-- What is sent has one family throughout, and its sum is complete. -/
theorem sendPacket_sum {socket : VrrpSocket ι} {buffer : Memory.Cells} {address : IpAddress}
    {virtualRouterId priority : UInt8} {interval : Nat} {addresses : IpAddressSet}
    {packet : Packet} (known : socket.family ≠ .unspec)
    (sent : socket.sendPacket buffer address virtualRouterId priority interval addresses =
      some packet) (fits : packet.size ≤ packetCapacity) :
    ∃ pseudo, Util.pseudoHeader packet.size address (multicastAddress socket.family)
        protocolVrrp = some pseudo ∧ packet.size / 2 * 2 = packet.size ∧
      (Util.wordSum pseudo + Util.wordSum (Memory.slice packet.buffer 0 packet.size)) % 65535 =
        0 := by
  have own : address.family = socket.family := by
    by_contra other
    rw [sendPacket, if_pos other] at sent
    cases sent
  have same : ∀ a ∈ addresses.toList, a.family = socket.family := by
    rw [sendPacket, if_neg (not_not.mpr own)] at sent
    dsimp only at sent
    split at sent
    · cases sent
    · rename_i appended
      exact appendAddresses_same appended
  have size : packet.size = 8 + addresses.size * familySize socket.family := by
    rw [sendPacket, if_neg (not_not.mpr own)] at sent
    dsimp only at sent
    split at sent
    · cases sent
    · cases sent
      rfl
  have capacity : packetCapacity = 2048 := rfl
  obtain ⟨built, pseudo, again, _, made, bytes⟩ := sendPacket_slice socket buffer
    virtualRouterId priority interval known own same (by omega)
  cases sent.symm.trans again
  refine ⟨pseudo, made, ?_, ?_⟩
  · rw [size]
    exact even_packet _ _
  · rw [bytes, packetSum_complete pseudo rfl]
    exact ((OnesComplement.complement_eq_zero _).mp
      (OnesComplement.complement_add_complement _)).2

/-- Whatever single byte of a packet is replaced on the way: behind an unchanged IP header, a
receiver that knows the destination delivers it to no service. -/
theorem corrupted_rejected {κ : Type} (sender : VrrpSocket κ) (receiver : VrrpSocket ι)
    (scratch : Memory.Cells) (address : IpAddress) (virtualRouterId priority : UInt8)
    (interval : Nat) (addresses : IpAddressSet) (packet : Packet)
    (known : sender.family ≠ .unspec) (peer : receiver.family = sender.family)
    (sent : sender.sendPacket scratch address virtualRouterId priority interval addresses =
      some packet) (fits : packet.size ≤ packetCapacity)
    (place : Nat) (inside : place < packet.size) (b : UInt8) (other : b ≠ packet.buffer place)
    (d : Datagram) (source : d.srcAddress = address)
    (destination : d.dstAddress = multicastAddress sender.family)
    (arrives : Arrives sender.family d.buffer
      ((Memory.slice packet.buffer 0 packet.size).set place b)) :
    ∃ handled, (receiver.onSocketPacket d).value = some handled ∧
      Call.deliveredTo handled.calls = [] := by
  obtain ⟨pseudo, made, even, complete⟩ := sendPacket_sum known sent fits
  obtain ⟨start, header, payload⟩ := readHeader_arrives arrives (by simpa using fits)
  rw [List.length_set, Memory.slice_length] at header payload
  generalize d.buffer (if sender.family = .inet then 8 else 7) = ttl at header
  unfold onSocketPacket
  cases receiver.listeners[d.interface]? with
  | none => exact ⟨_, rfl, rfl⟩
  | some listeners =>
    refine ⟨(receivePacket receiver.family d listeners start packet.size ttl).value, ?_, ?_⟩
    · simp only [Reading.bind_value, peer, header, Reading.map_value]
    · apply receivePacket_mismatch _ listeners ttl
      have capacity : packetCapacity = 2048 := rfl
      have addressed : d.dstAddress.family ≠ .unspec := by
        rw [destination]
        cases family : sender.family <;> first | exact absurd family known | decide
      rw [← source, ← destination] at made
      rw [verifyChecksum, if_neg addressed, Int.toNat_natCast,
        Util.checksum_value _ _ made (by omega), even, payload]
      have balance := Util.wordSum_set (Memory.slice packet.buffer 0 packet.size) place
        (by rw [Memory.slice_length, even]; exact inside) b
      rw [Memory.slice_getElem? _ _ _ _ inside, Option.getD_some, Nat.zero_add] at balance
      refine Util.checksum_changed place complete
        ⟨(packet.buffer place).toNat_lt, b.toNat_lt⟩
        (fun same => other (UInt8.toNat_inj.mp same).symm) ?_
      rw [Nat.add_assoc, balance, Nat.add_assoc]

theorem corrupted_rejected_sample : ∃ packet,
    sendPacket (ι := Unit) ⟨.inet, ∅, ∅⟩ (fun _ => 0) (.sample 1) 51 100 100
      ((∅ : IpAddressSet).insert (.sample 100)) = some packet ∧
    ∃ handled, (onSocketPacket ⟨.inet, Nested.put ∅ 2 51 (), ∅⟩
        ⟨ipv4Buffer ((Memory.slice packet.buffer 0 packet.size).set 2 200), 2, .sample 1,
          multicastAddress .inet⟩).value = some handled ∧
      Call.deliveredTo handled.calls = [] := by
  have facts : (sendPacket (ι := Unit) ⟨.inet, ∅, ∅⟩ (fun _ => 0) (.sample 1) 51 100 100
      ((∅ : IpAddressSet).insert (.sample 100))).map (fun packet => (packet.size, packet.buffer 2))
      = some (12, 100) := by decide
  obtain ⟨packet, sent, known⟩ := Option.map_eq_some_iff.mp facts
  rw [Prod.mk.injEq] at known
  refine ⟨packet, sent, ?_⟩
  exact corrupted_rejected (κ := Unit) (ι := Unit) ⟨.inet, ∅, ∅⟩ ⟨.inet, Nested.put ∅ 2 51 (), ∅⟩
    (fun _ => 0) (.sample 1) 51 100 100 ((∅ : IpAddressSet).insert (.sample 100)) packet
    (by decide) rfl sent (by rw [known.1]; decide) 2 (by rw [known.1]; decide) 200
    (by rw [known.2]; decide) _ rfl rfl
    (ipv4Buffer_carries (by simp [known.1, packetCapacity])).arrives

end VrrpSocket

end OpenVrrp
