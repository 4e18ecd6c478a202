import OpenVrrp.Socket

/-! Which bytes of m_buffer the receive path reads for an IPv4 datagram. The checks use the
length that the IP header claims; only the checksum loop goes far enough to leave what was
received, and only when the kernel cut the datagram at the size of m_buffer. -/
namespace OpenVrrp

namespace Datagram

def ihl (d : Datagram) : Nat := lowerNibble (d.buffer 0)

/-- `ntohs(ip->tot_len)`. -/
def totalLength (d : Datagram) : Nat := Octets.value (Memory.slice d.buffer 2 2)

/-- What `recvmsg` copied: the datagram, or as much of it as m_buffer holds. -/
def received (d : Datagram) : Nat := min d.totalLength packetCapacity

structure Ipv4 (d : Datagram) : Prop where
  version : upperNibble (d.buffer 0) = 4
  least : 5 ≤ d.ihl
  header : d.ihl * 4 ≤ d.totalLength
  source : d.srcAddress.family = .inet
  destination : d.dstAddress.family ≠ .inet6

theorem ihl_le (d : Datagram) : d.ihl ≤ 15 := Nat.le_of_lt_succ (lowerNibble_lt _)

end Datagram

namespace VrrpSocket

variable {ι : Type}

theorem readAddresses_below (family : Family) (m : Memory.Cells) {count ptr bound : Nat}
    (room : ptr + count * familySize family ≤ bound) :
    Reading.Below (readAddresses family m count ptr) bound := by
  induction count generalizing ptr with
  | zero => exact Reading.below_pure _ _
  | succ count ih =>
    rw [Nat.succ_mul] at room
    rw [readAddresses, Reading.below_bind, Reading.below_bind]
    exact ⟨Reading.below_bytes m ptr (by omega), ih (by omega), Reading.below_pure _ _⟩

theorem receiveAdvertisement_below (family : Family) (d : Datagram)
    (listeners : Std.TreeMap UInt8 ι) {packet bound : Nat} {size : Int} (ttl : UInt8)
    (short : packet + 8 ≤ bound)
    (room : ∀ count : UInt8, 8 + count.toNat * familySize family ≤ size →
      packet + 8 + count.toNat * familySize family ≤ bound) :
    Reading.Below (receiveAdvertisement family d listeners packet size ttl) bound := by
  unfold receiveAdvertisement
  have field : ∀ i ≤ 5, Reading.Below (Reading.byte d.buffer (packet + i)) bound := by
    intro i small
    rw [Reading.below_byte]
    omega
  rw [Reading.below_bind, Reading.below_bind, Reading.below_bind, Reading.below_bind,
    Reading.below_bind]
  refine ⟨field 1 (by decide), field 2 (by decide), field 3 (by decide), field 4 (by decide),
    field 5 (by decide), ?_⟩
  split
  · exact Reading.below_pure _ _
  · split
    · exact Reading.below_pure _ _
    · split
      · exact Reading.below_pure _ _
      · rename_i long
        rw [Reading.below_bind]
        exact ⟨readAddresses_below family d.buffer (room _ (by omega)), Reading.below_pure _ _⟩

theorem verifyChecksum_below_iff {d : Datagram} {packet size bound : Nat}
    (source : d.srcAddress.family = .inet) (destination : d.dstAddress.family ≠ .inet6)
    (long : 8 ≤ size) : Reading.Below (verifyChecksum d packet size) bound ↔
      (d.dstAddress.family = .inet → packet + size / 2 * 2 ≤ bound) := by
  unfold verifyChecksum
  split
  · rename_i unknown
    simp only [unknown, reduceCtorEq, false_implies, iff_true]
    exact Reading.below_pure _ _
  · rename_i known
    have inet : d.dstAddress.family = .inet := by
      cases family : d.dstAddress.family with
      | inet => rfl
      | unspec => exact absurd family known
      | inet6 => exact absurd family destination
    have made : (Util.pseudoHeader size d.srcAddress d.dstAddress protocolVrrp).isSome := by
      rw [Util.pseudoHeader, if_pos ⟨source, inet⟩]
      rfl
    rw [Reading.Below, Int.toNat_natCast, Util.checksum_indices, if_pos made]
    simp only [List.mem_map, List.mem_range, forall_exists_index, and_imp, inet,
      forall_const]
    constructor
    · intro below
      have last := below _ (size / 2 * 2 - 1) (by omega) rfl
      omega
    · rintro room _ i inside rfl
      omega

theorem words_received_iff {d : Datagram} {packet n : Nat} (even : packet % 2 = 0)
    (total : (d.totalLength : Int) - packet = n) :
    packet + n / 2 * 2 ≤ d.received ↔ ¬ 2050 ≤ d.totalLength := by
  have capacity : packetCapacity = 2048 := rfl
  unfold Datagram.received
  omega

theorem receivePacket_below_iff (d : Datagram) (listeners : Std.TreeMap UInt8 ι)
    {packet : Nat} {size : Int} (ttl : UInt8) (source : d.srcAddress.family = .inet)
    (destination : d.dstAddress.family ≠ .inet6) (header : packet ≤ 60) (even : packet % 2 = 0)
    (total : (d.totalLength : Int) - packet = size) :
    Reading.Below (receivePacket .inet d listeners packet size ttl) d.received ↔
      ¬ (upperNibble (d.buffer packet) = 3 ∧ d.dstAddress.family = .inet ∧
        2050 ≤ d.totalLength) := by
  have capacity : packetCapacity = 2048 := rfl
  unfold receivePacket
  split
  · apply iff_of_true (Reading.below_pure _ _)
    rintro ⟨_, _, long⟩
    omega
  · rename_i long
    obtain ⟨n, rfl⟩ : ∃ n : Nat, size = n := ⟨size.toNat, by omega⟩
    have inside : packet + 8 ≤ d.received := by unfold Datagram.received; omega
    rw [Reading.below_bind, Reading.below_byte, Reading.byte_value,
      and_iff_right (by omega : packet < d.received)]
    split
    · rename_i other
      refine iff_of_true ?_ (fun excess => other excess.1)
      split
      · rw [Reading.below_bind, Reading.below_byte]
        exact ⟨by omega, Reading.below_pure _ _⟩
      · exact Reading.below_pure _ _
    · rename_i version
      rw [Reading.below_bind, verifyChecksum_below_iff source destination (by omega)]
      have rest : Reading.Below (if (verifyChecksum d packet n).value ≠ 0 then
          pure ⟨false, [], some .routerChecksumErrors⟩
        else if lowerNibble (d.buffer packet) ≠ 1 then
          pure ⟨false, notifyAll listeners d.interface .invalidTypeError, none⟩
        else receiveAdvertisement .inet d listeners packet n ttl) d.received := by
        split
        · exact Reading.below_pure _ _
        · split
          · exact Reading.below_pure _ _
          · apply receiveAdvertisement_below .inet d listeners ttl inside
            intro count fits
            have few : count.toNat < 256 := count.toNat_lt
            simp only [familySize] at fits ⊢
            unfold Datagram.received
            omega
      rw [and_iff_left rest, words_received_iff even total, not_and, not_and]
      exact ⟨fun room _ => room, fun short => short (not_not.mp version)⟩

theorem readHeader_inet (d : Datagram) : (readHeader .inet d.buffer).value =
    some (d.ihl * 4, (d.totalLength : Int) - (d.ihl * 4 : Nat), d.buffer 8) := rfl

theorem readHeader_below (d : Datagram) (valid : d.Ipv4) :
    Reading.Below (readHeader .inet d.buffer) d.received := by
  have capacity : packetCapacity = 2048 := rfl
  have least := valid.least
  have header := valid.header
  have enough : 20 ≤ d.received := by unfold Datagram.received; omega
  simp only [readHeader, if_true, Reading.below_bind, Reading.below_byte]
  exact ⟨by omega, Reading.below_bytes _ _ (by omega), by omega, Reading.below_pure _ _⟩

/-- The receive path leaves the received bytes exactly for a datagram that the kernel had to
cut by at least one word, on an interface with listeners, of version 3 and with a known
destination. -/
theorem reads_below_iff (socket : VrrpSocket ι) (family : socket.family = .inet) (d : Datagram)
    (valid : d.Ipv4) :
    Reading.Below (socket.onSocketPacket d) d.received ↔
      ¬ (d.interface ∈ socket.listeners ∧ upperNibble (d.buffer (d.ihl * 4)) = 3 ∧
        d.dstAddress.family = .inet ∧ 2050 ≤ d.totalLength) := by
  unfold onSocketPacket
  cases found : socket.listeners[d.interface]? with
  | none =>
    have absent : d.interface ∉ socket.listeners := by
      intro inside
      rw [Std.TreeMap.getElem?_eq_some_getElem inside] at found
      cases found
    simp only [absent, false_and, not_false_eq_true, iff_true]
    exact Reading.below_pure _ _
  | some listeners =>
    have inside : d.interface ∈ socket.listeners := Std.TreeMap.mem_iff_isSome_getElem?.mpr
      (by rw [found]; rfl)
    have most := d.ihl_le
    simp only [family, Reading.below_bind, readHeader_inet, Reading.below_map]
    rw [and_iff_right (readHeader_below d valid),
      receivePacket_below_iff d listeners (d.buffer 8) valid.source valid.destination (by omega)
        (by omega) rfl]
    simp only [inside, true_and]

def claiming (high low : UInt8) : Datagram where
  buffer
    | 0 => 0x45
    | 2 => high
    | 3 => low
    | 8 => 255
    | 20 => 0x31
    | _ => 0
  interface := 2
  srcAddress := .sample 1
  dstAddress := multicastAddress .inet

theorem claiming_ipv4 {high low : UInt8} (long : 20 ≤ Octets.value [high, low]) :
    (claiming high low).Ipv4 where
  version := show upperNibble 0x45 = 4 by decide
  least := show 5 ≤ lowerNibble 0x45 by decide
  header := show lowerNibble 0x45 * 4 ≤ Octets.value [high, low] from long
  source := rfl
  destination := show Family.inet ≠ .inet6 by decide

def listening : VrrpSocket Unit := ⟨.inet, Nested.put ∅ 2 51 (), ∅⟩

theorem reads_below_sample :
    Reading.Below (listening.onSocketPacket (claiming 0 28)) (claiming 0 28).received :=
  (reads_below_iff listening rfl (claiming 0 28) (claiming_ipv4 (by decide))).mpr
    fun excess => absurd excess.2.2.2 (by decide)

/-- A datagram of 2050 bytes, cut to 2048: the checksum reads two bytes more. -/
theorem reads_past_received : (claiming 8 2).Ipv4 ∧
    ¬ Reading.Below (listening.onSocketPacket (claiming 8 2)) (claiming 8 2).received := by
  refine ⟨claiming_ipv4 (by decide), fun below => ?_⟩
  have found : listening.listeners[(claiming 8 2).interface]? =
      some ((∅ : Std.TreeMap UInt8 Unit).insert 51 ()) := Nested.insert_self _ _ _
  unfold onSocketPacket at below
  simp only [found, show listening.family = .inet from rfl, Reading.below_bind, readHeader_inet,
    Reading.below_map] at below
  exact (receivePacket_below_iff (claiming 8 2) _ ((claiming 8 2).buffer 8) rfl (by decide)
    (by decide) (by decide) rfl).mp below.2 ⟨by decide, rfl, by decide⟩

end VrrpSocket

end OpenVrrp
