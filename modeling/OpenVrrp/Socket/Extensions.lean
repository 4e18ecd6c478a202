import OpenVrrp.Socket.Acceptance
import Mathlib.Logic.Function.Iterate

/-! The walk over the IPv6 extension headers. It goes on by two bytes more than the length byte
says, looks for the protocol in the header it stands at, and has no other end than finding it. -/
namespace OpenVrrp.VrrpSocket

variable {ι : Type}

/-! ### The places of the walk -/

/-- Where the walk goes from a header at `p`. -/
def stride (m : Memory.Cells) (p : Nat) : Nat := p + (m (p + 1)).toNat + 2

theorem stride_iterate_le (m : Memory.Cells) (p n : Nat) : p + 2 * n ≤ (stride m)^[n] p := by
  induction n with
  | zero => exact Nat.le_refl p
  | succ n ih =>
    rw [Function.iterate_succ_apply', stride]
    omega

theorem stride_iterate_mono (m : Memory.Cells) (p : Nat) {n k : Nat} (before : n ≤ k) :
    (stride m)^[n] p ≤ (stride m)^[k] p := by
  obtain ⟨more, rfl⟩ := Nat.exists_eq_add_of_le' before
  rw [Function.iterate_add_apply]
  have := stride_iterate_le m ((stride m)^[n] p) more
  omega

/-- The walk from `p` finds the protocol at its place number `n`, and not before. -/
structure Finds (m : Memory.Cells) (p n : Nat) : Prop where
  inside : (stride m)^[n] p < packetCapacity
  found : m ((stride m)^[n] p) = UInt8.ofNat protocolVrrp
  first : ∀ k < n, m ((stride m)^[k] p) ≠ UInt8.ofNat protocolVrrp

theorem protocol_iff (b : UInt8) : b.toNat = protocolVrrp ↔ b = UInt8.ofNat protocolVrrp := by
  rw [← UInt8.toNat_inj]
  rfl

theorem Finds.later {m : Memory.Cells} {p n : Nat} (finds : Finds m p (n + 1)) :
    Finds m (stride m p) n where
  inside := finds.inside
  found := finds.found
  first k before := finds.first (k + 1) (Nat.succ_lt_succ before)

theorem skipExtensions_finds {m : Memory.Cells} {p n fuel : Nat} (finds : Finds m p n)
    (enough : n < fuel) (size : Int) :
    (skipExtensions m fuel p size).value =
        some ((stride m)^[n] p, size - (((stride m)^[n] p : Nat) - p)) ∧
      ∀ bound, Reading.Below (skipExtensions m fuel p size) bound ↔ (stride m)^[n] p < bound := by
  induction n generalizing p fuel size with
  | zero =>
    obtain ⟨fuel, rfl⟩ := Nat.exists_eq_add_of_lt enough
    have inside : p < packetCapacity := finds.inside
    have here : (m p).toNat = protocolVrrp := (protocol_iff _).mpr finds.found
    rw [skipExtensions, if_pos inside]
    constructor
    · rw [Reading.bind_value, Reading.byte_value, if_pos here]
      simp
    · intro bound
      rw [Reading.below_bind, Reading.below_byte, Reading.byte_value, if_pos here]
      exact and_iff_left (Reading.below_pure _ _)
  | succ n ih =>
    obtain ⟨fuel, rfl⟩ := Nat.exists_eq_add_of_lt enough
    have further := stride_iterate_le m p (n + 1)
    have inside : p < packetCapacity := by
      have := finds.inside
      omega
    have other : ¬ (m p).toNat = protocolVrrp := fun here =>
      finds.first 0 (Nat.succ_pos n) ((protocol_iff _).mp here)
    obtain ⟨value, below⟩ := ih finds.later (show n < n + fuel + 1 by omega)
      (size - ((m (p + 1)).toNat + 2))
    rw [Function.iterate_succ_apply] at further ⊢
    rw [show n + 1 + fuel + 1 = n + fuel + 1 + 1 by omega, skipExtensions, if_pos inside]
    constructor
    · rw [Reading.bind_value, Reading.byte_value, if_neg other, Reading.bind_value]
      refine value.trans (congrArg some (Prod.ext rfl ?_))
      simp only [stride]
      push_cast
      omega
    · intro bound
      rw [Reading.below_bind, Reading.below_byte, Reading.byte_value, if_neg other,
        Reading.below_bind, Reading.below_byte]
      refine ⟨fun all => (below bound).mp all.2.2, fun last => ⟨by omega, by omega, ?_⟩⟩
      exact (below bound).mpr last

theorem skipExtensions_lost {m : Memory.Cells} {p : Nat} (lost : ∀ n, ¬ Finds m p n) (fuel : Nat)
    (size : Int) : (skipExtensions m fuel p size).value = none := by
  induction fuel generalizing p size with
  | zero => rfl
  | succ fuel ih =>
    rw [skipExtensions]
    split
    · rename_i inside
      have other : ¬ (m p).toNat = protocolVrrp := fun here =>
        lost 0 ⟨inside, (protocol_iff _).mp here, fun k before => absurd before (Nat.not_lt_zero k)⟩
      rw [Reading.bind_value, Reading.byte_value, if_neg other, Reading.bind_value]
      refine ih (p := stride m p) (fun n finds => lost (n + 1) ⟨finds.inside, finds.found, ?_⟩) _
      intro k before
      cases k with
      | zero => exact fun here => other ((protocol_iff _).mpr here)
      | succ k => exact finds.first k (Nat.lt_of_succ_lt_succ before)
    · rfl

/-- Where the protocol is met at all, it is met a first time. -/
theorem exists_finds {m : Memory.Cells} {p n : Nat} (inside : (stride m)^[n] p < packetCapacity)
    (found : m ((stride m)^[n] p) = UInt8.ofNat protocolVrrp) : ∃ k ≤ n, Finds m p k := by
  classical
  have met : ∃ k, m ((stride m)^[k] p) = UInt8.ofNat protocolVrrp := ⟨n, found⟩
  have least := Nat.find_min' met found
  exact ⟨Nat.find met, least, (stride_iterate_mono m p least).trans_lt inside, Nat.find_spec met,
    fun k before => Nat.find_min met before⟩

theorem Finds.few {m : Memory.Cells} {p n : Nat} (finds : Finds m p n) : n < packetCapacity := by
  have := stride_iterate_le m p n
  have := finds.inside
  omega

/-! ### The IPv6 header -/

/-- `ntohs(ip->ip6_plen)`. -/
def payloadLength (m : Memory.Cells) : Nat := Octets.value (Memory.slice m 4 2)

theorem readHeader_direct {m : Memory.Cells} (next : m 6 = UInt8.ofNat protocolVrrp) :
    (readHeader .inet6 m).value = some (40, (payloadLength m : Int), m 7) ∧
      ∀ bound, 40 ≤ bound → Reading.Below (readHeader .inet6 m) bound := by
  have named : (m 6).toNat = protocolVrrp := (protocol_iff _).mpr next
  rw [readHeader, if_neg (by decide)]
  constructor
  · simp only [Reading.bind_value, Reading.byte_value, Reading.bytes_value, named, if_true,
      Reading.pure_value, payloadLength]
  · intro bound least
    simp only [Reading.below_bind, Reading.below_byte, Reading.byte_value, Reading.bytes_value,
      named, if_true]
    exact ⟨Reading.below_bytes _ _ (by omega), by omega, by omega, Reading.below_pure _ _⟩

theorem readHeader_finds {m : Memory.Cells} (next : m 6 ≠ UInt8.ofNat protocolVrrp) {n : Nat}
    (finds : Finds m 40 n) :
    (readHeader .inet6 m).value = some ((stride m)^[n] 40,
        (payloadLength m : Int) - (((stride m)^[n] 40 : Nat) - 40), m 7) ∧
      ∀ bound, 40 ≤ bound →
        (Reading.Below (readHeader .inet6 m) bound ↔ (stride m)^[n] 40 < bound) := by
  have other : ¬ (m 6).toNat = protocolVrrp := fun named => next ((protocol_iff _).mp named)
  obtain ⟨value, below⟩ := skipExtensions_finds finds finds.few (payloadLength m)
  rw [readHeader, if_neg (by decide)]
  constructor
  · simp only [Reading.bind_value, Reading.byte_value, Reading.bytes_value, other, if_false,
      Reading.pure_value]
    exact congrArg (Option.map _) value
  · intro bound least
    simp only [Reading.below_bind, Reading.below_byte, Reading.byte_value, Reading.bytes_value,
      other, if_false]
    refine ⟨fun all => (below bound).mp all.2.2.2.1, fun last => ?_⟩
    exact ⟨Reading.below_bytes _ _ (by omega), by omega, by omega, (below bound).mpr last,
      Reading.below_pure _ _⟩

theorem readHeader_lost {m : Memory.Cells} (next : m 6 ≠ UInt8.ofNat protocolVrrp)
    (lost : ∀ n, ¬ Finds m 40 n) : (readHeader .inet6 m).value = none := by
  have other : ¬ (m 6).toNat = protocolVrrp := fun named => next ((protocol_iff _).mp named)
  rw [readHeader, if_neg (by decide)]
  simp only [Reading.bind_value, Reading.byte_value, other, if_false, skipExtensions_lost lost]
  rfl

/-! ### The same packet at another place -/

theorem readAddresses_relocate (family : Family) {m n : Memory.Cells} {count p q : Nat}
    (same : ∀ i < count * familySize family, m (p + i) = n (q + i)) :
    (readAddresses family m count p).value = (readAddresses family n count q).value := by
  induction count generalizing p q with
  | zero => rfl
  | succ count ih =>
    rw [Nat.succ_mul] at same
    have here : IpAddress.load m p family = IpAddress.load n q family :=
      IpAddress.ext rfl (Memory.slice_relocate fun i inside => same i (by omega))
    have later : (readAddresses family m count (p + familySize family)).value =
        (readAddresses family n count (q + familySize family)).value := by
      apply ih
      intro i inside
      rw [Nat.add_assoc, Nat.add_assoc]
      exact same _ (by omega)
    simp only [readAddresses, Reading.bind_value, Reading.pure_value, here, later]

theorem verifyChecksum_relocate (d : Datagram) {n : Memory.Cells} {p q size : Nat}
    (same : ∀ i < size, d.buffer (p + i) = n (q + i)) :
    (verifyChecksum d p size).value = (verifyChecksum { d with buffer := n } q size).value := by
  unfold verifyChecksum Util.checksum
  dsimp only
  split
  · rfl
  · rw [Int.toNat_natCast]
    cases Util.pseudoHeader size d.srcAddress d.dstAddress protocolVrrp with
    | none => rfl
    | some header =>
      simp only [Reading.bind_value, Reading.bytes_value, Reading.pure_value]
      rw [Memory.slice_relocate fun i inside => same i (by omega)]

theorem receiveAdvertisement_relocate (family : Family) (d : Datagram)
    (listeners : Std.TreeMap UInt8 ι) {n : Memory.Cells} {p q size : Nat} (ttl : UInt8)
    (long : 8 ≤ size) (same : ∀ i < size, d.buffer (p + i) = n (q + i)) :
    (receiveAdvertisement family d listeners p size ttl).value =
      (receiveAdvertisement family { d with buffer := n } listeners q size ttl).value := by
  have field : ∀ i ≤ 5, d.buffer (p + i) = n (q + i) := fun i small => same i (by omega)
  unfold receiveAdvertisement
  iterate 10 rw [Reading.bind_value]
  iterate 10 rw [Reading.byte_value]
  rw [field 1 (by decide), field 2 (by decide), field 3 (by decide), field 4 (by decide),
    field 5 (by decide)]
  dsimp only
  cases listeners[n (q + 1)]? with
  | none => rfl
  | some listener =>
    dsimp only
    split
    · rfl
    · split
      · rfl
      · rename_i complete
        have list : (readAddresses family d.buffer (n (q + 3)).toNat (p + 8)).value =
            (readAddresses family n (n (q + 3)).toNat (q + 8)).value := by
          apply readAddresses_relocate family
          intro i inside
          rw [Nat.add_assoc, Nat.add_assoc]
          exact same _ (by omega)
        rw [Reading.bind_value, Reading.bind_value, list]

/-- What happens to a packet does not depend on where in m_buffer it lies. -/
theorem receivePacket_relocate (family : Family) (d : Datagram) (listeners : Std.TreeMap UInt8 ι)
    {n : Memory.Cells} {p q size : Nat} (ttl : UInt8)
    (same : ∀ i < size, d.buffer (p + i) = n (q + i)) :
    (receivePacket family d listeners p size ttl).value =
      (receivePacket family { d with buffer := n } listeners q size ttl).value := by
  unfold receivePacket
  split
  · rfl
  · rename_i long
    have first : d.buffer p = n q := same 0 (by omega)
    rw [Reading.bind_value, Reading.bind_value, Reading.byte_value, Reading.byte_value, first]
    split
    · split
      · rw [Reading.bind_value, Reading.bind_value, Reading.byte_value, Reading.byte_value,
          same 1 (by omega)]
      · rfl
    · rw [Reading.bind_value, Reading.bind_value, verifyChecksum_relocate d same]
      split
      · rfl
      · split
        · rfl
        · exact receiveAdvertisement_relocate family d listeners ttl (by omega) same

/-! ### Extension headers are skipped -/

/-- Behind the length byte there are as many bytes as fill the last unit of eight. -/
structure ExtensionHeader where
  next : UInt8
  length : UInt8
  body : List UInt8
  sized : 2 + body.length = (length.toNat + 1) * 8

def ExtensionHeader.bytes (h : ExtensionHeader) : List UInt8 := h.next :: h.length :: h.body

def chainBytes (chain : List ExtensionHeader) : List UInt8 := chain.flatMap ExtensionHeader.bytes

/-- m_buffer holds an IPv6 header, the chain and a packet; the last header of them names the
protocol, and no header before it. -/
structure Chained (m : Memory.Cells) (chain : List ExtensionHeader) (packet : List UInt8) :
    Prop where
  length : payloadLength m = (chainBytes chain).length + packet.length
  bytes : Memory.slice m 40 ((chainBytes chain).length + packet.length) =
    chainBytes chain ++ packet
  named : ∃ before, m 6 :: chain.map ExtensionHeader.next =
    before ++ [UInt8.ofNat protocolVrrp] ∧ UInt8.ofNat protocolVrrp ∉ before
  room : 40 + ((chainBytes chain).length + packet.length) ≤ packetCapacity

theorem Chained.direct_iff {m : Memory.Cells} {chain : List ExtensionHeader}
    {packet : List UInt8} (chained : Chained m chain packet) :
    m 6 = UInt8.ofNat protocolVrrp ↔ chain = [] := by
  obtain ⟨before, split, absent⟩ := chained.named
  cases before with
  | nil =>
    obtain ⟨first, rest⟩ := List.cons.inj split
    exact iff_of_true first (List.map_eq_nil_iff.mp rest)
  | cons b before =>
    obtain ⟨first, rest⟩ := List.cons.inj split
    refine iff_of_false (fun direct => ?_) fun empty => ?_
    · exact absent (by rw [← direct, first]; exact List.mem_cons_self)
    · rw [empty] at rest
      simp at rest

/-- The packet is found with its length, and processed like one without extension headers. -/
def Skipped (socket : VrrpSocket ι) (d : Datagram) (start : Nat) (packet : List UInt8) : Prop :=
  (readHeader .inet6 d.buffer).value = some (start, (packet.length : Int), d.buffer 7) ∧
  ∀ plain, Chained plain [] packet → plain 7 = d.buffer 7 →
    (socket.onSocketPacket d).value = (socket.onSocketPacket { d with buffer := plain }).value

theorem skipped_of_found {socket : VrrpSocket ι} (family : socket.family = .inet6) {d : Datagram}
    {chain : List ExtensionHeader} {packet : List UInt8} (chained : Chained d.buffer chain packet)
    (found : (readHeader .inet6 d.buffer).value =
      some (40 + (chainBytes chain).length, (packet.length : Int), d.buffer 7)) :
    Skipped socket d (40 + (chainBytes chain).length) packet := by
  refine ⟨found, fun plain alone hops => ?_⟩
  have direct := (readHeader_direct (alone.direct_iff.mpr rfl)).1
  have length : payloadLength plain = packet.length := alone.length.trans (Nat.zero_add _)
  rw [length, hops] at direct
  have there := Memory.slice_suffix chained.bytes
  have here := alone.bytes
  rw [show (chainBytes []).length + packet.length = packet.length from Nat.zero_add _] at here
  have same : ∀ i < packet.length,
      d.buffer (40 + (chainBytes chain).length + i) = plain (40 + i) :=
    Memory.slice_at (there.trans here.symm)
  unfold onSocketPacket
  dsimp only
  cases socket.listeners[d.interface]? with
  | none => rfl
  | some listeners =>
    simp only [Reading.bind_value, family, found, direct, Reading.map_value]
    rw [receivePacket_relocate .inet6 d listeners (d.buffer 7) same]

/-- A packet behind a chain of extension headers is found if and only if there is no extension
header, or the strides of the walk from the first of them lead to its first byte, and this is
the first byte they meet that equals the protocol. -/
theorem extensions_skipped_iff (socket : VrrpSocket ι) (family : socket.family = .inet6)
    (d : Datagram) (chain : List ExtensionHeader) (packet : List UInt8)
    (chained : Chained d.buffer chain packet) :
    Skipped socket d (40 + (chainBytes chain).length) packet ↔
      chain = [] ∨ ∃ n, Finds d.buffer 40 n ∧
        (stride d.buffer)^[n] 40 = 40 + (chainBytes chain).length := by
  by_cases direct : chain = []
  · subst direct
    have found := (readHeader_direct (chained.direct_iff.mpr rfl)).1
    rw [chained.length] at found
    refine iff_of_true (skipped_of_found family chained (found.trans ?_)) (.inl rfl)
    simp [chainBytes]
  · have next : d.buffer 6 ≠ UInt8.ofNat protocolVrrp := fun named =>
      direct (chained.direct_iff.mp named)
    rw [or_iff_right direct]
    constructor
    · rintro ⟨found, _⟩
      by_cases lost : ∀ n, ¬ Finds d.buffer 40 n
      · rw [readHeader_lost next lost] at found
        cases found
      · obtain ⟨n, finds⟩ := not_forall_not.mp lost
        rw [(readHeader_finds next finds).1] at found
        exact ⟨n, finds, congrArg Prod.fst (Option.some.inj found)⟩
    · rintro ⟨n, finds, place⟩
      refine skipped_of_found family chained ((readHeader_finds next finds).1.trans ?_)
      rw [place, chained.length]
      simp only [Option.some.injEq, Prod.mk.injEq, true_and, and_true]
      push_cast
      omega

/-- A buffer of zeros with an IPv6 header and what follows it. -/
def ipv6Buffer (next : UInt8) (payload : List UInt8) : Memory.Cells :=
  Memory.store (fun _ => 0) 0 ([0x60, 0, 0, 0] ++ Octets.encode 2 payload.length ++ [next, 255] ++
    List.replicate 32 0 ++ payload)

def advertisement : List UInt8 := [0x31, 51, 100, 0, 0, 100, 0, 0]

theorem extensions_skipped_sample :
    Skipped (ι := Unit) ⟨.inet6, ∅, ∅⟩ ⟨ipv6Buffer 112 advertisement, 2, .unspec, .unspec⟩
      (40 + (chainBytes []).length) advertisement :=
  (extensions_skipped_iff ⟨.inet6, ∅, ∅⟩ rfl ⟨ipv6Buffer 112 advertisement, 2, .unspec, .unspec⟩ []
    advertisement ⟨by decide, by decide, ⟨[], by decide, by decide⟩, by decide⟩).mpr (.inl rfl)

/-- Destination options of eight bytes. -/
def padding : ExtensionHeader := ⟨112, 0, [1, 4, 0, 0, 0, 0], rfl⟩

/-- The walk stops at the header that names the protocol, and does not leave it. -/
theorem last_extension_kept :
    Chained (ipv6Buffer 60 (padding.bytes ++ advertisement)) [padding] advertisement ∧
    ¬ Skipped (ι := Unit) ⟨.inet6, ∅, ∅⟩
      ⟨ipv6Buffer 60 (padding.bytes ++ advertisement), 2, .unspec, .unspec⟩
      (40 + (chainBytes [padding]).length) advertisement := by
  refine ⟨⟨by decide, by decide, ⟨[60], by decide, by decide⟩, by decide⟩, fun skipped => ?_⟩
  exact absurd skipped.1 (by decide)

/-! ### The end of the walk -/

/-- Following the headers by their lengths, the protocol is not named before the data ends. -/
def RunsOut (m : Memory.Cells) (received : Nat) : Prop :=
  m 6 ≠ UInt8.ofNat protocolVrrp ∧
    ∀ n, let place := (fun p => p + ((m (p + 1)).toNat + 1) * 8)^[n] 40
      place < received → m place ≠ UInt8.ofNat protocolVrrp

/-- The header is known after finitely many steps that read received bytes only, and a chain
that runs out delivers nothing. -/
structure StaysInside (socket : VrrpSocket ι) (d : Datagram) (received : Nat) : Prop where
  ends : (readHeader .inet6 d.buffer).value.isSome
  inside : Reading.Below (readHeader .inet6 d.buffer) received
  discarded : RunsOut d.buffer received →
    ∃ handled, (socket.onSocketPacket d).value = some handled ∧
      Call.deliveredTo handled.calls = []

/-- The byte at which the walk stops is taken for the first byte of the packet, and is no
version that is known. -/
theorem finds_discarded {socket : VrrpSocket ι} (family : socket.family = .inet6) {d : Datagram}
    (next : d.buffer 6 ≠ UInt8.ofNat protocolVrrp) {n : Nat} (finds : Finds d.buffer 40 n) :
    ∃ handled, (socket.onSocketPacket d).value = some handled ∧
      Call.deliveredTo handled.calls = [] := by
  have header := (readHeader_finds next finds).1
  unfold onSocketPacket
  cases socket.listeners[d.interface]? with
  | none => exact ⟨_, rfl, rfl⟩
  | some listeners =>
    simp only [Reading.bind_value, family, header, Reading.map_value]
    refine ⟨_, rfl, ?_⟩
    unfold receivePacket
    split
    · exact deliveredTo_notifyAll _ _ _
    · have version : upperNibble (UInt8.ofNat protocolVrrp) ≠ 3 := by decide
      have other : UInt8.ofNat protocolVrrp ≠ 0x21 := by decide
      rw [Reading.bind_value, Reading.byte_value, finds.found, if_pos version, if_neg other]
      rfl

/-- Of a datagram of at least an IPv6 header the walk stays inside the received bytes if and
only if it does not begin, or its strides meet a byte that equals the protocol among them. -/
theorem walk_inside_iff (socket : VrrpSocket ι) (family : socket.family = .inet6) (d : Datagram)
    (received : Nat) (least : 40 ≤ received) (most : received ≤ packetCapacity) :
    StaysInside socket d received ↔
      d.buffer 6 = UInt8.ofNat protocolVrrp ∨
        ∃ n, (stride d.buffer)^[n] 40 < received ∧
          d.buffer ((stride d.buffer)^[n] 40) = UInt8.ofNat protocolVrrp := by
  by_cases next : d.buffer 6 = UInt8.ofNat protocolVrrp
  · obtain ⟨value, below⟩ := readHeader_direct next
    refine iff_of_true ⟨by rw [value]; rfl, below received least, fun out => ?_⟩ (.inl next)
    exact absurd next out.1
  · rw [or_iff_right next]
    constructor
    · rintro ⟨ends, inside, _⟩
      by_cases lost : ∀ n, ¬ Finds d.buffer 40 n
      · rw [readHeader_lost next lost] at ends
        cases ends
      · obtain ⟨n, finds⟩ := not_forall_not.mp lost
        exact ⟨n, ((readHeader_finds next finds).2 received least).mp inside, finds.found⟩
    · rintro ⟨n, inside, found⟩
      obtain ⟨k, before, finds⟩ := exists_finds (inside.trans_le most) found
      obtain ⟨value, below⟩ := readHeader_finds next finds
      have last := (stride_iterate_mono d.buffer 40 before).trans_lt inside
      exact ⟨by rw [value]; rfl, (below received least).mpr last, fun _ =>
        finds_discarded family next finds⟩

theorem walk_inside_sample :
    StaysInside (ι := Unit) ⟨.inet6, ∅, ∅⟩
      ⟨ipv6Buffer 60 (padding.bytes ++ advertisement), 2, .unspec, .unspec⟩ 56 :=
  (walk_inside_iff ⟨.inet6, ∅, ∅⟩ rfl _ 56 (by decide) (by decide)).mpr
    (.inr ⟨0, by decide, by decide⟩)

/-- Behind a header without a payload the walk reads what was not received. -/
theorem walk_leaves_datagram :
    ¬ StaysInside (ι := Unit) ⟨.inet6, ∅, ∅⟩ ⟨ipv6Buffer 59 [], 2, .unspec, .unspec⟩ 40 :=
  fun stays => absurd (stays.inside 40 (by decide)) (by decide)

end OpenVrrp.VrrpSocket
