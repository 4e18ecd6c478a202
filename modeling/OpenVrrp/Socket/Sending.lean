import OpenVrrp.Service.AddressList
import OpenVrrp.Socket.RoundTrip

/-! Where `sendPacket` stores. Nothing between the command line and the socket bounds the number
of addresses: the packet outgrows m_buffer, or the count does not fit its byte. -/
namespace OpenVrrp

/-- A memory and the offsets of the stores that were made into it. -/
structure Stores where
  buffer : Memory.Cells
  offsets : List Nat

namespace Stores

def store (s : Stores) (offset : Nat) (bytes : List UInt8) : Stores where
  buffer := Memory.store s.buffer offset bytes
  offsets := s.offsets ++ (List.range bytes.length).map (offset + ·)

def Below (s : Stores) (bound : Nat) : Prop := ∀ i ∈ s.offsets, i < bound

theorem below_store (s : Stores) (offset : Nat) (bytes : List UInt8) (bound : Nat) :
    (s.store offset bytes).Below bound ↔
      s.Below bound ∧ (bytes ≠ [] → offset + bytes.length ≤ bound) := by
  simp only [Below, store, List.mem_append, or_imp, forall_and, List.forall_mem_map,
    List.mem_range]
  refine and_congr_right fun _ => ⟨fun below some_byte => ?_, fun room i inside => ?_⟩
  · have last := below (bytes.length - 1) (Nat.sub_lt (List.length_pos_iff.mpr some_byte) one_pos)
    have := List.length_pos_iff.mpr some_byte
    omega
  · have := room (List.ne_nil_of_length_pos (Nat.zero_lt_of_lt inside))
    omega

end Stores

namespace VrrpSocket

variable {ι : Type}

/-! ### sendPacket with its stores -/

/-- The loop over the addresses; false is the early return. -/
def storeAddresses (family : Family) : List IpAddress → Stores → (ptr : Nat) → Stores × Bool
  | [], s, _ => (s, true)
  | address :: rest, s, ptr =>
    if address.family ≠ family then (s, false)
    else storeAddresses family rest (s.store ptr address.data) (ptr + familySize family)

/-- The stores into m_buffer, and the size of the packet that is handed to the kernel, an
unsigned 32-bit number. -/
def storePacket (socket : VrrpSocket ι) (buffer : Memory.Cells) (address : IpAddress)
    (virtualRouterId priority : UInt8) (maxAdvertisementInterval : Nat)
    (addresses : IpAddressSet) : Stores × Option Nat :=
  if address.family ≠ socket.family then (⟨buffer, []⟩, none)
  else
    let header := [0x31, virtualRouterId, priority, UInt8.ofNat addresses.size,
      UInt8.ofNat (maxAdvertisementInterval / 256 % 16),
      UInt8.ofNat (maxAdvertisementInterval % 256), 0, 0]
    let s := Stores.store ⟨buffer, []⟩ 0 header
    match storeAddresses socket.family addresses.toList s 8 with
    | (s, false) => (s, none)
    | (s, true) =>
      let packetSize := (8 + addresses.size * familySize socket.family) % 2 ^ 32
      let sum := (Util.checksum s.buffer 0 packetSize address (multicastAddress socket.family)
        protocolVrrp).value
      (s.store 6 (Octets.encode 2 sum), some packetSize)

theorem storeAddresses_eq (family : Family) (addresses : List IpAddress) (s : Stores) (ptr : Nat) :
    appendAddresses family addresses s.buffer ptr =
      if (storeAddresses family addresses s ptr).2 then
        some (storeAddresses family addresses s ptr).1.buffer else none := by
  induction addresses generalizing s ptr with
  | nil => rfl
  | cons address rest ih =>
    rw [appendAddresses, storeAddresses]
    split
    · rfl
    · exact ih (s.store ptr address.data) (ptr + familySize family)

/-- It is `sendPacket`, as long as the size of the packet is not cut. -/
theorem storePacket_eq (socket : VrrpSocket ι) (buffer : Memory.Cells) (address : IpAddress)
    (virtualRouterId priority : UInt8) (interval : Nat) {addresses : IpAddressSet}
    (small : 8 + addresses.size * familySize socket.family < 2 ^ 32) :
    socket.sendPacket buffer address virtualRouterId priority interval addresses =
      let stored := socket.storePacket buffer address virtualRouterId priority interval addresses
      stored.2.map fun size => ⟨stored.1.buffer, size⟩ := by
  unfold sendPacket storePacket
  split
  · rfl
  · dsimp only
    have appended := storeAddresses_eq socket.family addresses.toList
      (Stores.store ⟨buffer, []⟩ 0 [0x31, virtualRouterId, priority, UInt8.ofNat addresses.size,
        UInt8.ofNat (interval / 256 % 16), UInt8.ofNat (interval % 256), 0, 0]) 8
    rw [Nat.mod_eq_of_lt small]
    revert appended
    generalize storeAddresses socket.family addresses.toList _ 8 = stored
    intro appended
    obtain ⟨s, complete⟩ := stored
    simp only [Stores.store] at appended
    rw [appended]
    cases complete <;> rfl

/-! ### Room and count -/

theorem storeAddresses_own {family : Family} {addresses : List IpAddress}
    (same : ∀ a ∈ addresses, a.family = family) (known : family ≠ .unspec) (s : Stores)
    (ptr bound : Nat) :
    (storeAddresses family addresses s ptr).2 = true ∧
    ((storeAddresses family addresses s ptr).1.Below bound ↔
      s.Below bound ∧ (addresses ≠ [] → ptr + addresses.length * familySize family ≤ bound)) ∧
    ∀ i < ptr, (storeAddresses family addresses s ptr).1.buffer i = s.buffer i := by
  induction addresses generalizing s ptr with
  | nil => simp [storeAddresses]
  | cons a rest ih =>
    have here : a.family = family := same a List.mem_cons_self
    have size : a.data.length = familySize family := by rw [a.sized, here]
    have some_byte : a.data ≠ [] := by
      apply List.ne_nil_of_length_pos
      rw [size]
      cases family <;> first | exact absurd rfl known | decide
    obtain ⟨complete, room, kept⟩ := ih (fun b inside => same b (List.mem_cons_of_mem a inside))
      (s.store ptr a.data) (ptr + familySize family)
    rw [storeAddresses, if_neg (not_not.mpr here)]
    refine ⟨complete, room.trans ?_, fun i before => ?_⟩
    · rw [Stores.below_store, size, and_assoc]
      apply and_congr_right
      intro _
      simp only [some_byte, ne_eq, not_false_eq_true, true_imp_iff, reduceCtorEq,
        List.length_cons, Nat.succ_mul]
      constructor
      · rintro ⟨first, later⟩
        cases rest with
        | nil => simpa using first
        | cons b rest => have := later (List.cons_ne_nil b rest); omega
      · intro all
        exact ⟨by omega, fun _ => by omega⟩
    · rw [kept i (by omega)]
      exact Memory.store_before s.buffer ptr a.data before

/-- The number of addresses for which a packet both fits and counts them. -/
def mostAddresses : Family → Nat
  | .inet => 255
  | .inet6 => 127
  | .unspec => 0

theorem mostAddresses_iff {family : Family} (known : family ≠ .unspec) (count : Nat) :
    (count ≠ 0 → 8 + count * familySize family ≤ packetCapacity) ∧ count % 256 = count ↔
      count ≤ mostAddresses family := by
  cases family with
  | unspec => exact absurd rfl known
  | inet => simp only [familySize, packetCapacity, mostAddresses]; omega
  | inet6 => simp only [familySize, packetCapacity, mostAddresses]; omega

/-- Nothing is stored outside m_buffer, and a packet that is sent counts its addresses. -/
structure Truthful (stored : Stores × Option Nat) (addresses : IpAddressSet) : Prop where
  inside : stored.1.Below packetCapacity
  counted : stored.2.isSome → (stored.1.buffer 3).toNat = addresses.size

theorem storePacket_truthful_iff (socket : VrrpSocket ι) (buffer : Memory.Cells)
    {address : IpAddress} (virtualRouterId priority : UInt8) (interval : Nat)
    {addresses : IpAddressSet} (known : socket.family ≠ .unspec)
    (own : address.family = socket.family)
    (same : ∀ a ∈ addresses.toList, a.family = socket.family) :
    Truthful (socket.storePacket buffer address virtualRouterId priority interval addresses)
      addresses ↔ addresses.size ≤ mostAddresses socket.family := by
  have count : addresses.toList.length = addresses.size := Std.TreeSet.length_toList
  unfold storePacket
  rw [if_neg (not_not.mpr own)]
  dsimp only
  generalize header_eq : [0x31, virtualRouterId, priority, UInt8.ofNat addresses.size,
    UInt8.ofNat (interval / 256 % 16), UInt8.ofNat (interval % 256), 0, 0] = header
  obtain ⟨complete, room, kept⟩ := storeAddresses_own same known
    (Stores.store ⟨buffer, []⟩ 0 header) 8 packetCapacity
  generalize storeAddresses socket.family addresses.toList (Stores.store ⟨buffer, []⟩ 0 header) 8 =
    stored at complete room kept
  obtain ⟨s, done⟩ := stored
  cases complete
  have eight : header.length = 8 := by rw [← header_eq]; rfl
  have start : Stores.Below (Stores.store ⟨buffer, []⟩ 0 header) packetCapacity := by
    refine (Stores.below_store _ _ _ _).mpr ⟨fun i inside => absurd inside List.not_mem_nil, ?_⟩
    intro _
    rw [eight]
    decide
  have counter : s.buffer 3 = UInt8.ofNat addresses.size := by
    have inside := Memory.store_inside buffer 0 header 3 (by omega)
    rw [kept 3 (by decide)]
    apply inside.trans
    simp only [← header_eq]
    rfl
  have behind : ∀ sum, Memory.store s.buffer 6 (Octets.encode 2 sum) 3 = s.buffer 3 := fun sum =>
    Memory.store_before _ _ _ (by decide)
  have fits : (∀ sum, (s.store 6 (Octets.encode 2 sum)).Below packetCapacity ↔
      (addresses.size ≠ 0 → 8 + addresses.size * familySize socket.family ≤ packetCapacity)) := by
    intro sum
    rw [Stores.below_store, Octets.encode_length, room, count]
    simp only [start, true_and, ne_eq, ← List.length_eq_zero_iff, count]
    exact and_iff_left fun _ => by decide
  have summed : ∀ sum size, Truthful (s.store 6 (Octets.encode 2 sum), some size) addresses ↔
      addresses.size ≤ mostAddresses socket.family := by
    intro sum size
    rw [← mostAddresses_iff known, ← fits sum, ← UInt8.toNat_ofNat', ← counter, ← behind sum]
    exact ⟨fun truthful => ⟨truthful.inside, truthful.counted rfl⟩,
      fun both => ⟨both.1, fun _ => both.2⟩⟩
  exact summed _ _

end VrrpSocket

namespace VrrpService

open VrrpSocket

/-- In every state of a run, whatever socket of the family has in its buffer: the advertisement
of the service fits and counts its addresses if and only if they are at most 255, or 127 for
IPv6. Without a primary address of the family nothing is built. -/
theorem advertisement_truthful_iff {ι : Type} (interface : Int) (family : Family)
    (virtualRouterId : UInt8) (vlanId : UInt64) (answers : Creation) (s : VrrpService)
    (created : construct interface family virtualRouterId vlanId answers = some s)
    (known : family ≠ .unspec) (events : List Event) (socket : VrrpSocket ι)
    (peer : socket.family = family) (buffer : Memory.Cells) (priority : UInt8) :
    let t := (s.run events).1
    Truthful (socket.storePacket buffer t.primaryIpAddress t.virtualRouterId priority
        t.advertisementInterval.value t.addresses) t.addresses ↔
      t.primaryIpAddress.family ≠ family ∨ t.addresses.size ≤ mostAddresses family := by
  intro t
  obtain ⟨own, same⟩ := construct_ownFamily created
  obtain ⟨own, later⟩ := ownFamily_run own events
  have each : ∀ a ∈ t.addresses.toList, a.family = socket.family := fun a inside =>
    (own a (List.mem_toFinset.mpr inside)).trans ((later.trans same).trans peer.symm)
  by_cases primary : t.primaryIpAddress.family = family
  · simp only [primary, ne_eq, not_true_eq_false, false_or, ← peer]
    exact storePacket_truthful_iff socket buffer _ priority _ (peer.symm ▸ known)
      (primary.trans peer.symm) each
  · refine iff_of_true ?_ (.inl primary)
    have nothing : socket.storePacket buffer t.primaryIpAddress t.virtualRouterId priority
        t.advertisementInterval.value t.addresses = (⟨buffer, []⟩, none) :=
      if_pos (peer.symm ▸ primary)
    rw [nothing]
    exact ⟨fun i inside => absurd inside List.not_mem_nil, fun sent => by cases sent⟩

theorem advertisement_truthful_sample :
    let t := ((sample 1).run [.addIpAddress ⟨.sample 100, 24⟩, .enable true]).1
    Truthful (storePacket (ι := Unit) ⟨.inet, ∅, ∅⟩ (fun _ => 0) t.primaryIpAddress
      t.virtualRouterId 100 t.advertisementInterval.value t.addresses) t.addresses :=
  (advertisement_truthful_iff 2 .inet 51 0 _ (sample 1) (construct_sample 1) (by decide)
    [.addIpAddress ⟨.sample 100, 24⟩, .enable true] ⟨.inet, ∅, ∅⟩ rfl (fun _ => 0) 100).mpr
    (.inr (by decide))

/-- The subnets 10.0.0.0/24, 10.0.0.1/24 and so on. -/
def hosts (count : Nat) : List IpSubnet :=
  (List.range count).map fun i =>
    ⟨⟨.inet, 10 :: Octets.encode 3 i, congrArg Nat.succ (Octets.encode_length 3 i)⟩, 24⟩

theorem hosts_inet (count : Nat) :
    ∀ subnet ∈ hosts count, subnet.address.family = (sample 1).family := by
  intro subnet inside
  obtain ⟨i, _, rfl⟩ := List.mem_map.mp inside
  rfl

theorem hosts_size {count : Nat} (most : count ≤ 2 ^ 24) :
    ((sample 1).run ((hosts count).map .addIpAddress)).1.addresses.size = count := by
  have distinct : ((hosts count).map IpSubnet.address).Nodup := by
    rw [hosts, List.map_map]
    refine List.Nodup.map_on (fun i first j second same => ?_) List.nodup_range
    have values := congrArg (fun a : IpAddress => Octets.value a.data.tail) same
    simp only [Function.comp_apply, List.tail_cons, Octets.value_encode] at values
    rw [List.mem_range] at first second
    omega
  have empty : (sample 1).addresses = ∅ := rfl
  rw [run_addIpAddress, (addIpAddress_lists _ (hosts_inet count)).2.1, empty,
    Nested.size_foldl_insert distinct fun _ _ inside => Std.TreeSet.not_mem_emptyc inside,
    Std.TreeSet.size_emptyc, Nat.zero_add, List.length_map, hosts, List.length_map,
    List.length_range]

/-- With 256 addresses the count byte is zero. -/
theorem crowded_advertisement :
    construct 2 .inet 51 0 ⟨.sample 1, 7, none, -1⟩ = some (sample 1) ∧
    let t := ((sample 1).run ((hosts 256).map .addIpAddress)).1
    ¬ Truthful (storePacket (ι := Unit) ⟨.inet, ∅, ∅⟩ (fun _ => 0) t.primaryIpAddress
      t.virtualRouterId 100 t.advertisementInterval.value t.addresses) t.addresses := by
  refine ⟨rfl, fun truthful => ?_⟩
  have primary : ((sample 1).run ((hosts 256).map .addIpAddress)).1.primaryIpAddress =
      (sample 1).primaryIpAddress := by
    rw [run_addIpAddress, (addIpAddress_lists _ (hosts_inet 256)).2.2]
  have few := (storePacket_truthful_iff (ι := Unit) ⟨.inet, ∅, ∅⟩ (fun _ => 0) _ 100 _
    (by decide) (congrArg IpAddress.family primary) ?_).mp truthful
  · rw [hosts_size (by decide)] at few
    revert few
    decide
  · have own := ownFamily_run (construct_ownFamily (construct_sample 1)).1
      ((hosts 256).map .addIpAddress)
    exact fun a inside => (own.1 a (List.mem_toFinset.mpr inside)).trans own.2

end VrrpService

end OpenVrrp
