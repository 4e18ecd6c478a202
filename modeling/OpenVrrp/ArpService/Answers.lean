import OpenVrrp.ArpService

/-! Which ARP requests are answered, and how: those for the addresses that were added on the
interface and not removed since. -/
namespace OpenVrrp

/-- A call of one of the two static functions; `opened` is what the kernel answers if a socket
is asked for. -/
inductive ArpCall where
  | addFakeArp (opened : Bool) (interface : Int) (address : IpAddress) (mac : Mac)
  | removeFakeArp (interface : Int) (address : IpAddress)

abbrev Ipv4 := Vector UInt8 4

def IpAddress.ofIpv4 (address : Ipv4) : IpAddress := ⟨.inet, address.toList, by simp [familySize]⟩

/-- An Ethernet/IPv4 ARP packet; operation 1 is a request, 2 a reply. -/
def arpPacket (operation : UInt8) (senderHardware : Mac) (senderProtocol : Ipv4)
    (targetHardware : Mac) (targetProtocol : Ipv4) : List UInt8 :=
  [0, 1, 8, 0, 6, 4, 0, operation] ++ senderHardware.toList ++ senderProtocol.toList ++
    targetHardware.toList ++ targetProtocol.toList

namespace ArpServices

def call (services : ArpServices) : ArpCall → ArpServices × Bool
  | .addFakeArp opened interface address mac => services.addFakeArp opened interface address mac
  | .removeFakeArp interface address => services.removeFakeArp interface address

def run (services : ArpServices) (calls : List ArpCall) : ArpServices :=
  calls.foldl (fun services c => (services.call c).1) services

/-- What the socket of an interface does with a received frame. -/
def onFrame (services : ArpServices) (interface : Int) (frame : List UInt8) :
    Option (List UInt8) :=
  services[interface]?.bind fun addresses => onArpPacket addresses frame

/-! ### What is held -/

/-- The additions that stand: interface, address and MAC. -/
abbrev Held := List (Int × IpAddress × Mac)

namespace Held

def without (held : Held) (interface : Int) (address : IpAddress) : Held :=
  held.filter fun addition => ¬ (addition.1 = interface ∧ addition.2.1 = address)

/-- An interface that holds no address needs a new socket; an addition replaces the one before it
of the same address. -/
def record (held : Held) : ArpCall → Held
  | .addFakeArp opened interface address mac =>
    if opened = true ∨ ∃ addition ∈ held, addition.1 = interface then
      (interface, address, mac) :: held.without interface address
    else held
  | .removeFakeArp interface address => held.without interface address

theorem mem_without {held : Held} {i j : Int} {a b : IpAddress} {mac : Mac} :
    (j, b, mac) ∈ held.without i a ↔ (j, b, mac) ∈ held ∧ ¬ (j = i ∧ b = a) := by
  rw [without, List.mem_filter, decide_eq_true_eq]

end Held

/-- What is added by the calls, as far as a socket could be had, and not removed since. -/
def heldAfter (calls : List ArpCall) : Held := calls.foldl Held.record []

structure Keeps (services : ArpServices) (held : Held) : Prop where
  occupied : Nested.Occupied services
  same : ∀ i a mac, services.fakeArp i a = some mac ↔ (i, a, mac) ∈ held

theorem keeps_put {services : ArpServices} {held : Held} (keeps : services.Keeps held) (i : Int)
    (a : IpAddress) (mac : Mac) :
    Keeps (Nested.put services i a mac) ((i, a, mac) :: held.without i a) := by
  refine ⟨Nested.occupied_put keeps.occupied i a mac, fun j b other => ?_⟩
  rw [List.mem_cons, Held.mem_without, ← keeps.same]
  by_cases here : j = i ∧ b = a
  · obtain ⟨rfl, rfl⟩ := here
    rw [fakeArp, Nested.find_put_self]
    simp [eq_comm]
  · rw [fakeArp, fakeArp,
      Nested.find_put_other _ _ fun first second => here ⟨first.symm, second.symm⟩]
    have apart : (j, b, other) ≠ (i, a, mac) := by
      intro same
      injection same with first rest
      injection rest with second
      exact here ⟨first, second⟩
    simp only [apart, false_or, here, not_false_eq_true, and_true]

theorem keeps_drop {services : ArpServices} {held : Held} (keeps : services.Keeps held) (i : Int)
    (a : IpAddress) : Keeps (Nested.drop services i a) (held.without i a) := by
  refine ⟨Nested.occupied_drop keeps.occupied i a, fun j b other => ?_⟩
  rw [Held.mem_without, ← keeps.same]
  by_cases here : j = i ∧ b = a
  · obtain ⟨rfl, rfl⟩ := here
    rw [fakeArp, Nested.find_drop_self]
    simp
  · rw [fakeArp, fakeArp,
      Nested.find_drop_other _ fun first second => here ⟨first.symm, second.symm⟩]
    simp only [here, not_false_eq_true, and_true]

/-- A service exists exactly as long as its interface holds an address. -/
theorem Keeps.present_iff {services : ArpServices} {held : Held} (keeps : services.Keeps held)
    (i : Int) : services[i]?.isSome ↔ ∃ addition ∈ held, addition.1 = i := by
  rw [Nested.occupied_iff_find keeps.occupied]
  constructor
  · rintro ⟨a, mac, stored⟩
    exact ⟨(i, a, mac), (keeps.same i a mac).mp stored, rfl⟩
  · rintro ⟨⟨_, a, mac⟩, inside, rfl⟩
    exact ⟨a, mac, (keeps.same _ a mac).mpr inside⟩

/-- An addition fails only for want of a socket, and then changes nothing. -/
theorem addFakeArp_cases (services : ArpServices) (opened : Bool) (i : Int) (a : IpAddress)
    (mac : Mac) : services.addFakeArp opened i a mac =
      if opened = true ∨ services[i]?.isSome then (Nested.put services i a mac, true)
      else (services, false) := by
  unfold addFakeArp Nested.put
  cases services[i]? with
  | none => cases opened <;> rfl
  | some addresses => simp

theorem removeFakeArp_cases (services : ArpServices) (i : Int) (a : IpAddress) :
    (services.removeFakeArp i a).1 = Nested.drop services i a ∨
      ((services.removeFakeArp i a).1 = services ∧ services.fakeArp i a = none) := by
  unfold removeFakeArp fakeArp Nested.drop Nested.find
  cases services[i]? with
  | none => exact .inl rfl
  | some addresses =>
    dsimp only
    split
    · left
      split <;> rfl
    · rename_i absent
      exact .inr ⟨rfl, Std.TreeMap.getElem?_eq_none absent⟩

theorem call_failed {services : ArpServices} (c : ArpCall) (failed : (services.call c).2 = false) :
    (services.call c).1 = services := by
  cases c with
  | addFakeArp opened i a mac =>
    rw [call, addFakeArp_cases] at failed ⊢
    split at failed
    · cases failed
    · rename_i none
      rw [if_neg none]
  | removeFakeArp i a =>
    change (services.removeFakeArp i a).2 = false at failed
    change (services.removeFakeArp i a).1 = services
    unfold removeFakeArp at failed ⊢
    split at failed
    · rfl
    · split at failed
      · dsimp only at failed
        split at failed <;> cases failed
      · cases failed

theorem call_keeps {services : ArpServices} {held : Held} (keeps : services.Keeps held)
    (c : ArpCall) : Keeps (services.call c).1 (held.record c) := by
  cases c with
  | addFakeArp opened i a mac =>
    simp only [call, addFakeArp_cases, Held.record, keeps.present_iff]
    split
    · exact keeps_put keeps i a mac
    · exact keeps
  | removeFakeArp i a =>
    rcases services.removeFakeArp_cases i a with dropped | ⟨kept, absent⟩
    · rw [call, dropped]
      exact keeps_drop keeps i a
    · rw [call, kept]
      refine ⟨keeps.occupied, fun j b mac => ?_⟩
      rw [Held.record, Held.mem_without, ← keeps.same]
      refine ⟨fun stored => ⟨stored, ?_⟩, And.left⟩
      rintro ⟨rfl, rfl⟩
      rw [absent] at stored
      cases stored

theorem run_keeps {services : ArpServices} {held : Held} (keeps : services.Keeps held)
    (calls : List ArpCall) : Keeps (services.run calls) (calls.foldl Held.record held) := by
  induction calls generalizing services held with
  | nil => exact keeps
  | cons c rest ih => exact ih (call_keeps keeps c)

/-! ### One frame -/

theorem arpPacket_length (operation : UInt8) (senderHardware : Mac) (senderProtocol : Ipv4)
    (targetHardware : Mac) (targetProtocol : Ipv4) :
    (arpPacket operation senderHardware senderProtocol targetHardware targetProtocol).length =
      28 := by simp [arpPacket]

def vectorAt (packet : List UInt8) (offset count : Nat) (room : offset + count ≤ packet.length) :
    Vector UInt8 count :=
  ⟨((packet.drop offset).take count).toArray, by simp; omega⟩

/-- A packet with the fixed fields of a request is one. -/
theorem request_of_fields {packet : List UInt8} (size : packet.length = 28)
    (fields : packet.take 8 = [0, 1, 8, 0, 6, 4, 0, 1]) :
    packet = arpPacket 1 (vectorAt packet 8 6 (by omega)) (vectorAt packet 14 4 (by omega))
      (vectorAt packet 18 6 (by omega)) (vectorAt packet 24 4 (by omega)) := by
  have cut : ∀ a b, (packet.drop a).take b ++ packet.drop (a + b) = packet.drop a := by
    intro a b
    rw [← List.drop_drop, List.take_append_drop]
  have last : (packet.drop 24).take 4 = packet.drop 24 :=
    List.take_of_length_le (by simp [size])
  simp only [arpPacket, vectorAt, Vector.toList, List.append_assoc, last, cut 18 6, cut 14 4,
    cut 8 6]
  rw [← fields, List.take_append_drop]

theorem onArpPacket_request (addresses : IpAddressMap) (requester : Mac) (sender : Ipv4)
    (asked : Mac) (target : Ipv4) (padding : List UInt8) :
    onArpPacket addresses (arpPacket 1 requester sender asked target ++ padding) =
      addresses[IpAddress.ofIpv4 target]?.map fun mac =>
        arpPacket 2 mac target requester sender := by
  have size := arpPacket_length 1 requester sender asked target
  have whole := Memory.slice_store (fun _ => 0) 0 (arpPacket 1 requester sender asked target)
  have packet : (arpPacket 1 requester sender asked target ++ padding).take 28 =
      arpPacket 1 requester sender asked target := List.take_left' size
  have fields : (arpPacket 1 requester sender asked target).take 8 = [0, 1, 8, 0, 6, 4, 0, 1] := by
    rw [arpPacket, List.append_assoc, List.append_assoc, List.append_assoc]
    exact List.take_left' rfl
  unfold onArpPacket
  simp only [packet, size, fields, ne_eq, not_true_eq_false, or_self, if_false]
  generalize Memory.store (fun _ => 0) 0 (arpPacket 1 requester sender asked target) = cells
    at whole ⊢
  rw [size, arpPacket] at whole
  simp only [List.append_assoc] at whole
  have hardware : Memory.slice cells 8 6 = requester.toList := by
    simpa using Memory.slice_middle whole
  rw [← List.append_assoc] at whole
  have protocol : Memory.slice cells 14 4 = sender.toList := by
    simpa using Memory.slice_middle whole
  rw [← List.append_assoc, ← List.append_assoc] at whole
  have wanted : Memory.slice cells 24 4 = target.toList := by
    simpa using Memory.slice_suffix whole
  have address : IpAddress.load cells 24 .inet = IpAddress.ofIpv4 target :=
    IpAddress.ext rfl wanted
  rw [address, hardware, protocol]
  cases addresses[IpAddress.ofIpv4 target]? with
  | none => rfl
  | some mac => rfl

theorem onArpPacket_answers {addresses : IpAddressMap} {frame reply : List UInt8}
    (answers : onArpPacket addresses frame = some reply) :
    ∃ requester sender asked target padding,
      frame = arpPacket 1 requester sender asked target ++ padding := by
  by_cases other : (frame.take 28).length ≠ 28 ∨ (frame.take 28).take 8 ≠ [0, 1, 8, 0, 6, 4, 0, 1]
  · rw [onArpPacket, if_pos other] at answers
    cases answers
  · obtain ⟨size, fields⟩ := not_or.mp other
    have same := request_of_fields (not_not.mp size) (not_not.mp fields)
    exact ⟨_, _, _, _, frame.drop 28, by rw [← same, List.take_append_drop]⟩

theorem onFrame_request (services : ArpServices) (i : Int) (requester : Mac) (sender : Ipv4)
    (asked : Mac) (target : Ipv4) (padding : List UInt8) :
    services.onFrame i (arpPacket 1 requester sender asked target ++ padding) =
      (services.fakeArp i (.ofIpv4 target)).map fun mac =>
        arpPacket 2 mac target requester sender := by
  rw [onFrame, fakeArp, Nested.find, Option.map_bind]
  exact Option.bind_congr fun addresses _ =>
    onArpPacket_request addresses requester sender asked target padding

theorem onFrame_eq_some {services : ArpServices} {i : Int} {frame reply : List UInt8} :
    services.onFrame i frame = some reply ↔ ∃ requester sender asked target padding mac,
      frame = arpPacket 1 requester sender asked target ++ padding ∧
      services.fakeArp i (.ofIpv4 target) = some mac ∧
      reply = arpPacket 2 mac target requester sender := by
  constructor
  · intro answers
    obtain ⟨addresses, _, one⟩ := Option.bind_eq_some_iff.mp answers
    obtain ⟨requester, sender, asked, target, padding, rfl⟩ := onArpPacket_answers one
    rw [onFrame_request] at answers
    obtain ⟨mac, held, same⟩ := Option.map_eq_some_iff.mp answers
    exact ⟨requester, sender, asked, target, padding, mac, rfl, held, same.symm⟩
  · rintro ⟨requester, sender, asked, target, padding, mac, rfl, held, rfl⟩
    rw [onFrame_request, held, Option.map_some]

/-- After any calls: a frame is answered if and only if it begins with a request for an address
that is held on its interface, with the MAC of the latest addition; an interface has a socket
exactly as long as it holds an address; and the next addition fails only if there is no socket
and none can be opened, which changes nothing. -/
theorem answers_exactly (calls : List ArpCall) :
    let services := run ∅ calls
    let held := heldAfter calls
    (∀ i frame reply, services.onFrame i frame = some reply ↔
      ∃ requester sender asked target padding mac,
        frame = arpPacket 1 requester sender asked target ++ padding ∧
        (i, .ofIpv4 target, mac) ∈ held ∧
        reply = arpPacket 2 mac target requester sender) ∧
    (∀ i, services[i]?.isSome ↔ ∃ addition ∈ held, addition.1 = i) ∧
    (∀ opened i a mac, (services.addFakeArp opened i a mac).2 = true ↔
      opened = true ∨ ∃ addition ∈ held, addition.1 = i) ∧
    ∀ c, (services.call c).2 = false → (services.call c).1 = services := by
  intro services held
  have start : Keeps ∅ [] := ⟨fun a inner stored => by simp at stored, fun _ _ _ => by
    simp [fakeArp, Nested.find]⟩
  have keeps : services.Keeps held := run_keeps start calls
  refine ⟨fun i frame reply => ?_, keeps.present_iff, fun opened i a mac => ?_,
    fun c failed => call_failed c failed⟩
  · rw [onFrame_eq_some]
    simp only [keeps.same]
  · simp only [addFakeArp_cases, keeps.present_iff]
    split
    · rename_i added
      exact iff_of_true rfl added
    · rename_i refused
      exact iff_of_false Bool.false_ne_true refused

/-- As it comes over an Ethernet, with 18 bytes of padding, a request is answered too. -/
theorem padded_request_answered :
    let services := run ∅ [.addFakeArp true 2 (.ofIpv4 #v[192, 0, 2, 100])
      #v[0, 0, 0x5E, 0, 1, 51]]
    let frame := arpPacket 1 #v[2, 0, 0, 0, 0, 1] #v[192, 0, 2, 1] #v[0, 0, 0, 0, 0, 0]
      #v[192, 0, 2, 100] ++ List.replicate 18 0
    frame.length ≠ 28 ∧ services.onFrame 2 frame =
      some (arpPacket 2 #v[0, 0, 0x5E, 0, 1, 51] #v[192, 0, 2, 100] #v[2, 0, 0, 0, 0, 1]
        #v[192, 0, 2, 1]) := by
  refine ⟨by decide, ?_⟩
  decide +kernel

end ArpServices

end OpenVrrp
