import OpenVrrp.Address
import OpenVrrp.Library.Nested

/-! ArpService (arpservice.h, arpservice.cpp): for each interface the addresses that are
answered for, each with the hardware address to answer with. An interface without
addresses has no service. -/
namespace OpenVrrp

abbrev Mac := Vector UInt8 6

abbrev IpAddressMap := Std.TreeMap IpAddress Mac

/-- `ArpService::services`. -/
abbrev ArpServices := Nested.Registry Int IpAddress Mac

namespace ArpServices

/-- `opened` says whether the socket of a new service could be opened, bound and monitored. -/
def addFakeArp (services : ArpServices) (opened : Bool) (interface : Int) (address : IpAddress)
    (mac : Mac) : ArpServices × Bool :=
  match services[interface]? with
  | none =>
    if opened then (services.insert interface ((∅ : IpAddressMap).insert address mac), true)
    else (services, false)
  | some addresses => (services.insert interface (addresses.insert address mac), true)

def removeFakeArp (services : ArpServices) (interface : Int) (address : IpAddress) :
    ArpServices × Bool :=
  match services[interface]? with
  | none => (services, false)
  | some addresses =>
    if address ∈ addresses then
      let addresses := addresses.erase address
      if addresses.size = 0 then (services.erase interface, true)
      else (services.insert interface addresses, true)
    else (services, true)

def fakeArp (services : ArpServices) (interface : Int) (address : IpAddress) : Option Mac :=
  Nested.find services interface address

/-- What `onArpPacket` sends for a received frame: `sizeof(packet)` is 28, and a longer
frame is cut there. -/
def onArpPacket (addresses : IpAddressMap) (frame : List UInt8) : Option (List UInt8) :=
  let packet := frame.take 28
  if packet.length ≠ 28 ∨ packet.take 8 ≠ [0, 1, 8, 0, 6, 4, 0, 1] then none
  else
    let cells := Memory.store (fun _ => 0) 0 packet
    let address := IpAddress.load cells 24 .inet
    match addresses[address]? with
    | none => none
    | some mac => some ([0, 1, 8, 0, 6, 4, 0, 2] ++ mac.toList ++ address.data ++
        Memory.slice cells 8 6 ++ Memory.slice cells 14 4)

theorem addFakeArp_eq (services : ArpServices) (interface : Int) (address : IpAddress)
    (mac : Mac) : (services.addFakeArp true interface address mac).1 =
      Nested.put services interface address mac := by
  unfold addFakeArp Nested.put
  cases services[interface]? <;> rfl

theorem removeFakeArp_find (services : ArpServices) (i j : Int) (a b : IpAddress) :
    Nested.find (services.removeFakeArp i a).1 j b =
      Nested.find (Nested.drop services i a) j b := by
  unfold removeFakeArp
  cases found : services[i]? with
  | none => simp only [Nested.drop, found]
  | some addresses =>
    dsimp only
    split
    · simp only [Nested.drop, found]
      split <;> rfl
    · rename_i absent
      have missing : Nested.find services i a = none := by
        simp only [Nested.find, found, Option.bind_some]
        exact Std.TreeMap.getElem?_eq_none absent
      exact (Nested.drop_eq_of_find_none services missing).symm

end ArpServices

end OpenVrrp
