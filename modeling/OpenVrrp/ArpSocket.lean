import OpenVrrp.ArpService.Answers

/-! ArpSocket (arpsocket.h, arpsocket.cpp): the frame that announces a virtual address. -/
namespace OpenVrrp.ArpSocket

/-- `hardware` is what SIOCGIFHWADDR answers for an interface; `none` also stands for a socket
that could not be opened or bound to it. -/
def sendGratuitiousArp (hardware : Int → Option Mac) (interface : Int) (address : IpAddress) :
    Option (List UInt8) :=
  if address.family ≠ .inet then none
  else (hardware interface).map fun mac =>
    [0, 1, 8, 0, 6, 4, 0, 2] ++ mac.toList ++ address.data ++ List.replicate 6 0 ++ address.data

/-- It is a reply to nobody's request, broadcast, about the address to itself. -/
theorem sendGratuitiousArp_eq_some {hardware : Int → Option Mac} {interface : Int}
    {address : IpAddress} {frame : List UInt8} :
    sendGratuitiousArp hardware interface address = some frame ↔
      ∃ (target : Ipv4) (mac : Mac), address = .ofIpv4 target ∧ hardware interface = some mac ∧
        frame = arpPacket 2 mac target (Vector.replicate 6 0) target := by
  unfold sendGratuitiousArp
  constructor
  · intro made
    split at made
    · cases made
    · rename_i known
      obtain ⟨mac, found, rfl⟩ := Option.map_eq_some_iff.mp made
      have family : address.family = .inet := not_not.mp known
      have size : address.data.length = 4 := by rw [address.sized, family]; rfl
      refine ⟨⟨address.data.toArray, by simp [size]⟩, mac, IpAddress.ext family rfl, found, rfl⟩
  · rintro ⟨target, mac, rfl, found, rfl⟩
    rw [if_neg (by simp [IpAddress.ofIpv4]), found]
    rfl

end OpenVrrp.ArpSocket
