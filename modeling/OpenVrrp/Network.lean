import OpenVrrp.Library.Election
import OpenVrrp.Service.Transitions
import Mathlib.Data.Prod.Lex

/-! The routers of one virtual router on one LAN, with every advertisement ever sent.
An advertisement may be delivered any number of times, at any later moment and in any
order, or never. -/
namespace OpenVrrp

variable {ι : Type} [DecidableEq ι]

structure Message (ι : Type) where
  sender : ι
  address : IpAddress
  priority : UInt8
  interval : WireInterval
  addresses : List IpAddress

namespace Message

def event (m : Message ι) : Event := .incomingPacket m.address m.priority m.interval m.addresses

/-- The interval keeps its twelve low bits on the wire. -/
def ofEffect (sender : ι) : Effect → Option (Message ι)
  | .sendPacket _ address _ priority interval addresses =>
    some ⟨sender, address, priority, ⟨interval % 4096, Nat.mod_lt _ (by decide)⟩,
      addresses.toList⟩
  | _ => none

end Message

structure Network (ι : Type) where
  routers : ι → VrrpService
  sent : List (Message ι)
  wasMaster : List ι

namespace Network

def initial (routers : ι → VrrpService) : Network ι := ⟨routers, [], []⟩

/-- One router handles one event; what it sends stays available for delivery. -/
def act (n : Network ι) (i : ι) (e : Event) : Network ι :=
  let outcome := (n.routers i).step e
  { routers := Function.update n.routers i outcome.1
    sent := n.sent ++ outcome.2.filterMap (Message.ofEffect i)
    wasMaster := if outcome.1.state = .master then i :: n.wasMaster else n.wasMaster }

/-- Link up, the two timers, and the delivery of an advertisement to another router. -/
inductive Step : Network ι → Network ι → Prop where
  | enable (n : Network ι) (i : ι) : Step n (n.act i (.enable true))
  | masterDown (n : Network ι) (i : ι) : Step n (n.act i .masterDownExpiry)
  | advertisement (n : Network ι) (i : ι) : Step n (n.act i .advertisementExpiry)
  | deliver (n : Network ι) (m : Message ι) (sent : m ∈ n.sent) (j : ι) (other : j ≠ m.sender) :
      Step n (n.act j m.event)

def Reachable (routers : ι → VrrpService) : Network ι → Prop :=
  Relation.ReflTransGen Step (initial routers)

end Network

def VrrpService.rank (s : VrrpService) : Nat ×ₗ IpAddress :=
  toLex (s.priority.1.toNat, s.primaryIpAddress)

end OpenVrrp
