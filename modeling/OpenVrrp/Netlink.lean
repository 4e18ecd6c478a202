import OpenVrrp.Library.Nested
import OpenVrrp.Service

/-! Netlink (netlink.h, netlink.cpp): the two ways in which a service learns about its link.
`isInterfaceUp` asks for the operational state when the service is enabled; the monitor
calls back on every RTM_NEWLINK message with what the flags say. -/
namespace OpenVrrp

/-- `ifi_flags` and `IFLA_OPERSTATE` of a link. -/
structure LinkState where
  flags : UInt32
  operstate : UInt8
  deriving DecidableEq, Repr

structure LinkMessage where
  type : UInt16
  index : Int
  flags : UInt32

namespace Netlink

def rtmNewLink : UInt16 := 16
def iffUp : UInt32 := 1
def ifOperUp : UInt8 := 6

def newLink (interface : Int) (link : LinkState) : LinkMessage :=
  ⟨rtmNewLink, interface, link.flags⟩

/-- The netlink socket could be opened; `none` stands for an interface that is not there. -/
def isInterfaceUp (links : Int → Option LinkState) (interface : Int) : Bool :=
  match links interface with
  | some link => link.operstate == ifOperUp
  | none => false

/-- The callbacks by interface and user data; the function is always
VrrpService::interfaceCallback. -/
abbrev CallbackMap (ι : Type) [Ord ι] := Nested.Registry Int ι Unit

variable {ι : Type} [Ord ι]

/-- On a netlink socket that could be opened. -/
def addInterfaceMonitor (callbacks : CallbackMap ι) (interface : Int) (userData : ι) :
    CallbackMap ι × Bool :=
  match Nested.find callbacks interface userData with
  | some _ => (callbacks, false)
  | none => (Nested.put callbacks interface userData (), true)

/-- The calls that are made, in order: the user data and `isUp`. -/
def nlMessageCallback (callbacks : CallbackMap ι) (message : LinkMessage) : List (ι × Bool) :=
  if message.type = rtmNewLink then
    match callbacks[message.index]? with
    | some data => data.keys.map fun userData => (userData, message.flags &&& iffUp == iffUp)
    | none => []
  else []

theorem mem_nlMessageCallback [Std.TransOrd ι] [Std.LawfulEqOrd ι] (callbacks : CallbackMap ι)
    (interface : Int) (link : LinkState) (userData : ι) (isUp : Bool) :
    (userData, isUp) ∈ nlMessageCallback callbacks (newLink interface link) ↔
      Nested.find callbacks interface userData = some () ∧
        isUp = (link.flags &&& iffUp == iffUp) := by
  simp only [nlMessageCallback, newLink, if_true, Nested.find]
  cases callbacks[interface]? with
  | none => simp
  | some data =>
    simp only [Option.bind_some, List.mem_map, Prod.mk.injEq, Std.TreeMap.mem_keys,
      ← Std.TreeMap.isSome_getElem?_iff_mem]
    constructor
    · rintro ⟨other, inside, rfl, rfl⟩
      exact ⟨Option.isSome_iff_exists.mp inside |>.elim fun _ found => found, rfl⟩
    · rintro ⟨inside, rfl⟩
      exact ⟨userData, by rw [inside]; rfl, rfl, rfl⟩

end Netlink

end OpenVrrp
