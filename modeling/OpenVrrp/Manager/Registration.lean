import OpenVrrp.Manager
import OpenVrrp.Service.Transitions
import OpenVrrp.Socket

/-! What the constructor and the destructor of a service do to the socket of its family,
and so what VrrpManager::getService and removeService do to it: the multicast groups it is a
member of, their reference counts, and the listeners. A service is identified by a number
that is never used again. -/
namespace OpenVrrp

namespace VrrpService

section Construct
variable {key : RouterKey} {vlanId : UInt64} {answers : Creation} {s : VrrpService}
  (created : construct key.interface key.family key.virtualRouterId vlanId answers = some s)
include created

theorem construct_key : s.key = key := by
  obtain ⟨macvlan, vlan, output, mac, rfl⟩ := construct_fresh created
  rfl

theorem construct_vlanId : s.vlanId = vlanId := by
  obtain ⟨macvlan, vlan, output, mac, rfl⟩ := construct_fresh created
  rfl

end Construct

end VrrpService

/-- The socket of one family with the interfaces on which the kernel has it in the group. -/
structure Group where
  socket : VrrpSocket Nat
  members : Finset Int

namespace Group

def empty (family : Family) : Group := ⟨⟨family, ∅, ∅⟩, ∅⟩

def count (g : Group) (interface : Int) : Nat := g.socket.interfaceCount[interface]?.getD 0

def listener (g : Group) (interface : Int) (virtualRouterId : UInt8) : Option Nat :=
  Nested.find g.socket.listeners interface virtualRouterId

/-- The kernel is asked to join only for the first service on an interface. -/
def addInterface (g : Group) (joined : Bool) (interface : Int) : Group × Bool :=
  let asks := g.socket.interfaceCount[interface]?.isNone
  let outcome := g.socket.addInterface joined interface
  (⟨outcome.1, if asks && joined then insert interface g.members else g.members⟩, outcome.2)

/-- The kernel is asked to leave for the last one, and does. -/
def removeInterface (g : Group) (interface : Int) : Group :=
  let asks := g.socket.interfaceCount[interface]? == some 1
  ⟨(g.socket.removeInterface true interface).1,
    if asks then g.members.erase interface else g.members⟩

def addEventListener (g : Group) (interface : Int) (virtualRouterId : UInt8) (listener : Nat) :
    Group := { g with socket := g.socket.addEventListener interface virtualRouterId listener }

def removeEventListener (g : Group) (interface : Int) (virtualRouterId : UInt8) : Group :=
  { g with socket := g.socket.removeEventListener interface virtualRouterId }

/-- The end of the constructor. -/
def register (g : Group) (joined : Bool) (interface : Int) (virtualRouterId : UInt8)
    (listener : Nat) : Group × Bool :=
  let (g, joined) := g.addInterface joined interface
  (g.addEventListener interface virtualRouterId listener, joined)

/-- The part of the destructor that is about the socket. -/
def unregister (g : Group) (interface : Int) (virtualRouterId : UInt8) : Group :=
  (g.removeInterface interface).removeEventListener interface virtualRouterId

end Group

/-- A live service, its number and whether its `addInterface` succeeded. -/
structure Registered where
  service : VrrpService
  pointer : Nat
  joined : Bool

/-- How the host answers the creation of a service. -/
structure Answers where
  opened : Bool
  creation : Creation
  joined : Bool

structure Registration where
  services : Std.TreeMap RouterKey Registered
  opened : Family → Bool
  groups : Family → Group
  allocated : Nat

namespace Registration

def initial : Registration := ⟨∅, fun _ => false, Group.empty, 0⟩

/-- VrrpSocket::instance: a socket that was opened stays. -/
def instanceOf (r : Registration) (family : Family) (opened : Bool) : Bool :=
  match family with
  | .inet | .inet6 => r.opened family || opened
  | .unspec => false

def setGroup (r : Registration) (family : Family) (g : Group) : Registration :=
  { r with groups := Function.update r.groups family g }

/-- The constructor, and `delete` when it has set `m_error`. Without a socket neither
touches the registration; without its VLAN interface the service still has the physical
interface as its input interface when it is deleted. -/
def create (r : Registration) (key : RouterKey) (vlanId : UInt64) (answers : Answers) :
    Registration × Option Nat :=
  if r.instanceOf key.family answers.opened then
    let r := { r with
      opened := Function.update r.opened key.family true
      allocated := r.allocated + 1 }
    let pointer := r.allocated
    match VrrpService.construct key.interface key.family key.virtualRouterId vlanId
        answers.creation with
    | none =>
      (r.setGroup key.family
        ((r.groups key.family).unregister key.interface key.virtualRouterId), none)
    | some service =>
      let (g, joined) := (r.groups key.family).register answers.joined service.inputInterface
        key.virtualRouterId pointer
      ({ r.setGroup key.family g with
          services := r.services.insert key ⟨service, pointer, joined⟩ }, some pointer)
  else (r, none)

def getService (r : Registration) (key : RouterKey) (vlanId : UInt64) (createIfMissing : Bool)
    (answers : Answers) : Registration × Option Nat :=
  match r.services[key]? with
  | some registered => (r, some registered.pointer)
  | none => if createIfMissing then r.create key vlanId answers else (r, none)

def removeService (r : Registration) (key : RouterKey) : Registration :=
  match r.services[key]? with
  | some ⟨service, _, _⟩ =>
    { r.setGroup service.family ((r.groups service.family).unregister service.inputInterface
        service.virtualRouterId) with services := r.services.erase key }
  | none => r

inductive Request where
  | getService (key : RouterKey) (vlanId : UInt64) (createIfMissing : Bool) (answers : Answers)
  | removeService (key : RouterKey)

/-- The request makes a service, if its VLAN interface can be made. -/
def Creates (r : Registration) (key : RouterKey) (createIfMissing : Bool) (answers : Answers) :
    Prop :=
  r.services[key]? = none ∧ createIfMissing = true ∧
    r.instanceOf key.family answers.opened = true

def step (r : Registration) : Request → Registration
  | .getService key vlanId createIfMissing answers =>
    (r.getService key vlanId createIfMissing answers).1
  | .removeService key => r.removeService key

/-! ### The manager that is seen from outside -/

def manager (r : Registration) : VrrpManager :=
  ⟨r.services.map fun _ registered => registered.service⟩

theorem manager_find (r : Registration) (key : RouterKey) :
    r.manager.services[key]? = r.services[key]?.map Registered.service :=
  Std.TreeMap.getElem?_map

/-- With a socket for the family, the services are those of the manager alone. -/
theorem getService_manager (r : Registration) (kernel : Kernel) (key : RouterKey)
    (vlanId : UInt64) (createIfMissing : Bool) (answers : Answers)
    (available : r.instanceOf key.family answers.opened = true)
    (same : kernel.creation key vlanId = answers.creation) (other : RouterKey) :
    (r.getService key vlanId createIfMissing answers).1.manager.services[other]? =
      (r.manager.getService kernel key vlanId createIfMissing).1.services[other]? := by
  unfold getService VrrpManager.getService
  rw [manager_find r key]
  cases stored : r.services[key]? with
  | some registered => rfl
  | none =>
    cases createIfMissing with
    | false => rfl
    | true =>
      simp only [if_true, Option.map_none, create, if_pos available, same]
      cases VrrpService.construct key.interface key.family key.virtualRouterId vlanId
          answers.creation with
      | none => rfl
      | some service =>
        simp only [manager_find]
        by_cases here : key = other
        · rw [here, Nested.insert_self, Nested.insert_self]
          rfl
        · rw [Nested.insert_other _ _ here, Nested.insert_other _ _ here, manager_find]

theorem removeService_manager (r : Registration) (key other : RouterKey) :
    (r.removeService key).manager.services[other]? =
      (r.manager.removeService key).services[other]? := by
  unfold removeService VrrpManager.removeService
  rw [manager_find]
  by_cases here : key = other
  · subst here
    rw [Nested.erase_self]
    cases stored : r.services[key]? with
    | some registered => simp only [Nested.erase_self, Option.map_none]
    | none => simp only [stored, Option.map_none]
  · rw [Nested.erase_other _ here, manager_find]
    cases stored : r.services[key]? with
    | some registered => simp only [Nested.erase_other _ here]
    | none => rfl

/-! ### One request -/

/-- What one request can do: nothing, fail for the want of a VLAN interface, make a service,
or remove one. -/
inductive Change (r : Registration) : Request → Registration → Prop where
  | answered {key : RouterKey} {vlanId : UInt64} {createIfMissing : Bool} {answers : Answers}
      (idle : ¬ r.Creates key createIfMissing answers) :
      Change r (.getService key vlanId createIfMissing answers) r
  | refused {key : RouterKey} {vlanId : UInt64} {createIfMissing : Bool} {answers : Answers}
      {opened : Family → Bool} (creates : r.Creates key createIfMissing answers)
      (vlan : 0 < vlanId ∧ answers.creation.vlanInterface < 0) :
      Change r (.getService key vlanId createIfMissing answers)
        ⟨r.services, opened, Function.update r.groups key.family
          ((r.groups key.family).unregister key.interface key.virtualRouterId), r.allocated + 1⟩
  | created {key : RouterKey} {vlanId : UInt64} {createIfMissing : Bool} {answers : Answers}
      {opened : Family → Bool} {service : VrrpService}
      (creates : r.Creates key createIfMissing answers)
      (made : VrrpService.construct key.interface key.family key.virtualRouterId vlanId
        answers.creation = some service) :
      Change r (.getService key vlanId createIfMissing answers)
        ⟨r.services.insert key ⟨service, r.allocated + 1, ((r.groups key.family).register
            answers.joined service.inputInterface key.virtualRouterId (r.allocated + 1)).2⟩,
          opened, Function.update r.groups key.family ((r.groups key.family).register
            answers.joined service.inputInterface key.virtualRouterId (r.allocated + 1)).1,
          r.allocated + 1⟩
  | unknown {key : RouterKey} (absent : r.services[key]? = none) :
      Change r (.removeService key) r
  | removed {key : RouterKey} {registered : Registered}
      (stored : r.services[key]? = some registered) :
      Change r (.removeService key)
        ⟨r.services.erase key, r.opened, Function.update r.groups registered.service.family
          ((r.groups registered.service.family).unregister registered.service.inputInterface
            registered.service.virtualRouterId), r.allocated⟩

theorem step_changes (r : Registration) (request : Request) :
    r.Change request (r.step request) := by
  cases request with
  | removeService key =>
    simp only [step, removeService]
    cases stored : r.services[key]? with
    | none => exact .unknown stored
    | some registered => exact .removed stored
  | getService key vlanId createIfMissing answers =>
    simp only [step, getService]
    cases stored : r.services[key]? with
    | some registered => exact .answered fun creates => by rw [creates.1] at stored; cases stored
    | none =>
      cases createIfMissing with
      | false => exact .answered fun creates => nomatch creates.2.1
      | true =>
        simp only [if_true, create]
        split
        · rename_i available
          have creates : r.Creates key true answers := ⟨stored, rfl, available⟩
          split
          · rename_i failed
            exact .refused creates (VrrpService.construct_eq_none_iff.mp failed)
          · rename_i service made
            exact .created creates made
        · rename_i unavailable
          exact .answered fun creates => unavailable creates.2.2

end Registration

end OpenVrrp
