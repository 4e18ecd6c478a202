import OpenVrrp.Service.AddressList
import OpenVrrp.Service.Disabling
import OpenVrrp.Service.Placement

/-! The address list of a Master, changed while it is Master or before. The loops over the
whole list keep fake-ARP entries on the physical interface, a single change keeps its
entry on the output interface; and a single removal takes an address away that another
subnet still has. -/
namespace OpenVrrp

open Edits

namespace Host

/-- The same subnets on the same interfaces and the same fake-ARP entries. -/
structure Same (h g : Host) : Prop where
  configured : h.configured = g.configured
  arp : ∀ interface address,
    h.arp.fakeArp interface address = g.arp.fakeArp interface address

/-- Nothing is there that was not there before. -/
structure Within (h before : Host) : Prop where
  configured : h.configured ⊆ before.configured
  arp : ∀ interface address mac, h.arp.fakeArp interface address = some mac →
    before.arp.fakeArp interface address = some mac

end Host

/-- The request for one subnet on an interface, by whether addresses go there or into the
fake-ARP table. -/
def Effect.ofEdit (onInterface : Bool) (interface : Int) (mac : Mac) (e : Edit IpSubnet) : Effect :=
  if onInterface then
    if e.added then .addIpAddress interface e.target else .removeIpAddress interface e.target
  else if e.added then .addFakeArp interface e.target.address mac
  else .removeFakeArp interface e.target.address

section Requests
variable (interface : Int) (mac : Mac) (edits : List (Edit IpSubnet)) (h : Host)

theorem run_onInterface : h.run (edits.map (Effect.ofEdit true interface mac)) =
    { h with configured := after h.configured (edits.map (Edit.map (interface, ·))) } := by
  induction edits generalizing h with
  | nil => rfl
  | cons e rest ih =>
    rw [List.map_cons, Host.run_cons, ih]
    cases added : e.added with
    | true => simp [Effect.ofEdit, added, Host.apply, after, Edit.map, Edits.apply]
    | false => simp [Effect.ofEdit, added, Host.apply, after, Edit.map, Edits.apply]

theorem apply_fakeArp (e : Edit IpSubnet) :
    (h.apply (Effect.ofEdit false interface mac e)).configured = h.configured ∧
    ∀ i address, (h.apply (Effect.ofEdit false interface mac e)).arp.fakeArp i address =
      if i = interface ∧ e.target.address = address then if e.added then some mac else none
      else h.arp.fakeArp i address := by
  cases added : e.added with
  | true =>
    simp only [Effect.ofEdit, added, Host.apply, Bool.false_eq_true, if_false, if_true,
      ArpServices.addFakeArp_eq, true_and]
    intro i address
    split
    · rename_i same
      rw [same.1, ← same.2]
      exact Nested.find_put_self ..
    · rename_i other
      exact Nested.find_put_other _ _ fun first second => other ⟨first.symm, second⟩
  | false =>
    simp only [Effect.ofEdit, added, Host.apply, Bool.false_eq_true, if_false, true_and]
    intro i address
    rw [ArpServices.fakeArp, ArpServices.removeFakeArp_find]
    split
    · rename_i same
      rw [same.1, ← same.2]
      exact Nested.find_drop_self ..
    · rename_i other
      exact Nested.find_drop_other _ fun first second => other ⟨first.symm, second⟩

theorem run_fakeArp :
    (h.run (edits.map (Effect.ofEdit false interface mac))).configured = h.configured ∧
    ∀ i address, (h.run (edits.map (Effect.ofEdit false interface mac))).arp.fakeArp i address =
      if i = interface then overlay (h.arp.fakeArp interface) mac (edits.map ofAddress) address
      else h.arp.fakeArp i address := by
  induction edits generalizing h with
  | nil =>
    refine ⟨rfl, fun i address => ?_⟩
    split
    · rename_i same
      rw [same]
      rfl
    · rfl
  | cons e rest ih =>
    obtain ⟨configured, arp⟩ := ih (h.apply (Effect.ofEdit false interface mac e))
    obtain ⟨first, table⟩ := apply_fakeArp interface mac h e
    rw [List.map_cons, Host.run_cons]
    refine ⟨configured.trans first, fun i address => (arp i address).trans ?_⟩
    split
    · rw [List.map_cons, overlay_cons]
      congr 1
      funext b
      by_cases same : e.target.address = b <;> simp [table, ofAddress, Edit.map, same]
    · rename_i other
      rw [table, if_neg fun both => other both.1]

theorem mem_onInterface (i : Int) (subnet : IpSubnet) :
    (i, subnet) ∈ (h.run (edits.map (Effect.ofEdit true interface mac))).configured ↔
      if i = interface then
        last subnet edits = some true ∨ (last subnet edits = none ∧ (i, subnet) ∈ h.configured)
      else (i, subnet) ∈ h.configured := by
  rw [run_onInterface, mem_after]
  by_cases same : i = interface
  · subst same
    have injective : Function.Injective fun subnet : IpSubnet => (i, subnet) :=
      Prod.mk_right_injective i
    rw [if_pos rfl, last_map_injective injective]
  · have untouched : last (i, subnet) (edits.map (Edit.map (interface, ·))) = none := by
      rw [last_eq_none]
      intro e inside here
      obtain ⟨other, _, rfl⟩ := List.mem_map.mp inside
      exact same (congrArg Prod.fst here).symm
    simp [untouched, same]

end Requests

namespace VrrpService

/-! ### The loops and the calls as requests -/

def servingInterface (s : VrrpService) : Int :=
  if s.onInterface then s.outputInterface else s.interface

/-- The two loops over the list. -/
def loop (s : VrrpService) (added : Bool) : List Effect :=
  (s.subnets.toList.map (Edit.mk added)).map
    (Effect.ofEdit s.onInterface s.servingInterface s.mac)

theorem addIpAddresses_eq (s : VrrpService) : s.addIpAddresses = s.loop true := by
  rw [loop, List.map_map]
  cases on : s.onInterface <;> simp [addIpAddresses, servingInterface, on, Effect.ofEdit]

theorem removeIpAddresses_eq (s : VrrpService) : s.removeIpAddresses = s.loop false := by
  rw [loop, List.map_map]
  cases on : s.onInterface <;> simp [removeIpAddresses, servingInterface, on, Effect.ofEdit]

theorem loop_onInterface (s : VrrpService) (h : Host) (on : s.onInterface = true) (added : Bool) :
    (h.run (s.loop added)).arp = h.arp ∧
    ∀ i subnet, (i, subnet) ∈ (h.run (s.loop added)).configured ↔
      if i = s.outputInterface ∧ subnet ∈ s.subnetSet then added = true
      else (i, subnet) ∈ h.configured := by
  have serving : s.servingInterface = s.outputInterface := if_pos on
  rw [loop, on, serving]
  refine ⟨by rw [run_onInterface], fun i subnet => ?_⟩
  rw [mem_onInterface, last_uniform]
  by_cases same : i = s.outputInterface
  · by_cases listed : subnet ∈ s.subnets.toList <;> simp [same, subnetSet, listed]
  · simp [same]

theorem loop_fakeArp (s : VrrpService) (h : Host) (off : s.onInterface = false) (added : Bool) :
    (h.run (s.loop added)).configured = h.configured ∧
    ∀ i address, (h.run (s.loop added)).arp.fakeArp i address =
      if i = s.interface ∧ address ∈ s.subnetSet.image IpSubnet.address then
        if added then some s.mac else none
      else h.arp.fakeArp i address := by
  have serving : s.servingInterface = s.interface := if_neg (by simp [off])
  have addresses : (s.subnets.toList.map (Edit.mk added)).map ofAddress =
      (s.subnets.toList.map IpSubnet.address).map (Edit.mk added) := by
    simp only [List.map_map]
    rfl
  rw [loop, off, serving]
  obtain ⟨configured, arp⟩ := run_fakeArp s.interface s.mac (s.subnets.toList.map (Edit.mk added)) h
  refine ⟨configured, fun i address => (arp i address).trans ?_⟩
  by_cases same : i = s.interface
  · subst same
    rw [if_pos rfl, addresses, overlay, last_uniform]
    by_cases listed : address ∈ s.subnets.toList.map IpSubnet.address
    · have inside : address ∈ s.subnetSet.image IpSubnet.address := by
        simpa [subnetSet] using listed
      simp [listed, inside]
    · have outside : address ∉ s.subnetSet.image IpSubnet.address := by
        simpa [subnetSet] using listed
      simp [listed, outside]
  · simp [same]

end VrrpService

/-- The administrator's call. -/
def Event.ofEdit (e : Edit IpSubnet) : Event :=
  if e.added then .addIpAddress e.target else .removeIpAddress e.target

/-- `addIpAddress` refuses a subnet of the other family. -/
def accepted (family : Family) (e : Edit IpSubnet) : Bool :=
  !e.added || decide (e.target.address.family = family)

namespace VrrpService

theorem edits_calls (family : Family) (calls : List (Edit IpSubnet)) :
    Event.edits family (calls.map Event.ofEdit) = calls.filter (accepted family) := by
  induction calls with
  | nil => rfl
  | cons e rest ih =>
    obtain ⟨added, subnet⟩ := e
    rw [List.map_cons, Event.edits, List.filterMap_cons, ← Event.edits, ih, List.filter_cons]
    cases added with
    | true =>
      by_cases same : subnet.address.family = family <;>
        simp [Event.ofEdit, Event.edit, accepted, same]
    | false => simp [Event.ofEdit, Event.edit, accepted]

/-- A call changes nothing but the two lists, and a Master asks for the change at once. -/
theorem call_lists (s : VrrpService) (e : Edit IpSubnet) :
    (∃ subnets addresses,
      (s.step (Event.ofEdit e)).1 = { s with subnets := subnets, addresses := addresses }) ∧
    (s.step (Event.ofEdit e)).2 = if s.state = .master ∧ accepted s.family e then
      [Effect.ofEdit s.onInterface s.outputInterface s.mac e] else [] := by
  obtain ⟨added, subnet⟩ := e
  cases added with
  | true =>
    simp only [Event.ofEdit, if_true, step, addIpAddress, accepted, Bool.not_true, Bool.false_or,
      decide_eq_true_eq, Effect.ofEdit, onInterface]
    by_cases same : subnet.address.family = s.family
    · rw [if_neg (not_not.mpr same)]
      refine ⟨⟨_, _, rfl⟩, ?_⟩
      simp only [same, and_true]
      split
      · exact (apply_ite (fun request => [request]) _ _ _).symm
      · rfl
    · rw [if_pos same, if_neg fun both => same both.2]
      exact ⟨⟨_, _, rfl⟩, rfl⟩
  | false =>
    refine ⟨⟨_, _, rfl⟩, ?_⟩
    simp only [Event.ofEdit, step, removeIpAddress, accepted, Effect.ofEdit, Bool.not_false,
      Bool.true_or, and_true, Bool.false_eq_true, if_false, onInterface]
    split
    · exact (apply_ite (fun request => [request]) _ _ _).symm
    · rfl

theorem run_append (s : VrrpService) (first second : List Event) :
    s.run (first ++ second) = (((s.run first).1.run second).1,
      (s.run first).2 ++ ((s.run first).1.run second).2) := by
  induction first generalizing s with
  | nil => rfl
  | cons e rest ih => simp only [List.cons_append, run, ih, List.append_assoc]

theorem run_calls (s : VrrpService) (calls : List (Edit IpSubnet)) :
    (∃ subnets addresses, (s.run (calls.map Event.ofEdit)).1 =
      { s with subnets := subnets, addresses := addresses }) ∧
    (s.run (calls.map Event.ofEdit)).2 = if s.state = .master then
      (calls.filter (accepted s.family)).map
        (Effect.ofEdit s.onInterface s.outputInterface s.mac) else [] := by
  induction calls generalizing s with
  | nil => exact ⟨⟨_, _, rfl⟩, by simp [run]⟩
  | cons e rest ih =>
    obtain ⟨⟨subnets, addresses, lists⟩, requests⟩ := s.call_lists e
    obtain ⟨⟨moreSubnets, moreAddresses, later⟩, more⟩ := ih (s.step (Event.ofEdit e)).1
    rw [List.map_cons, run]
    refine ⟨⟨moreSubnets, moreAddresses, by rw [later, lists]⟩, ?_⟩
    rw [more, requests, lists, List.filter_cons]
    by_cases master : s.state = .master
    · cases ok : accepted s.family e <;> simp [master, onInterface]
    · simp [master]

/-! ### Entering and leaving Master -/

theorem enter_host (s : VrrpService) (h : Host) {e : Event} (other : s.state ≠ .master)
    (enters : s.Enters e) : h.run (s.step e).2 = h.run s.addIpAddresses := by
  obtain ⟨t, reason, same, becomes⟩ := step_enters enters
  rw [becomes, becomeMaster_host]
  rcases same with rfl | rfl
  · exact setState_master_host _ h other
  · exact setState_master_host _ h other

theorem leave_host (s : VrrpService) (h : Host) {e : Event} (master : s.state = .master)
    (leaves : (s.step e).1.state ≠ .master) : h.run (s.step e).2 = h.run s.removeIpAddresses := by
  rcases step_leaves master leaves with ⟨state, shuts, same⟩ | ⟨_, _, interval, _, _, same⟩
  · rw [same, shutdown_master_snd s state master, Host.run_cons,
      Host.apply_neutral h (sendAdvertisement_neutral s 0),
      setState_other_host _ h shuts.idle.2]
    exact congrArg h.run (if_pos master)
  · rw [same, yield_snd, Host.run_append, Host.run_neutral _ (setDefaultMac_neutral _),
      setState_other_host _ h (by decide)]
    exact congrArg h.run (if_pos master)

/-! ### Two runs -/

/-- The calls that are not refused. -/
def requested (s : VrrpService) (calls : List (Edit IpSubnet)) : List (Edit IpSubnet) :=
  calls.filter (accepted s.family)

/-- The subnets of the service after the calls. -/
def listedAfter (s : VrrpService) (calls : List (Edit IpSubnet)) : Finset IpSubnet :=
  after s.subnetSet (s.requested calls)

/-- The service places these subnets as `s` places its own. -/
structure Serves (s t : VrrpService) (subnets : Finset IpSubnet) : Prop where
  onInterface : t.onInterface = s.onInterface
  interface : t.interface = s.interface
  outputInterface : t.outputInterface = s.outputInterface
  mac : t.mac = s.mac
  listed : t.subnetSet = subnets

/-- The requests that the calls make of a Master. -/
def requests (s : VrrpService) (calls : List (Edit IpSubnet)) : List Effect :=
  (s.requested calls).map (Effect.ofEdit s.onInterface s.outputInterface s.mac)

theorem Serves.trans {s t u : VrrpService} {first second : Finset IpSubnet}
    (left : s.Serves t first) (right : t.Serves u second) : s.Serves u second :=
  ⟨right.onInterface.trans left.onInterface, right.interface.trans left.interface,
    right.outputInterface.trans left.outputInterface, right.mac.trans left.mac, right.listed⟩

theorem enter_serves {s : VrrpService} {e : Event} (enters : s.Enters e) :
    (s.step e).1.state = .master ∧ (s.step e).1.family = s.family ∧
      s.Serves (s.step e).1 s.subnetSet := by
  obtain ⟨t, reason, same, becomes⟩ := step_enters enters
  rw [becomes, becomeMaster_fst]
  rcases same with rfl | rfl
  · exact ⟨rfl, rfl, rfl, rfl, rfl, rfl, rfl⟩
  · exact ⟨rfl, rfl, rfl, rfl, rfl, rfl, rfl⟩

theorem calls_serve (s : VrrpService) (calls : List (Edit IpSubnet)) :
    (s.run (calls.map Event.ofEdit)).1.state = s.state ∧
      s.Serves (s.run (calls.map Event.ofEdit)).1 (s.listedAfter calls) := by
  obtain ⟨⟨subnets, addresses, lists⟩, _⟩ := s.run_calls calls
  have listed := (s.run_lists (calls.map Event.ofEdit)).1
  rw [edits_calls] at listed
  refine ⟨by rw [lists], ?_, ?_, ?_, ?_, listed⟩ <;> rw [lists]
  rfl

theorem calls_enters {s : VrrpService} {e : Event} (enters : s.Enters e)
    (calls : List (Edit IpSubnet)) : (s.run (calls.map Event.ofEdit)).1.Enters e := by
  obtain ⟨⟨subnets, addresses, lists⟩, _⟩ := s.run_calls calls
  rw [lists]
  exact enters

section Runs
variable {s : VrrpService} (h : Host) {enter : Event} (calls : List (Edit IpSubnet))

theorem late_run (other : s.state ≠ .master) (enters : s.Enters enter) :
    (s.run (enter :: calls.map Event.ofEdit)).1.state = .master ∧
    s.Serves (s.run (enter :: calls.map Event.ofEdit)).1 (s.listedAfter calls) ∧
    h.run (s.run (enter :: calls.map Event.ofEdit)).2 =
      (h.run (s.loop true)).run (s.requests calls) := by
  obtain ⟨master, family, serves⟩ := enter_serves enters
  obtain ⟨still, served⟩ := (s.step enter).1.calls_serve calls
  obtain ⟨_, asked⟩ := (s.step enter).1.run_calls calls
  rw [listedAfter, requested, serves.listed, family] at served
  rw [if_pos master, family, serves.onInterface, serves.outputInterface, serves.mac] at asked
  refine ⟨still.trans master, serves.trans served, ?_⟩
  rw [run, Host.run_append, enter_host s h other enters, addIpAddresses_eq, asked]
  rfl

theorem early_run (other : s.state ≠ .master) (enters : s.Enters enter) :
    (s.run (calls.map Event.ofEdit ++ [enter])).1.state = .master ∧
    s.Serves (s.run (calls.map Event.ofEdit ++ [enter])).1 (s.listedAfter calls) ∧
    ∃ t, s.Serves t (s.listedAfter calls) ∧
      h.run (s.run (calls.map Event.ofEdit ++ [enter])).2 = h.run (t.loop true) := by
  obtain ⟨same, served⟩ := s.calls_serve calls
  obtain ⟨_, asked⟩ := s.run_calls calls
  rw [if_neg other] at asked
  have enters' := calls_enters enters calls
  obtain ⟨master, _, serves⟩ := enter_serves enters'
  rw [served.listed] at serves
  rw [run_append]
  refine ⟨master, served.trans serves, _, served, ?_⟩
  simp only [asked, List.nil_append, run, List.append_nil]
  rw [enter_host _ h (same ▸ other) enters', addIpAddresses_eq]

end Runs

/-- What of the calls is seen in the addresses. -/
def touched (s : VrrpService) (calls : List (Edit IpSubnet)) (address : IpAddress) : Option Bool :=
  last address ((s.requested calls).map ofAddress)

/-- When fake-ARP entries do not depend on the order. What other entries there are on the
interfaces matters where a call changes them. -/
def FakeArpAgrees (s : VrrpService) (h : Host) (calls : List (Edit IpSubnet)) : Prop :=
  if s.outputInterface = s.interface then
    ∀ address, s.touched calls address = some false →
      address ∉ (s.listedAfter calls).image IpSubnet.address ∧
        h.arp.fakeArp s.interface address = none
  else
    (∀ address added, s.touched calls address = some added →
      h.arp.fakeArp s.outputInterface address = if added then some s.mac else none) ∧
    ∀ address, (address ∈ s.subnetSet.image IpSubnet.address ↔
        address ∈ (s.listedAfter calls).image IpSubnet.address) ∨
      h.arp.fakeArp s.interface address = some s.mac

def OrderAgrees (s : VrrpService) (h : Host) (calls : List (Edit IpSubnet)) : Prop :=
  if s.onInterface then
    ∀ subnet, last subnet (s.requested calls) = some false →
      (s.outputInterface, subnet) ∉ h.configured
  else s.FakeArpAgrees h calls

section OnInterface
variable {s t : VrrpService} {h : Host} {calls : List (Edit IpSubnet)}
  (on : s.onInterface = true) (served : s.Serves t (s.listedAfter calls))
include on

theorem late_onInterface : ((h.run (s.loop true)).run (s.requests calls)).arp = h.arp ∧
    ∀ i subnet, (i, subnet) ∈ ((h.run (s.loop true)).run (s.requests calls)).configured ↔
      if i = s.outputInterface then
        subnet ∈ s.listedAfter calls ∨
          (last subnet (s.requested calls) = none ∧ (i, subnet) ∈ h.configured)
      else (i, subnet) ∈ h.configured := by
  obtain ⟨arp, listed⟩ := s.loop_onInterface h on true
  rw [requests, on]
  refine ⟨by rw [run_onInterface, arp], fun i subnet => ?_⟩
  rw [mem_onInterface]
  by_cases here : i = s.outputInterface
  · subst here
    simp only [if_true, listed, listedAfter, mem_after]
    cases last subnet (s.requested calls) with
    | none => by_cases before : subnet ∈ s.subnetSet <;> simp [before]
    | some added => simp
  · simp only [here, false_and, if_false, listed]

include served

theorem early_onInterface : (h.run (t.loop true)).arp = h.arp ∧
    ∀ i subnet, (i, subnet) ∈ (h.run (t.loop true)).configured ↔
      (i = s.outputInterface ∧ subnet ∈ s.listedAfter calls) ∨ (i, subnet) ∈ h.configured := by
  obtain ⟨arp, listed⟩ := t.loop_onInterface h (served.onInterface.trans on) true
  rw [served.outputInterface, served.listed] at listed
  refine ⟨arp, fun i subnet => ?_⟩
  rw [listed]
  split
  · rename_i placed
    simp [placed]
  · rename_i other
    simp [other]

theorem onInterface_agree_iff :
    ((h.run (s.loop true)).run (s.requests calls)).Same (h.run (t.loop true)) ↔
      ∀ subnet, last subnet (s.requested calls) = some false →
        (s.outputInterface, subnet) ∉ h.configured := by
  obtain ⟨lateArp, late⟩ := @late_onInterface s h calls on
  obtain ⟨earlyArp, early⟩ := early_onInterface (h := h) on served
  constructor
  · intro agree subnet removed there
    have kept : (s.outputInterface, subnet) ∈ (h.run (t.loop true)).configured :=
      (early ..).mpr (.inr there)
    rw [← agree.configured, late, if_pos rfl, removed, listedAfter, mem_after, removed] at kept
    simp at kept
  · intro apart
    refine ⟨?_, fun i address => by rw [lateArp, earlyArp]⟩
    ext ⟨i, subnet⟩
    rw [late, early]
    by_cases here : i = s.outputInterface
    · subst here
      cases what : last subnet (s.requested calls) with
      | none => simp
      | some kept =>
        cases kept with
        | true => simp [listedAfter, mem_after, what]
        | false => simp [apart subnet what]
    · simp [here]

end OnInterface

/-- Leaving with the addresses on the interface. -/
theorem onInterface_gone {s u : VrrpService} {g h : Host} {calls : List (Edit IpSubnet)}
    (on : s.onInterface = true) (left : s.Serves u (s.listedAfter calls))
    (arp : g.arp = h.arp) (placed : ∀ i subnet, (i, subnet) ∈ g.configured →
      (i = s.outputInterface ∧ subnet ∈ s.listedAfter calls) ∨ (i, subnet) ∈ h.configured) :
    (g.run (u.loop false)).Within h := by
  obtain ⟨finalArp, final⟩ := u.loop_onInterface g (left.onInterface.trans on) false
  rw [left.outputInterface, left.listed] at final
  refine ⟨fun x inside => ?_, fun i address mac entry => by rwa [finalArp, arp] at entry⟩
  obtain ⟨i, subnet⟩ := x
  rw [final] at inside
  split at inside
  · cases inside
  · rename_i other
    exact (placed i subnet inside).resolve_left other

section FakeArp
variable {s t : VrrpService} {h : Host} {calls : List (Edit IpSubnet)}
  (off : s.onInterface = false) (served : s.Serves t (s.listedAfter calls))
include off

theorem late_fakeArp : ((h.run (s.loop true)).run (s.requests calls)).configured = h.configured ∧
    ∀ i address, ((h.run (s.loop true)).run (s.requests calls)).arp.fakeArp i address =
      if i = s.outputInterface ∧ s.touched calls address ≠ none then
        if s.touched calls address = some true then some s.mac else none
      else if i = s.interface ∧ address ∈ s.subnetSet.image IpSubnet.address then some s.mac
      else h.arp.fakeArp i address := by
  obtain ⟨configured, arp⟩ := s.loop_fakeArp h off true
  obtain ⟨lateConfigured, lateArp⟩ :=
    run_fakeArp s.outputInterface s.mac (s.requested calls) (h.run (s.loop true))
  rw [requests, off]
  refine ⟨lateConfigured.trans configured, fun i address => (lateArp i address).trans ?_⟩
  rw [overlay, ← touched]
  by_cases here : i = s.outputInterface
  · subst here
    cases s.touched calls address with
    | none => simp [arp]
    | some added => simp
  · simp [here, arp]

include served

theorem early_fakeArp : (h.run (t.loop true)).configured = h.configured ∧
    ∀ i address, (h.run (t.loop true)).arp.fakeArp i address =
      if i = s.interface ∧ address ∈ (s.listedAfter calls).image IpSubnet.address then some s.mac
      else h.arp.fakeArp i address := by
  obtain ⟨configured, arp⟩ := t.loop_fakeArp h (served.onInterface.trans off) true
  rw [served.interface, served.listed, served.mac] at arp
  exact ⟨configured, arp⟩

theorem fakeArp_agree_same (same : s.outputInterface = s.interface) :
    ((h.run (s.loop true)).run (s.requests calls)).Same (h.run (t.loop true)) ↔
      ∀ address, s.touched calls address = some false →
        address ∉ (s.listedAfter calls).image IpSubnet.address ∧
          h.arp.fakeArp s.interface address = none := by
  obtain ⟨lateConfigured, late⟩ := @late_fakeArp s h calls off
  obtain ⟨earlyConfigured, early⟩ := early_fakeArp (h := h) off served
  rw [same] at late
  constructor
  · intro agree a removed
    have here := agree.arp s.interface a
    simp only [late, early, removed, true_and, ne_eq, reduceCtorEq, not_false_eq_true,
      if_true, Option.some.injEq, Bool.false_eq_true, if_false] at here
    split at here
    · cases here
    · rename_i outside
      exact ⟨outside, here.symm⟩
  · intro apart
    refine ⟨lateConfigured.trans earlyConfigured.symm, fun i a => ?_⟩
    rw [late, early]
    by_cases here : i = s.interface
    · subst here
      cases what : s.touched calls a with
      | none =>
        have listed := mem_image_of_untouched IpSubnet.address s.subnetSet (s.requested calls) what
        simp [listedAfter, listed]
      | some kept =>
        cases kept with
        | true =>
          have listed := mem_image_of_added IpSubnet.address s.subnetSet (s.requested calls) what
          simp [listedAfter, listed]
        | false => simp [apart a what]
    · simp [here]

theorem fakeArp_agree_other (other : s.outputInterface ≠ s.interface) :
    ((h.run (s.loop true)).run (s.requests calls)).Same (h.run (t.loop true)) ↔
      (∀ address added, s.touched calls address = some added →
        h.arp.fakeArp s.outputInterface address = if added then some s.mac else none) ∧
      ∀ address, (address ∈ s.subnetSet.image IpSubnet.address ↔
          address ∈ (s.listedAfter calls).image IpSubnet.address) ∨
        h.arp.fakeArp s.interface address = some s.mac := by
  obtain ⟨lateConfigured, late⟩ := @late_fakeArp s h calls off
  obtain ⟨earlyConfigured, early⟩ := early_fakeArp (h := h) off served
  constructor
  · intro agree
    constructor
    · intro a kept what
      have here := agree.arp s.outputInterface a
      rw [early, if_neg fun both => other both.1, late, if_pos ⟨rfl, by simp [what]⟩,
        what] at here
      rw [← here]
      cases kept <;> rfl
    · intro a
      have here := agree.arp s.interface a
      rw [late, early, if_neg fun both => other both.1.symm] at here
      simp only [true_and] at here
      by_cases before : a ∈ s.subnetSet.image IpSubnet.address
      · by_cases after : a ∈ (s.listedAfter calls).image IpSubnet.address
        · exact .inl (iff_of_true before after)
        · rw [if_pos before, if_neg after] at here
          exact .inr here.symm
      · by_cases after : a ∈ (s.listedAfter calls).image IpSubnet.address
        · rw [if_neg before, if_pos after] at here
          exact .inr here
        · exact .inl (iff_of_false before after)
  · rintro ⟨changed, listed⟩
    refine ⟨lateConfigured.trans earlyConfigured.symm, fun i a => ?_⟩
    rw [late, early]
    by_cases here : i = s.outputInterface
    · subst here
      cases what : s.touched calls a with
      | none => simp [other]
      | some kept =>
        have entry := changed a kept what
        cases kept <;> simp [other, entry]
    · rw [if_neg fun both => here both.1]
      by_cases physical : i = s.interface
      · subst physical
        simp only [true_and]
        rcases listed a with same | already
        · simp only [same]
        · simp only [already, ite_self]
      · simp [physical]

theorem fakeArp_agree_iff :
    ((h.run (s.loop true)).run (s.requests calls)).Same (h.run (t.loop true)) ↔
      s.FakeArpAgrees h calls := by
  unfold FakeArpAgrees
  split
  · rename_i same
    exact fakeArp_agree_same off served same
  · rename_i other
    exact fakeArp_agree_other off served other

theorem fakeArp_gone {u : VrrpService} (left : s.Serves u (s.listedAfter calls)) {g : Host}
    (agrees : g.Same (h.run (t.loop true))) : (g.run (u.loop false)).Within h := by
  obtain ⟨earlyConfigured, early⟩ := early_fakeArp (h := h) off served
  obtain ⟨configured, arp⟩ := u.loop_fakeArp g (left.onInterface.trans off) false
  rw [left.interface, left.listed] at arp
  constructor
  · rw [configured, agrees.configured, earlyConfigured]
  · intro i a mac entry
    rw [arp, agrees.arp, early] at entry
    split at entry
    · cases entry
    · exact entry

end FakeArp

/-- Becoming Master and making the calls leaves the host as making them before does, and
leaving Master clears up after both, if and only if the calls are among those whose order
does not matter. -/
theorem changes_commute_iff (s : VrrpService) (h : Host) (enter : Event)
    (calls : List (Edit IpSubnet)) (other : s.state ≠ .master)
    (enters : (s.step enter).1.state = .master) :
    let late := s.run (enter :: calls.map Event.ofEdit)
    let early := s.run (calls.map Event.ofEdit ++ [enter])
    ((h.run late.2).Same (h.run early.2) ∧
      (∀ leave, (late.1.step leave).1.state ≠ .master →
        ((h.run late.2).run (late.1.step leave).2).Within h) ∧
      ∀ leave, (early.1.step leave).1.state ≠ .master →
        ((h.run early.2).run (early.1.step leave).2).Within h) ↔
      s.OrderAgrees h calls := by
  intro late early
  have entering := (enters_iff other).mp enters
  obtain ⟨lateMaster, lateServes, lateHost⟩ := late_run h calls other entering
  obtain ⟨earlyMaster, earlyServes, t, served, earlyHost⟩ := early_run h calls other entering
  have leaving : ∀ (u : VrrpService) (g : Host) (leave : Event), u.state = .master →
      (u.step leave).1.state ≠ .master → g.run (u.step leave).2 = g.run (u.loop false) :=
    fun u g leave master leaves => by rw [leave_host u g master leaves, removeIpAddresses_eq]
  rw [lateHost, earlyHost, OrderAgrees]
  cases on : s.onInterface with
  | true =>
    obtain ⟨lateArp, lateListed⟩ := @late_onInterface s h calls on
    obtain ⟨earlyArp, earlyListed⟩ := early_onInterface (h := h) on served
    rw [if_pos rfl, ← onInterface_agree_iff on served]
    refine and_iff_left ⟨fun leave leaves => ?_, fun leave leaves => ?_⟩
    · rw [leaving _ _ leave lateMaster leaves]
      apply onInterface_gone on lateServes lateArp
      intro i subnet inside
      rw [lateListed] at inside
      split at inside
      · rename_i here
        exact inside.imp (fun listed => ⟨here, listed⟩) And.right
      · exact .inr inside
    · rw [leaving _ _ leave earlyMaster leaves]
      exact onInterface_gone on earlyServes earlyArp fun i subnet => (earlyListed i subnet).mp
  | false =>
    rw [if_neg Bool.false_ne_true, ← fakeArp_agree_iff on served]
    refine ⟨And.left, fun agree => ⟨agree, fun leave leaves => ?_, fun leave leaves => ?_⟩⟩
    · rw [leaving _ _ leave lateMaster leaves]
      exact fakeArp_gone on served lateServes agree
    · rw [leaving _ _ leave earlyMaster leaves]
      exact fakeArp_gone on served earlyServes ⟨rfl, fun _ _ => rfl⟩

def sampleCalls : List (Edit IpSubnet) := [⟨true, ⟨.sample 100, 24⟩⟩]

theorem changes_commute_sample :
    let s := ((sample 1).setPriority 255).1
    (s.step (.enable true)).1.state = .master ∧
    (Host.run ⟨∅, ∅⟩ (s.run (.enable true :: sampleCalls.map Event.ofEdit)).2).Same
      (Host.run ⟨∅, ∅⟩ (s.run (sampleCalls.map Event.ofEdit ++ [.enable true])).2) :=
  ⟨rfl, ((changes_commute_iff ((sample 1).setPriority 255).1 ⟨∅, ∅⟩ (.enable true) sampleCalls
    (by decide) rfl).mpr fun subnet _ => Finset.notMem_empty _).1⟩

/-- A router with a MACVLAN interface, outside accept mode, is given an address as Master or
just before: the fake-ARP entry is on the MACVLAN interface, or on the physical one. -/
theorem added_on_other_interface :
    let s := ((sample 1).step (.enable true)).1
    s.state ≠ .master ∧ (s.step .masterDownExpiry).1.state = .master ∧
    ¬ (Host.run ⟨∅, ∅⟩ (s.run (.masterDownExpiry :: sampleCalls.map Event.ofEdit)).2).Same
      (Host.run ⟨∅, ∅⟩ (s.run (sampleCalls.map Event.ofEdit ++ [.masterDownExpiry])).2) := by
  refine ⟨by decide, by decide, fun same => ?_⟩
  exact absurd (same.arp 2 (.sample 100)) (by decide)

end VrrpService

end OpenVrrp
