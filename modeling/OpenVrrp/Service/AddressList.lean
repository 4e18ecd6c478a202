import OpenVrrp.Library.Edits
import OpenVrrp.Service.Moves
import OpenVrrp.Service.Settings

/-! The two lists that a service keeps of what it was given: the subnets it serves, and the
addresses it advertises. A call edits both, but the address of a removed subnet goes even
while another subnet still has it. -/
namespace OpenVrrp

open Edits

/-- What an event does to the subnets of a service of the family, if anything. -/
def Event.edit (family : Family) : Event → Option (Edit IpSubnet)
  | .addIpAddress subnet => if subnet.address.family = family then some ⟨true, subnet⟩ else none
  | .removeIpAddress subnet => some ⟨false, subnet⟩
  | _ => none

def Event.edits (family : Family) (events : List Event) : List (Edit IpSubnet) :=
  events.filterMap (Event.edit family)

theorem Event.edit_family {family : Family} {e : Event} {edit : Edit IpSubnet}
    (edited : e.edit family = some edit) (added : edit.added = true) :
    edit.target.address.family = family := by
  cases e with
  | addIpAddress subnet =>
    simp only [Event.edit] at edited
    split at edited
    · rename_i same
      cases edited
      exact same
    · cases edited
  | removeIpAddress subnet =>
    cases edited
    cases added
  | _ => cases edited

def ofAddress : Edit IpSubnet → Edit IpAddress := Edit.map IpSubnet.address

namespace VrrpService

def subnetSet (s : VrrpService) : Finset IpSubnet := s.subnets.toList.toFinset

def addressSet (s : VrrpService) : Finset IpAddress := s.addresses.toList.toFinset

theorem step_lists (s : VrrpService) (e : Event) :
    (s.step e).1.subnetSet = after s.subnetSet (e.edit s.family).toList ∧
      (s.step e).1.addressSet = after s.addressSet ((e.edit s.family).toList.map ofAddress) := by
  cases e with
  | addIpAddress subnet =>
    by_cases same : subnet.address.family = s.family
    · simp only [step, addIpAddress, Event.edit, same, not_true_eq_false, ne_eq, if_false, if_true]
      exact ⟨Nested.insert_toFinset s.subnets subnet,
        Nested.insert_toFinset s.addresses subnet.address⟩
    · simp only [step, addIpAddress, Event.edit, ne_eq, same, not_false_eq_true, if_true, if_false]
      exact ⟨rfl, rfl⟩
  | removeIpAddress subnet =>
    exact ⟨Nested.erase_toFinset s.subnets subnet,
      Nested.erase_toFinset s.addresses subnet.address⟩
  | setPrimaryIpAddress address =>
    simp only [step, setPrimaryIpAddress]
    split <;> exact ⟨rfl, rfl⟩
  | unsetPrimaryIpAddress found =>
    simp only [step, unsetPrimaryIpAddress]
    split <;> exact ⟨rfl, rfl⟩
  | setPriority priority =>
    simp only [step, setPriority]
    split <;> exact ⟨rfl, rfl⟩
  | setAdvertisementInterval n =>
    simp only [step, setAdvertisementInterval]
    split <;> exact ⟨rfl, rfl⟩
  | setAcceptMode enabled =>
    simp only [step, setAcceptMode]
    split
    · exact ⟨rfl, rfl⟩
    · split <;> exact ⟨rfl, rfl⟩
  | setPreemptMode | setMasterCommand | setBackupCommand => exact ⟨rfl, rfl⟩
  | _ =>
    have same : ∀ t : VrrpService, t.configured = s.configured →
        t.subnetSet = s.subnetSet ∧ t.addressSet = s.addressSet := by
      intro t kept
      have subnets := congrArg subnetSet kept
      have addresses := congrArg addressSet kept
      exact ⟨subnets, addresses⟩
    refine same _ (s.step_configured ?_)
    exact id

theorem run_lists (s : VrrpService) (events : List Event) :
    (s.run events).1.subnetSet = after s.subnetSet (Event.edits s.family events) ∧
      (s.run events).1.addressSet =
        after s.addressSet ((Event.edits s.family events).map ofAddress) := by
  induction events generalizing s with
  | nil => exact ⟨rfl, rfl⟩
  | cons e rest ih =>
    obtain ⟨subnets, addresses⟩ := s.step_lists e
    obtain ⟨later, laterAddresses⟩ := ih (s.step e).1
    rw [run, later, laterAddresses, step_family, subnets, addresses]
    simp only [Event.edits, after]
    cases edited : e.edit s.family with
    | none => simp [edited]
    | some edit => simp [edited]

/-- Every address that is advertised has the family of the service. -/
def OwnFamily (s : VrrpService) : Prop := ∀ a ∈ s.addressSet, a.family = s.family

theorem ownFamily_step (s : VrrpService) (e : Event) (own : s.OwnFamily) :
    (s.step e).1.OwnFamily := by
  intro a inside
  rw [step_family]
  rw [(s.step_lists e).2] at inside
  cases edited : e.edit s.family with
  | none =>
    rw [edited] at inside
    exact own a inside
  | some edit =>
    rw [edited] at inside
    change a ∈ apply s.addressSet (ofAddress edit) at inside
    unfold apply at inside
    split at inside
    · rename_i added
      rcases Finset.mem_insert.mp inside with rfl | inside
      · exact Event.edit_family edited added
      · exact own a inside
    · exact own a (Finset.mem_of_mem_erase inside)

theorem ownFamily_run {s : VrrpService} (own : s.OwnFamily) (events : List Event) :
    (s.run events).1.OwnFamily ∧ (s.run events).1.family = s.family := by
  induction events generalizing s with
  | nil => exact ⟨own, rfl⟩
  | cons e rest ih =>
    obtain ⟨later, same⟩ := ih (s.ownFamily_step e own)
    exact ⟨later, same.trans (s.step_family e)⟩

theorem construct_ownFamily {interface : Int} {family : Family} {virtualRouterId : UInt8}
    {vlanId : UInt64} {answers : Creation} {s : VrrpService}
    (created : construct interface family virtualRouterId vlanId answers = some s) :
    s.OwnFamily ∧ s.family = family := by
  obtain ⟨macvlan, vlan, output, mac, rfl⟩ := construct_fresh created
  exact ⟨fun a inside => absurd inside (Finset.notMem_empty a), rfl⟩

theorem run_addIpAddress (subnets : List IpSubnet) (s : VrrpService) :
    (s.run (subnets.map .addIpAddress)).1 =
      subnets.foldl (fun s subnet => (s.addIpAddress subnet).1) s := by
  induction subnets generalizing s with
  | nil => rfl
  | cons subnet rest ih => exact ih _

theorem addIpAddress_lists (subnets : List IpSubnet) {s : VrrpService}
    (own : ∀ subnet ∈ subnets, subnet.address.family = s.family) :
    let t := subnets.foldl (fun s subnet => (s.addIpAddress subnet).1) s
    t.subnets = subnets.foldl (·.insert ·) s.subnets ∧
      t.addresses = (subnets.map IpSubnet.address).foldl (·.insert ·) s.addresses ∧
      t.primaryIpAddress = s.primaryIpAddress := by
  induction subnets generalizing s with
  | nil => exact ⟨rfl, rfl, rfl⟩
  | cons subnet rest ih =>
    have here := own subnet List.mem_cons_self
    have added : (s.addIpAddress subnet).1 =
        { s with
          subnets := s.subnets.insert subnet
          addresses := s.addresses.insert subnet.address } := by
      rw [addIpAddress, if_neg (not_not.mpr here)]
    rw [List.foldl_cons, added]
    exact ih fun other inside => own other (List.mem_cons_of_mem subnet inside)

/-- After a run from construction the advertised addresses are those of the subnets if and
only if no address that a call removed last is the address of a subnet that is still listed. -/
theorem addresses_match_iff (interface : Int) (family : Family) (virtualRouterId : UInt8)
    (vlanId : UInt64) (answers : Creation) (s : VrrpService)
    (created : construct interface family virtualRouterId vlanId answers = some s)
    (events : List Event) :
    (s.run events).1.addressSet = (s.run events).1.subnetSet.image IpSubnet.address ↔
      ∀ address, last address ((Event.edits family events).map ofAddress) = some false →
        ∀ subnet ∈ after ∅ (Event.edits family events), subnet.address ≠ address := by
  obtain ⟨macvlan, vlan, output, mac, rfl⟩ := construct_fresh created
  obtain ⟨subnets, addresses⟩ := run_lists _ events
  rw [subnets, addresses]
  have split := image_after_iff IpSubnet.address (∅ : Finset IpSubnet) (Event.edits family events)
  simp only [Finset.image_empty, Finset.mem_image, not_exists, not_and] at split
  exact split

theorem addresses_match_sample :
    ((sample 1).run [.addIpAddress ⟨.sample 100, 24⟩,
        .removeIpAddress ⟨.sample 101, 24⟩]).1.addressSet =
      ((sample 1).run [.addIpAddress ⟨.sample 100, 24⟩,
        .removeIpAddress ⟨.sample 101, 24⟩]).1.subnetSet.image IpSubnet.address :=
  (addresses_match_iff 2 .inet 51 0 _ (sample 1) (construct_sample 1) _).mpr
    fun address removed subnet inside same => by
      subst same
      revert subnet
      decide

/-- One of two subnets with the same address is removed: the other is served without being
advertised. -/
theorem shared_address_dropped :
    construct 2 .inet 51 0 ⟨.sample 1, 7, none, -1⟩ = some (sample 1) ∧
    ((sample 1).run [.addIpAddress ⟨.sample 100, 24⟩, .addIpAddress ⟨.sample 100, 32⟩,
        .removeIpAddress ⟨.sample 100, 32⟩]).1.addressSet ≠
      ((sample 1).run [.addIpAddress ⟨.sample 100, 24⟩, .addIpAddress ⟨.sample 100, 32⟩,
        .removeIpAddress ⟨.sample 100, 32⟩]).1.subnetSet.image IpSubnet.address := by
  refine ⟨rfl, ?_⟩
  decide

end VrrpService

end OpenVrrp
