import OpenVrrp.Library.Runs
import OpenVrrp.Manager.Registration
import OpenVrrp.Service.Transitions

/-! The reference counts of the multicast groups against the services that hold them. The
destructor gives a reference back that its service may never have taken: it failed before
`addInterface`, or `addInterface` failed. -/
namespace OpenVrrp

namespace Group

/-- The kernel agrees with the counts, and a count is never zero. -/
structure Balanced (g : Group) : Prop where
  positive : ∀ i : Int, g.socket.interfaceCount[i]? ≠ some 0
  member : ∀ i : Int, i ∈ g.members ↔ 1 ≤ g.count i

theorem empty_balanced (family : Family) : (Group.empty family).Balanced := by
  constructor
  · intro i
    simp [empty]
  · intro i
    simp [empty, count]

section Set
variable {g h : Group} (balanced : g.Balanced) {i : Int}
include balanced

theorem balanced_set (entry : Option Nat) (positive : entry ≠ some 0)
    (stored : ∀ j : Int, h.socket.interfaceCount[j]? =
      if i = j then entry else g.socket.interfaceCount[j]?)
    (member : ∀ j, j ∈ h.members ↔ if i = j then entry ≠ none else j ∈ g.members) :
    h.Balanced ∧ ∀ j, h.count j = if i = j then entry.getD 0 else g.count j := by
  have counted : ∀ j, h.count j = if i = j then entry.getD 0 else g.count j := by
    intro j
    rw [count, stored]
    split <;> rfl
  refine ⟨⟨fun j => ?_, fun j => ?_⟩, counted⟩
  · rw [stored]
    split
    · exact positive
    · exact balanced.positive j
  · rw [counted, member]
    split
    · cases entry with
      | none => simp
      | some n =>
        have counted : n ≠ 0 := fun zero => positive (congrArg some zero)
        simp [Nat.one_le_iff_ne_zero, counted]
    · exact balanced.member j

theorem balanced_insert {n : Nat} (positive : 1 ≤ n)
    (stored : h.socket.interfaceCount = g.socket.interfaceCount.insert i n)
    (members : h.members = insert i g.members) :
    h.Balanced ∧ ∀ j, h.count j = if i = j then n else g.count j := by
  have counted : some n ≠ some 0 := fun same => by cases same; omega
  refine balanced_set balanced (some n) counted (fun j => ?_) fun j => ?_
  · rw [stored]
    split
    · rename_i same
      rw [same, Nested.insert_self]
    · rename_i other
      rw [Nested.insert_other _ _ other]
  · by_cases same : i = j
    · simp [members, same]
    · simp [members, same, Ne.symm same]

theorem balanced_erase (stored : h.socket.interfaceCount = g.socket.interfaceCount.erase i)
    (members : h.members = g.members.erase i) :
    h.Balanced ∧ ∀ j, h.count j = if i = j then 0 else g.count j := by
  refine balanced_set balanced none (by simp) (fun j => ?_) fun j => ?_
  · rw [stored]
    split
    · rename_i same
      rw [same, Nested.erase_self]
    · rename_i other
      rw [Nested.erase_other _ other]
  · by_cases same : i = j
    · simp [members, same]
    · simp [members, same, Ne.symm same]

theorem counted_pos {n : Nat} (counted : g.socket.interfaceCount[i]? = some n) : 1 ≤ n :=
  Nat.one_le_iff_ne_zero.mpr fun zero => balanced.positive i (by rw [counted, zero])

theorem counted_mem {n : Nat} (counted : g.socket.interfaceCount[i]? = some n) : i ∈ g.members := by
  rw [balanced.member, count, counted]
  exact counted_pos balanced counted

end Set

theorem addInterface_spec {g : Group} (balanced : g.Balanced) (joined : Bool) (i : Int) :
    (g.addInterface joined i).1.Balanced ∧ ∀ j, (g.addInterface joined i).1.count j =
      if i = j then g.count i + (if (g.addInterface joined i).2 then 1 else 0) else g.count j := by
  cases counted : g.socket.interfaceCount[i]? with
  | some n =>
    have before : g.count i = n := by simp [count, counted]
    have success : (g.addInterface joined i).2 = true := by
      simp [addInterface, VrrpSocket.addInterface, counted]
    rw [success, before]
    refine balanced_insert balanced (Nat.le_add_left 1 n) ?_ ?_
    · simp [addInterface, VrrpSocket.addInterface, counted]
    · simp [addInterface, counted, counted_mem balanced counted]
  | none =>
    have before : g.count i = 0 := by simp [count, counted]
    cases joined with
    | true =>
      have success : (g.addInterface true i).2 = true := by
        simp [addInterface, VrrpSocket.addInterface, counted]
      rw [success, before]
      refine balanced_insert balanced (Nat.le_refl 1) ?_ ?_
      · simp [addInterface, VrrpSocket.addInterface, counted]
      · simp [addInterface, counted]
    | false =>
      have same : g.addInterface false i = (g, false) := by
        simp [addInterface, VrrpSocket.addInterface, counted]
      rw [same]
      refine ⟨balanced, fun j => ?_⟩
      by_cases here : i = j <;> simp [here]

theorem removeInterface_spec {g : Group} (balanced : g.Balanced) (i : Int) :
    (g.removeInterface i).Balanced ∧ ∀ j, (g.removeInterface i).count j =
      if i = j then g.count i - 1 else g.count j := by
  cases counted : g.socket.interfaceCount[i]? with
  | none =>
    have same : g.removeInterface i = g := by
      simp [removeInterface, VrrpSocket.removeInterface, counted]
    rw [same]
    refine ⟨balanced, fun j => ?_⟩
    by_cases here : i = j
    · subst here
      simp [count, counted]
    · simp [here]
  | some n =>
    have before : g.count i = n := by simp [count, counted]
    have positive := counted_pos balanced counted
    by_cases last : n = 1
    · subst last
      rw [before]
      refine balanced_erase balanced ?_ ?_
      · simp [removeInterface, VrrpSocket.removeInterface, counted]
      · simp [removeInterface, counted]
    · rw [before]
      refine balanced_insert balanced (by omega) ?_ ?_
      · simp only [removeInterface, VrrpSocket.removeInterface, counted]
      · simp [removeInterface, counted, last, counted_mem balanced counted]

end Group

namespace Registration

/-- The live services of the family that hold a reference to the interface. -/
def holds (family : Family) (i : Int) (entry : RouterKey × Registered) : Bool :=
  entry.2.joined && decide (entry.2.service.family = family ∧ entry.2.service.inputInterface = i)

def holders (r : Registration) (family : Family) (i : Int) : Nat :=
  r.services.toList.countP (holds family i)

def MembershipMatches (r : Registration) : Prop :=
  ∀ family i, (r.groups family).count i = r.holders family i ∧
    (i ∈ (r.groups family).members ↔ 1 ≤ r.holders family i)

/-- The request gives back no reference that is somebody else's: no service of the family
holds the interface of a service that fails for its VLAN interface, or that of a removed
service whose own join has failed. -/
def KeepsMembership (r : Registration) : Request → Prop
  | .getService key vlanId createIfMissing answers =>
    r.Creates key createIfMissing answers → 0 < vlanId → answers.creation.vlanInterface < 0 →
      r.holders key.family key.interface = 0
  | .removeService key => ∀ registered, r.services[key]? = some registered →
      registered.joined = false →
        r.holders registered.service.family registered.service.inputInterface = 0

def Balanced (r : Registration) : Prop := ∀ family, (r.groups family).Balanced

theorem matches_iff {r : Registration} (balanced : r.Balanced) :
    r.MembershipMatches ↔ ∀ family i, (r.groups family).count i = r.holders family i := by
  refine ⟨fun same family i => (same family i).1, fun same family i => ⟨same family i, ?_⟩⟩
  rw [(balanced family).member, same]

theorem update_balanced {groups : Family → Group} (balanced : ∀ family, (groups family).Balanced)
    {family : Family} {g : Group} (new : g.Balanced) (other : Family) :
    (Function.update groups family g other).Balanced := by
  by_cases same : other = family
  · rw [same, Function.update_self]
    exact new
  · rw [Function.update_of_ne same]
    exact balanced other

theorem unregister_spec {g : Group} (balanced : g.Balanced) (i : Int) (virtualRouterId : UInt8) :
    (g.unregister i virtualRouterId).Balanced ∧ ∀ j, (g.unregister i virtualRouterId).count j =
      if i = j then g.count i - 1 else g.count j := by
  obtain ⟨still, counts⟩ := Group.removeInterface_spec balanced i
  exact ⟨⟨still.positive, still.member⟩, counts⟩

theorem register_spec {g : Group} (balanced : g.Balanced) (joined : Bool) (i : Int)
    (virtualRouterId : UInt8) (listener : Nat) :
    (g.register joined i virtualRouterId listener).1.Balanced ∧
    ∀ j, (g.register joined i virtualRouterId listener).1.count j =
      if i = j then g.count i + (if (g.register joined i virtualRouterId listener).2 then 1 else 0)
      else g.count j := by
  obtain ⟨still, counts⟩ := Group.addInterface_spec balanced joined i
  exact ⟨⟨still.positive, still.member⟩, counts⟩

/-- The counts of all sockets after one of one socket has changed. -/
theorem update_count (groups : Family → Group) (family : Family) {g : Group} {i : Int} {n : Nat}
    (counts : ∀ j, g.count j = if i = j then n else (groups family).count j) (other : Family)
    (j : Int) : (Function.update groups family g other).count j =
      if family = other ∧ i = j then n else (groups other).count j := by
  by_cases same : family = other
  · subst same
    rw [Function.update_self, counts]
    simp only [true_and]
  · rw [Function.update_of_ne (Ne.symm same), if_neg fun both => same both.1]

theorem step_balanced (r : Registration) (request : Request) (balanced : r.Balanced) :
    (r.step request).Balanced := by
  have changes := r.step_changes request
  generalize r.step request = t at changes
  cases changes with
  | answered | unknown => exact balanced
  | refused | removed => exact update_balanced balanced (unregister_spec (balanced _) _ _).1
  | created => exact update_balanced balanced (register_spec (balanced _) _ _ _ _).1

/-- One reference is given back; whether it was taken for a service that is gone now decides
if the counts still are right. -/
theorem released_iff {r t : Registration} (family : Family) (i : Int) (taken : Bool)
    (holds : ∀ other j, (r.groups other).count j = r.holders other j)
    (counts : ∀ other j, (t.groups other).count j =
      if family = other ∧ i = j then (r.groups family).count i - 1 else (r.groups other).count j)
    (lost : ∀ other j, r.holders other j =
      t.holders other j + if taken ∧ family = other ∧ i = j then 1 else 0) :
    (∀ other j, (t.groups other).count j = t.holders other j) ↔
      (taken = false → r.holders family i = 0) := by
  constructor
  · intro same missed
    have here := same family i
    have before := lost family i
    rw [counts, if_pos ⟨rfl, rfl⟩, holds] at here
    simp only [missed, Bool.false_eq_true, false_and, if_false] at before
    omega
  · intro keeps other j
    have before := lost other j
    rw [counts]
    by_cases here : family = other ∧ i = j
    · obtain ⟨rfl, rfl⟩ := here
      rw [if_pos ⟨rfl, rfl⟩, holds]
      cases taken with
      | true =>
        simp only [and_self, if_true] at before
        omega
      | false =>
        have free := keeps rfl
        omega
    · rw [if_neg here, holds, before, if_neg fun all => here all.2, Nat.add_zero]

theorem step_matches_iff (r : Registration) (request : Request) (balanced : r.Balanced)
    (holds : r.MembershipMatches) :
    (r.step request).MembershipMatches ↔ r.KeepsMembership request := by
  rw [matches_iff (r.step_balanced request balanced)]
  rw [matches_iff balanced] at holds
  have changes := r.step_changes request
  generalize r.step request = t at changes
  cases changes with
  | answered idle => exact iff_of_true holds fun creates => absurd creates idle
  | unknown absent => exact iff_of_true holds fun _ stored => by rw [absent] at stored; cases stored
  | @refused key _ _ _ _ creates vlan =>
    have counts := update_count r.groups key.family
      (unregister_spec (balanced key.family) key.interface key.virtualRouterId).2
    refine Iff.trans (released_iff key.family key.interface false holds counts
      fun other j => by simp [holders]) ?_
    exact ⟨fun free _ _ _ => free rfl, fun keeps _ => keeps creates vlan.1 vlan.2⟩
  | @removed key registered stored =>
    have counts := update_count r.groups registered.service.family
      (unregister_spec (balanced registered.service.family) registered.service.inputInterface
        registered.service.virtualRouterId).2
    have lost : ∀ other j, r.holders other j =
        (r.services.erase key).toList.countP (Registration.holds other j) +
          if registered.joined ∧ registered.service.family = other ∧
            registered.service.inputInterface = j then 1 else 0 := by
      intro other j
      apply (Nested.countP_erase _ stored).trans
      simp [Registration.holds]
    refine Iff.trans (released_iff registered.service.family registered.service.inputInterface
      registered.joined holds counts lost) ?_
    constructor
    · intro free other stored'
      cases Option.some.inj (stored.symm.trans stored')
      exact free
    · exact fun keeps => keeps registered stored
  | @created key _ _ answers _ service creates made =>
    have counts := update_count r.groups key.family
      (register_spec (balanced key.family) answers.joined service.inputInterface
        key.virtualRouterId (r.allocated + 1)).2
    have family : service.family = key.family := by
      obtain ⟨_, _, _, _, rfl⟩ := VrrpService.construct_fresh made
      rfl
    refine iff_of_true (fun other i => ?_) fun _ vlan refused => ?_
    · rw [counts]
      change _ = List.countP (Registration.holds other i) (Std.TreeMap.insert _ _ _).toList
      rw [Nested.countP_insert _ creates.1]
      change _ = r.holders other i + _
      simp only [Registration.holds, family]
      rw [holds, holds]
      by_cases here : key.family = other ∧ service.inputInterface = i
      · obtain ⟨rfl, rfl⟩ := here
        simp
      · simp [here]
    · rw [VrrpService.construct_eq_none_iff.mpr ⟨vlan, refused⟩] at made
      cases made

/-- From the start and after every request the counts, the groups and the live services agree
if and only if no request gives back a reference of another service. -/
theorem membership_matches_iff (requests : List Request) :
    Runs.Always step MembershipMatches initial requests ↔
      Runs.Admitted step KeepsMembership initial requests := by
  have start : initial.Balanced := Group.empty_balanced
  refine Runs.always_iff_admitted Balanced step_balanced
    (fun r request balanced holds => (step_matches_iff r request balanced holds).mpr)
    (fun r request balanced holds => mt (step_matches_iff r request balanced holds).mp)
    start ?_ requests
  rw [matches_iff start]
  intro family i
  rfl

/-- Interface 2, router id and VLAN as given, and whether the VLAN interface 9 is made. -/
def sampleRequest (virtualRouterId : UInt8) (vlanId : UInt64) (made : Bool) : Request :=
  .getService ⟨2, virtualRouterId, .inet⟩ vlanId true
    ⟨true, ⟨.sample 1, 7, none, if made then 9 else -1⟩, true⟩

/-- A service that cannot have its VLAN interface takes another one off the group. -/
theorem failure_leaves_group : ¬ Runs.Always step MembershipMatches initial
    [sampleRequest 51 0 true, sampleRequest 52 10 false] := by
  rintro ⟨_, _, agree⟩
  exact absurd (agree .inet 2).1 (by decide +kernel)

end Registration

end OpenVrrp
