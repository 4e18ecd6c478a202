import OpenVrrp.Service.Moves
import Mathlib.Data.Finset.Basic
import Mathlib.Data.Finset.Lattice.Lemmas

/-! What an administrator has set on a service, as a machine of its own that the service
refines: the events of the network and of the timers leave it alone, and each setter changes
its own part or refuses. -/
namespace OpenVrrp

/-- A primary address is there when it was forced. -/
@[ext] structure Settings where
  priority : UInt8
  advertisementInterval : Nat
  acceptMode : Bool
  preemptMode : Bool
  vlanId : UInt64
  primaryIpAddress : Option IpAddress
  subnets : Finset IpSubnet
  masterCommand : Text
  backupCommand : Text

def Settings.step (family : Family) (t : Settings) : Event → Settings
  | .setPriority priority => if priority = 0 then t else { t with priority := priority }
  | .setAdvertisementInterval n =>
    if n < 1 ∨ 4095 < n then t else { t with advertisementInterval := n }
  | .setPreemptMode enabled => { t with preemptMode := enabled }
  | .setAcceptMode enabled =>
    if family = .inet6 ∨ t.vlanId ≠ 0 then t else { t with acceptMode := enabled }
  | .setPrimaryIpAddress address =>
    if address.family = family then { t with primaryIpAddress := some address } else t
  | .unsetPrimaryIpAddress found =>
    { t with primaryIpAddress := t.primaryIpAddress.map fun _ => found }
  | .addIpAddress subnet =>
    if subnet.address.family = family then { t with subnets := insert subnet t.subnets } else t
  | .removeIpAddress subnet => { t with subnets := t.subnets.erase subnet }
  | .setMasterCommand command => { t with masterCommand := command }
  | .setBackupCommand command => { t with backupCommand := command }
  | .enable _ | .disable | .interfaceCallback _ | .masterDownExpiry | .advertisementExpiry
  | .incomingPacket .. | .incomingError _ => t

namespace Settings

/-- What holds of the settings of every service of the family: the accept mode is fixed for
IPv6 and on a VLAN, and the addresses are of the family. -/
structure Valid (family : Family) (t : Settings) : Prop where
  accept : family = .inet6 ∨ t.vlanId ≠ 0 → t.acceptMode = true
  primary : ∀ a, t.primaryIpAddress = some a → a.family = family
  subnets : ∀ subnet ∈ t.subnets, subnet.address.family = family

/-- Nothing in the daemon takes the forced primary address back. -/
theorem step_valid {family : Family} {t : Settings} (valid : t.Valid family) (e : Event)
    (called : ∀ found, e ≠ .unsetPrimaryIpAddress found) : (t.step family e).Valid family := by
  cases e with
  | setPriority priority =>
    simp only [step]
    split <;> exact ⟨valid.accept, valid.primary, valid.subnets⟩
  | setAdvertisementInterval n =>
    simp only [step]
    split <;> exact ⟨valid.accept, valid.primary, valid.subnets⟩
  | setAcceptMode enabled =>
    simp only [step]
    split
    · exact valid
    · rename_i free
      exact ⟨fun fixed => absurd fixed free, valid.primary, valid.subnets⟩
  | setPrimaryIpAddress address =>
    simp only [step]
    split
    · rename_i same
      exact ⟨valid.accept, fun a forced => Option.some.inj forced ▸ same, valid.subnets⟩
    · exact valid
  | unsetPrimaryIpAddress found => exact absurd rfl (called found)
  | addIpAddress subnet =>
    simp only [step]
    split
    · rename_i same
      refine ⟨valid.accept, valid.primary, fun other inside => ?_⟩
      rcases Finset.mem_insert.mp inside with rfl | inside
      · exact same
      · exact valid.subnets other inside
    · exact valid
  | removeIpAddress subnet =>
    exact ⟨valid.accept, valid.primary, fun other inside =>
      valid.subnets other (Finset.mem_of_mem_erase inside)⟩
  | setPreemptMode | setMasterCommand | setBackupCommand =>
    exact ⟨valid.accept, valid.primary, valid.subnets⟩
  | _ => exact valid

/-- A command is only ever replaced by the command of a setter. -/
theorem step_commands (family : Family) (t : Settings) (e : Event) :
    ((t.step family e).masterCommand = t.masterCommand ∨
      e = .setMasterCommand (t.step family e).masterCommand) ∧
    ((t.step family e).backupCommand = t.backupCommand ∨
      e = .setBackupCommand (t.step family e).backupCommand) := by
  cases e with
  | setMasterCommand command => exact ⟨.inr rfl, .inl rfl⟩
  | setBackupCommand command => exact ⟨.inl rfl, .inr rfl⟩
  | setPriority | setAdvertisementInterval | setAcceptMode | setPrimaryIpAddress | addIpAddress =>
    simp only [step]
    split <;> exact ⟨.inl rfl, .inl rfl⟩
  | _ => exact ⟨.inl rfl, .inl rfl⟩

/-! ### Settings from nothing -/

def initial (family : Family) (vlanId : UInt64) : Settings where
  priority := 100
  advertisementInterval := 100
  acceptMode := decide (family = .inet6 ∨ vlanId ≠ 0)
  preemptMode := true
  vlanId := vlanId
  primaryIpAddress := none
  subnets := ∅
  masterCommand := []
  backupCommand := []

theorem initial_valid (family : Family) (vlanId : UInt64) : (initial family vlanId).Valid family :=
  ⟨fun fixed => decide_eq_true fixed, (fun _ forced => nomatch forced),
    fun _ inside => absurd inside (Finset.notMem_empty _)⟩

def setters (t : Settings) (subnets : List IpSubnet) : List Event :=
  [.setPriority t.priority, .setAdvertisementInterval t.advertisementInterval,
    .setAcceptMode t.acceptMode, .setPreemptMode t.preemptMode] ++
  (t.primaryIpAddress.toList.map .setPrimaryIpAddress ++
  ([.setMasterCommand t.masterCommand, .setBackupCommand t.backupCommand] ++
    subnets.map .addIpAddress))

theorem setters_setter (t : Settings) (subnets : List IpSubnet) :
    ∀ e ∈ t.setters subnets, e.Setter := by
  intro e inside
  simp only [setters, List.mem_append, List.mem_cons, List.not_mem_nil, or_false, List.mem_map]
    at inside
  rcases inside with (rfl | rfl | rfl | rfl) | ⟨_, _, rfl⟩ | (rfl | rfl) | ⟨_, _, rfl⟩
  all_goals exact trivial

theorem addAll (family : Family) (subnets : List IpSubnet) (t : Settings)
    (same : ∀ subnet ∈ subnets, subnet.address.family = family) :
    (subnets.map Event.addIpAddress).foldl (step family) t =
      { t with subnets := t.subnets ∪ subnets.toFinset } := by
  induction subnets generalizing t with
  | nil => rw [List.toFinset_nil, Finset.union_empty]; rfl
  | cons subnet rest ih =>
    rw [List.map_cons, List.foldl_cons,
      ih _ fun other inside => same other (List.mem_cons_of_mem subnet inside), step,
      if_pos (same subnet List.mem_cons_self), List.toFinset_cons, Finset.union_insert,
      Finset.insert_union]

theorem step_accept {family : Family} {u : Settings} {enabled : Bool}
    (fixed : family = .inet6 ∨ u.vlanId ≠ 0 → u.acceptMode = enabled) :
    u.step family (.setAcceptMode enabled) = { u with acceptMode := enabled } := by
  simp only [step]
  split
  · rename_i refused
    rw [← fixed refused]
  · rfl

theorem setters_primary {family : Family} {u : Settings} {primary : Option IpAddress}
    (auto : u.primaryIpAddress = none) (same : ∀ a, primary = some a → a.family = family) :
    (primary.toList.map Event.setPrimaryIpAddress).foldl (step family) u =
      { u with primaryIpAddress := primary } := by
  cases forced : primary with
  | none => exact Settings.ext rfl rfl rfl rfl rfl auto rfl rfl rfl
  | some a => exact if_pos (same a forced)

/-- No setter refuses what the checks of the settings let through. -/
theorem setters_replay {family : Family} {t : Settings} (valid : t.Valid family)
    (priority : t.priority ≠ 0) (positive : 1 ≤ t.advertisementInterval)
    (bounded : t.advertisementInterval ≤ 4095) {subnets : List IpSubnet}
    (all : subnets.toFinset = t.subnets) :
    (t.setters subnets).foldl (step family) (initial family t.vlanId) = t := by
  have same : ∀ subnet ∈ subnets, subnet.address.family = family := fun subnet inside =>
    valid.subnets subnet (all ▸ List.mem_toFinset.mpr inside)
  have interval : ¬ (t.advertisementInterval < 1 ∨ 4095 < t.advertisementInterval) := by omega
  have fixed : family = .inet6 ∨ t.vlanId ≠ 0 →
      decide (family = .inet6 ∨ t.vlanId ≠ 0) = t.acceptMode := fun fixed => by
    rw [valid.accept fixed, decide_eq_true fixed]
  rw [setters, List.foldl_append, List.foldl_append, List.foldl_append, addAll _ _ _ same]
  simp only [List.foldl_cons, List.foldl_nil, initial]
  rw [step, if_neg priority, step, if_neg interval, step_accept fixed]
  simp only [step]
  rw [setters_primary rfl valid.primary, Finset.empty_union, all]

end Settings

namespace VrrpService

def settings (s : VrrpService) : Settings where
  priority := s.priority.1
  advertisementInterval := s.advertisementInterval.value
  acceptMode := s.acceptMode
  preemptMode := s.preemptMode
  vlanId := s.vlanId
  primaryIpAddress := if s.autoPrimaryIpAddress then none else some s.primaryIpAddress
  subnets := s.subnets.toList.toFinset
  masterCommand := s.masterCommand
  backupCommand := s.backupCommand

theorem construct_settings {interface : Int} {family : Family} {virtualRouterId : UInt8}
    {vlanId : UInt64} {answers : Creation} {s : VrrpService}
    (created : construct interface family virtualRouterId vlanId answers = some s) :
    s.settings = .initial family vlanId := by
  obtain ⟨macvlan, vlan, output, mac, rfl⟩ := construct_fresh created
  rfl

/-! ### Refinement -/

theorem happens_settings (s : VrrpService) {e : Event} (happens : ¬ e.Setter) :
    (s.step e).1.settings = s.settings := by
  have same := congrArg settings (s.step_configured happens)
  exact same

/-- Every event does to the service's settings what it does to the settings alone. -/
theorem step_settings (s : VrrpService) (e : Event) :
    (s.step e).1.settings = s.settings.step s.family e := by
  cases e with
  | setPrimaryIpAddress address =>
    simp only [step, setPrimaryIpAddress, Settings.step]
    split <;> rfl
  | unsetPrimaryIpAddress found =>
    simp only [step, unsetPrimaryIpAddress, Settings.step]
    split
    · rename_i auto
      simp only [settings, auto, if_true, Option.map_none]
    · rename_i forced
      simp only [settings, forced]; rfl
  | setPriority priority =>
    simp only [step, setPriority, Settings.step]
    split <;> rfl
  | setAdvertisementInterval n =>
    simp only [step, setAdvertisementInterval, Settings.step]
    split <;> rfl
  | setAcceptMode enabled =>
    simp only [step, setAcceptMode, Settings.step]
    split
    · rename_i same
      split
      · rfl
      · rw [← same]; rfl
    · split
      · rename_i fixed
        exact (if_pos fixed).symm
      · rename_i free
        exact (if_neg free).symm
  | addIpAddress subnet =>
    simp only [step, addIpAddress, Settings.step]
    split
    · rfl
    · rename_i same
      rw [if_pos (not_not.mp same)]
      exact Settings.ext rfl rfl rfl rfl rfl rfl (Nested.insert_toFinset s.subnets subnet) rfl rfl
  | removeIpAddress subnet =>
    exact Settings.ext rfl rfl rfl rfl rfl rfl (Nested.erase_toFinset s.subnets subnet) rfl rfl
  | setPreemptMode | setMasterCommand | setBackupCommand => rfl
  | _ =>
    refine (s.happens_settings ?_).trans rfl
    exact id

theorem step_family (s : VrrpService) (e : Event) : (s.step e).1.family = s.family := by
  have same := s.step_identity e
  simp only [identity, Prod.mk.injEq] at same
  exact same.2.2.1

theorem run_settings (events : List Event) (s : VrrpService) :
    (events.foldl (fun s e => (s.step e).1) s).settings =
      events.foldl (Settings.step s.family) s.settings := by
  induction events generalizing s with
  | nil => rfl
  | cons e rest ih => rw [List.foldl_cons, List.foldl_cons, ih, step_family, step_settings]

/-! ### Whether a service runs -/

theorem setters_state (events : List Event) (s : VrrpService) (setters : ∀ e ∈ events, e.Setter) :
    (events.foldl (fun s e => (s.step e).1) s).state = s.state :=
  Runs.foldl_keeps (fun t : VrrpService => t.state = s.state) events
    (fun t e inside kept => (t.setter_keeps (setters e inside)).2.1.trans kept) rfl

theorem enable_enabled (s : VrrpService) (isInterfaceUp : Bool) :
    (s.enable isInterfaceUp).1.enabled = true := by
  unfold enable
  split
  · split
    · by_cases owner : s.priority.1 = 255
      · rw [startup_owner s owner, becomeMaster_fst]; rfl
      · rw [startup_fst s owner]; rfl
    · rw [setState_fst]; rfl
  · rename_i running
    simpa [enabled] using running

end VrrpService

end OpenVrrp
