import OpenVrrp.Host
import OpenVrrp.Library.Runs
import OpenVrrp.Service.Moves

/-! Where the virtual addresses of an IPv4 service are, over runs of role and mode changes.
Leaving accept mode moves them into the fake-ARP table without a look at the priority, but
an address owner, priority 255, keeps its addresses on the interface. -/
namespace OpenVrrp

inductive Place where
  | nowhere | interface | fakeArp
  deriving DecidableEq

namespace Place

def configured : Place → Prop
  | .interface => True
  | .nowhere | .fakeArp => False

def answer (mac : Mac) : Place → Option Mac
  | .fakeArp => some mac
  | .nowhere | .interface => none

end Place

def Event.FixesSubnets : Event → Prop
  | .addIpAddress _ | .removeIpAddress _ => False
  | _ => True

namespace VrrpService

def place (s : VrrpService) : Place :=
  if s.state = .master then if s.onInterface then .interface else .fakeArp else .nowhere

def Holds (s : VrrpService) (h : Host) (place : Place) : Prop :=
  ∀ subnet ∈ s.subnets.toList,
    ((s.outputInterface, subnet) ∈ h.configured ↔ place.configured) ∧
      h.arp.fakeArp s.interface subnet.address = place.answer s.mac

def Placed (s : VrrpService) (h : Host) : Prop := s.Holds h s.place

def hosted (system : VrrpService × Host) (e : Event) : VrrpService × Host :=
  ((system.1.step e).1, system.2.run (system.1.step e).2)

/-! ### The loops over the subnets -/

section Loops
variable (h : Host) (i : Int) (mac : Mac) (subnets : List IpSubnet)

theorem configured_add : ∀ subnet ∈ subnets,
    (i, subnet) ∈ (h.run (subnets.map (Effect.addIpAddress i))).configured := by
  rw [Host.run_map]
  refine Runs.foldl_makes (fun subnet h => (i, subnet) ∈ h.configured) ?_ ?_ subnets h
  · intro h s
    exact Finset.mem_insert_self _ _
  · intro h s t held
    exact Finset.mem_insert_of_mem held

theorem configured_remove : ∀ subnet ∈ subnets,
    (i, subnet) ∉ (h.run (subnets.map (Effect.removeIpAddress i))).configured := by
  rw [Host.run_map]
  refine Runs.foldl_makes (fun subnet h => (i, subnet) ∉ h.configured) ?_ ?_ subnets h
  · intro h s
    exact Finset.notMem_erase _ _
  · intro h s t held inside
    exact held (Finset.mem_of_mem_erase inside)

theorem answer_add : ∀ subnet ∈ subnets,
    (h.run (subnets.map fun s => .addFakeArp i s.address mac)).arp.fakeArp i subnet.address =
      some mac := by
  rw [Host.run_map]
  refine Runs.foldl_makes
    (fun subnet h => h.arp.fakeArp i subnet.address = some mac) ?_ ?_ subnets h
  · intro h s
    simp only [Host.apply, ArpServices.addFakeArp_eq]
    exact Nested.find_put_self _ _ _ _
  · intro h s t held
    simp only [Host.apply, ArpServices.addFakeArp_eq]
    by_cases same : t.address = s.address
    · rw [same]
      exact Nested.find_put_self _ _ _ _
    · rw [ArpServices.fakeArp, Nested.find_put_other _ _ fun _ => same]
      exact held

theorem answer_remove : ∀ subnet ∈ subnets,
    (h.run (subnets.map fun s => .removeFakeArp i s.address)).arp.fakeArp i subnet.address =
      none := by
  rw [Host.run_map]
  refine Runs.foldl_makes
    (fun subnet h => h.arp.fakeArp i subnet.address = none) ?_ ?_ subnets h
  · intro h s
    simp only [Host.apply, ArpServices.fakeArp, ArpServices.removeFakeArp_find]
    exact Nested.find_drop_self _ _ _
  · intro h s t held
    simp only [Host.apply, ArpServices.fakeArp, ArpServices.removeFakeArp_find]
    by_cases same : t.address = s.address
    · rw [same]
      exact Nested.find_drop_self _ _ _
    · rw [Nested.find_drop_other _ fun _ => same]
      exact held

theorem arp_interface (f : IpSubnet → Effect) (quiet : ∀ h s, (Host.apply h (f s)).arp = h.arp) :
    (h.run (subnets.map f)).arp = h.arp := by
  rw [Host.run_map]
  exact Runs.foldl_keeps (fun g => g.arp = h.arp) subnets
    (fun g s _ held => (quiet g s).trans held) rfl

theorem configured_arp (f : IpSubnet → Effect)
    (quiet : ∀ h s, (Host.apply h (f s)).configured = h.configured) :
    (h.run (subnets.map f)).configured = h.configured := by
  rw [Host.run_map]
  exact Runs.foldl_keeps (fun g => g.configured = h.configured) subnets
    (fun g s _ held => (quiet g s).trans held) rfl

end Loops

section Moves
variable (s : VrrpService) {h : Host}

theorem addIpAddresses_holds (held : s.Holds h .nowhere) :
    s.Holds (h.run s.addIpAddresses) (if s.onInterface then .interface else .fakeArp) := by
  intro subnet inside
  unfold addIpAddresses
  split
  · refine ⟨iff_of_true (configured_add h _ _ subnet inside) trivial, ?_⟩
    rw [arp_interface h _ _ fun _ _ => rfl]
    exact (held subnet inside).2
  · refine ⟨?_, answer_add h _ _ _ subnet inside⟩
    rw [configured_arp h _ _ fun _ _ => rfl]
    exact (held subnet inside).1

theorem removeIpAddresses_holds
    (held : s.Holds h (if s.onInterface then .interface else .fakeArp)) :
    s.Holds (h.run s.removeIpAddresses) .nowhere := by
  intro subnet inside
  unfold removeIpAddresses
  split
  · rename_i on
    rw [if_pos on] at held
    refine ⟨iff_of_false (configured_remove h _ _ subnet inside) not_false, ?_⟩
    rw [arp_interface h _ _ fun _ _ => rfl]
    exact (held subnet inside).2
  · rename_i off
    rw [if_neg off] at held
    refine ⟨?_, answer_remove h _ _ subnet inside⟩
    rw [configured_arp h _ _ fun _ _ => rfl]
    exact (held subnet inside).1

theorem moveToInterface_holds : s.Holds (h.run s.moveToInterface) .interface := by
  intro subnet inside
  rw [moveToInterface, Host.run_flatMap h (.addIpAddress s.outputInterface)
    (fun subnet => .removeFakeArp s.interface subnet.address) (fun _ _ _ => rfl)]
  refine ⟨iff_of_true ?_ trivial, answer_remove _ _ _ subnet inside⟩
  rw [configured_arp _ _ _ fun _ _ => rfl]
  exact configured_add h _ _ subnet inside

theorem moveToFakeArp_holds : s.Holds (h.run s.moveToFakeArp) .fakeArp := by
  intro subnet inside
  rw [moveToFakeArp, Host.run_flatMap h
    (fun subnet => .addFakeArp s.interface subnet.address s.mac)
    (.removeIpAddress s.outputInterface) (fun _ _ _ => rfl)]
  refine ⟨iff_of_false (configured_remove _ _ _ subnet inside) not_false, ?_⟩
  rw [arp_interface _ _ _ fun _ _ => rfl]
  exact answer_add h _ _ _ subnet inside

end Moves

/-! ### Effects that move no address -/

theorem sendAdvertisement_neutral (s : VrrpService) (priority : UInt8) :
    Host.Neutral (s.sendAdvertisement priority) := trivial

theorem script_neutral (s : VrrpService) (command : Text) :
    ∀ e ∈ s.script command, Host.Neutral e := by
  intro e inside
  unfold script at inside
  split at inside
  · rw [List.mem_singleton] at inside
    rw [inside]
    trivial
  · cases inside

theorem setVirtualMac_neutral (s : VrrpService) : ∀ e ∈ s.setVirtualMac, Host.Neutral e := by
  intro e inside
  unfold setVirtualMac at inside
  rcases List.mem_append.mp inside with inside | inside <;> split at inside <;>
    first | (rw [List.mem_singleton] at inside; rw [inside]; trivial) | cases inside

theorem setDefaultMac_neutral (s : VrrpService) : ∀ e ∈ s.setDefaultMac, Host.Neutral e := by
  intro e inside
  unfold setDefaultMac at inside
  rcases List.mem_append.mp inside with inside | inside <;> split at inside <;>
    first | (rw [List.mem_singleton] at inside; rw [inside]; trivial) | cases inside

theorem sendARPs_neutral (s : VrrpService) : ∀ e ∈ s.sendARPs, Host.Neutral e := by
  intro e inside
  obtain ⟨address, _, rfl⟩ := List.mem_map.mp inside
  trivial

/-! ### State changes -/

theorem place_master {s : VrrpService} (master : s.state = .master) :
    s.place = if s.onInterface then .interface else .fakeArp := by rw [place, if_pos master]

theorem place_other {s : VrrpService} (other : s.state ≠ .master) : s.place = .nowhere := by
  rw [place, if_neg other]

theorem setState_master_host (s : VrrpService) (h : Host) (other : s.state ≠ .master) :
    h.run (s.setState .master).2 = h.run s.addIpAddresses := by
  have said : ∀ e ∈ [s.sendAdvertisement s.priority.1], Host.Neutral e := by
    intro e inside
    rw [List.mem_singleton.mp inside]
    exact sendAdvertisement_neutral s _
  rw [setState_master s other, Host.run_append, Host.run_append, Host.run_append,
    Host.run_neutral h s.setVirtualMac_neutral, Host.run_neutral _ said,
    Host.run_neutral _ (script_neutral _ s.masterCommand)]

theorem setState_other_host (s : VrrpService) (h : Host) {state : State}
    (target : state ≠ .master) :
    h.run (s.setState state).2 = h.run (if s.state = .master then s.removeIpAddresses else []) := by
  by_cases same : s.state = state
  · rw [setState_same s same, if_neg (same ▸ target)]
  · have commands : ∀ e ∈ if state = .backup then
        VrrpService.script { s with state := state } s.backupCommand else [], Host.Neutral e := by
      intro e inside
      split at inside
      · exact script_neutral _ _ e inside
      · cases inside
    rw [setState_other s same target, Host.run_append, Host.run_append,
      Host.run_neutral _ commands, Host.run_neutral _ s.setDefaultMac_neutral]

theorem setState_placed (s : VrrpService) {h : Host} (placed : s.Placed h) (state : State) :
    (s.setState state).1.Placed (h.run (s.setState state).2) := by
  by_cases same : s.state = state
  · rw [setState_same s same]
    exact placed
  · rw [setState_fst]
    by_cases target : state = .master
    · subst target
      rw [Placed, place_other same] at placed
      rw [setState_master_host s h same, Placed, place_master rfl]
      exact s.addIpAddresses_holds placed
    · rw [setState_other_host s h target, Placed, place_other target]
      by_cases master : s.state = .master
      · rw [Placed, place_master master] at placed
        rw [if_pos master]
        exact s.removeIpAddresses_holds placed
      · rw [Placed, place_other master] at placed
        rw [if_neg master]
        exact placed

theorem becomeMaster_host (s : VrrpService) (h : Host) (reason : NewMasterReason) :
    h.run (s.becomeMaster reason).2 = h.run (s.setState .master).2 := by
  have arps : ∀ e ∈ if s.family = .inet then s.sendARPs else [], Host.Neutral e := by
    intro e inside
    split at inside
    · exact s.sendARPs_neutral e inside
    · cases inside
  rw [becomeMaster_snd, Host.run_append, Host.run_neutral _ arps]

theorem becomeMaster_placed (s : VrrpService) {h : Host} (placed : s.Placed h)
    (reason : NewMasterReason) :
    (s.becomeMaster reason).1.Placed (h.run (s.becomeMaster reason).2) := by
  have entered := s.setState_placed placed .master
  rw [setState_fst] at entered
  rw [becomeMaster_fst, becomeMaster_host]
  exact entered

theorem startup_placed (s : VrrpService) {h : Host} (placed : s.Placed h) :
    s.startup.1.Placed (h.run s.startup.2) := by
  by_cases owner : s.priority.1 = 255
  · rw [startup_owner s owner]
    exact s.becomeMaster_placed placed .preempted
  · have entered := s.waiting.setState_placed (h := h) placed .backup
    rw [setState_fst] at entered
    rw [startup_fst s owner, startup_snd s owner]
    exact entered

theorem shutdown_placed (s : VrrpService) {h : Host} (placed : s.Placed h) (newState : State) :
    (s.shutdown newState).1.Placed (h.run (s.shutdown newState).2) := by
  by_cases backup : s.state = .backup
  · rw [shutdown_backup s newState backup]
    exact s.stopMasterDownTimer.setState_placed placed newState
  · by_cases master : s.state = .master
    · have left := s.stopAdvertisementTimer.setState_placed (h := h) placed newState
      rw [setState_fst] at left
      rw [shutdown_master_fst s newState master, shutdown_master_snd s newState master,
        Host.run_cons, Host.apply_neutral h (sendAdvertisement_neutral s 0)]
      exact left
    · rw [shutdown_idle s newState backup master]
      exact placed

theorem yield_placed (s : VrrpService) {h : Host} (placed : s.Placed h) (interval : WireInterval) :
    (s.yield interval).1.Placed (h.run (s.yield interval).2) := by
  have left := setState_placed { s with
    advertisementTimer := s.advertisementTimer.stop
    masterAdvertisementInterval := interval
    masterDownTimer := s.masterDownTimer.start (s.downIntervalOn interval * 10) } (h := h)
      placed .backup
  rw [setState_fst] at left
  rw [yield_fst, yield_snd, Host.run_append, Host.run_neutral _ (setDefaultMac_neutral _)]
  exact left

theorem Stays.placed {s t : VrrpService} (stays : Stays s t) {h : Host} (placed : s.Placed h) :
    t.Placed h := by
  have mode : t.onInterface = s.onInterface := by
    have same := congrArg onInterface stays.configured
    exact same
  have place : t.place = s.place := by rw [VrrpService.place, stays.state, mode]; rfl
  have holds := congrArg (fun u : VrrpService => u.Holds h s.place) stays.configured
  rw [Placed, place]
  exact holds.mpr placed

/-- Only the setters are left: the other events keep the addresses where role and mode want
them. -/
theorem step_placed (s : VrrpService) {h : Host} (placed : s.Placed h) {e : Event}
    (happens : ¬ e.Setter) : (s.step e).1.Placed (h.run (s.step e).2) := by
  have moves := s.step_moves e
  generalize outcome : s.step e = u at moves
  cases moves with
  | set setter => exact absurd setter happens
  | hear _ stays => exact stays.placed placed
  | announce _ _ stays =>
    rw [Host.run_cons, Host.apply_neutral h (sendAdvertisement_neutral _ _)]
    exact stays.placed placed
  | ignore => exact placed
  | linkMissing => exact s.setState_placed placed .linkDown
  | startUp => exact s.startup_placed placed
  | takeOver => exact s.stopMasterDownTimer.becomeMaster_placed placed _
  | yield => exact (s.countAdvertisement _).yield_placed placed _
  | shutDown => exact s.shutdown_placed placed _

/-! ### Mode changes -/

theorem placed_master {s : VrrpService} {h : Host} (master : s.state = .master) {mode : Bool}
    (same : s.onInterface = mode) :
    s.Placed h ↔ s.Holds h (if mode then .interface else .fakeArp) := by
  rw [Placed, place_master master, same]

theorem placed_idle {s : VrrpService} {h : Host} (other : s.state ≠ .master) :
    s.Placed h ↔ s.Holds h .nowhere := by rw [Placed, place_other other]

theorem placed_priority (s : VrrpService) {h : Host} (master : s.state = .master)
    (p : Priority) (mode : Bool) (same : (s.acceptMode || p.1 == 255) = mode) :
    VrrpService.Placed { s with priority := p } h ↔
      s.Holds h (if mode then .interface else .fakeArp) :=
  placed_master (s := { s with priority := p }) master same

theorem placed_acceptMode (s : VrrpService) {h : Host} (master : s.state = .master)
    (accept mode : Bool) (same : (accept || s.priority.1 == 255) = mode) :
    VrrpService.Placed { s with acceptMode := accept } h ↔
      s.Holds h (if mode then .interface else .fakeArp) :=
  placed_master (s := { s with acceptMode := accept }) master same

/-- The priority matters only to a Master outside accept mode, and only across 255. -/
theorem setPriority_placed (s : VrrpService) {h : Host} (placed : s.Placed h)
    (priority : UInt8) :
    (s.setPriority priority).1.Placed (h.run (s.setPriority priority).2) := by
  unfold setPriority
  split
  · exact placed
  · rename_i nonzero
    by_cases master : s.state = .master
    · have now := (placed_master master rfl).mp placed
      by_cases accept : s.acceptMode = true
      · rw [if_neg (by simp [accept])]
        apply (s.placed_priority master _ true (by simp [accept])).mpr
        rwa [show s.onInterface = true by simp [onInterface, accept]] at now
      · rw [if_pos ⟨master, accept⟩]
        split
        · rename_i toOwner
          apply (s.placed_priority master _ true (by simp [toOwner.2])).mpr
          exact s.moveToInterface_holds
        · split
          · rename_i fromOwner
            apply (s.placed_priority master _ false (by simp [accept, fromOwner.2])).mpr
            exact s.moveToFakeArp_holds
          · rename_i notTo notFrom
            have same : s.priority.1 = 255 ↔ priority = 255 := by tauto
            refine (s.placed_priority master _ s.onInterface ?_).mpr now
            rw [onInterface, Bool.eq_iff_iff]
            simp [same]
    · rw [if_neg fun both => master both.1]
      exact (placed_idle (s := { s with priority := ⟨priority, nonzero⟩ }) master).mpr
        ((placed_idle master).mp placed)

/-- An address owner that is Master with addresses stays in accept mode. -/
def KeepsPlace (s : VrrpService) : Event → Prop
  | .setAcceptMode enabled => enabled = false → s.acceptMode = true → s.state = .master →
      s.priority.1 = 255 → s.subnets.toList = []
  | _ => True

theorem setAcceptMode_placed_iff (s : VrrpService) {h : Host} (placed : s.Placed h)
    (family : s.family = .inet) (vlanId : s.vlanId = 0) (enabled : Bool) :
    (s.setAcceptMode enabled).1.Placed (h.run (s.setAcceptMode enabled).2) ↔
      s.KeepsPlace (.setAcceptMode enabled) := by
  unfold setAcceptMode
  by_cases same : s.acceptMode = enabled
  · rw [if_pos same]
    apply iff_of_true placed
    intro leaves accept
    rw [same, leaves] at accept
    cases accept
  · have allowed : ¬ (s.family = .inet6 ∨ s.vlanId ≠ 0) := by simp [family, vlanId]
    rw [if_neg same, if_neg allowed]
    by_cases master : s.state = .master
    · rw [if_pos master]
      cases enabled with
      | true =>
        refine iff_of_true ?_ (fun leaves => by cases leaves)
        exact (s.placed_acceptMode master true true rfl).mpr s.moveToInterface_holds
      | false =>
        have accept : s.acceptMode = true := by simpa using same
        have moved := s.moveToFakeArp_holds (h := h)
        by_cases owner : s.priority.1 = 255
        · constructor
          · intro wanted _ _ _ _
            have on := (s.placed_acceptMode master false true (by simp [owner])).mp wanted
            apply List.eq_nil_iff_forall_not_mem.mpr
            intro subnet inside
            exact (moved subnet inside).1.mp ((on subnet inside).1.mpr trivial)
          · intro keeps
            have empty : s.subnets.toList = [] := keeps rfl accept master owner
            apply (s.placed_acceptMode master false true (by simp [owner])).mpr
            intro subnet inside
            rw [empty] at inside
            cases inside
        · refine iff_of_true ?_ (fun _ _ _ given => absurd given owner)
          exact (s.placed_acceptMode master false false (by simp [owner])).mpr moved
    · rw [if_neg master]
      refine iff_of_true ?_ (fun _ _ given => absurd given master)
      exact (placed_idle (s := { s with acceptMode := enabled }) master).mpr
        ((placed_idle master).mp placed)

/-! ### Runs -/

theorem step_placed_iff (s : VrrpService) {h : Host} (placed : s.Placed h)
    (family : s.family = .inet) (vlanId : s.vlanId = 0) (e : Event) (fixed : e.FixesSubnets) :
    (hosted (s, h) e).1.Placed (hosted (s, h) e).2 ↔ s.KeepsPlace e := by
  cases e with
  | setAcceptMode enabled => exact s.setAcceptMode_placed_iff placed family vlanId enabled
  | setPriority priority => exact iff_of_true (s.setPriority_placed placed priority) trivial
  | setPrimaryIpAddress address =>
    refine iff_of_true ?_ trivial
    simp only [hosted, step, setPrimaryIpAddress]
    split <;> exact placed
  | unsetPrimaryIpAddress found =>
    refine iff_of_true ?_ trivial
    simp only [hosted, step, unsetPrimaryIpAddress]
    split <;> exact placed
  | setAdvertisementInterval n =>
    refine iff_of_true ?_ trivial
    simp only [hosted, step, setAdvertisementInterval]
    split <;> exact placed
  | addIpAddress | removeIpAddress => cases fixed
  | setPreemptMode | setMasterCommand | setBackupCommand => exact iff_of_true placed trivial
  | _ => exact iff_of_true (s.step_placed placed id) trivial

/-- In a run of an IPv4 service without a VLAN and with fixed subnets, its addresses are
where role and mode want them in every state reached exactly when no step takes an address
owner that is Master out of accept mode. -/
theorem placed_iff (s : VrrpService) (h : Host) (disabled : s.state = .disabled)
    (family : s.family = .inet) (vlanId : s.vlanId = 0) (unused : s.Holds h .nowhere)
    (events : List { e : Event // e.FixesSubnets }) :
    Runs.Always (fun system e => hosted system e.1) (fun system => system.1.Placed system.2)
        (s, h) events ↔
      Runs.Admitted (fun system e => hosted system e.1) (fun system e => system.1.KeepsPlace e.1)
        (s, h) events := by
  have start : s.Placed h := (placed_idle (by simp [disabled])).mpr unused
  refine Runs.always_iff_admitted
    (fun system : VrrpService × Host => system.1.family = .inet ∧ system.1.vlanId = 0)
    ?_ ?_ ?_ ⟨family, vlanId⟩ start events
  · rintro ⟨s, h⟩ e ⟨family, vlanId⟩
    have same := step_identity s e.1
    simp only [identity, Prod.mk.injEq] at same
    exact ⟨same.2.2.1.trans family, same.2.2.2.1.trans vlanId⟩
  · rintro ⟨s, h⟩ e ⟨family, vlanId⟩ placed
    exact (s.step_placed_iff placed family vlanId e.1 e.2).mpr
  · rintro ⟨s, h⟩ e ⟨family, vlanId⟩ placed
    exact mt (s.step_placed_iff placed family vlanId e.1 e.2).mp

def withSubnet : VrrpService :=
  { sample 1 with subnets := (∅ : IpSubnetSet).insert ⟨.sample 100, 24⟩ }

theorem withSubnet_unused : withSubnet.Holds ⟨∅, ∅⟩ .nowhere := by
  intro subnet _
  exact ⟨by simp [Place.configured], rfl⟩

theorem placed_sample :
    Runs.Always (fun system (e : { e : Event // e.FixesSubnets }) => hosted system e.1)
      (fun system => system.1.Placed system.2) (withSubnet, ⟨∅, ∅⟩)
      [⟨.enable true, trivial⟩, ⟨.masterDownExpiry, trivial⟩, ⟨.setAcceptMode true, trivial⟩,
        ⟨.setAcceptMode false, trivial⟩, ⟨.disable, trivial⟩] :=
  (placed_iff withSubnet ⟨∅, ∅⟩ rfl rfl rfl withSubnet_unused _).mpr
    ⟨trivial, trivial, fun leaves => absurd leaves (by decide),
      fun _ _ _ owner => absurd owner (by decide), trivial, trivial⟩

/-- The owner leaves accept mode as Master: its address is no longer on the interface. -/
theorem owner_displaced : withSubnet.Holds ⟨∅, ∅⟩ .nowhere ∧
    ¬ Runs.Always (fun system (e : { e : Event // e.FixesSubnets }) => hosted system e.1)
      (fun system => system.1.Placed system.2) (withSubnet, ⟨∅, ∅⟩)
      [⟨.setPriority 255, trivial⟩, ⟨.setAcceptMode true, trivial⟩, ⟨.enable true, trivial⟩,
        ⟨.setAcceptMode false, trivial⟩] := by
  refine ⟨withSubnet_unused, ?_⟩
  rintro ⟨_, _, _, _, placed⟩
  have on := (placed ⟨.sample 100, 24⟩ (by decide)).1.mpr trivial
  exact absurd on (by decide)

end VrrpService

end OpenVrrp
