import OpenVrrp.Configurator.Loops

/-! What is saved and loaded again: the bytes of the file depend on the configuration alone, and
a file that was loaded once, from whatever version and in whatever state, loses nothing more. -/
namespace OpenVrrp

namespace Configurator

open Decoder

/-! ### What a file depends on -/

theorem writeString_cut (value : Text) : writeString (value.take 255) = writeString value := by
  unfold writeString
  dsimp only
  by_cases long : 255 < value.length
  · have length : (value.take 255).length = 255 := List.length_take_of_le (by omega)
    rw [length, if_pos long, if_neg (by omega), List.take_take, Nat.min_self]
  · rw [List.take_of_length_le (by omega)]

/-- Commands are cut when they are written, and so their cut is all that is written of them. -/
theorem writeRouter_same (libc : Libc) {s t : VrrpService} (key : s.key = t.key)
    (same : s.configuration.cut = t.configuration.cut) :
    writeRouter libc s = writeRouter libc t := by
  obtain ⟨settings, enabled⟩ := Configuration.ext_iff.mp same
  obtain ⟨priority, interval, accept, preempt, vlan, primary, subnets, master, backup⟩ :=
    Settings.ext_iff.mp settings
  have interface : s.interface = t.interface := congrArg RouterKey.interface key
  have router : s.virtualRouterId = t.virtualRouterId := congrArg RouterKey.virtualRouterId key
  have family : s.family = t.family := congrArg RouterKey.family key
  have list : s.subnets.toList = t.subnets.toList := Nested.set_toList_eq subnets
  have size : s.subnets.size = t.subnets.size := by
    rw [← Std.TreeSet.length_toList, list, Std.TreeSet.length_toList]
  have commands : writeString s.masterCommand = writeString t.masterCommand ∧
      writeString s.backupCommand = writeString t.backupCommand := by
    constructor
    · rw [← writeString_cut, ← writeString_cut t.masterCommand]
      exact congrArg writeString master
    · rw [← writeString_cut, ← writeString_cut t.backupCommand]
      exact congrArg writeString backup
  have forced : s.autoPrimaryIpAddress = t.autoPrimaryIpAddress ∧
      (t.autoPrimaryIpAddress = false → s.primaryIpAddress = t.primaryIpAddress) := by
    change (if s.autoPrimaryIpAddress then none else some s.primaryIpAddress) =
      (if t.autoPrimaryIpAddress then none else some t.primaryIpAddress) at primary
    cases first : s.autoPrimaryIpAddress <;> cases second : t.autoPrimaryIpAddress <;>
      simp_all
  have whole : (if hasPrimaryIpAddress (if s.autoPrimaryIpAddress then 0 else 1)
        then writeIp s.primaryIpAddress else []) =
      (if hasPrimaryIpAddress (if t.autoPrimaryIpAddress then 0 else 1)
        then writeIp t.primaryIpAddress else []) := by
    rw [forced.1]
    cases auto : t.autoPrimaryIpAddress with
    | true => rfl
    | false => rw [forced.2 auto]
  have priority : s.priority.1 = t.priority.1 := priority
  have interval : s.advertisementInterval.value = t.advertisementInterval.value := interval
  have accept : s.acceptMode = t.acceptMode := accept
  have preempt : s.preemptMode = t.preemptMode := preempt
  have enabled : s.enabled = t.enabled := enabled
  have vlan : s.vlanId = t.vlanId := vlan
  unfold writeRouter
  dsimp only
  rw [interface, router, family, priority, interval, accept, preempt, enabled, whole, forced.1,
    commands.1, commands.2, vlan, size, list]

theorem map_of_map {α β γ : Type} {f : α → β} {g : α → γ} {first second : List α}
    (same : first.map f = second.map f)
    (follows : ∀ a ∈ first, ∀ b ∈ second, f a = f b → g a = g b) :
    first.map g = second.map g := by
  induction first generalizing second with
  | nil => rw [List.map_eq_nil_iff.mp same.symm]
  | cons a rest ih =>
    obtain ⟨b, others, rfl, head, tail⟩ := List.map_eq_cons_iff.mp same.symm
    rw [List.map_cons, List.map_cons, follows a List.mem_cons_self b List.mem_cons_self head.symm,
      ih tail.symm fun c inside d there =>
        follows c (List.mem_cons_of_mem a inside) d (List.mem_cons_of_mem b there)]

/-- Daemons that are configured the same save the same bytes. -/
theorem writeConfiguration_same (libc : Libc) {m t : VrrpManager}
    (keyed : m.Each fun key s => s.key = key) (placed : t.Each fun key s => s.key = key)
    (same : ∀ key, (m.configuration key).map Configuration.cut =
      (t.configuration key).map Configuration.cut) :
    writeConfiguration libc m = writeConfiguration libc t := by
  have traversed : m.services.toList.map (fun p => (p.1, p.2.configuration.cut)) =
      t.services.toList.map (fun p => (p.1, p.2.configuration.cut)) := by
    refine Nested.map_toList_eq (f := fun s : VrrpService => s.configuration.cut) fun key => ?_
    have here := same key
    rwa [VrrpManager.configuration, VrrpManager.configuration, Option.map_map, Option.map_map]
      at here
  have records : (services m).map (writeRouter libc) = (services t).map (writeRouter libc) := by
    rw [services, services, List.map_map, List.map_map]
    apply map_of_map traversed
    intro p inside q there equal
    obtain ⟨place, cut⟩ := Prod.mk.inj equal
    have first := keyed p.1 p.2 (Std.TreeMap.mem_toList_iff_getElem?_eq_some.mp inside)
    have second := placed q.1 q.2 (Std.TreeMap.mem_toList_iff_getElem?_eq_some.mp there)
    exact writeRouter_same libc (first.trans (place.trans second.symm)) cut
  have count : (services m).length = (services t).length := by
    rw [← List.length_map (writeRouter libc), records, List.length_map]
  rw [writeConfiguration, writeConfiguration, count, List.flatMap_def, List.flatMap_def, records]

/-! ### Restarts -/

/-- A start of the daemon: the kernel that it finds, and what its locals happen to hold. -/
structure Boot where
  kernel : Kernel
  locals : Nat → Int
  ints : Ints locals

/-- What a file makes of a new daemon. -/
def start (libc : Libc) (boot : Boot) (file : Text) : VrrpManager :=
  (readConfiguration libc boot.kernel boot.locals .empty file).1

/-- Save, and start again with the file. -/
def restart (libc : Libc) (m : VrrpManager) (boot : Boot) : VrrpManager :=
  start libc boot (writeConfiguration libc m)

/-- The services can be counted by ints, and so can the subnets of each. -/
structure Countable (m : VrrpManager) : Prop where
  services : m.services.size < 2 ^ 31
  subnets : m.Each fun _ s => s.subnets.size < 2 ^ 31

theorem cut_cut (c : Configuration) : c.cut.cut = c.cut := by
  refine Configuration.ext ?_ rfl
  simp only [Configuration.cut, Settings.cut, List.take_take, Nat.min_self]

theorem creates_same {kernel : Kernel} {s t : VrrpService} (key : s.key = t.key)
    (vlan : s.vlanId = t.vlanId) (creates : Creates kernel s) : Creates kernel t := by
  have interface : s.interface = t.interface := congrArg RouterKey.interface key
  have router : s.virtualRouterId = t.virtualRouterId := congrArg RouterKey.virtualRouterId key
  have family : s.family = t.family := congrArg RouterKey.family key
  unfold Creates at creates ⊢
  rwa [← interface, ← router, ← family, ← key, ← vlan]

theorem stored_configuration {m t : VrrpManager}
    (same : ∀ key, (t.configuration key).map Configuration.cut =
      (m.configuration key).map Configuration.cut) {key : RouterKey} {s : VrrpService}
    (stored : t.services[key]? = some s) :
    ∃ u, m.services[key]? = some u ∧ u.configuration.cut = s.configuration.cut := by
  have here := same key
  rw [VrrpManager.configuration, VrrpManager.configuration, stored, Option.map_map,
    Option.map_map] at here
  obtain ⟨u, there, equal⟩ := Option.map_eq_some_iff.mp here.symm
  exact ⟨u, there, equal⟩

theorem countable_same {m t : VrrpManager} (countable : Countable m)
    (same : ∀ key, (t.configuration key).map Configuration.cut =
      (m.configuration key).map Configuration.cut) : Countable t where
  services := by
    have traversed : t.services.toList.map (fun p => (p.1, p.2.configuration.cut)) =
        m.services.toList.map (fun p => (p.1, p.2.configuration.cut)) := by
      refine Nested.map_toList_eq (f := fun s : VrrpService => s.configuration.cut) fun key => ?_
      have here := same key
      rwa [VrrpManager.configuration, VrrpManager.configuration, Option.map_map, Option.map_map]
        at here
    have lengths := congrArg List.length traversed
    rw [List.length_map, List.length_map, Std.TreeMap.length_toList, Std.TreeMap.length_toList]
      at lengths
    exact lengths ▸ countable.services
  subnets := by
    intro key s stored
    obtain ⟨u, there, equal⟩ := stored_configuration same stored
    have few := countable.subnets key u there
    have subnets : u.subnets.toList = s.subnets.toList :=
      Nested.set_toList_eq (congrArg (fun c => c.settings.subnets) equal)
    rwa [← Std.TreeSet.length_toList, ← subnets, Std.TreeSet.length_toList]

section Restart
variable {libc : Libc} {m : VrrpManager}

theorem start_running (boot : Boot) (file : Text) : (start libc boot file).Running libc :=
  VrrpManager.running_happen .empty (.configuration boot.kernel boot.locals boot.ints file) _
    VrrpManager.empty_each rfl

theorem running_keyed (running : m.Running libc) : m.Each fun key s => s.key = key :=
  fun key s stored => (running key s stored).1.1

theorem running_sound (running : m.Running libc) : m.Sound libc :=
  fun key s stored => (running key s stored).1

theorem restart_configuration (running : m.Running libc) (countable : Countable m) (boot : Boot)
    (grants : m.Each fun _ s => Creates boot.kernel s) (key : RouterKey) :
    (restart libc m boot).configuration key = (m.configuration key).map Configuration.cut := by
  rw [restart, start]
  exact (readConfiguration_written libc boot.kernel boot.locals (running_sound running)
    countable.services countable.subnets grants).2 key

/-- What holds after any number of restarts. -/
structure Restarted (libc : Libc) (m t : VrrpManager) : Prop where
  running : t.Running libc
  same : ∀ key, (t.configuration key).map Configuration.cut =
    (m.configuration key).map Configuration.cut

theorem restarted_restart (running : m.Running libc) (countable : Countable m) {boot : Boot}
    (grants : m.Each fun _ s => Creates boot.kernel s) {t : VrrpManager}
    (restarted : Restarted libc m t) :
    Restarted libc m (restart libc t boot) ∧ ∀ key,
      (restart libc t boot).configuration key = (m.configuration key).map Configuration.cut := by
  have granted : t.Each fun _ s => Creates boot.kernel s := by
    intro key s stored
    obtain ⟨u, there, equal⟩ := stored_configuration restarted.same stored
    have keyed : u.key = s.key :=
      (running_keyed running key u there).trans (running_keyed restarted.running key s stored).symm
    exact creates_same keyed (congrArg (fun c => c.settings.vlanId) equal) (grants key u there)
  have exact : ∀ key, (restart libc t boot).configuration key =
      (m.configuration key).map Configuration.cut := fun key =>
    (restart_configuration restarted.running (countable_same countable restarted.same) boot granted
      key).trans (restarted.same key)
  refine ⟨⟨start_running boot _, fun key => ?_⟩, exact⟩
  rw [exact, Option.map_map]
  exact congrArg (fun f => (m.configuration key).map f) (funext cut_cut)

theorem restarted_all (running : m.Running libc) (countable : Countable m) {boots : List Boot}
    (grants : ∀ boot ∈ boots, m.Each fun _ s => Creates boot.kernel s) :
    Restarted libc m (boots.foldl (restart libc) m) :=
  Runs.foldl_keeps (Restarted libc m) boots (fun _ boot inside restarted =>
    (restarted_restart running countable (grants boot inside) restarted).1)
    ⟨running, fun _ => rfl⟩

theorem restarted_exact (running : m.Running libc) (countable : Countable m) {boots : List Boot}
    (grants : ∀ boot ∈ boots, m.Each fun _ s => Creates boot.kernel s) (some_boot : boots ≠ [])
    (key : RouterKey) : (boots.foldl (restart libc) m).configuration key =
      (m.configuration key).map Configuration.cut := by
  obtain ⟨before, last, whole⟩ := (List.eq_nil_or_concat boots).resolve_left some_boot
  rw [List.concat_eq_append] at whole
  subst whole
  have earlier := restarted_all running countable fun boot inside =>
    grants boot (List.mem_append_left _ inside)
  rw [List.foldl_append, List.foldl_cons, List.foldl_nil]
  exact (restarted_restart running countable
    (grants last (List.mem_append_right _ List.mem_cons_self)) earlier).2 key

theorem restarted_bytes (running : m.Running libc) {t : VrrpManager}
    (restarted : Restarted libc m t) : writeConfiguration libc t = writeConfiguration libc m :=
  writeConfiguration_same libc (running_keyed restarted.running) (running_keyed running)
    restarted.same

/-- Whatever a daemon went through, any number of restarts leave the saved file as it is, byte
for byte, and the configuration too, but for commands that no file can hold. -/
theorem restarts_same {happenings : List Happening}
    (reached : VrrpManager.history libc happenings = some m) (countable : Countable m)
    {boots : List Boot} (grants : ∀ boot ∈ boots, m.Each fun _ s => Creates boot.kernel s) :
    writeConfiguration libc (boots.foldl (restart libc) m) = writeConfiguration libc m ∧
      (boots ≠ [] → ∀ key, (boots.foldl (restart libc) m).configuration key =
        (m.configuration key).map Configuration.cut) := by
  have running := VrrpManager.running_history reached
  exact ⟨restarted_bytes running (restarted_all running countable grants),
    restarted_exact running countable grants⟩

/-- A router with an address and a command that is too long for the file. -/
def longCommand : List Happening :=
  [.input (.line .sample (ascii "add router eth0 1 ipv6")),
    .input (.line .sample (ascii "add router eth0 1")),
    .input (.line .sample (ascii "add address eth0 1 192.0.2.9/24")),
    .input (.line .sample (ascii "set router eth0 1 master command " ++
      List.replicate 300 120))]

def sampleBoots : List Boot :=
  [⟨.sample, fun _ => 0, ints_zero⟩,
    ⟨⟨Kernel.sample.creation, fun _ => false⟩, fun _ => 7, ints_same 7 (by decide) (by decide)⟩]

theorem sample_creates (boot : Boot) (inside : boot ∈ sampleBoots) (s : VrrpService) :
    Creates boot.kernel s := by
  refine creates_of_vlan (fun key vlanId => ?_) s
  rcases List.mem_cons.mp inside with rfl | inside
  · exact (by decide : (0 : Int) ≤ 8)
  · rw [List.mem_singleton.mp inside]
    exact (by decide : (0 : Int) ≤ 8)

theorem restarts_same_sample : ∃ m, VrrpManager.history .sample longCommand = some m ∧
    writeConfiguration .sample (sampleBoots.foldl (restart .sample) m) =
      writeConfiguration .sample m ∧
    (sampleBoots ≠ [] → ∀ key, (sampleBoots.foldl (restart .sample) m).configuration key =
      (m.configuration key).map Configuration.cut) := by
  have small : (VrrpManager.history .sample longCommand).any (fun m =>
      decide (m.services.size < 2 ^ 31) && m.services.toList.all fun p =>
        decide (p.2.subnets.size < 2 ^ 31)) = true := by decide +kernel
  obtain ⟨m, reached, small⟩ := (Option.any_eq_true _ _).mp small
  obtain ⟨services, subnets⟩ := Bool.and_eq_true_iff.mp small
  have countable : Countable m := by
    refine ⟨of_decide_eq_true services, fun key s stored => ?_⟩
    exact of_decide_eq_true (List.all_eq_true.mp subnets (key, s)
      (Std.TreeMap.mem_toList_iff_getElem?_eq_some.mpr stored))
  exact ⟨m, reached, restarts_same reached countable fun boot inside _ s _ =>
    sample_creates boot inside s⟩

end Restart

/-! ### What a file can hold -/

theorem members_subnets (version indeterminate : Int) :
    Ensures (readMembers version indeterminate) fun members =>
      ∀ subnets, (members.1 subnets).subnets = subnets := by
  refine ensures_after _ fun _ => ensures_after _ fun _ => ensures_after _ fun _ =>
    ensures_after _ fun _ => ensures_after _ fun _ => ensures_after _ fun _ =>
    ensures_after _ fun _ => ensures_after _ fun _ => ensures_after _ fun _ =>
    ensures_after _ fun _ => ensures_after _ fun _ => ensures_after _ fun _ =>
    ensures_after _ fun _ => ensures_after _ fun _ => ensures_pure fun _ => rfl

/-- A record takes a byte for itself and one for every subnet at least. -/
theorem readRouter_room {version indeterminate : Int} {file rest : Text} {r : Router}
    (read : readRouter version indeterminate file = some (r, rest)) :
    rest.length + r.subnets.size + 1 ≤ file.length := by
  rw [readRouter_members, bind_apply] at read
  obtain ⟨⟨members, front⟩, first, read⟩ := Option.bind_eq_some_iff.mp read
  have one := takes_members _ _ file _ first
  have subnets := members_subnets _ _ file _ first
  rw [bind_apply] at read
  obtain ⟨⟨list, back⟩, second, read⟩ := Option.bind_eq_some_iff.mp read
  cases Option.some.inj read
  have room : back.length + 4 * list.length ≤ front.length := by
    unfold readSubnets at second
    split at second
    · cases second
    · exact takes_subnet.times_length second
  have size : (list.foldl (·.insert ·) (∅ : IpSubnetSet)).size ≤ 0 + list.length :=
    Nested.size_foldl_insert_le list ∅
  dsimp only at one subnets ⊢
  rw [subnets]
  omega

/-- One more subnet at most. -/
def adds : Event → Nat
  | .addIpAddress _ => 1
  | _ => 0

theorem step_subnets (s : VrrpService) (e : Event) :
    (s.step e).1.subnets.size ≤ s.subnets.size + adds e := by
  have kept : ∀ {t : Settings} {subnets : Finset IpSubnet}, t.subnets = subnets →
      t.subnets.card ≤ subnets.card := fun same => same ▸ Nat.le_refl _
  have settings : (s.settings.step s.family e).subnets.card ≤ s.settings.subnets.card + adds e := by
    cases e with
    | addIpAddress subnet =>
      simp only [Settings.step]
      split
      · exact Finset.card_insert_le subnet s.settings.subnets
      · exact Nat.le_succ _
    | removeIpAddress subnet => exact Finset.card_erase_le
    | setPriority | setAdvertisementInterval | setAcceptMode | setPrimaryIpAddress =>
      simp only [Settings.step]
      split <;> exact Nat.le_refl _
    | _ => exact Nat.le_refl _
  rw [← s.step_settings] at settings
  have before := Nested.card_toFinset s.subnets
  have after := Nested.card_toFinset (s.step e).1.subnets
  change (s.step e).1.subnets.toList.toFinset.card ≤ s.subnets.toList.toFinset.card + adds e
    at settings
  omega

theorem run_subnets (events : List Event) (s : VrrpService) :
    (events.foldl (fun s e => (s.step e).1) s).subnets.size ≤
      s.subnets.size + (events.map adds).sum := by
  induction events generalizing s with
  | nil => exact Nat.le_refl _
  | cons e rest ih =>
    have first := step_subnets s e
    have later := ih (s.step e).1
    rw [List.foldl_cons, List.map_cons, List.sum_cons]
    omega

theorem configure_size (kernel : Kernel) (r : Router) (s : VrrpService) :
    (configure kernel r s).subnets.size ≤ s.subnets.size + r.subnets.size := by
  obtain ⟨last, ends, configured⟩ := configure_run kernel r s
  have few := run_subnets (setters r ++ [last]) s
  have forced : ((if hasPrimaryIpAddress r.flags then
      [Event.setPrimaryIpAddress r.primaryIp] else []).map adds).sum = 0 := by
    split <;> rfl
  have each : ((r.subnets.toList.map Event.addIpAddress).map adds).sum = r.subnets.size := by
    rw [← Std.TreeSet.length_toList]
    simp [adds, Function.comp_def]
  have none : adds last = 0 := by rcases ends with ⟨isUp, rfl⟩ | rfl <;> rfl
  have total : ((setters r ++ [last]).map adds).sum = r.subnets.size := by
    rw [setters, List.map_append, List.map_append, List.map_append, List.map_append,
      List.sum_append, List.sum_append, List.sum_append, List.sum_append, forced, each]
    simp only [List.map_cons, List.map_nil, List.sum_cons, List.sum_nil, none]
    simp only [adds, Nat.zero_add, Nat.add_zero]
  rw [configured]
  omega

/-- What is known of the services after so many bytes of a file. -/
structure Loaded (kernel : Kernel) (n : Nat) (m : VrrpManager) : Prop where
  services : m.services.size ≤ n
  subnets : m.Each fun _ s => s.subnets.size ≤ n
  creates : m.Each fun _ s => Creates kernel s
  whole : m.Each fun _ s => s.configuration.cut = s.configuration

theorem Loaded.mono {kernel : Kernel} {n k : Nat} {m : VrrpManager} (loaded : Loaded kernel n m)
    (more : n ≤ k) : Loaded kernel k m :=
  ⟨Nat.le_trans loaded.services more, fun key s stored =>
    Nat.le_trans (loaded.subnets key s stored) more, loaded.creates, loaded.whole⟩

theorem configure_key (kernel : Kernel) (r : Router) (s : VrrpService) :
    (configure kernel r s).key = s.key := by
  obtain ⟨last, _, configured⟩ := configure_run kernel r s
  rw [configured]
  exact Runs.foldl_keeps (fun t : VrrpService => t.key = s.key) _
    (fun t e _ same => (t.step_key e).trans same) rfl

theorem configure_whole (kernel : Kernel) {r : Router} (known : WellRead r) {s : VrrpService}
    (whole : s.configuration.cut = s.configuration) :
    (configure kernel r s).configuration.cut = (configure kernel r s).configuration := by
  rw [Configuration.cut_eq_iff] at whole ⊢
  obtain ⟨last, ends, configured⟩ := configure_run kernel r s
  have plain : last.Plain := by rcases ends with ⟨isUp, rfl⟩ | rfl <;> exact trivial
  rw [configured]
  refine Runs.foldl_keeps (fun t : VrrpService => t.settings.masterCommand.length ≤ 255 ∧
    t.settings.backupCommand.length ≤ 255) _ (fun t e inside short => ?_) whole
  have restores : Restores r e := by
    rcases List.mem_append.mp inside with inside | inside
    · exact setters_restore r e inside
    · exact .plain (List.mem_singleton.mp inside ▸ plain)
  obtain ⟨master, backup⟩ := Settings.step_commands t.family t.settings e
  rw [t.step_settings]
  constructor
  · rcases master with same | called
    · rw [same]
      exact short.1
    · rw [called] at restores
      generalize (Settings.step t.family t.settings e).masterCommand = command at restores
      cases restores with
      | plain plain => cases plain
      | master => exact known.master
  · rcases backup with same | called
    · rw [same]
      exact short.2
    · rw [called] at restores
      generalize (Settings.step t.family t.settings e).backupCommand = command at restores
      cases restores with
      | plain plain => cases plain
      | backup => exact known.backup

section Load
variable (libc : Libc) (kernel : Kernel)

/-- What getService returns to a record: a service of before, or one that was just made. -/
theorem restore_loaded {n : Nat} {m : VrrpManager} {r : Router} (known : WellRead r)
    (loaded : Loaded kernel n m) :
    Loaded kernel (n + r.subnets.size + 1) (restore libc kernel m r) := by
  by_cases passes : Passes libc r
  · have services := restore_services libc kernel m passes
    have configured : ∀ (key : RouterKey) s, (restore libc kernel m r).services[key]? = some s →
        m.services[key]? = some s ∨ ∃ t, s = configure kernel r t ∧
          (t.subnets.size ≤ n ∧ Creates kernel t ∧ t.configuration.cut = t.configuration) := by
      intro key s stored
      rw [services] at stored
      split at stored
      · obtain ⟨t, found, rfl⟩ := Option.map_eq_some_iff.mp stored
        refine .inr ⟨t, rfl, ?_⟩
        rcases Option.or_eq_some_iff.mp found with there | ⟨_, made⟩
        · exact ⟨loaded.subnets _ t there, loaded.creates _ t there, loaded.whole _ t there⟩
        · have place := VrrpService.construct_key made
          have vlan := VrrpService.construct_vlanId made
          have settings := VrrpService.construct_settings made
          refine ⟨?_, ?_, ?_⟩
          · rw [← Nested.card_toFinset]
            exact (congrArg (fun t : Settings => t.subnets.card) settings).trans_le (Nat.zero_le n)
          · rw [← place, ← vlan] at made
            exact Option.isSome_iff_exists.mpr ⟨t, made⟩
          · rw [Configuration.cut_eq_iff]
            change t.settings.masterCommand.length ≤ 255 ∧ t.settings.backupCommand.length ≤ 255
            rw [settings]
            exact ⟨Nat.zero_le _, Nat.zero_le _⟩
      · exact .inl stored
    refine ⟨?_, fun key s stored => ?_, fun key s stored => ?_, fun key s stored => ?_⟩
    · have one : (restore libc kernel m r).services.size ≤ m.services.size + 1 :=
        Nested.size_le_of_apart fun place apart => (services place).trans (if_neg apart)
      have before := loaded.services
      omega
    · rcases configured key s stored with there | ⟨t, rfl, few, _⟩
      · have before := loaded.subnets key s there
        omega
      · have more := configure_size kernel r t
        omega
    · rcases configured key s stored with there | ⟨t, rfl, _, creates, _⟩
      · exact loaded.creates key s there
      · exact creates_same (configure_key kernel r t).symm (configure_vlanId kernel r t).symm
          creates
    · rcases configured key s stored with there | ⟨t, rfl, _, _, whole⟩
      · exact loaded.whole key s there
      · exact configure_whole kernel known whole
  · rw [restore_refused libc kernel m passes]
    exact loaded.mono (by omega)

theorem readRouters_loaded {locals : Nat → Int} (ints : Ints locals) (version : Int) (count : Nat)
    {n : Nat} {m : VrrpManager} (file : Text) (loaded : Loaded kernel n m) :
    Loaded kernel (n + file.length) (readRouters libc kernel locals version count m file).1 := by
  induction count generalizing n m file with
  | zero => exact loaded.mono (Nat.le_add_right n _)
  | succ count ih =>
    rw [readRouters]
    cases read : readRouter version (locals count) file with
    | none => exact loaded.mono (Nat.le_add_right n _)
    | some taken =>
      have known := readRouter_known version (ints count).1 (ints count).2 file taken read
      have room := readRouter_room read
      exact (ih taken.2 (restore_loaded libc kernel known loaded)).mono (by omega)

theorem start_loaded (boot : Boot) (file : Text) :
    Loaded boot.kernel file.length (start libc boot file) := by
  have empty : Loaded boot.kernel 0 .empty :=
    ⟨Nat.le_refl 0, VrrpManager.empty_each, VrrpManager.empty_each, VrrpManager.empty_each⟩
  rw [start, readConfiguration]
  cases read : readHeader file with
  | none => exact empty.mono (Nat.zero_le _)
  | some taken =>
    have rest := takes_header file taken read
    exact (readRouters_loaded libc boot.kernel boot.ints _ _ _ empty).mono (by omega)

/-- A file of any bytes and of any version, once loaded, is kept: whatever it restored, saving
and starting again restores the same, as often as it is done. -/
theorem loaded_kept (boot : Boot) {file : Text} (short : file.length < 2 ^ 31) {boots : List Boot}
    (same : ∀ next ∈ boots, next.kernel.creation = boot.kernel.creation) :
    writeConfiguration libc (boots.foldl (restart libc) (start libc boot file)) =
        writeConfiguration libc (start libc boot file) ∧
      ∀ key, (boots.foldl (restart libc) (start libc boot file)).configuration key =
        (start libc boot file).configuration key := by
  have running : (start libc boot file).Running libc := start_running boot file
  have loaded := start_loaded libc boot file
  generalize start libc boot file = m at running loaded
  have countable : Countable m :=
    ⟨Nat.lt_of_le_of_lt loaded.services short, fun key s stored =>
      Nat.lt_of_le_of_lt (loaded.subnets key s stored) short⟩
  have grants : ∀ next ∈ boots, m.Each fun _ s => Creates next.kernel s := by
    intro next inside key s stored
    have creates := loaded.creates key s stored
    unfold Creates at creates ⊢
    rwa [same next inside]
  refine ⟨restarted_bytes running (restarted_all running countable grants), fun key => ?_⟩
  by_cases some_boot : boots = []
  · rw [some_boot]
    rfl
  · rw [restarted_exact running countable grants some_boot, VrrpManager.configuration]
    cases stored : m.services[key]? with
    | none => rfl
    | some s => exact congrArg some (loaded.whole key s stored)

end Load

/-- The router of the old file comes up on VLAN 5, and stays there. -/
def strayBoot : Boot := ⟨.sample, fun _ => 5, ints_same 5 (by decide) (by decide)⟩

theorem loaded_kept_sample :
    writeConfiguration .sample (sampleBoots.foldl (restart .sample)
        (start .sample strayBoot oldFile)) =
      writeConfiguration .sample (start .sample strayBoot oldFile) ∧
    ∀ key, (sampleBoots.foldl (restart .sample) (start .sample strayBoot oldFile)).configuration
        key = (start .sample strayBoot oldFile).configuration key := by
  have length : oldFile.length < 100 := by decide +kernel
  have short : oldFile.length < 2 ^ 31 := by omega
  apply loaded_kept .sample strayBoot short
  intro next inside
  rcases List.mem_cons.mp inside with rfl | inside
  · rfl
  · rw [List.mem_singleton.mp inside]
    rfl

end Configurator

end OpenVrrp
