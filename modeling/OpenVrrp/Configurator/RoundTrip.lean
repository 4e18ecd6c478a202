import OpenVrrp.Configurator.Format
import OpenVrrp.Library.Nested
import OpenVrrp.Telnet.Administration

/-! What a configuration file restores: the services under the same keys, with the same
settings up to the length of the commands. -/
namespace OpenVrrp

@[ext] structure Configuration where
  settings : Settings
  enabled : Bool

/-- Commands as the file keeps them: their first 255 bytes. -/
def Settings.cut (t : Settings) : Settings :=
  { t with
    masterCommand := t.masterCommand.take 255
    backupCommand := t.backupCommand.take 255 }

def Configuration.cut (c : Configuration) : Configuration := { c with settings := c.settings.cut }

theorem Configuration.cut_eq_iff {c : Configuration} :
    c.cut = c ↔
      c.settings.masterCommand.length ≤ 255 ∧ c.settings.backupCommand.length ≤ 255 := by
  simp only [Configuration.ext_iff, Settings.ext_iff, cut, Settings.cut, List.take_eq_self_iff,
    true_and, and_true]

def VrrpService.configuration (s : VrrpService) : Configuration := ⟨s.settings, s.enabled⟩

def VrrpManager.configuration (m : VrrpManager) (key : RouterKey) : Option Configuration :=
  m.services[key]?.map VrrpService.configuration

namespace Configurator

/-! ### One service -/

theorem ofInt_byte (b : UInt8) : UInt8.ofInt b.toNat = b := by
  have bound := b.toNat_lt
  apply UInt8.toNat_inj.mp
  simp only [UInt8.ofInt, UInt8.toNat_ofNat']
  omega

/-- Hundredths of a second, written as milliseconds, become hundredths again. -/
theorem ofInt_interval (interval : AdvertisementInterval) :
    (UInt32.ofInt ((interval.value * 10 : Int).tdiv 10)).toNat = interval.value := by
  have most := interval.bounded
  rw [Int.mul_tdiv_cancel _ (by decide)]
  simp only [UInt32.ofInt, UInt32.toNat_ofNat']
  omega

theorem ofInt_vlan {n : Int} (least : -2 ^ 31 ≤ n) (most : n < 2 ^ 31) :
    UInt64.ofInt (wrapInt (UInt64.ofInt n).toNat) = UInt64.ofInt n := by
  have lower : wrapInt (UInt64.ofInt n).toNat = n := by
    simp only [UInt64.ofInt, UInt64.toNat_ofNat', wrapInt, Int.bmod]
    split <;> omega
  rw [lower]

theorem setUp_routerOf (libc : Libc) (s made : VrrpService) :
    setUp (routerOf libc s) made =
      (s.settings.cut.setters s.subnets.toList).foldl (fun s e => (s.step e).1) made := by
  have primary : ∀ u : VrrpService,
      (if hasPrimaryIpAddress (routerOf libc s).flags
        then u.setPrimaryIpAddress (routerOf libc s).primaryIp else u) =
      (s.settings.cut.primaryIpAddress.toList.map Event.setPrimaryIpAddress).foldl
        (fun s e => (s.step e).1) u := by
    intro u
    cases auto : s.autoPrimaryIpAddress with
    | true => simp [routerOf, Settings.cut, VrrpService.settings, auto, hasPrimaryIpAddress]
    | false =>
      simp [routerOf, Settings.cut, VrrpService.settings, auto, hasPrimaryIpAddress]
      rfl
  unfold setUp Settings.setters
  rw [List.foldl_append, List.foldl_append, List.foldl_append, ← primary, List.foldl_map]
  simp only [routerOf, ofInt_byte, ofInt_interval, Nested.foldl_insert_toList, List.foldl_cons,
    List.foldl_nil]
  rfl

theorem configure_restores (libc : Libc) (kernel : Kernel) {s made : VrrpService}
    (administered : Administered libc s) (family : made.family = s.family)
    (new : made.settings = .initial s.family s.vlanId) (disabled : made.state = .disabled) :
    (configure kernel (routerOf libc s) made).configuration = s.configuration.cut := by
  have valid : s.settings.cut.Valid s.family :=
    ⟨administered.settings.accept, administered.settings.primary, administered.settings.subnets⟩
  have settings : (setUp (routerOf libc s) made).settings = s.settings.cut := by
    rw [setUp_routerOf, VrrpService.run_settings, family, new]
    exact Settings.setters_replay valid s.priority.2 s.advertisementInterval.positive
      s.advertisementInterval.bounded rfl
  have idle : (setUp (routerOf libc s) made).state = .disabled := by
    rw [setUp_routerOf, VrrpService.setters_state _ _ (Settings.setters_setter _ _), disabled]
  have enabled : (routerOf libc s).enabled = s.enabled := rfl
  unfold configure
  dsimp only
  rw [enabled]
  cases running : s.enabled with
  | true =>
    rw [if_pos rfl]
    refine Configuration.ext ?_ ?_
    · exact (VrrpService.step_settings _ (.enable _)).trans settings
    · exact (VrrpService.enable_enabled _ _).trans running.symm
  | false =>
    rw [if_neg Bool.false_ne_true, VrrpService.disable, if_neg (not_not.mpr idle)]
    apply Configuration.ext settings
    simp only [VrrpService.configuration, VrrpService.enabled, idle, Configuration.cut]
    exact running.symm

/-! ### The checks -/

theorem byte_passes {b : UInt8} (nonzero : b ≠ 0) :
    ¬ ((b.toNat : Int) < 1 ∨ 255 < (b.toNat : Int)) := by
  have bound := b.toNat_lt
  have value : b.toNat ≠ 0 := fun zero => nonzero (UInt8.toNat_inj.mp zero)
  omega

theorem interval_passes (i : AdvertisementInterval) :
    ¬ ((i.value * 10 : Int).tmod 10 ≠ 0 ∨ (i.value * 10 : Int) < 10 ∨
      40950 < (i.value * 10 : Int)) := by
  have positive := i.positive
  have bounded := i.bounded
  rw [Int.mul_tmod_left]
  omega

theorem interface_restored {libc : Libc} {s : VrrpService} (administered : Administered libc s) :
    libc.nameToIndex (cString ((libc.indexToName s.interface).take 255)) = s.interface := by
  obtain ⟨name, index⟩ := administered.named
  have there : 0 < libc.nameToIndex name := index ▸ administered.interface
  have short := libc.short name there
  have clean := libc.clean name there
  unfold interfaceNameSize at short
  have whole : cString (libc.indexToName (libc.nameToIndex name)) =
      libc.indexToName (libc.nameToIndex name) :=
    List.takeWhile_eq_self_iff.mpr fun b inside => decide_eq_true fun zero => clean (zero ▸ inside)
  rw [← index, List.take_of_length_le (by omega), whole, libc.named name there]

theorem vlan_restored {libc : Libc} {s : VrrpService} (administered : Administered libc s) :
    UInt64.ofInt (wrapInt s.vlanId.toNat) = s.vlanId := by
  obtain ⟨n, least, most, vlan⟩ := administered.vlan
  rw [vlan, ofInt_vlan least most]

/-! ### Every service -/

/-- A router from the file passes every check and becomes a service of its own. -/
theorem restore_routerOf (libc : Libc) (kernel : Kernel) {m : VrrpManager} {s made : VrrpService}
    (administered : Administered libc s) (absent : m.services[s.key]? = none)
    (created : VrrpService.construct s.interface s.family s.virtualRouterId s.vlanId
      (kernel.creation s.key s.vlanId) = some made) :
    restore libc kernel m (routerOf libc s) =
      ⟨(m.services.insert s.key made).insert s.key (configure kernel (routerOf libc s) made)⟩ := by
  have vrid : ¬ ((routerOf libc s).vrid < 1 ∨ 255 < (routerOf libc s).vrid) :=
    byte_passes administered.router
  have priority : ¬ ((routerOf libc s).priority < 1 ∨ 255 < (routerOf libc s).priority) :=
    byte_passes s.priority.2
  have family : familyOf (routerOf libc s).addressFamily = s.family := familyOf_number s.family
  have interval : ¬ ((routerOf libc s).interval.tmod 10 ≠ 0 ∨ (routerOf libc s).interval < 10 ∨
      40950 < (routerOf libc s).interval) := interval_passes s.advertisementInterval
  have interface : libc.nameToIndex (cString (routerOf libc s).interface) = s.interface :=
    interface_restored administered
  have vlan : UInt64.ofInt (routerOf libc s).vlanId = s.vlanId := by
    simpa only [routerOf] using vlan_restored administered
  have key : RouterKey.mk s.interface (UInt8.ofInt (routerOf libc s).vrid) s.family = s.key :=
    RouterKey.ext rfl (ofInt_byte s.virtualRouterId) rfl
  have got : m.getService kernel s.key s.vlanId true =
      (⟨m.services.insert s.key made⟩, some s.key) :=
    VrrpManager.getService_creates absent created
  unfold restore
  dsimp only
  rw [interface, if_neg (Int.not_le.mpr administered.interface), if_neg interval, family,
    if_neg administered.family, if_neg priority, if_neg vrid, key, vlan, got]
  dsimp only
  rw [VrrpManager.update, Nested.insert_self]

def Creates (kernel : Kernel) (s : VrrpService) : Prop :=
  (VrrpService.construct s.interface s.family s.virtualRouterId s.vlanId
    (kernel.creation s.key s.vlanId)).isSome

theorem creates_of_vlan {kernel : Kernel}
    (vlan : ∀ key vlanId, 0 ≤ (kernel.creation key vlanId).vlanInterface) (s : VrrpService) :
    Creates kernel s := by
  have free := vlan s.key s.vlanId
  unfold Creates VrrpService.construct
  dsimp only
  split
  · rw [if_neg (by omega)]
    rfl
  · rfl

theorem restore_configuration (libc : Libc) (kernel : Kernel) {m : VrrpManager} {s : VrrpService}
    (administered : Administered libc s) (succeeds : Creates kernel s)
    (absent : m.configuration s.key = none) (key : RouterKey) :
    (restore libc kernel m (routerOf libc s)).configuration key =
      if s.key = key then some s.configuration.cut else m.configuration key := by
  obtain ⟨made, created⟩ := Option.isSome_iff_exists.mp succeeds
  rw [restore_routerOf libc kernel administered (Option.map_eq_none_iff.mp absent) created]
  unfold VrrpManager.configuration
  split
  · rename_i same
    rw [← same, Nested.insert_self, Option.map_some,
      configure_restores libc kernel administered _ (VrrpService.construct_settings created)
        (VrrpService.construct_disabled created)]
    have key : made.key = s.key := VrrpService.construct_key created
    exact congrArg RouterKey.family key
  · rename_i other
    rw [Nested.insert_other _ _ other, Nested.insert_other _ _ other]

theorem restore_all (libc : Libc) (kernel : Kernel) (services : List VrrpService)
    (administered : ∀ s ∈ services, Administered libc s)
    (succeeds : ∀ s ∈ services, Creates kernel s)
    (distinct : services.Pairwise fun s t => s.key ≠ t.key) {m : VrrpManager}
    (absent : ∀ s ∈ services, m.configuration s.key = none) (key : RouterKey) :
    (services.foldl (fun m s => restore libc kernel m (routerOf libc s)) m).configuration key =
      ((services.find? fun s => s.key = key).map fun s => s.configuration.cut).or
        (m.configuration key) := by
  induction services generalizing m with
  | nil => rfl
  | cons s rest ih =>
    obtain ⟨others, distinct⟩ := List.pairwise_cons.mp distinct
    have first := restore_configuration libc kernel (administered s List.mem_cons_self)
      (succeeds s List.mem_cons_self) (absent s List.mem_cons_self)
    rw [List.foldl_cons, ih (fun t inside => administered t (List.mem_cons_of_mem s inside))
      (fun t inside => succeeds t (List.mem_cons_of_mem s inside)) distinct, first]
    · by_cases same : s.key = key
      · have unique : (rest.find? fun s => s.key = key) = none :=
          List.find?_eq_none.mpr fun t inside => by
            simpa [← same] using (others t inside).symm
        rw [unique, if_pos same, List.find?_cons_of_pos (by simpa using same)]
        rfl
      · rw [if_neg same, List.find?_cons_of_neg (by simpa using same)]
    · intro t inside
      rw [first, if_neg (others t inside)]
      exact absent t (List.mem_cons_of_mem s inside)

theorem readRouters_written (libc : Libc) (kernel : Kernel) (indeterminate : Nat → Int)
    (services : List VrrpService) (few : ∀ s ∈ services, s.subnets.size < 2 ^ 31)
    (m : VrrpManager) :
    readRouters libc kernel indeterminate 3 services.length m
        (services.flatMap (writeRouter libc)) =
      (services.foldl (fun m s => restore libc kernel m (routerOf libc s)) m, true) := by
  induction services generalizing m with
  | nil => rfl
  | cons s rest ih =>
    rw [List.flatMap_cons, List.length_cons, readRouters,
      decodes_router libc _ s (few s List.mem_cons_self)]
    exact ih (fun t inside => few t (List.mem_cons_of_mem s inside)) _

theorem readHeader_written {count : Nat} (few : count < 2 ^ 31) :
    Decoder.Decodes readHeader (3, (count : Int)) (writeInt 3 ++ writeInt count) := by
  apply (decodes_int_of_bounds (by decide) (by decide)).bind
  rw [if_neg (by decide)]
  rw [← List.append_nil (writeInt count)]
  apply (decodes_int_of_bounds (by omega) (by omega)).bind
  rw [if_neg (by omega)]
  exact Decoder.decodes_pure _

/-! ### The file -/

theorem mem_services {m : VrrpManager} {s : VrrpService} :
    s ∈ services m ↔ ∃ key : RouterKey, m.services[key]? = some s := by
  simp only [services, List.mem_map, Prod.exists, Std.TreeMap.mem_toList_iff_getElem?_eq_some,
    exists_eq_right]

theorem each_services {m : VrrpManager} {held : VrrpService → Prop}
    (each : m.Each fun _ s => held s) : ∀ s ∈ services m, held s := by
  intro s inside
  obtain ⟨key, stored⟩ := mem_services.mp inside
  exact each key s stored

theorem length_services (m : VrrpManager) : (services m).length = m.services.size := by
  rw [services, List.length_map, Std.TreeMap.length_toList]

theorem services_distinct {m : VrrpManager}
    (keyed : m.Each fun key s => s.key = key) :
    (services m).Pairwise fun s t => s.key ≠ t.key := by
  rw [services, List.pairwise_map]
  refine Std.TreeMap.distinct_keys_toList.imp_of_mem fun {a b} first second different same => ?_
  have first := keyed a.1 a.2 (Std.TreeMap.mem_toList_iff_getElem?_eq_some.mp first)
  have second := keyed b.1 b.2 (Std.TreeMap.mem_toList_iff_getElem?_eq_some.mp second)
  exact different (Std.LawfulEqOrd.compare_eq_iff_eq.mpr (first ▸ second ▸ same))

theorem find_services {m : VrrpManager}
    (keyed : m.Each fun key s => s.key = key) (key : RouterKey) :
    (services m).find? (fun s => s.key = key) = m.services[key]? := by
  refine VrrpManager.find_listed keyed (fun s => mem_services.trans ?_) key
  constructor
  · rintro ⟨place, stored⟩
    rwa [keyed place s stored]
  · exact fun stored => ⟨s.key, stored⟩

theorem readConfiguration_written (libc : Libc) (kernel : Kernel) (indeterminate : Nat → Int)
    {m : VrrpManager} (sound : m.Sound libc) (few : m.services.size < 2 ^ 31)
    (fewSubnets : m.Each fun _ s => s.subnets.size < 2 ^ 31)
    (succeeds : m.Each fun _ s => Creates kernel s) :
    (readConfiguration libc kernel indeterminate .empty (writeConfiguration libc m)).2 = true ∧
    ∀ key, (readConfiguration libc kernel indeterminate .empty
      (writeConfiguration libc m)).1.configuration key =
        (m.configuration key).map Configuration.cut := by
  have keyed : m.Each fun key s => s.key = key := fun key s stored => (sound key s stored).1
  have length := length_services m
  have run : readConfiguration libc kernel indeterminate .empty (writeConfiguration libc m) =
      ((services m).foldl (fun m s => restore libc kernel m (routerOf libc s)) .empty, true) := by
    rw [readConfiguration, writeConfiguration, ← List.append_assoc,
      readHeader_written (length ▸ few)]
    exact readRouters_written libc kernel indeterminate _ (each_services fewSubnets) _
  rw [run]
  refine ⟨rfl, fun key => ?_⟩
  rw [restore_all libc kernel _ (each_services fun key s stored => (sound key s stored).2)
    (each_services succeeds) (services_distinct keyed) fun _ _ => rfl, find_services keyed]
  cases stored : m.services[key]? with
  | none => simp [VrrpManager.configuration, stored, VrrpManager.empty]
  | some s => simp [VrrpManager.configuration, stored]

/-- The number of services is an `int`, and a file with a negative one is refused. -/
theorem readConfiguration_too_many (libc : Libc) (kernel : Kernel) (indeterminate : Nat → Int)
    {m : VrrpManager} (many : 2 ^ 31 ≤ m.services.size) (most : m.services.size < 2 ^ 32)
    (t : VrrpManager) :
    readConfiguration libc kernel indeterminate t (writeConfiguration libc m) = (t, false) := by
  have length := length_services m
  have negative : wrapInt ((services m).length : Int) < 0 := by
    simp only [length, wrapInt, Int.bmod]
    split <;> omega
  have refused : readHeader (writeConfiguration libc m) = none := by
    rw [readHeader, writeConfiguration, Decoder.bind_apply,
      decodes_int_of_bounds (by decide) (by decide), Option.bind_some]
    dsimp only
    rw [if_neg (by decide), Decoder.bind_apply, decodes_int, Option.bind_some]
    dsimp only
    rw [if_pos negative]
    rfl
  rw [readConfiguration, refused]

/-- What is written is read back. -/
theorem run_restored (libc : Libc) (kernel : Kernel) (indeterminate : Nat → Int)
    {inputs : List Input} {m : VrrpManager} (reached : VrrpManager.run libc inputs = some m)
    (few : m.services.size < 2 ^ 31) (fewSubnets : m.Each fun _ s => s.subnets.size < 2 ^ 31)
    (succeeds : m.Each fun _ s => Creates kernel s) :
    (readConfiguration libc kernel indeterminate .empty (writeConfiguration libc m)).2 = true ∧
    ∀ key, (readConfiguration libc kernel indeterminate .empty
      (writeConfiguration libc m)).1.configuration key =
        (m.configuration key).map Configuration.cut :=
  readConfiguration_written libc kernel indeterminate (VrrpManager.sound_run reached) few
    fewSubnets succeeds

def typed (lines : List Text) : Option VrrpManager :=
  VrrpManager.run Libc.sample (lines.map (.line Kernel.sample))

def single (check : VrrpService → Bool) (m : VrrpManager) : Bool :=
  decide (m.services.size = 1) && m.services.toList.all fun p =>
    decide (p.1 = ⟨2, 51, .inet⟩) && decide (p.2.subnets.size ≤ 1) && check p.2

theorem typed_single (lines : List Text) (check : VrrpService → Bool)
    (checked : (typed lines).any (single check) = true) :
    ∃ m s, typed lines = some m ∧ m.services.size = 1 ∧
      (m.Each fun _ t => t.subnets.size ≤ 1) ∧ m.services[RouterKey.mk 2 51 .inet]? = some s ∧
      check s = true := by
  obtain ⟨m, reached, checked⟩ := Option.any_eq_true _ _ |>.mp checked
  simp only [single, Bool.and_eq_true, decide_eq_true_eq, List.all_eq_true] at checked
  obtain ⟨size, each⟩ := checked
  have length := size ▸ m.services.length_toList
  obtain ⟨⟨key, s⟩, only⟩ := List.length_eq_one_iff.mp length
  have inside : (key, s) ∈ m.services.toList := only ▸ List.mem_cons_self
  obtain ⟨⟨rfl, _⟩, right⟩ := each _ inside
  exact ⟨m, s, reached, size, fun key t stored =>
    (each (key, t) (Std.TreeMap.mem_toList_iff_getElem?_eq_some.mpr stored)).1.2,
    Std.TreeMap.mem_toList_iff_getElem?_eq_some.mp inside, right⟩

def sampleLines : List Text :=
  [ascii "add router eth0 51", ascii "add address eth0 51 192.0.2.9/24",
    ascii "set router eth0 51 priority 200", ascii "enable router eth0 51"]

theorem run_restored_sample : ∃ m s, typed sampleLines = some m ∧
    m.services[RouterKey.mk 2 51 .inet]? = some s ∧ s.priority.1 = 200 ∧ s.subnets.size = 1 ∧
    (readConfiguration Libc.sample Kernel.sample (fun _ => 0) .empty
      (writeConfiguration Libc.sample m)).1.configuration ⟨2, 51, .inet⟩ =
        some s.configuration.cut := by
  obtain ⟨m, s, reached, size, subnets, stored, values⟩ := typed_single sampleLines
    (fun s => decide (s.priority.1 = 200 ∧ s.subnets.size = 1)) (by decide +kernel)
  obtain ⟨priority, one⟩ := of_decide_eq_true values
  have restored := run_restored Libc.sample Kernel.sample (fun _ => 0) reached (by omega)
    (fun key s stored => (subnets key s stored).trans_lt (by decide))
    (fun _ s _ => creates_of_vlan (fun _ _ => Int.natCast_nonneg 8) s)
  refine ⟨m, s, reached, stored, priority, one, ?_⟩
  rw [restored.2, VrrpManager.configuration, stored]
  rfl

def longLines : List Text :=
  [ascii "add router eth0 51",
    ascii "set router eth0 51 master command " ++ List.replicate 256 97]

/-- A command of 256 bytes loses its last byte. -/
theorem long_command_cut : ∃ m c, typed longLines = some m ∧
    m.configuration ⟨2, 51, .inet⟩ = some c ∧
    (readConfiguration Libc.sample Kernel.sample (fun _ => 0) .empty
      (writeConfiguration Libc.sample m)).1.configuration ⟨2, 51, .inet⟩ = some c.cut ∧
    c.cut ≠ c := by
  obtain ⟨m, s, reached, size, subnets, stored, long⟩ := typed_single longLines
    (fun s => decide (s.masterCommand.length = 256)) (by decide +kernel)
  have restored := readConfiguration_written Libc.sample Kernel.sample (fun _ => 0)
    (VrrpManager.sound_run reached) (by omega)
    (fun key s stored => (subnets key s stored).trans_lt (by decide))
    (fun _ s _ => creates_of_vlan (fun _ _ => Int.natCast_nonneg 8) s)
  have kept : m.configuration ⟨2, 51, .inet⟩ = some s.configuration := by
    rw [VrrpManager.configuration, stored]
    rfl
  refine ⟨m, s.configuration, reached, kept, by rw [restored.2, kept]; rfl, fun same => ?_⟩
  have fits : s.masterCommand.length ≤ 255 := (Configuration.cut_eq_iff.mp same).1
  have length : s.masterCommand.length = 256 := of_decide_eq_true long
  omega

end Configurator

end OpenVrrp
