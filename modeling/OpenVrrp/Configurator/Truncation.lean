import OpenVrrp.Configurator.RoundTrip
import OpenVrrp.Service.AddressList
import Mathlib.Data.List.Nodup

/-! A configuration file that ends early. A record that is cut anywhere is not read at all, and
nothing is applied before a record has been read: what is restored are the services whose
records are complete. -/
namespace OpenVrrp

namespace Configurator

open Decoder

/-! ### Readers do not look ahead -/

theorem stable_int : Stable readInt := (stable_exactly 4).value _

theorem stable_boolean : Stable readBoolean := (stable_exactly 1).value _

theorem stable_string : Stable readString := (stable_exactly 1).bind fun _ => stable_exactly _

theorem stable_ip : Stable readIp := by
  apply stable_int.bind
  intro number
  dsimp only
  split
  · exact (stable_exactly _).value _
  · exact stable_pure _

theorem stable_subnet : Stable readSubnet := stable_ip.bind fun _ => stable_int.value _

theorem stable_subnets (addressCount : Int) : Stable (readSubnets addressCount) := by
  unfold readSubnets
  split
  · exact stable_fail
  · exact stable_subnet.times _

theorem stable_partIf {α : Type} (present : Bool) {part : Reader α} (stable : Stable part)
    (absent : α) : Stable (partIf present part absent) := by
  cases present
  · exact stable_pure absent
  · exact stable

theorem stable_router (version indeterminate : Int) :
    Stable (readRouter version indeterminate) := by
  apply stable_string.bind
  intro _
  apply stable_int.bind
  intro _
  apply stable_int.bind
  intro _
  apply stable_int.bind
  intro _
  apply stable_int.bind
  intro _
  apply stable_boolean.bind
  intro _
  apply stable_boolean.bind
  intro _
  apply stable_boolean.bind
  intro _
  apply stable_int.bind
  intro _
  apply (stable_partIf _ stable_ip _).bind
  intro _
  apply (stable_partIf _ stable_string _).bind
  intro _
  apply (stable_partIf _ stable_string _).bind
  intro _
  apply (stable_partIf _ stable_int _).bind
  intro _
  apply stable_int.bind
  intro _
  exact (stable_subnets _).value _

theorem stable_header : Stable readHeader := by
  apply stable_int.bind
  intro version
  split
  · exact stable_fail
  · apply stable_int.bind
    intro count
    split
    · exact stable_fail
    · exact stable_pure _

/-! ### Complete records -/

/-- The records of the first services in the file. -/
def records (libc : Libc) (services : List VrrpService) (count : Nat) : Text :=
  (services.take count).flatMap (writeRouter libc)

theorem records_succ (libc : Libc) (s : VrrpService) (rest : List VrrpService) (count : Nat) :
    records libc (s :: rest) (count + 1) = writeRouter libc s ++ records libc rest count := by
  rw [records, List.take_succ_cons, List.flatMap_cons]
  rfl

theorem readRouter_cut (libc : Libc) (indeterminate : Int) {s : VrrpService}
    (few : s.subnets.size < 2 ^ 31) {later file : Text}
    (part : file <+: writeRouter libc s ++ later) (cut : ¬ writeRouter libc s <+: file) :
    readRouter 3 indeterminate file = none := by
  have shorter : file <+: writeRouter libc s :=
    (List.prefix_or_prefix_of_prefix part (List.prefix_append _ later)).resolve_right cut
  apply (stable_router 3 indeterminate).cut (decodes_router libc indeterminate s few) shorter
  rintro rfl
  exact cut (List.prefix_refl _)

theorem readRouters_cut (libc : Libc) (kernel : Kernel) (indeterminate : Nat → Int)
    (services : List VrrpService) (few : ∀ s ∈ services, s.subnets.size < 2 ^ 31) {file : Text}
    (part : file <+: services.flatMap (writeRouter libc)) (m : VrrpManager) :
    ∃ complete ≤ services.length,
      (∀ n ≤ services.length, records libc services n <+: file ↔ n ≤ complete) ∧
      readRouters libc kernel indeterminate 3 services.length m file =
        ((services.take complete).foldl (fun m s => restore libc kernel m (routerOf libc s)) m,
          decide (complete = services.length)) := by
  induction services generalizing file m with
  | nil =>
    refine ⟨0, Nat.le_refl 0, fun n small => ?_, rfl⟩
    exact iff_of_true (Nat.le_zero.mp small ▸ List.nil_prefix) small
  | cons s rest ih =>
    rw [List.flatMap_cons] at part
    by_cases complete : writeRouter libc s <+: file
    · obtain ⟨later, rfl⟩ := complete
      have part := (List.prefix_append_right_inj _).mp part
      obtain ⟨k, bound, inside, run⟩ := ih (fun t here => few t (List.mem_cons_of_mem s here)) part
        (restore libc kernel m (routerOf libc s))
      refine ⟨k + 1, Nat.succ_le_succ bound, fun n small => ?_, ?_⟩
      · cases n with
        | zero => exact iff_of_true List.nil_prefix (Nat.zero_le _)
        | succ n =>
          rw [records_succ, List.prefix_append_right_inj, inside n (Nat.le_of_succ_le_succ small),
            Nat.succ_le_succ_iff]
      · rw [List.length_cons, readRouters, decodes_router libc _ s (few s List.mem_cons_self)]
        refine run.trans (Prod.ext rfl ?_)
        simp only [Nat.succ_inj]
    · refine ⟨0, Nat.zero_le _, fun n small => ?_, ?_⟩
      · cases n with
        | zero => exact iff_of_true List.nil_prefix (Nat.zero_le _)
        | succ n =>
          refine iff_of_false (fun whole => complete ?_) (Nat.not_succ_le_zero n)
          rw [records_succ] at whole
          exact (List.prefix_append _ _).trans whole
      · rw [List.length_cons, readRouters,
          readRouter_cut libc _ (few s List.mem_cons_self) part complete]
        rfl

/-! ### The file -/

/-- The file up to the end of the record of the service before place `count`. -/
def fileUpTo (libc : Libc) (m : VrrpManager) (count : Nat) : Text :=
  writeInt 3 ++ writeInt (services m).length ++ records libc (services m) count

theorem fileUpTo_length (libc : Libc) (m : VrrpManager) :
    fileUpTo libc m (services m).length = writeConfiguration libc m := by
  rw [fileUpTo, records, List.take_length, writeConfiguration, List.append_assoc]

theorem readConfiguration_cut (libc : Libc) (kernel : Kernel) (indeterminate : Nat → Int)
    {m : VrrpManager} (few : (services m).length < 2 ^ 31)
    (fewSubnets : ∀ s ∈ services m, s.subnets.size < 2 ^ 31) {file : Text}
    (part : file <+: writeConfiguration libc m) :
    ∃ complete ≤ (services m).length,
      (∀ n ≤ (services m).length, 0 < n → (fileUpTo libc m n <+: file ↔ n ≤ complete)) ∧
      readConfiguration libc kernel indeterminate .empty file =
        (((services m).take complete).foldl (fun m s => restore libc kernel m (routerOf libc s))
          .empty, decide (file = writeConfiguration libc m)) := by
  have header := readHeader_written few
  rw [← fileUpTo_length] at part ⊢
  by_cases whole : writeInt 3 ++ writeInt (services m).length <+: file
  · obtain ⟨later, rfl⟩ := whole
    have part := (List.prefix_append_right_inj _).mp part
    rw [records, List.take_length] at part
    obtain ⟨complete, bound, inside, run⟩ :=
      readRouters_cut libc kernel indeterminate (services m) fewSubnets part .empty
    refine ⟨complete, bound, fun n small _ => ?_, ?_⟩
    · rw [fileUpTo, List.prefix_append_right_inj, inside n small]
    · rw [readConfiguration, header]
      refine run.trans (Prod.ext rfl (decide_eq_decide.mpr ?_))
      have all := inside _ (Nat.le_refl _)
      rw [records, List.take_length] at all
      rw [fileUpTo, List.append_cancel_left_eq, records, List.take_length]
      constructor
      · intro same
        exact part.eq_of_length_le (all.mpr same.ge).length_le
      · rintro rfl
        exact bound.antisymm (all.mp (List.prefix_refl _))
  · have cut : ∀ n, ¬ fileUpTo libc m n <+: file := fun n inside =>
      whole ((List.prefix_append _ _).trans inside)
    have shorter := (List.prefix_or_prefix_of_prefix part
      (List.prefix_append _ (records libc (services m) _))).resolve_right whole
    have unread : readHeader file = none := by
      apply stable_header.cut header shorter
      rintro rfl
      exact whole (List.prefix_refl _)
    have other : file ≠ fileUpTo libc m (services m).length := by
      rintro rfl
      exact cut _ (List.prefix_refl _)
    refine ⟨0, Nat.zero_le _, fun n _ positive => ?_, ?_⟩
    · exact iff_of_false (cut n) (Nat.not_le.mpr positive)
    · rw [readConfiguration, unread, decide_eq_false other]
      rfl

theorem find_take {ss : List VrrpService} (distinct : ss.Pairwise fun s t => s.key ≠ t.key)
    (count : Nat) (key : RouterKey) (s : VrrpService) :
    ((ss.take count).find? fun s => s.key = key) = some s ↔
      ∃ i < count, ss[i]? = some s ∧ s.key = key := by
  constructor
  · intro found
    obtain ⟨i, short, here⟩ := List.mem_take_iff_getElem.mp (List.mem_of_find?_eq_some found)
    refine ⟨i, by omega, ?_, by simpa using List.find?_some found⟩
    rw [← here, List.getElem?_eq_getElem]
  · rintro ⟨i, short, here, same⟩
    have inside : s ∈ ss.take count := by
      apply List.mem_of_getElem? (i := i)
      rw [List.getElem?_take_of_lt short, here]
    cases found : (ss.take count).find? fun s => s.key = key with
    | none => exact absurd (decide_eq_true same) (List.find?_eq_none.mp found s inside)
    | some t =>
      have there : t.key = key := by simpa using List.find?_some found
      have nodup : (ss.map VrrpService.key).Nodup := List.pairwise_map.mpr distinct
      rw [List.inj_on_of_nodup_map nodup (List.mem_of_mem_take (List.mem_of_find?_eq_some found))
        (List.mem_of_getElem? here) (there.trans same.symm)]

/-- Whatever is left of a file of the configurator, the services whose records are complete
are restored with everything that was saved of them, no other is made, and only the whole file
is accepted. -/
theorem truncated_restored (libc : Libc) (kernel : Kernel) (indeterminate : Nat → Int)
    {m : VrrpManager} (sound : m.Sound libc) (succeeds : m.Each fun _ s => Creates kernel s)
    (commands : m.Each fun _ s => s.masterCommand.length ≤ 255 ∧ s.backupCommand.length ≤ 255)
    (few : m.services.size < 2 ^ 31) (fewSubnets : m.Each fun _ s => s.subnets.size < 2 ^ 31)
    {file : Text} (part : file <+: writeConfiguration libc m) :
    ((readConfiguration libc kernel indeterminate .empty file).2 = true ↔
      file = writeConfiguration libc m) ∧
    ∀ key c, (readConfiguration libc kernel indeterminate .empty file).1.configuration key =
        some c ↔
      ∃ i s, (services m)[i]? = some s ∧ s.key = key ∧ s.configuration = c ∧
        fileUpTo libc m (i + 1) <+: file := by
  obtain ⟨complete, bound, inside, run⟩ := readConfiguration_cut libc kernel indeterminate
    (length_services m ▸ few) (each_services fewSubnets) part
  have keyed : m.Each fun key s => s.key = key := fun key s stored => (sound key s stored).1
  have distinct := services_distinct keyed
  have taken : ∀ {held : VrrpService → Prop}, (∀ s ∈ services m, held s) →
      ∀ s ∈ (services m).take complete, held s := fun each s there =>
    each s (List.mem_of_mem_take there)
  have whole : ∀ s ∈ services m, s.configuration.cut = s.configuration :=
    each_services fun key s stored => Configuration.cut_eq_iff.mpr (commands key s stored)
  rw [run]
  refine ⟨decide_eq_true_iff, fun key c => ?_⟩
  rw [restore_all libc kernel _ (taken (each_services fun key s stored => (sound key s stored).2))
    (taken (each_services succeeds)) (distinct.sublist (List.take_sublist _ _)) fun _ _ => rfl]
  have nothing : VrrpManager.empty.configuration key = none := rfl
  rw [nothing, Option.or_none, Option.map_eq_some_iff]
  constructor
  · rintro ⟨s, found, same⟩
    obtain ⟨i, before, here, place⟩ := (find_take distinct complete key s).mp found
    refine ⟨i, s, here, place, ?_, ?_⟩
    · rw [← whole s (List.mem_of_getElem? here), same]
    · exact (inside (i + 1) (by omega) (Nat.succ_pos i)).mpr before
  · rintro ⟨i, s, here, place, rfl, there⟩
    obtain ⟨short, _⟩ := List.getElem?_eq_some_iff.mp here
    have before := (inside (i + 1) short (Nat.succ_pos i)).mp there
    exact ⟨s, (find_take distinct complete key s).mpr ⟨i, before, here, place⟩,
      whole s (List.mem_of_getElem? here)⟩

/-! ### More subnets than an `int` counts -/

def subnetAt (i : Nat) : IpSubnet := ⟨⟨.inet, Octets.encode 4 i, Octets.encode_length 4 i⟩, 32⟩

/-- The sample router after `count` different subnets were added to it. -/
def crowded (count : Nat) : VrrpService :=
  ((List.range count).map subnetAt).foldl (fun s subnet => (s.addIpAddress subnet).1) (.sample 1)

def crowdedManager (count : Nat) : VrrpManager :=
  ⟨VrrpManager.empty.services.insert (crowded count).key (crowded count)⟩

theorem crowded_size {count : Nat} (most : count ≤ 2 ^ 32) :
    (crowded count).subnets.size = count := by
  have distinct : ((List.range count).map subnetAt).Nodup := by
    refine List.Nodup.map_on (fun i first j second same => ?_) List.nodup_range
    have bytes : Octets.encode 4 i = Octets.encode 4 j :=
      congrArg (fun subnet => subnet.address.data) same
    have values := congrArg Octets.value bytes
    rw [Octets.value_encode, Octets.value_encode] at values
    rw [List.mem_range] at first second
    omega
  have inet : ∀ subnet ∈ (List.range count).map subnetAt,
      subnet.address.family = (VrrpService.sample 1).family := by
    intro subnet inside
    obtain ⟨i, _, rfl⟩ := List.mem_map.mp inside
    rfl
  have empty : (VrrpService.sample 1).subnets = ∅ := rfl
  rw [crowded, (VrrpService.addIpAddress_lists _ inet).1, empty,
    Nested.size_foldl_insert distinct fun _ _ inside => Std.TreeSet.not_mem_emptyc inside]
  rw [Std.TreeSet.size_emptyc, Nat.zero_add, List.length_map, List.length_range]

structure Plain (s : VrrpService) : Prop where
  commands : s.masterCommand.length ≤ 255 ∧ s.backupCommand.length ≤ 255
  administered : Administered Libc.sample s

theorem crowded_plain (count : Nat) : Plain (crowded count) := by
  refine Runs.foldl_keeps Plain _ (fun s subnet _ plain => ⟨?_, ?_⟩) ⟨by decide, ?_⟩
  · unfold VrrpService.addIpAddress
    split <;> exact plain.commands
  · exact plain.administered.step (.addIpAddress subnet) fun _ other => nomatch other
  · let key : RouterKey := ⟨2, 51, .inet⟩
    have made : VrrpService.construct key.interface key.family key.virtualRouterId 0
        ⟨.sample 1, 7, none, -1⟩ = some (.sample 1) := VrrpService.construct_sample 1
    refine Administered.created (n := 0) made ⟨ascii "eth0", rfl⟩ ?_ ?_ ?_ ?_ ?_ ?_ <;> decide

theorem crowdedManager_each (held : VrrpService → Prop) {count : Nat}
    (holds : held (crowded count)) :
    ∀ key s, (crowdedManager count).services[key]? = some s → s.key = key ∧ held s := by
  intro key s stored
  unfold crowdedManager at stored
  by_cases here : (crowded count).key = key
  · rw [here, Nested.insert_self] at stored
    cases stored
    exact ⟨here, holds⟩
  · rw [Nested.insert_other _ _ here] at stored
    cases stored

theorem services_crowded (count : Nat) : services (crowdedManager count) = [crowded count] := by
  have size : (services (crowdedManager count)).length = 1 := by
    rw [length_services, crowdedManager, Std.TreeMap.size_insert]
    rfl
  obtain ⟨s, only⟩ := List.length_eq_one_iff.mp size
  have inside : s ∈ services (crowdedManager count) := only ▸ List.mem_cons_self
  obtain ⟨key, stored⟩ := mem_services.mp inside
  have same := (crowdedManager_each (· = crowded count) rfl key s stored).2
  rw [only, same]

theorem crowdedManager_sound (count : Nat) : (crowdedManager count).Sound Libc.sample :=
  fun key s stored =>
    let ⟨same, plain⟩ := crowdedManager_each Plain (crowded_plain count) key s stored
    ⟨same, plain.administered⟩

theorem truncated_restored_sample :
    (readConfiguration Libc.sample Kernel.sample (fun _ => 0) .empty
      (writeConfiguration Libc.sample (crowdedManager 3)).dropLast).2 = false := by
  have small : (crowded 3).subnets.size < 2 ^ 31 := by
    rw [crowded_size (by decide)]
    decide
  have size : (crowdedManager 3).services.size < 2 ^ 31 := by
    rw [← length_services, services_crowded]
    decide
  have cut := truncated_restored Libc.sample Kernel.sample (fun _ => 0) (crowdedManager_sound 3)
    (fun _ s _ => creates_of_vlan (fun _ _ => Int.natCast_nonneg 8) s)
    (fun key s stored => (crowdedManager_each Plain (crowded_plain 3) key s stored).2.commands) size
    (fun key s stored => (crowdedManager_each (·.subnets.size < 2 ^ 31) small key s stored).2)
    (List.dropLast_prefix (writeConfiguration Libc.sample (crowdedManager 3)))
  rw [← Bool.not_eq_true, cut.1]
  intro same
  have length := congrArg List.length same
  rw [List.length_dropLast, writeConfiguration, List.length_append, writeInt,
    Octets.encode_length] at length
  omega

theorem readConfiguration_crowded (libc : Libc) (kernel : Kernel) (indeterminate : Nat → Int)
    {m : VrrpManager} {s : VrrpService} {rest : List VrrpService} (first : services m = s :: rest)
    (few : (services m).length < 2 ^ 31) (many : 2 ^ 31 ≤ s.subnets.size)
    (most : s.subnets.size < 2 ^ 32) (t : VrrpManager) :
    readConfiguration libc kernel indeterminate t (writeConfiguration libc m) = (t, false) := by
  have record := readRouter_crowded libc (indeterminate rest.length) s many most
    (rest.flatMap (writeRouter libc))
  rw [readConfiguration, writeConfiguration, ← List.append_assoc, readHeader_written few, first]
  simp only [List.length_cons, Int.toNat_natCast, readRouters, List.flatMap_cons, record]

/-- The whole file of a service with 2^31 subnets is refused: their number is written as an
`int`. -/
theorem crowded_refused : (crowdedManager (2 ^ 31)).Sound Libc.sample ∧
    ((crowdedManager (2 ^ 31)).Each fun _ s => Creates Kernel.sample s ∧
      s.masterCommand.length ≤ 255 ∧ s.backupCommand.length ≤ 255) ∧
    (readConfiguration Libc.sample Kernel.sample (fun _ => 0) .empty
      (writeConfiguration Libc.sample (crowdedManager (2 ^ 31)))).2 = false := by
  have size : (crowded (2 ^ 31)).subnets.size = 2 ^ 31 := crowded_size (by decide)
  refine ⟨crowdedManager_sound _, fun key s stored => ⟨?_, ?_⟩, ?_⟩
  · exact creates_of_vlan (fun _ _ => Int.natCast_nonneg 8) s
  · exact (crowdedManager_each Plain (crowded_plain _) key s stored).2.commands
  · have refused := readConfiguration_crowded Libc.sample Kernel.sample (fun _ => 0)
      (services_crowded (2 ^ 31)) ?_ size.ge (size.trans_lt (by decide)) .empty
    · rw [refused]
    · rw [services_crowded]
      decide

end Configurator

end OpenVrrp
