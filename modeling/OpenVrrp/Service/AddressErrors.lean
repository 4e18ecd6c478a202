import Mathlib.Data.Finset.Lattice.Basic
import OpenVrrp.Service.AddressList

/-! When `statsAddressListErrors` counts an advertisement that a Backup accepts. The lists are
compared by `std::set_difference`, which leaves what the advertisement has too much; what it
lacks is not looked for. -/
namespace OpenVrrp

namespace VrrpService

theorem below_head {a b : IpAddress} {bs : List IpAddress}
    (ascending : (b :: bs).Pairwise (· ≤ ·)) (low : a < b) : a ∉ b :: bs := by
  intro inside
  rcases List.mem_cons.mp inside with rfl | inside
  · exact lt_irrefl a low
  · exact absurd (List.rel_of_pairwise_cons ascending inside) (not_le.mpr low)

/-- Of each address as many are left as the first range has more than the second. -/
theorem count_setDifference {as bs : List IpAddress} (first : as.Pairwise (· ≤ ·))
    (second : bs.Pairwise (· ≤ ·)) (x : IpAddress) :
    (setDifference as bs).count x = as.count x - bs.count x := by
  fun_induction setDifference as bs with
  | case1 bs => simp
  | case2 a as => simp
  | case3 a as b bs less ih =>
    have low : a < b := (IpAddress.operatorLess_iff a b).mp less
    have absent : a ∉ b :: bs := below_head second low
    rw [List.count_cons, List.count_cons, ih first.of_cons second]
    by_cases same : a = x
    · subst same
      rw [List.count_eq_zero.mpr absent]
      omega
    · simp [same]
  | case4 a as b bs notLess less ih =>
    have low : b < a := (IpAddress.operatorLess_iff b a).mp less
    have absent : b ∉ a :: as := below_head first low
    rw [ih first second.of_cons, List.count_cons (a := x) (b := b)]
    by_cases same : b = x
    · subst same
      rw [List.count_eq_zero.mpr absent]
      omega
    · simp [same]
  | case5 a as b bs notLess notGreater ih =>
    have same : a = b := by
      rw [IpAddress.operatorLess_iff] at notLess notGreater
      exact le_antisymm (not_lt.mp notGreater) (not_lt.mp notLess)
    subst same
    rw [ih first.of_cons second.of_cons, List.count_cons, List.count_cons]
    omega

theorem setDifference_length_le (as bs : List IpAddress) :
    (setDifference as bs).length ≤ as.length := by
  fun_induction setDifference as bs with
  | case1 bs => exact Nat.le_refl _
  | case2 a as => exact Nat.le_refl _
  | case3 a as b bs less ih => exact Nat.succ_le_succ ih
  | case4 a as b bs notLess less ih => exact ih
  | case5 a as b bs notLess notGreater ih => exact Nat.le_succ_of_le ih

section Difference
variable (s : VrrpService) (addresses : List IpAddress)

theorem count_addressDifference (x : IpAddress) : (s.addressDifference addresses).count x =
    addresses.count x - s.addresses.toList.count x := by
  have sorted := @List.pairwise_mergeSort _ (fun a b : IpAddress => decide (a ≤ b))
    (by simpa using fun a b c => le_trans) (by simpa using le_total) addresses
  have ascending : s.addresses.toList.Pairwise (· ≤ ·) :=
    Std.TreeSet.ordered_toList.imp fun less => (compare_lt_iff_lt.mp less).le
  rw [addressDifference, count_setDifference (by simpa using sorted) ascending,
    (List.mergeSort_perm addresses _).count_eq]

theorem addressDifference_length_le :
    (s.addressDifference addresses).length ≤ addresses.length := by
  have left := setDifference_length_le (addresses.mergeSort fun a b => decide (a ≤ b))
    s.addresses.toList
  rwa [List.length_mergeSort] at left

theorem toList_nodup : s.addresses.toList.Nodup :=
  Std.TreeSet.ordered_toList.imp fun less => (compare_lt_iff_lt.mp less).ne

theorem addressDifference_eq_nil_iff : s.addressDifference addresses = [] ↔
    addresses.Nodup ∧ addresses.toFinset ⊆ s.addressSet := by
  have empty : s.addressDifference addresses = [] ↔
      ∀ x, addresses.count x ≤ s.addresses.toList.count x := by
    rw [List.eq_nil_iff_forall_not_mem]
    apply forall_congr'
    intro x
    rw [← List.count_eq_zero, count_addressDifference, Nat.sub_eq_zero_iff_le]
  rw [empty]
  constructor
  · intro few
    refine ⟨List.nodup_iff_count_le_one.mpr fun x => (few x).trans ?_, fun x inside => ?_⟩
    · exact List.nodup_iff_count_le_one.mp s.toList_nodup x
    · have some := List.count_pos_iff.mpr (List.mem_toFinset.mp inside)
      exact List.mem_toFinset.mpr (List.count_pos_iff.mp (some.trans_le (few x)))
  · rintro ⟨distinct, inside⟩ x
    by_cases listed : x ∈ addresses
    · have own := List.mem_toFinset.mp (inside (List.mem_toFinset.mpr listed))
      exact (List.nodup_iff_count_le_one.mp distinct x).trans (List.count_pos_iff.mpr own)
    · rw [List.count_eq_zero.mpr listed]
      exact Nat.zero_le _

end Difference

section Accepted
variable (s : VrrpService) (address : IpAddress) {priority : UInt8} (interval : WireInterval)
  (addresses : List IpAddress)

theorem refresh_addressListErrors (backup : s.state = .backup) (nonzero : priority ≠ 0)
    (right : s.preemptMode = false ∨ s.priority.1 ≤ priority) :
    (s.onIncomingVrrpPacket address priority interval addresses).1.statsAddressListErrors =
      if addresses.Nodup ∧ addresses.toFinset ⊆ s.addressSet then s.statsAddressListErrors
      else s.statsAddressListErrors + 1 := by
  rw [packet_refresh s address interval addresses backup nonzero right]
  have counted : ((s.countAdvertisement interval).refresh address interval
      addresses).statsAddressListErrors =
        if 0 < (s.addressDifference addresses).length then s.statsAddressListErrors + 1
        else s.statsAddressListErrors := rfl
  rw [counted]
  by_cases contained : addresses.Nodup ∧ addresses.toFinset ⊆ s.addressSet
  · rw [if_pos contained, (s.addressDifference_eq_nil_iff addresses).mpr contained]
    rfl
  · rw [if_neg contained, if_pos]
    exact List.length_pos_iff.mpr (mt (s.addressDifference_eq_nil_iff addresses).mp contained)

/-- `statsAddressListErrors` counts the advertisement if its addresses are not the own ones,
and the difference fits into the vector for it. -/
structure AddressErrorCounted (priority : UInt8) : Prop where
  different : addresses.toFinset ≠ s.addressSet →
    (s.onIncomingVrrpPacket address priority interval addresses).1.statsAddressListErrors =
      s.statsAddressListErrors + 1
  same : addresses.toFinset = s.addressSet → addresses.Nodup →
    (s.onIncomingVrrpPacket address priority interval addresses).1.statsAddressListErrors =
      s.statsAddressListErrors
  fits : (s.addressDifference addresses).length ≤
    max addresses.length s.addresses.toList.length

/-- In Backup an accepted advertisement is counted as it should be if and only if it has an
address that the service lacks, or one address twice, or all that the service has. -/
theorem address_error_counted_iff (backup : s.state = .backup) (nonzero : priority ≠ 0)
    (right : s.preemptMode = false ∨ s.priority.1 ≤ priority) :
    s.AddressErrorCounted address interval addresses priority ↔
      (∃ a ∈ addresses, a ∉ s.addressSet) ∨ ¬ addresses.Nodup ∨
        s.addressSet ⊆ addresses.toFinset := by
  have errors := s.refresh_addressListErrors address interval addresses backup nonzero right
  constructor
  · intro counted
    by_contra missed
    push Not at missed
    obtain ⟨own, distinct, lacks⟩ := missed
    have contained : addresses.toFinset ⊆ s.addressSet := fun a inside =>
      own a (List.mem_toFinset.mp inside)
    have different := counted.different fun same => lacks same.ge
    rw [errors, if_pos ⟨distinct, contained⟩] at different
    exact Nat.succ_ne_self _ different.symm
  · intro visible
    refine ⟨fun different => ?_, fun same distinct => ?_, ?_⟩
    · rw [errors, if_neg]
      rintro ⟨distinct, contained⟩
      rcases visible with ⟨a, inside, foreign⟩ | twice | complete
      · exact foreign (contained (List.mem_toFinset.mpr inside))
      · exact twice distinct
      · exact different (contained.antisymm complete)
    · rw [errors, if_pos ⟨distinct, same.le⟩]
    · exact (s.addressDifference_length_le addresses).trans (le_max_left _ _)

end Accepted

theorem address_error_counted_sample :
    ((sample 1).run [.enable true]).1.AddressErrorCounted (.sample 2) 100 [.sample 100] 100 :=
  (address_error_counted_iff _ _ _ _ rfl (by decide) (.inr (by decide))).mpr
    (.inl ⟨.sample 100, List.mem_singleton_self _, by decide⟩)

/-- A master that advertises no address at all passes for one with the address of the service. -/
theorem missing_address_uncounted :
    construct 2 .inet 51 0 ⟨.sample 1, 7, none, -1⟩ = some (sample 1) ∧
    ((sample 1).run [.enable true, .addIpAddress ⟨.sample 100, 24⟩]).1.state = .backup ∧
    ¬ ((sample 1).run [.enable true, .addIpAddress ⟨.sample 100, 24⟩]).1.AddressErrorCounted
      (.sample 2) 100 [] 100 := by
  refine ⟨rfl, rfl, fun counted => ?_⟩
  have different := counted.different (by decide)
  rw [refresh_addressListErrors _ _ _ _ rfl (by decide) (.inr (by decide)),
    if_pos ⟨List.nodup_nil, Finset.empty_subset _⟩] at different
  exact Nat.succ_ne_self _ different.symm

end VrrpService

end OpenVrrp
