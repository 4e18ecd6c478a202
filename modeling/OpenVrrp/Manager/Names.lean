import OpenVrrp.Manager.Listeners

/-! The names of the devices that the constructors of live services ask for. They are made of
the family, the router id and the VLAN id; the interface is not in them. -/
namespace OpenVrrp

namespace VrrpService

/-- What the constructor formats into its buffer. -/
def names (s : VrrpService) : List Text :=
  macvlanName s.family s.virtualRouterId ::
    if 0 < s.vlanId then [vlanName s.family s.virtualRouterId s.vlanId] else []

/-- Three digits of router id and five of VLAN id behind `vrrp6`. -/
def Overlong (s : VrrpService) : Prop :=
  s.family = .inet6 ∧ 100 ≤ s.virtualRouterId.toNat ∧ 0 < s.vlanId ∧
    10000 ≤ s.vlanId.toUInt16.toNat

structure NamesApart (a b : VrrpService) : Prop where
  distinct : (a.names ++ b.names).Nodup
  fits : ∀ name ∈ a.names ++ b.names, name.length + 1 ≤ nameCapacity

end VrrpService

/-! ### One name -/

/-- `vrrp` and the family, before what tells the devices of a family apart. -/
def stem (family : Family) (rest : Text) : Text :=
  ascii "vrrp" ++ (if family = .inet6 then ascii "6" else []) ++ ascii "." ++ rest

def dot : UInt8 := 46

theorem macvlanName_stem (family : Family) (virtualRouterId : UInt8) :
    macvlanName family virtualRouterId = stem family (decimal virtualRouterId.toNat) := rfl

theorem vlanName_stem (family : Family) (virtualRouterId : UInt8) (vlanId : UInt64) :
    vlanName family virtualRouterId vlanId = stem family
      (decimal virtualRouterId.toNat ++ dot :: decimal vlanId.toUInt16.toNat) := by
  rw [vlanName, stem, List.append_assoc, List.append_assoc]
  rfl

theorem stem_length (family : Family) (rest : Text) :
    (stem family rest).length = 5 + (if family = .inet6 then 1 else 0) + rest.length := by
  unfold stem
  split <;> simp [ascii] <;> omega

theorem stem_inj {f g : Family} (known : f ≠ .unspec) (other : g ≠ .unspec) (x y : Text) :
    stem f x = stem g y ↔ f = g ∧ x = y := by
  cases f <;> cases g <;> simp [stem, ascii] at known other ⊢

theorem dot_notMem_decimal (n : Nat) : dot ∉ decimal n := by
  intro inside
  have digit := isDigit_decimal inside
  revert digit
  decide

section Names
variable {f g : Family} (known : f ≠ .unspec) (other : g ≠ .unspec)
include known other

theorem macvlanName_inj (v w : UInt8) :
    macvlanName f v = macvlanName g w ↔ f = g ∧ v = w := by
  rw [macvlanName_stem, macvlanName_stem, stem_inj known other, decimal_injective.eq_iff,
    UInt8.toNat_inj]

theorem macvlanName_ne_vlanName (v w : UInt8) (vlanId : UInt64) :
    macvlanName f v ≠ vlanName g w vlanId := by
  rw [macvlanName_stem, vlanName_stem, ne_eq, stem_inj known other]
  rintro ⟨_, same⟩
  exact dot_notMem_decimal v.toNat (same ▸ List.mem_append_right _ List.mem_cons_self)

theorem vlanName_inj {v w : UInt8} {m n : UInt64} (same : vlanName f v m = vlanName g w n) :
    f = g ∧ v = w := by
  rw [vlanName_stem, vlanName_stem, stem_inj known other, List.append_cons_inj_of_notMem
    (dot_notMem_decimal _) (dot_notMem_decimal _), decimal_injective.eq_iff,
    UInt8.toNat_inj] at same
  exact ⟨same.1, same.2.1⟩

end Names

theorem macvlanName_fits (family : Family) (v : UInt8) :
    (macvlanName family v).length + 1 ≤ nameCapacity := by
  have digits := (decimal_length_le_iff v.toNat (show 0 < 3 by decide)).mpr
    (Nat.lt_trans v.toNat_lt (by decide))
  rw [macvlanName_stem, stem_length, nameCapacity]
  split <;> omega

theorem vlanName_fits_iff (family : Family) (v : UInt8) (vlanId : UInt64) :
    (vlanName family v vlanId).length + 1 ≤ nameCapacity ↔
      ¬ (family = .inet6 ∧ 100 ≤ v.toNat ∧ 10000 ≤ vlanId.toUInt16.toNat) := by
  have three := decimal_length_le_iff v.toNat (show 0 < 3 by decide)
  have two := decimal_length_le_iff v.toNat (show 0 < 2 by decide)
  have five := decimal_length_le_iff vlanId.toUInt16.toNat (show 0 < 5 by decide)
  have four := decimal_length_le_iff vlanId.toUInt16.toNat (show 0 < 4 by decide)
  have byte : v.toNat < 256 := v.toNat_lt
  have word : vlanId.toUInt16.toNat < 65536 := vlanId.toUInt16.toNat_lt
  rw [vlanName_stem, stem_length, List.length_append, List.length_cons, nameCapacity]
  by_cases inet6 : family = .inet6
  · simp only [inet6, if_true, true_and]
    omega
  · simp only [inet6, if_false, false_and, not_false_eq_true, iff_true]
    omega

namespace VrrpService

theorem mem_names {s : VrrpService} {name : Text} : name ∈ s.names ↔
    name = macvlanName s.family s.virtualRouterId ∨
      (0 < s.vlanId ∧ name = vlanName s.family s.virtualRouterId s.vlanId) := by
  rw [names, List.mem_cons]
  by_cases vlan : 0 < s.vlanId <;> simp [vlan]

theorem names_nodup {s : VrrpService} (known : s.family ≠ .unspec) : s.names.Nodup := by
  unfold names
  split
  · simp [macvlanName_ne_vlanName known known]
  · simp

theorem names_distinct_iff {a b : VrrpService} (known : a.family ≠ .unspec)
    (other : b.family ≠ .unspec) : (a.names ++ b.names).Nodup ↔
      a.virtualRouterId ≠ b.virtualRouterId ∨ a.family ≠ b.family := by
  rw [List.nodup_append]
  constructor
  · rintro ⟨_, _, apart⟩
    by_contra same
    push Not at same
    apply apart _ (mem_names.mpr (.inl rfl)) _ (mem_names.mpr (.inl rfl))
    rw [same.1, same.2]
  · intro differ
    have apart : ¬ (a.family = b.family ∧ a.virtualRouterId = b.virtualRouterId) := fun same =>
      differ.elim (fun router => router same.2) fun family => family same.1
    refine ⟨names_nodup known, names_nodup other, ?_⟩
    rintro name mine _ theirs rfl
    rcases mem_names.mp mine with first | ⟨_, first⟩ <;>
      rcases mem_names.mp theirs with second | ⟨_, second⟩
    · exact apart ((macvlanName_inj known other _ _).mp (first.symm.trans second))
    · exact macvlanName_ne_vlanName known other _ _ _ (first.symm.trans second)
    · exact macvlanName_ne_vlanName other known _ _ _ (second.symm.trans first)
    · exact apart (vlanName_inj known other (first.symm.trans second))

theorem names_fit_iff (s : VrrpService) :
    (∀ name ∈ s.names, name.length + 1 ≤ nameCapacity) ↔ ¬ s.Overlong := by
  constructor
  · rintro fits ⟨family, router, vlan, long⟩
    have fit := fits _ (mem_names.mpr (.inr ⟨vlan, rfl⟩))
    exact (vlanName_fits_iff _ _ _).mp fit ⟨family, router, long⟩
  · intro short name formatted
    rcases mem_names.mp formatted with rfl | ⟨vlan, rfl⟩
    · exact macvlanName_fits _ _
    · exact (vlanName_fits_iff _ _ _).mpr fun long => short ⟨long.1, long.2.1, vlan, long.2.2⟩

theorem names_apart_iff {a b : VrrpService} (known : a.family ≠ .unspec)
    (other : b.family ≠ .unspec) : a.NamesApart b ↔
      (a.virtualRouterId ≠ b.virtualRouterId ∨ a.family ≠ b.family) ∧
        ¬ a.Overlong ∧ ¬ b.Overlong := by
  rw [← names_distinct_iff known other, ← names_fit_iff a, ← names_fit_iff b]
  constructor
  · intro apart
    exact ⟨apart.distinct, fun name mine => apart.fits name (List.mem_append_left _ mine),
      fun name theirs => apart.fits name (List.mem_append_right _ theirs)⟩
  · rintro ⟨distinct, mine, theirs⟩
    refine ⟨distinct, fun name formatted => ?_⟩
    exact (List.mem_append.mp formatted).elim (mine name) (theirs name)

end VrrpService

/-! ### Live services -/

namespace Registration

/-- Every service is registered under its own key, and for IPv4 or IPv6. -/
def Named (r : Registration) : Prop :=
  ∀ (key : RouterKey) registered, r.services[key]? = some registered →
    registered.service.key = key ∧ key.family ≠ .unspec

theorem Creates.family {r : Registration} {key : RouterKey} {createIfMissing : Bool}
    {answers : Answers} (creates : r.Creates key createIfMissing answers) :
    key.family ≠ .unspec := by
  intro unknown
  have opened := creates.2.2
  rw [unknown] at opened
  cases opened

theorem step_named (r : Registration) (request : Request) (named : r.Named) :
    (r.step request).Named := by
  have changes := r.step_changes request
  generalize r.step request = t at changes
  cases changes with
  | answered | unknown => exact named
  | refused => exact named
  | removed => exact fun key registered stored => named key registered (erase_stored stored).2
  | created creates made =>
    intro key registered stored
    rcases insert_stored stored with ⟨rfl, rfl⟩ | ⟨_, before⟩
    · exact ⟨VrrpService.construct_key made, creates.family⟩
    · exact named key registered before

/-- For two services that are live after a sequence of requests, with different keys: their
device names are distinct and fit if and only if the services differ in more than the
interface and neither has a router id of three digits and a VLAN id of five for IPv6. -/
theorem live_names_apart_iff (requests : List Request) (key other : RouterKey)
    (first second : Registered)
    (stored : (requests.foldl step initial).services[key]? = some first)
    (also : (requests.foldl step initial).services[other]? = some second) (_ : key ≠ other) :
    first.service.NamesApart second.service ↔
      (key.virtualRouterId ≠ other.virtualRouterId ∨ key.family ≠ other.family) ∧
        ¬ first.service.Overlong ∧ ¬ second.service.Overlong := by
  have named : (requests.foldl step initial).Named :=
    Runs.foldl_keeps Named requests (fun r request _ => r.step_named request)
      fun _ _ stored => by cases stored
  obtain ⟨mine, known⟩ := named key first stored
  obtain ⟨theirs, foreign⟩ := named other second also
  subst mine theirs
  exact VrrpService.names_apart_iff known foreign

def answering (vlanInterface : Int) : Answers := ⟨true, ⟨.sample 1, 7, none, vlanInterface⟩, true⟩

theorem live_names_apart_sample :
    (VrrpService.sample 1).NamesApart { VrrpService.sample 1 with
      virtualRouterId := 52, mac := virtualMac .inet 52 } :=
  (live_names_apart_iff [.getService ⟨2, 51, .inet⟩ 0 true (answering (-1)),
      .getService ⟨2, 52, .inet⟩ 0 true (answering (-1))] ⟨2, 51, .inet⟩ ⟨2, 52, .inet⟩
    ⟨_, 1, true⟩ ⟨_, 2, true⟩ rfl rfl (by decide)).mpr
    ⟨.inl (by decide), (fun long => nomatch long.1), (fun long => nomatch long.1)⟩

/-- Router 51 on two interfaces: both services ask for the device `vrrp.51`. -/
theorem device_name_shared :
    ([.getService ⟨2, 51, .inet⟩ 0 true (answering (-1)),
        .getService ⟨3, 51, .inet⟩ 0 true (answering (-1))].foldl step initial).services.toList.map
      (VrrpService.names ∘ Registered.service ∘ Prod.snd) =
    [[ascii "vrrp.51"], [ascii "vrrp.51"]] := by
  decide +kernel

end Registration

end OpenVrrp
