import OpenVrrp.Library.Memory
import OpenVrrp.Library.Octets
import Mathlib.Data.List.Sort
import Mathlib.Order.Compare
import Mathlib.Tactic.Linarith

/-! Addresses and subnets (ipaddress.h, ipaddress.cpp, ipsubnet.h, ipsubnet.cpp).
The port of the socket address takes no part in any comparison and is left out here. -/
namespace OpenVrrp

inductive Family where
  | unspec | inet | inet6
  deriving DecidableEq, Repr

/-- The values of AF_UNSPEC, AF_INET and AF_INET6. -/
def Family.number : Family → Nat
  | .unspec => 0
  | .inet => 2
  | .inet6 => 10

def familySize : Family → Nat
  | .unspec => 0
  | .inet => 4
  | .inet6 => 16

theorem Family.number_injective {f g : Family} (same : f.number = g.number) : f = g := by
  cases f <;> cases g <;> first | rfl | cases same

theorem familySize_le (f : Family) : familySize f ≤ 16 := by cases f <;> decide

/-- An address has exactly the bytes of its family, in network order. -/
@[ext] structure IpAddress where
  family : Family
  data : List UInt8
  sized : data.length = familySize family
  deriving DecidableEq

namespace IpAddress

/-- The default constructor. -/
def unspec : IpAddress := ⟨.unspec, [], rfl⟩

instance : Inhabited IpAddress := ⟨unspec⟩

/-- The constructor from a pointer: the bytes of the family at `offset`. -/
def load (m : Memory.Cells) (offset : Nat) (family : Family) : IpAddress :=
  ⟨family, Memory.slice m offset (familySize family), Memory.slice_length _ _ _⟩

def sample (host : UInt8) : IpAddress := ⟨.inet, [192, 0, 2, host], rfl⟩

def size (a : IpAddress) : Nat := familySize a.family

def operatorLess (a b : IpAddress) : Bool :=
  if a.family.number < b.family.number then true
  else if b.family.number < a.family.number then false
  else Octets.compareBytes a.data b.data == .lt

def operatorGreater (a b : IpAddress) : Bool :=
  if b.family.number < a.family.number then true
  else if a.family.number < b.family.number then false
  else Octets.compareBytes a.data b.data == .gt

/-- Family and bytes as one number: the order of the sets and maps keyed by addresses. -/
def key (a : IpAddress) : Nat := a.family.number * 2 ^ 128 + Octets.value a.data

theorem value_bound (a : IpAddress) : Octets.value a.data < 2 ^ 128 := by
  have bound := Octets.value_bound a.data
  rw [a.sized] at bound
  calc Octets.value a.data < 256 ^ familySize a.family := bound
    _ ≤ 256 ^ 16 := Nat.pow_le_pow_right (by decide) (familySize_le _)
    _ = 2 ^ 128 := by decide

theorem key_injective : Function.Injective key := by
  intro a b same
  have la := a.value_bound
  have lb := b.value_bound
  unfold key at same
  have number : a.family.number = b.family.number := by omega
  have family := Family.number_injective number
  have values : Octets.value a.data = Octets.value b.data := by omega
  have sizes : a.data.length = b.data.length := by rw [a.sized, b.sized, family]
  exact IpAddress.ext family (Octets.value_injective sizes values)

instance : LinearOrder IpAddress := LinearOrder.lift' key key_injective

instance : Std.LawfulEqOrd IpAddress := ⟨compare_eq_iff_eq.mp⟩

theorem lt_iff_key (a b : IpAddress) : a < b ↔ a.key < b.key := Iff.rfl

theorem key_lt_iff (a b : IpAddress) : a.key < b.key ↔
    a.family.number < b.family.number ∨
      (a.family = b.family ∧ Octets.value a.data < Octets.value b.data) := by
  have la := a.value_bound
  have lb := b.value_bound
  unfold key
  constructor
  · intro less
    rcases Nat.lt_trichotomy a.family.number b.family.number with low | same | high
    · exact .inl low
    · exact .inr ⟨Family.number_injective same, by omega⟩
    · omega
  · rintro (low | ⟨same, less⟩)
    · omega
    · rw [same]; omega

theorem operatorLess_iff (a b : IpAddress) : a.operatorLess b = true ↔ a < b := by
  rw [lt_iff_key, key_lt_iff, operatorLess]
  by_cases low : a.family.number < b.family.number
  · simp [low]
  · by_cases high : b.family.number < a.family.number
    · have apart : a.family ≠ b.family := fun same => by simp [same] at high
      simp [low, high, apart]
    · have same := Family.number_injective (by omega : a.family.number = b.family.number)
      have sizes : a.data.length = b.data.length := by rw [a.sized, b.sized, same]
      rw [if_neg low, if_neg high, beq_iff_eq, Octets.compareBytes_value sizes, Nat.compare_eq_lt]
      simp [same]

theorem operatorGreater_eq (a b : IpAddress) : a.operatorGreater b = b.operatorLess a := by
  unfold operatorGreater operatorLess
  by_cases same : a.family = b.family
  · have sizes : a.data.length = b.data.length := by rw [a.sized, b.sized, same]
    rw [same, if_neg (Nat.lt_irrefl _), Octets.compareBytes_value sizes,
      Octets.compareBytes_value sizes.symm, Bool.eq_iff_iff]
    simp [Nat.compare_eq_lt, Nat.compare_eq_gt]
  · have apart : a.family.number ≠ b.family.number := fun h => same (Family.number_injective h)
    rcases Nat.lt_or_gt_of_ne apart with low | high
    · simp [low]
    · simp [high]

theorem operatorGreater_iff (a b : IpAddress) : a.operatorGreater b = true ↔ b < a := by
  rw [operatorGreater_eq, operatorLess_iff]

end IpAddress

/-- `IpSubnet`: the prefix length is an unsigned 32-bit number. -/
@[ext] structure IpSubnet where
  address : IpAddress
  cidr : UInt32
  deriving DecidableEq

namespace IpSubnet

def operatorLess (a b : IpSubnet) : Bool :=
  if a.address.operatorLess b.address then true
  else if a.address.operatorGreater b.address then false
  else if a.cidr < b.cidr then true
  else false

def key (s : IpSubnet) : Nat := s.address.key * 2 ^ 32 + s.cidr.toNat

theorem key_injective : Function.Injective key := by
  intro a b same
  have la : a.cidr.toNat < 2 ^ 32 := a.cidr.toNat_lt
  have lb : b.cidr.toNat < 2 ^ 32 := b.cidr.toNat_lt
  unfold key at same
  have address : a.address.key = b.address.key := by omega
  have cidr : a.cidr.toNat = b.cidr.toNat := by omega
  exact IpSubnet.ext (IpAddress.key_injective address) (UInt32.toNat_inj.mp cidr)

instance : LinearOrder IpSubnet := LinearOrder.lift' key key_injective

instance : Std.LawfulEqOrd IpSubnet := ⟨compare_eq_iff_eq.mp⟩

theorem operatorLess_iff (a b : IpSubnet) : a.operatorLess b = true ↔ a < b := by
  have la : a.cidr.toNat < 2 ^ 32 := a.cidr.toNat_lt
  have lb : b.cidr.toNat < 2 ^ 32 := b.cidr.toNat_lt
  have order : a < b ↔ a.key < b.key := Iff.rfl
  simp only [operatorLess, IpAddress.operatorLess_iff, IpAddress.operatorGreater_iff,
    IpAddress.lt_iff_key, UInt32.lt_iff_toNat_lt, order, key]
  split
  · simp only [true_iff]; omega
  · split
    · simp only [Bool.false_eq_true, false_iff]; omega
    · split <;> simp only [true_iff, Bool.false_eq_true, false_iff] <;> omega

end IpSubnet

/-- `std::set<IpAddress>` and `std::set<IpSubnet>`, iterated in ascending order. -/
abbrev IpAddressSet := Std.TreeSet IpAddress
abbrev IpSubnetSet := Std.TreeSet IpSubnet

end OpenVrrp
