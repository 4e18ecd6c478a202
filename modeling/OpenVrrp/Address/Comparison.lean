import OpenVrrp.Address

/-! The comparison operators of IpAddress and IpSubnet beside each other. The order is one of
numbers; operator== takes the result of memcmp for its answer, which is zero for equal bytes. -/
namespace OpenVrrp

namespace IpAddress

def operatorEqual (a b : IpAddress) : Bool :=
  a.family == b.family && Octets.compareBytes a.data b.data != .eq

def operatorNotEqual (a b : IpAddress) : Bool := !a.operatorEqual b

def value (a : IpAddress) : Nat := Octets.value a.data

/-- What two addresses are to each other: less, equal, greater. -/
def verdicts (a b : IpAddress) : List Bool :=
  [a.operatorLess b, a.operatorEqual b, a.operatorGreater b]

/-- operator< of IpSubnet is a strict total order, by address and then by prefix length. -/
structure OrdersSubnets (a b c : IpAddress) (l m n : UInt32) : Prop where
  lexicographic : IpSubnet.operatorLess ⟨a, l⟩ ⟨b, m⟩ = true ↔
    a.operatorLess b = true ∨ (a = b ∧ l < m)
  irreflexive : IpSubnet.operatorLess ⟨a, l⟩ ⟨a, l⟩ = false
  transitive : IpSubnet.operatorLess ⟨a, l⟩ ⟨b, m⟩ = true →
    IpSubnet.operatorLess ⟨b, m⟩ ⟨c, n⟩ = true → IpSubnet.operatorLess ⟨a, l⟩ ⟨c, n⟩ = true
  total : IpSubnet.operatorLess ⟨a, l⟩ ⟨b, m⟩ = true ∨ IpSubnet.mk a l = ⟨b, m⟩ ∨
    IpSubnet.operatorLess ⟨b, m⟩ ⟨a, l⟩ = true

/-- The operators are one total order. Sets, maps and sorted lists take two values for the
same if neither is less. -/
structure Coherent (a b c : IpAddress) : Prop where
  one : (a.verdicts b).count true = 1
  negated : a.operatorNotEqual b = true ↔ a.operatorEqual b = false
  converse : a.operatorGreater b = true ↔ b.operatorLess a = true
  transitive : a.operatorLess b = true → b.operatorLess c = true → a.operatorLess c = true
  numeric : a.family = b.family → (a.operatorLess b = true ↔ a.value < b.value)
  subnets : ∀ l m n, a.OrdersSubnets b c l m n
  same : (a.operatorLess b = false ∧ b.operatorLess a = false) ↔ a.operatorEqual b = true

theorem operatorEqual_iff (a b : IpAddress) :
    a.operatorEqual b = true ↔ a.family = b.family ∧ a ≠ b := by
  rw [operatorEqual, Bool.and_eq_true, beq_iff_eq, bne_iff_ne]
  refine and_congr_right fun family => not_congr ?_
  have sizes : a.data.length = b.data.length := by rw [a.sized, b.sized, family]
  rw [Octets.compareBytes_value sizes, Nat.compare_eq_eq]
  constructor
  · intro values
    exact IpAddress.ext family (Octets.value_injective sizes values)
  · rintro rfl
    rfl

theorem operatorLess_numeric {a b : IpAddress} (family : a.family = b.family) :
    a.operatorLess b = true ↔ a.value < b.value := by
  rw [operatorLess_iff, lt_iff_key, key_lt_iff, family]
  simp [value]

theorem operatorLess_transitive {a b c : IpAddress} (first : a.operatorLess b = true)
    (second : b.operatorLess c = true) : a.operatorLess c = true := by
  rw [operatorLess_iff] at first second ⊢
  exact first.trans second

theorem ordersSubnets (a b c : IpAddress) (l m n : UInt32) : a.OrdersSubnets b c l m n where
  lexicographic := by
    rcases lt_trichotomy a b with less | rfl | greater
    · have first := (operatorLess_iff a b).mpr less
      simp [IpSubnet.operatorLess, first]
    · have not_less : a.operatorLess a = false := by
        rw [← Bool.not_eq_true, operatorLess_iff]
        exact lt_irrefl a
      simp [IpSubnet.operatorLess, operatorGreater_eq, not_less]
    · have second := (operatorGreater_iff a b).mpr greater
      have not_less : a.operatorLess b = false := by
        rw [← Bool.not_eq_true, operatorLess_iff]
        exact not_lt_of_gt greater
      simp [IpSubnet.operatorLess, not_less, second, greater.ne']
  irreflexive := by
    rw [← Bool.not_eq_true, IpSubnet.operatorLess_iff]
    exact lt_irrefl _
  transitive := by
    intro first second
    rw [IpSubnet.operatorLess_iff] at first second ⊢
    exact first.trans second
  total := by
    rw [IpSubnet.operatorLess_iff, IpSubnet.operatorLess_iff]
    exact lt_trichotomy _ _

/-- Of two addresses of one family exactly one is less if they differ, and operator== then
says equal as well; of equal ones no operator says anything. -/
theorem verdicts_of_family {a b : IpAddress} (family : a.family = b.family) :
    (a.verdicts b).count true = if a = b then 0 else 2 := by
  have less := operatorLess_iff a b
  have greater := operatorGreater_iff a b
  have equal := operatorEqual_iff a b
  rcases lt_trichotomy a b with low | same | high
  · rw [if_neg low.ne, verdicts, less.mpr low, equal.mpr ⟨family, low.ne⟩,
      (Bool.not_eq_true _).mp (mt greater.mp (not_lt_of_gt low))]
    rfl
  · rw [if_pos same, verdicts, (Bool.not_eq_true _).mp (mt less.mp (not_lt_of_ge same.ge)),
      (Bool.not_eq_true _).mp (mt equal.mp fun both => both.2 same),
      (Bool.not_eq_true _).mp (mt greater.mp (not_lt_of_ge same.le))]
    rfl
  · rw [if_neg high.ne', verdicts, greater.mpr high, equal.mpr ⟨family, high.ne'⟩,
      (Bool.not_eq_true _).mp (mt less.mp (not_lt_of_gt high))]
    rfl

theorem verdicts_of_families {a b : IpAddress} (families : a.family ≠ b.family) :
    (a.verdicts b).count true = 1 := by
  have other : a.operatorEqual b = false := by
    rw [← Bool.not_eq_true, operatorEqual_iff]
    exact fun both => families both.1
  have apart : a ≠ b := fun same => families (congrArg family same)
  have less := operatorLess_iff a b
  have greater := operatorGreater_iff a b
  rcases lt_or_gt_of_ne apart with low | high
  · rw [verdicts, less.mpr low, other, (Bool.not_eq_true _).mp (mt greater.mp (not_lt_of_gt low))]
    rfl
  · rw [verdicts, greater.mpr high, other, (Bool.not_eq_true _).mp (mt less.mp (not_lt_of_gt high))]
    rfl

/-- The operators agree on addresses of different families only. -/
theorem coherent_iff (a b c : IpAddress) : Coherent a b c ↔ a.family ≠ b.family := by
  constructor
  · intro coherent family
    have one := coherent.one
    rw [verdicts_of_family family] at one
    split at one <;> cases one
  · intro families
    have apart : a ≠ b := fun same => families (congrArg family same)
    refine ⟨verdicts_of_families families, by simp [operatorNotEqual], ?_,
      operatorLess_transitive, fun family => absurd family families, a.ordersSubnets b c, ?_⟩
    · rw [operatorGreater_eq]
    · refine iff_of_false ?_ fun equal => families ((operatorEqual_iff a b).mp equal).1
      simp only [← Bool.not_eq_true, operatorLess_iff, not_lt]
      exact fun both => apart (le_antisymm both.2 both.1)

/-- An address is not equal to itself, and it is to its neighbour. -/
theorem sample_not_equal : ¬ Coherent (sample 1) (sample 1) (sample 1) ∧
    (sample 1).operatorEqual (sample 1) = false ∧ (sample 1).operatorEqual (sample 2) = true := by
  refine ⟨?_, by decide, by decide⟩
  intro coherent
  exact absurd coherent.one (by decide)

end IpAddress

end OpenVrrp
