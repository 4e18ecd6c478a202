import Mathlib.Order.Basic
import Mathlib.Algebra.Order.Group.Nat
import Mathlib.Data.Nat.Basic
import Mathlib.Tactic.Ring
import Mathlib.Tactic.Linarith

/-! Byte strings read as big-endian numbers, with the encoder for a fixed width.
The lexicographic order of equally long strings is the numerical order. -/
namespace Octets

/-- The number whose base-256 digits, most significant first, are the bytes. -/
def value : List UInt8 → Nat
  | [] => 0
  | b :: rest => b.toNat * 256 ^ rest.length + value rest

/-- The `width` low-order bytes of a number, most significant first. -/
def encode : Nat → Nat → List UInt8
  | 0, _ => []
  | width + 1, n => UInt8.ofNat (n / 256 ^ width % 256) :: encode width n

/-- The same with the least significant byte first. -/
def valueLE (bytes : List UInt8) : Nat := value bytes.reverse

def encodeLE (width n : Nat) : List UInt8 := (encode width n).reverse

def compareBytes : List UInt8 → List UInt8 → Ordering
  | a :: as, b :: bs => if a < b then .lt else if b < a then .gt else compareBytes as bs
  | _, _ => .eq

@[simp] theorem value_nil : value [] = 0 := rfl

@[simp] theorem value_cons (b : UInt8) (rest : List UInt8) :
    value (b :: rest) = b.toNat * 256 ^ rest.length + value rest := rfl

@[simp] theorem encode_length (width n : Nat) : (encode width n).length = width := by
  induction width with
  | zero => rfl
  | succ width ih => simp [encode, ih]

theorem value_bound (bs : List UInt8) : value bs < 256 ^ bs.length := by
  induction bs with
  | nil => decide
  | cons b rest ih =>
    have digit : b.toNat + 1 ≤ 256 := b.toNat_lt
    have scaled := Nat.mul_le_mul_right (256 ^ rest.length) digit
    simp only [value, List.length_cons, Nat.pow_succ]
    rw [Nat.add_mul] at scaled
    omega

theorem value_encode (width n : Nat) : value (encode width n) = n % 256 ^ width := by
  induction width with
  | zero => simp [encode, Nat.mod_one]
  | succ width ih =>
    have digit : (UInt8.ofNat (n / 256 ^ width % 256)).toNat = n / 256 ^ width % 256 := by simp
    simp only [encode, value, encode_length, ih, digit]
    rw [Nat.pow_succ, Nat.mod_mul, Nat.mul_comm, Nat.add_comm]

@[simp] theorem encodeLE_length (width n : Nat) : (encodeLE width n).length = width := by
  rw [encodeLE, List.length_reverse, encode_length]

theorem valueLE_encodeLE (width n : Nat) : valueLE (encodeLE width n) = n % 256 ^ width := by
  rw [valueLE, encodeLE, List.reverse_reverse, value_encode]

theorem encode_high (width n k : Nat) : encode width (k * 256 ^ width + n) = encode width n := by
  induction width generalizing k with
  | zero => rfl
  | succ width ih =>
    have split : k * 256 ^ (width + 1) + n = k * 256 * 256 ^ width + n := by
      rw [Nat.pow_succ]; ring
    have positive : 0 < 256 ^ width := Nat.pow_pos (by decide)
    have top : (k * 256 * 256 ^ width + n) / 256 ^ width % 256 = n / 256 ^ width % 256 := by
      rw [Nat.add_comm, Nat.add_mul_div_right _ _ positive, Nat.add_mul_mod_self_right]
    simp only [encode, split, top, ih]

theorem encode_value (bs : List UInt8) : encode bs.length (value bs) = bs := by
  induction bs with
  | nil => rfl
  | cons b rest ih =>
    have low := value_bound rest
    have top : (b.toNat * 256 ^ rest.length + value rest) / 256 ^ rest.length = b.toNat := by
      rw [Nat.add_comm, Nat.add_mul_div_right _ _ (Nat.pow_pos (by decide)),
        Nat.div_eq_of_lt low, Nat.zero_add]
    simp only [List.length_cons, encode, value, top, encode_high, ih]
    simp

theorem value_injective {as bs : List UInt8} (sizes : as.length = bs.length)
    (values : value as = value bs) : as = bs := by
  rw [← encode_value as, ← encode_value bs, sizes, values]

theorem compareBytes_value {as bs : List UInt8} (sizes : as.length = bs.length) :
    compareBytes as bs = compare (value as) (value bs) := by
  induction as generalizing bs with
  | nil =>
    have empty : bs = [] := List.length_eq_zero_iff.mp sizes.symm
    simp [empty, compareBytes]
  | cons a rest ih =>
    cases bs with
    | nil => simp at sizes
    | cons b tail =>
      have len : rest.length = tail.length := by simpa using sizes
      have low := value_bound rest
      have high := value_bound tail
      rw [len] at low
      simp only [compareBytes, value, len, UInt8.lt_iff_toNat_lt]
      rcases Nat.lt_trichotomy a.toNat b.toNat with less | same | more
      · have gap := Nat.mul_le_mul_right (256 ^ tail.length) (Nat.succ_le_of_lt less)
        rw [Nat.succ_mul] at gap
        rw [if_pos less, eq_comm, Nat.compare_eq_lt]
        omega
      · rw [if_neg (by omega), if_neg (by omega), ih len, same]
        simp only [Nat.compare_eq_ite_lt, Nat.add_lt_add_iff_left]
      · have gap := Nat.mul_le_mul_right (256 ^ tail.length) (Nat.succ_le_of_lt more)
        rw [Nat.succ_mul] at gap
        rw [if_neg (by omega), if_pos more, eq_comm, Nat.compare_eq_gt]
        omega

end Octets
