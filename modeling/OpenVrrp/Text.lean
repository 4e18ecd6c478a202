import Mathlib.Algebra.Ring.Int.Defs
import Mathlib.Algebra.Ring.Nat
import Mathlib.Data.List.DropRight

/-! Byte strings: interface names, commands and what a telnet client types. -/
namespace OpenVrrp

/-- A C string without its terminating zero byte, or any other run of bytes. -/
abbrev Text := List UInt8

def ascii (s : String) : Text := s.toList.map fun c => c.toNat.toUInt8

def newline : UInt8 := 10

/-- `std::isspace` in the C locale. -/
def isSpace (b : UInt8) : Bool := b == 32 || (9 ≤ b && b ≤ 13)

/-- The C string that starts with these bytes: what comes before the first zero byte. -/
def cString (bytes : Text) : Text := bytes.takeWhile (· ≠ 0)

/-- An `int`: what is left of a number in 32 bits. -/
def wrapInt (n : Int) : Int := n.bmod (2 ^ 32)

def isDigit (b : UInt8) : Bool := 48 ≤ b && b ≤ 57

def leadingNumber (digits : Text) : Nat :=
  (digits.takeWhile isDigit).foldl (fun n b => n * 10 + (b.toNat - 48)) 0

/-- `std::atoi`: white space, a sign and digits. The number is a 64-bit `long`, which stops at
its bounds, before it becomes an `int`. -/
def atoi (word : Text) : Int :=
  let number : Int := match word.dropWhile isSpace with
    | 45 :: digits => -(leadingNumber digits : Int)
    | 43 :: digits => leadingNumber digits
    | digits => leadingNumber digits
  wrapInt (max (-2 ^ 63) (min (2 ^ 63 - 1) number))

/-- What `sprintf` makes of an unsigned number. -/
def decimal (n : Nat) : Text := ascii n.repr

theorem decimal_eq (n : Nat) :
    decimal n = (Nat.toDigits 10 n).map fun c => c.toNat.toUInt8 := by
  rw [decimal, ascii, Nat.toList_repr]

theorem decimal_length_le_iff (n : Nat) {k : Nat} (positive : 0 < k) :
    (decimal n).length ≤ k ↔ n < 10 ^ k := by
  rw [decimal_eq, List.length_map, Nat.length_toDigits_le_iff (by decide) positive]

theorem digit_byte {c : Char} (digit : c.isDigit) :
    isDigit c.toNat.toUInt8 = true ∧ c.toNat.toUInt8.toNat = c.toNat := by
  have bounds : 48 ≤ c.toNat ∧ c.toNat ≤ 57 := by
    simpa [Char.isDigit, UInt32.le_iff_toNat_le] using digit
  have same : c.toNat.toUInt8.toNat = c.toNat := by
    rw [Nat.toUInt8_eq, UInt8.toNat_ofNat']
    omega
  refine ⟨?_, same⟩
  simp only [isDigit, Bool.and_eq_true, decide_eq_true_eq, UInt8.le_iff_toNat_le, same]
  exact bounds

theorem isDigit_decimal {n : Nat} {b : UInt8} (inside : b ∈ decimal n) : isDigit b = true := by
  rw [decimal_eq] at inside
  obtain ⟨c, written, rfl⟩ := List.mem_map.mp inside
  exact (digit_byte (Nat.isDigit_of_mem_toDigits (by decide) (by decide) written)).1

/-- The digits can be read back. -/
theorem decimal_chars (n : Nat) :
    (decimal n).map (fun b => Char.ofNat b.toNat) = Nat.toDigits 10 n := by
  rw [decimal_eq, List.map_map]
  refine (List.map_congr_left fun c written => ?_).trans (List.map_id _)
  have digit := Nat.isDigit_of_mem_toDigits (by decide) (by decide) written
  rw [Function.comp_apply, (digit_byte digit).2, Char.ofNat_toNat, id]

theorem decimal_injective : Function.Injective decimal := by
  intro m n same
  have digits := congrArg (List.map fun b : UInt8 => Char.ofNat b.toNat) same
  rw [decimal_chars, decimal_chars] at digits
  rw [← Nat.ofDigitChars_ten_toDigits (n := m), digits, Nat.ofDigitChars_ten_toDigits]

theorem leadingNumber_chars {digits : Text} (digit : ∀ b ∈ digits, isDigit b = true) :
    leadingNumber digits = Nat.ofDigitChars 10 (digits.map fun b => Char.ofNat b.toNat) 0 := by
  have shift : '0'.toNat = 48 := rfl
  rw [leadingNumber, List.takeWhile_eq_self_iff.mpr digit, Nat.ofDigitChars_eq_foldl,
    List.foldl_map, shift]
  congr 1
  funext n b
  have valid : b.toNat.isValidChar := Or.inl (b.toNat_lt.trans (by decide))
  rw [Char.ofNat, dif_pos valid]
  show _ = 10 * n + (b.toNat - 48)
  omega

theorem leadingNumber_decimal (n : Nat) : leadingNumber (decimal n) = n := by
  rw [leadingNumber_chars fun _ => isDigit_decimal, decimal_chars,
    Nat.ofDigitChars_ten_toDigits]

theorem wrapInt_bounds (n : Int) : -2 ^ 31 ≤ wrapInt n ∧ wrapInt n < 2 ^ 31 := by
  unfold wrapInt Int.bmod
  dsimp only
  split <;> omega

theorem wrapInt_small {n : Int} (least : -2 ^ 31 ≤ n) (most : n < 2 ^ 31) : wrapInt n = n := by
  unfold wrapInt Int.bmod
  dsimp only
  split <;> omega

/-- Digits have neither white space nor a sign before them. -/
theorem atoi_digits {digits : Text} (digit : ∀ b ∈ digits, isDigit b = true) :
    atoi digits = wrapInt (min (2 ^ 63 - 1) (leadingNumber digits)) := by
  cases digits with
  | nil => rfl
  | cons b rest =>
    have range := digit b List.mem_cons_self
    simp only [isDigit, Bool.and_eq_true, decide_eq_true_eq] at range
    have front : (b :: rest).dropWhile isSpace = b :: rest := by
      apply List.dropWhile_cons_of_neg
      simp only [isSpace, Bool.or_eq_true, beq_iff_eq, Bool.and_eq_true, decide_eq_true_eq]
      grind
    unfold atoi
    rw [front]
    dsimp only
    split
    · grind
    · grind
    · congr 1
      omega

theorem atoi_decimal {n : Nat} (small : n < 2 ^ 31) : atoi (decimal n) = n := by
  rw [atoi_digits fun _ => isDigit_decimal, leadingNumber_decimal]
  rw [wrapInt_small] <;> omega

end OpenVrrp
