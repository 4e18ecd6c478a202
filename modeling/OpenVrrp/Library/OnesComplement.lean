import Mathlib.Algebra.Ring.Nat
import Mathlib.Tactic.Common

/-! Ones-complement sums of 16-bit words, as the Internet checksum uses them: a sum whose
carries are folded back in is determined by its remainder modulo 65535. -/
namespace OnesComplement

/-- Add the carries above sixteen bits back in until there are none. -/
def fold (sum : Nat) : Nat :=
  if sum / 65536 = 0 then sum else fold (sum % 65536 + sum / 65536)
termination_by sum
decreasing_by omega

theorem fold_small {sum : Nat} (small : sum < 65536) : fold sum = sum := by
  rw [fold, if_pos (by omega)]

theorem fold_carry {sum : Nat} (large : 65536 ≤ sum) :
    fold sum = fold (sum % 65536 + sum / 65536) := by
  rw [fold, if_neg (by omega)]

theorem fold_lt (sum : Nat) : fold sum < 65536 := by
  induction sum using Nat.strongRecOn with
  | ind sum ih =>
    by_cases small : sum < 65536
    · rw [fold_small small]
      exact small
    · rw [fold_carry (by omega)]
      exact ih _ (by omega)

theorem fold_mod (sum : Nat) : fold sum % 65535 = sum % 65535 := by
  induction sum using Nat.strongRecOn with
  | ind sum ih =>
    by_cases small : sum < 65536
    · rw [fold_small small]
    · rw [fold_carry (by omega), ih _ (by omega)]
      omega

theorem fold_le (sum : Nat) : fold sum ≤ sum := by
  induction sum using Nat.strongRecOn with
  | ind sum ih =>
    by_cases small : sum < 65536
    · rw [fold_small small]
    · rw [fold_carry (by omega)]
      have := ih (sum % 65536 + sum / 65536) (by omega)
      omega

theorem fold_pos {sum : Nat} (positive : 0 < sum) : 0 < fold sum := by
  induction sum using Nat.strongRecOn with
  | ind sum ih =>
    by_cases small : sum < 65536
    · rw [fold_small small]
      exact positive
    · rw [fold_carry (by omega)]
      exact ih _ (by omega) (by omega)

def complement (sum : Nat) : Nat := 65535 - fold sum

theorem complement_lt (sum : Nat) : complement sum < 65536 := by
  unfold complement
  omega

/-- What a receiver tests: the sum is a positive multiple of 65535. -/
theorem complement_eq_zero (sum : Nat) : complement sum = 0 ↔ 0 < sum ∧ sum % 65535 = 0 := by
  have bound := fold_lt sum
  have remainder := fold_mod sum
  have least := fold_le sum
  unfold complement
  constructor
  · intro zero
    omega
  · rintro ⟨positive, multiple⟩
    have := fold_pos positive
    omega

theorem complement_add_complement (sum : Nat) : complement (sum + complement sum) = 0 := by
  have bound := fold_lt sum
  have remainder := fold_mod sum
  have least := fold_le sum
  rw [complement_eq_zero]
  unfold complement
  constructor <;> omega

theorem fold_eq_zero (sum : Nat) : fold sum = 0 ↔ sum = 0 := by
  constructor
  · intro zero
    by_contra some_word
    exact absurd zero (Nat.pos_iff_ne_zero.mp (fold_pos (Nat.pos_of_ne_zero some_word)))
  · rintro rfl
    exact fold_small (by decide)

/-- The two zeros are told apart by whether there was anything to add. -/
theorem fold_eq_iff (a b : Nat) : fold a = fold b ↔ a % 65535 = b % 65535 ∧ (a = 0 ↔ b = 0) := by
  have bound_a := fold_lt a
  have bound_b := fold_lt b
  have remainder_a := fold_mod a
  have remainder_b := fold_mod b
  have zero_a := fold_eq_zero a
  have zero_b := fold_eq_zero b
  omega

theorem complement_eq_iff (a b : Nat) :
    complement a = complement b ↔ a % 65535 = b % 65535 ∧ (a = 0 ↔ b = 0) := by
  have bound_a := fold_lt a
  have bound_b := fold_lt b
  rw [← fold_eq_iff, complement, complement]
  omega

/-! ### Ones-complement addition -/

/-- Addition in sixteen bits with an end-around carry. -/
def add (a b : Nat) : Nat := if a + b < 65536 then a + b else a + b - 65535

def sum (words : List Nat) : Nat := words.foldl add 0

/-- One carry at a time or all carries at the end: the result is the same. -/
theorem sum_eq_fold {words : List Nat} (small : ∀ w ∈ words, w < 65536) :
    sum words = fold words.sum := by
  have run : ∀ start < 65536, words.foldl add start < 65536 ∧
      words.foldl add start % 65535 = (start + words.sum) % 65535 ∧
      (words.foldl add start = 0 ↔ start + words.sum = 0) := by
    induction words with
    | nil => exact fun start bound => ⟨bound, rfl, Iff.rfl⟩
    | cons w rest ih =>
      intro start bound
      have here := small w List.mem_cons_self
      have next : add start w < 65536 ∧ add start w % 65535 = (start + w) % 65535 ∧
          (add start w = 0 ↔ start + w = 0) := by
        unfold add
        split <;> omega
      obtain ⟨later, remainder, zero⟩ :=
        ih (fun v inside => small v (List.mem_cons_of_mem w inside)) (add start w) next.1
      rw [List.foldl_cons, List.sum_cons]
      omega
  obtain ⟨bound, remainder, zero⟩ := run 0 (by decide)
  have bound_fold := fold_lt words.sum
  have remainder_fold := fold_mod words.sum
  have zero_fold := fold_eq_zero words.sum
  unfold sum
  omega

end OnesComplement
