import Mathlib.Data.List.Basic

/-! Loops that read from a stream while a signed counter goes up to a bound, which it is compared
with by `!=`. The counter meets a bound below its start never, and without the stream it would
leave its type; a body that takes something in each round ends the loop before. -/

/-- `unfinished` is for the fuel, `overflowed` for the counter. -/
inductive Progress (S β : Type) where
  | unfinished
  | overflowed
  | failed (s : S)
  | done (s : S) (rest : List β)

namespace Progress

variable {S β : Type}

/-- The state that is left behind, and whether nothing failed. -/
def verdict : Progress S β → Option (S × Bool)
  | unfinished | overflowed => none
  | failed s => some (s, false)
  | done s _ => some (s, true)

section Model
variable (limit : Int) (body : Int → S → List β → Progress S β) (bound : Int)

/-- `for (j = ...; j != bound; ++j)` for a counter below `limit`. -/
def loop : (fuel : Nat) → (j : Int) → S → List β → Progress S β
  | 0, _, _, _ => unfinished
  | fuel + 1, j, s, input =>
    if j = bound then done s input
    else
      match body j s input with
      | done s rest => if j + 1 < limit then loop fuel (j + 1) s rest else overflowed
      | stopped => stopped

/-- The body a number of times. -/
def rounds : (count : Nat) → (j : Int) → S → List β → Progress S β
  | 0, _, s, input => done s input
  | count + 1, j, s, input =>
    match body j s input with
    | done s rest => rounds count (j + 1) s rest
    | stopped => stopped

end Model

/-- With input up to the size the body fails or takes something from it. -/
def Consumes (body : Int → S → List β → Progress S β) (size : Nat) : Prop :=
  ∀ j s input, input.length ≤ size →
    (∃ t, body j s input = failed t) ∨
      ∃ t rest, body j s input = done t rest ∧ rest.length < input.length

variable {limit : Int} {body : Int → S → List β → Progress S β} {bound : Int} {size : Nat}

/-- A counter that starts at most at its bound makes the rounds that are missing. -/
theorem loop_eq_rounds (consumes : Consumes body size) {fuel : Nat} {j : Int} {s : S}
    {input : List β} (fits : input.length ≤ size) (enough : input.length < fuel)
    (room : j + input.length < limit) (upward : j ≤ bound) :
    loop limit body bound fuel j s input = rounds body (bound - j).toNat j s input := by
  induction fuel generalizing j s input with
  | zero => omega
  | succ fuel ih =>
    rw [loop]
    by_cases met : j = bound
    · rw [if_pos met, met, Int.sub_self]
      rfl
    · have more : (bound - j).toNat = (bound - (j + 1)).toNat + 1 := by omega
      rw [if_neg met, more, rounds]
      rcases consumes j s input fits with ⟨t, stopped⟩ | ⟨t, rest, taken, shorter⟩
      · rw [stopped]
      · rw [taken]
        dsimp only
        rw [if_pos (by omega)]
        exact ih (by omega) (by omega) (by omega) (by omega)

/-- Beyond its bound the counter only stops with the stream. -/
theorem loop_beyond (consumes : Consumes body size) {fuel : Nat} {j : Int} {s : S}
    {input : List β} (fits : input.length ≤ size) (enough : input.length < fuel)
    (room : j + input.length < limit) (beyond : bound < j) :
    ∃ t, loop limit body bound fuel j s input = failed t := by
  induction fuel generalizing j s input with
  | zero => omega
  | succ fuel ih =>
    rw [loop, if_neg (by omega)]
    rcases consumes j s input fits with ⟨t, stopped⟩ | ⟨t, rest, taken, shorter⟩
    · rw [stopped]
      exact ⟨t, rfl⟩
    · rw [taken]
      dsimp only
      rw [if_pos (by omega)]
      exact ih (by omega) (by omega) (by omega) (by omega)

end Progress
