import Mathlib.Data.List.Basic

/-! Decoders of a finite stream. A decoder takes what it needs from the front and leaves the
rest, or fails; the laws say what it makes of an encoding, whatever follows. -/

def Decoder (β α : Type) := List β → Option (α × List β)

namespace Decoder

variable {β α γ : Type}

instance : Monad (Decoder β) where
  pure a := fun input => some (a, input)
  bind d next := fun input => (d input).bind fun taken => next taken.1 taken.2

def fail : Decoder β α := fun _ => none

def upTo (n : Nat) : Decoder β (List β) := fun input => some (input.take n, input.drop n)

def exactly (n : Nat) : Decoder β (List β) := do
  let taken ← upTo n
  if taken.length = n then pure taken else fail

def times (d : Decoder β α) : Nat → Decoder β (List α)
  | 0 => pure []
  | n + 1 => do
    let a ← d
    let rest ← times d n
    pure (a :: rest)

/-- The decoder takes exactly the encoding from the front and makes the value of it. -/
def Decodes (d : Decoder β α) (a : α) (encoded : List β) : Prop :=
  ∀ rest, d (encoded ++ rest) = some (a, rest)

theorem decodes_pure (a : α) : Decodes (pure a : Decoder β α) a [] := fun _ => rfl

theorem bind_apply (d : Decoder β α) (next : α → Decoder β γ) (input : List β) :
    (d >>= next) input = (d input).bind fun taken => next taken.1 taken.2 := rfl

theorem Decodes.front {d : Decoder β α} {a : α} {first : List β} (head : Decodes d a first)
    (next : α → Decoder β γ) (second rest : List β) :
    (d >>= next) (first ++ second ++ rest) = next a (second ++ rest) := by
  rw [bind_apply, List.append_assoc, head, Option.bind_some]

theorem Decodes.bind {d : Decoder β α} {next : α → Decoder β γ} {a : α} {c : γ}
    {first second : List β} (head : Decodes d a first) (tail : Decodes (next a) c second) :
    Decodes (d >>= next) c (first ++ second) :=
  fun rest => (head.front next second rest).trans (tail rest)

theorem Decodes.value {d : Decoder β α} {a : α} {encoded : List β} (head : Decodes d a encoded)
    {f : α → γ} {c : γ} (same : f a = c) :
    Decodes (d >>= fun a => pure (f a)) c encoded := by
  rw [← List.append_nil encoded]
  exact head.bind (same ▸ decodes_pure (f a))

theorem decodes_exactly (encoded : List β) :
    Decodes (exactly encoded.length) encoded encoded := by
  intro rest
  rw [exactly, bind_apply, upTo, List.take_left, List.drop_left, Option.bind_some, if_pos rfl]
  rfl

theorem decodes_times {d : Decoder β α} {encode : α → List β} (as : List α)
    (each : ∀ a ∈ as, Decodes d a (encode a)) :
    Decodes (times d as.length) as (as.flatMap encode) := by
  induction as with
  | nil => exact decodes_pure []
  | cons a rest ih =>
    have later := ih fun b inside => each b (List.mem_cons_of_mem a inside)
    rw [List.flatMap_cons]
    exact (each a List.mem_cons_self).bind (later.value rfl)

/-- Two decoders that differ in what they make of the same bytes. -/
theorem front_map {d : Decoder β α} {first second : α → Decoder β γ} {f : γ → γ}
    (each : ∀ a input, first a input = (second a input).map (Prod.map f id)) (input : List β) :
    (d >>= first) input = ((d >>= second) input).map (Prod.map f id) := by
  rw [bind_apply, bind_apply]
  cases d input with
  | none => rfl
  | some taken => exact each taken.1 taken.2

/-! ### Streams that end too early -/

/-- What follows the input does not change what was taken from it. -/
def Stable (d : Decoder β α) : Prop :=
  ∀ input taken, d input = some taken → ∀ more, d (input ++ more) = some (taken.1, taken.2 ++ more)

theorem stable_pure (a : α) : Stable (pure a : Decoder β α) := by
  intro input taken accepted more
  cases Option.some.inj accepted
  rfl

theorem stable_fail : Stable (fail : Decoder β α) := fun _ _ accepted => nomatch accepted

theorem Stable.bind {d : Decoder β α} {next : α → Decoder β γ} (head : Stable d)
    (tail : ∀ a, Stable (next a)) : Stable (d >>= next) := by
  intro input taken accepted more
  rw [bind_apply] at accepted
  obtain ⟨first, front, accepted⟩ := Option.bind_eq_some_iff.mp accepted
  rw [bind_apply, head input first front more, Option.bind_some]
  exact tail first.1 first.2 taken accepted more

theorem Stable.value {d : Decoder β α} (head : Stable d) (f : α → γ) :
    Stable (d >>= fun a => pure (f a)) := head.bind fun a => stable_pure (f a)

theorem exactly_apply (n : Nat) (input : List β) : exactly n input =
    if n ≤ input.length then some (input.take n, input.drop n) else none := by
  rw [exactly, bind_apply, upTo, Option.bind_some, List.length_take]
  by_cases enough : n ≤ input.length
  · rw [if_pos enough, if_pos (Nat.min_eq_left enough)]
    rfl
  · rw [if_neg enough, if_neg (by omega)]
    rfl

theorem stable_exactly (n : Nat) : Stable (exactly n : Decoder β (List β)) := by
  intro input taken accepted more
  rw [exactly_apply] at accepted
  split at accepted
  · rename_i enough
    cases Option.some.inj accepted
    rw [exactly_apply, if_pos (Nat.le_trans enough (by simp)), List.take_append_of_le_length enough,
      List.drop_append_of_le_length enough]
  · cases accepted

theorem Stable.times {d : Decoder β α} (each : Stable d) (n : Nat) : Stable (times d n) := by
  induction n with
  | zero => exact stable_pure []
  | succ n ih => exact each.bind fun a => ih.value (a :: ·)

theorem Stable.cut {d : Decoder β α} {a : α} {encoded input : List β} (stable : Stable d)
    (decodes : Decodes d a encoded) (part : input <+: encoded) (cut : input ≠ encoded) :
    d input = none := by
  cases taken : d input with
  | none => rfl
  | some taken =>
    obtain ⟨more, whole⟩ := part
    have same := stable _ _ taken more
    have all := decodes []
    rw [List.append_nil, ← whole, same] at all
    have nothing : more = [] := (List.append_eq_nil_iff.mp (congrArg Prod.snd
      (Option.some.inj all))).2
    exact absurd (by rw [← whole, nothing, List.append_nil]) cut

/-! ### What is taken from the stream -/

theorem bind_assoc (d : Decoder β α) (next : α → Decoder β γ) {δ : Type}
    (last : γ → Decoder β δ) :
    ((d >>= next) >>= last) = (d >>= fun a => next a >>= last) := by
  funext input
  rw [bind_apply, bind_apply, bind_apply, Option.bind_assoc]
  rfl

/-- A decoder that succeeds has taken at least so many elements. -/
def Takes (least : Nat) (d : Decoder β α) : Prop :=
  ∀ input taken, d input = some taken → taken.2.length + least ≤ input.length

theorem takes_pure (a : α) : Takes 0 (pure a : Decoder β α) := by
  intro input taken accepted
  cases Option.some.inj accepted
  exact Nat.le_refl _

theorem takes_fail (least : Nat) : Takes least (fail : Decoder β α) :=
  fun _ _ accepted => nomatch accepted

theorem takes_exactly (n : Nat) : Takes n (exactly n : Decoder β (List β)) := by
  intro input taken accepted
  rw [exactly_apply] at accepted
  split at accepted
  · cases Option.some.inj accepted
    rw [List.length_drop]
    omega
  · cases accepted

/-- What the first decoder takes is taken by the whole. -/
theorem Takes.bind {least : Nat} {d : Decoder β α} {next : α → Decoder β γ} (head : Takes least d)
    (tail : ∀ a, Takes 0 (next a)) : Takes least (d >>= next) := by
  intro input taken accepted
  rw [bind_apply] at accepted
  obtain ⟨first, front, accepted⟩ := Option.bind_eq_some_iff.mp accepted
  have before := head input first front
  have later := tail first.1 first.2 taken accepted
  omega

theorem Takes.value {least : Nat} {d : Decoder β α} (head : Takes least d) (f : α → γ) :
    Takes least (d >>= fun a => pure (f a)) := head.bind fun a => takes_pure (f a)

theorem Takes.nothing {least : Nat} {d : Decoder β α} (head : Takes least d) : Takes 0 d :=
  fun input taken accepted => Nat.le_trans (Nat.le_add_right _ least) (head input taken accepted)

theorem Takes.times {least : Nat} {d : Decoder β α} (each : Takes least d) (n : Nat) :
    Takes 0 (times d n) := by
  induction n with
  | zero => exact takes_pure []
  | succ n ih => exact each.nothing.bind fun a => ih.value (a :: ·)

/-- As many values as there is room for. -/
theorem Takes.times_length {least : Nat} {d : Decoder β α} (each : Takes least d) {n : Nat}
    {input rest : List β} {as : List α} (read : Decoder.times d n input = some (as, rest)) :
    rest.length + least * as.length ≤ input.length := by
  induction n generalizing input as with
  | zero =>
    cases Option.some.inj read
    exact Nat.le_refl _
  | succ n ih =>
    rw [Decoder.times, bind_apply] at read
    obtain ⟨⟨a, front⟩, first, read⟩ := Option.bind_eq_some_iff.mp read
    rw [bind_apply] at read
    obtain ⟨⟨more, back⟩, later, read⟩ := Option.bind_eq_some_iff.mp read
    cases Option.some.inj read
    have taken := each input (a, front) first
    have others := ih later
    dsimp only at taken others ⊢
    rw [List.length_cons, Nat.mul_succ]
    omega

/-! ### What is known of a value that was read -/

def Ensures (d : Decoder β α) (known : α → Prop) : Prop :=
  ∀ input taken, d input = some taken → known taken.1

theorem ensures_pure {known : α → Prop} {a : α} (holds : known a) :
    Ensures (pure a : Decoder β α) known := by
  intro input taken accepted
  cases Option.some.inj accepted
  exact holds

theorem ensures_anything (d : Decoder β α) : Ensures d fun _ => True := fun _ _ _ => trivial

theorem Ensures.bind {d : Decoder β α} {next : α → Decoder β γ} {before : α → Prop}
    {known : γ → Prop} (head : Ensures d before) (tail : ∀ a, before a → Ensures (next a) known) :
    Ensures (d >>= next) known := by
  intro input taken accepted
  rw [bind_apply] at accepted
  obtain ⟨first, front, accepted⟩ := Option.bind_eq_some_iff.mp accepted
  exact tail first.1 (head input first front) first.2 taken accepted

theorem ensures_after (d : Decoder β α) {next : α → Decoder β γ} {known : γ → Prop}
    (tail : ∀ a, Ensures (next a) known) : Ensures (d >>= next) known :=
  (ensures_anything d).bind fun a _ => tail a

theorem ensures_exactly (n : Nat) :
    Ensures (exactly n : Decoder β (List β)) fun taken => taken.length = n := by
  intro input taken accepted
  rw [exactly_apply] at accepted
  split at accepted
  · rename_i enough
    cases Option.some.inj accepted
    exact List.length_take_of_le enough
  · cases accepted

end Decoder
