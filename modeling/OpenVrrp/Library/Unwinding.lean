import Mathlib.Data.List.Basic

/-! Systems that answer each input, and may have no next state. A part of the state that no
foreign input touches, and that foreign state does not touch either, can be run alone. -/
namespace Unwinding

variable {S A O V : Type*}

def run (step : S → A → Option (S × O)) : S → List A → Option (S × List O)
  | s, [] => some (s, [])
  | s, a :: rest => do
    let (next, out) ← step s a
    let (last, outs) ← run step next rest
    return (last, out :: outs)

/-- The answers to the inputs that are concerned. -/
def answers (concerns : A → Bool) : List A → List O → List O
  | a :: rest, out :: outs =>
    if concerns a then out :: answers concerns rest outs else answers concerns rest outs
  | _, _ => []

/-- A view of the state that only the inputs concerned change, and that decides what these do
to it and how they are answered. -/
structure Isolated (step : S → A → Option (S × O)) (view : S → V) (concerns : A → Bool) :
    Prop where
  apart : ∀ {s a t out}, concerns a = false → step s a = some (t, out) → view t = view s
  alike : ∀ {s t a}, concerns a = true → view s = view t →
    (step s a).map (Prod.map view id) = (step t a).map (Prod.map view id)

variable {step : S → A → Option (S × O)} {view : S → V} {concerns : A → Bool}

theorem run_cons_eq_some {s t : S} {a : A} {rest : List A} {outs : List O} :
    run step s (a :: rest) = some (t, outs) ↔
      ∃ next out later, step s a = some (next, out) ∧ run step next rest = some (t, later) ∧
        out :: later = outs := by
  simp only [run, Option.bind_eq_bind, Option.bind_eq_some_iff, Option.pure_def,
    Option.some.injEq, Prod.exists, Prod.mk.injEq]
  constructor
  · rintro ⟨next, out, stepped, last, later, ran, rfl, rfl⟩
    exact ⟨next, out, later, stepped, ran, rfl⟩
  · rintro ⟨next, out, later, stepped, ran, rfl⟩
    exact ⟨next, out, stepped, t, later, ran, rfl, rfl⟩

theorem run_append {s t u : S} {as bs : List A} {outs more : List O}
    (first : run step s as = some (t, outs)) (second : run step t bs = some (u, more)) :
    run step s (as ++ bs) = some (u, outs ++ more) := by
  induction as generalizing s outs with
  | nil =>
    cases first
    exact second
  | cons a rest ih =>
    obtain ⟨next, out, later, stepped, onward, rfl⟩ := run_cons_eq_some.mp first
    exact run_cons_eq_some.mpr ⟨next, out, _, stepped, ih onward, rfl⟩

theorem run_length {s t : S} {as : List A} {outs : List O}
    (ran : run step s as = some (t, outs)) : outs.length = as.length := by
  induction as generalizing s outs with
  | nil =>
    cases ran
    rfl
  | cons a rest ih =>
    obtain ⟨next, out, later, _, onward, rfl⟩ := run_cons_eq_some.mp ran
    rw [List.length_cons, List.length_cons, ih onward]

theorem run_map {B : Type*} (f : B → A) (s : S) (bs : List B) :
    run step s (bs.map f) = run (fun s b => step s (f b)) s bs := by
  induction bs generalizing s with
  | nil => rfl
  | cons b rest ih => simp only [List.map_cons, run, ih]

theorem run_states {plain : S → A → Option S}
    (agrees : ∀ s a, (step s a).map Prod.fst = plain s a) (s : S) (as : List A) :
    (run step s as).map Prod.fst = as.foldlM plain s := by
  induction as generalizing s with
  | nil => rfl
  | cons a rest ih =>
    rw [List.foldlM_cons, ← agrees, run]
    cases step s a with
    | none => rfl
    | some taken =>
      obtain ⟨next, out⟩ := taken
      change ((run step next rest).bind fun ran => some (ran.1, out :: ran.2)).map Prod.fst =
        rest.foldlM plain next
      rw [← ih next]
      cases run step next rest with
      | none => rfl
      | some ran => rfl

/-- Without the inputs that are not concerned the run goes on, to the same view and with the
same answers. -/
theorem Isolated.purge (isolated : Isolated step view concerns) {s t u : S} {as : List A}
    {outs : List O} (same : view s = view u) (ran : run step s as = some (t, outs)) :
    ∃ v, run step u (as.filter concerns) = some (v, answers concerns as outs) ∧
      view v = view t := by
  induction as generalizing s u outs with
  | nil =>
    cases ran
    exact ⟨u, rfl, same.symm⟩
  | cons a rest ih =>
    obtain ⟨next, out, later, stepped, onward, rfl⟩ := run_cons_eq_some.mp ran
    cases concerned : concerns a with
    | false =>
      obtain ⟨v, alone, seen⟩ := ih ((isolated.apart concerned stepped).trans same) onward
      refine ⟨v, ?_, seen⟩
      rw [List.filter_cons_of_neg (by rw [concerned]; decide), answers,
        if_neg (by rw [concerned]; decide), alone]
    | true =>
      have alike := isolated.alike concerned same
      rw [stepped, Option.map_some] at alike
      obtain ⟨⟨aside, reply⟩, taken, both⟩ := Option.map_eq_some_iff.mp alike.symm
      obtain ⟨seen, rfl⟩ := Prod.mk.inj both
      obtain ⟨v, alone, last⟩ := ih (seen : view aside = view next).symm onward
      refine ⟨v, ?_, last⟩
      rw [List.filter_cons_of_pos concerned, answers, if_pos concerned, run_cons_eq_some]
      exact ⟨aside, reply, _, taken, alone, rfl⟩

end Unwinding
