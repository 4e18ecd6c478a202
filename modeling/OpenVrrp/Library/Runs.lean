import Mathlib.Data.List.Basic
import Mathlib.Data.List.Infix

/-! Runs of a deterministic step function over a list of inputs.
A run lemma is stated once here: what a step keeps, a run keeps, and a guard that
is exact for one step is exact for the whole run. -/
namespace Runs

variable {S A : Type*}

def Always (step : S → A → S) (good : S → Prop) : S → List A → Prop
  | s, [] => good s
  | s, a :: rest => good s ∧ Always step good (step s a) rest

def Admitted (step : S → A → S) (ok : S → A → Prop) : S → List A → Prop
  | _, [] => True
  | s, a :: rest => ok s a ∧ Admitted step ok (step s a) rest

theorem Always.start {step : S → A → S} {good : S → Prop} {s : S} {as : List A}
    (held : Always step good s as) : good s := by
  cases as with
  | nil => exact held
  | cons a rest => exact held.1

theorem Always.imp {step : S → A → S} {good better : S → Prop} (improves : ∀ s, good s → better s)
    {s : S} {as : List A} (held : Always step good s as) : Always step better s as := by
  induction as generalizing s with
  | nil => exact improves s held
  | cons a rest ih => exact ⟨improves s held.1, ih held.2⟩

theorem always_of_kept {step : S → A → S} {good : S → Prop}
    (kept : ∀ s a, good s → good (step s a)) {s : S} (start : good s) (as : List A) :
    Always step good s as := by
  induction as generalizing s with
  | nil => exact start
  | cons a rest ih => exact ⟨start, ih (kept s a start)⟩

/-- A guard that is exact for each step is exact for the run: the property holds in every state
reached, and every step is fine, if and only if every input of the run passes the guard. The
part `inv` of the invariant survives every step, the rest of it only the guarded ones. -/
theorem always_and_admitted_iff {step : S → A → S} {ok fine : S → A → Prop} (inv : S → Prop)
    {good : S → Prop} (kept : ∀ s a, inv s → inv (step s a))
    (exact : ∀ s a, inv s → good s → (ok s a ↔ good (step s a) ∧ fine s a))
    {s : S} (start : inv s) (holds : good s) (as : List A) :
    Always step good s as ∧ Admitted step fine s as ↔ Admitted step ok s as := by
  induction as generalizing s with
  | nil => exact ⟨fun _ => trivial, fun _ => ⟨holds, trivial⟩⟩
  | cons a rest ih =>
    have here := exact s a start holds
    constructor
    · rintro ⟨⟨_, later⟩, well, following⟩
      exact ⟨here.mpr ⟨later.start, well⟩, (ih (kept s a start) later.start).mp ⟨later, following⟩⟩
    · rintro ⟨passed, later⟩
      obtain ⟨next, well⟩ := here.mp passed
      obtain ⟨always, following⟩ := (ih (kept s a start) next).mpr later
      exact ⟨⟨holds, always⟩, well, following⟩

theorem admitted_trivially (step : S → A → S) (s : S) (as : List A) :
    Admitted step (fun _ _ => True) s as := by
  induction as generalizing s with
  | nil => trivial
  | cons a rest ih => exact ⟨trivial, ih _⟩

theorem always_iff_admitted {step : S → A → S} {ok : S → A → Prop} (inv : S → Prop)
    {good : S → Prop} (kept : ∀ s a, inv s → inv (step s a))
    (keeps : ∀ s a, inv s → good s → ok s a → good (step s a))
    (breaks : ∀ s a, inv s → good s → ¬ ok s a → ¬ good (step s a))
    {s : S} (start : inv s) (holds : good s) (as : List A) :
    Always step good s as ↔ Admitted step ok s as := by
  have exact : ∀ s a, inv s → good s → (ok s a ↔ good (step s a) ∧ True) := by
    intro s a inside before
    rw [and_true]
    exact ⟨keeps s a inside before, fun after =>
      by_contra fun refused => breaks s a inside before refused after⟩
  rw [← always_and_admitted_iff inv kept exact start holds as]
  exact ⟨fun always => ⟨always, admitted_trivially step s as⟩, And.left⟩

/-- Two guards that agree wherever the invariant holds admit the same runs; a step that
passes them keeps the invariant. -/
theorem admitted_iff_admitted {step : S → A → S} {ok fine : S → A → Prop} (inv : S → Prop)
    (kept : ∀ s a, inv s → ok s a → inv (step s a))
    (agree : ∀ s a, inv s → (ok s a ↔ fine s a)) {s : S} (start : inv s) (as : List A) :
    Admitted step ok s as ↔ Admitted step fine s as := by
  induction as generalizing s with
  | nil => exact Iff.rfl
  | cons a rest ih =>
    constructor
    · rintro ⟨passed, later⟩
      exact ⟨(agree s a start).mp passed, (ih (kept s a start passed)).mp later⟩
    · rintro ⟨passed, later⟩
      have first := (agree s a start).mpr passed
      exact ⟨first, (ih (kept s a start first)).mpr later⟩

/-! ### Loops over a list -/

theorem foldl_keeps {step : S → A → S} (held : S → Prop) (as : List A)
    (keeps : ∀ s, ∀ a ∈ as, held s → held (step s a)) {s : S} (start : held s) :
    held (as.foldl step s) := by
  induction as generalizing s with
  | nil => exact start
  | cons a rest ih =>
    exact ih (fun s b inside => keeps s b (List.mem_cons_of_mem a inside))
      (keeps s a List.mem_cons_self start)

/-- What the iteration of an element makes and no other iteration undoes holds of every
element after the loop. -/
theorem foldl_makes {step : S → A → S} (made : A → S → Prop)
    (makes : ∀ s a, made a (step s a)) (keeps : ∀ s a b, made a s → made a (step s b))
    (as : List A) (s : S) : ∀ a ∈ as, made a (as.foldl step s) := by
  induction as generalizing s with
  | nil => exact fun a inside => absurd inside List.not_mem_nil
  | cons b rest ih =>
    intro a inside
    rcases List.mem_cons.mp inside with rfl | inside
    · exact foldl_keeps _ rest (fun s b _ => keeps s a b) (makes s a)
    · exact ih (step s b) a inside

/-! ### Runs that may end -/

theorem foldlM_keeps_of_mem {step : S → A → Option S} (held : S → Prop) {as : List A}
    (keeps : ∀ s, ∀ a ∈ as, ∀ t, held s → step s a = some t → held t) {s t : S} (start : held s)
    (ran : as.foldlM step s = some t) : held t := by
  induction as generalizing s with
  | nil => exact Option.some.inj ran ▸ start
  | cons a rest ih =>
    rw [List.foldlM_cons, Option.bind_eq_bind] at ran
    obtain ⟨next, stepped, ran⟩ := Option.bind_eq_some_iff.mp ran
    exact ih (fun s b inside => keeps s b (List.mem_cons_of_mem a inside))
      (keeps s a List.mem_cons_self next start stepped) ran

theorem foldlM_keeps {step : S → A → Option S} (held : S → Prop)
    (keeps : ∀ s a t, held s → step s a = some t → held t) {s t : S} (start : held s)
    {as : List A} (ran : as.foldlM step s = some t) : held t :=
  foldlM_keeps_of_mem held (fun s a _ => keeps s a) start ran

end Runs
