import Mathlib.Data.List.Count
import Mathlib.Logic.Function.Basic

/-! A leader that beats and followers that each have a deadline. A beat takes time to arrive, the
leader may be late, some beats are lost, and every beat that arrives moves the deadline of the
follower it arrives at. When the followers are patient enough nobody's deadline passes. -/
namespace Watchdog

variable {ι : Type*} [DecidableEq ι]

structure Timing (ι : Type*) where
  leader : ι
  period : Nat
  slack : Nat
  delay : Nat
  losses : Nat
  patience : ι → Nat

/-- The leader beats next when it is `due`. A beat that is flying has its follower and the time
when it was sent. `spare` is how many in a row may be lost before one arrives. -/
structure Watch (ι : Type*) where
  now : Nat
  due : Nat
  flying : List (ι × Nat)
  spare : ι → Nat
  deadline : ι → Nat

inductive Step (t : Timing ι) : Watch ι → Watch ι → Prop where
  | wait (w : Watch ι) (d : Nat) (late : w.now + d ≤ w.due + t.slack)
      (arrives : ∀ f ∈ w.flying, w.now + d ≤ f.2 + t.delay) :
      Step t w { w with now := w.now + d }
  | beat (w : Watch ι) (due : Nat) (next : w.now ≤ due ∧ due ≤ w.now + t.period)
      (sent : List (ι × Nat)) (all : ∀ i, i ≠ t.leader → (i, w.now) ∈ sent)
      (only : ∀ f ∈ sent, f.2 = w.now) :
      Step t w { w with due := due, flying := w.flying ++ sent }
  | receive (w : Watch ι) (i : ι) (s deadline : Nat) (before after : List (ι × Nat))
      (flies : w.flying = before ++ (i, s) :: after) (moved : w.now + t.patience i ≤ deadline) :
      Step t w { w with
        flying := before ++ after
        spare := Function.update w.spare i t.losses
        deadline := Function.update w.deadline i deadline }
  | lose (w : Watch ι) (i : ι) (s left : Nat) (before after : List (ι × Nat))
      (flies : w.flying = before ++ (i, s) :: after) (spared : w.spare i = left + 1) :
      Step t w { w with flying := before ++ after, spare := Function.update w.spare i left }

/-- The follower is patient enough to do without so many beats in a row. -/
def Patient (t : Timing ι) (i : ι) : Prop :=
  (t.losses + 1) * (t.period + t.slack) + t.delay < t.patience i

/-- How many beats are on their way to the follower and arrive before its deadline. -/
def timely (t : Timing ι) (deadline : ι → Nat) (flying : List (ι × Nat)) (i : ι) : Nat :=
  flying.countP fun f => decide (f.1 = i ∧ f.2 + t.delay < deadline i)

/-- What is flying may all be lost, as far as that may happen: the beats to come make up for it. -/
structure Guarded (t : Timing ι) (w : Watch ι) : Prop where
  prompt : w.now ≤ w.due + t.slack
  planned : w.due ≤ w.now + t.period
  fresh : ∀ f ∈ w.flying, w.now ≤ f.2 + t.delay
  spared : ∀ i, w.spare i ≤ t.losses
  covered : ∀ i, i ≠ t.leader → ∀ left, w.spare i = timely t w.deadline w.flying i + left →
    w.due + t.slack + left * (t.period + t.slack) + t.delay < w.deadline i

variable {t : Timing ι} {w v : Watch ι}

theorem timely_sent {deadline : ι → Nat} {flying : List (ι × Nat)} {i : ι} {s : Nat}
    (sent : (i, s) ∈ flying) (early : s + t.delay < deadline i) :
    0 < timely t deadline flying i :=
  List.countP_pos_iff.mpr ⟨_, sent, decide_eq_true ⟨rfl, early⟩⟩

theorem timely_drop {deadline : ι → Nat} {before after : List (ι × Nat)} {f : ι × Nat} {i : ι} :
    timely t deadline (before ++ f :: after) i ≤ timely t deadline (before ++ after) i + 1 ∧
      (f.1 ≠ i → timely t deadline (before ++ f :: after) i =
        timely t deadline (before ++ after) i) := by
  simp only [timely, List.countP_append, List.countP_cons]
  constructor
  · split <;> omega
  · intro other
    rw [if_neg (by simp [other])]
    omega

theorem Guarded.awake (guarded : Guarded t w) {i : ι} (follows : i ≠ t.leader) :
    w.now < w.deadline i := by
  by_contra passed
  have none : timely t w.deadline w.flying i = 0 := by
    apply List.countP_eq_zero.mpr
    intro f flies
    have := guarded.fresh f flies
    simp only [decide_eq_true_eq, not_and]
    omega
  have late := guarded.covered i follows (w.spare i) (by omega)
  have := guarded.prompt
  omega

theorem Guarded.fresh_drop (guarded : Guarded t w) {f : ι × Nat} {before after : List (ι × Nat)}
    (flies : w.flying = before ++ f :: after) :
    ∀ g ∈ before ++ after, w.now ≤ g.2 + t.delay := by
  intro g inside
  have fewer : List.Sublist (before ++ after) (before ++ f :: after) :=
    (List.sublist_cons_self f after).append_left before
  exact guarded.fresh g (flies ▸ fewer.subset inside)

theorem guarded_beat (guarded : Guarded t w) {due : Nat}
    (next : w.now ≤ due ∧ due ≤ w.now + t.period) {sent : List (ι × Nat)}
    (all : ∀ i, i ≠ t.leader → (i, w.now) ∈ sent) (only : ∀ f ∈ sent, f.2 = w.now) :
    Guarded t { w with due := due, flying := w.flying ++ sent } where
  prompt := by dsimp only; omega
  planned := next.2
  fresh := by
    intro f flies
    rcases List.mem_append.mp flies with before | now
    · exact guarded.fresh f before
    · rw [only f now]
      exact Nat.le_add_right ..
  spared := guarded.spared
  covered := by
    intro i follows left balance
    have prompt := guarded.prompt
    have cover := guarded.covered i follows
    dsimp only at balance ⊢
    rw [timely, List.countP_append] at balance
    change _ = timely t w.deadline w.flying i + timely t w.deadline sent i + left at balance
    generalize more : timely t w.deadline sent i = m at balance
    cases m with
    | zero =>
      -- the beat itself would be too late
      have early := cover left (by omega)
      have some : 0 < timely t w.deadline sent i := timely_sent (all i follows) (by omega)
      omega
    | succ m =>
      have before := cover (m + left + 1) (by omega)
      have fewer : left * (t.period + t.slack) ≤ (m + left) * (t.period + t.slack) :=
        Nat.mul_le_mul_right _ (Nat.le_add_left ..)
      rw [Nat.succ_mul] at before
      omega

theorem guarded_receive (guarded : Guarded t w) (patient : ∀ i, i ≠ t.leader → Patient t i)
    {i : ι} {s deadline : Nat} {before after : List (ι × Nat)}
    (flies : w.flying = before ++ (i, s) :: after) (moved : w.now + t.patience i ≤ deadline) :
    Guarded t { w with
      flying := before ++ after
      spare := Function.update w.spare i t.losses
      deadline := Function.update w.deadline i deadline } where
  prompt := guarded.prompt
  planned := guarded.planned
  fresh := guarded.fresh_drop flies
  spared := by
    intro j
    by_cases here : j = i
    · simp [here]
    · simpa [here] using guarded.spared j
  covered := by
    intro j follows left balance
    dsimp only at balance ⊢
    by_cases here : j = i
    · subst here
      rw [Function.update_self] at balance ⊢
      have planned := guarded.planned
      have patience : (t.losses + 1) * (t.period + t.slack) + t.delay < t.patience j :=
        patient j follows
      have few : left * (t.period + t.slack) ≤ t.losses * (t.period + t.slack) :=
        Nat.mul_le_mul_right _ (by omega)
      rw [Nat.succ_mul] at patience
      omega
    · rw [Function.update_of_ne here] at balance ⊢
      refine guarded.covered j follows left (balance.trans ?_)
      rw [flies, timely_drop.2 (Ne.symm here)]
      simp [timely, here]

theorem guarded_lose (guarded : Guarded t w) {i : ι} {s rest : Nat}
    {before after : List (ι × Nat)} (flies : w.flying = before ++ (i, s) :: after)
    (spared : w.spare i = rest + 1) :
    Guarded t { w with flying := before ++ after, spare := Function.update w.spare i rest } where
  prompt := guarded.prompt
  planned := guarded.planned
  fresh := guarded.fresh_drop flies
  spared := by
    intro j
    by_cases here : j = i
    · subst here
      have := guarded.spared j
      simp only [Function.update_self]
      omega
    · simpa [here] using guarded.spared j
  covered := by
    intro j follows left balance
    dsimp only at balance ⊢
    have cover := guarded.covered j follows
    rw [flies] at cover
    by_cases here : j = i
    · subst here
      rw [Function.update_self] at balance
      have fewer : timely t w.deadline (before ++ (j, s) :: after) j ≤
          timely t w.deadline (before ++ after) j + 1 := timely_drop.1
      generalize timely t w.deadline (before ++ (j, s) :: after) j = m at cover fewer
      have enough := cover (rest + 1 - m) (by omega)
      have less : left * (t.period + t.slack) ≤ (rest + 1 - m) * (t.period + t.slack) :=
        Nat.mul_le_mul_right _ (by omega)
      omega
    · rw [Function.update_of_ne here] at balance
      exact cover left (balance.trans (by rw [timely_drop.2 (Ne.symm here)]))

theorem Guarded.step (guarded : Guarded t w) (patient : ∀ i, i ≠ t.leader → Patient t i)
    (step : Step t w v) : Guarded t v := by
  cases step with
  | wait d late arrives =>
    exact ⟨late, Nat.le_trans guarded.planned (by dsimp only; omega), arrives, guarded.spared,
      guarded.covered⟩
  | beat due next sent all only => exact guarded_beat guarded next all only
  | receive i s deadline before after flies moved =>
    exact guarded_receive guarded patient flies moved
  | lose i s rest before after flies spared => exact guarded_lose guarded flies spared

/-- The first beat, when none may be lost yet and nobody's deadline is near. -/
theorem guarded_first (due : w.now ≤ w.due ∧ w.due ≤ w.now + t.period)
    (all : ∀ i, i ≠ t.leader → (i, w.now) ∈ w.flying) (only : ∀ f ∈ w.flying, f.2 = w.now)
    (spare : ∀ i, w.spare i = 0) (early : ∀ i, i ≠ t.leader → w.now + t.delay < w.deadline i) :
    Guarded t w where
  prompt := by omega
  planned := due.2
  fresh := fun f flies => only f flies ▸ Nat.le_add_right ..
  spared := fun i => spare i ▸ Nat.zero_le _
  covered := by
    intro i follows left balance
    have := timely_sent (all i follows) (early i follows)
    have := spare i
    omega

end Watchdog
