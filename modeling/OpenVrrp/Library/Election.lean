import Mathlib.Data.Set.Finite.Lemmas
import Mathlib.Logic.Relation

/-! A ranked election in which everybody may claim the role at any time and a holder
gives way only to a candidate of higher rank that has held it. Nobody coordinates and
nothing is counted, and still the best of all that ever held the role holds it now. -/
namespace Election

variable {ι Rank : Type*} [LinearOrder Rank]

@[ext] structure Ballot (ι : Type*) where
  holds : Set ι
  held : Set ι

def start : Ballot ι := ⟨∅, ∅⟩

inductive Step (rank : ι → Rank) : Ballot ι → Ballot ι → Prop where
  | quiet (b : Ballot ι) : Step rank b b
  | claim (b : Ballot ι) (i : ι) : Step rank b ⟨insert i b.holds, insert i b.held⟩
  | giveWay (b : Ballot ι) (i j : ι) (was : j ∈ b.held) (outranked : rank i < rank j) :
      Step rank b ⟨b.holds \ {i}, b.held⟩

/-- One candidate acts, and what it gives up it gives up to a better one. -/
theorem step_of_actor {rank : ι → Rank} {b c : Ballot ι} (i : ι)
    (others : ∀ j, j ≠ i → (j ∈ c.holds ↔ j ∈ b.holds))
    (held : ∀ j, j ∈ c.held ↔ j ∈ b.held ∨ (j = i ∧ i ∈ c.holds))
    (leaves : i ∈ b.holds → i ∉ c.holds → ∃ j ∈ b.held, rank i < rank j) : Step rank b c := by
  by_cases holds : i ∈ c.holds
  · have claimed : c = ⟨insert i b.holds, insert i b.held⟩ := by
      ext j
      · by_cases self : j = i <;> simp [self, holds, others]
      · rw [held j, Set.mem_insert_iff]
        simp only [holds, and_true]
        exact or_comm
    rw [claimed]
    exact .claim b i
  · have same : c.held = b.held := by
      ext j
      rw [held j]
      simp only [holds, and_false, or_false]
    by_cases before : i ∈ b.holds
    · obtain ⟨j, was, higher⟩ := leaves before holds
      have gone : c = ⟨b.holds \ {i}, b.held⟩ := by
        ext j
        · by_cases self : j = i <;> simp [self, holds, others]
        · rw [same]
      rw [gone]
      exact .giveWay b i j was higher
    · have quiet : c = b := by
        ext j
        · by_cases self : j = i <;> simp [self, holds, before, others]
        · rw [same]
      rw [quiet]
      exact .quiet b

def Reachable (rank : ι → Rank) : Ballot ι → Prop := Relation.ReflTransGen (Step rank) start

/-- The role is with everybody who is unbeaten among those who ever held it. -/
def UnbeatenHold (rank : ι → Rank) (b : Ballot ι) : Prop :=
  ∀ i ∈ b.held, (∀ j ∈ b.held, rank j ≤ rank i) → i ∈ b.holds

theorem unbeatenHold_step {rank : ι → Rank} {b c : Ballot ι} (held : UnbeatenHold rank b)
    (step : Step rank b c) : UnbeatenHold rank c := by
  cases step with
  | quiet => exact held
  | claim k =>
    intro i candidate best
    rcases candidate with rfl | before
    · exact Set.mem_insert _ _
    · exact Set.mem_insert_of_mem _
        (held i before fun j earlier => best j (Set.mem_insert_of_mem _ earlier))
  | giveWay k j was outranked =>
    intro i candidate best
    refine ⟨held i candidate best, ?_⟩
    rintro rfl
    exact absurd (best j was) (not_le.mpr outranked)

theorem finite_step {rank : ι → Rank} {b c : Ballot ι} (finite : b.held.Finite)
    (step : Step rank b c) : c.held.Finite := by
  cases step with
  | quiet | giveWay => exact finite
  | claim k => exact finite.insert k

theorem unbeatenHold_reachable {rank : ι → Rank} {b : Ballot ι} (reached : Reachable rank b) :
    UnbeatenHold rank b := by
  induction reached with
  | refl => exact fun i none => absurd none (Set.notMem_empty i)
  | tail _ step ih => exact unbeatenHold_step ih step

theorem finite_reachable {rank : ι → Rank} {b : Ballot ι} (reached : Reachable rank b) :
    b.held.Finite := by
  induction reached with
  | refl => exact Set.finite_empty
  | tail _ step ih => exact finite_step ih step

theorem best_holds {rank : ι → Rank} {b : Ballot ι} (reached : Reachable rank b)
    (some : b.held.Nonempty) : ∃ i ∈ b.held, i ∈ b.holds ∧ ∀ j ∈ b.held, rank j ≤ rank i := by
  obtain ⟨i, candidate, best⟩ :=
    Set.exists_max_image b.held rank (finite_reachable reached) some
  exact ⟨i, candidate, unbeatenHold_reachable reached i candidate best, best⟩

/-- A system whose every step is matched by a step of the election runs as one. -/
theorem simulates {S : Type*} {step : S → S → Prop} {inv : S → Prop} {rank : ι → Rank}
    (abs : S → Ballot ι) (keeps : ∀ s t, inv s → step s t → inv t)
    (matched : ∀ s t, inv s → step s t → Step rank (abs s) (abs t)) {s t : S}
    (initially : abs s = start) (first : inv s) (run : Relation.ReflTransGen step s t) :
    inv t ∧ Reachable rank (abs t) := by
  induction run with
  | refl => exact ⟨first, by rw [initially]; exact .refl⟩
  | tail _ last ih => exact ⟨keeps _ _ ih.1 last, ih.2.tail (matched _ _ ih.1 last)⟩

/-- As `simulates`, where a step of the system is any number of steps of the election. -/
theorem simulates_runs {S : Type*} {step : S → S → Prop} {inv : S → Prop} {rank : ι → Rank}
    (abs : S → Ballot ι) (keeps : ∀ s t, inv s → step s t → inv t)
    (matched : ∀ s t, inv s → step s t → Relation.ReflTransGen (Step rank) (abs s) (abs t))
    {s t : S} (initially : abs s = start) (first : inv s) (run : Relation.ReflTransGen step s t) :
    inv t ∧ Reachable rank (abs t) := by
  induction run with
  | refl => exact ⟨first, by rw [initially]; exact .refl⟩
  | tail _ last ih => exact ⟨keeps _ _ ih.1 last, ih.2.trans (matched _ _ ih.1 last)⟩

end Election
