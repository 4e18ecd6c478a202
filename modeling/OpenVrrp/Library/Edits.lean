import Mathlib.Data.Finset.Image

/-! Sequences of insertions and removals. What they leave is decided element by element by
the last edit that names it; the edits of the images under a function leave the image of the
result exactly when no last removal hits the image of something that is still there. -/
namespace Edits

structure Edit (α : Type*) where
  added : Bool
  target : α
  deriving DecidableEq

variable {α β γ : Type*} [DecidableEq α] [DecidableEq β]

def Edit.map (f : α → β) (e : Edit α) : Edit β := ⟨e.added, f e.target⟩

def apply (t : Finset α) (e : Edit α) : Finset α :=
  if e.added then insert e.target t else t.erase e.target

def after (t : Finset α) (edits : List (Edit α)) : Finset α := edits.foldl apply t

/-- Whether the last edit that names the element adds it. -/
def last (a : α) : List (Edit α) → Option Bool
  | [] => none
  | e :: rest => (last a rest).or (if e.target = a then some e.added else none)

theorem last_eq_none {a : α} {edits : List (Edit α)} :
    last a edits = none ↔ ∀ e ∈ edits, e.target ≠ a := by
  induction edits with
  | nil => simp [last]
  | cons e rest ih => simp [last, ih, and_comm]

theorem mem_after (t : Finset α) (edits : List (Edit α)) (a : α) :
    a ∈ after t edits ↔ last a edits = some true ∨ (last a edits = none ∧ a ∈ t) := by
  induction edits generalizing t with
  | nil => simp [after, last]
  | cons e rest ih =>
    rw [after, List.foldl_cons, ← after, ih, last]
    cases last a rest with
    | some added => simp
    | none =>
      simp only [apply, Option.none_or]
      by_cases same : e.target = a
      · cases e.added <;> simp [same]
      · cases e.added <;> simp [same, Ne.symm same]

theorem last_uniform (added : Bool) (as : List α) (a : α) :
    last a (as.map (Edit.mk added)) = if a ∈ as then some added else none := by
  induction as with
  | nil => simp [last]
  | cons b rest ih =>
    rw [List.map_cons, last, ih]
    by_cases later : a ∈ rest
    · simp [later]
    · by_cases same : b = a
      · simp [later, same]
      · simp [later, same, Ne.symm same]

theorem last_map_injective {f : α → β} (injective : Function.Injective f)
    (edits : List (Edit α)) (a : α) : last (f a) (edits.map (Edit.map f)) = last a edits := by
  induction edits with
  | nil => rfl
  | cons e rest ih => simp only [List.map_cons, last, ih, Edit.map, injective.eq_iff]

/-! ### A table that the edits write to -/

/-- Lookups in a table after the edits, each of which stores the value or deletes. -/
def overlay (table : α → Option γ) (value : γ) (edits : List (Edit α)) (a : α) : Option γ :=
  match last a edits with
  | some added => if added then some value else none
  | none => table a

theorem overlay_cons (table : α → Option γ) (value : γ) (e : Edit α) (rest : List (Edit α))
    (a : α) : overlay table value (e :: rest) a =
      overlay (fun b => if e.target = b then if e.added then some value else none else table b)
        value rest a := by
  simp only [overlay, last]
  cases last a rest with
  | some added => rfl
  | none => by_cases same : e.target = a <;> simp [same]

/-! ### Edits of images -/

section Image
variable (f : α → β) (t : Finset α) (edits : List (Edit α)) {b : β}

theorem last_map_true (added : last b (edits.map (Edit.map f)) = some true) :
    ∃ a, f a = b ∧ last a edits = some true := by
  induction edits with
  | nil => cases added
  | cons e rest ih =>
    rw [List.map_cons, last] at added
    cases later : last b (rest.map (Edit.map f)) with
    | some added' =>
      rw [later, Option.some_or] at added
      obtain ⟨a, image, found⟩ := ih (later.trans added)
      exact ⟨a, image, by rw [last, found, Option.some_or]⟩
    | none =>
      rw [later, Option.none_or] at added
      split at added
      · rename_i image
        refine ⟨e.target, image, ?_⟩
        have untouched : last e.target rest = none := by
          rw [last_eq_none] at later ⊢
          intro other inside same
          exact later _ (List.mem_map_of_mem inside) (by rw [Edit.map, same]; exact image)
        rw [last, untouched, Option.none_or, if_pos rfl]
        exact added
      · cases added

theorem mem_image_of_added (added : last b (edits.map (Edit.map f)) = some true) :
    b ∈ (after t edits).image f := by
  obtain ⟨a, image, found⟩ := last_map_true f edits added
  exact Finset.mem_image.mpr ⟨a, (mem_after t edits a).mpr (.inl found), image⟩

theorem mem_image_of_untouched (untouched : last b (edits.map (Edit.map f)) = none) :
    b ∈ (after t edits).image f ↔ b ∈ t.image f := by
  have kept : ∀ a, f a = b → (a ∈ after t edits ↔ a ∈ t) := by
    intro a image
    have same : last a edits = none := by
      rw [last_eq_none] at untouched ⊢
      exact fun e inside same => untouched _ (List.mem_map_of_mem inside)
        (by rw [Edit.map, same]; exact image)
    simp [mem_after, same]
  simp only [Finset.mem_image]
  exact exists_congr fun a => and_congr_left fun image => kept a image

/-- Editing the images agrees with the image of the edited set except at a last removal. -/
theorem image_after_iff : after (t.image f) (edits.map (Edit.map f)) = (after t edits).image f ↔
    ∀ b, last b (edits.map (Edit.map f)) = some false → b ∉ (after t edits).image f := by
  rw [Finset.ext_iff]
  apply forall_congr'
  intro b
  rw [mem_after]
  cases touched : last b (edits.map (Edit.map f)) with
  | none => simp [mem_image_of_untouched f t edits touched]
  | some added =>
    cases added with
    | true => simp [mem_image_of_added f t edits touched]
    | false => simp

end Image

end Edits
