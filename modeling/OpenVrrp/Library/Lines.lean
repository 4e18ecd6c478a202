import Mathlib.Algebra.Ring.Nat
import Mathlib.Data.List.Basic
import Mathlib.Tactic.Common

/-! A stream cut into lines at a delimiter: the finished lines and what is left over.
Cutting a stream in pieces and carrying the left over to the next piece changes nothing. -/
namespace Lines

variable {α : Type*} [DecidableEq α] (delimiter : α)

/-- The finished lines, without their delimiter, and what follows the last of them. -/
def split : List α → List (List α) × List α
  | [] => ([], [])
  | a :: rest =>
    let (lines, left) := split rest
    if a = delimiter then ([] :: lines, left)
    else match lines with
      | [] => ([], a :: left)
      | line :: more => ((a :: line) :: more, left)

theorem split_open {xs : List α} (unfinished : delimiter ∉ xs) :
    split delimiter xs = ([], xs) := by
  induction xs with
  | nil => rfl
  | cons a rest ih =>
    have other : a ≠ delimiter := fun same => unfinished (by simp [same])
    have tail : delimiter ∉ rest := fun inside => unfinished (by simp [inside])
    simp only [split, ih tail, if_neg other]

theorem split_line {body : List α} (clean : delimiter ∉ body) (rest : List α) :
    split delimiter (body ++ delimiter :: rest) =
      (body :: (split delimiter rest).1, (split delimiter rest).2) := by
  induction body with
  | nil => simp [split]
  | cons a more ih =>
    have other : a ≠ delimiter := fun same => clean (by simp [same])
    have tail : delimiter ∉ more := fun inside => clean (by simp [inside])
    simp only [List.cons_append, split, ih tail, if_neg other]

theorem left_open (xs : List α) : delimiter ∉ (split delimiter xs).2 := by
  induction xs with
  | nil => simp [split]
  | cons a rest ih =>
    simp only [split]
    split
    · exact ih
    · rename_i other
      split
      · simp only [List.mem_cons, not_or]
        exact ⟨fun same => other same.symm, ih⟩
      · exact ih

theorem open_or_line (xs : List α) : delimiter ∉ xs ∨
    ∃ body rest, delimiter ∉ body ∧ xs = body ++ delimiter :: rest := by
  induction xs with
  | nil => exact .inl (by simp)
  | cons a more ih =>
    by_cases same : a = delimiter
    · exact .inr ⟨[], more, by simp, by simp [same]⟩
    · rcases ih with unfinished | ⟨body, rest, clean, rfl⟩
      · exact .inl (by simp [Ne.symm same, unfinished])
      · exact .inr ⟨a :: body, rest, by simp [Ne.symm same, clean], rfl⟩

/-- Splitting goes on from what the first part left over. -/
theorem split_append (xs ys : List α) : split delimiter (xs ++ ys) =
    ((split delimiter xs).1 ++ (split delimiter ((split delimiter xs).2 ++ ys)).1,
      (split delimiter ((split delimiter xs).2 ++ ys)).2) := by
  induction xs with
  | nil => simp [split]
  | cons a rest ih =>
    by_cases same : a = delimiter
    · simp only [List.cons_append, split, same, if_true, ih]
    · simp only [List.cons_append, split, if_neg same, ih]
      cases lines : (split delimiter rest).1 with
      | nil => simp only [List.nil_append, List.cons_append, split, if_neg same]
      | cons line more => simp only [List.cons_append]

theorem split_append_open (xs : List α) {ys : List α} (unfinished : delimiter ∉ ys) :
    split delimiter (xs ++ ys) = ((split delimiter xs).1, (split delimiter xs).2 ++ ys) := by
  have tail : delimiter ∉ (split delimiter xs).2 ++ ys := by simp [unfinished, left_open]
  rw [split_append, split_open delimiter tail, List.append_nil]

theorem split_append_line (xs : List α) {body : List α} (clean : delimiter ∉ body)
    (rest : List α) : split delimiter (xs ++ (body ++ delimiter :: rest)) =
      ((split delimiter xs).1 ++ ((split delimiter xs).2 ++ body) :: (split delimiter rest).1,
        (split delimiter rest).2) := by
  have tail : delimiter ∉ (split delimiter xs).2 ++ body := by simp [clean, left_open]
  rw [split_append, ← List.append_assoc, split_line delimiter tail]

theorem split_length (xs : List α) :
    ((split delimiter xs).1.map fun line => line.length + 1).sum +
      (split delimiter xs).2.length = xs.length := by
  induction xs with
  | nil => rfl
  | cons a rest ih =>
    simp only [split]
    split
    · simp only [List.map_cons, List.sum_cons, List.length_nil, List.length_cons]
      omega
    · cases lines : (split delimiter rest).1 with
      | nil =>
        rw [lines] at ih
        simp only [List.length_cons, List.map_nil, List.sum_nil] at ih ⊢
        omega
      | cons line more =>
        rw [lines] at ih
        simp only [List.map_cons, List.sum_cons, List.length_cons] at ih ⊢
        omega

/-- A line with its delimiter. -/
def Terminated (line : List α) : Prop := ∃ body, delimiter ∉ body ∧ line = body ++ [delimiter]

variable {delimiter} in
theorem Terminated.inj {line other rest more : List α} (first : Terminated delimiter line)
    (second : Terminated delimiter other) (same : line ++ rest = other ++ more) :
    line = other ∧ rest = more := by
  obtain ⟨body, clean, rfl⟩ := first
  obtain ⟨text, pure, rfl⟩ := second
  simp only [List.append_assoc, List.singleton_append] at same
  have lines := congrArg (fun xs => (split delimiter xs).1.head?) same
  simp only [split_line delimiter clean, split_line delimiter pure, List.head?_cons] at lines
  obtain rfl := Option.some.inj lines
  exact ⟨rfl, (List.cons.inj (List.append_cancel_left same)).2⟩

theorem split_flatten {lines : List (List α)} (terminated : ∀ line ∈ lines,
    Terminated delimiter line) : split delimiter lines.flatten = (lines.map List.dropLast, []) := by
  induction lines with
  | nil => rfl
  | cons line rest ih =>
    obtain ⟨body, clean, rfl⟩ := terminated line List.mem_cons_self
    have others := ih fun other inside => terminated other (List.mem_cons_of_mem _ inside)
    rw [List.flatten_cons, List.append_assoc, List.singleton_append, split_line delimiter clean,
      others, List.map_cons, List.dropLast_concat]

/-- Lines of blocks that each end with an empty line. -/
theorem split_blocks {blocks : List (List (List α))} (closed : ∀ block ∈ blocks,
    Terminated [delimiter] block ∧ ∀ line ∈ block, Terminated delimiter line) :
    split [] (split delimiter blocks.flatten.flatten).1 =
      (blocks.map fun block => (block.map List.dropLast).dropLast, []) := by
  have lines : ∀ line ∈ blocks.flatten, Terminated delimiter line := by
    intro line inside
    obtain ⟨block, there, within⟩ := List.mem_flatten.mp inside
    exact (closed block there).2 line within
  have ends : ∀ block ∈ blocks.map (List.map List.dropLast), Terminated [] block := by
    intro block inside
    obtain ⟨block, there, rfl⟩ := List.mem_map.mp inside
    obtain ⟨⟨body, clean, rfl⟩, each⟩ := closed block there
    refine ⟨body.map List.dropLast, fun empty => ?_, by rw [List.map_append]; rfl⟩
    obtain ⟨line, within, same⟩ := List.mem_map.mp empty
    obtain ⟨text, _, rfl⟩ := each line (List.mem_append_left _ within)
    rw [List.dropLast_concat] at same
    subst same
    exact clean within
  rw [split_flatten delimiter lines]
  dsimp only
  rw [List.map_flatten, split_flatten [] ends, List.map_map]
  rfl

variable {delimiter} in
/-- The stream determines its lines. -/
theorem flatten_inj {lines others : List (List α)}
    (first : ∀ line ∈ lines, Terminated delimiter line)
    (second : ∀ line ∈ others, Terminated delimiter line)
    (same : lines.flatten = others.flatten) : lines = others := by
  have finished : ∀ {line : List α}, Terminated delimiter line → ∀ rest, line ++ rest ≠ [] := by
    rintro _ ⟨body, _, rfl⟩ rest none
    simp at none
  induction lines generalizing others with
  | nil =>
    cases others with
    | nil => rfl
    | cons other more => exact absurd same.symm (finished (second other List.mem_cons_self) _)
  | cons line rest ih =>
    cases others with
    | nil => exact absurd same (finished (first line List.mem_cons_self) _)
    | cons other more =>
      obtain ⟨here, behind⟩ :=
        (first line List.mem_cons_self).inj (second other List.mem_cons_self) same
      rw [here, ih (fun x inside => first x (List.mem_cons_of_mem _ inside))
        (fun x inside => second x (List.mem_cons_of_mem _ inside)) behind]

end Lines
