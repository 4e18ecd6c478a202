import Mathlib.Data.List.Basic
import Mathlib.Tactic.Common

/-! Byte memory as a function of the index, with the block operations of the C library.
Bounds are the caller's: an operation here never fails. -/
namespace Memory

abbrev Cells := Nat → UInt8

def slice (m : Cells) (offset count : Nat) : List UInt8 :=
  (List.range count).map fun i => m (offset + i)

def store (m : Cells) (offset : Nat) (bytes : List UInt8) : Cells := fun i =>
  if offset ≤ i then (bytes[i - offset]?).getD (m i) else m i

/-- `memmove`: the ranges may overlap. -/
def move (m : Cells) (target source count : Nat) : Cells := fun i =>
  if target ≤ i ∧ i < target + count then m (source + (i - target)) else m i

/-- `memchr`: the index of the first such byte among `count` bytes from `offset`. -/
def find (m : Cells) (byte : UInt8) (offset : Nat) : Nat → Option Nat
  | 0 => none
  | count + 1 => if m offset = byte then some offset else find m byte (offset + 1) count

@[simp] theorem slice_length (m : Cells) (offset count : Nat) :
    (slice m offset count).length = count := by simp [slice]

theorem slice_getElem? (m : Cells) (offset count i : Nat) (inside : i < count) :
    (slice m offset count)[i]? = some (m (offset + i)) := by
  simp [slice, inside]

theorem slice_succ (m : Cells) (offset count : Nat) :
    slice m offset (count + 1) = m offset :: slice m (offset + 1) count := by
  simp only [slice, List.range_succ_eq_map, List.map_cons, List.map_map, Nat.add_zero]
  congr 1
  apply List.map_congr_left
  intro i _
  simp only [Function.comp_apply]
  congr 1
  omega

theorem slice_add (m : Cells) (offset a b : Nat) :
    slice m offset (a + b) = slice m offset a ++ slice m (offset + a) b := by
  simp only [slice, List.range_add, List.map_append, List.map_map]
  congr 1
  apply List.map_congr_left
  intro i _
  simp only [Function.comp_apply, Nat.add_assoc]

theorem slice_congr {m n : Cells} {offset count : Nat}
    (agree : ∀ i, offset ≤ i → i < offset + count → m i = n i) :
    slice m offset count = slice n offset count := by
  apply List.map_congr_left
  intro i inside
  rw [List.mem_range] at inside
  exact agree _ (by omega) (by omega)

theorem slice_relocate {m n : Cells} {p q count : Nat}
    (same : ∀ i < count, m (p + i) = n (q + i)) : slice m p count = slice n q count :=
  List.map_congr_left fun i inside => same i (List.mem_range.mp inside)

theorem slice_at {m n : Cells} {p q count : Nat} (same : slice m p count = slice n q count) :
    ∀ i < count, m (p + i) = n (q + i) := by
  intro i inside
  have first := slice_getElem? m p count i inside
  rw [same, slice_getElem? n q count i inside] at first
  exact (Option.some.inj first).symm

theorem store_inside (m : Cells) (offset : Nat) (bytes : List UInt8) (i : Nat)
    (inside : i < bytes.length) : store m offset bytes (offset + i) = bytes[i] := by
  simp [store, inside]

theorem store_before (m : Cells) (offset : Nat) (bytes : List UInt8) {i : Nat}
    (before : i < offset) : store m offset bytes i = m i := by
  simp [store, Nat.not_le.mpr before]

theorem store_behind (m : Cells) (offset : Nat) (bytes : List UInt8) {i : Nat}
    (behind : offset + bytes.length ≤ i) : store m offset bytes i = m i := by
  have none_there : bytes[i - offset]? = none := List.getElem?_eq_none (by omega)
  simp [store, none_there]

theorem slice_store (m : Cells) (offset : Nat) (bytes : List UInt8) :
    slice (store m offset bytes) offset bytes.length = bytes := by
  apply List.ext_getElem
  · simp
  · intro i _ inside
    simp only [slice, List.getElem_map, List.getElem_range]
    exact store_inside m offset bytes i inside

theorem slice_store_append (m : Cells) (count : Nat) (bytes : List UInt8) :
    slice (store m count bytes) 0 (count + bytes.length) = slice m 0 count ++ bytes := by
  rw [slice_add, Nat.zero_add, slice_store]
  congr 1
  exact slice_congr fun i _ inside => store_before m count bytes (by omega)

theorem slice_store_inside (m : Cells) (count : Nat) (bytes : List UInt8) (rest : Nat) :
    slice (store m count bytes) 0 (count + bytes.length + rest) =
      slice m 0 count ++ bytes ++ slice m (count + bytes.length) rest := by
  rw [slice_add, slice_store_append, Nat.zero_add]
  congr 1
  exact slice_congr fun i behind _ => store_behind m count bytes behind

theorem slice_prefix {m : Cells} {offset count : Nat} {front back : List UInt8}
    (split : slice m offset count = front ++ back) (i : Nat) (inside : i < front.length) :
    m (offset + i) = front[i] := by
  have size := congrArg List.length split
  rw [slice_length, List.length_append] at size
  have here := slice_getElem? m offset count i (by omega)
  rw [split, List.getElem?_append_left inside, List.getElem?_eq_getElem inside,
    Option.some.injEq] at here
  exact here.symm

theorem slice_suffix {m : Cells} {offset count : Nat} {front back : List UInt8}
    (split : slice m offset count = front ++ back) :
    slice m (offset + front.length) back.length = back := by
  have size := congrArg List.length split
  rw [slice_length, List.length_append] at size
  rw [size, slice_add] at split
  exact List.append_inj_right split (slice_length _ _ _)

theorem slice_middle {m : Cells} {offset count : Nat} {front bytes back : List UInt8}
    (split : slice m offset count = front ++ (bytes ++ back)) :
    slice m (offset + front.length) bytes.length = bytes := by
  have size := congrArg List.length split
  simp only [slice_length, List.length_append] at size
  rw [size, slice_add] at split
  have later := List.append_inj_right split (slice_length _ _ _)
  rw [slice_add] at later
  exact List.append_inj_left later (slice_length _ _ _)

/-- Storing over a part of a slice replaces that part and nothing else. -/
theorem slice_replace {m : Cells} {count : Nat} {front old back bytes : List UInt8}
    (split : slice m 0 count = front ++ (old ++ back)) (same : bytes.length = old.length) :
    slice (store m front.length bytes) 0 count = front ++ (bytes ++ back) := by
  have size := congrArg List.length split
  simp only [slice_length, List.length_append] at size
  have whole : count = front.length + bytes.length + back.length := by omega
  have start : slice m 0 front.length = front := by
    have parts := split
    rw [size, slice_add] at parts
    exact List.append_inj_left parts (slice_length _ _ _)
  have behind : slice m (front.length + bytes.length) back.length = back := by
    rw [← List.append_assoc] at split
    have last := slice_suffix split
    rwa [List.length_append, ← same, Nat.zero_add] at last
  rw [whole, slice_store_inside, start, behind, List.append_assoc]

theorem find_none {m : Cells} {byte : UInt8} {offset count : Nat}
    (absent : byte ∉ slice m offset count) : find m byte offset count = none := by
  induction count generalizing offset with
  | zero => rfl
  | succ count ih =>
    rw [slice_succ] at absent
    have other : m offset ≠ byte := fun same => absent (by simp [same])
    rw [find, if_neg other]
    exact ih fun inside => absent (by simp [inside])

theorem find_first {m : Cells} {byte : UInt8} {offset count : Nat} {before after : List UInt8}
    (clean : byte ∉ before) (split : slice m offset count = before ++ byte :: after) :
    find m byte offset count = some (offset + before.length) := by
  induction before generalizing offset count with
  | nil =>
    cases count with
    | zero => cases split
    | succ count =>
      rw [slice_succ, List.nil_append, List.cons.injEq] at split
      simp [find, split.1]
  | cons a more ih =>
    cases count with
    | zero => cases split
    | succ count =>
      rw [slice_succ, List.cons_append, List.cons.injEq] at split
      have other : m offset ≠ byte := fun same => clean (by simp [← split.1, same])
      rw [find, if_neg other, ih (fun inside => clean (by simp [inside])) split.2]
      simp only [List.length_cons, Option.some.injEq]
      omega

end Memory
