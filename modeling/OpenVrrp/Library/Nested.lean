import Mathlib.Data.Finset.Card
import Mathlib.Data.Finset.Dedup
import Mathlib.Data.Finset.Insert
import Mathlib.Data.Finset.Erase
import Mathlib.Data.List.Sort

/-! Maps of maps over ordered keys, as a registry keeps them: an inner map is made for its
first entry and goes with its last one. -/
namespace Nested

variable {α β γ : Type*} [Ord α] [Ord β]

abbrev Registry (α β γ : Type*) [Ord α] [Ord β] := Std.TreeMap α (Std.TreeMap β γ)

section Laws
variable [Std.TransOrd α]

/-! ### The lookup laws of one map, by whether the keys are equal -/

theorem insert_self (m : Std.TreeMap α γ) (a : α) (c : γ) : (m.insert a c)[a]? = some c :=
  Std.TreeMap.getElem?_insert_self

theorem insert_other [Std.LawfulEqOrd α] (m : Std.TreeMap α γ) {a b : α} (c : γ) (other : a ≠ b) :
    (m.insert a c)[b]? = m[b]? := by
  rw [Std.TreeMap.getElem?_insert, if_neg (by rwa [Std.LawfulEqOrd.compare_eq_iff_eq])]

theorem erase_self (m : Std.TreeMap α γ) (a : α) : (m.erase a)[a]? = none :=
  Std.TreeMap.getElem?_erase_self

theorem erase_other [Std.LawfulEqOrd α] (m : Std.TreeMap α γ) {a b : α} (other : a ≠ b) :
    (m.erase a)[b]? = m[b]? := by
  rw [Std.TreeMap.getElem?_erase, if_neg (by rwa [Std.LawfulEqOrd.compare_eq_iff_eq])]

theorem insert_eq_some [Std.LawfulEqOrd α] {m : Std.TreeMap α γ} {a b : α} {c d : γ} :
    (m.insert a c)[b]? = some d ↔ a = b ∧ c = d ∨ a ≠ b ∧ m[b]? = some d := by
  by_cases same : a = b
  · simp [same]
  · simp [same, insert_other _ _ same]

theorem erase_eq_some [Std.LawfulEqOrd α] {m : Std.TreeMap α γ} {a b : α} {c : γ} :
    (m.erase a)[b]? = some c ↔ a ≠ b ∧ m[b]? = some c := by
  by_cases same : a = b
  · simp [same]
  · simp [same, erase_other _ same]

theorem erase_all_eq_some [Std.LawfulEqOrd α] {as : List α} {m : Std.TreeMap α γ} {b : α}
    {c : γ} : (as.foldl (·.erase ·) m)[b]? = some c ↔ b ∉ as ∧ m[b]? = some c := by
  induction as generalizing m with
  | nil => simp
  | cons a rest ih =>
    rw [List.foldl_cons, ih, erase_eq_some, List.mem_cons, not_or, and_left_comm, and_assoc,
      ne_comm]

/-! ### A map by its size -/

theorem getElem?_of_size_zero {m : Std.TreeMap α γ} (empty : m.size = 0) (a : α) :
    m[a]? = none := by
  have none : m.isEmpty := by simpa [Std.TreeMap.isEmpty_eq_size_eq_zero] using empty
  exact Std.TreeMap.getElem?_of_isEmpty none

theorem exists_of_size_ne_zero [Std.LawfulEqOrd α] {m : Std.TreeMap α γ} (filled : m.size ≠ 0) :
    ∃ (a : α) (c : γ), m[a]? = some c := by
  have entries : m.toList ≠ [] := by
    intro empty
    rw [← Std.TreeMap.length_toList, empty] at filled
    exact filled rfl
  obtain ⟨entry, inside⟩ := List.exists_mem_of_ne_nil _ entries
  exact ⟨entry.1, entry.2, Std.TreeMap.mem_toList_iff_getElem?_eq_some.mp inside⟩

/-- A map that differs from another one at one key has one entry more at most. -/
theorem size_le_of_apart [Std.LawfulEqOrd α] {m t : Std.TreeMap α γ} {a : α}
    (same : ∀ b : α, a ≠ b → t[b]? = m[b]?) : t.size ≤ m.size + 1 := by
  have erased : (t.erase a).size = (m.erase a).size := by
    refine Std.TreeMap.Equiv.size_eq (Std.TreeMap.Equiv.of_forall_constGet?_eq fun b => ?_)
    by_cases here : a = b
    · rw [← here, erase_self, erase_self]
    · rw [erase_other _ here, erase_other _ here, same b here]
  have more : t.size ≤ (t.erase a).size + 1 := Std.TreeMap.size_le_size_erase
  have fewer : (m.erase a).size ≤ m.size := Std.TreeMap.size_erase_le
  omega

/-- Maps whose entries look the same are traversed the same way. -/
theorem map_toList_eq [Std.LawfulEqOrd α] {δ : Type*} {m t : Std.TreeMap α γ} {f : γ → δ}
    (same : ∀ a : α, m[a]?.map f = t[a]?.map f) :
    m.toList.map (fun p => (p.1, f p.2)) = t.toList.map (fun p => (p.1, f p.2)) := by
  have equiv : (m.map fun _ => f).Equiv (t.map fun _ => f) := by
    refine Std.TreeMap.Equiv.of_forall_constGet?_eq fun a => ?_
    rw [Std.TreeMap.getElem?_map, Std.TreeMap.getElem?_map]
    exact same a
  have lists := equiv.toList_eq
  rwa [Std.TreeMap.toList_map, Std.TreeMap.toList_map] at lists

/-! ### How many entries pass a test -/

section Counting
variable [Std.LawfulEqOrd α] [DecidableEq α] (p : α × γ → Bool) {m : Std.TreeMap α γ} {a : α}
  {c : γ}

theorem countP_insert (absent : m[a]? = none) :
    (m.insert a c).toList.countP p = m.toList.countP p + (if p (a, c) then 1 else 0) := by
  have others : m.toList.filter (fun e => decide ¬(a == e.1) = true) = m.toList := by
    rw [List.filter_eq_self]
    intro e inside
    have stored := Std.TreeMap.mem_toList_iff_getElem?_eq_some.mp inside
    have other : a ≠ e.1 := fun same => by rw [← same, absent] at stored; cases stored
    simpa using other
  rw [Std.TreeMap.toList_insert_perm.countP_eq, others, List.countP_cons]

theorem countP_erase (stored : m[a]? = some c) :
    m.toList.countP p = (m.erase a).toList.countP p + (if p (a, c) then 1 else 0) := by
  rw [← countP_insert p (erase_self m a)]
  refine (Std.TreeMap.equiv_iff_toList_perm.mp ?_).countP_eq p
  refine Std.TreeMap.Equiv.of_forall_constGet?_eq fun b => ?_
  by_cases same : a = b
  · rw [← same, stored, insert_self]
  · rw [insert_other _ _ same, erase_other _ same]

variable [DecidableEq γ]

omit [DecidableEq α] in
theorem count_value_absent (absent : ∀ b : α, m[b]? ≠ some c) :
    m.toList.countP (fun e => decide (e.2 = c)) = 0 := by
  rw [List.countP_eq_zero]
  intro e inside same
  have stored := Std.TreeMap.mem_toList_iff_getElem?_eq_some.mp inside
  exact absent e.1 (stored.trans (congrArg some (of_decide_eq_true same)))

/-- A value that is stored under one key only is one entry. -/
theorem count_value_once (stored : m[a]? = some c) (once : ∀ b : α, m[b]? = some c → b = a) :
    m.toList.countP (fun e => decide (e.2 = c)) = 1 := by
  have gone : ∀ b : α, (m.erase a)[b]? ≠ some c := by
    intro b still
    by_cases same : a = b
    · rw [← same, erase_self] at still
      cases still
    · rw [erase_other _ same] at still
      exact same (once b still).symm
  rw [countP_erase _ stored, count_value_absent gone, if_pos (decide_eq_true rfl)]

end Counting

end Laws

/-! ### A set from the list of its elements -/

section Sets
variable [Std.TransOrd α] [Std.LawfulEqOrd α]

theorem mem_foldl_insert (as : List α) (t : Std.TreeSet α) (a : α) :
    a ∈ as.foldl (·.insert ·) t ↔ a ∈ as ∨ a ∈ t := by
  induction as generalizing t with
  | nil => simp
  | cons b rest ih =>
    rw [List.foldl_cons, ih, Std.TreeSet.mem_insert, Std.LawfulEqOrd.compare_eq_iff_eq,
      List.mem_cons]
    constructor
    · rintro (inside | same | inside)
      · exact .inl (.inr inside)
      · exact .inl (.inl same.symm)
      · exact .inr inside
    · rintro ((same | inside) | inside)
      · exact .inr (.inl same.symm)
      · exact .inl inside
      · exact .inr (.inr inside)

theorem foldl_insert_toList (t : Std.TreeSet α) :
    (t.toList.foldl (·.insert ·) (∅ : Std.TreeSet α)).toList = t.toList := by
  refine Std.TreeSet.equiv_iff_toList_eq.mp (Std.TreeSet.equiv_iff_forall_mem_iff.mpr fun a => ?_)
  rw [mem_foldl_insert, Std.TreeSet.mem_toList]
  simp

theorem size_foldl_insert {as : List α} (distinct : as.Nodup) {t : Std.TreeSet α}
    (new : ∀ a ∈ as, a ∉ t) : (as.foldl (·.insert ·) t).size = t.size + as.length := by
  induction as generalizing t with
  | nil => rfl
  | cons a rest ih =>
    obtain ⟨unique, distinct⟩ := List.nodup_cons.mp distinct
    have fresh : t.contains a = false := by
      rw [← Bool.not_eq_true, Std.TreeSet.contains_iff_mem]
      exact new a List.mem_cons_self
    rw [List.foldl_cons, ih distinct, Std.TreeSet.size_insert, fresh, if_neg Bool.false_ne_true,
      List.length_cons]
    · omega
    · intro b inside already
      rw [Std.TreeSet.mem_insert, Std.LawfulEqOrd.compare_eq_iff_eq] at already
      rcases already with rfl | already
      · exact unique inside
      · exact new b (List.mem_cons_of_mem a inside) already

variable [DecidableEq α]

theorem insert_toFinset (t : Std.TreeSet α) (a : α) :
    (t.insert a).toList.toFinset = insert a t.toList.toFinset := by
  ext b
  simp only [List.mem_toFinset, Std.TreeSet.mem_toList, Std.TreeSet.mem_insert,
    Std.LawfulEqOrd.compare_eq_iff_eq, Finset.mem_insert, @eq_comm _ a]

theorem erase_toFinset (t : Std.TreeSet α) (a : α) :
    (t.erase a).toList.toFinset = t.toList.toFinset.erase a := by
  ext b
  simp only [List.mem_toFinset, Std.TreeSet.mem_toList, Std.TreeSet.mem_erase, ne_eq,
    Std.LawfulEqOrd.compare_eq_iff_eq, Finset.mem_erase, @eq_comm _ a]

omit [Std.LawfulEqOrd α] [DecidableEq α] in
theorem size_foldl_insert_le (as : List α) (t : Std.TreeSet α) :
    (as.foldl (·.insert ·) t).size ≤ t.size + as.length := by
  induction as generalizing t with
  | nil => exact Nat.le_refl _
  | cons a rest ih =>
    have first : (t.insert a).size ≤ t.size + 1 := Std.TreeSet.size_insert_le
    have later := ih (t.insert a)
    rw [List.foldl_cons, List.length_cons]
    omega

theorem card_toFinset (t : Std.TreeSet α) : t.toList.toFinset.card = t.size := by
  rw [List.toFinset_card_of_nodup, Std.TreeSet.length_toList]
  exact Std.TreeSet.distinct_toList.imp fun apart same => apart (by simp [same])

theorem set_toList_eq {s t : Std.TreeSet α} (same : s.toList.toFinset = t.toList.toFinset) :
    s.toList = t.toList := by
  refine Std.TreeSet.equiv_iff_toList_eq.mp (Std.TreeSet.equiv_iff_forall_mem_iff.mpr fun a => ?_)
  rw [← Std.TreeSet.mem_toList, ← List.mem_toFinset, same, List.mem_toFinset,
    Std.TreeSet.mem_toList]

end Sets

/-! ### The registry -/

def find (m : Registry α β γ) (a : α) (b : β) : Option γ := m[a]?.bind fun inner => inner[b]?

def put (m : Registry α β γ) (a : α) (b : β) (c : γ) : Registry α β γ :=
  m.insert a ((m[a]?.getD ∅).insert b c)

/-- Erase the entry, and the inner map with its last entry. -/
def drop (m : Registry α β γ) (a : α) (b : β) : Registry α β γ :=
  match m[a]? with
  | none => m
  | some inner =>
    if (inner.erase b).size = 0 then m.erase a else m.insert a (inner.erase b)

/-- No inner map is empty. -/
def Occupied (m : Registry α β γ) : Prop :=
  ∀ (a : α) (inner : Std.TreeMap β γ), m[a]? = some inner → ∃ (b : β) (c : γ), inner[b]? = some c

theorem occupied_iff_find {m : Registry α β γ} (occupied : Occupied m) (a : α) :
    m[a]?.isSome ↔ ∃ b c, find m a b = some c := by
  unfold find
  cases found : m[a]? with
  | none => simp
  | some inner => simpa using occupied a inner found

section Laws
variable [Std.TransOrd α] [Std.TransOrd β]

theorem find_put_self (m : Registry α β γ) (a : α) (b : β) (c : γ) :
    find (put m a b c) a b = some c := by
  simp only [find, put, insert_self, Option.bind_some]

theorem find_drop_self (m : Registry α β γ) (a : α) (b : β) : find (drop m a b) a b = none := by
  unfold find drop
  cases found : m[a]? with
  | none => simp only [found, Option.bind_none]
  | some inner =>
    dsimp only
    split
    · rw [erase_self, Option.bind_none]
    · rw [insert_self, Option.bind_some, erase_self]

variable [Std.LawfulEqOrd α] [Std.LawfulEqOrd β]

theorem find_put_other (m : Registry α β γ) {a a' : α} {b b' : β} (c : γ)
    (other : a = a' → b ≠ b') : find (put m a b c) a' b' = find m a' b' := by
  unfold find put
  by_cases same : a = a'
  · subst same
    rw [insert_self, Option.bind_some, insert_other _ c (other rfl)]
    cases m[a]? with
    | none => simp
    | some inner => rfl
  · rw [insert_other _ _ same]

theorem find_drop_other (m : Registry α β γ) {a a' : α} {b b' : β} (other : a = a' → b ≠ b') :
    find (drop m a b) a' b' = find m a' b' := by
  unfold find drop
  cases found : m[a]? with
  | none => rfl
  | some inner =>
    dsimp only
    by_cases same : a = a'
    · subst same
      have kept := erase_other inner (other rfl)
      split
      · rename_i last
        rw [erase_self, Option.bind_none, found, Option.bind_some, ← kept,
          getElem?_of_size_zero last]
      · rw [insert_self, Option.bind_some, kept, found, Option.bind_some]
    · split
      · rw [erase_other _ same]
      · rw [insert_other _ _ same]

theorem drop_eq_of_find_none (m : Registry α β γ) {a a' : α} {b b' : β}
    (absent : find m a b = none) : find (drop m a b) a' b' = find m a' b' := by
  by_cases same : a = a' ∧ b = b'
  · obtain ⟨rfl, rfl⟩ := same
    rw [find_drop_self, absent]
  · exact find_drop_other m fun outer inner => same ⟨outer, inner⟩

/-! ### No empty inner maps -/

omit [Std.LawfulEqOrd β] in
theorem occupied_put {m : Registry α β γ} (occupied : Occupied m) (a : α) (b : β) (c : γ) :
    Occupied (put m a b c) := by
  intro a' inner stored
  by_cases same : a = a'
  · subst same
    rw [put, insert_self, Option.some.injEq] at stored
    exact ⟨b, c, stored ▸ insert_self _ b c⟩
  · rw [put, insert_other _ _ same] at stored
    exact occupied a' inner stored

theorem occupied_drop {m : Registry α β γ} (occupied : Occupied m) (a : α) (b : β) :
    Occupied (drop m a b) := by
  intro a' inner stored
  unfold drop at stored
  cases found : m[a]? with
  | none =>
    rw [found] at stored
    exact occupied a' inner stored
  | some before =>
    simp only [found] at stored
    by_cases same : a = a'
    · subst same
      split at stored
      · rw [erase_self] at stored
        cases stored
      · rename_i some_left
        rw [insert_self, Option.some.injEq] at stored
        subst stored
        exact exists_of_size_ne_zero some_left
    · split at stored
      · rw [erase_other _ same] at stored
        exact occupied a' inner stored
      · rw [insert_other _ _ same] at stored
        exact occupied a' inner stored

end Laws

end Nested
