import Mathlib.Data.List.Nodup
import Mathlib.Data.List.Sort

/-! Traversals of nested maps. A list enumerates what is stored if each entry stands in it
once, under its key; a loop within a loop enumerates the pairs of keys. -/

structure Enumerates {κ ν : Type} (entries : List (κ × ν)) (stored : κ → Option ν) : Prop where
  mem : ∀ k v, (k, v) ∈ entries ↔ stored k = some v
  once : (entries.map Prod.fst).Nodup

namespace Enumerates

variable {κ κ' ν ω : Type}

def under (k : κ) (entries : List (κ' × ω)) : List ((κ × κ') × ω) :=
  entries.map fun e => ((k, e.1), e.2)

/-- The loop through the inner maps of an outer one. -/
def nest (outer : List (κ × ν)) (inner : ν → List (κ' × ω)) : List ((κ × κ') × ω) :=
  outer.flatMap fun e => under e.1 (inner e.2)

theorem mem_under {k : κ} {entries : List (κ' × ω)} {p : κ × κ'} {w : ω} :
    (p, w) ∈ under k entries ↔ p.1 = k ∧ (p.2, w) ∈ entries := by
  rw [under, List.mem_map]
  constructor
  · rintro ⟨e, inside, same⟩
    cases same
    exact ⟨rfl, inside⟩
  · rintro ⟨rfl, inside⟩
    exact ⟨(p.2, w), inside, rfl⟩

theorem under_keys (k : κ) (entries : List (κ' × ω)) :
    (under k entries).map Prod.fst = (entries.map Prod.fst).map (Prod.mk k) := by
  rw [under, List.map_map, List.map_map]
  rfl

theorem congr {entries : List (κ × ν)} {stored other : κ → Option ν}
    (loop : Enumerates entries stored) (same : ∀ k, stored k = other k) :
    Enumerates entries other :=
  (funext same : stored = other) ▸ loop

theorem empty : Enumerates ([] : List (κ × ν)) fun _ => none :=
  ⟨fun _ _ => by simp, List.nodup_nil⟩

theorem toList [Ord κ] [Std.TransOrd κ] [Std.LawfulEqOrd κ] (m : Std.TreeMap κ ν) :
    Enumerates m.toList fun k => m[k]? := by
  refine ⟨fun k v => Std.TreeMap.mem_toList_iff_getElem?_eq_some, ?_⟩
  rw [Std.TreeMap.map_fst_toList_eq_keys]
  exact Std.TreeMap.distinct_keys.imp fun apart same => apart (by simp [same])

/-- The inner entries of one key of the outer map. -/
theorem at_key [DecidableEq κ] {entries : List (κ' × ω)} {stored : κ' → Option ω}
    (inner : Enumerates entries stored) (k : κ) :
    Enumerates (under k entries) fun p => if p.1 = k then stored p.2 else none := by
  constructor
  · intro p w
    rw [mem_under, inner.mem]
    split
    · simp [*]
    · simp [*]
  · rw [under_keys]
    exact inner.once.map fun _ _ same => (Prod.mk.inj same).2

theorem nested {outer : List (κ × ν)} {stored : κ → Option ν} (loop : Enumerates outer stored)
    {entries : ν → List (κ' × ω)} {inner : ν → κ' → Option ω}
    (body : ∀ v, Enumerates (entries v) (inner v)) :
    Enumerates (nest outer entries) fun p => (stored p.1).bind fun v => inner v p.2 := by
  constructor
  · intro p w
    rw [nest, List.mem_flatMap, Option.bind_eq_some_iff]
    constructor
    · rintro ⟨e, inside, below⟩
      obtain ⟨same, below⟩ := mem_under.mp below
      exact ⟨e.2, (loop.mem _ _).mp (same ▸ inside), ((body e.2).mem _ _).mp below⟩
    · rintro ⟨v, found, below⟩
      exact ⟨(p.1, v), (loop.mem _ _).mpr found, mem_under.mpr ⟨rfl, ((body v).mem _ _).mpr below⟩⟩
  · have keys : (nest outer entries).map Prod.fst =
        outer.flatMap fun e => ((entries e.2).map Prod.fst).map (Prod.mk e.1) := by
      rw [nest, List.map_flatMap]
      simp only [under_keys]
    rw [keys, List.nodup_flatMap]
    refine ⟨fun e _ => (body e.2).once.map fun _ _ same => (Prod.mk.inj same).2, ?_⟩
    refine (List.pairwise_map.mp loop.once).imp fun apart => ?_
    intro p first second
    obtain ⟨_, _, rfl⟩ := List.mem_map.mp first
    obtain ⟨_, _, same⟩ := List.mem_map.mp second
    exact apart (Prod.mk.inj same).1.symm

/-! ### One order -/

def Before [Ord κ] (a b : κ) : Prop := compare a b = .lt

instance [Ord κ] [Std.OrientedOrd κ] : Std.Asymm (Before : κ → κ → Prop) where
  asymm _ _ first second := by
    have other := Std.OrientedCmp.gt_of_lt first
    rw [Before, other] at second
    cases second

def Ascending (r : κ → κ → Prop) (entries : List (κ × ν)) : Prop :=
  (entries.map Prod.fst).Pairwise r

theorem ascending_toList [Ord κ] [Std.TransOrd κ] (m : Std.TreeMap κ ν) :
    Ascending Before m.toList := by
  rw [Ascending, Std.TreeMap.map_fst_toList_eq_keys]
  exact Std.TreeMap.ordered_keys

theorem ascending_under {s : κ' → κ' → Prop} {entries : List (κ' × ω)} (r : κ → κ → Prop)
    (inner : Ascending s entries) (k : κ) : Ascending (Prod.Lex r s) (under k entries) := by
  rw [Ascending, under_keys, List.pairwise_map]
  exact inner.imp (Prod.Lex.right k)

theorem ascending_nest {r : κ → κ → Prop} {s : κ' → κ' → Prop} {outer : List (κ × ν)}
    (loop : Ascending r outer) {entries : ν → List (κ' × ω)}
    (body : ∀ v, Ascending s (entries v)) : Ascending (Prod.Lex r s) (nest outer entries) := by
  induction outer with
  | nil => exact List.Pairwise.nil
  | cons first rest ih =>
    obtain ⟨ahead, others⟩ := List.pairwise_cons.mp loop
    rw [nest, List.flatMap_cons, Ascending, List.map_append, List.pairwise_append]
    refine ⟨ascending_under r (body first.2) first.1, ih others, fun p here q behind => ?_⟩
    rw [under_keys] at here
    obtain ⟨_, _, rfl⟩ := List.mem_map.mp here
    obtain ⟨entry, inside, rfl⟩ := List.mem_map.mp behind
    obtain ⟨e, later, below⟩ := List.mem_flatMap.mp inside
    have place : entry.1.1 = e.1 := (mem_under.mp below).1
    exact Prod.lex_iff.mpr (.inl (place ▸ ahead e.1 (List.mem_map_of_mem later)))

/-- In ascending order there is one list of what is stored. -/
theorem unique {r : κ → κ → Prop} [Std.Asymm r] {entries others : List (κ × ν)}
    {stored : κ → Option ν} (loop : Enumerates entries stored) (other : Enumerates others stored)
    (first : Ascending r entries) (second : Ascending r others) : entries = others := by
  have same : entries.Perm others :=
    (List.perm_ext_iff_of_nodup loop.once.of_map other.once.of_map).mpr fun e =>
      (loop.mem e.1 e.2).trans (other.mem e.1 e.2).symm
  exact same.eq_of_pairwise (fun _ _ _ _ before after => absurd after (Std.Asymm.asymm _ _ before))
    (List.pairwise_map.mp first) (List.pairwise_map.mp second)

end Enumerates
