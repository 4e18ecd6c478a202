import OpenVrrp.Library.Memory

/-! Computations that read bytes of a memory, with the indices they read, in order. -/

/-- A value and the indices read for it. -/
structure Reading (α : Type) where
  value : α
  indices : List Nat

namespace Reading

variable {α β : Type}

instance : Monad Reading where
  pure a := ⟨a, []⟩
  bind x next := ⟨(next x.value).value, x.indices ++ (next x.value).indices⟩

@[simp] theorem pure_value (a : α) : (pure a : Reading α).value = a := rfl

@[simp] theorem pure_indices (a : α) : (pure a : Reading α).indices = [] := rfl

@[simp] theorem bind_value (x : Reading α) (next : α → Reading β) :
    (x >>= next).value = (next x.value).value := rfl

@[simp] theorem bind_indices (x : Reading α) (next : α → Reading β) :
    (x >>= next).indices = x.indices ++ (next x.value).indices := rfl

@[simp] theorem map_value (f : α → β) (x : Reading α) : (f <$> x).value = f x.value := rfl

@[simp] theorem map_indices (f : α → β) (x : Reading α) : (f <$> x).indices = x.indices := by
  change x.indices ++ [] = x.indices
  exact List.append_nil _

def byte (m : Memory.Cells) (i : Nat) : Reading UInt8 := ⟨m i, [i]⟩

@[simp] theorem byte_value (m : Memory.Cells) (i : Nat) : (byte m i).value = m i := rfl

@[simp] theorem byte_indices (m : Memory.Cells) (i : Nat) : (byte m i).indices = [i] := rfl

def bytes (m : Memory.Cells) (offset count : Nat) : Reading (List UInt8) :=
  ⟨Memory.slice m offset count, (List.range count).map (offset + ·)⟩

@[simp] theorem bytes_value (m : Memory.Cells) (offset count : Nat) :
    (bytes m offset count).value = Memory.slice m offset count := rfl

def Below (x : Reading α) (bound : Nat) : Prop := ∀ i ∈ x.indices, i < bound

theorem below_pure (a : α) (bound : Nat) : Below (pure a) bound := by
  intro i inside
  cases inside

theorem below_bind (x : Reading α) (next : α → Reading β) (bound : Nat) :
    Below (x >>= next) bound ↔ Below x bound ∧ Below (next x.value) bound := by
  simp only [Below, bind_indices, List.mem_append, or_imp, forall_and]

theorem below_byte (m : Memory.Cells) (i bound : Nat) : Below (byte m i) bound ↔ i < bound := by
  simp [Below]

theorem below_map (f : α → β) (x : Reading α) (bound : Nat) :
    Below (f <$> x) bound ↔ Below x bound := by simp [Below]

theorem below_bytes (m : Memory.Cells) (offset : Nat) {count bound : Nat}
    (room : offset + count ≤ bound) : Below (bytes m offset count) bound := by
  intro i inside
  obtain ⟨j, small, rfl⟩ := List.mem_map.mp inside
  rw [List.mem_range] at small
  omega

theorem below_split {c : Prop} [Decidable c] {x y : Reading α} {bound : Nat}
    (first : c → Below x bound) (second : ¬ c → Below y bound) :
    Below (if c then x else y) bound := by
  split
  · exact first ‹_›
  · exact second ‹_›

/-! ### Reading with a check -/

instance (x : Reading α) (bound : Nat) : Decidable (Below x bound) :=
  inferInstanceAs (Decidable (∀ i ∈ x.indices, i < bound))

/-- What the reading gives when it stops at the first index out of bounds. -/
def checked (x : Reading α) (bound : Nat) : Option α := if Below x bound then some x.value else none

theorem checked_below {x : Reading α} {bound : Nat} (below : Below x bound) :
    x.checked bound = some x.value := if_pos below

theorem below_iff_checked (x : Reading α) (bound : Nat) :
    Below x bound ↔ (x.checked bound).isSome = true := by
  unfold checked
  split <;> simp [*]

@[simp] theorem checked_pure (a : α) (bound : Nat) : (pure a : Reading α).checked bound = some a :=
  if_pos (below_pure a bound)

@[simp] theorem checked_bind (x : Reading α) (next : α → Reading β) (bound : Nat) :
    (x >>= next).checked bound = (x.checked bound).bind fun a => (next a).checked bound := by
  simp only [checked, below_bind, bind_value, ite_and]
  split <;> rfl

@[simp] theorem checked_map (f : α → β) (x : Reading α) (bound : Nat) :
    (f <$> x).checked bound = (x.checked bound).map f := by
  simp only [checked, below_map, map_value]
  split <;> rfl

theorem checked_ite {c : Prop} [Decidable c] (x y : Reading α) (bound : Nat) :
    (if c then x else y).checked bound = if c then x.checked bound else y.checked bound :=
  apply_ite (checked · bound) c x y

end Reading
