import OpenVrrp.Library.Lines
import OpenVrrp.Telnet.Session

/-! Whether the lines handed to `handleCommand` depend on how the stream is cut into chunks.
A chunk that ends with its only newline is handled exactly. After a chunk with a byte behind
a newline m_bufferSize never comes down again, so lines and kept bytes together exceed
what was read. -/
namespace OpenVrrp.TelnetSession

variable {World : Type} (execute : Execute World) (fuel : Nat)

/-- The session lives, has handed over exactly the lines of the stream and keeps its tail. -/
def Framed (stream : Text) : Option (Received World) → Prop
  | some (.session c) =>
    c.handed = (Lines.split newline stream).1 ∧ c.session.kept = (Lines.split newline stream).2
  | _ => False

/-- Each chunk is a result of `read` with at least one byte, as long as the session lives. -/
def Fits : Conversation World → List Text → Prop
  | _, [] => True
  | c, chunk :: rest => chunk ≠ [] ∧ chunk.length ≤ c.session.remaining ∧
    match receiveChunk execute fuel c chunk with
    | some (.session c) => Fits c rest
    | _ => True

instance decidableFits : (chunks : List Text) → (c : Conversation World) →
    Decidable (Fits execute fuel c chunks)
  | [], _ => isTrue trivial
  | chunk :: rest, c =>
    have : Decidable (match receiveChunk execute fuel c chunk with
        | some (.session c) => Fits execute fuel c rest
        | _ => True) :=
      match receiveChunk execute fuel c chunk with
      | some (.session c) => decidableFits rest c
      | some .undefined | some (.deleted _ _ _) | none => isTrue trivial
    inferInstanceAs (Decidable (_ ∧ _ ∧ _))

def NewlineLast (chunk : Text) : Prop := newline ∉ chunk.dropLast

instance (chunk : Text) : Decidable (NewlineLast chunk) :=
  inferInstanceAs (Decidable (newline ∉ chunk.dropLast))

def OverflowFull (s : TelnetSession) : Prop := s.overflow = true → s.bufferSize = bufferCapacity

theorem OverflowFull.clear {s : TelnetSession} (full : OverflowFull s)
    (room : 0 < s.remaining) : s.overflow = false := by
  cases flag : s.overflow with
  | false => rfl
  | true =>
    have := full flag
    simp only [remaining] at room
    omega

theorem kept_length (s : TelnetSession) : s.kept.length = s.bufferSize := by simp [kept]

def filled (s : TelnetSession) (chunk : Text) : TelnetSession :=
  { s with
    buffer := Memory.store s.buffer s.bufferSize chunk
    bufferSize := s.bufferSize + chunk.length }

theorem filled_kept (s : TelnetSession) (chunk : Text) :
    (s.filled chunk).kept = s.kept ++ chunk := by
  exact Memory.slice_store_append s.buffer s.bufferSize chunk

theorem receiveChunk_open (c : Conversation World) {chunk : Text} (some_bytes : chunk ≠ [])
    (clear : c.session.overflow = false) (unfinished : newline ∉ chunk) :
    receiveChunk execute fuel c chunk = some (.session { c with
      session := { c.session.filled chunk with
        overflow := decide (c.session.bufferSize + chunk.length = bufferCapacity) } }) := by
  have nonzero : chunk.length ≠ 0 := fun zero => some_bytes (List.length_eq_zero_iff.mp zero)
  have absent : Memory.find (Memory.store c.session.buffer c.session.bufferSize chunk) newline
      c.session.bufferSize chunk.length = none :=
    Memory.find_none (by rw [Memory.slice_store]; exact unfinished)
  simp only [receiveChunk, if_neg nonzero, absent, clear, Bool.false_eq_true, if_false, filled]
  split
  · rename_i full
    simp [full]
  · rename_i room
    simp [room]

theorem receiveChunk_line (c : Conversation World) {body after : Text}
    (clean : newline ∉ body) :
    receiveChunk execute fuel c (body ++ newline :: after) =
      handleLines execute (body ++ newline :: after).length fuel
        { c with session := c.session.filled (body ++ newline :: after) }
        (c.session.bufferSize + body.length) := by
  have nonzero : (body ++ newline :: after).length ≠ 0 := by simp
  have found := Memory.find_first clean (Memory.slice_store c.session.buffer
    c.session.bufferSize (body ++ newline :: after))
  simp only [receiveChunk, if_neg nonzero, found, filled]

theorem handleCommand_lives (world : World) {buffer : Memory.Cells} {size : Nat}
    (other : isExit (Memory.slice buffer 0 size) = false) :
    ∃ answer, handleCommand execute world buffer size = some answer := by
  simp only [handleCommand, other, Bool.false_eq_true, if_false]
  split <;> exact ⟨_, rfl⟩

/-! ### Chunks that end with their newline -/

structure Exact (stream : Text) (c : Conversation World) : Prop where
  full : OverflowFull c.session
  handed : c.handed = (Lines.split newline stream).1
  kept : c.session.kept = (Lines.split newline stream).2

theorem exact_open {stream chunk : Text} {c : Conversation World} (held : Exact stream c)
    (some_bytes : chunk ≠ []) (fit : chunk.length ≤ c.session.remaining)
    (unfinished : newline ∉ chunk) :
    ∃ d, receiveChunk execute fuel c chunk = some (.session d) ∧ Exact (stream ++ chunk) d := by
  have positive : 0 < chunk.length := List.length_pos_iff.mpr some_bytes
  have clear := held.full.clear (by omega : 0 < c.session.remaining)
  refine ⟨_, receiveChunk_open execute fuel c some_bytes clear unfinished, ?_, ?_, ?_⟩
  · intro flag
    simpa [filled] using flag
  · rw [Lines.split_append_open newline stream unfinished]
    exact held.handed
  · rw [Lines.split_append_open newline stream unfinished]
    change (c.session.filled chunk).kept = _
    rw [filled_kept, held.kept]

/-- The bytes in front of a newline that ends the chunk. -/
theorem line_bytes (s : TelnetSession) (body : Text) :
    Memory.slice (Memory.store (s.filled (body ++ [newline])).buffer
      (s.bufferSize + body.length) [0]) 0 (s.bufferSize + body.length) = s.kept ++ body := by
  have whole := filled_kept s (body ++ [newline])
  simp only [TelnetSession.kept, filled, List.length_append, List.length_singleton,
    ← Nat.add_assoc, ← List.append_assoc] at whole
  rw [Memory.slice_add] at whole
  have front := List.append_inj_left' whole (by simp)
  rw [TelnetSession.kept, ← front]
  exact Memory.slice_congr fun i _ inside => Memory.store_before _ _ _ (by omega)

theorem exact_line {stream body : Text} {c : Conversation World} (held : Exact stream c)
    (enough : 0 < fuel) (fit : body.length + 1 ≤ c.session.remaining)
    (clean : newline ∉ body) (other : isExit (c.session.kept ++ body) = false) :
    ∃ d, receiveChunk execute fuel c (body ++ [newline]) = some (.session d) ∧
      Exact (stream ++ (body ++ [newline])) d := by
  have clear := held.full.clear (by omega : 0 < c.session.remaining)
  obtain ⟨more, rfl⟩ : ∃ more, fuel = more + 1 := ⟨fuel - 1, by omega⟩
  have bytes := line_bytes c.session body
  obtain ⟨answer, lives⟩ := handleCommand_lives execute c.world (bytes.symm ▸ other)
  refine ⟨⟨⟨answer.buffer, 0, false⟩, answer.world, c.handed ++ [c.session.kept ++ body],
    c.sent ++ answer.replies⟩, ?_, ?_, ?_, ?_⟩
  · rw [receiveChunk_line execute _ c clean, handleLines]
    have last : ¬ c.session.bufferSize + body.length + 1 <
        c.session.bufferSize + (body ++ [newline]).length := by simp; omega
    have flag : (c.session.filled (body ++ [newline])).overflow = false := clear
    simp only [handleLine, flag, Bool.false_eq_true, if_false, lives, bytes, advance]
    simp only [filled, if_neg last, clear]
  · intro flag
    cases flag
  · rw [Lines.split_append_line newline stream clean, held.kept, held.handed]
    rfl
  · rw [Lines.split_append_line newline stream clean]
    rfl

theorem body_of_last {chunk : Text} (last : NewlineLast chunk) (inside : newline ∈ chunk) :
    ∃ body, newline ∉ body ∧ chunk = body ++ [newline] := by
  have nonempty : chunk ≠ [] := List.ne_nil_of_mem inside
  have whole := List.dropLast_concat_getLast nonempty
  refine ⟨chunk.dropLast, last, ?_⟩
  rw [← whole, List.mem_append, List.mem_singleton] at inside
  rcases inside with early | same
  · exact absurd early last
  · rw [same, whole]

theorem exact_chunk {stream chunk after : Text} {c : Conversation World}
    (held : Exact stream c) (enough : 0 < fuel) (some_bytes : chunk ≠ [])
    (fit : chunk.length ≤ c.session.remaining) (last : NewlineLast chunk)
    (commands : ∀ line ∈ (Lines.split newline (stream ++ (chunk ++ after))).1,
      isExit line = false) :
    ∃ d, receiveChunk execute fuel c chunk = some (.session d) ∧ Exact (stream ++ chunk) d := by
  by_cases inside : newline ∈ chunk
  · obtain ⟨body, clean, rfl⟩ := body_of_last last inside
    apply exact_line execute fuel held enough (by simpa using fit) clean
    apply commands
    rw [List.append_assoc, List.singleton_append, Lines.split_append_line newline stream clean,
      held.kept]
    simp
  · exact exact_open execute fuel held some_bytes fit inside

theorem exact_chunks {chunks : List Text} {stream : Text} {c : Conversation World}
    (held : Exact stream c) (enough : 0 < fuel) (fits : Fits execute fuel c chunks)
    (last : ∀ chunk ∈ chunks, NewlineLast chunk)
    (commands : ∀ line ∈ (Lines.split newline (stream ++ chunks.flatten)).1,
      isExit line = false) :
    Framed (stream ++ chunks.flatten) (receiveChunks execute fuel c chunks) := by
  induction chunks generalizing stream c with
  | nil => simpa [receiveChunks, Framed] using ⟨held.handed, held.kept⟩
  | cons chunk rest ih =>
    obtain ⟨some_bytes, fit, later⟩ := fits
    obtain ⟨d, received, next⟩ := exact_chunk execute fuel held enough some_bytes fit
      (last chunk (by simp)) commands
    rw [received] at later
    rw [List.flatten_cons, ← List.append_assoc] at commands ⊢
    rw [receiveChunks, received]
    exact ih next later (fun chunk inside => last chunk (by simp [inside])) commands

/-! ### Chunks with a byte behind a newline -/

/-- The bytes accounted for: those of the lines handed over, and those kept. -/
def accounted (c : Conversation World) : Nat :=
  (c.handed.map fun line => line.length + 1).sum + c.session.bufferSize

theorem framed_accounted {stream : Text} {c : Conversation World}
    (framed : Framed stream (some (.session c))) : accounted c = stream.length := by
  have size : c.session.bufferSize = (Lines.split newline stream).2.length := by
    rw [← framed.2, kept_length]
  rw [accounted, framed.1, size, Lines.split_length]

theorem handleLine_accounted {c d : Conversation World} {nl : Nat}
    (clear : c.session.overflow = false) (handled : handleLine execute c nl = .session d) :
    accounted d = accounted c + nl + 1 ∧ d.session.overflow = false ∧
      d.session.bufferSize = c.session.bufferSize := by
  simp only [handleLine, clear, Bool.false_eq_true, if_false] at handled
  split at handled
  · cases handled
  · cases handled
    refine ⟨?_, rfl, rfl⟩
    simp only [accounted, List.map_append, List.map_cons, List.map_nil, List.sum_append,
      List.sum_cons, List.sum_nil, Memory.slice_length]
    omega

/-- `advance` never lowers m_bufferSize, except to zero behind the last byte. -/
theorem advance_size {s t : TelnetSession} {size nl : Nat} {next : Option Nat}
    (advanced : advance s size nl = some (t, next)) :
    t.overflow = s.overflow ∧ s.bufferSize ≤ t.bufferSize + (nl + 1) ∧
      (nl + 1 < s.bufferSize → t.bufferSize = s.bufferSize) := by
  simp only [advance] at advanced
  split at advanced
  · split at advanced
    · cases advanced
      exact ⟨rfl, by dsimp only; omega, fun _ => rfl⟩
    · cases advanced
  · rename_i last
    cases advanced
    exact ⟨rfl, by dsimp only; omega, fun inside => absurd inside last⟩

theorem handleLines_accounted {size : Nat} {c d : Conversation World} {nl : Nat}
    (clear : c.session.overflow = false)
    (handled : handleLines execute size fuel c nl = some (.session d)) :
    accounted c ≤ accounted d ∧ d.session.overflow = false ∧
      (nl + 1 < c.session.bufferSize → accounted c < accounted d) := by
  induction fuel generalizing c nl with
  | zero => cases handled
  | succ fuel ih =>
    rw [handleLines] at handled
    cases line : handleLine execute c nl with
    | undefined => rw [line] at handled; cases handled
    | deleted world lines replies => rw [line] at handled; cases handled
    | session e =>
      obtain ⟨sum, flag, same⟩ := handleLine_accounted execute clear line
      rw [line] at handled
      cases moved : advance e.session size nl with
      | none => simp [moved] at handled
      | some result =>
        obtain ⟨t, next⟩ := result
        obtain ⟨overflow, least, inside⟩ := advance_size moved
        have start : accounted c ≤ accounted { e with session := t } ∧
            (nl + 1 < c.session.bufferSize → accounted c < accounted { e with session := t }) := by
          simp only [accounted] at sum ⊢
          omega
        cases next with
        | none =>
          simp only [moved, Option.some.injEq, Received.session.injEq] at handled
          subst handled
          exact ⟨start.1, overflow.trans flag, start.2⟩
        | some nl =>
          simp only [moved] at handled
          obtain ⟨more, clear', _⟩ :=
            ih (c := { e with session := t }) (overflow.trans flag) handled
          exact ⟨le_trans start.1 more, clear',
            fun early => lt_of_lt_of_le (start.2 early) more⟩

/-- No chunk is lost from the account, and one with a byte behind a newline is overcounted. -/
theorem receiveChunk_accounted {c d : Conversation World} {chunk : Text}
    (full : OverflowFull c.session) (some_bytes : chunk ≠ [])
    (fit : chunk.length ≤ c.session.remaining)
    (received : receiveChunk execute fuel c chunk = some (.session d)) :
    OverflowFull d.session ∧ accounted c + chunk.length ≤ accounted d ∧
      (¬ NewlineLast chunk → accounted c + chunk.length < accounted d) := by
  have positive : 0 < chunk.length := List.length_pos_iff.mpr some_bytes
  have clear := full.clear (by omega : 0 < c.session.remaining)
  rcases Lines.open_or_line newline chunk with unfinished | ⟨body, after, clean, rfl⟩
  · rw [receiveChunk_open execute fuel c some_bytes clear unfinished] at received
    cases received
    refine ⟨fun flag => by simpa [filled] using flag, ?_, fun early => ?_⟩
    · simp only [accounted, filled]
      omega
    · exact absurd (fun inside => unfinished (List.dropLast_subset _ inside)) early
  · rw [receiveChunk_line execute fuel c clean] at received
    obtain ⟨least, flag, more⟩ := handleLines_accounted execute fuel
      (c := { c with session := c.session.filled (body ++ newline :: after) }) clear received
    simp only [accounted, filled] at least more ⊢
    refine ⟨fun overflow => ?_, by omega, fun early => ?_⟩
    · rw [flag] at overflow
      cases overflow
    · have tail : after ≠ [] := by
        rintro rfl
        exact early (by simpa [NewlineLast] using clean)
      have bytes : 0 < after.length := List.length_pos_iff.mpr tail
      have inside := more (by simp; omega)
      omega

theorem receiveChunks_accounted {chunks : List Text} {c d : Conversation World}
    (full : OverflowFull c.session) (fits : Fits execute fuel c chunks)
    (received : receiveChunks execute fuel c chunks = some (.session d)) :
    accounted c + chunks.flatten.length ≤ accounted d ∧
      ((∃ chunk ∈ chunks, ¬ NewlineLast chunk) →
        accounted c + chunks.flatten.length < accounted d) := by
  induction chunks generalizing c with
  | nil =>
    simp only [receiveChunks, Option.some.injEq, Received.session.injEq] at received
    subst received
    exact ⟨by simp, fun ⟨_, inside, _⟩ => absurd inside List.not_mem_nil⟩
  | cons chunk rest ih =>
    obtain ⟨some_bytes, fit, later⟩ := fits
    rw [receiveChunks] at received
    cases first : receiveChunk execute fuel c chunk with
    | none => rw [first] at received; cases received
    | some result =>
      cases result with
      | undefined => rw [first] at received; cases received
      | deleted world lines replies => rw [first] at received; cases received
      | session e =>
        rw [first] at received later
        obtain ⟨next, least, strict⟩ :=
          receiveChunk_accounted execute fuel full some_bytes fit first
        obtain ⟨least', strict'⟩ := ih next later received
        rw [List.flatten_cons, List.length_append]
        refine ⟨by omega, ?_⟩
        rintro ⟨bad, inside, early⟩
        rcases List.mem_cons.mp inside with rfl | inside
        · have := strict early
          omega
        · have := strict' ⟨bad, inside, early⟩
          omega

/-- For every stream without an exit command and every way of cutting it into results of
`read`, the lines are handed over exactly and the tail is kept exactly if and only if no
chunk holds a byte behind a newline. -/
theorem framed_iff (enough : 0 < fuel) (buffer : Memory.Cells) (world : World)
    (chunks : List Text) (fits : Fits execute fuel (new buffer world) chunks)
    (commands : ∀ line ∈ (Lines.split newline chunks.flatten).1, isExit line = false) :
    Framed chunks.flatten (receiveChunks execute fuel (new buffer world) chunks) ↔
      ∀ chunk ∈ chunks, NewlineLast chunk := by
  have full : OverflowFull (new buffer world).session := fun flag => by cases flag
  constructor
  · intro framed chunk inside
    by_contra early
    cases received : receiveChunks execute fuel (new buffer world) chunks with
    | none => rw [received] at framed; exact framed
    | some result =>
      cases result with
      | undefined => rw [received] at framed; exact framed
      | deleted world lines replies => rw [received] at framed; exact framed
      | session d =>
        rw [received] at framed
        have total := framed_accounted framed
        have more := (receiveChunks_accounted execute fuel full fits received).2
          ⟨chunk, inside, early⟩
        simp only [accounted, new, List.map_nil, List.sum_nil] at more total
        omega
  · intro last
    have start : Exact [] (new buffer world) :=
      ⟨full, rfl, rfl⟩
    have framed := exact_chunks execute fuel start enough fits last
      (by simpa using commands)
    simpa using framed

theorem framed_two_chunks :
    Framed (ascii "help" ++ [newline] ++ ascii "sh")
      (receiveChunks (fun _ _ buffer => ⟨(), buffer, []⟩) 1 (new (fun _ => 0) ())
        [ascii "he", ascii "lp" ++ [newline], ascii "sh"]) :=
  (framed_iff _ 1 (by decide) _ () [ascii "he", ascii "lp" ++ [newline], ascii "sh"]
    (by decide) (by decide)).mpr (by decide)

/-- The first chunk of a session holds two lines: the count of `memmove` wraps around. -/
theorem two_lines_undefined :
    Fits (fun _ _ buffer => ⟨(), buffer, []⟩) 1 (new (fun _ => 0) ())
      [ascii "help" ++ newline :: ascii "help" ++ [newline]] ∧
    ¬ Framed (ascii "help" ++ newline :: ascii "help" ++ [newline])
      (receiveChunks (fun _ _ buffer => ⟨(), buffer, []⟩) 1 (new (fun _ => 0) ())
        [ascii "help" ++ newline :: ascii "help" ++ [newline]]) := by
  have wrapped : receiveChunk (fun _ _ buffer => ⟨(), buffer, []⟩) 1 (new (fun _ => 0) ())
      (ascii "help" ++ newline :: ascii "help" ++ [newline]) = some .undefined := rfl
  rw [receiveChunks, wrapped]
  exact ⟨⟨by decide, by decide, by rw [wrapped]; trivial⟩, not_false⟩

end OpenVrrp.TelnetSession
