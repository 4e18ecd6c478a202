import OpenVrrp.Telnet.Framing

/-! What becomes of a line that m_buffer cannot hold. The flag for it is raised when the buffer
is full; the next `read` then has no room, answers 0, and is taken for the end of the
connection. A session that goes on has handed over every byte it has read. -/
namespace OpenVrrp.TelnetSession

section Serving
variable {World : Type} (execute : Execute World) (fuel : Nat)

/-- One call of `receiveChunk` with bytes waiting, `arrived` of them behind the first. -/
def poll (c : Conversation World) (arrived : Nat) (waiting : Text) :
    Option (Received World × Text) :=
  let count := min (arrived + 1) c.session.remaining
  (receiveChunk execute fuel c (waiting.take count)).map fun received =>
    (received, waiting.drop count)

/-- The main loop calls the session as long as bytes are waiting; the bytes left over come
with the result. -/
def serve : Conversation World → (polls : List Nat) → (waiting : Text) →
    Option (Received World × Text)
  | c, [], waiting => some (.session c, waiting)
  | c, arrived :: polls, waiting =>
    if waiting = [] then some (.session c, [])
    else
      match poll execute fuel c arrived waiting with
      | some (.session d, waiting) => serve d polls waiting
      | ended => ended

/-- Everything is read, the line before is answered with one message and otherwise ignored,
and `next` is handled as usual. -/
def Answered (c : Conversation World) (next : Text) : Option (Received World × Text) → Prop
  | some (.session d, []) =>
    d.handed = c.handed ++ [next] ∧ d.session.kept = [] ∧
      ∃ buffer answer, Memory.slice buffer 0 next.length = next ∧
        handleCommand execute c.world buffer next.length = some answer ∧
        d.world = answer.world ∧ d.sent = c.sent ++ invalidCommand :: answer.replies
  | some (.deleted world handed sent, []) =>
    isExit next = true ∧ world = c.world ∧ handed = c.handed ++ [next] ∧
      sent = c.sent ++ [invalidCommand]
  | _ => False

/-- Every reply is behind a line that was handed over. -/
def Follows (c : Conversation World) : Received World → Prop
  | .session d => ∃ lines, d.handed = c.handed ++ lines ∧ (lines = [] → d.sent = c.sent)
  | .deleted _ handed sent =>
    ∃ lines line, handed = c.handed ++ lines ++ [line] ∧ (lines = [] → sent = c.sent)
  | .undefined => True

theorem Follows.trans {c d : Conversation World} {received : Received World}
    (first : Follows c (.session d)) (second : Follows d received) : Follows c received := by
  obtain ⟨lines, handed, silent⟩ := first
  cases received with
  | undefined => trivial
  | deleted world lines' sent =>
    obtain ⟨more, line, handed', silent'⟩ := second
    refine ⟨lines ++ more, line, by rw [handed', handed, List.append_assoc c.handed], ?_⟩
    intro none
    obtain ⟨rfl, rfl⟩ := List.append_eq_nil_iff.mp none
    rw [silent' rfl, silent rfl]
  | session e =>
    obtain ⟨more, handed', silent'⟩ := second
    refine ⟨lines ++ more, by rw [handed', handed, List.append_assoc], ?_⟩
    intro none
    obtain ⟨rfl, rfl⟩ := List.append_eq_nil_iff.mp none
    rw [silent' rfl, silent rfl]

theorem handleLine_follows {c : Conversation World} (clear : c.session.overflow = false)
    (nl : Nat) : Follows c (handleLine execute c nl) := by
  simp only [handleLine, clear, Bool.false_eq_true, if_false]
  split
  · exact ⟨[], _, by rw [List.append_nil], fun _ => rfl⟩
  · exact ⟨[_], rfl, fun none => absurd none (List.cons_ne_nil _ _)⟩

theorem handleLines_follows {size : Nat} {c : Conversation World} {nl : Nat}
    {received : Received World} (clear : c.session.overflow = false)
    (handled : handleLines execute size fuel c nl = some received) : Follows c received := by
  induction fuel generalizing c nl with
  | zero => cases handled
  | succ fuel ih =>
    have first := handleLine_follows execute clear nl
    rw [handleLines] at handled
    cases line : handleLine execute c nl with
    | undefined =>
      simp only [line, Option.some.injEq] at handled
      exact handled ▸ trivial
    | deleted world lines replies =>
      simp only [line, Option.some.injEq] at handled first
      exact handled ▸ first
    | session d =>
      obtain ⟨_, flag, _⟩ := handleLine_accounted execute clear line
      simp only [line] at handled first
      cases moved : advance d.session size nl with
      | none =>
        simp only [moved, Option.some.injEq] at handled
        exact handled ▸ trivial
      | some result =>
        obtain ⟨t, next⟩ := result
        have overflow := (advance_size moved).1
        cases next with
        | none =>
          simp only [moved, Option.some.injEq] at handled
          exact handled ▸ first
        | some nl =>
          simp only [moved] at handled
          exact Follows.trans first (ih (c := { d with session := t }) (overflow.trans flag)
            handled)

theorem receiveChunk_follows {c : Conversation World} {chunk : Text}
    {received : Received World} (full : OverflowFull c.session) (some_bytes : chunk ≠ [])
    (fit : chunk.length ≤ c.session.remaining)
    (handled : receiveChunk execute fuel c chunk = some received) : Follows c received := by
  have positive : 0 < chunk.length := List.length_pos_iff.mpr some_bytes
  have clear := full.clear (by omega : 0 < c.session.remaining)
  rcases Lines.open_or_line newline chunk with unfinished | ⟨body, after, clean, rfl⟩
  · rw [receiveChunk_open execute fuel c some_bytes clear unfinished] at handled
    cases handled
    exact ⟨[], (List.append_nil _).symm, fun _ => rfl⟩
  · rw [receiveChunk_line execute fuel c clean] at handled
    exact handleLines_follows execute fuel
      (c := { c with session := c.session.filled (body ++ newline :: after) }) clear handled

theorem receiveChunk_nil (c : Conversation World) :
    receiveChunk execute fuel c [] = some (.deleted c.world c.handed c.sent) := rfl

/-- What a poll reads, and what it leaves. -/
theorem poll_cases {c : Conversation World} {arrived : Nat} {waiting left : Text}
    {received : Received World}
    (polled : poll execute fuel c arrived waiting = some (received, left)) :
    ∃ chunk, waiting = chunk ++ left ∧ chunk.length ≤ c.session.remaining ∧
      receiveChunk execute fuel c chunk = some received := by
  simp only [poll, Option.map_eq_some_iff] at polled
  obtain ⟨result, handled, same⟩ := polled
  cases same
  refine ⟨_, (List.take_append_drop _ _).symm, ?_, handled⟩
  rw [List.length_take]
  omega

theorem poll_alive {c d : Conversation World} {arrived : Nat} {waiting left : Text}
    (full : OverflowFull c.session)
    (polled : poll execute fuel c arrived waiting = some (.session d, left)) :
    OverflowFull d.session ∧ accounted c + waiting.length ≤ accounted d + left.length ∧
      Follows c (.session d) := by
  obtain ⟨chunk, rfl, fit, handled⟩ := poll_cases execute fuel polled
  have some_bytes : chunk ≠ [] := by
    rintro rfl
    cases handled
  obtain ⟨next, least, _⟩ := receiveChunk_accounted execute fuel full some_bytes fit handled
  refine ⟨next, ?_, receiveChunk_follows execute fuel full some_bytes fit handled⟩
  rw [List.length_append]
  omega

theorem serve_alive {polls : List Nat} {c d : Conversation World} {waiting left : Text}
    (full : OverflowFull c.session)
    (served : serve execute fuel c polls waiting = some (.session d, left)) :
    OverflowFull d.session ∧ accounted c + waiting.length ≤ accounted d + left.length := by
  induction polls generalizing c waiting with
  | nil =>
    cases served
    exact ⟨full, le_rfl⟩
  | cons arrived polls ih =>
    rw [serve] at served
    split at served
    · rename_i nothing
      cases served
      exact ⟨full, nothing ▸ le_rfl⟩
    · split at served
      · rename_i e waiting polled
        obtain ⟨next, least, _⟩ := poll_alive execute fuel full polled
        obtain ⟨last, least'⟩ := ih next served
        exact ⟨last, by omega⟩
      · rename_i ended
        exact absurd served (ended d left)

/-- Without room nothing is left unread, so the end was an exit command. -/
theorem serve_follows {polls : List Nat} {c : Conversation World} {waiting : Text}
    {received : Received World} (full : OverflowFull c.session)
    (served : serve execute fuel c polls waiting = some (received, [])) :
    Follows c received := by
  induction polls generalizing c waiting with
  | nil =>
    cases served
    exact ⟨[], (List.append_nil _).symm, fun _ => rfl⟩
  | cons arrived polls ih =>
    rw [serve] at served
    split at served
    · cases served
      exact ⟨[], (List.append_nil _).symm, fun _ => rfl⟩
    · rename_i bytes
      split at served
      · rename_i d waiting polled
        obtain ⟨next, _, first⟩ := poll_alive execute fuel full polled
        exact first.trans (ih next served)
      · obtain ⟨chunk, rfl, fit, handled⟩ := poll_cases execute fuel served
        rw [List.append_nil] at bytes
        exact receiveChunk_follows execute fuel full bytes fit handled

/-- No text in front of `next` is passed over in silence. -/
theorem not_answered {c : Conversation World} (full : OverflowFull c.session)
    (polls : List Nat) (rest next : Text) :
    ¬ Answered execute c next
      (serve execute fuel c polls (rest ++ newline :: (next ++ [newline]))) := by
  intro answered
  cases served : serve execute fuel c polls (rest ++ newline :: (next ++ [newline])) with
  | none => rw [served] at answered; exact answered
  | some result =>
    obtain ⟨received, left⟩ := result
    rw [served] at answered
    cases left with
    | cons byte left => cases received <;> exact answered
    | nil =>
      cases received with
      | undefined => exact answered
      | deleted world handed sent =>
        obtain ⟨_, _, handed, sent⟩ := answered
        obtain ⟨lines, line, more, silent⟩ := serve_follows execute fuel full served
        rw [handed] at more
        have none : c.handed ++ lines = c.handed := (List.append_inj_left' more rfl).symm
        have quiet := silent (List.append_right_eq_self.mp none)
        rw [sent] at quiet
        exact absurd (List.append_right_eq_self.mp quiet) (List.cons_ne_nil _ _)
      | session d =>
        obtain ⟨handed, empty, _⟩ := answered
        have least := (serve_alive execute fuel full served).2
        have size : d.session.bufferSize = 0 := by rw [← kept_length, empty, List.length_nil]
        simp only [accounted, handed, size, List.map_append, List.sum_append, List.map_cons,
          List.map_nil, List.sum_cons, List.sum_nil, List.length_append, List.length_cons,
          List.length_nil] at least
        omega

theorem serve_full {c : Conversation World} {waiting : Text} (full : c.session.remaining = 0)
    (bytes : waiting ≠ []) (arrived : Nat) (polls : List Nat) :
    serve execute fuel c (arrived :: polls) waiting =
      some (.deleted c.world c.handed c.sent, waiting) := by
  simp only [serve, poll, if_neg bytes, full, Nat.min_zero, List.take_zero, List.drop_zero,
    receiveChunk_nil, Option.map_some]

theorem poll_fills {c : Conversation World} {body : Text} {arrived : Nat}
    (clear : c.session.overflow = false) (clean : newline ∉ body) (some_bytes : body ≠ [])
    (size : body.length = c.session.remaining) (come : body.length ≤ arrived + 1)
    (rest : Text) :
    poll execute fuel c arrived (body ++ rest) =
      some (.session { c with session := { c.session.filled body with overflow := true } },
        rest) := by
  have positive : 0 < body.length := List.length_pos_iff.mpr some_bytes
  have filled : c.session.bufferSize + body.length = bufferCapacity := by
    simp only [remaining] at size
    omega
  have count : min (arrived + 1) c.session.remaining = body.length := by omega
  rw [poll, count, List.take_left' rfl, List.drop_left' rfl,
    receiveChunk_open execute fuel c some_bytes clear clean, filled]
  rfl

/-- The bytes that fill the buffer are the last ones read, and nothing is answered. -/
theorem serve_overlong {c : Conversation World} {body rest : Text}
    (clear : c.session.overflow = false) (clean : newline ∉ body) (some_bytes : body ≠ [])
    (size : body.length = c.session.remaining) (bytes : rest ≠ []) {arrived : Nat}
    (come : body.length ≤ arrived + 1) (more : Nat) (polls : List Nat) :
    serve execute fuel c (arrived :: more :: polls) (body ++ rest) =
      some (.deleted c.world c.handed c.sent, rest) := by
  have positive : 0 < body.length := List.length_pos_iff.mpr some_bytes
  have nonempty : body ++ rest ≠ [] := List.append_ne_nil_of_left_ne_nil some_bytes rest
  rw [serve, if_neg nonempty, poll_fills execute fuel clear clean some_bytes size come]
  apply serve_full
  · simp only [remaining, filled] at size ⊢
    omega
  · exact bytes

/-- A line that the buffer cannot hold, on a connection whose session lives until its first
byte is read; `ended` is the end of the lines before it, read by the same poll. -/
structure LongLine where
  buffer : Memory.Cells
  world : World
  earlier : List Nat
  before : Text
  reached : Conversation World
  alive : serve execute fuel (new buffer world) earlier before = some (.session reached, [])
  ended : Text
  complete : (Lines.split newline (before ++ ended)).2 = []
  line : Text
  clean : newline ∉ line
  long : bufferCapacity ≤ line.length
  arrived : Nat
  reaches : ended.length < min (arrived + 1) reached.session.remaining
  next : Text
  single : newline ∉ next
  later : List Nat
  enough : line.length + next.length + 2 ≤ later.length

namespace LongLine
variable {execute fuel}

def waiting (l : LongLine execute fuel) : Text :=
  l.ended ++ l.line ++ newline :: (l.next ++ [newline])

/-- The line and the one behind it, from the poll with its first byte on. -/
def Rejected (l : LongLine execute fuel) : Prop :=
  ∃ c left, poll execute fuel l.reached l.arrived l.waiting = some (.session c, left) ∧
    Answered execute c l.next (serve execute fuel c l.later left)

/-- A single poll cannot reach the end of the line. -/
theorem unread (l : LongLine execute fuel) {c : Conversation World} {left : Text}
    (polled : poll execute fuel l.reached l.arrived l.waiting = some (.session c, left)) :
    ∃ rest, left = rest ++ newline :: (l.next ++ [newline]) := by
  simp only [poll, Option.map_eq_some_iff] at polled
  obtain ⟨result, _, same⟩ := polled
  cases same
  have room : min (l.arrived + 1) l.reached.session.remaining ≤ (l.ended ++ l.line).length := by
    have long := l.long
    simp only [remaining, List.length_append]
    omega
  exact ⟨_, List.drop_append_of_le_length room⟩

theorem reached_full (l : LongLine execute fuel) : OverflowFull l.reached.session := by
  have start : OverflowFull (new l.buffer l.world).session := fun flag => by cases flag
  exact (serve_alive execute fuel start l.alive).1

/-- However the bytes arrive and whatever was sent before, no over-long line is rejected by a
session that goes on. -/
theorem never_rejected (l : LongLine execute fuel) : ¬ l.Rejected := by
  rintro ⟨c, left, polled, answered⟩
  obtain ⟨full, _, _⟩ := poll_alive execute fuel l.reached_full polled
  obtain ⟨rest, rfl⟩ := l.unread polled
  exact not_answered execute fuel full l.later rest l.next answered

end LongLine

end Serving

def silent : Execute Unit := fun world _ buffer => ⟨world, buffer, []⟩

theorem newline_not_repeated (count : Nat) : newline ∉ List.replicate count (97 : UInt8) := by
  intro inside
  exact absurd (List.eq_of_mem_replicate inside) (by decide)

/-- An over-long line on a new connection. -/
def overlong : LongLine silent 1 where
  buffer := fun _ => 0
  world := ()
  earlier := []
  before := []
  reached := new (fun _ => 0) ()
  alive := rfl
  ended := []
  complete := rfl
  line := List.replicate 1025 97
  clean := newline_not_repeated 1025
  long := by rw [List.length_replicate]; decide
  arrived := 1023
  reaches := by decide
  next := ascii "help"
  single := by decide
  later := List.replicate 1031 0
  enough := by rw [List.length_replicate, List.length_replicate]; decide

/-- The first poll fills the buffer and the second one ends the session: nothing is answered,
and neither the line nor the one behind it is read to its end. -/
theorem overlong_unread :
    serve silent 1 overlong.reached (overlong.arrived :: overlong.later) overlong.waiting =
        some (.deleted () [] [prompt], 97 :: newline :: (ascii "help" ++ [newline])) ∧
      ¬ overlong.Rejected := by
  have stream : overlong.waiting =
      List.replicate 1024 97 ++ (97 :: newline :: (ascii "help" ++ [newline])) := by
    change List.replicate 1025 97 ++ newline :: (ascii "help" ++ [newline]) = _
    rw [List.replicate_succ', List.append_assoc, List.singleton_append]
  have size : (List.replicate 1024 (97 : UInt8)).length = overlong.reached.session.remaining :=
    List.length_replicate
  have some_bytes : List.replicate 1024 (97 : UInt8) ≠ [] :=
    List.ne_nil_of_length_pos (by rw [List.length_replicate]; decide)
  have come : (List.replicate 1024 (97 : UInt8)).length ≤ overlong.arrived + 1 := by
    rw [List.length_replicate]
    decide
  have ended := serve_overlong silent 1 (c := overlong.reached) rfl (newline_not_repeated 1024)
    some_bytes size (List.cons_ne_nil 97 (newline :: (ascii "help" ++ [newline]))) come 0
    (List.replicate 1030 0)
  rw [← stream] at ended
  refine ⟨ended, ?_⟩
  rintro ⟨c, left, polled, answered⟩
  have bytes : overlong.waiting ≠ [] := by
    rw [stream]
    exact List.append_ne_nil_of_left_ne_nil some_bytes _
  rw [serve, if_neg bytes, polled] at ended
  change Answered silent c overlong.next
    (serve silent 1 c (0 :: List.replicate 1030 0) left) at answered
  simp only [ended] at answered
  exact answered

end OpenVrrp.TelnetSession
