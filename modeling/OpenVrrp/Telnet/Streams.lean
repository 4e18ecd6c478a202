import OpenVrrp.Telnet.Framing
import OpenVrrp.Telnet.Lifecycle

/-! Many sessions, one byte stream each. Where no chunk has a byte behind a newline, the lines
that a session hands over are those of the bytes that were read from it, whatever is read from
the others in between. -/
namespace OpenVrrp

namespace TelnetSession

/-- What a chunk completes, and what is kept of it. -/
def Completes (kept chunk : Text) (lines : List Text) (left : Text) : Prop :=
  ∀ stream, (Lines.split newline stream).2 = kept →
    Lines.split newline (stream ++ chunk) = ((Lines.split newline stream).1 ++ lines, left)

theorem completes_open (kept : Text) {chunk : Text} (unfinished : newline ∉ chunk) :
    Completes kept chunk [] (kept ++ chunk) := by
  rintro stream rfl
  rw [Lines.split_append_open newline stream unfinished, List.append_nil]

theorem completes_line (kept : Text) {body : Text} (clean : newline ∉ body) :
    Completes kept (body ++ [newline]) [kept ++ body] [] := by
  rintro stream rfl
  rw [Lines.split_append_line newline stream clean]
  rfl

variable {World : Type} (execute : Execute World) {fuel : Nat}

theorem newlineLast_take {chunk : Text} (last : NewlineLast chunk) (n : Nat) :
    NewlineLast (chunk.take n) := by
  intro inside
  rw [List.dropLast_eq_take, List.take_take, List.length_take] at inside
  apply last
  rw [List.dropLast_eq_take]
  exact (List.take_prefix_take_left (by omega)).subset inside

/-- A chunk without a byte behind a newline completes a line or none. -/
inductive Framing (c : Conversation World) (chunk : Text) : Received World → Prop where
  | ends {world : World} {handed sent lines : List Text} {left : Text}
      (same : handed = c.handed ++ lines)
      (completes : Completes c.session.kept chunk lines left) :
      Framing c chunk (.deleted world handed sent)
  | goes {d : Conversation World} {lines : List Text} (full : OverflowFull d.session)
      (handed : d.handed = c.handed ++ lines)
      (completes : Completes c.session.kept chunk lines d.session.kept) :
      Framing c chunk (.session d)

theorem receiveChunk_framing {c : Conversation World} {chunk : Text} (enough : 0 < fuel)
    (full : OverflowFull c.session) (fit : chunk.length ≤ c.session.remaining)
    (last : NewlineLast chunk) :
    ∃ received, receiveChunk execute fuel c chunk = some received ∧
      Framing c chunk received := by
  by_cases nothing : chunk = []
  · subst nothing
    exact ⟨_, rfl, .ends (List.append_nil _).symm (completes_open _ List.not_mem_nil)⟩
  have positive : 0 < chunk.length := List.length_pos_iff.mpr nothing
  have clear := full.clear (by omega : 0 < c.session.remaining)
  by_cases inside : newline ∈ chunk
  · obtain ⟨body, clean, rfl⟩ := body_of_last last inside
    obtain ⟨more, rfl⟩ : ∃ more, fuel = more + 1 := ⟨fuel - 1, by omega⟩
    have flag : (c.session.filled (body ++ [newline])).overflow = false := clear
    have bytes := line_bytes c.session body
    have behind : ¬ c.session.bufferSize + body.length + 1 <
        c.session.bufferSize + (body ++ [newline]).length := by simp; omega
    rw [receiveChunk_line execute _ c clean, handleLines]
    simp only [handleLine, flag, Bool.false_eq_true, if_false, bytes]
    cases handleCommand execute c.world _ _ with
    | none => exact ⟨_, rfl, .ends rfl (completes_line _ clean)⟩
    | some answer =>
      have ended : advance ⟨answer.buffer, (c.session.filled (body ++ [newline])).bufferSize, false⟩
          (body ++ [newline]).length (c.session.bufferSize + body.length) =
          some (⟨answer.buffer, 0, false⟩, none) := if_neg behind
      simp only [ended]
      exact ⟨_, rfl, .goes (fun flag => by cases flag) rfl (completes_line _ clean)⟩
  · refine ⟨_, receiveChunk_open execute fuel c nothing clear inside, ?_⟩
    refine .goes (fun flag => by simpa [filled] using flag) (List.append_nil _).symm ?_
    change Completes _ _ _ (c.session.filled chunk).kept
    rw [filled_kept]
    exact completes_open _ inside

end TelnetSession

namespace Daemon

variable {World : Type}

/-- The bytes that were read from the session. -/
def bytesOf (self : Nat) (read : List (Nat × Text)) : Text :=
  (read.filter fun r => decide (r.1 = self)).flatMap Prod.snd

/-- The lines that the session has handed over. -/
def linesOf (self : Nat) (log : List Entry) : List Text :=
  log.filterMap fun
    | .line _ other line => if other = self then some line else none
    | .elsewhere _ => none

structure Streams (d : Daemon World) : Prop where
  lines : ∀ self, linesOf self d.log = (Lines.split newline (bytesOf self d.read)).1
  live : ∀ (self : Nat) (c : Connection), d.server.objects[self]? = some c →
    c.session.OverflowFull ∧ c.session.kept = (Lines.split newline (bytesOf self d.read)).2
  known : ∀ r ∈ d.read, r.1 < d.server.nextObject

theorem bytesOf_append (self : Nat) (read : List (Nat × Text)) (other : Nat) (chunk : Text) :
    bytesOf self (read ++ [(other, chunk)]) =
      bytesOf self read ++ if other = self then chunk else [] := by
  unfold bytesOf
  rw [List.filter_append, List.flatMap_append]
  by_cases same : other = self <;> simp [same]

theorem linesOf_append (self : Nat) (log : List Entry) (call other : Nat) (lines : List Text) :
    linesOf self (log ++ lines.map (.line call other)) =
      linesOf self log ++ if other = self then lines else [] := by
  unfold linesOf
  rw [List.filterMap_append, List.filterMap_map]
  by_cases same : other = self <;> simp [same]

theorem bytesOf_unknown {self : Nat} {read : List (Nat × Text)}
    (unknown : ∀ r ∈ read, r.1 ≠ self) : bytesOf self read = [] := by
  have none : (read.filter fun r => decide (r.1 = self)) = [] :=
    List.filter_eq_nil_iff.mpr fun r inside same => unknown r inside (of_decide_eq_true same)
  rw [bytesOf, none]
  rfl

variable {d : Daemon World} {fuel : Nat} {c : Circumstances World}

theorem onIncomingConnection_streams (streams : d.Streams) :
    (d.onIncomingConnection c).1.Streams := by
  unfold onIncomingConnection
  dsimp only
  split
  case isFalse => exact streams
  refine ⟨streams.lines, fun self connection stored => ?_,
    fun r inside => Nat.lt_succ_of_lt (streams.known r inside)⟩
  rcases Nested.insert_eq_some.mp stored with ⟨rfl, rfl⟩ | ⟨_, before⟩
  · refine ⟨fun flag => (by cases flag), ?_⟩
    rw [bytesOf_unknown fun r inside => Nat.ne_of_lt (streams.known r inside)]
    rfl
  · exact streams.live self connection before

theorem onOther_streams (streams : d.Streams) : (d.onOther c).1.Streams := by
  have same := TelnetServer.restCalls_same d.server c.others
  refine ⟨fun self => ?_, fun self connection stored => ?_, fun r inside => ?_⟩
  · refine Eq.trans ?_ (streams.lines self)
    exact (List.filterMap_append ..).trans (List.append_nil _)
  · apply streams.live self connection
    rw [← same.2.2.1]
    exact stored
  · exact Nat.lt_of_lt_of_eq (streams.known r inside) same.2.2.2.symm

/-- What a chunk comes to, on a server where the others keep what they have. -/
theorem heard_streams (streams : d.Streams) {self : Nat} {connection : Connection}
    (stored : d.server.objects[self]? = some connection) {chunk left : Text} {world : World}
    {lines sent : List Text}
    (completes : TelnetSession.Completes connection.session.kept chunk lines left)
    {server : TelnetServer} (same : server.nextObject = d.server.nextObject)
    (old : self < d.server.nextObject)
    (here : ∀ c : Connection, server.objects[self]? = some c →
      c.session.OverflowFull ∧ c.session.kept = left)
    (others : ∀ other : Nat, other ≠ self → server.objects[other]? = d.server.objects[other]?) :
    Streams { d.heard self chunk world lines sent with server := server } := by
  have split := completes (bytesOf self d.read) (streams.live self connection stored).2.symm
  refine ⟨fun other => ?_, fun other c found => ?_, fun r inside => ?_⟩
  · apply (linesOf_append other d.log d.calls self lines).trans
    dsimp only [heard]
    rw [bytesOf_append, streams.lines]
    by_cases apart : self = other
    · subst apart
      rw [if_pos rfl, if_pos rfl, split]
    · rw [if_neg apart, if_neg apart, List.append_nil, List.append_nil]
  · dsimp only [heard] at found ⊢
    rw [bytesOf_append]
    by_cases apart : self = other
    · subst apart
      rw [if_pos rfl, split]
      exact here c found
    · rw [if_neg apart, List.append_nil]
      rw [others other (Ne.symm apart)] at found
      exact streams.live other c found
  · dsimp only
    rw [same]
    rcases List.mem_append.mp inside with before | new
    · exact streams.known r before
    · rw [List.mem_singleton.mp new]
      exact old

theorem onIncomingData_streams (streams : d.Streams) (distinct : d.server.Distinct)
    (enough : 0 < fuel) (last : TelnetSession.NewlineLast c.waiting) {self : Nat}
    (lives : d.server.objects[self]?.isSome) :
    ∃ after, (d.onIncomingData fuel c self).1 = .ok after ∧ after.Streams := by
  obtain ⟨connection, stored⟩ := Option.isSome_iff_exists.mp lives
  have full := (streams.live self connection stored).1
  have fit : (c.waiting.take connection.session.remaining).length ≤
      connection.session.remaining := List.length_take_le _ _
  have chunk : TelnetSession.NewlineLast (c.waiting.take connection.session.remaining) :=
    TelnetSession.newlineLast_take last _
  have old := distinct.old self lives
  obtain ⟨received, result, framing⟩ := TelnetSession.receiveChunk_framing c.execute enough
    (c := ⟨connection.session, d.world, [], []⟩) full fit chunk
  unfold onIncomingData
  rw [stored]
  dsimp only
  rw [result]
  have same : ∀ s : TelnetServer, (s.restCalls c.others).1.nextObject = s.nextObject :=
    fun s => (TelnetServer.restCalls_same s c.others).2.2.2
  cases framing with
  | goes full handed completes =>
    refine ⟨_, rfl, ?_⟩
    rw [handed]
    refine heard_streams streams stored completes (same _) old (fun a found => ?_)
      fun other apart => ?_
    · rw [TelnetServer.restCalls_objects, TelnetServer.update, Nested.insert_self] at found
      cases found
      exact ⟨full, rfl⟩
    · rw [TelnetServer.restCalls_objects, TelnetServer.update,
        Nested.insert_other _ _ (Ne.symm apart)]
  | ends handed completes =>
    have destroyed : (d.server.restCalls c.others).1.destroy self = some (_, _) :=
      TelnetServer.destroy_eq_some.mpr
        ⟨connection, by rw [TelnetServer.restCalls_objects, stored], rfl, rfl⟩
    dsimp only
    rw [destroyed]
    refine ⟨_, rfl, ?_⟩
    rw [handed]
    refine heard_streams streams stored completes (same d.server) old (fun a found => ?_)
      fun other apart => ?_
    · exact absurd rfl (Nested.erase_eq_some.mp found).1
    · dsimp only [TelnetServer.removeSession]
      rw [TelnetServer.restCalls_objects]
      exact Nested.erase_other _ (Ne.symm apart)

theorem steady_streams {circumstances : Nat → Circumstances World} (enough : 0 < fuel)
    (last : ∀ n, TelnetSession.NewlineLast (circumstances n).waiting) :
    Steady fuel circumstances fun daemon => ∃ d, daemon = .ok d ∧ d.Streams := by
  rintro d m distinct owns ⟨_, same, streams⟩
  cases same
  have reacts : ∃ after, (d.react fuel (circumstances d.calls) m.callback).1 = .ok after ∧
      after.Streams := by
    unfold TelnetServer.Owns at owns
    split at owns
    · rename_i callback
      rw [callback]
      exact ⟨_, rfl, onIncomingConnection_streams streams⟩
    · rename_i self callback
      obtain ⟨c, stored, _⟩ := owns
      rw [callback]
      exact onIncomingData_streams streams distinct enough (last d.calls) (stored ▸ rfl)
    · rename_i callback
      rw [callback]
      exact ⟨_, rfl, onOther_streams streams⟩
  unfold callback
  dsimp only
  generalize d.react fuel (circumstances d.calls) m.callback = reaction at reacts
  obtain ⟨result, actions⟩ := reaction
  obtain ⟨after, rfl, kept⟩ := reacts
  exact ⟨_, rfl, kept.lines, kept.live, kept.known⟩

/-- Of any number of sessions, each hands over the lines of its own bytes and keeps their tail,
in whatever order they are read and whoever ends in between; and nothing goes wrong with any of
them. -/
theorem sessions_framed {socket : Int} {bound granted : Bool} {others : List (Action UserData)}
    {world : World} {start : Except Misuse (Daemon World) × MainLoop UserData}
    (booted : boot socket bound granted others world = some start) (enough : 0 < fuel)
    {circumstances : Nat → Circumstances World}
    (last : ∀ n, TelnetSession.NewlineLast (circumstances n).waiting) {batches : List (List Int)}
    {daemon : Except Misuse (Daemon World)} {l : MainLoop UserData}
    (ran : batches.foldl (MainLoop.iterate (callback fuel circumstances)) (some start) =
      some (daemon, l)) :
    ∃ d, daemon = .ok d ∧
      ∀ self, linesOf self d.log = (Lines.split newline (bytesOf self d.read)).1 ∧
        ∀ c : Connection, d.server.objects[self]? = some c →
          c.session.kept = (Lines.split newline (bytesOf self d.read)).2 := by
  have first : ∃ d, start.1 = .ok d ∧ d.Streams := by
    obtain ⟨⟨server, l⟩, started, rfl⟩ := Option.map_eq_some_iff.mp booted
    obtain ⟨_, rfl, _⟩ := start_eq_some started
    refine ⟨_, rfl, fun self => rfl, fun self c stored => ?_, fun r none => absurd none
      List.not_mem_nil⟩
    dsimp only at stored
    rw [TelnetServer.restCalls_objects] at stored
    simp at stored
  obtain ⟨d, same, streams⟩ := (run_keeps False.elim (steady_streams enough last)
    ⟨boot_inOrder booted False, first⟩ batches _ ran).2
  exact ⟨d, same, fun self => ⟨streams.lines self, fun c stored => (streams.live self c stored).2⟩⟩

theorem sessions_framed_visits : ∃ start daemon l,
    boot 3 true true [.addMonitor 4 .other true] () = some start ∧
    [[3], [4, 5], [3, 6], [5, 3]].foldl (MainLoop.iterate (callback 1 visits)) (some start) =
      some (daemon, l) ∧
    ∃ d, daemon = .ok d ∧ ∀ self,
      linesOf self d.log = (Lines.split newline (bytesOf self d.read)).1 ∧
      ∀ c : Connection, d.server.objects[self]? = some c →
        c.session.kept = (Lines.split newline (bytesOf self d.read)).2 := by
  obtain ⟨start, booted⟩ := Option.isSome_iff_exists.mp
    (by decide : (boot 3 true true [.addMonitor 4 .other true] ()).isSome = true)
  have alive : ([[3], [4, 5], [3, 6], [5, 3]].foldl (MainLoop.iterate (callback 1 visits))
      (some start)).isSome := run_alive (fun n fd inside => by
    cases List.mem_singleton.mp inside) (boot_inOrder booted False) _
  obtain ⟨⟨daemon, l⟩, ran⟩ := Option.isSome_iff_exists.mp alive
  exact ⟨start, daemon, l, booted, ran, sessions_framed booted (by decide) (fun _ => by
    unfold visits; decide) ran⟩

end Daemon

end OpenVrrp
