import OpenVrrp.Isolation
import OpenVrrp.Telnet.Lifecycle
import OpenVrrp.Telnet.Overflow

/-! Many sessions, one daemon: the lines of all of them are served one after the other, in the
order in which their ends were read, and each session gets the replies to its own. -/
namespace OpenVrrp

namespace TelnetSession

/-- `answer`, with what the replies leave in m_buffer. -/
def executes (libc : Libc) (kernel : Kernel) (outside : Outside)
    (scribble : List Text → Memory.Cells → Memory.Cells) : Execute (Option VrrpManager) :=
  fun world argv buffer =>
    match world.bind fun m => answer libc kernel outside m argv with
    | none => ⟨none, buffer, []⟩
    | some (m, replies) => ⟨some m, scribble argv buffer, replies⟩

/-- What is written after a line, with the replies to it. -/
def spoken (line : Text) (replies : List Text) : List Text :=
  if isExit line then [] else replies ++ [prompt]

/-- Between the two states the lines were served, and what was sent are their replies. -/
def Talked (libc : Libc) (kernel : Kernel) (outside : Outside) (world next : Option VrrpManager)
    (lines sent : List Text) : Prop :=
  ∀ t, next = some t → ∃ m replies, world = some m ∧
    Unwinding.run (fun m line => m.serve libc (.input (.line kernel line), outside)) m lines =
      some (t, replies) ∧
    sent = (List.zipWith spoken lines replies).flatten

variable {libc : Libc} {kernel : Kernel} {outside : Outside}
  {scribble : List Text → Memory.Cells → Memory.Cells} {world next : Option VrrpManager}

theorem Talked.trans {last : Option VrrpManager} {lines more sent later : List Text}
    (first : Talked libc kernel outside world next lines sent)
    (second : Talked libc kernel outside next last more later) :
    Talked libc kernel outside world last (lines ++ more) (sent ++ later) := by
  intro t same
  obtain ⟨m, replies, middle, ran, rfl⟩ := second t same
  obtain ⟨s, before, start, begun, rfl⟩ := first m middle
  refine ⟨s, before ++ replies, start, Unwinding.run_append begun ran, ?_⟩
  rw [List.zipWith_append (Unwinding.run_length begun).symm, List.flatten_append]

/-- What a session has handed over and sent since, and that it was served. -/
def Continues (libc : Libc) (kernel : Kernel) (outside : Outside)
    (c : Conversation (Option VrrpManager))
    (world : Option VrrpManager) (handed sent : List Text) : Prop :=
  ∃ lines replies, handed = c.handed ++ lines ∧ sent = c.sent ++ replies ∧
    Talked libc kernel outside c.world world lines replies

def Serves (libc : Libc) (kernel : Kernel) (outside : Outside)
    (c : Conversation (Option VrrpManager)) :
    Received (Option VrrpManager) → Prop
  | .undefined => True
  | .deleted world handed sent => Continues libc kernel outside c world handed sent
  | .session d => Continues libc kernel outside c d.world d.handed d.sent

variable {c d : Conversation (Option VrrpManager)} {fuel : Nat}

theorem Continues.trans {handed sent : List Text}
    (first : Continues libc kernel outside c d.world d.handed d.sent)
    (second : Continues libc kernel outside d world handed sent) :
    Continues libc kernel outside c world handed sent := by
  obtain ⟨lines, replies, handed', sent', talked⟩ := first
  obtain ⟨more, later, rfl, rfl, talks⟩ := second
  refine ⟨lines ++ more, replies ++ later, ?_, ?_, talked.trans talks⟩
  · rw [handed', List.append_assoc]
  · rw [sent', List.append_assoc]

theorem Serves.after {received : Received (Option VrrpManager)}
    (first : Continues libc kernel outside c d.world d.handed d.sent)
    (second : Serves libc kernel outside d received) : Serves libc kernel outside c received := by
  cases received with
  | undefined => trivial
  | deleted world handed sent => exact first.trans second
  | session e => exact first.trans second

end TelnetSession

/-! ### The daemon -/

/-- What surrounds one callback of the daemon, the same for all lines that it reads. -/
structure Surroundings where
  accepted : Int
  granted : Bool
  buffer : Memory.Cells
  waiting : Text
  kernel : Kernel
  outside : Outside
  scribble : List Text → Memory.Cells → Memory.Cells
  events : List { e : RouterKey × Event // ¬ e.2.Setter }
  others : List (Action UserData)

namespace Surroundings

def happenings (s : Surroundings) : List Happening :=
  s.events.map fun e => .input (.event e.1.1 e.1.2 e.2)

def circumstances (libc : Libc) (s : Surroundings) : Circumstances (Option VrrpManager) where
  accepted := s.accepted
  granted := s.granted
  buffer := s.buffer
  waiting := s.waiting
  execute := TelnetSession.executes libc s.kernel s.outside s.scribble
  elsewhere := fun world => world.bind fun m => s.happenings.foldlM (VrrpManager.happen libc) m
  others := s.others

end Surroundings

namespace Entry

variable (surroundings : Nat → Surroundings)

def happenings : Entry → List Happening
  | .line call _ said => [.input (.line (surroundings call).kernel said)]
  | .elsewhere call => (surroundings call).happenings

def serve (libc : Libc) (m : VrrpManager) : Entry → Option (VrrpManager × List Text)
  | .line call _ said =>
    m.serve libc (.input (.line (surroundings call).kernel said), (surroundings call).outside)
  | .elsewhere call =>
    ((surroundings call).happenings.foldlM (VrrpManager.happen libc) m).map fun t => (t, [])

/-- What of the replies to an entry is written to the session. -/
def repliesTo (self : Nat) : Entry → List Text → List Text
  | .line _ other said, replies => if other = self then TelnetSession.spoken said replies else []
  | .elsewhere _, _ => []

end Entry

namespace Daemon

/-- What has been written to the session. -/
def addressed (self : Nat) (written : List (Nat × Text)) : List Text :=
  (written.filter fun w => decide (w.1 = self)).map Prod.snd

/-- The state is the one that the log leads to, and the replies went to where they belong. -/
def Answered (libc : Libc) (surroundings : Nat → Surroundings) (first : VrrpManager)
    (world : Option VrrpManager) (sessions : Nat) (log : List Entry)
    (written : List (Nat × Text)) : Prop :=
  ∀ m, world = some m → ∃ replies,
    Unwinding.run (Entry.serve surroundings libc) first log = some (m, replies) ∧
    ∀ self, addressed self written = (if self < sessions then [prompt] else []) ++
      (List.zipWith (Entry.repliesTo self) log replies).flatten

variable {libc : Libc} {surroundings : Nat → Surroundings} {first : VrrpManager}
  {world next : Option VrrpManager} {sessions : Nat} {log : List Entry}
  {written : List (Nat × Text)}

variable {d : Daemon (Option VrrpManager)}

/-- Two clients that set up a router each, one of them in pieces. The other one looks at both. -/
def clients (call : Nat) : Surroundings where
  accepted := 5 + call
  granted := true
  buffer := fun _ => 0
  waiting :=
    if call = 2 then ascii "add router eth0 1" ++ [newline]
    else if call = 3 then ascii "add router"
    else if call = 4 then ascii " eth0 2" ++ [newline]
    else if call = 5 then ascii "show router" ++ [newline]
    else ascii "exit" ++ [newline]
  kernel := .sample
  outside := .sample
  scribble := fun _ buffer => buffer
  events := []
  others := []

/-- The end of their sessions. -/
def served : Option (Except Misuse (Daemon (Option VrrpManager)) × MainLoop UserData) :=
  [[3], [3], [5, 6], [6], [5], [5]].foldl
    (MainLoop.iterate (callback 1 fun n => (clients n).circumstances .sample))
    (boot 3 true true [.addMonitor 4 .other true] (some .empty))

end Daemon

end OpenVrrp
