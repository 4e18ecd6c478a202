import OpenVrrp.MainLoop.Dispatch
import OpenVrrp.Telnet.Session

/-! TelnetServer (telnetserver.h, telnetserver.cpp) and its sessions on the main loop, which the
rest of the daemon uses as well. A TelnetSession lives on the heap until it is deleted, and its
Monitor keeps its pointer. -/
namespace OpenVrrp

/-- The callback of a Monitor with its userData. -/
inductive UserData where
  | server
  | session (self : Nat)
  | other
  deriving DecidableEq

/-- What a callback must not do: use a session that is deleted, move bytes from behind m_buffer,
or stay in the loop over the lines for longer than its fuel lasts. -/
inductive Misuse where
  | freed
  | overrun
  | endless
  deriving DecidableEq

structure Connection where
  socket : Int
  session : TelnetSession

/-- `objects` are the sessions on the heap; `rest` are the descriptors of the rest of the
daemon. -/
structure TelnetServer where
  socket : Int
  sessions : Std.TreeSet Nat
  objects : Std.TreeMap Nat Connection
  nextObject : Nat
  rest : Std.TreeSet Int

/-- What the kernel and the rest of the daemon do during one callback. -/
structure Circumstances (World : Type) where
  accepted : Int
  granted : Bool
  buffer : Memory.Cells
  waiting : Text
  execute : Execute World
  elsewhere : World → World
  others : List (Action UserData)

/-- A line that a session handed over, or a callback of the rest of the daemon. -/
inductive Entry where
  | line (call self : Nat) (line : Text)
  | elsewhere (call : Nat)
  deriving DecidableEq

/-- The server and the rest of the daemon, with what has been read and written so far. -/
structure Daemon (World : Type) where
  server : TelnetServer
  world : World
  calls : Nat
  read : List (Nat × Text)
  log : List Entry
  written : List (Nat × Text)

namespace TelnetServer

/-- Whether the descriptor is one of the server or of a session. -/
def holds (s : TelnetServer) (fd : Int) : Bool :=
  decide (fd = s.socket) || s.objects.toList.any fun e => decide (e.2.socket = fd)

/-- `accept`: the kernel gives out no descriptor that is in use. -/
def accept (s : TelnetServer) (accepted : Int) : Int :=
  if s.holds accepted = true ∨ accepted ∈ s.rest then -1 else accepted

/-! ### The calls of the rest of the daemon -/

/-- The rest of the daemon has descriptors and callbacks of its own. -/
def foreign (s : TelnetServer) : Action UserData → Bool
  | .addMonitor fd callback _ => !s.holds fd && decide (callback = .other)
  | .removeMonitor fd => !s.holds fd

def track (s : TelnetServer) : Action UserData → TelnetServer
  | .addMonitor fd _ _ => { s with rest := s.rest.insert fd }
  | .removeMonitor fd => { s with rest := s.rest.erase fd }

def restCalls (s : TelnetServer) : List (Action UserData) → TelnetServer × List (Action UserData)
  | [] => (s, [])
  | a :: rest =>
    if s.foreign a then
      let (t, actions) := (s.track a).restCalls rest
      (t, a :: actions)
    else s.restCalls rest

/-! ### Sessions -/

/-- The constructor of a TelnetSession, and its place in m_sessions. -/
def create (s : TelnetServer) (fd : Int) (buffer : Memory.Cells) (granted : Bool) :
    TelnetServer × List (Action UserData) :=
  let self := s.nextObject
  ({ s with
      sessions := s.sessions.insert self
      objects := s.objects.insert self ⟨fd, ⟨buffer, 0, false⟩⟩
      nextObject := self + 1 },
    [.addMonitor fd (.session self) granted])

/-- A session after it has received a chunk. -/
def update (s : TelnetServer) (self : Nat) (c : Connection) (session : TelnetSession) :
    TelnetServer :=
  { s with objects := s.objects.insert self { c with session := session } }

def removeSession (s : TelnetServer) (self : Nat) : TelnetServer :=
  { s with sessions := s.sessions.erase self }

/-- `delete` of a TelnetSession; there is no result where it has been deleted before. -/
def destroy (s : TelnetServer) (self : Nat) :
    Option (TelnetServer × List (Action UserData)) :=
  s.objects[self]?.map fun connection =>
    (removeSession { s with objects := s.objects.erase self } self,
      [.removeMonitor connection.socket])

/-! ### The server -/

/-- `socket` and `bound` are the answers of `socket` and of `bind` and `listen`. -/
def start (l : MainLoop UserData) (socket : Int) (bound granted : Bool) :
    Option (TelnetServer × MainLoop UserData) :=
  if socket = -1 then none
  else if bound then
    match l.addMonitor socket .server granted with
    | (l, true) => some (⟨socket, ∅, ∅, 0, ∅⟩, l)
    | (_, false) => none
  else none

/-- The loop of `stop`, as often as there are sessions. -/
def destroyAll : (count : Nat) → TelnetServer → Option (TelnetServer × List (Action UserData))
  | 0, s => some (s, [])
  | count + 1, s =>
    match s.sessions.min? with
    | none => some (s, [])
    | some self => do
      let (t, first) ← s.destroy self
      let (u, more) ← destroyAll count t
      return (u, first ++ more)

def stop (s : TelnetServer) : Option (TelnetServer × List (Action UserData)) :=
  if s.socket ≠ -1 then
    ({ s with socket := -1 }.destroyAll s.sessions.size).map fun (t, actions) =>
      (t, .removeMonitor s.socket :: actions)
  else s.destroyAll s.sessions.size

end TelnetServer

namespace Daemon

variable {World : Type} (fuel : Nat) (c : Circumstances World) (d : Daemon World)

def onIncomingConnection : Daemon World × List (Action UserData) :=
  let fd := d.server.accept c.accepted
  if fd ≠ -1 then
    let (server, actions) := d.server.create fd c.buffer c.granted
    ({ d with
        server := server
        written := d.written ++ [(d.server.nextObject, prompt)] }, actions)
  else (d, [])

/-- What a chunk of a session comes to outside of the server. -/
def heard (self : Nat) (chunk : Text) (world : World) (handed sent : List Text) : Daemon World :=
  { d with
    world := world
    read := d.read ++ [(self, chunk)]
    log := d.log ++ handed.map (.line d.calls self)
    written := d.written ++ sent.map (Prod.mk self) }

/-- `receiveChunk` of the session that the Monitor points to. -/
def onIncomingData (self : Nat) :
    Except Misuse (Daemon World) × List (Action UserData) :=
  match d.server.objects[self]? with
  | none => (.error .freed, [])
  | some connection =>
    let chunk := c.waiting.take connection.session.remaining
    match TelnetSession.receiveChunk c.execute fuel ⟨connection.session, d.world, [], []⟩ chunk with
    | none => (.error .endless, [])
    | some .undefined => (.error .overrun, [])
    | some (.session e) =>
      let (server, actions) := (d.server.update self connection e.session).restCalls c.others
      (.ok { d.heard self chunk e.world e.handed e.sent with server := server }, actions)
    | some (.deleted world handed sent) =>
      let (server, actions) := d.server.restCalls c.others
      match server.destroy self with
      | none => (.error .freed, actions)
      | some (server, last) =>
        (.ok { d.heard self chunk world handed sent with server := server }, actions ++ last)

/-- A callback of the rest of the daemon. -/
def onOther : Daemon World × List (Action UserData) :=
  let (server, actions) := d.server.restCalls c.others
  ({ d with
      server := server
      world := c.elsewhere d.world
      log := d.log ++ [.elsewhere d.calls] }, actions)

def react (callback : UserData) : Except Misuse (Daemon World) × List (Action UserData) :=
  match callback with
  | .server => (d.onIncomingConnection c).map .ok id
  | .session self => d.onIncomingData fuel c self
  | .other => (d.onOther c).map .ok id

/-- The callbacks one after the other, each in circumstances of its own. -/
def callback (fuel : Nat) (circumstances : Nat → Circumstances World)
    (daemon : Except Misuse (Daemon World)) (monitor : Monitor UserData) :
    Except Misuse (Daemon World) × List (Action UserData) :=
  match daemon with
  | .error misuse => (.error misuse, [])
  | .ok d =>
    let (daemon, actions) := d.react fuel (circumstances d.calls) monitor.callback
    (daemon.map fun d => { d with calls := d.calls + 1 }, actions)

/-- The start of the daemon: the server first, then what the rest of the daemon asks for. -/
def boot (socket : Int) (bound granted : Bool) (others : List (Action UserData))
    (world : World) : Option (Except Misuse (Daemon World) × MainLoop UserData) :=
  (TelnetServer.start .empty socket bound granted).map fun (server, l) =>
    let (server, actions) := server.restCalls others
    (.ok ⟨server, world, 0, [], [], []⟩, l.perform actions)

end Daemon

end OpenVrrp
