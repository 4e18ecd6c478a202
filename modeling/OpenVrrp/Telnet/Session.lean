import OpenVrrp.Library.Memory
import OpenVrrp.Text
import Mathlib.Algebra.Ring.Nat

/-! TelnetSession (telnetsession.h, telnetsession.cpp): how the bytes of a connection become
command lines. What a command does to the rest of the daemon is a parameter; it also gets
m_buffer, which `sendFormatted` prints into. -/
namespace OpenVrrp

/-- `sizeof(m_buffer)`. -/
def bufferCapacity : Nat := 1024

structure TelnetSession where
  buffer : Memory.Cells
  bufferSize : Nat
  overflow : Bool

def prompt : Text := ascii "OpenVRRP> "
def invalidCommand : Text := ascii "Invalid command" ++ [newline]

structure Answer (World : Type) where
  world : World
  buffer : Memory.Cells
  replies : List Text

abbrev Execute (World : Type) := World → List Text → Memory.Cells → Answer World

/-- A session and the rest of the daemon, with the lines given to `handleCommand` and the
replies sent so far. -/
structure Conversation (World : Type) where
  session : TelnetSession
  world : World
  handed : List Text
  sent : List Text

inductive Received (World : Type) where
  | undefined
  | deleted (world : World) (handed sent : List Text)
  | session (conversation : Conversation World)

namespace TelnetSession

/-- The constructor; m_buffer holds whatever was there. -/
def new {World : Type} (buffer : Memory.Cells) (world : World) : Conversation World where
  session := ⟨buffer, 0, false⟩
  world := world
  handed := []
  sent := [prompt]

def kept (s : TelnetSession) : Text := Memory.slice s.buffer 0 s.bufferSize

/-- The second argument of `read`. -/
def remaining (s : TelnetSession) : Nat := bufferCapacity - s.bufferSize

/-- The words of a command; `whiteSpace` says that the byte before was white space. -/
def splitCommand : (whiteSpace : Bool) → Text → List Text
  | _, [] => []
  | whiteSpace, b :: rest =>
    if isSpace b then splitCommand true rest
    else if whiteSpace then (b :: rest.takeWhile fun c => !isSpace c) :: splitCommand false rest
    else splitCommand false rest

/-- The zero bytes that `splitCommand` leaves behind each word. -/
def terminateWords : (whiteSpace : Bool) → Text → Text
  | _, [] => []
  | whiteSpace, b :: rest =>
    if isSpace b then (if whiteSpace then b else 0) :: terminateWords true rest
    else b :: terminateWords false rest

/-- A line without the white space at its end, up to its first zero byte. -/
def command (line : Text) : Text := cString (line.rdropWhile isSpace)

def arguments (line : Text) : List Text := splitCommand true (command line)

def isExit (line : Text) : Bool := (arguments line).head? == some (ascii "exit")

variable {World : Type} (execute : Execute World)

/-- `none` stands for the answer false of `onCommand`. -/
def handleCommand (world : World) (buffer : Memory.Cells) (size : Nat) :
    Option (Answer World) :=
  let line := Memory.slice buffer 0 size
  let buffer := Memory.store buffer (line.rdropWhile isSpace).length [0]
  let buffer := Memory.store buffer 0 (terminateWords true (command line))
  if 0 < (arguments line).length then
    if isExit line then none
    else
      let answer := execute world (arguments line) buffer
      some { answer with replies := answer.replies ++ [prompt] }
  else some ⟨world, buffer, [prompt]⟩

/-- The first half of the loop body: the line that ends at `nl`. -/
def handleLine (c : Conversation World) (nl : Nat) : Received World :=
  let buffer := Memory.store c.session.buffer nl [0]
  if c.session.overflow then
    .session { c with
      session := { c.session with buffer := buffer, overflow := false }
      sent := c.sent ++ [invalidCommand] }
  else
    let handed := c.handed ++ [Memory.slice buffer 0 nl]
    match handleCommand execute c.world buffer nl with
    | none => .deleted c.world handed c.sent
    | some answer => .session
      ⟨{ c.session with buffer := answer.buffer }, answer.world, handed, c.sent ++ answer.replies⟩

/-- The second half: move the tail down and look for the next newline. The count is an
unsigned 32-bit difference, and `none` stands for a `memmove` past the end of m_buffer. -/
def advance (s : TelnetSession) (size nl : Nat) : Option (TelnetSession × Option Nat) :=
  if nl + 1 < s.bufferSize then
    let count := (s.bufferSize + 2 ^ 32 - size - 1) % 2 ^ 32
    if nl + 1 + count ≤ bufferCapacity then
      let buffer := Memory.move s.buffer 0 (nl + 1) count
      some ({ s with buffer := buffer }, Memory.find buffer newline 0 s.bufferSize)
    else none
  else some ({ s with bufferSize := 0 }, none)

/-- The do-while loop from the newline at `nl`; the fuel bounds its iterations. -/
def handleLines (size : Nat) : (fuel : Nat) → Conversation World → (nl : Nat) →
    Option (Received World)
  | 0, _, _ => none
  | fuel + 1, c, nl =>
    match handleLine execute c nl with
    | .session c =>
      match advance c.session size nl with
      | none => some .undefined
      | some (s, none) => some (.session { c with session := s })
      | some (s, some nl) => handleLines size fuel { c with session := s } nl
    | ended => some ended

/-- The bytes of `read`; no bytes stand for a closed connection or an error. -/
def receiveChunk (fuel : Nat) (c : Conversation World) (chunk : Text) :
    Option (Received World) :=
  let size := chunk.length
  if size = 0 then some (.deleted c.world c.handed c.sent)
  else
    let buffer := Memory.store c.session.buffer c.session.bufferSize chunk
    let nl := Memory.find buffer newline c.session.bufferSize size
    let s := { c.session with buffer := buffer, bufferSize := c.session.bufferSize + size }
    match nl with
    | none =>
      if s.overflow then some (.session { c with session := { s with bufferSize := 0 } })
      else if s.bufferSize = bufferCapacity then
        some (.session { c with session := { s with overflow := true } })
      else some (.session { c with session := s })
    | some nl => handleLines execute size fuel { c with session := s } nl

def receiveChunks (fuel : Nat) : Conversation World → List Text → Option (Received World)
  | c, [] => some (.session c)
  | c, chunk :: rest =>
    match receiveChunk execute fuel c chunk with
    | some (.session c) => receiveChunks fuel c rest
    | ended => ended

end TelnetSession

end OpenVrrp
