import OpenVrrp.MainLoop
import OpenVrrp.Timer

/-! Timers on the main loop (timer.cpp). The timerfd of a Timer is monitored while the Timer is
armed, with Timer::callback, which neither reads the timerfd nor asks whether it has expired.
The clock of the kernel is part of the state; all times are in nanoseconds. -/
namespace OpenVrrp

structure Clocked where
  timer : Timer
  startedAt : Nat
  deriving DecidableEq

namespace Clocked

def Elapsed (c : Clocked) (now : Nat) : Prop := c.startedAt + c.timer.value.nanoseconds ≤ now

def Expired (c : Clocked) (now : Nat) : Prop := c.timer.Running ∧ c.Elapsed now

instance (c : Clocked) (now : Nat) : Decidable (c.Elapsed now) :=
  inferInstanceAs (Decidable (_ ≤ _))

instance (c : Clocked) (now : Nat) : Decidable (c.Expired now) :=
  inferInstanceAs (Decidable (_ ∧ _))

end Clocked

/-- What is monitored: `self` by its descriptor, or a descriptor that is not a timerfd. -/
inductive Callee where
  | timer (self : Int)
  | other
  deriving DecidableEq

/-- A user callback was invoked, with the Timer as Timer::callback found it. -/
structure Invocation where
  self : Int
  found : Clocked
  now : Nat

def Invocation.Due (i : Invocation) : Prop :=
  i.found.timer.armed = true ∧ i.found.Elapsed i.now

instance (i : Invocation) : Decidable i.Due := inferInstanceAs (Decidable (_ ∧ _))

/-- The calls of a callback; `wait` is the time that passes in between. -/
inductive TimerCall where
  | start (fd : Int) (msec : Nat) (accepted : Bool)
  | stop (fd : Int)
  | wait (nsec : Nat)

/-- The Timers by their descriptors, the clock, the state `user` of the callbacks, and the
invocations of user callbacks so far. -/
structure Clock (σ : Type*) where
  now : Nat
  timers : Std.TreeMap Int Clocked
  user : σ
  invoked : List Invocation

namespace Clock

variable {σ : Type*}

def start (w : Clock σ) (fd : Int) (msec : Nat) (accepted : Bool) :
    Clock σ × List (Action Callee) :=
  match w.timers[fd]? with
  | none => (w, [])
  | some c => ({ w with timers := w.timers.insert fd ⟨c.timer.start msec, w.now⟩ },
      if c.timer.armed then [] else [.addMonitor fd (.timer fd) accepted])

def stop (w : Clock σ) (fd : Int) : Clock σ × List (Action Callee) :=
  match w.timers[fd]? with
  | none => (w, [])
  | some c => ({ w with timers := w.timers.insert fd { c with timer := c.timer.stop } },
      if c.timer.armed then [.removeMonitor fd] else [])

def wait (w : Clock σ) (nsec : Nat) : Clock σ := { w with now := w.now + nsec }

def call (w : Clock σ) : TimerCall → Clock σ × List (Action Callee)
  | .start fd msec accepted => w.start fd msec accepted
  | .stop fd => w.stop fd
  | .wait nsec => (w.wait nsec, [])

def callAll (w : Clock σ) : List TimerCall → Clock σ × List (Action Callee)
  | [] => (w, [])
  | c :: rest =>
    let (next, actions) := w.call c
    let (last, more) := next.callAll rest
    (last, actions ++ more)

section React
variable (react : σ → Int → σ × List TimerCall)

def invoke (w : Clock σ) (fd : Int) : Clock σ × List (Action Callee) :=
  let (user, calls) := react w.user fd
  callAll { w with user := user } calls

/-- Timer::callback on the monitors of Timers. -/
def callback (w : Clock σ) (monitor : Monitor Callee) : Clock σ × List (Action Callee) :=
  match monitor.callback with
  | .other => w.invoke react monitor.fd
  | .timer self =>
    match w.timers[self]? with
    | none => (w, [])
    | some c =>
      if c.timer.armed then
        let (w, actions) := w.stop self
        let w : Clock σ := { w with invoked := w.invoked ++ [⟨self, c, w.now⟩] }
        let (w, more) := w.invoke react self
        (w, actions ++ more)
      else (w, [])

/-- Only a timerfd that has expired is ready. -/
def canBeReady (w : Clock σ) (fd : Int) : Bool :=
  match w.timers[fd]? with
  | none => true
  | some c => c.Expired w.now

def wake (s : Clock σ × MainLoop Callee) (elapsed : Nat) : Clock σ × MainLoop Callee :=
  (s.1.wait elapsed, s.2)

def batch (s : Clock σ × MainLoop Callee) (ready : List Int) : List EpollEvent :=
  s.2.batch (ready.filter s.1.canBeReady)

def iterate (system : Option (Clock σ × MainLoop Callee)) (wakeup : Nat × List Int) :
    Option (Clock σ × MainLoop Callee) :=
  system.bind fun s =>
    MainLoop.dispatchAll (callback react) (wake s wakeup.1) (batch (wake s wakeup.1) wakeup.2)

end React

def initial (user : σ) (fds others : List Int) : Clock σ × MainLoop Callee :=
  (⟨0, fds.foldl (fun timers fd => timers.insert fd (Clocked.mk .new 0)) ∅, user, []⟩,
    MainLoop.empty.perform
      ((others.filter (· ∉ fds)).map fun fd => .addMonitor fd .other true))

def apply (s : Clock σ × MainLoop Callee) (c : TimerCall) : Clock σ × MainLoop Callee :=
  ((s.1.call c).1, s.2.perform (s.1.call c).2)

def applyAll (s : Clock σ × MainLoop Callee) (calls : List TimerCall) :
    Clock σ × MainLoop Callee := calls.foldl apply s

end Clock

end OpenVrrp
