import OpenVrrp.Library.Nested

/-! MainLoop (mainloop.h, mainloop.cpp). A Monitor lives on the heap until it is deleted, and
epoll hands its pointer back in every event. A callback is modelled by the calls of addMonitor
and removeMonitor it makes; what else it does happens in a world of its own. -/
namespace OpenVrrp

/-- `callback` stands for the function pointer together with its userData. -/
structure Monitor (κ : Type*) where
  callback : κ
  fd : Int

/-- `interest` is the interest list of m_fd: the descriptors and their `data.ptr`. -/
structure MainLoop (κ : Type*) where
  objects : Std.TreeMap Nat (Monitor κ)
  nextObject : Nat
  monitors : Std.TreeMap Int Nat
  interest : Std.TreeMap Int Nat

/-- An event of epoll_wait. The code reads `ptr` only; `fd` is what the kernel reports on. -/
structure EpollEvent where
  fd : Int
  ptr : Nat
  deriving DecidableEq, Repr

/-- What a callback asks of the main loop. `accepted` is false where epoll_ctl refuses the
descriptor for a reason of its own. -/
inductive Action (κ : Type*) where
  | addMonitor (fd : Int) (callback : κ) (accepted : Bool)
  | removeMonitor (fd : Int)

namespace MainLoop

variable {κ W : Type*}

def empty : MainLoop κ := ⟨∅, 0, ∅, ∅⟩

def delete (l : MainLoop κ) (ptr : Nat) : MainLoop κ := { l with objects := l.objects.erase ptr }

/-- EPOLL_CTL_ADD fails on a descriptor that is in the interest list. -/
def addMonitor (l : MainLoop κ) (fd : Int) (callback : κ) (accepted : Bool) :
    MainLoop κ × Bool :=
  let monitor := l.nextObject
  let l := { l with
    objects := l.objects.insert monitor ⟨callback, fd⟩
    nextObject := monitor + 1 }
  if accepted = false ∨ l.interest[fd]?.isSome then (l.delete monitor, false)
  else
    let l := { l with interest := l.interest.insert fd monitor }
    match l.monitors[fd]? with
    | some old => ({ l.delete old with monitors := l.monitors.insert fd monitor }, true)
    | none => ({ l with monitors := l.monitors.insert fd monitor }, true)

/-- A failing EPOLL_CTL_DEL is logged only: the descriptor is not in the interest list. -/
def removeMonitor (l : MainLoop κ) (fd : Int) : MainLoop κ × Bool :=
  match l.monitors[fd]? with
  | none => (l, false)
  | some monitor =>
    let l := { l with interest := l.interest.erase fd }
    let l := l.delete monitor
    ({ l with monitors := l.monitors.erase fd }, true)

def act (l : MainLoop κ) : Action κ → MainLoop κ
  | .addMonitor fd callback accepted => (l.addMonitor fd callback accepted).1
  | .removeMonitor fd => (l.removeMonitor fd).1

def perform (l : MainLoop κ) (actions : List (Action κ)) : MainLoop κ := actions.foldl act l

def batchSize : Nat := 16

def epollWait (l : MainLoop κ) (ready : List Int) : List EpollEvent :=
  (ready.dedup.filterMap fun fd => l.interest[fd]?.map (EpollEvent.mk fd)).take batchSize

/-- The events that `run` loops over; with no monitor left it returns. -/
def batch (l : MainLoop κ) (ready : List Int) : List EpollEvent :=
  if 0 < l.monitors.size then l.epollWait ready else []

section Run
variable (callback : W → Monitor κ → W × List (Action κ))

/-- One event of a batch; `none` is the use of a Monitor that has been deleted. -/
def dispatch (system : W × MainLoop κ) (ptr : Nat) : Option (W × MainLoop κ) :=
  system.2.objects[ptr]?.map fun monitor =>
    ((callback system.1 monitor).1, system.2.perform (callback system.1 monitor).2)

def dispatchAll : W × MainLoop κ → List EpollEvent → Option (W × MainLoop κ)
  | system, [] => some system
  | system, e :: rest =>
    match dispatch callback system e.ptr with
    | none => none
    | some next => dispatchAll next rest

def iterate (system : Option (W × MainLoop κ)) (ready : List Int) : Option (W × MainLoop κ) :=
  system.bind fun system => dispatchAll callback system (system.2.batch ready)

end Run

end MainLoop

end OpenVrrp
