import Mathlib.Data.Nat.Basic

/-! Timer (timer.h, timer.cpp): a timerfd and the flag that says it is monitored.
The main loop that calls `callback` is modelled in `OpenVrrp.MainLoop`. -/
namespace OpenVrrp

structure Timespec where
  sec : Nat
  nsec : Nat
  deriving DecidableEq, Repr

/-- A zero `it_value` disarms the timerfd. -/
def Timespec.zero : Timespec := ⟨0, 0⟩

def Timespec.nanoseconds (t : Timespec) : Nat := t.sec * 1000000000 + t.nsec

/-- `value` is the `it_value` last given to timerfd_settime. -/
@[ext] structure Timer where
  armed : Bool
  value : Timespec
  deriving DecidableEq, Repr

namespace Timer

def new : Timer := ⟨false, .zero⟩

def start (_ : Timer) (msec : Nat) : Timer :=
  ⟨true, ⟨msec / 1000, msec % 1000 * 1000000⟩⟩

def stop (t : Timer) : Timer := if t.armed then ⟨false, .zero⟩ else t

def Running (t : Timer) : Prop := t.value ≠ .zero

instance (t : Timer) : Decidable t.Running := inferInstanceAs (Decidable (t.value ≠ .zero))

theorem start_nanoseconds (t : Timer) (msec : Nat) :
    (t.start msec).value.nanoseconds = msec * 1000000 := by
  simp only [Timespec.nanoseconds, start]
  omega

theorem start_running_iff (t : Timer) (msec : Nat) : (t.start msec).Running ↔ 1 ≤ msec := by
  have whole : msec = msec / 1000 * 1000 + msec % 1000 := by omega
  simp only [Running, start, Timespec.zero, ne_eq, Timespec.mk.injEq, not_and_or]
  omega

end Timer

end OpenVrrp
