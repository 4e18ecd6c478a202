import OpenVrrp.MainLoop.Dispatch
import OpenVrrp.MainLoop.Timers
import OpenVrrp.Service
import Mathlib.Data.List.Dedup

/-! When Timer::callback is early. The batch of epoll_wait is fixed before any callback runs,
and an armed Timer that is started again keeps its place in it. -/
namespace OpenVrrp

open MainLoop

namespace Clock

variable {σ : Type*}

/-- The Monitor of the event is the one its descriptor is given: Timer::callback for an armed
Timer, another callback for a descriptor that belongs to no Timer. -/
def Attached (s : Clock σ × MainLoop Callee) (e : EpollEvent) : Prop :=
  match s.1.timers[e.fd]? with
  | none => s.2.objects[e.ptr]? = some ⟨.other, e.fd⟩
  | some c => c.timer.armed = true ∧ s.2.objects[e.ptr]? = some ⟨.timer e.fd, e.fd⟩

structure Sound (s : Clock σ × MainLoop Callee) : Prop where
  coherent : s.2.Coherent
  attached : ∀ e, s.2.Registered e → Attached s e

theorem Attached.transfer {s after : Clock σ × MainLoop Callee} {e : EpollEvent}
    (attached : Attached s e) (timer : after.1.timers[e.fd]? = s.1.timers[e.fd]?)
    (object : after.2.objects[e.ptr]? = s.2.objects[e.ptr]?) : Attached after e := by
  unfold Attached
  rw [timer, object]
  exact attached

theorem attached_armed {s : Clock σ × MainLoop Callee} {e : EpollEvent} {c : Clocked}
    (found : s.1.timers[e.fd]? = some c) :
    Attached s e ↔ c.timer.armed = true ∧ s.2.objects[e.ptr]? = some ⟨.timer e.fd, e.fd⟩ := by
  simp only [Attached, found]

theorem attached_other {s : Clock σ × MainLoop Callee} {e : EpollEvent}
    (found : s.1.timers[e.fd]? = none) :
    Attached s e ↔ s.2.objects[e.ptr]? = some ⟨.other, e.fd⟩ := by
  simp only [Attached, found]

/-! ### One call -/

def set (w : Clock σ) (fd : Int) (c : Clocked) : Clock σ :=
  { w with timers := w.timers.insert fd c }

theorem start_cases (s : Clock σ × MainLoop Callee) (fd : Int) (msec : Nat) (accepted : Bool) :
    (s.1.timers[fd]? = none ∧ apply s (.start fd msec accepted) = s) ∨
    ∃ c, s.1.timers[fd]? = some c ∧
      (c.timer.armed = true ∧ apply s (.start fd msec accepted) =
        (s.1.set fd ⟨c.timer.start msec, s.1.now⟩, s.2) ∨
      c.timer.armed = false ∧ apply s (.start fd msec accepted) =
        (s.1.set fd ⟨c.timer.start msec, s.1.now⟩,
          (s.2.addMonitor fd (.timer fd) accepted).1)) := by
  simp only [apply, call, start]
  cases found : s.1.timers[fd]? with
  | none => exact .inl ⟨rfl, rfl⟩
  | some c =>
    refine .inr ⟨c, rfl, ?_⟩
    cases armed : c.timer.armed with
    | true => exact .inl ⟨rfl, by simp only [armed]; rfl⟩
    | false => exact .inr ⟨rfl, by simp only [armed]; rfl⟩

theorem stop_cases (s : Clock σ × MainLoop Callee) (fd : Int) :
    (s.1.timers[fd]? = none ∧ apply s (.stop fd) = s) ∨
    ∃ c, s.1.timers[fd]? = some c ∧
      (c.timer.armed = true ∧ apply s (.stop fd) =
        (s.1.set fd ⟨c.timer.stop, c.startedAt⟩, (s.2.removeMonitor fd).1) ∨
      c.timer.armed = false ∧ apply s (.stop fd) =
        (s.1.set fd ⟨c.timer.stop, c.startedAt⟩, s.2)) := by
  simp only [apply, call, stop]
  cases found : s.1.timers[fd]? with
  | none => exact .inl ⟨rfl, rfl⟩
  | some c =>
    refine .inr ⟨c, rfl, ?_⟩
    cases armed : c.timer.armed with
    | true => exact .inl ⟨rfl, by simp only [armed]; rfl⟩
    | false => exact .inr ⟨rfl, by simp only [armed]; rfl⟩

theorem apply_coherent {s : Clock σ × MainLoop Callee} (sound : Sound s) (c : TimerCall) :
    (apply s c).2.Coherent := perform_coherent sound.coherent _

theorem start_sound {s : Clock σ × MainLoop Callee} (sound : Sound s) (fd : Int) (msec : Nat)
    (accepted : Bool) : Sound (apply s (.start fd msec accepted)) := by
  refine ⟨apply_coherent sound _, fun e registered => ?_⟩
  rcases start_cases s fd msec accepted with
    ⟨_, absent⟩ | ⟨c, found, ⟨armed, started⟩ | ⟨unarmed, started⟩⟩
  · rw [absent] at registered ⊢
    exact sound.attached e registered
  · rw [started] at registered ⊢
    have before := sound.attached e registered
    by_cases same : fd = e.fd
    · subst same
      exact (attached_armed (Nested.insert_self _ _ _)).mpr
        ⟨rfl, ((attached_armed found).mp before).2⟩
    · exact before.transfer (Nested.insert_other _ _ same) rfl
  · rw [started] at registered ⊢
    rcases addMonitor_registers sound.coherent registered with ⟨before, object⟩ | ⟨rfl, object⟩
    · have attached := sound.attached e before
      have other : fd ≠ e.fd := by
        rintro rfl
        rw [((attached_armed found).mp attached).1] at unarmed
        cases unarmed
      exact attached.transfer (Nested.insert_other _ _ other) object
    · exact (attached_armed (Nested.insert_self _ _ _)).mpr ⟨rfl, object⟩

theorem stop_sound {s : Clock σ × MainLoop Callee} (sound : Sound s) (fd : Int) :
    Sound (apply s (.stop fd)) := by
  refine ⟨apply_coherent sound _, fun e registered => ?_⟩
  rcases stop_cases s fd with ⟨_, absent⟩ | ⟨c, found, ⟨_, stopped⟩ | ⟨unarmed, stopped⟩⟩
  · rw [absent] at registered ⊢
    exact sound.attached e registered
  · rw [stopped] at registered ⊢
    obtain ⟨before, other, object⟩ := removeMonitor_registers sound.coherent registered
    exact (sound.attached e before).transfer (Nested.insert_other _ _ other.symm) object
  · rw [stopped] at registered ⊢
    have attached := sound.attached e registered
    have other : fd ≠ e.fd := by
      rintro rfl
      rw [((attached_armed found).mp attached).1] at unarmed
      cases unarmed
    exact attached.transfer (Nested.insert_other _ _ other) rfl

theorem apply_sound {s : Clock σ × MainLoop Callee} (sound : Sound s) (c : TimerCall) :
    Sound (apply s c) := by
  cases c with
  | start fd msec accepted => exact start_sound sound fd msec accepted
  | stop fd => exact stop_sound sound fd
  | wait nsec => exact ⟨sound.coherent, sound.attached⟩

/-! ### What a timer still owes -/

/-- How long a timer that was due has still to wait after a call, if it was not stopped. -/
def owe (fd : Int) : Option Nat → TimerCall → Option Nat
  | none, _ => none
  | some left, .start other msec _ => some (if other = fd then msec * 1000000 else left)
  | some left, .stop other => if other = fd then none else some left
  | some left, .wait nsec => some (left - nsec)

def owed (fd : Int) (calls : List TimerCall) : Option Nat := calls.foldl (owe fd) (some 0)

def Pending (s : Clock σ × MainLoop Callee) (e : EpollEvent) : Option Nat → Prop
  | none => s.2.Deleted e
  | some left => s.2.Registered e ∧ ∃ c, s.1.timers[e.fd]? = some c ∧ c.timer.armed = true ∧
      c.startedAt + c.timer.value.nanoseconds - s.1.now = left

theorem start_pending {s : Clock σ × MainLoop Callee} (sound : Sound s) {e : EpollEvent}
    {left : Nat} (pending : Pending s e (some left)) (fd : Int) (msec : Nat) (accepted : Bool) :
    Pending (apply s (.start fd msec accepted)) e
      (some (if fd = e.fd then msec * 1000000 else left)) := by
  obtain ⟨registered, c, found, armed, due⟩ := pending
  by_cases same : fd = e.fd
  · subst same
    rw [if_pos rfl]
    rcases start_cases s e.fd msec accepted with
      ⟨absent, _⟩ | ⟨d, present, ⟨_, started⟩ | ⟨unarmed, _⟩⟩
    · rw [found] at absent
      cases absent
    · rw [started]
      refine ⟨registered, _, Nested.insert_self _ _ _, rfl, ?_⟩
      simp only [Timer.start_nanoseconds, set]
      omega
    · rw [found, Option.some.injEq] at present
      rw [← present, armed] at unarmed
      cases unarmed
  · rw [if_neg same]
    rcases start_cases s fd msec accepted with
      ⟨_, absent⟩ | ⟨d, _, ⟨_, started⟩ | ⟨_, started⟩⟩
    · rw [absent]
      exact ⟨registered, c, found, armed, due⟩
    · rw [started]
      exact ⟨registered, c, (Nested.insert_other _ _ same).trans found, armed, due⟩
    · rw [started]
      exact ⟨addMonitor_registered sound.coherent registered fd _ accepted, c,
        (Nested.insert_other _ _ same).trans found, armed, due⟩

theorem stop_pending_self {s : Clock σ × MainLoop Callee} (sound : Sound s) {e : EpollEvent}
    {left : Nat} (pending : Pending s e (some left)) : (apply s (.stop e.fd)).2.Deleted e := by
  obtain ⟨registered, c, found, armed, _⟩ := pending
  rcases stop_cases s e.fd with ⟨absent, _⟩ | ⟨d, present, ⟨_, stopped⟩ | ⟨unarmed, _⟩⟩
  · rw [found] at absent
    cases absent
  · rw [stopped]
    exact removeMonitor_deletes sound.coherent registered
  · rw [found, Option.some.injEq] at present
    rw [← present, armed] at unarmed
    cases unarmed

theorem stop_pending_other {s : Clock σ × MainLoop Callee} (sound : Sound s) {e : EpollEvent}
    {left : Nat} (pending : Pending s e (some left)) {fd : Int} (other : fd ≠ e.fd) :
    Pending (apply s (.stop fd)) e (some left) := by
  obtain ⟨registered, c, found, armed, due⟩ := pending
  rcases stop_cases s fd with ⟨_, absent⟩ | ⟨d, _, ⟨_, stopped⟩ | ⟨_, stopped⟩⟩
  · rw [absent]
    exact ⟨registered, c, found, armed, due⟩
  · rw [stopped]
    exact ⟨removeMonitor_registered sound.coherent registered other, c,
      (Nested.insert_other _ _ other).trans found, armed, due⟩
  · rw [stopped]
    exact ⟨registered, c, (Nested.insert_other _ _ other).trans found, armed, due⟩

theorem apply_pending {s : Clock σ × MainLoop Callee} (sound : Sound s) {e : EpollEvent}
    {owing : Option Nat} (pending : Pending s e owing) (c : TimerCall) :
    Pending (apply s c) e (owe e.fd owing c) := by
  cases owing with
  | none => exact perform_deleted sound.coherent pending _
  | some left =>
    cases c with
    | start fd msec accepted => exact start_pending sound pending fd msec accepted
    | stop fd =>
      by_cases same : fd = e.fd
      · rw [owe, if_pos same, same]
        exact stop_pending_self sound pending
      · rw [owe, if_neg same]
        exact stop_pending_other sound pending same
    | wait nsec =>
      obtain ⟨registered, c, found, armed, due⟩ := pending
      refine ⟨registered, c, found, armed, ?_⟩
      simp only [apply, call, wait]
      omega

/-! ### The events still to come in a batch -/

/-- The event is of a descriptor that is not a timerfd, or of a Timer that was due when the
batch was fixed and has since seen the calls `done`. -/
structure Awaited (s : Clock σ × MainLoop Callee) (done : List TimerCall) (e : EpollEvent) :
    Prop where
  other : s.1.timers[e.fd]? = none → s.2.Registered e
  timer : s.1.timers[e.fd]?.isSome → Pending s e (owed e.fd done)

theorem set_isSome (w : Clock σ) {fd : Int} (c : Clocked) (known : w.timers[fd]?.isSome)
    (other : Int) : (w.set fd c).timers[other]?.isSome = w.timers[other]?.isSome := by
  by_cases same : fd = other
  · rw [← same, known, set, Nested.insert_self, Option.isSome_some]
  · rw [set, Nested.insert_other _ _ same]

theorem apply_isSome (s : Clock σ × MainLoop Callee) (c : TimerCall) (fd : Int) :
    (apply s c).1.timers[fd]?.isSome = s.1.timers[fd]?.isSome := by
  cases c with
  | start other msec accepted =>
    rcases start_cases s other msec accepted with
      ⟨_, absent⟩ | ⟨c, found, ⟨_, started⟩ | ⟨_, started⟩⟩
    · rw [absent]
    · rw [started]
      exact set_isSome s.1 _ (by rw [found]; rfl) fd
    · rw [started]
      exact set_isSome s.1 _ (by rw [found]; rfl) fd
  | stop other =>
    rcases stop_cases s other with ⟨_, absent⟩ | ⟨c, found, ⟨_, stopped⟩ | ⟨_, stopped⟩⟩
    · rw [absent]
    · rw [stopped]
      exact set_isSome s.1 _ (by rw [found]; rfl) fd
    · rw [stopped]
      exact set_isSome s.1 _ (by rw [found]; rfl) fd
  | wait nsec => rfl

theorem apply_registered {s : Clock σ × MainLoop Callee} (sound : Sound s) {e : EpollEvent}
    (registered : s.2.Registered e) (other : s.1.timers[e.fd]? = none) (c : TimerCall) :
    (apply s c).2.Registered e := by
  cases c with
  | start fd msec accepted =>
    rcases start_cases s fd msec accepted with
      ⟨_, absent⟩ | ⟨c, _, ⟨_, started⟩ | ⟨_, started⟩⟩
    · rwa [absent]
    · rwa [started]
    · rw [started]
      exact addMonitor_registered sound.coherent registered fd _ accepted
  | stop fd =>
    rcases stop_cases s fd with ⟨_, absent⟩ | ⟨c, found, ⟨_, stopped⟩ | ⟨_, stopped⟩⟩
    · rwa [absent]
    · rw [stopped]
      apply removeMonitor_registered sound.coherent registered
      rintro rfl
      rw [other] at found
      cases found
    · rwa [stopped]
  | wait nsec => exact registered

theorem owed_append (fd : Int) (done calls : List TimerCall) :
    owed fd (done ++ calls) = calls.foldl (owe fd) (owed fd done) := List.foldl_append

theorem apply_awaited {s : Clock σ × MainLoop Callee} (sound : Sound s) {done : List TimerCall}
    {e : EpollEvent} (awaited : Awaited s done e) (c : TimerCall) :
    Awaited (apply s c) (done ++ [c]) e := by
  have known := apply_isSome s c e.fd
  constructor
  · intro absent
    rw [absent, Option.isSome_none, eq_comm, Option.isSome_eq_false_iff,
      Option.isNone_iff_eq_none] at known
    exact apply_registered sound (awaited.other known) known c
  · intro timer
    rw [known] at timer
    rw [owed_append]
    exact apply_pending sound (awaited.timer timer) c

theorem applyAll_sound {s : Clock σ × MainLoop Callee} (sound : Sound s)
    (calls : List TimerCall) : Sound (applyAll s calls) :=
  Runs.foldl_keeps Sound calls (fun _ c _ held => apply_sound held c) sound

theorem applyAll_awaited {s : Clock σ × MainLoop Callee} (sound : Sound s)
    {done : List TimerCall} {e : EpollEvent} (awaited : Awaited s done e)
    (calls : List TimerCall) : Awaited (applyAll s calls) (done ++ calls) e := by
  induction calls generalizing s done with
  | nil => rwa [List.append_nil]
  | cons c rest ih =>
    rw [List.append_cons]
    exact ih (apply_sound sound c) (apply_awaited sound awaited c)

theorem stop_awaited {s : Clock σ × MainLoop Callee} (sound : Sound s) {done : List TimerCall}
    {e : EpollEvent} (awaited : Awaited s done e) {fd : Int} (other : fd ≠ e.fd) :
    Awaited (apply s (.stop fd)) done e := by
  have after := apply_awaited sound awaited (.stop fd)
  have same : owed e.fd (done ++ [.stop fd]) = owed e.fd done := by
    rw [owed_append, List.foldl_cons, List.foldl_nil]
    cases owed e.fd done with
    | none => rfl
    | some left => rw [owe, if_neg other]
  exact ⟨after.other, fun timer => same ▸ after.timer timer⟩

/-! ### The calls of a callback, one after the other -/

theorem callAll_eq (w : Clock σ) (l : MainLoop Callee) (calls : List TimerCall) :
    ((w.callAll calls).1, l.perform (w.callAll calls).2) = applyAll (w, l) calls := by
  induction calls generalizing w l with
  | nil => rfl
  | cons c rest ih =>
    have tail := ih (w.call c).1 (l.perform (w.call c).2)
    simp only [callAll, applyAll, List.foldl_cons, perform, List.foldl_append] at tail ⊢
    exact tail

theorem call_invoked (w : Clock σ) (c : TimerCall) : (w.call c).1.invoked = w.invoked := by
  cases c with
  | start fd msec accepted =>
    simp only [call, start]
    split <;> rfl
  | stop fd =>
    simp only [call, stop]
    split <;> rfl
  | wait nsec => rfl

theorem applyAll_invoked (s : Clock σ × MainLoop Callee) (calls : List TimerCall) :
    (applyAll s calls).1.invoked = s.1.invoked :=
  Runs.foldl_keeps (fun after : Clock σ × MainLoop Callee => after.1.invoked = s.1.invoked) calls
    (fun after c _ held => (call_invoked after.1 c).trans held) rfl

section React
variable (react : σ → Int → σ × List TimerCall)

theorem dispatch_other {s : Clock σ × MainLoop Callee} (sound : Sound s) {e : EpollEvent}
    (registered : s.2.Registered e) (other : s.1.timers[e.fd]? = none) :
    dispatch (callback react) s e.ptr = some (applyAll
      ({ s.1 with user := (react s.1.user e.fd).1 }, s.2) (react s.1.user e.fd).2) := by
  have object := (attached_other other).mp (sound.attached e registered)
  simp only [dispatch, object, Option.map_some, callback, invoke, callAll_eq]

def handed (s : Clock σ × MainLoop Callee) (fd : Int) (c : Clocked) :
    Clock σ × MainLoop Callee :=
  ({ (apply s (.stop fd)).1 with
      user := (react s.1.user fd).1
      invoked := s.1.invoked ++ [⟨fd, c, s.1.now⟩] }, (apply s (.stop fd)).2)

theorem dispatch_timer {s : Clock σ × MainLoop Callee} (sound : Sound s) {e : EpollEvent}
    (registered : s.2.Registered e) {c : Clocked} (found : s.1.timers[e.fd]? = some c) :
    dispatch (callback react) s e.ptr =
      some (applyAll (handed react s e.fd c) (react s.1.user e.fd).2) := by
  obtain ⟨armed, object⟩ := (attached_armed found).mp (sound.attached e registered)
  simp only [dispatch, object, Option.map_some, callback, found, armed, if_true, invoke, handed,
    ← callAll_eq, apply, call, stop, perform, List.foldl_append]

/-- The event of a stopped Timer uses its deleted Monitor. Any other event runs a callback, and
one of a Timer is recorded with what the Timer owes. -/
theorem dispatch_awaited {s : Clock σ × MainLoop Callee} (sound : Sound s)
    {done : List TimerCall} {e : EpollEvent} (awaited : Awaited s done e) :
    (dispatch (callback react) s e.ptr = none ∧ s.1.timers[e.fd]?.isSome ∧
      owed e.fd done = none) ∨
    ∃ next, dispatch (callback react) s e.ptr = some next ∧ Sound next ∧
      (∀ d, e.fd ≠ d.fd → Awaited s done d →
        Awaited next (done ++ (react s.1.user e.fd).2) d) ∧
      (s.1.timers[e.fd]? = none ∧ next.1.invoked = s.1.invoked ∨
        ∃ c left, s.1.timers[e.fd]? = some c ∧ c.timer.armed = true ∧
          owed e.fd done = some left ∧
          c.startedAt + c.timer.value.nanoseconds - s.1.now = left ∧
          next.1.invoked = s.1.invoked ++ [⟨e.fd, c, s.1.now⟩]) := by
  cases found : s.1.timers[e.fd]? with
  | none =>
    have start : Sound ({ s.1 with user := (react s.1.user e.fd).1 }, s.2) :=
      ⟨sound.coherent, sound.attached⟩
    refine .inr ⟨_, dispatch_other react sound (awaited.other found) found,
      applyAll_sound start _, fun d _ waiting => ?_, .inl ⟨rfl, applyAll_invoked _ _⟩⟩
    exact applyAll_awaited start ⟨waiting.other, waiting.timer⟩ _
  | some c =>
    have pending := awaited.timer (by rw [found]; rfl)
    cases owing : owed e.fd done with
    | none =>
      rw [owing] at pending
      exact .inl ⟨dispatch_deleted _ pending, rfl, rfl⟩
    | some left =>
      rw [owing] at pending
      obtain ⟨registered, d, present, armed, due⟩ := pending
      rw [found, Option.some.injEq] at present
      subst present
      have stopped := apply_sound sound (.stop e.fd)
      have start : Sound (handed react s e.fd c) := ⟨stopped.coherent, stopped.attached⟩
      refine .inr ⟨_, dispatch_timer react sound registered found, applyAll_sound start _,
        fun d other waiting => ?_, .inr ⟨c, left, rfl, armed, rfl, due, applyAll_invoked _ _⟩⟩
      have after := stop_awaited sound waiting other
      exact applyAll_awaited start ⟨after.other, after.timer⟩ _

/-! ### One batch -/

/-- No Timer in the rest of the batch owes anything when its event is reached: it was not
stopped, and what it was last started with has passed. -/
def Punctual (s : Clock σ × MainLoop Callee) (done : List TimerCall) : List EpollEvent → Prop
  | [] => True
  | e :: rest => (s.1.timers[e.fd]?.isSome → owed e.fd done = some 0) ∧
      ∀ next, dispatch (callback react) s e.ptr = some next →
        Punctual next (done ++ (react s.1.user e.fd).2) rest

theorem due_iff (fd : Int) (c : Clocked) (now : Nat) : (Invocation.mk fd c now).Due ↔
    c.timer.armed = true ∧ c.startedAt + c.timer.value.nanoseconds - now = 0 := by
  simp only [Invocation.Due, Clocked.Elapsed, Nat.sub_eq_zero_iff_le]

/-- No deleted Monitor was used, and every user callback was invoked when it was due. -/
def OnTime : Option (Clock σ × MainLoop Callee) → Prop
  | none => False
  | some s => ∀ i ∈ s.1.invoked, i.Due

instance : (system : Option (Clock σ × MainLoop Callee)) → Decidable (OnTime system)
  | none => isFalse id
  | some s => inferInstanceAs (Decidable (∀ i ∈ s.1.invoked, i.Due))

theorem dispatchAll_sound {s : Clock σ × MainLoop Callee} (sound : Sound s)
    {done : List TimerCall} {events : List EpollEvent}
    (apart : (events.map EpollEvent.fd).Nodup) (awaited : ∀ e ∈ events, Awaited s done e)
    {last : Clock σ × MainLoop Callee}
    (ran : dispatchAll (callback react) s events = some last) :
    Sound last ∧ ∀ i ∈ s.1.invoked, i ∈ last.1.invoked := by
  induction events generalizing s done with
  | nil =>
    cases ran
    exact ⟨sound, fun _ inside => inside⟩
  | cons e rest ih =>
    obtain ⟨fresh, apart⟩ := List.nodup_cons.mp apart
    rw [dispatchAll] at ran
    rcases dispatch_awaited react sound (awaited e List.mem_cons_self) with
      ⟨deleted, _⟩ | ⟨next, handled, sound', waiting, recorded⟩
    · rw [deleted] at ran
      cases ran
    · rw [handled] at ran
      obtain ⟨sound'', kept⟩ := ih sound' apart (fun d inside => waiting d
        (fun same => fresh (same ▸ List.mem_map_of_mem inside))
        (awaited d (List.mem_cons_of_mem e inside))) ran
      refine ⟨sound'', fun i inside => kept i ?_⟩
      rcases recorded with ⟨_, same⟩ | ⟨c, left, _, _, _, _, more⟩
      · rwa [same]
      · rw [more]
        exact List.mem_append_left _ inside

theorem dispatchAll_onTime_iff {s : Clock σ × MainLoop Callee} (sound : Sound s)
    (due : ∀ i ∈ s.1.invoked, i.Due) {done : List TimerCall} {events : List EpollEvent}
    (apart : (events.map EpollEvent.fd).Nodup) (awaited : ∀ e ∈ events, Awaited s done e) :
    OnTime (dispatchAll (callback react) s events) ↔ Punctual react s done events := by
  induction events generalizing s done with
  | nil => exact iff_of_true due trivial
  | cons e rest ih =>
    obtain ⟨fresh, apart⟩ := List.nodup_cons.mp apart
    rw [dispatchAll, Punctual]
    rcases dispatch_awaited react sound (awaited e List.mem_cons_self) with
      ⟨deleted, timer, stopped⟩ | ⟨next, handled, sound', waiting, recorded⟩
    · rw [deleted]
      apply iff_of_false id
      intro both
      rw [stopped] at both
      cases both.1 timer
    · have waiting' : ∀ d ∈ rest, Awaited next (done ++ (react s.1.user e.fd).2) d :=
        fun d inside => waiting d (fun same => fresh (same ▸ List.mem_map_of_mem inside))
          (awaited d (List.mem_cons_of_mem e inside))
      simp only [handled, Option.some.injEq, forall_eq']
      rcases recorded with ⟨other, same⟩ | ⟨c, left, found, armed, owing, left_eq, more⟩
      · rw [other, Option.isSome_none, and_iff_right (fun absent => by cases absent)]
        exact ih sound' (by rwa [same]) apart waiting'
      · rw [found, Option.isSome_some, owing, Option.some.injEq, forall_prop_of_true rfl]
        by_cases zero : left = 0
        · rw [and_iff_right zero]
          refine ih sound' ?_ apart waiting'
          intro i inside
          rw [more] at inside
          rcases List.mem_append.mp inside with inside | inside
          · exact due i inside
          · cases List.mem_singleton.mp inside
            exact (due_iff _ _ _).mpr ⟨armed, left_eq.trans zero⟩
        · refine iff_of_false (fun onTime => zero ?_) fun both => zero both.1
          cases ran : dispatchAll (callback react) next rest with
          | none =>
            rw [ran] at onTime
            cases onTime
          | some last =>
            rw [ran] at onTime
            have kept := (dispatchAll_sound react sound' apart waiting' ran).2
            have recorded : Invocation.mk e.fd c s.1.now ∈ last.1.invoked :=
              kept _ (by rw [more]; exact List.mem_append_right _ (List.mem_singleton.mpr rfl))
            exact left_eq.symm.trans ((due_iff _ _ _).mp (onTime _ recorded)).2

/-! ### Runs -/

theorem batch_apart (l : MainLoop Callee) (ready : List Int) :
    ((l.batch ready).map EpollEvent.fd).Sublist ready.dedup := by
  have every : ∀ fds : List Int,
      ((fds.filterMap fun fd => l.interest[fd]?.map (EpollEvent.mk fd)).map EpollEvent.fd).Sublist
        fds := by
    intro fds
    induction fds with
    | nil => exact List.Sublist.refl _
    | cons fd rest ih =>
      rw [List.filterMap_cons]
      cases l.interest[fd]? with
      | none => exact ih.cons fd
      | some ptr => exact ih.cons_cons fd
  unfold MainLoop.batch
  split
  · exact ((List.take_sublist _ _).map _).trans (every _)
  · exact List.nil_sublist _

theorem batch_awaited {s : Clock σ × MainLoop Callee} (sound : Sound s) {ready : List Int}
    {e : EpollEvent} (inside : e ∈ batch s ready) : Awaited s [] e := by
  have registered := batch_registered sound.coherent inside
  refine ⟨fun _ => registered, fun timer => ?_⟩
  obtain ⟨c, found⟩ := Option.isSome_iff_exists.mp timer
  have armed := ((attached_armed found).mp (sound.attached e registered)).1
  have reported : e.fd ∈ ready.filter s.1.canBeReady :=
    List.mem_dedup.mp ((batch_apart s.2 _).subset (List.mem_map_of_mem inside))
  have expired : c.Expired s.1.now := by
    simpa [canBeReady, found] using (List.mem_filter.mp reported).2
  exact ⟨registered, c, found, armed, Nat.sub_eq_zero_of_le expired.2⟩

theorem initial_sound (user : σ) (fds others : List Int) : Sound (initial user fds others) := by
  have unknown : ∀ fd, fd ∉ fds → (initial user fds others).1.timers[fd]? = none := by
    intro fd other
    refine Runs.foldl_keeps (fun timers : Std.TreeMap Int Clocked => timers[fd]? = none) fds
      (fun timers a inside absent => ?_) Std.TreeMap.getElem?_emptyc
    have apart : a ≠ fd := fun same => other (same ▸ inside)
    exact (Nested.insert_other _ _ apart).trans absent
  have monitors : (initial user fds others).2.Coherent ∧
      ∀ e, (initial user fds others).2.Registered e → e.fd ∉ fds ∧
        (initial user fds others).2.objects[e.ptr]? = some ⟨.other, e.fd⟩ := by
    refine Runs.foldl_keeps (fun l : MainLoop Callee => l.Coherent ∧ ∀ e, l.Registered e →
      e.fd ∉ fds ∧ l.objects[e.ptr]? = some ⟨.other, e.fd⟩) _ ?_ ⟨empty_coherent, ?_⟩
    · rintro l a inside ⟨coherent, held⟩
      obtain ⟨fd, filtered, rfl⟩ := List.mem_map.mp inside
      have other : fd ∉ fds := by simpa using (List.mem_filter.mp filtered).2
      refine ⟨act_coherent coherent _, fun e registered => ?_⟩
      rcases addMonitor_registers coherent registered with ⟨before, object⟩ | ⟨rfl, object⟩
      · exact ⟨(held e before).1, object.trans (held e before).2⟩
      · exact ⟨other, object⟩
    · intro e registered
      have found := registered.monitor
      simp [empty] at found
  exact ⟨monitors.1, fun e registered =>
    (attached_other (unknown e.fd (monitors.2 e registered).1)).mpr (monitors.2 e registered).2⟩

theorem wake_sound {s : Clock σ × MainLoop Callee} (sound : Sound s) (elapsed : Nat) :
    Sound (wake s elapsed) := ⟨sound.coherent, sound.attached⟩

theorem batch_nodup (s : Clock σ × MainLoop Callee) (ready : List Int) :
    ((batch s ready).map EpollEvent.fd).Nodup :=
  (batch_apart s.2 _).nodup (List.nodup_dedup _)

/-- Whatever Timers and monitors there are, whatever calls came before, whenever epoll_wait
returns and with whatever batch: every user callback is invoked on time if and only if no
Timer owes anything when its event is reached. -/
theorem onTime_iff (user : σ) (fds others : List Int) (calls : List TimerCall)
    (wakeups : List (Nat × List Int)) :
    Runs.Always (iterate react) OnTime (some (applyAll (initial user fds others) calls)) wakeups ↔
      Runs.Admitted (iterate react)
        (fun system wakeup => ∀ s, system = some s →
          Punctual react (wake s wakeup.1) [] (batch (wake s wakeup.1) wakeup.2))
        (some (applyAll (initial user fds others) calls)) wakeups := by
  have exact_step : ∀ (s : Clock σ × MainLoop Callee) wakeup, Sound s → OnTime (some s) →
      (OnTime (iterate react (some s) wakeup) ↔
        Punctual react (wake s wakeup.1) [] (batch (wake s wakeup.1) wakeup.2)) :=
    fun s wakeup sound due => dispatchAll_onTime_iff react (wake_sound sound _) due
      (batch_nodup _ _) fun e inside => batch_awaited (wake_sound sound _) inside
  have start : Sound (applyAll (initial user fds others) calls) :=
    applyAll_sound (initial_sound user fds others) calls
  refine Runs.always_iff_admitted
    (fun system : Option (Clock σ × MainLoop Callee) => ∀ s, system = some s → Sound s)
    ?_ ?_ ?_ ?_ ?_ wakeups
  · intro system wakeup sound last ran
    obtain ⟨s, rfl, handled⟩ := Option.bind_eq_some_iff.mp ran
    have woken := wake_sound (sound s rfl) wakeup.1
    exact (dispatchAll_sound react woken (batch_nodup _ _)
      (fun e inside => batch_awaited woken inside) handled).1
  · intro system wakeup sound onTime punctual
    cases system with
    | none => cases onTime
    | some s => exact (exact_step s wakeup (sound s rfl) onTime).mpr (punctual s rfl)
  · intro system wakeup sound onTime refused later
    cases system with
    | none => cases onTime
    | some s =>
      apply refused
      intro t same
      cases same
      exact (exact_step s wakeup (sound s rfl) onTime).mp later
  · rintro s same
    cases same
    exact start
  · intro i inside
    rw [applyAll_invoked] at inside
    cases inside

end React

/-! ### A Backup whose timer expires as an advertisement arrives -/

def rearm (fd : Int) (timer : Timer) : TimerCall :=
  .start fd (timer.value.nanoseconds / 1000000) true

/-- Descriptor 3 is the master-down timer of the service, 4 its advertisement timer and 5 the
VRRP socket, on which an advertisement with priority 150 waits. -/
def service (s : VrrpService) (fd : Int) : VrrpService × List TimerCall :=
  if fd = 5 then
    let s := (s.step (.incomingPacket (.sample 2) 150 s.masterAdvertisementInterval [])).1
    (s, [rearm 3 s.masterDownTimer])
  else
    let s := (s.step .masterDownExpiry).1
    (s, [rearm 4 s.advertisementTimer])

def backup : VrrpService := ((VrrpService.sample 1).step (.enable true)).1

def waiting : Clock VrrpService × MainLoop Callee :=
  applyAll (initial backup [3, 4] [5]) [rearm 3 backup.masterDownTimer]

/-- The advertisement is handled first and starts the master-down timer again, but the Backup
becomes Master in the same batch. -/
theorem stale_expiry :
    ¬ Runs.Always (iterate service) OnTime (some waiting) [(3600000000, [5, 3])] ∧
    (iterate service (some waiting) (3600000000, [5, 3])).map (·.1.user.state) =
      some .master := by
  refine ⟨?_, by decide⟩
  rintro ⟨_, onTime⟩
  exact absurd onTime.start (by decide)

end Clock

end OpenVrrp
