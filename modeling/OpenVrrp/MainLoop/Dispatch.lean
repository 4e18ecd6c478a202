import OpenVrrp.Library.Runs
import OpenVrrp.MainLoop

/-! When MainLoop::run uses a deleted Monitor. The events of a batch keep the pointers of
Monitors, and removeMonitor deletes one without a look at the events still to come. -/
namespace OpenVrrp

namespace MainLoop

variable {κ W : Type*}

structure Registered (l : MainLoop κ) (e : EpollEvent) : Prop where
  monitor : l.monitors[e.fd]? = some e.ptr
  interest : l.interest[e.fd]? = some e.ptr
  object : ∃ m, l.objects[e.ptr]? = some m ∧ m.fd = e.fd

structure Deleted (l : MainLoop κ) (e : EpollEvent) : Prop where
  object : l.objects[e.ptr]? = none
  old : e.ptr < l.nextObject

/-- epoll and the main loop agree on the descriptors, and their Monitors exist. -/
structure Coherent (l : MainLoop κ) : Prop where
  agree : ∀ fd : Int, l.interest[fd]? = l.monitors[fd]?
  registered : ∀ e : EpollEvent, l.monitors[e.fd]? = some e.ptr → l.Registered e
  fresh : ∀ ptr : Nat, l.nextObject ≤ ptr → l.objects[ptr]? = none

theorem empty_coherent : Coherent (empty : MainLoop κ) where
  agree _ := rfl
  registered _ found := by simp [empty] at found
  fresh _ _ := by simp [empty]

theorem Registered.old {l : MainLoop κ} {e : EpollEvent} (registered : l.Registered e)
    (coherent : l.Coherent) : e.ptr < l.nextObject := by
  by_contra late
  obtain ⟨m, found, _⟩ := registered.object
  rw [coherent.fresh e.ptr (Nat.le_of_not_lt late)] at found
  cases found

/-! ### addMonitor and removeMonitor -/

theorem addMonitor_cases {l : MainLoop κ} (coherent : l.Coherent) (fd : Int) (callback : κ)
    (accepted : Bool) :
    (l.addMonitor fd callback accepted = ({ l with
        objects := (l.objects.insert l.nextObject ⟨callback, fd⟩).erase l.nextObject
        nextObject := l.nextObject + 1 }, false) ∧
      (accepted = false ∨ l.monitors[fd]?.isSome)) ∨
    (l.addMonitor fd callback accepted = (⟨l.objects.insert l.nextObject ⟨callback, fd⟩,
        l.nextObject + 1, l.monitors.insert fd l.nextObject,
        l.interest.insert fd l.nextObject⟩, true) ∧
      accepted = true ∧ l.monitors[fd]? = none) := by
  unfold addMonitor
  dsimp only
  rw [coherent.agree fd]
  split
  · rename_i refused
    exact .inl ⟨rfl, refused⟩
  · rename_i granted
    obtain ⟨accepted, vacant⟩ := not_or.mp granted
    have vacant : l.monitors[fd]? = none := by simpa using vacant
    simp only [vacant]
    exact .inr ⟨trivial, by simpa using accepted, trivial⟩

theorem removeMonitor_cases (l : MainLoop κ) (fd : Int) :
    (l.removeMonitor fd = (l, false) ∧ l.monitors[fd]? = none) ∨
    ∃ ptr, l.monitors[fd]? = some ptr ∧ l.removeMonitor fd = (⟨l.objects.erase ptr, l.nextObject,
      l.monitors.erase fd, l.interest.erase fd⟩, true) := by
  unfold removeMonitor
  cases found : l.monitors[fd]? with
  | none => exact .inl ⟨rfl, rfl⟩
  | some ptr => exact .inr ⟨ptr, rfl, rfl⟩

theorem Registered.transfer {l after : MainLoop κ} {e : EpollEvent} (registered : l.Registered e)
    (monitor : after.monitors[e.fd]? = l.monitors[e.fd]?)
    (interest : after.interest[e.fd]? = l.interest[e.fd]?)
    (object : after.objects[e.ptr]? = l.objects[e.ptr]?) : after.Registered e where
  monitor := monitor.trans registered.monitor
  interest := interest.trans registered.interest
  object := by rw [object]; exact registered.object

theorem addMonitor_registered {l : MainLoop κ} (coherent : l.Coherent) {e : EpollEvent}
    (registered : l.Registered e) (fd : Int) (callback : κ) (accepted : Bool) :
    (l.addMonitor fd callback accepted).1.Registered e := by
  have apart : l.nextObject ≠ e.ptr := Nat.ne_of_gt (registered.old coherent)
  rcases addMonitor_cases coherent fd callback accepted with ⟨refused, _⟩ | ⟨granted, _, vacant⟩
  · rw [refused]
    refine registered.transfer rfl rfl ?_
    rw [Nested.erase_other _ apart, Nested.insert_other _ _ apart]
  · rw [granted]
    have other : fd ≠ e.fd := by
      rintro rfl
      rw [registered.monitor] at vacant
      cases vacant
    exact registered.transfer (Nested.insert_other _ _ other) (Nested.insert_other _ _ other)
      (Nested.insert_other _ _ apart)

theorem removeMonitor_registered {l : MainLoop κ} (coherent : l.Coherent) {e : EpollEvent}
    (registered : l.Registered e) {fd : Int} (other : fd ≠ e.fd) :
    (l.removeMonitor fd).1.Registered e := by
  rcases removeMonitor_cases l fd with ⟨absent, _⟩ | ⟨ptr, found, removed⟩
  · rw [absent]
    exact registered
  · rw [removed]
    have apart : ptr ≠ e.ptr := by
      rintro rfl
      obtain ⟨m, object, same⟩ := (coherent.registered ⟨fd, e.ptr⟩ found).object
      obtain ⟨m', object', same'⟩ := registered.object
      rw [object, Option.some.injEq] at object'
      exact other (same.symm.trans (object' ▸ same'))
    exact registered.transfer (Nested.erase_other _ other) (Nested.erase_other _ other)
      (Nested.erase_other _ apart)

theorem addMonitor_deleted {l : MainLoop κ} (coherent : l.Coherent) {e : EpollEvent}
    (deleted : l.Deleted e) (fd : Int) (callback : κ) (accepted : Bool) :
    (l.addMonitor fd callback accepted).1.Deleted e := by
  have apart : l.nextObject ≠ e.ptr := Nat.ne_of_gt deleted.old
  rcases addMonitor_cases coherent fd callback accepted with ⟨refused, _⟩ | ⟨granted, _, _⟩
  · rw [refused]
    refine ⟨?_, Nat.lt_succ_of_lt deleted.old⟩
    rw [Nested.erase_other _ apart, Nested.insert_other _ _ apart]
    exact deleted.object
  · rw [granted]
    refine ⟨?_, Nat.lt_succ_of_lt deleted.old⟩
    rw [Nested.insert_other _ _ apart]
    exact deleted.object

theorem removeMonitor_deleted {l : MainLoop κ} {e : EpollEvent} (deleted : l.Deleted e)
    (fd : Int) : (l.removeMonitor fd).1.Deleted e := by
  rcases removeMonitor_cases l fd with ⟨absent, _⟩ | ⟨ptr, _, removed⟩
  · rw [absent]
    exact deleted
  · rw [removed]
    refine ⟨?_, deleted.old⟩
    by_cases same : ptr = e.ptr
    · rw [same]
      exact Nested.erase_self _ _
    · rw [Nested.erase_other _ same]
      exact deleted.object

theorem removeMonitor_deletes {l : MainLoop κ} (coherent : l.Coherent) {e : EpollEvent}
    (registered : l.Registered e) : (l.removeMonitor e.fd).1.Deleted e := by
  have old := registered.old coherent
  simp only [removeMonitor, registered.monitor]
  exact ⟨Nested.erase_self _ _, old⟩

theorem addMonitor_coherent {l : MainLoop κ} (coherent : l.Coherent) (fd : Int) (callback : κ)
    (accepted : Bool) : (l.addMonitor fd callback accepted).1.Coherent := by
  have kept : ∀ e : EpollEvent, l.monitors[e.fd]? = some e.ptr →
      (l.addMonitor fd callback accepted).1.Registered e := fun e found =>
    addMonitor_registered coherent (coherent.registered e found) fd callback accepted
  rcases addMonitor_cases coherent fd callback accepted with ⟨refused, _⟩ | ⟨granted, _, _⟩
  · rw [refused] at kept ⊢
    refine ⟨coherent.agree, kept, fun ptr late => ?_⟩
    have apart : l.nextObject ≠ ptr := Nat.ne_of_lt late
    rw [Nested.erase_other _ apart, Nested.insert_other _ _ apart]
    exact coherent.fresh ptr (Nat.le_of_lt late)
  · rw [granted] at kept ⊢
    refine ⟨fun other => ?_, fun e found => ?_, fun ptr late => ?_⟩
    · by_cases same : fd = other
      · rw [same, Nested.insert_self, Nested.insert_self]
      · rw [Nested.insert_other _ _ same, Nested.insert_other _ _ same]
        exact coherent.agree other
    · by_cases same : fd = e.fd
      · rw [same, Nested.insert_self, Option.some.injEq] at found
        refine ⟨?_, ?_, ⟨callback, fd⟩, ?_, same⟩
        · rw [same, Nested.insert_self, found]
        · rw [same, Nested.insert_self, found]
        · rw [← found, Nested.insert_self]
      · exact kept e (by rwa [Nested.insert_other _ _ same] at found)
    · rw [Nested.insert_other _ _ (Nat.ne_of_lt late)]
      exact coherent.fresh ptr (Nat.le_of_lt late)

theorem removeMonitor_coherent {l : MainLoop κ} (coherent : l.Coherent) (fd : Int) :
    (l.removeMonitor fd).1.Coherent := by
  have kept : ∀ e : EpollEvent, l.monitors[e.fd]? = some e.ptr → fd ≠ e.fd →
      (l.removeMonitor fd).1.Registered e := fun e found other =>
    removeMonitor_registered coherent (coherent.registered e found) other
  rcases removeMonitor_cases l fd with ⟨absent, _⟩ | ⟨ptr, _, removed⟩
  · rw [absent]
    exact coherent
  · rw [removed] at kept ⊢
    refine ⟨fun other => ?_, fun e found => ?_, fun late old => ?_⟩
    · by_cases same : fd = other
      · rw [same, Nested.erase_self, Nested.erase_self]
      · rw [Nested.erase_other _ same, Nested.erase_other _ same]
        exact coherent.agree other
    · have other : fd ≠ e.fd := by
        rintro rfl
        rw [Nested.erase_self] at found
        cases found
      exact kept e (by rwa [Nested.erase_other _ other] at found) other
    · by_cases same : ptr = late
      · rw [same]
        exact Nested.erase_self _ _
      · rw [Nested.erase_other _ same]
        exact coherent.fresh late old

theorem addMonitor_registers {l : MainLoop κ} (coherent : l.Coherent) {fd : Int} {callback : κ}
    {accepted : Bool} {e : EpollEvent}
    (after : (l.addMonitor fd callback accepted).1.Registered e) :
    (l.Registered e ∧ (l.addMonitor fd callback accepted).1.objects[e.ptr]? = l.objects[e.ptr]?) ∨
      (e.fd = fd ∧
        (l.addMonitor fd callback accepted).1.objects[e.ptr]? = some ⟨callback, fd⟩) := by
  have found := after.monitor
  rcases addMonitor_cases coherent fd callback accepted with ⟨refused, _⟩ | ⟨granted, _, _⟩
  · rw [refused] at found ⊢
    have registered := coherent.registered e found
    have apart : l.nextObject ≠ e.ptr := Nat.ne_of_gt (registered.old coherent)
    exact .inl ⟨registered, by rw [Nested.erase_other _ apart, Nested.insert_other _ _ apart]⟩
  · rw [granted] at found ⊢
    by_cases same : fd = e.fd
    · rw [same, Nested.insert_self, Option.some.injEq] at found
      exact .inr ⟨same.symm, by rw [← found, Nested.insert_self]⟩
    · rw [Nested.insert_other _ _ same] at found
      have registered := coherent.registered e found
      have apart : l.nextObject ≠ e.ptr := Nat.ne_of_gt (registered.old coherent)
      exact .inl ⟨registered, Nested.insert_other _ _ apart⟩

theorem removeMonitor_registers {l : MainLoop κ} (coherent : l.Coherent) {fd : Int}
    {e : EpollEvent} (after : (l.removeMonitor fd).1.Registered e) :
    l.Registered e ∧ e.fd ≠ fd ∧ (l.removeMonitor fd).1.objects[e.ptr]? = l.objects[e.ptr]? := by
  obtain ⟨m, object, _⟩ := after.object
  have found := after.monitor
  rcases removeMonitor_cases l fd with ⟨absent, vacant⟩ | ⟨ptr, _, removed⟩
  · rw [absent] at found ⊢
    refine ⟨coherent.registered e found, ?_, rfl⟩
    rintro rfl
    rw [vacant] at found
    cases found
  · rw [removed] at found object ⊢
    have other : fd ≠ e.fd := by
      rintro rfl
      rw [Nested.erase_self] at found
      cases found
    rw [Nested.erase_other _ other] at found
    have apart : ptr ≠ e.ptr := by
      rintro rfl
      rw [Nested.erase_self] at object
      cases object
    exact ⟨coherent.registered e found, other.symm, Nested.erase_other _ apart⟩

/-! ### The calls of a callback -/

def Removes : Action κ → Int → Prop
  | .removeMonitor fd, other => fd = other
  | .addMonitor .., _ => False

theorem act_coherent {l : MainLoop κ} (coherent : l.Coherent) (a : Action κ) :
    (l.act a).Coherent := by
  cases a with
  | addMonitor fd callback accepted => exact addMonitor_coherent coherent fd callback accepted
  | removeMonitor fd => exact removeMonitor_coherent coherent fd

theorem act_registered {l : MainLoop κ} (coherent : l.Coherent) {e : EpollEvent}
    (registered : l.Registered e) {a : Action κ} (spared : ¬ Removes a e.fd) :
    (l.act a).Registered e := by
  cases a with
  | addMonitor fd callback accepted =>
    exact addMonitor_registered coherent registered fd callback accepted
  | removeMonitor fd => exact removeMonitor_registered coherent registered spared

theorem act_deleted {l : MainLoop κ} (coherent : l.Coherent) {e : EpollEvent}
    (deleted : l.Deleted e) (a : Action κ) : (l.act a).Deleted e := by
  cases a with
  | addMonitor fd callback accepted =>
    exact addMonitor_deleted coherent deleted fd callback accepted
  | removeMonitor fd => exact removeMonitor_deleted deleted fd

theorem act_deletes {l : MainLoop κ} (coherent : l.Coherent) {e : EpollEvent}
    (registered : l.Registered e) {a : Action κ} (removed : Removes a e.fd) :
    (l.act a).Deleted e := by
  cases a with
  | addMonitor fd callback accepted => cases removed
  | removeMonitor fd =>
    cases removed
    exact removeMonitor_deletes coherent registered

theorem perform_coherent {l : MainLoop κ} (coherent : l.Coherent) (actions : List (Action κ)) :
    (l.perform actions).Coherent :=
  Runs.foldl_keeps Coherent actions (fun _ a _ held => act_coherent held a) coherent

theorem perform_deleted {l : MainLoop κ} (coherent : l.Coherent) {e : EpollEvent}
    (deleted : l.Deleted e) (actions : List (Action κ)) : (l.perform actions).Deleted e :=
  (Runs.foldl_keeps (fun l => Coherent l ∧ l.Deleted e) actions
    (fun _ a _ held => ⟨act_coherent held.1 a, act_deleted held.1 held.2 a⟩)
    ⟨coherent, deleted⟩).2

theorem perform_registered {l : MainLoop κ} (coherent : l.Coherent) {e : EpollEvent}
    (registered : l.Registered e) {actions : List (Action κ)}
    (spared : ∀ a ∈ actions, ¬ Removes a e.fd) : (l.perform actions).Registered e :=
  (Runs.foldl_keeps (fun l => Coherent l ∧ l.Registered e) actions
    (fun _ a inside held => ⟨act_coherent held.1 a, act_registered held.1 held.2 (spared a inside)⟩)
    ⟨coherent, registered⟩).2

theorem perform_deletes {l : MainLoop κ} (coherent : l.Coherent) {e : EpollEvent}
    (registered : l.Registered e) {actions : List (Action κ)}
    (removed : ∃ a ∈ actions, Removes a e.fd) : (l.perform actions).Deleted e := by
  induction actions generalizing l with
  | nil =>
    obtain ⟨a, inside, _⟩ := removed
    cases inside
  | cons first rest ih =>
    by_cases now : Removes first e.fd
    · exact perform_deleted (act_coherent coherent first)
        (act_deletes coherent registered now) rest
    · obtain ⟨a, inside, later⟩ := removed
      rcases List.mem_cons.mp inside with rfl | inside
      · exact absurd later now
      · exact ih (act_coherent coherent first) (act_registered coherent registered now)
          ⟨a, inside, later⟩

/-! ### One batch -/

section Run
variable (callback : W → Monitor κ → W × List (Action κ))

def calls (system : W × MainLoop κ) (ptr : Nat) : List (Action κ) :=
  (system.2.objects[ptr]?.map fun monitor => (callback system.1 monitor).2).getD []

/-- No callback that is run for an event removes the descriptor of a later event. -/
def SparesLater (system : W × MainLoop κ) : List EpollEvent → Prop
  | [] => True
  | e :: rest =>
    (∀ a ∈ calls callback system e.ptr, ∀ later ∈ rest, ¬ Removes a later.fd) ∧
      ∀ next, dispatch callback system e.ptr = some next → SparesLater next rest

theorem dispatch_deleted {system : W × MainLoop κ} {e : EpollEvent}
    (deleted : system.2.Deleted e) : dispatch callback system e.ptr = none := by
  rw [dispatch, deleted.object, Option.map_none]

theorem dispatch_registered {system : W × MainLoop κ} {e : EpollEvent}
    (registered : system.2.Registered e) : ∃ world, dispatch callback system e.ptr =
      some (world, system.2.perform (calls callback system e.ptr)) := by
  obtain ⟨m, found, _⟩ := registered.object
  exact ⟨(callback system.1 m).1, by simp only [dispatch, calls, found, Option.map_some,
    Option.getD_some]⟩

theorem dispatch_perform {system next : W × MainLoop κ} {ptr : Nat}
    (ran : dispatch callback system ptr = some next) :
    next.2 = system.2.perform (calls callback system ptr) := by
  unfold dispatch at ran
  cases found : system.2.objects[ptr]? with
  | none => rw [found] at ran; cases ran
  | some m =>
    rw [found, Option.map_some, Option.some.injEq] at ran
    simp only [← ran, calls, found, Option.map_some, Option.getD_some]

theorem dispatchAll_coherent {system next : W × MainLoop κ} {events : List EpollEvent}
    (coherent : system.2.Coherent) (ran : dispatchAll callback system events = some next) :
    next.2.Coherent := by
  induction events generalizing system with
  | nil =>
    cases ran
    exact coherent
  | cons e rest ih =>
    rw [dispatchAll] at ran
    cases handled : dispatch callback system e.ptr with
    | none => rw [handled] at ran; cases ran
    | some middle =>
      rw [handled] at ran
      refine ih ?_ ran
      rw [dispatch_perform callback handled]
      exact perform_coherent coherent _

theorem dispatchAll_deleted {system : W × MainLoop κ} {events : List EpollEvent}
    (coherent : system.2.Coherent) (deleted : ∃ e ∈ events, system.2.Deleted e) :
    dispatchAll callback system events = none := by
  induction events generalizing system with
  | nil =>
    obtain ⟨e, inside, _⟩ := deleted
    cases inside
  | cons first rest ih =>
    rw [dispatchAll]
    cases handled : dispatch callback system first.ptr with
    | none => rfl
    | some next =>
      have moved := dispatch_perform callback handled
      obtain ⟨e, inside, gone⟩ := deleted
      rcases List.mem_cons.mp inside with rfl | inside
      · rw [dispatch_deleted callback gone] at handled
        cases handled
      · refine ih ?_ ⟨e, inside, ?_⟩
        · rw [moved]
          exact perform_coherent coherent _
        · rw [moved]
          exact perform_deleted coherent gone _

/-- A batch of registered Monitors is handled without the use of a deleted one exactly when
every callback spares the later events. -/
theorem dispatchAll_iff {system : W × MainLoop κ} {events : List EpollEvent}
    (coherent : system.2.Coherent) (registered : ∀ e ∈ events, system.2.Registered e) :
    (dispatchAll callback system events).isSome ↔ SparesLater callback system events := by
  induction events generalizing system with
  | nil => exact iff_of_true rfl trivial
  | cons e rest ih =>
    obtain ⟨world, handled⟩ := dispatch_registered callback (registered e List.mem_cons_self)
    have later : ∀ e ∈ rest, system.2.Registered e := fun e inside =>
      registered e (List.mem_cons_of_mem _ inside)
    have next := perform_coherent coherent (calls callback system e.ptr)
    simp only [dispatchAll, SparesLater, handled, Option.some.injEq, forall_eq']
    by_cases spared : ∀ a ∈ calls callback system e.ptr, ∀ later ∈ rest, ¬ Removes a later.fd
    · rw [and_iff_right spared]
      exact ih next fun d inside =>
        perform_registered coherent (later d inside) fun a made => spared a made d inside
    · refine iff_of_false ?_ fun both => spared both.1
      push Not at spared
      obtain ⟨a, made, d, inside, removed⟩ := spared
      rw [dispatchAll_deleted callback next
        ⟨d, inside, perform_deletes coherent (later d inside) ⟨a, made, removed⟩⟩]
      simp

/-! ### Runs -/

theorem batch_registered {l : MainLoop κ} (coherent : l.Coherent) {ready : List Int}
    {e : EpollEvent} (inside : e ∈ l.batch ready) : l.Registered e := by
  unfold batch epollWait at inside
  split at inside
  · obtain ⟨fd, _, found⟩ := List.mem_filterMap.mp (List.mem_of_mem_take inside)
    obtain ⟨ptr, interest, rfl⟩ := Option.map_eq_some_iff.mp found
    exact coherent.registered ⟨fd, ptr⟩ ((coherent.agree fd).symm.trans interest)
  · cases inside

/-- Whatever was registered before the loop and whatever each epoll_wait returns, MainLoop::run
uses no deleted Monitor if and only if no callback removes the descriptor of a later event of
its batch. -/
theorem undisturbed_iff (world : W) (setup : List (Action κ)) (batches : List (List Int)) :
    Runs.Always (iterate callback) (fun system => system.isSome)
        (some (world, empty.perform setup)) batches ↔
      Runs.Admitted (iterate callback)
        (fun system ready => ∀ s, system = some s → SparesLater callback s (s.2.batch ready))
        (some (world, empty.perform setup)) batches := by
  have exact_step : ∀ (s : W × MainLoop κ) ready, s.2.Coherent →
      ((iterate callback (some s) ready).isSome ↔ SparesLater callback s (s.2.batch ready)) :=
    fun s ready coherent => dispatchAll_iff callback coherent fun e inside =>
      batch_registered coherent inside
  refine Runs.always_iff_admitted
    (fun system : Option (W × MainLoop κ) => ∀ s, system = some s → s.2.Coherent)
    ?_ ?_ ?_ ?_ Option.isSome_some batches
  · intro system ready coherent next ran
    obtain ⟨s, rfl, handled⟩ := Option.bind_eq_some_iff.mp ran
    exact dispatchAll_coherent callback (coherent s rfl) handled
  · intro system ready coherent alive spared
    obtain ⟨s, rfl⟩ := Option.isSome_iff_exists.mp alive
    exact (exact_step s ready (coherent s rfl)).mpr (spared s rfl)
  · intro system ready coherent alive refused intact
    obtain ⟨s, rfl⟩ := Option.isSome_iff_exists.mp alive
    apply refused
    intro t same
    cases same
    exact (exact_step s ready (coherent s rfl)).mp intact
  · rintro s same
    cases same
    exact perform_coherent empty_coherent setup

end Run

/-- Descriptor 3 is the VRRP socket and 4 the advertisement timer of a Master: the packet
makes it yield, and Timer::stop removes the monitor of the timer in the same batch. -/
def yielding (_ : Unit) (monitor : Monitor Unit) : Unit × List (Action Unit) :=
  ((), if monitor.fd = 3 then [.removeMonitor 4] else [])

theorem removed_in_batch :
    ¬ Runs.Always (iterate yielding) (fun system => system.isSome)
      (some ((), empty.perform [.addMonitor 3 () true, .addMonitor 4 () true])) [[3, 4]] := by
  rintro ⟨_, intact⟩
  exact absurd intact.start (by decide)

end MainLoop

end OpenVrrp
