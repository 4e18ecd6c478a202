import OpenVrrp.Telnet.Sessions

/-! Sessions live exactly as long as they are monitored. Whatever is accepted, read and asked of
the main loop, no callback gets the pointer of a session that has been deleted. -/
namespace OpenVrrp

/-! ### One callback -/

namespace Daemon

variable {World : Type} {fuel : Nat} {d : Daemon World} {l : MainLoop UserData}

/-- The sessions are in order, unless something else went wrong. -/
structure InOrder (watched : Prop) (daemon : Except Misuse (Daemon World))
    (l : MainLoop UserData) : Prop where
  coherent : l.Coherent
  lives : daemon ≠ .error .freed
  consistent : ∀ d, daemon = .ok d → d.server.Consistent l
  watched : watched → ∀ d, daemon = .ok d → d.server.Watched l

theorem inOrder_ok {watched : Prop} (consistent : d.server.Consistent l)
    (all : watched → d.server.Watched l) : InOrder watched (.ok d) l where
  coherent := consistent.coherent
  lives := fun same => by cases same
  consistent := fun _ same => Except.ok.inj same ▸ consistent
  watched := fun holds _ same => Except.ok.inj same ▸ all holds

theorem inOrder_error {watched : Prop} {misuse : Misuse} (coherent : l.Coherent)
    (other : misuse ≠ .freed) :
    InOrder watched (.error misuse : Except Misuse (Daemon World)) l where
  coherent := coherent
  lives := fun same => other (Except.error.inj same)
  consistent := fun _ same => by cases same
  watched := fun _ _ same => by cases same

theorem onIncomingConnection_inOrder {watched : Prop} (consistent : d.server.Consistent l)
    (all : watched → d.server.Watched l) (c : Circumstances World)
    (granted : watched → c.granted = true) :
    InOrder watched (.ok (d.onIncomingConnection c).1)
      (l.perform (d.onIncomingConnection c).2) := by
  unfold onIncomingConnection
  dsimp only
  split
  · rename_i accepted
    obtain ⟨free, unused⟩ := TelnetServer.accept_free accepted
    apply inOrder_ok (TelnetServer.create_consistent consistent free unused _ _)
    intro holds
    rw [granted holds]
    exact TelnetServer.create_watched consistent (all holds) free unused c.buffer
  · exact inOrder_ok consistent all

theorem onOther_inOrder {watched : Prop} (consistent : d.server.Consistent l)
    (all : watched → d.server.Watched l) (c : Circumstances World) :
    InOrder watched (.ok (d.onOther c).1) (l.perform (d.onOther c).2) :=
  inOrder_ok (TelnetServer.restCalls_consistent consistent c.others) fun holds =>
    TelnetServer.restCalls_watched consistent (all holds) c.others

theorem onIncomingData_inOrder {watched : Prop} (consistent : d.server.Consistent l)
    (all : watched → d.server.Watched l) (c : Circumstances World) {self : Nat}
    (lives : d.server.objects[self]?.isSome) :
    InOrder watched (d.onIncomingData fuel c self).1
      (l.perform (d.onIncomingData fuel c self).2) := by
  obtain ⟨connection, stored⟩ := Option.isSome_iff_exists.mp lives
  unfold onIncomingData
  rw [stored]
  dsimp only
  split
  · exact inOrder_error consistent.coherent (by decide)
  · exact inOrder_error consistent.coherent (by decide)
  · rename_i e _
    have updated := TelnetServer.update_consistent consistent stored e.session
    exact inOrder_ok (TelnetServer.restCalls_consistent updated c.others) fun holds =>
      TelnetServer.restCalls_watched updated
        (TelnetServer.update_watched (all holds) stored e.session) c.others
  · have others := TelnetServer.restCalls_consistent consistent c.others
    split
    · rename_i gone
      rw [TelnetServer.destroy, TelnetServer.restCalls_objects d.server c.others, stored] at gone
      cases gone
    · rename_i server last destroyed
      rw [MainLoop.perform, List.foldl_append]
      exact inOrder_ok (TelnetServer.destroy_consistent others destroyed) fun holds =>
        TelnetServer.destroy_watched others
          (TelnetServer.restCalls_watched consistent (all holds) c.others) destroyed

/-- A callback finds the session that its Monitor points to. -/
theorem react_inOrder {watched : Prop} (consistent : d.server.Consistent l)
    (all : watched → d.server.Watched l) (c : Circumstances World)
    (granted : watched → c.granted = true) {m : Monitor UserData} (owns : d.server.Owns m) :
    InOrder watched (d.react fuel c m.callback).1 (l.perform (d.react fuel c m.callback).2) := by
  unfold TelnetServer.Owns at owns
  split at owns
  · rename_i callback
    rw [callback]
    exact onIncomingConnection_inOrder consistent all c granted
  · rename_i self callback
    obtain ⟨connection, stored, _⟩ := owns
    rw [callback]
    exact onIncomingData_inOrder consistent all c (stored ▸ rfl)
  · rename_i callback
    rw [callback]
    exact onOther_inOrder consistent all c

/-! ### A batch -/

section Batch
variable {circumstances : Nat → Circumstances World}

theorem callback_inOrder {watched : Prop} {daemon : Except Misuse (Daemon World)}
    (inOrder : InOrder watched daemon l)
    (granted : watched → ∀ n, (circumstances n).granted = true) {m : Monitor UserData}
    (owns : ∀ d, daemon = .ok d → d.server.Owns m) :
    InOrder watched (callback fuel circumstances daemon m).1
      (l.perform (callback fuel circumstances daemon m).2) := by
  cases daemon with
  | error misuse => exact inOrder
  | ok d =>
    have reacted : InOrder watched (d.react fuel (circumstances d.calls) m.callback).1 _ :=
      react_inOrder (inOrder.consistent d rfl) (fun holds => inOrder.watched holds d rfl)
        (circumstances d.calls) (fun holds => granted holds d.calls) (owns d rfl)
    unfold callback
    dsimp only
    generalize d.react fuel (circumstances d.calls) m.callback = reaction at reacted
    obtain ⟨result, actions⟩ := reaction
    cases result with
    | error misuse => exact reacted
    | ok t => exact inOrder_ok (reacted.consistent t rfl) fun holds => reacted.watched holds t rfl

/-- An event of the batch whose Monitor is still there, or whose Monitor is deleted. -/
def Known (l : MainLoop UserData) (e : EpollEvent) : Prop := l.Registered e ∨ l.Deleted e

theorem known_perform {e : EpollEvent} (coherent : l.Coherent) (known : Known l e)
    (actions : List (Action UserData)) : Known (l.perform actions) e := by
  rcases known with registered | deleted
  · by_cases removed : ∃ a ∈ actions, MainLoop.Removes a e.fd
    · exact .inr (MainLoop.perform_deletes coherent registered removed)
    · exact .inl (MainLoop.perform_registered coherent registered fun a inside gone =>
        removed ⟨a, inside, gone⟩)
  · exact .inr (MainLoop.perform_deleted coherent deleted actions)

/-- What every callback keeps, which finds its session alive. -/
def Steady (fuel : Nat) (circumstances : Nat → Circumstances World)
    (held : Except Misuse (Daemon World) → Prop) : Prop :=
  ∀ (d : Daemon World) (m : Monitor UserData), d.server.Distinct → d.server.Owns m →
    held (.ok d) → held (callback fuel circumstances (.ok d) m).1

section Keeping
variable {watched : Prop} {held : Except Misuse (Daemon World) → Prop}
  {daemon : Except Misuse (Daemon World)}

/-- A Monitor that is used belongs to the server, to a session that lives or to the rest. -/
theorem dispatch_keeps (granted : watched → ∀ n, (circumstances n).granted = true)
    (steady : Steady fuel circumstances held) (before : InOrder watched daemon l ∧ held daemon)
    {e : EpollEvent} (known : Known l e)
    {next : Except Misuse (Daemon World) × MainLoop UserData}
    (ran : MainLoop.dispatch (callback fuel circumstances) (daemon, l) e.ptr = some next) :
    InOrder watched next.1 next.2 ∧ held next.1 := by
  obtain ⟨inOrder, holds⟩ := before
  rcases known with registered | deleted
  · obtain ⟨m, object, rfl⟩ := Option.map_eq_some_iff.mp ran
    have owns : ∀ d, daemon = .ok d → d.server.Owns m := by
      intro d same
      obtain ⟨m', object', _, owns⟩ := (inOrder.consistent d same).attached e registered
      rw [object, Option.some.injEq] at object'
      exact object' ▸ owns
    refine ⟨callback_inOrder inOrder granted owns, ?_⟩
    cases daemon with
    | error misuse => exact holds
    | ok d => exact steady d m (inOrder.consistent d rfl).distinct (owns d rfl) holds
  · rw [MainLoop.dispatch_deleted _ deleted] at ran
    cases ran

theorem dispatchAll_keeps (granted : watched → ∀ n, (circumstances n).granted = true)
    (steady : Steady fuel circumstances held) (before : InOrder watched daemon l ∧ held daemon)
    {events : List EpollEvent} (known : ∀ e ∈ events, Known l e)
    {last : Except Misuse (Daemon World) × MainLoop UserData}
    (ran : MainLoop.dispatchAll (callback fuel circumstances) (daemon, l) events = some last) :
    InOrder watched last.1 last.2 ∧ held last.1 := by
  induction events generalizing daemon l with
  | nil =>
    cases ran
    exact before
  | cons e rest ih =>
    rw [MainLoop.dispatchAll] at ran
    cases handled : MainLoop.dispatch (callback fuel circumstances) (daemon, l) e.ptr with
    | none => rw [handled] at ran; cases ran
    | some next =>
      rw [handled] at ran
      refine ih (dispatch_keeps granted steady before (known e List.mem_cons_self) handled)
        (fun later inside => ?_) ran
      rw [MainLoop.dispatch_perform _ handled]
      exact known_perform before.1.coherent (known later (List.mem_cons_of_mem _ inside)) _

theorem iterate_keeps (granted : watched → ∀ n, (circumstances n).granted = true)
    (steady : Steady fuel circumstances held)
    (system : Option (Except Misuse (Daemon World) × MainLoop UserData)) (ready : List Int)
    (before : ∀ s, system = some s → InOrder watched s.1 s.2 ∧ held s.1)
    (next : Except Misuse (Daemon World) × MainLoop UserData)
    (ran : MainLoop.iterate (callback fuel circumstances) system ready = some next) :
    InOrder watched next.1 next.2 ∧ held next.1 := by
  obtain ⟨s, rfl, handled⟩ := Option.bind_eq_some_iff.mp ran
  have here := before s rfl
  exact dispatchAll_keeps granted steady here
    (fun e inside => .inl (MainLoop.batch_registered here.1.coherent inside)) handled

theorem run_keeps (granted : watched → ∀ n, (circumstances n).granted = true)
    (steady : Steady fuel circumstances held)
    {start : Except Misuse (Daemon World) × MainLoop UserData}
    (before : InOrder watched start.1 start.2 ∧ held start.1) (batches : List (List Int)) :
    ∀ s, batches.foldl (MainLoop.iterate (callback fuel circumstances)) (some start) = some s →
      InOrder watched s.1 s.2 ∧ held s.1 :=
  Runs.foldl_keeps (fun system => ∀ s, system = some s → InOrder watched s.1 s.2 ∧ held s.1)
    batches (fun system ready _ held => iterate_keeps granted steady system ready held)
    fun _ same => Option.some.inj same ▸ before

end Keeping

theorem steady_true : Steady fuel circumstances fun _ => True := fun _ _ _ _ _ => trivial

/-! ### Without calls that remove a descriptor -/

def Keeps (others : List (Action UserData)) : Prop := ∀ fd, Action.removeMonitor fd ∉ others

theorem restCalls_keeps (s : TelnetServer) {others : List (Action UserData)}
    (keeps : Keeps others) {a : Action UserData} (made : a ∈ (s.restCalls others).2) (fd : Int) :
    ¬ MainLoop.Removes a fd := by
  induction others generalizing s with
  | nil => cases made
  | cons b rest ih =>
    have later : Keeps rest := fun fd inside => keeps fd (List.mem_cons_of_mem _ inside)
    rw [TelnetServer.restCalls] at made
    split at made
    · rcases List.mem_cons.mp made with rfl | made
      · cases a with
        | addMonitor other callback accepted => exact id
        | removeMonitor other => exact absurd List.mem_cons_self (keeps other)
      · exact ih _ later made
    · exact ih s later made

/-- A callback of the server or of a session removes no descriptor but the one it is called for. -/
theorem react_removes (c : Circumstances World) (keeps : Keeps c.others) {m : Monitor UserData}
    (owns : d.server.Owns m) {a : Action UserData}
    (made : a ∈ (d.react fuel c m.callback).2) {fd : Int} (removes : MainLoop.Removes a fd) :
    fd = m.fd := by
  unfold TelnetServer.Owns at owns
  split at owns
  · rename_i callback
    rw [callback] at made
    change a ∈ (d.onIncomingConnection c).2 at made
    unfold onIncomingConnection at made
    dsimp only at made
    split at made
    · rw [List.mem_singleton.mp made] at removes
      cases removes
    · cases made
  · rename_i self callback
    obtain ⟨connection, stored, same⟩ := owns
    rw [callback] at made
    change a ∈ (d.onIncomingData fuel c self).2 at made
    unfold onIncomingData at made
    rw [stored] at made
    dsimp only at made
    split at made
    · cases made
    · cases made
    · exact absurd removes (restCalls_keeps _ keeps made fd)
    · split at made
      · exact absurd removes (restCalls_keeps _ keeps made fd)
      · rename_i destroyed
        rcases List.mem_append.mp made with made | made
        · exact absurd removes (restCalls_keeps _ keeps made fd)
        · obtain ⟨gone, there, _, rfl⟩ := TelnetServer.destroy_eq_some.mp destroyed
          rw [TelnetServer.restCalls_objects d.server c.others, stored,
            Option.some.injEq] at there
          rw [List.mem_singleton.mp made] at removes
          rw [← same, there]
          exact removes.symm
  · rename_i callback
    rw [callback] at made
    exact absurd removes (restCalls_keeps _ keeps made fd)

theorem dispatchAll_runs {daemon : Except Misuse (Daemon World)}
    (inOrder : InOrder False daemon l) (keeps : ∀ n, Keeps (circumstances n).others)
    {events : List EpollEvent} (registered : ∀ e ∈ events, l.Registered e)
    (distinct : (events.map EpollEvent.fd).Nodup) :
    (MainLoop.dispatchAll (callback fuel circumstances) (daemon, l) events).isSome := by
  induction events generalizing daemon l with
  | nil => rfl
  | cons e rest ih =>
    have here := registered e List.mem_cons_self
    obtain ⟨m, object, same⟩ := here.object
    have handled : MainLoop.dispatch (callback fuel circumstances) (daemon, l) e.ptr =
        some ((callback fuel circumstances daemon m).1,
          l.perform (callback fuel circumstances daemon m).2) := by
      simp only [MainLoop.dispatch, object, Option.map_some]
    have owns : ∀ d, daemon = .ok d → d.server.Owns m := by
      intro d lives
      obtain ⟨m', object', _, owns⟩ := (inOrder.consistent d lives).attached e here
      rw [object, Option.some.injEq] at object'
      exact object' ▸ owns
    rw [MainLoop.dispatchAll, handled]
    rw [List.map_cons, List.nodup_cons] at distinct
    refine ih (dispatch_keeps False.elim steady_true ⟨inOrder, trivial⟩ (.inl here) handled).1
      (fun later inside => ?_) distinct.2
    refine MainLoop.perform_registered inOrder.coherent
      (registered later (List.mem_cons_of_mem _ inside)) fun a made removes => distinct.1 ?_
    cases daemon with
    | error misuse => cases made
    | ok d =>
      have removed :=
        react_removes (circumstances d.calls) (keeps d.calls) (owns d rfl) made removes
      rw [← same, ← removed]
      exact List.mem_map_of_mem inside

/-! ### Runs -/

theorem run_alive (keeps : ∀ n, Keeps (circumstances n).others)
    {start : Except Misuse (Daemon World) × MainLoop UserData}
    (inOrder : InOrder False start.1 start.2) (batches : List (List Int)) :
    (batches.foldl (MainLoop.iterate (callback fuel circumstances)) (some start)).isSome := by
  refine (Runs.foldl_keeps (fun system : Option (Except Misuse (Daemon World) ×
    MainLoop UserData) => system.isSome = true ∧ ∀ s, system = some s → InOrder False s.1 s.2)
    batches (fun system ready _ held => ?_) ⟨rfl, fun _ same => Option.some.inj same ▸ inOrder⟩).1
  obtain ⟨s, rfl⟩ := Option.isSome_iff_exists.mp held.1
  have before := held.2 s rfl
  exact ⟨dispatchAll_runs before keeps
    (fun e inside => MainLoop.batch_registered before.coherent inside)
    (MainLoop.batch_distinct s.2 ready), fun next ran =>
      (iterate_keeps False.elim steady_true _ ready (fun s same => ⟨held.2 s same, trivial⟩)
        next ran).1⟩

end Batch

theorem start_eq_some {socket : Int} {bound granted : Bool} {server : TelnetServer}
    {first : MainLoop UserData}
    (started : TelnetServer.start first socket bound granted = some (server, l)) :
    socket ≠ -1 ∧ server = ⟨socket, ∅, ∅, 0, ∅⟩ ∧
      first.addMonitor socket .server granted = (l, true) := by
  unfold TelnetServer.start at started
  split at started
  · cases started
  rename_i opened
  split at started
  case isFalse => cases started
  split at started
  case h_2 => cases started
  rename_i added
  rw [Option.some.injEq, Prod.mk.injEq] at started
  obtain ⟨rfl, rfl⟩ := started
  exact ⟨opened, rfl, added⟩

theorem start_inOrder {socket : Int} {bound granted : Bool} {server : TelnetServer}
    (started : TelnetServer.start .empty socket bound granted = some (server, l)) :
    server.Consistent l ∧ server.Watched l := by
  obtain ⟨opened, rfl, added⟩ := start_eq_some started
  have empty : (MainLoop.empty : MainLoop UserData).Coherent := MainLoop.empty_coherent
  have coherent := MainLoop.addMonitor_coherent empty socket .server granted
  have registers : ∀ e,
      (MainLoop.empty.addMonitor socket UserData.server granted).1.Registered e → e.fd = socket ∧
        (MainLoop.empty.addMonitor socket UserData.server granted).1.objects[e.ptr]? =
          some ⟨.server, socket⟩ := by
    intro e registered
    rcases MainLoop.addMonitor_registers empty registered with ⟨before, _⟩ | new
    · exact absurd before.monitor (by simp [MainLoop.empty])
    · exact new
  have granting := MainLoop.addMonitor_cases empty socket .server granted
  rw [added] at coherent registers granting
  have monitored : l.monitors[socket]? = some 0 := by
    rcases granting with ⟨refused, _⟩ | ⟨granting, _⟩
    · cases refused
    · rw [(Prod.mk.inj granting).1]
      exact Nested.insert_self _ _ _
  have none : ∀ (self : Nat) (c : Connection), (∅ : Std.TreeMap Nat Connection)[self]? ≠ some c :=
    fun self c => by simp
  refine ⟨⟨coherent, ⟨fun self => by simp, fun self found => by simp at found,
    fun p q c d found => absurd found (none p c), fun self c found => absurd found (none self c),
    Std.TreeSet.not_mem_emptyc, opened⟩, fun e registered => ?_⟩, fun fd held => ?_⟩
  · obtain ⟨same, object⟩ := registers e registered
    exact ⟨_, object, same.symm, rfl⟩
  · rcases (TelnetServer.holds_iff fd).mp held with rfl | ⟨self, c, found, _⟩
    · exact ⟨0, coherent.registered ⟨_, 0⟩ monitored⟩
    · exact absurd found (none self c)

theorem boot_inOrder {socket : Int} {bound granted : Bool} {others : List (Action UserData)}
    {world : World} {start : Except Misuse (Daemon World) × MainLoop UserData}
    (booted : boot socket bound granted others world = some start) (watched : Prop) :
    InOrder watched start.1 start.2 := by
  obtain ⟨⟨server, l⟩, started, rfl⟩ := Option.map_eq_some_iff.mp booted
  obtain ⟨consistent, watched⟩ := start_inOrder started
  exact inOrder_ok (TelnetServer.restCalls_consistent consistent others) fun _ =>
    TelnetServer.restCalls_watched consistent watched others

/-- Whatever connections are accepted, whatever is read from them and whatever the rest of the
daemon does with its own descriptors: no callback uses a session that has been deleted, and in
every state reached the sessions of the server are the ones that live and each Monitor belongs to
the server, to one of them or to the rest. If epoll refuses nothing they are all monitored, and
`stop` leaves the Monitors of the rest only. As long as the rest of the daemon removes no
descriptor, no deleted Monitor is used either. -/
theorem sessions_monitored {socket : Int} {bound granted : Bool}
    {others : List (Action UserData)} {world : World}
    {start : Except Misuse (Daemon World) × MainLoop UserData}
    (booted : boot socket bound granted others world = some start) (fuel : Nat)
    (circumstances : Nat → Circumstances World) (batches : List (List Int)) :
    (∀ daemon l, batches.foldl (MainLoop.iterate (callback fuel circumstances)) (some start) =
        some (daemon, l) → daemon ≠ .error .freed ∧
      ∀ d, daemon = .ok d → d.server.Consistent l ∧
        ((∀ n, (circumstances n).granted = true) → d.server.Watched l) ∧
        ∃ t actions, d.server.stop = some (t, actions) ∧ t.sessions.isEmpty ∧
          (∀ self : Nat, t.objects[self]? = none) ∧
          ∀ e, (l.perform actions).Registered e ↔ l.Registered e ∧ d.server.holds e.fd = false) ∧
    ((∀ n fd, Action.removeMonitor fd ∉ (circumstances n).others) →
      (batches.foldl (MainLoop.iterate (callback fuel circumstances)) (some start)).isSome) := by
  refine ⟨fun daemon l ran => ?_, fun keeps => run_alive keeps (boot_inOrder booted False) batches⟩
  have ends : InOrder (∀ n, (circumstances n).granted = true) daemon l :=
    (run_keeps id steady_true ⟨boot_inOrder booted _, trivial⟩ batches (daemon, l) ran).1
  refine ⟨ends.lives, fun d same => ?_⟩
  have consistent := ends.consistent d same
  exact ⟨consistent, fun all => ends.watched all d same, TelnetServer.stop_ends consistent⟩

/-- Everybody who connects says goodbye, on a descriptor that is free again afterwards. -/
def visits (_ : Nat) : Circumstances Unit where
  accepted := 5
  granted := true
  buffer := fun _ => 0
  waiting := ascii "exit" ++ [newline]
  execute := fun world _ buffer => ⟨world, buffer, []⟩
  elsewhere := id
  others := [.addMonitor 6 .other true]

theorem sessions_monitored_visits :
    ∃ start, boot 3 true true [.addMonitor 4 .other true] () = some start ∧
      ([[3], [4, 5], [3, 6], [5, 3]].foldl (MainLoop.iterate (callback 1 visits))
        (some start)).isSome := by
  obtain ⟨start, booted⟩ := Option.isSome_iff_exists.mp
    (by decide : (boot 3 true true [.addMonitor 4 .other true] ()).isSome = true)
  refine ⟨start, booted, (sessions_monitored booted 1 visits _).2 fun n fd inside => ?_⟩
  cases List.mem_singleton.mp inside

end Daemon

end OpenVrrp
