import OpenVrrp.Telnet.Server

/-! The descriptors and the sessions of a TelnetServer, and the Monitors that point to them: what
accept, the end of a session, `stop` and the rest of the daemon keep in order. -/
namespace OpenVrrp

namespace MainLoop

variable {κ : Type*} {l : MainLoop κ}

theorem perform_removals {actions : List (Action κ)} (coherent : l.Coherent)
    (removals : ∀ a ∈ actions, ∃ fd, a = .removeMonitor fd) (e : EpollEvent) :
    (l.perform actions).Registered e ↔
      l.Registered e ∧ Action.removeMonitor e.fd ∉ actions := by
  induction actions generalizing l with
  | nil => exact (and_iff_left List.not_mem_nil).symm
  | cons a rest ih =>
    obtain ⟨fd, rfl⟩ := removals a List.mem_cons_self
    have later := ih (removeMonitor_coherent coherent fd)
      fun b inside => removals b (List.mem_cons_of_mem _ inside)
    change ((l.removeMonitor fd).1.perform rest).Registered e ↔ _
    rw [later, List.mem_cons, not_or, Action.removeMonitor.injEq]
    constructor
    · rintro ⟨after, spared⟩
      obtain ⟨before, other, _⟩ := removeMonitor_registers coherent after
      exact ⟨before, other, spared⟩
    · rintro ⟨before, other, spared⟩
      exact ⟨removeMonitor_registered coherent before (Ne.symm other), spared⟩

theorem batch_distinct (l : MainLoop κ) (ready : List Int) :
    ((l.batch ready).map EpollEvent.fd).Nodup := by
  have found : (ready.dedup.filterMap fun fd => l.interest[fd]?.map (EpollEvent.mk fd)).map
      EpollEvent.fd = ready.dedup.filter fun fd => l.interest[fd]?.isSome := by
    rw [List.map_filterMap, ← List.filterMap_eq_filter]
    apply List.filterMap_congr
    intro fd _
    cases found : l.interest[fd]? <;> simp [Option.guard, found]
  unfold batch epollWait
  split
  · rw [List.map_take, found]
    have short := (List.take_sublist batchSize _).trans
      (List.filter_sublist (p := fun fd => l.interest[fd]?.isSome) (l := ready.dedup))
    exact short.nodup (List.nodup_dedup ready)
  · exact List.nodup_nil

end MainLoop

namespace TelnetServer

/-- Whose descriptor a Monitor is on. -/
def Owns (s : TelnetServer) (m : Monitor UserData) : Prop :=
  match m.callback with
  | .server => m.fd = s.socket
  | .session self => ∃ c : Connection, s.objects[self]? = some c ∧ c.socket = m.fd
  | .other => m.fd ∈ s.rest

/-- What is monitored belongs to the server, to a session that lives or to the rest. -/
def Attached (s : TelnetServer) (l : MainLoop UserData) : Prop :=
  ∀ e, l.Registered e → ∃ m, l.objects[e.ptr]? = some m ∧ m.fd = e.fd ∧ s.Owns m

/-- The sessions of the server are the ones that live, and all descriptors are different. -/
structure Distinct (s : TelnetServer) : Prop where
  live : ∀ self : Nat, self ∈ s.sessions ↔ s.objects[self]?.isSome
  old : ∀ self : Nat, s.objects[self]?.isSome → self < s.nextObject
  single : ∀ (p q : Nat) (c d : Connection), s.objects[p]? = some c → s.objects[q]? = some d →
    c.socket = d.socket → p = q
  apart : ∀ (self : Nat) (c : Connection), s.objects[self]? = some c →
    c.socket ≠ s.socket ∧ c.socket ∉ s.rest
  own : s.socket ∉ s.rest
  opened : s.socket ≠ -1

structure Consistent (s : TelnetServer) (l : MainLoop UserData) : Prop where
  coherent : l.Coherent
  distinct : s.Distinct
  attached : s.Attached l

variable {s t : TelnetServer} {l : MainLoop UserData}

theorem holds_iff (fd : Int) : s.holds fd = true ↔
    fd = s.socket ∨ ∃ (self : Nat) (c : Connection), s.objects[self]? = some c ∧
      c.socket = fd := by
  simp only [holds, Bool.or_eq_true, decide_eq_true_eq, List.any_eq_true, Prod.exists,
    Std.TreeMap.mem_toList_iff_getElem?_eq_some]

theorem not_holds (fd : Int) : s.holds fd = false ↔
    fd ≠ s.socket ∧ ∀ (self : Nat) (c : Connection), s.objects[self]? = some c →
      c.socket ≠ fd := by
  rw [← Bool.not_eq_true, holds_iff, not_or]
  simp only [not_exists, not_and]

/-! ### One call on the main loop -/

theorem Attached.mono (attached : s.Attached l)
    (grows : ∀ m, s.Owns m → t.Owns m) : t.Attached l := by
  intro e registered
  obtain ⟨m, object, same, owns⟩ := attached e registered
  exact ⟨m, object, same, grows m owns⟩

theorem Attached.add (attached : s.Attached l) (coherent : l.Coherent) {fd : Int}
    {callback : UserData} {accepted : Bool} (owns : s.Owns ⟨callback, fd⟩) :
    s.Attached (l.addMonitor fd callback accepted).1 := by
  intro e registered
  rcases MainLoop.addMonitor_registers coherent registered with ⟨before, kept⟩ | ⟨rfl, new⟩
  · obtain ⟨m, object, same, owned⟩ := attached e before
    exact ⟨m, kept.trans object, same, owned⟩
  · exact ⟨_, new, rfl, owns⟩

theorem Attached.remove (attached : s.Attached l) (coherent : l.Coherent) {fd : Int}
    (spares : ∀ m, m.fd ≠ fd → s.Owns m → t.Owns m) : t.Attached (l.removeMonitor fd).1 := by
  intro e registered
  obtain ⟨before, other, kept⟩ := MainLoop.removeMonitor_registers coherent registered
  obtain ⟨m, object, same, owned⟩ := attached e before
  exact ⟨m, kept.trans object, same, spares m (same ▸ other) owned⟩

/-! ### The calls of the rest of the daemon -/

theorem track_distinct (distinct : s.Distinct) {a : Action UserData} (foreign : s.foreign a) :
    (s.track a).Distinct := by
  cases a with
  | addMonitor fd callback accepted =>
    obtain ⟨free, _⟩ : s.holds fd = false ∧ callback = .other := by
      simpa [TelnetServer.foreign] using foreign
    obtain ⟨socket, sessions⟩ := (not_holds fd).mp free
    refine ⟨distinct.live, distinct.old, distinct.single, fun self c stored => ?_, ?_,
      distinct.opened⟩
    · have before := distinct.apart self c stored
      refine ⟨before.1, ?_⟩
      simp only [track, Std.TreeSet.mem_insert, Std.LawfulEqOrd.compare_eq_iff_eq, not_or]
      exact ⟨fun same => sessions self c stored same.symm, before.2⟩
    · simp only [track, Std.TreeSet.mem_insert, Std.LawfulEqOrd.compare_eq_iff_eq, not_or]
      exact ⟨socket, distinct.own⟩
  | removeMonitor fd =>
    refine ⟨distinct.live, distinct.old, distinct.single, fun self c stored => ?_, ?_,
      distinct.opened⟩
    · have before := distinct.apart self c stored
      exact ⟨before.1, fun inside => before.2 (Std.TreeSet.mem_of_mem_erase inside)⟩
    · exact fun inside => distinct.own (Std.TreeSet.mem_of_mem_erase inside)

theorem track_attached (consistent : s.Consistent l) {a : Action UserData}
    (foreign : s.foreign a) : (s.track a).Attached (l.act a) := by
  cases a with
  | addMonitor fd callback accepted =>
    obtain ⟨_, rfl⟩ : s.holds fd = false ∧ callback = .other := by
      simpa [TelnetServer.foreign] using foreign
    refine Attached.add (consistent.attached.mono fun m owns => ?_) consistent.coherent ?_
    · unfold Owns at owns ⊢
      split at owns
      · exact owns
      · exact owns
      · exact Std.TreeSet.mem_insert.mpr (.inr owns)
    · exact Std.TreeSet.mem_insert_self
  | removeMonitor fd =>
    apply consistent.attached.remove consistent.coherent
    intro m other owns
    unfold Owns at owns ⊢
    split at owns
    · exact owns
    · exact owns
    · exact Std.TreeSet.mem_erase.mpr
        ⟨fun same => other (Std.LawfulEqOrd.compare_eq_iff_eq.mp same).symm, owns⟩

theorem track_consistent (consistent : s.Consistent l) {a : Action UserData}
    (foreign : s.foreign a) : (s.track a).Consistent (l.act a) where
  coherent := MainLoop.act_coherent consistent.coherent a
  distinct := track_distinct consistent.distinct foreign
  attached := track_attached consistent foreign

theorem restCalls_consistent (consistent : s.Consistent l) (others : List (Action UserData)) :
    (s.restCalls others).1.Consistent (l.perform (s.restCalls others).2) := by
  induction others generalizing s l with
  | nil => exact consistent
  | cons a rest ih =>
    rw [restCalls]
    split
    · rename_i foreign
      exact ih (track_consistent consistent foreign)
    · exact ih consistent

/-- The rest of the daemon leaves the server and its sessions alone. -/
theorem restCalls_same (s : TelnetServer) (others : List (Action UserData)) :
    (s.restCalls others).1.socket = s.socket ∧ (s.restCalls others).1.sessions = s.sessions ∧
      (s.restCalls others).1.objects = s.objects ∧
      (s.restCalls others).1.nextObject = s.nextObject := by
  induction others generalizing s with
  | nil => exact ⟨rfl, rfl, rfl, rfl⟩
  | cons a rest ih =>
    rw [restCalls]
    split
    · cases a with
      | addMonitor fd callback accepted => exact ih _
      | removeMonitor fd => exact ih _
    · exact ih s

theorem restCalls_objects (s : TelnetServer) (others : List (Action UserData)) :
    (s.restCalls others).1.objects = s.objects := (s.restCalls_same others).2.2.1

/-! ### Sessions -/

theorem accept_free {accepted : Int} (given : s.accept accepted ≠ -1) :
    s.holds (s.accept accepted) = false ∧ s.accept accepted ∉ s.rest := by
  unfold accept at given ⊢
  split at given
  · exact absurd rfl given
  · rename_i free
    rw [if_neg free]
    simpa using free

theorem create_distinct (distinct : s.Distinct) {fd : Int} (free : s.holds fd = false)
    (unused : fd ∉ s.rest) (buffer : Memory.Cells) (granted : Bool) :
    (s.create fd buffer granted).1.Distinct := by
  obtain ⟨socket, sessions⟩ := (not_holds fd).mp free
  have stored : ∀ (self : Nat) (c : Connection),
      (s.create fd buffer granted).1.objects[self]? = some c →
        self = s.nextObject ∧ c.socket = fd ∨ s.objects[self]? = some c := by
    intro self c found
    rcases Nested.insert_eq_some.mp found with ⟨same, rfl⟩ | ⟨_, before⟩
    · exact .inl ⟨same.symm, rfl⟩
    · exact .inr before
  refine ⟨fun self => ?_, fun self found => ?_, fun p q c d first second same => ?_,
    fun self c found => ?_, distinct.own, distinct.opened⟩
  · simp only [create, Std.TreeSet.mem_insert, Std.LawfulEqOrd.compare_eq_iff_eq]
    by_cases same : s.nextObject = self
    · rw [same, Nested.insert_self]
      simp
    · rw [Nested.insert_other _ _ same, distinct.live]
      simp [same]
  · obtain ⟨c, found⟩ := Option.isSome_iff_exists.mp found
    change self < s.nextObject + 1
    rcases stored self c found with ⟨rfl, _⟩ | before
    · exact Nat.lt_succ_self _
    · exact Nat.lt_succ_of_lt (distinct.old self (before ▸ rfl))
  · rcases stored p c first with ⟨rfl, here⟩ | before
    · rcases stored q d second with ⟨rfl, _⟩ | other
      · rfl
      · exact absurd (same ▸ here) (sessions q d other)
    · rcases stored q d second with ⟨rfl, here⟩ | other
      · exact absurd (same.trans here) (sessions p c before)
      · exact distinct.single p q c d before other same
  · rcases stored self c found with ⟨_, rfl⟩ | before
    · exact ⟨socket, unused⟩
    · exact distinct.apart self c before

theorem create_consistent (consistent : s.Consistent l) {fd : Int} (free : s.holds fd = false)
    (unused : fd ∉ s.rest) (buffer : Memory.Cells) (granted : Bool) :
    (s.create fd buffer granted).1.Consistent
      (l.perform (s.create fd buffer granted).2) where
  coherent := MainLoop.perform_coherent consistent.coherent _
  distinct := create_distinct consistent.distinct free unused buffer granted
  attached := by
    refine Attached.add (consistent.attached.mono fun m owns => ?_) consistent.coherent
      ⟨_, Nested.insert_self _ _ _, rfl⟩
    unfold Owns at owns ⊢
    split at owns
    · exact owns
    · rename_i self _
      obtain ⟨c, stored, same⟩ := owns
      have apart : s.nextObject ≠ self :=
        Nat.ne_of_gt (consistent.distinct.old self (stored ▸ rfl))
      exact ⟨c, (Nested.insert_other _ _ apart).trans stored, same⟩
    · exact owns

theorem destroy_eq_some {self : Nat} {actions : List (Action UserData)} :
    s.destroy self = some (t, actions) ↔ ∃ c : Connection, s.objects[self]? = some c ∧
      t = removeSession { s with objects := s.objects.erase self } self ∧
      actions = [.removeMonitor c.socket] := by
  rw [destroy, Option.map_eq_some_iff]
  refine exists_congr fun c => and_congr_right fun _ => ?_
  rw [Prod.mk.injEq, eq_comm, @eq_comm _ _ actions]

theorem erased_live (live : ∀ self : Nat, self ∈ s.sessions ↔ s.objects[self]?.isSome)
    (self p : Nat) : p ∈ s.sessions.erase self ↔ (s.objects.erase self)[p]?.isSome := by
  rw [Std.TreeSet.mem_erase]
  by_cases same : self = p
  · rw [same, Nested.erase_self]
    simp
  · rw [Nested.erase_other _ same, live]
    simp [same]

theorem destroy_distinct (distinct : s.Distinct) {self : Nat}
    {actions : List (Action UserData)} (destroyed : s.destroy self = some (t, actions)) :
    t.Distinct := by
  obtain ⟨_, _, rfl, _⟩ := destroy_eq_some.mp destroyed
  refine ⟨erased_live distinct.live self, fun p found => ?_, fun p q c d first second => ?_,
    fun p c found => ?_, distinct.own, distinct.opened⟩
  · obtain ⟨c, found⟩ := Option.isSome_iff_exists.mp found
    exact distinct.old p ((Nested.erase_eq_some.mp found).2 ▸ rfl)
  · exact distinct.single p q c d (Nested.erase_eq_some.mp first).2
      (Nested.erase_eq_some.mp second).2
  · exact distinct.apart p c (Nested.erase_eq_some.mp found).2

theorem destroy_consistent (consistent : s.Consistent l) {self : Nat}
    {actions : List (Action UserData)} (destroyed : s.destroy self = some (t, actions)) :
    t.Consistent (l.perform actions) where
  coherent := MainLoop.perform_coherent consistent.coherent _
  distinct := destroy_distinct consistent.distinct destroyed
  attached := by
    obtain ⟨gone, there, rfl, rfl⟩ := destroy_eq_some.mp destroyed
    apply consistent.attached.remove consistent.coherent
    intro m other owns
    unfold Owns at owns ⊢
    split at owns
    · exact owns
    · rename_i p _
      obtain ⟨c, stored, same⟩ := owns
      have apart : self ≠ p := by
        rintro rfl
        rw [there, Option.some.injEq] at stored
        exact other (same ▸ stored ▸ rfl)
      exact ⟨c, (Nested.erase_other _ apart).trans stored, same⟩
    · exact owns

theorem update_socket {self : Nat} {c : Connection} (stored : s.objects[self]? = some c)
    (session : TelnetSession) (p : Nat) (fd : Int) :
    (∃ d : Connection, (s.update self c session).objects[p]? = some d ∧ d.socket = fd) ↔
      ∃ d : Connection, s.objects[p]? = some d ∧ d.socket = fd := by
  by_cases same : self = p
  · subst same
    simp [update, stored]
  · simp only [update, Nested.insert_other _ _ same]

theorem update_isSome {self : Nat} {c : Connection} (stored : s.objects[self]? = some c)
    (session : TelnetSession) (p : Nat) :
    (s.update self c session).objects[p]?.isSome = s.objects[p]?.isSome := by
  by_cases same : self = p
  · subst same
    simp [update, stored]
  · simp only [update, Nested.insert_other _ _ same]

theorem update_consistent (consistent : s.Consistent l) {self : Nat} {c : Connection}
    (stored : s.objects[self]? = some c) (session : TelnetSession) :
    (s.update self c session).Consistent l where
  coherent := consistent.coherent
  distinct := by
    have distinct := consistent.distinct
    refine ⟨fun p => ?_, fun p found => ?_, fun p q a b first second same => ?_,
      fun p a found => ?_, distinct.own, distinct.opened⟩
    · rw [update_isSome stored]
      exact distinct.live p
    · rw [update_isSome stored] at found
      exact distinct.old p found
    · obtain ⟨a', first, here⟩ := (update_socket stored session p _).mp ⟨a, first, rfl⟩
      obtain ⟨b', second, there⟩ := (update_socket stored session q _).mp ⟨b, second, rfl⟩
      exact distinct.single p q a' b' first second ((here.trans same).trans there.symm)
    · obtain ⟨a', found, here⟩ := (update_socket stored session p _).mp ⟨a, found, rfl⟩
      rw [← here]
      exact distinct.apart p a' found
  attached := by
    apply consistent.attached.mono
    intro m owns
    unfold Owns at owns ⊢
    split at owns
    · exact owns
    · exact (update_socket stored session _ _).mpr owns
    · exact owns

/-! ### What is monitored -/

/-- The descriptors of the server and of its sessions are all monitored. -/
def Watched (s : TelnetServer) (l : MainLoop UserData) : Prop :=
  ∀ fd, s.holds fd = true → ∃ ptr, l.Registered ⟨fd, ptr⟩

theorem update_watched (watched : s.Watched l) {self : Nat} {c : Connection}
    (stored : s.objects[self]? = some c) (session : TelnetSession) :
    (s.update self c session).Watched l := by
  intro fd held
  refine watched fd ((holds_iff fd).mpr (((holds_iff fd).mp held).imp_right ?_))
  rintro ⟨p, found⟩
  exact ⟨p, (update_socket stored session p fd).mp found⟩

theorem act_spares (coherent : l.Coherent) {fd : Int} {a : Action UserData}
    (watched : ∃ ptr, l.Registered ⟨fd, ptr⟩) (spared : ¬ MainLoop.Removes a fd) :
    ∃ ptr, (l.act a).Registered ⟨fd, ptr⟩ := by
  obtain ⟨ptr, registered⟩ := watched
  exact ⟨ptr, MainLoop.act_registered coherent registered spared⟩

theorem restCalls_watched (consistent : s.Consistent l) (watched : s.Watched l)
    (others : List (Action UserData)) :
    (s.restCalls others).1.Watched (l.perform (s.restCalls others).2) := by
  induction others generalizing s l with
  | nil => exact watched
  | cons a rest ih =>
    rw [restCalls]
    split
    · rename_i foreign
      apply ih (track_consistent consistent foreign)
      intro fd held
      have before : s.holds fd = true := by
        cases a with
        | addMonitor other callback accepted => exact held
        | removeMonitor other => exact held
      apply act_spares consistent.coherent (watched fd before)
      intro removed
      cases a with
      | addMonitor other callback accepted => exact removed
      | removeMonitor other =>
        cases removed
        simp [TelnetServer.foreign, before] at foreign
    · exact ih consistent watched

/-- What is not in use is not monitored. -/
theorem Consistent.vacant (consistent : s.Consistent l) {fd : Int} (free : s.holds fd = false)
    (unused : fd ∉ s.rest) : l.monitors[fd]? = none := by
  obtain ⟨socket, sessions⟩ := (not_holds fd).mp free
  cases found : l.monitors[fd]? with
  | none => rfl
  | some ptr =>
    obtain ⟨m, _, same, owns⟩ :=
      consistent.attached ⟨fd, ptr⟩ (consistent.coherent.registered ⟨fd, ptr⟩ found)
    unfold Owns at owns
    split at owns
    · exact absurd (same.symm.trans owns) socket
    · obtain ⟨c, stored, here⟩ := owns
      exact absurd (here.trans same) (sessions _ c stored)
    · rw [same] at owns
      exact absurd owns unused

theorem create_watched (consistent : s.Consistent l) (watched : s.Watched l) {fd : Int}
    (free : s.holds fd = false) (unused : fd ∉ s.rest) (buffer : Memory.Cells) :
    (s.create fd buffer true).1.Watched (l.perform (s.create fd buffer true).2) := by
  have vacant := consistent.vacant free unused
  intro other held
  have before : s.holds other = true → ∃ ptr,
      (l.perform (s.create fd buffer true).2).Registered ⟨other, ptr⟩ := fun held =>
    act_spares (a := .addMonitor fd _ true) consistent.coherent (watched other held) id
  rcases (holds_iff other).mp held with same | ⟨self, c, stored, here⟩
  · exact before ((holds_iff other).mpr (.inl same))
  rcases Nested.insert_eq_some.mp stored with ⟨_, rfl⟩ | ⟨_, stored⟩
  · cases here
    rcases MainLoop.addMonitor_cases consistent.coherent fd (.session s.nextObject) true with
      ⟨_, refused | refused⟩ | ⟨granted, _, _⟩
    · cases refused
    · rw [vacant] at refused
      cases refused
    · refine ⟨l.nextObject, (MainLoop.addMonitor_coherent consistent.coherent fd
        (.session s.nextObject) true).registered ⟨fd, l.nextObject⟩ ?_⟩
      rw [granted]
      exact Nested.insert_self _ _ _
  · exact before ((holds_iff other).mpr (.inr ⟨self, c, stored, here⟩))

theorem destroy_watched (consistent : s.Consistent l) (watched : s.Watched l) {self : Nat}
    {actions : List (Action UserData)} (destroyed : s.destroy self = some (t, actions)) :
    t.Watched (l.perform actions) := by
  obtain ⟨gone, there, rfl, rfl⟩ := destroy_eq_some.mp destroyed
  intro fd held
  have before : s.holds fd = true ∧ gone.socket ≠ fd := by
    rcases (holds_iff fd).mp held with rfl | ⟨p, c, stored, rfl⟩
    · exact ⟨(holds_iff _).mpr (.inl rfl), (consistent.distinct.apart self gone there).1⟩
    · obtain ⟨other, stored⟩ := Nested.erase_eq_some.mp stored
      exact ⟨(holds_iff _).mpr (.inr ⟨p, c, stored, rfl⟩), fun same =>
        other (consistent.distinct.single self p gone c there stored same)⟩
  exact act_spares (a := .removeMonitor gone.socket) consistent.coherent
    (watched fd before.1) before.2

/-! ### The end of the server -/

theorem destroyAll_ends {count : Nat} (size : s.sessions.size = count)
    (live : ∀ self : Nat, self ∈ s.sessions ↔ s.objects[self]?.isSome) :
    ∃ t actions, s.destroyAll count = some (t, actions) ∧ t.sessions.isEmpty ∧
      (∀ self : Nat, t.objects[self]? = none) ∧
      ∀ a, a ∈ actions ↔ ∃ (self : Nat) (c : Connection), s.objects[self]? = some c ∧
        a = .removeMonitor c.socket := by
  induction count generalizing s with
  | zero =>
    have empty : s.sessions.isEmpty := by simp [Std.TreeSet.isEmpty_eq_size_eq_zero, size]
    have none : ∀ self : Nat, s.objects[self]? = none := by
      intro self
      have outside : self ∉ s.sessions := Std.TreeSet.not_mem_of_isEmpty empty
      rw [live, Option.not_isSome_iff_eq_none] at outside
      exact outside
    refine ⟨s, [], rfl, empty, none, fun a => ⟨fun inside => absurd inside List.not_mem_nil, ?_⟩⟩
    rintro ⟨self, c, stored, _⟩
    rw [none self] at stored
    cases stored
  | succ count ih =>
    cases least : s.sessions.min? with
    | none =>
      rw [Std.TreeSet.min?_eq_none_iff, Std.TreeSet.isEmpty_eq_size_eq_zero, size] at least
      cases least
    | some self =>
      have inside := (Std.TreeSet.min?_eq_some_iff_mem_and_forall.mp least).1
      obtain ⟨c, stored⟩ := Option.isSome_iff_exists.mp ((live self).mp inside)
      let next := removeSession { s with objects := s.objects.erase self } self
      have destroyed : s.destroy self = some (next, [.removeMonitor c.socket]) :=
        destroy_eq_some.mpr ⟨c, stored, rfl, rfl⟩
      have smaller : next.sessions.size = count := by
        change (s.sessions.erase self).size = count
        rw [Std.TreeSet.size_erase, if_pos (Std.TreeSet.contains_iff_mem.mpr inside), size]
        rfl
      obtain ⟨t, actions, rest, empty, none, removed⟩ := ih smaller (erased_live live self)
      refine ⟨t, .removeMonitor c.socket :: actions, ?_, empty, none, fun a => ?_⟩
      · rw [destroyAll, least]
        dsimp only
        rw [destroyed, Option.bind_eq_bind, Option.bind_some, rest]
        rfl
      · rw [List.mem_cons, removed]
        constructor
        · rintro (rfl | ⟨p, d, found, rfl⟩)
          · exact ⟨self, c, stored, rfl⟩
          · exact ⟨p, d, (Nested.erase_eq_some.mp found).2, rfl⟩
        · rintro ⟨p, d, found, rfl⟩
          by_cases same : self = p
          · rw [← same, stored, Option.some.injEq] at found
            exact .inl (found ▸ rfl)
          · exact .inr ⟨p, d, Nested.erase_eq_some.mpr ⟨same, found⟩, rfl⟩

/-- After `stop` no session is left, and what is monitored is what the rest of the daemon
monitors. -/
theorem stop_ends (consistent : s.Consistent l) : ∃ t actions, s.stop = some (t, actions) ∧
    t.sessions.isEmpty ∧ (∀ self : Nat, t.objects[self]? = none) ∧
    ∀ e, (l.perform actions).Registered e ↔ l.Registered e ∧ s.holds e.fd = false := by
  have distinct := consistent.distinct
  have ends : ∃ t actions, TelnetServer.destroyAll s.sessions.size { s with socket := -1 } =
      some (t, actions) ∧ _ := destroyAll_ends rfl distinct.live
  obtain ⟨t, actions, ended, empty, none, removed⟩ := ends
  refine ⟨t, .removeMonitor s.socket :: actions, ?_, empty, none, fun e => ?_⟩
  · rw [stop, if_pos distinct.opened, ended]
    rfl
  · rw [MainLoop.perform_removals consistent.coherent]
    · apply and_congr_right
      intro _
      rw [not_holds, List.mem_cons, not_or, removed, Action.removeMonitor.injEq]
      apply and_congr_right
      intro _
      simp only [not_exists, not_and, Action.removeMonitor.injEq]
      exact forall₃_congr fun _ _ _ => ne_comm
    · intro a inside
      rcases List.mem_cons.mp inside with rfl | inside
      · exact ⟨_, rfl⟩
      · obtain ⟨_, c, _, rfl⟩ := (removed a).mp inside
        exact ⟨_, rfl⟩

end TelnetServer

end OpenVrrp
