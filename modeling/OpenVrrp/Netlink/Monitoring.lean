import OpenVrrp.Library.Runs
import OpenVrrp.Netlink

/-! The callbacks of the interface monitors with the netlink socket behind them. The socket
is made for the first interface that is monitored and freed with the last; the new interface
has its empty set of callbacks before `nl_connect` is tried. -/
namespace OpenVrrp.Netlink

/-- A socket that `sock` points to: connected, and registered with the main loop. -/
structure MonitorSocket where
  connected : Bool
  registered : Bool
  deriving DecidableEq

/-- The callbacks are pairs of a function and its user data. -/
structure Monitoring (ι : Type) [Ord ι] where
  callbacks : CallbackMap ι
  sock : Option MonitorSocket

inductive MonitorCall (ι : Type) where
  | add (connects : Bool) (interface : Int) (data : ι)
  | remove (interface : Int) (data : ι)

namespace MonitorCall

variable {ι : Type}

def interface : MonitorCall ι → Int
  | .add _ interface _ | .remove interface _ => interface

def data : MonitorCall ι → ι
  | .add _ _ data | .remove _ data => data

end MonitorCall

namespace Monitoring

variable {ι : Type} [Ord ι]

def initial : Monitoring ι := ⟨∅, none⟩

/-- `connects` is the answer of `nl_connect`, if it is asked. -/
def addInterfaceMonitor (m : Monitoring ι) (connects : Bool) (interface : Int) (data : ι) :
    Monitoring ι × Bool :=
  match m.callbacks[interface]? with
  | some set =>
    match set[data]? with
    | some _ => (m, false)
    | none => ({ m with callbacks := m.callbacks.insert interface (set.insert data ()) }, true)
  | none =>
    let callbacks := m.callbacks.insert interface ∅
    let inserted := callbacks.insert interface ((∅ : Std.TreeMap ι Unit).insert data ())
    match m.sock with
    | some sock => (⟨inserted, some sock⟩, true)
    | none =>
      if connects then (⟨inserted, some ⟨true, true⟩⟩, true)
      else (⟨callbacks.erase interface, some ⟨false, false⟩⟩, false)

def removeInterfaceMonitor (m : Monitoring ι) (interface : Int) (data : ι) :
    Monitoring ι × Bool :=
  match m.callbacks[interface]? with
  | none => (m, false)
  | some set =>
    match set[data]? with
    | none => (m, false)
    | some _ =>
      let set := set.erase data
      if set.size = 0 then
        let callbacks := m.callbacks.erase interface
        if callbacks.size = 0 then (⟨callbacks, none⟩, true)
        else ({ m with callbacks := callbacks }, true)
      else ({ m with callbacks := m.callbacks.insert interface set }, true)

def call (m : Monitoring ι) : MonitorCall ι → Monitoring ι × Bool
  | .add connects interface data => m.addInterfaceMonitor connects interface data
  | .remove interface data => m.removeInterfaceMonitor interface data

def step (m : Monitoring ι) (c : MonitorCall ι) : Monitoring ι := (m.call c).1

def Has (m : Monitoring ι) (interface : Int) (data : ι) : Prop :=
  Nested.find m.callbacks interface data = some ()

/-- The socket is there and works exactly while there is a callback. -/
structure Consistent (m : Monitoring ι) : Prop where
  opened : (∃ interface data, m.Has interface data) → m.sock = some ⟨true, true⟩
  closed : (∀ interface data, ¬ m.Has interface data) → m.sock = none
  occupied : Nested.Occupied m.callbacks

structure Clean (m : Monitoring ι) (c : MonitorCall ι) : Prop where
  consistent : (m.step c).Consistent
  adds : ∀ connects interface data, c = .add connects interface data →
    ((m.call c).2 = true ↔ ¬ m.Has interface data ∧ (m.step c).Has interface data)
  removes : ∀ interface data, c = .remove interface data →
    ((m.call c).2 = true ↔ m.Has interface data ∧ ¬ (m.step c).Has interface data)
  others : ∀ interface data, (c.interface = interface → c.data ≠ data) →
    ((m.step c).Has interface data ↔ m.Has interface data)
  refused : (m.call c).2 = false →
    (∀ interface : Int, (m.step c).callbacks[interface]? = m.callbacks[interface]?) ∧
      (m.step c).sock = m.sock

/-- `nl_connect` succeeds wherever the first callback is added. -/
def Connects (m : Monitoring ι) : MonitorCall ι → Prop
  | .add connects _ _ => (∀ interface data, ¬ m.Has interface data) → connects = true
  | .remove _ _ => True

/-! ### The exits of both calls -/

/-- The same sets for the same interfaces. -/
def Same (a b : CallbackMap ι) : Prop := ∀ interface : Int, a[interface]? = b[interface]?

theorem Same.find_eq {a b : CallbackMap ι} (same : Same a b) (interface : Int) (data : ι) :
    Nested.find a interface data = Nested.find b interface data := by
  rw [Nested.find, same interface, Nested.find]

theorem Same.occupied {a b : CallbackMap ι} (same : Same a b) (occupied : Nested.Occupied b) :
    Nested.Occupied a := fun interface inner stored =>
  occupied interface inner ((same interface).symm.trans stored)

section Exits
variable {m : Monitoring ι} {interface : Int} {data : ι}

theorem find_of_stored {set : Std.TreeMap ι Unit} (stored : m.callbacks[interface]? = some set)
    (d : ι) : Nested.find m.callbacks interface d = set[d]? := by
  rw [Nested.find, stored, Option.bind_some]

theorem find_of_absent (absent : m.callbacks[interface]? = none) (d : ι) :
    Nested.find m.callbacks interface d = none := by
  rw [Nested.find, absent, Option.bind_none]

theorem not_has (absent : Nested.find m.callbacks interface data = none) :
    ¬ m.Has interface data := by
  rw [Has, absent]
  intro there
  cases there

theorem Consistent.stored_sock (consistent : m.Consistent) {set : Std.TreeMap ι Unit}
    (stored : m.callbacks[interface]? = some set) : m.sock = some ⟨true, true⟩ := by
  obtain ⟨d, c, found⟩ := consistent.occupied interface set stored
  exact consistent.opened ⟨interface, d, (find_of_stored stored d).trans found⟩

theorem Consistent.sock_eq (consistent : m.Consistent) {sock : MonitorSocket}
    (present : m.sock = some sock) : sock = ⟨true, true⟩ := by
  by_cases some_callback : ∃ interface data, m.Has interface data
  · exact Option.some.inj (present.symm.trans (consistent.opened some_callback))
  · push Not at some_callback
    cases present.symm.trans (consistent.closed some_callback)

/-- The empty set that is stored before the first callback makes no difference. -/
theorem put_absent [Std.TransOrd ι] [Std.LawfulEqOrd ι] (absent : m.callbacks[interface]? = none)
    (data : ι) : Same ((m.callbacks.insert interface ∅).insert interface
      ((∅ : Std.TreeMap ι Unit).insert data ())) (Nested.put m.callbacks interface data ()) := by
  intro i
  rw [Nested.put, absent, Option.getD_none]
  by_cases here : interface = i
  · rw [here, Nested.insert_self, Nested.insert_self]
  · rw [Nested.insert_other _ _ here, Nested.insert_other _ _ here, Nested.insert_other _ _ here]

/-- A callback is known, or it is added to a working socket, or nothing could be opened. -/
inductive Adds (m : Monitoring ι) (connects : Bool) (interface : Int) (data : ι) :
    Monitoring ι × Bool → Prop where
  | known (has : m.Has interface data) : Adds m connects interface data (m, false)
  | added {t : Monitoring ι} (new : ¬ m.Has interface data)
      (callbacks : Same t.callbacks (Nested.put m.callbacks interface data ()))
      (sock : t.sock = some ⟨true, true⟩) (connected : m.Connects (.add connects interface data)) :
      Adds m connects interface data (t, true)
  | failed {t : Monitoring ι} (nobody : ∀ interface data, ¬ m.Has interface data)
      (closed : m.sock = none) (refused : connects = false)
      (sock : t.sock = some ⟨false, false⟩) : Adds m connects interface data (t, false)

theorem addInterfaceMonitor_adds [Std.TransOrd ι] [Std.LawfulEqOrd ι] (consistent : m.Consistent)
    (connects : Bool) (interface : Int) (data : ι) : m.Adds connects interface data
      (m.addInterfaceMonitor connects interface data) := by
  unfold addInterfaceMonitor
  cases stored : m.callbacks[interface]? with
  | some set =>
    have sock := consistent.stored_sock stored
    dsimp only
    cases found : set[data]? with
    | some => exact .known ((find_of_stored stored data).trans found)
    | none =>
      have new : ¬ m.Has interface data := not_has ((find_of_stored stored data).trans found)
      refine .added new (fun i => ?_) sock fun nobody => ?_
      · rw [Nested.put, stored]
        rfl
      · rw [consistent.closed nobody] at sock
        cases sock
  | none =>
    have new : ¬ m.Has interface data := not_has (find_of_absent stored data)
    have inserted := put_absent stored data
    dsimp only
    cases present : m.sock with
    | some sock =>
      have works := consistent.sock_eq present
      refine .added new inserted (congrArg some works) fun nobody => ?_
      cases present.symm.trans (consistent.closed nobody)
    | none =>
      cases connects with
      | true => exact .added new inserted rfl fun _ => rfl
      | false =>
        refine .failed (fun i d has => ?_) present rfl rfl
        cases present.symm.trans (consistent.opened ⟨i, d, has⟩)

/-- A triple is not there, or it goes, and the socket with the last one. -/
inductive Removes (m : Monitoring ι) (interface : Int) (data : ι) :
    Monitoring ι × Bool → Prop where
  | unknown (absent : ¬ m.Has interface data) : Removes m interface data (m, false)
  | removed {t : Monitoring ι} (has : m.Has interface data)
      (callbacks : Same t.callbacks (Nested.drop m.callbacks interface data))
      (sock : ((∃ i d, t.Has i d) ∧ t.sock = m.sock) ∨
        ((∀ i d, ¬ t.Has i d) ∧ t.sock = none)) : Removes m interface data (t, true)

theorem removeInterfaceMonitor_removes [Std.TransOrd ι] [Std.LawfulEqOrd ι]
    (consistent : m.Consistent) (interface : Int) (data : ι) :
    m.Removes interface data (m.removeInterfaceMonitor interface data) := by
  unfold removeInterfaceMonitor
  cases stored : m.callbacks[interface]? with
  | none =>
    exact .unknown (not_has (find_of_absent stored data))
  | some set =>
    dsimp only
    cases found : set[data]? with
    | none =>
      exact .unknown (not_has ((find_of_stored stored data).trans found))
    | some =>
      have has : m.Has interface data := (find_of_stored stored data).trans found
      dsimp only
      split
      · rename_i last
        have dropped : Nested.drop m.callbacks interface data = m.callbacks.erase interface := by
          rw [Nested.drop, stored]
          exact if_pos last
        split
        · rename_i nobody
          refine .removed has (fun _ => by rw [dropped]) (.inr ⟨fun i d => ?_, rfl⟩)
          exact not_has (find_of_absent (Nested.getElem?_of_size_zero nobody i) d)
        · rename_i others
          refine .removed has (fun _ => by rw [dropped]) (.inl ⟨?_, rfl⟩)
          obtain ⟨i, left, kept⟩ := Nested.exists_of_size_ne_zero others
          obtain ⟨d, _, there⟩ := Nested.occupied_drop consistent.occupied interface data i left
            (dropped ▸ kept)
          refine ⟨i, d, ?_⟩
          rw [Has, Nested.find, kept, Option.bind_some, there]
      · rename_i others
        have dropped : Nested.drop m.callbacks interface data =
            m.callbacks.insert interface (set.erase data) := by
          rw [Nested.drop, stored]
          exact if_neg others
        obtain ⟨d, _, there⟩ := Nested.exists_of_size_ne_zero others
        refine .removed has (fun _ => by rw [dropped]) (.inl ⟨⟨interface, d, ?_⟩, rfl⟩)
        rw [Has, Nested.find, Nested.insert_self, Option.bind_some, there]

/-- A call that answers false and changes nothing is in order if there was nothing to do. -/
theorem clean_unchanged (consistent : m.Consistent) {c : MonitorCall ι}
    (outcome : m.call c = (m, false))
    (known : ∀ connects interface data, c = .add connects interface data → m.Has interface data)
    (unknown : ∀ interface data, c = .remove interface data → ¬ m.Has interface data) :
    m.Clean c := by
  have after : m.step c = m := congrArg Prod.fst outcome
  refine ⟨after.symm ▸ consistent, ?_, ?_, ?_, ?_⟩
  · intro connects interface data asked
    rw [outcome]
    exact iff_of_false Bool.false_ne_true fun both =>
      both.1 (known connects interface data asked)
  · intro interface data asked
    rw [outcome]
    exact iff_of_false Bool.false_ne_true fun both => unknown interface data asked both.1
  · intro _ _ _
    rw [after]
  · intro _
    rw [after]
    exact ⟨fun _ => rfl, rfl⟩

end Exits

/-! ### One call -/

section Calls
variable [Std.TransOrd ι] [Std.LawfulEqOrd ι] {m : Monitoring ι}

/-- With a working socket the callbacks are those of a monitor that never fails. -/
theorem add_with_socket (consistent : m.Consistent) (present : m.sock ≠ none) (connects : Bool)
    (interface : Int) (data : ι) :
    let added := m.addInterfaceMonitor connects interface data
    let expected := Netlink.addInterfaceMonitor m.callbacks interface data
    Same added.1.callbacks expected.1 ∧ added.2 = expected.2 := by
  have exits := addInterfaceMonitor_adds consistent connects interface data
  generalize m.addInterfaceMonitor connects interface data = u at exits
  unfold Netlink.addInterfaceMonitor
  cases exits with
  | known has =>
    rw [show Nested.find m.callbacks interface data = some () from has]
    exact ⟨fun _ => rfl, rfl⟩
  | added new callbacks =>
    have absent : Nested.find m.callbacks interface data = none :=
      Option.eq_none_iff_forall_ne_some.mpr fun _ => new
    rw [absent]
    exact ⟨callbacks, rfl⟩
  | failed _ closed => exact absurd closed present

theorem add_clean_iff (consistent : m.Consistent) (connects : Bool) (interface : Int) (data : ι) :
    m.Clean (.add connects interface data) ↔ m.Connects (.add connects interface data) := by
  have exits : m.Adds connects interface data (m.call (.add connects interface data)) :=
    addInterfaceMonitor_adds consistent connects interface data
  generalize outcome : m.call (.add connects interface data) = u at exits
  have after : m.step (.add connects interface data) = u.1 := congrArg Prod.fst outcome
  cases exits with
  | known has =>
    refine iff_of_true (clean_unchanged consistent outcome ?_ ?_) fun nobody =>
      absurd has (nobody _ _)
    · rintro _ _ _ ⟨⟩
      exact has
    · rintro _ _ ⟨⟩
  | @added t new callbacks sock connected =>
    have here : t.Has interface data := by
      rw [Has, callbacks.find_eq, Nested.find_put_self]
    refine iff_of_true ⟨?_, ?_, nofun, ?_, ?_⟩ connected
    · rw [after]
      exact ⟨fun _ => sock, fun nobody => absurd here (nobody _ _),
        callbacks.occupied (Nested.occupied_put consistent.occupied _ _ _)⟩
    · rintro _ _ _ ⟨⟩
      rw [outcome, after]
      exact iff_of_true rfl ⟨new, here⟩
    · intro i d other
      have apart : interface = i → data ≠ d := other
      rw [after, Has, callbacks.find_eq, Nested.find_put_other _ _ apart, Has]
    · intro refused
      rw [outcome] at refused
      cases refused
  | failed nobody closed refused sock =>
    refine iff_of_false (fun clean => ?_) fun connected => ?_
    · have kept := (clean.refused (by rw [outcome])).2
      rw [after, sock, closed] at kept
      cases kept
    · cases refused.symm.trans (connected nobody)

theorem remove_clean (consistent : m.Consistent) (interface : Int) (data : ι) :
    m.Clean (.remove interface data) := by
  have exits : m.Removes interface data (m.call (.remove interface data)) :=
    removeInterfaceMonitor_removes consistent interface data
  generalize outcome : m.call (.remove interface data) = u at exits
  have after : m.step (.remove interface data) = u.1 := congrArg Prod.fst outcome
  cases exits with
  | unknown absent =>
    refine clean_unchanged consistent outcome ?_ ?_
    · rintro _ _ _ ⟨⟩
    · rintro _ _ ⟨⟩
      exact absent
  | @removed t has callbacks sock =>
    have gone : ¬ t.Has interface data :=
      not_has ((callbacks.find_eq _ _).trans (Nested.find_drop_self _ _ _))
    refine ⟨?_, nofun, ?_, ?_, ?_⟩
    · rw [after]
      refine ⟨fun some_left => ?_, fun nobody => ?_,
        callbacks.occupied (Nested.occupied_drop consistent.occupied _ _)⟩
      · rcases sock with ⟨_, same⟩ | ⟨nobody, _⟩
        · exact same.trans (consistent.opened ⟨_, _, has⟩)
        · obtain ⟨i, d, there⟩ := some_left
          exact absurd there (nobody i d)
      · rcases sock with ⟨⟨i, d, there⟩, _⟩ | ⟨_, closed⟩
        · exact absurd there (nobody i d)
        · exact closed
    · rintro _ _ ⟨⟩
      rw [outcome, after]
      exact iff_of_true rfl ⟨has, gone⟩
    · intro i d other
      have apart : interface = i → data ≠ d := other
      rw [after, Has, callbacks.find_eq, Nested.find_drop_other _ apart, Has]
    · intro refused
      rw [outcome] at refused
      cases refused

theorem clean_iff (consistent : m.Consistent) (c : MonitorCall ι) : m.Clean c ↔ m.Connects c := by
  cases c with
  | add connects interface data => exact add_clean_iff consistent connects interface data
  | remove interface data => exact iff_of_true (remove_clean consistent interface data) trivial

/-- From the start every call of a sequence leaves the books in order if and only if
`nl_connect` succeeds each time that a callback is added while there is none. -/
theorem monitoring_clean_iff (calls : List (MonitorCall ι)) :
    Runs.Admitted step Clean initial calls ↔ Runs.Admitted step Connects initial calls := by
  have start : (initial : Monitoring ι).Consistent := by
    refine ⟨fun some_callback => ?_, fun _ => rfl, fun interface inner stored => ?_⟩
    · obtain ⟨_, _, has⟩ := some_callback
      cases has
    · cases stored
  exact Runs.admitted_iff_admitted Consistent (fun _ _ _ clean => clean.consistent)
    (fun _ c consistent => clean_iff consistent c) start calls

end Calls

theorem monitoring_clean_sample :
    Runs.Admitted step Clean (initial : Monitoring Nat) [.add true 2 0, .remove 2 0] :=
  (monitoring_clean_iff _).mpr ⟨fun _ => rfl, trivial, trivial⟩

/-- A refused connection leaves the socket behind, and the next attempt takes it for a
working one. -/
theorem refused_connection_kept :
    ¬ Runs.Admitted step Clean (initial : Monitoring Nat) [.add false 2 0] ∧
    ((initial.step (.add false 2 0)).call (.add true 2 0)).2 = true ∧
    ((initial.step (.add false 2 0)).step (.add true 2 0)).sock = some ⟨false, false⟩ := by
  refine ⟨?_, rfl, rfl⟩
  rintro ⟨clean, _⟩
  have kept := (clean.refused rfl).2
  cases kept

end Monitoring

end OpenVrrp.Netlink
