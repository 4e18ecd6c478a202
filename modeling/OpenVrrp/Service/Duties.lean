import OpenVrrp.Service.AddressList
import OpenVrrp.Service.Obligations
import OpenVrrp.Socket.RoundTrip

/-! What a router owes to the network over its life, from the constructor to the destructor, and
what becomes of its requests to send. `sendPacket` refuses a primary address of another family,
and the service does not look at the answer: without a primary address it enters and leaves
Master in silence, and counts the farewell all the same. -/
namespace OpenVrrp

namespace VrrpSocket

variable {ι : Type}

theorem appendAddresses_isSome (family : Family) (addresses : List IpAddress)
    (buffer : Memory.Cells) (ptr : Nat) :
    (appendAddresses family addresses buffer ptr).isSome = true ↔
      ∀ a ∈ addresses, a.family = family := by
  induction addresses generalizing buffer ptr with
  | nil => simp [appendAddresses]
  | cons a rest ih =>
    rw [appendAddresses, List.forall_mem_cons]
    split
    · rename_i other
      simp [other]
    · rename_i same
      rw [ih, and_iff_right (not_not.mp same)]

/-- Nothing is sent only if an address is not of the family of the socket. -/
theorem sendPacket_isSome (socket : VrrpSocket ι) (buffer : Memory.Cells) (address : IpAddress)
    (virtualRouterId priority : UInt8) (interval : Nat) (addresses : IpAddressSet) :
    (socket.sendPacket buffer address virtualRouterId priority interval addresses).isSome = true ↔
      address.family = socket.family ∧ ∀ a ∈ addresses.toList, a.family = socket.family := by
  unfold sendPacket
  split
  · rename_i other
    simp [other]
  · rename_i same
    dsimp only
    rw [and_iff_right (not_not.mp same)]
    split
    all_goals
      rename_i appended
      have complete := congrArg Option.isSome appended
      rw [← appendAddresses_isSome, complete]
      rfl

end VrrpSocket

/-- A socket of the family hands the packet over to the kernel. -/
def Effect.goesOut (family : Family) : Effect → Bool
  | .sendPacket _ address virtualRouterId priority interval addresses =>
    let socket : VrrpSocket Unit := ⟨family, ∅, ∅⟩
    (socket.sendPacket (fun _ => 0) address virtualRouterId priority interval addresses).isSome
  | _ => false

namespace Transition

/-- The advertisements that the step sends. -/
def sent (x : Transition) : List Effect := x.effects.filter (Effect.goesOut x.before.family)

structure Obliged (x : Transition) : Prop where
  speaking : ∀ e ∈ x.sent, x.after.state = .master ∨ x.leaves = true
  advertises : x.enters .master = true → x.sent = [x.after.sendAdvertisement x.after.priority.1]
  announces : x.enters .master = true → x.after.family = .inet → announced x.effects =
    x.after.addresses.toList.map (Effect.sendGratuitiousArp x.after.outputInterface)
  gone : x.leaves = true → x.after.state ≠ .master
  farewells : x.sent.countP Effect.bidsFarewell = if x.leaves = true then 1 else 0
  commands : executed x.effects =
    if x.enters .master = true ∧ x.after.masterCommand ≠ [] then [x.after.masterCommand]
    else if x.enters .backup = true ∧ x.after.backupCommand ≠ [] then [x.after.backupCommand]
    else []

end Transition

namespace VrrpService

def history (s : VrrpService) : List Event → List Transition
  | [] => []
  | e :: rest => ⟨s, e.ends, (s.step e).1, (s.step e).2⟩ :: history (s.step e).1 rest

/-- The steps of a router after its construction, with its destruction if it has come to that. -/
def life (s : VrrpService) (events : List Event) (destroyed : Bool) : List Transition :=
  s.history events ++ if destroyed then [(s.run events).1.destruction] else []

/-- The service after these steps. -/
def outlived (s : VrrpService) (events : List Event) (destroyed : Bool) : VrrpService :=
  if destroyed then (s.run events).1.destruct.1 else (s.run events).1

/-- Every step does what it owes, and the two counters say at the end how often the router
became Master and how often it took its leave. -/
structure KeepsObligations (s : VrrpService) (events : List Event) (destroyed : Bool) : Prop where
  obliged : ∀ x ∈ s.life events destroyed, x.Obliged
  transitions : (s.outlived events destroyed).statsMasterTransitions =
    (s.life events destroyed).countP (·.enters .master)
  farewells : (s.outlived events destroyed).statsSentPriZeroPackets =
    ((s.life events destroyed).flatMap Transition.sent).countP Effect.bidsFarewell

/-- The primary address is one of the family. -/
def Addressed (s : VrrpService) : Prop := s.primaryIpAddress.family = s.family

/-- An event that leads into Master, or out of it by disable or the loss of the link, finds a
primary address of the family. -/
def SpeaksFor (s : VrrpService) (e : Event) : Prop :=
  s.Enters e ∨ (e.ends = true ∧ s.state = .master) → s.Addressed

end VrrpService

/-! ### What goes out of what is asked -/

theorem Effect.advertises_of_goesOut {family : Family} {e : Effect}
    (out : e.goesOut family = true) : e.advertises = true := by
  cases e <;> first | rfl | cases out

theorem VrrpService.goesOut_iff {s : VrrpService} (own : s.OwnFamily) (priority : UInt8) :
    (s.sendAdvertisement priority).goesOut s.family = true ↔ s.Addressed := by
  refine (VrrpSocket.sendPacket_isSome _ _ _ _ _ _ _).trans (and_iff_left fun a inside => ?_)
  exact own a (List.mem_toFinset.mpr inside)

namespace Transition
open VrrpService
variable {x : Transition}

theorem sent_advertised (x : Transition) :
    x.sent = (advertised x.effects).filter (Effect.goesOut x.before.family) := by
  rw [sent, advertised, List.filter_filter]
  apply List.filter_congr
  intro e _
  cases out : e.goesOut x.before.family with
  | false => rfl
  | true => rw [Effect.advertises_of_goesOut out]; rfl

theorem sent_addressed (asks : x.Asks) (own : x.before.OwnFamily) (addressed : x.before.Addressed) :
    x.sent = advertised x.effects := by
  rw [sent_advertised, List.filter_eq_self]
  intro e said
  obtain ⟨priority, rfl⟩ := asks.sender e said
  exact (goesOut_iff own priority).mpr addressed

theorem sent_unaddressed (asks : x.Asks) (own : x.before.OwnFamily)
    (silent : ¬ x.before.Addressed) : x.sent = [] := by
  rw [sent_advertised, List.filter_eq_nil_iff]
  intro e said
  obtain ⟨priority, rfl⟩ := asks.sender e said
  exact fun out => silent ((goesOut_iff own priority).mp out)

/-- What a step owes is sent if and only if there is a primary address to send it from. -/
theorem obliged_iff (asks : x.Asks) (own : x.before.OwnFamily) :
    x.Obliged ↔ (x.enters .master = true ∨ x.leaves = true → x.before.Addressed) := by
  by_cases addressed : x.before.Addressed
  · refine iff_of_true ?_ fun _ => addressed
    have all := sent_addressed asks own addressed
    refine ⟨?_, ?_, asks.announces, asks.gone, ?_, asks.commands⟩
    · rw [all]
      exact asks.speaking
    · rw [all]
      exact asks.advertises
    · rw [all, farewells_advertised]
      exact asks.farewells
  · have none := sent_unaddressed asks own addressed
    constructor
    · rintro obliged (enters | leaves)
      · cases none.symm.trans (obliged.advertises enters)
      · have count := obliged.farewells
        rw [none, if_pos leaves] at count
        cases count
    · intro owed
      have stays : x.leaves ≠ true := fun leaves => addressed (owed (.inr leaves))
      refine ⟨?_, fun enters => absurd (owed (.inl enters)) addressed, asks.announces,
        asks.gone, ?_, asks.commands⟩
      · rw [none]
        exact fun e said => nomatch said
      · rw [none, if_neg stays]
        rfl

end Transition

/-! ### Whole lives -/

namespace VrrpService

theorem step_obliged_iff {s : VrrpService} (own : s.OwnFamily) (e : Event) :
    Transition.Obliged ⟨s, e.ends, (s.step e).1, (s.step e).2⟩ ↔ s.SpeaksFor e := by
  have enters : s.state ≠ .master ∧ (s.step e).1.state = .master ↔ s.Enters e :=
    ⟨fun both => (enters_iff both.1).mp both.2, fun enters =>
      ⟨enters.other, (enters_iff enters.other).mpr enters⟩⟩
  rw [Transition.obliged_iff (s.step_asks e) own, Transition.enters_iff, Transition.leaves_iff]
  simp only [enters]
  rfl

theorem destruction_obliged_iff {s : VrrpService} (own : s.OwnFamily) :
    s.destruction.Obliged ↔ (s.state = .master → s.Addressed) := by
  have asks := s.destruction_law.1
  have enters : s.destruction.enters .master ≠ true := by
    intro enters
    obtain ⟨other, master⟩ := (s.destruction.enters_iff _).mp enters
    by_cases active : s.Active
    · exact State.noConfusion ((s.shutdown_state .disabled active).symm.trans master)
    · apply other
      rw [← master]
      exact congrArg state (congrArg Prod.fst (s.shutdown_idle .disabled (fun b => active (.inl b))
        fun m => active (.inr m))).symm
  rw [Transition.obliged_iff asks own, or_iff_right enters, Transition.leaves_iff]
  exact ⟨fun owed master => owed ⟨rfl, master⟩, fun owed leaves => owed leaves.2⟩

theorem history_obliged_iff {s : VrrpService} (own : s.OwnFamily) (events : List Event) :
    (∀ x ∈ s.history events, x.Obliged) ↔
      Runs.Admitted (fun s e => (s.step e).1) SpeaksFor s events := by
  induction events generalizing s with
  | nil => exact iff_of_true (fun x inside => nomatch inside) trivial
  | cons e rest ih =>
    rw [history, List.forall_mem_cons, Runs.Admitted, step_obliged_iff own,
      ih (s.ownFamily_step e own)]

/-- The counters follow the requests, so of what is sent they tell the truth as long as every
step does what it owes. -/
theorem history_counts {s : VrrpService} {events : List Event}
    (obliged : ∀ x ∈ s.history events, x.Obliged) :
    (s.run events).1.statsMasterTransitions =
      s.statsMasterTransitions + (s.history events).countP (·.enters .master) ∧
    (s.run events).1.statsSentPriZeroPackets = s.statsSentPriZeroPackets +
      ((s.history events).flatMap Transition.sent).countP Effect.bidsFarewell := by
  induction events generalizing s with
  | nil => exact ⟨rfl, rfl⟩
  | cons e rest ih =>
    rw [history, List.forall_mem_cons] at obliged
    obtain ⟨transitions, farewells⟩ := ih obliged.2
    have counted := s.step_counted e
    constructor
    · rw [run, history, List.countP_cons, transitions, counted.transitions]
      exact (Nat.add_assoc ..).trans (congrArg _ (Nat.add_comm ..))
    · rw [run, history, List.flatMap_cons, List.countP_append, farewells, counted.farewells,
        obliged.1.farewells]
      exact Nat.add_assoc ..

/-- A router keeps its obligations over its whole life if and only if it has a primary address
whenever it enters Master, or leaves it by disable, the loss of the link or destruction. -/
theorem obligations_iff (interface : Int) (family : Family) (virtualRouterId : UInt8)
    (vlanId : UInt64) (answers : Creation) (s : VrrpService)
    (created : construct interface family virtualRouterId vlanId answers = some s)
    (events : List Event) (destroyed : Bool) :
    s.KeepsObligations events destroyed ↔
      Runs.Admitted (fun s e => (s.step e).1) SpeaksFor s events ∧
        (destroyed = true → (s.run events).1.state = .master → (s.run events).1.Addressed) := by
  have own := (construct_ownFamily created).1
  have start : s.statsMasterTransitions = 0 ∧ s.statsSentPriZeroPackets = 0 := by
    obtain ⟨_, _, _, _, rfl⟩ := construct_fresh created
    exact ⟨rfl, rfl⟩
  have obliged : (∀ x ∈ s.life events destroyed, x.Obliged) ↔
      Runs.Admitted (fun s e => (s.step e).1) SpeaksFor s events ∧
        (destroyed = true → (s.run events).1.state = .master → (s.run events).1.Addressed) := by
    rw [life, List.forall_mem_append, history_obliged_iff own]
    apply and_congr_right
    intro _
    cases destroyed with
    | false => simp
    | true =>
      rw [if_pos rfl, List.forall_mem_singleton,
        destruction_obliged_iff (ownFamily_run own events).1]
      exact ⟨fun owed _ => owed, fun owed => owed rfl⟩
  rw [← obliged]
  refine ⟨KeepsObligations.obliged, fun kept => ?_⟩
  obtain ⟨transitions, farewells⟩ := history_counts fun x inside =>
    kept x (List.mem_append_left _ inside)
  rw [start.1, Nat.zero_add] at transitions
  rw [start.2, Nat.zero_add] at farewells
  cases destroyed with
  | false =>
    refine ⟨kept, ?_, ?_⟩
    · simpa [life, outlived] using transitions
    · simpa [life, outlived] using farewells
  | true =>
    have last := (s.run events).1.destruction_law.2
    have owed := kept (s.run events).1.destruction (by simp [life])
    refine ⟨kept, ?_, ?_⟩
    · rw [life, outlived, if_pos rfl, if_pos rfl, List.countP_append, List.countP_singleton,
        ← transitions]
      exact last.transitions
    · rw [life, outlived, if_pos rfl, if_pos rfl, List.flatMap_append, List.countP_append,
        ← farewells, List.flatMap_singleton, owed.farewells]
      exact last.farewells

theorem obligations_sample : (sample 1).KeepsObligations [.enable true, .masterDownExpiry] true :=
  (obligations_iff 2 .inet 51 0 _ (sample 1) (construct_sample 1) [.enable true, .masterDownExpiry]
    true).mpr ⟨⟨fun _ => rfl, fun _ => rfl, trivial⟩, fun _ _ => rfl⟩

/-- On an interface without an address. -/
def unaddressed : VrrpService := (fresh 2 .inet 51 0 .unspec).createMacvlan ⟨.unspec, 7, none, -1⟩

/-- It becomes Master and is destroyed: one farewell is counted and none is sent. -/
theorem silent_farewell :
    construct 2 .inet 51 0 ⟨.unspec, 7, none, -1⟩ = some unaddressed ∧
    ¬ unaddressed.KeepsObligations [.enable true, .masterDownExpiry] true := by
  refine ⟨rfl, fun kept => ?_⟩
  exact absurd kept.farewells (by decide)

end VrrpService

end OpenVrrp
