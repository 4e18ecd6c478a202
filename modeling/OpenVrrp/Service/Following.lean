import OpenVrrp.Service.Moves

/-! Whose advertisements a service follows, and whether `masterIpAddress` says so. The source
of the last accepted advertisement is recorded beside the service; a Master that yields forgets
to store it. -/
namespace OpenVrrp

def Event.Advertises : Event → Prop
  | .incomingPacket .. => True
  | _ => False

namespace VrrpService

/-- The source of an advertisement that is accepted: a Backup waits for the next one of it, or a
Master yields to it. -/
def follows (s : VrrpService) : Event → Option IpAddress
  | .incomingPacket address priority _ _ =>
    match s.state with
    | .backup =>
      if priority ≠ 0 ∧ (s.preemptMode = false ∨ s.priority.1 ≤ priority) then some address
      else none
    | .master => if priority ≠ 0 ∧ s.outranked address priority = true then some address else none
    | _ => none
  | _ => none

end VrrpService

/-- A service and the master that it has to name. -/
structure Followed where
  service : VrrpService
  master : IpAddress

namespace Followed

/-- The source of an accepted advertisement is the master from now on, and on entering Master
the service itself is. -/
def step (f : Followed) (e : Event) : Followed :=
  let s := (f.service.step e).1
  ⟨s, match f.service.follows e with
    | some address => address
    | none =>
      if f.service.state ≠ .master ∧ s.state = .master then s.primaryIpAddress else f.master⟩

def Named (f : Followed) : Prop := f.service.masterIpAddress = f.master

/-- A Master does not yield, or only to the address that it has for the master already. -/
def Remembers (f : Followed) (e : Event) : Prop :=
  f.service.state = .master → ∀ address, f.service.follows e = some address →
    address = f.service.masterIpAddress

end Followed

namespace VrrpService

/-- The address of the master after a transition: the own one on entering Master. -/
def Names (s t : VrrpService) : Prop :=
  t.masterIpAddress =
    if s.state ≠ .master ∧ t.state = .master then t.primaryIpAddress else s.masterIpAddress

theorem names_of_kept {s t : VrrpService} (outside : t.state = s.state ∨ t.state ≠ .master)
    (kept : t.masterIpAddress = s.masterIpAddress) : s.Names t := by
  rw [Names, kept, if_neg]
  rintro ⟨other, master⟩
  rcases outside with same | absent
  · exact other (same.symm.trans master)
  · exact absent master

theorem names_becomeMaster {s t : VrrpService} (reason : NewMasterReason)
    (other : s.state ≠ .master) : s.Names (t.becomeMaster reason).1 := by
  rw [Names, becomeMaster_fst]
  exact (if_pos ⟨other, rfl⟩).symm

theorem names_startup {s : VrrpService} (idle : ¬ s.Active) : s.Names s.startup.1 := by
  by_cases owner : s.priority.1 = 255
  · rw [startup_owner s owner]
    exact names_becomeMaster _ fun master => idle (.inr master)
  · rw [startup_fst s owner]
    exact names_of_kept (.inr (by simp)) rfl

theorem names_shutdown {s : VrrpService} {newState : State} (active : s.Active)
    (target : newState ≠ .master) : s.Names (s.shutdown newState).1 := by
  apply names_of_kept (.inr ((s.shutdown_state newState active).symm ▸ target))
  rcases active with backup | master
  · rw [shutdown_backup s newState backup, setState_fst]
    rfl
  · rw [shutdown_master_fst s newState master]

theorem heard_master (s : VrrpService) {e : Event} (heard : e.Heard) (other : ¬ e.Advertises)
    (stays : (s.step e).1.state = s.state) :
    (s.step e).1.masterIpAddress = s.masterIpAddress := by
  cases e with
  | incomingPacket => exact absurd trivial other
  | masterDownExpiry =>
    simp only [step, masterDownExpiry, onMasterDownTimer] at stays ⊢
    split at stays
    · split at stays
      · rename_i backup
        rw [becomeMaster_fst] at stays
        cases stays.trans backup
      · rename_i armed idle
        rw [if_pos armed, if_neg idle]
        rfl
    · rename_i idle
      rw [if_neg idle]
  | advertisementExpiry =>
    simp only [step, advertisementExpiry, onAdvertisementTimer]
    split
    · split <;> rfl
    · rfl
  | incomingError error => cases error <;> rfl
  | _ => cases heard

theorem step_names (s : VrrpService) {e : Event} (other : ¬ e.Advertises) :
    s.Names (s.step e).1 := by
  have moves := s.step_moves e
  have heardKept := fun heard : e.Heard => s.heard_master heard other
  have setterKept (setter : e.Setter) : (s.step e).1.masterIpAddress = s.masterIpAddress := by
    rw [s.setter_fst setter]
  generalize outcome : s.step e = u at moves heardKept setterKept
  cases moves with
  | set setter => exact names_of_kept (.inl (s.setter_keeps setter).2.1) (setterKept setter)
  | hear heard stays | announce heard _ stays =>
    exact names_of_kept (.inl stays.state) (heardKept heard stays.state)
  | ignore => exact names_of_kept (.inl rfl) rfl
  | linkMissing => exact names_of_kept (.inr (by simp)) (by simp)
  | startUp starts => exact names_startup starts.idle
  | takeOver _ backup => exact names_becomeMaster _ (by rw [backup]; decide)
  | yield => exact absurd trivial other
  | shutDown shuts active => exact names_shutdown active shuts.idle.2

theorem follows_none (s : VrrpService) {e : Event} (other : ¬ e.Advertises) :
    s.follows e = none := by
  cases e with
  | incomingPacket => exact absurd trivial other
  | _ => rfl

/-- An advertisement is not accepted, or a Backup stores its source, or a Master yields to it and
keeps the address it has. -/
theorem packet_follows (s : VrrpService) (address : IpAddress) (priority : UInt8)
    (interval : WireInterval) (addresses : List IpAddress) :
    let e := Event.incomingPacket address priority interval addresses
    (s.follows e = none ∧ (s.step e).1.state = s.state ∧
        (s.step e).1.masterIpAddress = s.masterIpAddress) ∨
      (s.state = .backup ∧ s.follows e = some address ∧
        (s.step e).1.masterIpAddress = address) ∨
      (s.state = .master ∧ s.follows e = some address ∧
        (s.step e).1.masterIpAddress = s.masterIpAddress) := by
  simp only [step, follows]
  have reacts := s.packet_reaction address interval addresses priority
  generalize s.onIncomingVrrpPacket address priority interval addresses = u at reacts ⊢
  cases reacts with
  | stopped backup zero =>
    simp only [backup]
    exact .inl ⟨if_neg fun both => both.1 zero, backup, rfl⟩
  | refresh backup nonzero right =>
    simp only [backup]
    exact .inr (.inl ⟨trivial, if_pos ⟨nonzero, right⟩, rfl⟩)
  | preempted backup nonzero preempt lower =>
    simp only [backup]
    exact .inl ⟨if_neg fun both => not_right preempt lower both.2, backup, rfl⟩
  | remind master zero =>
    simp only [master]
    exact .inl ⟨if_neg fun both => both.1 zero, master, rfl⟩
  | yield master nonzero outranked =>
    simp only [master, yield_fst]
    exact .inr (.inr ⟨trivial, if_pos ⟨nonzero, outranked⟩, rfl⟩)
  | lower master nonzero stays =>
    simp only [master, stays]
    exact .inl ⟨if_neg fun both => Bool.false_ne_true both.2, master, rfl⟩
  | idle backup master =>
    refine .inl ⟨?_, rfl, rfl⟩
    cases state : s.state with
    | backup => exact absurd state backup
    | master => exact absurd state master
    | disabled | linkDown => rfl

end VrrpService

namespace Followed

theorem step_named_iff (f : Followed) (held : f.Named) (e : Event) :
    (f.step e).Named ↔ f.Remembers e := by
  unfold Named at held
  by_cases advertises : e.Advertises
  · cases e with
    | incomingPacket address priority interval addresses =>
      rcases f.service.packet_follows address priority interval addresses with
        ⟨ignored, state, kept⟩ | ⟨backup, accepted, stored⟩ | ⟨master, accepted, kept⟩
      · refine iff_of_true ?_ fun _ address accepted => by rw [ignored] at accepted; cases accepted
        simp only [Named, step, ignored, state, kept, held, not_and_self, if_false, ne_eq]
      · refine iff_of_true ?_ fun master => by rw [backup] at master; cases master
        simp only [Named, step, accepted, stored]
      · simp only [Named, step, Remembers, accepted, kept, master, forall_const,
          Option.some.injEq, forall_eq']
        exact eq_comm
    | _ => cases advertises
  · have silent := f.service.follows_none advertises
    refine iff_of_true ?_ fun _ address accepted => by rw [silent] at accepted; cases accepted
    have names := f.service.step_names advertises
    rw [VrrpService.Names, held] at names
    simp only [Named, step, silent]
    exact names

/-- From any state of a service, a new one or not: `masterIpAddress` names the last accepted
source, or the service itself after it became Master, in every state reached if and only if no
step is a Master that yields to another address than it has stored. -/
theorem named_iff (s : VrrpService) (events : List Event) :
    Runs.Always step Named ⟨s, s.masterIpAddress⟩ events ↔
      Runs.Admitted step Remembers ⟨s, s.masterIpAddress⟩ events := by
  have start : Named ⟨s, s.masterIpAddress⟩ := rfl
  exact Runs.always_iff_admitted (fun _ => True) (fun _ _ _ => trivial)
    (fun f e _ held => (step_named_iff f held e).mpr)
    (fun f e _ held => mt (step_named_iff f held e).mp) trivial start events

/-- A Master that yields to a router with priority 150 still names itself. -/
theorem yielded_unnamed :
    VrrpService.construct 2 .inet 51 0 ⟨.sample 1, 7, none, -1⟩ = some (.sample 1) ∧
    ¬ Runs.Always step Named ⟨.sample 1, (VrrpService.sample 1).masterIpAddress⟩
      [.enable true, .masterDownExpiry, .incomingPacket (.sample 2) 150 100 []] := by
  refine ⟨rfl, ?_⟩
  rintro ⟨_, _, _, named⟩
  unfold Runs.Always Named at named
  revert named
  decide

end Followed

end OpenVrrp
