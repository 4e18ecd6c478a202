import OpenVrrp.Service.Following
import OpenVrrp.Service.Obligations

/-! What the master and the backup command are told. `setState` starts a command in the middle
of the transition: the fields that its callers assign before the call are new in the
environment, those assigned after it, or not at all, are old. -/
namespace OpenVrrp

/-- VRRP_STATE. -/
def Environment.state (environment : Environment) : Text :=
  if environment.isMaster then ascii "master" else ascii "backup"

def Effect.environment : Effect → Option Environment
  | .executeScript _ environment => some environment
  | _ => none

/-- The environments of the commands among these requests. -/
def told (effects : List Effect) : List Environment := effects.filterMap Effect.environment

theorem told_spoken (effects : List Effect) : told (spoken effects) = told effects := by
  rw [told, spoken, List.filterMap_filter]
  exact List.filterMap_congr fun x _ => by cases x <;> rfl

namespace VrrpService

/-- The command of a transition into Master or of a yield is told where the transition leads. -/
structure Informed (s : VrrpService) (e : Event) : Prop where
  master : s.state ≠ .master → (s.step e).1.state = .master → ∀ x ∈ told (s.step e).2,
    x.state = ascii "master" ∧ x.masterIp = (s.step e).1.primaryIpAddress
  backup : ∀ address priority interval addresses,
    e = .incomingPacket address priority interval addresses → s.state = .master →
      (s.step e).1.state = .backup → ∀ x ∈ told (s.step e).2,
        x.state = ascii "backup" ∧ x.masterIp = address ∧ x.masterAdverInt = interval.val

/-- The address of the master is that of the next master before the transition, unless there
is no command to tell. -/
structure Anticipates (s : VrrpService) (e : Event) : Prop where
  master : s.Enters e → s.masterCommand ≠ [] → s.masterIpAddress = s.primaryIpAddress
  backup : s.state = .master → s.backupCommand ≠ [] → ∀ address, s.follows e = some address →
    s.masterIpAddress = address

theorem told_script (s : VrrpService) (command : Text) :
    told (s.script command) = if command ≠ [] then [s.environment] else [] := by
  unfold script
  cases command <;> rfl

theorem told_becomeMaster (s : VrrpService) (reason : NewMasterReason)
    (other : s.state ≠ .master) : told (s.becomeMaster reason).2 =
      if s.masterCommand ≠ [] then [{ s.environment with isMaster := true }] else [] := by
  have arps : told (if s.family = .inet then s.sendARPs else []) = [] := by
    split
    · simp [told, sendARPs, Effect.environment]
    · rfl
  rw [← told_spoken, spoken_becomeMaster s reason other, told, List.filterMap_cons_none rfl,
    List.filterMap_append, ← told, ← told, arps, List.append_nil, told_script]
  rfl

theorem told_yield (s : VrrpService) (master : s.state = .master) (interval : WireInterval) :
    told ((s.countAdvertisement interval).yield interval).2 = if s.backupCommand ≠ [] then
      [{ s.environment with isMaster := false, masterAdverInt := interval.val }] else [] := by
  rw [← told_spoken, yield_snd, spoken_append, spoken_setDefaultMac, List.append_nil,
    spoken_setState_other _ (by simp [master]) (by decide), if_pos rfl, told_script]
  rfl

theorem told_enters {s : VrrpService} {e : Event} (enters : s.Enters e) :
    told (s.step e).2 =
      if s.masterCommand ≠ [] then [{ s.environment with isMaster := true }] else [] := by
  have other := enters.other
  obtain ⟨t, reason, same, stepped⟩ := step_enters enters
  rw [stepped]
  rcases same with rfl | rfl
  · exact t.told_becomeMaster reason other
  · exact s.stopMasterDownTimer.told_becomeMaster reason other

theorem step_primary (s : VrrpService) {e : Event} (happens : ¬ e.Setter) :
    (s.step e).1.primaryIpAddress = s.primaryIpAddress := by
  have kept := congrArg primaryIpAddress (s.step_configured happens)
  exact kept

theorem Enters.happens {s : VrrpService} {e : Event} (enters : s.Enters e) : ¬ e.Setter := by
  rcases enters with ⟨starts, _⟩ | ⟨rfl, _⟩
  · exact fun setter => starts.external (.inl setter)
  · exact id

/-- In Master an advertisement is followed by yielding, or it does not end in Backup. -/
theorem packet_master (s : VrrpService) (master : s.state = .master) (address : IpAddress)
    (priority : UInt8) (interval : WireInterval) (addresses : List IpAddress) :
    let e := Event.incomingPacket address priority interval addresses
    (s.follows e = some address ∧
        s.step e = (s.countAdvertisement interval).yield interval) ∨
      (s.follows e = none ∧ (s.step e).1.state ≠ .backup) := by
  simp only [step, follows, master]
  have reacts := s.packet_reaction address interval addresses priority
  generalize s.onIncomingVrrpPacket address priority interval addresses = u at reacts ⊢
  cases reacts with
  | stopped backup | refresh backup | preempted backup => cases master.symm.trans backup
  | remind _ zero =>
    exact .inr ⟨if_neg fun both => both.1 zero, by simp [remind, startAdvertisementTimer, master]⟩
  | yield _ nonzero outranked => exact .inl ⟨if_pos ⟨nonzero, outranked⟩, rfl⟩
  | lower _ _ stays =>
    rw [stays]
    exact .inr ⟨if_neg fun both => Bool.false_ne_true both.2, by simp [master]⟩
  | idle _ other => exact absurd master other

theorem informed_master_iff (s : VrrpService) (e : Event) :
    (s.state ≠ .master → (s.step e).1.state = .master → ∀ x ∈ told (s.step e).2,
      x.state = ascii "master" ∧ x.masterIp = (s.step e).1.primaryIpAddress) ↔
    (s.Enters e → s.masterCommand ≠ [] → s.masterIpAddress = s.primaryIpAddress) := by
  constructor
  · intro informed enters command
    have heard := informed enters.other ((enters_iff enters.other).mpr enters)
    rw [told_enters enters, if_pos command, s.step_primary enters.happens] at heard
    exact (heard _ (List.mem_singleton_self _)).2
  · intro anticipates other entered
    have enters := (enters_iff other).mp entered
    rw [told_enters enters, s.step_primary enters.happens]
    split
    · rename_i command
      intro x heard
      rw [List.mem_singleton.mp heard]
      exact ⟨rfl, anticipates enters command⟩
    · exact fun x heard => absurd heard List.not_mem_nil

theorem informed_backup_iff (s : VrrpService) (e : Event) :
    (∀ address priority interval addresses,
      e = .incomingPacket address priority interval addresses → s.state = .master →
        (s.step e).1.state = .backup → ∀ x ∈ told (s.step e).2,
          x.state = ascii "backup" ∧ x.masterIp = address ∧ x.masterAdverInt = interval.val) ↔
    (s.state = .master → s.backupCommand ≠ [] → ∀ address, s.follows e = some address →
      s.masterIpAddress = address) := by
  constructor
  · intro informed master command address followed
    cases e with
    | incomingPacket source priority interval addresses =>
      rcases s.packet_master master source priority interval addresses with
        ⟨accepted, yields⟩ | ⟨ignored, _⟩
      · have heard := informed source priority interval addresses rfl master
          (by rw [yields, yield_fst])
        rw [yields, s.told_yield master interval, if_pos command] at heard
        rw [accepted] at followed
        exact (heard _ (List.mem_singleton_self _)).2.1.trans (Option.some.inj followed)
      · rw [ignored] at followed
        cases followed
    | _ => cases followed
  · rintro anticipates address priority interval addresses rfl master backup
    rcases s.packet_master master address priority interval addresses with
      ⟨accepted, yields⟩ | ⟨_, stays⟩
    · rw [yields, s.told_yield master interval]
      split
      · rename_i command
        intro x heard
        rw [List.mem_singleton.mp heard]
        exact ⟨rfl, anticipates master command address accepted, rfl⟩
      · exact fun x heard => absurd heard List.not_mem_nil
    · exact absurd backup stays

theorem informed_iff (s : VrrpService) (e : Event) : s.Informed e ↔ s.Anticipates e := by
  constructor
  · intro informed
    exact ⟨(s.informed_master_iff e).mp informed.master,
      (s.informed_backup_iff e).mp informed.backup⟩
  · intro anticipates
    exact ⟨(s.informed_master_iff e).mpr anticipates.master,
      (s.informed_backup_iff e).mpr anticipates.backup⟩

/-- From any state of a service: every command of a run is told where its transition leads if
and only if each of them starts with the address of the next master in place already. -/
theorem commands_informed_iff (s : VrrpService) (events : List Event) :
    Runs.Admitted (fun s e => (s.step e).1) Informed s events ↔
      Runs.Admitted (fun s e => (s.step e).1) Anticipates s events :=
  Runs.admitted_iff_admitted (fun _ => True) (fun _ _ _ _ => trivial)
    (fun s e _ => s.informed_iff e) trivial events

/-- The master command of a service that has heard of no master is told that there is none. -/
theorem command_uninformed :
    construct 2 .inet 51 0 ⟨.sample 1, 7, none, -1⟩ = some (sample 1) ∧
    ¬ Runs.Admitted (fun s e => (s.step e).1) Informed (sample 1)
      [.setMasterCommand (ascii "up"), .enable true, .masterDownExpiry] := by
  refine ⟨rfl, ?_⟩
  rintro ⟨_, _, informed, _⟩
  have anticipates := ((informed_iff _ _).mp informed).master
    (.inr ⟨rfl, by decide, by decide⟩) (by decide)
  revert anticipates
  decide

end VrrpService

end OpenVrrp
