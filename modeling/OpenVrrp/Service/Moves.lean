import OpenVrrp.Library.Runs
import OpenVrrp.Service.Transitions

/-! What one event can do to the role of a service, as a relation with a constructor for
each kind of transition. Facts about whole runs follow from it without another look at the
operations. -/
namespace OpenVrrp

def Event.Heard : Event → Prop
  | .masterDownExpiry | .advertisementExpiry | .incomingPacket .. | .incomingError _ => True
  | _ => False

/-- Neither the administrator enables or disables the service nor the link changes. -/
def Event.Internal (e : Event) : Prop := e.Setter ∨ e.Heard

namespace VrrpService

structure TimersAgree (s : VrrpService) : Prop where
  masterDown : s.masterDownTimer.armed = true ↔ s.state = .backup
  advertisement : s.advertisementTimer.armed = true ↔ s.state = .master

/-- The role, what it rests on and what the statistics count of it stay. -/
structure Stays (s t : VrrpService) : Prop where
  state : t.state = s.state
  timers : TimersAgree s → TimersAgree t
  configured : t.configured = s.configured
  transitions : t.statsMasterTransitions = s.statsMasterTransitions
  farewells : t.statsSentPriZeroPackets = s.statsSentPriZeroPackets

def Active (s : VrrpService) : Prop := s.state = .backup ∨ s.state = .master

inductive StartsUp : Event → State → Prop where
  | enable : StartsUp (.enable true) .disabled
  | linkFound : StartsUp (.interfaceCallback true) .linkDown

inductive ShutsDown : Event → State → Prop where
  | disable : ShutsDown .disable .disabled
  | linkLost : ShutsDown (.interfaceCallback false) .linkDown

inductive Move (s : VrrpService) : Event → Outcome → Prop where
  | set {e : Event} (setter : e.Setter) : Move s e (s.step e)
  | hear {e : Event} {t : VrrpService} (heard : e.Heard) (stays : Stays s t) : Move s e (t, [])
  | announce {e : Event} {t : VrrpService} (heard : e.Heard) (master : s.state = .master)
      (stays : Stays s t) : Move s e (t, [s.sendAdvertisement s.priority.1])
  | ignore {e : Event} (called : ¬ e.Setter ∧ ¬ e.Heard) (started : ¬ StartsUp e s.state)
      (found : e = .enable false → s.state ≠ .disabled)
      (idle : ∀ state, ShutsDown e state → ¬ s.Active) : Move s e (s, [])
  | linkMissing (disabled : s.state = .disabled) :
      Move s (.enable false) (s.setState .linkDown)
  | startUp {e : Event} (starts : StartsUp e s.state) : Move s e s.startup
  | takeOver (armed : s.masterDownTimer.armed = true) (backup : s.state = .backup) :
      Move s .masterDownExpiry
        (s.stopMasterDownTimer.becomeMaster s.pendingNewMasterReason)
  | yield {address : IpAddress} {priority : UInt8} {interval : WireInterval}
      {addresses : List IpAddress} (master : s.state = .master) :
      Move s (.incomingPacket address priority interval addresses)
        ((s.countAdvertisement interval).yield interval)
  | shutDown {e : Event} {state : State} (shuts : ShutsDown e state) (active : s.Active) :
      Move s e (s.shutdown state)

theorem packet_moves (s : VrrpService) (address : IpAddress) (priority : UInt8)
    (interval : WireInterval) (addresses : List IpAddress) :
    Move s (.incomingPacket address priority interval addresses)
      (s.onIncomingVrrpPacket address priority interval addresses) := by
  have waits : ∀ t : VrrpService, s.state = .backup → t.state = .backup →
      t.masterDownTimer.armed = true → t.advertisementTimer = s.advertisementTimer →
      TimersAgree s → TimersAgree t := by
    intro t before backup armed same agree
    refine ⟨iff_of_true armed backup, ?_⟩
    rw [same, agree.advertisement, backup, before]
  have reacts := s.packet_reaction address interval addresses priority
  generalize s.onIncomingVrrpPacket address priority interval addresses = u at reacts ⊢
  cases reacts with
  | stopped backup => exact .hear trivial ⟨rfl, waits _ backup backup rfl rfl, rfl, rfl, rfl⟩
  | refresh backup => exact .hear trivial ⟨rfl, waits _ backup backup rfl rfl, rfl, rfl, rfl⟩
  | remind master =>
    exact .announce trivial master
      ⟨rfl, fun agree => ⟨agree.1, iff_of_true rfl master⟩, rfl, rfl, rfl⟩
  | yield master => exact .yield master
  | preempted | lower | idle =>
    exact .hear trivial ⟨rfl, fun agree => ⟨agree.1, agree.2⟩, rfl, rfl, rfl⟩

theorem shutdown_moves (s : VrrpService) {e : Event} {state : State} (shuts : ShutsDown e state) :
    Move s e (s.shutdown state) := by
  by_cases active : s.Active
  · exact .shutDown shuts active
  · rw [shutdown_idle s _ (fun b => active (.inl b)) (fun m => active (.inr m))]
    refine .ignore ?_ (fun starts => ?_) (fun same => ?_) fun _ _ => active
    · cases shuts <;> exact ⟨id, id⟩
    · cases shuts <;> cases starts
    · cases shuts <;> cases same

theorem step_moves (s : VrrpService) (e : Event) : Move s e (s.step e) := by
  have same : Stays s s := ⟨rfl, id, rfl, rfl, rfl⟩
  cases e with
  | incomingPacket address priority interval addresses =>
    exact packet_moves s address priority interval addresses
  | incomingError error =>
    refine .hear trivial ?_
    cases error <;> exact ⟨rfl, fun agree => ⟨agree.1, agree.2⟩, rfl, rfl, rfl⟩
  | enable isInterfaceUp =>
    simp only [step, enable]
    split
    · rename_i disabled
      cases isInterfaceUp with
      | false => exact .linkMissing disabled
      | true => exact .startUp (disabled ▸ .enable)
    · rename_i running
      refine .ignore ⟨id, id⟩ (fun starts => ?_) (fun _ => running) fun _ shuts => by cases shuts
      generalize s.state = state at starts running
      cases starts
      exact running rfl
  | disable =>
    simp only [step, disable]
    split
    · exact shutdown_moves s .disable
    · rename_i stopped
      refine .ignore ⟨id, id⟩ (fun starts => by cases starts) (fun same => by cases same)
        fun _ _ active => ?_
      simp [Active, not_not.mp stopped] at active
  | interfaceCallback isUp =>
    cases isUp with
    | false =>
      simp only [step, interfaceCallback, Bool.false_eq_true, if_false]
      split
      · exact shutdown_moves s .linkLost
      · rename_i stopped
        refine .ignore ⟨id, id⟩ (fun starts => by cases starts) (fun same => by cases same)
          fun _ _ active => ?_
        simp [Active, not_not.mp stopped] at active
    | true =>
      simp only [step, interfaceCallback, if_true]
      split
      · rename_i down
        exact .startUp (down ▸ .linkFound)
      · rename_i up
        refine .ignore ⟨id, id⟩ (fun starts => ?_) (fun same => by cases same)
          fun _ shuts => by cases shuts
        generalize s.state = state at starts up
        cases starts
        exact up rfl
  | masterDownExpiry =>
    simp only [step, masterDownExpiry]
    split
    · rename_i armed
      simp only [onMasterDownTimer]
      split
      · rename_i backup
        exact .takeOver armed backup
      · rename_i other
        exact .hear trivial
          ⟨rfl, fun agree => absurd (agree.masterDown.mp armed) other, rfl, rfl, rfl⟩
    · exact .hear trivial same
  | advertisementExpiry =>
    simp only [step, advertisementExpiry]
    split
    · rename_i armed
      simp only [onAdvertisementTimer]
      split
      · rename_i master
        exact .announce trivial master
          ⟨rfl, fun agree => ⟨agree.1, iff_of_true rfl master⟩, rfl, rfl, rfl⟩
      · rename_i other
        exact .hear trivial
          ⟨rfl, fun agree => absurd (agree.advertisement.mp armed) other, rfl, rfl, rfl⟩
    · exact .hear trivial same
  | _ => exact .set trivial

theorem step_configured (s : VrrpService) {e : Event} (happens : ¬ e.Setter) :
    (s.step e).1.configured = s.configured := by
  have moves := s.step_moves e
  generalize s.step e = u at moves
  cases moves with
  | set setter => exact absurd setter happens
  | hear _ stays | announce _ _ stays => exact stays.configured
  | ignore => rfl
  | linkMissing => exact s.setState_configured .linkDown
  | startUp => exact s.startup_configured
  | takeOver => exact becomeMaster_configured s.stopMasterDownTimer _
  | yield => rw [yield_fst]; rfl
  | shutDown => exact s.shutdown_configured _

theorem step_identity (s : VrrpService) (e : Event) : (s.step e).1.identity = s.identity := by
  by_cases setter : e.Setter
  · exact (s.setter_keeps setter).1
  · have same := congrArg identity (s.step_configured setter)
    exact same

/-- The state after the events and everything requested on the way. -/
def run (s : VrrpService) : List Event → Outcome
  | [] => (s, [])
  | e :: rest => ((run (s.step e).1 rest).1, (s.step e).2 ++ (run (s.step e).1 rest).2)

/-! ### Entering and leaving Master -/

theorem startup_state (s : VrrpService) :
    s.startup.1.state = if s.priority.1 = 255 then .master else .backup := by
  by_cases owner : s.priority.1 = 255
  · rw [startup_owner s owner, becomeMaster_fst, if_pos owner]
  · rw [startup_fst s owner, if_neg owner]

theorem startup_active (s : VrrpService) : s.startup.1.Active := by
  rw [Active, startup_state]
  split <;> simp

theorem shutdown_state (s : VrrpService) (newState : State) (active : s.Active) :
    (s.shutdown newState).1.state = newState := by
  rcases active with backup | master
  · rw [shutdown_backup s newState backup, setState_fst]
  · rw [shutdown_master_fst s newState master]

theorem StartsUp.external {e : Event} {state : State} (starts : StartsUp e state) :
    ¬ e.Internal := by
  cases starts <;> rintro (setter | heard) <;> contradiction

theorem ShutsDown.external {e : Event} {state : State} (shuts : ShutsDown e state) :
    ¬ e.Internal := by
  cases shuts <;> rintro (setter | heard) <;> contradiction

theorem StartsUp.idle {s : VrrpService} {e : Event} (starts : StartsUp e s.state) :
    ¬ s.Active := by
  unfold Active
  generalize s.state = state at starts
  cases starts <;> simp

theorem ShutsDown.idle {e : Event} {state : State} (shuts : ShutsDown e state) :
    state ≠ .backup ∧ state ≠ .master := by
  cases shuts <;> exact ⟨by decide, by decide⟩

theorem StartsUp.step_eq {s : VrrpService} {e : Event} (starts : StartsUp e s.state) :
    s.step e = s.startup := by
  generalize same : s.state = state at starts
  cases starts with
  | enable => simp [step, VrrpService.enable, same]
  | linkFound => simp [step, interfaceCallback, same]

/-- What makes a service Master: it starts up as the address owner, or its timer expires. -/
def Enters (s : VrrpService) (e : Event) : Prop :=
  (StartsUp e s.state ∧ s.priority.1 = 255) ∨
    (e = .masterDownExpiry ∧ s.masterDownTimer.armed = true ∧ s.state = .backup)

theorem Enters.other {s : VrrpService} {e : Event} (enters : s.Enters e) :
    s.state ≠ .master := by
  rcases enters with ⟨starts, _⟩ | ⟨_, _, backup⟩
  · exact fun master => starts.idle (.inr master)
  · rw [backup]
    decide

theorem step_enters {s : VrrpService} {e : Event} (enters : s.Enters e) :
    ∃ t reason, (t = s ∨ t = s.stopMasterDownTimer) ∧ s.step e = t.becomeMaster reason := by
  rcases enters with ⟨starts, owner⟩ | ⟨rfl, armed, backup⟩
  · exact ⟨s, _, .inl rfl, by rw [starts.step_eq, startup_owner s owner]⟩
  · refine ⟨_, s.pendingNewMasterReason, .inr rfl, ?_⟩
    have still : s.stopMasterDownTimer.state = .backup := backup
    rw [step, masterDownExpiry, if_pos armed, onMasterDownTimer, if_pos still]
    rfl

theorem enters_iff {s : VrrpService} {e : Event} (other : s.state ≠ .master) :
    (s.step e).1.state = .master ↔ s.Enters e := by
  constructor
  · intro master
    have moves := s.step_moves e
    generalize outcome : s.step e = u at moves
    rw [outcome] at master
    cases moves with
    | set setter => exact absurd ((s.setter_keeps setter).2.1.symm.trans master) other
    | hear _ stays => exact absurd (stays.state.symm.trans master) other
    | announce _ before | yield before => exact absurd before other
    | ignore => exact absurd master other
    | linkMissing => simp at master
    | startUp starts =>
      refine .inl ⟨starts, ?_⟩
      by_contra owner
      rw [startup_fst s owner] at master
      cases master
    | takeOver armed backup => exact .inr ⟨rfl, armed, backup⟩
    | shutDown shuts active =>
      exact absurd ((s.shutdown_state _ active).symm.trans master) shuts.idle.2
  · intro enters
    obtain ⟨t, reason, _, same⟩ := step_enters enters
    rw [same, becomeMaster_fst]

theorem step_leaves {s : VrrpService} {e : Event} (master : s.state = .master)
    (leaves : (s.step e).1.state ≠ .master) :
    (∃ state, ShutsDown e state ∧ s.step e = s.shutdown state) ∨
    ∃ address priority interval addresses, e = .incomingPacket address priority interval addresses ∧
      s.step e = (s.countAdvertisement interval).yield interval := by
  have moves := s.step_moves e
  generalize outcome : s.step e = u at moves leaves
  cases moves with
  | set setter => exact absurd ((s.setter_keeps setter).2.1.trans master) leaves
  | hear _ stays | announce _ _ stays => exact absurd (stays.state.trans master) leaves
  | ignore => exact absurd master leaves
  | linkMissing disabled => cases disabled.symm.trans master
  | startUp starts => exact absurd (.inr master) starts.idle
  | takeOver _ backup => cases backup.symm.trans master
  | yield => exact .inr ⟨_, _, _, _, rfl, rfl⟩
  | shutDown shuts => exact .inl ⟨_, shuts, rfl⟩

/-! ### State and timers agree -/

theorem stop_armed (t : Timer) : t.stop.armed = false := by
  unfold Timer.stop
  split
  · rfl
  · rename_i idle
    exact Bool.eq_false_iff.mpr idle

theorem TimersAgree.quiet {s : VrrpService} (agree : s.TimersAgree) (idle : ¬ s.Active) :
    s.masterDownTimer.armed ≠ true ∧ s.advertisementTimer.armed ≠ true :=
  ⟨fun armed => idle (.inl (agree.masterDown.mp armed)),
    fun armed => idle (.inr (agree.advertisement.mp armed))⟩

theorem setState_agree (s : VrrpService) {state : State} (backup : state ≠ .backup)
    (master : state ≠ .master) (masterDown : s.masterDownTimer.armed ≠ true)
    (advertisement : s.advertisementTimer.armed ≠ true) :
    (s.setState state).1.TimersAgree := by
  rw [setState_fst]
  exact ⟨iff_of_false masterDown backup, iff_of_false advertisement master⟩

theorem startup_agree (s : VrrpService) (agree : s.TimersAgree) (idle : ¬ s.Active) :
    s.startup.1.TimersAgree := by
  obtain ⟨masterDown, advertisement⟩ := agree.quiet idle
  by_cases owner : s.priority.1 = 255
  · rw [startup_owner s owner, becomeMaster_fst]
    exact ⟨iff_of_false masterDown (fun same => nomatch same), iff_of_true rfl rfl⟩
  · rw [startup_fst s owner]
    exact ⟨iff_of_true rfl rfl, iff_of_false advertisement (fun same => nomatch same)⟩

theorem shutdown_agree (s : VrrpService) (agree : s.TimersAgree) {e : Event} {state : State}
    (shuts : ShutsDown e state) (active : s.Active) : (s.shutdown state).1.TimersAgree := by
  obtain ⟨notBackup, notMaster⟩ := shuts.idle
  rcases active with backup | master
  · rw [shutdown_backup s state backup]
    apply setState_agree _ notBackup notMaster (by simp [stopMasterDownTimer, stop_armed])
    change s.advertisementTimer.armed ≠ true
    rw [ne_eq, agree.advertisement, backup]
    decide
  · rw [shutdown_master_fst s state master]
    refine ⟨iff_of_false ?_ notBackup, iff_of_false (by simp [stop_armed]) notMaster⟩
    rw [agree.masterDown, master]
    decide

theorem step_agree (s : VrrpService) (e : Event) (agree : s.TimersAgree) :
    (s.step e).1.TimersAgree := by
  have moves := s.step_moves e
  generalize outcome : s.step e = u at moves
  cases moves with
  | set setter =>
    obtain ⟨_, state, masterDown, advertisement, _⟩ := s.setter_keeps setter
    constructor
    · rw [masterDown, state, agree.masterDown]
    · rw [advertisement, state, agree.advertisement]
  | hear _ stays => exact stays.timers agree
  | announce _ _ stays => exact stays.timers agree
  | ignore => exact agree
  | linkMissing disabled =>
    obtain ⟨masterDown, advertisement⟩ := agree.quiet (by simp [Active, disabled])
    exact setState_agree s (by decide) (by decide) masterDown advertisement
  | startUp starts => exact startup_agree s agree starts.idle
  | takeOver _ backup =>
    rw [becomeMaster_fst]
    exact ⟨iff_of_false (by simp [stopMasterDownTimer, stop_armed]) (fun same => nomatch same),
      iff_of_true rfl rfl⟩
  | yield master =>
    rw [yield_fst]
    exact ⟨iff_of_true rfl rfl, iff_of_false (by simp [stop_armed]) (fun same => nomatch same)⟩
  | shutDown shuts active => exact shutdown_agree s agree shuts active

theorem run_agree {s : VrrpService} (agree : s.TimersAgree) (events : List Event) :
    (s.run events).1.TimersAgree := by
  induction events generalizing s with
  | nil => exact agree
  | cons e rest ih => exact ih (s.step_agree e agree)

theorem construct_agree {interface : Int} {family : Family} {virtualRouterId : UInt8}
    {vlanId : UInt64} {answers : Creation} {s : VrrpService}
    (created : construct interface family virtualRouterId vlanId answers = some s) :
    s.TimersAgree := by
  obtain ⟨macvlan, vlan, output, mac, rfl⟩ := construct_fresh created
  exact ⟨iff_of_false Bool.false_ne_true (fun same => nomatch same),
    iff_of_false Bool.false_ne_true (fun same => nomatch same)⟩

/-- In every state of a run from construction each timer is armed in its own role only. -/
theorem timers_agree (interface : Int) (family : Family) (virtualRouterId : UInt8)
    (vlanId : UInt64) (answers : Creation) (s : VrrpService)
    (created : construct interface family virtualRouterId vlanId answers = some s)
    (events : List Event) :
    Runs.Always (fun s e => (s.step e).1) (fun s =>
      (s.masterDownTimer.armed = true ↔ s.state = .backup) ∧
      (s.advertisementTimer.armed = true ↔ s.state = .master) ∧
      (s.state = .disabled ∨ s.state = .linkDown →
        s.masterDownTimer.armed = false ∧ s.advertisementTimer.armed = false) ∧
      ¬ (s.masterDownTimer.armed = true ∧ s.advertisementTimer.armed = true)) s events := by
  apply (Runs.always_of_kept step_agree (construct_agree created) events).imp
  intro t agree
  refine ⟨agree.masterDown, agree.advertisement, fun idle => ?_, ?_⟩
  · have quiet := agree.quiet (by rcases idle with same | same <;> simp [Active, same])
    exact ⟨Bool.eq_false_iff.mpr quiet.1, Bool.eq_false_iff.mpr quiet.2⟩
  · rw [agree.masterDown, agree.advertisement]
    rintro ⟨backup, master⟩
    cases backup.symm.trans master

theorem timers_agree_sample :
    ((sample 1).step (.enable true)).1.masterDownTimer.armed = true ↔
      ((sample 1).step (.enable true)).1.state = .backup :=
  (timers_agree 2 .inet 51 0 _ (sample 1) (construct_sample 1) [.enable true]).2.1

end VrrpService

end OpenVrrp
