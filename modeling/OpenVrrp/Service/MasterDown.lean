import OpenVrrp.Library.Runs
import OpenVrrp.Service.Transitions

/-! Whether a Backup can still take over: its master-down timer counts down in the kernel.
The delay is a truncated product of a configured priority and an interval off the wire,
so it can be zero, and a zero delay disarms the timerfd. -/
namespace OpenVrrp.VrrpService

def BackupTimerRuns (s : VrrpService) : Prop :=
  s.state = .backup → s.masterDownTimer.Running

/-- The advertisement starts the master-down timer, if at all, with a positive delay:
the skew time does not truncate to zero and the adopted interval is not zero. -/
def DelayPositive (s : VrrpService) : Event → Prop
  | .incomingPacket address priority interval _ =>
    match s.state with
    | .backup =>
      if priority = 0 then 256 ≤ (256 - s.priority.1.toNat) * s.masterAdvertisementInterval.val
      else s.preemptMode = false ∨ s.priority.1 ≤ priority → interval.val ≠ 0
    | .master => priority ≠ 0 → s.outranked address priority = true → interval.val ≠ 0
    | _ => True
  | _ => True

theorem downIntervalOn_positive (s : VrrpService) (interval : WireInterval) :
    1 ≤ s.downIntervalOn interval * 10 ↔ interval.val ≠ 0 := by
  unfold downIntervalOn
  constructor
  · intro delay zero
    simp [zero] at delay
  · intro nonzero
    have : 1 ≤ 3 * interval.val := by omega
    omega

theorem skewTime_positive (s : VrrpService) :
    1 ≤ s.skewTime * 10 ↔
      256 ≤ (256 - s.priority.1.toNat) * s.masterAdvertisementInterval.val := by
  unfold skewTime
  omega

theorem runs_iff_delay {s : VrrpService} (t : Timer) {msec : Nat} (backup : s.state = .backup)
    (started : s.masterDownTimer = t.start msec) : BackupTimerRuns s ↔ 1 ≤ msec := by
  rw [BackupTimerRuns, started, Timer.start_running_iff]
  exact ⟨fun runs => runs backup, fun delay _ => delay⟩

theorem startup_runs (s : VrrpService) : BackupTimerRuns s.startup.1 := by
  by_cases owner : s.priority.1 = 255
  · intro backup
    rw [startup_owner s owner, becomeMaster_fst] at backup
    cases backup
  · rw [startup_fst s owner]
    have positive : s.advertisementInterval.toWire.val ≠ 0 :=
      Nat.ne_of_gt s.advertisementInterval.positive
    exact (runs_iff_delay s.masterDownTimer rfl rfl).mpr
      ((downIntervalOn_positive s _).mpr positive)

theorem shutdown_runs (s : VrrpService) {newState : State} (leaves : newState ≠ .backup)
    (held : BackupTimerRuns s) : BackupTimerRuns (s.shutdown newState).1 := by
  intro backup
  by_cases waiting : s.state = .backup
  · rw [shutdown_backup s newState waiting, setState_fst] at backup
    exact absurd backup leaves
  · by_cases master : s.state = .master
    · rw [shutdown_master_fst s newState master] at backup
      exact absurd backup leaves
    · rw [shutdown_idle s newState waiting master] at backup ⊢
      exact held backup

theorem packet_runs_iff (s : VrrpService) (held : BackupTimerRuns s) (address : IpAddress)
    (priority : UInt8) (interval : WireInterval) (addresses : List IpAddress) :
    BackupTimerRuns (s.onIncomingVrrpPacket address priority interval addresses).1 ↔
      s.DelayPositive (.incomingPacket address priority interval addresses) := by
  have reacts := s.packet_reaction address interval addresses priority
  generalize s.onIncomingVrrpPacket address priority interval addresses = u at reacts ⊢
  simp only [DelayPositive]
  cases reacts with
  | stopped backup zero =>
    simp only [backup]
    rw [if_pos zero, ← skewTime_positive]
    exact runs_iff_delay s.masterDownTimer backup rfl
  | refresh backup nonzero right =>
    simp only [backup]
    rw [if_neg nonzero, ← downIntervalOn_positive s interval, forall_prop_of_true right]
    exact runs_iff_delay s.masterDownTimer backup rfl
  | preempted backup nonzero preempt lower =>
    simp only [backup]
    rw [if_neg nonzero]
    exact ⟨fun _ right => absurd right (not_right preempt lower), fun _ => held⟩
  | remind master zero =>
    simp only [master]
    refine ⟨fun _ nonzero => absurd zero nonzero, fun _ backup => ?_⟩
    simp [remind, startAdvertisementTimer, master] at backup
  | yield master nonzero outranked =>
    simp only [master]
    rw [← downIntervalOn_positive s interval, forall_prop_of_true nonzero,
      forall_prop_of_true outranked, yield_fst]
    exact runs_iff_delay s.masterDownTimer rfl rfl
  | lower master nonzero stays =>
    simp only [master]
    refine ⟨fun _ _ given => absurd (stays.symm.trans given) Bool.false_ne_true, ?_⟩
    intro _ backup
    rw [countAdvertisement_state, master] at backup
    cases backup
  | idle backup master =>
    cases state : s.state with
    | backup => exact absurd state backup
    | master => exact absurd state master
    | disabled | linkDown => exact iff_of_true held trivial

theorem setter_runs (s : VrrpService) (held : BackupTimerRuns s) {e : Event} (setter : e.Setter) :
    BackupTimerRuns (s.step e).1 := by
  obtain ⟨_, state, timer, _⟩ := s.setter_keeps setter
  rwa [BackupTimerRuns, state, timer]

theorem step_runs_iff (s : VrrpService) (held : BackupTimerRuns s) (e : Event) :
    BackupTimerRuns (s.step e).1 ↔ s.DelayPositive e := by
  cases e with
  | incomingPacket address priority interval addresses =>
    exact packet_runs_iff s held address priority interval addresses
  | enable isInterfaceUp =>
    simp only [step, enable, DelayPositive, iff_true]
    split
    · cases isInterfaceUp
      · intro backup
        simp at backup
      · exact startup_runs s
    · exact held
  | disable =>
    simp only [step, disable, DelayPositive, iff_true]
    split
    · exact shutdown_runs s (by decide) held
    · exact held
  | interfaceCallback isUp =>
    simp only [step, interfaceCallback, DelayPositive, iff_true]
    split
    · split
      · exact startup_runs s
      · exact held
    · split
      · exact shutdown_runs s (by decide) held
      · exact held
  | masterDownExpiry =>
    simp only [step, masterDownExpiry, DelayPositive, iff_true]
    split
    · simp only [onMasterDownTimer]
      split
      · intro backup
        simp at backup
      · rename_i other
        exact fun backup => absurd backup other
    · exact held
  | advertisementExpiry =>
    simp only [step, advertisementExpiry, DelayPositive, iff_true]
    split
    · simp only [onAdvertisementTimer]
      split
      · exact held
      · exact held
    · exact held
  | incomingError error =>
    simp only [step, DelayPositive, iff_true]
    cases error <;> exact held
  | _ =>
    refine iff_of_true (setter_runs s held ?_) trivial
    trivial

/-- In a run from construction every Backup on the way can take over exactly when no
advertisement on the way starts the master-down timer with a zero delay. -/
theorem backup_timer_runs_iff (interface : Int) (family : Family) (virtualRouterId : UInt8)
    (vlanId : UInt64) (answers : Creation) (s : VrrpService)
    (created : construct interface family virtualRouterId vlanId answers = some s)
    (events : List Event) :
    Runs.Always (fun s e => (s.step e).1) BackupTimerRuns s events ↔
      Runs.Admitted (fun s e => (s.step e).1) DelayPositive s events := by
  have start : BackupTimerRuns s := by
    intro backup
    rw [construct_disabled created] at backup
    cases backup
  exact Runs.always_iff_admitted (fun _ => True) (fun _ _ _ => trivial)
    (fun s e _ held => (step_runs_iff s held e).mpr)
    (fun s e _ held => mt (step_runs_iff s held e).mp) trivial start events

theorem backup_timer_runs_sample :
    Runs.Always (fun s e => (s.step e).1) BackupTimerRuns (sample 1)
      [.enable true, .incomingPacket (.sample 2) 150 100 []] :=
  (backup_timer_runs_iff 2 .inet 51 0 _ (sample 1) (construct_sample 1) _).mpr
    ⟨trivial, fun _ => by decide, trivial⟩

/-- An advertisement with interval zero leaves a Backup on a dead timer. -/
theorem backup_timer_dead :
    construct 2 .inet 51 0 ⟨.sample 1, 7, none, -1⟩ = some (sample 1) ∧
    ¬ Runs.Always (fun s e => (s.step e).1) BackupTimerRuns (sample 1)
      [.enable true, .incomingPacket (.sample 2) 150 0 []] := by
  refine ⟨rfl, ?_⟩
  rintro ⟨_, _, runs⟩
  exact runs (by decide) (by decide)

end OpenVrrp.VrrpService
