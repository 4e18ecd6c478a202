import OpenVrrp.Service.Reception

/-! Why a service became Master. The reason is pending in a member that the branches of
`onIncomingVrrpPacket` write in Backup and in Master and that entering Backup does not
reset; what the last advertisement says is recorded beside the service. -/
namespace OpenVrrp

/-- What an advertisement to a Backup tells about its master. -/
def VrrpService.reasonFor (s : VrrpService) (priority : UInt8) : NewMasterReason :=
  if priority = 0 then .priority
  else if s.preemptMode = true ∧ priority < s.priority.1 then .preempted
  else .masterNotResponding

/-- A service, and what the last advertisement told since it entered Backup, if there was one. -/
structure Reasoned where
  service : VrrpService
  heard : Option NewMasterReason

namespace Reasoned

/-- What was heard before Backup is entered does not count. -/
def step (r : Reasoned) (e : Event) : Reasoned where
  service := (r.service.step e).1
  heard :=
    if r.service.state = .backup then
      match e with
      | .incomingPacket _ priority _ _ => some (r.service.reasonFor priority)
      | _ => r.heard
    else none

/-- An expiry that makes the service Master leaves the reason that the last advertisement gave. -/
def Honest (r : Reasoned) (e : Event) : Prop :=
  e = .masterDownExpiry → r.service.state ≠ .master → (r.service.step e).1.state = .master →
    (r.service.step e).1.statsNewMasterReason = r.heard.getD .masterNotResponding

/-- An expiry finds an advertisement heard in this Backup period, or nothing else pending. -/
def Current (r : Reasoned) (e : Event) : Prop :=
  e = .masterDownExpiry → r.service.masterDownTimer.armed = true → r.service.state = .backup →
    r.heard = none → r.service.pendingNewMasterReason = .masterNotResponding

def Recorded (r : Reasoned) : Prop :=
  r.service.state = .backup → ∀ reason, r.heard = some reason →
    r.service.pendingNewMasterReason = reason

theorem packet_pending {s : VrrpService} (backup : s.state = .backup) (address : IpAddress)
    (priority : UInt8) (interval : WireInterval) (addresses : List IpAddress) :
    (s.onIncomingVrrpPacket address priority interval addresses).1.pendingNewMasterReason =
      s.reasonFor priority := by
  have reacts := s.packet_reaction address interval addresses priority
  generalize s.onIncomingVrrpPacket address priority interval addresses = u at reacts
  unfold VrrpService.reasonFor
  cases reacts with
  | stopped _ zero => rw [if_pos zero]; rfl
  | refresh _ nonzero right =>
    rw [if_neg nonzero, if_neg]
    · rfl
    · rintro ⟨preempt, lower⟩
      exact VrrpService.not_right preempt lower right
  | preempted _ nonzero preempt lower =>
    rw [if_neg nonzero, if_pos ⟨preempt, lower⟩]
    rfl
  | remind master | yield master | lower master => cases backup.symm.trans master
  | idle other => exact absurd backup other

theorem step_recorded (r : Reasoned) (e : Event) (recorded : r.Recorded) :
    (r.step e).Recorded := by
  by_cases backup : r.service.state = .backup
  · by_cases silent : e.Received
    · cases e with
      | incomingPacket address priority interval addresses =>
        intro _ reason heard
        simp only [step, if_pos backup, Option.some.injEq] at heard
        rw [← heard]
        exact packet_pending backup address priority interval addresses
      | incomingError error =>
        intro _ reason heard
        simp only [step, if_pos backup] at heard
        rw [← recorded backup reason heard]
        cases error <;> rfl
      | _ => cases silent
    · intro _ reason heard
      have kept := congrArg Prod.fst (r.service.step_reception silent)
      have same : (r.step e).heard = r.heard := by
        simp only [step, if_pos backup]
        cases e with
        | incomingPacket => exact absurd trivial silent
        | _ => rfl
      rw [same] at heard
      exact kept.trans (recorded backup reason heard)
  · intro _ reason heard
    simp only [step, if_neg backup] at heard
    cases heard

theorem expiry_reason {s : VrrpService} (armed : s.masterDownTimer.armed = true)
    (backup : s.state = .backup) :
    (s.step .masterDownExpiry).1.statsNewMasterReason = s.pendingNewMasterReason := by
  have still : s.stopMasterDownTimer.state = .backup := backup
  rw [VrrpService.step, VrrpService.masterDownExpiry, if_pos armed,
    VrrpService.onMasterDownTimer, if_pos still, VrrpService.becomeMaster_fst]
  rfl

theorem pending_eq_iff (r : Reasoned) (recorded : r.Recorded) (backup : r.service.state = .backup) :
    r.service.pendingNewMasterReason = r.heard.getD .masterNotResponding ↔
      (r.heard = none → r.service.pendingNewMasterReason = .masterNotResponding) := by
  cases heard : r.heard with
  | none => simp
  | some reason => exact iff_of_true (recorded backup reason heard) nofun

theorem honest_iff (r : Reasoned) (recorded : r.Recorded) (e : Event) :
    r.Honest e ↔ r.Current e := by
  constructor
  · rintro honest rfl armed backup
    have enters : r.service.Enters .masterDownExpiry := .inr ⟨rfl, armed, backup⟩
    have reason := honest rfl enters.other ((VrrpService.enters_iff enters.other).mpr enters)
    rw [expiry_reason armed backup] at reason
    exact (r.pending_eq_iff recorded backup).mp reason
  · rintro current rfl other entered
    rcases (VrrpService.enters_iff other).mp entered with ⟨starts, _⟩ | ⟨_, armed, backup⟩
    · exact absurd (.inr trivial) starts.external
    · rw [expiry_reason armed backup]
      exact (r.pending_eq_iff recorded backup).mpr (current rfl armed backup)

/-! ### The pending reason, from the advertisements -/

/-- What an event leaves pending: an advertisement to a Backup, or one that a Master reminds or
yields to. -/
def leaves (s : VrrpService) : Event → Option NewMasterReason
  | .incomingPacket address priority _ _ =>
    if s.state = .backup then some (s.reasonFor priority)
    else if s.state = .master ∧ (priority = 0 ∨ s.outranked address priority = true) then
      some .priority
    else none
  | _ => none

/-- What the last of these events has left. -/
def lastLeft (s : VrrpService) : List Event → Option NewMasterReason
  | [] => none
  | e :: rest => (lastLeft (s.step e).1 rest).or (leaves s e)

theorem step_pending (s : VrrpService) (e : Event) :
    (s.step e).1.pendingNewMasterReason = (leaves s e).getD s.pendingNewMasterReason := by
  by_cases received : e.Received
  · cases e with
    | incomingPacket address priority interval addresses =>
      rw [VrrpService.step, leaves]
      by_cases backup : s.state = .backup
      · rw [if_pos backup, packet_pending backup]
        rfl
      · rw [if_neg backup]
        have reacts := s.packet_reaction address interval addresses priority
        generalize s.onIncomingVrrpPacket address priority interval addresses = u at reacts
        cases reacts with
        | stopped there | refresh there | preempted there => exact absurd there backup
        | remind master zero => rw [if_pos ⟨master, .inl zero⟩]; rfl
        | yield master _ outranked =>
          rw [if_pos ⟨master, .inr outranked⟩, VrrpService.yield_fst]
          rfl
        | lower master nonzero stays =>
          rw [if_neg fun taken => taken.2.elim nonzero (Bool.eq_false_iff.mp stays)]
          rfl
        | idle _ other => rw [if_neg fun taken => other taken.1]; rfl
    | incomingError error => cases error <;> rfl
    | _ => cases received
  · have kept := congrArg Prod.fst (s.step_reception received)
    cases e with
    | incomingPacket => exact absurd trivial received
    | _ => exact kept

theorem run_pending (r : Reasoned) (events : List Event) :
    (events.foldl step r).service.pendingNewMasterReason =
      (lastLeft r.service events).getD r.service.pendingNewMasterReason := by
  induction events generalizing r with
  | nil => rfl
  | cons e rest ih =>
    have moved := step_pending r.service e
    rw [List.foldl_cons, ih, lastLeft, Option.getD_or, ← moved]
    rfl

/-- The condition, on the advertisements since construction: none has been heard in this Backup
period, and the last one before that left no other reason. -/
theorem current_iff_left {interface : Int} {family : Family} {virtualRouterId : UInt8}
    {vlanId : UInt64} {answers : Creation} {s : VrrpService}
    (created : VrrpService.construct interface family virtualRouterId vlanId answers = some s)
    (events : List Event) {r : Reasoned} (reached : events.foldl step ⟨s, none⟩ = r) :
    r.Current .masterDownExpiry ↔ (r.service.masterDownTimer.armed = true →
      r.service.state = .backup → r.heard = none →
        (lastLeft s events).getD .masterNotResponding = .masterNotResponding) := by
  have fresh : s.pendingNewMasterReason = .masterNotResponding := by
    obtain ⟨macvlan, vlan, output, mac, rfl⟩ := VrrpService.construct_fresh created
    rfl
  have pending := run_pending ⟨s, none⟩ events
  rw [reached, fresh] at pending
  rw [Current, pending]
  exact ⟨fun current => current rfl, fun left _ => left⟩

/-- In every run from construction: each expiry that makes the service Master leaves the
reason that the last advertisement of its Backup period gave if and only if each finds one
heard in that period or MasterNotResponding pending. -/
theorem reasons_honest_iff (interface : Int) (family : Family) (virtualRouterId : UInt8)
    (vlanId : UInt64) (answers : Creation) (s : VrrpService)
    (created : VrrpService.construct interface family virtualRouterId vlanId answers = some s)
    (events : List Event) :
    Runs.Admitted step Honest ⟨s, none⟩ events ↔ Runs.Admitted step Current ⟨s, none⟩ events := by
  have start : Recorded ⟨s, none⟩ := by
    intro backup
    cases (VrrpService.construct_disabled created).symm.trans backup
  exact Runs.admitted_iff_admitted Recorded (fun r e recorded _ => r.step_recorded e recorded)
    (fun r e recorded => r.honest_iff recorded e) start events

theorem reasons_honest_sample :
    Runs.Admitted step Honest ⟨.sample 1, none⟩ [.enable true, .masterDownExpiry] :=
  (reasons_honest_iff 2 .inet 51 0 _ (.sample 1) (VrrpService.construct_sample 1) _).mpr
    ⟨nofun, fun _ _ _ _ => rfl, trivial⟩

/-- A router yields, hears nothing more of the new master and reports a graceful stop. -/
theorem stale_reason_reported :
    VrrpService.construct 2 .inet 51 0 ⟨.sample 1, 7, none, -1⟩ = some (.sample 1) ∧
    ¬ Runs.Admitted step Honest ⟨.sample 1, none⟩ [.enable true, .masterDownExpiry,
      .incomingPacket (.sample 2) 150 100 [], .masterDownExpiry] := by
  refine ⟨rfl, ?_⟩
  rintro ⟨_, _, _, honest, _⟩
  have reason := honest rfl (by decide) (by decide)
  revert reason
  decide

end Reasoned

end OpenVrrp
