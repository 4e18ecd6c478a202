import OpenVrrp.Service.Moves

/-! Whether advertisements of lesser routers can hold up the owner of the addresses while it is
Backup. The documentation of `setPreemptMode` makes an exception for priority 255; the packet
handler looks at the preempt mode alone. -/
namespace OpenVrrp

/-- An advertisement with a priority from 1 to 254. -/
def Event.Lesser : Event → Prop
  | .incomingPacket _ priority _ _ => 0 < priority ∧ priority < 255
  | _ => False

namespace VrrpService

/-- The role, the master-down timer and the interval of the master are those of `s`. -/
structure Unhindered (s t : VrrpService) : Prop where
  state : t.state = s.state
  masterDownTimer : t.masterDownTimer = s.masterDownTimer
  masterAdvertisementInterval : t.masterAdvertisementInterval = s.masterAdvertisementInterval

/-- A Backup that preempts as the owner. -/
structure Claims (s : VrrpService) : Prop where
  backup : s.state = .backup
  owner : s.priority.1 = 255
  preempts : s.preemptMode = true

/-- The service with anything in its master-down timer: what a restart would be seen by. -/
def holding (s : VrrpService) (timer : Timer) : VrrpService := { s with masterDownTimer := timer }

theorem Claims.holding {s : VrrpService} (claims : s.Claims) (timer : Timer) :
    (s.holding timer).Claims := ⟨claims.backup, claims.owner, claims.preempts⟩

theorem lesser_step {s : VrrpService} (claims : s.Claims) {e : Event} (lesser : e.Lesser) :
    (s.step e).1.Claims ∧ s.Unhindered (s.step e).1 := by
  cases e with
  | incomingPacket address priority interval addresses =>
    have nonzero : priority ≠ 0 := fun zero => by simp [zero, Event.Lesser] at lesser
    have lower : priority < s.priority.1 := claims.owner ▸ lesser.2
    rw [step, packet_preempted s address interval addresses claims.backup nonzero claims.preempts
      lower]
    exact ⟨⟨claims.backup, claims.owner, claims.preempts⟩, ⟨rfl, rfl, rfl⟩⟩
  | _ => cases lesser

theorem lesser_run {s t : VrrpService} (claims : t.Claims) (same : s.Unhindered t)
    (advertisements : List Event) (lesser : ∀ e ∈ advertisements, e.Lesser) :
    Runs.Always (fun s e => (s.step e).1) s.Unhindered t advertisements ∧
      (t.run advertisements).1.Claims ∧ s.Unhindered (t.run advertisements).1 := by
  induction advertisements generalizing t with
  | nil => exact ⟨same, claims, same⟩
  | cons e rest ih =>
    obtain ⟨still, unhindered⟩ := lesser_step claims (lesser e List.mem_cons_self)
    have next : s.Unhindered (t.step e).1 :=
      ⟨unhindered.state.trans same.state, unhindered.masterDownTimer.trans same.masterDownTimer,
        unhindered.masterAdvertisementInterval.trans same.masterAdvertisementInterval⟩
    obtain ⟨always, last⟩ := ih still next fun e inside => lesser e (List.mem_cons_of_mem _ inside)
    exact ⟨⟨same, always⟩, last⟩

/-- Without preemption an advertisement with any other interval is adopted. -/
theorem lesser_adopted {s : VrrpService} (backup : s.state = .backup)
    (waits : s.preemptMode = false) (address : IpAddress) (interval : WireInterval) :
    (s.step (.incomingPacket address 1 interval [])).1.masterAdvertisementInterval = interval := by
  rw [step, packet_refresh s address interval [] backup (by decide) (.inl waits)]
  rfl

/-- In every Backup state of a run in which the service is the owner: no stream of
advertisements of lesser routers touches the master-down timer, whatever it holds, or the
interval, and the timer still makes it Master, if and only if preemption is enabled. -/
theorem owner_preempts_iff (interface : Int) (family : Family) (virtualRouterId : UInt8)
    (vlanId : UInt64) (answers : Creation) (s : VrrpService)
    (created : construct interface family virtualRouterId vlanId answers = some s)
    (events : List Event) (backup : (s.run events).1.state = .backup)
    (owner : (s.run events).1.priority.1 = 255) :
    let t := (s.run events).1
    (∀ advertisements : List Event, (∀ e ∈ advertisements, e.Lesser) →
      (∀ timer, Runs.Always (fun s e => (s.step e).1) (t.holding timer).Unhindered
        (t.holding timer) advertisements) ∧
      ((t.run advertisements).1.step .masterDownExpiry).1.state = .master) ↔
      t.preemptMode = true := by
  intro t
  constructor
  · intro unhindered
    by_contra waits
    obtain ⟨other, apart⟩ : ∃ i : WireInterval, i ≠ t.masterAdvertisementInterval := exists_ne _
    have single : ∀ e ∈ [Event.incomingPacket .unspec 1 other []], e.Lesser := by
      intro e inside
      rw [List.mem_singleton.mp inside]
      exact ⟨by decide, by decide⟩
    have kept := ((unhindered _ single).1 t.masterDownTimer).2.masterAdvertisementInterval
    have adopted := lesser_adopted backup (Bool.eq_false_iff.mpr waits) .unspec other
    exact apart (adopted.symm.trans kept)
  · intro preempts advertisements lesser
    have claims : t.Claims := ⟨backup, owner, preempts⟩
    obtain ⟨_, still, unhindered⟩ := lesser_run claims ⟨rfl, rfl, rfl⟩ advertisements lesser
    have armed := (run_agree (construct_agree created) events).masterDown.mpr backup
    constructor
    · intro timer
      exact (lesser_run (claims.holding timer) ⟨rfl, rfl, rfl⟩ advertisements lesser).1
    · refine (enters_iff (by rw [still.backup]; decide)).mpr (.inr ⟨rfl, ?_, still.backup⟩)
      rw [unhindered.masterDownTimer]
      exact armed

theorem owner_preempts_sample :
    let t := ((sample 1).run [.enable true, .setPriority 255]).1
    ((t.run [.incomingPacket (.sample 2) 254 1 []]).1.step .masterDownExpiry).1.state = .master :=
  ((owner_preempts_iff 2 .inet 51 0 _ (sample 1) (construct_sample 1)
    [.enable true, .setPriority 255] (by decide) (by decide)).mpr (by decide) _
      fun e inside => by
        rw [List.mem_singleton.mp inside]
        exact ⟨by decide, by decide⟩).2

/-- A Backup that becomes the owner with preemption off adopts the interval zero of a router
with priority 1, and its timer is dead. -/
theorem owner_held_up :
    let t := ((sample 1).run [.enable true, .setPreemptMode false, .setPriority 255]).1
    let u := (t.step (.incomingPacket (.sample 2) 1 0 [])).1
    construct 2 .inet 51 0 ⟨.sample 1, 7, none, -1⟩ = some (sample 1) ∧
    t.state = .backup ∧ t.priority.1 = 255 ∧
    u.masterAdvertisementInterval ≠ t.masterAdvertisementInterval ∧
    ¬ u.masterDownTimer.Running := by
  refine ⟨rfl, ?_, ?_, ?_, ?_⟩ <;> decide

end VrrpService

end OpenVrrp
