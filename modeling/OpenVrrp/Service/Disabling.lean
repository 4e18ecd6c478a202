import OpenVrrp.Service.Moves

/-! What keeps a disabled router out of the protocol. The intent of the administrator has no
member of its own: `shutdown` leaves LinkDown alone, so a router that waits for its link
goes on waiting when it is disabled. -/
namespace OpenVrrp

def Event.Enables : Event → Prop
  | .enable _ => True
  | _ => False

namespace VrrpService

theorem setter_idle (s : VrrpService) {e : Event} (setter : e.Setter) (idle : s.state ≠ .master) :
    (s.step e).2 = [] := by
  cases e with
  | setPriority priority =>
    simp only [step, setPriority]
    split
    · rfl
    · exact if_neg fun both => idle both.1
  | setAcceptMode enabled =>
    simp only [step, setAcceptMode]
    split
    · rfl
    · split <;> rfl
  | addIpAddress subnet =>
    simp only [step, addIpAddress]
    split <;> rfl
  | removeIpAddress subnet => exact if_neg idle
  | _ => first | rfl | cases setter

theorem disabled_step (s : VrrpService) {e : Event} (disabled : s.state = .disabled)
    (other : ¬ e.Enables) : (s.step e).1.state = .disabled ∧ (s.step e).2 = [] := by
  have idle : ¬ s.Active := by simp [Active, disabled]
  have moves := s.step_moves e
  generalize outcome : s.step e = u at moves
  cases moves with
  | set setter =>
    refine ⟨?_, s.setter_idle setter fun master => idle (.inr master)⟩
    rw [(s.setter_keeps setter).2.1, disabled]
  | hear _ stays => exact ⟨stays.state.trans disabled, rfl⟩
  | ignore => exact ⟨disabled, rfl⟩
  | linkMissing => exact absurd trivial other
  | startUp starts =>
    rw [disabled] at starts
    cases starts
    exact absurd trivial other
  | takeOver _ backup => exact absurd (.inl backup) idle
  | announce _ master | yield master => exact absurd (.inr master) idle
  | shutDown _ active => exact absurd active idle

theorem disabled_run (s : VrrpService) (disabled : s.state = .disabled) (events : List Event)
    (others : ∀ e ∈ events, ¬ e.Enables) :
    Runs.Always (fun s e => (s.step e).1) (fun s => s.state = .disabled) s events ∧
      (s.run events).2 = [] := by
  induction events generalizing s with
  | nil => exact ⟨disabled, rfl⟩
  | cons e rest ih =>
    obtain ⟨still, silent⟩ := s.disabled_step disabled (others e List.mem_cons_self)
    obtain ⟨later, silence⟩ := ih _ still fun e inside => others e (List.mem_cons_of_mem _ inside)
    refine ⟨⟨disabled, later⟩, ?_⟩
    rw [run, silent, silence]
    rfl

theorem disable_state (s : VrrpService) : s.disable.1.state = .disabled ↔ s.state ≠ .linkDown := by
  unfold disable
  cases state : s.state with
  | disabled => simp [state]
  | linkDown => simp [state, shutdown_idle]
  | backup => simp [s.shutdown_state .disabled (.inl state)]
  | master => simp [s.shutdown_state .disabled (.inr state)]

/-- In any state at all, reached by a run or not, `disable` takes the router out of the
protocol for as long as nobody enables it if and only if it was not waiting for its link. -/
theorem disable_stays_out_iff (s : VrrpService) :
    (s.disable.1.state = .disabled ∧ s.disable.1.enabled = false ∧
      ∀ events : List Event, (∀ e ∈ events, ¬ e.Enables) →
        Runs.Always (fun s e => (s.step e).1) (fun s => s.state = .disabled) s.disable.1 events ∧
          (s.disable.1.run events).2 = []) ↔
      s.state ≠ .linkDown := by
  rw [← disable_state]
  constructor
  · exact And.left
  · intro disabled
    exact ⟨disabled, by simp [enabled, disabled], fun events others =>
      disabled_run _ disabled events others⟩

/-- Enabled while the link is missing and disabled again, the router still comes up with
the link and is Master after its timer. -/
theorem disabled_without_link :
    construct 2 .inet 51 0 ⟨.sample 1, 7, none, -1⟩ = some (sample 1) ∧
    ((sample 1).run [.enable false]).1.disable.1.enabled = true ∧
    (((sample 1).run [.enable false]).1.disable.1.run
      [.interfaceCallback true, .masterDownExpiry]).1.state = .master := by
  refine ⟨rfl, ?_, ?_⟩ <;> decide

end VrrpService

end OpenVrrp
