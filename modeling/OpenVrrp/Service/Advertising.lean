import OpenVrrp.Service.Transitions

/-! Which operations send advertisements, and what they announce. -/
namespace OpenVrrp

def Effect.advertises : Effect → Bool
  | .sendPacket .. => true
  | _ => false

def advertised (effects : List Effect) : List Effect := effects.filter Effect.advertises

@[simp] theorem advertised_nil : advertised [] = [] := rfl

@[simp] theorem advertised_append (xs ys : List Effect) :
    advertised (xs ++ ys) = advertised xs ++ advertised ys := List.filter_append ..

theorem advertised_eq_nil {effects : List Effect} (silent : ∀ e ∈ effects, e.advertises = false) :
    advertised effects = [] := by
  simpa [advertised, List.filter_eq_nil_iff] using silent

namespace VrrpService

@[simp] theorem advertised_sendAdvertisement (s : VrrpService) (priority : UInt8)
    (rest : List Effect) :
    advertised (s.sendAdvertisement priority :: rest) =
      s.sendAdvertisement priority :: advertised rest := rfl

@[simp] theorem advertised_setVirtualMac (s : VrrpService) : advertised s.setVirtualMac = [] := by
  unfold setVirtualMac
  split <;> split <;> rfl

@[simp] theorem advertised_setDefaultMac (s : VrrpService) : advertised s.setDefaultMac = [] := by
  unfold setDefaultMac
  split <;> split <;> rfl

@[simp] theorem advertised_addIpAddresses (s : VrrpService) :
    advertised s.addIpAddresses = [] := by
  apply advertised_eq_nil
  unfold addIpAddresses
  split <;> simp [Effect.advertises]

@[simp] theorem advertised_removeIpAddresses (s : VrrpService) :
    advertised s.removeIpAddresses = [] := by
  apply advertised_eq_nil
  unfold removeIpAddresses
  split <;> simp [Effect.advertises]

@[simp] theorem advertised_script (s : VrrpService) (command : Text) :
    advertised (s.script command) = [] := by
  unfold script
  split <;> rfl

@[simp] theorem advertised_sendARPs (s : VrrpService) : advertised s.sendARPs = [] := by
  apply advertised_eq_nil
  simp [sendARPs, Effect.advertises]

theorem advertised_setState_master (s : VrrpService) (other : s.state ≠ .master) :
    advertised (s.setState .master).2 = [s.sendAdvertisement s.priority.1] := by
  simp [setState_master s other]

theorem advertised_setState_other (s : VrrpService) {state : State} (target : state ≠ .master) :
    advertised (s.setState state).2 = [] := by
  by_cases same : s.state = state
  · simp [setState_same s same]
  · rw [setState_other s same target]
    split <;> split <;> simp

theorem advertised_becomeMaster (s : VrrpService) (reason : NewMasterReason)
    (other : s.state ≠ .master) :
    advertised (s.becomeMaster reason).2 = [s.sendAdvertisement s.priority.1] := by
  rw [becomeMaster_snd, advertised_append, advertised_setState_master s other]
  split <;> simp

theorem advertised_startup_backup (s : VrrpService) (other : s.priority.1 ≠ 255) :
    advertised s.startup.2 = [] := by
  rw [startup_snd s other, advertised_setState_other _ (by decide)]

theorem advertised_yield (s : VrrpService) (interval : WireInterval) :
    advertised (s.yield interval).2 = [] := by
  simp [yield, advertised_setState_other]

end VrrpService

/-! ### The events of an election -/

inductive Electing : Event → Prop where
  | enable : Electing (.enable true)
  | masterDown : Electing .masterDownExpiry
  | advertisement : Electing .advertisementExpiry
  | incoming (address : IpAddress) (priority : UInt8) (interval : WireInterval)
      (addresses : List IpAddress) (nonzero : priority ≠ 0) :
      Electing (.incomingPacket address priority interval addresses)

namespace VrrpService

/-- What an event of the election does to a router, as far as the others can tell. -/
structure Elected (s t : VrrpService) (effects : List Effect) (e : Event) : Prop where
  priority : t.priority = s.priority
  primary : t.primaryIpAddress = s.primaryIpAddress
  speaks : ∀ x ∈ advertised effects, x = s.sendAdvertisement s.priority.1 ∧ t.state = .master
  leaves : s.state = .master → t.state ≠ .master →
    ∃ address priority interval addresses,
      e = .incomingPacket address priority interval addresses ∧
        s.outranked address priority = true

theorem becomeMaster_elected (s : VrrpService) (reason : NewMasterReason) (e : Event)
    (other : s.state ≠ .master) :
    Elected s (s.becomeMaster reason).1 (s.becomeMaster reason).2 e where
  priority := by simp
  primary := by simp
  speaks := by
    intro x said
    rw [advertised_becomeMaster s reason other, List.mem_singleton] at said
    exact ⟨said, by simp⟩
  leaves := fun master => absurd master other

theorem startup_elected (s : VrrpService) (e : Event) (other : s.state ≠ .master) :
    Elected s s.startup.1 s.startup.2 e := by
  by_cases owner : s.priority.1 = 255
  · rw [startup_owner s owner]
    exact becomeMaster_elected s _ e other
  · refine ⟨?_, ?_, ?_, fun master => absurd master other⟩
    · rw [startup_fst s owner]; rfl
    · rw [startup_fst s owner]; rfl
    · simp [advertised_startup_backup s owner]

theorem packet_elected (s : VrrpService) (address : IpAddress) (priority : UInt8)
    (interval : WireInterval) (addresses : List IpAddress) (nonzero : priority ≠ 0) :
    Elected s (s.onIncomingVrrpPacket address priority interval addresses).1
      (s.onIncomingVrrpPacket address priority interval addresses).2
      (.incomingPacket address priority interval addresses) := by
  have silent : ∀ t : VrrpService, s.state = .backup → t.priority = s.priority →
      t.primaryIpAddress = s.primaryIpAddress →
      Elected s t [] (.incomingPacket address priority interval addresses) := by
    intro t backup same primary
    exact ⟨same, primary, by simp, by simp [backup]⟩
  have reacts := s.packet_reaction address interval addresses priority
  generalize s.onIncomingVrrpPacket address priority interval addresses = u at reacts ⊢
  cases reacts with
  | stopped _ zero => exact absurd zero nonzero
  | remind _ zero => exact absurd zero nonzero
  | refresh backup => exact silent _ backup rfl rfl
  | preempted backup => exact silent _ backup rfl rfl
  | yield master _ outranked =>
    refine ⟨?_, ?_, ?_, fun _ _ => ⟨_, _, _, _, rfl, outranked⟩⟩
    · rw [yield_fst]; rfl
    · rw [yield_fst]; rfl
    · simp [advertised_yield]
  | lower master => exact ⟨rfl, rfl, by simp, fun _ left => absurd master left⟩
  | idle _ master => exact ⟨rfl, rfl, by simp, fun before _ => absurd before master⟩

theorem step_elected (s : VrrpService) {e : Event} (electing : Electing e) :
    Elected s (s.step e).1 (s.step e).2 e := by
  cases electing with
  | enable =>
    simp only [step, enable, if_true]
    split
    · rename_i disabled
      exact startup_elected s _ (by simp [disabled])
    · exact ⟨rfl, rfl, by simp, fun master left => absurd master left⟩
  | masterDown =>
    simp only [step, masterDownExpiry]
    split
    · simp only [onMasterDownTimer]
      split
      · rename_i backup
        have other : s.stopMasterDownTimer.state ≠ .master := by simp [backup]
        have elected := becomeMaster_elected s.stopMasterDownTimer
          s.stopMasterDownTimer.pendingNewMasterReason .masterDownExpiry other
        exact ⟨elected.priority, elected.primary, elected.speaks, elected.leaves⟩
      · exact ⟨rfl, rfl, by simp, fun master left => absurd master left⟩
    · exact ⟨rfl, rfl, by simp, fun master left => absurd master left⟩
  | advertisement =>
    simp only [step, advertisementExpiry]
    split
    · simp only [onAdvertisementTimer]
      split
      · rename_i master
        refine ⟨rfl, rfl, ?_, fun held left => absurd held left⟩
        intro x said
        exact ⟨List.mem_singleton.mp said, master⟩
      · exact ⟨rfl, rfl, by simp, fun master left => absurd master left⟩
    · exact ⟨rfl, rfl, by simp, fun master left => absurd master left⟩
  | incoming address priority interval addresses nonzero =>
    exact packet_elected s address priority interval addresses nonzero

end VrrpService

end OpenVrrp
