import OpenVrrp.Service

/-! What each operation of a service does, stated once: the new state as an update of the
old one and the requests in order. Later modules use these equations and do not unfold
the operations again. -/
namespace OpenVrrp

def Event.Setter : Event → Prop
  | .setPrimaryIpAddress _ | .unsetPrimaryIpAddress _ | .setPriority _
  | .setAdvertisementInterval _ | .setPreemptMode _ | .setAcceptMode _ | .addIpAddress _
  | .removeIpAddress _ | .setMasterCommand _ | .setBackupCommand _ => True
  | _ => False

namespace VrrpService

@[simp] theorem setState_fst (s : VrrpService) (state : State) :
    (s.setState state).1 = { s with state := state } := by
  unfold setState
  split
  · rfl
  · rename_i same
    have eq : s.state = state := by simpa using same
    cases s; simp_all

theorem setState_same (s : VrrpService) {state : State} (same : s.state = state) :
    s.setState state = (s, []) := by simp [setState, same]

theorem setState_master (s : VrrpService) (other : s.state ≠ .master) :
    (s.setState .master).2 = s.setVirtualMac ++ s.addIpAddresses ++
      [s.sendAdvertisement s.priority.1] ++
        VrrpService.script { s with state := .master } s.masterCommand := by
  simp [setState, other, setVirtualMac, addIpAddresses, sendAdvertisement, onInterface]

theorem setState_other (s : VrrpService) {state : State} (other : s.state ≠ state)
    (target : state ≠ .master) : (s.setState state).2 =
      (if s.state = .master then s.removeIpAddresses else []) ++ s.setDefaultMac ++
        (if state = .backup then
          VrrpService.script { s with state := state } s.backupCommand else []) := by
  simp [setState, other, target, setDefaultMac, removeIpAddresses, onInterface]

theorem createMacvlan_eq (s : VrrpService) (answers : Creation) :
    ∃ macvlan output mac, s.createMacvlan answers =
      { s with macvlanInterface := macvlan, outputInterface := output, mac := mac } := by
  unfold createMacvlan
  dsimp only
  split
  · exact ⟨_, _, _, rfl⟩
  · exact ⟨_, _, _, rfl⟩

section Construct
variable {interface : Int} {family : Family} {virtualRouterId : UInt8} {vlanId : UInt64}
  {answers : Creation} {s : VrrpService}

theorem construct_eq : ∃ macvlan output mac,
    construct interface family virtualRouterId vlanId answers =
      let s := fresh interface family virtualRouterId vlanId answers.primaryIpAddress
      if 0 < vlanId then
        if answers.vlanInterface < 0 then none
        else some { s with
          macvlanInterface := macvlan
          vlanInterface := answers.vlanInterface
          outputInterface := answers.vlanInterface
          inputInterface := answers.vlanInterface
          mac := mac }
      else some { s with macvlanInterface := macvlan, outputInterface := output, mac := mac } := by
  obtain ⟨macvlan, output, mac, made⟩ :=
    createMacvlan_eq (fresh interface family virtualRouterId vlanId answers.primaryIpAddress)
      answers
  refine ⟨macvlan, output, mac, ?_⟩
  rw [construct, made]
  rfl

theorem construct_eq_none_iff :
    construct interface family virtualRouterId vlanId answers = none ↔
      0 < vlanId ∧ answers.vlanInterface < 0 := by
  obtain ⟨macvlan, output, mac, made⟩ := construct_eq
  rw [made]
  dsimp only
  split
  · rename_i vlan
    split
    · rename_i refused
      exact iff_of_true rfl ⟨vlan, refused⟩
    · rename_i accepted
      exact iff_of_false (by simp) fun both => accepted both.2
  · rename_i none
    exact iff_of_false (by simp) fun both => none both.1

theorem construct_fresh
    (created : construct interface family virtualRouterId vlanId answers = some s) :
    ∃ macvlan vlan output mac, s =
      { fresh interface family virtualRouterId vlanId answers.primaryIpAddress with
        macvlanInterface := macvlan
        vlanInterface := vlan
        outputInterface := output
        inputInterface := if 0 < vlanId then answers.vlanInterface else interface
        mac := mac } := by
  obtain ⟨macvlan, output, mac, made⟩ := construct_eq
  rw [made] at created
  dsimp only at created
  split at created
  · rename_i wanted
    rw [if_pos wanted]
    split at created
    · cases created
    · cases created
      exact ⟨_, _, _, _, rfl⟩
  · rename_i unwanted
    rw [if_neg unwanted]
    cases created
    exact ⟨_, _, _, _, rfl⟩

theorem construct_disabled
    (created : construct interface family virtualRouterId vlanId answers = some s) :
    s.state = .disabled := by
  obtain ⟨macvlan, vlan, output, mac, rfl⟩ := construct_fresh created
  rfl

end Construct

/-! ### The two transitions into an active state -/

@[simp] theorem becomeMaster_fst (s : VrrpService) (reason : NewMasterReason) :
    (s.becomeMaster reason).1 = { s with
      state := .master
      advertisementTimer := s.advertisementTimer.start (s.advertisementInterval.value * 10)
      statsMasterTransitions := s.statsMasterTransitions + 1
      statsNewMasterReason := reason
      masterIpAddress := s.primaryIpAddress } := by
  simp [becomeMaster, startAdvertisementTimer]

theorem becomeMaster_snd (s : VrrpService) (reason : NewMasterReason) :
    (s.becomeMaster reason).2 =
      (s.setState .master).2 ++ (if s.family = .inet then s.sendARPs else []) := by
  simp [becomeMaster, sendARPs]

def downIntervalOn (s : VrrpService) (interval : WireInterval) : Nat :=
  3 * interval.val + (256 - s.priority.1.toNat) * interval.val / 256

def waiting (s : VrrpService) : VrrpService :=
  { s with
    masterAdvertisementInterval := s.advertisementInterval.toWire
    masterDownTimer := s.masterDownTimer.start
      (s.downIntervalOn s.advertisementInterval.toWire * 10) }

theorem startup_owner (s : VrrpService) (owner : s.priority.1 = 255) :
    s.startup = s.becomeMaster .preempted := by simp [startup, owner]

theorem startup_fst (s : VrrpService) (other : s.priority.1 ≠ 255) :
    s.startup.1 = { s.waiting with state := .backup, statsNewMasterReason := .notMaster } := by
  simp [startup, other, waiting, startMasterDownTimer, masterDownInterval, skewTime,
    downIntervalOn]

theorem startup_snd (s : VrrpService) (other : s.priority.1 ≠ 255) :
    s.startup.2 = (s.waiting.setState .backup).2 := by
  simp [startup, other, waiting, startMasterDownTimer, masterDownInterval, skewTime,
    downIntervalOn]

/-! ### Leaving -/

theorem shutdown_backup (s : VrrpService) (newState : State) (backup : s.state = .backup) :
    s.shutdown newState = s.stopMasterDownTimer.setState newState := by simp [shutdown, backup]

theorem shutdown_master_fst (s : VrrpService) (newState : State) (master : s.state = .master) :
    (s.shutdown newState).1 = { s with
      advertisementTimer := s.advertisementTimer.stop
      state := newState
      statsSentPriZeroPackets := s.statsSentPriZeroPackets + 1 } := by
  simp [shutdown, master, stopAdvertisementTimer]

theorem shutdown_master_snd (s : VrrpService) (newState : State) (master : s.state = .master) :
    (s.shutdown newState).2 =
      s.sendAdvertisement 0 :: (s.stopAdvertisementTimer.setState newState).2 := by
  simp [shutdown, master, stopAdvertisementTimer, sendAdvertisement]

theorem shutdown_idle (s : VrrpService) (newState : State) (backup : s.state ≠ .backup)
    (master : s.state ≠ .master) : s.shutdown newState = (s, []) := by
  simp [shutdown, backup, master]

/-! ### Incoming advertisements -/

@[simp] theorem countAdvertisement_state (s : VrrpService) (interval : WireInterval) :
    (s.countAdvertisement interval).state = s.state := rfl

theorem yield_fst (s : VrrpService) (interval : WireInterval) :
    (s.yield interval).1 = { s with
      advertisementTimer := s.advertisementTimer.stop
      masterAdvertisementInterval := interval
      masterDownTimer := s.masterDownTimer.start (s.downIntervalOn interval * 10)
      state := .backup
      pendingNewMasterReason := .priority } := by
  simp [yield, stopAdvertisementTimer, startMasterDownTimer, masterDownInterval, skewTime,
    downIntervalOn]

theorem yield_snd (s : VrrpService) (interval : WireInterval) :
    (s.yield interval).2 = (VrrpService.setState { s with
      advertisementTimer := s.advertisementTimer.stop
      masterAdvertisementInterval := interval
      masterDownTimer := s.masterDownTimer.start (s.downIntervalOn interval * 10) } .backup).2 ++
        s.setDefaultMac := by
  simp [yield, stopAdvertisementTimer, startMasterDownTimer, masterDownInterval, skewTime,
    downIntervalOn, setDefaultMac]

/-! The six branches of `onIncomingVrrpPacket`, by state and priority. -/

section Packet
variable (s : VrrpService) (address : IpAddress) {priority : UInt8} (interval : WireInterval)
  (addresses : List IpAddress)

theorem packet_stopped (backup : s.state = .backup) :
    s.onIncomingVrrpPacket address 0 interval addresses =
      ((s.countAdvertisement interval).masterStopped, []) := by
  simp [onIncomingVrrpPacket, backup]

theorem packet_refresh (backup : s.state = .backup) (nonzero : priority ≠ 0)
    (right : s.preemptMode = false ∨ s.priority.1 ≤ priority) :
    s.onIncomingVrrpPacket address priority interval addresses =
      ((s.countAdvertisement interval).refresh address interval addresses, []) := by
  simp only [onIncomingVrrpPacket, countAdvertisement_state, backup, if_neg nonzero]
  exact if_pos (by simpa [countAdvertisement] using right)

theorem packet_preempted (backup : s.state = .backup) (nonzero : priority ≠ 0)
    (preempt : s.preemptMode = true) (lower : priority < s.priority.1) :
    s.onIncomingVrrpPacket address priority interval addresses =
      ((s.countAdvertisement interval).setPendingReason .preempted, []) := by
  simp only [onIncomingVrrpPacket, countAdvertisement_state, backup, if_neg nonzero]
  rw [if_neg (by simpa [countAdvertisement, preempt] using lower)]
  exact if_pos preempt

theorem packet_remind (master : s.state = .master) :
    s.onIncomingVrrpPacket address 0 interval addresses =
      (s.countAdvertisement interval).remind := by
  simp [onIncomingVrrpPacket, master]

theorem packet_yield (master : s.state = .master) (nonzero : priority ≠ 0)
    (outranked : s.outranked address priority = true) :
    s.onIncomingVrrpPacket address priority interval addresses =
      (s.countAdvertisement interval).yield interval := by
  simp only [onIncomingVrrpPacket, countAdvertisement_state, master, if_neg nonzero]
  exact if_pos outranked

theorem packet_lower (master : s.state = .master) (nonzero : priority ≠ 0)
    (stays : s.outranked address priority = false) :
    s.onIncomingVrrpPacket address priority interval addresses =
      (s.countAdvertisement interval, []) := by
  simp only [onIncomingVrrpPacket, countAdvertisement_state, master, if_neg nonzero]
  exact if_neg (by rw [Bool.not_eq_true]; exact stays)

theorem packet_idle (backup : s.state ≠ .backup) (master : s.state ≠ .master) :
    s.onIncomingVrrpPacket address priority interval addresses =
      (s.countAdvertisement interval, []) := by
  rw [← countAdvertisement_state s interval] at backup master
  unfold onIncomingVrrpPacket
  dsimp only
  split <;> first | contradiction | rfl

/-- The branch that an advertisement takes, with what decides for it. -/
inductive Reaction (priority : UInt8) : Outcome → Prop where
  | stopped (backup : s.state = .backup) (zero : priority = 0) :
      Reaction priority ((s.countAdvertisement interval).masterStopped, [])
  | refresh (backup : s.state = .backup) (nonzero : priority ≠ 0)
      (right : s.preemptMode = false ∨ s.priority.1 ≤ priority) :
      Reaction priority ((s.countAdvertisement interval).refresh address interval addresses, [])
  | preempted (backup : s.state = .backup) (nonzero : priority ≠ 0)
      (preempt : s.preemptMode = true) (lower : priority < s.priority.1) :
      Reaction priority ((s.countAdvertisement interval).setPendingReason .preempted, [])
  | remind (master : s.state = .master) (zero : priority = 0) :
      Reaction priority (s.countAdvertisement interval).remind
  | yield (master : s.state = .master) (nonzero : priority ≠ 0)
      (outranked : s.outranked address priority = true) :
      Reaction priority ((s.countAdvertisement interval).yield interval)
  | lower (master : s.state = .master) (nonzero : priority ≠ 0)
      (stays : s.outranked address priority = false) :
      Reaction priority (s.countAdvertisement interval, [])
  | idle (backup : s.state ≠ .backup) (master : s.state ≠ .master) :
      Reaction priority (s.countAdvertisement interval, [])

theorem packet_reaction (priority : UInt8) : s.Reaction address interval addresses priority
    (s.onIncomingVrrpPacket address priority interval addresses) := by
  cases state : s.state with
  | backup =>
    by_cases zero : priority = 0
    · subst zero
      rw [packet_stopped s address interval addresses state]
      exact .stopped state rfl
    · by_cases right : s.preemptMode = false ∨ s.priority.1 ≤ priority
      · rw [packet_refresh s address interval addresses state zero right]
        exact .refresh state zero right
      · have other : s.preemptMode = true ∧ priority < s.priority.1 := by simpa using right
        rw [packet_preempted s address interval addresses state zero other.1 other.2]
        exact .preempted state zero other.1 other.2
  | master =>
    by_cases zero : priority = 0
    · subst zero
      rw [packet_remind s address interval addresses state]
      exact .remind state rfl
    · cases outranked : s.outranked address priority with
      | true =>
        rw [packet_yield s address interval addresses state zero outranked]
        exact .yield state zero outranked
      | false =>
        rw [packet_lower s address interval addresses state zero outranked]
        exact .lower state zero outranked
  | disabled | linkDown =>
    rw [packet_idle s address interval addresses (by simp [state]) (by simp [state])]
    exact .idle (by simp [state]) (by simp [state])

/-- A Backup that preempts does not wait for a router of lower priority. -/
theorem not_right {s : VrrpService} {priority : UInt8} (preempt : s.preemptMode = true)
    (lower : priority < s.priority.1) : ¬ (s.preemptMode = false ∨ s.priority.1 ≤ priority) := by
  rintro (off | higher)
  · exact Bool.false_ne_true (off.symm.trans preempt)
  · exact absurd higher (UInt8.not_le.mpr lower)

end Packet

theorem outranked_iff (s : VrrpService) (address : IpAddress) (priority : UInt8) :
    s.outranked address priority = true ↔ s.priority.1 < priority ∨
      (priority = s.priority.1 ∧ s.primaryIpAddress < address) := by
  simp [outranked, IpAddress.operatorGreater_iff]

/-! ### What an event leaves alone -/

/-- The members that the constructor sets for good. -/
def identity (s : VrrpService) : Int × UInt8 × Family × UInt64 × Int × Int × Int × Int × Mac :=
  (s.interface, s.virtualRouterId, s.family, s.vlanId, s.macvlanInterface, s.vlanInterface,
    s.outputInterface, s.inputInterface, s.mac)

/-- A new service with the same identity, given the same settings. -/
def configured (s : VrrpService) : VrrpService :=
  { fresh s.interface s.family s.virtualRouterId s.vlanId s.primaryIpAddress with
    priority := s.priority
    autoPrimaryIpAddress := s.autoPrimaryIpAddress
    advertisementInterval := s.advertisementInterval
    preemptMode := s.preemptMode
    acceptMode := s.acceptMode
    macvlanInterface := s.macvlanInterface
    vlanInterface := s.vlanInterface
    outputInterface := s.outputInterface
    inputInterface := s.inputInterface
    mac := s.mac
    subnets := s.subnets
    addresses := s.addresses
    backupCommand := s.backupCommand
    masterCommand := s.masterCommand }

theorem setState_configured (s : VrrpService) (state : State) :
    (s.setState state).1.configured = s.configured := by rw [setState_fst]; rfl

theorem becomeMaster_configured (s : VrrpService) (reason : NewMasterReason) :
    (s.becomeMaster reason).1.configured = s.configured := by rw [becomeMaster_fst]; rfl

theorem startup_configured (s : VrrpService) : s.startup.1.configured = s.configured := by
  by_cases owner : s.priority.1 = 255
  · rw [startup_owner s owner, becomeMaster_configured]
  · rw [startup_fst s owner]; rfl

theorem shutdown_configured (s : VrrpService) (newState : State) :
    (s.shutdown newState).1.configured = s.configured := by
  by_cases backup : s.state = .backup
  · rw [shutdown_backup s newState backup, setState_configured]; rfl
  · by_cases master : s.state = .master
    · rw [shutdown_master_fst s newState master]; rfl
    · rw [shutdown_idle s newState backup master]

/-- A setter changes settings and nothing else. -/
theorem setter_fst (s : VrrpService) {e : Event} (setter : e.Setter) :
    (s.step e).1 = { s with
      priority := (s.step e).1.priority
      primaryIpAddress := (s.step e).1.primaryIpAddress
      autoPrimaryIpAddress := (s.step e).1.autoPrimaryIpAddress
      advertisementInterval := (s.step e).1.advertisementInterval
      preemptMode := (s.step e).1.preemptMode
      acceptMode := (s.step e).1.acceptMode
      subnets := (s.step e).1.subnets
      addresses := (s.step e).1.addresses
      backupCommand := (s.step e).1.backupCommand
      masterCommand := (s.step e).1.masterCommand } := by
  cases e with
  | setPrimaryIpAddress address =>
    simp only [step, setPrimaryIpAddress]
    split <;> rfl
  | unsetPrimaryIpAddress found =>
    simp only [step, unsetPrimaryIpAddress]
    split <;> rfl
  | setPriority priority =>
    simp only [step, setPriority]
    split <;> rfl
  | setAdvertisementInterval n =>
    simp only [step, setAdvertisementInterval]
    split <;> rfl
  | setAcceptMode enabled =>
    simp only [step, setAcceptMode]
    split
    · rfl
    · split <;> rfl
  | addIpAddress subnet =>
    simp only [step, addIpAddress]
    split <;> rfl
  | removeIpAddress | setPreemptMode | setMasterCommand | setBackupCommand => rfl
  | _ => cases setter

theorem setter_keeps (s : VrrpService) {e : Event} (setter : e.Setter) :
    (s.step e).1.identity = s.identity ∧ (s.step e).1.state = s.state ∧
      (s.step e).1.masterDownTimer = s.masterDownTimer ∧
      (s.step e).1.advertisementTimer = s.advertisementTimer ∧
      (s.step e).1.statsMasterTransitions = s.statsMasterTransitions ∧
      (s.step e).1.statsSentPriZeroPackets = s.statsSentPriZeroPackets := by
  have kept {α : Type} (field : VrrpService → α) := congrArg field (s.setter_fst setter)
  exact ⟨kept identity, kept state, kept masterDownTimer, kept advertisementTimer,
    kept statsMasterTransitions, kept statsSentPriZeroPackets⟩

end VrrpService

end OpenVrrp
