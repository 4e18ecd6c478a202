import OpenVrrp.Service.Moves
import OpenVrrp.Socket

/-! What a service records about what it receives, and the two counters at the head of
`onIncomingVrrpPacket`: the advertisements delivered, and those with another interval. -/
namespace OpenVrrp

def Event.Received : Event → Prop
  | .incomingPacket .. | .incomingError _ => True
  | _ => False

namespace VrrpService

/-- What only an advertisement or an error report changes. -/
def reception (s : VrrpService) : NewMasterReason × ProtocolErrorReason × List Nat :=
  (s.pendingNewMasterReason, s.statsProtocolErrReason,
    [s.statsRcvdAdvertisements, s.statsAdvIntervalErrors, s.statsIpTtlErrors,
      s.statsRcvdPriZeroPackets, s.statsRcvdInvalidTypePackets, s.statsAddressListErrors,
      s.statsPacketLengthErrors])

theorem setState_reception (s : VrrpService) (state : State) :
    (s.setState state).1.reception = s.reception := by rw [setState_fst]; rfl

theorem becomeMaster_reception (s : VrrpService) (reason : NewMasterReason) :
    (s.becomeMaster reason).1.reception = s.reception := by rw [becomeMaster_fst]; rfl

theorem startup_reception (s : VrrpService) : s.startup.1.reception = s.reception := by
  by_cases owner : s.priority.1 = 255
  · rw [startup_owner s owner, becomeMaster_reception]
  · rw [startup_fst s owner]; rfl

theorem shutdown_reception (s : VrrpService) (newState : State) :
    (s.shutdown newState).1.reception = s.reception := by
  by_cases backup : s.state = .backup
  · rw [shutdown_backup s newState backup, setState_reception]; rfl
  · by_cases master : s.state = .master
    · rw [shutdown_master_fst s newState master]; rfl
    · rw [shutdown_idle s newState backup master]

theorem setter_reception (s : VrrpService) {e : Event} (setter : e.Setter) :
    (s.step e).1.reception = s.reception := by
  have kept := congrArg reception (s.setter_fst setter)
  exact kept

theorem step_reception (s : VrrpService) {e : Event} (silent : ¬ e.Received) :
    (s.step e).1.reception = s.reception := by
  cases e with
  | incomingPacket | incomingError => exact absurd trivial silent
  | enable isInterfaceUp =>
    simp only [step, enable]
    split
    · split
      · exact s.startup_reception
      · exact s.setState_reception .linkDown
    · rfl
  | disable =>
    simp only [step, disable]
    split
    · exact s.shutdown_reception .disabled
    · rfl
  | interfaceCallback isUp =>
    simp only [step, interfaceCallback]
    split
    · split
      · exact s.startup_reception
      · rfl
    · split
      · exact s.shutdown_reception .linkDown
      · rfl
  | masterDownExpiry =>
    simp only [step, masterDownExpiry, onMasterDownTimer]
    split
    · split
      · exact s.stopMasterDownTimer.becomeMaster_reception _
      · rfl
    · rfl
  | advertisementExpiry =>
    simp only [step, advertisementExpiry, onAdvertisementTimer]
    split
    · split <;> rfl
    · rfl
  | _ => exact s.setter_reception trivial

/-- Behind the two counters no branch of `onIncomingVrrpPacket` touches them again. -/
theorem packet_counters (s : VrrpService) (address : IpAddress) (priority : UInt8)
    (interval : WireInterval) (addresses : List IpAddress) :
    let t := (s.onIncomingVrrpPacket address priority interval addresses).1
    t.statsRcvdAdvertisements = s.statsRcvdAdvertisements + 1 ∧
      t.statsAdvIntervalErrors = (s.countAdvertisement interval).statsAdvIntervalErrors := by
  have reacts := s.packet_reaction address interval addresses priority
  generalize s.onIncomingVrrpPacket address priority interval addresses = u at reacts
  cases reacts with
  | yield =>
    rw [yield_fst]
    exact ⟨rfl, rfl⟩
  | _ => exact ⟨rfl, rfl⟩

/-- The negated interval is 0 or 1: an equal interval is counted, and an interval of 0 against
an own one of 1 is not. -/
theorem countAdvertisement_errors_iff (s : VrrpService) (interval : WireInterval) :
    (s.countAdvertisement interval).statsAdvIntervalErrors =
        (if interval.val ≠ s.advertisementInterval.value then s.statsAdvIntervalErrors + 1
        else s.statsAdvIntervalErrors) ↔
      interval.val ≠ s.advertisementInterval.value ∧
        (interval.val = 0 → s.advertisementInterval.value ≠ 1) := by
  have positive : 0 ≠ s.advertisementInterval.value :=
    (Nat.ne_of_gt s.advertisementInterval.positive).symm
  simp only [countAdvertisement]
  by_cases same : interval.val = s.advertisementInterval.value
  · have nonzero : interval.val ≠ 0 := by omega
    rw [if_neg nonzero, if_pos positive, if_neg (not_not.mpr same)]
    exact iff_of_false (Nat.succ_ne_self _) fun compared => compared.1 same
  · rw [if_pos same]
    by_cases zero : interval.val = 0
    · rw [if_pos zero]
      by_cases one : 1 = s.advertisementInterval.value
      · rw [if_neg (not_not.mpr one)]
        exact iff_of_false (Nat.succ_ne_self _).symm fun compared => compared.2 zero one.symm
      · rw [if_pos one]
        exact iff_of_true rfl ⟨same, fun _ => Ne.symm one⟩
    · rw [if_neg zero, if_pos positive]
      exact iff_of_true rfl ⟨same, fun absurdly => absurd absurdly zero⟩

end VrrpService

/-! ### What the socket reports -/

namespace Call
variable {ι : Type}

def event : Call ι → Event
  | .onIncomingVrrpPacket _ _ address _ priority interval addresses =>
    .incomingPacket address priority interval addresses
  | .onIncomingVrrpError _ _ _ error => .incomingError error

end Call

namespace VrrpSocket
variable {ι : Type}

/-- None of the calls is about the interval. -/
def Reports (handled : Handled ι) : Prop :=
  ∀ call ∈ handled.calls, call.event ≠ .incomingError .advIntervalError

theorem reports_notifyAll (result : Bool) (listeners : Std.TreeMap UInt8 ι) (interface : Int)
    {error : ListenerError} (other : error ≠ .advIntervalError)
    (counted : Option RouterStatistic) :
    Reports ⟨result, notifyAll listeners interface error, counted⟩ := by
  intro call made
  obtain ⟨_, _, rfl⟩ := List.mem_map.mp made
  exact fun same => other (Event.incomingError.inj same)

theorem receiveAdvertisement_reports (family : Family) (d : Datagram)
    (listeners : Std.TreeMap UInt8 ι) (packet : Nat) (size : Int) (ttl : UInt8) :
    Reports (receiveAdvertisement family d listeners packet size ttl).value := by
  have single : ∀ (result : Bool) (call : Call ι) (counted : Option RouterStatistic),
      call.event ≠ .incomingError .advIntervalError → Reports ⟨result, [call], counted⟩ := by
    intro result call counted other made inside
    rw [List.mem_singleton.mp inside]
    exact other
  simp only [receiveAdvertisement, Reading.bind_value]
  split
  · exact reports_notifyAll _ _ _ (by decide) _
  · split
    · exact single _ _ _ (by simp [Call.event])
    · split
      · exact single _ _ _ (by simp [Call.event])
      · exact single _ _ _ (by simp [Call.event])

theorem receivePacket_reports (family : Family) (d : Datagram) (listeners : Std.TreeMap UInt8 ι)
    (packet : Nat) (size : Int) (ttl : UInt8) :
    Reports (receivePacket family d listeners packet size ttl).value := by
  unfold receivePacket
  split
  · exact reports_notifyAll _ _ _ (by decide) _
  · rw [Reading.bind_value]
    split
    · split
      · rw [Reading.bind_value, Reading.pure_value, notify]
        split
        · intro call made
          rw [List.mem_singleton.mp made]
          simp [Call.event]
        · exact fun _ made => absurd made List.not_mem_nil
      · exact fun _ made => absurd made List.not_mem_nil
    · rw [Reading.bind_value]
      split
      · exact fun _ made => absurd made List.not_mem_nil
      · split
        · exact reports_notifyAll _ _ _ (by decide) _
        · exact receiveAdvertisement_reports family d listeners packet size ttl

/-- For every datagram and either family: the calls of the socket are occurrences. -/
theorem onSocketPacket_reports (socket : VrrpSocket ι) (d : Datagram) {handled : Handled ι}
    (received : (socket.onSocketPacket d).value = some handled) : Reports handled := by
  unfold onSocketPacket at received
  split at received
  · cases received
    exact fun _ made => absurd made List.not_mem_nil
  · rw [Reading.bind_value] at received
    split at received
    · cases received
    · rw [Reading.map_value, Option.some.injEq] at received
      rw [← received]
      exact receivePacket_reports socket.family d _ _ _ _

end VrrpSocket

/-- What happens to a service: its socket reports no AdvIntervalError. -/
abbrev Occurrence := { e : Event // e ≠ .incomingError .advIntervalError }

/-- A service, the advertisements delivered to it, and how many of these had another interval
than the service at that time. -/
structure Counted where
  service : VrrpService
  received : Nat
  mismatched : Nat

namespace Counted

def step (c : Counted) (e : Occurrence) : Counted :=
  let s := (c.service.step e.1).1
  match e.1 with
  | .incomingPacket _ _ interval _ =>
    ⟨s, c.received + 1,
      if interval.val ≠ c.service.advertisementInterval.value then c.mismatched + 1
      else c.mismatched⟩
  | _ => ⟨s, c.received, c.mismatched⟩

def Exact (c : Counted) : Prop :=
  c.service.statsRcvdAdvertisements = c.received ∧
    c.service.statsAdvIntervalErrors = c.mismatched

/-- The advertisement has another interval, and it is not zero while ours is 10 ms. -/
def Compared (c : Counted) (e : Occurrence) : Prop :=
  ∀ address priority interval addresses,
    e.1 = .incomingPacket address priority interval addresses →
      interval.val ≠ c.service.advertisementInterval.value ∧
        (interval.val = 0 → c.service.advertisementInterval.value ≠ 1)

theorem silent_exact (c : Counted) (e : Occurrence) (silent : ¬ e.1.Received) (held : c.Exact) :
    (c.step e).Exact := by
  have kept := c.service.step_reception silent
  have same : c.step e = ⟨(c.service.step e.1).1, c.received, c.mismatched⟩ := by
    obtain ⟨e, _⟩ := e
    cases e with
    | incomingPacket => exact absurd trivial silent
    | _ => rfl
  simp only [VrrpService.reception, Prod.mk.injEq, List.cons.injEq] at kept
  rw [same]
  exact ⟨kept.2.2.1.trans held.1, kept.2.2.2.1.trans held.2⟩

theorem step_exact_iff (c : Counted) (held : c.Exact) (e : Occurrence) :
    (c.step e).Exact ↔ c.Compared e := by
  obtain ⟨e, reported⟩ := e
  cases e with
  | incomingPacket address priority interval addresses =>
    obtain ⟨received, mismatched⟩ :=
      c.service.packet_counters address priority interval addresses
    obtain ⟨first, second⟩ := held
    have counted : (c.step ⟨.incomingPacket address priority interval addresses,
        reported⟩).Exact ↔ (c.service.countAdvertisement interval).statsAdvIntervalErrors =
          if interval.val ≠ c.service.advertisementInterval.value then c.mismatched + 1
          else c.mismatched := by
      simp only [Exact, step, VrrpService.step, received, mismatched, first, true_and]
    have compared : c.Compared ⟨.incomingPacket address priority interval addresses, reported⟩ ↔
        interval.val ≠ c.service.advertisementInterval.value ∧
          (interval.val = 0 → c.service.advertisementInterval.value ≠ 1) := by
      refine ⟨fun compared => compared _ _ _ _ rfl, fun compared _ _ _ _ same => ?_⟩
      cases same
      exact compared
    rw [counted, compared, ← second]
    exact c.service.countAdvertisement_errors_iff interval
  | incomingError error =>
    refine iff_of_true ?_ fun _ _ _ _ same => by cases same
    cases error with
    | advIntervalError => exact absurd rfl reported
    | _ => exact held
  | _ =>
    refine iff_of_true (c.silent_exact _ id held) fun _ _ _ _ same => by cases same

/-- In every run from construction both counters are exact in every state reached if and only
if each advertisement has another interval than the service when it is delivered, and none
has interval zero while that of the service is 1. -/
theorem counters_exact_iff (interface : Int) (family : Family) (virtualRouterId : UInt8)
    (vlanId : UInt64) (answers : Creation) (s : VrrpService)
    (created : VrrpService.construct interface family virtualRouterId vlanId answers = some s)
    (events : List Occurrence) :
    Runs.Always step Exact ⟨s, 0, 0⟩ events ↔ Runs.Admitted step Compared ⟨s, 0, 0⟩ events := by
  have start : Exact ⟨s, 0, 0⟩ := by
    obtain ⟨macvlan, vlan, output, mac, rfl⟩ := VrrpService.construct_fresh created
    exact ⟨rfl, rfl⟩
  exact Runs.always_iff_admitted (fun _ => True) (fun _ _ _ => trivial)
    (fun c e _ held => (c.step_exact_iff held e).mpr)
    (fun c e _ held => mt (c.step_exact_iff held e).mp) trivial start events

theorem counters_exact_sample :
    Runs.Always step Exact ⟨.sample 1, 0, 0⟩
      [⟨.incomingPacket (.sample 2) 100 200 [], nofun⟩] :=
  (counters_exact_iff 2 .inet 51 0 _ (.sample 1) (VrrpService.construct_sample 1) _).mpr
    ⟨fun _ _ _ _ same => by cases same; decide, trivial⟩

/-- An advertisement with the very interval of the service is counted as an error. -/
theorem same_interval_counted :
    VrrpService.construct 2 .inet 51 0 ⟨.sample 1, 7, none, -1⟩ = some (.sample 1) ∧
    ¬ Runs.Always step Exact ⟨.sample 1, 0, 0⟩
      [⟨.incomingPacket (.sample 2) 100 100 [], nofun⟩] := by
  refine ⟨rfl, ?_⟩
  rintro ⟨_, _, mismatched⟩
  revert mismatched
  decide

end Counted

end OpenVrrp
