import OpenVrrp.Socket.Acceptance

/-! Which counters of which services a received IPv4 datagram leads to. The checks of
`onSocketPacket` discard it at the first one it fails; a length or a type error goes to all
services on the interface, a TTL or an address count to the one that is addressed. -/
namespace OpenVrrp

/-! ### What the calls count for -/

namespace VrrpService

/-- The counters of discarded packets: TTL, type, length. -/
def discards (s : VrrpService) : Nat × Nat × Nat :=
  (s.statsIpTtlErrors, s.statsRcvdInvalidTypePackets, s.statsPacketLengthErrors)

theorem packet_discards (s : VrrpService) (address : IpAddress) (priority : UInt8)
    (interval : WireInterval) (addresses : List IpAddress) :
    (s.onIncomingVrrpPacket address priority interval addresses).1.discards = s.discards := by
  have reacts := s.packet_reaction address interval addresses priority
  generalize s.onIncomingVrrpPacket address priority interval addresses = u at reacts
  cases reacts with
  | yield =>
    rw [yield_fst]
    rfl
  | _ => rfl

end VrrpService

namespace Call
variable {ι : Type} [DecidableEq ι]

/-- The call reports the error to the service. -/
def reports (service : ι) (error : ListenerError) : Call ι → Bool
  | .onIncomingVrrpPacket .. => false
  | .onIncomingVrrpError listener _ _ reported =>
    decide (listener = service) && decide (reported = error)

theorem apply_discards (services : ι → VrrpService) (call : Call ι) (service : ι) :
    ((call.apply services).1 service).discards =
      ((services service).statsIpTtlErrors,
        (services service).statsRcvdInvalidTypePackets +
          (if call.reports service .invalidTypeError then 1 else 0),
        (services service).statsPacketLengthErrors +
          if call.reports service .packetLengthError then 1 else 0) := by
  cases call with
  | onIncomingVrrpPacket listener interface address virtualRouterId priority interval addresses =>
    by_cases here : service = listener
    · subst here
      simp only [apply, Function.update_self, VrrpService.packet_discards]
      rfl
    · simp only [apply, Function.update_of_ne here]
      rfl
  | onIncomingVrrpError listener interface virtualRouterId error =>
    by_cases here : service = listener
    · subst here
      simp only [apply, Function.update_self, reports, decide_true, Bool.true_and]
      cases error <;> rfl
    · simp only [apply, Function.update_of_ne here, reports, decide_eq_false (Ne.symm here),
        Bool.false_and, Bool.false_eq_true, if_false]
      rfl

/-- A TTL error is not counted by anybody. -/
theorem applyAll_discards (calls : List (Call ι)) (services : ι → VrrpService) (service : ι) :
    ((applyAll services calls).1 service).discards =
      ((services service).statsIpTtlErrors,
        (services service).statsRcvdInvalidTypePackets +
          calls.countP (reports service .invalidTypeError),
        (services service).statsPacketLengthErrors +
          calls.countP (reports service .packetLengthError)) := by
  induction calls generalizing services with
  | nil => rfl
  | cons call rest ih =>
    have first := apply_discards services call service
    simp only [VrrpService.discards, Prod.mk.injEq] at first
    rw [applyAll, ih, first.1, first.2.1, first.2.2, List.countP_cons, List.countP_cons]
    simp only [Prod.mk.injEq, true_and]
    omega

/-- Versions are the only thing complained about. -/
theorem countP_silent {calls : List (Call ι)} {service : ι} {error : ListenerError}
    (silent : ∀ call ∈ calls, call.event = .incomingError .versionError)
    (other : error ≠ .versionError) : calls.countP (reports service error) = 0 := by
  rw [List.countP_eq_zero]
  intro call made reported
  have version := silent call made
  cases call with
  | onIncomingVrrpPacket => cases reported
  | onIncomingVrrpError =>
    cases Event.incomingError.inj version
    simp only [reports, Bool.and_eq_true, decide_eq_true_eq] at reported
    exact other reported.2.symm

theorem countP_notifyAll (listeners : Std.TreeMap UInt8 ι) (interface : Int)
    (error other : ListenerError) (service : ι) :
    (VrrpSocket.notifyAll listeners interface error).countP (reports service other) =
      if error = other then listeners.toList.countP (fun e => decide (e.2 = service)) else 0 := by
  rw [VrrpSocket.notifyAll, List.countP_map]
  split
  · rename_i same
    apply List.countP_congr
    intro e _
    simp [reports, same]
  · rename_i different
    rw [List.countP_eq_zero]
    intro e _
    simp [reports, different]

end Call

/-! ### One datagram -/

namespace VrrpSocket

variable {ι : Type}

/-- The service is registered for this interface and router id, and nowhere else. -/
structure Serves (socket : VrrpSocket ι) (service : ι) (interface : Int)
    (virtualRouterId : UInt8) : Prop where
  registered : Nested.find socket.listeners interface virtualRouterId = some service
  once : ∀ i v, Nested.find socket.listeners i v = some service →
    i = interface ∧ v = virtualRouterId

section Serves
variable {socket : VrrpSocket ι} {service : ι} {interface : Int} {virtualRouterId : UInt8}
  {d : Datagram} {listeners : Std.TreeMap UInt8 ι}

theorem Serves.listener_iff (serves : socket.Serves service interface virtualRouterId)
    (found : socket.listeners[d.interface]? = some listeners) {v : UInt8} {listener : ι}
    (registered : listeners[v]? = some listener) :
    listener = service ↔ d.interface = interface ∧ v = virtualRouterId := by
  have entry := (find_eq found v).trans registered
  constructor
  · rintro rfl
    exact serves.once _ _ entry
  · rintro ⟨here, rfl⟩
    rw [here, serves.registered] at entry
    exact (Option.some.inj entry).symm

theorem Serves.occurs [DecidableEq ι] (serves : socket.Serves service interface virtualRouterId)
    (found : socket.listeners[d.interface]? = some listeners) :
    listeners.toList.countP (fun e => decide (e.2 = service)) =
      if d.interface = interface then 1 else 0 := by
  split
  · rename_i here
    refine Nested.count_value_once (a := virtualRouterId) ?_ fun v stored => ?_
    · rw [← find_eq found, here]
      exact serves.registered
    · exact ((serves.listener_iff found stored).mp rfl).2
  · rename_i elsewhere
    apply Nested.count_value_absent
    intro v stored
    exact elsewhere ((serves.listener_iff found stored).mp rfl).1

variable [DecidableEq ι]

theorem Discards.invalidTypes (serves : socket.Serves service interface virtualRouterId)
    (found : socket.listeners[d.interface]? = some listeners) {calls : List (Call ι)}
    (discards : Discards listeners d calls) :
    calls.countP (Call.reports service .invalidTypeError) =
      if d.interface = interface ∧ d.WrongType then 1 else 0 := by
  have none_of (right : ¬ d.WrongType) :
      (if d.interface = interface ∧ d.WrongType then 1 else 0) = 0 :=
    if_neg fun both => right both.2
  cases discards with
  | short short =>
    rw [none_of fun wrong => absurd wrong.1.1 (not_le.mpr short), Call.countP_notifyAll,
      if_neg (by decide)]
  | unsound long unsound silent =>
    rw [none_of fun wrong => unsound wrong.1, Call.countP_silent silent (by decide)]
  | wrongType wrong =>
    rw [Call.countP_notifyAll, if_pos rfl, serves.occurs found]
    simp [wrong]
  | unknown addresses absent =>
    rw [none_of fun wrong => wrong.2 addresses.2.1, Call.countP_notifyAll, if_neg (by decide)]
  | wrongTtl wrong | incomplete wrong =>
    rw [none_of fun other => other.2 wrong.1.2.1]
    simp [Call.reports]
  | accepted addresses =>
    rw [none_of fun other => other.2 addresses.2.1]
    simp [Call.reports]

theorem Discards.lengths (serves : socket.Serves service interface virtualRouterId)
    (found : socket.listeners[d.interface]? = some listeners) {calls : List (Call ι)}
    (discards : Discards listeners d calls) :
    calls.countP (Call.reports service .packetLengthError) =
      if d.interface = interface ∧ (d.Short ∨ d.Incomplete virtualRouterId) then 1 else 0 := by
  have none_of (sound : d.Sound) (right : ¬ d.Incomplete virtualRouterId) :
      (if d.interface = interface ∧ (d.Short ∨ d.Incomplete virtualRouterId) then 1 else 0) = 0 :=
    if_neg fun both => both.2.elim (not_lt.mpr sound.1) right
  cases discards with
  | short short =>
    rw [Call.countP_notifyAll, if_pos rfl, serves.occurs found]
    simp [short]
  | unsound long unsound silent =>
    rw [if_neg fun both => both.2.elim long fun incomplete => unsound incomplete.1.1,
      Call.countP_silent silent (by decide)]
  | wrongType wrong =>
    rw [none_of wrong.1 fun incomplete => wrong.2 incomplete.1.2.1, Call.countP_notifyAll,
      if_neg (by decide)]
  | unknown addresses absent =>
    rw [Call.countP_notifyAll, if_neg (by decide), if_neg]
    rintro ⟨here, short | incomplete⟩
    · exact absurd addresses.1.1 (not_le.mpr short)
    · have same := addresses.2.2.symm.trans incomplete.1.2.2
      have entry := serves.registered
      rw [← here, find_eq found, ← same, absent] at entry
      cases entry
  | wrongTtl wrong =>
    rw [none_of wrong.1.1 fun incomplete => wrong.2 incomplete.2.1]
    simp [Call.reports]
  | @incomplete v listener incomplete registered =>
    have mine : d.interface = interface ∧ (d.Short ∨ d.Incomplete virtualRouterId) ↔
        d.interface = interface ∧ v = virtualRouterId := by
      constructor
      · rintro ⟨here, short | own⟩
        · exact absurd incomplete.1.1.1 (not_le.mpr short)
        · exact ⟨here, incomplete.1.2.2.symm.trans own.1.2.2⟩
      · rintro ⟨here, rfl⟩
        exact ⟨here, .inr incomplete⟩
    rw [if_congr (mine.trans (serves.listener_iff found registered).symm) rfl rfl]
    simp [Call.reports, List.countP_cons]
  | accepted addresses ttl complete =>
    rw [none_of addresses.1 fun incomplete => complete ?_]
    · simp [Call.reports]
    · rw [← addresses.2.2, incomplete.1.2.2]
      exact incomplete

/-- What a received datagram makes of the services. -/
def receive (socket : VrrpSocket ι) (services : ι → VrrpService) (d : Datagram) :
    ι → VrrpService :=
  match (socket.onSocketPacket d).value with
  | some handled => (Call.applyAll services handled.calls).1
  | none => services

theorem receive_discards (family : socket.family = .inet)
    (serves : socket.Serves service interface virtualRouterId) (services : ι → VrrpService)
    (d : Datagram) : (socket.receive services d service).discards =
      ((services service).statsIpTtlErrors,
        (services service).statsRcvdInvalidTypePackets +
          (if d.interface = interface ∧ d.WrongType then 1 else 0),
        (services service).statsPacketLengthErrors +
          if d.interface = interface ∧ (d.Short ∨ d.Incomplete virtualRouterId) then 1 else 0) := by
  obtain ⟨handled, value, nobody | ⟨listeners, found, discards⟩⟩ :=
    socket.onSocketPacket_discards family d
  · have elsewhere : d.interface ≠ interface := by
      intro here
      have entry := serves.registered
      rw [Nested.find, ← here, nobody.1] at entry
      cases entry
    simp only [receive, value, nobody.2, elsewhere, false_and, if_false]
    rfl
  · simp only [receive, value, Call.applyAll_discards, discards.invalidTypes serves found,
      discards.lengths serves found]

theorem run_discards (family : socket.family = .inet)
    (serves : socket.Serves service interface virtualRouterId) (services : ι → VrrpService)
    (ds : List Datagram) : (ds.foldl socket.receive services service).discards =
      ((services service).statsIpTtlErrors,
        (services service).statsRcvdInvalidTypePackets +
          ds.countP (fun d => decide (d.interface = interface ∧ d.WrongType)),
        (services service).statsPacketLengthErrors + ds.countP (fun d =>
          decide (d.interface = interface ∧ (d.Short ∨ d.Incomplete virtualRouterId)))) := by
  induction ds generalizing services with
  | nil => rfl
  | cons d rest ih =>
    have first := receive_discards family serves services d
    simp only [VrrpService.discards, Prod.mk.injEq] at first
    rw [List.foldl_cons, ih, first.1, first.2.1, first.2.2, List.countP_cons, List.countP_cons]
    simp only [Prod.mk.injEq, decide_eq_true_eq, true_and]
    omega

end Serves

variable [DecidableEq ι]

/-- The counters of a service after the datagrams are those before, and one more for each
datagram that they are about. -/
structure Accounted (socket : VrrpSocket ι) (services : ι → VrrpService) (ds : List Datagram)
    (service : ι) (interface : Int) (virtualRouterId : UInt8) : Prop where
  ttl : (ds.foldl socket.receive services service).statsIpTtlErrors =
    (services service).statsIpTtlErrors +
      ds.countP fun d => decide (d.interface = interface ∧ d.WrongTtl virtualRouterId)
  type : (ds.foldl socket.receive services service).statsRcvdInvalidTypePackets =
    (services service).statsRcvdInvalidTypePackets +
      ds.countP fun d => decide (d.interface = interface ∧ d.WrongType)
  length : (ds.foldl socket.receive services service).statsPacketLengthErrors =
    (services service).statsPacketLengthErrors + ds.countP fun d =>
      decide (d.interface = interface ∧ (d.Short ∨ d.Incomplete virtualRouterId))

theorem accounted_iff {socket : VrrpSocket ι} (family : socket.family = .inet) {service : ι}
    {interface : Int} {virtualRouterId : UInt8}
    (serves : socket.Serves service interface virtualRouterId) (services : ι → VrrpService)
    (ds : List Datagram) :
    socket.Accounted services ds service interface virtualRouterId ↔
      ∀ d ∈ ds, d.interface = interface → ¬ d.WrongTtl virtualRouterId := by
  have after := run_discards family serves services ds
  simp only [VrrpService.discards, Prod.mk.injEq] at after
  have uncounted : socket.Accounted services ds service interface virtualRouterId ↔
      ds.countP (fun d => decide (d.interface = interface ∧ d.WrongTtl virtualRouterId)) = 0 := by
    refine ⟨fun accounted => ?_, fun zero => ⟨?_, after.2.1, after.2.2⟩⟩
    · have ttl := accounted.ttl
      omega
    · omega
  rw [uncounted, List.countP_eq_zero]
  simp only [decide_eq_true_eq, not_and]

/-- For services that are registered for one interface and router id each: after every run of
datagrams every counter is right if and only if none of them passes the checks up to the type
and is addressed to a registered service with a TTL other than 255. -/
theorem discards_accounted_iff (socket : VrrpSocket ι) (family : socket.family = .inet)
    (once : ∀ service i v j w, Nested.find socket.listeners i v = some service →
      Nested.find socket.listeners j w = some service → i = j ∧ v = w)
    (services : ι → VrrpService) (ds : List Datagram) :
    (∀ service interface virtualRouterId,
      Nested.find socket.listeners interface virtualRouterId = some service →
        socket.Accounted services ds service interface virtualRouterId) ↔
    ∀ d ∈ ds, ∀ virtualRouterId service,
      Nested.find socket.listeners d.interface virtualRouterId = some service →
        ¬ d.WrongTtl virtualRouterId := by
  have serves : ∀ {service interface virtualRouterId},
      Nested.find socket.listeners interface virtualRouterId = some service →
        socket.Serves service interface virtualRouterId := fun registered =>
    ⟨registered, fun _ _ other => once _ _ _ _ _ other registered⟩
  constructor
  · intro accounted d received virtualRouterId service registered
    have all := (accounted_iff family (serves registered) services ds).mp
      (accounted service d.interface virtualRouterId registered)
    exact all d received rfl
  · intro right service interface virtualRouterId registered
    apply (accounted_iff family (serves registered) services ds).mpr
    rintro d received rfl
    exact right d received virtualRouterId service registered

/-- An advertisement that a router has forwarded: its TTL is 64. -/
def forwarded : Datagram where
  buffer
    | 0 => 0x45
    | 3 => 28
    | 8 => 64
    | 20 => 0x31
    | 21 => 51
    | 22 => 100
    | 25 => 100
    | 26 => 0xC7
    | 27 => 0xDB
    | _ => 0
  interface := 2
  srcAddress := .sample 1
  dstAddress := multicastAddress .inet

theorem listening_once (i v j w) (first : Nested.find listening.listeners i v = some ())
    (second : Nested.find listening.listeners j w = some ()) : i = j ∧ v = w := by
  have only : ∀ {i v}, Nested.find listening.listeners i v = some () → i = 2 ∧ v = 51 := by
    intro i v found
    by_contra other
    have elsewhere : (2 : Int) = i → (51 : UInt8) ≠ v := by
      intro here same
      exact other ⟨here.symm, same.symm⟩
    rw [listening, Nested.find_put_other _ _ elsewhere] at found
    cases found
  obtain ⟨rfl, rfl⟩ := only first
  obtain ⟨rfl, rfl⟩ := only second
  exact ⟨rfl, rfl⟩

theorem forwarded_wrongTtl : forwarded.WrongTtl 51 := by decide +kernel

theorem discards_accounted_sample :
    listening.Accounted (fun _ => .sample 1) [claiming 0 27] () 2 51 :=
  (discards_accounted_iff listening rfl (fun _ => listening_once) _ [claiming 0 27]).mpr
    (fun d received v _ _ => by
      rw [List.mem_singleton.mp received]
      exact fun wrong => absurd wrong.1.1.1 (by decide)) () 2 51 (Nested.find_put_self ..)

/-- The forwarded advertisement is discarded and counted nowhere. -/
theorem forwarded_uncounted :
    Nested.find listening.listeners 2 51 = some () ∧
    ¬ listening.Accounted (fun _ => .sample 1) [forwarded] () 2 51 := by
  refine ⟨Nested.find_put_self .., ?_⟩
  intro accounted
  have stored : Nested.find listening.listeners 2 51 = some () := Nested.find_put_self ..
  have serves : listening.Serves () 2 51 :=
    ⟨stored, fun _ _ other => listening_once _ _ _ _ other stored⟩
  exact (accounted_iff rfl serves _ [forwarded]).mp accounted forwarded
    (List.mem_singleton_self _) rfl forwarded_wrongTtl

end VrrpSocket

end OpenVrrp
