import OpenVrrp.Network.Election
import OpenVrrp.Manager
import OpenVrrp.Socket.Telling

/-! The election on the wire. What a router says is a frame that sendPacket built, and what it
hears passed onSocketPacket. Frames are lost, repeated, late and out of order, one byte of a frame
may be damaged, and datagrams of any content come from further away or for other routers. -/
namespace OpenVrrp

structure Frame (ι : Type) where
  sender : ι
  source : IpAddress
  payload : List UInt8

/-- The members of one virtual router, each with the socket that it shares with other services
of its host. -/
structure Lan (ι : Type) where
  family : Family
  virtualRouterId : UInt8
  sockets : ι → VrrpSocket RouterKey

structure Traffic (ι : Type) where
  services : ι → VrrpService
  wire : List (Frame ι)
  wasMaster : List ι

namespace Lan

variable {ι : Type} (lan : Lan ι)

/-- m_buffer holds anything before the packet is built in it. -/
def frameOf (scratch : Memory.Cells) (i : ι) : Effect → Option (Frame ι)
  | .sendPacket _ address virtualRouterId priority interval addresses =>
    ((lan.sockets i).sendPacket scratch address virtualRouterId priority interval addresses).map
      fun packet => ⟨i, address, Memory.slice packet.buffer 0 packet.size⟩
  | _ => none

section Model
variable [DecidableEq ι]

def act (scratch : Memory.Cells) (i : ι) (n : Traffic ι) (e : Event) : Traffic ι :=
  let outcome := (n.services i).step e
  { services := Function.update n.services i outcome.1
    wire := n.wire ++ outcome.2.filterMap (lan.frameOf scratch i)
    wasMaster := if outcome.1.state = .master then i :: n.wasMaster else n.wasMaster }

/-- What the service of a router is told of a datagram. -/
def told (n : Traffic ι) (i : ι) (d : Datagram) : List Event :=
  match ((lan.sockets i).onSocketPacket d).value with
  | none => []
  | some handled =>
    (handled.calls.filter fun call => call.listener = (n.services i).key).map Call.event

def hear (scratch : Memory.Cells) (n : Traffic ι) (i : ι) (d : Datagram) : Traffic ι :=
  (lan.told n i d).foldl (lan.act scratch i) n

/-- What can arrive while these frames are on the wire. -/
inductive Arrives (wire : List (Frame ι)) (d : Datagram) : Prop where
  | whole (frame : Frame ι) (sent : frame ∈ wire) (source : d.srcAddress = frame.source)
      (destination : d.dstAddress = multicastAddress lan.family)
      (carries : VrrpSocket.Carries lan.family d.buffer frame.payload)
  | damaged (frame : Frame ι) (sent : frame ∈ wire) (source : d.srcAddress = frame.source)
      (destination : d.dstAddress = multicastAddress lan.family) (place : Nat)
      (inside : place < frame.payload.length) (b : UInt8)
      (other : frame.payload[place]? ≠ some b) (short : frame.payload.length ≤ packetCapacity)
      (arrives : VrrpSocket.Arrives lan.family d.buffer (frame.payload.set place b))
  | far {start : Nat} {size : Int} {ttl : UInt8}
      (header : (VrrpSocket.readHeader lan.family d.buffer).value = some (start, size, ttl))
      (hops : ttl ≠ 255)
  | foreign {start : Nat} {size : Int} {ttl : UInt8}
      (header : (VrrpSocket.readHeader lan.family d.buffer).value = some (start, size, ttl))
      (router : d.buffer (start + 1) ≠ lan.virtualRouterId)

inductive Step : Traffic ι → Traffic ι → Prop where
  | enable (n : Traffic ι) (i : ι) (scratch : Memory.Cells) :
      Step n (lan.act scratch i n (.enable true))
  | masterDown (n : Traffic ι) (i : ι) (scratch : Memory.Cells) :
      Step n (lan.act scratch i n .masterDownExpiry)
  | advertisement (n : Traffic ι) (i : ι) (scratch : Memory.Cells) :
      Step n (lan.act scratch i n .advertisementExpiry)
  | hear (n : Traffic ι) (i : ι) (scratch : Memory.Cells) (d : Datagram)
      (arrives : lan.Arrives n.wire d) : Step n (lan.hear scratch n i d)

def initial (routers : ι → VrrpService) : Traffic ι := ⟨routers, [], []⟩

def Reachable (routers : ι → VrrpService) : Traffic ι → Prop :=
  Relation.ReflTransGen lan.Step (initial routers)

end Model

/-- Disabled routers of one group, each with an address of its own and a count of addresses
that fits its byte. A service is registered under its router id. -/
structure Proper (routers : ι → VrrpService) : Prop where
  known : lan.family ≠ .unspec
  family : ∀ i, (lan.sockets i).family = lan.family
  group : ∀ i, (routers i).virtualRouterId = lan.virtualRouterId
  registered : ∀ i interface virtualRouterId,
    Nested.find (lan.sockets i).listeners interface virtualRouterId = some (routers i).key →
      virtualRouterId = lan.virtualRouterId
  few : ∀ i, (routers i).addresses.size ≤ 255
  disabled : ∀ i, (routers i).state = .disabled
  distinct : Function.Injective fun i => (routers i).primaryIpAddress

/-! ### What is on the wire -/

/-- The frame is an advertisement of its sender. -/
def Speaks (routers : ι → VrrpService) (frame : Frame ι) : Prop :=
  ∃ scratch packet, (lan.sockets frame.sender).sendPacket scratch
      (routers frame.sender).primaryIpAddress (routers frame.sender).virtualRouterId
      (routers frame.sender).priority.1 (routers frame.sender).advertisementInterval.value
      (routers frame.sender).addresses = some packet ∧
    frame.source = (routers frame.sender).primaryIpAddress ∧
    frame.payload = Memory.slice packet.buffer 0 packet.size

structure Faithful (routers : ι → VrrpService) (n : Traffic ι) : Prop where
  configured : ∀ i, (n.services i).configured = (routers i).configured
  sent : ∀ frame ∈ n.wire, frame.sender ∈ n.wasMaster ∧ lan.Speaks routers frame

/-- What makes a service act: the link, a timer, an error or an advertisement on the wire. -/
inductive Cause (routers : ι → VrrpService) (wire : List (Frame ι)) : Event → Prop where
  | timer {e : Event} (electing : Electing e)
      (silent : ∀ address priority interval addresses,
        e ≠ .incomingPacket address priority interval addresses) : Cause routers wire e
  | error (error : ListenerError) : Cause routers wire (.incomingError error)
  | heard {frame : Frame ι} (sent : frame ∈ wire) {address : IpAddress} {priority : UInt8}
      {interval : WireInterval} {addresses : List IpAddress}
      (source : address = (routers frame.sender).primaryIpAddress)
      (rank : priority = (routers frame.sender).priority.1) :
      Cause routers wire (.incomingPacket address priority interval addresses)

theorem elected_error (s : VrrpService) (error : ListenerError) :
    VrrpService.Elected s (s.step (.incomingError error)).1 (s.step (.incomingError error)).2
      (.incomingError error) := by
  have same : (s.step (.incomingError error)).1.state = s.state ∧
      (s.step (.incomingError error)).1.priority = s.priority ∧
      (s.step (.incomingError error)).1.primaryIpAddress = s.primaryIpAddress := by
    cases error <;> exact ⟨rfl, rfl, rfl⟩
  refine ⟨same.2.1, same.2.2, fun x said => absurd said List.not_mem_nil, fun master left => ?_⟩
  exact absurd (same.1.trans master) left

variable {lan} {routers : ι → VrrpService}

theorem Cause.elected {wire : List (Frame ι)} {e : Event} (cause : Cause routers wire e)
    (s : VrrpService) : VrrpService.Elected s (s.step e).1 (s.step e).2 e := by
  cases cause with
  | timer electing => exact s.step_elected electing
  | error error => exact elected_error s error
  | @heard frame sent _ _ _ _ source rank =>
    refine s.step_elected (.incoming _ _ _ _ ?_)
    rw [rank]
    exact (routers frame.sender).priority.2

theorem Cause.setter {wire : List (Frame ι)} {e : Event} (cause : Cause routers wire e) :
    ¬ e.Setter := by
  cases cause with
  | timer electing =>
    cases electing <;> exact id
  | error | heard => exact id

theorem Cause.mono {wire more : List (Frame ι)} {e : Event} (cause : Cause routers wire e)
    (grows : ∀ frame ∈ wire, frame ∈ more) : Cause routers more e := by
  cases cause with
  | timer electing silent => exact .timer electing silent
  | error error => exact .error error
  | heard sent source rank => exact .heard (grows _ sent) source rank

theorem Faithful.field {n : Traffic ι} (faithful : lan.Faithful routers n) (i : ι) {α : Type}
    (field : VrrpService → α) : field (n.services i).configured = field (routers i).configured :=
  congrArg field (faithful.configured i)

theorem mem_frames {scratch : Memory.Cells} {i : ι} {effects : List Effect} {frame : Frame ι}
    (sent : frame ∈ effects.filterMap (lan.frameOf scratch i)) :
    ∃ x ∈ advertised effects, lan.frameOf scratch i x = some frame := by
  obtain ⟨x, requested, made⟩ := List.mem_filterMap.mp sent
  refine ⟨x, List.mem_filter.mpr ⟨requested, ?_⟩, made⟩
  cases x <;> first | rfl | cases made

theorem frameOf_sendAdvertisement {n : Traffic ι} (faithful : lan.Faithful routers n)
    {scratch : Memory.Cells} {i : ι} {frame : Frame ι}
    (made : lan.frameOf scratch i
      ((n.services i).sendAdvertisement (n.services i).priority.1) = some frame) :
    frame.sender = i ∧ lan.Speaks routers frame := by
  obtain ⟨packet, sent, rfl⟩ := Option.map_eq_some_iff.mp made
  have primary : (n.services i).primaryIpAddress = (routers i).primaryIpAddress :=
    faithful.field i VrrpService.primaryIpAddress
  have router : (n.services i).virtualRouterId = (routers i).virtualRouterId :=
    faithful.field i VrrpService.virtualRouterId
  have priority : (n.services i).priority = (routers i).priority :=
    faithful.field i VrrpService.priority
  have interval : (n.services i).advertisementInterval = (routers i).advertisementInterval :=
    faithful.field i VrrpService.advertisementInterval
  have addresses : (n.services i).addresses = (routers i).addresses :=
    faithful.field i VrrpService.addresses
  rw [primary, router, priority, interval, addresses] at sent
  exact ⟨rfl, scratch, packet, sent, primary, rfl⟩

section Acting
variable [DecidableEq ι] {n : Traffic ι} {scratch : Memory.Cells} {i : ι} {e : Event}

theorem act_self (n : Traffic ι) : (lan.act scratch i n e).services i = ((n.services i).step e).1 :=
  Function.update_self ..

theorem act_other (n : Traffic ι) {j : ι} (other : j ≠ i) :
    (lan.act scratch i n e).services j = n.services j := Function.update_of_ne other ..

theorem mem_wasMaster_act (n : Traffic ι) (j : ι) : j ∈ (lan.act scratch i n e).wasMaster ↔
    j ∈ n.wasMaster ∨ (j = i ∧ ((lan.act scratch i n e).services i).state = .master) := by
  rw [act_self]
  simp only [act]
  split <;> rename_i entered <;> simp [entered, or_comm]

theorem act_wire (n : Traffic ι) :
    ∀ frame ∈ n.wire, frame ∈ (lan.act scratch i n e).wire :=
  fun _ sent => List.mem_append_left _ sent

theorem act_faithful (faithful : lan.Faithful routers n) (cause : Cause routers n.wire e) :
    lan.Faithful routers (lan.act scratch i n e) where
  configured := by
    intro j
    by_cases self : j = i
    · rw [self, act_self, (n.services i).step_configured cause.setter, faithful.configured]
    · rw [act_other n self, faithful.configured]
  sent := by
    intro frame sent
    rcases List.mem_append.mp sent with before | now
    · have earlier := faithful.sent frame before
      exact ⟨(mem_wasMaster_act n _).mpr (.inl earlier.1), earlier.2⟩
    · obtain ⟨x, said, made⟩ := mem_frames now
      obtain ⟨rfl, master⟩ := (cause.elected (n.services i)).speaks x said
      obtain ⟨sender, speaks⟩ := frameOf_sendAdvertisement faithful made
      refine ⟨(mem_wasMaster_act n _).mpr (.inr ⟨sender, ?_⟩), speaks⟩
      rw [act_self]
      exact master

theorem act_deposed (faithful : lan.Faithful routers n) {wire : List (Frame ι)}
    (cause : Cause routers wire e) {j : ι} (master : (n.services j).state = .master)
    (left : ((lan.act scratch i n e).services j).state ≠ .master) :
    ∃ frame ∈ wire, (routers j).rank < (routers frame.sender).rank := by
  have self : j = i := by
    by_contra other
    rw [act_other n other] at left
    exact left master
  subst self
  rw [act_self] at left
  obtain ⟨address, priority, interval, addresses, rfl, outranked⟩ :=
    (cause.elected (n.services j)).leaves master left
  cases cause with
  | timer _ silent => exact absurd rfl (silent _ _ _ _)
  | @heard frame sent _ _ _ _ source rank =>
    refine ⟨frame, sent, ?_⟩
    have primary : (n.services j).primaryIpAddress = (routers j).primaryIpAddress :=
      faithful.field j VrrpService.primaryIpAddress
    have own : (n.services j).priority = (routers j).priority :=
      faithful.field j VrrpService.priority
    rw [VrrpService.outranked_iff, own, primary, source, rank] at outranked
    simp only [VrrpService.rank, Prod.Lex.toLex_lt_toLex]
    rcases outranked with higher | ⟨same, later⟩
    · exact .inl (UInt8.lt_iff_toNat_lt.mp higher)
    · exact .inr ⟨by rw [same], later⟩

end Acting

end Lan

def Traffic.ballot {ι : Type} (n : Traffic ι) : Election.Ballot ι :=
  ⟨{i | (n.services i).state = .master}, {i | i ∈ n.wasMaster}⟩

namespace Lan

variable {ι : Type} [DecidableEq ι] {lan : Lan ι} {routers : ι → VrrpService}

theorem act_ballot {n : Traffic ι} {scratch : Memory.Cells} {i : ι} {e : Event}
    (faithful : lan.Faithful routers n) (cause : Cause routers n.wire e) :
    Election.Step (fun i => (routers i).rank) n.ballot (lan.act scratch i n e).ballot := by
  refine Election.step_of_actor i (fun j other => ?_) (fun j => mem_wasMaster_act n j)
    fun master left => ?_
  · change ((lan.act scratch i n e).services j).state = .master ↔ (n.services j).state = .master
    rw [act_other n other]
  · obtain ⟨frame, sent, higher⟩ := act_deposed faithful cause master left
    exact ⟨frame.sender, (faithful.sent frame sent).1, higher⟩

omit [DecidableEq ι] in
theorem service_key {n : Traffic ι} (faithful : lan.Faithful routers n) (i : ι) :
    (n.services i).key = (routers i).key :=
  faithful.field i VrrpService.key

omit [DecidableEq ι] in
/-- Whatever arrives, the service hears errors, and advertisements as their senders sent them. -/
theorem told_cause {n : Traffic ι} {i : ι} {d : Datagram} (proper : lan.Proper routers)
    (faithful : lan.Faithful routers n) (arrives : lan.Arrives n.wire d) :
    ∀ e ∈ lan.told n i d, Cause routers n.wire e := by
  intro e inside
  unfold told at inside
  split at inside
  · cases inside
  rename_i handled result
  obtain ⟨call, found, rfl⟩ := List.mem_map.mp inside
  obtain ⟨inside, mine⟩ := List.mem_filter.mp found
  obtain ⟨listeners, start, size, ttl, outer, header, tells⟩ :=
    VrrpSocket.onSocketPacket_tells result call inside
  rw [proper.family] at header
  cases tells with
  | error => exact .error _
  | @packet listener interval addresses registered near verified =>
    cases arrives with
    | whole frame sent source _ carries =>
      obtain ⟨scratch, packet, built, own, payload⟩ := (faithful.sent frame sent).2
      obtain ⟨place, front, bytes, _⟩ := VrrpSocket.readHeader_carries carries
      cases header.symm.trans front
      obtain ⟨_, _, _, _, _, image⟩ := VrrpSocket.sent_bytes
        ((proper.family frame.sender).symm ▸ proper.known) built (proper.few frame.sender)
      rw [payload, Memory.slice_length, image] at bytes
      refine .heard sent (source.trans own) ?_
      exact Memory.slice_prefix bytes 2 (by simp [VrrpSocket.packetHeader])
    | damaged frame sent source destination place inside b other short arrives =>
      obtain ⟨scratch, packet, built, own, payload⟩ := (faithful.sent frame sent).2
      obtain ⟨first, front, bytes⟩ :=
        VrrpSocket.readHeader_arrives arrives (by rwa [List.length_set])
      cases header.symm.trans front
      have size : frame.payload.length = packet.size := by rw [payload, Memory.slice_length]
      rw [List.length_set, size] at verified
      rw [List.length_set, size, payload] at bytes
      rw [size] at inside short
      rw [payload, Memory.slice_getElem? _ _ _ _ inside, Nat.zero_add] at other
      refine absurd verified (VrrpSocket.verifyChecksum_damaged
        ((proper.family frame.sender).symm ▸ proper.known) built short inside
        (fun same => other (congrArg some same.symm)) (source.trans own) ?_ bytes)
      rw [proper.family, destination]
    | far front hops =>
      cases header.symm.trans front
      exact absurd near hops
    | foreign front router =>
      cases header.symm.trans front
      have key : listener = (routers i).key :=
        (of_decide_eq_true mine).trans (service_key faithful i)
      refine absurd (proper.registered i d.interface _ ?_) router
      rw [VrrpSocket.find_eq outer, registered, key]

/-- What a router does with what it hears while these frames are on the wire. -/
structure Worked (lan : Lan ι) (routers : ι → VrrpService) (n t : Traffic ι) : Prop where
  faithful : lan.Faithful routers t
  grows : ∀ frame ∈ n.wire, frame ∈ t.wire
  election : Relation.ReflTransGen (Election.Step fun i => (routers i).rank) n.ballot t.ballot
  deposed : ∀ i, (n.services i).state = .master → (t.services i).state ≠ .master →
    ∃ frame ∈ n.wire, (routers i).rank < (routers frame.sender).rank

omit [DecidableEq ι] in
theorem worked_refl {n : Traffic ι} (faithful : lan.Faithful routers n) :
    Worked lan routers n n :=
  ⟨faithful, fun _ sent => sent, .refl, fun _ master left => absurd master left⟩

theorem worked_act {n t : Traffic ι} (worked : Worked lan routers n t) {e : Event}
    (cause : Cause routers n.wire e) (scratch : Memory.Cells) (i : ι) :
    Worked lan routers n (lan.act scratch i t e) where
  faithful := act_faithful worked.faithful (cause.mono worked.grows)
  grows := fun frame sent => act_wire t frame (worked.grows frame sent)
  election := worked.election.tail (act_ballot worked.faithful (cause.mono worked.grows))
  deposed := by
    intro j master left
    by_cases still : (t.services j).state = .master
    · exact act_deposed worked.faithful cause still left
    · exact worked.deposed j master still

theorem worked_fold {n : Traffic ι} {events : List Event} (faithful : lan.Faithful routers n)
    (causes : ∀ e ∈ events, Cause routers n.wire e) (scratch : Memory.Cells) (i : ι) :
    Worked lan routers n (events.foldl (lan.act scratch i) n) :=
  Runs.foldl_keeps (Worked lan routers n) events
    (fun _ e inside worked => worked_act worked (causes e inside) scratch i) (worked_refl faithful)

/-- A step is one router acting on causes. -/
theorem step_worked {n t : Traffic ι} (proper : lan.Proper routers)
    (faithful : lan.Faithful routers n) (step : lan.Step n t) : Worked lan routers n t := by
  cases step with
  | enable i scratch =>
    exact worked_act (worked_refl faithful)
      (.timer .enable fun _ _ _ _ same => Event.noConfusion same) scratch i
  | masterDown i scratch =>
    exact worked_act (worked_refl faithful)
      (.timer .masterDown fun _ _ _ _ same => Event.noConfusion same) scratch i
  | advertisement i scratch =>
    exact worked_act (worked_refl faithful)
      (.timer .advertisement fun _ _ _ _ same => Event.noConfusion same) scratch i
  | hear i scratch d arrives =>
    exact worked_fold faithful (told_cause proper faithful arrives) scratch i

omit [DecidableEq ι] in
theorem initial_faithful (routers : ι → VrrpService) : lan.Faithful routers (initial routers) :=
  ⟨fun _ => rfl, fun _ sent => absurd sent List.not_mem_nil⟩

theorem reachable_election {n : Traffic ι} (proper : lan.Proper routers)
    (reached : lan.Reachable routers n) : lan.Faithful routers n ∧
      Election.Reachable (fun i => (routers i).rank) n.ballot := by
  have nobody : (initial routers).ballot = Election.start := by
    ext i <;> simp [Traffic.ballot, initial, Election.start, proper.disabled]
  have worked : ∀ s t : Traffic ι, lan.Faithful routers s → lan.Step s t →
      Worked lan routers s t := fun _ _ faithful step => step_worked proper faithful step
  exact Election.simulates_runs Traffic.ballot
    (fun s t faithful step => (worked s t faithful step).faithful)
    (fun s t faithful step => (worked s t faithful step).election) nobody
    (initial_faithful routers) reached

/-- Whatever the LAN does to the frames, the best of those that have been Master is Master, and
nobody leaves Master but for a frame of somebody better. -/
theorem wire_election_safety (lan : Lan ι) (routers : ι → VrrpService)
    (proper : lan.Proper routers) (n : Traffic ι) (reached : lan.Reachable routers n) :
    (n.wasMaster ≠ [] → ∃ i ∈ n.wasMaster, (n.services i).state = .master ∧
      ∀ j ∈ n.wasMaster, j ≠ i → (routers j).rank < (routers i).rank) ∧
    ∀ t, lan.Step n t → ∀ i, (n.services i).state = .master → (t.services i).state ≠ .master →
      ∃ frame ∈ n.wire, (routers i).rank < (routers frame.sender).rank := by
  obtain ⟨faithful, election⟩ := reachable_election proper reached
  refine ⟨fun some => ?_, fun t step => (step_worked proper faithful step).deposed⟩
  obtain ⟨k, was⟩ := List.exists_mem_of_ne_nil _ some
  obtain ⟨i, candidate, holds, best⟩ := Election.best_holds election ⟨k, was⟩
  refine ⟨i, candidate, holds, fun j earlier other => ?_⟩
  exact lt_of_le_of_ne (best j earlier) fun same =>
    other (Network.rank_injective proper.distinct same)

/-! Two owners of the addresses that both come up. -/

def sampleLan : Lan Bool where
  family := .inet
  virtualRouterId := 51
  sockets := fun second => ⟨.inet, Nested.put ∅ 2 51 (Network.samplePair second).key, ∅⟩

theorem sampleProper : sampleLan.Proper Network.samplePair where
  known := by decide
  family := fun _ => rfl
  group := fun i => by cases i <;> rfl
  registered := by
    intro i interface virtualRouterId found
    by_contra other
    have absent : Nested.find (∅ : Nested.Registry Int UInt8 RouterKey) interface virtualRouterId =
        none := by simp [Nested.find]
    change ¬ virtualRouterId = 51 at other
    change Nested.find (Nested.put ∅ 2 51 (Network.samplePair i).key) interface virtualRouterId =
      some _ at found
    rw [Nested.find_put_other _ _ fun _ same => other same.symm, absent] at found
    cases found
  few := fun i => by cases i <;> decide
  disabled := fun i => by cases i <;> rfl
  distinct := fun i j same => by cases i <;> cases j <;> first | rfl | exact absurd same (by decide)

def bothMasters : Traffic Bool :=
  sampleLan.act (fun _ => 0) true (sampleLan.act (fun _ => 0) false
    (initial Network.samplePair) (.enable true)) (.enable true)

theorem bothMasters_reachable : sampleLan.Reachable Network.samplePair bothMasters :=
  .tail (.single (.enable _ false _)) (.enable _ true _)

theorem wire_election_safety_pair : ∃ i ∈ bothMasters.wasMaster,
    (bothMasters.services i).state = .master ∧
      ∀ j ∈ bothMasters.wasMaster, j ≠ i →
        (Network.samplePair j).rank < (Network.samplePair i).rank :=
  (wire_election_safety sampleLan Network.samplePair sampleProper bothMasters
    bothMasters_reachable).1 (by decide)

end Lan

end OpenVrrp
