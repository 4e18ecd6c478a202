import OpenVrrp.Network.Lan

/-! How a disagreement ends. Everybody who became Master said so, and one frame of the best of
them silences the others, in whatever order it reaches them. -/
namespace OpenVrrp

namespace VrrpService

/-- Who becomes Master advertises it. -/
theorem step_claims (s : VrrpService) {e : Event} (before : s.state ≠ .master)
    (after : (s.step e).1.state = .master) :
    s.sendAdvertisement s.priority.1 ∈ advertised (s.step e).2 := by
  obtain ⟨t, reason, same, becomes⟩ := step_enters ((enters_iff before).mp after)
  have other : t.state ≠ .master := by rcases same with rfl | rfl <;> exact before
  have said : t.sendAdvertisement t.priority.1 = s.sendAdvertisement s.priority.1 := by
    rcases same with rfl | rfl <;> rfl
  rw [becomes, advertised_becomeMaster t reason other, said]
  exact List.mem_singleton_self _

/-- An advertisement of somebody better leaves no Master behind. -/
theorem packet_silences (s : VrrpService) {address : IpAddress} {priority : UInt8}
    (nonzero : priority ≠ 0)
    (beaten : s.state = .master → s.outranked address priority = true) (interval : WireInterval)
    (addresses : List IpAddress) :
    (s.step (.incomingPacket address priority interval addresses)).1.state ≠ .master := by
  have reacts := s.packet_reaction address interval addresses priority
  change (s.onIncomingVrrpPacket address priority interval addresses).1.state ≠ .master
  generalize s.onIncomingVrrpPacket address priority interval addresses = u at reacts
  cases reacts with
  | stopped backup | refresh backup | preempted backup =>
    intro master
    cases (backup : s.state = .backup).symm.trans master
  | remind _ zero => exact absurd zero nonzero
  | yield =>
    rw [yield_fst]
    intro master
    cases master
  | lower master _ stays => exact absurd (beaten master) (by rw [stays]; exact Bool.false_ne_true)
  | idle _ other => exact other

end VrrpService

namespace Lan

variable {ι : Type} {lan : Lan ι} {routers : ι → VrrpService}

/-- The addresses of the routers are of the family of the LAN. -/
structure OwnFamily (lan : Lan ι) (routers : ι → VrrpService) : Prop where
  primary : ∀ i, (routers i).primaryIpAddress.family = lan.family
  addresses : ∀ i, ∀ a ∈ (routers i).addresses, a.family = lan.family

theorem frameOf_own {n : Traffic ι} (proper : lan.Proper routers) (own : lan.OwnFamily routers)
    (faithful : lan.Faithful routers n) (scratch : Memory.Cells) (i : ι) :
    ∃ frame, lan.frameOf scratch i
      ((n.services i).sendAdvertisement (n.services i).priority.1) = some frame ∧
      frame.sender = i := by
  have addresses : (n.services i).addresses = (routers i).addresses :=
    faithful.field i VrrpService.addresses
  have primary : (n.services i).primaryIpAddress = (routers i).primaryIpAddress :=
    faithful.field i VrrpService.primaryIpAddress
  have few : (n.services i).addresses.size ≤ 255 := addresses ▸ proper.few i
  have small := Nat.mul_le_mul few (familySize_le (lan.sockets i).family)
  have from_own : (n.services i).primaryIpAddress.family = (lan.sockets i).family :=
    primary ▸ (own.primary i).trans (proper.family i).symm
  have same : ∀ a ∈ (n.services i).addresses.toList, a.family = (lan.sockets i).family := by
    intro a inside
    rw [Std.TreeSet.mem_toList, addresses] at inside
    exact (own.addresses i a inside).trans (proper.family i).symm
  obtain ⟨packet, _, sent, _⟩ := VrrpSocket.sendPacket_slice (lan.sockets i) scratch
    (n.services i).virtualRouterId (n.services i).priority.1
    (n.services i).advertisementInterval.value ((proper.family i).symm ▸ proper.known)
    from_own same (by omega)
  exact ⟨_, congrArg (Option.map _) sent, rfl⟩

/-- A Master has been Master, and everybody who has been has a frame on the wire. -/
structure Announced (n : Traffic ι) : Prop where
  held : ∀ i, (n.services i).state = .master → i ∈ n.wasMaster
  said : ∀ i ∈ n.wasMaster, ∃ frame ∈ n.wire, frame.sender = i

variable [DecidableEq ι]

theorem act_announced {n : Traffic ι} (proper : lan.Proper routers)
    (own : lan.OwnFamily routers) (faithful : lan.Faithful routers n) (announced : Announced n)
    (scratch : Memory.Cells) (i : ι) (e : Event) : Announced (lan.act scratch i n e) where
  held := by
    intro j master
    rw [mem_wasMaster_act]
    by_cases self : j = i
    · subst self
      exact .inr ⟨rfl, master⟩
    · rw [act_other n self] at master
      exact .inl (announced.held j master)
  said := by
    have before : ∀ j ∈ n.wasMaster, ∃ frame ∈ (lan.act scratch i n e).wire, frame.sender = j := by
      intro j was
      obtain ⟨frame, sent, sender⟩ := announced.said j was
      exact ⟨frame, act_wire n frame sent, sender⟩
    intro j was
    rcases (mem_wasMaster_act n j).mp was with earlier | ⟨rfl, master⟩
    · exact before j earlier
    by_cases already : (n.services j).state = .master
    · exact before j (announced.held j already)
    · rw [act_self] at master
      obtain ⟨frame, made, sender⟩ := frameOf_own proper own faithful scratch j
      have claims := List.mem_of_mem_filter ((n.services j).step_claims already master)
      exact ⟨frame, List.mem_append_right _ (List.mem_filterMap.mpr ⟨_, claims, made⟩), sender⟩

theorem fold_announced {n : Traffic ι} {events : List Event} (proper : lan.Proper routers)
    (own : lan.OwnFamily routers) (faithful : lan.Faithful routers n) (announced : Announced n)
    (causes : ∀ e ∈ events, Cause routers n.wire e) (scratch : Memory.Cells) (i : ι) :
    Announced (events.foldl (lan.act scratch i) n) :=
  (Runs.foldl_keeps (fun t => Worked lan routers n t ∧ Announced t) events
    (fun _ e inside held => ⟨worked_act held.1 (causes e inside) scratch i,
      act_announced proper own held.1.faithful held.2 scratch i e⟩)
    ⟨worked_refl faithful, announced⟩).2

theorem step_announced {n t : Traffic ι} (proper : lan.Proper routers)
    (own : lan.OwnFamily routers) (faithful : lan.Faithful routers n) (announced : Announced n)
    (step : lan.Step n t) : Announced t := by
  cases step with
  | enable i scratch | masterDown i scratch | advertisement i scratch =>
    exact act_announced proper own faithful announced scratch i _
  | hear i scratch d arrives =>
    exact fold_announced proper own faithful announced (told_cause proper faithful arrives)
      scratch i

theorem reachable_announced {n : Traffic ι} (proper : lan.Proper routers)
    (own : lan.OwnFamily routers) (reached : lan.Reachable routers n) : Announced n := by
  induction reached with
  | refl =>
    refine ⟨fun i master => ?_, fun _ was => absurd was List.not_mem_nil⟩
    cases (proper.disabled i).symm.trans master
  | tail before step ih =>
    exact step_announced proper own (reachable_election proper before).1 ih step

/-! ### One frame -/

/-- The datagram brings the frame to a socket where the service of the router is registered. -/
structure Delivers (lan : Lan ι) (routers : ι → VrrpService) (frame : Frame ι) (i : ι)
    (d : Datagram) : Prop where
  source : d.srcAddress = frame.source
  destination : d.dstAddress = multicastAddress lan.family
  carries : VrrpSocket.Carries lan.family d.buffer frame.payload
  registered : Nested.find (lan.sockets i).listeners d.interface lan.virtualRouterId =
    some (routers i).key

omit [DecidableEq ι] in
theorem told_frame {n : Traffic ι} (proper : lan.Proper routers)
    (faithful : lan.Faithful routers n) {frame : Frame ι} (sent : frame ∈ n.wire) {i : ι}
    {d : Datagram} (delivers : Delivers lan routers frame i d) :
    lan.told n i d =
      [.incomingPacket (routers frame.sender).primaryIpAddress (routers frame.sender).priority.1
        (routers frame.sender).advertisementInterval.toWire
        (routers frame.sender).addresses.toList] := by
  obtain ⟨scratch, packet, built, own, payload⟩ := (faithful.sent frame sent).2
  have family := proper.family frame.sender
  have peer : (lan.sockets i).family = (lan.sockets frame.sender).family :=
    (proper.family i).trans family.symm
  have carries : VrrpSocket.Carries (lan.sockets frame.sender).family d.buffer
      (Memory.slice packet.buffer 0 packet.size) := by
    rw [family, ← payload]
    exact delivers.carries
  have result := VrrpSocket.onSocketPacket_sent (family.symm ▸ proper.known) peer built
    (routers frame.sender).advertisementInterval.bounded (proper.few frame.sender)
    (delivers.source.trans own) (family.symm ▸ delivers.destination) carries
    ((proper.group frame.sender).symm ▸ delivers.registered)
  rw [told, result]
  dsimp only
  rw [List.filter_cons_of_pos (by exact decide_eq_true (service_key faithful i).symm)]
  rfl

theorem hear_frame {n : Traffic ι} (proper : lan.Proper routers)
    (faithful : lan.Faithful routers n) {frame : Frame ι} (sent : frame ∈ n.wire) {i : ι}
    {d : Datagram} (delivers : Delivers lan routers frame i d)
    (beaten : (n.services i).state = .master →
      (routers i).rank < (routers frame.sender).rank) (scratch : Memory.Cells) :
    ((lan.hear scratch n i d).services i).state ≠ .master ∧
      ∀ j, j ≠ i → (lan.hear scratch n i d).services j = n.services j := by
  rw [hear, told_frame proper faithful sent delivers, List.foldl_cons, List.foldl_nil]
  refine ⟨?_, fun j other => act_other n other⟩
  rw [act_self]
  refine VrrpService.packet_silences _ (routers frame.sender).priority.2 (fun master => ?_) _ _
  have primary : (n.services i).primaryIpAddress = (routers i).primaryIpAddress :=
    faithful.field i VrrpService.primaryIpAddress
  have priority : (n.services i).priority = (routers i).priority :=
    faithful.field i VrrpService.priority
  rw [VrrpService.outranked_iff, priority, primary]
  have lower := beaten master
  simp only [VrrpService.rank, Prod.Lex.toLex_lt_toLex] at lower
  rcases lower with higher | ⟨same, later⟩
  · exact .inl (UInt8.lt_iff_toNat_lt.mpr higher)
  · exact .inr ⟨(UInt8.toNat_inj.mp same).symm, later⟩

/-- The frame comes to one router after the other. -/
def hearAll (lan : Lan ι) (n : Traffic ι) (receptions : List (ι × Memory.Cells × Datagram)) :
    Traffic ι :=
  receptions.foldl (fun n r => lan.hear r.2.1 n r.1 r.2.2) n

theorem hearAll_settles {n : Traffic ι} (proper : lan.Proper routers)
    (reached : lan.Reachable routers n) {frame : Frame ι} (sent : frame ∈ n.wire)
    (beaten : ∀ j, j ≠ frame.sender → (n.services j).state = .master →
      (routers j).rank < (routers frame.sender).rank)
    {receptions : List (ι × Memory.Cells × Datagram)}
    (delivered : ∀ r ∈ receptions, r.1 ≠ frame.sender ∧ Delivers lan routers frame r.1 r.2.2) :
    lan.Reachable routers (lan.hearAll n receptions) ∧
      (lan.hearAll n receptions).services frame.sender = n.services frame.sender ∧
      ∀ j, j ≠ frame.sender → ((lan.hearAll n receptions).services j).state = .master →
        (n.services j).state = .master ∧ ∀ r ∈ receptions, r.1 ≠ j := by
  induction receptions generalizing n with
  | nil => exact ⟨reached, rfl, fun _ _ master => ⟨master, fun _ none => absurd none
      List.not_mem_nil⟩⟩
  | cons r rest ih =>
    obtain ⟨other, delivers⟩ := delivered r List.mem_cons_self
    have faithful := (reachable_election proper reached).1
    have step : lan.Step n (lan.hear r.2.1 n r.1 r.2.2) := .hear n r.1 r.2.1 r.2.2
      (.whole frame sent delivers.source delivers.destination delivers.carries)
    obtain ⟨silent, others⟩ :=
      hear_frame proper faithful sent delivers (beaten r.1 other) r.2.1
    have remains : ∀ j, ((lan.hear r.2.1 n r.1 r.2.2).services j).state = .master →
        (n.services j).state = .master ∧ r.1 ≠ j := by
      intro j master
      have apart : j ≠ r.1 := by
        rintro rfl
        exact silent master
      rw [others j apart] at master
      exact ⟨master, apart.symm⟩
    obtain ⟨reaches, leader, masters⟩ := ih (reached.tail step)
      ((step_worked proper faithful step).grows frame sent)
      (fun j apart master => beaten j apart (remains j master).1)
      fun r inside => delivered r (List.mem_cons_of_mem _ inside)
    refine ⟨reaches, leader.trans (others _ other.symm), fun j apart master => ?_⟩
    obtain ⟨before, unheard⟩ := masters j apart master
    refine ⟨(remains j before).1, fun r inside => ?_⟩
    rcases List.mem_cons.mp inside with rfl | inside
    · exact (remains j before).2
    · exact unheard r inside

/-- The best of those that have been Master has said so. -/
theorem leader_frame {n : Traffic ι} (proper : lan.Proper routers) (own : lan.OwnFamily routers)
    (reached : lan.Reachable routers n) (claimed : n.wasMaster ≠ []) :
    ∃ frame ∈ n.wire, (n.services frame.sender).state = .master ∧
      ∀ j ∈ n.wasMaster, j ≠ frame.sender → (routers j).rank < (routers frame.sender).rank := by
  obtain ⟨k, was⟩ := List.exists_mem_of_ne_nil _ claimed
  obtain ⟨i, candidate, holds, best⟩ :=
    Election.best_holds (reachable_election proper reached).2 ⟨k, was⟩
  obtain ⟨frame, sent, rfl⟩ := (reachable_announced proper own reached).said i candidate
  refine ⟨frame, sent, holds, fun j earlier other => lt_of_le_of_ne (best j earlier) fun same => ?_⟩
  exact other (Network.rank_injective proper.distinct same)

theorem hearAll_only {n : Traffic ι} (proper : lan.Proper routers) (own : lan.OwnFamily routers)
    (reached : lan.Reachable routers n) {frame : Frame ι} (sent : frame ∈ n.wire)
    (leads : (n.services frame.sender).state = .master)
    (higher : ∀ j ∈ n.wasMaster, j ≠ frame.sender →
      (routers j).rank < (routers frame.sender).rank)
    {receptions : List (ι × Memory.Cells × Datagram)}
    (delivered : ∀ r ∈ receptions, r.1 ≠ frame.sender ∧ Delivers lan routers frame r.1 r.2.2)
    (everyone : ∀ j, j ≠ frame.sender → (n.services j).state = .master →
      ∃ r ∈ receptions, r.1 = j) (j : ι) :
    ((lan.hearAll n receptions).services j).state = .master ↔ j = frame.sender := by
  have held := (reachable_announced proper own reached).held
  obtain ⟨_, leader, masters⟩ := hearAll_settles proper reached sent
    (fun j other master => higher j (held j master) other) delivered
  constructor
  · intro master
    by_contra other
    obtain ⟨before, unheard⟩ := masters j other master
    obtain ⟨r, inside, here⟩ := everyone j other before
    exact unheard r inside here
  · rintro rfl
    rw [leader]
    exact leads

/-- From whatever the LAN has come to, a frame that is already there settles the election: when
every other Master has got it, in any order and with any others getting it too, the best of those
that have been Master is the only one. -/
theorem one_frame_settles (lan : Lan ι) (routers : ι → VrrpService) (proper : lan.Proper routers)
    (own : lan.OwnFamily routers) (n : Traffic ι) (reached : lan.Reachable routers n)
    (claimed : n.wasMaster ≠ []) :
    ∃ frame ∈ n.wire,
      (∀ j ∈ n.wasMaster, j ≠ frame.sender → (routers j).rank < (routers frame.sender).rank) ∧
      ∀ receptions : List (ι × Memory.Cells × Datagram),
        (∀ r ∈ receptions, r.1 ≠ frame.sender ∧ Delivers lan routers frame r.1 r.2.2) →
        (∀ j, j ≠ frame.sender → (n.services j).state = .master → ∃ r ∈ receptions, r.1 = j) →
        lan.Reachable routers (lan.hearAll n receptions) ∧
          ∀ j, ((lan.hearAll n receptions).services j).state = .master ↔ j = frame.sender := by
  obtain ⟨frame, sent, leads, higher⟩ := leader_frame proper own reached claimed
  have held := (reachable_announced proper own reached).held
  refine ⟨frame, sent, higher, fun receptions delivered everyone => ⟨?_, fun j => ?_⟩⟩
  · exact (hearAll_settles proper reached sent
      (fun j other master => higher j (held j master) other) delivered).1
  · exact hearAll_only proper own reached sent leads higher delivered everyone j

omit [DecidableEq ι] in
/-- A frame of an IPv4 group fits behind an IPv4 header, and is delivered so. -/
theorem delivers_buffer {n : Traffic ι} (proper : lan.Proper routers)
    (faithful : lan.Faithful routers n) (inet : lan.family = .inet) {frame : Frame ι}
    (sent : frame ∈ n.wire) {i : ι} {interface : Int}
    (registered : Nested.find (lan.sockets i).listeners interface lan.virtualRouterId =
      some (routers i).key) :
    Delivers lan routers frame i ⟨VrrpSocket.ipv4Buffer frame.payload, interface, frame.source,
      multicastAddress .inet⟩ := by
  obtain ⟨scratch, packet, built, _, payload⟩ := (faithful.sent frame sent).2
  have family : (lan.sockets frame.sender).family = .inet := (proper.family frame.sender).trans inet
  have few := proper.few frame.sender
  have size := (VrrpSocket.sent_bytes (by rw [family]; decide) built few).2.2.1
  have room : 20 + frame.payload.length ≤ packetCapacity := by
    rw [payload, Memory.slice_length, size, family, familySize, packetCapacity]
    omega
  refine ⟨rfl, by rw [inet], ?_, registered⟩
  rw [inet]
  exact VrrpSocket.ipv4Buffer_carries room

/-- The frame of one owner of the addresses reaches the other. -/
theorem one_frame_settles_pair : ∃ frame ∈ bothMasters.wire, ∃ d, ∀ j,
    ((sampleLan.hearAll bothMasters [(!frame.sender, fun _ => 0, d)]).services j).state = .master ↔
      j = frame.sender := by
  have own : sampleLan.OwnFamily Network.samplePair :=
    ⟨fun i => by cases i <;> rfl, fun i a inside => by cases i <;> simp [Network.samplePair,
      VrrpService.sample, VrrpService.fresh, VrrpService.createMacvlan] at inside⟩
  obtain ⟨frame, sent, _, settles⟩ := one_frame_settles sampleLan Network.samplePair sampleProper
    own bothMasters bothMasters_reachable (by decide)
  have faithful := (reachable_election sampleProper bothMasters_reachable).1
  have delivers : Delivers sampleLan Network.samplePair frame (!frame.sender)
      ⟨VrrpSocket.ipv4Buffer frame.payload, 2, frame.source, multicastAddress .inet⟩ :=
    delivers_buffer sampleProper faithful rfl sent (Nested.find_put_self ..)
  refine ⟨frame, sent, ⟨VrrpSocket.ipv4Buffer frame.payload, 2, frame.source,
    multicastAddress .inet⟩, (settles [(!frame.sender, fun _ => 0, _)] ?_ ?_).2⟩
  · intro r inside
    obtain rfl := List.mem_singleton.mp inside
    exact ⟨Bool.not_ne_self _, delivers⟩
  · intro j other _
    exact ⟨_, List.mem_singleton_self _, (Bool.eq_not_of_ne other).symm⟩

end Lan

end OpenVrrp
