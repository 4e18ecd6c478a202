import OpenVrrp.Network
import OpenVrrp.Service.Advertising

/-! Election safety over any interleaving: the network runs as a ranked election, in which
the role is Master and the rank is the priority with the primary address breaking ties. -/
namespace OpenVrrp.Network

variable {ι : Type}

/-- Ranks never change, and what is in flight carries the rank of a router that was Master. -/
structure Consistent (routers : ι → VrrpService) (n : Network ι) : Prop where
  priority : ∀ i, (n.routers i).priority = (routers i).priority
  primary : ∀ i, (n.routers i).primaryIpAddress = (routers i).primaryIpAddress
  sent : ∀ m ∈ n.sent, m.sender ∈ n.wasMaster ∧
    m.priority = (routers m.sender).priority.1 ∧
    m.address = (routers m.sender).primaryIpAddress

theorem initial_consistent (routers : ι → VrrpService) :
    Consistent routers (initial routers) :=
  ⟨fun _ => rfl, fun _ => rfl, by simp [initial]⟩

theorem mem_broadcast {i : ι} {effects : List Effect} {m : Message ι}
    (sent : m ∈ effects.filterMap (Message.ofEffect i)) :
    ∃ x ∈ advertised effects, Message.ofEffect i x = some m := by
  obtain ⟨x, requested, made⟩ := List.mem_filterMap.mp sent
  refine ⟨x, List.mem_filter.mpr ⟨requested, ?_⟩, made⟩
  cases x <;> first | rfl | cases made

theorem ofEffect_sendAdvertisement {i : ι} {s : VrrpService} {priority : UInt8} {m : Message ι}
    (made : Message.ofEffect i (s.sendAdvertisement priority) = some m) :
    m.sender = i ∧ m.priority = priority ∧ m.address = s.primaryIpAddress := by
  cases Option.some.inj made
  exact ⟨rfl, rfl, rfl⟩

theorem outranked_rank {routers : ι → VrrpService} {n : Network ι}
    (consistent : Consistent routers n) {i : ι} {m : Message ι} (sent : m ∈ n.sent)
    (outranked : (n.routers i).outranked m.address m.priority = true) :
    (routers i).rank < (routers m.sender).rank := by
  obtain ⟨_, priority, address⟩ := consistent.sent m sent
  rw [VrrpService.outranked_iff, consistent.priority, consistent.primary, priority,
    address] at outranked
  simp only [VrrpService.rank, Prod.Lex.toLex_lt_toLex]
  rcases outranked with higher | ⟨same, later⟩
  · exact .inl (UInt8.lt_iff_toNat_lt.mp higher)
  · exact .inr ⟨by rw [same], later⟩

theorem rank_injective {routers : ι → VrrpService}
    (distinct : Function.Injective fun i => (routers i).primaryIpAddress) :
    Function.Injective fun i => (routers i).rank := by
  intro i j same
  exact distinct (congrArg (fun r => (ofLex r).2) same)

variable [DecidableEq ι]

theorem act_routers_self (n : Network ι) (i : ι) (e : Event) :
    (n.act i e).routers i = ((n.routers i).step e).1 := Function.update_self ..

theorem act_routers_other (n : Network ι) (i : ι) (e : Event) {j : ι} (other : j ≠ i) :
    (n.act i e).routers j = n.routers j := Function.update_of_ne other ..

theorem mem_wasMaster_act (n : Network ι) (i j : ι) (e : Event) :
    j ∈ (n.act i e).wasMaster ↔
      j ∈ n.wasMaster ∨ (j = i ∧ ((n.act i e).routers i).state = .master) := by
  rw [act_routers_self]
  simp only [act]
  split <;> rename_i entered <;> simp [entered, or_comm]

theorem act_consistent {routers : ι → VrrpService} {n : Network ι}
    (consistent : Consistent routers n) (i : ι) {e : Event} (electing : Electing e) :
    Consistent routers (n.act i e) := by
  have elected := (n.routers i).step_elected electing
  refine ⟨fun j => ?_, fun j => ?_, fun m sent => ?_⟩
  · by_cases self : j = i
    · rw [self, act_routers_self, elected.priority, consistent.priority]
    · rw [act_routers_other n i e self, consistent.priority]
  · by_cases self : j = i
    · rw [self, act_routers_self, elected.primary, consistent.primary]
    · rw [act_routers_other n i e self, consistent.primary]
  · rcases List.mem_append.mp sent with before | now
    · have earlier := consistent.sent m before
      exact ⟨(mem_wasMaster_act n i _ e).mpr (.inl earlier.1), earlier.2⟩
    · obtain ⟨x, said, made⟩ := mem_broadcast now
      obtain ⟨rfl, master⟩ := elected.speaks x said
      obtain ⟨rfl, same, address⟩ := ofEffect_sendAdvertisement made
      refine ⟨(mem_wasMaster_act n _ _ e).mpr (.inr ⟨rfl, ?_⟩), ?_, ?_⟩
      · rw [act_routers_self]; exact master
      · rw [same, consistent.priority]
      · rw [address, consistent.primary]

/-- Every step is one router handling one event of the election, and an incoming
advertisement is one that was sent. -/
theorem step_act {routers : ι → VrrpService} {n t : Network ι}
    (consistent : Consistent routers n) (step : Step n t) :
    ∃ i e, t = n.act i e ∧ Electing e ∧
      ∀ address priority interval addresses,
        e = .incomingPacket address priority interval addresses →
          ∃ m ∈ n.sent, e = m.event := by
  cases step with
  | enable i => exact ⟨i, _, rfl, .enable, fun _ _ _ _ same => Event.noConfusion same⟩
  | masterDown i => exact ⟨i, _, rfl, .masterDown, fun _ _ _ _ same => Event.noConfusion same⟩
  | advertisement i =>
    exact ⟨i, _, rfl, .advertisement, fun _ _ _ _ same => Event.noConfusion same⟩
  | deliver m sent j other =>
    have nonzero : m.priority ≠ 0 := by
      rw [(consistent.sent m sent).2.1]
      exact (routers m.sender).priority.2
    exact ⟨j, m.event, rfl, .incoming _ _ _ _ nonzero, fun _ _ _ _ _ => ⟨m, sent, rfl⟩⟩

theorem deposed {routers : ι → VrrpService} {n t : Network ι}
    (consistent : Consistent routers n) (step : Step n t) {i : ι}
    (master : (n.routers i).state = .master) (left : (t.routers i).state ≠ .master) :
    ∃ m ∈ n.sent, t = n.act i m.event ∧ (routers i).rank < (routers m.sender).rank := by
  obtain ⟨k, e, rfl, electing, incoming⟩ := step_act consistent step
  have self : i = k := by
    by_contra other
    rw [act_routers_other n k e other] at left
    exact left master
  subst self
  rw [act_routers_self] at left
  obtain ⟨address, priority, interval, addresses, same, outranked⟩ :=
    ((n.routers i).step_elected electing).leaves master left
  obtain ⟨m, sent, event⟩ := incoming _ _ _ _ same
  refine ⟨m, sent, by rw [event], outranked_rank consistent sent ?_⟩
  rw [event] at same
  cases same
  exact outranked

def ballot (n : Network ι) : Election.Ballot ι :=
  ⟨{i | (n.routers i).state = .master}, {i | i ∈ n.wasMaster}⟩

theorem step_consistent {routers : ι → VrrpService} (n t : Network ι)
    (consistent : Consistent routers n) (step : Step n t) : Consistent routers t := by
  obtain ⟨i, e, rfl, electing, _⟩ := step_act consistent step
  exact act_consistent consistent i electing

theorem step_ballot {routers : ι → VrrpService} (n t : Network ι)
    (consistent : Consistent routers n) (step : Step n t) :
    Election.Step (fun i => (routers i).rank) n.ballot t.ballot := by
  obtain ⟨i, e, rfl, _, _⟩ := step_act consistent step
  refine Election.step_of_actor i (fun j other => ?_) (fun j => mem_wasMaster_act n i j e)
    fun master left => ?_
  · change ((n.act i e).routers j).state = .master ↔ (n.routers j).state = .master
    rw [act_routers_other n i e other]
  · obtain ⟨m, sent, _, higher⟩ := deposed consistent step master left
    exact ⟨m.sender, (consistent.sent m sent).1, higher⟩

theorem reachable_election {routers : ι → VrrpService}
    (disabled : ∀ i, (routers i).state = .disabled) {n : Network ι}
    (reached : Reachable routers n) : Consistent routers n ∧
      Election.Reachable (fun i => (routers i).rank) n.ballot := by
  have nobody : (initial routers).ballot = Election.start := by
    ext i <;> simp [ballot, initial, Election.start, disabled]
  exact Election.simulates ballot step_consistent step_ballot nobody
    (initial_consistent routers) reached

/-- Once a router has been Master, the one of highest rank among those that have been is
Master, and a router leaves Master only on hearing one of strictly higher rank. -/
theorem election_safety (routers : ι → VrrpService)
    (disabled : ∀ i, (routers i).state = .disabled)
    (distinct : Function.Injective fun i => (routers i).primaryIpAddress)
    (n : Network ι) (reached : Reachable routers n) :
    (n.wasMaster ≠ [] → ∃ i ∈ n.wasMaster, (n.routers i).state = .master ∧
      ∀ j ∈ n.wasMaster, j ≠ i → (routers j).rank < (routers i).rank) ∧
    ∀ t, Step n t → ∀ i, (n.routers i).state = .master → (t.routers i).state ≠ .master →
      ∃ m ∈ n.sent, t = n.act i m.event ∧ (routers i).rank < (routers m.sender).rank := by
  obtain ⟨consistent, election⟩ := reachable_election disabled reached
  refine ⟨fun some => ?_, fun t step i master left => deposed consistent step master left⟩
  obtain ⟨k, was⟩ := List.exists_mem_of_ne_nil _ some
  obtain ⟨i, candidate, holds, best⟩ := Election.best_holds election ⟨k, was⟩
  refine ⟨i, candidate, holds, fun j earlier other => ?_⟩
  exact lt_of_le_of_ne (best j earlier) fun same => other (rank_injective distinct same)

def samplePair (second : Bool) : VrrpService :=
  { VrrpService.sample (if second then 2 else 1) with priority := ⟨255, by decide⟩ }

theorem election_safety_pair :
    ∃ i ∈ ((initial samplePair).act false (.enable true)).wasMaster,
      (((initial samplePair).act false (.enable true)).routers i).state = .master ∧
      ∀ j ∈ ((initial samplePair).act false (.enable true)).wasMaster, j ≠ i →
        (samplePair j).rank < (samplePair i).rank :=
  (election_safety samplePair (fun i => by cases i <;> rfl)
    (fun i j same => by cases i <;> cases j <;> first | rfl | exact absurd same (by decide))
    _ (.single (.enable _ false))).1 (by decide)

end OpenVrrp.Network
