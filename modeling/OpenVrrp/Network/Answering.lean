import OpenVrrp.Network.Convergence
import OpenVrrp.Network.Resolution

/-! Who answers for the virtual addresses of an IPv4 group: the hosts of the routers follow the
election, and once one frame has settled it, one host answers. -/
namespace OpenVrrp

/-- The routers with the hosts that they configure. -/
structure Hosted (ι : Type) where
  traffic : Traffic ι
  hosts : ι → Host

/-- Every host has the addresses of its router where the role of the router wants them. -/
def Hosted.InPlace {ι : Type} (n : Hosted ι) : Prop :=
  ∀ i, (n.traffic.services i).Placed (n.hosts i)

namespace Lan

variable {ι : Type} [DecidableEq ι] (lan : Lan ι)

def actOn (scratch : Memory.Cells) (i : ι) (n : Hosted ι) (e : Event) : Hosted ι :=
  ⟨lan.act scratch i n.traffic e,
    Function.update n.hosts i ((n.hosts i).run ((n.traffic.services i).step e).2)⟩

def hearOn (scratch : Memory.Cells) (n : Hosted ι) (i : ι) (d : Datagram) : Hosted ι :=
  (lan.told n.traffic i d).foldl (lan.actOn scratch i) n

inductive HostedStep : Hosted ι → Hosted ι → Prop where
  | enable (n : Hosted ι) (i : ι) (scratch : Memory.Cells) :
      HostedStep n (lan.actOn scratch i n (.enable true))
  | masterDown (n : Hosted ι) (i : ι) (scratch : Memory.Cells) :
      HostedStep n (lan.actOn scratch i n .masterDownExpiry)
  | advertisement (n : Hosted ι) (i : ι) (scratch : Memory.Cells) :
      HostedStep n (lan.actOn scratch i n .advertisementExpiry)
  | hear (n : Hosted ι) (i : ι) (scratch : Memory.Cells) (d : Datagram)
      (arrives : lan.Arrives n.traffic.wire d) : HostedStep n (lan.hearOn scratch n i d)

def HostedReachable (routers : ι → VrrpService) (hosts : ι → Host) : Hosted ι → Prop :=
  Relation.ReflTransGen lan.HostedStep ⟨initial routers, hosts⟩

def hearAllOn (n : Hosted ι) (receptions : List (ι × Memory.Cells × Datagram)) : Hosted ι :=
  receptions.foldl (fun n r => lan.hearOn r.2.1 n r.1 r.2.2) n

variable {lan}

/-! ### The hosts follow -/

theorem hearOn_traffic (scratch : Memory.Cells) (n : Hosted ι) (i : ι) (d : Datagram) :
    (lan.hearOn scratch n i d).traffic = lan.hear scratch n.traffic i d := by
  rw [hearOn, hear]
  exact (List.foldl_hom Hosted.traffic fun _ _ => rfl).symm

theorem hearAllOn_traffic (n : Hosted ι) (receptions : List (ι × Memory.Cells × Datagram)) :
    (lan.hearAllOn n receptions).traffic = lan.hearAll n.traffic receptions := by
  rw [hearAllOn, hearAll]
  exact (List.foldl_hom Hosted.traffic fun n r => (hearOn_traffic r.2.1 n r.1 r.2.2).symm).symm

theorem HostedStep.traffic {n t : Hosted ι} (step : lan.HostedStep n t) :
    lan.Step n.traffic t.traffic := by
  cases step with
  | enable i scratch => exact .enable n.traffic i scratch
  | masterDown i scratch => exact .masterDown n.traffic i scratch
  | advertisement i scratch => exact .advertisement n.traffic i scratch
  | hear i scratch d arrives =>
    rw [hearOn_traffic]
    exact .hear n.traffic i scratch d arrives

theorem HostedReachable.traffic {routers : ι → VrrpService} {hosts : ι → Host} {n : Hosted ι}
    (reached : lan.HostedReachable routers hosts n) : lan.Reachable routers n.traffic :=
  reached.lift Hosted.traffic fun _ _ step => step.traffic

theorem actOn_inPlace {n : Hosted ι} (inPlace : n.InPlace) (scratch : Memory.Cells) (i : ι)
    {e : Event} (happens : ¬ e.Setter) : (lan.actOn scratch i n e).InPlace := by
  intro j
  by_cases here : j = i
  · subst here
    rw [actOn]
    dsimp only
    rw [act_self, Function.update_self]
    exact VrrpService.step_placed _ (inPlace j) happens
  · rw [actOn]
    dsimp only
    rw [act_other n.traffic here, Function.update_of_ne here]
    exact inPlace j

theorem hearOn_inPlace {n : Hosted ι} {routers : ι → VrrpService} (inPlace : n.InPlace)
    {i : ι} {d : Datagram} (causes : ∀ e ∈ lan.told n.traffic i d, Cause routers n.traffic.wire e)
    (scratch : Memory.Cells) : (lan.hearOn scratch n i d).InPlace :=
  Runs.foldl_keeps Hosted.InPlace _
    (fun _ e inside inPlace => actOn_inPlace inPlace scratch i (causes e inside).setter) inPlace

theorem HostedStep.inPlace {n t : Hosted ι} {routers : ι → VrrpService}
    (proper : lan.Proper routers) (faithful : lan.Faithful routers n.traffic)
    (inPlace : n.InPlace) (step : lan.HostedStep n t) : t.InPlace := by
  cases step with
  | enable i scratch | masterDown i scratch | advertisement i scratch =>
    exact actOn_inPlace inPlace scratch i id
  | hear i scratch d arrives =>
    exact hearOn_inPlace inPlace (told_cause proper faithful arrives) scratch

theorem reachable_inPlace {routers : ι → VrrpService} {hosts : ι → Host} {n : Hosted ι}
    (proper : lan.Proper routers) (unused : ∀ i, (routers i).Holds (hosts i) .nowhere)
    (reached : lan.HostedReachable routers hosts n) : n.InPlace := by
  induction reached with
  | refl =>
    intro i
    have idle : (routers i).state ≠ .master := by
      rw [proper.disabled i]
      decide
    exact (VrrpService.placed_idle idle).mpr (unused i)
  | tail before step inPlace =>
    exact step.inPlace proper
      (reachable_election proper (HostedReachable.traffic before)).1 inPlace

theorem hearAllOn_reachable {routers : ι → VrrpService} {hosts : ι → Host} {n : Hosted ι}
    (proper : lan.Proper routers) (reached : lan.HostedReachable routers hosts n)
    {frame : Frame ι} (sent : frame ∈ n.traffic.wire)
    {receptions : List (ι × Memory.Cells × Datagram)}
    (delivered : ∀ r ∈ receptions, Delivers lan routers frame r.1 r.2.2) :
    lan.HostedReachable routers hosts (lan.hearAllOn n receptions) := by
  induction receptions generalizing n with
  | nil => exact reached
  | cons r rest ih =>
    have delivers := delivered r List.mem_cons_self
    have step : lan.HostedStep n (lan.hearOn r.2.1 n r.1 r.2.2) := .hear n r.1 r.2.1 r.2.2
      (.whole frame sent delivers.source delivers.destination delivers.carries)
    exact ih (reached.tail step)
      ((step_worked proper (reachable_election proper reached.traffic).1 step.traffic).grows
        frame sent) fun r inside => delivered r (List.mem_cons_of_mem _ inside)

/-! ### Who answers -/

/-- The host answers for the addresses of its router, from the interface or from ArpService. -/
structure AnswersFor (s : VrrpService) (h : Host) (master : Prop) : Prop where
  configured : ∀ subnet ∈ s.subnets.toList,
    (s.outputInterface, subnet) ∈ h.configured ↔ master ∧ s.onInterface = true
  fakeArp : ∀ subnet ∈ s.subnets.toList, ∀ requester sender asked target padding reply,
    subnet.address = .ofIpv4 target →
      (h.arp.onFrame s.interface (arpPacket 1 requester sender asked target ++ padding) =
          some reply ↔
        (master ∧ s.onInterface = false) ∧ reply = arpPacket 2 s.mac target requester sender)

theorem answers_of_placed {s : VrrpService} {h : Host} (placed : s.Placed h) :
    AnswersFor s h (s.state = .master) := by
  unfold VrrpService.Placed VrrpService.place at placed
  refine ⟨fun subnet inside => ?_, fun subnet inside requester sender asked target padding reply
    same => ?_⟩
  · rw [(placed subnet inside).1]
    split
    · rename_i master
      split <;> rename_i on <;> simp [Place.configured, master, on]
    · rename_i other
      simp [Place.configured, other]
  · rw [ArpServices.onFrame_request, ← same, (placed subnet inside).2]
    split
    · rename_i master
      split <;> rename_i on <;> simp [Place.answer, master, on, eq_comm]
    · rename_i other
      simp [Place.answer, other]

/-- What decides is the configuration. -/
theorem answersFor_configured {s : VrrpService} {h : Host} {master : Prop} :
    AnswersFor s.configured h master ↔ AnswersFor s h master :=
  ⟨fun answers => ⟨answers.configured, answers.fakeArp⟩,
    fun answers => ⟨answers.configured, answers.fakeArp⟩⟩

/-- From whatever the LAN has come to, a frame that is already there leaves one router that
answers for the virtual addresses, when every other Master has got it: the best of those that
have been Master, from its interface in accept mode and as the owner, through ArpService else.
Nobody else does either. -/
theorem one_answers (lan : Lan ι) (routers : ι → VrrpService) (proper : lan.Proper routers)
    (own : lan.OwnFamily routers) (hosts : ι → Host)
    (unused : ∀ i, (routers i).Holds (hosts i) .nowhere) (n : Hosted ι)
    (reached : lan.HostedReachable routers hosts n) (claimed : n.traffic.wasMaster ≠ []) :
    ∃ frame ∈ n.traffic.wire,
      (∀ j ∈ n.traffic.wasMaster, j ≠ frame.sender →
        (routers j).rank < (routers frame.sender).rank) ∧
      ∀ receptions : List (ι × Memory.Cells × Datagram),
        (∀ r ∈ receptions, r.1 ≠ frame.sender ∧ Delivers lan routers frame r.1 r.2.2) →
        (∀ j, j ≠ frame.sender → (n.traffic.services j).state = .master →
          ∃ r ∈ receptions, r.1 = j) →
        ∀ j, AnswersFor (routers j) ((lan.hearAllOn n receptions).hosts j)
          (j = frame.sender) := by
  have before := reached.traffic
  obtain ⟨frame, sent, leads, higher⟩ := leader_frame proper own before claimed
  refine ⟨frame, sent, higher, fun receptions delivered everyone j => ?_⟩
  have reaches := hearAllOn_reachable proper reached sent fun r inside => (delivered r inside).2
  have answers := answers_of_placed (reachable_inPlace proper unused reaches j)
  have only := hearAll_only proper own before sent leads higher delivered everyone j
  rw [← hearAllOn_traffic] at only
  rw [only] at answers
  rw [← answersFor_configured, ← (reachable_election proper reaches.traffic).1.configured j,
    answersFor_configured]
  exact answers

/-! Two routers with one address that both take over. -/

def servingPair (second : Bool) : VrrpService :=
  { VrrpService.sample (if second then 2 else 1) with
    subnets := (∅ : IpSubnetSet).insert ⟨.sample 100, 24⟩
    addresses := (∅ : IpAddressSet).insert (.sample 100) }

theorem servingProper : sampleLan.Proper servingPair where
  known := sampleProper.known
  family := sampleProper.family
  group := fun i => by cases i <;> rfl
  registered := sampleProper.registered
  few := fun i => by cases i <;> decide
  disabled := fun i => by cases i <;> rfl
  distinct := fun i j same => by cases i <;> cases j <;> first | rfl | exact absurd same (by decide)

def bothServing : Hosted Bool :=
  [(false, .enable true), (true, .enable true), (false, .masterDownExpiry),
    (true, .masterDownExpiry)].foldl (fun n (i, e) => sampleLan.actOn (fun _ => 0) i n e)
      ⟨initial servingPair, fun _ => ⟨∅, ∅⟩⟩

theorem bothServing_reachable :
    sampleLan.HostedReachable servingPair (fun _ => ⟨∅, ∅⟩) bothServing :=
  (((Relation.ReflTransGen.single (.enable _ false _)).tail (.enable _ true _)).tail
    (.masterDown _ false _)).tail (.masterDown _ true _)

theorem one_answers_pair : ∃ frame ∈ bothServing.traffic.wire, ∃ d, ∀ j,
    AnswersFor (servingPair j)
      ((sampleLan.hearAllOn bothServing [(!frame.sender, fun _ => 0, d)]).hosts j)
      (j = frame.sender) := by
  have own : sampleLan.OwnFamily servingPair :=
    ⟨fun i => by cases i <;> rfl, fun i a inside => by
      have here : a ∈ (servingPair i).addresses.toList := Std.TreeSet.mem_toList.mpr inside
      have only : (servingPair i).addresses.toList = [.sample 100] := by cases i <;> decide
      rw [only] at here
      rw [List.mem_singleton.mp here]
      rfl⟩
  have unused : ∀ i, (servingPair i).Holds ⟨∅, ∅⟩ .nowhere :=
    fun i subnet _ => ⟨by simp [Place.configured], rfl⟩
  obtain ⟨frame, sent, _, answers⟩ := one_answers sampleLan servingPair servingProper own _ unused
    bothServing bothServing_reachable (by decide)
  have faithful := (reachable_election servingProper bothServing_reachable.traffic).1
  have delivers : Delivers sampleLan servingPair frame (!frame.sender)
      ⟨VrrpSocket.ipv4Buffer frame.payload, 2, frame.source, multicastAddress .inet⟩ :=
    delivers_buffer servingProper faithful rfl sent (Nested.find_put_self ..)
  refine ⟨frame, sent, ⟨VrrpSocket.ipv4Buffer frame.payload, 2, frame.source,
    multicastAddress .inet⟩, answers [(!frame.sender, fun _ => 0, _)] ?_ ?_⟩
  · intro r inside
    obtain rfl := List.mem_singleton.mp inside
    exact ⟨Bool.not_ne_self _, delivers⟩
  · intro j other _
    exact ⟨_, List.mem_singleton_self _, (Bool.eq_not_of_ne other).symm⟩

end Lan

end OpenVrrp
