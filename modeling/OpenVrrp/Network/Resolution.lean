import OpenVrrp.ArpSocket
import OpenVrrp.Service.Placement

/-! Address resolution on a LAN with any number of routers of one IPv4 group. The stations ask
for addresses and remember what they hear; the routers announce their addresses and answer for
them, through ArpService or, where an address is on the interface, through the kernel, which is a
parameter. -/
namespace OpenVrrp

/-- What the router claims with a request is its own hardware address. -/
def Effect.Claims (mac : Mac) (outputInterface : Int) : Effect → Prop
  | .addIpAddress interface _ => interface = outputInterface
  | .addFakeArp _ _ claimed => claimed = mac
  | .sendGratuitiousArp interface _ => interface = outputInterface
  | _ => True

/-! ### What one event claims -/

namespace VrrpService

section Vouches
variable (s : VrrpService)

def Vouches (effects : List Effect) : Prop := ∀ x ∈ effects, x.Claims s.mac s.outputInterface

variable {s} in
theorem Vouches.append {first second : List Effect} (one : s.Vouches first)
    (two : s.Vouches second) : s.Vouches (first ++ second) :=
  fun x inside => (List.mem_append.mp inside).elim (one x) (two x)

theorem vouches_nil : s.Vouches [] := fun _ none => absurd none List.not_mem_nil

theorem vouches_map {α : Type} {items : List α} {f : α → Effect}
    (each : ∀ item, (f item).Claims s.mac s.outputInterface) : s.Vouches (items.map f) := by
  intro x inside
  obtain ⟨item, _, rfl⟩ := List.mem_map.mp inside
  exact each item

theorem vouches_toggles : s.Vouches s.setVirtualMac ∧ s.Vouches s.setDefaultMac := by
  constructor <;> intro x inside
  · unfold setVirtualMac at inside
    split at inside <;> split at inside <;> simp at inside <;>
      rcases inside with rfl | rfl <;> trivial
  · unfold setDefaultMac at inside
    split at inside <;> split at inside <;> simp at inside <;>
      rcases inside with rfl | rfl <;> trivial

theorem vouches_addIpAddresses : s.Vouches s.addIpAddresses := by
  unfold addIpAddresses
  split
  · exact s.vouches_map fun _ => rfl
  · exact s.vouches_map fun _ => rfl

theorem vouches_removeIpAddresses : s.Vouches s.removeIpAddresses := by
  unfold removeIpAddresses
  split <;> exact s.vouches_map fun _ => trivial

theorem vouches_flatMap {subnets : List IpSubnet} {f g : IpSubnet → Effect}
    (first : ∀ subnet, (f subnet).Claims s.mac s.outputInterface)
    (second : ∀ subnet, (g subnet).Claims s.mac s.outputInterface) :
    s.Vouches (subnets.flatMap fun subnet => [f subnet, g subnet]) := by
  intro x inside
  obtain ⟨subnet, _, inside⟩ := List.mem_flatMap.mp inside
  rcases List.mem_cons.mp inside with rfl | inside
  · exact first subnet
  · rw [List.mem_singleton.mp inside]
    exact second subnet

theorem vouches_script (t : VrrpService) (command : Text) : s.Vouches (t.script command) := by
  unfold script
  split
  · intro x inside
    rw [List.mem_singleton.mp inside]
    trivial
  · exact s.vouches_nil

theorem vouches_setState (state : State) : s.Vouches (s.setState state).2 := by
  by_cases same : s.state = state
  · rw [s.setState_same same]
    exact s.vouches_nil
  · by_cases target : state = .master
    · subst target
      rw [s.setState_master same]
      refine .append (.append (.append s.vouches_toggles.1 s.vouches_addIpAddresses) ?_)
        (s.vouches_script _ _)
      intro x inside
      rw [List.mem_singleton.mp inside]
      trivial
    · rw [s.setState_other same target]
      refine .append (.append ?_ s.vouches_toggles.2) ?_
      · split
        · exact s.vouches_removeIpAddresses
        · exact s.vouches_nil
      · split
        · exact s.vouches_script _ _
        · exact s.vouches_nil

theorem vouches_becomeMaster (reason : NewMasterReason) :
    s.Vouches (s.becomeMaster reason).2 := by
  rw [becomeMaster_snd]
  refine .append (s.vouches_setState .master) ?_
  split
  · exact s.vouches_map fun _ => rfl
  · exact s.vouches_nil

theorem vouches_startup : s.Vouches s.startup.2 := by
  by_cases owner : s.priority.1 = 255
  · rw [s.startup_owner owner]
    exact s.vouches_becomeMaster _
  · rw [s.startup_snd owner]
    exact s.waiting.vouches_setState .backup

theorem vouches_shutdown (newState : State) : s.Vouches (s.shutdown newState).2 := by
  by_cases backup : s.state = .backup
  · rw [s.shutdown_backup newState backup]
    exact s.stopMasterDownTimer.vouches_setState newState
  · by_cases master : s.state = .master
    · rw [s.shutdown_master_snd newState master]
      intro x inside
      rcases List.mem_cons.mp inside with rfl | inside
      · trivial
      · exact s.stopAdvertisementTimer.vouches_setState newState x inside
    · rw [s.shutdown_idle newState backup master]
      exact s.vouches_nil

theorem vouches_yield (interval : WireInterval) : s.Vouches (s.yield interval).2 := by
  rw [yield_snd]
  exact .append (vouches_setState _ .backup) s.vouches_toggles.2

theorem vouches_setter {e : Event} (setter : e.Setter) : s.Vouches (s.step e).2 := by
  have moves : s.Vouches s.moveToInterface ∧ s.Vouches s.moveToFakeArp :=
    ⟨s.vouches_flatMap (fun _ => rfl) fun _ => trivial,
      s.vouches_flatMap (fun _ => rfl) fun _ => trivial⟩
  have one {x : Effect} (claims : x.Claims s.mac s.outputInterface) : s.Vouches [x] := by
    intro y inside
    rw [List.mem_singleton.mp inside]
    exact claims
  cases e with
  | setPriority priority =>
    simp only [step, setPriority]
    split
    · exact s.vouches_nil
    · dsimp only
      split
      · split
        · exact moves.1
        · split
          · exact moves.2
          · exact s.vouches_nil
      · exact s.vouches_nil
  | setAcceptMode enabled =>
    simp only [step, setAcceptMode]
    split
    · exact s.vouches_nil
    · split
      · exact s.vouches_nil
      · dsimp only
        split
        · split
          · exact moves.1
          · exact moves.2
        · exact s.vouches_nil
  | addIpAddress subnet =>
    simp only [step, addIpAddress]
    split
    · exact s.vouches_nil
    · dsimp only
      split
      · split
        · exact one rfl
        · exact one rfl
      · exact s.vouches_nil
  | removeIpAddress subnet =>
    simp only [step, removeIpAddress]
    split
    · split
      · exact one trivial
      · exact one trivial
    · exact s.vouches_nil
  | setPrimaryIpAddress | unsetPrimaryIpAddress | setAdvertisementInterval | setPreemptMode
  | setMasterCommand | setBackupCommand => exact s.vouches_nil
  | _ => cases setter

theorem step_vouches (e : Event) : s.Vouches (s.step e).2 := by
  have moves := s.step_moves e
  generalize s.step e = u at moves
  cases moves with
  | set setter => exact s.vouches_setter setter
  | hear | ignore => exact s.vouches_nil
  | announce =>
    intro x inside
    rw [List.mem_singleton.mp inside]
    trivial
  | linkMissing => exact s.vouches_setState .linkDown
  | startUp => exact s.vouches_startup
  | takeOver => exact s.stopMasterDownTimer.vouches_becomeMaster _
  | yield => exact (s.countAdvertisement _).vouches_yield _
  | shutDown => exact s.vouches_shutdown _

end Vouches

end VrrpService

namespace VrrpService

/-- With a MACVLAN interface the service keeps the virtual hardware address. -/
theorem construct_mac {interface : Int} {family : Family} {virtualRouterId : UInt8}
    {vlanId : UInt64} {answers : Creation} {s : VrrpService}
    (created : construct interface family virtualRouterId vlanId answers = some s)
    (granted : 0 ≤ answers.macvlanInterface) : s.mac = virtualMac family virtualRouterId := by
  unfold construct createMacvlan at created
  simp only [Int.not_lt.mpr granted, if_false] at created
  split at created
  · split at created
    · cases created
    · cases created
      rfl
  · cases created
    rfl

end VrrpService

/-! ### The LAN -/

/-- Who says of itself that it has which hardware address. -/
def senderOf (frame : List UInt8) : Option (Ipv4 × Mac) :=
  if room : 28 ≤ frame.length ∧ frame.take 7 = [0, 1, 8, 0, 6, 4, 0] then
    some (ArpServices.vectorAt frame 14 4 (by omega), ArpServices.vectorAt frame 8 6 (by omega))
  else none

theorem senderOf_arpPacket (operation : UInt8) (mac : Mac) (address : Ipv4) (other : Mac)
    (target : Ipv4) :
    senderOf (arpPacket operation mac address other target) = some (address, mac) := by
  have size : mac.toList.length = 6 ∧ address.toList.length = 4 := ⟨by simp, by simp⟩
  have room : 28 ≤ (arpPacket operation mac address other target).length ∧
      (arpPacket operation mac address other target).take 7 = [0, 1, 8, 0, 6, 4, 0] :=
    ⟨(ArpServices.arpPacket_length ..).ge, rfl⟩
  have hardware : ((arpPacket operation mac address other target).drop 8).take 6 =
      mac.toList := by
    simp [arpPacket, size]
  have protocol : ((arpPacket operation mac address other target).drop 14).take 4 =
      address.toList := by
    simp [arpPacket, size]
  unfold senderOf
  rw [dif_pos room]
  simp only [ArpServices.vectorAt, hardware, protocol]
  rfl

/-- Whoever hears a frame may remember its sender. -/
def remember (cache : Ipv4 → Option Mac) (frame : List UInt8) (address : Ipv4) : Option Mac :=
  ((senderOf frame).filter fun sender => sender.1 = address).elim (cache address) fun sender =>
    some sender.2

/-- The stations of the LAN with what they remember, the ARP frames on it, and the routers, each
on a host. -/
structure Segment (ι κ : Type) where
  services : ι → VrrpService
  hosts : ι → Host
  frames : List (List UInt8)
  caches : κ → Ipv4 → Option Mac

/-- What a station is, and what the host of a router is: the hardware addresses of its
interfaces, the addresses it has apart from the daemon, and what its kernel answers to a frame
that an interface hears. -/
structure Stations (ι κ : Type) where
  address : κ → Ipv4
  mac : κ → Mac
  hardware : ι → Int → Option Mac
  own : ι → Ipv4 → Prop
  kernel : ι → Host → Int → List UInt8 → Option (List UInt8)

/-- A kernel answers a request with the hardware address of the interface that heard it: for an
address of the host itself on any interface, for one that the daemon has configured only on the
interface that has it. That is arp_ignore 1; setuparp.sh sets arp_filter for it. -/
def Stations.Filtered {ι κ : Type} (stations : Stations ι κ) : Prop :=
  ∀ i h interface frame reply, stations.kernel i h interface frame = some reply →
    ∃ requester sender asked target padding mac,
      frame = arpPacket 1 requester sender asked target ++ padding ∧
      (stations.own i target ∨
        ∃ subnet, (interface, subnet) ∈ h.configured ∧ subnet.address = .ofIpv4 target) ∧
      stations.hardware i interface = some mac ∧
      reply = arpPacket 2 mac target requester sender

namespace Segment

variable {ι κ : Type} [DecidableEq ι] [DecidableEq κ] (stations : Stations ι κ)

def announcement (i : ι) : Effect → Option (List UInt8)
  | .sendGratuitiousArp interface address =>
    ArpSocket.sendGratuitiousArp (stations.hardware i) interface address
  | _ => none

def act (n : Segment ι κ) (i : ι) (e : Event) : Segment ι κ :=
  let outcome := (n.services i).step e
  { n with
    services := Function.update n.services i outcome.1
    hosts := Function.update n.hosts i ((n.hosts i).run outcome.2)
    frames := n.frames ++ outcome.2.filterMap (announcement stations i) }

def send (n : Segment ι κ) (frame : List UInt8) : Segment ι κ :=
  { n with frames := n.frames ++ [frame] }

def learn (n : Segment ι κ) (k : κ) (frame : List UInt8) : Segment ι κ :=
  { n with caches := Function.update n.caches k (remember (n.caches k) frame) }

inductive Step : Segment ι κ → Segment ι κ → Prop where
  | act (n : Segment ι κ) (i : ι) (e : Event) : Step n (n.act stations i e)
  | ask (n : Segment ι κ) (k : κ) (target : Ipv4) :
      Step n (n.send (arpPacket 1 (stations.mac k) (stations.address k)
        (Vector.replicate 6 0) target))
  | answer (n : Segment ι κ) (i : ι) (interface : Int) {frame reply : List UInt8}
      (sent : frame ∈ n.frames)
      (answers : (n.hosts i).arp.onFrame interface frame = some reply) : Step n (n.send reply)
  | resolve (n : Segment ι κ) (i : ι) (interface : Int) {frame reply : List UInt8}
      (sent : frame ∈ n.frames)
      (answers : stations.kernel i (n.hosts i) interface frame = some reply) : Step n (n.send reply)
  | learn (n : Segment ι κ) (k : κ) {frame : List UInt8} (sent : frame ∈ n.frames) :
      Step n (n.learn k frame)

/-- A request of a station, or a reply with the one hardware address of the routers or about an
address that a host has apart from its daemon. -/
def Known (mac : Mac) (frame : List UInt8) : Prop :=
  (∃ k target, frame = arpPacket 1 (stations.mac k) (stations.address k)
    (Vector.replicate 6 0) target) ∨
  ∃ m address other target, (m = mac ∨ ∃ i, stations.own i address) ∧
    frame = arpPacket 2 m address other target

/-- Nothing on the LAN and in its memory but what the stations and the hosts say of themselves
and the one hardware address of the routers. -/
structure OfOne (mac : Mac) (n : Segment ι κ) : Prop where
  own : ∀ i, (n.services i).mac = mac ∧
    ∀ m, stations.hardware i (n.services i).outputInterface = some m → m = mac
  tables : ∀ i (interface : Int) address m,
    (n.hosts i).arp.fakeArp interface address = some m → m = mac
  placed : ∀ i, ∀ entry ∈ (n.hosts i).configured, entry.1 = (n.services i).outputInterface
  frames : ∀ frame ∈ n.frames, Known stations mac frame
  caches : ∀ k address m, n.caches k address = some m →
    m = mac ∨ (∃ j, stations.address j = address) ∨ ∃ i, stations.own i address

end Segment

/-! ### One frame -/

namespace ArpServices

/-- A reply is not answered. -/
theorem onFrame_reply (services : ArpServices) (i : Int) (mac : Mac) (address : Ipv4)
    (other : Mac) (target : Ipv4) :
    services.onFrame i (arpPacket 2 mac address other target) = none := by
  apply Option.eq_none_iff_forall_ne_some.mpr
  intro reply answers
  obtain ⟨requester, sender, asked, wanted, padding, _, same, _⟩ := onFrame_eq_some.mp answers
  have operation := congrArg (fun frame => frame[7]?) same
  simp [arpPacket] at operation

end ArpServices

namespace Host

theorem apply_tables {h : Host} {mac : Mac} {outputInterface : Int}
    (tables : ∀ (i : Int) address m, h.arp.fakeArp i address = some m → m = mac) {e : Effect}
    (claims : e.Claims mac outputInterface) (i : Int) (address : IpAddress) (m : Mac)
    (held : (h.apply e).arp.fakeArp i address = some m) : m = mac := by
  cases e with
  | addFakeArp interface added claimed =>
    rw [apply, ArpServices.addFakeArp_eq] at held
    by_cases same : interface = i ∧ added = address
    · obtain ⟨rfl, rfl⟩ := same
      rw [ArpServices.fakeArp, Nested.find_put_self] at held
      exact (Option.some.inj held).symm.trans claims
    · rw [ArpServices.fakeArp, Nested.find_put_other _ _ fun first second =>
        same ⟨first, second⟩] at held
      exact tables i address m held
  | removeFakeArp interface gone =>
    rw [apply, ArpServices.fakeArp, ArpServices.removeFakeArp_find] at held
    by_cases same : interface = i ∧ gone = address
    · obtain ⟨rfl, rfl⟩ := same
      rw [Nested.find_drop_self] at held
      cases held
    · rw [Nested.find_drop_other _ fun first second => same ⟨first, second⟩] at held
      exact tables i address m held
  | _ => exact tables i address m held

theorem run_tables {h : Host} {mac : Mac} {outputInterface : Int}
    (tables : ∀ (i : Int) address m, h.arp.fakeArp i address = some m → m = mac)
    {effects : List Effect} (claims : ∀ e ∈ effects, e.Claims mac outputInterface) :
    ∀ (i : Int) address m, (h.run effects).arp.fakeArp i address = some m → m = mac :=
  Runs.foldl_keeps
    (fun h : Host => ∀ (i : Int) address m, h.arp.fakeArp i address = some m → m = mac) effects
    (fun _ e inside kept => apply_tables kept (claims e inside)) tables

theorem apply_placed {h : Host} {mac : Mac} {outputInterface : Int}
    (placed : ∀ entry ∈ h.configured, entry.1 = outputInterface) {e : Effect}
    (claims : e.Claims mac outputInterface) :
    ∀ entry ∈ (h.apply e).configured, entry.1 = outputInterface := by
  intro entry inside
  cases e with
  | addIpAddress interface subnet =>
    rcases Finset.mem_insert.mp inside with rfl | before
    · exact claims
    · exact placed entry before
  | removeIpAddress interface subnet => exact placed entry (Finset.mem_of_mem_erase inside)
  | _ => exact placed entry inside

theorem run_placed {h : Host} {mac : Mac} {outputInterface : Int}
    (placed : ∀ entry ∈ h.configured, entry.1 = outputInterface)
    {effects : List Effect} (claims : ∀ e ∈ effects, e.Claims mac outputInterface) :
    ∀ entry ∈ (h.run effects).configured, entry.1 = outputInterface :=
  Runs.foldl_keeps (fun h : Host => ∀ entry ∈ h.configured, entry.1 = outputInterface) effects
    (fun _ e inside kept => apply_placed kept (claims e inside)) placed

end Host

namespace Segment

variable {ι κ : Type} [DecidableEq ι] [DecidableEq κ] {stations : Stations ι κ} {mac : Mac}
  {n : Segment ι κ}

theorem remember_eq_some {cache : Ipv4 → Option Mac} {frame : List UInt8} {address : Ipv4}
    {m : Mac} (known : remember cache frame address = some m) :
    cache address = some m ∨ senderOf frame = some (address, m) := by
  unfold remember at known
  cases said : senderOf frame with
  | none =>
    rw [said] at known
    exact .inl known
  | some sender =>
    rw [said, Option.filter_some] at known
    split at known
    · rename_i same
      right
      rw [← of_decide_eq_true same, ← Option.some.inj known]
    · exact .inl known

omit [DecidableEq ι] [DecidableEq κ] in
theorem OfOne.send (ofOne : n.OfOne stations mac) {frame : List UInt8}
    (known : Known stations mac frame) : (n.send frame).OfOne stations mac where
  own := ofOne.own
  tables := ofOne.tables
  placed := ofOne.placed
  frames := by
    intro sent inside
    rcases List.mem_append.mp inside with inside | inside
    · exact ofOne.frames sent inside
    · rw [List.mem_singleton.mp inside]
      exact known
  caches := ofOne.caches

omit [DecidableEq ι] in
theorem OfOne.learn (ofOne : n.OfOne stations mac) (k : κ) {frame : List UInt8}
    (sent : frame ∈ n.frames) : (n.learn k frame).OfOne stations mac where
  own := ofOne.own
  tables := ofOne.tables
  placed := ofOne.placed
  frames := ofOne.frames
  caches := by
    intro j address m known
    by_cases here : j = k
    · subst here
      rw [Segment.learn] at known
      dsimp only at known
      rw [Function.update_self] at known
      rcases remember_eq_some known with before | said
      · exact ofOne.caches j address m before
      · rcases ofOne.frames frame sent with
          ⟨asker, target, rfl⟩ | ⟨claimed, sender, other, target, source, rfl⟩
        · rw [senderOf_arpPacket] at said
          cases said
          exact .inr (.inl ⟨asker, rfl⟩)
        · rw [senderOf_arpPacket] at said
          cases said
          exact source.imp id .inr
    · rw [Segment.learn] at known
      dsimp only at known
      rw [Function.update_of_ne here] at known
      exact ofOne.caches j address m known

omit [DecidableEq κ] in
theorem OfOne.act (ofOne : n.OfOne stations mac) (i : ι) (e : Event) :
    (n.act stations i e).OfOne stations mac := by
  have vouches := (n.services i).step_vouches e
  have same := (n.services i).step_identity e
  simp only [VrrpService.identity, Prod.mk.injEq] at same
  obtain ⟨hardware, interface⟩ := ofOne.own i
  refine ⟨fun j => ?_, fun j => ?_, fun j => ?_, fun frame inside => ?_, ofOne.caches⟩
  · rw [Segment.act]
    by_cases here : j = i
    · subst here
      dsimp only
      rw [Function.update_self, same.2.2.2.2.2.2.2.2, same.2.2.2.2.2.2.1]
      exact ofOne.own j
    · dsimp only
      rw [Function.update_of_ne here]
      exact ofOne.own j
  · rw [Segment.act]
    by_cases here : j = i
    · subst here
      dsimp only
      rw [Function.update_self]
      exact Host.run_tables (ofOne.tables j) fun x inside => hardware ▸ vouches x inside
    · dsimp only
      rw [Function.update_of_ne here]
      exact ofOne.tables j
  · rw [Segment.act]
    by_cases here : j = i
    · subst here
      dsimp only
      rw [Function.update_self, Function.update_self, same.2.2.2.2.2.2.1]
      exact Host.run_placed (ofOne.placed j) vouches
    · dsimp only
      rw [Function.update_of_ne here, Function.update_of_ne here]
      exact ofOne.placed j
  · rcases List.mem_append.mp inside with inside | inside
    · exact ofOne.frames frame inside
    · obtain ⟨x, requested, made⟩ := List.mem_filterMap.mp inside
      have claims := vouches x requested
      cases x with
      | sendGratuitiousArp via address =>
        obtain ⟨target, m, _, found, rfl⟩ := ArpSocket.sendGratuitiousArp_eq_some.mp made
        rw [show via = (n.services i).outputInterface from claims] at found
        exact .inr ⟨m, _, _, _, .inl (interface m found), rfl⟩
      | _ => cases made

theorem step_ofOne (filtered : stations.Filtered) (ofOne : n.OfOne stations mac)
    {t : Segment ι κ} (step : Step stations n t) : t.OfOne stations mac := by
  cases step with
  | act i e => exact ofOne.act i e
  | ask k target => exact ofOne.send (.inl ⟨k, target, rfl⟩)
  | answer i interface sent answers =>
    obtain ⟨requester, sender, asked, target, padding, m, _, held, rfl⟩ :=
      ArpServices.onFrame_eq_some.mp answers
    exact ofOne.send (.inr ⟨m, _, _, _, .inl (ofOne.tables i interface _ m held), rfl⟩)
  | resolve i interface sent answers =>
    obtain ⟨requester, sender, asked, target, padding, m, _, source, hardware, rfl⟩ :=
      filtered i _ interface _ _ answers
    refine ofOne.send (.inr ⟨m, _, _, _, ?_, rfl⟩)
    -- An address of the daemon is on the output interface, which has the virtual address.
    rcases source with own | ⟨subnet, configured, _⟩
    · exact .inr ⟨i, own⟩
    · rw [show interface = _ from ofOne.placed i _ configured] at hardware
      exact .inl ((ofOne.own i).2 m hardware)
  | learn k sent => exact ofOne.learn k sent

/-- Whatever the routers go through, in any order with whatever is asked, answered and heard on
the LAN: a station never remembers anything for an address that is no station's and no host's own
but the virtual hardware address, so that nobody has to notice who is Master. No frame of a
router is answered by another one. -/
theorem failover_unnoticed (filtered : stations.Filtered) {virtualRouterId : UInt8}
    {initial : Segment ι κ}
    (made : ∀ i, ∃ interface vlanId answers, 0 ≤ answers.macvlanInterface ∧
      VrrpService.construct interface .inet virtualRouterId vlanId answers =
        some (initial.services i))
    (given : ∀ i m, stations.hardware i (initial.services i).outputInterface = some m →
      m = virtualMac .inet virtualRouterId)
    (silent : ∀ i, (initial.hosts i).arp = ∅) (bare : ∀ i, (initial.hosts i).configured = ∅)
    (quiet : initial.frames = [])
    (forgetful : ∀ k address, initial.caches k address = none) {n : Segment ι κ}
    (reached : Relation.ReflTransGen (Step stations) initial n) :
    (∀ k address m, n.caches k address = some m → (∀ j, stations.address j ≠ address) →
      (∀ i, ¬ stations.own i address) → m = virtualMac .inet virtualRouterId) ∧
    ∀ frame ∈ n.frames, ∀ i interface reply,
      (n.hosts i).arp.onFrame interface frame = some reply →
        ∃ k target, frame = arpPacket 1 (stations.mac k) (stations.address k)
          (Vector.replicate 6 0) target := by
  have start : initial.OfOne stations (virtualMac .inet virtualRouterId) := by
    refine ⟨fun i => ⟨?_, given i⟩, fun i interface address m held => ?_, fun i entry inside => ?_,
      fun frame inside => ?_, fun k address m known => ?_⟩
    · obtain ⟨interface, vlanId, answers, granted, created⟩ := made i
      exact VrrpService.construct_mac created granted
    · rw [silent i, ArpServices.fakeArp, Nested.find] at held
      simp at held
    · rw [bare i] at inside
      cases Finset.notMem_empty _ inside
    · rw [quiet] at inside
      cases inside
    · rw [forgetful k address] at known
      cases known
  have ofOne : n.OfOne stations (virtualMac .inet virtualRouterId) := by
    induction reached with
    | refl => exact start
    | tail _ step before => exact step_ofOne filtered before step
  refine ⟨fun k address m known other foreign => ?_,
    fun frame inside i interface reply answers => ?_⟩
  · rcases ofOne.caches k address m known with same | ⟨j, here⟩ | ⟨i, own⟩
    · exact same
    · exact absurd here (other j)
    · exact absurd own (foreign i)
  · rcases ofOne.frames frame inside with asked | ⟨m, address, target, wanted, _, rfl⟩
    · exact asked
    · rw [ArpServices.onFrame_reply] at answers
      cases answers

/-! One router and one station. The router becomes Master and answers for its address, through
ArpService and, once accept mode is on, through the kernel, for which arp_ignore is 1. -/

def oneHardware (interface : Int) : Option Mac :=
  if interface = 7 then some (virtualMac .inet 51)
  else if interface = 2 then some #v[2, 0, 0, 0, 0, 1] else none

def strictKernel (h : Host) (interface : Int) (frame : List UInt8) : Option (List UInt8) :=
  if room : (frame.take 28).length = 28 ∧ (frame.take 28).take 8 = [0, 1, 8, 0, 6, 4, 0, 1] then
    let target := ArpServices.vectorAt (frame.take 28) 24 4 (by omega)
    if target = #v[192, 0, 2, 1] ∧ interface = 2 ∨
        ∃ entry ∈ h.configured, entry.1 = interface ∧ entry.2.address = .ofIpv4 target then
      (oneHardware interface).map fun mac =>
        arpPacket 2 mac target (ArpServices.vectorAt (frame.take 28) 8 6 (by omega))
          (ArpServices.vectorAt (frame.take 28) 14 4 (by omega))
    else none
  else none

def oneStation : Stations Unit Unit where
  address _ := #v[192, 0, 2, 7]
  mac _ := #v[2, 0, 0, 0, 0, 7]
  hardware _ := oneHardware
  own _ address := address = #v[192, 0, 2, 1]
  kernel _ := strictKernel

theorem oneStation_filtered : oneStation.Filtered := by
  intro i h interface frame reply answers
  simp only [oneStation, strictKernel] at answers
  split at answers
  · rename_i room
    split at answers
    · rename_i near
      obtain ⟨mac, hardware, rfl⟩ := Option.map_eq_some_iff.mp answers
      refine ⟨_, _, ArpServices.vectorAt (frame.take 28) 18 6 (by omega), _, frame.drop 28, mac, ?_,
        ?_, hardware, rfl⟩
      · rw [← ArpServices.request_of_fields room.1 room.2, List.take_append_drop]
      · rcases near with ⟨own, _⟩ | ⟨⟨_, subnet⟩, configured, rfl, same⟩
        · exact .inl own
        · exact .inr ⟨subnet, configured, same⟩
    · cases answers
  · cases answers

def oneRouter : Segment Unit Unit where
  services _ := .sample 1
  hosts _ := ⟨∅, ∅⟩
  frames := []
  caches _ _ := none

def asking : Segment Unit Unit :=
  ((((oneRouter.act oneStation () (.addIpAddress ⟨.sample 100, 24⟩)).act oneStation ()
    (.enable true)).act oneStation () .masterDownExpiry).send
      (arpPacket 1 #v[2, 0, 0, 0, 0, 7] #v[192, 0, 2, 7] (Vector.replicate 6 0)
        #v[192, 0, 2, 100]))

def virtualReply : List UInt8 :=
  arpPacket 2 (virtualMac .inet 51) #v[192, 0, 2, 100] #v[2, 0, 0, 0, 0, 7] #v[192, 0, 2, 7]

def accepting : Segment Unit Unit :=
  (asking.send virtualReply).act oneStation () (.setAcceptMode true)

def remembering : Segment Unit Unit := (accepting.send virtualReply).learn () virtualReply

theorem remembering_reached :
    Relation.ReflTransGen (Step oneStation) oneRouter remembering := by
  have asks : Relation.ReflTransGen (Step oneStation) oneRouter asking :=
    (((Relation.ReflTransGen.single (.act oneRouter () (.addIpAddress ⟨.sample 100, 24⟩))).tail
      (.act _ () (.enable true))).tail (.act _ () .masterDownExpiry)).tail
        (.ask _ () #v[192, 0, 2, 100])
  have sent : asking.frames.getD 1 [] ∈ asking.frames := by decide +kernel
  have answers : Step oneStation asking (asking.send virtualReply) :=
    .answer asking () 2 sent (by decide +kernel)
  have still : asking.frames.getD 1 [] ∈ accepting.frames :=
    List.mem_append_left _ (List.mem_append_left _ sent)
  have resolves : Step oneStation accepting (accepting.send virtualReply) :=
    .resolve accepting () 7 still (by decide +kernel)
  have said : virtualReply ∈ (accepting.send virtualReply).frames :=
    List.mem_append_right _ (List.mem_singleton.mpr rfl)
  exact (((asks.tail answers).tail (.act _ () (.setAcceptMode true))).tail resolves).tail
    (.learn _ () said)

theorem failover_unnoticed_sample :
    (∀ k address m, remembering.caches k address = some m →
      (∀ j, oneStation.address j ≠ address) → (∀ i, ¬ oneStation.own i address) →
        m = virtualMac .inet 51) ∧
    ∀ frame ∈ remembering.frames, ∀ i interface reply,
      (remembering.hosts i).arp.onFrame interface frame = some reply →
        ∃ k target, frame = arpPacket 1 (oneStation.mac k) (oneStation.address k)
          (Vector.replicate 6 0) target :=
  have given : ∀ i m, oneStation.hardware i (oneRouter.services i).outputInterface = some m →
      m = virtualMac .inet 51 := fun _ m found => (Option.some.inj found).symm
  failover_unnoticed oneStation_filtered
    (fun _ => ⟨2, 0, ⟨.sample 1, 7, none, -1⟩, by decide, VrrpService.construct_sample 1⟩)
    given (fun _ => rfl) (fun _ => rfl) rfl (fun _ _ => rfl) remembering_reached

example : remembering.caches () #v[192, 0, 2, 100] = some (virtualMac .inet 51) := by
  decide +kernel

end Segment

end OpenVrrp
