import OpenVrrp.Library.Runs
import OpenVrrp.Manager.Registration

/-! The listeners of the sockets against the live services. The manager keeps the services
apart by physical interface, router id and family, a socket by input interface and router
id: a service on a VLAN interface and one that has that interface as its physical one meet in
the same slot. -/
namespace OpenVrrp.Registration

abbrev Slot := Family × Int × UInt8

def slot (s : VrrpService) : Slot := (s.family, s.inputInterface, s.virtualRouterId)

def listenerIn (groups : Family → Group) (q : Slot) : Option Nat :=
  (groups q.1).listener q.2.1 q.2.2

structure ListenersMatch (r : Registration) : Prop where
  reached : ∀ (key : RouterKey) registered, r.services[key]? = some registered →
    listenerIn r.groups (slot registered.service) = some registered.pointer
  live : ∀ q pointer, listenerIn r.groups q = some pointer →
    ∃ (key : RouterKey) (registered : Registered), r.services[key]? = some registered ∧
      registered.pointer = pointer

/-- What holds whatever the requests are: no two services have the same number, and a
listener that is a live service is one in its own slot. -/
structure Numbered (r : Registration) : Prop where
  used : ∀ (key : RouterKey) registered, r.services[key]? = some registered →
    registered.pointer ≤ r.allocated
  distinct : ∀ (key other : RouterKey) first second, r.services[key]? = some first →
    r.services[other]? = some second → first.pointer = second.pointer → key = other
  entered : ∀ q pointer, listenerIn r.groups q = some pointer → pointer ≤ r.allocated
  own : ∀ q pointer, listenerIn r.groups q = some pointer →
    ∀ (key : RouterKey) registered, r.services[key]? = some registered →
      registered.pointer = pointer → slot registered.service = q

/-- The slot that the constructor fills or, when it fails, the destructor empties. -/
def slotOf (key : RouterKey) (vlanId : UInt64) (answers : Answers) : Slot :=
  (key.family, if 0 < vlanId ∧ 0 ≤ answers.creation.vlanInterface
    then answers.creation.vlanInterface else key.interface, key.virtualRouterId)

/-- No service is made, or fails to be made, in the slot of a live one. -/
def KeepsListeners (r : Registration) : Request → Prop
  | .getService key vlanId createIfMissing answers =>
    r.Creates key createIfMissing answers →
      ∀ (other : RouterKey) registered, r.services[other]? = some registered →
        slot registered.service ≠ slotOf key vlanId answers
  | .removeService _ => True

/-! ### Slots -/

theorem listenerIn_update (groups : Family → Group) {q : Slot} {g : Group} {entry : Option Nat}
    (self : g.listener q.2.1 q.2.2 = entry)
    (others : ∀ i v, (q.2.1 = i → q.2.2 ≠ v) → g.listener i v = (groups q.1).listener i v)
    (p : Slot) : listenerIn (Function.update groups q.1 g) p =
      if q = p then entry else listenerIn groups p := by
  unfold listenerIn
  by_cases family : q.1 = p.1
  · rw [← family, Function.update_self]
    by_cases same : q = p
    · rw [if_pos same, ← same, self]
    · rw [if_neg same]
      exact others _ _ fun interface router => same (Prod.ext family (Prod.ext interface router))
  · rw [Function.update_of_ne (Ne.symm family), if_neg fun same => family (congrArg Prod.fst same)]

theorem listenerIn_register (groups : Family → Group) (joined : Bool) (q : Slot) (pointer : Nat)
    (p : Slot) : listenerIn (Function.update groups q.1
      ((groups q.1).register joined q.2.1 q.2.2 pointer).1) p =
        if q = p then some pointer else listenerIn groups p := by
  have kept : ((groups q.1).addInterface joined q.2.1).1.socket.listeners =
      (groups q.1).socket.listeners := by
    unfold Group.addInterface VrrpSocket.addInterface
    dsimp only
    split
    · rfl
    · split <;> rfl
  refine listenerIn_update groups ?_ (fun i v other => ?_) p
  · exact Nested.find_put_self ..
  · have same := congrArg (fun m => Nested.find m i v) kept
    exact (Nested.find_put_other _ _ other).trans same

theorem listenerIn_unregister (groups : Family → Group) (q p : Slot) :
    listenerIn (Function.update groups q.1 ((groups q.1).unregister q.2.1 q.2.2)) p =
      if q = p then none else listenerIn groups p := by
  have kept : ((groups q.1).removeInterface q.2.1).socket.listeners =
      (groups q.1).socket.listeners := by
    unfold Group.removeInterface VrrpSocket.removeInterface
    dsimp only
    split <;> rfl
  refine listenerIn_update groups ?_ (fun i v other => ?_) p
  · exact Nested.find_drop_self ..
  · have same := congrArg (fun m => Nested.find m i v) kept
    exact (Nested.find_drop_other _ other).trans same

theorem slot_made {key : RouterKey} {vlanId : UInt64} {answers : Answers} {s : VrrpService}
    (made : VrrpService.construct key.interface key.family key.virtualRouterId vlanId
      answers.creation = some s) : slot s = slotOf key vlanId answers := by
  have accepted : ¬ (0 < vlanId ∧ answers.creation.vlanInterface < 0) := fun refused => by
    rw [VrrpService.construct_eq_none_iff.mpr refused] at made
    cases made
  obtain ⟨_, _, _, _, rfl⟩ := VrrpService.construct_fresh made
  refine Prod.ext rfl (Prod.ext ?_ rfl)
  change (if 0 < vlanId then _ else _) = _
  by_cases vlan : 0 < vlanId
  · have fine : 0 ≤ answers.creation.vlanInterface := Int.not_lt.mp fun low => accepted ⟨vlan, low⟩
    simp [slotOf, vlan, fine]
  · simp [slotOf, vlan]

theorem slot_service {key : RouterKey} {vlanId : UInt64} {answers : Answers} {s : VrrpService}
    (made : VrrpService.construct key.interface key.family key.virtualRouterId vlanId
      answers.creation = some s) :
    slot s = (key.family, s.inputInterface, key.virtualRouterId) := by
  obtain ⟨_, _, _, _, rfl⟩ := VrrpService.construct_fresh made
  rfl

theorem slot_refused {key : RouterKey} {vlanId : UInt64} {answers : Answers}
    (refused : 0 < vlanId ∧ answers.creation.vlanInterface < 0) :
    slotOf key vlanId answers = (key.family, key.interface, key.virtualRouterId) := by
  rw [slotOf, if_neg fun fine => absurd refused.2 (Int.not_lt.mpr fine.2)]

/-! ### Steps -/

theorem listenerIn_emptied {before groups after : Family → Group} {q : Slot}
    (slots : ∀ p, listenerIn groups p = if q = p then none else listenerIn before p)
    (same : after = groups) (p : Slot) (pointer : Nat) (entry : listenerIn after p = some pointer) :
    listenerIn before p = some pointer := by
  rw [same, slots] at entry
  split at entry
  · cases entry
  · exact entry

/-- A slot is emptied. -/
theorem Numbered.emptied {r : Registration} (numbered : r.Numbered) {groups : Family → Group}
    {q : Slot} (slots : ∀ p, listenerIn groups p = if q = p then none else listenerIn r.groups p)
    {t : Registration} (same : t.groups = groups) (more : r.allocated ≤ t.allocated)
    (fewer : ∀ (key : RouterKey) registered, t.services[key]? = some registered →
      r.services[key]? = some registered) : t.Numbered := by
  have entries := listenerIn_emptied slots same
  exact ⟨fun key registered stored => (numbered.used key registered (fewer _ _ stored)).trans more,
    fun key other first second a b => numbered.distinct key other first second (fewer _ _ a)
      (fewer _ _ b),
    fun p pointer entry => (numbered.entered p pointer (entries p pointer entry)).trans more,
    fun p pointer entry key registered stored =>
      numbered.own p pointer (entries p pointer entry) key registered (fewer _ _ stored)⟩

theorem erase_stored {r : Registration} {key other : RouterKey} {registered : Registered}
    (stored : (r.services.erase key)[other]? = some registered) :
    key ≠ other ∧ r.services[other]? = some registered := by
  by_cases same : key = other
  · rw [← same, Nested.erase_self] at stored
    cases stored
  · exact ⟨same, by rwa [Nested.erase_other _ same] at stored⟩

theorem insert_stored {r : Registration} {key other : RouterKey} {new registered : Registered}
    (stored : (r.services.insert key new)[other]? = some registered) :
    (key = other ∧ new = registered) ∨ (key ≠ other ∧ r.services[other]? = some registered) := by
  by_cases same : key = other
  · subst same
    rw [Nested.insert_self] at stored
    exact .inl ⟨rfl, Option.some.inj stored⟩
  · exact .inr ⟨same, by rwa [Nested.insert_other _ _ same] at stored⟩

theorem step_numbered (r : Registration) (request : Request) (numbered : r.Numbered) :
    (r.step request).Numbered := by
  have changes := r.step_changes request
  generalize r.step request = t at changes
  cases changes with
  | answered | unknown => exact numbered
  | @refused key _ _ _ _ creates vlan =>
    exact numbered.emptied (listenerIn_unregister r.groups
      (key.family, key.interface, key.virtualRouterId)) rfl (Nat.le_succ _) fun _ _ => id
  | @removed key registered stored =>
    exact numbered.emptied (listenerIn_unregister r.groups (slot registered.service)) rfl
      (Nat.le_refl _) fun _ _ stored => (erase_stored stored).2
  | @created key _ _ answers _ service creates made =>
    have slots := listenerIn_register r.groups answers.joined
      (key.family, service.inputInterface, key.virtualRouterId) (r.allocated + 1)
    refine ⟨fun other registered stored => ?_, fun a b first second left right same => ?_,
      fun p pointer entry => ?_, fun p pointer entry other registered stored same => ?_⟩
    · rcases insert_stored stored with ⟨_, rfl⟩ | ⟨_, stored⟩
      · exact Nat.le_refl _
      · exact Nat.le_succ_of_le (numbered.used other registered stored)
    · rcases insert_stored left with ⟨rfl, rfl⟩ | ⟨_, before⟩
      · rcases insert_stored right with ⟨here, _⟩ | ⟨_, after⟩
        · exact here
        · have used := numbered.used b second after
          dsimp only at same
          omega
      · rcases insert_stored right with ⟨_, rfl⟩ | ⟨_, after⟩
        · have used := numbered.used a first before
          dsimp only at same
          omega
        · exact numbered.distinct a b first second before after same
    · rw [slots] at entry
      split at entry
      · exact (Option.some.inj entry).symm.le
      · exact Nat.le_succ_of_le (numbered.entered p pointer entry)
    · rw [slots] at entry
      split at entry
      · rename_i here
        rcases insert_stored stored with ⟨_, rfl⟩ | ⟨_, before⟩
        · exact (slot_service made).trans here
        · have used := numbered.used other registered before
          have new := Option.some.inj entry
          omega
      · rcases insert_stored stored with ⟨_, rfl⟩ | ⟨_, before⟩
        · have entered := numbered.entered p pointer entry
          dsimp only at same
          omega
        · exact numbered.own p pointer entry other registered before same

/-- No number is the listener in two slots. -/
def Single (r : Registration) : Prop :=
  ∀ p q pointer, listenerIn r.groups p = some pointer → listenerIn r.groups q = some pointer →
    p = q

theorem Single.emptied {r : Registration} (single : r.Single) {groups : Family → Group} {s : Slot}
    (slots : ∀ p, listenerIn groups p = if s = p then none else listenerIn r.groups p)
    {t : Registration} (same : t.groups = groups) : t.Single := by
  have entries := listenerIn_emptied slots same
  exact fun p q pointer first second =>
    single p q pointer (entries p pointer first) (entries q pointer second)

theorem step_single (r : Registration) (request : Request) (numbered : r.Numbered)
    (single : r.Single) : (r.step request).Single := by
  have changes := r.step_changes request
  generalize r.step request = t at changes
  cases changes with
  | answered | unknown => exact single
  | @refused key =>
    exact single.emptied (listenerIn_unregister r.groups
      (key.family, key.interface, key.virtualRouterId)) rfl
  | @removed key registered stored =>
    exact single.emptied (listenerIn_unregister r.groups (slot registered.service)) rfl
  | @created key _ _ answers _ service creates made =>
    have slots := listenerIn_register r.groups answers.joined
      (key.family, service.inputInterface, key.virtualRouterId) (r.allocated + 1)
    have fresh : ∀ p, listenerIn r.groups p ≠ some (r.allocated + 1) := fun p entry =>
      absurd (numbered.entered p _ entry) (Nat.not_succ_le_self _)
    intro p q pointer first second
    rw [slots] at first second
    split at first
    · rename_i left
      split at second
      · rename_i right
        exact left.symm.trans right
      · exact absurd (second.trans first.symm) (fresh q)
    · split at second
      · exact absurd (first.trans second.symm) (fresh p)
      · exact single p q pointer first second

/-- Emptying a slot is right if and only if no service is left in it. -/
theorem Numbered.emptied_iff {r t : Registration} (numbered : r.Numbered)
    (holds : r.ListenersMatch) {q : Slot}
    (slots : ∀ p, listenerIn t.groups p = if q = p then none else listenerIn r.groups p)
    (fewer : ∀ (key : RouterKey) registered, t.services[key]? = some registered →
      r.services[key]? = some registered)
    (kept : ∀ (key : RouterKey) registered, r.services[key]? = some registered →
      q ≠ slot registered.service → t.services[key]? = some registered) :
    t.ListenersMatch ↔ ∀ (key : RouterKey) registered, t.services[key]? = some registered →
      slot registered.service ≠ q := by
  constructor
  · intro same key registered stored here
    have reached := same.reached key registered stored
    rw [slots, if_pos here.symm] at reached
    cases reached
  · intro free
    constructor
    · intro key registered stored
      rw [slots, if_neg (Ne.symm (free key registered stored))]
      exact holds.reached key registered (fewer key registered stored)
    · intro p pointer entry
      rw [slots] at entry
      split at entry
      · cases entry
      · rename_i elsewhere
        obtain ⟨key, registered, stored, same⟩ := holds.live p pointer entry
        have here := numbered.own p pointer entry key registered stored same
        exact ⟨key, registered, kept key registered stored (here ▸ elsewhere), same⟩

theorem step_listeners_iff (r : Registration) (request : Request) (numbered : r.Numbered)
    (holds : r.ListenersMatch) :
    (r.step request).ListenersMatch ↔ r.KeepsListeners request := by
  have changes := r.step_changes request
  generalize r.step request = t at changes
  cases changes with
  | answered idle => exact iff_of_true holds fun creates => absurd creates idle
  | unknown absent => exact iff_of_true holds trivial
  | @refused key _ _ _ _ creates vlan =>
    have slots := listenerIn_unregister r.groups (key.family, key.interface, key.virtualRouterId)
    refine Iff.trans
      (numbered.emptied_iff holds slots (fun _ _ => id) fun _ _ stored _ => stored) ?_
    rw [← slot_refused vlan]
    exact ⟨fun free _ => free, fun keeps => keeps creates⟩
  | @removed key registered stored =>
    have slots := listenerIn_unregister r.groups (slot registered.service)
    refine iff_of_true ((numbered.emptied_iff holds slots (fun _ _ kept => (erase_stored kept).2)
      fun other second before elsewhere => ?_).mpr fun other second kept same => ?_) trivial
    · have apart : key ≠ other := by
        rintro rfl
        cases Option.some.inj (stored.symm.trans before)
        exact elsewhere rfl
      exact (Nested.erase_other _ apart).trans before
    · obtain ⟨apart, before⟩ := erase_stored kept
      have mine := holds.reached key registered stored
      have theirs := holds.reached other second before
      rw [same, mine] at theirs
      exact apart (numbered.distinct key other registered second stored before
        (Option.some.inj theirs))
  | @created key _ _ answers _ service creates made =>
    have slots := listenerIn_register r.groups answers.joined
      (key.family, service.inputInterface, key.virtualRouterId) (r.allocated + 1)
    have apart : ∀ {other : RouterKey} {registered},
        r.services[other]? = some registered → key ≠ other := by
      rintro other registered stored rfl
      rw [creates.1] at stored
      cases stored
    constructor
    · intro same _ other registered stored here
      have reached := same.reached other registered
        ((Nested.insert_other _ _ (apart stored)).trans stored)
      rw [slots, if_pos ((slot_service made).symm.trans ((slot_made made).trans here.symm))]
        at reached
      have used := numbered.used other registered stored
      have new := Option.some.inj reached
      omega
    · intro keeps
      have free := keeps creates
      rw [← slot_made made, slot_service made] at free
      constructor
      · intro other registered stored
        rw [slots]
        rcases insert_stored stored with ⟨_, rfl⟩ | ⟨_, before⟩
        · exact if_pos (slot_service made).symm
        · rw [if_neg (Ne.symm (free other registered before))]
          exact holds.reached other registered before
      · intro p pointer entry
        rw [slots] at entry
        split at entry
        · exact ⟨key, _, Nested.insert_self _ _ _, Option.some.inj entry⟩
        · obtain ⟨other, registered, before, same⟩ := holds.live p pointer entry
          exact ⟨other, registered, (Nested.insert_other _ _ (apart before)).trans before, same⟩

theorem initial_numbered : initial.Numbered := by
  have nobody : ∀ (key : RouterKey) registered, initial.services[key]? ≠ some registered := by
    intro key registered stored
    cases stored
  have silent : ∀ q pointer, listenerIn initial.groups q ≠ some pointer := by
    intro q pointer entry
    cases entry
  exact ⟨fun _ _ stored => absurd stored (nobody _ _),
    fun _ _ _ _ stored => absurd stored (nobody _ _), fun _ _ entry => absurd entry (silent _ _),
    fun _ _ entry => absurd entry (silent _ _)⟩

/-- Whatever was requested, a listener is registered with its socket for one interface and
router id. -/
theorem registered_once (requests : List Request) :
    Runs.Always step (fun r => ∀ family listener i v j w,
      Nested.find (r.groups family).socket.listeners i v = some listener →
        Nested.find (r.groups family).socket.listeners j w = some listener → i = j ∧ v = w)
      initial requests := by
  have start : initial.Numbered ∧ initial.Single :=
    ⟨initial_numbered, fun _ _ _ entry => nomatch entry⟩
  have kept := @Runs.always_of_kept _ _ step (fun r => r.Numbered ∧ r.Single)
    (fun r request held => ⟨r.step_numbered request held.1, r.step_single request held.1 held.2⟩)
    _ start requests
  apply kept.imp
  intro r held family listener i v j w first second
  have same := held.2 (family, i, v) (family, j, w) listener first second
  exact ⟨congrArg (·.2.1) same, congrArg (·.2.2) same⟩

/-- From the start and after every request every live service is the listener in its slot and
every listener is a live service, if and only if no service is made, or fails to be made for
its VLAN interface, in the slot of a live one. -/
theorem listeners_match_iff (requests : List Request) :
    Runs.Always step ListenersMatch initial requests ↔
      Runs.Admitted step KeepsListeners initial requests := by
  have start : initial.ListenersMatch := by
    constructor
    · intro _ _ stored
      cases stored
    · intro _ _ entry
      cases entry
  exact Runs.always_iff_admitted Numbered step_numbered
    (fun r request numbered holds => (step_listeners_iff r request numbered holds).mpr)
    (fun r request numbered holds => mt (step_listeners_iff r request numbered holds).mp)
    initial_numbered start requests

/-- A service on the VLAN interface 9, and then one that has interface 9 as its physical
interface: the first one is not reached any more. -/
theorem vlan_interface_shadowed : ¬ Runs.Always step ListenersMatch initial
    [.getService ⟨2, 51, .inet⟩ 10 true ⟨true, ⟨.sample 1, 7, none, 9⟩, true⟩,
      .getService ⟨9, 51, .inet⟩ 0 true ⟨true, ⟨.sample 1, 8, none, -1⟩, true⟩] := by
  rintro ⟨_, _, agree⟩
  have reached := agree.reached ⟨2, 51, .inet⟩ _ rfl
  revert reached
  decide +kernel

end OpenVrrp.Registration
