import OpenVrrp.Manager
import OpenVrrp.Service.Transitions

/-! Netlink::addInterface, with the uses of its socket in order, and what the constructor of a
service makes of the answer. The branch for a refused request frees the socket like the ones
behind it, but does not return. -/
namespace OpenVrrp.Netlink

inductive SocketUse where
  | send | waitForAck | allocCache | free
  deriving DecidableEq

/-- The index of each interface by its name. -/
abbrev LinkTable := Text → Option Nat

/-- What the calls of libnl answer: the kernel's acknowledgement comes with the index of the
interface that it has made. -/
structure Outcomes where
  opened : Bool
  sent : Bool
  created : Option Nat
  cached : Bool

/-- The request reached the kernel and was acknowledged. -/
def Outcomes.acknowledged (o : Outcomes) : Option Nat :=
  if o.opened && o.sent then o.created else none

structure Added where
  result : Int
  uses : List SocketUse
  links : LinkTable

/-- `rtnl_link_name2i`. -/
def nameToIndex (links : LinkTable) (name : Text) : Int := ((links name).getD 0 : Nat)

/-- A refused request changes nothing. Behind a second `free` nothing is defined; the result
is the one of a process that survives it. -/
def addInterface (links : LinkTable) (o : Outcomes) (name : Text) : Added :=
  if o.opened = false then ⟨-1, [], links⟩
  else
    let sending := .send :: if o.sent then [.waitForAck] else []
    let (refusal, links) := match o.acknowledged with
      | some index => ([], fun other => if other = name then some index else links other)
      | none => ([SocketUse.free], links)
    if o.cached = false then ⟨-1, sending ++ refusal ++ [.allocCache, .free], links⟩
    else ⟨nameToIndex links name, sending ++ refusal ++ [.allocCache, .free], links⟩

/-- Both build a request of their own and hand over the answer. -/
def addMacvlanInterface (links : LinkTable) (o : Outcomes) (name : Text) : Added :=
  addInterface links o name

def addVlanInterface (links : LinkTable) (o : Outcomes) (name : Text) : Added :=
  addInterface links o name

/-- The constructor with its one or two requests to Netlink. -/
def createService (links : LinkTable) (macvlan vlan : Outcomes) (key : RouterKey)
    (vlanId : UInt64) (primary : IpAddress) (hardwareAddress : Option Mac) :
    Option VrrpService :=
  let first := addMacvlanInterface links macvlan (macvlanName key.family key.virtualRouterId)
  let second := addVlanInterface first.links vlan
    (vlanName key.family key.virtualRouterId vlanId)
  VrrpService.construct key.interface key.family key.virtualRouterId vlanId
    ⟨primary, first.result, hardwareAddress, second.result⟩

/-- The socket is freed once, and not used after that. -/
def FreedOnce (uses : List SocketUse) : Prop :=
  ∃ before, uses = before ++ [.free] ∧ .free ∉ before

/-- Without its MACVLAN interface a service runs on the physical one, and an interface that
it takes for its MACVLAN is the one that was made for it. -/
structure FallsBack (o : Outcomes) (key : RouterKey) (vlanId : UInt64) (s : VrrpService) :
    Prop where
  physical : o.acknowledged = none →
    s.macvlanInterface < 0 ∧ (vlanId = 0 → s.outputInterface = key.interface)
  own : ∀ index : Nat, s.macvlanInterface = index → o.acknowledged = some index

/-- A request fails cleanly or yields the interface that it has made. -/
structure CreatesCleanly (links : LinkTable) (o : Outcomes) (name : Text) : Prop where
  freed : o.opened = true → FreedOnce (addInterface links o name).uses
  made : ∀ index, o.acknowledged = some index → (addInterface links o name).result = index
  refused : o.acknowledged = none → (addInterface links o name).result < 0
  fallsBack : ∀ vlan key vlanId primary hardwareAddress s,
    name = macvlanName key.family key.virtualRouterId →
      createService links o vlan key vlanId primary hardwareAddress = some s →
        FallsBack o key vlanId s

section Creation
variable {links : LinkTable} {o : Outcomes} {name : Text}

theorem addInterface_closed (closed : o.opened = false) :
    addInterface links o name = ⟨-1, [], links⟩ := by
  rw [addInterface, if_pos closed]

theorem acknowledged_closed (closed : o.opened = false) : o.acknowledged = none := by
  simp [Outcomes.acknowledged, closed]

theorem acknowledged_opened {index : Nat} (acknowledged : o.acknowledged = some index) :
    o.opened = true ∧ o.sent = true := by
  unfold Outcomes.acknowledged at acknowledged
  split at acknowledged
  · rename_i both
    simpa using both
  · cases acknowledged

theorem addInterface_made (links : LinkTable) (name : Text) {index : Nat}
    (acknowledged : o.acknowledged = some index) :
    (addInterface links o name).result = (if o.cached then (index : Int) else -1) ∧
      (addInterface links o name).uses = [.send, .waitForAck, .allocCache, .free] := by
  obtain ⟨opened, sent⟩ := acknowledged_opened acknowledged
  unfold addInterface
  rw [if_neg (by simp [opened]), acknowledged, sent]
  cases o.cached <;> simp [nameToIndex]

theorem addInterface_refused (links : LinkTable) (name : Text)
    (opened : o.opened = true) (refused : o.acknowledged = none) :
    ∃ before, (addInterface links o name).uses = before ++ [.free] ++ [.allocCache, .free] := by
  unfold addInterface
  rw [if_neg (by simp [opened]), refused]
  dsimp only
  split <;> exact ⟨_, rfl⟩

/-- The MACVLAN interface is what Netlink answers, and without it and without a VLAN the
physical interface stays the output. -/
theorem construct_macvlan {key : RouterKey} {vlanId : UInt64} {answers : Creation}
    {s : VrrpService} (created : VrrpService.construct key.interface key.family
      key.virtualRouterId vlanId answers = some s) :
    s.macvlanInterface = answers.macvlanInterface ∧
      (answers.macvlanInterface < 0 → vlanId = 0 → s.outputInterface = key.interface) := by
  unfold VrrpService.construct VrrpService.createMacvlan at created
  by_cases missing : answers.macvlanInterface < 0
  · simp only [missing, if_true] at created
    split at created
    · rename_i wanted
      split at created
      · cases created
      · cases created
        refine ⟨rfl, fun _ none => ?_⟩
        subst none
        exact absurd (show (0 : UInt64) < 0 from wanted) (by decide)
    · cases created
      exact ⟨rfl, fun _ _ => rfl⟩
  · simp only [missing, if_false] at created
    split at created
    · split at created
      · cases created
      · cases created
        exact ⟨rfl, fun low => absurd low missing⟩
    · cases created
      exact ⟨rfl, fun low => absurd low missing⟩

theorem fallsBack_of_result {key : RouterKey} {vlanId : UInt64} {answers : Creation}
    {s : VrrpService} (created : VrrpService.construct key.interface key.family
      key.virtualRouterId vlanId answers = some s)
    (made : ∀ index, o.acknowledged = some index → answers.macvlanInterface = index)
    (refused : o.acknowledged = none → answers.macvlanInterface < 0) :
    FallsBack o key vlanId s := by
  obtain ⟨macvlan, output⟩ := construct_macvlan created
  constructor
  · intro nothing
    have missing := refused nothing
    exact ⟨macvlan ▸ missing, output missing⟩
  · intro index same
    rw [macvlan] at same
    cases answer : o.acknowledged with
    | none =>
      have missing := refused answer
      omega
    | some other =>
      have here := made other answer
      rw [same] at here
      exact congrArg some (Int.ofNat.inj here).symm

/-- The first release is already followed by a use. -/
theorem not_freedOnce_of_later (before : List SocketUse) :
    ¬ FreedOnce (before ++ [.free] ++ [.allocCache, .free]) := by
  rintro ⟨early, same, none⟩
  have last : before ++ [SocketUse.free] ++ [.allocCache] = early := by
    have whole : before ++ [SocketUse.free] ++ [.allocCache] ++ [.free] = early ++ [.free] := by
      simpa using same
    exact List.append_cancel_right whole
  rw [← last] at none
  simp at none

/-- Where the call itself fails cleanly, the constructor does so with it. -/
theorem createsCleanly_of_add
    (freed : o.opened = true → FreedOnce (addInterface links o name).uses)
    (made : ∀ index, o.acknowledged = some index → (addInterface links o name).result = index)
    (refused : o.acknowledged = none → (addInterface links o name).result < 0) :
    CreatesCleanly links o name := by
  refine ⟨freed, made, refused, ?_⟩
  rintro vlan key vlanId primary hardwareAddress s rfl created
  exact fallsBack_of_result created made refused

theorem creates_cleanly_iff (links : LinkTable) (o : Outcomes) (name : Text) :
    CreatesCleanly links o name ↔
      o.opened = false ∨ (o.acknowledged ≠ none ∧ o.cached = true) := by
  constructor
  · intro clean
    by_contra neither
    push Not at neither
    have opened : o.opened = true := by simpa using neither.1
    have freed := clean.freed opened
    cases answer : o.acknowledged with
    | none =>
      obtain ⟨before, twice⟩ := addInterface_refused links name opened answer
      rw [twice] at freed
      exact not_freedOnce_of_later before freed
    | some index =>
      have made := clean.made index answer
      rw [(addInterface_made links name answer).1, if_neg (neither.2 (by simp [answer]))] at made
      omega
  · rintro (closed | ⟨answered, cached⟩)
    · have nothing := acknowledged_closed closed
      apply createsCleanly_of_add
      · intro opened
        rw [closed] at opened
        cases opened
      · intro index answer
        rw [nothing] at answer
        cases answer
      · intro _
        rw [addInterface_closed closed]
        exact Int.negSucc_lt_zero 0
    · obtain ⟨index, answer⟩ := Option.ne_none_iff_exists'.mp answered
      obtain ⟨result, uses⟩ := addInterface_made links name answer
      apply createsCleanly_of_add
      · intro _
        exact ⟨[.send, .waitForAck, .allocCache], uses, by decide⟩
      · intro other same
        rw [result, if_pos cached, ← Option.some.inj (answer.symm.trans same)]
      · intro nothing
        exact absurd nothing answered

/-- A router of a process before has left its interface: the kernel refuses the second one of
that name, and the call answers with the index of the first. -/
def leftOver : LinkTable := fun name => if name = ascii "vrrp.51" then some 7 else none

def refused : Outcomes := ⟨true, true, none, true⟩

theorem foreign_interface_taken :
    ¬ CreatesCleanly leftOver refused (ascii "vrrp.51") ∧
      (addInterface leftOver refused (ascii "vrrp.51")).result = 7 ∧
      (addInterface leftOver refused (ascii "vrrp.51")).uses =
        [.send, .waitForAck, .free, .allocCache, .free] ∧
      macvlanName .inet 51 = ascii "vrrp.51" := by
  refine ⟨?_, by decide, by decide, by decide⟩
  intro clean
  exact absurd (clean.refused rfl) (by decide)

end Creation

end OpenVrrp.Netlink
