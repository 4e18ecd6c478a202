import OpenVrrp.History
import OpenVrrp.Telnet.Arguments

/-! The subnets that are stored. Nothing checks their prefix lengths: text behind a slash goes
through atoi, and a number in a file is taken as it is. Of the address, what follows a colon is
taken for a port, whatever it is. -/
namespace OpenVrrp

/-- A subnet of the family with a prefix inside the address. -/
def IpSubnet.Meaningful (family : Family) (subnet : IpSubnet) : Prop :=
  subnet.address.family = family ∧ subnet.cidr.toNat ≤ 8 * subnet.address.size

def VrrpManager.Meaningful (m : VrrpManager) : Prop :=
  m.Each fun _ s => ∀ subnet ∈ s.subnets, subnet.Meaningful s.family

/-- The number behind a slash. -/
def DenotesPrefix (family : Family) (digits : Text) : Prop :=
  digits ≠ [] ∧ (∀ b ∈ digits, isDigit b = true) ∧ leadingNumber digits ≤ 8 * familySize family

/-- What follows the first slash of a text, if there is one. -/
def behindSlash (text : Text) : Option Text :=
  let front := text.takeWhile (· ≠ 47)
  if front.length < text.length then some (text.drop (front.length + 1)) else none

/-- The text is an address of the family as inet_pton takes it, and perhaps, behind a slash, a
prefix of it. -/
def DenotesSubnet (libc : Libc) (family : Family) (text : Text) : Prop :=
  (libc.inetPton family (text.takeWhile (· ≠ 47))).isSome = true ∧
    ∀ digits ∈ behindSlash text, DenotesPrefix family digits

section Text
variable {libc : Libc} {family : Family} {text : Text}

theorem ipSubnet_address (libc : Libc) (text : Text) :
    (libc.ipSubnet text).address = libc.ipAddress (text.takeWhile (· ≠ 47)) := by
  unfold Libc.ipSubnet
  dsimp only
  split
  · rfl
  · rename_i whole
    have short := (List.takeWhile_prefix (p := fun b : UInt8 => b ≠ 47) (l := text)).length_le
    have same : text.takeWhile (· ≠ 47) = text :=
      (List.takeWhile_prefix _).eq_of_length (by omega)
    rw [same]

theorem ipSubnet_cidr {digits : Text} (slash : behindSlash text = some digits)
    (denotes : DenotesPrefix family digits) :
    (libc.ipSubnet text).cidr.toNat = leadingNumber digits := by
  unfold behindSlash at slash
  dsimp only at slash
  split at slash
  · rename_i front
    have small := familySize_le family
    have bound := denotes.2.2
    have number : atoi digits = leadingNumber digits := by
      rw [atoi_digits denotes.2.1, wrapInt_small] <;> omega
    unfold Libc.ipSubnet
    dsimp only
    rw [if_pos front, Option.some.inj slash, number, UInt32.ofInt, UInt32.toNat_ofNat']
    omega
  · cases slash

theorem ipSubnet_whole (libc : Libc) (whole : behindSlash text = none) :
    (libc.ipSubnet text).cidr.toNat = 8 * (libc.ipSubnet text).address.size := by
  unfold behindSlash at whole
  dsimp only at whole
  split at whole
  · cases whole
  · rename_i front
    unfold Libc.ipSubnet
    dsimp only
    rw [if_neg front, UInt32.toNat_ofNat']
    have small : (libc.ipAddress text).size ≤ 16 := familySize_le _
    dsimp only
    omega

/-- Text that denotes a subnet and is read as an address of its family is a meaningful one. -/
theorem DenotesSubnet.meaningful (denotes : DenotesSubnet libc family text)
    (same : (libc.ipSubnet text).address.family = family) :
    (libc.ipSubnet text).Meaningful family := by
  refine ⟨same, ?_⟩
  cases slash : behindSlash text with
  | none => exact (ipSubnet_whole libc slash).le
  | some digits =>
    have given := denotes.2 digits slash
    rw [ipSubnet_cidr slash given, IpAddress.size, same]
    exact given.2.2

example : (Libc.sample.ipSubnet (ascii "192.0.2.9:garbage")).Meaningful .inet ∧
    ¬ DenotesSubnet .sample .inet (ascii "192.0.2.9:garbage") :=
  ⟨⟨by decide, by decide⟩, fun denotes => absurd denotes.1 (by decide)⟩

end Text

/-! ### What is stored -/

theorem mem_settings {s : VrrpService} {subnet : IpSubnet} :
    subnet ∈ s.settings.subnets ↔ subnet ∈ s.subnets := by
  rw [VrrpService.settings, List.mem_toFinset, Std.TreeSet.mem_toList]

/-- Only `addIpAddress` stores a subnet, and only its own. -/
theorem Settings.step_subnets {family : Family} {t : Settings} {e : Event} {subnet : IpSubnet}
    (inside : subnet ∈ (t.step family e).subnets) :
    subnet ∈ t.subnets ∨ e = .addIpAddress subnet ∧ subnet.address.family = family := by
  cases e with
  | addIpAddress other =>
    simp only [step] at inside
    split at inside
    · rename_i same
      rcases Finset.mem_insert.mp inside with rfl | before
      · exact .inr ⟨rfl, same⟩
      · exact .inl before
    · exact .inl inside
  | removeIpAddress other => exact .inl (Finset.mem_of_mem_erase inside)
  | setPriority | setAdvertisementInterval | setAcceptMode | setPrimaryIpAddress =>
    simp only [step] at inside
    split at inside <;> exact .inl inside
  | _ => exact .inl inside

/-- Only `removeIpAddress` takes one away. -/
theorem Settings.step_keeps {family : Family} {t : Settings} {e : Event} {subnet : IpSubnet}
    (kept : ∀ other, e ≠ .removeIpAddress other) (inside : subnet ∈ t.subnets) :
    subnet ∈ (t.step family e).subnets := by
  cases e with
  | addIpAddress other =>
    simp only [step]
    split
    · exact Finset.mem_insert_of_mem inside
    · exact inside
  | removeIpAddress other => exact absurd rfl (kept other)
  | setPriority | setAdvertisementInterval | setAcceptMode | setPrimaryIpAddress =>
    simp only [step]
    split <;> exact inside
  | _ => exact inside

theorem Settings.foldl_subnets {family : Family} {events : List Event} {t : Settings}
    {subnet : IpSubnet} (kept : ∀ e ∈ events, ∀ other, e ≠ .removeIpAddress other) :
    subnet ∈ (events.foldl (step family) t).subnets ↔
      subnet ∈ t.subnets ∨ .addIpAddress subnet ∈ events ∧ subnet.address.family = family := by
  induction events generalizing t with
  | nil => simp
  | cons e rest ih =>
    rw [List.foldl_cons, ih fun other inside => kept other (List.mem_cons_of_mem e inside)]
    constructor
    · rintro (now | ⟨later, same⟩)
      · rcases step_subnets now with before | ⟨rfl, same⟩
        · exact .inl before
        · exact .inr ⟨List.mem_cons_self, same⟩
      · exact .inr ⟨List.mem_cons_of_mem e later, same⟩
    · rintro (before | ⟨inside, same⟩)
      · exact .inl (step_keeps (kept e List.mem_cons_self) before)
      · rcases List.mem_cons.mp inside with rfl | later
        · exact .inl (by simp [step, same])
        · exact .inr ⟨later, same⟩

namespace Configurator

theorem removes_not_mem (r : Router) (subnet : IpSubnet) :
    Event.removeIpAddress subnet ∉ setters r := by
  unfold setters
  split <;> simp

theorem adds_mem_iff (r : Router) (subnet : IpSubnet) :
    Event.addIpAddress subnet ∈ setters r ↔ subnet ∈ r.subnets := by
  unfold setters
  split <;> simp

theorem configure_subnets (kernel : Kernel) (r : Router) (s : VrrpService) (subnet : IpSubnet) :
    subnet ∈ (configure kernel r s).subnets ↔
      subnet ∈ s.subnets ∨ subnet ∈ r.subnets ∧ subnet.address.family = s.family := by
  obtain ⟨last, ends, configured⟩ := configure_run kernel r s
  have kept : ∀ e ∈ setters r ++ [last], ∀ other, e ≠ .removeIpAddress other := by
    rintro e inside other rfl
    rcases List.mem_append.mp inside with inside | inside
    · exact removes_not_mem r other inside
    · rcases ends with ⟨isUp, rfl⟩ | rfl <;> cases List.mem_singleton.mp inside
  have added : Event.addIpAddress subnet ∈ setters r ++ [last] ↔ subnet ∈ r.subnets := by
    rw [List.mem_append, adds_mem_iff]
    apply or_iff_left
    intro inside
    rcases ends with ⟨isUp, rfl⟩ | rfl <;> cases List.mem_singleton.mp inside
  rw [← mem_settings, configured, VrrpService.run_settings, Settings.foldl_subnets kept, added,
    mem_settings]

/-! ### Configuration files -/

section Records
variable (libc : Libc) (kernel : Kernel)

/-- The record passes the checks, and its service is there or can be created. -/
def Applies (m : VrrpManager) (r : Router) : Prop :=
  Passes libc r ∧ (m.services[keyOf libc r]?.isSome ∨
    (VrrpService.construct (keyOf libc r).interface (keyOf libc r).family
      (keyOf libc r).virtualRouterId (UInt64.ofInt r.vlanId)
      (kernel.creation (keyOf libc r) (UInt64.ofInt r.vlanId))).isSome)

/-- The prefixes that a record brings to its service. Subnets of the other family are
refused by the service. -/
def RecordPrefixes (m : VrrpManager) (r : Router) : Prop :=
  Applies libc kernel m r → ∀ subnet ∈ r.subnets,
    subnet.address.family = familyOf r.addressFamily →
      subnet.cidr.toNat ≤ 8 * subnet.address.size

def RoutersPrefixes (locals : Nat → Int) (version : Int) : Nat → VrrpManager → Text → Prop
  | 0, _, _ => True
  | count + 1, m, file =>
    match readRouter version (locals count) file with
    | none => True
    | some (r, rest) => RecordPrefixes libc kernel m r ∧
        RoutersPrefixes locals version count (restore libc kernel m r) rest

def FilePrefixes (locals : Nat → Int) (m : VrrpManager) (file : Text) : Prop :=
  match readHeader file with
  | none => True
  | some ((version, routerCount), rest) =>
    RoutersPrefixes libc kernel locals version routerCount.toNat m rest

variable {libc kernel} {m : VrrpManager} {r : Router}

/-- The service of a record that is applied, before it is configured. -/
theorem applied_service (applies : Applies libc kernel m r) (running : m.Running libc) :
    ∃ s : VrrpService, s.family = familyOf r.addressFamily ∧
      (m.services[keyOf libc r]? = some s ∨
        m.services[keyOf libc r]? = none ∧ ∀ subnet, subnet ∉ s.subnets) ∧
      ∀ place, (restore libc kernel m r).services[place]? =
        if keyOf libc r = place then some (configure kernel r s) else m.services[place]? := by
  obtain ⟨passes, there⟩ := applies
  have services := restore_services libc kernel m passes
  cases stored : m.services[keyOf libc r]? with
  | some s =>
    rw [stored] at services
    have key := (running _ s stored).1.1
    exact ⟨s, congrArg RouterKey.family key, .inl rfl, services⟩
  | none =>
    rw [stored] at there services
    obtain ⟨s, made⟩ := Option.isSome_iff_exists.mp (there.resolve_left (by simp))
    rw [made] at services
    have key := VrrpService.construct_key made
    have settings := VrrpService.construct_settings made
    refine ⟨s, congrArg RouterKey.family key, .inr ⟨rfl, fun subnet inside => ?_⟩, services⟩
    have empty : subnet ∈ s.settings.subnets := mem_settings.mpr inside
    rw [settings] at empty
    exact absurd empty (Finset.notMem_empty subnet)

theorem configure_family (kernel : Kernel) (r : Router) (s : VrrpService) :
    (configure kernel r s).family = s.family := by
  obtain ⟨last, _, configured⟩ := configure_run kernel r s
  rw [configured]
  exact Runs.foldl_keeps (fun t : VrrpService => t.family = s.family) _
    (fun t e _ same => (t.step_family e).trans same) rfl

theorem restore_inapplicable (refused : ¬ Applies libc kernel m r) (place : RouterKey) :
    (restore libc kernel m r).services[place]? = m.services[place]? := by
  by_cases passes : Passes libc r
  · have nothing := not_and.mp refused passes
    rw [not_or, Option.not_isSome_iff_eq_none, Option.not_isSome_iff_eq_none] at nothing
    rw [restore_services libc kernel m passes, nothing.1, nothing.2]
    split
    · rename_i here
      rw [← here, nothing.1]
      rfl
    · rfl
  · rw [restore_refused libc kernel m passes]

/-- A record makes stored subnets meaningless with the prefixes it brings. -/
theorem restore_meaningful_iff (running : m.Running libc) (meaningful : m.Meaningful) :
    (restore libc kernel m r).Meaningful ↔ RecordPrefixes libc kernel m r := by
  by_cases applies : Applies libc kernel m r
  · obtain ⟨s, family, before, services⟩ := applied_service applies running
    constructor
    · intro after _ subnet inside same
      have stored : (restore libc kernel m r).services[keyOf libc r]? =
          some (configure kernel r s) := by rw [services, if_pos rfl]
      have given : subnet ∈ (configure kernel r s).subnets :=
        (configure_subnets kernel r s subnet).mpr (.inr ⟨inside, same.trans family.symm⟩)
      exact (after _ _ stored subnet given).2
    · intro prefixes place t stored subnet inside
      rw [services] at stored
      split at stored
      · cases stored
        rw [configure_family]
        rcases (configure_subnets kernel r s subnet).mp inside with there | ⟨given, same⟩
        · rcases before with before | ⟨_, empty⟩
          · exact meaningful _ s before subnet there
          · exact absurd there (empty subnet)
        · exact ⟨same, prefixes applies subnet given (same.trans family)⟩
      · exact meaningful place t stored subnet inside
  · refine iff_of_true (fun place t stored => ?_) fun applied => absurd applied applies
    rw [restore_inapplicable applies] at stored
    exact meaningful place t stored

/-- No record takes a subnet back. -/
theorem restore_meaningless (running : m.Running libc) (meaningless : ¬ m.Meaningful) :
    ¬ (restore libc kernel m r).Meaningful := by
  intro after
  apply meaningless
  intro place t stored subnet inside
  by_cases applies : Applies libc kernel m r
  · obtain ⟨s, family, before, services⟩ := applied_service applies running
    have there := services place
    split at there
    · rename_i here
      rcases before with before | ⟨absent, _⟩
      · cases (here ▸ before).symm.trans stored
        have kept := after _ _ there subnet
          ((configure_subnets kernel r t subnet).mpr (.inl inside))
        rwa [configure_family] at kept
      · cases (here ▸ absent).symm.trans stored
    · exact after place t (there.trans stored) subnet inside
  · exact after place t ((restore_inapplicable applies place).trans stored) subnet inside

theorem running_restore (running : m.Running libc) (known : WellRead r) :
    (restore libc kernel m r).Running libc :=
  restore_each libc kernel known VrrpManager.running_new
    (fun _ _ _ restores held => VrrpManager.running_step restores.called held) running

theorem readRouters_meaningful_iff {locals : Nat → Int} (ints : Ints locals) (version : Int)
    (count : Nat) (file : Text) {m : VrrpManager} (running : m.Running libc)
    (meaningful : m.Meaningful) :
    (readRouters libc kernel locals version count m file).1.Meaningful ↔
      RoutersPrefixes libc kernel locals version count m file := by
  induction count generalizing m file with
  | zero => exact iff_of_true meaningful trivial
  | succ count ih =>
    rw [readRouters, RoutersPrefixes]
    cases read : readRouter version (locals count) file with
    | none => exact iff_of_true meaningful trivial
    | some taken =>
      have known := readRouter_known version (ints count).1 (ints count).2 file taken read
      have next : (restore libc kernel m taken.1).Running libc := running_restore running known
      have here : (restore libc kernel m taken.1).Meaningful ↔
          RecordPrefixes libc kernel m taken.1 := restore_meaningful_iff running meaningful
      dsimp only
      by_cases prefixes : RecordPrefixes libc kernel m taken.1
      · rw [ih taken.2 next (here.mpr prefixes)]
        exact (and_iff_right prefixes).symm
      · refine iff_of_false ?_ fun both => prefixes both.1
        have lost := readRouters_restores libc kernel
          (fun m => m.Running libc ∧ ¬ m.Meaningful)
          (fun m r known held => ⟨running_restore held.1 known,
            restore_meaningless held.1 held.2⟩)
          ints version count taken.2 ⟨next, fun after => prefixes (here.mp after)⟩
        exact lost.2

theorem readConfiguration_meaningful_iff {locals : Nat → Int} (ints : Ints locals) (file : Text)
    (running : m.Running libc) (meaningful : m.Meaningful) :
    (readConfiguration libc kernel locals m file).1.Meaningful ↔
      FilePrefixes libc kernel locals m file := by
  unfold readConfiguration FilePrefixes
  cases readHeader file with
  | none => exact iff_of_true meaningful trivial
  | some taken => exact readRouters_meaningful_iff ints _ _ _ running meaningful

end Records

end Configurator

namespace TelnetSession

/-! ### Lines -/

section Lines
variable (libc : Libc) (kernel : Kernel) (m : VrrpManager) (argv : List Text)

def AddsAddress : Prop := wordIs argv 0 "add" = true ∧ wordIs argv 1 "address" = true

/-- The words say which subnet is to be added. -/
def SaysSubnet : Prop :=
  argv.length = addressPlace argv + 1 ∧
    ∃ text, argv[addressPlace argv]? = some text ∧ DenotesSubnet libc (addressFamily argv) text

/-- What says no subnet is answered with an error, and nothing changes. -/
def RefusesNonsense : Prop :=
  AddsAddress argv → ¬ SaysSubnet libc argv →
    ∀ done, onCommand libc kernel m argv = some done → done.1 = m ∧ done.2 ≠ []

/-- Where `IpAddress` makes an address of the family of the text and the service is there, the
text is that of a subnet. -/
def LineSubnet : Prop :=
  AddsAddress argv → argv.length = addressPlace argv + 1 →
    ∀ text, argv[addressPlace argv]? = some text →
      (libc.ipAddress (text.takeWhile (· ≠ 47))).family = addressFamily argv →
      (∃ found key, getService libc kernel m argv false = some (found, .ok key)) →
      DenotesSubnet libc (addressFamily argv) text

end Lines

variable {libc : Libc} {kernel : Kernel} {m : VrrpManager} {argv : List Text}

theorem onCommand_addsAddress (adds : AddsAddress argv) :
    onCommand libc kernel m argv = onAddAddressCommand libc kernel m argv := by
  have other : wordIs argv 1 "router" = false := by
    have second := adds.2
    unfold wordIs at second ⊢
    rw [beq_iff_eq.mp second]
    decide
  rw [onCommand, if_pos adds.1, onAddCommand, other, if_neg Bool.false_ne_true, if_pos adds.2]

theorem onAddAddressCommand_eq :
    onAddAddressCommand libc kernel m argv =
      if argv.length = addressPlace argv + 1 then
        argv[addressPlace argv]?.bind fun text =>
          if (libc.ipSubnet text).address.family ≠ addressFamily argv then
            some (m, [Resp.addAddress])
          else onService libc kernel m argv fun service =>
            ((service.addIpAddress (libc.ipSubnet text)).1, [])
      else some (m, [Resp.addAddress]) := rfl

theorem step_meaningful {s : VrrpService} {e : Event}
    (meaningful : ∀ subnet ∈ s.subnets, subnet.Meaningful s.family)
    (fine : ∀ subnet, e = .addIpAddress subnet → subnet.address.family = s.family →
      subnet.Meaningful s.family) :
    ∀ subnet ∈ (s.step e).1.subnets, subnet.Meaningful (s.step e).1.family := by
  intro subnet inside
  rw [← mem_settings, s.step_settings] at inside
  rw [s.step_family]
  rcases Settings.step_subnets inside with before | ⟨added, same⟩
  · exact meaningful subnet (mem_settings.mp before)
  · exact fine subnet added same

/-- The other commands store no subnet. -/
theorem other_meaningful (others : ¬ AddsAddress argv) (meaningful : m.Meaningful)
    {done : VrrpManager × List Text} (asked : onCommand libc kernel m argv = some done) :
    done.1.Meaningful := by
  refine (becomes_onCommand asked).each (fun _ made subnet inside => ?_)
    (fun key s e caused held => step_meaningful held fun subnet added _ => ?_) meaningful
  · rw [← mem_settings, VrrpService.construct_settings made] at inside
    exact absurd inside (Finset.notMem_empty subnet)
  · subst added
    cases caused with
    | plain plain => exact plain.elim
    | subnet first second _ _ => exact absurd ⟨first, second⟩ others
    | set _ _ caused =>
      cases caused with
      | plain plain => exact plain.elim

/-- An answer that is one error leaves everything as it is. -/
theorem refused_fine (meaningful : m.Meaningful) {usage : Text}
    (answer : onCommand libc kernel m argv = some (m, [usage])) :
    (∀ done, onCommand libc kernel m argv = some done → done.1.Meaningful) ∧
      RefusesNonsense libc kernel m argv := by
  constructor
  · intro done asked
    cases answer.symm.trans asked
    exact meaningful
  · intro _ _ done asked
    cases answer.symm.trans asked
    exact ⟨rfl, List.cons_ne_nil _ _⟩

/-- What is accepted is fine if the text denotes a subnet: there is no other check. -/
theorem accepted_iff (meaningful : m.Meaningful) (adds : AddsAddress argv) {text : Text}
    (length : argv.length = addressPlace argv + 1) (there : argv[addressPlace argv]? = some text)
    (family : (libc.ipAddress (text.takeWhile (· ≠ 47))).family = addressFamily argv)
    {key : RouterKey} {s : VrrpService} (stored : m.services[key]? = some s)
    (answer : onCommand libc kernel m argv =
      some (m.update key fun _ => (s.addIpAddress (libc.ipSubnet text)).1, [])) :
    DenotesSubnet libc (addressFamily argv) text ↔
      (∀ done, onCommand libc kernel m argv = some done → done.1.Meaningful) ∧
        RefusesNonsense libc kernel m argv := by
  constructor
  · intro denotes
    constructor
    · intro done asked
      cases answer.symm.trans asked
      apply VrrpManager.each_update meaningful key
      intro t same held
      cases stored.symm.trans same
      apply step_meaningful (e := .addIpAddress _) held
      intro subnet added own
      cases added
      rw [← ipSubnet_address] at family
      exact ⟨own, (denotes.meaningful family).2⟩
    · intro _ nonsense
      exact absurd ⟨length, text, there, denotes⟩ nonsense
  · rintro ⟨_, refuses⟩
    by_contra nonsense
    refine (refuses adds ?_ _ answer).2 rfl
    rintro ⟨_, other, same, denotes⟩
    cases there.symm.trans same
    exact nonsense denotes

theorem line_iff (meaningful : m.Meaningful) :
    LineSubnet libc kernel m argv ↔
      (∀ done, onCommand libc kernel m argv = some done → done.1.Meaningful) ∧
        RefusesNonsense libc kernel m argv := by
  by_cases adds : AddsAddress argv
  swap
  · exact iff_of_true (fun added => absurd added adds)
      ⟨fun done asked => other_meaningful adds meaningful asked, fun added => absurd added adds⟩
  have command : onCommand libc kernel m argv = _ :=
    (onCommand_addsAddress adds).trans onAddAddressCommand_eq
  by_cases length : argv.length = addressPlace argv + 1
  swap
  · rw [if_neg length] at command
    exact iff_of_true (fun _ counted => absurd counted length) (refused_fine meaningful command)
  obtain ⟨text, there⟩ : ∃ text, argv[addressPlace argv]? = some text :=
    ⟨_, List.getElem?_eq_getElem (by omega)⟩
  rw [if_pos length, there, Option.bind_some, ipSubnet_address] at command
  by_cases family : (libc.ipAddress (text.takeWhile (· ≠ 47))).family = addressFamily argv
  swap
  · rw [if_pos family] at command
    refine iff_of_true (fun _ _ other same own => ?_) (refused_fine meaningful command)
    cases there.symm.trans same
    exact absurd own family
  rw [if_neg (not_not.mpr family), onService] at command
  have condition : LineSubnet libc kernel m argv ↔
      ((∃ found key, getService libc kernel m argv false = some (found, .ok key)) →
        DenotesSubnet libc (addressFamily argv) text) := by
    constructor
    · exact fun fine => fine adds length text there family
    · intro fine _ _ other same _
      cases there.symm.trans same
      exact fine
  rw [condition]
  cases asked : getService libc kernel m argv false with
  | none =>
    rw [asked] at command
    have nothing : onCommand libc kernel m argv = none := command
    refine iff_of_true (fun found => ?_) ⟨fun done answer => ?_, fun _ _ done answer => ?_⟩
    · obtain ⟨_, _, impossible⟩ := found
      cases impossible
    · cases nothing.symm.trans answer
    · cases nothing.symm.trans answer
  | some found =>
    obtain ⟨kept, answer⟩ := found
    have same : kept = m := getService_lookup asked
    subst same
    rw [asked] at command
    cases answer with
    | error response =>
      refine iff_of_true (fun found => ?_) (refused_fine meaningful command)
      obtain ⟨_, _, impossible⟩ := found
      cases impossible
    | ok key =>
      obtain ⟨s, stored⟩ := Reads.getService_stored asked
      have accepted : onCommand libc kernel kept argv = some (kept.update key fun _ =>
          (s.addIpAddress (libc.ipSubnet text)).1, []) := by
        rw [command]
        simp only [Option.bind_eq_bind, Option.bind_some, stored]
        rfl
      rw [← accepted_iff meaningful adds length there family stored accepted]
      exact ⟨fun fine => fine ⟨kept, key, rfl⟩, fun fine _ => fine⟩

theorem idle_adds {line : Text}
    (idle : (arguments line).length = 0 ∨ isExit line = true) : ¬ AddsAddress (arguments line) := by
  rintro ⟨first, _⟩
  unfold wordIs at first
  have word : (arguments line)[0]? = some (ascii "add") := beq_iff_eq.mp first
  rcases idle with none | leaves
  · rw [List.length_eq_zero_iff.mp none] at word
    cases word
  · rw [isExit, List.head?_eq_getElem?, word] at leaves
    exact absurd leaves (by decide)

end TelnetSession

/-! ### Runs -/

namespace VrrpManager

/-- A step of the daemon; without a state it has read behind the words of a command. -/
def daemonStep (libc : Libc) (s : Option VrrpManager) (h : Happening) : Option VrrpManager :=
  s.bind fun m => m.happen libc h

theorem daemonStep_history (libc : Libc) (happenings : List Happening) :
    happenings.foldl (daemonStep libc) (some empty) = history libc happenings := by
  have general : ∀ s : Option VrrpManager, happenings.foldl (daemonStep libc) s =
      s.bind fun m => happenings.foldlM (happen libc) m := by
    induction happenings with
    | nil => intro s; cases s <;> rfl
    | cons h rest ih =>
      intro s
      rw [List.foldl_cons, ih]
      cases s <;> rfl
  exact general (some empty)

def StoresMeaningful (s : Option VrrpManager) : Prop := ∀ m, s = some m → m.Meaningful

def RefusesIn (libc : Libc) (s : Option VrrpManager) (h : Happening) : Prop :=
  ∀ m, s = some m →
    match h with
    | .input (.line kernel line) =>
      TelnetSession.RefusesNonsense libc kernel m (TelnetSession.arguments line)
    | _ => True

/-- The subnets of the run are meaningful in every state, and text that denotes none is
refused. -/
def OnlyMeaningful (libc : Libc) (happenings : List Happening) : Prop :=
  Runs.Always (daemonStep libc) StoresMeaningful (some empty) happenings ∧
    Runs.Admitted (daemonStep libc) (RefusesIn libc) (some empty) happenings

/-- What lines and files bring, where they are accepted. -/
def PrefixesIn (libc : Libc) (s : Option VrrpManager) (h : Happening) : Prop :=
  ∀ m, s = some m →
    match h with
    | .input (.line kernel line) =>
      TelnetSession.LineSubnet libc kernel m (TelnetSession.arguments line)
    | .input (.event _ _ _) => True
    | .configuration kernel locals _ file => Configurator.FilePrefixes libc kernel locals m file

theorem event_meaningful {m : VrrpManager} (meaningful : m.Meaningful) (key : RouterKey)
    {e : Event} (happens : ¬ e.Setter) : (m.update key fun s => (s.step e).1).Meaningful := by
  apply each_update meaningful key
  intro s _ held
  apply TelnetSession.step_meaningful held
  intro subnet added _
  exact absurd (added ▸ trivial : e.Setter) happens

theorem step_iff (libc : Libc) (s : Option VrrpManager) (h : Happening)
    (running : ∀ m, s = some m → m.Running libc) (meaningful : StoresMeaningful s) :
    PrefixesIn libc s h ↔ StoresMeaningful (daemonStep libc s h) ∧ RefusesIn libc s h := by
  cases s with
  | none => refine iff_of_true ?_ ⟨?_, ?_⟩ <;> intro m start <;> cases start
  | some m =>
    have running := running m rfl
    have meaningful := meaningful m rfl
    simp only [PrefixesIn, StoresMeaningful, RefusesIn, daemonStep, Option.some.injEq,
      forall_eq', Option.bind_some]
    cases h with
    | configuration kernel locals ints file =>
      have exact : (Configurator.readConfiguration libc kernel locals m file).1.Meaningful ↔ _ :=
        Configurator.readConfiguration_meaningful_iff ints file running meaningful
      simp only [happen, Option.some.injEq, forall_eq', and_true]
      exact exact.symm
    | input i =>
      cases i with
      | event key e happens =>
        refine iff_of_true trivial ⟨fun t taken => ?_, trivial⟩
        cases taken
        exact event_meaningful meaningful key happens
      | line kernel line =>
        simp only [happen, input]
        by_cases idle : (TelnetSession.arguments line).length = 0 ∨
            TelnetSession.isExit line = true
        · have others := TelnetSession.idle_adds idle
          rw [if_pos idle]
          refine iff_of_true (fun adds => absurd adds others) ⟨fun t taken => ?_,
            fun adds => absurd adds others⟩
          cases taken
          exact meaningful
        · rw [if_neg idle, TelnetSession.line_iff meaningful]
          apply and_congr_left
          intro _
          simp only [Option.map_eq_some_iff, forall_exists_index, and_imp,
            forall_apply_eq_imp_iff₂]

/-- Every stored subnet is meaningful, and every text that denotes none is refused, if and only
if the lines of the run bring subnets, and its files prefixes, where they are accepted. -/
theorem only_meaningful_iff (libc : Libc) (happenings : List Happening) :
    OnlyMeaningful libc happenings ↔
      Runs.Admitted (daemonStep libc) (PrefixesIn libc) (some empty) happenings := by
  refine Runs.always_and_admitted_iff (fun s => ∀ m, s = some m → m.Running libc)
    (fun s h running t taken => ?_) (step_iff libc) (fun m start => ?_) (fun m start => ?_)
    happenings
  · obtain ⟨m, there, stepped⟩ := Option.bind_eq_some_iff.mp taken
    exact running_happen m h t (running m there) stepped
  · cases start
    exact empty_each
  · cases start
    exact empty_each

def typedLines : List Happening :=
  [.input (.line .sample (ascii "add router eth0 51")),
    .input (.line .sample (ascii "add address eth0 51 192.0.2.9/-1"))]

/-- A prefix of minus one is stored as one of 4294967295 bits. -/
theorem negative_prefix_stored : ¬ OnlyMeaningful .sample typedLines := by
  rintro ⟨always, _⟩
  have stored : (history .sample typedLines).any (fun m => m.services.toList.any fun p =>
      p.2.subnets.toList.any fun subnet => decide (128 < subnet.cidr.toNat)) = true := by
    decide +kernel
  obtain ⟨m, reached, stored⟩ := (Option.any_eq_true _ _).mp stored
  obtain ⟨⟨key, s⟩, inside, stored⟩ := List.any_eq_true.mp stored
  obtain ⟨subnet, given, long⟩ := List.any_eq_true.mp stored
  have last := (daemonStep_history .sample typedLines).trans reached
  have meaningful := always.2.2 m last key s
    (Std.TreeMap.mem_toList_iff_getElem?_eq_some.mp inside) subnet
    (Std.TreeSet.mem_toList.mp given)
  have size : subnet.address.size ≤ 16 := familySize_le _
  have bound := meaningful.2
  have many := of_decide_eq_true long
  omega

end VrrpManager

end OpenVrrp
