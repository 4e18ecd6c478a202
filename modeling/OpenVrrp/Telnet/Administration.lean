import OpenVrrp.Library.Nested
import OpenVrrp.Manager.Registration
import OpenVrrp.Service.Settings
import OpenVrrp.Telnet.Commands

/-! Runs of the daemon under administration: the lines of telnet clients, and between them
whatever the network and the clock do to the services. -/
namespace OpenVrrp

/-- What every service has that was made and set by commands. -/
structure Administered (libc : Libc) (s : VrrpService) : Prop where
  named : ∃ name, libc.nameToIndex name = s.interface
  interface : 0 < s.interface
  router : s.virtualRouterId ≠ 0
  family : s.family ≠ .unspec
  vlan : ∃ n : Int, -2 ^ 31 ≤ n ∧ n < 2 ^ 31 ∧ s.vlanId = UInt64.ofInt n
  settings : s.settings.Valid s.family

def VrrpManager.Each (m : VrrpManager) (held : RouterKey → VrrpService → Prop) : Prop :=
  ∀ key s, m.services[key]? = some s → held key s

/-- The invariant of VrrpManager: a service is under its own key, and administered. -/
def VrrpManager.Sound (libc : Libc) (m : VrrpManager) : Prop :=
  m.Each fun key s => s.key = key ∧ Administered libc s

/-- In a list of all services each is found under the key that it is stored under. -/
theorem VrrpManager.find_listed {m : VrrpManager} (keyed : m.Each fun key s => s.key = key)
    {listed : List VrrpService} (all : ∀ s, s ∈ listed ↔ m.services[s.key]? = some s)
    (key : RouterKey) : listed.find? (fun s => s.key = key) = m.services[key]? := by
  cases found : listed.find? fun s => s.key = key with
  | some s =>
    have same : s.key = key := by simpa using List.find?_some found
    rw [← same]
    exact ((all s).mp (List.mem_of_find?_eq_some found)).symm
  | none =>
    refine (Option.eq_none_iff_forall_ne_some.mpr fun s stored => ?_).symm
    have same := keyed key s stored
    have inside := (all s).mpr (same.symm ▸ stored)
    exact absurd (decide_eq_true same) (List.find?_eq_none.mp found s inside)

namespace VrrpService

theorem step_key (s : VrrpService) (e : Event) : (s.step e).1.key = s.key := by
  have same := s.step_identity e
  simp only [identity, Prod.mk.injEq] at same
  exact RouterKey.ext same.1 same.2.1 same.2.2.1

end VrrpService

/-! ### What keeps the invariant -/

namespace Administered

variable {libc : Libc} {s : VrrpService}

theorem created {key : RouterKey} {vlanId : UInt64} {answers : Creation} {n : Int}
    (made : VrrpService.construct key.interface key.family key.virtualRouterId vlanId answers =
      some s)
    (named : ∃ name, libc.nameToIndex name = key.interface) (interface : 0 < key.interface)
    (router : key.virtualRouterId ≠ 0) (family : key.family ≠ .unspec)
    (vlan : vlanId = UInt64.ofInt n) (least : -2 ^ 31 ≤ n) (most : n < 2 ^ 31) :
    Administered libc s := by
  have settings := VrrpService.construct_settings made
  have same := VrrpService.construct_key made
  have vlanId' : s.vlanId = vlanId := congrArg Settings.vlanId settings
  subst same
  exact ⟨named, interface, router, family, ⟨n, least, most, vlanId'.trans vlan⟩,
    settings ▸ Settings.initial_valid _ _⟩

theorem step (administered : Administered libc s) (e : Event)
    (called : ∀ found, e ≠ .unsetPrimaryIpAddress found) : Administered libc (s.step e).1 := by
  have same := s.step_identity e
  simp only [VrrpService.identity, Prod.mk.injEq] at same
  obtain ⟨interface, router, family, vlan, _⟩ := same
  refine ⟨interface ▸ administered.named, interface ▸ administered.interface,
    router ▸ administered.router, family ▸ administered.family, vlan ▸ administered.vlan, ?_⟩
  rw [s.step_settings e, family]
  exact Settings.step_valid administered.settings e called

end Administered

/-- The events that carry neither a subnet nor a command, and that something in the daemon
causes. -/
def Event.Plain : Event → Prop
  | .addIpAddress _ | .setMasterCommand _ | .setBackupCommand _ | .unsetPrimaryIpAddress _ => False
  | _ => True

/-- One service becomes the other by nothing, or by one event of a kind. -/
def VrrpService.Call (caused : Event → Prop) (s t : VrrpService) : Prop :=
  t = s ∨ ∃ e, caused e ∧ t = (s.step e).1

/-- What a command or a record asks VrrpManager to create. -/
structure Requested (libc : Libc) (key : RouterKey) (vlanId : UInt64) : Prop where
  named : ∃ name, libc.nameToIndex name = key.interface
  interface : 0 < key.interface
  router : key.virtualRouterId ≠ 0
  family : key.family ≠ .unspec
  vlan : ∃ n : Int, -2 ^ 31 ≤ n ∧ n < 2 ^ 31 ∧ vlanId = UInt64.ofInt n

theorem Requested.administered {libc : Libc} {key : RouterKey} {vlanId : UInt64}
    {answers : Creation} {s : VrrpService} (requested : Requested libc key vlanId)
    (made : VrrpService.construct key.interface key.family key.virtualRouterId vlanId answers =
      some s) : s.key = key ∧ Administered libc s := by
  obtain ⟨n, least, most, vlan⟩ := requested.vlan
  exact ⟨VrrpService.construct_key made, Administered.created made requested.named
    requested.interface requested.router requested.family vlan least most⟩

namespace VrrpManager

variable {libc : Libc} {m : VrrpManager}

/-! What each service has, when services come, change and go. -/

section Each
variable {held : RouterKey → VrrpService → Prop}

theorem empty_each : VrrpManager.empty.Each held := by
  intro key s stored
  simp [empty] at stored

theorem each_insert (each : m.Each held) {key : RouterKey} {s : VrrpService} (new : held key s) :
    Each ⟨m.services.insert key s⟩ held := by
  intro place t stored
  by_cases here : key = place
  · subst here
    rw [Nested.insert_self] at stored
    cases stored
    exact new
  · rw [Nested.insert_other _ _ here] at stored
    exact each place t stored

theorem each_removeService (each : m.Each held) (key : RouterKey) :
    (m.removeService key).Each held := by
  intro place t stored
  by_cases here : key = place
  · subst here
    rw [removeService, Nested.erase_self] at stored
    cases stored
  · rw [removeService, Nested.erase_other _ here] at stored
    exact each place t stored

theorem each_update (each : m.Each held) (key : RouterKey) {operation : VrrpService → VrrpService}
    (keeps : ∀ s, m.services[key]? = some s → held key s → held key (operation s)) :
    (m.update key operation).Each held := by
  unfold update
  split
  · rename_i s stored
    exact each_insert each (keeps s stored (each key s stored))
  · exact each

end Each

/-- What one command makes of the manager: a new service, one service fewer, or another state
of one service. -/
inductive Becomes (libc : Libc) (caused : VrrpService → Event → Prop) (m : VrrpManager) :
    VrrpManager → Prop where
  | same : Becomes libc caused m m
  | made {key : RouterKey} {vlanId : UInt64} {answers : Creation} {s : VrrpService}
      (requested : Requested libc key vlanId)
      (created : VrrpService.construct key.interface key.family key.virtualRouterId vlanId answers =
        some s) : Becomes libc caused m ⟨m.services.insert key s⟩
  | removed (key : RouterKey) : Becomes libc caused m (m.removeService key)
  | called {key : RouterKey} {s t : VrrpService} (stored : m.services[key]? = some s)
      (call : s.Call (caused s) t) : Becomes libc caused m (m.update key fun _ => t)

/-- What a new service has and every call keeps, every service has after the command. -/
theorem Becomes.each {caused : VrrpService → Event → Prop} {t : VrrpManager}
    {held : RouterKey → VrrpService → Prop} (becomes : m.Becomes libc caused t)
    (new : ∀ {key vlanId answers s}, Requested libc key vlanId →
      VrrpService.construct key.interface key.family key.virtualRouterId vlanId answers = some s →
      held key s)
    (keeps : ∀ key s e, caused s e → held key s → held key (s.step e).1) (each : m.Each held) :
    t.Each held := by
  cases becomes with
  | same => exact each
  | made requested created => exact each_insert each (new requested created)
  | removed key => exact each_removeService each key
  | called stored call =>
    apply each_update each _
    intro u there kept
    cases stored.symm.trans there
    rcases call with same | ⟨e, cause, same⟩
    · rwa [same]
    · rw [same]
      exact keeps _ _ e cause kept

theorem empty_sound : VrrpManager.empty.Sound libc := empty_each

theorem becomes_getService {caused : VrrpService → Event → Prop} {kernel : Kernel}
    {key : RouterKey} {vlanId : UInt64} {create : Bool} {found : VrrpManager × Option RouterKey}
    (requested : Requested libc key vlanId)
    (asked : m.getService kernel key vlanId create = found) : m.Becomes libc caused found.1 := by
  subst asked
  unfold getService
  split
  · exact .same
  · split
    · split
      · rename_i made
        exact .made requested made
      · exact .same
    · exact .same

end VrrpManager

namespace TelnetSession

variable {libc : Libc} {kernel : Kernel} {m : VrrpManager} {argv : List Text}

theorem becomes_getService {caused : VrrpService → Event → Prop} {create : Bool}
    {found : VrrpManager × Except Text RouterKey}
    (asked : getService libc kernel m argv create = some found) :
    m.Becomes libc caused found.1 := by
  unfold getService at asked
  obtain ⟨name, _, asked⟩ := Option.bind_eq_some_iff.mp asked
  dsimp only at asked
  split at asked
  · cases asked
    exact .same
  rename_i there
  obtain ⟨word, _, asked⟩ := Option.bind_eq_some_iff.mp asked
  split at asked
  · cases asked
    exact .same
  rename_i valid
  have router : UInt8.ofInt (atoi word) ≠ 0 := by
    intro zero
    have value : (UInt8.ofInt (atoi word)).toNat = 0 := congrArg UInt8.toNat zero
    simp only [UInt8.ofInt, UInt8.toNat_ofNat'] at value
    omega
  have vlan : ∃ n : Int, -2 ^ 31 ≤ n ∧ n < 2 ^ 31 ∧
      (if create && decide (6 ≤ argv.length) && wordIs argv 4 "vlan"
        then UInt64.ofInt (atoi (argv[5]?.getD [])) else 0) = UInt64.ofInt n := by
    split
    · exact ⟨_, (wrapInt_bounds _).1, (wrapInt_bounds _).2, rfl⟩
    · exact ⟨0, by decide, by decide, rfl⟩
  have family : ∀ ipv6 : Bool, (if ipv6 then Family.inet6 else .inet) ≠ .unspec := by decide
  split at asked <;> rename_i made <;> cases asked <;>
    exact VrrpManager.becomes_getService ⟨⟨name, rfl⟩, Int.not_le.mp there, router, family _, vlan⟩
      made

/-- A lookup leaves the manager alone. -/
theorem getService_lookup {found : VrrpManager × Except Text RouterKey}
    (asked : getService libc kernel m argv false = some found) : found.1 = m := by
  have lookup : ∀ key vlanId, (m.getService kernel key vlanId false).1 = m := by
    intro key vlanId
    unfold VrrpManager.getService
    split
    · rfl
    · rfl
  unfold getService at asked
  obtain ⟨name, _, asked⟩ := Option.bind_eq_some_iff.mp asked
  dsimp only at asked
  split at asked
  · cases asked
    rfl
  obtain ⟨word, _, asked⟩ := Option.bind_eq_some_iff.mp asked
  split at asked
  · cases asked
    rfl
  split at asked <;> rename_i made <;> cases asked <;>
    exact (congrArg Prod.fst made).symm.trans (lookup _ _)

theorem becomes_onService {caused : VrrpService → Event → Prop}
    {operation : VrrpService → VrrpService × List Text}
    (calls : ∀ s : VrrpService, s.Call (caused s) (operation s).1) {done : VrrpManager × List Text}
    (asked : onService libc kernel m argv operation = some done) :
    m.Becomes libc caused done.1 := by
  obtain ⟨⟨kept, answer⟩, got, found⟩ := Option.bind_eq_some_iff.mp asked
  have same : kept = m := getService_lookup got
  subst same
  cases answer with
  | error response =>
    cases found
    exact .same
  | ok key =>
    dsimp only at found
    split at found
    · cases found
    · rename_i s stored
      cases found
      exact .called stored (calls s)

theorem becomes_onAddRouterCommand {caused : VrrpService → Event → Prop}
    {done : VrrpManager × List Text}
    (asked : onAddRouterCommand libc kernel m argv = some done) :
    m.Becomes libc caused done.1 := by
  unfold onAddRouterCommand at asked
  dsimp only at asked
  split at asked
  · obtain ⟨⟨kept, answer⟩, got, asked⟩ := Option.bind_eq_some_iff.mp asked
    have becomes : m.Becomes libc caused kept := becomes_getService got
    cases answer <;> cases asked <;> exact becomes
  · cases asked
    exact .same

theorem becomes_onRemoveRouterCommand {caused : VrrpService → Event → Prop}
    {done : VrrpManager × List Text}
    (asked : onRemoveRouterCommand libc kernel m argv = some done) :
    m.Becomes libc caused done.1 := by
  unfold onRemoveRouterCommand at asked
  dsimp only at asked
  generalize (if wordIs argv 4 "ipv6" then 5 else 4) = length at asked
  split at asked
  · obtain ⟨⟨kept, answer⟩, got, found⟩ := Option.bind_eq_some_iff.mp asked
    have same : kept = m := getService_lookup got
    subst same
    cases answer <;> cases found
    · exact .same
    · exact .removed _
  · cases asked
    exact .same

/-- Where the subnet of `add address` and `remove address` stands, and its family. -/
def addressPlace (argv : List Text) : Nat := if wordIs argv 4 "ipv6" then 5 else 4

def addressFamily (argv : List Text) : Family := if wordIs argv 4 "ipv6" then .inet6 else .inet

theorem becomes_onAddressCommand {caused : VrrpService → Event → Prop} {usage : Text}
    {operation : VrrpService → IpSubnet → VrrpService}
    (calls : ∀ (s : VrrpService) text, argv.length = addressPlace argv + 1 →
      argv[addressPlace argv]? = some text → s.Call (caused s) (operation s (libc.ipSubnet text)))
    {done : VrrpManager × List Text}
    (asked : onAddressCommand libc kernel m argv usage operation = some done) :
    m.Becomes libc caused done.1 := by
  unfold onAddressCommand at asked
  dsimp only at asked
  unfold addressPlace at calls
  generalize wordIs argv 4 "ipv6" = ipv6 at asked calls
  generalize (if ipv6 then 5 else 4) = place at asked calls
  generalize (if ipv6 then Family.inet6 else .inet) = family at asked
  split at asked
  · rename_i length
    obtain ⟨word, there, asked⟩ := Option.bind_eq_some_iff.mp asked
    split at asked
    · cases asked
      exact .same
    · exact becomes_onService (fun s => calls s word length there) asked
  · cases asked
    exact .same

/-! The subcommands of `set router`: at most one setter is called. -/

/-- What `set router` causes with the words behind the router. -/
inductive SetCaused (words : List Text) : Event → Prop where
  | plain {e : Event} (plain : e.Plain) : SetCaused words e
  | master {command : List Text} (given : words = ascii "master" :: ascii "command" :: command) :
      SetCaused words (.setMasterCommand (joinWords command))
  | backup {command : List Text} (given : words = ascii "backup" :: ascii "command" :: command) :
      SetCaused words (.setBackupCommand (joinWords command))

theorem call_plain {caused : Event → Prop} (plain : ∀ e : Event, e.Plain → caused e)
    (s : VrrpService) {e : Event} (called : e.Plain) : s.Call caused (s.step e).1 :=
  .inr ⟨e, plain e called, rfl⟩

section Calls
variable (s : VrrpService) (word : Text) {caused : Event → Prop}
  (plain : ∀ e : Event, e.Plain → caused e)
include plain

theorem setPrimary_call : s.Call caused (setPrimary libc s word).1 := by
  unfold setPrimary
  dsimp only
  split
  · exact .inl rfl
  · exact call_plain plain s (e := .setPrimaryIpAddress _) trivial

theorem setPriority_call : s.Call caused (setPriority s word).1 := by
  unfold setPriority
  dsimp only
  split
  · exact .inl rfl
  · exact call_plain plain s (e := .setPriority _) trivial

theorem setInterval_call : s.Call caused (setInterval s word).1 := by
  unfold setInterval
  dsimp only
  split
  · exact .inl rfl
  · exact call_plain plain s (e := .setAdvertisementInterval _) trivial

theorem setAccept_call : s.Call caused (setAccept s word).1 := by
  unfold setAccept
  split
  · exact call_plain plain s (e := .setAcceptMode _) trivial
  · exact .inl rfl

theorem setPreempt_call : s.Call caused (setPreempt s word).1 := by
  unfold setPreempt
  split
  · exact call_plain plain s (e := .setPreemptMode _) trivial
  · exact .inl rfl

end Calls

theorem setRouter_call (s : VrrpService) (words : List Text) :
    s.Call (SetCaused words) (setRouter libc s words).1 := by
  have plain : ∀ e : Event, e.Plain → SetCaused words e := fun _ => .plain
  cases words with
  | nil => exact .inl rfl
  | cons name values =>
    cases values with
    | nil =>
      simp only [setRouter]
      split_ifs <;> exact .inl rfl
    | cons value command =>
      simp only [setRouter]
      split
      · exact setPrimary_call s value plain
      split
      · exact setPriority_call s value plain
      split
      · exact setInterval_call s value plain
      split
      · exact setAccept_call s value plain
      split
      · exact setPreempt_call s value plain
      split
      · rename_i master
        split
        · rename_i command
          exact .inr ⟨_, .master (by rw [master, command]), rfl⟩
        · exact .inl rfl
      split
      · rename_i backup
        split
        · rename_i command
          exact .inr ⟨_, .backup (by rw [backup, command]), rfl⟩
        · exact .inl rfl
      · exact .inl rfl

/-- What a command causes in the service that it names. -/
inductive Caused (libc : Libc) (argv : List Text) (s : VrrpService) : Event → Prop where
  | plain {e : Event} (plain : e.Plain) : Caused libc argv s e
  | subnet {text : Text} (first : wordIs argv 0 "add" = true)
      (second : wordIs argv 1 "address" = true) (length : argv.length = addressPlace argv + 1)
      (there : argv[addressPlace argv]? = some text) :
      Caused libc argv s (.addIpAddress (libc.ipSubnet text))
  | set {e : Event} (first : wordIs argv 0 "set" = true) (second : wordIs argv 1 "router" = true)
      (caused : SetCaused (argv.drop (if s.family = .inet6 then 5 else 4)) e) :
      Caused libc argv s e

theorem becomes_onCommand {done : VrrpManager × List Text}
    (asked : onCommand libc kernel m argv = some done) :
    m.Becomes libc (Caused libc argv) done.1 := by
  have ignored : ∀ replies : List Text, some (m, replies) = some done →
      m.Becomes libc (Caused libc argv) done.1 := fun _ same => Option.some.inj same ▸ .same
  have plain : ∀ (s : VrrpService) (e : Event), e.Plain → Caused libc argv s e := fun _ _ => .plain
  unfold onCommand onAddCommand onRemoveCommand onSetCommand onEnableCommand onDisableCommand
    at asked
  split at asked
  · rename_i first
    split at asked
    · exact becomes_onAddRouterCommand asked
    split at asked
    · rename_i second
      exact becomes_onAddressCommand
        (fun s text length there => .inr ⟨_, .subnet first second length there, rfl⟩) asked
    · exact ignored _ asked
  split at asked
  · split at asked
    · exact becomes_onRemoveRouterCommand asked
    split at asked
    · exact becomes_onAddressCommand
        (fun s text _ _ => call_plain (plain s) s (e := .removeIpAddress _) trivial) asked
    · exact ignored _ asked
  split at asked
  · rename_i first
    split at asked
    · rename_i second
      refine becomes_onService (fun s => ?_) asked
      rcases @setRouter_call libc s (argv.drop (if s.family = .inet6 then 5 else 4)) with
        same | ⟨e, caused, called⟩
      · exact .inl same
      · exact .inr ⟨e, .set first second caused, called⟩
    · exact ignored _ asked
  split at asked
  · split at asked
    · exact ignored _ asked
    · exact becomes_onService (fun s => call_plain (plain s) s (e := .enable _) trivial) asked
  split at asked
  · split at asked
    · exact ignored _ asked
    · exact becomes_onService (fun s => call_plain (plain s) s (e := .disable) trivial) asked
  split at asked
  · exact ignored _ asked
  · exact ignored _ asked

/-- Nothing in the daemon takes a forced primary address back. -/
theorem Caused.called {s : VrrpService} {e : Event} (caused : Caused libc argv s e) :
    ∀ found, e ≠ .unsetPrimaryIpAddress found := by
  rintro found rfl
  cases caused with
  | plain plain => exact plain
  | set _ _ caused =>
    cases caused with
    | plain plain => exact plain

end TelnetSession

/-! ### Runs -/

/-- What the daemon is given: a line from a client, with the answers of the kernel at that time,
or something that happens to one service without an administrator. -/
inductive Input where
  | line (kernel : Kernel) (line : Text)
  | event (key : RouterKey) (e : Event) (happens : ¬ e.Setter)

namespace VrrpManager

/-- There is no result where a command reads past the end of its words. -/
def input (libc : Libc) (m : VrrpManager) : Input → Option VrrpManager
  | .line kernel line =>
    let argv := TelnetSession.arguments line
    if argv.length = 0 ∨ TelnetSession.isExit line then some m
    else (TelnetSession.onCommand libc kernel m argv).map Prod.fst
  | .event key e _ => some (m.update key fun s => (s.step e).1)

/-- From the start of the daemon without a configuration file. -/
def run (libc : Libc) (inputs : List Input) : Option VrrpManager := inputs.foldlM (input libc) empty

/-- An input, as a command or as an event that no setter causes. -/
theorem input_becomes {libc : Libc} {m t : VrrpManager} {i : Input}
    (taken : m.input libc i = some t) :
    (∃ kernel line, i = .line kernel line ∧
      m.Becomes libc (TelnetSession.Caused libc (TelnetSession.arguments line)) t) ∨
    ∃ key e happens, i = .event key e happens ∧ t = m.update key fun s => (s.step e).1 := by
  cases i with
  | line kernel line =>
    refine .inl ⟨kernel, line, rfl, ?_⟩
    simp only [input] at taken
    split at taken
    · cases taken
      exact .same
    · obtain ⟨done, asked, rfl⟩ := Option.map_eq_some_iff.mp taken
      exact TelnetSession.becomes_onCommand asked
  | event key e happens =>
    cases taken
    exact .inr ⟨key, e, happens, rfl, rfl⟩

theorem sound_step {libc : Libc} {e : Event} (called : ∀ found, e ≠ .unsetPrimaryIpAddress found)
    {key : RouterKey} {s : VrrpService} (sound : s.key = key ∧ Administered libc s) :
    (s.step e).1.key = key ∧ Administered libc (s.step e).1 :=
  ⟨(s.step_key e).trans sound.1, sound.2.step e called⟩

theorem sound_input {libc : Libc} (m : VrrpManager) (i : Input) (t : VrrpManager)
    (sound : m.Sound libc) (taken : m.input libc i = some t) : t.Sound libc := by
  rcases input_becomes taken with ⟨kernel, line, rfl, becomes⟩ | ⟨key, e, happens, rfl, rfl⟩
  · exact becomes.each (fun requested made => requested.administered made)
      (fun _ _ _ caused held => sound_step caused.called held) sound
  · refine each_update sound key fun s _ held => sound_step ?_ held
    rintro found rfl
    exact happens trivial

theorem sound_run {libc : Libc} {inputs : List Input} {m : VrrpManager}
    (reached : run libc inputs = some m) : m.Sound libc :=
  Runs.foldlM_keeps (Sound libc) sound_input empty_sound reached

end VrrpManager

end OpenVrrp
