import OpenVrrp.Configurator.Locals
import OpenVrrp.Service.AddressList

/-! Everything that can happen to the services of the daemon: the lines of telnet clients, the
network and the clock, and configuration files of any bytes. -/
namespace OpenVrrp

namespace Configurator

open Decoder

/-! ### One record -/

/-- What is known of a record that was read: the sizes of its fields. -/
structure WellRead (r : Router) : Prop where
  master : r.masterCommand.length ≤ 255
  backup : r.backupCommand.length ≤ 255
  least : -2 ^ 31 ≤ r.vlanId
  most : r.vlanId < 2 ^ 31

theorem ensures_int : Ensures readInt fun n => -2 ^ 31 ≤ n ∧ n < 2 ^ 31 :=
  ensures_after _ fun _ => ensures_pure (wrapInt_bounds _)

theorem ensures_string : Ensures readString fun value => value.length ≤ 255 := by
  refine (ensures_exactly 1).bind fun size one => ?_
  have bound := Octets.value_bound size
  rw [one] at bound
  refine fun input taken accepted => ?_
  have length := ensures_exactly (Octets.value size) input taken accepted
  omega

theorem ensures_partIf {α : Type} (present : Bool) {part : Reader α} {known : α → Prop}
    (ensures : Ensures part known) {absent : α} (holds : known absent) :
    Ensures (partIf present part absent) known := by
  cases present with
  | false => exact ensures_pure holds
  | true => exact ensures

theorem readRouter_known (version : Int) {held : Int} (least : -2 ^ 31 ≤ held)
    (most : held < 2 ^ 31) : Ensures (readRouter version held) WellRead := by
  refine ensures_after _ fun _ => ensures_after _ fun _ => ensures_after _ fun _ =>
    ensures_after _ fun _ => ensures_after _ fun _ => ensures_after _ fun _ =>
    ensures_after _ fun _ => ensures_after _ fun _ => ensures_after _ fun _ =>
    ensures_after _ fun _ => ?_
  refine (ensures_partIf _ ensures_string (Nat.zero_le _)).bind fun _ master => ?_
  refine (ensures_partIf _ ensures_string (Nat.zero_le _)).bind fun _ backup => ?_
  refine (ensures_partIf _ ensures_int ⟨least, most⟩).bind fun _ vlan => ?_
  exact ensures_after _ fun _ => ensures_after _ fun _ =>
    ensures_pure ⟨master, backup, vlan.1, vlan.2⟩

/-- What a record causes in the service that it names. -/
inductive Restores (r : Router) : Event → Prop where
  | plain {e : Event} (plain : e.Plain) : Restores r e
  | master : Restores r (.setMasterCommand r.masterCommand)
  | backup : Restores r (.setBackupCommand r.backupCommand)
  | subnet {subnet : IpSubnet} (inside : subnet ∈ r.subnets) : Restores r (.addIpAddress subnet)

theorem Restores.called {r : Router} {e : Event} (restores : Restores r e) :
    ∀ found, e ≠ .unsetPrimaryIpAddress found := by
  rintro found rfl
  cases restores with
  | plain plain => exact plain

/-- The calls of the loop body up to the subnets. -/
def setters (r : Router) : List Event :=
  [.setPriority (UInt8.ofInt r.priority),
    .setAdvertisementInterval (UInt32.ofInt (r.interval.tdiv 10)).toNat,
    .setAcceptMode r.accept, .setPreemptMode r.preempt] ++
  ((if hasPrimaryIpAddress r.flags then [.setPrimaryIpAddress r.primaryIp] else []) ++
  ([.setMasterCommand r.masterCommand, .setBackupCommand r.backupCommand] ++
    r.subnets.toList.map .addIpAddress))

theorem setters_restore (r : Router) : ∀ e ∈ setters r, Restores r e := by
  intro e inside
  simp only [setters, List.mem_append, List.mem_cons, List.not_mem_nil, or_false, List.mem_map]
    at inside
  rcases inside with (rfl | rfl | rfl | rfl) | inside | (rfl | rfl) | ⟨subnet, inside, rfl⟩
  · exact .plain trivial
  · exact .plain trivial
  · exact .plain trivial
  · exact .plain trivial
  · split at inside
    · rw [List.mem_singleton.mp inside]
      exact .plain trivial
    · cases inside
  · exact .master
  · exact .backup
  · exact .subnet (Std.TreeSet.mem_toList.mp inside)

theorem setUp_run (r : Router) (s : VrrpService) :
    setUp r s = (setters r).foldl (fun s e => (s.step e).1) s := by
  rw [setters, List.foldl_append, List.foldl_append, List.foldl_append, List.foldl_map, setUp]
  split <;> rfl

/-- A record calls its setters, and enables or disables the service in the end. -/
theorem configure_run (kernel : Kernel) (r : Router) (s : VrrpService) :
    ∃ last, ((∃ isUp, last = .enable isUp) ∨ last = .disable) ∧
      configure kernel r s = (setters r ++ [last]).foldl (fun s e => (s.step e).1) s := by
  simp only [List.foldl_append, ← setUp_run, configure]
  split
  · exact ⟨.enable _, .inl ⟨_, rfl⟩, rfl⟩
  · exact ⟨.disable, .inr rfl, rfl⟩

section Restore
variable (libc : Libc) (kernel : Kernel) {m : VrrpManager} {r : Router}

theorem requested (passes : Passes libc r) (known : WellRead r) :
    Requested libc (keyOf libc r) (UInt64.ofInt r.vlanId) where
  named := ⟨_, rfl⟩
  interface := Int.not_le.mp passes.interface
  router := by
    intro zero
    have range := passes.vrid
    have value : (UInt8.ofInt r.vrid).toNat = 0 := congrArg UInt8.toNat zero
    simp only [UInt8.ofInt, UInt8.toNat_ofNat'] at value
    omega
  family := passes.family
  vlan := ⟨r.vlanId, known.least, known.most, rfl⟩

/-- What a new service has and every call keeps, every service has after the record. -/
theorem restore_each {held : RouterKey → VrrpService → Prop} (known : WellRead r)
    (new : ∀ {key vlanId answers s}, Requested libc key vlanId →
      VrrpService.construct key.interface key.family key.virtualRouterId vlanId answers = some s →
      held key s)
    (keeps : ∀ key s e, Restores r e → held key s → held key (s.step e).1) (each : m.Each held) :
    (restore libc kernel m r).Each held := by
  by_cases passes : Passes libc r
  · intro place t stored
    rw [restore_services libc kernel m passes] at stored
    split at stored
    · rename_i here
      obtain ⟨s, found, rfl⟩ := Option.map_eq_some_iff.mp stored
      obtain ⟨last, ends, configured⟩ := configure_run kernel r s
      have plain : last.Plain := by
        rcases ends with ⟨isUp, rfl⟩ | rfl <;> exact trivial
      have restores : ∀ e ∈ setters r ++ [last], Restores r e := by
        intro e inside
        rcases List.mem_append.mp inside with inside | inside
        · exact setters_restore r e inside
        · exact .plain (List.mem_singleton.mp inside ▸ plain)
      rw [configured]
      refine Runs.foldl_keeps (held place) _ (fun u e inside kept =>
        keeps place u e (restores e inside) kept) ?_
      rw [← here]
      rcases Option.or_eq_some_iff.mp found with there | ⟨_, made⟩
      · exact each _ s there
      · exact new (requested libc passes known) made
    · exact each place t stored
  · rwa [restore_refused libc kernel m passes]

/-- What every record keeps, a whole file keeps. -/
theorem readRouters_restores (held : VrrpManager → Prop)
    (keeps : ∀ m r, WellRead r → held m → held (restore libc kernel m r)) {locals : Nat → Int}
    (ints : Ints locals) (version : Int) (count : Nat) {m : VrrpManager} (file : Text)
    (start : held m) : held (readRouters libc kernel locals version count m file).1 := by
  induction count generalizing m file with
  | zero => exact start
  | succ count ih =>
    rw [readRouters]
    cases read : readRouter version (locals count) file with
    | none => exact start
    | some taken =>
      have known := readRouter_known version (ints count).1 (ints count).2 file taken read
      exact ih taken.2 (keeps m taken.1 known start)

theorem readConfiguration_restores (held : VrrpManager → Prop)
    (keeps : ∀ m r, WellRead r → held m → held (restore libc kernel m r)) {locals : Nat → Int}
    (ints : Ints locals) {m : VrrpManager} (file : Text) (start : held m) :
    held (readConfiguration libc kernel locals m file).1 := by
  unfold readConfiguration
  cases readHeader file with
  | none => exact start
  | some taken => exact readRouters_restores libc kernel held keeps ints _ _ _ start

end Restore

end Configurator

/-! ### Runs -/

/-- An input, or a configuration file; the locals hold any ints. -/
inductive Happening where
  | input (i : Input)
  | configuration (kernel : Kernel) (locals : Nat → Int) (ints : Configurator.Ints locals)
      (file : Text)

namespace Happening

/-- What a happening can cause in a service. -/
inductive Causes (libc : Libc) (s : VrrpService) : Happening → Event → Prop where
  | line {kernel : Kernel} {line : Text} {e : Event}
      (caused : TelnetSession.Caused libc (TelnetSession.arguments line) s e) :
      Causes libc s (.input (.line kernel line)) e
  | event {key : RouterKey} {e : Event} {happens : ¬ e.Setter} :
      Causes libc s (.input (.event key e happens)) e
  | record {kernel : Kernel} {locals : Nat → Int} {ints : Configurator.Ints locals} {file : Text}
      {r : Configurator.Router} {e : Event} (known : Configurator.WellRead r)
      (restores : Configurator.Restores r e) :
      Causes libc s (.configuration kernel locals ints file) e

theorem Causes.called {libc : Libc} {s : VrrpService} {h : Happening} {e : Event}
    (causes : Causes libc s h e) : ∀ found, e ≠ .unsetPrimaryIpAddress found := by
  rintro found rfl
  cases causes with
  | line caused => exact caused.called found rfl
  | @event _ _ happens => exact happens trivial
  | record _ restores => exact restores.called found rfl

end Happening

namespace VrrpManager

def happen (libc : Libc) (m : VrrpManager) : Happening → Option VrrpManager
  | .input i => m.input libc i
  | .configuration kernel locals _ file =>
    some (Configurator.readConfiguration libc kernel locals m file).1

/-- From the start of the daemon. -/
def history (libc : Libc) (happenings : List Happening) : Option VrrpManager :=
  happenings.foldlM (happen libc) empty

variable {libc : Libc}

theorem happen_each {held : RouterKey → VrrpService → Prop} {m t : VrrpManager} {h : Happening}
    (taken : m.happen libc h = some t)
    (new : ∀ {key vlanId answers s}, Requested libc key vlanId →
      VrrpService.construct key.interface key.family key.virtualRouterId vlanId answers = some s →
      held key s)
    (keeps : ∀ key s e, h.Causes libc s e → held key s → held key (s.step e).1)
    (each : m.Each held) : t.Each held := by
  cases h with
  | input i =>
    rcases input_becomes taken with ⟨kernel, line, rfl, becomes⟩ | ⟨key, e, happens, rfl, rfl⟩
    · exact becomes.each new (fun key s e caused => keeps key s e (.line caused)) each
    · exact each_update each key fun s _ kept => keeps key s e .event kept
  | configuration kernel locals ints file =>
    cases taken
    refine Configurator.readConfiguration_restores libc kernel (fun m => m.Each held)
      (fun m r known kept => ?_) ints file each
    exact Configurator.restore_each libc kernel known new
      (fun key s e restores => keeps key s e (.record known restores)) kept

/-- The services of a running daemon: each under its own key, with settings that an
administrator can make, and with addresses of its own family. -/
def Running (libc : Libc) (m : VrrpManager) : Prop :=
  m.Each fun key s => (s.key = key ∧ Administered libc s) ∧ s.OwnFamily

theorem running_new {key : RouterKey} {vlanId : UInt64} {answers : Creation} {s : VrrpService}
    (requested : Requested libc key vlanId)
    (made : VrrpService.construct key.interface key.family key.virtualRouterId vlanId answers =
      some s) : (s.key = key ∧ Administered libc s) ∧ s.OwnFamily :=
  ⟨requested.administered made, (VrrpService.construct_ownFamily made).1⟩

theorem running_step {key : RouterKey} {s : VrrpService} {e : Event}
    (called : ∀ found, e ≠ .unsetPrimaryIpAddress found)
    (held : (s.key = key ∧ Administered libc s) ∧ s.OwnFamily) :
    ((s.step e).1.key = key ∧ Administered libc (s.step e).1) ∧ (s.step e).1.OwnFamily :=
  ⟨sound_step called held.1, s.ownFamily_step e held.2⟩

theorem running_happen (m : VrrpManager) (h : Happening) (t : VrrpManager)
    (running : m.Running libc) (taken : m.happen libc h = some t) : t.Running libc :=
  happen_each taken running_new (fun _ _ _ causes held => running_step causes.called held) running

theorem running_history {happenings : List Happening} {m : VrrpManager}
    (reached : history libc happenings = some m) : m.Running libc :=
  Runs.foldlM_keeps (Running libc) running_happen empty_each reached

end VrrpManager

end OpenVrrp
