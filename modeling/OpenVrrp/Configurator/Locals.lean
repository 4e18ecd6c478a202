import OpenVrrp.Configurator.RoundTrip

/-! What is restored from files that have no VLAN field. The local `vlanId` of the loop body is
not set for them, and getService is given what it happens to hold. -/
namespace OpenVrrp

namespace Configurator

open Decoder

/-- What an `int` can hold. -/
def Ints (locals : Nat → Int) : Prop := ∀ i, -2 ^ 31 ≤ locals i ∧ locals i < 2 ^ 31

theorem ints_same (n : Int) (least : -2 ^ 31 ≤ n) (most : n < 2 ^ 31) : Ints fun _ => n :=
  fun _ => ⟨least, most⟩

theorem ints_zero : Ints fun _ => 0 := ints_same 0 (by decide) (by decide)

/-- The checks of the loop body. -/
structure Passes (libc : Libc) (r : Router) : Prop where
  vrid : ¬ (r.vrid < 1 ∨ 255 < r.vrid)
  priority : ¬ (r.priority < 1 ∨ 255 < r.priority)
  family : familyOf r.addressFamily ≠ .unspec
  interval : ¬ (r.interval.tmod 10 ≠ 0 ∨ r.interval < 10 ∨ 40950 < r.interval)
  interface : ¬ libc.nameToIndex (cString r.interface) ≤ 0

/-- The records that are read completely. -/
def routersIn (version : Int) : Nat → Text → List Router
  | 0, _ => []
  | count + 1, file =>
    match readRouter version 0 file with
    | none => []
    | some (router, rest) => router :: routersIn version count rest

def routersOf (file : Text) : List Router :=
  match readHeader file with
  | none => []
  | some ((version, routerCount), rest) => routersIn version routerCount.toNat rest

def versionOf (file : Text) : Option Int := (readHeader file).map fun taken => taken.1.1

def keyOf (libc : Libc) (r : Router) : RouterKey :=
  ⟨libc.nameToIndex (cString r.interface), UInt8.ofInt r.vrid, familyOf r.addressFamily⟩

/-! ### One record -/

theorem partIf_absent {α β : Type} (part : Reader α) (absent : α) (next : α → Reader β)
    (file : Text) : (partIf false part absent >>= next) file = next absent file := rfl

theorem readRouter_locals {version : Int} (old : ¬ 2 < version) (held : Int) (file : Text) :
    readRouter version held file =
      (readRouter version 0 file).map (Prod.map (fun r => { r with vlanId := held }) id) := by
  unfold readRouter
  rw [decide_eq_false old]
  refine front_map (fun _ file => ?_) file
  refine front_map (fun _ file => ?_) file
  refine front_map (fun _ file => ?_) file
  refine front_map (fun _ file => ?_) file
  refine front_map (fun _ file => ?_) file
  refine front_map (fun _ file => ?_) file
  refine front_map (fun _ file => ?_) file
  refine front_map (fun _ file => ?_) file
  refine front_map (fun _ file => ?_) file
  refine front_map (fun _ file => ?_) file
  refine front_map (fun _ file => ?_) file
  refine front_map (fun _ file => ?_) file
  rw [partIf_absent, partIf_absent]
  refine front_map (fun _ file => ?_) file
  refine front_map (fun _ file => ?_) file
  rfl

theorem setUp_identity (r : Router) (s : VrrpService) : (setUp r s).identity = s.identity := by
  have primary : ∀ t : VrrpService, (if hasPrimaryIpAddress r.flags
      then t.setPrimaryIpAddress r.primaryIp else t).identity = t.identity := by
    intro t
    split
    · exact t.step_identity (.setPrimaryIpAddress r.primaryIp)
    · rfl
  unfold setUp
  dsimp only
  refine Runs.foldl_keeps (fun t : VrrpService => t.identity = s.identity) _
    (fun t subnet _ same => (t.step_identity (.addIpAddress subnet)).trans same) ?_
  apply (VrrpService.step_identity _ (.setBackupCommand _)).trans
  apply (VrrpService.step_identity _ (.setMasterCommand _)).trans
  apply (primary _).trans
  apply (VrrpService.step_identity _ (.setPreemptMode _)).trans
  apply (VrrpService.step_identity _ (.setAcceptMode _)).trans
  apply (VrrpService.step_identity _ (.setAdvertisementInterval _)).trans
  exact s.step_identity (.setPriority _)

theorem configure_vlanId (kernel : Kernel) (r : Router) (s : VrrpService) :
    (configure kernel r s).vlanId = s.vlanId := by
  have same : (configure kernel r s).identity = s.identity := by
    unfold configure
    dsimp only
    split
    · exact (VrrpService.step_identity _ (.enable _)).trans (setUp_identity r s)
    · exact (VrrpService.step_identity _ .disable).trans (setUp_identity r s)
  exact congrArg (fun members => members.2.2.2.1) same

section Restore
variable (libc : Libc) (kernel : Kernel) (m : VrrpManager) {r : Router}

theorem restore_refused (refused : ¬ Passes libc r) : restore libc kernel m r = m := by
  unfold restore
  split
  · rfl
  · rename_i vrid
    split
    · rfl
    · rename_i priority
      split
      · rfl
      · rename_i family
        split
        · rfl
        · rename_i interval
          dsimp only
          split
          · rfl
          · rename_i interface
            exact absurd ⟨vrid, priority, family, interval, interface⟩ refused

/-- The service that the record names is the one that is there or a new one, configured; the
others stay. -/
theorem restore_services (passes : Passes libc r) (place : RouterKey) :
    (restore libc kernel m r).services[place]? =
      if keyOf libc r = place then
        (m.services[keyOf libc r]?.or (VrrpService.construct (keyOf libc r).interface
          (keyOf libc r).family (keyOf libc r).virtualRouterId (UInt64.ofInt r.vlanId)
          (kernel.creation (keyOf libc r) (UInt64.ofInt r.vlanId)))).map (configure kernel r)
      else m.services[place]? := by
  have named : RouterKey.mk (libc.nameToIndex (cString r.interface)) (UInt8.ofInt r.vrid)
      (familyOf r.addressFamily) = keyOf libc r := rfl
  unfold restore
  rw [if_neg passes.vrid, if_neg passes.priority, if_neg passes.family, if_neg passes.interval]
  dsimp only
  rw [if_neg passes.interface, named, VrrpManager.getService]
  generalize keyOf libc r = key
  cases stored : m.services[key]? with
  | some s =>
    dsimp only
    rw [VrrpManager.update, stored]
    by_cases here : key = place
    · rw [← here, Nested.insert_self, if_pos rfl]
      rfl
    · rw [Nested.insert_other _ _ here, if_neg here]
  | none =>
    dsimp only
    rw [if_pos rfl]
    cases VrrpService.construct key.interface key.family key.virtualRouterId
        (UInt64.ofInt r.vlanId) (kernel.creation key (UInt64.ofInt r.vlanId)) with
    | none =>
      by_cases here : key = place
      · rw [← here, if_pos rfl, stored]
        rfl
      · rw [if_neg here]
    | some made =>
      dsimp only
      rw [VrrpManager.update, Nested.insert_self]
      by_cases here : key = place
      · rw [← here, Nested.insert_self, if_pos rfl]
        rfl
      · rw [Nested.insert_other _ _ here, Nested.insert_other _ _ here, if_neg here]

def OnVlan (vlanId : UInt64) (m : VrrpManager) : Prop :=
  ∀ (key : RouterKey) s, m.services[key]? = some s → s.vlanId = vlanId

theorem restore_onVlan {vlanId : UInt64} (same : UInt64.ofInt r.vlanId = vlanId)
    (held : OnVlan vlanId m) : OnVlan vlanId (restore libc kernel m r) := by
  by_cases passes : Passes libc r
  · intro key s stored
    rw [restore_services libc kernel m passes] at stored
    split at stored
    · obtain ⟨t, found, rfl⟩ := Option.map_eq_some_iff.mp stored
      rw [configure_vlanId]
      rcases Option.or_eq_some_iff.mp found with there | ⟨_, made⟩
      · exact held _ t there
      · obtain ⟨_, _, _, _, rfl⟩ := VrrpService.construct_fresh made
        exact same
    · exact held key s stored
  · rwa [restore_refused libc kernel m passes]

theorem restore_keeps {place : RouterKey} (there : m.services[place]?.isSome) :
    (restore libc kernel m r).services[place]?.isSome := by
  by_cases passes : Passes libc r
  · rw [restore_services libc kernel m passes]
    split
    · rename_i here
      rw [Option.isSome_map, Option.isSome_or, here, there, Bool.true_or]
    · exact there
  · rwa [restore_refused libc kernel m passes]

/-- Without a VLAN nothing can fail. -/
theorem restore_makes (passes : Passes libc r) (none : UInt64.ofInt r.vlanId = 0) :
    (restore libc kernel m r).services[keyOf libc r]?.isSome := by
  have made : (VrrpService.construct (keyOf libc r).interface (keyOf libc r).family
      (keyOf libc r).virtualRouterId (UInt64.ofInt r.vlanId)
      (kernel.creation (keyOf libc r) (UInt64.ofInt r.vlanId))).isSome := by
    rw [Option.isSome_iff_ne_none, ne_eq, VrrpService.construct_eq_none_iff, none]
    exact fun both => absurd both.1 (by decide)
  rw [restore_services libc kernel m passes, if_pos rfl, Option.isSome_map, Option.isSome_or, made,
    Bool.or_true]

end Restore

/-! ### All records -/

section Records
variable (libc : Libc) (kernel : Kernel) (locals : Nat → Int) {version : Int} (old : ¬ 2 < version)
include old

theorem readRouters_keeps (held : VrrpManager → Prop) (count : Nat) (file : Text)
    (keeps : ∀ m i, ∀ r ∈ routersIn version count file, held m →
      held (restore libc kernel m { r with vlanId := locals i }))
    {m : VrrpManager} (start : held m) :
    held (readRouters libc kernel locals version count m file).1 := by
  induction count generalizing file m with
  | zero => exact start
  | succ count ih =>
    rw [readRouters, readRouter_locals old]
    rw [routersIn] at keeps
    cases read : readRouter version 0 file with
    | none => exact start
    | some taken =>
      rw [read] at keeps
      apply ih taken.2 (fun m i r inside => keeps m i r (List.mem_cons_of_mem _ inside))
      exact keeps m count taken.1 List.mem_cons_self start

theorem readRouters_makes {count : Nat} {file : Text} {r : Router}
    (inside : r ∈ routersIn version count file) (passes : Passes libc r)
    (none : ∀ i, UInt64.ofInt (locals i) = 0) (m : VrrpManager) :
    (readRouters libc kernel locals version count m file).1.services[keyOf libc r]?.isSome := by
  induction count generalizing file m with
  | zero => cases inside
  | succ count ih =>
    rw [readRouters, readRouter_locals old]
    rw [routersIn] at inside
    cases read : readRouter version 0 file with
    | none =>
      rw [read] at inside
      cases inside
    | some taken =>
      rw [read] at inside
      rcases List.mem_cons.mp inside with rfl | inside
      · refine readRouters_keeps libc kernel locals old
          (fun m => m.services[keyOf libc taken.1]?.isSome) count taken.2
          (fun m i r _ there => restore_keeps libc kernel m there) ?_
        exact restore_makes libc kernel m (r := { taken.1 with vlanId := locals count })
          ⟨passes.vrid, passes.priority, passes.family, passes.interval, passes.interface⟩
          (none count)
      · exact ih inside _

end Records

theorem readRouters_onVlan (libc : Libc) (kernel : Kernel) (held : Int) {version : Int}
    (old : ¬ 2 < version) (count : Nat) (file : Text) :
    OnVlan (UInt64.ofInt held)
      (readRouters libc kernel (fun _ => held) version count .empty file).1 := by
  refine readRouters_keeps libc kernel _ old _ count file
    (fun m _ r _ kept => restore_onVlan libc kernel m rfl kept) ?_
  intro key s stored
  cases stored

theorem readRouters_refused (libc : Libc) (kernel : Kernel) (locals : Nat → Int) {version : Int}
    (old : ¬ 2 < version) {count : Nat} {file : Text}
    (refused : ∀ r ∈ routersIn version count file, ¬ Passes libc r) :
    (readRouters libc kernel locals version count .empty file).1 = .empty := by
  refine readRouters_keeps libc kernel locals old (· = .empty) count file
    (fun m i r inside kept => ?_) rfl
  refine (restore_refused libc kernel m fun passes => refused r inside ?_).trans kept
  exact ⟨passes.vrid, passes.priority, passes.family, passes.interval, passes.interface⟩

theorem readRouters_new (libc : Libc) (kernel : Kernel) (first second : Nat → Int) (count : Nat)
    (m : VrrpManager) (file : Text) :
    readRouters libc kernel first 3 count m file =
      readRouters libc kernel second 3 count m file := by
  induction count generalizing m file with
  | zero => rfl
  | succ count ih =>
    have same : readRouter 3 (first count) file = readRouter 3 (second count) file := rfl
    rw [readRouters, readRouters, same]
    cases readRouter 3 (second count) file with
    | none => rfl
    | some taken => exact ih _ _

theorem header_version {file rest : Text} {version routerCount : Int}
    (read : readHeader file = some ((version, routerCount), rest)) (other : version ≠ 3) :
    ¬ 2 < version := by
  unfold readHeader at read
  rw [bind_apply] at read
  obtain ⟨first, _, read⟩ := Option.bind_eq_some_iff.mp read
  split at read
  · cases read
  · rename_i known
    rw [bind_apply] at read
    obtain ⟨second, _, read⟩ := Option.bind_eq_some_iff.mp read
    split at read
    · cases read
    · cases read
      omega

/-- Whatever the local holds, the same services are restored, and those of an old file
without a VLAN, if and only if the file is a new one or no record in it passes the checks. -/
theorem locals_unseen_iff (libc : Libc) (kernel : Kernel) (file : Text) :
    ((∀ first second, Ints first → Ints second → ∀ key,
        (readConfiguration libc kernel first .empty file).1.configuration key =
          (readConfiguration libc kernel second .empty file).1.configuration key) ∧
      (versionOf file ≠ some 3 → ∀ locals, Ints locals → ∀ key c,
        (readConfiguration libc kernel locals .empty file).1.configuration key = some c →
          c.settings.vlanId = 0)) ↔
      versionOf file = some 3 ∨ ∀ r ∈ routersOf file, ¬ Passes libc r := by
  unfold versionOf routersOf readConfiguration
  cases read : readHeader file with
  | none =>
    refine iff_of_true ⟨fun _ _ _ _ _ => rfl, fun _ _ _ _ _ stored => nomatch stored⟩ (.inr ?_)
    exact fun r inside => nomatch inside
  | some taken =>
    obtain ⟨⟨version, routerCount⟩, rest⟩ := taken
    simp only [Option.map_some, Option.some.injEq]
    by_cases new : version = 3
    · subst new
      refine iff_of_true ⟨fun first second _ _ key => ?_, fun other => absurd rfl other⟩ (.inl rfl)
      rw [readRouters_new libc kernel first second]
    have old := header_version read new
    constructor
    · rintro ⟨same, _⟩
      refine .inr fun r inside passes => ?_
      have made :=
        readRouters_makes libc kernel (fun _ => 0) old inside passes (fun _ => rfl) .empty
      have zero := readRouters_onVlan libc kernel 0 old routerCount.toNat rest
      have five := readRouters_onVlan libc kernel 5 old routerCount.toNat rest
      obtain ⟨s, stored⟩ := Option.isSome_iff_exists.mp made
      have small : ∀ held : Int, 0 ≤ held → held ≤ 5 → Ints fun _ => held := by
        intro held least most _
        dsimp only
        omega
      have equal := same (fun _ => 0) (fun _ => 5) (small 0 (by decide) (by decide))
        (small 5 (by decide) (by decide)) (keyOf libc r)
      rw [VrrpManager.configuration, VrrpManager.configuration, stored, Option.map_some] at equal
      obtain ⟨t, there, configured⟩ := Option.map_eq_some_iff.mp equal.symm
      have vlan : t.vlanId = s.vlanId := congrArg (fun c => c.settings.vlanId) configured
      rw [zero _ s stored, five _ t there] at vlan
      exact absurd vlan (by decide)
    · rintro (here | refused)
      · exact absurd here new
      · have nothing : ∀ locals, (readRouters libc kernel locals version routerCount.toNat .empty
            rest).1 = .empty := fun locals => readRouters_refused libc kernel locals old refused
        constructor
        · intro first second _ _ key
          rw [nothing, nothing]
        · intro _ locals _ key c stored
          rw [nothing] at stored
          cases stored

/-- A file of version 1 with router 51 on eth0. -/
def oldFile : Text :=
  writeInt 1 ++ writeInt 1 ++ writeString (ascii "eth0") ++ writeInt 51 ++ writeInt 2 ++
    writeInt 100 ++ writeInt 1000 ++ writeBoolean false ++ writeBoolean true ++
    writeBoolean false ++ writeInt 0 ++ writeInt 0

def restoredVlan (held : Int) : Bool × Option UInt64 :=
  let outcome := readConfiguration Libc.sample Kernel.sample (fun _ => held) .empty oldFile
  (outcome.2, (outcome.1.configuration ⟨2, 51, .inet⟩).map fun c => c.settings.vlanId)

/-- It is accepted, and the router is on no VLAN or on VLAN 5. -/
theorem old_file_vlan : versionOf oldFile = some 1 ∧ restoredVlan 0 = (true, some 0) ∧
    restoredVlan 5 = (true, some 5) := by
  refine ⟨?_, ?_, ?_⟩ <;> decide +kernel

end Configurator

end OpenVrrp
