import OpenVrrp.History
import OpenVrrp.Library.Loops

/-! The loops of readConfiguration as they stand in the source, with counters of type int that
are compared with the counts of the file by `!=`. -/
namespace OpenVrrp

namespace Configurator

open Decoder

/-- Where a counter of type int ends. -/
def intLimit : Int := 2 ^ 31

section Model
variable (libc : Libc) (kernel : Kernel) (indeterminate : Nat → Int)

/-- The fields of a record before its subnets, and their number. -/
def readMembers (version indeterminate : Int) : Reader ((IpSubnetSet → Router) × Int) := do
  let interface ← readString
  let vrid ← readInt
  let addressFamily ← readInt
  let priority ← readInt
  let interval ← readInt
  let accept ← readBoolean
  let preempt ← readBoolean
  let enabled ← readBoolean
  let flags ← readInt
  let primaryIp ← partIf (hasPrimaryIpAddress flags) readIp .unspec
  let masterCommand ← partIf (1 < version) readString []
  let backupCommand ← partIf (1 < version) readString []
  let vlanId ← partIf (2 < version) readInt indeterminate
  let addressCount ← readInt
  pure (fun subnets => ⟨interface, vrid, addressFamily, priority, interval, accept, preempt,
    enabled, flags, primaryIp, masterCommand, backupCommand, vlanId, subnets⟩, addressCount)

/-- The body of the loop over the subnets. -/
def subnetBody (_ : Int) (subnets : IpSubnetSet) (file : Text) : Progress IpSubnetSet UInt8 :=
  match readSubnet file with
  | none => .failed subnets
  | some (subnet, rest) => .done (subnets.insert subnet) rest

/-- The body of the loop over the routers. -/
def routerBody (fuel : Nat) (version routerCount : Int) (i : Int) (m : VrrpManager)
    (file : Text) : Progress VrrpManager UInt8 :=
  match readMembers version (indeterminate (routerCount - 1 - i).toNat) file with
  | none => .failed m
  | some ((router, addressCount), rest) =>
    match Progress.loop intLimit subnetBody addressCount fuel 0 ∅ rest with
    | .unfinished => .unfinished
    | .overflowed => .overflowed
    | .failed _ => .failed m
    | .done subnets rest => .done (restore libc kernel m (router subnets)) rest

def readConfigurationLoop (fuel : Nat) (m : VrrpManager) (file : Text) :
    Progress VrrpManager UInt8 :=
  match readHeader file with
  | none => .failed m
  | some ((version, routerCount), rest) =>
    Progress.loop intLimit (routerBody libc kernel indeterminate fuel version routerCount)
      routerCount fuel 0 m rest

end Model

/-! ### What the parts take from the file -/

theorem takes_int : Takes 4 readInt := (takes_exactly 4).value _

theorem takes_boolean : Takes 0 readBoolean := (takes_exactly 1).nothing.value _

theorem takes_string : Takes 1 readString :=
  (takes_exactly 1).bind fun _ => (takes_exactly _).nothing

theorem takes_ip : Takes 4 readIp := by
  apply takes_int.bind
  intro number
  dsimp only
  split
  · exact (takes_exactly _).nothing.value _
  · exact takes_pure _

theorem takes_subnet : Takes 4 readSubnet := takes_ip.bind fun _ => takes_int.nothing.value _

theorem takes_partIf {α : Type} (present : Bool) {part : Reader α} {least : Nat}
    (takes : Takes least part) (absent : α) : Takes 0 (partIf present part absent) := by
  cases present with
  | false => exact takes_pure absent
  | true => exact takes.nothing

theorem takes_members (version indeterminate : Int) :
    Takes 1 (readMembers version indeterminate) := by
  refine takes_string.bind fun _ => takes_int.nothing.bind fun _ => takes_int.nothing.bind
    fun _ => takes_int.nothing.bind fun _ => takes_int.nothing.bind fun _ => ?_
  refine takes_boolean.bind fun _ => takes_boolean.bind fun _ => takes_boolean.bind fun _ =>
    takes_int.nothing.bind fun _ => ?_
  refine (takes_partIf _ takes_ip _).bind fun _ => (takes_partIf _ takes_string _).bind fun _ =>
    (takes_partIf _ takes_string _).bind fun _ => (takes_partIf _ takes_int _).bind fun _ => ?_
  exact takes_int.nothing.value _

theorem takes_header : Takes 0 readHeader := by
  apply takes_int.nothing.bind
  intro version
  split
  · exact takes_fail 0
  · apply takes_int.nothing.bind
    intro routerCount
    split
    · exact takes_fail 0
    · exact takes_pure _

theorem header_count {file rest : Text} {version routerCount : Int}
    (read : readHeader file = some ((version, routerCount), rest)) : 0 ≤ routerCount := by
  unfold readHeader at read
  rw [bind_apply] at read
  obtain ⟨first, _, read⟩ := Option.bind_eq_some_iff.mp read
  split at read
  · cases read
  · rw [bind_apply] at read
    obtain ⟨second, _, read⟩ := Option.bind_eq_some_iff.mp read
    split at read
    · cases read
    · rename_i counted
      cases read
      exact Int.not_lt.mp counted

theorem readRouter_members (version indeterminate : Int) :
    readRouter version indeterminate =
      (readMembers version indeterminate >>= fun members =>
        readSubnets members.2 >>= fun subnets =>
          pure (members.1 (subnets.foldl (·.insert ·) ∅))) := by
  unfold readRouter readMembers
  simp only [Decoder.bind_assoc]
  rfl

/-! ### The loop over the subnets -/

theorem subnetBody_consumes (size : Nat) : Progress.Consumes subnetBody size := by
  intro j subnets file _
  unfold subnetBody
  cases read : readSubnet file with
  | none => exact .inl ⟨subnets, rfl⟩
  | some taken =>
    have four := takes_subnet file taken read
    exact .inr ⟨_, taken.2, rfl, by omega⟩

theorem rounds_subnets (count : Nat) (j : Int) (subnets : IpSubnetSet) (file : Text) :
    match Decoder.times readSubnet count file with
    | none => ∃ t, Progress.rounds subnetBody count j subnets file = .failed t
    | some (list, rest) =>
      Progress.rounds subnetBody count j subnets file = .done (list.foldl (·.insert ·) subnets) rest
    := by
  induction count generalizing j subnets file with
  | zero => exact rfl
  | succ count ih =>
    have first : Decoder.times readSubnet (count + 1) file = (readSubnet file).bind fun taken =>
        (Decoder.times readSubnet count taken.2).map (Prod.map (taken.1 :: ·) id) := by
      rw [Decoder.times, bind_apply]
      apply Option.bind_congr
      intro taken _
      rw [bind_apply]
      cases Decoder.times readSubnet count taken.2 <;> rfl
    rw [first]
    cases read : readSubnet file with
    | none =>
      refine ⟨subnets, ?_⟩
      rw [Progress.rounds, subnetBody, read]
    | some taken =>
      have later := ih (j + 1) (subnets.insert taken.1) taken.2
      rw [Option.bind_some, Progress.rounds, subnetBody, read]
      cases rest : Decoder.times readSubnet count taken.2 with
      | none =>
        rw [rest] at later
        exact later
      | some more =>
        rw [rest] at later
        exact later

/-- In a file that an int can count, the loop ends as `readSubnets` says. -/
theorem subnetLoop_eq {fuel : Nat} (addressCount : Int) {file : Text}
    (short : (file.length : Int) < intLimit) (enough : file.length < fuel) :
    match readSubnets addressCount file with
    | none => ∃ t, Progress.loop intLimit subnetBody addressCount fuel 0 ∅ file = .failed t
    | some (list, rest) => Progress.loop intLimit subnetBody addressCount fuel 0 ∅ file =
        .done (list.foldl (·.insert ·) ∅) rest := by
  have consumes := subnetBody_consumes file.length
  have room : 0 + (file.length : Int) < intLimit := by omega
  unfold readSubnets
  by_cases negative : addressCount < 0
  · rw [if_pos negative]
    exact Progress.loop_beyond consumes (Nat.le_refl _) enough room negative
  · rw [if_neg negative, Progress.loop_eq_rounds consumes (Nat.le_refl _) enough room (by omega),
      Int.sub_zero]
    exact rounds_subnets _ _ _ _

/-! ### The loop over the routers -/

section Routers
variable (libc : Libc) (kernel : Kernel) (locals : Nat → Int)

theorem routerBody_eq {fuel : Nat} (version routerCount i : Int) (m : VrrpManager) {file : Text}
    (short : (file.length : Int) < intLimit) (enough : file.length < fuel) :
    routerBody libc kernel locals fuel version routerCount i m file =
      match readRouter version (locals (routerCount - 1 - i).toNat) file with
      | none => .failed m
      | some (router, rest) => .done (restore libc kernel m router) rest := by
  rw [readRouter_members, routerBody, bind_apply]
  cases read : readMembers version (locals (routerCount - 1 - i).toNat) file with
  | none => rfl
  | some taken =>
    have one := takes_members _ _ file taken read
    have room : (taken.2.length : Int) < intLimit := by omega
    have many : taken.2.length < fuel := by omega
    have subnets := subnetLoop_eq taken.1.2 room many
    rw [Option.bind_some, bind_apply]
    dsimp only
    cases list : readSubnets taken.1.2 taken.2 with
    | none =>
      rw [list] at subnets
      obtain ⟨t, stopped⟩ := subnets
      rw [stopped]
      rfl
    | some listed =>
      rw [list] at subnets
      rw [subnets]
      rfl

theorem takes_subnets (addressCount : Int) : Takes 0 (readSubnets addressCount) := by
  unfold readSubnets
  split
  · exact takes_fail 0
  · exact takes_subnet.times _

theorem takes_router (version indeterminate : Int) :
    Takes 1 (readRouter version indeterminate) := by
  rw [readRouter_members]
  exact (takes_members _ _).bind fun members => (takes_subnets _).value _

theorem routerBody_consumes {fuel size : Nat} (short : (size : Int) < intLimit)
    (enough : size < fuel) (version routerCount : Int) :
    Progress.Consumes (routerBody libc kernel locals fuel version routerCount) size := by
  intro i m file fits
  rw [routerBody_eq libc kernel locals version routerCount i m (by omega) (by omega)]
  cases read : readRouter version (locals (routerCount - 1 - i).toNat) file with
  | none => exact .inl ⟨m, rfl⟩
  | some taken =>
    have one := takes_router _ _ file taken read
    exact .inr ⟨_, taken.2, rfl, by omega⟩

/-- The rounds are the records; the last ones are left for them. -/
theorem rounds_routers {fuel : Nat} (version routerCount : Int) (count : Nat) {i : Int}
    (left : i + count = routerCount) (m : VrrpManager) {file : Text}
    (short : (file.length : Int) < intLimit) (enough : file.length < fuel) :
    (Progress.rounds (routerBody libc kernel locals fuel version routerCount) count i m
      file).verdict = some (readRouters libc kernel locals version count m file) := by
  induction count generalizing i m file with
  | zero => rfl
  | succ count ih =>
    have place : (routerCount - 1 - i).toNat = count := by omega
    rw [Progress.rounds, routerBody_eq libc kernel locals _ _ _ _ short enough, place, readRouters]
    cases read : readRouter version (locals count) file with
    | none => rfl
    | some taken =>
      have one := takes_router _ _ file taken read
      exact ih (by omega) _ (by omega) (by omega)

/-- With a round for every byte the loops end, and as `readConfiguration` says. -/
theorem readConfigurationLoop_eq {fuel : Nat} (m : VrrpManager) {file : Text}
    (short : (file.length : Int) < intLimit) (enough : file.length < fuel) :
    (readConfigurationLoop libc kernel locals fuel m file).verdict =
      some (readConfiguration libc kernel locals m file) := by
  unfold readConfigurationLoop readConfiguration
  cases read : readHeader file with
  | none => rfl
  | some taken =>
    obtain ⟨⟨version, routerCount⟩, rest⟩ := taken
    have none := takes_header file _ read
    have upward := header_count read
    dsimp only at none ⊢
    have consumes : Progress.Consumes (routerBody libc kernel locals fuel version routerCount)
        rest.length := routerBody_consumes libc kernel locals (by omega) (by omega) _ _
    rw [Progress.loop_eq_rounds consumes (Nat.le_refl _) (by omega) (by omega) upward, Int.sub_zero,
      rounds_routers libc kernel locals version routerCount _ (by omega) m (by omega) (by omega)]

end Routers

/-! ### Negative counts -/

/-- The reading comes to a record that announces a negative number of addresses. -/
def RecordsNegative (locals : Nat → Int) (version : Int) : Nat → Text → Prop
  | 0, _ => False
  | count + 1, file =>
    match readMembers version (locals count) file with
    | none => False
    | some ((_, addressCount), rest) =>
      addressCount < 0 ∨
        match readSubnets addressCount rest with
        | none => False
        | some (_, rest) => RecordsNegative locals version count rest

def AnnouncesNegative (locals : Nat → Int) (file : Text) : Prop :=
  match readHeader file with
  | none => False
  | some ((version, routerCount), rest) => RecordsNegative locals version routerCount.toNat rest

theorem recordsNegative_fails (libc : Libc) (kernel : Kernel) (locals : Nat → Int) (version : Int)
    {count : Nat} {file : Text} (negative : RecordsNegative locals version count file)
    (m : VrrpManager) : (readRouters libc kernel locals version count m file).2 = false := by
  induction count generalizing m file with
  | zero => cases negative
  | succ count ih =>
    rw [RecordsNegative] at negative
    rw [readRouters, readRouter_members, bind_apply]
    cases read : readMembers version (locals count) file with
    | none => rfl
    | some taken =>
      rw [read] at negative
      rw [Option.bind_some, bind_apply]
      rcases negative with below | later
      · rw [readSubnets, if_pos below]
        rfl
      · cases list : readSubnets taken.1.2 taken.2 with
        | none => rfl
        | some listed =>
          rw [list] at later
          exact ih later _

theorem announcesNegative_fails (libc : Libc) (kernel : Kernel) {locals : Nat → Int}
    (m : VrrpManager) {file : Text} (negative : AnnouncesNegative locals file) :
    (readConfiguration libc kernel locals m file).2 = false := by
  unfold AnnouncesNegative at negative
  unfold readConfiguration
  cases read : readHeader file with
  | none => rfl
  | some taken =>
    rw [read] at negative
    exact recordsNegative_fails libc kernel locals _ negative m

/-! ### Sane services -/

structure Sane (s : VrrpService) : Prop where
  router : 1 ≤ s.virtualRouterId.toNat ∧ s.virtualRouterId.toNat ≤ 255
  priority : 1 ≤ s.priority.1.toNat ∧ s.priority.1.toNat ≤ 255
  interval : 1 ≤ s.advertisementInterval.value ∧ s.advertisementInterval.value ≤ 4095
  subnets : ∀ subnet ∈ s.subnets, subnet.address.family = s.family
  addresses : ∀ a ∈ s.addresses, a.family = s.family
  primary : s.autoPrimaryIpAddress = false → s.primaryIpAddress.family = s.family

theorem byte_range {b : UInt8} (nonzero : b ≠ 0) : 1 ≤ b.toNat ∧ b.toNat ≤ 255 := by
  have small := b.toNat_lt
  have positive : b.toNat ≠ 0 := fun zero => nonzero (UInt8.toNat_inj.mp zero)
  omega

theorem sane_of_running {libc : Libc} {s : VrrpService} (administered : Administered libc s)
    (own : s.OwnFamily) : Sane s where
  router := byte_range administered.router
  priority := byte_range s.priority.2
  interval := ⟨s.advertisementInterval.positive, s.advertisementInterval.bounded⟩
  subnets := fun subnet inside => administered.settings.subnets subnet
    (List.mem_toFinset.mpr (Std.TreeSet.mem_toList.mpr inside))
  addresses := fun a inside => own a (List.mem_toFinset.mpr (Std.TreeSet.mem_toList.mpr inside))
  primary := fun forced => administered.settings.primary _ (by simp [VrrpService.settings, forced])

/-- A record with a field out of its range, or with the name of no interface. -/
def Violates (libc : Libc) (r : Router) : Prop :=
  (r.vrid < 1 ∨ 255 < r.vrid) ∨ (r.priority < 1 ∨ 255 < r.priority) ∨
    (r.addressFamily ≠ Family.inet.number ∧ r.addressFamily ≠ Family.inet6.number) ∨
    (r.interval < 10 ∨ 40950 < r.interval) ∨ libc.nameToIndex (cString r.interface) ≤ 0

theorem Violates.refused {libc : Libc} {r : Router} (violates : Violates libc r) :
    ¬ Passes libc r := by
  intro passes
  rcases violates with vrid | priority | family | interval | interface
  · exact passes.vrid vrid
  · exact passes.priority priority
  · exact passes.family (by rw [familyOf, if_neg family.1, if_neg family.2])
  · exact passes.interval (.inr interval)
  · exact passes.interface interface

/-- A file shorter than an int can count is read to an end. A negative number of addresses is
refused, every service is sane afterwards, and a record that violates a range is passed over: the
next round starts behind it with the services as they were. -/
theorem reading_safe (libc : Libc) (kernel : Kernel) {happenings : List Happening}
    {m : VrrpManager} (reached : VrrpManager.history libc happenings = some m)
    {locals : Nat → Int} (ints : Ints locals) {file : Text} (short : file.length < 2 ^ 31) :
    ∃ result : VrrpManager × Bool,
      (∀ fuel, file.length < fuel →
        (readConfigurationLoop libc kernel locals fuel m file).verdict = some result) ∧
      (AnnouncesNegative locals file → result.2 = false) ∧
      (∀ key s, result.1.services[key]? = some s → s.key = key ∧ Sane s) ∧
      ∀ fuel version routerCount i t rest r left, rest.length ≤ file.length → file.length < fuel →
        readRouter version (locals (routerCount - 1 - i).toNat) rest = some (r, left) →
        Violates libc r →
        routerBody libc kernel locals fuel version routerCount i t rest = .done t left := by
  have counted : (file.length : Int) < intLimit := by
    unfold intLimit
    omega
  refine ⟨readConfiguration libc kernel locals m file, fun fuel enough =>
    readConfigurationLoop_eq libc kernel locals m counted enough,
    announcesNegative_fails libc kernel m, fun key s stored => ?_,
    fun fuel version routerCount i t rest r left inside enough read violates => ?_⟩
  · have running := VrrpManager.running_happen m (.configuration kernel locals ints file) _
      (VrrpManager.running_history reached) rfl key s stored
    exact ⟨running.1.1, sane_of_running running.1.2 running.2⟩
  · rw [routerBody_eq libc kernel locals version routerCount i t (by omega) (by omega), read]
    dsimp only
    rw [restore_refused libc kernel t violates.refused]

/-- A record of version 1 for a router on eth0, up to the number of addresses. -/
def oldRecord (vrid addressCount : Int) : Text :=
  writeString (ascii "eth0") ++ writeInt vrid ++ writeInt 2 ++ writeInt 100 ++ writeInt 1000 ++
    writeBoolean false ++ writeBoolean true ++ writeBoolean false ++ writeInt 0 ++
    writeInt addressCount

/-- Router 0 is passed over, and router 51 has a negative number of addresses. -/
def strayFile : Text := writeInt 1 ++ writeInt 2 ++ oldRecord 0 0 ++ oldRecord 51 (-1)

theorem recordsNegative_succ (locals : Nat → Int) (count : Nat) {version number : Int}
    {file rest : Text} (members : (readMembers version (locals count) file).map
      (fun taken => (taken.1.2, taken.2)) = some (number, rest)) :
    RecordsNegative locals version (count + 1) file ↔ number < 0 ∨
      match readSubnets number rest with
      | none => False
      | some (_, rest) => RecordsNegative locals version count rest := by
  obtain ⟨⟨⟨_, _⟩, _⟩, read, same⟩ := Option.map_eq_some_iff.mp members
  obtain ⟨rfl, rfl⟩ := Prod.mk.inj same
  rw [RecordsNegative, read]

theorem strayFile_negative : AnnouncesNegative (fun _ => 0) strayFile := by
  have header : readHeader strayFile = some ((1, 2), oldRecord 0 0 ++ oldRecord 51 (-1)) := by
    decide +kernel
  have first : (readMembers 1 0 (oldRecord 0 0 ++ oldRecord 51 (-1))).map
      (fun taken => (taken.1.2, taken.2)) = some (0, oldRecord 51 (-1)) := by decide +kernel
  have second : (readMembers 1 0 (oldRecord 51 (-1))).map
      (fun taken => (taken.1.2, taken.2)) = some (-1, []) := by decide +kernel
  have last : RecordsNegative (fun _ => 0) 1 1 (oldRecord 51 (-1)) :=
    (recordsNegative_succ (fun _ => 0) 0 second).mpr (.inl (by decide))
  have both : RecordsNegative (fun _ => 0) 1 2 (oldRecord 0 0 ++ oldRecord 51 (-1)) := by
    have none : readSubnets 0 (oldRecord 51 (-1)) = some ([], oldRecord 51 (-1)) := rfl
    refine (recordsNegative_succ (fun _ => 0) 1 first).mpr (.inr ?_)
    rw [none]
    exact last
  rw [AnnouncesNegative, header]
  exact both

theorem reading_safe_sample : ∃ result : VrrpManager × Bool,
    (∀ fuel, 100 ≤ fuel → (readConfigurationLoop .sample .sample (fun _ => 0) fuel .empty
      strayFile).verdict = some result) ∧ result.2 = false ∧
    (∀ key s, result.1.services[key]? = some s → s.key = key ∧ Sane s) ∧
    ∀ t, routerBody .sample .sample (fun _ => 0) 100 1 2 0 t
      (oldRecord 0 0 ++ oldRecord 51 (-1)) = .done t (oldRecord 51 (-1)) := by
  have lengths : strayFile.length < 100 ∧
      (oldRecord 0 0 ++ oldRecord 51 (-1)).length ≤ strayFile.length := by decide +kernel
  have short : strayFile.length < 2 ^ 31 := by omega
  have ints : Ints fun _ => 0 := fun _ => by
    dsimp only
    omega
  obtain ⟨result, ended, negative, sane, passes⟩ := reading_safe .sample .sample
    (show VrrpManager.history .sample [] = some .empty from rfl) ints short
  have taken : (readRouter 1 0 (oldRecord 0 0 ++ oldRecord 51 (-1))).map
      (fun taken => (taken.1.vrid, taken.2)) = some (0, oldRecord 51 (-1)) := by decide +kernel
  obtain ⟨⟨r, left⟩, read, same⟩ := Option.map_eq_some_iff.mp taken
  obtain ⟨zero, rfl⟩ := Prod.mk.inj same
  have violates : Violates .sample r := .inl (.inl (zero.trans_lt (by decide)))
  exact ⟨result, fun fuel enough => ended fuel (by omega), negative strayFile_negative, sane,
    fun t => passes 100 1 2 0 t _ r _ lengths.2 lengths.1 read violates⟩

end Configurator

end OpenVrrp
