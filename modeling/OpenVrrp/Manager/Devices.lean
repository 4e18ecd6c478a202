import OpenVrrp.Manager.Names
import OpenVrrp.Netlink.Creation
import OpenVrrp.Service.Moves

/-! The devices that the daemon keeps on its host. The constructors of the services make them,
the destructors and VrrpManager::cleanup remove them, and what a process left behind that did
not come that far is removed by VrrpManager::removeVrrpInterfaces when the next one starts. -/
namespace OpenVrrp

/-- The links of the kernel by their index, as Netlink::interfaces returns them. -/
abbrev InterfaceList := Std.TreeMap Int Text

namespace Netlink

/-- On a netlink socket that could be opened; an index that is not there is refused. -/
def removeInterface (links : InterfaceList) (interface : Int) : InterfaceList :=
  links.erase interface

/-- The cache of the links that a name is looked up in. -/
def byName (links : InterfaceList) : LinkTable := fun name =>
  (links.toList.find? fun link => link.2 = name).map fun link => link.1.toNat

/-- The links behind a request for a new one. -/
def granted (links : InterfaceList) (o : Outcomes) (name : Text) : InterfaceList :=
  o.acknowledged.elim links fun index => links.insert index name

end Netlink

open Netlink

namespace VrrpService

/-- The end of the destructor. -/
def removeDevices (vlanInterface macvlanInterface : Int) (links : InterfaceList) :
    InterfaceList :=
  let links := if vlanInterface ≠ -1 then removeInterface links vlanInterface else links
  if macvlanInterface ≠ -1 then removeInterface links macvlanInterface else links

/-- What the destructor removes, under the names that the constructor gave. -/
def devices (s : VrrpService) : List (Int × Text) :=
  (if s.vlanInterface ≠ -1 then
    [(s.vlanInterface, vlanName s.family s.virtualRouterId s.vlanId)] else []) ++
  if s.macvlanInterface ≠ -1 then
    [(s.macvlanInterface, macvlanName s.family s.virtualRouterId)] else []

end VrrpService

/-- How the host answers the constructor of a service. -/
structure Making where
  macvlan : Outcomes
  vlan : Outcomes
  primaryIpAddress : IpAddress
  hardwareAddress : Option Mac

/-- The links of the host, and the daemon while it runs. -/
structure Machine where
  links : InterfaceList
  process : Option VrrpManager

inductive HostEvent where
  | start
  | getService (key : RouterKey) (vlanId : UInt64) (createIfMissing : Bool) (making : Making)
  | removeService (key : RouterKey)
  | event (key : RouterKey) (e : Event)
  | cleanup
  | killed
  | appears (index : Int) (name : Text)
  | vanishes (index : Int)

namespace VrrpManager

def ours (name : Text) : Bool := name.take 4 == ascii "vrrp"

def removeVrrpInterfaces (links : InterfaceList) : InterfaceList :=
  links.toList.foldl (fun links interface =>
    if ours interface.2 then removeInterface links interface.1 else links) links

/-- `new VrrpService`, and `delete` when it has set `m_error`. -/
def make (m : VrrpManager) (links : InterfaceList) (key : RouterKey) (vlanId : UInt64)
    (making : Making) : Machine :=
  let macvlan := macvlanName key.family key.virtualRouterId
  let vlan := vlanName key.family key.virtualRouterId vlanId
  let first := addMacvlanInterface (byName links) making.macvlan macvlan
  let second := addVlanInterface first.links making.vlan vlan
  let below := granted links making.macvlan macvlan
  let after := if 0 < vlanId then granted below making.vlan vlan else below
  match createService (byName links) making.macvlan making.vlan key vlanId
      making.primaryIpAddress making.hardwareAddress with
  | some service => ⟨after, some ⟨m.services.insert key service⟩⟩
  | none => ⟨VrrpService.removeDevices second.result first.result after, some m⟩

def getDevices (m : VrrpManager) (links : InterfaceList) (key : RouterKey) (vlanId : UInt64)
    (createIfMissing : Bool) (making : Making) : Machine :=
  if m.services[key]?.isNone && createIfMissing then m.make links key vlanId making
  else ⟨links, some m⟩

def dropDevices (m : VrrpManager) (links : InterfaceList) (key : RouterKey) : Machine :=
  (m.services[key]?).elim ⟨links, some m⟩ fun s =>
    ⟨VrrpService.removeDevices s.vlanInterface s.macvlanInterface links,
      some (m.removeService key)⟩

/-- The services are not taken out of the map: the process is at its end. -/
def cleanup (m : VrrpManager) (links : InterfaceList) : InterfaceList :=
  m.services.toList.foldl (fun links service =>
    VrrpService.removeDevices service.2.vlanInterface service.2.macvlanInterface links) links

end VrrpManager

namespace Machine

/-- `start` is main up to the configuration file, behind `atexit (cleanup)`; a process that is
killed does not run it. -/
def step (h : Machine) : HostEvent → Machine
  | .start => h.process.elim ⟨VrrpManager.removeVrrpInterfaces h.links, some .empty⟩ fun _ => h
  | .getService key vlanId createIfMissing making => h.process.elim h fun m =>
    m.getDevices h.links key vlanId createIfMissing making
  | .removeService key => h.process.elim h fun m => m.dropDevices h.links key
  | .event key e => ⟨h.links, h.process.map fun m => m.update key fun s => (s.step e).1⟩
  | .cleanup => h.process.elim h fun m => ⟨m.cleanup h.links, none⟩
  | .killed => ⟨h.links, none⟩
  | .appears index name => ⟨h.links.insert index name, h.process⟩
  | .vanishes index => ⟨h.links.erase index, h.process⟩

/-- What the others on the host do to its links. -/
def others (links : InterfaceList) : HostEvent → InterfaceList
  | .appears index name => links.insert index name
  | .vanishes index => links.erase index
  | _ => links

/-- Neither the index nor the name is taken. -/
def Free (links : InterfaceList) (index : Int) (name : Text) : Prop :=
  links[index]? = none ∧ ∀ link ∈ links.toList, link.2 ≠ name

/-- Netlink could not even be asked, or the kernel makes what it is asked for. -/
def Grants (links : InterfaceList) (o : Outcomes) (name : Text) : Prop :=
  o.opened = false ∨
    ∃ index : Nat, o.acknowledged = some index ∧ o.cached = true ∧ Free links index name

/-- The name of a VLAN interface fits the buffer that it is formatted in. -/
structure Serves (links : InterfaceList) (key : RouterKey) (vlanId : UInt64) (making : Making) :
    Prop where
  fits : 0 < vlanId →
    (vlanName key.family key.virtualRouterId vlanId).length + 1 ≤ nameCapacity
  macvlan : Grants links making.macvlan (macvlanName key.family key.virtualRouterId)
  vlan : 0 < vlanId →
    Grants (granted links making.macvlan (macvlanName key.family key.virtualRouterId))
      making.vlan (vlanName key.family key.virtualRouterId vlanId)

/-- What can happen: the kernel refuses nothing that it was asked for, and the others neither
use the names of the daemon nor remove an interface under a service. -/
def Possible (h : Machine) : HostEvent → Prop
  | .getService key vlanId createIfMissing making => ∀ m, h.process = some m →
    m.services[key]? = none → createIfMissing = true → Serves h.links key vlanId making
  | .appears index name => VrrpManager.ours name = false ∧ Free h.links index name
  | .vanishes index => (∀ name, h.links[index]? = some name → VrrpManager.ours name = false) ∧
    ∀ m, h.process = some m → ∀ (key : RouterKey) s, m.services[key]? = some s →
      s.interface ≠ index
  | _ => True

end Machine

/-! ### What is removed -/

namespace VrrpService

theorem removeDevices_eq (vlanInterface macvlanInterface : Int) (links : InterfaceList) :
    removeDevices vlanInterface macvlanInterface links =
      ((if vlanInterface ≠ -1 then [vlanInterface] else []) ++
        if macvlanInterface ≠ -1 then [macvlanInterface] else []).foldl (·.erase ·) links := by
  unfold removeDevices
  by_cases vlan : vlanInterface = -1 <;> by_cases macvlan : macvlanInterface = -1 <;>
    simp [vlan, macvlan, removeInterface]

theorem devices_fst (s : VrrpService) : s.devices.map Prod.fst =
    (if s.vlanInterface ≠ -1 then [s.vlanInterface] else []) ++
      if s.macvlanInterface ≠ -1 then [s.macvlanInterface] else [] := by
  unfold devices
  by_cases vlan : s.vlanInterface = -1 <;> by_cases macvlan : s.macvlanInterface = -1 <;>
    simp [vlan, macvlan]

theorem removeDevices_eq_some (s : VrrpService) {links : InterfaceList} {index : Int}
    {name : Text} :
    (removeDevices s.vlanInterface s.macvlanInterface links)[index]? = some name ↔
      (∀ d ∈ s.devices, d.1 ≠ index) ∧ links[index]? = some name := by
  rw [removeDevices_eq, ← devices_fst, Nested.erase_all_eq_some, List.mem_map]
  simp only [not_exists, not_and, ne_eq]

theorem step_devices (s : VrrpService) (e : Event) : (s.step e).1.devices = s.devices := by
  have same := s.step_identity e
  simp only [identity, Prod.mk.injEq] at same
  unfold devices
  rw [same.2.1, same.2.2.1, same.2.2.2.1, same.2.2.2.2.1, same.2.2.2.2.2.1]

theorem construct_vlan {interface : Int} {family : Family} {virtualRouterId : UInt8}
    {vlanId : UInt64} {answers : Creation} {s : VrrpService}
    (created : construct interface family virtualRouterId vlanId answers = some s) :
    s.vlanInterface = if 0 < vlanId then answers.vlanInterface else -1 := by
  obtain ⟨macvlan, output, mac, made⟩ := construct_eq
  rw [made] at created
  dsimp only at created
  split at created
  · rename_i wanted
    split at created
    · cases created
    · cases created
      exact (if_pos wanted).symm
  · rename_i unwanted
    cases created
    exact (if_neg unwanted).symm

end VrrpService

namespace VrrpManager

theorem ours_macvlan (family : Family) (virtualRouterId : UInt8) :
    ours (macvlanName family virtualRouterId) = true := by
  rw [macvlanName_stem, ours, stem]
  cases family <;> rfl

theorem ours_vlan (family : Family) (virtualRouterId : UInt8) (vlanId : UInt64) :
    ours (vlanName family virtualRouterId vlanId) = true := by
  rw [vlanName_stem, ours, stem]
  cases family <;> rfl

theorem removeVrrpInterfaces_eq_some {links : InterfaceList} {index : Int} {name : Text} :
    (removeVrrpInterfaces links)[index]? = some name ↔
      ours name = false ∧ links[index]? = some name := by
  have loop : removeVrrpInterfaces links =
      ((links.toList.filter fun interface => ours interface.2).map Prod.fst).foldl
        (·.erase ·) links := by
    rw [List.foldl_map, List.foldl_filter]
    rfl
  rw [loop, Nested.erase_all_eq_some, and_congr_left_iff]
  intro stored
  rw [List.mem_map, ← Bool.not_eq_true, not_iff_not]
  constructor
  · rintro ⟨entry, inside, rfl⟩
    obtain ⟨inside, own⟩ := List.mem_filter.mp inside
    have found := Std.TreeMap.mem_toList_iff_getElem?_eq_some.mp inside
    rwa [Option.some.inj (stored.symm.trans found)]
  · intro own
    have inside := Std.TreeMap.mem_toList_iff_getElem?_eq_some.mpr stored
    exact ⟨(index, name), List.mem_filter.mpr ⟨inside, own⟩, rfl⟩

theorem cleanup_eq_some {m : VrrpManager} {links : InterfaceList} {index : Int} {name : Text} :
    (m.cleanup links)[index]? = some name ↔
      (∀ (key : RouterKey) s, m.services[key]? = some s → ∀ d ∈ s.devices, d.1 ≠ index) ∧
        links[index]? = some name := by
  have loop : m.cleanup links = (m.services.toList.flatMap fun service =>
      service.2.devices.map Prod.fst).foldl (·.erase ·) links := by
    rw [List.foldl_flatMap, cleanup]
    simp only [VrrpService.removeDevices_eq, VrrpService.devices_fst]
  rw [loop, Nested.erase_all_eq_some, and_congr_left_iff]
  intro _
  rw [List.mem_flatMap]
  constructor
  · intro apart key s stored d inside same
    refine apart ⟨(key, s), Std.TreeMap.mem_toList_iff_getElem?_eq_some.mpr stored, ?_⟩
    exact List.mem_map.mpr ⟨d, inside, same⟩
  · rintro apart ⟨entry, stored, inside⟩
    obtain ⟨d, inside, same⟩ := List.mem_map.mp inside
    exact apart entry.1 entry.2 (Std.TreeMap.mem_toList_iff_getElem?_eq_some.mp stored) d inside
      same

end VrrpManager

namespace Machine

/-! ### What is made -/

def Named (links : InterfaceList) : Prop :=
  ∀ (i j : Int) name, links[i]? = some name → links[j]? = some name → i = j

theorem Free.unused {links : InterfaceList} {index : Int} {name : Text}
    (free : Free links index name) (i : Int) : links[i]? ≠ some name :=
  fun stored => free.2 _ (Std.TreeMap.mem_toList_iff_getElem?_eq_some.mpr stored) rfl

theorem Named.insert {links : InterfaceList} (named : Named links) {index : Int} {name : Text}
    (free : Free links index name) : Named (links.insert index name) := by
  intro i j name' first second
  rw [Nested.insert_eq_some] at first second
  rcases first with ⟨rfl, rfl⟩ | ⟨_, first⟩ <;> rcases second with ⟨rfl, same⟩ | ⟨_, second⟩
  · rfl
  · exact absurd second (free.unused j)
  · exact absurd (same ▸ first) (free.unused i)
  · exact named i j name' first second

/-- The links and the devices that were made in addition. -/
structure Adds (links : InterfaceList) (added : List (Int × Text)) (after : InterfaceList) :
    Prop where
  entries : ∀ (index : Int) name,
    after[index]? = some name ↔ (index, name) ∈ added ∨ links[index]? = some name
  fresh : ∀ d ∈ added, links[d.1]? = none ∧ 0 ≤ d.1 ∧ VrrpManager.ours d.2 = true
  named : Named links → Named after

theorem adds_nothing (links : InterfaceList) : Adds links [] links :=
  ⟨fun _ _ => by simp, fun _ none => absurd none List.not_mem_nil, id⟩

/-- A request that is granted adds the device that it answers with, one that could not be made
answers with -1. -/
theorem Adds.grant {links below : InterfaceList} {added : List (Int × Text)}
    (adds : Adds links added below) {o : Outcomes} {name : Text} (grants : Grants below o name)
    (own : VrrpManager.ours name = true) (table : LinkTable) :
    Adds links ((if (addInterface table o name).result ≠ -1 then
        [((addInterface table o name).result, name)] else []) ++ added) (granted below o name) ∧
      ((addInterface table o name).result = -1 ∨ 0 ≤ (addInterface table o name).result) := by
  rcases grants with closed | ⟨index, acknowledged, cached, free⟩
  · rw [addInterface_closed closed, granted, acknowledged_closed closed]
    exact ⟨adds, .inl rfl⟩
  · have result : (addInterface table o name).result = (index : Int) := by
      rw [(addInterface_made table name acknowledged).1, if_pos cached]
    rw [result, if_pos (by omega), granted, acknowledged]
    refine ⟨⟨fun other name' => ?_, fun d inside => ?_, fun named => ?_⟩, .inr (by omega)⟩
    · rw [Option.elim_some, Nested.insert_eq_some, adds.entries, List.cons_append,
        List.nil_append, List.mem_cons, Prod.mk.injEq]
      constructor
      · rintro (⟨rfl, rfl⟩ | ⟨_, inside | stored⟩)
        · exact .inl (.inl ⟨rfl, rfl⟩)
        · exact .inl (.inr inside)
        · exact .inr stored
      · have elsewhere (stored : below[other]? = some name') : (index : Int) ≠ other := by
          rintro rfl
          rw [free.1] at stored
          cases stored
        rintro ((⟨rfl, rfl⟩ | inside) | stored)
        · exact .inl ⟨rfl, rfl⟩
        · exact .inr ⟨elsewhere ((adds.entries _ _).mpr (.inl inside)), .inl inside⟩
        · exact .inr ⟨elsewhere ((adds.entries _ _).mpr (.inr stored)), .inr stored⟩
    · rcases List.mem_cons.mp inside with rfl | inside
      · refine ⟨Option.eq_none_iff_forall_ne_some.mpr fun name' stored => ?_, by simp, own⟩
        have taken := (adds.entries _ _).mpr (.inr stored)
        rw [free.1] at taken
        cases taken
      · exact adds.fresh d inside
    · exact (adds.named named).insert free

/-- The constructor of a service adds its devices. When its VLAN interface could not be made,
`delete` leaves the links as they were. -/
theorem make_adds (m : VrrpManager) {links : InterfaceList} {key : RouterKey} {vlanId : UInt64}
    {making : Making} (serves : Serves links key vlanId making) :
    (∃ s after, m.make links key vlanId making = ⟨after, some ⟨m.services.insert key s⟩⟩ ∧
      Adds links s.devices after) ∨
    ∃ after, m.make links key vlanId making = ⟨after, some m⟩ ∧
      ∀ (index : Int), after[index]? = links[index]? := by
  obtain ⟨adds, low⟩ := (adds_nothing links).grant serves.macvlan
    (VrrpManager.ours_macvlan _ _) (byName links)
  have both (wanted : 0 < vlanId) := adds.grant (serves.vlan wanted)
    (VrrpManager.ours_vlan key.family key.virtualRouterId vlanId)
    (addInterface (byName links) making.macvlan
      (macvlanName key.family key.virtualRouterId)).links
  unfold VrrpManager.make addMacvlanInterface addVlanInterface
  dsimp only
  cases created : createService (byName links) making.macvlan making.vlan key vlanId
      making.primaryIpAddress making.hardwareAddress with
  | some s =>
    refine .inl ⟨s, _, rfl, ?_⟩
    have vlan := VrrpService.construct_vlan created
    have macvlan := (construct_macvlan created).1
    have named := VrrpService.construct_key created
    have number := VrrpService.construct_vlanId created
    subst named number
    unfold VrrpService.devices
    rw [vlan, macvlan]
    by_cases wanted : 0 < s.vlanId
    · rw [if_pos wanted, if_pos wanted]
      have whole := (both wanted).1
      rwa [List.append_nil] at whole
    · rw [if_neg wanted, if_neg wanted]
      rwa [List.append_nil] at adds
  | none =>
    obtain ⟨wanted, refused⟩ := VrrpService.construct_eq_none_iff.mp created
    have missing := (both wanted).2.resolve_right (Int.not_le.mpr refused)
    have whole := (both wanted).1
    rw [missing, if_neg (by decide), List.append_nil, List.nil_append] at whole
    refine .inr ⟨_, rfl, fun index => Option.ext fun name => ?_⟩
    rw [if_pos wanted, VrrpService.removeDevices_eq, missing, if_neg (by decide),
      List.nil_append, Nested.erase_all_eq_some, whole.entries]
    generalize (addInterface (byName links) making.macvlan
      (macvlanName key.family key.virtualRouterId)).result = first at whole ⊢
    by_cases none : first = -1
    · simp [none]
    · rw [if_pos none, if_pos none, List.mem_singleton, List.mem_singleton]
      rw [if_pos none] at whole
      have free := (whole.fresh _ List.mem_cons_self).1
      constructor
      · rintro ⟨other, same | stored⟩
        · cases same
          exact absurd rfl other
        · exact stored
      · intro stored
        refine ⟨?_, .inr stored⟩
        rintro rfl
        rw [free] at stored
        cases stored

/-! ### Whose they are -/

/-- The links with a name of the daemon are those of its services, each of one service. -/
structure Tidy (m : VrrpManager) (links : InterfaceList) : Prop where
  present : ∀ (key : RouterKey) s, m.services[key]? = some s →
    ∀ d ∈ s.devices, links[d.1]? = some d.2 ∧ 0 ≤ d.1 ∧ VrrpManager.ours d.2 = true
  owned : ∀ (index : Int) name, links[index]? = some name → VrrpManager.ours name = true →
    ∃ (key : RouterKey) (s : VrrpService), m.services[key]? = some s ∧ (index, name) ∈ s.devices
  apart : ∀ (key other : RouterKey) s t, m.services[key]? = some s →
    m.services[other]? = some t → ∀ d ∈ s.devices, ∀ e ∈ t.devices, d.1 = e.1 → key = other

section Keeping
variable {m : VrrpManager} {links after : InterfaceList}

theorem tidy_empty (none : ∀ (index : Int) name, links[index]? = some name →
    VrrpManager.ours name = false) : Tidy .empty links := by
  refine ⟨fun key s stored => ?_, fun index name stored own => ?_, fun key _ s _ stored => ?_⟩
  · simp [VrrpManager.empty] at stored
  · rw [none index name stored] at own
    cases own
  · simp [VrrpManager.empty] at stored

theorem Tidy.insert (tidy : Tidy m links) {key : RouterKey} {s : VrrpService}
    (absent : m.services[key]? = none) (adds : Adds links s.devices after) :
    Tidy ⟨m.services.insert key s⟩ after := by
  have before {other : RouterKey} {t : VrrpService} (stored : m.services[other]? = some t)
      {d : Int × Text} (inside : d ∈ t.devices) : after[d.1]? = some d.2 :=
    (adds.entries _ _).mpr (.inr (tidy.present other t stored d inside).1)
  have new {other : RouterKey} {t : VrrpService} (stored : m.services[other]? = some t)
      {d e : Int × Text} (mine : d ∈ s.devices) (theirs : e ∈ t.devices) : d.1 ≠ e.1 := by
    intro same
    have free := (adds.fresh d mine).1
    rw [same, (tidy.present other t stored e theirs).1] at free
    cases free
  refine ⟨fun other t stored d inside => ?_, fun index name stored own => ?_,
    fun first second t u stored also d mine e theirs same => ?_⟩
  · rcases Nested.insert_eq_some.mp stored with ⟨rfl, rfl⟩ | ⟨_, stored⟩
    · exact ⟨(adds.entries _ _).mpr (.inl inside), (adds.fresh d inside).2⟩
    · exact ⟨before stored inside, (tidy.present other t stored d inside).2⟩
  · rcases (adds.entries _ _).mp stored with inside | stored
    · exact ⟨key, s, Nested.insert_self _ _ _, inside⟩
    · obtain ⟨other, t, stored, inside⟩ := tidy.owned index name stored own
      refine ⟨other, t, Nested.insert_eq_some.mpr (.inr ⟨?_, stored⟩), inside⟩
      rintro rfl
      rw [absent] at stored
      cases stored
  · rcases Nested.insert_eq_some.mp stored with ⟨rfl, rfl⟩ | ⟨_, stored⟩ <;>
      rcases Nested.insert_eq_some.mp also with ⟨rfl, rfl⟩ | ⟨_, also⟩
    · rfl
    · exact absurd same (new also mine theirs)
    · exact absurd same.symm (new stored theirs mine)
    · exact tidy.apart first second t u stored also d mine e theirs same

theorem Tidy.same (tidy : Tidy m links)
    (same : ∀ (index : Int) name, VrrpManager.ours name = true →
      (after[index]? = some name ↔ links[index]? = some name)) : Tidy m after := by
  refine ⟨fun key s stored d inside => ?_, fun index name stored own => ?_, tidy.apart⟩
  · obtain ⟨here, low, own⟩ := tidy.present key s stored d inside
    exact ⟨(same _ _ own).mpr here, low, own⟩
  · exact tidy.owned index name ((same _ _ own).mp stored) own

theorem Tidy.remove (tidy : Tidy m links) {key : RouterKey} {s : VrrpService}
    (stored : m.services[key]? = some s) : Tidy (m.removeService key)
      (VrrpService.removeDevices s.vlanInterface s.macvlanInterface links) := by
  refine ⟨fun other t also d inside => ?_, fun index name left own => ?_,
    fun first second t u mine theirs => ?_⟩
  · obtain ⟨others, also⟩ := Nested.erase_eq_some.mp also
    obtain ⟨here, known⟩ := tidy.present other t also d inside
    exact ⟨s.removeDevices_eq_some.mpr ⟨fun e gone same =>
      others (tidy.apart key other s t stored also e gone d inside same), here⟩, known⟩
  · obtain ⟨kept, left⟩ := s.removeDevices_eq_some.mp left
    obtain ⟨other, t, also, inside⟩ := tidy.owned index name left own
    refine ⟨other, t, Nested.erase_eq_some.mpr ⟨?_, also⟩, inside⟩
    rintro rfl
    rw [Option.some.inj (stored.symm.trans also)] at kept
    exact kept _ inside rfl
  · exact tidy.apart first second t u (Nested.erase_eq_some.mp mine).2
      (Nested.erase_eq_some.mp theirs).2

theorem Tidy.event (tidy : Tidy m links) (key : RouterKey) (e : Event) :
    Tidy (m.update key fun s => (s.step e).1) links := by
  have before {place : RouterKey} {t : VrrpService}
      (stored : (m.update key fun s => (s.step e).1).services[place]? = some t) :
      ∃ s, m.services[place]? = some s ∧ t.devices = s.devices := by
    rw [VrrpManager.update_services] at stored
    split at stored
    · obtain ⟨s, there, rfl⟩ := Option.map_eq_some_iff.mp stored
      exact ⟨s, there, s.step_devices e⟩
    · exact ⟨t, stored, rfl⟩
  refine ⟨fun place t stored d inside => ?_, fun index name stored own => ?_,
    fun first second t u mine theirs d inside e also same => ?_⟩
  · obtain ⟨s, stored, same⟩ := before stored
    exact tidy.present place s stored d (same ▸ inside)
  · obtain ⟨place, s, stored, inside⟩ := tidy.owned index name stored own
    by_cases here : key = place
    · refine ⟨place, (s.step e).1, ?_, (s.step_devices e).symm ▸ inside⟩
      rw [VrrpManager.update_services, if_pos here, stored]
      rfl
    · refine ⟨place, s, ?_, inside⟩
      rw [VrrpManager.update_services, if_neg here, stored]
  · obtain ⟨s, mine, like⟩ := before mine
    obtain ⟨v, theirs, alike⟩ := before theirs
    exact tidy.apart first second s v mine theirs d (like ▸ inside) e (alike ▸ also) same

end Keeping

/-! ### Runs -/

/-- What a process leaves behind has its names, whatever else has them. -/
structure Kept (outside : InterfaceList) (h : Machine) : Prop where
  named : Named h.links
  foreign : ∀ (index : Int) name, VrrpManager.ours name = false →
    (h.links[index]? = some name ↔ outside[index]? = some name)
  tidy : ∀ m, h.process = some m → Tidy m h.links

theorem Named.erase {links after : InterfaceList} (named : Named links)
    (fewer : ∀ (index : Int) name, after[index]? = some name → links[index]? = some name) :
    Named after :=
  fun i j name first second => named i j name (fewer i name first) (fewer j name second)

theorem Kept.start {outside : InterfaceList} {h : Machine} (kept : Kept outside h) :
    Kept outside (h.step .start) := by
  rw [step]
  cases none : h.process with
  | some m => exact kept
  | none =>
    refine ⟨kept.named.erase fun index name stored =>
      (VrrpManager.removeVrrpInterfaces_eq_some.mp stored).2, fun index name other => ?_,
      fun m same => ?_⟩
    · rw [← kept.foreign index name other]
      exact VrrpManager.removeVrrpInterfaces_eq_some.trans (and_iff_right other)
    · cases same
      exact tidy_empty fun index name stored =>
        (VrrpManager.removeVrrpInterfaces_eq_some.mp stored).1

theorem Kept.getService {outside : InterfaceList} {h : Machine} (kept : Kept outside h)
    {key : RouterKey} {vlanId : UInt64} {createIfMissing : Bool} {making : Making}
    (possible : h.Possible (.getService key vlanId createIfMissing making)) :
    Kept outside (h.step (.getService key vlanId createIfMissing making)) := by
  rw [step]
  cases running : h.process with
  | none => exact kept
  | some m =>
    have tidy := kept.tidy m running
    rw [Option.elim_some, VrrpManager.getDevices]
    split
    · rename_i wanted
      rw [Bool.and_eq_true, Option.isNone_iff_eq_none] at wanted
      rcases make_adds m (possible m running wanted.1 wanted.2) with
        ⟨s, after, made, adds⟩ | ⟨after, made, same⟩
      · rw [made]
        refine ⟨adds.named kept.named, fun index name other => ?_, fun t same => ?_⟩
        · rw [← kept.foreign index name other, adds.entries]
          apply or_iff_right
          intro inside
          rw [(adds.fresh _ inside).2.2] at other
          cases other
        · cases same
          exact tidy.insert wanted.1 adds
      · rw [made]
        refine ⟨kept.named.erase fun index name stored => (same index).symm.trans stored,
          fun index name other => ?_, fun t there => ?_⟩
        · rw [← kept.foreign index name other, same]
        · cases there
          exact tidy.same fun index name _ => by rw [same]
    · exact ⟨kept.named, kept.foreign, fun t same => Option.some.inj same ▸ tidy⟩

theorem Kept.removeService {outside : InterfaceList} {h : Machine} (kept : Kept outside h)
    (key : RouterKey) : Kept outside (h.step (.removeService key)) := by
  rw [step]
  cases running : h.process with
  | none => exact kept
  | some m =>
    have tidy := kept.tidy m running
    rw [Option.elim_some, VrrpManager.dropDevices]
    cases stored : m.services[key]? with
    | none => exact ⟨kept.named, kept.foreign, fun t same => Option.some.inj same ▸ tidy⟩
    | some s =>
      refine ⟨kept.named.erase fun index name left => (s.removeDevices_eq_some.mp left).2,
        fun index name other => ?_, fun t same => Option.some.inj same ▸ tidy.remove stored⟩
      rw [← kept.foreign index name other]
      refine s.removeDevices_eq_some.trans (and_iff_right_of_imp fun there d inside same => ?_)
      obtain ⟨here, _, own⟩ := tidy.present key s stored d inside
      rw [same, there] at here
      rw [← Option.some.inj here, other] at own
      cases own

/-- A process that is at its end, and what it leaves. -/
theorem Kept.ended {outside : InterfaceList} {h : Machine} (kept : Kept outside h)
    {links : InterfaceList}
    (fewer : ∀ (index : Int) name, links[index]? = some name → h.links[index]? = some name)
    (others : ∀ (index : Int) name, VrrpManager.ours name = false →
      h.links[index]? = some name → links[index]? = some name) : Kept outside ⟨links, none⟩ := by
  refine ⟨kept.named.erase fewer, fun index name other => ?_, fun m none => ?_⟩
  · rw [← kept.foreign index name other]
    exact ⟨fewer index name, others index name other⟩
  · cases none

theorem Tidy.cleanup_none {m : VrrpManager} {links : InterfaceList} (tidy : Tidy m links)
    {index : Int} {name : Text} (left : (m.cleanup links)[index]? = some name) :
    VrrpManager.ours name = false := by
  obtain ⟨apart, stored⟩ := VrrpManager.cleanup_eq_some.mp left
  rw [← Bool.not_eq_true]
  intro own
  obtain ⟨key, s, there, inside⟩ := tidy.owned index name stored own
  exact apart key s there _ inside rfl

theorem Kept.cleanup {outside : InterfaceList} {h : Machine} (kept : Kept outside h) :
    Kept outside (h.step .cleanup) := by
  rw [step]
  cases running : h.process with
  | none => exact kept
  | some m =>
    have tidy := kept.tidy m running
    refine kept.ended (fun index name left => (VrrpManager.cleanup_eq_some.mp left).2)
      fun index name other stored => VrrpManager.cleanup_eq_some.mpr ⟨?_, stored⟩
    intro key s there d inside same
    obtain ⟨here, _, own⟩ := tidy.present key s there d inside
    rw [same, stored] at here
    rw [← Option.some.inj here, other] at own
    cases own

theorem Kept.appears {outside : InterfaceList} {h : Machine} (kept : Kept outside h)
    {index : Int} {name : Text} (possible : h.Possible (.appears index name)) :
    Kept (outside.insert index name) (h.step (.appears index name)) := by
  obtain ⟨other, free⟩ := possible
  refine ⟨kept.named.insert free, fun i name' _ => ?_, fun m running => ?_⟩
  · rw [step, Nested.insert_eq_some, Nested.insert_eq_some, kept.foreign i name' ‹_›]
  · apply (kept.tidy m running).same
    intro i name' own
    rw [step, Nested.insert_eq_some]
    constructor
    · rintro (⟨rfl, rfl⟩ | ⟨_, stored⟩)
      · rw [other] at own
        cases own
      · exact stored
    · intro stored
      refine .inr ⟨?_, stored⟩
      rintro rfl
      rw [free.1] at stored
      cases stored

theorem Kept.vanishes {outside : InterfaceList} {h : Machine} (kept : Kept outside h)
    {index : Int} (possible : h.Possible (.vanishes index)) :
    Kept (outside.erase index) (h.step (.vanishes index)) := by
  refine ⟨kept.named.erase fun i name stored => (Nested.erase_eq_some.mp stored).2,
    fun i name other => ?_, fun m running => ?_⟩
  · rw [step, Nested.erase_eq_some, Nested.erase_eq_some, kept.foreign i name other]
  · apply (kept.tidy m running).same
    intro i name own
    rw [step, Nested.erase_eq_some, and_iff_right_iff_imp]
    rintro stored rfl
    rw [possible.1 name stored] at own
    cases own

theorem step_kept {outside : InterfaceList} {h : Machine} (kept : Kept outside h)
    {e : HostEvent} (possible : h.Possible e) : Kept (others outside e) (h.step e) := by
  cases e with
  | start => exact kept.start
  | getService key vlanId createIfMissing making => exact kept.getService possible
  | removeService key => exact kept.removeService key
  | event key e =>
    refine ⟨kept.named, kept.foreign, fun m running => ?_⟩
    obtain ⟨before, there, rfl⟩ := Option.map_eq_some_iff.mp running
    exact (kept.tidy before there).event key e
  | cleanup => exact kept.cleanup
  | killed => exact kept.ended (fun _ _ => id) fun _ _ _ => id
  | appears index name => exact kept.appears possible
  | vanishes index => exact kept.vanishes possible

theorem run_kept {outside : InterfaceList} {h : Machine} (kept : Kept outside h)
    {events : List HostEvent} (possible : Runs.Admitted step Possible h events) :
    Kept (events.foldl others outside) (events.foldl step h) := by
  induction events generalizing h outside with
  | nil => exact kept
  | cons e rest ih => exact ih (step_kept kept possible.1) possible.2

theorem byName_stored {links : InterfaceList} (named : Named links) {index : Int} {name : Text}
    (stored : links[index]? = some name) : byName links name = some index.toNat := by
  have inside := Std.TreeMap.mem_toList_iff_getElem?_eq_some.mpr stored
  unfold byName
  cases found : links.toList.find? fun link => link.2 = name with
  | none => exact absurd (List.find?_eq_none.mp found _ inside) (by simp)
  | some link =>
    have there := Std.TreeMap.mem_toList_iff_getElem?_eq_some.mp (List.mem_of_find?_eq_some found)
    have same : link.2 = name := by simpa using List.find?_some found
    rw [Option.map_some, named link.1 index name (same ▸ there) stored]

theorem byName_absent {links : InterfaceList} {name : Text}
    (absent : ∀ index : Int, links[index]? ≠ some name) : byName links name = none := by
  unfold byName
  rw [Option.map_eq_none_iff, List.find?_eq_none]
  intro link inside same
  have there := Std.TreeMap.mem_toList_iff_getElem?_eq_some.mp inside
  exact absent link.1 (there.trans (congrArg some (of_decide_eq_true same)))

/-- `rtnl_link_name2i` finds a link by its name. -/
theorem nameToIndex_byName {links : InterfaceList} (named : Named links) {index : Int}
    {name : Text} (stored : links[index]? = some name) (low : 0 ≤ index) :
    nameToIndex (byName links) name = index := by
  rw [nameToIndex, byName_stored named stored, Option.getD_some, Int.toNat_of_nonneg low]

/-- The links behind a request are those that its cache shows. -/
theorem byName_granted {links : InterfaceList} (named : Named links) {o : Outcomes} {name : Text}
    (grants : Grants links o name) (other : Text) :
    byName (granted links o name) other = (addInterface (byName links) o name).links other := by
  rcases grants with closed | ⟨index, acknowledged, cached, free⟩
  · rw [addInterface_closed closed, granted, acknowledged_closed closed]
    rfl
  · have opened := (acknowledged_opened acknowledged).1
    have after : (addInterface (byName links) o name).links other =
        if other = name then some index else byName links other := by
      unfold addInterface
      rw [acknowledged, cached, opened]
      rfl
    have more := named.insert free
    rw [after, granted, acknowledged, Option.elim_some]
    split
    · rename_i same
      exact byName_stored more (Nested.insert_eq_some.mpr (.inl ⟨rfl, same.symm⟩))
    · rename_i apart
      by_cases known : ∃ i : Int, links[i]? = some other
      · obtain ⟨i, stored⟩ := known
        have elsewhere : (index : Int) ≠ i := by
          rintro rfl
          rw [free.1] at stored
          cases stored
        rw [byName_stored named stored,
          byName_stored more (Nested.insert_eq_some.mpr (.inr ⟨elsewhere, stored⟩))]
      · rw [not_exists] at known
        rw [byName_absent known, byName_absent fun i stored => ?_]
        rcases Nested.insert_eq_some.mp stored with ⟨_, same⟩ | ⟨_, stored⟩
        · exact apart same.symm
        · exact known i stored

/-- The services are those of the manager alone, for a kernel that answers as the links do. -/
theorem getDevices_process (m : VrrpManager) (links : InterfaceList) (key : RouterKey)
    (vlanId : UInt64) (createIfMissing : Bool) (making : Making) (kernel : Kernel)
    (same : VrrpService.construct key.interface key.family key.virtualRouterId vlanId
        (kernel.creation key vlanId) = createService (byName links) making.macvlan making.vlan
      key vlanId making.primaryIpAddress making.hardwareAddress) :
    (m.getDevices links key vlanId createIfMissing making).process =
      some (m.getService kernel key vlanId createIfMissing).1 := by
  unfold VrrpManager.getDevices VrrpManager.getService VrrpManager.make
  cases m.services[key]? with
  | some s => rfl
  | none =>
    cases createIfMissing with
    | false => rfl
    | true =>
      simp only [Option.isNone_none, Bool.and_self, if_true, same]
      cases createService (byName links) making.macvlan making.vlan key vlanId
        making.primaryIpAddress making.hardwareAddress <;> rfl

/-- The links of the others are as the others left them. While a process runs, the links with a
name of the daemon are those of its services, found under their names and of one service each.
`cleanup` leaves none of them, nor does the next start where a process was killed. -/
structure Orderly (outside : InterfaceList) (h : Machine) : Prop where
  foreign : ∀ (index : Int) name, VrrpManager.ours name = false →
    (h.links[index]? = some name ↔ outside[index]? = some name)
  own : ∀ m, h.process = some m → ∀ (index : Int) name, VrrpManager.ours name = true →
    (h.links[index]? = some name ↔ ∃ (key : RouterKey) (s : VrrpService),
      m.services[key]? = some s ∧ (index, name) ∈ s.devices ∧
        nameToIndex (byName h.links) name = index)
  apart : ∀ m, h.process = some m → ∀ (key other : RouterKey) s t,
    m.services[key]? = some s → m.services[other]? = some t →
      ∀ d ∈ s.devices, ∀ e ∈ t.devices, d.1 = e.1 ∨ d.2 = e.2 → key = other
  cleaned : h.process ≠ none → ∀ (index : Int) name,
    (h.step .cleanup).links[index]? = some name → VrrpManager.ours name = false
  restarted : ∀ (index : Int) name,
    ((h.step .killed).step .start).links[index]? = some name → VrrpManager.ours name = false

theorem Kept.orderly {outside : InterfaceList} {h : Machine} (kept : Kept outside h) :
    Orderly outside h where
  foreign := kept.foreign
  own := by
    intro m running index name own
    have tidy := kept.tidy m running
    constructor
    · intro stored
      obtain ⟨key, s, there, inside⟩ := tidy.owned index name stored own
      have low := (tidy.present key s there _ inside).2.1
      exact ⟨key, s, there, inside, nameToIndex_byName kept.named stored low⟩
    · rintro ⟨key, s, there, inside, _⟩
      exact (tidy.present key s there _ inside).1
  apart := by
    intro m running key other s t stored also d mine e theirs same
    have tidy := kept.tidy m running
    refine tidy.apart key other s t stored also d mine e theirs (same.elim id fun same => ?_)
    apply kept.named _ _ _ (tidy.present key s stored d mine).1
    rw [same]
    exact (tidy.present other t also e theirs).1
  cleaned := by
    intro running index name left
    obtain ⟨m, running⟩ := Option.ne_none_iff_exists'.mp running
    rw [step, running] at left
    exact (kept.tidy m running).cleanup_none left
  restarted := fun _ _ left => (VrrpManager.removeVrrpInterfaces_eq_some.mp left).1

/-- Over any number of processes, however they end, the daemon leaves the links of others alone
and knows its own. -/
theorem devices_tidy {links : InterfaceList} (named : Named links) {events : List HostEvent}
    (possible : Runs.Admitted step Possible ⟨links, none⟩ events) :
    Orderly (events.foldl others links) (events.foldl step ⟨links, none⟩) :=
  (run_kept ⟨named, fun _ _ _ => Iff.rfl, fun m none => by cases none⟩ possible).orderly

/-- `eth0`, and what an earlier process left. -/
def leftBehind : InterfaceList :=
  ((∅ : InterfaceList).insert 2 (ascii "eth0")).insert 7 (ascii "vrrp.9")

theorem leftBehind_named : Named leftBehind :=
  Named.insert (Named.insert (fun _ _ _ first => by simp at first) ⟨rfl, by decide⟩)
    ⟨rfl, by decide +kernel⟩

/-- A service with both devices, one whose VLAN interface cannot be asked for, a process that is
killed and one that ends. -/
def visits : List HostEvent :=
  [.start,
    .getService ⟨2, 51, .inet⟩ 30 true
      ⟨⟨true, true, some 8, true⟩, ⟨true, true, some 9, true⟩, .sample 1, none⟩,
    .appears 10 (ascii "eth1"),
    .getService ⟨2, 52, .inet⟩ 30 true
      ⟨⟨true, true, some 11, true⟩, ⟨false, true, none, true⟩, .sample 1, none⟩,
    .killed, .start,
    .getService ⟨2, 51, .inet6⟩ 0 true
      ⟨⟨true, true, some 12, true⟩, ⟨true, true, none, true⟩, .sample 1, none⟩,
    .cleanup]

example : (visits.foldl step ⟨leftBehind, none⟩).links.toList =
    [(2, ascii "eth0"), (10, ascii "eth1")] := by decide +kernel

theorem visits_possible : Runs.Admitted step Possible ⟨leftBehind, none⟩ visits := by
  refine ⟨trivial, ?_, ⟨by decide, rfl, by decide +kernel⟩, ?_, trivial, trivial, ?_, trivial,
    trivial⟩
  · intro m _ _ _
    exact ⟨fun _ => by decide, .inr ⟨8, rfl, rfl, rfl, by decide +kernel⟩,
      fun _ => .inr ⟨9, rfl, rfl, rfl, by decide +kernel⟩⟩
  · intro m _ _ _
    exact ⟨fun _ => by decide, .inr ⟨11, rfl, rfl, rfl, by decide +kernel⟩, fun _ => .inl rfl⟩
  · intro m _ _ _
    exact ⟨fun none => absurd none (by decide), .inr ⟨12, rfl, rfl, rfl, by decide +kernel⟩,
      fun none => absurd none (by decide)⟩

theorem devices_tidy_visits :
    Orderly (visits.foldl others leftBehind) (visits.foldl step ⟨leftBehind, none⟩) :=
  devices_tidy leftBehind_named visits_possible

end Machine

end OpenVrrp
