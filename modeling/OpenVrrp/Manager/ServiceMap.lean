import OpenVrrp.Library.Enumeration
import OpenVrrp.Library.Nested
import OpenVrrp.Manager

/-! `VrrpServiceMap`, the three nested maps of vrrpmanager.h, and VrrpManager as their contents. -/
namespace OpenVrrp

/-- Interface, router id and address family, as the maps have them. -/
abbrev Slot := Int × UInt8 × Int

def RouterKey.place (key : RouterKey) : Slot :=
  (key.interface, key.virtualRouterId, key.family.number)

theorem RouterKey.place_injective : Function.Injective RouterKey.place := by
  intro a b same
  simp only [RouterKey.place, Prod.mk.injEq, Nat.cast_inj] at same
  exact RouterKey.ext same.1 same.2.1 (Family.number_injective same.2.2)

abbrev ServiceMap (ι : Type) := Nested.Registry Int UInt8 (Std.TreeMap Int ι)

namespace ServiceMap

variable {ι : Type}

def find (services : ServiceMap ι) (place : Slot) : Option ι :=
  (Nested.find services place.1 place.2.1).bind fun routerServices => routerServices[place.2.2]?

/-- `m_services[interface][virtualRouterId][family] = service`. -/
def put (services : ServiceMap ι) (place : Slot) (service : ι) : ServiceMap ι :=
  Nested.put services place.1 place.2.1
    (((Nested.find services place.1 place.2.1).getD ∅).insert place.2.2 service)

/-- The erasure in `removeService`. The outer maps stay, empty or not. -/
def erase (services : ServiceMap ι) (place : Slot) : ServiceMap ι :=
  match Nested.find services place.1 place.2.1 with
  | none => services
  | some routerServices =>
    Nested.put services place.1 place.2.1 (routerServices.erase place.2.2)

theorem find_put (services : ServiceMap ι) (place other : Slot) (service : ι) :
    find (put services place service) other =
      if place = other then some service else find services other := by
  unfold find put
  by_cases router : place.1 = other.1 ∧ place.2.1 = other.2.1
  · rw [← router.1, ← router.2, Nested.find_put_self, Option.bind_some]
    by_cases family : place.2.2 = other.2.2
    · have same : place = other := Prod.ext router.1 (Prod.ext router.2 family)
      rw [if_pos same, ← family, Nested.insert_self]
    · have apart : place ≠ other := fun same => family (congrArg (·.2.2) same)
      rw [if_neg apart, Nested.insert_other _ _ family]
      cases Nested.find services place.1 place.2.1 with
      | none => simp
      | some routerServices => rfl
  · have apart : place ≠ other := fun same => router (same ▸ ⟨rfl, rfl⟩)
    rw [if_neg apart, Nested.find_put_other _ _ fun first second => router ⟨first, second⟩]

theorem find_erase (services : ServiceMap ι) (place other : Slot) :
    find (erase services place) other = if place = other then none else find services other := by
  unfold find erase
  cases found : Nested.find services place.1 place.2.1 with
  | none =>
    dsimp only
    by_cases same : place = other
    · rw [if_pos same, ← same, found, Option.bind_none]
    · rw [if_neg same]
  | some routerServices =>
    by_cases router : place.1 = other.1 ∧ place.2.1 = other.2.1
    · dsimp only
      rw [← router.1, ← router.2, Nested.find_put_self, found, Option.bind_some, Option.bind_some]
      by_cases family : place.2.2 = other.2.2
      · have same : place = other := Prod.ext router.1 (Prod.ext router.2 family)
        rw [if_pos same, ← family, Nested.erase_self]
      · have apart : place ≠ other := fun same => family (congrArg (·.2.2) same)
        rw [if_neg apart, Nested.erase_other _ family]
    · have apart : place ≠ other := fun same => router (same ▸ ⟨rfl, rfl⟩)
      dsimp only
      rw [if_neg apart, Nested.find_put_other _ _ fun first second => router ⟨first, second⟩]

/-- The nested maps hold the services of the manager, and nothing else. -/
structure Represents (services : ServiceMap VrrpService) (m : VrrpManager) : Prop where
  same : ∀ key : RouterKey, find services key.place = m.services[key]?
  placed : ∀ place service, find services place = some service → ∃ key, RouterKey.place key = place

theorem represents_empty : Represents ∅ .empty where
  same := fun _ => by simp [find, Nested.find, VrrpManager.empty]
  placed := fun _ _ stored => by simp [find, Nested.find] at stored

theorem represents_put {services : ServiceMap VrrpService} {m : VrrpManager}
    (represents : Represents services m) (key : RouterKey) (service : VrrpService) :
    Represents (put services key.place service) ⟨m.services.insert key service⟩ where
  same := by
    intro other
    rw [find_put]
    by_cases same : key = other
    · rw [same, if_pos rfl, Nested.insert_self]
    · rw [if_neg (RouterKey.place_injective.ne same), Nested.insert_other _ _ same,
        represents.same]
  placed := by
    intro place found stored
    rw [find_put] at stored
    split at stored
    · exact ⟨key, by assumption⟩
    · exact represents.placed place found stored

theorem find_puts {entries : List (RouterKey × ι)} (once : (entries.map Prod.fst).Nodup)
    (place : Slot) (service : ι) :
    find (entries.foldr (fun e services => put services e.1.place e.2) ∅) place = some service ↔
      ∃ key, RouterKey.place key = place ∧ (key, service) ∈ entries := by
  induction entries with
  | nil => simp [find, Nested.find]
  | cons first rest ih =>
    obtain ⟨absent, others⟩ := List.nodup_cons.mp once
    rw [List.foldr_cons, find_put]
    split
    · rename_i here
      constructor
      · intro same
        exact ⟨first.1, here, Option.some.inj same ▸ List.mem_cons_self⟩
      · rintro ⟨key, there, inside⟩
        rcases List.mem_cons.mp inside with rfl | inside
        · rfl
        · have again : key = first.1 := RouterKey.place_injective (there.trans here.symm)
          exact absurd (again ▸ List.mem_map_of_mem inside) absent
    · rename_i other
      rw [ih others]
      refine exists_congr fun key => and_congr_right fun there => ?_
      rw [List.mem_cons, or_iff_right]
      rintro rfl
      exact other there

/-- Nested maps of a manager. -/
def nested (m : VrrpManager) : ServiceMap VrrpService :=
  m.services.toList.foldr (fun e services => put services e.1.place e.2) ∅

theorem represents_nested (m : VrrpManager) : Represents (nested m) m := by
  have loop := Enumerates.toList m.services
  refine ⟨fun key => Option.ext fun service => ?_, fun place service stored => ?_⟩
  · rw [nested, find_puts loop.once, ← loop.mem]
    constructor
    · rintro ⟨other, same, inside⟩
      exact RouterKey.place_injective same ▸ inside
    · exact fun inside => ⟨key, rfl, inside⟩
  · obtain ⟨key, there, _⟩ := (find_puts loop.once place service).mp stored
    exact ⟨key, there⟩

theorem Represents.find_eq {services others : ServiceMap VrrpService} {m : VrrpManager}
    (first : Represents services m) (second : Represents others m) (place : Slot) :
    find services place = find others place := by
  refine Option.ext fun service => ⟨fun stored => ?_, fun stored => ?_⟩
  · obtain ⟨key, rfl⟩ := first.placed place service stored
    exact (second.same key).trans ((first.same key).symm.trans stored)
  · obtain ⟨key, rfl⟩ := second.placed place service stored
    exact (first.same key).trans ((second.same key).symm.trans stored)

/-- `VrrpManager::getService` on the nested maps. -/
def getService (services : ServiceMap VrrpService) (kernel : Kernel) (key : RouterKey)
    (vlanId : UInt64) (createIfMissing : Bool) : ServiceMap VrrpService × Option RouterKey :=
  match find services key.place with
  | some _ => (services, some key)
  | none =>
    if createIfMissing then
      match VrrpService.construct key.interface key.family key.virtualRouterId vlanId
          (kernel.creation key vlanId) with
      | some service => (put services key.place service, some key)
      | none => (services, none)
    else (services, none)

theorem represents_getService {services : ServiceMap VrrpService} {m : VrrpManager}
    (represents : Represents services m) (kernel : Kernel) (key : RouterKey) (vlanId : UInt64)
    (create : Bool) :
    Represents (getService services kernel key vlanId create).1
        (m.getService kernel key vlanId create).1 ∧
      (getService services kernel key vlanId create).2 =
        (m.getService kernel key vlanId create).2 := by
  unfold getService VrrpManager.getService
  rw [represents.same]
  cases m.services[key]? with
  | some service => exact ⟨represents, rfl⟩
  | none =>
    cases create with
    | false => exact ⟨represents, rfl⟩
    | true =>
      dsimp only
      rw [if_pos rfl, if_pos rfl]
      cases VrrpService.construct key.interface key.family key.virtualRouterId vlanId
          (kernel.creation key vlanId) with
      | none => exact ⟨represents, rfl⟩
      | some made => exact ⟨represents_put represents key made, rfl⟩

theorem represents_removeService {services : ServiceMap VrrpService} {m : VrrpManager}
    (represents : Represents services m) (key : RouterKey) :
    Represents (erase services key.place) (m.removeService key) where
  same := by
    intro other
    rw [find_erase, VrrpManager.removeService]
    by_cases same : key = other
    · rw [same, if_pos rfl, Nested.erase_self]
    · rw [if_neg (RouterKey.place_injective.ne same), Nested.erase_other _ same, represents.same]
  placed := by
    intro place found stored
    rw [find_erase] at stored
    split at stored
    · cases stored
    · exact represents.placed place found stored

end ServiceMap

end OpenVrrp
