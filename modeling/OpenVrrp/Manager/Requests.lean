import OpenVrrp.Manager.Listeners

/-! What a request to VrrpManager::getService yields. A service is looked up by interface,
router id and family; its VLAN id takes part only where a missing one is made. The services
that are live, made and not deleted, are recorded beside the registry. -/
namespace OpenVrrp

structure Population where
  registry : Registration
  live : Finset Nat

namespace Population

def initial : Population := ⟨.initial, ∅⟩

/-- A service that fails in its constructor is deleted by the call that makes it. -/
def step (p : Population) (request : Registration.Request) : Population where
  registry := p.registry.step request
  live := match request with
    | .getService key vlanId createIfMissing answers =>
      match p.registry.services[key]?,
          (p.registry.getService key vlanId createIfMissing answers).2 with
      | none, some pointer => insert pointer p.live
      | _, _ => p.live
    | .removeService key =>
      match p.registry.services[key]? with
      | some registered => p.live.erase registered.pointer
      | none => p.live

/-- The request gets a live service with everything that it asks for, or nothing. -/
def Fulfils (p : Population) (key : RouterKey) (vlanId : UInt64) (answers : Answers) : Prop :=
  ∀ pointer, (p.registry.getService key vlanId true answers).2 = some pointer →
    ∃ registered, (p.step (.getService key vlanId true answers)).registry.services[key]? =
        some registered ∧
      registered.pointer = pointer ∧
      pointer ∈ (p.step (.getService key vlanId true answers)).live ∧
      registered.service.key = key ∧ registered.service.vlanId = vlanId

/-- Each live service is registered once, under its own key, and nothing else is registered. -/
structure Orderly (p : Population) : Prop where
  once : ∀ pointer ∈ p.live, ∃! key : RouterKey, ∃ registered,
    p.registry.services[key]? = some registered ∧ registered.pointer = pointer
  own : ∀ (key : RouterKey) registered, p.registry.services[key]? = some registered →
    registered.pointer ∈ p.live ∧ registered.service.key = key

end Population

namespace Registration

/-- The service that is there, nothing, or a new one. -/
inductive Answered (r : Registration) (key : RouterKey) (vlanId : UInt64) :
    Registration × Option Nat → Prop where
  | found {registered : Registered} (stored : r.services[key]? = some registered) :
      Answered r key vlanId (r, some registered.pointer)
  | nothing {t : Registration} (absent : r.services[key]? = none)
      (services : t.services = r.services) : Answered r key vlanId (t, none)
  | made {t : Registration} (registered : Registered) (absent : r.services[key]? = none)
      (new : registered.pointer = r.allocated + 1) (own : registered.service.key = key)
      (vlan : registered.service.vlanId = vlanId)
      (services : t.services = r.services.insert key registered) :
      Answered r key vlanId (t, some registered.pointer)

theorem getService_answered (r : Registration) (key : RouterKey) (vlanId : UInt64)
    (createIfMissing : Bool) (answers : Answers) :
    r.Answered key vlanId (r.getService key vlanId createIfMissing answers) := by
  unfold getService
  cases stored : r.services[key]? with
  | some registered => exact .found stored
  | none =>
    cases createIfMissing with
    | false => exact .nothing stored rfl
    | true =>
      simp only [if_true, create]
      split
      · split
        · exact .nothing stored rfl
        · rename_i service made
          exact .made ⟨service, r.allocated + 1, _⟩ stored rfl
            (VrrpService.construct_key made) (VrrpService.construct_vlanId made) rfl
      · exact .nothing stored rfl

end Registration

namespace Population

theorem Orderly.of_eq {p q : Population} (orderly : p.Orderly)
    (services : q.registry.services = p.registry.services) (live : q.live = p.live) :
    q.Orderly := by
  constructor
  · rw [services, live]
    exact orderly.once
  · rw [services, live]
    exact orderly.own

/-- A new service has a number that no live one has. -/
theorem Orderly.insert {p q : Population} (orderly : p.Orderly) (numbered : p.registry.Numbered)
    {key : RouterKey} {registered : Registered} (absent : p.registry.services[key]? = none)
    (new : registered.pointer = p.registry.allocated + 1) (own : registered.service.key = key)
    (services : q.registry.services = p.registry.services.insert key registered)
    (live : q.live = Insert.insert registered.pointer p.live) : q.Orderly := by
  have older : ∀ (other : RouterKey) second, p.registry.services[other]? = some second →
      key ≠ other ∧ second.pointer ≠ registered.pointer := by
    intro other second stored
    have used := numbered.used other second stored
    refine ⟨?_, by omega⟩
    rintro rfl
    cases absent.symm.trans stored
  constructor
  · rw [services, live]
    intro pointer inside
    rcases Finset.mem_insert.mp inside with rfl | inside
    · refine ⟨key, ⟨registered, Nested.insert_self _ _ _, rfl⟩, ?_⟩
      rintro other ⟨second, stored, same⟩
      rcases Registration.insert_stored stored with ⟨here, _⟩ | ⟨_, before⟩
      · exact here.symm
      · exact absurd same (older other second before).2
    · obtain ⟨other, ⟨second, stored, same⟩, unique⟩ := orderly.once pointer inside
      have apart := older other second stored
      refine ⟨other, ⟨second, (Nested.insert_other _ _ apart.1).trans stored, same⟩, ?_⟩
      rintro third ⟨last, found, also⟩
      rcases Registration.insert_stored found with ⟨_, rfl⟩ | ⟨_, before⟩
      · exact absurd (same.trans also.symm) apart.2
      · exact unique third ⟨last, before, also⟩
  · rw [services, live]
    intro other second stored
    rcases Registration.insert_stored stored with ⟨rfl, rfl⟩ | ⟨_, before⟩
    · exact ⟨Finset.mem_insert_self _ _, own⟩
    · obtain ⟨inside, mine⟩ := orderly.own other second before
      exact ⟨Finset.mem_insert_of_mem inside, mine⟩

theorem Orderly.erase {p q : Population} (orderly : p.Orderly) (numbered : p.registry.Numbered)
    {key : RouterKey} {registered : Registered}
    (stored : p.registry.services[key]? = some registered)
    (services : q.registry.services = p.registry.services.erase key)
    (live : q.live = p.live.erase registered.pointer) : q.Orderly := by
  constructor
  · rw [services, live]
    intro pointer inside
    obtain ⟨other, ⟨second, found, same⟩, unique⟩ :=
      orderly.once pointer (Finset.mem_of_mem_erase inside)
    have apart : key ≠ other := by
      rintro rfl
      cases Option.some.inj (stored.symm.trans found)
      exact Finset.ne_of_mem_erase inside same.symm
    refine ⟨other, ⟨second, (Nested.erase_other _ apart).trans found, same⟩, ?_⟩
    rintro third ⟨last, left, also⟩
    exact unique third ⟨last, (Registration.erase_stored left).2, also⟩
  · rw [services, live]
    intro other second left
    obtain ⟨apart, before⟩ := Registration.erase_stored left
    obtain ⟨inside, mine⟩ := orderly.own other second before
    refine ⟨Finset.mem_erase.mpr ⟨fun same => apart ?_, inside⟩, mine⟩
    exact (numbered.distinct other key second registered before stored same).symm

theorem getService_orderly {p : Population} (numbered : p.registry.Numbered)
    (orderly : p.Orderly) (key : RouterKey) (vlanId : UInt64) (createIfMissing : Bool)
    (answers : Answers) : (p.step (.getService key vlanId createIfMissing answers)).Orderly := by
  have answered := p.registry.getService_answered key vlanId createIfMissing answers
  generalize outcome : p.registry.getService key vlanId createIfMissing answers = u at answered
  have registry : (p.step (.getService key vlanId createIfMissing answers)).registry = u.1 :=
    congrArg Prod.fst outcome
  cases answered with
  | found stored =>
    apply orderly.of_eq (congrArg Registration.services registry)
    simp only [step, stored]
  | nothing absent services =>
    apply orderly.of_eq ((congrArg Registration.services registry).trans services)
    simp only [step, outcome, absent]
  | made registered absent new own vlan services =>
    refine orderly.insert numbered absent new own
      ((congrArg Registration.services registry).trans services) ?_
    simp only [step, outcome, absent]

theorem step_orderly (p : Population) (request : Registration.Request)
    (held : p.registry.Numbered ∧ p.Orderly) :
    (p.step request).registry.Numbered ∧ (p.step request).Orderly := by
  refine ⟨p.registry.step_numbered request held.1, ?_⟩
  cases request with
  | getService key vlanId createIfMissing answers =>
    exact getService_orderly held.1 held.2 key vlanId createIfMissing answers
  | removeService key =>
    cases stored : p.registry.services[key]? with
    | none =>
      refine held.2.of_eq ?_ ?_ <;>
        simp only [step, Registration.step, Registration.removeService, stored]
    | some registered =>
      refine held.2.erase held.1 stored ?_ ?_ <;>
        simp only [step, Registration.step, Registration.removeService, stored]

/-- The request gets a live service of the interface, router id and family, or nothing. The
VLAN id is the one asked for if and only if no service with another one was there. -/
def Serves (p : Population) (key : RouterKey) (vlanId : UInt64) (answers : Answers) : Prop :=
  ∀ pointer, (p.registry.getService key vlanId true answers).2 = some pointer →
    ∃ registered, (p.step (.getService key vlanId true answers)).registry.services[key]? =
        some registered ∧
      registered.pointer = pointer ∧
      pointer ∈ (p.step (.getService key vlanId true answers)).live ∧
      registered.service.key = key ∧
      (registered.service.vlanId = vlanId ↔ ∀ earlier, p.registry.services[key]? = some earlier →
        earlier.service.vlanId = vlanId)

theorem orderly_serves {p : Population} (numbered : p.registry.Numbered) (orderly : p.Orderly)
    (key : RouterKey) (vlanId : UInt64) (answers : Answers) : p.Serves key vlanId answers := by
  intro pointer asked
  have after := getService_orderly numbered orderly key vlanId true answers
  have answered := p.registry.getService_answered key vlanId true answers
  have registry : (p.step (.getService key vlanId true answers)).registry =
    (p.registry.getService key vlanId true answers).1 := rfl
  generalize p.registry.getService key vlanId true answers = u at answered asked registry
  cases answered with
  | @found registered stored =>
    have there : (p.step (.getService key vlanId true answers)).registry.services[key]? =
        some registered := by rw [registry, stored]
    obtain ⟨inside, own⟩ := after.own key registered there
    have same : registered.pointer = pointer := Option.some.inj asked
    refine ⟨registered, there, same, same ▸ inside, own, fun vlan earlier before => ?_,
      fun vlan => vlan registered stored⟩
    cases Option.some.inj (stored.symm.trans before)
    exact vlan
  | nothing => cases asked
  | made registered absent new own vlan services =>
    have there : (p.step (.getService key vlanId true answers)).registry.services[key]? =
        some registered := by rw [registry, services, Nested.insert_self]
    obtain ⟨inside, _⟩ := after.own key registered there
    have same : registered.pointer = pointer := Option.some.inj asked
    refine ⟨registered, there, same, same ▸ inside, own, fun _ earlier before => ?_, fun _ => vlan⟩
    cases absent.symm.trans before

/-- After every sequence of requests each live service is registered once, under its own
key, and every create request is served. -/
theorem requests_served (requests : List Registration.Request) :
    Runs.Always step (fun p => p.Orderly ∧ ∀ key vlanId answers, p.Serves key vlanId answers)
      initial requests := by
  have start : initial.registry.Numbered ∧ initial.Orderly := by
    refine ⟨Registration.initial_numbered, ?_, ?_⟩
    · intro pointer inside
      exact absurd inside (Finset.notMem_empty pointer)
    · intro key registered stored
      cases stored
  exact (Runs.always_of_kept step_orderly start requests).imp fun p held =>
    ⟨held.2, orderly_serves held.1 held.2⟩

/-- A router on VLAN 20 is asked for, and the one on VLAN 10 is the answer. -/
theorem other_vlan_answered :
    ¬ (initial.step (.getService ⟨2, 51, .inet⟩ 10 true
        ⟨true, ⟨.sample 1, 7, none, 9⟩, true⟩)).Fulfils
      ⟨2, 51, .inet⟩ 20 ⟨true, ⟨.sample 1, 8, none, 10⟩, true⟩ := by
  intro fulfils
  obtain ⟨registered, stored, _, _, _, vlan⟩ := fulfils 1 rfl
  cases Option.some.inj stored
  revert vlan
  decide

end Population

end OpenVrrp
