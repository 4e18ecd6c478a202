import OpenVrrp.Library.Nested
import OpenVrrp.Service
import Mathlib.Data.Prod.Lex

/-! VrrpManager (vrrpmanager.h, vrrpmanager.cpp): the services by interface, router id and
family. -/
namespace OpenVrrp

@[ext] structure RouterKey where
  interface : Int
  virtualRouterId : UInt8
  family : Family
  deriving DecidableEq

namespace RouterKey

def order (k : RouterKey) : Int ×ₗ Nat ×ₗ Nat :=
  toLex (k.interface, toLex (k.virtualRouterId.toNat, k.family.number))

theorem order_injective : Function.Injective order := by
  intro a b same
  simp only [order, EmbeddingLike.apply_eq_iff_eq, Prod.mk.injEq] at same
  exact RouterKey.ext same.1 (UInt8.toNat_inj.mp same.2.1) (Family.number_injective same.2.2)

instance : LinearOrder RouterKey := LinearOrder.lift' order order_injective

instance : Std.LawfulEqOrd RouterKey := ⟨compare_eq_iff_eq.mp⟩

end RouterKey

structure Kernel where
  creation : RouterKey → UInt64 → Creation
  isInterfaceUp : Int → Bool

def Kernel.sample : Kernel := ⟨fun _ _ => ⟨.sample 1, 7, none, 8⟩, fun _ => true⟩

def VrrpService.key (s : VrrpService) : RouterKey := ⟨s.interface, s.virtualRouterId, s.family⟩

/-- The three nested maps of `m_services` as one; the empty maps that `removeService` leaves
behind are never seen. -/
structure VrrpManager where
  services : Std.TreeMap RouterKey VrrpService

namespace VrrpManager

def empty : VrrpManager := ⟨∅⟩

/-- The pointer that is returned is the key of the service; `none` is the null pointer. -/
def getService (m : VrrpManager) (kernel : Kernel) (key : RouterKey) (vlanId : UInt64)
    (createIfMissing : Bool) : VrrpManager × Option RouterKey :=
  match m.services[key]? with
  | some _ => (m, some key)
  | none =>
    if createIfMissing then
      match VrrpService.construct key.interface key.family key.virtualRouterId vlanId
          (kernel.creation key vlanId) with
      | some service => (⟨m.services.insert key service⟩, some key)
      | none => (m, none)
    else (m, none)

theorem getService_creates {m : VrrpManager} {kernel : Kernel} {key : RouterKey} {vlanId : UInt64}
    {made : VrrpService} (absent : m.services[key]? = none)
    (created : VrrpService.construct key.interface key.family key.virtualRouterId vlanId
      (kernel.creation key vlanId) = some made) :
    m.getService kernel key vlanId true = (⟨m.services.insert key made⟩, some key) := by
  rw [getService, absent]
  dsimp only
  rw [if_pos rfl, created]

theorem getService_stored {m found : VrrpManager} {kernel : Kernel} {key service : RouterKey}
    {vlanId : UInt64} {create : Bool}
    (asked : m.getService kernel key vlanId create = (found, some service)) :
    ∃ s, found.services[service]? = some s := by
  unfold getService at asked
  split at asked
  · rename_i s stored
    cases asked
    exact ⟨s, stored⟩
  · split at asked
    · split at asked
      · rename_i s _
        cases asked
        exact ⟨s, Std.TreeMap.getElem?_insert_self⟩
      · cases asked
    · cases asked

def removeService (m : VrrpManager) (key : RouterKey) : VrrpManager := ⟨m.services.erase key⟩

def update (m : VrrpManager) (key : RouterKey) (operation : VrrpService → VrrpService) :
    VrrpManager :=
  match m.services[key]? with
  | some service => ⟨m.services.insert key (operation service)⟩
  | none => m

theorem update_services (m : VrrpManager) (key place : RouterKey)
    (operation : VrrpService → VrrpService) :
    (m.update key operation).services[place]? =
      if key = place then m.services[place]?.map operation else m.services[place]? := by
  unfold update
  by_cases here : key = place
  · subst here
    rw [if_pos rfl]
    split
    · rename_i s stored
      rw [Nested.insert_self, stored]
      rfl
    · rename_i absent
      rw [absent]
      rfl
  · rw [if_neg here]
    split
    · exact Nested.insert_other _ _ here
    · rfl

end VrrpManager

end OpenVrrp
