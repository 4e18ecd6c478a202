import OpenVrrp.Service
import Mathlib.Data.Finset.Basic

/-! The host of a service: the subnets that Netlink has put on the interfaces and the
fake-ARP tables of ArpService. Every request succeeds; what is not about addresses leaves
both as they are. -/
namespace OpenVrrp

structure Host where
  configured : Finset (Int × IpSubnet)
  arp : ArpServices

namespace Host

def apply (h : Host) : Effect → Host
  | .addIpAddress interface subnet =>
    { h with configured := insert (interface, subnet) h.configured }
  | .removeIpAddress interface subnet =>
    { h with configured := h.configured.erase (interface, subnet) }
  | .addFakeArp interface address mac =>
    { h with arp := (h.arp.addFakeArp true interface address mac).1 }
  | .removeFakeArp interface address =>
    { h with arp := (h.arp.removeFakeArp interface address).1 }
  | .sendPacket .. | .sendGratuitiousArp .. | .toggleInterface .. | .executeScript .. => h

def run (h : Host) (effects : List Effect) : Host := effects.foldl apply h

@[simp] theorem run_cons (h : Host) (e : Effect) (rest : List Effect) :
    h.run (e :: rest) = (h.apply e).run rest := rfl

theorem run_append (h : Host) (first second : List Effect) :
    h.run (first ++ second) = (h.run first).run second := List.foldl_append

def Neutral : Effect → Prop
  | .sendPacket .. | .sendGratuitiousArp .. | .toggleInterface .. | .executeScript .. => True
  | _ => False

theorem apply_neutral (h : Host) {e : Effect} (neutral : Neutral e) : h.apply e = h := by
  cases e <;> first | rfl | cases neutral

theorem run_neutral (h : Host) {effects : List Effect} (neutral : ∀ e ∈ effects, Neutral e) :
    h.run effects = h := by
  induction effects with
  | nil => rfl
  | cons e rest ih =>
    rw [run_cons, apply_neutral h (neutral e (by simp))]
    exact ih fun e inside => neutral e (by simp [inside])

theorem run_map (h : Host) (f : IpSubnet → Effect) (subnets : List IpSubnet) :
    h.run (subnets.map f) = subnets.foldl (fun h subnet => h.apply (f subnet)) h :=
  List.foldl_map

/-- A loop that asks for two independent things for each subnet is two loops. -/
theorem run_flatMap (h : Host) (f g : IpSubnet → Effect)
    (independent : ∀ h s t, Host.apply (Host.apply h (g s)) (f t) = (h.apply (f t)).apply (g s))
    (subnets : List IpSubnet) : h.run (subnets.flatMap fun subnet => [f subnet, g subnet]) =
      (h.run (subnets.map f)).run (subnets.map g) := by
  have behind : ∀ (rest : List IpSubnet) (h : Host) (s : IpSubnet),
      (h.apply (g s)).run (rest.map f) = (h.run (rest.map f)).apply (g s) := by
    intro rest
    induction rest with
    | nil => intro h s; rfl
    | cons t rest ih =>
      intro h s
      simp only [List.map_cons, run_cons, independent, ih]
  induction subnets generalizing h with
  | nil => rfl
  | cons s rest ih =>
    simp only [List.flatMap_cons, List.map_cons, List.cons_append, List.nil_append, run_cons,
      ih, behind]

end Host

end OpenVrrp
