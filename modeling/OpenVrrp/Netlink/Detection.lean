import OpenVrrp.Netlink
import OpenVrrp.Service.Disabling
import Mathlib.Data.List.Basic

/-! One service and the link of its interface, as the kernel changes the link and announces
each change. A link that loses its carrier keeps IFF_UP, so the monitor and `isInterfaceUp`
can differ on the same link. -/
namespace OpenVrrp

namespace VrrpService

theorem active_running {s : VrrpService} (active : s.Active) :
    s.state ≠ .disabled ∧ s.state ≠ .linkDown := by
  rcases active with same | same <;> rw [same] <;> exact ⟨by decide, by decide⟩

theorem interfaceCallback_state (s : VrrpService) (isUp : Bool) (enabled : s.state ≠ .disabled) :
    (s.interfaceCallback isUp).1.state ≠ .disabled ∧
      ((s.interfaceCallback isUp).1.state = .linkDown ↔ isUp = false) := by
  unfold interfaceCallback
  cases isUp with
  | true =>
    simp only [if_true]
    split
    · have running := active_running s.startup_active
      exact ⟨running.1, iff_of_false running.2 (by decide)⟩
    · rename_i up
      exact ⟨enabled, iff_of_false up (by decide)⟩
  | false =>
    simp only [Bool.false_eq_true, if_false, if_pos enabled]
    by_cases active : s.Active
    · rw [s.shutdown_state .linkDown active]
      exact ⟨by decide, iff_of_true rfl trivial⟩
    · have down : s.state = .linkDown := by
        cases state : s.state with
        | linkDown => rfl
        | disabled => exact absurd state enabled
        | backup => exact absurd (.inl state) active
        | master => exact absurd (.inr state) active
      rw [shutdown_idle s _ (fun b => active (.inl b)) (fun m => active (.inr m))]
      exact ⟨enabled, iff_of_true down trivial⟩

theorem enable_state (s : VrrpService) (isInterfaceUp : Bool) (disabled : s.state = .disabled) :
    (s.enable isInterfaceUp).1.state ≠ .disabled ∧
      ((s.enable isInterfaceUp).1.state = .linkDown ↔ isInterfaceUp = false) := by
  rw [enable, if_pos disabled]
  cases isInterfaceUp with
  | true =>
    have running := active_running s.startup_active
    exact ⟨running.1, iff_of_false running.2 (by decide)⟩
  | false => simp

theorem internal_state (s : VrrpService) {e : Event} (internal : e.Internal) :
    ((s.step e).1.state = .disabled ↔ s.state = .disabled) ∧
      ((s.step e).1.state = .linkDown ↔ s.state = .linkDown) := by
  have moves := s.step_moves e
  generalize outcome : s.step e = u at moves
  cases moves with
  | set setter => rw [(s.setter_keeps setter).2.1]; exact ⟨Iff.rfl, Iff.rfl⟩
  | hear _ stays | announce _ _ stays => rw [stays.state]; exact ⟨Iff.rfl, Iff.rfl⟩
  | takeOver _ backup => simp [backup]
  | yield master => simp [yield_fst, master]
  | ignore called => exact absurd internal (not_or.mpr called)
  | linkMissing => rcases internal with setter | heard <;> contradiction
  | startUp starts => exact absurd internal starts.external
  | shutDown shuts => exact absurd internal shuts.external

/-- What the calls for one message do to a service, whoever else is called. -/
theorem calls_state {ι : Type} [DecidableEq ι] (this : ι) (isUp : Bool) (calls : List (ι × Bool))
    (same : ∀ call ∈ calls, call.2 = isUp) (s : VrrpService) (enabled : s.state ≠ .disabled) :
    let t := calls.foldl
      (fun s call => if call.1 = this then (s.interfaceCallback call.2).1 else s) s
    t.state ≠ .disabled ∧ (t.state = .linkDown ↔
      if ∃ call ∈ calls, call.1 = this then isUp = false else s.state = .linkDown) := by
  induction calls generalizing s with
  | nil => simpa using enabled
  | cons call rest ih =>
    have later := ih (fun other inside => same other (List.mem_cons_of_mem call inside))
    rw [List.foldl_cons]
    by_cases mine : call.1 = this
    · rw [if_pos mine, same call List.mem_cons_self]
      obtain ⟨running, down⟩ := s.interfaceCallback_state isUp enabled
      obtain ⟨still, after⟩ := later _ running
      refine ⟨still, after.trans ?_⟩
      rw [down, ite_self, if_pos ⟨call, List.mem_cons_self, mine⟩]
    · rw [if_neg mine]
      have others : (∃ c ∈ call :: rest, c.1 = this) ↔ ∃ c ∈ rest, c.1 = this := by
        simp [mine]
      simp only [others]
      exact later s enabled

end VrrpService

/-! ### The run of a link -/

open Netlink

/-- The service registered with the user data `this`, beside whatever else is. -/
structure Monitored (ι : Type) [Ord ι] where
  links : Int → Option LinkState
  callbacks : CallbackMap ι
  this : ι
  service : VrrpService

inductive Signal where
  | newLink (interface : Int) (link : LinkState)
  | enable
  | internal (e : { e : Event // e.Internal })

namespace Monitored

variable {ι : Type} [Ord ι] [DecidableEq ι]

def announce (m : Monitored ι) (message : LinkMessage) : VrrpService :=
  (nlMessageCallback m.callbacks message).foldl
    (fun s call => if call.1 = m.this then (s.interfaceCallback call.2).1 else s) m.service

def step (m : Monitored ι) : Signal → Monitored ι
  | .newLink interface link =>
    { m with
      links := Function.update m.links interface (some link)
      service := m.announce (newLink interface link) }
  | .enable =>
    { m with service := (m.service.enable (isInterfaceUp m.links m.service.interface)).1 }
  | .internal e => { m with service := (m.service.step e.1).1 }

def run (m : Monitored ι) (signals : List Signal) : Monitored ι := signals.foldl step m

end Monitored

namespace Signal

/-- The last state of the link that is announced, or else what was known before. -/
def latest (interface : Int) : Option LinkState → List Signal → Option LinkState
  | known, [] => known
  | known, .newLink i link :: rest =>
    latest interface (if i = interface then some link else known) rest
  | known, .enable :: rest | known, .internal _ :: rest => latest interface known rest

/-- The last state of the link that is announced after the service is first enabled. -/
def announced (interface : Int) : List Signal → Option LinkState
  | [] => none
  | .enable :: rest => latest interface none rest
  | .newLink _ _ :: rest | .internal _ :: rest => announced interface rest

end Signal

namespace LinkState

/-- What the monitor makes of the link. -/
def announcedUp (link : LinkState) : Bool := link.flags &&& iffUp == iffUp

/-- What `isInterfaceUp` makes of it. -/
def operational (link : LinkState) : Bool := link.operstate == ifOperUp

end LinkState

namespace Monitored

variable {ι : Type} [Ord ι] [DecidableEq ι]

structure Watches (m : Monitored ι) (interface : Int) : Prop where
  own : m.service.interface = interface
  registered : ∀ i, Nested.find m.callbacks i m.this = some () ↔ i = interface

theorem run_append (m : Monitored ι) (first second : List Signal) :
    m.run (first ++ second) = (m.run first).run second := List.foldl_append

theorem announce_disabled (m : Monitored ι) (message : LinkMessage)
    (disabled : m.service.state = .disabled) : (m.announce message).state = .disabled := by
  refine Runs.foldl_keeps (fun s : VrrpService => s.state = .disabled) _
    (fun s call _ held => ?_) disabled
  split
  · exact (s.disabled_step held (e := .interfaceCallback call.2) id).1
  · exact held

theorem announce_interface (m : Monitored ι) (message : LinkMessage) :
    (m.announce message).interface = m.service.interface := by
  refine Runs.foldl_keeps (fun s : VrrpService => s.interface = m.service.interface) _
    (fun s call _ held => ?_) rfl
  split
  · have same := s.step_identity (.interfaceCallback call.2)
    simp only [VrrpService.identity, Prod.mk.injEq] at same
    exact same.1.trans held
  · exact held

theorem step_watches {m : Monitored ι} {interface : Int} (watches : m.Watches interface)
    (signal : Signal) : (m.step signal).Watches interface := by
  have kept : ∀ e, (m.service.step e).1.interface = interface := by
    intro e
    have same := m.service.step_identity e
    simp only [VrrpService.identity, Prod.mk.injEq] at same
    exact same.1.trans watches.own
  cases signal with
  | newLink i link => exact ⟨(m.announce_interface _).trans watches.own, watches.registered⟩
  | enable => exact ⟨kept (.enable _), watches.registered⟩
  | internal e => exact ⟨kept e.1, watches.registered⟩

variable [Std.TransOrd ι] [Std.LawfulEqOrd ι]

theorem announce_state {m : Monitored ι} {interface : Int} (watches : m.Watches interface)
    (i : Int) (link : LinkState) (enabled : m.service.state ≠ .disabled) :
    (m.announce (newLink i link)).state ≠ .disabled ∧
      ((m.announce (newLink i link)).state = .linkDown ↔
        if i = interface then link.announcedUp = false else m.service.state = .linkDown) := by
  have called : (∃ call ∈ nlMessageCallback m.callbacks (newLink i link), call.1 = m.this) ↔
      i = interface := by
    rw [← watches.registered]
    constructor
    · rintro ⟨⟨_, _⟩, inside, rfl⟩
      exact ((mem_nlMessageCallback ..).mp inside).1
    · intro found
      exact ⟨_, (mem_nlMessageCallback ..).mpr ⟨found, rfl⟩, rfl⟩
  have outcome := VrrpService.calls_state m.this link.announcedUp
    (nlMessageCallback m.callbacks (newLink i link))
    (fun call inside => ((mem_nlMessageCallback ..).mp inside).2) m.service enabled
  refine ⟨outcome.1, outcome.2.trans ?_⟩
  by_cases mine : i = interface
  · rw [if_pos (called.mpr mine), if_pos mine]
  · rw [if_neg (mt called.mp mine), if_neg mine]

/-- An enabled service believes what was announced last, and without news what it found
out when it was enabled. -/
structure Believes (m : Monitored ι) (interface : Int) (found : Option LinkState)
    (down : Prop) (known : Option LinkState) : Prop where
  watches : m.Watches interface
  enabled : m.service.state ≠ .disabled
  belief : m.service.state = .linkDown ↔
    match known with
    | some link => link.announcedUp = false
    | none => down
  truth : m.links interface = known.or found

theorem run_believes (signals : List Signal) {m : Monitored ι} {interface : Int}
    {found : Option LinkState} {down : Prop} {known : Option LinkState}
    (believes : m.Believes interface found down known) :
    (m.run signals).Believes interface found down (Signal.latest interface known signals) := by
  induction signals generalizing m known with
  | nil => exact believes
  | cons signal rest ih =>
    have watches := step_watches believes.watches signal
    cases signal with
    | newLink i link =>
      apply ih (m := m.step (.newLink i link))
      obtain ⟨still, after⟩ := announce_state believes.watches i link believes.enabled
      by_cases mine : i = interface
      · rw [if_pos mine] at after ⊢
        exact ⟨watches, still, after, by simp [step, mine]⟩
      · rw [if_neg mine] at after ⊢
        exact ⟨watches, still, after.trans believes.belief,
          (Function.update_of_ne (Ne.symm mine) _ _).trans believes.truth⟩
    | enable =>
      apply ih (m := m.step .enable)
      have same : (m.service.enable (isInterfaceUp m.links m.service.interface)).1 = m.service := by
        rw [VrrpService.enable, if_neg believes.enabled]
      rw [step, same] at watches ⊢
      exact believes
    | internal e =>
      apply ih (m := m.step (.internal e))
      obtain ⟨off, missing⟩ := m.service.internal_state e.2
      exact ⟨watches, fun disabled => believes.enabled (off.mp disabled),
        missing.trans believes.belief, believes.truth⟩

theorem run_disabled_iff (signals : List Signal) {m : Monitored ι} {interface : Int}
    (watches : m.Watches interface) (disabled : m.service.state = .disabled)
    (enabled : .enable ∈ signals) :
    ((m.run signals).service.state = .linkDown ↔
        isInterfaceUp (m.run signals).links interface = false) ↔
      ∀ link, Signal.announced interface signals = some link →
        link.announcedUp = link.operational := by
  induction signals generalizing m with
  | nil => cases enabled
  | cons signal rest ih =>
    have watching := step_watches watches signal
    cases signal with
    | newLink i link =>
      exact ih watching (m.announce_disabled _ disabled) (by simpa using enabled)
    | internal e =>
      refine ih watching ?_ (by simpa using enabled)
      exact (m.service.internal_state e.2).1.mpr disabled
    | enable =>
      obtain ⟨running, down⟩ :=
        m.service.enable_state (isInterfaceUp m.links m.service.interface) disabled
      have start : (m.step .enable).Believes interface (m.links interface)
          (isInterfaceUp m.links m.service.interface = false) none := ⟨watching, running, down, rfl⟩
      obtain ⟨_, _, belief, truth⟩ := run_believes rest start
      change ((run (m.step .enable) rest).service.state = .linkDown ↔
        isInterfaceUp (run (m.step .enable) rest).links interface = false) ↔
          ∀ link, Signal.latest interface none rest = some link → _
      unfold isInterfaceUp at belief ⊢
      rw [belief, truth, watches.own]
      cases Signal.latest interface none rest with
      | none => exact iff_of_true Iff.rfl fun _ impossible => nomatch impossible
      | some link =>
        simp only [Option.some_or, Option.some.injEq, forall_eq']
        change (link.announcedUp = false ↔ link.operational = false) ↔ _
        cases link.announcedUp <;> cases link.operational <;> decide

/-- After a run in which the service is enabled, it waits for the link exactly when the link
is not operational, if and only if nothing was announced since it was enabled or the last
announcement had IFF_UP set exactly when the operational state was up. -/
theorem link_agrees_iff (links : Int → Option LinkState) (others : CallbackMap ι) (this : ι)
    (unused : ∀ interface, Nested.find others interface this = none)
    (interface : Int) (family : Family) (virtualRouterId : UInt8) (vlanId : UInt64)
    (answers : Creation) (s : VrrpService)
    (created : VrrpService.construct interface family virtualRouterId vlanId answers = some s)
    (signals : List Signal) (enabled : .enable ∈ signals) :
    let final := run ⟨links, (addInterfaceMonitor others interface this).1, this, s⟩ signals
    (final.service.state = .linkDown ↔ isInterfaceUp final.links interface = false) ↔
      ∀ link, Signal.announced interface signals = some link →
        link.announcedUp = link.operational := by
  refine run_disabled_iff signals ⟨?_, fun i => ?_⟩ (VrrpService.construct_disabled created) enabled
  · obtain ⟨macvlan, vlan, output, mac, rfl⟩ := VrrpService.construct_fresh created
    rfl
  · simp only [addInterfaceMonitor, unused]
    by_cases mine : i = interface
    · subst mine
      exact iff_of_true (Nested.find_put_self ..) rfl
    · rw [Nested.find_put_other _ _ fun same => absurd same.symm mine, unused]
      exact iff_of_false (fun impossible => nomatch impossible) mine

theorem link_agrees_sample :
    let final := run ⟨fun _ => some ⟨1, 2⟩, (addInterfaceMonitor (∅ : CallbackMap Nat) 2 0).1, 0,
      VrrpService.sample 1⟩ [.newLink 2 ⟨1, 2⟩, .enable, .newLink 2 ⟨1, 6⟩]
    final.service.state = .linkDown ↔ isInterfaceUp final.links 2 = false :=
  (link_agrees_iff (fun _ => some ⟨1, 2⟩) ∅ 0 (fun _ => rfl) 2 .inet 51 0 _ (VrrpService.sample 1)
    (VrrpService.construct_sample 1) _ (by simp)).mpr
    fun link same => by cases Option.some.inj same; decide

/-- The carrier is lost under an enabled Backup: the flags stay up, and so does the service. -/
theorem carrier_loss_missed :
    VrrpService.construct 2 .inet 51 0 ⟨.sample 1, 7, none, -1⟩ = some (VrrpService.sample 1) ∧
    let final := run ⟨fun _ => some ⟨1, 6⟩, (addInterfaceMonitor (∅ : CallbackMap Nat) 2 0).1, 0,
      VrrpService.sample 1⟩ [.enable, .newLink 2 ⟨1, 2⟩]
    ¬ (final.service.state = .linkDown ↔ isInterfaceUp final.links 2 = false) := by
  refine ⟨rfl, ?_⟩
  decide +kernel

end Monitored

end OpenVrrp
