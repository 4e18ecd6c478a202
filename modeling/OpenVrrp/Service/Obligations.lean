import OpenVrrp.Service.Advertising
import OpenVrrp.Service.Moves

/-! What a router asks of its socket and of the shell, step by step. The sends, the ARPs, the
commands and the counters stand in `setState`, `startup`, `shutdown`, both timer handlers and the
packet handler; what is said in one move is put together once and the law of each step is read
off it. -/
namespace OpenVrrp

def Effect.announces : Effect → Bool
  | .sendGratuitiousArp .. => true
  | _ => false

def Effect.executes : Effect → Bool
  | .executeScript .. => true
  | _ => false

/-- An advertisement of priority zero. -/
def Effect.bidsFarewell : Effect → Bool
  | .sendPacket _ _ _ priority _ _ => priority == 0
  | _ => false

def Effect.speaks (x : Effect) : Bool := x.advertises || x.announces || x.executes

def Effect.command : Effect → Option Text
  | .executeScript command _ => some command
  | _ => none

def spoken (effects : List Effect) : List Effect := effects.filter Effect.speaks

def announced (effects : List Effect) : List Effect := effects.filter Effect.announces

def executed (effects : List Effect) : List Text := effects.filterMap Effect.command

/-- The steps that take the router out of the protocol. -/
def Event.ends : Event → Bool
  | .disable => true
  | .interfaceCallback isUp => !isUp
  | _ => false

/-- One step, with the service before and after it. -/
structure Transition where
  before : VrrpService
  ends : Bool
  after : VrrpService
  effects : List Effect

namespace Transition

def enters (x : Transition) (state : State) : Bool :=
  x.before.state != state && x.after.state == state

/-- Out of Master by disable, by the loss of the link or by destruction. -/
def leaves (x : Transition) : Bool := x.ends && x.before.state == .master

/-- The law of one step in terms of requests, whatever becomes of them. -/
structure Asks (x : Transition) : Prop where
  sender : ∀ e ∈ advertised x.effects, ∃ priority, e = x.before.sendAdvertisement priority
  speaking : ∀ e ∈ advertised x.effects, x.after.state = .master ∨ x.leaves = true
  advertises : x.enters .master = true →
    advertised x.effects = [x.after.sendAdvertisement x.after.priority.1]
  announces : x.enters .master = true → x.after.family = .inet → announced x.effects =
    x.after.addresses.toList.map (Effect.sendGratuitiousArp x.after.outputInterface)
  gone : x.leaves = true → x.after.state ≠ .master
  farewells : x.effects.countP Effect.bidsFarewell = if x.leaves = true then 1 else 0
  commands : executed x.effects =
    if x.enters .master = true ∧ x.after.masterCommand ≠ [] then [x.after.masterCommand]
    else if x.enters .backup = true ∧ x.after.backupCommand ≠ [] then [x.after.backupCommand]
    else []

end Transition

namespace VrrpService

/-- ~VrrpService, as far as it is about the service itself. -/
def destruct (s : VrrpService) : Outcome := s.shutdown .disabled

def destruction (s : VrrpService) : Transition := ⟨s, true, s.destruct.1, s.destruct.2⟩

end VrrpService

/-! ### Spoken requests -/

@[simp] theorem spoken_nil : spoken [] = [] := rfl

@[simp] theorem spoken_append (xs ys : List Effect) :
    spoken (xs ++ ys) = spoken xs ++ spoken ys := List.filter_append ..

theorem spoken_eq_nil {effects : List Effect} (silent : ∀ x ∈ effects, x.speaks = false) :
    spoken effects = [] := by
  simpa [spoken, List.filter_eq_nil_iff] using silent

theorem spoken_flatMap {α : Type} (items : List α) {f : α → List Effect}
    (silent : ∀ item, spoken (f item) = []) : spoken (items.flatMap f) = [] := by
  simp only [spoken, List.filter_flatMap, List.flatMap_eq_nil_iff]
  exact fun item _ => silent item

theorem advertised_spoken (effects : List Effect) :
    advertised (spoken effects) = advertised effects := by
  rw [advertised, spoken, List.filter_filter]
  exact List.filter_congr fun x _ => by cases x <;> rfl

theorem announced_spoken (effects : List Effect) :
    announced (spoken effects) = announced effects := by
  rw [announced, spoken, List.filter_filter]
  exact List.filter_congr fun x _ => by cases x <;> rfl

theorem executed_spoken (effects : List Effect) :
    executed (spoken effects) = executed effects := by
  rw [executed, spoken, List.filterMap_filter]
  exact List.filterMap_congr fun x _ => by cases x <;> rfl

namespace VrrpService

@[simp] theorem spoken_setVirtualMac (s : VrrpService) : spoken s.setVirtualMac = [] := by
  unfold setVirtualMac
  split <;> split <;> rfl

@[simp] theorem spoken_setDefaultMac (s : VrrpService) : spoken s.setDefaultMac = [] := by
  unfold setDefaultMac
  split <;> split <;> rfl

@[simp] theorem spoken_addIpAddresses (s : VrrpService) : spoken s.addIpAddresses = [] := by
  apply spoken_eq_nil
  unfold addIpAddresses
  split <;> simp [Effect.speaks, Effect.advertises, Effect.announces, Effect.executes]

@[simp] theorem spoken_removeIpAddresses (s : VrrpService) :
    spoken s.removeIpAddresses = [] := by
  apply spoken_eq_nil
  unfold removeIpAddresses
  split <;> simp [Effect.speaks, Effect.advertises, Effect.announces, Effect.executes]

@[simp] theorem spoken_moveToInterface (s : VrrpService) : spoken s.moveToInterface = [] :=
  spoken_flatMap _ fun _ => rfl

@[simp] theorem spoken_moveToFakeArp (s : VrrpService) : spoken s.moveToFakeArp = [] :=
  spoken_flatMap _ fun _ => rfl

@[simp] theorem spoken_sendAdvertisement (s : VrrpService) (priority : UInt8)
    (rest : List Effect) : spoken (s.sendAdvertisement priority :: rest) =
      s.sendAdvertisement priority :: spoken rest := rfl

@[simp] theorem spoken_script (s : VrrpService) (command : Text) :
    spoken (s.script command) = s.script command := by
  unfold script
  split <;> rfl

@[simp] theorem spoken_sendARPs (s : VrrpService) : spoken s.sendARPs = s.sendARPs := by
  rw [spoken, List.filter_eq_self]
  intro x sent
  obtain ⟨address, _, rfl⟩ := List.mem_map.mp sent
  rfl

theorem spoken_setState_other (s : VrrpService) {state : State} (other : s.state ≠ state)
    (target : state ≠ .master) : spoken (s.setState state).2 =
      if state = .backup then VrrpService.script { s with state := state } s.backupCommand
      else [] := by
  rw [setState_other s other target]
  split <;> split <;> simp

theorem spoken_becomeMaster (s : VrrpService) (reason : NewMasterReason)
    (other : s.state ≠ .master) : spoken (s.becomeMaster reason).2 =
      s.sendAdvertisement s.priority.1 ::
        (VrrpService.script { s with state := .master } s.masterCommand ++
          if s.family = .inet then s.sendARPs else []) := by
  rw [becomeMaster_snd, setState_master s other]
  split <;> simp

theorem spoken_startup_backup (s : VrrpService) (owner : s.priority.1 ≠ 255)
    (other : s.state ≠ .backup) :
    ∃ t : VrrpService, spoken s.startup.2 = t.script s.backupCommand := by
  rw [startup_snd s owner, spoken_setState_other s.waiting other (by decide)]
  exact ⟨_, if_pos rfl⟩

theorem spoken_yield (s : VrrpService) (master : s.state = .master) (interval : WireInterval) :
    ∃ t : VrrpService, spoken (s.yield interval).2 = t.script s.backupCommand := by
  rw [yield_snd, spoken_append, spoken_setDefaultMac, List.append_nil,
    spoken_setState_other _ (by simp [master]) (by decide)]
  exact ⟨_, if_pos rfl⟩

theorem spoken_setter (s : VrrpService) {e : Event} (setter : e.Setter) :
    spoken (s.step e).2 = [] := by
  cases e with
  | setPriority priority =>
    simp only [step, setPriority]
    split
    · rfl
    · dsimp only
      split
      · split
        · exact s.spoken_moveToInterface
        · split
          · exact s.spoken_moveToFakeArp
          · rfl
      · rfl
  | setAcceptMode enabled =>
    simp only [step, setAcceptMode]
    split
    · rfl
    · split
      · rfl
      · dsimp only
        split
        · split
          · exact s.spoken_moveToInterface
          · exact s.spoken_moveToFakeArp
        · rfl
  | addIpAddress subnet =>
    simp only [step, addIpAddress]
    split
    · rfl
    · dsimp only
      split
      · split <;> rfl
      · rfl
  | removeIpAddress subnet =>
    simp only [step, removeIpAddress]
    split
    · split <;> rfl
    · rfl
  | _ => first | rfl | cases setter

/-! What the three kinds of spoken requests count for. -/

@[simp] theorem announced_append (xs ys : List Effect) :
    announced (xs ++ ys) = announced xs ++ announced ys := List.filter_append ..

@[simp] theorem announced_sendAdvertisement (s : VrrpService) (priority : UInt8)
    (rest : List Effect) : announced (s.sendAdvertisement priority :: rest) = announced rest := rfl

@[simp] theorem announced_script (s : VrrpService) (command : Text) :
    announced (s.script command) = [] := by
  unfold script
  split <;> rfl

@[simp] theorem announced_sendARPs (s : VrrpService) : announced s.sendARPs = s.sendARPs := by
  rw [announced, List.filter_eq_self]
  intro x sent
  obtain ⟨address, _, rfl⟩ := List.mem_map.mp sent
  rfl

@[simp] theorem executed_append (xs ys : List Effect) :
    executed (xs ++ ys) = executed xs ++ executed ys := List.filterMap_append ..

@[simp] theorem executed_sendAdvertisement (s : VrrpService) (priority : UInt8)
    (rest : List Effect) : executed (s.sendAdvertisement priority :: rest) = executed rest := rfl

@[simp] theorem executed_sendARPs (s : VrrpService) : executed s.sendARPs = [] := by
  rw [executed, List.filterMap_eq_nil_iff]
  intro x sent
  obtain ⟨address, _, rfl⟩ := List.mem_map.mp sent
  rfl

theorem executed_script (s : VrrpService) (command : Text) :
    executed (s.script command) = if command ≠ [] then [command] else [] := by
  unfold script
  cases command <;> rfl

theorem farewells_advertised (effects : List Effect) :
    (advertised effects).countP Effect.bidsFarewell = effects.countP Effect.bidsFarewell := by
  rw [advertised, List.countP_filter]
  apply List.countP_congr
  intro x _
  cases x <;> simp [Effect.bidsFarewell, Effect.advertises]

theorem farewell_zero (s : VrrpService) (priority : UInt8) :
    (s.sendAdvertisement priority).bidsFarewell = (priority == 0) := rfl

end VrrpService

/-! ### The law of one step, by what is said in it -/

theorem Event.ends_of_setter {e : Event} (setter : e.Setter) : e.ends = false := by
  cases e <;> first | rfl | cases setter

theorem Event.ends_of_heard {e : Event} (heard : e.Heard) : e.ends = false := by
  cases e <;> first | rfl | cases heard

theorem Event.ends_iff {e : Event} : e.ends = true ↔ ∃ state, VrrpService.ShutsDown e state := by
  constructor
  · intro ends
    cases e with
    | disable => exact ⟨_, .disable⟩
    | interfaceCallback isUp =>
      cases isUp with
      | false => exact ⟨_, .linkLost⟩
      | true => cases ends
    | _ => cases ends
  · rintro ⟨_, shuts⟩
    cases shuts <;> rfl

namespace Transition
open VrrpService
variable {x : Transition}

theorem enters_iff (x : Transition) (state : State) :
    x.enters state = true ↔ x.before.state ≠ state ∧ x.after.state = state := by
  simp [enters]

theorem leaves_iff (x : Transition) :
    x.leaves = true ↔ x.ends = true ∧ x.before.state = .master := by
  simp [leaves]

theorem asks_of_spoken {said : List Effect} (spoke : spoken x.effects = said)
    (sender : ∀ e ∈ advertised said, ∃ priority, e = x.before.sendAdvertisement priority)
    (speaking : ∀ e ∈ advertised said, x.after.state = .master ∨ x.leaves = true)
    (advertises : x.enters .master = true →
      advertised said = [x.after.sendAdvertisement x.after.priority.1])
    (announces : x.enters .master = true → x.after.family = .inet → announced said =
      x.after.addresses.toList.map (Effect.sendGratuitiousArp x.after.outputInterface))
    (gone : x.leaves = true → x.after.state ≠ .master)
    (farewells : (advertised said).countP Effect.bidsFarewell =
      if x.leaves = true then 1 else 0)
    (commands : executed said =
      if x.enters .master = true ∧ x.after.masterCommand ≠ [] then [x.after.masterCommand]
      else if x.enters .backup = true ∧ x.after.backupCommand ≠ [] then [x.after.backupCommand]
      else []) : x.Asks := by
  subst spoke
  rw [advertised_spoken] at sender speaking advertises farewells
  rw [announced_spoken] at announces
  rw [farewells_advertised] at farewells
  rw [executed_spoken] at commands
  exact ⟨sender, speaking, advertises, announces, gone, farewells, commands⟩

theorem asks_quiet (spoke : spoken x.effects = []) (master : x.enters .master = false)
    (backup : x.enters .backup = false) (stays : x.leaves = false) : x.Asks := by
  have none : x.leaves ≠ true := by simp [stays]
  refine asks_of_spoken spoke (fun e said => nomatch said) (fun e said => nomatch said)
    (fun enters => ?_) (fun enters => ?_) (fun leaves => absurd leaves none) (if_neg none).symm ?_
  · cases master.symm.trans enters
  · cases master.symm.trans enters
  · simp [master, backup, executed]

theorem asks_announcing
    (spoke : spoken x.effects = [x.before.sendAdvertisement x.before.priority.1])
    (before : x.before.state = .master) (after : x.after.state = .master)
    (goes : x.ends = false) : x.Asks := by
  have master : x.enters .master = false := by simp [enters, before]
  have backup : x.enters .backup = false := by simp [enters, after]
  have stays : x.leaves = false := by simp [leaves, goes]
  refine asks_of_spoken spoke (fun e said => ⟨_, List.mem_singleton.mp said⟩)
    (fun _ _ => .inl after) (fun enters => ?_) (fun enters => ?_) (fun leaves => ?_) ?_ ?_
  · cases master.symm.trans enters
  · cases master.symm.trans enters
  · cases stays.symm.trans leaves
  · simp [VrrpService.farewell_zero, x.before.priority.2, stays]
  · simp [master, backup, executed, VrrpService.sendAdvertisement, Effect.command]

theorem asks_becomeMaster {s t : VrrpService} (ends : Bool) (reason : NewMasterReason)
    (before : s.state ≠ .master) (other : t.state ≠ .master)
    (same : ∀ priority, t.sendAdvertisement priority = s.sendAdvertisement priority) :
    Asks ⟨s, ends, (t.becomeMaster reason).1, (t.becomeMaster reason).2⟩ := by
  have said :
      advertised (spoken (t.becomeMaster reason).2) = [t.sendAdvertisement t.priority.1] := by
    rw [advertised_spoken, advertised_becomeMaster t reason other]
  have stays : Transition.leaves
      ⟨s, ends, (t.becomeMaster reason).1, (t.becomeMaster reason).2⟩ = false := by
    simp [leaves, before]
  refine asks_of_spoken rfl ?_ ?_ ?_ ?_ (fun leaves => ?_) ?_ ?_
  · rw [said]
    exact fun e inside => ⟨_, (List.mem_singleton.mp inside).trans (same _)⟩
  · rw [becomeMaster_fst]
    exact fun _ _ => .inl rfl
  · rw [said, becomeMaster_fst]
    exact fun _ => rfl
  · intro _ here
    have inet : t.family = .inet := by simpa using here
    rw [spoken_becomeMaster t reason other, if_pos inet, announced_sendAdvertisement,
      announced_append, announced_script, announced_sendARPs, becomeMaster_fst]
    rfl
  · cases stays.symm.trans leaves
  · rw [said, stays]
    simp [farewell_zero, t.priority.2]
  · have arps : executed (if t.family = .inet then t.sendARPs else []) = [] := by
      split
      · exact t.executed_sendARPs
      · rfl
    rw [spoken_becomeMaster t reason other, executed_sendAdvertisement, executed_append, arps,
      executed_script, List.append_nil, becomeMaster_fst]
    simp [enters, before]

theorem asks_backup
    (spoke : ∃ s : VrrpService, spoken x.effects = s.script x.after.backupCommand)
    (before : x.before.state ≠ .backup) (after : x.after.state = .backup)
    (goes : x.ends = false) : x.Asks := by
  obtain ⟨s, spoke⟩ := spoke
  have master : x.enters .master = false := by simp [enters, after]
  have backup : x.enters .backup = true := by simp [enters, after, before]
  refine asks_of_spoken spoke ?_ ?_ (fun enters => ?_) (fun enters => ?_) ?_ ?_ ?_
  · simp
  · simp
  · cases master.symm.trans enters
  · cases master.symm.trans enters
  · simp [leaves, goes]
  · simp [leaves, goes]
  · simp [master, backup, executed_script]

/-- The shutdown step of a Master. -/
theorem asks_farewell (spoke : spoken x.effects = [x.before.sendAdvertisement 0])
    (before : x.before.state = .master) (master : x.after.state ≠ .master)
    (backup : x.after.state ≠ .backup) (ends : x.ends = true) : x.Asks := by
  have leaves : x.leaves = true := x.leaves_iff.mpr ⟨ends, before⟩
  refine asks_of_spoken spoke (fun e said => ⟨0, List.mem_singleton.mp said⟩)
    (fun _ _ => .inr leaves) (fun enters => ?_) (fun enters => ?_) (fun _ => master) ?_ ?_
  · exact absurd ((x.enters_iff _).mp enters).2 master
  · exact absurd ((x.enters_iff _).mp enters).2 master
  · simp [farewell_zero, leaves]
  · simp [enters, master, backup, executed, VrrpService.sendAdvertisement, Effect.command]

/-- Both counters follow the step. -/
structure Counted (x : Transition) : Prop where
  transitions : x.after.statsMasterTransitions =
    x.before.statsMasterTransitions + if x.enters .master = true then 1 else 0
  farewells : x.after.statsSentPriZeroPackets = x.before.statsSentPriZeroPackets +
    if x.leaves = true then 1 else 0

theorem Counted.quiet (other : x.after.state ≠ .master ∨ x.before.state = .master)
    (stays : x.before.state ≠ .master ∨ x.ends = false)
    (transitions : x.after.statsMasterTransitions = x.before.statsMasterTransitions)
    (farewells : x.after.statsSentPriZeroPackets = x.before.statsSentPriZeroPackets) :
    x.Counted := by
  constructor
  · rw [transitions, if_neg fun enters => ?_]
    · rfl
    · obtain ⟨before, after⟩ := (x.enters_iff _).mp enters
      exact other.elim (absurd after) before
  · rw [farewells, if_neg fun leaves => ?_]
    · rfl
    · obtain ⟨ends, before⟩ := x.leaves_iff.mp leaves
      rcases stays with other | going
      · exact other before
      · exact Bool.false_ne_true (going.symm.trans ends)

theorem counted_becomeMaster {s t : VrrpService} (ends : Bool) (reason : NewMasterReason)
    (before : s.state ≠ .master) (transitions : t.statsMasterTransitions = s.statsMasterTransitions)
    (farewells : t.statsSentPriZeroPackets = s.statsSentPriZeroPackets) :
    Counted ⟨s, ends, (t.becomeMaster reason).1, (t.becomeMaster reason).2⟩ := by
  rw [becomeMaster_fst]
  constructor
  · simp [enters, before, transitions]
  · simp [leaves, before, farewells]

end Transition

namespace VrrpService

theorem shutdown_asks (s : VrrpService) {newState : State} (backup : newState ≠ .backup)
    (master : newState ≠ .master) :
    Transition.Asks ⟨s, true, (s.shutdown newState).1, (s.shutdown newState).2⟩ := by
  cases state : s.state with
  | backup =>
    have other : s.stopMasterDownTimer.state ≠ newState := by
      rw [show s.stopMasterDownTimer.state = .backup from state]
      exact Ne.symm backup
    rw [shutdown_backup s newState state]
    refine Transition.asks_quiet ?_ ?_ ?_ ?_
    · rw [spoken_setState_other _ other master, if_neg backup]
    · simp [Transition.enters, master]
    · simp [Transition.enters, backup]
    · simp [Transition.leaves, state]
  | master =>
    have other : s.stopAdvertisementTimer.state ≠ newState := by
      rw [show s.stopAdvertisementTimer.state = .master from state]
      exact Ne.symm master
    refine Transition.asks_farewell ?_ state ?_ ?_ rfl
    · rw [shutdown_master_snd s newState state, spoken_sendAdvertisement,
        spoken_setState_other _ other master, if_neg backup]
    · rwa [s.shutdown_state newState (.inr state)]
    · rwa [s.shutdown_state newState (.inr state)]
  | disabled | linkDown =>
    rw [shutdown_idle s newState (by simp [state]) (by simp [state])]
    refine Transition.asks_quiet rfl ?_ ?_ ?_ <;>
      simp [Transition.enters, Transition.leaves, state]

theorem startup_asks (s : VrrpService) {e : Event} (starts : StartsUp e s.state) :
    Transition.Asks ⟨s, e.ends, s.startup.1, s.startup.2⟩ := by
  have idle := starts.idle
  by_cases owner : s.priority.1 = 255
  · rw [startup_owner s owner]
    exact Transition.asks_becomeMaster _ _ (fun master => idle (.inr master))
      (fun master => idle (.inr master)) fun _ => rfl
  · obtain ⟨t, spoke⟩ := spoken_startup_backup s owner fun backup => idle (.inl backup)
    refine Transition.asks_backup ⟨t, ?_⟩ (fun backup => idle (.inl backup)) ?_ ?_
    · rw [spoke, startup_fst s owner]
      rfl
    · rw [startup_fst s owner]
    · generalize s.state = state at starts
      cases starts <;> rfl

theorem step_asks (s : VrrpService) (e : Event) :
    Transition.Asks ⟨s, e.ends, (s.step e).1, (s.step e).2⟩ := by
  have moves := s.step_moves e
  generalize outcome : s.step e = u at moves
  have stays : ∀ t : VrrpService, ∀ effects, spoken effects = [] → t.state = s.state →
      (e.ends = true → s.state ≠ .master) → Transition.Asks ⟨s, e.ends, t, effects⟩ := by
    intro t effects quiet same going
    refine Transition.asks_quiet quiet ?_ ?_ ?_
    · simp [Transition.enters, same]
    · simp [Transition.enters, same]
    · simpa [Transition.leaves] using going
  cases moves with
  | set setter =>
    exact stays _ _ (s.spoken_setter setter) (s.setter_keeps setter).2.1 fun ends =>
      absurd ends (by simp [Event.ends_of_setter setter])
  | hear heard kept =>
    exact stays _ _ rfl kept.state fun ends => absurd ends (by simp [Event.ends_of_heard heard])
  | announce heard master kept =>
    exact Transition.asks_announcing rfl master (kept.state.trans master)
      (Event.ends_of_heard heard)
  | ignore _ _ _ idle =>
    apply stays s _ rfl rfl
    intro ends master
    obtain ⟨state, shuts⟩ := Event.ends_iff.mp ends
    exact idle state shuts (.inr master)
  | linkMissing disabled =>
    refine Transition.asks_quiet ?_ ?_ ?_ ?_
    · exact s.spoken_setState_other (by simp [disabled]) (by decide)
    · simp [Transition.enters]
    · simp [Transition.enters]
    · simp [Transition.leaves, disabled]
  | startUp starts => exact startup_asks s starts
  | takeOver _ backup =>
    exact Transition.asks_becomeMaster _ _ (by simp [backup])
      (by simp [stopMasterDownTimer, backup]) fun _ => rfl
  | yield master =>
    obtain ⟨t, spoke⟩ := spoken_yield (s.countAdvertisement _) master _
    refine Transition.asks_backup ⟨t, ?_⟩ (by simp [master]) (by rw [yield_fst]) rfl
    rw [spoke, yield_fst]
  | shutDown shuts =>
    rw [Event.ends_iff.mpr ⟨_, shuts⟩]
    exact s.shutdown_asks shuts.idle.1 shuts.idle.2

/-! ### The counters -/

theorem shutdown_counted (s : VrrpService) {newState : State} (master : newState ≠ .master) :
    Transition.Counted ⟨s, true, (s.shutdown newState).1, (s.shutdown newState).2⟩ := by
  cases state : s.state with
  | backup =>
    rw [shutdown_backup s newState state, setState_fst]
    exact .quiet (by simp [master]) (by simp [state]) rfl rfl
  | master =>
    rw [shutdown_master_fst s newState state]
    constructor
    · simp [Transition.enters, master]
    · simp [Transition.leaves, state]
  | disabled | linkDown =>
    rw [shutdown_idle s newState (by simp [state]) (by simp [state])]
    exact .quiet (by simp [state]) (by simp [state]) rfl rfl

theorem startup_counted (s : VrrpService) {e : Event} (starts : StartsUp e s.state) :
    Transition.Counted ⟨s, e.ends, s.startup.1, s.startup.2⟩ := by
  have idle : s.state ≠ .master := fun master => starts.idle (.inr master)
  by_cases owner : s.priority.1 = 255
  · rw [startup_owner s owner]
    exact Transition.counted_becomeMaster _ _ idle rfl rfl
  · rw [startup_fst s owner]
    exact .quiet (.inl fun master => nomatch master) (.inl idle) rfl rfl

theorem step_counted (s : VrrpService) (e : Event) :
    Transition.Counted ⟨s, e.ends, (s.step e).1, (s.step e).2⟩ := by
  have moves := s.step_moves e
  generalize outcome : s.step e = u at moves
  have stays : ∀ t : VrrpService, ∀ effects, t.state = s.state →
      t.statsMasterTransitions = s.statsMasterTransitions →
      t.statsSentPriZeroPackets = s.statsSentPriZeroPackets → e.ends = false →
      Transition.Counted ⟨s, e.ends, t, effects⟩ := by
    intro t effects same transitions farewells going
    refine .quiet ?_ (.inr going) transitions farewells
    rw [same]
    exact (Classical.em _).symm
  cases moves with
  | set setter =>
    obtain ⟨_, state, _, _, transitions, farewells⟩ := s.setter_keeps setter
    exact stays _ _ state transitions farewells (Event.ends_of_setter setter)
  | hear heard kept | announce heard _ kept =>
    exact stays _ _ kept.state kept.transitions kept.farewells (Event.ends_of_heard heard)
  | ignore _ _ _ idle =>
    refine .quiet (Classical.em _).symm ?_ rfl rfl
    rw [← Bool.not_eq_true, or_iff_not_imp_right, not_not, Event.ends_iff]
    rintro ⟨state, shuts⟩ master
    exact idle state shuts (.inr master)
  | linkMissing disabled =>
    rw [setState_fst]
    exact .quiet (.inl fun master => nomatch master) (.inl (by simp [disabled])) rfl rfl
  | startUp starts => exact startup_counted s starts
  | takeOver _ backup => exact Transition.counted_becomeMaster _ _ (by simp [backup]) rfl rfl
  | yield master =>
    rw [yield_fst]
    exact .quiet (.inl fun same => nomatch same) (.inr rfl) rfl rfl
  | shutDown shuts =>
    rw [Event.ends_iff.mpr ⟨_, shuts⟩]
    exact s.shutdown_counted shuts.idle.2

theorem destruction_law (s : VrrpService) : s.destruction.Asks ∧ s.destruction.Counted :=
  ⟨s.shutdown_asks (by decide) (by decide), s.shutdown_counted (by decide)⟩

end VrrpService

end OpenVrrp
