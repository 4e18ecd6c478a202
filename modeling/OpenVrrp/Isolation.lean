import OpenVrrp.Library.Unwinding
import OpenVrrp.Telnet.Replies

/-! Virtual routers under one daemon leave each other alone: what is said to some of them, or
happens to them, is all that decides their states and the replies about them. -/
namespace OpenVrrp

namespace VrrpManager

/-- What getService finds or makes. -/
def provided (m : VrrpManager) (kernel : Kernel) (key : RouterKey) (vlanId : UInt64)
    (create : Bool) : Option VrrpService :=
  m.services[key]?.or <| if create then
    VrrpService.construct key.interface key.family key.virtualRouterId vlanId
      (kernel.creation key vlanId) else none

theorem getService_provided (m : VrrpManager) (kernel : Kernel) (key : RouterKey)
    (vlanId : UInt64) (create : Bool) :
    (m.getService kernel key vlanId create).2 =
        (m.provided kernel key vlanId create).map (fun _ => key) ∧
      (m.getService kernel key vlanId create).1.services[key]? =
        m.provided kernel key vlanId create := by
  unfold getService provided
  cases stored : m.services[key]? with
  | some s => exact ⟨rfl, stored⟩
  | none =>
    cases create with
    | false => exact ⟨rfl, stored⟩
    | true =>
      dsimp only
      rw [if_pos rfl, if_pos rfl, Option.none_or]
      cases VrrpService.construct key.interface key.family key.virtualRouterId vlanId
          (kernel.creation key vlanId) with
      | none => exact ⟨rfl, stored⟩
      | some made => exact ⟨rfl, Nested.insert_self ..⟩

theorem getService_apart (m : VrrpManager) (kernel : Kernel) {key place : RouterKey}
    (apart : key ≠ place) (vlanId : UInt64) (create : Bool) :
    (m.getService kernel key vlanId create).1.services[place]? = m.services[place]? := by
  unfold getService
  split
  · rfl
  · split
    · split
      · exact Nested.insert_other _ _ apart
      · rfl
    · rfl

end VrrpManager

/-! ### Commands -/

namespace TelnetSession

variable {libc : Libc} {kernel : Kernel} {argv : List Text}

/-- What the words of a command are about: a router, and the VLAN of a new one. -/
def target (libc : Libc) (argv : List Text) (create : Bool) :
    Option (Except Text (RouterKey × UInt64)) := do
  let interface := libc.nameToIndex (← argv[2]?)
  if interface ≤ 0 then return .error Resp.noSuchInterface
  let vrid := atoi (← argv[3]?)
  if vrid ≤ 0 ∨ 255 < vrid then return .error Resp.invalidRouterId
  let withVlan := create && decide (6 ≤ argv.length) && wordIs argv 4 "vlan"
  let family := if wordIs argv (if withVlan then 6 else 4) "ipv6" then Family.inet6 else .inet
  let vlanId := if withVlan then UInt64.ofInt (atoi (argv[5]?.getD [])) else 0
  return .ok (⟨interface, UInt8.ofInt vrid, family⟩, vlanId)

/-- The router that a command with these words looks up. -/
def aim (libc : Libc) (argv : List Text) (create : Bool) : Option RouterKey :=
  match target libc argv create with
  | some (.ok (key, _)) => some key
  | _ => none

/-- The router that a line names. Only `add router` takes a VLAN before the family. -/
def named (libc : Libc) (argv : List Text) : Option RouterKey :=
  aim libc argv (wordIs argv 0 "add" && wordIs argv 1 "router")

theorem getService_target (m : VrrpManager) (create : Bool) :
    getService libc kernel m argv create = (target libc argv create).map fun
      | .error response => (m, .error response)
      | .ok (key, vlanId) =>
        match m.getService kernel key vlanId create with
        | (m, some service) => (m, .ok service)
        | (m, none) =>
          (m, .error (if create then Resp.errorCreatingRouter else Resp.noSuchRouter)) := by
  unfold getService target
  cases argv[2]? with
  | none => rfl
  | some name =>
    dsimp only [Option.bind_eq_bind, Option.bind_some]
    split
    · rfl
    cases argv[3]? with
    | none => rfl
    | some word =>
      dsimp only [Option.bind_some]
      split
      · rfl
      · dsimp only [Option.pure_def, Option.map_some]
        generalize m.getService kernel _ _ create = got
        obtain ⟨next, answer⟩ := got
        cases answer <;> rfl

/-- A command about one router at most: it leaves the others as they are, and what it does to
the one and replies depends on the one only. -/
structure Confined (about : Option RouterKey) (command : VrrpManager → Reaction) : Prop where
  apart : ∀ {m key done}, about ≠ some key → command m = some done →
    done.1.services[key]? = m.services[key]?
  alike : ∀ {m t key}, about = some key → m.services[key]? = t.services[key]? →
    (command m).map (Prod.map (fun m => m.services[key]?) id) =
      (command t).map (Prod.map (fun t => t.services[key]?) id)

theorem confined_same (about : Option RouterKey) (replies : List Text) :
    Confined about fun m => some (m, replies) where
  apart := by
    intro m key done _ asked
    cases asked
    rfl
  alike := by
    intro m t key _ same
    simp only [Option.map_some, Prod.map_apply, same]

theorem Confined.ite {about : Option RouterKey} {first second : VrrpManager → Reaction}
    (condition : Prop) [Decidable condition] (yes : condition → Confined about first)
    (no : ¬ condition → Confined about second) :
    Confined about fun m => if condition then first m else second m := by
  by_cases holds : condition
  · simp only [if_pos holds]
    exact yes holds
  · simp only [if_neg holds]
    exact no holds

/-- A command that looks its router up, and then works on the router that it found. -/
theorem confined_lookup (kernel : Kernel) {create : Bool} {command : VrrpManager → Reaction}
    {f : VrrpManager → RouterKey → Reaction}
    (looks : ∀ m, command m = (getService libc kernel m argv create).bind fun
      | (m, .error response) => some (m, [response])
      | (m, .ok key) => f m key)
    (works : ∀ key, Confined (some key) fun m => f m key) :
    Confined (aim libc argv create) command := by
  have found : ∀ m, command m = (target libc argv create).bind fun
      | .error response => some (m, [response])
      | .ok (key, vlanId) =>
        match m.getService kernel key vlanId create with
        | (m, some service) => f m service
        | (m, none) =>
          some (m, [if create then Resp.errorCreatingRouter else Resp.noSuchRouter]) := by
    intro m
    rw [looks, getService_target, Option.bind_map]
    congr 1
    funext answer
    rcases answer with response | ⟨key, vlanId⟩
    · rfl
    · dsimp only [Function.comp_apply]
      rcases m.getService kernel key vlanId create with ⟨m, _ | service⟩
      · rfl
      · rfl
  unfold aim
  cases aimed : target libc argv create with
  | none =>
    refine ⟨fun _ asked => ?_, fun about => ?_⟩
    · rw [found, aimed] at asked
      cases asked
    · cases about
  | some answer =>
    rcases answer with response | ⟨key, vlanId⟩
    · refine ⟨fun _ asked => ?_, fun about => ?_⟩
      · rw [found, aimed] at asked
        cases asked
        rfl
      · cases about
    constructor
    · intro m place done apart asked
      have other : key ≠ place := fun here => apart (congrArg some here)
      have kept := m.getService_apart kernel other vlanId create
      have answers := (m.getService_provided kernel key vlanId create).1
      rw [found, aimed] at asked
      dsimp only [Option.bind_some] at asked
      generalize m.getService kernel key vlanId create = got at asked kept answers
      obtain ⟨next, answer⟩ := got
      cases answer with
      | none =>
        cases asked
        exact kept
      | some service =>
        obtain ⟨_, _, rfl⟩ := Option.map_eq_some_iff.mp answers.symm
        exact ((works key).apart apart asked).trans kept
    · intro m t place named same
      cases named
      have provided :
          m.provided kernel key vlanId create = t.provided kernel key vlanId create := by
        unfold VrrpManager.provided
        rw [same]
      obtain ⟨first, here⟩ := m.getService_provided kernel key vlanId create
      obtain ⟨second, there⟩ := t.getService_provided kernel key vlanId create
      rw [found, found, aimed]
      dsimp only [Option.bind_some]
      rw [← provided] at second there
      generalize m.getService kernel key vlanId create = got at first here
      generalize t.getService kernel key vlanId create = gone at second there
      obtain ⟨next, answer⟩ := got
      obtain ⟨other, reply⟩ := gone
      obtain rfl : answer = reply := first.trans second.symm
      cases answer with
      | none =>
        dsimp only at here there ⊢
        rw [Option.map_some, Option.map_some, Prod.map_apply, Prod.map_apply, here, there]
      | some service =>
        obtain ⟨_, _, rfl⟩ := Option.map_eq_some_iff.mp first.symm
        exact (works key).alike rfl (here.trans there.symm)

theorem confined_onService (operation : VrrpService → VrrpService × List Text) :
    Confined (aim libc argv false) fun m => onService libc kernel m argv operation := by
  refine confined_lookup kernel (f := fun m key => (m.services[key]?).map fun service =>
    (m.update key fun _ => (operation service).1, (operation service).2))
    (fun m => ?_) fun key => ⟨?_, ?_⟩
  · refine congrArg (Option.bind _) (funext fun (m, found) => ?_)
    cases found with
    | error response => rfl
    | ok key =>
      dsimp only
      cases m.services[key]? <;> rfl
  · intro m place done apart asked
    have other : key ≠ place := fun here => apart (congrArg some here)
    obtain ⟨service, _, rfl⟩ := Option.map_eq_some_iff.mp asked
    rw [VrrpManager.update_services, if_neg other]
  · intro m t place named same
    cases named
    rw [← same]
    cases stored : m.services[key]? with
    | none => rfl
    | some service =>
      simp only [Option.map_some, Prod.map_apply, VrrpManager.update_services, if_pos, ← same,
        stored]

theorem confined_onAddRouterCommand :
    Confined (aim libc argv true) fun m => onAddRouterCommand libc kernel m argv := by
  refine Confined.ite _ (fun _ => ?_) fun _ => confined_same _ _
  exact confined_lookup kernel (f := fun m _ => some (m, [])) (fun _ => rfl) fun _ =>
    confined_same _ _

theorem confined_onRemoveRouterCommand :
    Confined (aim libc argv false) fun m => onRemoveRouterCommand libc kernel m argv := by
  refine Confined.ite _ (fun _ => ?_) fun _ => confined_same _ _
  refine confined_lookup kernel (f := fun m key => some (m.removeService key, []))
    (fun _ => rfl) fun key => ⟨?_, ?_⟩
  · intro m place done apart asked
    cases asked
    exact Nested.erase_other _ fun here => apart (congrArg some here)
  · intro m t place named _
    cases named
    simp only [Option.map_some, Prod.map_apply, VrrpManager.removeService, Nested.erase_self]

theorem confined_onAddressCommand (usage : Text)
    (operation : VrrpService → IpSubnet → VrrpService) :
    Confined (aim libc argv false) fun m =>
      onAddressCommand libc kernel m argv usage operation := by
  refine Confined.ite _ (fun _ => ?_) fun _ => confined_same _ _
  cases argv[if wordIs argv 4 "ipv6" then 5 else 4]? with
  | none =>
    refine ⟨fun _ asked => ?_, fun _ _ => rfl⟩
    cases asked
  | some word =>
    exact Confined.ite _ (fun _ => confined_same _ _) fun _ => confined_onService _

theorem confined_onCommand :
    Confined (named libc argv) fun m => onCommand libc kernel m argv := by
  unfold named
  refine Confined.ite _ (fun add => ?_) fun other => ?_
  · rw [add, Bool.true_and]
    refine Confined.ite _ (fun router => ?_) fun router => ?_
    · rw [router]
      exact confined_onAddRouterCommand
    · rw [Bool.eq_false_iff.mpr router]
      exact Confined.ite _ (fun _ => confined_onAddressCommand _ _) fun _ => confined_same _ _
  · rw [Bool.eq_false_iff.mpr other, Bool.false_and]
    refine Confined.ite _ (fun _ => ?_) fun _ => ?_
    · apply Confined.ite _ (fun _ => confined_onRemoveRouterCommand)
      intro _
      exact Confined.ite _ (fun _ => confined_onAddressCommand _ _) fun _ => confined_same _ _
    refine Confined.ite _ (fun _ => ?_) fun _ => ?_
    · exact Confined.ite _ (fun _ => confined_onService _) fun _ => confined_same _ _
    refine Confined.ite _ (fun _ => ?_) fun _ => ?_
    · exact Confined.ite _ (fun _ => confined_same _ _) fun _ => confined_onService _
    refine Confined.ite _ (fun _ => ?_) fun _ => ?_
    · exact Confined.ite _ (fun _ => confined_same _ _) fun _ => confined_onService _
    · exact Confined.ite _ (fun _ => confined_same _ _) fun _ => confined_same _ _

/-- The line is about the routers: it shows some of them and no others, or its command is for
one of them. -/
def Concerns (libc : Libc) (routers : Set RouterKey) (argv : List Text) : Prop :=
  if wordIs argv 0 "show" then wordIs argv 1 "router" = true ∧
    (∃ s, select libc (argv.drop 2) unselected = .ok s) ∧
    ∀ key, Shows libc argv (RouterKey.place key) → key ∈ routers
  else ∃ key ∈ routers, named libc argv = some key

end TelnetSession

namespace VrrpManager

/-- What of the daemon belongs to the routers. -/
def part (routers : Set RouterKey) (m : VrrpManager) (key : routers) : Option VrrpService :=
  m.services[key.1]?

theorem part_eq {routers : Set RouterKey} {m t : VrrpManager} :
    m.part routers = t.part routers ↔ ∀ key ∈ routers, m.services[key]? = t.services[key]? :=
  ⟨fun same key inside => congrFun same ⟨key, inside⟩, fun same => funext fun key =>
    same key.1 key.2⟩

end VrrpManager

namespace TelnetSession

variable {libc : Libc} {kernel : Kernel} {outside : Outside} {argv : List Text}
  {routers : Set RouterKey}

/-- `show router eth0 1` is about the router with this id in both families. -/
example : Concerns .sample { key | key.interface = 2 ∧ key.virtualRouterId = 1 }
    [ascii "show", ascii "router", ascii "eth0", ascii "1"] := by
  refine (if_pos (by decide)).mpr ⟨by decide, ⟨⟨2, 1, .inet, false⟩, rfl⟩, fun key picked => ?_⟩
  obtain ⟨s, selected, interface, vrid⟩ := picked
  cases selected
  exact ⟨interface (by decide), vrid (by decide)⟩

theorem answer_apart (apart : ¬ Concerns libc routers argv) {m : VrrpManager}
    {done : VrrpManager × List Text} (asked : answer libc kernel outside m argv = some done) :
    done.1.part routers = m.part routers := by
  unfold answer at asked
  unfold Concerns at apart
  split at asked
  · cases asked
    rfl
  rename_i other
  rw [if_neg other] at apart
  split at asked
  · cases asked
    rfl
  split at asked
  · cases asked
    rfl
  exact VrrpManager.part_eq.mpr fun key inside =>
    confined_onCommand.apart (fun here => apart ⟨key, inside, here⟩) asked

theorem Confined.part {key : RouterKey} {command : VrrpManager → Reaction}
    (confined : Confined (some key) command) (inside : key ∈ routers) {m t : VrrpManager}
    (same : m.part routers = t.part routers) :
    (command m).map (Prod.map (VrrpManager.part routers) id) =
      (command t).map (Prod.map (VrrpManager.part routers) id) := by
  have alike := confined.alike rfl (VrrpManager.part_eq.mp same key inside)
  cases first : command m with
  | none =>
    rw [first] at alike
    rw [Option.map_eq_none_iff.mp alike.symm]
  | some done =>
    rw [first, Option.map_some] at alike
    obtain ⟨other, second, equal⟩ := Option.map_eq_some_iff.mp alike.symm
    obtain ⟨here, replies⟩ := Prod.mk.inj equal
    rw [second, Option.map_some, Option.map_some]
    refine congrArg some (Prod.ext (VrrpManager.part_eq.mpr fun place there => ?_) replies.symm)
    by_cases one : key = place
    · exact one ▸ here.symm
    · have elsewhere : some key ≠ some place := fun equal => one (Option.some.inj equal)
      rw [confined.apart elsewhere first, confined.apart elsewhere second]
      exact VrrpManager.part_eq.mp same place there

theorem answer_alike (concerned : Concerns libc routers argv) {m t : VrrpManager}
    (same : m.part routers = t.part routers) :
    (answer libc kernel outside m argv).map (Prod.map (VrrpManager.part routers) id) =
      (answer libc kernel outside t argv).map (Prod.map (VrrpManager.part routers) id) := by
  unfold answer
  unfold Concerns at concerned
  split
  · rename_i word
    rw [if_pos word] at concerned
    obtain ⟨router, _, picks⟩ := concerned
    have shown : onShowRouterCommand libc (ServiceMap.nested m) argv =
        onShowRouterCommand libc (ServiceMap.nested t) argv := by
      apply onShowRouterCommand_alike
      intro place picked
      have first := ServiceMap.represents_nested m
      have second := ServiceMap.represents_nested t
      refine Option.ext fun service => ⟨fun stored => ?_, fun stored => ?_⟩
      · obtain ⟨key, rfl⟩ := first.placed place service stored
        rw [second.same, ← VrrpManager.part_eq.mp same key (picks key picked), ← first.same]
        exact stored
      · obtain ⟨key, rfl⟩ := second.placed place service stored
        rw [first.same, VrrpManager.part_eq.mp same key (picks key picked), ← second.same]
        exact stored
    simp only [onShowCommand, shown, Option.map_some, Prod.map_apply, same]
  rename_i other
  rw [if_neg other] at concerned
  obtain ⟨key, inside, about⟩ := concerned
  split
  · rw [Option.map_some, Option.map_some, Prod.map_apply, Prod.map_apply, same]
  split
  · rw [Option.map_some, Option.map_some, Prod.map_apply, Prod.map_apply, same]
  exact (about ▸ confined_onCommand).part inside same

end TelnetSession

/-! ### Configuration files -/

namespace Configurator

/-- A record of the file is about one of the routers. -/
def Mentions (libc : Libc) (routers : Set RouterKey) (file : Text) : Prop :=
  ∃ r ∈ routersOf file, keyOf libc r ∈ routers

theorem readRouter_new {version : Int} (new : 2 < version) (held : Int) (file : Text) :
    readRouter version held file = readRouter version 0 file := by
  unfold readRouter
  rw [decide_eq_true new]
  rfl

/-- What the local holds decides the VLAN of a record at most. -/
theorem readRouter_keyOf (libc : Libc) {version held : Int} {file rest : Text} {r : Router}
    (read : readRouter version held file = some (r, rest)) :
    ∃ zero, readRouter version 0 file = some (zero, rest) ∧ keyOf libc r = keyOf libc zero := by
  by_cases new : 2 < version
  · rw [readRouter_new new] at read
    exact ⟨r, read, rfl⟩
  · rw [readRouter_locals new] at read
    obtain ⟨⟨zero, left⟩, there, same⟩ := Option.map_eq_some_iff.mp read
    cases same
    exact ⟨zero, there, rfl⟩

section Restore
variable (libc : Libc) (kernel : Kernel)

theorem restore_apart (m : VrrpManager) {r : Router} {key : RouterKey}
    (apart : keyOf libc r ≠ key) :
    (restore libc kernel m r).services[key]? = m.services[key]? := by
  by_cases passes : Passes libc r
  · rw [restore_services libc kernel m passes, if_neg apart]
  · rw [restore_refused libc kernel m passes]

theorem restore_alike {m t : VrrpManager} (r : Router) {key : RouterKey}
    (same : m.services[key]? = t.services[key]?) :
    (restore libc kernel m r).services[key]? = (restore libc kernel t r).services[key]? := by
  by_cases passes : Passes libc r
  · rw [restore_services libc kernel m passes, restore_services libc kernel t passes]
    by_cases here : keyOf libc r = key
    · rw [if_pos here, if_pos here, here, same]
    · rw [if_neg here, if_neg here, same]
  · rw [restore_refused libc kernel m passes, restore_refused libc kernel t passes, same]

variable (locals : Nat → Int)

theorem readRouters_apart {version : Int} {count : Nat} {file : Text} {key : RouterKey}
    (apart : ∀ r ∈ routersIn version count file, keyOf libc r ≠ key) (m : VrrpManager) :
    (readRouters libc kernel locals version count m file).1.services[key]? =
      m.services[key]? := by
  induction count generalizing m file with
  | zero => rfl
  | succ count ih =>
    rw [readRouters]
    cases read : readRouter version (locals count) file with
    | none => rfl
    | some taken =>
      obtain ⟨r, rest⟩ := taken
      obtain ⟨zero, there, same⟩ := readRouter_keyOf libc read
      rw [routersIn, there] at apart
      dsimp only at apart ⊢
      rw [ih fun r inside => apart r (List.mem_cons_of_mem zero inside)]
      exact restore_apart libc kernel m (same ▸ apart zero List.mem_cons_self)

theorem readRouters_alike {version : Int} {count : Nat} {file : Text} {key : RouterKey}
    {m t : VrrpManager} (same : m.services[key]? = t.services[key]?) :
    (readRouters libc kernel locals version count m file).1.services[key]? =
      (readRouters libc kernel locals version count t file).1.services[key]? := by
  induction count generalizing m t file with
  | zero => exact same
  | succ count ih =>
    rw [readRouters, readRouters]
    cases readRouter version (locals count) file with
    | none => exact same
    | some taken => exact ih (restore_alike libc kernel taken.1 same)

theorem readConfiguration_apart {file : Text} {routers : Set RouterKey}
    (apart : ¬ Mentions libc routers file) (m : VrrpManager) :
    (readConfiguration libc kernel locals m file).1.part routers = m.part routers := by
  apply VrrpManager.part_eq.mpr
  intro key there
  unfold Mentions routersOf at apart
  unfold readConfiguration
  cases read : readHeader file with
  | none => rfl
  | some taken =>
    rw [read] at apart
    exact readRouters_apart libc kernel locals
      (fun r inside here => apart ⟨r, inside, here ▸ there⟩) m

theorem readConfiguration_alike {routers : Set RouterKey} {m t : VrrpManager}
    (same : m.part routers = t.part routers) (file : Text) :
    (readConfiguration libc kernel locals m file).1.part routers =
      (readConfiguration libc kernel locals t file).1.part routers := by
  apply VrrpManager.part_eq.mpr
  intro key inside
  have here := VrrpManager.part_eq.mp same key inside
  unfold readConfiguration
  cases readHeader file with
  | none => exact here
  | some taken => exact readRouters_alike libc kernel locals here

end Restore

end Configurator

/-! ### Runs -/

/-- The happening is about the routers. -/
def Happening.Concerns (libc : Libc) (routers : Set RouterKey) : Happening → Prop
  | .input (.line _ line) => TelnetSession.Concerns libc routers (TelnetSession.arguments line)
  | .input (.event place _ _) => place ∈ routers
  | .configuration _ _ _ file => Configurator.Mentions libc routers file

open Classical in
noncomputable def concerns (libc : Libc) (routers : Set RouterKey) (h : Happening × Outside) :
    Bool := decide (h.1.Concerns libc routers)

open Classical in
theorem concerns_iff {libc : Libc} {routers : Set RouterKey} {h : Happening × Outside} :
    concerns libc routers h = true ↔ h.1.Concerns libc routers := by
  rw [concerns, decide_eq_true_eq]

namespace VrrpManager

variable {libc : Libc}

/-- `happen`, with the replies to the client. -/
def serve (libc : Libc) (m : VrrpManager) : Happening × Outside → Option (VrrpManager × List Text)
  | (.input (.line kernel line), outside) =>
    let argv := TelnetSession.arguments line
    if argv.length = 0 ∨ TelnetSession.isExit line then some (m, [])
    else TelnetSession.answer libc kernel outside m argv
  | (h, _) => (m.happen libc h).map fun t => (t, [])

theorem serve_happen (m : VrrpManager) (h : Happening × Outside) :
    (m.serve libc h).map Prod.fst = m.happen libc h.1 := by
  rcases h with ⟨(⟨kernel, line⟩ | ⟨key, e, happens⟩) | ⟨kernel, locals, ints, file⟩, outside⟩
  · simp only [serve, happen, input]
    split
    · rfl
    · exact TelnetSession.answer_state m _
  · rfl
  · rfl

theorem serve_isolated (routers : Set RouterKey) :
    Unwinding.Isolated (serve libc) (part routers) (concerns libc routers) where
  apart := by
    intro m h t replies apart served
    have apart := concerns_iff.not.mp (Bool.eq_false_iff.mp apart)
    rcases h with ⟨(⟨kernel, line⟩ | ⟨place, e, happens⟩) | ⟨kernel, locals, ints, file⟩, outside⟩
    · simp only [serve] at served
      split at served
      · cases served
        rfl
      · exact TelnetSession.answer_apart apart served
    · cases served
      apply part_eq.mpr
      intro key inside
      have other : place ≠ key := fun here => apart (show place ∈ routers from here ▸ inside)
      rw [update_services, if_neg other]
    · cases served
      exact Configurator.readConfiguration_apart libc kernel locals apart m
  alike := by
    intro m t h concerned same
    have concerned := concerns_iff.mp concerned
    rcases h with ⟨(⟨kernel, line⟩ | ⟨place, e, happens⟩) | ⟨kernel, locals, ints, file⟩, outside⟩
    · simp only [serve]
      split
      · rw [Option.map_some, Option.map_some, Prod.map_apply, Prod.map_apply, same]
      · exact TelnetSession.answer_alike concerned same
    · refine congrArg some (Prod.ext (part_eq.mpr fun key inside => ?_) rfl)
      simp only [update_services, part_eq.mp same key inside]
    · exact congrArg some (Prod.ext
        (Configurator.readConfiguration_alike libc kernel locals same file) rfl)

/-- Without what is said to the other routers, and what happens to them, the routers go through
the same states, and the lines about them get the same replies: those that set them up, and
those that show no others. -/
theorem routers_isolated {happenings : List (Happening × Outside)} {m : VrrpManager}
    {replies : List (List Text)} (routers : Set RouterKey)
    (served : Unwinding.run (serve libc) empty happenings = some (m, replies)) :
    ∃ t, Unwinding.run (serve libc) empty (happenings.filter (concerns libc routers)) =
        some (t, Unwinding.answers (concerns libc routers) happenings replies) ∧
      ∀ key ∈ routers, t.services[key]? = m.services[key]? := by
  obtain ⟨t, alone, same⟩ := (serve_isolated routers).purge rfl served
  exact ⟨t, alone, part_eq.mp same⟩

/-- Two routers that are set up in turn, with an error, a timeout, a file and a look at one. -/
def twoRouters : List (Happening × Outside) :=
  [.input (.line .sample (ascii "add router eth0 1")),
    .input (.line .sample (ascii "add router eth0 2")),
    .input (.line .sample (ascii "set router eth0 1 priority 120")),
    .input (.line .sample (ascii "set router eth0 2 priority 256")),
    .configuration .sample (fun _ => 0) Configurator.ints_zero Configurator.oldFile,
    .input (.line .sample (ascii "enable router eth0 1")),
    .input (.event ⟨2, 1, .inet⟩ .masterDownExpiry id),
    .input (.line .sample (ascii "show router eth0 1")),
    .input (.line .sample (ascii "remove router eth0 2"))].map fun h => (h, .sample)

/-- The first router, of either family. -/
def firstRouter : Set RouterKey := { key | key.interface = 2 ∧ key.virtualRouterId = 1 }

theorem routers_isolated_pair : ∃ m replies,
    Unwinding.run (serve .sample) empty twoRouters = some (m, replies) ∧
      ∃ t, Unwinding.run (serve .sample) empty (twoRouters.filter (concerns .sample firstRouter)) =
          some (t, Unwinding.answers (concerns .sample firstRouter) twoRouters replies) ∧
        ∀ key ∈ firstRouter, t.services[key]? = m.services[key]? := by
  have runs : (Unwinding.run (serve .sample) empty twoRouters).isSome = true := by decide +kernel
  obtain ⟨⟨m, replies⟩, served⟩ := Option.isSome_iff_exists.mp runs
  exact ⟨m, replies, served, routers_isolated firstRouter served⟩

theorem serve_history (libc : Libc) (happenings : List (Happening × Outside)) :
    (Unwinding.run (serve libc) empty happenings).map Prod.fst =
      history libc (happenings.map Prod.fst) := by
  rw [Unwinding.run_states serve_happen, history, List.foldlM_map]

end VrrpManager

end OpenVrrp
