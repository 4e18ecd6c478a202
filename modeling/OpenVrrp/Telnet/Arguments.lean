import OpenVrrp.Telnet.Accesses

/-! No command reads behind its last word, with one exception: `set router` looks up its service
without a look at the number of words. -/
namespace OpenVrrp.TelnetSession.Reads

variable {libc : Libc} {kernel : Kernel} {m : VrrpManager} {argv : List Text}

/-! ### With a check, the handlers are those of Commands.lean -/

theorem word_checked (argv : List Text) (k : Nat) :
    (word argv k).checked argv.length = argv[k]? := by
  unfold word Reading.checked Reading.Below
  by_cases inside : k < argv.length
  · simp [inside]
  · simp [Nat.le_of_not_lt inside]

theorem same_checked {k : Nat} (inside : k < argv.length) (text : String) :
    (same argv k text).checked argv.length = some (wordIs argv k text) := by
  simp [same, word_checked, wordIs, inside]

theorem both_checked {guard result : Bool} {test : Reading Bool} {bound : Nat}
    (tested : guard = true → test.checked bound = some result) :
    (both guard test).checked bound = some (guard && result) := by
  cases guard with
  | false => exact Reading.checked_pure false bound
  | true => exact tested rfl

theorem wordIs_outside {k : Nat} (outside : argv.length ≤ k) (text : String) :
    wordIs argv k text = false := by simp [wordIs, outside]

/-- A word behind a guard that is as strong as the bound. -/
theorem guarded_checked {k : Nat} {guard : Bool} (exact : guard = true ↔ k < argv.length)
    (text : String) :
    (both guard (same argv k text)).checked argv.length = some (wordIs argv k text) := by
  rw [both_checked fun held => same_checked (exact.mp held) text]
  cases guard with
  | true => rfl
  | false => rw [wordIs_outside (Nat.le_of_not_lt fun inside => by cases exact.mpr inside)]; rfl

theorem readOptions_checked (create : Bool) :
    (readOptions argv create).checked argv.length =
      let withVlan := create && decide (6 ≤ argv.length) && wordIs argv 4 "vlan"
      some (if wordIs argv (if withVlan then 6 else 4) "ipv6" then .inet6 else .inet,
        if withVlan then UInt64.ofInt (atoi (argv[5]?.getD [])) else 0) := by
  unfold readOptions
  have vlan : (both (create && decide (6 ≤ argv.length)) (same argv 4 "vlan")).checked
      argv.length = some (create && decide (6 ≤ argv.length) && wordIs argv 4 "vlan") := by
    refine both_checked fun guard => same_checked ?_ "vlan"
    simp only [Bool.and_eq_true, decide_eq_true_eq] at guard
    omega
  rw [Reading.checked_bind, vlan, Option.bind_some]
  split
  · rename_i given
    have inside : 5 < argv.length := by
      simp only [Bool.and_eq_true, decide_eq_true_eq] at given
      omega
    rw [Reading.checked_bind, guarded_checked (by simp [Nat.succ_le_iff]) "ipv6"]
    simp [word_checked, inside, given]
  · rename_i missing
    rw [Reading.checked_bind, guarded_checked (by simp [Nat.succ_le_iff]) "ipv6"]
    simp [missing]

theorem getService_checked (create : Bool) :
    (getService libc kernel m argv create).checked argv.length =
      TelnetSession.getService libc kernel m argv create := by
  unfold getService TelnetSession.getService
  simp only [Reading.checked_bind, word_checked]
  apply Option.bind_congr
  intro name _
  split
  · exact Reading.checked_pure _ _
  simp only [Reading.checked_bind, word_checked]
  apply Option.bind_congr
  intro number _
  split
  · exact Reading.checked_pure _ _
  rw [Reading.checked_bind, readOptions_checked, Option.bind_some]
  dsimp only
  generalize m.getService kernel _ _ create = made
  obtain ⟨found, _ | key⟩ := made
  · exact Reading.checked_pure _ _
  · exact Reading.checked_pure _ _

/-- A service that is not null is in the map. -/
theorem getService_stored {create : Bool} {key : RouterKey} {found : VrrpManager}
    (asked : TelnetSession.getService libc kernel m argv create = some (found, .ok key)) :
    ∃ service, found.services[key]? = some service := by
  unfold TelnetSession.getService at asked
  obtain ⟨name, _, asked⟩ := Option.bind_eq_some_iff.mp asked
  dsimp only at asked
  split at asked
  · cases asked
  obtain ⟨number, _, asked⟩ := Option.bind_eq_some_iff.mp asked
  split at asked
  · cases asked
  split at asked
  · rename_i made
    cases asked
    exact VrrpManager.getService_stored made
  · cases asked

theorem onService_checked {operation : VrrpService → Reading (VrrpService × List Text)}
    {result : VrrpService → VrrpService × List Text}
    (done : ∀ service, (operation service).checked argv.length = some (result service)) :
    (onService libc kernel m argv operation).checked argv.length =
      TelnetSession.onService libc kernel m argv result := by
  unfold onService TelnetSession.onService
  rw [Reading.checked_bind, getService_checked]
  apply Option.bind_congr
  rintro ⟨found, answer⟩ asked
  cases answer with
  | error response => exact Reading.checked_pure _ _
  | ok key =>
    obtain ⟨service, stored⟩ := getService_stored asked
    simp only [stored, Reading.checked_bind, done, Option.bind_some, Reading.checked_pure]
    rfl

theorem createService_checked :
    (createService libc kernel m argv).checked argv.length =
      (do match ← TelnetSession.getService libc kernel m argv true with
          | (m, .error response) => return (m, [response])
          | (m, .ok _) => return (m, [])) := by
  rw [createService, Reading.checked_bind, getService_checked]
  apply Option.bind_congr
  intro answer _
  obtain ⟨found, _ | key⟩ := answer
  · exact Reading.checked_pure _ _
  · exact Reading.checked_pure _ _

theorem onAddRouterCommand_checked :
    (onAddRouterCommand libc kernel m argv).checked argv.length =
      TelnetSession.onAddRouterCommand libc kernel m argv := by
  have counted : ∀ {n k : Nat}, k < n → ∀ text,
      (both (argv.length == n) (same argv k text)).checked argv.length =
        some (argv.length == n && wordIs argv k text) := fun small text =>
    both_checked fun same => same_checked (by rw [beq_iff_eq.mp same]; exact small) text
  have last : (both (argv.length == 7)
      (do both (← same argv 4 "vlan") (same argv 6 "ipv6"))).checked argv.length =
      some (argv.length == 7 && (wordIs argv 4 "vlan" && wordIs argv 6 "ipv6")) := by
    apply both_checked
    intro count
    have count := beq_iff_eq.mp count
    rw [Reading.checked_bind, same_checked (by omega), Option.bind_some]
    exact both_checked fun _ => same_checked (by omega) "ipv6"
  unfold onAddRouterCommand TelnetSession.onAddRouterCommand
  simp only [Reading.checked_ite, Reading.checked_bind, Reading.checked_pure, createService_checked,
    counted (show 4 < 5 by decide), counted (show 4 < 6 by decide), last, Option.bind_some]
  grind

theorem isIpv6_checked : (isIpv6 argv).checked argv.length = some (wordIs argv 4 "ipv6") :=
  guarded_checked (by simp) "ipv6"

theorem onAddressCommand_checked (usage : Text)
    (operation : VrrpService → IpSubnet → VrrpService) :
    (onAddressCommand libc kernel m argv usage operation).checked argv.length =
      TelnetSession.onAddressCommand libc kernel m argv usage operation := by
  unfold onAddressCommand TelnetSession.onAddressCommand
  rw [Reading.checked_bind, isIpv6_checked, Option.bind_some]
  dsimp only
  rw [Reading.checked_ite]
  refine if_congr Iff.rfl ?_ (Reading.checked_pure _ _)
  rw [Reading.checked_bind, word_checked]
  apply Option.bind_congr
  intro text _
  rw [Reading.checked_ite]
  exact if_congr Iff.rfl (Reading.checked_pure _ _)
    (onService_checked fun _ => Reading.checked_pure _ _)

theorem onRemoveRouterCommand_checked :
    (onRemoveRouterCommand libc kernel m argv).checked argv.length =
      TelnetSession.onRemoveRouterCommand libc kernel m argv := by
  unfold onRemoveRouterCommand TelnetSession.onRemoveRouterCommand
  rw [Reading.checked_bind, isIpv6_checked, Option.bind_some]
  dsimp only
  rw [Reading.checked_ite]
  refine if_congr Iff.rfl ?_ (Reading.checked_pure _ _)
  rw [Reading.checked_bind, getService_checked]
  apply Option.bind_congr
  rintro ⟨found, answer⟩ _
  cases answer <;> exact Reading.checked_pure _ _

/-! ### set router -/

theorem wordIs_iff {k : Nat} (inside : k < argv.length) (text : String) :
    wordIs argv k text = true ↔ argv[k] = ascii text := by simp [wordIs, inside]

theorem anyOf_checked {k : Nat} (inside : k < argv.length) (values : List Text) :
    (anyOf argv k values).checked argv.length = some (decide (argv[k] ∈ values)) := by
  induction values with
  | nil => exact Reading.checked_pure _ _
  | cons value rest ih =>
    rw [anyOf, Reading.checked_bind, word_checked, List.getElem?_eq_getElem inside,
      Option.bind_some, Reading.checked_ite, ih, Reading.checked_pure]
    split <;> simp [*]

theorem switch_checked {k : Nat} (inside : k < argv.length) :
    (switch argv k).checked argv.length = some (TelnetSession.switch argv[k]) := by
  simp only [switch, TelnetSession.switch, Reading.checked_bind, anyOf_checked inside,
    Option.bind_some, Reading.checked_ite, Reading.checked_pure, decide_eq_true_eq]
  split
  · rfl
  · split <;> rfl

theorem joined_checked {count i : Nat} (inside : i + count = argv.length) :
    (joined argv count i).checked argv.length = some (argv.drop i) := by
  induction count generalizing i with
  | zero => rw [joined, Reading.checked_pure, List.drop_eq_nil_of_le (by omega)]
  | succ count ih =>
    have here : i < argv.length := by omega
    rw [joined, Reading.checked_bind, word_checked, List.getElem?_eq_getElem here,
      Option.bind_some, Reading.checked_bind, ih (by omega), Option.bind_some,
      Reading.checked_pure, List.drop_eq_getElem_cons here]

section Words

variable (service : VrrpService) (offset : Nat)

theorem withValue_checked (usage : Text) (act : Text → VrrpService × List Text) :
    (withValue argv service offset usage act).checked argv.length =
      some (match argv.drop (offset + 1) with
        | [] => (service, [usage])
        | value :: _ => act value) := by
  unfold withValue
  split
  · rename_i inside
    rw [Reading.checked_map, word_checked, List.getElem?_eq_getElem inside,
      List.drop_eq_getElem_cons inside]
    rfl
  · rename_i short
    rw [Reading.checked_pure, List.drop_eq_nil_of_le (Nat.le_of_not_lt short)]

theorem withSwitch_checked (usage : Text) (act : Bool → VrrpService) :
    (withSwitch argv service offset usage act).checked argv.length =
      some (match argv.drop (offset + 1) with
        | [] => (service, [usage])
        | value :: _ => match TelnetSession.switch value with
          | some enabled => (act enabled, [])
          | none => (service, [usage])) := by
  unfold withSwitch
  split
  · rename_i inside
    rw [Reading.checked_bind, switch_checked inside, List.drop_eq_getElem_cons inside]
    cases word : TelnetSession.switch argv[offset + 1] with
    | none =>
      simp only [Option.bind_some, word]
      exact Reading.checked_pure _ _
    | some enabled =>
      simp only [Option.bind_some, word]
      exact Reading.checked_pure _ _
  · rename_i short
    rw [Reading.checked_pure, List.drop_eq_nil_of_le (Nat.le_of_not_lt short)]

theorem withCommand_checked (inside : offset < argv.length) :
    (withCommand argv service offset).checked argv.length =
      some (match argv.drop (offset + 1) with
        | [] => (service, [if argv[offset] = ascii "master" then Resp.setRouterMasterCmd
            else Resp.setRouterBackupCmd])
        | value :: command =>
          if value = ascii "command" then
            (if argv[offset] = ascii "master" then service.setMasterCommand (joinWords command)
              else service.setBackupCommand (joinWords command), [])
          else (service, [if argv[offset] = ascii "master" then Resp.setRouterMasterCmd
            else Resp.setRouterBackupCmd])) := by
  unfold withCommand
  rw [Reading.checked_bind, guarded_checked (by simp) "command", Option.bind_some]
  by_cases more : offset + 1 < argv.length
  · rw [List.drop_eq_getElem_cons more]
    simp only [wordIs_iff more, Reading.checked_ite, Reading.checked_bind, same_checked inside,
      joined_checked (show offset + 2 + (argv.length - (offset + 2)) = argv.length by omega),
      Option.bind_some, Reading.checked_pure, wordIs_iff inside]
    split <;> split <;> rfl
  · rw [List.drop_eq_nil_of_le (Nat.le_of_not_lt more),
      wordIs_outside (Nat.le_of_not_lt more) "command"]
    simp only [Bool.false_eq_true, if_false, Reading.checked_ite, Reading.checked_bind,
      same_checked inside, Option.bind_some, Reading.checked_pure, wordIs_iff inside]
    split <;> rfl

end Words

theorem setRouter_checked (service : VrrpService) :
    (setRouter libc argv service).checked argv.length =
      some (TelnetSession.setRouter libc service
        (argv.drop (if service.family = .inet6 then 5 else 4))) := by
  unfold setRouter
  generalize (if service.family = .inet6 then 5 else 4) = offset
  dsimp only
  split
  · rename_i inside
    rw [List.drop_eq_getElem_cons inside]
    simp only [Reading.checked_bind, same_checked inside, Option.bind_some, Reading.checked_ite,
      Reading.checked_pure, withValue_checked, withSwitch_checked, withCommand_checked _ _ inside,
      both_checked fun _ => same_checked inside _, wordIs_iff inside, Bool.or_eq_true,
      Bool.and_eq_true, Bool.not_eq_true']
    unfold TelnetSession.setRouter
    simp only [apply_ite some]
    refine if_congr Iff.rfl rfl (if_congr Iff.rfl rfl (if_congr Iff.rfl rfl
      (if_congr Iff.rfl rfl (if_congr Iff.rfl rfl ?_))))
    -- The source puts the command together before it tells the two words apart.
    by_cases master : argv[offset] = ascii "master"
    · cases argv.drop (offset + 1) with
      | nil => simp only [master, true_or, if_true]
      | cons value command => simp only [master, true_or, if_true]
    · have other : wordIs argv offset "master" = false :=
        Bool.eq_false_iff.mpr fun is => master ((wordIs_iff inside _).mp is)
      cases argv.drop (offset + 1) with
      | nil => simp only [master, other, false_or, true_and, if_false]
      | cons value command => simp only [master, other, false_or, true_and, if_false]
  · rename_i short
    rw [List.drop_eq_nil_of_le (Nat.le_of_not_lt short)]
    exact Reading.checked_pure _ _

/-! ### The dispatcher -/

theorem onSubcommand_checked (some_word : argv ≠ []) {usage : Text} {router address : Reaction}
    {first second : TelnetSession.Reaction} (routed : router.checked argv.length = first)
    (addressed : address.checked argv.length = second) :
    (onSubcommand m argv usage router address).checked argv.length =
      if wordIs argv 1 "router" then first
      else if wordIs argv 1 "address" then second
      else some (m, [usage]) := by
  unfold onSubcommand
  split
  · rename_i single
    rw [wordIs_outside (by omega), wordIs_outside (by omega)]
    exact Reading.checked_pure _ _
  · have more : 1 < argv.length := by
      have := List.length_pos_iff.mpr some_word
      omega
    simp only [Reading.checked_bind, same_checked more, Option.bind_some, Reading.checked_ite,
      routed, addressed, Reading.checked_pure]

theorem onSetCommand_checked :
    (onSetCommand libc kernel m argv).checked argv.length =
      TelnetSession.onSetCommand libc kernel m argv := by
  unfold onSetCommand TelnetSession.onSetCommand
  rw [Reading.checked_bind, guarded_checked (by simp) "router", Option.bind_some,
    Reading.checked_ite]
  exact if_congr Iff.rfl (onService_checked fun service => setRouter_checked service)
    (Reading.checked_pure _ _)

theorem onEnableCommand_checked :
    (onEnableCommand libc kernel m argv).checked argv.length =
      TelnetSession.onEnableCommand libc kernel m argv := by
  unfold onEnableCommand TelnetSession.onEnableCommand
  rw [Reading.checked_ite]
  exact if_congr Iff.rfl (Reading.checked_pure _ _)
    (onService_checked fun _ => Reading.checked_pure _ _)

theorem onDisableCommand_checked :
    (onDisableCommand libc kernel m argv).checked argv.length =
      TelnetSession.onDisableCommand libc kernel m argv := by
  unfold onDisableCommand TelnetSession.onDisableCommand
  rw [Reading.checked_ite]
  exact if_congr Iff.rfl (Reading.checked_pure _ _)
    (onService_checked fun _ => Reading.checked_pure _ _)

theorem below_word {k : Nat} (inside : k < argv.length) :
    Reading.Below (word argv k) argv.length := by
  intro i here
  rwa [List.mem_singleton.mp here]

theorem below_both {guard : Bool} {test : Reading Bool} {bound : Nat}
    (tested : Reading.Below test bound) : Reading.Below (both guard test) bound :=
  Reading.below_split (fun _ => tested) fun _ => Reading.below_pure _ _

theorem selectRouters_below {count i : Nat} (inside : i + count ≤ argv.length) (s : Selection) :
    Reading.Below (selectRouters libc argv count i s) argv.length := by
  induction count generalizing i s with
  | zero => exact Reading.below_pure _ _
  | succ count ih =>
    have here : Reading.Below (word argv i) argv.length := below_word (by omega)
    have rest : ∀ s, Reading.Below (selectRouters libc argv count (i + 1) s) argv.length :=
      fun s => ih (by omega) s
    have test : ∀ text, Reading.Below (same argv i text) argv.length :=
      fun text => (Reading.below_map _ _ _).mpr here
    have digit : Reading.Below (startsWithDigit argv i) argv.length :=
      (Reading.below_map _ _ _).mpr here
    unfold selectRouters
    refine (Reading.below_bind _ _ _).mpr ⟨test _, Reading.below_split
      (fun _ => Reading.below_pure _ _) fun _ => ?_⟩
    refine (Reading.below_bind _ _ _).mpr ⟨below_both (test _), Reading.below_split
      (fun _ => rest _) fun _ => ?_⟩
    refine (Reading.below_bind _ _ _).mpr ⟨below_both digit, Reading.below_split
      (fun _ => ?_) fun _ => Reading.below_split (fun _ => ?_) fun _ => rest _⟩
    · exact (Reading.below_bind _ _ _).mpr ⟨here, Reading.below_split
        (fun _ => Reading.below_pure _ _) fun _ => rest _⟩
    · exact (Reading.below_bind _ _ _).mpr ⟨here, Reading.below_split
        (fun _ => Reading.below_pure _ _) fun _ => rest _⟩

theorem onShowCommand_below : Reading.Below (onShowCommand libc m argv) argv.length := by
  refine Reading.below_split (fun more => ?_) fun _ => Reading.below_pure _ _
  have test : ∀ text, Reading.Below (same argv 1 text) argv.length :=
    fun text => (Reading.below_map _ _ _).mpr (below_word more)
  refine (Reading.below_bind _ _ _).mpr ⟨test _, Reading.below_split (fun _ => ?_) fun _ => ?_⟩
  · exact (Reading.below_bind _ _ _).mpr
      ⟨selectRouters_below (by omega) _, Reading.below_pure _ _⟩
  · exact (Reading.below_bind _ _ _).mpr ⟨test _, Reading.below_pure _ _⟩

theorem onShowCommand_checked :
    (onShowCommand libc m argv).checked argv.length = some (m, []) := by
  rw [Reading.checked_below onShowCommand_below]
  unfold onShowCommand
  split
  · simp only [Reading.bind_value]
    split <;> rfl
  · rfl

theorem onSaveCommand_checked :
    (onSaveCommand argv).checked argv.length = some argv[1]? := by
  unfold onSaveCommand
  split
  · rename_i more
    rw [Reading.checked_map, word_checked, List.getElem?_eq_getElem more]
    rfl
  · rename_i short
    rw [Reading.checked_pure, List.getElem?_eq_none (Nat.le_of_not_lt short)]

theorem wordIs_other {k : Nat} {text : String} (is : wordIs argv k text = true) (other : String)
    (apart : ascii text ≠ ascii other) : wordIs argv k other = false := by
  have this_word : argv[k]? = some (ascii text) := beq_iff_eq.mp is
  rw [wordIs, this_word]
  exact beq_false_of_ne fun same => apart (Option.some.inj same)

theorem onAddCommand_checked (some_word : argv ≠ []) :
    (onAddCommand libc kernel m argv).checked argv.length =
      TelnetSession.onAddCommand libc kernel m argv :=
  onSubcommand_checked some_word onAddRouterCommand_checked (onAddressCommand_checked _ _)

theorem onRemoveCommand_checked (some_word : argv ≠ []) :
    (onRemoveCommand libc kernel m argv).checked argv.length =
      TelnetSession.onRemoveCommand libc kernel m argv :=
  onSubcommand_checked some_word onRemoveRouterCommand_checked (onAddressCommand_checked _ _)

/-- With a check every line does what Commands.lean says, and `exit` ends the session. -/
theorem onCommand_checked (some_word : argv ≠ []) :
    (onCommand libc kernel m argv).checked argv.length =
      if wordIs argv 0 "exit" then some none
      else (TelnetSession.onCommand libc kernel m argv).map some := by
  have first : 0 < argv.length := List.length_pos_iff.mpr some_word
  unfold onCommand
  simp only [Reading.checked_bind, same_checked first, Option.bind_some, Reading.checked_ite,
    Reading.checked_map, Reading.checked_pure, onAddCommand_checked some_word,
    onRemoveCommand_checked some_word, onSetCommand_checked, onEnableCommand_checked,
    onDisableCommand_checked, onShowCommand_checked, onSaveCommand_checked, Option.map_some]
  by_cases exit : wordIs argv 0 "exit" = true
  · have other : ∀ text, ascii "exit" ≠ ascii text → wordIs argv 0 text = false :=
      wordIs_other exit
    simp only [exit, other "add" (by decide), other "remove" (by decide), other "set" (by decide),
      other "enable" (by decide), other "disable" (by decide), other "show" (by decide),
      Bool.false_eq_true, if_false, if_true]
  · unfold TelnetSession.onCommand
    simp only [if_neg exit, apply_ite (Option.map some)]
    cases wordIs argv 0 "show" <;> cases wordIs argv 0 "help" <;> cases wordIs argv 0 "save" <;> rfl

/-! ### The one exception -/

theorem getService_isSome_iff (create : Bool) :
    (TelnetSession.getService libc kernel m argv create).isSome ↔
      2 < argv.length ∧ (0 < libc.nameToIndex (argv[2]?.getD []) → 3 < argv.length) := by
  unfold TelnetSession.getService
  by_cases third : 2 < argv.length
  · simp only [List.getElem?_eq_getElem third, Option.bind_eq_bind, Option.bind_some,
      Option.getD_some, third, true_and]
    split
    · rename_i missing
      simp only [Option.pure_def, Option.isSome_some, Int.not_lt.mpr missing, false_imp_iff]
    · rename_i there
      simp only [Int.not_le.mp there, true_imp_iff]
      by_cases fourth : 3 < argv.length
      · simp only [List.getElem?_eq_getElem fourth, Option.bind_some, fourth, iff_true]
        split
        · rfl
        · split <;> rfl
      · simp [fourth]
  · simp [third]

theorem getService_isSome (create : Bool) (long : 4 ≤ argv.length) :
    (TelnetSession.getService libc kernel m argv create).isSome :=
  (getService_isSome_iff create).mpr ⟨by omega, fun _ => by omega⟩

theorem onService_isSome_iff (operation : VrrpService → VrrpService × List Text) :
    (TelnetSession.onService libc kernel m argv operation).isSome ↔
      (TelnetSession.getService libc kernel m argv false).isSome := by
  unfold TelnetSession.onService
  cases asked : TelnetSession.getService libc kernel m argv false with
  | none => rfl
  | some got =>
    obtain ⟨found, answer⟩ := got
    cases answer with
    | error response => rfl
    | ok key =>
      obtain ⟨service, stored⟩ := getService_stored asked
      simp [stored]

theorem onAddRouterCommand_isSome :
    (TelnetSession.onAddRouterCommand libc kernel m argv).isSome := by
  unfold TelnetSession.onAddRouterCommand
  dsimp only
  split
  · rename_i complete
    have long : 4 ≤ argv.length := by
      simp only [Bool.or_eq_true, Bool.and_eq_true, beq_iff_eq] at complete
      omega
    have got : (TelnetSession.getService libc kernel m argv true).isSome :=
      getService_isSome true long
    obtain ⟨⟨found, answer⟩, asked⟩ := Option.isSome_iff_exists.mp got
    rw [asked]
    cases answer <;> rfl
  · rfl

theorem onAddressCommand_isSome (usage : Text)
    (operation : VrrpService → IpSubnet → VrrpService) :
    (TelnetSession.onAddressCommand libc kernel m argv usage operation).isSome := by
  unfold TelnetSession.onAddressCommand
  dsimp only
  generalize place_eq : (if wordIs argv 4 "ipv6" then 5 else 4) = place
  have four : 4 ≤ place := by
    rw [← place_eq]
    split <;> decide
  split
  · rename_i length
    have long : 4 ≤ argv.length := by omega
    have inside : place < argv.length := by omega
    rw [List.getElem?_eq_getElem inside, Option.bind_eq_bind, Option.bind_some]
    generalize (if wordIs argv 4 "ipv6" then Family.inet6 else .inet) = family
    split
    · rfl
    · exact (onService_isSome_iff _).mpr (getService_isSome false long)
  · rfl

theorem onRemoveRouterCommand_isSome :
    (TelnetSession.onRemoveRouterCommand libc kernel m argv).isSome := by
  unfold TelnetSession.onRemoveRouterCommand
  dsimp only
  generalize length_eq : (if wordIs argv 4 "ipv6" then 5 else 4) = length
  have four : 4 ≤ length := by
    rw [← length_eq]
    split <;> decide
  split
  · have got : (TelnetSession.getService libc kernel m argv false).isSome :=
      getService_isSome false (by omega)
    obtain ⟨⟨found, answer⟩, asked⟩ := Option.isSome_iff_exists.mp got
    rw [asked]
    cases answer <;> rfl
  · rfl

theorem onCommand_isSome_iff :
    (TelnetSession.onCommand libc kernel m argv).isSome ↔
      (wordIs argv 0 "set" = true → wordIs argv 1 "router" = true →
        (TelnetSession.getService libc kernel m argv false).isSome) := by
  unfold TelnetSession.onCommand
  by_cases set : wordIs argv 0 "set" = true
  · rw [if_neg (by simp [wordIs_other set "add" (by decide)]),
      if_neg (by simp [wordIs_other set "remove" (by decide)]), if_pos set]
    unfold TelnetSession.onSetCommand
    by_cases router : wordIs argv 1 "router" = true
    · simp only [set, router, true_imp_iff]
      exact onService_isSome_iff _
    · simp [router]
  · refine iff_of_true ?_ fun is => absurd is set
    unfold TelnetSession.onAddCommand TelnetSession.onRemoveCommand TelnetSession.onEnableCommand
      TelnetSession.onDisableCommand
    simp only [set, Bool.false_eq_true, if_false]
    split
    · split
      · exact onAddRouterCommand_isSome
      · split
        · exact onAddressCommand_isSome _ _
        · rfl
    split
    · split
      · exact onRemoveRouterCommand_isSome
      · split
        · exact onAddressCommand_isSome _ _
        · rfl
    split
    · split
      · rfl
      · exact (onService_isSome_iff _).mpr (getService_isSome false (by omega))
    split
    · split
      · rfl
      · exact (onService_isSome_iff _).mpr (getService_isSome false (by omega))
    split <;> rfl

/-- Of all lines, `set router` and `set router INTF` with the name of an interface are those
that read behind their last word. -/
theorem handleCommand_below_iff (libc : Libc) (kernel : Kernel) (m : VrrpManager) (line : Text) :
    Reading.Below (handleCommand libc kernel m line) (arguments line).length ↔
      ¬ (arguments line = [ascii "set", ascii "router"] ∨
        ∃ name, arguments line = [ascii "set", ascii "router", name] ∧
          0 < libc.nameToIndex name) := by
  unfold handleCommand
  generalize arguments line = argv
  split
  · rename_i some_word
    rw [Reading.below_iff_checked, onCommand_checked (List.length_pos_iff.mp some_word)]
    split
    · rename_i exit
      have other := wordIs_other exit "set" (by decide)
      apply iff_of_true rfl
      rintro (rfl | ⟨name, rfl, _⟩) <;> simp [wordIs] at other
    · rw [Option.isSome_map, onCommand_isSome_iff, getService_isSome_iff]
      match argv with
      | [] => simp [wordIs]
      | [_] => simp [wordIs]
      | [_, _] => simp [wordIs]
      | [_, _, _] => simp [wordIs]
      | _ :: _ :: _ :: _ :: _ => simp
  · rename_i empty
    have empty : argv = [] := List.eq_nil_of_length_eq_zero (by omega)
    subst empty
    exact iff_of_true (Reading.below_pure _ _) (by simp)

theorem setRouter_unguarded :
    ¬ Reading.Below (handleCommand .sample .sample .empty (ascii "set router"))
      (arguments (ascii "set router")).length := by decide

end OpenVrrp.TelnetSession.Reads
