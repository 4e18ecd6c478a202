import OpenVrrp.Telnet.Showing

/-! What `show router` displays can be typed back: the commands are copied word by word from the
bytes of the answer, and they bring a new daemon to the same configuration. -/
namespace OpenVrrp

namespace TelnetSession

/-! ### Copying -/

/-- A word of a printed line. -/
def wordAt (line : List Text) (i : Nat) : Text := line.getD i []

/-- `Virtual router VRID on interface INTF (IPv6, VLAN N)` -/
def copiedFamily (heading : List Text) : List Text :=
  if wordIs heading 6 "(IPv6," then [ascii "ipv6"] else []

def copiedRouter (heading : List Text) : List Text :=
  [wordAt heading 5, wordAt heading 2] ++ copiedFamily heading

def copiedSwitch (mode : List Text) : Text :=
  ascii (if wordIs mode 2 "Yes" then "on" else "off")

/-- The commands for the lines that show a service. -/
def copied (block : List (List Text)) : List (List Text) :=
  match block with
  | heading :: _ :: primary :: _ :: status :: priority :: interval :: preempt :: accept ::
      master :: backup :: _ :: addresses =>
    let making := [ascii "add", ascii "router", wordAt heading 5, wordAt heading 2, ascii "vlan",
      (wordAt heading 8).dropLast] ++ copiedFamily heading
    let set words := ascii "set" :: ascii "router" :: (copiedRouter heading ++ words)
    let forced := if wordIs primary 4 "(Forced)" then
      [set [ascii "primary", wordAt primary 3]] else []
    let enabled := if wordIs status 1 "Disabled" then [] else
      [ascii "enable" :: ascii "router" :: copiedRouter heading]
    making :: ([set [ascii "priority", wordAt priority 1],
        set [ascii "interval", wordAt interval 2], set [ascii "accept", copiedSwitch accept],
        set [ascii "preempt", copiedSwitch preempt]] ++
      (forced ++ ([set (ascii "master" :: ascii "command" :: master.drop 2),
        set (ascii "backup" :: ascii "command" :: backup.drop 2)] ++
      addresses.map fun address =>
        ascii "add" :: ascii "address" :: (copiedRouter heading ++ address))) ++ enabled)
  | _ => []

/-- The lines to type after the bytes of an answer. A service ends with an empty line. -/
def retyped (answer : Text) : List Text :=
  let blocks := (Lines.split [] (Lines.split newline answer).1).1
  (blocks.flatMap fun block => copied (block.map (splitCommand true))).map joinWords

/-! ### The words of a line -/

theorem splitCommand_blank {c : UInt8} (blank : isSpace c = true) (whiteSpace : Bool)
    (line tail : Text) : splitCommand whiteSpace (line ++ c :: tail) =
      splitCommand whiteSpace line ++ splitCommand true tail := by
  induction line generalizing whiteSpace with
  | nil => simp only [List.nil_append, splitCommand, blank, if_true]
  | cons b rest ih =>
    have front : (rest ++ c :: tail).takeWhile (fun c => !isSpace c) =
        rest.takeWhile fun c => !isSpace c := by
      clear ih
      induction rest with
      | nil => simp [blank]
      | cons d more ih => simp only [List.cons_append, List.takeWhile_cons, ih]
    simp only [List.cons_append, splitCommand, ih, front]
    split
    · rfl
    · split
      · rfl
      · rfl

theorem splitCommand_one {w : Text} (word : Word w) : splitCommand true w = [w] := by
  have alone : splitCommand true (joinWords [w]) = [w] := splitCommand_joinWords fun v inside =>
    List.mem_singleton.mp inside ▸ word
  rwa [joinWords, List.intercalate_singleton] at alone

/-- A printed line without its newline. -/
theorem labelled_body (label : String) (values : List Piece) :
    (labelled label values).sent.dropLast = ascii label ++ vsprintf values := by
  rw [labelled_sent, ← List.append_assoc, List.dropLast_concat]

/-- The label has these words and ends with a blank. -/
def Introduces (label : String) (words : List Text) : Prop :=
  ascii label = (ascii label).dropLast ++ [32] ∧ splitCommand true (ascii label).dropLast = words

instance (label : String) (words : List Text) : Decidable (Introduces label words) :=
  inferInstanceAs (Decidable (_ ∧ _))

theorem words_labelled {label : String} {words : List Text} (introduces : Introduces label words)
    (values : List Piece) : splitCommand true (labelled label values).sent.dropLast =
      words ++ splitCommand true (vsprintf values) := by
  rw [labelled_body, introduces.1, List.append_assoc, ← introduces.2]
  exact splitCommand_blank rfl true _ _

section Words
variable {names : Names} {libc : Libc} {s : VrrpService}

theorem words_heading {name : { text : Text // text.length < interfaceNameSize }}
    (printed : names.indexToName s.interface = some name) (word : Word name.1)
    (small : s.vlanId.toNat < 65536) :
    splitCommand true (labelled "Virtual router " (heading names s)).sent.dropLast =
      [ascii "Virtual", ascii "router", decimal s.virtualRouterId.toNat, ascii "on",
        ascii "interface", name.1, ascii "(" ++ (familyText s.family ++ ascii ","), ascii "VLAN",
        decimal s.vlanId.toNat ++ ascii ")"] := by
  have joined : vsprintf (heading names s) = joinWords [decimal s.virtualRouterId.toNat,
      ascii "on", ascii "interface", name.1, ascii "(" ++ (familyText s.family ++ ascii ","),
      ascii "VLAN", decimal s.vlanId.toNat ++ ascii ")"] := by
    have interface : ascii "on interface " = ascii "on" ++ 32 :: (ascii "interface" ++ [32]) := rfl
    have vlan : ascii ", VLAN " = ascii "," ++ 32 :: (ascii "VLAN" ++ [32]) := rfl
    have last : ∀ w, joinWords [w] = w := fun w => List.intercalate_singleton
    rw [heading_print printed word small, interface, vlan]
    simp only [joinWords_cons, last, List.append_assoc, List.cons_append, List.nil_append]
  have label : Introduces "Virtual router " [ascii "Virtual", ascii "router"] := by decide +kernel
  have plain : Word (ascii "on") ∧ Word (ascii "interface") ∧ Word (ascii "VLAN") ∧
      Word (ascii ")") ∧ ∀ version ∈ ["IPv4", "IPv6"],
        Word (ascii "(" ++ (ascii version ++ ascii ",")) := by decide +kernel
  obtain ⟨on, interface, vlan, bracket, versions⟩ := plain
  have family : Word (ascii "(" ++ (familyText s.family ++ ascii ",")) :=
    versions _ (by split <;> simp)
  rw [words_labelled label, joined, splitCommand_joinWords]
  · rfl
  · simp only [List.forall_mem_cons]
    exact ⟨word_decimal _, on, interface, word, family, vlan, word_append (word_decimal _) bracket,
      fun w none => absurd none List.not_mem_nil⟩

/-- A line with one word behind its label, or with more behind a blank. -/
theorem words_one {label : String} {words : List Text} (introduces : Introduces label words)
    {values : List Piece} {w : Text} (word : Word w) (printed : vsprintf values = w) :
    splitCommand true (labelled label values).sent.dropLast = words ++ [w] := by
  rw [words_labelled introduces, printed, splitCommand_one word]

theorem words_number {n : Nat} (small : n < 2 ^ 32) : vsprintf [.u n] = decimal n := by
  simp only [vsprintf, List.flatMap_cons, List.flatMap_nil, List.append_nil, Piece.print,
    Nat.mod_eq_of_lt small]

theorem words_priority (s : VrrpService) :
    splitCommand true (labelled " Priority:               "
      [.u s.priority.1.toNat]).sent.dropLast =
        [ascii "Priority:", decimal s.priority.1.toNat] := by
  have label : Introduces " Priority:               " [ascii "Priority:"] := by decide +kernel
  exact words_one label (word_decimal _) (words_number (s.priority.1.toNat_lt.trans (by decide)))

theorem words_interval (s : VrrpService) :
    splitCommand true (labelled " Advertisement Interval: "
      [.u (s.advertisementInterval.value * 10), .text (ascii " msec")]).sent.dropLast =
        [ascii "Advertisement", ascii "Interval:", decimal (s.advertisementInterval.value * 10),
          ascii "msec"] := by
  have bounded := s.advertisementInterval.bounded
  have number : vsprintf [.u (s.advertisementInterval.value * 10), .text (ascii " msec")] =
      decimal (s.advertisementInterval.value * 10) ++ 32 :: ascii "msec" := by
    simp only [vsprintf, List.flatMap_cons, List.flatMap_nil, List.append_nil, Piece.print,
      Nat.mod_eq_of_lt (by omega : s.advertisementInterval.value * 10 < 2 ^ 32)]
    rfl
  have label : Introduces " Advertisement Interval: " [ascii "Advertisement", ascii "Interval:"] :=
    by decide +kernel
  rw [words_labelled label, number, splitCommand_blank rfl, splitCommand_one (word_decimal _)]
  rfl

theorem copied_modes (mode : Bool) :
    copiedSwitch (splitCommand true (labelled " Preempt Mode:           "
      [yesNo mode]).sent.dropLast) = switchWord mode ∧
    copiedSwitch (splitCommand true (labelled " Accept Mode:            "
      [yesNo mode]).sent.dropLast) = switchWord mode := by
  cases mode <;> decide +kernel

theorem copied_status (s : VrrpService) :
    wordIs (splitCommand true (labelled " Status:                 "
      [.s (some (ascii (stateText s.state)))]).sent.dropLast) 1 "Disabled" = !s.enabled := by
  rw [VrrpService.enabled]
  cases s.state <;> decide +kernel

theorem words_command {label : String} {words : List Text} (introduces : Introduces label words)
    {command : Text} (legible : joinWords (arguments command) = command) :
    splitCommand true (labelled label [.s (some command)]).sent.dropLast =
      words ++ arguments command := by
  have whole : vsprintf [.s (some command)] = joinWords (arguments command) := by
    simp only [vsprintf, List.flatMap_cons, List.flatMap_nil, List.append_nil, Piece.print,
      cString_command legible, legible]
  rw [words_labelled introduces, whole, splitCommand_joinWords (word_arguments command)]

theorem words_address {subnet : IpSubnet} (readable : Readable names libc subnet.address) :
    splitCommand true (labelled "  " [.s (some (subnetText names subnet))]).sent.dropLast =
      [subnetText names subnet] := by
  have word := word_subnetText readable
  have label : Introduces "  " [] := by decide +kernel
  apply words_one label word
  simp only [vsprintf, List.flatMap_cons, List.flatMap_nil, List.append_nil, Piece.print,
    cString_word word]

theorem introduces_primary : Introduces " Primary IP Address:     "
    [ascii "Primary", ascii "IP", ascii "Address:"] := by decide +kernel

theorem words_primary (legible : Legible names libc s) (forced : s.autoPrimaryIpAddress = false) :
    splitCommand true (labelled " Primary IP Address:     " (primary names s)).sent.dropLast =
      [ascii "Primary", ascii "IP", ascii "Address:", addressText names s.primaryIpAddress,
        ascii "(Forced)"] := by
  have readable := legible.primary forced
  have word : Word (addressText names s.primaryIpAddress) := readable.text ▸ readable.word
  have printed : vsprintf (primary names s) =
      addressText names s.primaryIpAddress ++ 32 :: ascii "(Forced)" := by
    simp only [vsprintf, primary, forced, List.flatMap_cons, List.flatMap_nil, List.append_nil,
      Piece.print, cString_word word]
    rfl
  rw [words_labelled introduces_primary, printed, splitCommand_blank rfl, splitCommand_one word]
  rfl

/-- Text without blanks is one word at most, so that nothing stands behind the address. -/
theorem words_automatic (blankless : ∀ a, ∀ b ∈ (names.inetNtop a).1, isSpace b = false)
    (automatic : s.autoPrimaryIpAddress = true) :
    wordIs (splitCommand true (labelled " Primary IP Address:     "
      (primary names s)).sent.dropLast) 4 "(Forced)" = false := by
  have plain : ∀ b ∈ vsprintf (primary names s), isSpace b = false := by
    intro b inside
    have printed : vsprintf (primary names s) = cString (addressText names s.primaryIpAddress) := by
      simp only [vsprintf, primary, automatic, List.flatMap_cons, List.flatMap_nil, List.append_nil,
        Piece.print]
      exact List.append_nil _
    rw [printed] at inside
    have there := (List.takeWhile_prefix _).subset inside
    rw [addressText] at there
    split at there
    · exact absurd there List.not_mem_nil
    · exact blankless _ b there
  have short : (splitCommand true (vsprintf (primary names s))).length ≤ 1 := by
    cases text : vsprintf (primary names s) with
    | nil => exact Nat.zero_le _
    | cons b rest =>
      rw [text] at plain
      have first := plain b List.mem_cons_self
      have others := splitCommand_inside
        (fun c inside => plain c (List.mem_cons_of_mem b inside)) []
      rw [List.append_nil] at others
      rw [splitCommand, if_neg (by rw [first]; decide), if_pos rfl, others]
      exact Nat.le_refl _
  have none : (splitCommand true (labelled " Primary IP Address:     "
      (primary names s)).sent.dropLast)[4]? = none := by
    rw [words_labelled introduces_primary]
    exact List.getElem?_eq_none (by rw [List.length_append]; exact Nat.add_le_add_left short 3)
  rw [wordIs, none]
  rfl

theorem copied_primary (blankless : ∀ a, ∀ b ∈ (names.inetNtop a).1, isSpace b = false)
    (legible : Legible names libc s) (name : Text) (key : RouterKey) :
    (if wordIs (splitCommand true (labelled " Primary IP Address:     "
        (primary names s)).sent.dropLast) 4 "(Forced)" then
      [typing.setting name key [ascii "primary", wordAt (splitCommand true
        (labelled " Primary IP Address:     " (primary names s)).sent.dropLast) 3]] else []) =
      (s.settings.primaryIpAddress.toList.map .setPrimaryIpAddress).map
        (typing names name key) := by
  rw [VrrpService.settings]
  cases automatic : s.autoPrimaryIpAddress with
  | true =>
    rw [words_automatic blankless automatic]
    rfl
  | false =>
    rw [words_primary legible automatic]
    rfl

theorem copied_router (known : s.family ≠ .unspec) {heading : List Text} {name : Text}
    (words : heading = [ascii "Virtual", ascii "router", decimal s.virtualRouterId.toNat,
      ascii "on", ascii "interface", name, ascii "(" ++ (familyText s.family ++ ascii ","),
      ascii "VLAN", decimal s.vlanId.toNat ++ ascii ")"]) :
    copiedRouter heading = routerWords name s.key ∧
    [ascii "add", ascii "router", wordAt heading 5, wordAt heading 2, ascii "vlan",
      (wordAt heading 8).dropLast] ++ copiedFamily heading = makingWords name s.key s.vlanId := by
  have family : copiedFamily heading = if s.key.family = .inet6 then [ascii "ipv6"] else [] := by
    rw [words, copiedFamily, familyText, VrrpService.key]
    cases same : s.family with
    | unspec => exact absurd same known
    | inet | inet6 => rfl
  have vlan : (wordAt heading 8).dropLast = decimal s.vlanId.toNat := by
    rw [words]
    exact List.dropLast_concat
  have name_words : wordAt heading 5 = name ∧
      wordAt heading 2 = decimal s.key.virtualRouterId.toNat := by
    rw [words]
    exact ⟨rfl, rfl⟩
  rw [copiedRouter, family, vlan, name_words.1, name_words.2]
  exact ⟨rfl, rfl⟩

/-- The commands that are copied from what showRouter prints are those for the service. -/
theorem copied_showRouter (blankless : ∀ a, ∀ b ∈ (names.inetNtop a).1, isSpace b = false)
    (known : s.family ≠ .unspec) (legible : Legible names libc s) :
    copied (((((showRouter names s).map Output.sent).map List.dropLast).dropLast).map
      (splitCommand true)) = retyping names s := by
  obtain ⟨name, printed, _, word⟩ := legible.name
  have title := words_heading printed word legible.vlan
  have router := copied_router known title
  have labels : Introduces " Master Command:         " [ascii "Master", ascii "Command:"] ∧
      Introduces " Backup Command:         " [ascii "Backup", ascii "Command:"] := by decide +kernel
  have master := words_command labels.1 legible.master
  have backup := words_command labels.2 legible.backup
  have addresses : s.subnets.toList.map (splitCommand true ∘ List.dropLast ∘ Output.sent ∘
      fun subnet => labelled "  " [.s (some (subnetText names subnet))]) =
        s.subnets.toList.map fun subnet => [subnetText names subnet] :=
    List.map_congr_left fun subnet inside =>
      words_address (legible.subnets subnet (Std.TreeSet.mem_toList.mp inside))
  have forced := copied_primary blankless legible name.1 s.key
  have enabled : (if (!s.enabled) = true then [] else
      [ascii "enable" :: ascii "router" :: routerWords name.1 s.key]) =
      (if s.enabled then [Event.enable true] else []).map (typing names name.1 s.key) := by
    cases s.enabled <;> rfl
  unfold heading at router
  unfold primary at forced
  simp only [showRouter, List.map_append, List.map_cons, List.map_nil, List.map_map]
  rw [List.dropLast_concat, List.map_append, List.map_map, addresses]
  simp only [List.map_cons, List.map_nil, List.cons_append, List.nil_append]
  rw [copied]
  dsimp only
  rw [router.1, router.2, copied_status, words_priority, words_interval, (copied_modes _).1,
    (copied_modes _).2, master, backup]
  unfold typing.setting at forced
  rw [forced, enabled, List.map_map, retyping, printed]
  simp only [Option.map_some, Option.getD_some, Settings.setters, List.map_append, List.map_cons,
    List.map_nil, List.map_map]
  rfl

end Words

/-! ### All services -/

/-- The services in the order in which `show router` shows them. -/
def shownServices (libc : Libc) (services : ServiceMap VrrpService) : List VrrpService :=
  (display (onShowRouterCommand libc services [ascii "show", ascii "router"])).map Shown.service

section Displayed
variable {names : Names} {libc : Libc} {m : VrrpManager} {services : ServiceMap VrrpService}

theorem mem_shownServices (displayed : Displayed names libc m services) (s : VrrpService) :
    s ∈ shownServices libc services ↔ m.services[s.key]? = some s := by
  constructor
  · intro inside
    obtain ⟨shown, there, rfl⟩ := List.mem_map.mp inside
    obtain ⟨key, _, stored⟩ := displayed.stored there
    rw [((displayed.running key _ stored).1.1 : shown.service.key = key)]
    exact stored
  · intro stored
    have found := (displayed.represents.same s.key).trans stored
    obtain ⟨shown, there, _, rfl⟩ :=
      ((lists_bare libc services).exact s.key.place s).mpr ⟨found, matches_bare libc s.key.place⟩
    exact List.mem_map_of_mem there

theorem shownServices_distinct (displayed : Displayed names libc m services) :
    (shownServices libc services).Pairwise fun s t => s.key ≠ t.key := by
  rw [shownServices, List.pairwise_map]
  refine (List.pairwise_map.mp (lists_bare libc services).once).imp_of_mem
    fun {a b} first second apart same => apart ?_
  obtain ⟨here, place, stored⟩ := displayed.stored first
  obtain ⟨there, other, found⟩ := displayed.stored second
  have one : a.service.key = here := (displayed.running here _ stored).1.1
  have two : b.service.key = there := (displayed.running there _ found).1.1
  rw [← place, ← other, ← one, ← two, same]

theorem find_shownServices (displayed : Displayed names libc m services) (key : RouterKey) :
    (shownServices libc services).find? (fun s => s.key = key) = m.services[key]? :=
  VrrpManager.find_listed (fun place s stored => (displayed.running place s stored).1.1)
    (mem_shownServices displayed) key

theorem retyped_shownBytes (blankless : ∀ a, ∀ b ∈ (names.inetNtop a).1, isSpace b = false)
    (displayed : Displayed names libc m services) :
    retyped (shownBytes names libc services) =
      ((shownServices libc services).flatMap (retyping names)).map joinWords := by
  have blocks := Lines.split_blocks newline (shownBlocks_closed blankless displayed)
  rw [retyped, shownBytes, blocks]
  dsimp only
  rw [shownBlocks, shownServices, List.map_map, List.flatMap_map, List.flatMap_map]
  refine congrArg (List.map joinWords) (List.flatMap_congr fun shown inside => ?_)
  obtain ⟨key, _, stored⟩ := displayed.stored inside
  dsimp only [Function.comp_apply]
  rw [outputs_bare inside]
  exact copied_showRouter blankless (displayed.running key _ stored).1.2.family
    (displayed.legible key _ stored)

end Displayed

/-- Whatever has happened to a daemon: the lines that are copied from its answer to `show router`
give a new daemon the same configuration, every service under its own key. -/
theorem shown_retyped (libc : Libc) (names : Names) (kernel : Kernel)
    (blankless : ∀ a, ∀ b ∈ (names.inetNtop a).1, isSpace b = false)
    (happenings : List Happening) (m : VrrpManager)
    (reached : VrrpManager.history libc happenings = some m)
    (legible : m.Each fun _ s => Legible names libc s)
    (succeeds : m.Each fun _ s => Configurator.Creates kernel s)
    (services : ServiceMap VrrpService) (represents : services.Represents m) :
    ∃ t, VrrpManager.run libc
        ((retyped (shownBytes names libc services)).map (Input.line kernel)) = some t ∧
      ∀ key, t.configuration key = m.configuration key := by
  have displayed : Displayed names libc m services :=
    ⟨VrrpManager.running_history reached, legible, represents⟩
  have each : ∀ {held : VrrpService → Prop}, (m.Each fun _ s => held s) →
      ∀ s ∈ shownServices libc services, held s := fun all s inside =>
    all s.key s ((mem_shownServices displayed s).mp inside)
  obtain ⟨t, typed, result⟩ := retyping_all (each fun key s stored =>
      (displayed.running key s stored).1.2) (each legible) (each succeeds)
    (shownServices_distinct displayed) fun s _ => (rfl : VrrpManager.empty.services[s.key]? = none)
  refine ⟨t, ?_, fun key => ?_⟩
  · rw [VrrpManager.run, retyped_shownBytes blankless displayed, List.map_map, List.foldlM_map]
    exact typed
  · rw [result key, find_shownServices displayed]
    exact Option.or_none

/-- A router with a command and an address. -/
theorem shown_retyped_sample :
    ∃ t, VrrpManager.run .sample ((retyped (shownBytes .sample .sample
        (shownMap shownDaemon))).map (Input.line .sample)) = some t ∧
      ∀ key, t.configuration key = shownDaemon.configuration key := by
  have reaches : (VrrpManager.history .sample shownLines).isSome = true := by decide +kernel
  have only : shownDaemon.services.toList.map Prod.fst = [shownKey] := by decide +kernel
  exact shown_retyped .sample .sample .sample blankless_sample shownLines shownDaemon
    (reached_getD reaches) (legible_sample (by decide +kernel))
    (fun _ s _ => Configurator.creates_of_vlan (fun _ _ => (by decide : (0 : Int) ≤ 8)) s)
    (shownMap shownDaemon) (represents_shownMap only)

end TelnetSession

end OpenVrrp
