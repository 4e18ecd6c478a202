import OpenVrrp.Library.Lines
import OpenVrrp.Telnet.Retyping

/-! `show router` shows everything: the bytes of its answer determine the configuration, so that
no two daemons that are set up differently answer alike. -/
namespace OpenVrrp

namespace TelnetSession

/-! ### What the lines show -/

section Shown
variable {names : Names} {libc : Libc} {s t : VrrpService}

theorem labelled_sent (label : String) (values : List Piece) :
    (labelled label values).sent = ascii label ++ (vsprintf values ++ [newline]) := by
  simp [labelled, Output.sent, vsprintf, Piece.print]

theorem labelled_inj {label : String} {values others : List Piece}
    (same : (labelled label values).sent = (labelled label others).sent) :
    vsprintf values = vsprintf others := by
  rw [labelled_sent, labelled_sent] at same
  exact List.append_cancel_right (List.append_cancel_left same)

/-- What stands before the first blank. -/
theorem blank_inj {v w r q : Text} (first : ∀ b ∈ v, isSpace b = false)
    (second : ∀ b ∈ w, isSpace b = false) (same : v ++ 32 :: r = w ++ 32 :: q) :
    v = w ∧ r = q := by
  have front : ∀ {u : Text} (tail : Text), (∀ b ∈ u, isSpace b = false) →
      (u ++ 32 :: tail).takeWhile (fun b => !isSpace b) = u := by
    intro u tail plain
    have stops : (32 :: tail).takeWhile (fun b => !isSpace b) = [] := rfl
    rw [List.takeWhile_append_of_pos fun b inside => by rw [plain b inside]; rfl, stops,
      List.append_nil]
  have equal : v = w := by
    rw [← front r first, same, front q second]
  subst equal
  exact ⟨rfl, (List.cons.inj (List.append_cancel_left same)).2⟩

theorem cString_word {w : Text} (word : Word w) : cString w = w :=
  List.takeWhile_eq_self_iff.mpr fun b inside => decide_eq_true (word.2 b inside).2

theorem cString_command {command : Text}
    (legible : joinWords (arguments command) = command) : cString command = command := by
  refine List.takeWhile_eq_self_iff.mpr fun b inside => decide_eq_true ?_
  by_cases none : arguments command = []
  · rw [none] at legible
    rw [← legible] at inside
    exact absurd inside List.not_mem_nil
  · rw [← legible] at inside
    exact (joinWords_ends (word_arguments command) none).1 b inside

theorem switch_inj {a b : Bool} (same : vsprintf [yesNo a] = vsprintf [yesNo b]) : a = b := by
  revert same
  revert a b
  decide

theorem state_inj {a b : State} (same : vsprintf [.s (some (ascii (stateText a)))] =
    vsprintf [.s (some (ascii (stateText b)))]) : a = b := by
  revert same
  cases a <;> cases b <;> decide

theorem address_inj {a b : IpAddress} (first : Readable names libc a)
    (second : Readable names libc b) (same : addressText names a = addressText names b) :
    a = b := by
  rw [← ipAddress_addressText first, same, ipAddress_addressText second]

theorem subnets_inj {l k : List IpSubnet}
    (first : ∀ subnet ∈ l, Readable names libc subnet.address)
    (second : ∀ subnet ∈ k, Readable names libc subnet.address)
    (same : l.map (fun subnet => (labelled "  " [.s (some (subnetText names subnet))]).sent) =
      k.map fun subnet => (labelled "  " [.s (some (subnetText names subnet))]).sent) : l = k := by
  induction l generalizing k with
  | nil => exact (List.map_eq_nil_iff.mp same.symm).symm
  | cons subnet rest ih =>
    cases k with
    | nil => cases same
    | cons other others =>
      obtain ⟨here, behind⟩ := List.cons.inj same
      have a := first subnet List.mem_cons_self
      have b := second other List.mem_cons_self
      have text : subnetText names subnet = subnetText names other := by
        have printed := labelled_inj here
        simp only [vsprintf, List.flatMap_cons, List.flatMap_nil, List.append_nil, Piece.print,
          cString_word (word_subnetText a), cString_word (word_subnetText b)] at printed
        exact printed
      have equal : subnet = other := by
        rw [← ipSubnet_subnetText a, text, ipSubnet_subnetText b]
      rw [equal, ih (fun x inside => first x (List.mem_cons_of_mem _ inside))
        (fun x inside => second x (List.mem_cons_of_mem _ inside)) behind]

theorem family_inj {a b : Family} (first : a ≠ .unspec) (second : b ≠ .unspec)
    (same : familyText a = familyText b) : a = b := by
  revert first second same
  cases a <;> cases b <;> decide

theorem familyText_four (family : Family) : (familyText family).length = 4 := by
  rw [familyText]
  split <;> rfl

/-- What the first line prints behind its label. -/
def heading (names : Names) (s : VrrpService) : List Piece :=
  [.hhu s.virtualRouterId.toNat, .text (ascii " on interface "),
    interfaceText names s.interface, .text (ascii " ("), .s (some (familyText s.family)),
    .text (ascii ", VLAN "), .hu s.vlanId.toNat, .text (ascii ")")]

theorem heading_print {name : { text : Text // text.length < interfaceNameSize }}
    (printed : names.indexToName s.interface = some name) (word : Word name.1)
    (small : s.vlanId.toNat < 65536) :
    vsprintf (heading names s) = decimal s.virtualRouterId.toNat ++ 32 :: (ascii "on interface " ++
      (name.1 ++ 32 :: (ascii "(" ++ (familyText s.family ++ (ascii ", VLAN " ++
        (decimal s.vlanId.toNat ++ ascii ")")))))) := by
  have byte : s.virtualRouterId.toNat % 2 ^ 8 = s.virtualRouterId.toNat :=
    Nat.mod_eq_of_lt s.virtualRouterId.toNat_lt
  have vlan : s.vlanId.toNat % 2 ^ 16 = s.vlanId.toNat := Nat.mod_eq_of_lt small
  have family : cString (familyText s.family) = familyText s.family := by
    rw [familyText]
    split <;> rfl
  simp only [vsprintf, heading, interfaceText, printed, Option.map_some, List.flatMap_cons,
    List.flatMap_nil, List.append_nil, Piece.print, byte, vlan, family, cString_word word]
  have interface : ascii " on interface " = 32 :: ascii "on interface " := rfl
  have bracket : ascii " (" = 32 :: ascii "(" := rfl
  rw [interface, bracket]
  rfl

theorem heading_inj (first : Legible names libc s) (second : Legible names libc t)
    (known : s.family ≠ .unspec) (also : t.family ≠ .unspec)
    (same : vsprintf (heading names s) = vsprintf (heading names t)) :
    s.key = t.key ∧ s.vlanId = t.vlanId := by
  obtain ⟨name, shown, index, word⟩ := first.name
  obtain ⟨other, named, place, proper⟩ := second.name
  have printed := heading_print shown word first.vlan
  have written := heading_print named proper second.vlan
  have plain : ∀ {w : Text}, Word w → ∀ b ∈ w, isSpace b = false := fun word b inside =>
    (word.2 b inside).1
  rw [printed, written] at same
  obtain ⟨router, rest⟩ := blank_inj (plain (word_decimal _)) (plain (word_decimal _)) same
  obtain ⟨interface, rest⟩ := blank_inj (plain word) (plain proper) (List.append_cancel_left rest)
  obtain ⟨family, rest⟩ := List.append_inj (List.append_cancel_left rest)
    ((familyText_four _).trans (familyText_four _).symm)
  have vlan := List.append_cancel_right (List.append_cancel_left rest)
  refine ⟨RouterKey.ext ?_ (UInt8.toNat_inj.mp (decimal_injective router))
    (family_inj known also family), UInt64.toNat_inj.mp (decimal_injective vlan)⟩
  change s.interface = t.interface
  rw [← index, interface, place]

/-- What the third line prints behind its label. -/
def primary (names : Names) (s : VrrpService) : List Piece :=
  [.s (some (addressText names s.primaryIpAddress)),
    .s (some (ascii (if s.autoPrimaryIpAddress then "" else " (Forced)")))]

theorem primary_inj (blankless : ∀ a, ∀ b ∈ (names.inetNtop a).1, isSpace b = false)
    (first : Legible names libc s) (second : Legible names libc t)
    (same : vsprintf (primary names s) = vsprintf (primary names t)) :
    s.settings.primaryIpAddress = t.settings.primaryIpAddress := by
  have plain : ∀ a, (32 : UInt8) ∉ cString (addressText names a) := by
    intro a inside
    have there := (List.takeWhile_prefix _).subset inside
    rw [addressText] at there
    split at there
    · exact List.not_mem_nil there
    · cases blankless a 32 there
  have forced : cString (ascii " (Forced)") = 32 :: ascii "(Forced)" := rfl
  have nothing : cString (ascii "") = [] := rfl
  simp only [vsprintf, primary, List.flatMap_cons, List.flatMap_nil, List.append_nil,
    Piece.print] at same
  simp only [VrrpService.settings]
  cases here : s.autoPrimaryIpAddress <;> cases there : t.autoPrimaryIpAddress
  case true.true => rfl
  case true.false =>
    simp only [here, there, if_true, Bool.false_eq_true, if_false, nothing, forced,
      List.append_nil] at same
    exact absurd (same ▸ List.mem_append_right _ List.mem_cons_self) (plain s.primaryIpAddress)
  case false.true =>
    simp only [here, there, if_true, Bool.false_eq_true, if_false, nothing, forced,
      List.append_nil] at same
    exact absurd (same ▸ List.mem_append_right _ List.mem_cons_self) (plain t.primaryIpAddress)
  case false.false =>
    simp only [here, there, Bool.false_eq_true, if_false] at same
    have a := first.primary here
    have b := second.primary there
    have text := List.append_cancel_right same
    rw [cString_word (a.text ▸ a.word), cString_word (b.text ▸ b.word)] at text
    simp only [Bool.false_eq_true, if_false]
    rw [address_inj a b text]

/-- Nothing of the configuration is lost in what `show router` prints for a service: where two
services print the same lines, they have the same key and the same configuration, and the same
commands are made of the words. -/
theorem showRouter_inj (blankless : ∀ a, ∀ b ∈ (names.inetNtop a).1, isSpace b = false)
    (first : Administered libc s) (second : Administered libc t)
    (legible : Legible names libc s) (also : Legible names libc t)
    (same : (showRouter names s).map Output.sent = (showRouter names t).map Output.sent) :
    s.key = t.key ∧ s.configuration = t.configuration ∧ retyping names s = retyping names t := by
  simp only [showRouter, List.cons_append, List.nil_append, List.map_cons, List.map_append,
    List.map_map, List.map_nil, List.cons.injEq] at same
  obtain ⟨title, -, forced, -, status, priority, interval, preempt, accept, master, backup, -,
    addresses⟩ := same
  obtain ⟨key, vlan⟩ := heading_inj legible also first.family second.family (labelled_inj title)
  have subnets : s.subnets.toList = t.subnets.toList :=
    subnets_inj (fun subnet inside => legible.subnets subnet (Std.TreeSet.mem_toList.mp inside))
      (fun subnet inside => also.subnets subnet (Std.TreeSet.mem_toList.mp inside))
      (List.append_cancel_right addresses)
  have state : s.state = t.state := state_inj (labelled_inj status)
  have enabled : s.enabled = t.enabled := by rw [VrrpService.enabled, state, VrrpService.enabled]
  have number : ∀ {n k : Nat} {rest : List Piece}, n < 2 ^ 32 → k < 2 ^ 32 →
      vsprintf (.u n :: rest) = vsprintf (.u k :: rest) → n = k := by
    intro n k rest small little equal
    have digits := decimal_injective (List.append_cancel_right equal)
    rwa [Nat.mod_eq_of_lt small, Nat.mod_eq_of_lt little] at digits
  have command : ∀ {c d : Text}, joinWords (arguments c) = c → joinWords (arguments d) = d →
      vsprintf [.s (some c)] = vsprintf [.s (some d)] → c = d := by
    intro c d one other equal
    simp only [vsprintf, List.flatMap_cons, List.flatMap_nil, List.append_nil, Piece.print,
      cString_command one, cString_command other] at equal
    exact equal
  have settings : s.settings = t.settings := by
    refine Settings.ext ?_ ?_ ?_ ?_ vlan (primary_inj blankless legible also (labelled_inj forced))
      ?_ ?_ ?_
    · exact UInt8.toNat_inj.mp (number (s.priority.1.toNat_lt.trans (by decide))
        (t.priority.1.toNat_lt.trans (by decide)) (labelled_inj priority))
    · have bounded := s.advertisementInterval.bounded
      have limited := t.advertisementInterval.bounded
      have tenfold := number (by omega) (by omega) (labelled_inj interval)
      exact Nat.eq_of_mul_eq_mul_right (by decide) tenfold
    · exact switch_inj (labelled_inj accept)
    · exact switch_inj (labelled_inj preempt)
    · exact congrArg List.toFinset subnets
    · exact command legible.master also.master (labelled_inj master)
    · exact command legible.backup also.backup (labelled_inj backup)
  have interface : s.interface = t.interface := congrArg RouterKey.interface key
  refine ⟨key, Configuration.ext settings enabled, ?_⟩
  rw [retyping, retyping, key, interface, vlan, settings, subnets, enabled]

/-! ### The stream -/

theorem clean_plain {w : Text} (plain : ∀ b ∈ w, isSpace b = false) : newline ∉ w :=
  fun inside => by cases plain newline inside

theorem clean_decimal (n : Nat) : newline ∉ decimal n :=
  clean_plain fun b inside => ((word_decimal n).2 b inside).1

theorem clean_cString {text : Text} (clean : newline ∉ text) : newline ∉ cString text :=
  fun inside => clean ((List.takeWhile_prefix _).subset inside)

theorem clean_joinWords {words : List Text} (proper : ∀ w ∈ words, Word w) :
    newline ∉ joinWords words := by
  induction words with
  | nil => exact List.not_mem_nil
  | cons w rest ih =>
    have word : newline ∉ w := clean_plain fun b inside =>
      ((proper w List.mem_cons_self).2 b inside).1
    cases rest with
    | nil =>
      have alone : joinWords [w] = w := List.append_nil w
      rw [alone]
      exact word
    | cons next rest =>
      rw [joinWords_cons]
      intro inside
      rcases List.mem_append.mp inside with front | behind
      · exact word front
      rcases List.mem_cons.mp behind with blank | there
      · cases blank
      · exact ih (fun v inside => proper v (List.mem_cons_of_mem w inside)) there

theorem clean_hex (b : UInt8) : newline ∉ (Piece.hhX b).print := by
  have digit : ∀ n < 16, newline ≠ hexDigit n := by decide
  have bound := b.toNat_lt
  intro inside
  rcases List.mem_pair.mp inside with high | low
  · exact digit _ (by omega) high
  · exact digit _ (by omega) low

theorem labelled_terminated {label : String} {values : List Piece} (clean : newline ∉ ascii label)
    (printed : ∀ p ∈ values, newline ∉ p.print) :
    Lines.Terminated newline (labelled label values).sent := by
  refine ⟨ascii label ++ vsprintf values, fun inside => ?_, ?_⟩
  · rcases List.mem_append.mp inside with front | behind
    · exact clean front
    · obtain ⟨p, there, written⟩ := List.mem_flatMap.mp behind
      exact printed p there written
  · rw [labelled_sent, List.append_assoc]

theorem labelled_apart {label : String} (named : ascii label ≠ []) (values : List Piece) :
    (labelled label values).sent ≠ [newline] := by
  intro same
  have length := congrArg List.length same
  rw [labelled_sent, List.length_append, List.length_append, List.length_singleton] at length
  exact named (List.eq_nil_of_length_eq_zero (by omega))

/-- Every line ends with its only newline. -/
theorem showRouter_terminated (blankless : ∀ a, ∀ b ∈ (names.inetNtop a).1, isSpace b = false)
    (legible : Legible names libc s) :
    ∀ output ∈ showRouter names s, Lines.Terminated newline output.sent := by
  have address : ∀ a, newline ∉ cString (addressText names a) := by
    intro a
    refine clean_cString (clean_plain fun b inside => ?_)
    rw [addressText] at inside
    split at inside
    · exact absurd inside List.not_mem_nil
    · exact blankless a b inside
  have command : ∀ {c : Text}, joinWords (arguments c) = c → newline ∉ cString c :=
    fun same => clean_cString (same ▸ clean_joinWords (word_arguments _))
  have interface : newline ∉ (interfaceText names s.interface).print := by
    obtain ⟨name, printed, _, word⟩ := legible.name
    rw [interfaceText, printed]
    exact clean_cString (clean_plain fun b inside => (word.2 b inside).1)
  have family : newline ∉ cString (familyText s.family) := by
    rw [familyText]
    split <;> decide
  have state : newline ∉ cString (ascii (stateText s.state)) := by
    cases s.state <;> decide
  have switch : ∀ mode, newline ∉ (yesNo mode).print := by decide
  have forced : newline ∉ cString (ascii (if s.autoPrimaryIpAddress then "" else " (Forced)")) := by
    cases s.autoPrimaryIpAddress <;> decide
  have one : ∀ {p : Piece}, newline ∉ p.print → ∀ q ∈ [p], newline ∉ q.print :=
    fun clean q inside => List.mem_singleton.mp inside ▸ clean
  simp only [showRouter, List.forall_mem_append, List.forall_mem_cons]
  refine ⟨⟨⟨labelled_terminated (by decide) ?heading,
    labelled_terminated (by decide) (one (address _)),
    labelled_terminated (by decide) ?primary, labelled_terminated (by decide) ?mac,
    labelled_terminated (by decide) (one state),
    labelled_terminated (by decide) (one (clean_decimal _)),
    labelled_terminated (by decide) ?interval, labelled_terminated (by decide) (one (switch _)),
    labelled_terminated (by decide) (one (switch _)),
    labelled_terminated (by decide) (one (command legible.master)),
    labelled_terminated (by decide) (one (command legible.backup)),
    ⟨ascii " Address List:", by decide, rfl⟩, fun output none => absurd none List.not_mem_nil⟩,
    ?addresses⟩, ⟨[], List.not_mem_nil, rfl⟩, fun output none => absurd none List.not_mem_nil⟩
  case heading =>
    simp only [List.forall_mem_cons]
    exact ⟨clean_decimal _, by decide, interface, by decide, family, by decide, clean_decimal _,
      by decide, fun p none => absurd none List.not_mem_nil⟩
  case primary =>
    simp only [List.forall_mem_cons]
    exact ⟨address _, forced, fun p none => absurd none List.not_mem_nil⟩
  case mac =>
    simp only [List.forall_mem_cons]
    exact ⟨clean_hex _, by decide, clean_hex _, by decide, clean_hex _, by decide, clean_hex _,
      by decide, clean_hex _, by decide, clean_hex _, fun p none => absurd none List.not_mem_nil⟩
  case interval =>
    simp only [List.forall_mem_cons]
    exact ⟨clean_decimal _, by decide, fun p none => absurd none List.not_mem_nil⟩
  case addresses =>
    intro output inside
    obtain ⟨subnet, there, rfl⟩ := List.mem_map.mp inside
    have word := word_subnetText (legible.subnets subnet (Std.TreeSet.mem_toList.mp there))
    exact labelled_terminated (by decide)
      (one (clean_cString (clean_plain fun b inside => (word.2 b inside).1)))

/-- The empty line is the last one of a service, and only that. -/
theorem showRouter_closed (names : Names) (s : VrrpService) :
    Lines.Terminated [newline] ((showRouter names s).map Output.sent) := by
  refine ⟨_, ?_, by rw [showRouter, List.map_append]; rfl⟩
  simp only [List.cons_append, List.nil_append, List.map_cons, List.mem_cons, not_or]
  refine ⟨?_, ?_, ?_, ?_, ?_, ?_, ?_, ?_, ?_, ?_, ?_, by decide, fun inside => ?_⟩
  case refine_12 =>
    rw [List.map_map] at inside
    obtain ⟨subnet, _, same⟩ := List.mem_map.mp inside
    exact labelled_apart (by decide) _ same
  all_goals exact (labelled_apart (by decide) _).symm

end Shown
/-! ### All services -/

theorem matches_bare (libc : Libc) (place : Slot) :
    Filters.Matches libc ⟨none, none, false, false⟩ place :=
  ⟨⟨fun name named => absurd named (Option.not_mem_none name),
    fun text named => absurd named (Option.not_mem_none text)⟩,
    fun wanted => absurd wanted Bool.false_ne_true⟩

theorem lists_bare (libc : Libc) (services : ServiceMap VrrpService) :
    Lists libc services ⟨none, none, false, false⟩
      (display (onShowRouterCommand libc services [ascii "show", ascii "router"])) := by
  apply (lists_iff services ⟨none, none, false, false⟩).mpr
  intro place service _
  rw [answer_bare]
  have chosen : Picked (Reads.Selection.completed ⟨-1, -1, .inet, false⟩) place :=
    ⟨fun positive => absurd positive (by decide), fun other => absurd rfl other⟩
  exact ⟨iff_of_true (matches_bare libc place) chosen, fun _ => rfl⟩

/-- The lines that answer `show router`, service by service. -/
def shownBlocks (names : Names) (libc : Libc) (services : ServiceMap VrrpService) :
    List (List Text) :=
  (display (onShowRouterCommand libc services [ascii "show", ascii "router"])).map fun shown =>
    (shown.outputs names).map Output.sent

/-- The bytes that answer `show router`. -/
def shownBytes (names : Names) (libc : Libc) (services : ServiceMap VrrpService) : Text :=
  (shownBlocks names libc services).flatten.flatten

/-- A daemon with its nested maps, and texts that can be told apart. -/
structure Displayed (names : Names) (libc : Libc) (m : VrrpManager)
    (services : ServiceMap VrrpService) : Prop where
  running : m.Running libc
  legible : m.Each fun _ s => Legible names libc s
  represents : services.Represents m

section Displayed
variable {names : Names} {libc : Libc} {m n : VrrpManager}
  {services others : ServiceMap VrrpService}

theorem outputs_bare {shown : Shown VrrpService} (inside : shown ∈ display
    (onShowRouterCommand libc services [ascii "show", ascii "router"])) :
    shown.outputs names = showRouter names shown.service := by
  rw [Shown.outputs, (lists_bare libc services).form shown inside]
  rfl

/-- What is on display is stored under its key. -/
theorem Displayed.stored (displayed : Displayed names libc m services)
    {shown : Shown VrrpService} (inside : shown ∈ display
      (onShowRouterCommand libc services [ascii "show", ascii "router"])) :
    ∃ key, RouterKey.place key = shown.place ∧ m.services[key]? = some shown.service := by
  have found := display_stored inside
  obtain ⟨key, place⟩ := displayed.represents.placed _ _ found
  rw [← place, displayed.represents.same] at found
  exact ⟨key, place, found⟩

theorem mem_shownBlocks (displayed : Displayed names libc m services) (block : List Text) :
    block ∈ shownBlocks names libc services ↔
      ∃ (key : RouterKey) (s : VrrpService), m.services[key]? = some s ∧
        block = (showRouter names s).map Output.sent := by
  constructor
  · intro inside
    obtain ⟨shown, there, rfl⟩ := List.mem_map.mp inside
    obtain ⟨key, _, found⟩ := displayed.stored there
    exact ⟨key, shown.service, found, by rw [outputs_bare there]⟩
  · rintro ⟨key, s, stored, rfl⟩
    have found := (displayed.represents.same key).trans stored
    obtain ⟨shown, there, _, rfl⟩ :=
      ((lists_bare libc services).exact key.place s).mpr ⟨found, matches_bare libc key.place⟩
    exact List.mem_map.mpr ⟨shown, there, by rw [outputs_bare there]⟩

theorem shownBlocks_closed (blankless : ∀ a, ∀ b ∈ (names.inetNtop a).1, isSpace b = false)
    (displayed : Displayed names libc m services) :
    ∀ block ∈ shownBlocks names libc services, Lines.Terminated [newline] block ∧
      ∀ line ∈ block, Lines.Terminated newline line := by
  intro block inside
  obtain ⟨key, s, stored, rfl⟩ := (mem_shownBlocks displayed block).mp inside
  refine ⟨showRouter_closed names s, fun line there => ?_⟩
  obtain ⟨output, sent, rfl⟩ := List.mem_map.mp there
  exact showRouter_terminated blankless (displayed.legible key s stored) output sent

theorem shownBytes_blocks (blankless : ∀ a, ∀ b ∈ (names.inetNtop a).1, isSpace b = false)
    (first : Displayed names libc m services) (second : Displayed names libc n others)
    (same : shownBytes names libc services = shownBytes names libc others) :
    shownBlocks names libc services = shownBlocks names libc others := by
  have lines : ∀ {k : VrrpManager} {map : ServiceMap VrrpService}, Displayed names libc k map →
      ∀ line ∈ (shownBlocks names libc map).flatten, Lines.Terminated newline line := by
    intro k map displayed line inside
    obtain ⟨block, there, within⟩ := List.mem_flatten.mp inside
    exact (shownBlocks_closed blankless displayed block there).2 line within
  exact Lines.flatten_inj (fun block inside => (shownBlocks_closed blankless first block inside).1)
    (fun block inside => (shownBlocks_closed blankless second block inside).1)
    (Lines.flatten_inj (lines first) (lines second) same)

theorem shownBlocks_configuration
    (blankless : ∀ a, ∀ b ∈ (names.inetNtop a).1, isSpace b = false)
    (first : Displayed names libc m services) (second : Displayed names libc n others)
    (same : shownBlocks names libc services = shownBlocks names libc others) {key : RouterKey}
    {c : Configuration} (has : m.configuration key = some c) : n.configuration key = some c := by
  obtain ⟨s, stored, rfl⟩ := Option.map_eq_some_iff.mp has
  have inside := (mem_shownBlocks first _).mpr ⟨key, s, stored, rfl⟩
  rw [same] at inside
  obtain ⟨place, t, there, printed⟩ := (mem_shownBlocks second _).mp inside
  obtain ⟨⟨keyed, administered⟩, _⟩ := first.running key s stored
  obtain ⟨⟨placed, managed⟩, _⟩ := second.running place t there
  obtain ⟨equal, configuration, _⟩ := showRouter_inj blankless administered managed
    (first.legible key s stored) (second.legible place t there) printed
  have here : place = key := placed.symm.trans (equal.symm.trans keyed)
  rw [VrrpManager.configuration, ← here, there, Option.map_some, configuration]

end Displayed

/-- `show router` shows everything: two daemons that answer it with the same bytes have the same
configuration, whatever has happened to each of them. -/
theorem shown_everything (libc : Libc) (names : Names)
    (blankless : ∀ a, ∀ b ∈ (names.inetNtop a).1, isSpace b = false)
    (happenings others : List Happening) (m n : VrrpManager)
    (reached : VrrpManager.history libc happenings = some m)
    (also : VrrpManager.history libc others = some n)
    (legible : m.Each fun _ s => Legible names libc s)
    (readable : n.Each fun _ s => Legible names libc s)
    (first second : ServiceMap VrrpService) (represents : first.Represents m)
    (too : second.Represents n)
    (same : shownBytes names libc first = shownBytes names libc second) :
    ∀ key, m.configuration key = n.configuration key := by
  have one : Displayed names libc m first :=
    ⟨VrrpManager.running_history reached, legible, represents⟩
  have other : Displayed names libc n second :=
    ⟨VrrpManager.running_history also, readable, too⟩
  have blocks := shownBytes_blocks blankless one other same
  intro key
  ext c
  constructor
  · exact shownBlocks_configuration blankless one other blocks
  · exact shownBlocks_configuration blankless other one blocks.symm

/-! Two ways to the same configuration. -/

def detourLines : List Happening :=
  [ascii "add router eth0 51", ascii "set router eth0 51 priority 120",
    ascii "add address eth0 51 192.0.2.9/24", ascii "set router eth0 51 priority 100",
    ascii "set router eth0 51 master command logger up", ascii "enable router eth0 51"].map
      fun line => .input (.line .sample line)

def detourDaemon : VrrpManager := (VrrpManager.history .sample detourLines).getD .empty

def shownKey : RouterKey := ⟨2, 51, .inet⟩

/-- The nested maps with the one service. -/
def shownMap (m : VrrpManager) : ServiceMap VrrpService :=
  (m.services[shownKey]?).elim ∅ fun s => ServiceMap.put ∅ shownKey.place s

theorem represents_shownMap {m : VrrpManager} (only : m.services.toList.map Prod.fst = [shownKey]) :
    (shownMap m).Represents m := by
  have keys : ∀ key s, m.services[key]? = some s → key = shownKey := by
    intro key s stored
    have inside := List.mem_map_of_mem (f := Prod.fst)
      (Std.TreeMap.mem_toList_iff_getElem?_eq_some.mpr stored)
    rw [only] at inside
    exact List.mem_singleton.mp inside
  obtain ⟨⟨key, s⟩, inside, named⟩ :=
    List.mem_map.mp (only ▸ List.mem_singleton_self shownKey : shownKey ∈ m.services.toList.map _)
  have stored : m.services[shownKey]? = some s :=
    named ▸ Std.TreeMap.mem_toList_iff_getElem?_eq_some.mp inside
  have put := ServiceMap.represents_put ServiceMap.represents_empty shownKey s
  rw [shownMap, stored]
  refine ⟨fun place => (put.same place).trans ?_, put.placed⟩
  by_cases here : shownKey = place
  · rw [← here, stored]
    exact Nested.insert_self ..
  · rw [Nested.insert_other _ _ here]
    cases found : m.services[place]? with
    | none => rfl
    | some t => exact absurd (keys place t found).symm here

theorem blankless_sample : ∀ a, ∀ b ∈ (Names.sample.inetNtop a).1, isSpace b = false := by
  have written : ∀ bytes : List UInt8, ∀ b ∈ List.intercalate (ascii ".")
      (bytes.map fun b => decimal b.toNat), isSpace b = false := by
    intro bytes
    induction bytes with
    | nil => exact fun b inside => absurd inside List.not_mem_nil
    | cons first rest ih =>
      have digits : ∀ b ∈ decimal first.toNat, isSpace b = false := fun b inside =>
        ((word_decimal first.toNat).2 b inside).1
      cases rest with
      | nil =>
        intro b inside
        rw [List.map_cons, List.map_nil, List.intercalate_singleton] at inside
        exact digits b inside
      | cons second more =>
        intro b inside
        rw [List.map_cons, List.map_cons, List.intercalate_cons_cons] at inside
        rcases List.mem_append.mp inside with front | behind
        · rcases List.mem_append.mp front with digit | dot
          · exact digits b digit
          · rw [List.mem_singleton.mp dot]
            rfl
        · exact ih b behind
  exact fun a b inside => written a.data b (List.mem_of_mem_take inside)

theorem reached_getD {o : Option VrrpManager} (reaches : o.isSome = true) :
    o = some (o.getD .empty) := by
  obtain ⟨m, rfl⟩ := Option.isSome_iff_exists.mp reaches
  rfl

/-- The other priority in between leaves no trace. -/
theorem shown_everything_detour :
    shownBytes .sample .sample (shownMap shownDaemon) =
        shownBytes .sample .sample (shownMap detourDaemon) ∧
      ∀ key, shownDaemon.configuration key = detourDaemon.configuration key := by
  have reaches : (VrrpManager.history .sample shownLines).isSome = true ∧
      (VrrpManager.history .sample detourLines).isSome = true := by decide +kernel
  have only : shownDaemon.services.toList.map Prod.fst = [shownKey] ∧
      detourDaemon.services.toList.map Prod.fst = [shownKey] := by decide +kernel
  have same : shownBytes .sample .sample (shownMap shownDaemon) =
      shownBytes .sample .sample (shownMap detourDaemon) := by decide +kernel
  refine ⟨same, ?_⟩
  exact shown_everything .sample .sample blankless_sample shownLines detourLines shownDaemon
    detourDaemon (reached_getD reaches.1) (reached_getD reaches.2)
    (legible_sample (by decide +kernel)) (legible_sample (by decide +kernel))
    (shownMap shownDaemon) (shownMap detourDaemon) (represents_shownMap only.1)
    (represents_shownMap only.2) same

end TelnetSession

end OpenVrrp
