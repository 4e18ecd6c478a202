import OpenVrrp.Configurator.RoundTrip
import OpenVrrp.History
import OpenVrrp.Telnet.Formatting

/-! The commands for a service: typed to another daemon line by line, they give it a service with
the same configuration. -/
namespace OpenVrrp

/-- What `splitCommand` leaves whole and if_indextoname and the number formats print. -/
def Word (w : Text) : Prop := w ≠ [] ∧ ∀ b ∈ w, isSpace b = false ∧ b ≠ 0

instance (w : Text) : Decidable (Word w) :=
  inferInstanceAs (Decidable (w ≠ [] ∧ ∀ b ∈ w, isSpace b = false ∧ b ≠ 0))

theorem word_decimal (n : Nat) : Word (decimal n) := by
  constructor
  · intro none
    have digits := decimal_chars n
    rw [none] at digits
    exact Nat.toDigits_ne_nil digits.symm
  · intro b inside
    have digit := isDigit_decimal inside
    simp only [isDigit, Bool.and_eq_true, decide_eq_true_eq] at digit
    simp only [isSpace, Bool.or_eq_false_iff, beq_eq_false_iff_ne, Bool.and_eq_false_iff,
      decide_eq_false_iff_not]
    grind

namespace TelnetSession

/-! ### Words and lines -/

theorem splitCommand_inside {w : Text} (plain : ∀ b ∈ w, isSpace b = false) (tail : Text) :
    splitCommand false (w ++ tail) = splitCommand false tail := by
  induction w with
  | nil => rfl
  | cons b rest ih =>
    rw [List.cons_append, splitCommand, if_neg (by simp [plain b List.mem_cons_self]),
      if_neg Bool.false_ne_true]
    exact ih fun c inside => plain c (List.mem_cons_of_mem _ inside)

theorem splitCommand_word {w : Text} (word : Word w) {tail : Text}
    (stops : tail.takeWhile (fun c => !isSpace c) = []) :
    splitCommand true (w ++ tail) = w :: splitCommand false tail := by
  obtain ⟨some, plain⟩ := word
  cases w with
  | nil => exact absurd rfl some
  | cons b rest =>
    have rest_plain : ∀ c ∈ rest, isSpace c = false := fun c inside =>
      (plain c (List.mem_cons_of_mem _ inside)).1
    have whole : (rest ++ tail).takeWhile (fun c => !isSpace c) = rest := by
      rw [List.takeWhile_append_of_pos fun c inside => by simp [rest_plain c inside], stops,
        List.append_nil]
    rw [List.cons_append, splitCommand, if_neg (by simp [(plain b List.mem_cons_self).1]),
      if_pos rfl, whole, splitCommand_inside rest_plain]

theorem joinWords_cons (w next : Text) (rest : List Text) :
    joinWords (w :: next :: rest) = w ++ 32 :: joinWords (next :: rest) := by
  rw [joinWords, List.intercalate_cons_cons, List.append_assoc]
  rfl

theorem splitCommand_joinWords {words : List Text} (proper : ∀ w ∈ words, Word w) :
    splitCommand true (joinWords words) = words := by
  induction words with
  | nil => rfl
  | cons w rest ih =>
    have word := proper w List.mem_cons_self
    have rest_proper := fun v inside => proper v (List.mem_cons_of_mem w inside)
    cases rest with
    | nil =>
      have alone : joinWords [w] = w ++ [] := rfl
      rw [alone, splitCommand_word word rfl]
      rfl
    | cons next rest =>
      have split : splitCommand false (32 :: joinWords (next :: rest)) =
        splitCommand true (joinWords (next :: rest)) := rfl
      rw [joinWords_cons, splitCommand_word word rfl, split, ih rest_proper]

/-- A line of words has neither a zero byte nor white space at its end. -/
theorem joinWords_ends {words : List Text} (proper : ∀ w ∈ words, Word w) (some : words ≠ []) :
    (∀ b ∈ joinWords words, b ≠ 0) ∧
      ∃ front last, joinWords words = front ++ [last] ∧ isSpace last = false := by
  induction words with
  | nil => exact absurd rfl some
  | cons w rest ih =>
    have word := proper w List.mem_cons_self
    cases rest with
    | nil =>
      have alone : joinWords [w] = w := List.append_nil w
      rw [alone]
      refine ⟨fun b inside => (word.2 b inside).2, w.dropLast, w.getLast word.1,
        (List.dropLast_append_getLast word.1).symm, (word.2 _ (List.getLast_mem word.1)).1⟩
    | cons next rest =>
      obtain ⟨clean, front, last, ends, plain⟩ :=
        ih (fun v inside => proper v (List.mem_cons_of_mem w inside)) (List.cons_ne_nil _ _)
      rw [joinWords_cons]
      refine ⟨fun b inside => ?_, w ++ 32 :: front, last, ?_, plain⟩
      · rcases List.mem_append.mp inside with here | behind
        · exact (word.2 b here).2
        · rcases List.mem_cons.mp behind with rfl | later
          · decide
          · exact clean b later
      · rw [ends, List.append_assoc, List.cons_append]

theorem arguments_joinWords {words : List Text} (proper : ∀ w ∈ words, Word w) :
    arguments (joinWords words) = words := by
  cases words with
  | nil => rfl
  | cons w rest =>
    obtain ⟨clean, front, last, ends, plain⟩ := joinWords_ends proper (List.cons_ne_nil w rest)
    have trimmed : (joinWords (w :: rest)).rdropWhile isSpace = joinWords (w :: rest) := by
      rw [ends, List.rdropWhile_concat_neg _ _ _ (by simp [plain])]
    have whole : cString (joinWords (w :: rest)) = joinWords (w :: rest) :=
      List.takeWhile_eq_self_iff.mpr fun b inside => decide_eq_true (clean b inside)
    rw [arguments, command, trimmed, whole, splitCommand_joinWords proper]

theorem mem_splitCommand {whiteSpace : Bool} {line w : Text}
    (inside : w ∈ splitCommand whiteSpace line) : ∀ b ∈ w, isSpace b = false ∧ b ∈ line := by
  induction line generalizing whiteSpace with
  | nil => exact absurd inside List.not_mem_nil
  | cons c rest ih =>
    have later : ∀ whiteSpace, w ∈ splitCommand whiteSpace rest →
        ∀ b ∈ w, isSpace b = false ∧ b ∈ c :: rest := fun _ there b written =>
      ⟨(ih there b written).1, List.mem_cons_of_mem c (ih there b written).2⟩
    unfold splitCommand at inside
    split at inside
    · exact later true inside
    rename_i plain
    split at inside
    · rcases List.mem_cons.mp inside with rfl | there
      · intro b written
        rcases List.mem_cons.mp written with rfl | written
        · exact ⟨Bool.eq_false_iff.mpr plain, List.mem_cons_self⟩
        · refine ⟨?_, List.mem_cons_of_mem c ((List.takeWhile_prefix _).subset written)⟩
          simpa using List.mem_takeWhile_imp written
      · exact later false there
    · exact later false inside

theorem word_arguments (line : Text) : ∀ w ∈ arguments line, Word w := by
  intro w inside
  refine ⟨splitCommand_proper true _ w inside, fun b written => ?_⟩
  obtain ⟨plain, there⟩ := mem_splitCommand inside b written
  have nonzero : decide (b ≠ 0) = true :=
    List.mem_takeWhile_imp (p := fun c : UInt8 => decide (c ≠ 0)) there
  exact ⟨plain, of_decide_eq_true nonzero⟩

/-! ### Numbers and addresses -/

theorem word_append {v w : Text} (first : Word v) (second : Word w) : Word (v ++ w) :=
  ⟨fun none => first.1 (List.append_eq_nil_iff.mp none).1, fun b inside =>
    (List.mem_append.mp inside).elim (first.2 b) (second.2 b)⟩

theorem ofInt_decimal (n : UInt32) : UInt32.ofInt (atoi (decimal n.toNat)) = n := by
  have bound := n.toNat_lt
  rw [atoi_digits fun _ => isDigit_decimal, leadingNumber_decimal]
  apply UInt32.toNat_inj.mp
  simp only [UInt32.ofInt, UInt32.toNat_ofNat', wrapInt, Int.bmod]
  split <;> omega

/-- inet_pton takes back what inet_ntop gives, which is one word without a slash or a bracket;
for IPv4 it has no colon and is no address of IPv6. -/
structure Readable (names : Names) (libc : Libc) (a : IpAddress) : Prop where
  known : a.family ≠ .unspec
  read : libc.readAddress a.family (names.inetNtop a).1 = a
  dotted : a.family = .inet → libc.inetPton .inet6 (names.inetNtop a).1 = none ∧
    58 ∉ (names.inetNtop a).1
  word : Word (names.inetNtop a).1
  plain : 47 ∉ (names.inetNtop a).1 ∧ 91 ∉ (names.inetNtop a).1

variable {names : Names} {libc : Libc} {a : IpAddress}

theorem Readable.text (readable : Readable names libc a) :
    addressText names a = (names.inetNtop a).1 := if_neg readable.known

theorem ipAddress_addressText (readable : Readable names libc a) :
    libc.ipAddress (addressText names a) = a := by
  obtain ⟨known, read, dotted, _, _, bracket⟩ := readable
  rw [addressText, if_neg known]
  generalize (names.inetNtop a).1 = text at read dotted bracket
  unfold Libc.ipAddress
  split
  · exact absurd List.mem_cons_self bracket
  · cases family : a.family with
    | unspec => exact absurd family known
    | inet6 =>
      rw [family] at read
      have accepted : (libc.inetPton .inet6 text).isSome := by
        cases got : libc.inetPton .inet6 text with
        | some data => rfl
        | none =>
          rw [Libc.readAddress, got] at read
          rw [← read] at known
          exact absurd rfl known
      rw [if_pos accepted, read]
    | inet =>
      obtain ⟨refused, colon⟩ := dotted family
      have host : text.takeWhile (· ≠ 58) = text :=
        List.takeWhile_eq_self_iff.mpr fun b inside => decide_eq_true fun same =>
          colon (same ▸ inside)
      rw [family] at read
      rw [refused, if_neg (by decide), host]
      dsimp only
      rw [if_neg (Nat.lt_irrefl _), read]

theorem ipSubnet_subnetText {subnet : IpSubnet} (readable : Readable names libc subnet.address) :
    libc.ipSubnet (subnetText names subnet) = subnet := by
  have slash : ∀ b ∈ addressText names subnet.address, decide (b ≠ 47) = true := by
    intro b inside
    rw [readable.text] at inside
    exact decide_eq_true fun same => readable.plain.1 (same ▸ inside)
  have front : (subnetText names subnet).takeWhile (· ≠ 47) = addressText names subnet.address := by
    rw [subnetText, List.append_assoc, List.takeWhile_append_of_pos slash]
    exact List.append_nil _
  have digits : (subnetText names subnet).drop ((addressText names subnet.address).length + 1) =
      decimal subnet.cidr.toNat :=
    List.drop_left' (by rw [List.length_append]; rfl)
  unfold Libc.ipSubnet
  dsimp only
  rw [front, digits, ipAddress_addressText readable, ofInt_decimal]
  rw [if_pos]
  rw [subnetText, List.length_append, List.length_append]
  have one : (ascii "/").length = 1 := by decide
  omega

/-! ### Commands -/

/-- `INTF VRID [ipv6]` -/
def routerWords (name : Text) (key : RouterKey) : List Text :=
  [name, decimal key.virtualRouterId.toNat] ++
    if key.family = .inet6 then [ascii "ipv6"] else []

def switchWord (enabled : Bool) : Text := ascii (if enabled then "on" else "off")

/-- The command for an event of the administrator. -/
def typing (names : Names) (name : Text) (key : RouterKey) : Event → List Text
  | .setPriority priority => setting [ascii "priority", decimal priority.toNat]
  | .setAdvertisementInterval n => setting [ascii "interval", decimal (n * 10)]
  | .setAcceptMode enabled => setting [ascii "accept", switchWord enabled]
  | .setPreemptMode enabled => setting [ascii "preempt", switchWord enabled]
  | .setPrimaryIpAddress address => setting [ascii "primary", addressText names address]
  | .setMasterCommand command => setting (ascii "master" :: ascii "command" :: arguments command)
  | .setBackupCommand command => setting (ascii "backup" :: ascii "command" :: arguments command)
  | .addIpAddress subnet =>
    ascii "add" :: ascii "address" :: (routerWords name key ++ [subnetText names subnet])
  | .enable _ => ascii "enable" :: ascii "router" :: routerWords name key
  | _ => []
where
  setting (words : List Text) : List Text :=
    ascii "set" :: ascii "router" :: (routerWords name key ++ words)

/-- `add router INTF VRID vlan VLAN [ipv6]` -/
def makingWords (name : Text) (key : RouterKey) (vlanId : UInt64) : List Text :=
  [ascii "add", ascii "router", name, decimal key.virtualRouterId.toNat, ascii "vlan",
    decimal vlanId.toNat] ++ if key.family = .inet6 then [ascii "ipv6"] else []

/-- The commands for a service: it is added and set up, and enabled if it was. -/
def retyping (names : Names) (s : VrrpService) : List (List Text) :=
  let name := ((names.indexToName s.interface).map (·.1)).getD []
  makingWords name s.key s.vlanId ::
    ((s.settings.setters s.subnets.toList ++ if s.enabled then [Event.enable true] else []).map
      (typing names name s.key))

/-- What the texts of a service must be for the words to be read back. -/
structure Legible (names : Names) (libc : Libc) (s : VrrpService) : Prop where
  name : ∃ name, names.indexToName s.interface = some name ∧
    libc.nameToIndex name.1 = s.interface ∧ Word name.1
  vlan : s.vlanId.toNat < 65536
  primary : s.autoPrimaryIpAddress = false → Readable names libc s.primaryIpAddress
  subnets : ∀ subnet ∈ s.subnets, Readable names libc subnet.address
  master : joinWords (arguments s.masterCommand) = s.masterCommand
  backup : joinWords (arguments s.backupCommand) = s.backupCommand

/-! ### One command -/

/-- The name and the router id lead to the key. -/
structure Leads (libc : Libc) (name : Text) (key : RouterKey) : Prop where
  index : libc.nameToIndex name = key.interface
  interface : 0 < key.interface
  router : key.virtualRouterId ≠ 0
  family : key.family ≠ .unspec

theorem router_typed {key : RouterKey} (router : key.virtualRouterId ≠ 0) :
    ∃ vrid : Int, atoi (decimal key.virtualRouterId.toNat) = vrid ∧ ¬ (vrid ≤ 0 ∨ 255 < vrid) ∧
      UInt8.ofInt vrid = key.virtualRouterId := by
  refine ⟨key.virtualRouterId.toNat, ?_, ?_, Configurator.ofInt_byte _⟩
  · exact atoi_decimal (key.virtualRouterId.toNat_lt.trans (by decide))
  · have := Configurator.byte_passes router
    omega

section Command
variable {kernel : Kernel} {m : VrrpManager} {key : RouterKey} {name : Text}

theorem family_typed (leads : Leads libc name key) (first second : Text) (rest : List Text)
    (plain : key.family = .inet → rest.head? ≠ some (ascii "ipv6")) :
    (if wordIs (first :: second :: (routerWords name key ++ rest)) 4 "ipv6"
      then Family.inet6 else .inet) = key.family := by
  cases same : key.family with
  | unspec => exact absurd same leads.family
  | inet6 => simp [routerWords, same, wordIs]
  | inet =>
    have other := plain same
    rw [List.head?_eq_getElem?] at other
    simp [routerWords, same, wordIs, other]

theorem getService_typed (leads : Leads libc name key) (stored : m.services[key]?.isSome)
    (first second : Text) (rest : List Text)
    (plain : key.family = .inet → rest.head? ≠ some (ascii "ipv6")) :
    getService libc kernel m (first :: second :: (routerWords name key ++ rest)) false =
      some (m, .ok key) := by
  obtain ⟨vrid, number, valid, byte⟩ := router_typed leads.router
  obtain ⟨t, there⟩ := Option.isSome_iff_exists.mp stored
  have found : m.getService kernel key 0 false = (m, some key) := by
    rw [VrrpManager.getService, there]
  have third : (first :: second :: (routerWords name key ++ rest))[2]? = some name := rfl
  have fourth : (first :: second :: (routerWords name key ++ rest))[3]? =
    some (decimal key.virtualRouterId.toNat) := rfl
  have same : RouterKey.mk (libc.nameToIndex name) (UInt8.ofInt vrid) key.family = key :=
    RouterKey.ext leads.index byte rfl
  have interface := leads.interface
  rw [getService, third, fourth]
  simp only [Option.bind_eq_bind, Option.bind_some, number]
  rw [if_neg (by rw [leads.index]; omega), if_neg valid]
  simp only [Bool.false_and, Bool.false_eq_true, if_false, family_typed leads _ _ _ plain, same,
    found]
  rfl

variable (kernel) in
theorem onService_typed (leads : Leads libc name key) {t : VrrpService}
    (stored : m.services[key]? = some t) (first second : Text) (rest : List Text)
    (plain : key.family = .inet → rest.head? ≠ some (ascii "ipv6"))
    (operation : VrrpService → VrrpService × List Text) :
    onService libc kernel m (first :: second :: (routerWords name key ++ rest)) operation =
      some (m.update key fun _ => (operation t).1, (operation t).2) := by
  rw [onService, getService_typed leads (stored ▸ rfl) first second rest plain]
  simp only [Option.bind_eq_bind, Option.bind_some]
  rw [stored]
  rfl

/-- The first word decides between the commands. -/
theorem wordIs_other {first name : String} (apart : ascii name ≠ ascii first) (rest : List Text) :
    wordIs (ascii first :: rest) 0 name = false :=
  beq_eq_false_iff_ne.mpr fun same => apart (Option.some.inj same).symm

theorem onCommand_set (words : List Text) :
    onCommand libc kernel m (ascii "set" :: ascii "router" :: words) =
      onSetRouterCommand libc kernel m (ascii "set" :: ascii "router" :: words) := by
  have add := wordIs_other (by decide : ascii "add" ≠ ascii "set") (ascii "router" :: words)
  have remove := wordIs_other (by decide : ascii "remove" ≠ ascii "set") (ascii "router" :: words)
  have set : wordIs (ascii "set" :: ascii "router" :: words) 0 "set" = true := beq_self_eq_true _
  have router : wordIs (ascii "set" :: ascii "router" :: words) 1 "router" = true :=
    beq_self_eq_true _
  rw [onCommand, add, remove, set]
  simp only [Bool.false_eq_true, if_false, if_true]
  rw [onSetCommand, if_pos router]

theorem onSetCommand_typed (leads : Leads libc name key) {t : VrrpService}
    (stored : m.services[key]? = some t) (keyed : t.key = key) {words : List Text}
    (plain : words.head? ≠ some (ascii "ipv6")) :
    onCommand libc kernel m
        (ascii "set" :: ascii "router" :: (routerWords name key ++ words)) =
      some (m.update key fun _ => (setRouter libc t words).1, (setRouter libc t words).2) := by
  have family : t.family = key.family := congrArg RouterKey.family keyed
  have behind : (ascii "set" :: ascii "router" :: (routerWords name key ++ words)).drop
      (if t.family = .inet6 then 5 else 4) = words := by
    rw [family, routerWords]
    split <;> rfl
  have service := onService_typed kernel leads stored (ascii "set") (ascii "router")
    words (fun _ => plain) fun service => setRouter libc service
      ((ascii "set" :: ascii "router" :: (routerWords name key ++ words)).drop
        (if service.family = .inet6 then 5 else 4))
  rw [behind] at service
  rw [onCommand_set, onSetRouterCommand, service]

end Command

/-! ### One setter -/

/-- A setter whose values can be typed, and are accepted by a service of the family. -/
def Typable (names : Names) (libc : Libc) (family : Family) : Event → Prop
  | .setPriority priority => priority ≠ 0
  | .setAdvertisementInterval n => 1 ≤ n ∧ n ≤ 4095
  | .setAcceptMode _ | .setPreemptMode _ => True
  | .setPrimaryIpAddress address => address.family = family ∧ Readable names libc address
  | .setMasterCommand command | .setBackupCommand command =>
    joinWords (arguments command) = command
  | .addIpAddress subnet => subnet.address.family = family ∧ Readable names libc subnet.address
  | _ => False

theorem switch_typed (enabled : Bool) : switch (switchWord enabled) = some enabled := by
  cases enabled <;> decide

theorem setPriority_typed (t : VrrpService) {priority : UInt8} (nonzero : priority ≠ 0) :
    (setPriority t (decimal priority.toNat)).1 = (t.step (.setPriority priority)).1 := by
  have number : atoi (decimal priority.toNat) = priority.toNat :=
    atoi_decimal (priority.toNat_lt.trans (by decide))
  rw [setPriority, number, if_neg (Configurator.byte_passes nonzero), Configurator.ofInt_byte]
  rfl

theorem setInterval_typed (t : VrrpService) {n : Nat} (positive : 1 ≤ n) (bounded : n ≤ 4095) :
    (setInterval t (decimal (n * 10))).1 = (t.step (.setAdvertisementInterval n)).1 := by
  have number : atoi (decimal (n * 10)) = ((n : Int) * 10) := by
    rw [atoi_decimal (by omega)]
    exact Int.natCast_mul n 10
  have same := Configurator.ofInt_interval ⟨n, positive, bounded⟩
  dsimp only at same
  rw [setInterval, number, if_neg (by rw [Int.mul_tmod_left]; omega), same]
  rfl

theorem setAccept_typed (t : VrrpService) (enabled : Bool) :
    (setAccept t (switchWord enabled)).1 = (t.step (.setAcceptMode enabled)).1 := by
  rw [setAccept, switch_typed]
  rfl

theorem setPreempt_typed (t : VrrpService) (enabled : Bool) :
    (setPreempt t (switchWord enabled)).1 = (t.step (.setPreemptMode enabled)).1 := by
  rw [setPreempt, switch_typed]
  rfl

theorem setPrimary_typed (t : VrrpService) {address : IpAddress}
    (family : address.family = t.family) (readable : Readable names libc address) :
    (setPrimary libc t (addressText names address)).1 =
      (t.step (.setPrimaryIpAddress address)).1 := by
  rw [setPrimary, ipAddress_addressText readable, if_neg (not_not.mpr family)]
  rfl

section Setter
variable {kernel : Kernel} {m : VrrpManager} {key : RouterKey} {name : Text} {t : VrrpService}

theorem onCommand_address (words : List Text) :
    onCommand libc kernel m (ascii "add" :: ascii "address" :: words) =
      onAddAddressCommand libc kernel m (ascii "add" :: ascii "address" :: words) := by
  have add : wordIs (ascii "add" :: ascii "address" :: words) 0 "add" = true := beq_self_eq_true _
  have router : wordIs (ascii "add" :: ascii "address" :: words) 1 "router" = false := by
    change (some (ascii "address") == some (ascii "router")) = false
    decide
  have address : wordIs (ascii "add" :: ascii "address" :: words) 1 "address" = true :=
    beq_self_eq_true _
  rw [onCommand, if_pos add, onAddCommand, if_neg (by rw [router]; decide), if_pos address]

theorem onAddAddressCommand_typed (leads : Leads libc name key)
    (stored : m.services[key]? = some t) {subnet : IpSubnet}
    (family : subnet.address.family = key.family) (readable : Readable names libc subnet.address) :
    onCommand libc kernel m
        (ascii "add" :: ascii "address" :: (routerWords name key ++ [subnetText names subnet])) =
      some (m.update key fun _ => (t.addIpAddress subnet).1, []) := by
  have slash : subnetText names subnet ≠ ascii "ipv6" := by
    intro same
    have inside : (47 : UInt8) ∈ subnetText names subnet :=
      List.mem_append_left _ (List.mem_append_right _ (List.mem_singleton_self _))
    rw [same] at inside
    exact absurd inside (by decide)
  have plain : key.family = .inet → [subnetText names subnet].head? ≠ some (ascii "ipv6") :=
    fun _ same => slash (Option.some.inj same)
  rw [onCommand_address, onAddAddressCommand]
  unfold onAddressCommand
  dsimp only
  rw [family_typed leads _ _ _ plain]
  have place : ∃ place, (if wordIs (ascii "add" :: ascii "address" :: (routerWords name key ++
      [subnetText names subnet])) 4 "ipv6" then 5 else 4) = place ∧
      (ascii "add" :: ascii "address" :: (routerWords name key ++
        [subnetText names subnet])).length = place + 1 ∧
      (ascii "add" :: ascii "address" :: (routerWords name key ++
        [subnetText names subnet]))[place]? = some (subnetText names subnet) := by
    by_cases ipv6 : key.family = .inet6
    · exact ⟨5, by simp [routerWords, ipv6, wordIs], by simp [routerWords, ipv6],
        by simp [routerWords, ipv6]⟩
    · exact ⟨4, by simp [routerWords, ipv6, wordIs, slash], by simp [routerWords, ipv6],
        by simp [routerWords, ipv6]⟩
  obtain ⟨place, same, length, found⟩ := place
  rw [same, if_pos length, found]
  simp only [Option.bind_eq_bind, Option.bind_some, ipSubnet_subnetText readable]
  rw [if_neg (not_not.mpr family), onService_typed kernel leads stored _ _ _ plain]

theorem setter_typed (leads : Leads libc name key) (stored : m.services[key]? = some t)
    (keyed : t.key = key) {e : Event} (typable : Typable names libc key.family e) :
    (onCommand libc kernel m (typing names name key e)).map Prod.fst =
      some (m.update key fun s => (s.step e).1) := by
  have family : t.family = key.family := congrArg RouterKey.family keyed
  have becomes : ∀ u : VrrpService, u = (t.step e).1 →
      m.update key (fun _ => u) = m.update key fun s => (s.step e).1 := by
    rintro u rfl
    rw [VrrpManager.update, VrrpManager.update, stored]
  have sets : ∀ (first : Text) (rest : List Text), first ≠ ascii "ipv6" →
      (setRouter libc t (first :: rest)).1 = (t.step e).1 →
      (onCommand libc kernel m (typing.setting name key (first :: rest))).map Prod.fst =
        some (m.update key fun s => (s.step e).1) := by
    intro first rest plain same
    have head : (first :: rest).head? ≠ some (ascii "ipv6") := fun ipv6 =>
      plain (Option.some.inj ipv6)
    rw [typing.setting, onSetCommand_typed leads stored keyed head, Option.map_some, becomes _ same]
  cases e with
  | setPriority priority => exact sets _ _ (by decide) (setPriority_typed t typable)
  | setAdvertisementInterval n =>
    exact sets _ _ (by decide) (setInterval_typed t typable.1 typable.2)
  | setAcceptMode enabled => exact sets _ _ (by decide) (setAccept_typed t enabled)
  | setPreemptMode enabled => exact sets _ _ (by decide) (setPreempt_typed t enabled)
  | setPrimaryIpAddress address =>
    exact sets _ _ (by decide) (setPrimary_typed t (typable.1.trans family.symm) typable.2)
  | setMasterCommand command => exact sets _ _ (by decide) (congrArg t.setMasterCommand typable)
  | setBackupCommand command => exact sets _ _ (by decide) (congrArg t.setBackupCommand typable)
  | addIpAddress subnet =>
    rw [typing, onAddAddressCommand_typed leads stored typable.1 typable.2, Option.map_some]
    exact congrArg some (becomes _ rfl)
  | _ => exact typable.elim

end Setter

/-! ### The other commands -/

section Router
variable {kernel : Kernel} {m : VrrpManager} {key : RouterKey} {name : Text}

theorem making_family (leads : Leads libc name key) (vlanId : UInt64) :
    (if wordIs (makingWords name key vlanId) 6 "ipv6" then Family.inet6 else .inet) =
      key.family := by
  cases same : key.family with
  | unspec => exact absurd same leads.family
  | inet6 => simp [makingWords, same, wordIs]
  | inet => simp [makingWords, same, wordIs]

theorem getService_making (leads : Leads libc name key) (absent : m.services[key]? = none)
    {vlanId : UInt64} (small : vlanId.toNat < 65536) {made : VrrpService}
    (created : VrrpService.construct key.interface key.family key.virtualRouterId vlanId
      (kernel.creation key vlanId) = some made) :
    getService libc kernel m (makingWords name key vlanId) true =
      some (⟨m.services.insert key made⟩, .ok key) := by
  obtain ⟨vrid, number, valid, byte⟩ := router_typed leads.router
  have vlan : UInt64.ofInt (atoi (decimal vlanId.toNat)) = vlanId := by
    rw [atoi_decimal (by omega)]
    apply UInt64.toNat_inj.mp
    simp only [UInt64.ofInt, UInt64.toNat_ofNat']
    omega
  have got : m.getService kernel key vlanId true = (⟨m.services.insert key made⟩, some key) :=
    VrrpManager.getService_creates absent created
  have same : RouterKey.mk (libc.nameToIndex name) (UInt8.ofInt vrid) key.family = key :=
    RouterKey.ext leads.index byte rfl
  have interface := leads.interface
  have third : (makingWords name key vlanId)[2]? = some name := rfl
  have fourth : (makingWords name key vlanId)[3]? = some (decimal key.virtualRouterId.toNat) := rfl
  have sixth : (makingWords name key vlanId)[5]?.getD [] = decimal vlanId.toNat := rfl
  have long : decide (6 ≤ (makingWords name key vlanId).length) = true :=
    decide_eq_true (by simp [makingWords])
  have tagged : wordIs (makingWords name key vlanId) 4 "vlan" = true := beq_self_eq_true _
  rw [getService, third, fourth]
  simp only [Option.bind_eq_bind, Option.bind_some, number]
  rw [if_neg (by rw [leads.index]; omega), if_neg valid]
  simp only [long, tagged, Bool.and_self, if_true, making_family leads, same, sixth, vlan, got]
  rfl

theorem making_typed (leads : Leads libc name key) (absent : m.services[key]? = none)
    {vlanId : UInt64} (small : vlanId.toNat < 65536) {made : VrrpService}
    (created : VrrpService.construct key.interface key.family key.virtualRouterId vlanId
      (kernel.creation key vlanId) = some made) :
    onCommand libc kernel m (makingWords name key vlanId) =
      some (⟨m.services.insert key made⟩, []) := by
  have add : wordIs (makingWords name key vlanId) 0 "add" = true := beq_self_eq_true _
  have router : wordIs (makingWords name key vlanId) 1 "router" = true := beq_self_eq_true _
  have complete : ((makingWords name key vlanId).length == 4 ||
      (makingWords name key vlanId).length == 5 && wordIs (makingWords name key vlanId) 4 "ipv6" ||
      (makingWords name key vlanId).length == 6 && wordIs (makingWords name key vlanId) 4 "vlan" ||
      (makingWords name key vlanId).length == 7 && wordIs (makingWords name key vlanId) 4 "vlan" &&
        wordIs (makingWords name key vlanId) 6 "ipv6") = true := by
    by_cases ipv6 : key.family = .inet6 <;> simp [makingWords, ipv6, wordIs]
  rw [onCommand, if_pos add, onAddCommand, if_pos router, onAddRouterCommand, if_pos complete,
    getService_making leads absent small created]
  rfl

theorem onCommand_enable (words : List Text) (whole : 2 ≤ words.length) :
    onCommand libc kernel m (ascii "enable" :: ascii "router" :: words) =
      onService libc kernel m (ascii "enable" :: ascii "router" :: words) fun service =>
        ((service.enable (kernel.isInterfaceUp service.interface)).1, []) := by
  have add := wordIs_other (by decide : ascii "add" ≠ ascii "enable") (ascii "router" :: words)
  have remove := wordIs_other (by decide : ascii "remove" ≠ ascii "enable")
    (ascii "router" :: words)
  have set := wordIs_other (by decide : ascii "set" ≠ ascii "enable") (ascii "router" :: words)
  have enable : wordIs (ascii "enable" :: ascii "router" :: words) 0 "enable" = true :=
    beq_self_eq_true _
  rw [onCommand, add, remove, set, enable]
  simp only [Bool.false_eq_true, if_false, if_true]
  rw [onEnableCommand, if_neg (by simp only [List.length_cons]; omega)]

theorem enable_typed (leads : Leads libc name key) {t : VrrpService}
    (stored : m.services[key]? = some t) :
    onCommand libc kernel m (typing names name key (.enable true)) =
      some (m.update key fun _ => (t.enable (kernel.isInterfaceUp t.interface)).1, []) := by
  have service := onService_typed kernel leads stored (ascii "enable") (ascii "router")
    [] (fun _ none => by cases none) fun service =>
      ((service.enable (kernel.isInterfaceUp service.interface)).1, [])
  rw [List.append_nil] at service
  rw [typing, onCommand_enable, service]
  rw [routerWords, List.length_append]
  exact Nat.le_add_right ..

end Router

/-- A line of the words has the effect of its command. -/
theorem input_typed {kernel : Kernel} {m : VrrpManager} {words : List Text}
    (proper : ∀ w ∈ words, Word w) {first : Text} (starts : words.head? = some first)
    (stays : first ≠ ascii "exit") :
    m.input libc (.line kernel (joinWords words)) =
      (onCommand libc kernel m words).map Prod.fst := by
  have same := arguments_joinWords proper
  have some : words.length ≠ 0 := by
    intro none
    rw [List.eq_nil_of_length_eq_zero none] at starts
    cases starts
  have exit : isExit (joinWords words) = false := by
    rw [isExit, same, starts]
    exact beq_eq_false_iff_ne.mpr fun same => stays (Option.some.inj same)
  rw [VrrpManager.input, same, exit, if_neg (by simp [some])]

/-! ### The words of a service -/

section Service
variable {kernel : Kernel} {m : VrrpManager} {key : RouterKey} {name : Text}

/-- The words that stand for themselves in the commands. -/
def keywords : List String :=
  ["add", "set", "enable", "router", "address", "vlan", "ipv6", "priority", "interval", "accept",
    "preempt", "on", "off", "primary", "master", "backup", "command", "/"]

theorem word_keyword : ∀ name ∈ keywords, Word (ascii name) := by decide +kernel

theorem word_command (first second : String) (known : first ∈ keywords) (also : second ∈ keywords)
    {rest : List Text} (proper : ∀ w ∈ rest, Word w) :
    ∀ w ∈ ascii first :: ascii second :: rest, Word w := by
  intro w inside
  rcases List.mem_cons.mp inside with rfl | inside
  · exact word_keyword first known
  rcases List.mem_cons.mp inside with rfl | inside
  · exact word_keyword second also
  · exact proper w inside

theorem word_routerWords (named : Word name) (key : RouterKey) :
    ∀ w ∈ routerWords name key, Word w := by
  intro w inside
  rcases List.mem_append.mp inside with front | family
  · rcases List.mem_pair.mp front with rfl | rfl
    · exact named
    · exact word_decimal _
  · split at family
    · rw [List.mem_singleton.mp family]
      exact word_keyword "ipv6" (by simp [keywords])
    · exact absurd family List.not_mem_nil

theorem word_making (named : Word name) (key : RouterKey) (vlanId : UInt64) :
    ∀ w ∈ makingWords name key vlanId, Word w := by
  intro w inside
  rcases List.mem_append.mp inside with front | family
  · simp only [List.mem_cons, List.not_mem_nil, or_false] at front
    rcases front with rfl | rfl | rfl | rfl | rfl | rfl
    · exact word_keyword "add" (by simp [keywords])
    · exact word_keyword "router" (by simp [keywords])
    · exact named
    · exact word_decimal _
    · exact word_keyword "vlan" (by simp [keywords])
    · exact word_decimal _
  · split at family
    · rw [List.mem_singleton.mp family]
      exact word_keyword "ipv6" (by simp [keywords])
    · exact absurd family List.not_mem_nil

theorem word_subnetText {subnet : IpSubnet} (readable : Readable names libc subnet.address) :
    Word (subnetText names subnet) := by
  have address : Word (addressText names subnet.address) := readable.text ▸ readable.word
  have slash := word_keyword "/" (by simp [keywords])
  exact word_append (word_append address slash) (word_decimal _)

theorem word_switch (enabled : Bool) : Word (switchWord enabled) := by
  cases enabled with
  | false => exact word_keyword "off" (by simp [keywords])
  | true => exact word_keyword "on" (by simp [keywords])

theorem word_setting (named : Word name) (key : RouterKey) {words : List Text}
    (proper : ∀ w ∈ words, Word w) : ∀ w ∈ typing.setting name key words, Word w := by
  have behind : ∀ w ∈ routerWords name key ++ words, Word w :=
    List.forall_mem_append.mpr ⟨word_routerWords named key, proper⟩
  exact word_command "set" "router" (by simp [keywords]) (by simp [keywords]) behind

theorem word_typing (named : Word name) {family : Family} {e : Event}
    (typable : Typable names libc family e) : ∀ w ∈ typing names name key e, Word w := by
  have pair : ∀ name ∈ keywords, ∀ {w : Text}, Word w → ∀ u ∈ [ascii name, w], Word u := by
    intro name known w second u inside
    rcases List.mem_pair.mp inside with rfl | rfl
    · exact word_keyword name known
    · exact second
  have command : ∀ name ∈ keywords, ∀ text : Text,
      ∀ u ∈ ascii name :: ascii "command" :: arguments text, Word u := by
    intro name known text
    exact word_command name "command" known (by simp [keywords]) (word_arguments text)
  cases e with
  | setPriority priority =>
    exact word_setting named key (pair "priority" (by simp [keywords]) (word_decimal _))
  | setAdvertisementInterval n =>
    exact word_setting named key (pair "interval" (by simp [keywords]) (word_decimal _))
  | setAcceptMode enabled =>
    exact word_setting named key (pair "accept" (by simp [keywords]) (word_switch enabled))
  | setPreemptMode enabled =>
    exact word_setting named key (pair "preempt" (by simp [keywords]) (word_switch enabled))
  | setPrimaryIpAddress address =>
    have written : Word (addressText names address) := typable.2.text ▸ typable.2.word
    exact word_setting named key (pair "primary" (by simp [keywords]) written)
  | setMasterCommand text =>
    exact word_setting named key (command "master" (by simp [keywords]) text)
  | setBackupCommand text =>
    exact word_setting named key (command "backup" (by simp [keywords]) text)
  | addIpAddress subnet =>
    have written : ∀ w ∈ [subnetText names subnet], Word w := by
      intro w inside
      rw [List.mem_singleton.mp inside]
      exact word_subnetText typable.2
    have behind : ∀ w ∈ routerWords name key ++ [subnetText names subnet], Word w :=
      List.forall_mem_append.mpr ⟨word_routerWords named key, written⟩
    exact word_command "add" "address" (by simp [keywords]) (by simp [keywords]) behind
  | _ => exact typable.elim

/-! ### One line -/

theorem making_line (leads : Leads libc name key) (named : Word name)
    (absent : m.services[key]? = none) {vlanId : UInt64} (small : vlanId.toNat < 65536)
    {made : VrrpService}
    (created : VrrpService.construct key.interface key.family key.virtualRouterId vlanId
      (kernel.creation key vlanId) = some made) :
    m.input libc (.line kernel (joinWords (makingWords name key vlanId))) =
      some ⟨m.services.insert key made⟩ := by
  rw [input_typed (word_making named key vlanId) rfl (by decide),
    making_typed leads absent small created]
  rfl

theorem setter_line (leads : Leads libc name key) (named : Word name) {t : VrrpService}
    (stored : m.services[key]? = some t) (keyed : t.key = key) {e : Event}
    (typable : Typable names libc key.family e) :
    m.input libc (.line kernel (joinWords (typing names name key e))) =
      some (m.update key fun s => (s.step e).1) := by
  rw [← setter_typed leads stored keyed typable]
  cases e with
  | addIpAddress | setPriority | setAdvertisementInterval | setAcceptMode | setPreemptMode
  | setPrimaryIpAddress | setMasterCommand | setBackupCommand =>
    exact input_typed (word_typing named typable) rfl (by decide)
  | _ => exact typable.elim

theorem enable_line (leads : Leads libc name key) (named : Word name) {t : VrrpService}
    (stored : m.services[key]? = some t) :
    m.input libc (.line kernel (joinWords (typing names name key (.enable true)))) =
      some (m.update key fun _ => (t.enable (kernel.isInterfaceUp t.interface)).1) := by
  have proper : ∀ w ∈ typing names name key (.enable true), Word w :=
    word_command "enable" "router" (by simp [keywords]) (by simp [keywords])
      (word_routerWords named key)
  rw [input_typed proper rfl (by decide), enable_typed leads stored]
  rfl

end Service

/-! ### Many lines -/

def lines (libc : Libc) (kernel : Kernel) (m : VrrpManager) (words : List (List Text)) :
    Option VrrpManager :=
  words.foldlM (fun m words => m.input libc (.line kernel (joinWords words))) m

/-- Only the service under the key is another one. -/
def Holds (m n : VrrpManager) (key : RouterKey) (s : VrrpService) : Prop :=
  ∀ place, n.services[place]? = if key = place then some s else m.services[place]?

section Lines
variable {kernel : Kernel} {m n : VrrpManager} {key : RouterKey} {name : Text}
  {s t : VrrpService}

theorem Holds.stored (holds : Holds m n key t) : n.services[key]? = some t :=
  (holds key).trans (if_pos rfl)

theorem Holds.update (holds : Holds m n key t) (operation : VrrpService → VrrpService) :
    Holds m (n.update key operation) key (operation t) := by
  intro place
  rw [VrrpManager.update_services]
  split
  · rename_i here
    rw [← here, holds.stored]
    rfl
  · rename_i other
    rw [holds place, if_neg other]

variable (kernel) in
theorem setters_typed (leads : Leads libc name key) (named : Word name) (keyed : t.key = key)
    {events : List Event} (typable : ∀ e ∈ events, Typable names libc key.family e)
    (holds : Holds m n key t) :
    ∃ u, lines libc kernel n (events.map (typing names name key)) = some u ∧
      Holds m u key (events.foldl (fun s e => (s.step e).1) t) := by
  induction events generalizing n t with
  | nil => exact ⟨n, rfl, holds⟩
  | cons e rest ih =>
    have can := typable e List.mem_cons_self
    obtain ⟨u, typed, held⟩ := ih ((t.step_key e).trans keyed)
      (fun e inside => typable e (List.mem_cons_of_mem _ inside))
      (holds.update fun s => (s.step e).1)
    refine ⟨u, ?_, held⟩
    rw [lines, List.map_cons, List.foldlM_cons, setter_line leads named holds.stored keyed can]
    exact typed

theorem holds_insert (m : VrrpManager) (key : RouterKey) (s : VrrpService) :
    Holds m ⟨m.services.insert key s⟩ key s := by
  intro place
  by_cases here : key = place
  · rw [if_pos here, ← here, Nested.insert_self]
  · rw [if_neg here, Nested.insert_other _ _ here]

/-- A new service that is set up like the one that was shown. -/
theorem setters_configuration {made : VrrpService} (administered : Administered libc s)
    {kernel : Kernel} (created : VrrpService.construct s.interface s.family s.virtualRouterId
      s.vlanId (kernel.creation s.key s.vlanId) = some made) :
    let t := (s.settings.setters s.subnets.toList).foldl (fun s e => (s.step e).1) made
    t.settings = s.settings ∧ t.state = .disabled := by
  have keyed : made.key = s.key := VrrpService.construct_key created
  have family : made.family = s.family := congrArg RouterKey.family keyed
  constructor
  · rw [VrrpService.run_settings, family, VrrpService.construct_settings created]
    exact Settings.setters_replay administered.settings s.priority.2
      s.advertisementInterval.positive s.advertisementInterval.bounded rfl
  · rw [VrrpService.setters_state _ _ (Settings.setters_setter _ _),
      VrrpService.construct_disabled created]

theorem typable_setters (administered : Administered libc s) (legible : Legible names libc s) :
    ∀ e ∈ s.settings.setters s.subnets.toList, Typable names libc s.family e := by
  have interval := s.advertisementInterval
  intro e inside
  simp only [Settings.setters, List.mem_append, List.mem_cons, List.not_mem_nil, or_false,
    List.mem_map] at inside
  rcases inside with (rfl | rfl | rfl | rfl) | ⟨a, forced, rfl⟩ | (rfl | rfl) | ⟨subnet, there, rfl⟩
  · exact s.priority.2
  · exact ⟨s.advertisementInterval.positive, s.advertisementInterval.bounded⟩
  · exact trivial
  · exact trivial
  · have primary : s.settings.primaryIpAddress = some a := Option.mem_toList.mp forced
    refine ⟨administered.settings.primary a primary, ?_⟩
    cases auto : s.autoPrimaryIpAddress with
    | true => simp [VrrpService.settings, auto] at primary
    | false =>
      have same : s.primaryIpAddress = a := by simpa [VrrpService.settings, auto] using primary
      exact same ▸ legible.primary auto
  · exact legible.master
  · exact legible.backup
  · have member := Std.TreeSet.mem_toList.mp there
    exact ⟨administered.settings.subnets subnet (List.mem_toFinset.mpr there),
      legible.subnets subnet member⟩

/-- The service that the commands make has the configuration of the one that was shown. -/
theorem retyping_typed (administered : Administered libc s) (legible : Legible names libc s)
    (succeeds : Configurator.Creates kernel s) (absent : m.services[s.key]? = none) :
    ∃ n u, lines libc kernel m (retyping names s) = some n ∧ Holds m n s.key u ∧
      u.configuration = s.configuration := by
  obtain ⟨name, printed, index, named⟩ := legible.name
  obtain ⟨made, created⟩ := Option.isSome_iff_exists.mp succeeds
  have leads : Leads libc name.1 s.key :=
    ⟨index, administered.interface, administered.router, administered.family⟩
  have making := making_line leads named absent legible.vlan created
  obtain ⟨n, typed, holds⟩ := setters_typed kernel leads named
    (VrrpService.construct_key created) (typable_setters administered legible)
    (holds_insert m s.key made)
  obtain ⟨settings, disabled⟩ := setters_configuration administered created
  have words : lines libc kernel m (retyping names s) =
      (lines libc kernel n ((if s.enabled then [Event.enable true] else []).map
        (typing names name.1 s.key))) := by
    rw [retyping, printed]
    simp only [Option.map_some, Option.getD_some, lines, List.foldlM_cons, making, List.map_append,
      List.foldlM_append]
    exact congrArg (Option.bind · _) typed
  generalize (s.settings.setters s.subnets.toList).foldl (fun s e => (s.step e).1) made = t
    at holds settings disabled
  rw [words]
  cases enabled : s.enabled with
  | false =>
    refine ⟨n, t, rfl, holds, Configuration.ext settings ?_⟩
    have same : t.enabled = s.enabled := by
      rw [enabled, VrrpService.enabled, disabled]
      rfl
    exact same
  | true =>
    have typed : lines libc kernel n ([Event.enable true].map (typing names name.1 s.key)) =
        some (n.update s.key fun _ => (t.enable (kernel.isInterfaceUp t.interface)).1) := by
      rw [lines, List.map_cons, List.map_nil, List.foldlM_cons,
        enable_line leads named holds.stored]
      rfl
    refine ⟨_, _, typed, holds.update _, Configuration.ext ?_ ?_⟩
    · exact (VrrpService.step_settings _ (.enable _)).trans settings
    · exact (VrrpService.enable_enabled _ _).trans enabled.symm

theorem lines_append (libc : Libc) (kernel : Kernel) (m : VrrpManager)
    (first second : List (List Text)) :
    lines libc kernel m (first ++ second) =
      (lines libc kernel m first).bind fun n => lines libc kernel n second := List.foldlM_append

/-- One service after the other, as long as their keys differ. -/
theorem retyping_all {services : List VrrpService}
    (administered : ∀ s ∈ services, Administered libc s)
    (legible : ∀ s ∈ services, Legible names libc s)
    (succeeds : ∀ s ∈ services, Configurator.Creates kernel s)
    (distinct : services.Pairwise fun s t => s.key ≠ t.key)
    (absent : ∀ s ∈ services, m.services[s.key]? = none) :
    ∃ n, lines libc kernel m (services.flatMap (retyping names)) = some n ∧
      ∀ key, n.configuration key =
        ((services.find? fun s => s.key = key).map VrrpService.configuration).or
          (m.configuration key) := by
  induction services generalizing m with
  | nil => exact ⟨m, rfl, fun _ => rfl⟩
  | cons s rest ih =>
    obtain ⟨others, distinct⟩ := List.pairwise_cons.mp distinct
    obtain ⟨n, u, typed, holds, same⟩ := retyping_typed (administered s List.mem_cons_self)
      (legible s List.mem_cons_self) (succeeds s List.mem_cons_self) (absent s List.mem_cons_self)
    obtain ⟨v, remaining, result⟩ := ih (m := n)
      (fun t inside => administered t (List.mem_cons_of_mem s inside))
      (fun t inside => legible t (List.mem_cons_of_mem s inside))
      (fun t inside => succeeds t (List.mem_cons_of_mem s inside)) distinct fun t inside => by
        rw [holds t.key, if_neg (others t inside)]
        exact absent t (List.mem_cons_of_mem s inside)
    refine ⟨v, ?_, fun key => ?_⟩
    · rw [List.flatMap_cons, lines_append, typed]
      exact remaining
    · rw [result key, VrrpManager.configuration, holds key]
      by_cases here : s.key = key
      · have unique : (rest.find? fun s => s.key = key) = none :=
          List.find?_eq_none.mpr fun t inside => by
            simpa [← here] using (others t inside).symm
        rw [unique, if_pos here, List.find?_cons_of_pos (by simpa using here), Option.map_some,
          same]
        rfl
      · rw [if_neg here, List.find?_cons_of_neg (by simpa using here)]
        rfl

end Lines

def shownLines : List Happening :=
  [ascii "add router eth0 51", ascii "set router eth0 51 master command logger up",
    ascii "add address eth0 51 192.0.2.9/24", ascii "enable router eth0 51"].map fun line =>
      .input (.line .sample line)

def shownDaemon : VrrpManager := (VrrpManager.history .sample shownLines).getD .empty

theorem readable_sample :
    Readable .sample .sample ⟨.inet, [192, 0, 2, 9], rfl⟩ where
  known := by decide
  read := by decide +kernel
  dotted := by decide +kernel
  word := by decide +kernel
  plain := by decide +kernel

theorem legible_sample {m : VrrpManager} (shape : ∀ s ∈ Configurator.services m,
    s.interface = 2 ∧ s.vlanId = 0 ∧ s.autoPrimaryIpAddress = true ∧
      s.subnets.toList = [⟨⟨.inet, [192, 0, 2, 9], rfl⟩, 24⟩] ∧
      s.masterCommand = ascii "logger up" ∧ s.backupCommand = []) :
    m.Each fun _ s => Legible .sample .sample s := by
  intro key s stored
  have texts : Word (ascii "eth0") ∧
      joinWords (arguments (ascii "logger up")) = ascii "logger up" := by decide +kernel
  obtain ⟨interface, vlan, auto, subnets, master, backup⟩ :=
    shape s (Configurator.mem_services.mpr ⟨key, stored⟩)
  refine ⟨⟨⟨ascii "eth0", by decide⟩, ?_, ?_, texts.1⟩, ?_, fun forced => ?_,
    fun subnet inside => ?_, ?_, ?_⟩
  · rw [interface]
    rfl
  · rw [interface]
    rfl
  · rw [vlan]
    decide
  · cases auto.symm.trans forced
  · have there := Std.TreeSet.mem_toList.mpr inside
    rw [subnets, List.mem_singleton] at there
    rw [there]
    exact readable_sample
  · rw [master]
    exact texts.2
  · rw [backup]
    rfl

end TelnetSession

end OpenVrrp
