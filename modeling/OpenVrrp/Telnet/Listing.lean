import OpenVrrp.Manager.ServiceMap
import OpenVrrp.Telnet.Accesses

/-! What `show router` lists. The address family starts as AF_INET, so the word `ipv6` is never
recognised, and the loops through the services do not look at it. -/
namespace OpenVrrp.TelnetSession

open Enumerates (under nest Before Ascending ascending_toList ascending_under ascending_nest)

open Reads (Selection)

variable {ι : Type}

/-- A service on display, with showRouterStats or with showRouter. -/
structure Shown (ι : Type) where
  place : Slot
  service : ι
  stats : Bool

def startsWithDigit (word : Text) : Bool := word.head?.elim false isDigit

section Model
variable (libc : Libc)

/-- The loop over the words behind `show router`. -/
def select : List Text → Selection → Except Text Selection
  | [], s => .ok s
  | word :: rest, s =>
    if word = ascii "stats" then .ok { s with stats := true }
    else if s.family = .unspec ∧ word = ascii "ipv6" then
      let interface := if s.interface = -1 then 0 else s.interface
      let vrid := if s.vrid = -1 then 0 else s.vrid
      select rest ⟨interface, vrid, .inet6, s.stats⟩
    else if s.vrid = -1 ∧ startsWithDigit word = true then
      let vrid := atoi word
      if vrid ≤ 0 ∨ 255 < vrid then .error Resp.invalidRouterId
      else
        let interface := if s.interface = -1 then 0 else s.interface
        select rest { s with interface := interface, vrid := vrid }
    else if s.interface = -1 then
      let interface := libc.nameToIndex word
      if interface ≤ 0 then .error Resp.noSuchInterface
      else select rest { s with interface := interface }
    else select rest s

def unselected : Selection := ⟨-1, -1, .inet, false⟩

def Reads.Selection.completed (s : Selection) : Selection :=
  { s with
    interface := if s.interface = -1 then 0 else s.interface
    vrid := if s.vrid = -1 then 0 else s.vrid }

/-- The loops through the services of one interface. -/
def showInterface (interfaceServices : Std.TreeMap UInt8 (Std.TreeMap Int ι)) (vrid : Int) :
    List ((UInt8 × Int) × ι) :=
  if vrid = 0 then nest interfaceServices.toList Std.TreeMap.toList
  else
    match interfaceServices[UInt8.ofInt vrid]? with
    | none => []
    | some services => under (UInt8.ofInt vrid) services.toList

def showServices (services : ServiceMap ι) (s : Selection) : List (Slot × ι) :=
  if 0 < s.interface then
    match services[s.interface]? with
    | none => []
    | some interfaceServices => under s.interface (showInterface interfaceServices s.vrid)
  else nest services.toList fun interfaceServices => showInterface interfaceServices s.vrid

def onShowRouterCommand (services : ServiceMap ι) (argv : List Text) :
    Except Text (List (Shown ι)) :=
  match select libc (argv.drop 2) unselected with
  | .error response => .error response
  | .ok s => .ok ((showServices services s.completed).map fun e => ⟨e.1, e.2, s.stats⟩)

end Model

variable {libc : Libc}

theorem both_value (guard : Bool) (test : Reading Bool) :
    (Reads.both guard test).value = (guard && test.value) := by cases guard <;> rfl

theorem selectRouters_value (argv : List Text) {count i : Nat} (inside : i + count = argv.length)
    (s : Selection) :
    (Reads.selectRouters libc argv count i s).value = select libc (argv.drop i) s := by
  induction count generalizing i s with
  | zero => rw [List.drop_eq_nil_of_le (by omega)]; rfl
  | succ count ih =>
    have here : i < argv.length := by omega
    have word : (Reads.word argv i).value = argv[i] := by simp [Reads.word, here]
    have next : i + 1 + count = argv.length := by omega
    rw [List.drop_eq_getElem_cons here, select, Reads.selectRouters]
    simp only [Reading.bind_value, Reading.map_value, both_value, Reads.same, word,
      Reads.startsWithDigit, apply_ite Reading.value, Reading.pure_value, ih next,
      startsWithDigit, Bool.and_eq_true, beq_iff_eq]

/-- The loop is the one that reads its words by index. -/
theorem onShowRouterCommand_value (argv : List Text) :
    (Reads.onShowRouterCommand libc argv).value = select libc (argv.drop 2) unselected := by
  by_cases long : 2 ≤ argv.length
  · exact selectRouters_value argv (by omega) unselected
  · rw [Reads.onShowRouterCommand, List.drop_eq_nil_of_le (by omega),
      Nat.sub_eq_zero_of_le (by omega)]
    rfl

/-! ### The loops -/

theorem enumerates_showInterface (interfaceServices : Std.TreeMap UInt8 (Std.TreeMap Int ι))
    (vrid : Int) :
    Enumerates (showInterface interfaceServices vrid) fun p =>
      if vrid ≠ 0 → p.1 = UInt8.ofInt vrid then
        interfaceServices[p.1]?.bind fun services => services[p.2]?
      else none := by
  unfold showInterface
  by_cases all : vrid = 0
  · rw [if_pos all]
    apply ((Enumerates.toList interfaceServices).nested Enumerates.toList).congr
    intro p
    rw [if_pos fun one => absurd all one]
  · rw [if_neg all]
    cases found : interfaceServices[UInt8.ofInt vrid]? with
    | none =>
      apply Enumerates.empty.congr
      intro p
      split
      · rename_i here
        rw [here all, found, Option.bind_none]
      · rfl
    | some services =>
      apply ((Enumerates.toList services).at_key _).congr
      intro p
      by_cases here : p.1 = UInt8.ofInt vrid
      · rw [if_pos here, if_pos fun _ => here, here, found, Option.bind_some]
      · rw [if_neg here, if_neg fun all_here => here (all_here all)]

/-- What is selected before the loops. -/
def Picked (s : Selection) (place : Slot) : Prop :=
  (0 < s.interface → place.1 = s.interface) ∧ (s.vrid ≠ 0 → place.2.1 = UInt8.ofInt s.vrid)

instance (s : Selection) (place : Slot) : Decidable (Picked s place) :=
  inferInstanceAs (Decidable (_ ∧ _))

theorem enumerates_showServices (services : ServiceMap ι) (s : Selection) :
    Enumerates (showServices services s) fun place =>
      if Picked s place then services.find place else none := by
  unfold showServices
  by_cases one : 0 < s.interface
  · rw [if_pos one]
    cases found : services[s.interface]? with
    | none =>
      apply Enumerates.empty.congr
      intro place
      split
      · rename_i picked
        rw [ServiceMap.find, Nested.find, picked.1 one, found]
        rfl
      · rfl
    | some interfaceServices =>
      apply ((enumerates_showInterface interfaceServices s.vrid).at_key _).congr
      intro place
      by_cases here : place.1 = s.interface
      · rw [if_pos here, ServiceMap.find, Nested.find, here, found, Option.bind_some]
        exact if_congr ⟨fun router => ⟨fun _ => here, router⟩, And.right⟩ rfl rfl
      · rw [if_neg here, if_neg fun picked => here (picked.1 one)]
  · rw [if_neg one]
    refine ((Enumerates.toList services).nested fun interfaceServices =>
      enumerates_showInterface interfaceServices s.vrid).congr fun place => ?_
    rw [ServiceMap.find, Nested.find]
    cases services[place.1]? with
    | none => simp
    | some interfaceServices =>
      exact if_congr ⟨fun router => ⟨fun some => absurd some one, router⟩, And.right⟩ rfl rfl

theorem ascending_showInterface (interfaceServices : Std.TreeMap UInt8 (Std.TreeMap Int ι))
    (vrid : Int) :
    Ascending (Prod.Lex Before Before) (showInterface interfaceServices vrid) := by
  unfold showInterface
  split
  · exact ascending_nest (ascending_toList _) fun services => ascending_toList services
  · split
    · exact List.Pairwise.nil
    · exact ascending_under Before (ascending_toList _) _

theorem ascending_showServices (services : ServiceMap ι) (s : Selection) :
    Ascending (Prod.Lex Before (Prod.Lex Before Before)) (showServices services s) := by
  unfold showServices
  split
  · split
    · exact List.Pairwise.nil
    · exact ascending_under Before (ascending_showInterface _ _) _
  · exact ascending_nest (ascending_toList _) fun services => ascending_showInterface services _

/-- What is listed, in which order, depends on the selected services only. -/
theorem showServices_alike {services others : ServiceMap ι} {s : Selection}
    (same : ∀ place, Picked s place → services.find place = others.find place) :
    showServices services s = showServices others s := by
  refine (enumerates_showServices services s).unique
    ((enumerates_showServices others s).congr fun place => ?_)
    (ascending_showServices services s) (ascending_showServices others s)
  split
  · rename_i picked
    exact (same place picked).symm
  · rfl

/-! ### The documented form -/

/-- `show router [INTF] [VRID] [ipv6] [stats]`. -/
structure Filters where
  interface : Option Text
  vrid : Option Text
  ipv6 : Bool
  stats : Bool

namespace Filters

def options (f : Filters) : List Text :=
  (if f.ipv6 then [ascii "ipv6"] else []) ++ if f.stats then [ascii "stats"] else []

def argv (f : Filters) : List Text :=
  [ascii "show", ascii "router"] ++ (f.interface.toList ++ (f.vrid.toList ++ f.options))

/-- The interface exists and the router id is a number from 1 to 255. -/
structure Valid (libc : Libc) (f : Filters) : Prop where
  interface : ∀ name ∈ f.interface, 0 < libc.nameToIndex name
  digits : ∀ text ∈ f.vrid, text ≠ [] ∧ ∀ b ∈ text, isDigit b = true
  range : ∀ text ∈ f.vrid, 1 ≤ leadingNumber text ∧ leadingNumber text ≤ 255

/-- The service at `place` passes the filters on interface and router id. -/
def MatchesRouter (libc : Libc) (f : Filters) (place : Slot) : Prop :=
  (∀ name ∈ f.interface, place.1 = libc.nameToIndex name) ∧
    ∀ text ∈ f.vrid, place.2.1.toNat = leadingNumber text

def Matches (libc : Libc) (f : Filters) (place : Slot) : Prop :=
  f.MatchesRouter libc place ∧ (f.ipv6 = true → place.2.2 = Family.inet6.number)

end Filters

/-- When the words are read as they are meant, for a stored service. An interface that is called
`stats` ends the reading, and one whose name starts with a digit is a router id. -/
def Filters.ReadAsMeant (libc : Libc) (f : Filters) (place : Slot) : Prop :=
  match f.interface, f.vrid with
  | some name, _ =>
    if name = ascii "stats" then f.Matches libc place ∧ f.stats = true
    else if startsWithDigit name = true then
      f.Matches libc place ↔
        (1 ≤ atoi name ∧ atoi name ≤ 255) ∧ (place.2.1.toNat : Int) = atoi name
    else f.ipv6 = true → f.MatchesRouter libc place → place.2.2 = Family.inet6.number
  | none, some _ => f.ipv6 = true → f.MatchesRouter libc place → place.2.2 = Family.inet6.number
  | none, none => f.ipv6 = true → (place.2.2 = Family.inet6.number ↔
      0 < libc.nameToIndex (ascii "ipv6") ∧ place.1 = libc.nameToIndex (ascii "ipv6"))

/-- What is on display after the command; an error shows no service. -/
def display (answer : Except Text (List (Shown ι))) : List (Shown ι) :=
  match answer with
  | .error _ => []
  | .ok shown => shown

/-- Exactly the matching services are on display, each once and in the form that was asked for. -/
structure Lists (libc : Libc) (services : ServiceMap ι) (f : Filters) (shown : List (Shown ι)) :
    Prop where
  exact : ∀ place service, (∃ s ∈ shown, s.place = place ∧ s.service = service) ↔
    services.find place = some service ∧ f.Matches libc place
  once : (shown.map Shown.place).Nodup
  form : ∀ s ∈ shown, s.stats = f.stats

/-- The places that a finished loop over the words has picked. -/
def Chosen (answer : Except Text Selection) (place : Slot) : Prop :=
  match answer with
  | .error _ => False
  | .ok s => Picked s.completed place

def inStats (answer : Except Text Selection) : Bool :=
  match answer with
  | .error _ => false
  | .ok s => s.stats

/-- What is listed is right if what is picked is what matches. -/
theorem lists_iff (services : ServiceMap ι) (f : Filters) :
    Lists libc services f (display (onShowRouterCommand libc services f.argv)) ↔
      ∀ place service, services.find place = some service →
        (f.Matches libc place ↔
          Chosen (select libc (f.argv.drop 2) unselected) place) ∧
        (Chosen (select libc (f.argv.drop 2) unselected) place →
          inStats (select libc (f.argv.drop 2) unselected) = f.stats) := by
  unfold onShowRouterCommand
  cases select libc (f.argv.drop 2) unselected with
  | error response =>
    constructor
    · intro lists place service stored
      have none := (lists.exact place service).not.mp (by simp [display])
      exact ⟨iff_of_false (fun wanted => none ⟨stored, wanted⟩) id, False.elim⟩
    · intro right
      refine ⟨fun place service => ?_, List.nodup_nil, by simp [display]⟩
      apply iff_of_false (by simp [display])
      intro both
      exact (right place service both.1).1.mp both.2
  | ok s =>
    have loops := enumerates_showServices services s.completed
    have shown : ∀ place service,
        (∃ e ∈ display (.ok ((showServices services s.completed).map
          fun e => (⟨e.1, e.2, s.stats⟩ : Shown ι))), e.place = place ∧ e.service = service) ↔
        services.find place = some service ∧ Picked s.completed place := by
      intro place service
      have entry := loops.mem place service
      rw [Option.ite_none_right_eq_some, and_comm] at entry
      rw [← entry, display]
      constructor
      · rintro ⟨e, inside, rfl, rfl⟩
        obtain ⟨_, listed, rfl⟩ := List.mem_map.mp inside
        exact listed
      · intro listed
        exact ⟨_, List.mem_map_of_mem listed, rfl, rfl⟩
    constructor
    · intro lists place service stored
      have same := (shown place service).symm.trans (lists.exact place service)
      have exact : Picked s.completed place ↔ f.Matches libc place := by
        simpa [stored] using same
      refine ⟨exact.symm, fun chosen => ?_⟩
      obtain ⟨e, inside, _⟩ := (shown place service).mpr ⟨stored, chosen⟩
      have form : e.stats = s.stats := by
        obtain ⟨_, _, rfl⟩ := List.mem_map.mp inside
        rfl
      exact form.symm.trans (lists.form e inside)
    · intro right
      refine ⟨fun place service => ?_, ?_, ?_⟩
      · rw [shown]
        exact and_congr_right fun stored => (right place service stored).1.symm
      · rw [display, List.map_map]
        exact loops.once
      · intro e inside
        obtain ⟨_, listed, rfl⟩ := List.mem_map.mp inside
        have entry := (loops.mem _ _).mp listed
        rw [Option.ite_none_right_eq_some] at entry
        exact (right _ _ entry.2).2 entry.1

/-- Only stored services are on display, whatever the words. -/
theorem display_stored {services : ServiceMap ι} {argv : List Text} {shown : Shown ι}
    (listed : shown ∈ display (onShowRouterCommand libc services argv)) :
    services.find shown.place = some shown.service := by
  unfold onShowRouterCommand at listed
  cases answer : select libc (argv.drop 2) unselected with
  | error response =>
    rw [answer] at listed
    cases listed
  | ok s =>
    rw [answer, display] at listed
    obtain ⟨_, inside, rfl⟩ := List.mem_map.mp listed
    have entry := ((enumerates_showServices services s.completed).mem _ _).mp inside
    rw [Option.ite_none_right_eq_some] at entry
    exact entry.2

/-! ### What the words are read as -/

section Words
variable {f : Filters} {s : Selection}

theorem digits_word {text : Text} (digits : text ≠ [] ∧ ∀ b ∈ text, isDigit b = true) :
    text ≠ ascii "stats" ∧ startsWithDigit text = true := by
  cases text with
  | nil => exact absurd rfl digits.1
  | cons b rest =>
    have first := digits.2 b List.mem_cons_self
    refine ⟨fun same => ?_, first⟩
    have letter : b = 115 := (List.cons.inj same).1
    rw [letter] at first
    cases first

theorem number_of_digits {text : Text} (digits : text ≠ [] ∧ ∀ b ∈ text, isDigit b = true)
    (range : 1 ≤ leadingNumber text ∧ leadingNumber text ≤ 255) :
    atoi text = leadingNumber text := by
  rw [atoi_digits digits.2, wrapInt_small] <;> omega

theorem select_vrid (family : s.family = .inet) (missing : s.vrid = -1) {text : Text}
    (digits : text ≠ [] ∧ ∀ b ∈ text, isDigit b = true)
    (range : 1 ≤ leadingNumber text ∧ leadingNumber text ≤ 255) (rest : List Text) :
    select libc (text :: rest) s = select libc rest
      { s with
        interface := if s.interface = -1 then 0 else s.interface
        vrid := leadingNumber text } := by
  obtain ⟨word, digit⟩ := digits_word digits
  have inside : ¬ ((leadingNumber text : Int) ≤ 0 ∨ 255 < (leadingNumber text : Int)) := by omega
  rw [select, if_neg word, if_neg (by simp [family]), if_pos ⟨missing, digit⟩,
    number_of_digits digits range]
  exact if_neg inside

theorem select_passed (family : s.family = .inet) (vrid : s.vrid ≠ -1)
    (interface : s.interface ≠ -1) {word : Text} (other : word ≠ ascii "stats")
    (rest : List Text) : select libc (word :: rest) s = select libc rest s := by
  rw [select, if_neg other, if_neg (by simp [family]), if_neg fun both => vrid both.1,
    if_neg interface]

/-- Behind an interface or a router id the word `ipv6` is passed over. -/
theorem select_options (family : s.family = .inet) (interface : s.interface ≠ -1)
    (f : Filters) : select libc f.options s = .ok { s with stats := s.stats || f.stats } := by
  have letter : startsWithDigit (ascii "ipv6") = false := by decide
  have last : select libc (if f.stats then [ascii "stats"] else []) s =
      .ok { s with stats := s.stats || f.stats } := by
    cases f.stats with
    | false => rw [Bool.or_false]; rfl
    | true => rw [Bool.or_true]; rfl
  rw [Filters.options]
  cases f.ipv6 with
  | false => exact last
  | true =>
    rw [if_pos rfl, List.singleton_append, select, if_neg (by decide), if_neg (by simp [family]),
      if_neg (by simp [letter]), if_neg interface]
    exact last

theorem vrid_eq_iff {n : Int} (least : 0 ≤ n) (most : n ≤ 255) (v : UInt8) :
    v = UInt8.ofInt n ↔ (v.toNat : Int) = n := by
  have small : (n % 2 ^ 8).toNat < 2 ^ 8 := by omega
  rw [UInt8.ofInt, ← UInt8.toNat_inj, UInt8.toNat_ofNat', Nat.mod_eq_of_lt small]
  omega

end Words

section Answers
variable {vrid : Option Text} {ipv6 stats : Bool} {name text : Text}

theorem answer_named (other : name ≠ ascii "stats") (plain : startsWithDigit name = false)
    (valid : Filters.Valid libc ⟨some name, vrid, ipv6, stats⟩) :
    select libc ((Filters.argv ⟨some name, vrid, ipv6, stats⟩).drop 2) unselected =
      .ok ⟨libc.nameToIndex name, vrid.elim (-1) fun text => leadingNumber text, .inet, stats⟩ := by
  have there := valid.interface name rfl
  show select libc (name :: (vrid.toList ++ _)) unselected = _
  rw [select, if_neg other, if_neg (by simp [unselected]), if_neg (by simp [plain]),
    if_pos (show unselected.interface = -1 from rfl)]
  dsimp only
  rw [if_neg (Int.not_le.mpr there)]
  cases vrid with
  | none => exact select_options rfl (by dsimp only; omega) _
  | some text =>
    apply (select_vrid rfl rfl (valid.digits text rfl) (valid.range text rfl) _).trans
    dsimp only
    rw [if_neg (by omega)]
    exact select_options rfl (by dsimp only; omega) _

theorem answer_numbered (valid : Filters.Valid libc ⟨none, some text, ipv6, stats⟩) :
    select libc ((Filters.argv ⟨none, some text, ipv6, stats⟩).drop 2) unselected =
      .ok ⟨0, leadingNumber text, .inet, stats⟩ :=
  (select_vrid rfl rfl (valid.digits text rfl) (valid.range text rfl) _).trans
    (select_options rfl (by simp [unselected]) _)

theorem answer_bare :
    select libc ((Filters.argv ⟨none, none, false, stats⟩).drop 2) unselected =
      .ok ⟨-1, -1, .inet, stats⟩ := by cases stats <;> rfl

/-- Alone the word `ipv6` is taken for the name of an interface. -/
theorem answer_ipv6 :
    select libc ((Filters.argv ⟨none, none, true, stats⟩).drop 2) unselected =
      if libc.nameToIndex (ascii "ipv6") ≤ 0 then .error Resp.noSuchInterface
      else .ok ⟨libc.nameToIndex (ascii "ipv6"), -1, .inet, stats⟩ := by
  show select libc (ascii "ipv6" :: if stats then [ascii "stats"] else []) unselected = _
  rw [select, if_neg (by decide), if_neg (by decide), if_neg (by decide), if_pos (by decide)]
  dsimp only
  split
  · rfl
  · cases stats <;> rfl

theorem answer_stats :
    select libc ((Filters.argv ⟨some (ascii "stats"), vrid, ipv6, stats⟩).drop 2) unselected =
      .ok ⟨-1, -1, .inet, true⟩ := rfl

theorem answer_digit (other : name ≠ ascii "stats") (digit : startsWithDigit name = true)
    (valid : Filters.Valid libc ⟨some name, vrid, ipv6, stats⟩) :
    select libc ((Filters.argv ⟨some name, vrid, ipv6, stats⟩).drop 2) unselected =
      if atoi name ≤ 0 ∨ 255 < atoi name then .error Resp.invalidRouterId
      else .ok ⟨0, atoi name, .inet, stats⟩ := by
  show select libc (name :: (vrid.toList ++ _)) unselected = _
  rw [select, if_neg other, if_neg (by simp [unselected]), if_pos ⟨rfl, digit⟩]
  dsimp only
  split
  · rfl
  · rename_i inside
    have options : select libc (Filters.options ⟨some name, vrid, ipv6, stats⟩)
        ⟨0, atoi name, .inet, false⟩ = .ok ⟨0, atoi name, .inet, false || stats⟩ :=
      select_options rfl (by dsimp only; omega) _
    cases vrid with
    | none => exact options
    | some text =>
      exact (select_passed rfl (by dsimp only; omega) (by simp [unselected])
        (digits_word (valid.digits text rfl)).1 _).trans options

end Answers

/-! ### The listing -/

/-- Where what is picked is what passes the filters on interface and router id, only the
filter on the family is missing. -/
theorem matches_chosen_iff {f : Filters} {place : Slot} {chosen : Prop}
    (router : chosen ↔ f.MatchesRouter libc place) :
    (f.Matches libc place ↔ chosen) ↔
      (f.ipv6 = true → f.MatchesRouter libc place → place.2.2 = Family.inet6.number) := by
  rw [router, Filters.Matches]
  tauto

theorem picked_named {index : Int} (there : 0 < index) {vrid : Option Text}
    (range : ∀ text ∈ vrid, 1 ≤ leadingNumber text ∧ leadingNumber text ≤ 255) (stats : Bool)
    (place : Slot) :
    Picked (Selection.completed
        ⟨index, vrid.elim (-1) fun text => leadingNumber text, .inet, stats⟩) place ↔
      place.1 = index ∧ ∀ text ∈ vrid, place.2.1.toNat = leadingNumber text := by
  have kept : index ≠ -1 := by omega
  cases vrid with
  | none => simp [Picked, Selection.completed, kept, there]
  | some text =>
    have bounds := range text rfl
    have router := vrid_eq_iff (Int.natCast_nonneg (leadingNumber text)) (by omega) place.2.1
    have given : (leadingNumber text : Int) ≠ -1 := by omega
    have one : leadingNumber text ≠ 0 := by omega
    simp [Picked, Selection.completed, kept, there, given, one, router]

theorem picked_numbered {n : Int} (least : 1 ≤ n) (most : n ≤ 255) (stats : Bool)
    (place : Slot) :
    Picked (Selection.completed ⟨0, n, .inet, stats⟩) place ↔ (place.2.1.toNat : Int) = n := by
  have given : n ≠ -1 := by omega
  have one : n ≠ 0 := by omega
  simp [Picked, Selection.completed, given, one, vrid_eq_iff (by omega) most]

theorem chosen_iff {f : Filters} (valid : f.Valid libc) (place : Slot) :
    ((f.Matches libc place ↔ Chosen (select libc (f.argv.drop 2) unselected) place) ∧
      (Chosen (select libc (f.argv.drop 2) unselected) place →
        inStats (select libc (f.argv.drop 2) unselected) = f.stats)) ↔
      f.ReadAsMeant libc place := by
  obtain ⟨interface, vrid, ipv6, stats⟩ := f
  cases interface with
  | some name =>
    by_cases ends : name = ascii "stats"
    · subst ends
      rw [answer_stats]
      simp [Chosen, inStats, Picked, Selection.completed, Filters.ReadAsMeant, eq_comm]
    · cases digit : startsWithDigit name with
      | true =>
        rw [answer_digit ends digit valid]
        simp only [Filters.ReadAsMeant, if_neg ends, digit, if_true]
        by_cases outside : atoi name ≤ 0 ∨ 255 < atoi name
        · have wrong : ¬ (1 ≤ atoi name ∧ atoi name ≤ 255) := by omega
          simp [outside, Chosen, wrong]
        · have inside : 1 ≤ atoi name ∧ atoi name ≤ 255 := by omega
          simp only [if_neg outside, Chosen, inStats, picked_numbered inside.1 inside.2, inside,
            true_and, implies_true, and_true]
      | false =>
        rw [answer_named ends digit valid]
        have router := picked_named (valid.interface name rfl) valid.range stats place
        simp only [Filters.ReadAsMeant, if_neg ends, digit, Bool.false_eq_true, if_false, inStats,
          implies_true, and_true, Chosen]
        exact matches_chosen_iff (by simpa [Filters.MatchesRouter] using router)
  | none =>
    cases vrid with
    | some text =>
      have bounds := valid.range text rfl
      rw [answer_numbered valid]
      have router := picked_numbered (n := leadingNumber text) (by omega) (by omega) stats place
      simp only [Filters.ReadAsMeant, inStats, implies_true, and_true, Chosen]
      exact matches_chosen_iff (by simpa [Filters.MatchesRouter] using router)
    | none =>
      cases ipv6 with
      | false =>
        rw [answer_bare]
        simp [Chosen, inStats, Picked, Selection.completed, Filters.ReadAsMeant, Filters.Matches,
          Filters.MatchesRouter]
      | true =>
        rw [answer_ipv6]
        by_cases missing : libc.nameToIndex (ascii "ipv6") ≤ 0
        · have none : ¬ 0 < libc.nameToIndex (ascii "ipv6") := by omega
          simp [missing, Chosen, Filters.ReadAsMeant, Filters.Matches, Filters.MatchesRouter, none]
        · have there : 0 < libc.nameToIndex (ascii "ipv6") := by omega
          have kept : libc.nameToIndex (ascii "ipv6") ≠ -1 := by omega
          simp [missing, Chosen, inStats, Picked, Selection.completed, Filters.ReadAsMeant,
            Filters.Matches, Filters.MatchesRouter, there, kept]

/-- The command lists what it is asked for when its words are read as they are meant for every
service that is stored. -/
theorem show_router_iff {f : Filters} (valid : f.Valid libc) (services : ServiceMap ι) :
    Lists libc services f (display (onShowRouterCommand libc services f.argv)) ↔
      ∀ place service, services.find place = some service → f.ReadAsMeant libc place := by
  rw [lists_iff]
  exact forall_congr' fun place => forall_congr' fun service => imp_congr_right fun _ =>
    chosen_iff valid place

/-- The IPv4 router 51 on the second interface. -/
def oneRouter : ServiceMap VrrpService :=
  ServiceMap.put ∅ (RouterKey.place ⟨2, 51, .inet⟩) (.sample 1)

theorem valid_interface (ipv6 stats : Bool) :
    Filters.Valid .sample ⟨some (ascii "eth0"), none, ipv6, stats⟩ where
  interface := by
    rintro name ⟨⟩
    decide
  digits := fun _ none => by cases none
  range := fun _ none => by cases none

theorem show_router_sample :
    Lists .sample oneRouter ⟨some (ascii "eth0"), none, false, true⟩
      (display (onShowRouterCommand .sample oneRouter
        [ascii "show", ascii "router", ascii "eth0", ascii "stats"])) := by
  refine (show_router_iff (valid_interface false true) oneRouter).mpr fun place _ _ => ?_
  intro ipv6
  cases ipv6

/-- Behind an interface the word `ipv6` does not keep the IPv4 routers away. -/
theorem ipv6_ignored :
    ¬ Lists .sample oneRouter ⟨some (ascii "eth0"), none, true, false⟩
      (display (onShowRouterCommand .sample oneRouter
        [ascii "show", ascii "router", ascii "eth0", ascii "ipv6"])) := by
  intro lists
  have stored : oneRouter.find (RouterKey.place ⟨2, 51, .inet⟩) = some (.sample 1) := by
    rw [oneRouter, ServiceMap.find_put, if_pos rfl]
  have right := (lists_iff oneRouter ⟨some (ascii "eth0"), none, true, false⟩).mp lists
  have meant := (chosen_iff (valid_interface true false) _).mp (right _ _ stored)
  have family := meant rfl ⟨by rintro name ⟨⟩; rfl, fun _ none => by cases none⟩
  exact absurd family (by decide)

end OpenVrrp.TelnetSession
