import OpenVrrp.Libc

/-! The constructor of IpAddress from text with the port and the two temporaries. Text of at
most four bytes fits between brackets, which `sizeof (INET6_ADDRSTRLEN)` measures. -/
namespace OpenVrrp

def isHexDigit (b : UInt8) : Bool := isDigit b || (65 ≤ b && b ≤ 70) || (97 ≤ b && b ≤ 102)

/-- An address with its port, and for each temporary its size and the bytes written to it. -/
structure ParsedAddress where
  address : IpAddress
  port : UInt16
  written : List (Nat × Nat)
  deriving DecidableEq

namespace ParsedAddress

def unspec (written : List (Nat × Nat)) : ParsedAddress := ⟨.unspec, 0, written⟩

def Overrun (parsed : ParsedAddress) : Prop := ∃ b ∈ parsed.written, b.1 < b.2

end ParsedAddress

namespace Libc

variable (libc : Libc)

/-- inet_pton writes to `buffer` what becomes the address. -/
def convert (family : Family) (text : Text) (port : UInt16) (written : List (Nat × Nat)) :
    ParsedAddress :=
  if (libc.inetPton family text).isSome then
    ⟨libc.readAddress family text, port, written ++ [(16, familySize family)]⟩
  else .unspec written

/-- The text behind an opening bracket. Without the closing one, and with more inside than
the guard lets in, nothing is tried. -/
def parseBrackets (rest : Text) : ParsedAddress :=
  let inside := rest.takeWhile (· ≠ 93)
  if inside.length < rest.length ∧ inside.length ≤ 4 then
    let behind := rest.drop (inside.length + 1)
    libc.convert .inet6 inside
      (if behind.head? = some 58 then UInt16.ofInt (atoi (behind.drop 1)) else 0)
      [(47, inside.length + 1)]
  else .unspec []

def parseBare (word : Text) : ParsedAddress :=
  if (libc.inetPton .inet6 word).isSome then libc.convert .inet6 word 0 []
  else
    let host := word.takeWhile (· ≠ 58)
    if host.length < word.length then
      if host.length ≤ 16 then
        libc.convert .inet host (UInt16.ofInt (atoi (word.drop (host.length + 1))))
          [(17, host.length + 1)]
      else .unspec []
    else libc.convert .inet word 0 []

def parse (word : Text) : ParsedAddress :=
  match word with
  | 91 :: rest => libc.parseBrackets rest
  | word => libc.parseBare word

variable {libc}

theorem parse_bare {word : Text} (bare : word.head? ≠ some 91) :
    libc.parse word = libc.parseBare word := by
  unfold parse
  split
  · exact absurd rfl bare
  · rfl

theorem convert_address (family : Family) (text : Text) (port : UInt16)
    (written : List (Nat × Nat)) :
    (libc.convert family text port written).address = libc.readAddress family text := by
  unfold convert readAddress
  cases libc.inetPton family text <;> rfl

theorem convert_accepted {family : Family} {text : Text}
    (accepted : (libc.inetPton family text).isSome) (port : UInt16) (written : List (Nat × Nat)) :
    libc.convert family text port written =
      ⟨libc.readAddress family text, port, written ++ [(16, familySize family)]⟩ :=
  if_pos accepted

theorem readAddress_family {family : Family} {text : Text}
    (accepted : (libc.inetPton family text).isSome) :
    (libc.readAddress family text).family = family := by
  obtain ⟨data, known⟩ := Option.isSome_iff_exists.mp accepted
  rw [readAddress, known]

/-- Without the port it is the address that the other components read. -/
theorem parse_address (libc : Libc) (word : Text) :
    (libc.parse word).address = libc.ipAddress word := by
  unfold ipAddress
  split
  · simp only [parse, parseBrackets, apply_ite ParsedAddress.address, convert_address]
    rfl
  · rename_i bare
    rw [parse_bare fun front => by
      obtain ⟨rest, same⟩ := List.head?_eq_some_iff.mp front
      exact bare rest same]
    simp only [parseBare, apply_ite ParsedAddress.address, convert_address]
    rfl

/-- What inet_pton is documented to accept: hexadecimal digits and colons, perhaps with dots in
the last part, and four decimal numbers with dots between them. -/
structure TextualForms (libc : Libc) : Prop where
  ipv6 : ∀ word, (libc.inetPton .inet6 word).isSome →
    (∀ b ∈ word, isHexDigit b ∨ b = 58 ∨ b = 46) ∧ 58 ∈ word ∧ 58 ∉ word.dropWhile (· ≠ 46)
  ipv4 : ∀ word, (libc.inetPton .inet word).isSome →
    (∀ b ∈ word, isDigit b ∨ b = 46) ∧ 46 ∈ word ∧ word.length ≤ 15

structure Ipv6Text (libc : Libc) (a : Text) : Prop where
  accepted : (libc.inetPton .inet6 a).isSome
  short : a.length ≤ 45
  clean : 93 ∉ a

def Ipv4Text (libc : Libc) (a : Text) : Prop := (libc.inetPton .inet a).isSome

/-- "[a]:p" is the address of "a" with the port p, and "[a]" is what "a" is. -/
structure KeepsIpv6 (libc : Libc) (a : Text) (port : UInt16) : Prop where
  address : (libc.parse (91 :: a ++ 93 :: 58 :: decimal port.toNat)).address =
    (libc.parse a).address
  port : (libc.parse (91 :: a ++ 93 :: 58 :: decimal port.toNat)).port = port
  alone : (libc.parse (91 :: a ++ [93])).address = (libc.parse a).address ∧
    (libc.parse (91 :: a ++ [93])).port = (libc.parse a).port

/-- "a:p" is the address of "a" with the port p. -/
structure KeepsIpv4 (libc : Libc) (a : Text) (port : UInt16) : Prop where
  address : (libc.parse (a ++ 58 :: decimal port.toNat)).address = (libc.parse a).address
  port : (libc.parse (a ++ 58 :: decimal port.toNat)).port = port

theorem port_of_decimal (port : UInt16) : UInt16.ofInt (atoi (decimal port.toNat)) = port := by
  have small := port.toNat_lt
  have number : ((port.toNat : Int) % 2 ^ 16).toNat = port.toNat := by omega
  rw [atoi_decimal (by omega), UInt16.ofInt, number, UInt16.ofNat_toNat]

theorem takeWhile_until {stop : UInt8} {front : Text} (clean : stop ∉ front) (rest : Text) :
    (front ++ stop :: rest).takeWhile (· ≠ stop) = front := by
  have passes : ∀ b ∈ front, decide (b ≠ stop) = true := fun b inside =>
    decide_eq_true (ne_of_mem_of_not_mem inside clean)
  rw [List.takeWhile_append_of_pos passes, List.takeWhile_cons_of_neg (by simp), List.append_nil]

/-! ### Brackets -/

theorem parse_bracketed {a : Text} (clean : 93 ∉ a) (behind : Text) :
    libc.parse (91 :: a ++ 93 :: behind) =
      if a.length ≤ 4 then
        libc.convert .inet6 a
          (if behind.head? = some 58 then UInt16.ofInt (atoi (behind.drop 1)) else 0)
          [(47, a.length + 1)]
      else .unspec [] := by
  have dropped : (a ++ 93 :: behind).drop (a.length + 1) = behind := by
    rw [List.drop_append]
    simp
  show libc.parseBrackets (a ++ 93 :: behind) = _
  rw [parseBrackets, takeWhile_until clean, dropped]
  simp

theorem parse_ipv6 (forms : TextualForms libc) {a : Text}
    (accepted : (libc.inetPton .inet6 a).isSome) :
    libc.parse a = libc.convert .inet6 a 0 [] := by
  have bare : a.head? ≠ some 91 := by
    intro front
    have written := (forms.ipv6 a accepted).1 91 (List.mem_of_head? front)
    exact absurd written (by decide)
  rw [parse_bare bare, parseBare, if_pos accepted]

/-- The guard decides: the number of the size of INET6_ADDRSTRLEN is four. -/
theorem keepsIpv6_iff (forms : TextualForms libc) {a : Text} (text : Ipv6Text libc a)
    (port : UInt16) : KeepsIpv6 libc a port ↔ a.length ≤ 4 := by
  have bare := parse_ipv6 forms text.accepted
  have with_port := @parse_bracketed libc _ text.clean (58 :: decimal port.toNat)
  have alone := @parse_bracketed libc _ text.clean []
  rw [convert_accepted text.accepted] at bare
  constructor
  · intro keeps
    by_contra long
    have same := keeps.address
    rw [with_port, if_neg long, bare] at same
    cases (congrArg IpAddress.family same).trans (readAddress_family text.accepted)
  · intro short
    rw [if_pos short, convert_accepted text.accepted] at with_port alone
    constructor
    · rw [with_port, bare]
    · rw [with_port]
      exact port_of_decimal port
    · rw [alone, bare]
      exact ⟨rfl, rfl⟩

/-! ### Dotted addresses -/

theorem ipv4_head (forms : TextualForms libc) {a : Text} (text : Ipv4Text libc a)
    (rest : Text) : (a ++ rest).head? ≠ some 91 := by
  obtain ⟨written, dotted, _⟩ := forms.ipv4 a text
  cases a with
  | nil => cases dotted
  | cons b front =>
    intro bracket
    have same : b = 91 := by simpa using bracket
    exact absurd (same ▸ written b List.mem_cons_self) (by decide)

/-- Behind the dots of an address there is no colon. -/
theorem dotted_not_ipv6 (forms : TextualForms libc) {a : Text} (text : Ipv4Text libc a)
    (rest : Text) : (libc.inetPton .inet6 (a ++ 58 :: rest)).isSome = false := by
  obtain ⟨_, dotted, _⟩ := forms.ipv4 a text
  rw [← Bool.not_eq_true]
  intro accepted
  apply (forms.ipv6 _ accepted).2.2
  have stops : a.dropWhile (· ≠ 46) ≠ [] := by
    rw [Ne, List.dropWhile_eq_nil_iff]
    exact fun all => by simpa using all 46 dotted
  rw [List.dropWhile_append, if_neg (by simpa using stops)]
  simp

theorem no_colon (forms : TextualForms libc) {a : Text} (text : Ipv4Text libc a) : 58 ∉ a :=
  fun colon => absurd ((forms.ipv4 a text).1 58 colon) (by decide)

theorem parse_ipv4 (forms : TextualForms libc) {a : Text} (text : Ipv4Text libc a) :
    libc.parse a = libc.convert .inet a 0 [] := by
  have other : (libc.inetPton .inet6 a).isSome = false := by
    rw [← Bool.not_eq_true]
    exact fun accepted => no_colon forms text (forms.ipv6 a accepted).2.1
  have whole : a.takeWhile (· ≠ 58) = a :=
    List.takeWhile_eq_self_iff.mpr fun b inside =>
      decide_eq_true (ne_of_mem_of_not_mem inside (no_colon forms text))
  have bare := ipv4_head forms text []
  rw [List.append_nil] at bare
  rw [parse_bare bare, parseBare, other]
  simp only [whole, lt_irrefl, if_false, Bool.false_eq_true]

theorem keepsIpv4 (forms : TextualForms libc) {a : Text} (text : Ipv4Text libc a)
    (port : UInt16) : KeepsIpv4 libc a port := by
  have bare := parse_ipv4 forms text
  have room : a.length ≤ 16 := (forms.ipv4 a text).2.2.trans (by decide)
  have dropped : (a ++ 58 :: decimal port.toNat).drop (a.length + 1) = decimal port.toNat := by
    rw [List.drop_append]
    simp
  have with_port : libc.parse (a ++ 58 :: decimal port.toNat) =
      libc.convert .inet a port [(17, a.length + 1)] := by
    rw [parse_bare (ipv4_head forms text _), parseBare, dotted_not_ipv6 forms text,
      takeWhile_until (no_colon forms text)]
    simp only [dropped, port_of_decimal, room, if_true, Bool.false_eq_true, if_false]
    simp
  rw [convert_accepted text] at with_port bare
  constructor
  · rw [with_port, bare]
  · rw [with_port]

/-! ### The temporaries -/

theorem convert_bounded {written : List (Nat × Nat)} (fits : ∀ b ∈ written, b.2 ≤ b.1)
    (family : Family) (text : Text) (port : UInt16) :
    ¬ (libc.convert family text port written).Overrun := by
  rintro ⟨b, inside, overrun⟩
  have buffer := familySize_le family
  unfold convert at inside
  split at inside
  · rcases List.mem_append.mp inside with before | last
    · exact absurd overrun (Nat.not_lt.mpr (fits b before))
    · rw [List.mem_singleton.mp last] at overrun
      exact absurd overrun (Nat.not_lt.mpr buffer)
  · exact absurd overrun (Nat.not_lt.mpr (fits b inside))

theorem unspec_bounded : ¬ (ParsedAddress.unspec []).Overrun := by
  rintro ⟨b, inside, _⟩
  cases inside

theorem parse_bounded (libc : Libc) (word : Text) : ¬ (libc.parse word).Overrun := by
  unfold parse
  split
  · unfold parseBrackets
    dsimp only
    split
    · rename_i guard
      refine convert_bounded (fun b inside => ?_) _ _ _
      rw [List.mem_singleton.mp inside]
      exact Nat.succ_le_succ (guard.2.trans (by decide : 4 ≤ 46))
    · exact unspec_bounded
  · unfold parseBare
    dsimp only
    split
    · exact convert_bounded (fun _ none => absurd none List.not_mem_nil) _ _ _
    · split
      · split
        · rename_i guard
          refine convert_bounded (fun b inside => ?_) _ _ _
          rw [List.mem_singleton.mp inside]
          exact Nat.succ_le_succ guard
        · exact unspec_bounded
      · exact convert_bounded (fun _ none => absurd none List.not_mem_nil) _ _ _

/-- Text with a port is read like the address alone: always for IPv4, and for IPv6 with an
address of at most four bytes. No temporary is overrun, whatever the text. -/
theorem ports_parse_iff (forms : TextualForms libc) :
    (∀ a, Ipv6Text libc a → ∀ port, KeepsIpv6 libc a port ↔ a.length ≤ 4) ∧
    (∀ a, Ipv4Text libc a → ∀ port, KeepsIpv4 libc a port) ∧
    ∀ word, ¬ (libc.parse word).Overrun :=
  ⟨fun _ text port => keepsIpv6_iff forms text port, fun _ text port => keepsIpv4 forms text port,
    parse_bounded libc⟩

/-- The sample with two IPv6 addresses. -/
def resolver : Libc where
  nameToIndex _ := 0
  indexToName _ := []
  inetPton
    | .inet6, word =>
      if word = ascii "::1" then some ⟨List.replicate 15 0 ++ [1], rfl⟩
      else if word = ascii "fe80::1" then
        some ⟨[254, 128] ++ List.replicate 13 0 ++ [1], rfl⟩
      else none
    | family, word => sample.inetPton family word
  named := fun _ none => absurd none (by decide)
  short := fun _ none => absurd none (by decide)
  clean := fun _ none => absurd none (by decide)

theorem resolver_forms : TextualForms resolver where
  ipv6 := by
    intro word accepted
    have known : word = ascii "::1" ∨ word = ascii "fe80::1" := by
      by_contra other
      simp [resolver, not_or.mp other] at accepted
    rcases known with rfl | rfl <;> decide +kernel
  ipv4 := by
    intro word accepted
    have known : word = ascii "192.0.2.9" := by
      by_contra other
      simp [resolver, sample, other] at accepted
    subst known
    decide +kernel

theorem ports_parse_sample : KeepsIpv6 resolver (ascii "::1") 8080 ∧
    ¬ KeepsIpv6 resolver (ascii "fe80::1") 8080 ∧
    KeepsIpv4 resolver (ascii "192.0.2.9") 8080 := by
  obtain ⟨ipv6, ipv4, _⟩ := ports_parse_iff resolver_forms
  refine ⟨?_, ?_, ipv4 (ascii "192.0.2.9") rfl 8080⟩
  · exact (ipv6 (ascii "::1") ⟨by decide, by decide, by decide⟩ 8080).mpr (by decide)
  · rw [ipv6 (ascii "fe80::1") ⟨by decide, by decide, by decide⟩ 8080]
    decide

/-- A link-local address in brackets is not read at all. -/
theorem brackets_unread : Ipv6Text resolver (ascii "fe80::1") ∧
    (resolver.parse (ascii "fe80::1")).address.family = .inet6 ∧
    resolver.parse (ascii "[fe80::1]:80") = .unspec [] ∧
    ¬ KeepsIpv6 resolver (ascii "fe80::1") 80 := by
  refine ⟨⟨by decide, by decide, by decide⟩, by decide, by decide, ?_⟩
  intro keeps
  exact absurd keeps.port (by decide)

end Libc

end OpenVrrp
