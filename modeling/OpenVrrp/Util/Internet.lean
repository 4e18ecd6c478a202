import OpenVrrp.Util

/-! `Util::checksum` beside the Internet checksum: the complement of the ones-complement sum of
all words of the pseudo-header and the packet. The two differ in what becomes of an odd last
byte. -/
namespace OpenVrrp.Util

/-! ### The Internet checksum -/

/-- The 16-bit words of a byte string in network order; an odd last byte is padded with zero. -/
def words : List UInt8 → List Nat
  | hi :: lo :: rest => Octets.value [hi, lo] :: words rest
  | [last] => [Octets.value [last, 0]]
  | [] => []

/-- What is summed besides the packet: the addresses, and protocol and length in the layout of
the family. -/
def pseudoBytes (family : Family) (source destination : List UInt8) (protocol : UInt8)
    (length : Nat) : List UInt8 :=
  match family with
  | .inet => source ++ destination ++ [0, protocol] ++ Octets.encode 2 length
  | .inet6 => source ++ destination ++ Octets.encode 4 length ++ [0, 0, 0, protocol]
  | .unspec => []

/-- The two bytes of the checksum in network order. -/
def internetChecksum (bytes : List UInt8) : List UInt8 :=
  Octets.encode 2 (65535 - OnesComplement.sum (words bytes))

theorem value_pair (hi lo : UInt8) : Octets.value [hi, lo] < 65536 :=
  lt_of_lt_of_eq (Octets.value_bound [hi, lo]) (by simp)

theorem words_small (bytes : List UInt8) : ∀ w ∈ words bytes, w < 65536 := by
  induction bytes using words.induct with
  | case1 hi lo rest ih =>
    intro w inside
    rcases List.mem_cons.mp inside with rfl | inside
    · exact value_pair hi lo
    · exact ih w inside
  | case2 last =>
    intro w inside
    rw [List.mem_singleton.mp inside]
    exact value_pair last 0
  | case3 =>
    intro w inside
    cases inside

/-- What `wordSum` leaves out. -/
def oddByte : List UInt8 → Nat
  | _ :: _ :: rest => oddByte rest
  | [last] => last.toNat
  | [] => 0

theorem words_sum (bytes : List UInt8) :
    (words bytes).sum = wordSum bytes + oddByte bytes * 256 := by
  induction bytes using words.induct with
  | case1 hi lo rest ih => rw [words, List.sum_cons, ih, wordSum, oddByte, Nat.add_assoc]
  | case2 last => simp [words, wordSum, oddByte]
  | case3 => rfl

theorem oddByte_lt (bytes : List UInt8) : oddByte bytes < 256 := by
  induction bytes using words.induct with
  | case1 hi lo rest ih => exact ih
  | case2 last => exact last.toNat_lt
  | case3 => decide

theorem oddByte_append {front : List UInt8} (count : Nat) (even : front.length = 2 * count)
    (back : List UInt8) : oddByte (front ++ back) = oddByte back := by
  induction count generalizing front with
  | zero => rw [List.length_eq_zero_iff.mp even, List.nil_append]
  | succ count ih =>
    match front, even with
    | [], even => simp at even
    | [_], even => simp at even; omega
    | _ :: _ :: rest, even =>
      have tail : rest.length = 2 * count := by simp at even; omega
      rw [List.cons_append, List.cons_append, oddByte]
      exact ih tail

theorem oddByte_slice (m : Memory.Cells) (packet size : Nat) :
    oddByte (Memory.slice m packet size) =
      if size % 2 = 1 then (m (packet + size - 1)).toNat else 0 := by
  have split := Memory.slice_add m packet (size / 2 * 2) (size % 2)
  rw [show size / 2 * 2 + size % 2 = size by omega] at split
  rw [split, oddByte_append (size / 2) (by rw [Memory.slice_length]; omega)]
  rcases Nat.mod_two_eq_zero_or_one size with even | odd
  · rw [even]
    rfl
  · rw [odd, if_pos rfl, show packet + size - 1 = packet + size / 2 * 2 by omega]
    rfl

theorem wordSum_slice (m : Memory.Cells) (packet size : Nat) :
    wordSum (Memory.slice m packet size) = wordSum (Memory.slice m packet (size / 2 * 2)) := by
  have split := Memory.slice_add m packet (size / 2 * 2) (size % 2)
  rw [show size / 2 * 2 + size % 2 = size by omega] at split
  rw [split, wordSum_append (size / 2) (by rw [Memory.slice_length]; omega)]
  rcases Nat.mod_two_eq_zero_or_one size with even | odd
  · rw [even]
    rfl
  · rw [odd]
    rfl

/-! ### The accumulator -/

/-- No addition of `addWords` leaves 32 bits. -/
def Exact : List UInt8 → (sum : Nat) → Prop
  | hi :: lo :: rest, sum =>
    sum + Octets.value [hi, lo] < 2 ^ 32 ∧ Exact rest ((sum + Octets.value [hi, lo]) % 2 ^ 32)
  | _, _ => True

theorem exact_of_room (bytes : List UInt8) {sum : Nat} (room : sum + wordSum bytes < 2 ^ 32) :
    Exact bytes sum := by
  induction bytes, sum using addWords.induct with
  | case1 hi lo rest sum ih =>
    rw [wordSum] at room
    have here : sum + Octets.value [hi, lo] < 2 ^ 32 := by omega
    exact ⟨here, ih (by rw [Nat.mod_eq_of_lt here]; omega)⟩
  | case2 bytes sum short =>
    unfold Exact
    split
    · exact absurd rfl (short _ _ _)
    · trivial

theorem pseudoHeader_eq {family : Family} {source destination : IpAddress}
    (known : family ≠ .unspec) (sender : source.family = family)
    (receiver : destination.family = family) (size : Nat) :
    pseudoHeader size source destination 112 =
      some (pseudoBytes family source.data destination.data 112 size) := by
  unfold pseudoHeader pseudoBytes
  cases family with
  | unspec => exact absurd rfl known
  | inet =>
    rw [if_pos ⟨sender, receiver⟩]
    simp [Octets.encode]
  | inet6 =>
    rw [if_neg (by simp [sender]), if_pos ⟨sender, receiver⟩]
    simp [Octets.encode]

/-- The pseudo-header has an even number of bytes, and they are not all zero. -/
theorem pseudoBytes_words {family : Family} {source destination : IpAddress}
    (known : family ≠ .unspec) (sender : source.family = family)
    (receiver : destination.family = family) (size : Nat) :
    ∃ count, (pseudoBytes family source.data destination.data 112 size).length = 2 * count ∧
      0 < wordSum (pseudoBytes family source.data destination.data 112 size) := by
  cases family with
  | unspec => exact absurd rfl known
  | inet =>
    have four : source.data.length = 4 ∧ destination.data.length = 4 := by
      rw [source.sized, destination.sized, sender, receiver]
      exact ⟨rfl, rfl⟩
    refine ⟨6, by simp [pseudoBytes, four], ?_⟩
    rw [pseudoBytes, List.append_assoc, wordSum_append 4 (by simp [four])]
    simp [wordSum]
  | inet6 =>
    have sixteen : source.data.length = 16 ∧ destination.data.length = 16 := by
      rw [source.sized, destination.sized, sender, receiver]
      exact ⟨rfl, rfl⟩
    refine ⟨20, by simp [pseudoBytes, sixteen], ?_⟩
    rw [pseudoBytes, wordSum_append 18 (by simp [sixteen])]
    simp [wordSum]

/-! ### The comparison -/

theorem encode_complement_iff (a b : Nat) :
    Octets.encode 2 (OnesComplement.complement a) =
        Octets.encode 2 (OnesComplement.complement b) ↔
      OnesComplement.complement a = OnesComplement.complement b := by
  refine ⟨fun same => ?_, congrArg (Octets.encode 2)⟩
  have values := congrArg Octets.value same
  have bound_a := OnesComplement.complement_lt a
  have bound_b := OnesComplement.complement_lt b
  rw [Octets.value_encode, Octets.value_encode] at values
  omega

theorem internetChecksum_zero_iff (bytes : List UInt8) :
    internetChecksum bytes = [0, 0] ↔ 0 < (words bytes).sum ∧ (words bytes).sum % 65535 = 0 := by
  rw [internetChecksum, OnesComplement.sum_eq_fold (words_small _),
    ← OnesComplement.complement_eq_zero]
  have zero : OnesComplement.complement 65535 = 0 :=
    (OnesComplement.complement_eq_zero 65535).mpr (by decide)
  have bytes_zero : [0, 0] = Octets.encode 2 (OnesComplement.complement 65535) := by
    rw [zero]
    decide
  change Octets.encode 2 (OnesComplement.complement _) = _ ↔ _
  rw [bytes_zero, encode_complement_iff, zero]

/-- An odd last byte is seen in the Internet checksum unless it is zero. -/
theorem checksum_padded_iff (m : Memory.Cells) (packet size : Nat) (short : size ≤ 65535)
    (family : Family) (source destination : IpAddress) (known : family ≠ .unspec)
    (sender : source.family = family) (receiver : destination.family = family) :
    Octets.encode 2 (checksum m packet size source destination 112).value =
        internetChecksum (pseudoBytes family source.data destination.data 112 size ++
          Memory.slice m packet size) ↔
      oddByte (Memory.slice m packet size) = 0 := by
  have made := pseudoHeader_eq known sender receiver size
  obtain ⟨count, even, positive⟩ := pseudoBytes_words known sender receiver size
  generalize pseudoBytes family source.data destination.data 112 size = header at made even positive
  have odd := oddByte_lt (Memory.slice m packet size)
  rw [internetChecksum, OnesComplement.sum_eq_fold (words_small _), words_sum,
    wordSum_append count even, oddByte_append count even, wordSum_slice,
    checksum_value m packet made short]
  change _ = Octets.encode 2 (OnesComplement.complement _) ↔ _
  rw [encode_complement_iff, OnesComplement.complement_eq_iff]
  omega

/-- For a packet of up to 65535 bytes between two addresses of a family: `checksum` returns the
Internet checksum in network order, from an accumulator that never overflows, if and only if
the size is even or the last byte is zero. -/
theorem checksum_internet_iff (m : Memory.Cells) (packet size : Nat) (short : size ≤ 65535)
    (family : Family) (source destination : IpAddress) (known : family ≠ .unspec)
    (sender : source.family = family) (receiver : destination.family = family) :
    (Octets.encode 2 (checksum m packet size source destination 112).value =
        internetChecksum (pseudoBytes family source.data destination.data 112 size ++
          Memory.slice m packet size) ∧
      ∃ header, pseudoHeader size source destination 112 = some header ∧ Exact header 0 ∧
        Exact (Memory.slice m packet (size / 2 * 2)) (addWords header 0)) ↔
      size % 2 = 0 ∨ m (packet + size - 1) = 0 := by
  have made := pseudoHeader_eq known sender receiver size
  have first := wordSum_bound (pseudoBytes family source.data destination.data 112 size)
  have second := wordSum_bound (Memory.slice m packet (size / 2 * 2))
  have length := pseudoHeader_length made
  rw [Memory.slice_length] at second
  have exact : Exact (pseudoBytes family source.data destination.data 112 size) 0 ∧
      Exact (Memory.slice m packet (size / 2 * 2))
        (addWords (pseudoBytes family source.data destination.data 112 size) 0) := by
    refine ⟨exact_of_room _ (by omega), exact_of_room _ ?_⟩
    rw [addWords_eq _ 0 (by decide), Nat.mod_eq_of_lt (by omega)]
    omega
  rw [and_iff_left ⟨_, made, exact⟩,
    checksum_padded_iff m packet size short family source destination known sender receiver,
    oddByte_slice]
  rcases Nat.mod_two_eq_zero_or_one size with even | odd
  · simp [even]
  · simp [odd, ← UInt8.toNat_inj]

/-- An advertisement without addresses, and with one byte behind it. -/
def oddPacket : List UInt8 := [0x31, 51, 100, 0, 0, 100, 0, 0, 1]

theorem checksum_internet_sample :
    Octets.encode 2 (checksum (Memory.store (fun _ => 0) 0 oddPacket) 0 8 (.sample 1) (.sample 2)
        112).value =
      internetChecksum (pseudoBytes .inet [192, 0, 2, 1] [192, 0, 2, 2] 112 8 ++
        Memory.slice (Memory.store (fun _ => 0) 0 oddPacket) 0 8) :=
  ((checksum_internet_iff (Memory.store (fun _ => 0) 0 oddPacket) 0 8 (by decide) .inet (.sample 1)
    (.sample 2) (by decide) rfl rfl).mpr (.inl rfl)).1

/-- The ninth byte is not summed. -/
theorem odd_byte_left_out :
    Octets.encode 2 (checksum (Memory.store (fun _ => 0) 0 oddPacket) 0 9 (.sample 1) (.sample 2)
        112).value ≠
      internetChecksum (pseudoBytes .inet [192, 0, 2, 1] [192, 0, 2, 2] 112 9 ++
        Memory.slice (Memory.store (fun _ => 0) 0 oddPacket) 0 9) := fun same =>
  absurd ((checksum_padded_iff (Memory.store (fun _ => 0) 0 oddPacket) 0 9 (by decide) .inet
    (.sample 1) (.sample 2) (by decide) rfl rfl).mp same) (by decide)

end OpenVrrp.Util
