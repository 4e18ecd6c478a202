import OpenVrrp.Address
import OpenVrrp.Library.OnesComplement
import OpenVrrp.Library.Reading

/-! Util (util.h, util.cpp): the checksum over a pseudo-header and a packet, in an unsigned
32-bit accumulator. An odd last byte is not part of it. -/
namespace OpenVrrp.Util

/-- The pseudo-header of two addresses of one family; other pairs have none. -/
def pseudoHeader (size : Nat) (srcAddr dstAddr : IpAddress) (family : Nat) :
    Option (List UInt8) :=
  if srcAddr.family = .inet ∧ dstAddr.family = .inet then
    some (srcAddr.data ++ dstAddr.data ++ [0] ++ Octets.encode 1 family ++ Octets.encode 2 size)
  else if srcAddr.family = .inet6 ∧ dstAddr.family = .inet6 then
    some (srcAddr.data ++ dstAddr.data ++ Octets.encode 4 size ++ Octets.encode 4 family)
  else none

def addWords : List UInt8 → (sum : Nat) → Nat
  | hi :: lo :: rest, sum => addWords rest ((sum + Octets.value [hi, lo]) % 2 ^ 32)
  | _, sum => sum

/-- The packet is `size` bytes at `packet`. The answer is the number before `htons`. -/
def checksum (m : Memory.Cells) (packet size : Nat) (srcAddr dstAddr : IpAddress)
    (family : Nat) : Reading Nat :=
  match pseudoHeader size srcAddr dstAddr family with
  | none => pure 0
  | some header => do
    let words ← Reading.bytes m packet (size / 2 * 2)
    pure (OnesComplement.complement (addWords words (addWords header 0)))

def wordSum : List UInt8 → Nat
  | hi :: lo :: rest => Octets.value [hi, lo] + wordSum rest
  | _ => 0

theorem addWords_eq (bytes : List UInt8) (sum : Nat) (small : sum < 2 ^ 32) :
    addWords bytes sum = (sum + wordSum bytes) % 2 ^ 32 := by
  induction bytes, sum using addWords.induct with
  | case1 hi lo rest sum ih =>
    rw [addWords, ih (Nat.mod_lt _ (by decide)), wordSum, Nat.mod_add_mod, Nat.add_assoc]
  | case2 bytes sum short =>
    have none_left : wordSum bytes = 0 := by
      unfold wordSum
      split
      · exact absurd rfl (short _ _ _)
      · rfl
    rw [addWords, none_left, Nat.add_zero, Nat.mod_eq_of_lt small]
    exact short

theorem wordSum_bound (bytes : List UInt8) : wordSum bytes ≤ 65535 * (bytes.length / 2) := by
  induction bytes using wordSum.induct with
  | case1 hi lo rest ih =>
    have word := Octets.value_bound [hi, lo]
    simp only [List.length_cons, List.length_nil] at word
    rw [wordSum, List.length_cons, List.length_cons]
    omega
  | case2 bytes short =>
    have none_left : wordSum bytes = 0 := by
      unfold wordSum
      split
      · exact absurd rfl (short _ _ _)
      · rfl
    omega

theorem wordSum_append {front : List UInt8} (words : Nat) (even : front.length = 2 * words)
    (back : List UInt8) : wordSum (front ++ back) = wordSum front + wordSum back := by
  induction words generalizing front with
  | zero =>
    rw [List.length_eq_zero_iff.mp even]
    simp [wordSum]
  | succ words ih =>
    match front, even with
    | [], even => simp at even
    | [_], even => simp at even; omega
    | hi :: lo :: rest, even =>
      have tail : rest.length = 2 * words := by simp at even; omega
      simp only [List.cons_append, wordSum, ih tail, Nat.add_assoc]

theorem pseudoHeader_length {size family : Nat} {srcAddr dstAddr : IpAddress}
    {header : List UInt8} (made : pseudoHeader size srcAddr dstAddr family = some header) :
    header.length ≤ 40 := by
  unfold pseudoHeader at made
  split at made
  · rename_i both
    cases made
    simp [srcAddr.sized, dstAddr.sized, both.1, both.2, familySize]
  · split at made
    · rename_i both
      cases made
      simp [srcAddr.sized, dstAddr.sized, both.1, both.2, familySize]
    · cases made

/-- Up to the largest datagram the accumulator does not overflow. -/
theorem checksum_value (m : Memory.Cells) (packet : Nat) {size family : Nat}
    {srcAddr dstAddr : IpAddress} {header : List UInt8}
    (made : pseudoHeader size srcAddr dstAddr family = some header) (small : size ≤ 65535) :
    (checksum m packet size srcAddr dstAddr family).value = OnesComplement.complement
      (wordSum header + wordSum (Memory.slice m packet (size / 2 * 2))) := by
  have first := wordSum_bound header
  have second := wordSum_bound (Memory.slice m packet (size / 2 * 2))
  have short := pseudoHeader_length made
  rw [Memory.slice_length] at second
  simp only [checksum, made, Reading.bind_value, Reading.bytes_value, Reading.pure_value]
  rw [addWords_eq header 0 (by decide), addWords_eq _ _ (Nat.mod_lt _ (by decide)), Nat.zero_add,
    Nat.mod_add_mod, Nat.mod_eq_of_lt (by omega)]

theorem checksum_indices (m : Memory.Cells) (packet size : Nat) (srcAddr dstAddr : IpAddress)
    (family : Nat) : (checksum m packet size srcAddr dstAddr family).indices =
      if (pseudoHeader size srcAddr dstAddr family).isSome then
        (List.range (size / 2 * 2)).map (packet + ·) else [] := by
  unfold checksum
  cases pseudoHeader size srcAddr dstAddr family with
  | none => rfl
  | some header => exact List.append_nil _

end OpenVrrp.Util
