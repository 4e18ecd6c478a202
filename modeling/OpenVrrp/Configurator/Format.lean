import OpenVrrp.Configurator
import OpenVrrp.Service.Settings

/-! Every part of the configuration file is read back as it was written, up to what a part has
no room for: 32 bits of a number and 255 bytes of a string. -/
namespace OpenVrrp

namespace Configurator

open Decoder

theorem decodes_int (n : Int) : Decodes readInt (wrapInt n) (writeInt n) := by
  have buffer := decodes_exactly (writeInt n)
  rw [writeInt, Octets.encode_length] at buffer
  apply buffer.value
  rw [Octets.value_encode, wrapInt, wrapInt, ← Int.emod_bmod n]
  congr 1
  omega

theorem decodes_int_of_bounds {n : Int} (least : -2 ^ 31 ≤ n) (most : n < 2 ^ 31) :
    Decodes readInt n (writeInt n) := by
  have read := decodes_int n
  rwa [wrapInt_small least most] at read

theorem decodes_boolean (b : Bool) : Decodes readBoolean b (writeBoolean b) := by
  have buffer := decodes_exactly (writeBoolean b)
  apply buffer.value
  cases b <;> rfl

/-- A string is written as its first 255 bytes, behind their number. -/
theorem writeString_eq (s : Text) :
    writeString s = [UInt8.ofNat (s.take 255).length] ++ s.take 255 := by
  unfold writeString
  split
  · rename_i long
    rw [List.length_take_of_le (by omega)]
    rfl
  · rename_i fits
    rw [List.take_of_length_le (by omega : s.length ≤ 255)]
    simp only [List.take_length, List.singleton_append]

theorem decodes_string (s : Text) : Decodes readString (s.take 255) (writeString s) := by
  have room : (s.take 255).length ≤ 255 := List.length_take_le 255 s
  have size : Octets.value [UInt8.ofNat (s.take 255).length] = (s.take 255).length := by
    simp only [Octets.value, List.length_nil, UInt8.toNat_ofNat']
    omega
  rw [writeString_eq]
  apply (decodes_exactly [_]).bind
  rw [size]
  exact decodes_exactly _

theorem familyOf_number (family : Family) : familyOf (family.number : Int) = family := by
  cases family <;> rfl

theorem family_bounds (family : Family) :
    -2 ^ 31 ≤ (family.number : Int) ∧ (family.number : Int) < 2 ^ 31 := by
  cases family <;> decide

theorem decodes_ip (a : IpAddress) : Decodes readIp a (writeIp a) := by
  obtain ⟨least, most⟩ := family_bounds a.family
  apply (decodes_int_of_bounds least most).bind
  rw [familyOf_number]
  by_cases known : 0 < familySize a.family
  · simp only [if_pos known]
    have buffer := decodes_exactly a.data
    rw [a.sized] at buffer
    refine buffer.value (IpAddress.ext rfl ?_)
    have stored := Memory.slice_store (fun _ => 0) 0 a.data
    rwa [a.sized] at stored
  · simp only [if_neg known]
    have empty : a.data = [] := List.length_eq_zero_iff.mp (by rw [a.sized]; omega)
    have unspec : a.family = .unspec := by
      cases family : a.family <;> rw [family] at known <;> first | rfl | cases known (by decide)
    rw [empty]
    have same : a = .unspec := IpAddress.ext unspec empty
    rw [same]
    exact decodes_pure _

theorem decodes_subnet (subnet : IpSubnet) : Decodes readSubnet subnet (writeSubnet subnet) := by
  refine (decodes_ip subnet.address).bind ((decodes_int _).value (IpSubnet.ext rfl ?_))
  have bound := subnet.cidr.toNat_lt
  have kept := Int.bmod_emod (x := subnet.cidr.toNat) (m := 2 ^ 32)
  apply UInt32.toNat_inj.mp
  simp only [UInt32.ofInt, UInt32.toNat_ofNat', wrapInt]
  omega

def routerOf (libc : Libc) (s : VrrpService) : Router where
  interface := (libc.indexToName s.interface).take 255
  vrid := s.virtualRouterId.toNat
  addressFamily := s.family.number
  priority := s.priority.1.toNat
  interval := s.advertisementInterval.value * 10
  accept := s.acceptMode
  preempt := s.preemptMode
  enabled := s.enabled
  flags := if s.autoPrimaryIpAddress then 0 else 1
  primaryIp := if s.autoPrimaryIpAddress then .unspec else s.primaryIpAddress
  masterCommand := s.masterCommand.take 255
  backupCommand := s.backupCommand.take 255
  vlanId := wrapInt s.vlanId.toNat
  subnets := s.subnets.toList.foldl (·.insert ·) ∅

theorem decodes_byte (b : UInt8) : Decodes readInt b.toNat (writeInt b.toNat) := by
  have bound := b.toNat_lt
  exact decodes_int_of_bounds (by omega) (by omega)

theorem decodes_primary (auto : Bool) (a : IpAddress) :
    Decodes (partIf (hasPrimaryIpAddress (if auto then 0 else 1)) readIp .unspec)
      (if auto then .unspec else a)
      (if hasPrimaryIpAddress (if auto then 0 else 1) then writeIp a else []) := by
  cases auto with
  | true => exact decodes_pure _
  | false => exact decodes_ip a

theorem decodes_subnets (subnets : List IpSubnet) :
    Decodes (readSubnets (subnets.length : Int)) subnets (subnets.flatMap writeSubnet) := by
  rw [readSubnets, if_neg (by omega), Int.toNat_natCast]
  exact decodes_times subnets fun subnet _ => decodes_subnet subnet

theorem readRouter_written (libc : Libc) (indeterminate : Int) (s : VrrpService) (rest : Text) :
    readRouter 3 indeterminate (writeRouter libc s ++ rest) =
      (readSubnets (wrapInt s.subnets.size) (s.subnets.toList.flatMap writeSubnet ++ rest)).map
        fun taken => ({ routerOf libc s with
          subnets := taken.1.foldl (·.insert ·) ∅ }, taken.2) := by
  obtain ⟨least, most⟩ := family_bounds s.family
  have interval := s.advertisementInterval.bounded
  have flags : Decodes readInt (if s.autoPrimaryIpAddress then 0 else 1)
      (writeInt (if s.autoPrimaryIpAddress then 0 else 1)) := by
    cases s.autoPrimaryIpAddress <;> exact decodes_int_of_bounds (by decide) (by decide)
  have command : ∀ word : Text, Decodes (partIf (decide ((1 : Int) < 3)) readString [])
      (word.take 255) (writeString word) := decodes_string
  have vlan : Decodes (partIf (decide ((2 : Int) < 3)) readInt indeterminate)
      (wrapInt s.vlanId.toNat) (writeInt s.vlanId.toNat) := decodes_int _
  unfold readRouter writeRouter
  dsimp only
  rw [(decodes_string _).front, (decodes_byte _).front, (decodes_int_of_bounds least most).front,
    (decodes_byte _).front, (decodes_int_of_bounds (by omega) (by omega)).front,
    (decodes_boolean _).front, (decodes_boolean _).front, (decodes_boolean _).front, flags.front,
    (decodes_primary _ _).front, (command _).front, (command _).front, vlan.front,
    (decodes_int _).front]
  rw [bind_apply]
  cases readSubnets (wrapInt s.subnets.size) (s.subnets.toList.flatMap writeSubnet ++ rest) with
  | none => rfl
  | some taken =>
    rw [Option.bind_some, Option.map_some]
    simp only [routerOf]
    rfl

theorem decodes_router (libc : Libc) (indeterminate : Int) (s : VrrpService)
    (few : s.subnets.size < 2 ^ 31) :
    Decodes (readRouter 3 indeterminate) (routerOf libc s) (writeRouter libc s) := by
  intro rest
  have count : wrapInt s.subnets.size = s.subnets.toList.length := by
    rw [Std.TreeSet.length_toList]
    exact wrapInt_small (by omega) (by omega)
  rw [readRouter_written, count, decodes_subnets, Option.map_some]
  simp only [routerOf]

/-- A service with more subnets than an `int` counts is not read back: the loop counts up to a
negative number. -/
theorem readRouter_crowded (libc : Libc) (indeterminate : Int) (s : VrrpService)
    (many : 2 ^ 31 ≤ s.subnets.size) (most : s.subnets.size < 2 ^ 32) (rest : Text) :
    readRouter 3 indeterminate (writeRouter libc s ++ rest) = none := by
  have negative : wrapInt s.subnets.size < 0 := by
    simp only [wrapInt, Int.bmod]
    split <;> omega
  rw [readRouter_written, readSubnets, if_pos negative]
  rfl

end Configurator

end OpenVrrp
