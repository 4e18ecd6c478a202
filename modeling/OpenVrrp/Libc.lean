import OpenVrrp.Address
import OpenVrrp.Text

/-! What the daemon asks of the C library about words: names of interfaces, and addresses in
text form (the constructors from `const char *` in ipaddress.cpp and ipsubnet.cpp). -/
namespace OpenVrrp

/-- `IFNAMSIZ`, the room of a name with its zero byte. -/
def interfaceNameSize : Nat := 16

/-- if_nametoindex and if_indextoname on the interfaces of the host, and inet_pton. An
interface may have several names; if_indextoname returns one of them. -/
structure Libc where
  nameToIndex : Text → Int
  indexToName : Int → Text
  inetPton : (family : Family) → Text →
    Option { data : List UInt8 // data.length = familySize family }
  named : ∀ name, 0 < nameToIndex name →
    nameToIndex (indexToName (nameToIndex name)) = nameToIndex name
  short : ∀ name, 0 < nameToIndex name →
    (indexToName (nameToIndex name)).length < interfaceNameSize
  clean : ∀ name, 0 < nameToIndex name → 0 ∉ indexToName (nameToIndex name)

namespace Libc

/-- A host with one interface, that is asked for one address only. -/
def sample : Libc where
  nameToIndex name := if name = ascii "eth0" then 2 else 0
  indexToName _ := ascii "eth0"
  inetPton
    | .inet, word => if word = ascii "192.0.2.9" then some ⟨[192, 0, 2, 9], rfl⟩ else none
    | _, _ => none
  named := by
    intro name there
    split at there
    · rename_i same
      rw [same]
    · exact absurd there (by decide)
  short := fun _ _ => by decide
  clean := fun _ _ => by decide

variable (libc : Libc)

def readAddress (family : Family) (word : Text) : IpAddress :=
  match libc.inetPton family word with
  | some data => ⟨family, data.1, data.2⟩
  | none => .unspec

/-- `IpAddress (const char *)`. The room for an address in brackets is the size of the number
INET6_ADDRSTRLEN, four bytes; ports are left out. -/
def ipAddress (word : Text) : IpAddress :=
  match word with
  | 91 :: rest =>
    let inside := rest.takeWhile (· ≠ 93)
    if inside.length < rest.length ∧ inside.length ≤ 4 then libc.readAddress .inet6 inside
    else .unspec
  | word =>
    if (libc.inetPton .inet6 word).isSome then libc.readAddress .inet6 word
    else
      let host := word.takeWhile (· ≠ 58)
      if host.length < word.length then
        if host.length ≤ 16 then libc.readAddress .inet host else .unspec
      else libc.readAddress .inet word

/-- `IpSubnet (const char *)`: without a slash the prefix is the whole address. -/
def ipSubnet (word : Text) : IpSubnet :=
  let front := word.takeWhile (· ≠ 47)
  if front.length < word.length then
    ⟨libc.ipAddress front, UInt32.ofInt (atoi (word.drop (front.length + 1)))⟩
  else
    let address := libc.ipAddress word
    ⟨address, UInt32.ofNat (address.size * 8)⟩

end Libc

end OpenVrrp
