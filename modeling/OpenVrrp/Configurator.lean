import OpenVrrp.Libc
import OpenVrrp.Manager
import OpenVrrp.Library.Decoding

/-! Configurator (configurator.h, configurator.cpp): the configuration file. The streams stay
good; `readsome` returns as many of the bytes asked for as there are. -/
namespace OpenVrrp

namespace Configurator

abbrev Reader := Decoder UInt8

/-- `readsome`, and the comparison of its count with the size of the buffer. -/
def readsome (size : Nat) : Reader Text := Decoder.exactly size

/-! ### The parts of the format -/

def readInt : Reader Int := do
  let buffer ← readsome 4
  pure (wrapInt (Octets.value buffer))

def writeInt (value : Int) : Text := Octets.encode 4 (value % 2 ^ 32).toNat

def readBoolean : Reader Bool := do
  let buffer ← readsome 1
  pure (buffer ≠ [0])

def writeBoolean (value : Bool) : Text := [if value then 0xFF else 0x00]

def readString : Reader Text := do
  let size ← readsome 1
  readsome (Octets.value size)

/-- The length has one byte: what does not fit is cut off. -/
def writeString (value : Text) : Text :=
  let size := if 255 < value.length then 255 else value.length
  UInt8.ofNat size :: value.take size

/-- AF_INET and AF_INET6; any other number has no addresses. -/
def familyOf (number : Int) : Family :=
  if number = Family.inet.number then .inet
  else if number = Family.inet6.number then .inet6
  else .unspec

def readIp : Reader IpAddress := do
  let family := familyOf (← readInt)
  let size := familySize family
  if 0 < size then
    let buffer ← readsome size
    pure (IpAddress.load (Memory.store (fun _ => 0) 0 buffer) 0 family)
  else pure .unspec

def writeIp (address : IpAddress) : Text := writeInt address.family.number ++ address.data

def readSubnet : Reader IpSubnet := do
  let address ← readIp
  let cidr ← readInt
  pure ⟨address, UInt32.ofInt cidr⟩

def writeSubnet (subnet : IpSubnet) : Text :=
  writeIp subnet.address ++ writeInt subnet.cidr.toNat

/-- FLAG_HAS_PRIMARY_IP_ADDRESS, the lowest bit. -/
def hasPrimaryIpAddress (flags : Int) : Bool := flags % 2 == 1

/-- The loop up to `addressCount`: it never meets a negative number, and so the stream ends
first. -/
def readSubnets (addressCount : Int) : Reader (List IpSubnet) :=
  if addressCount < 0 then Decoder.fail else Decoder.times readSubnet addressCount.toNat

/-! ### Reading -/

structure Router where
  interface : Text
  vrid : Int
  addressFamily : Int
  priority : Int
  interval : Int
  accept : Bool
  preempt : Bool
  enabled : Bool
  flags : Int
  primaryIp : IpAddress
  masterCommand : Text
  backupCommand : Text
  vlanId : Int
  subnets : IpSubnetSet

/-- A part that is in the file only under a condition. -/
def partIf {α : Type} (present : Bool) (part : Reader α) (absent : α) : Reader α :=
  if present then part else pure absent

/-- The local `vlanId` is set by version 3 only; before, it holds anything. -/
def readRouter (version indeterminate : Int) : Reader Router := do
  let interface ← readString
  let vrid ← readInt
  let addressFamily ← readInt
  let priority ← readInt
  let interval ← readInt
  let accept ← readBoolean
  let preempt ← readBoolean
  let enabled ← readBoolean
  let flags ← readInt
  let primaryIp ← partIf (hasPrimaryIpAddress flags) readIp .unspec
  let masterCommand ← partIf (1 < version) readString []
  let backupCommand ← partIf (1 < version) readString []
  let vlanId ← partIf (2 < version) readInt indeterminate
  let addressCount ← readInt
  let subnets ← readSubnets addressCount
  pure ⟨interface, vrid, addressFamily, priority, interval, accept, preempt, enabled, flags,
    primaryIp, masterCommand, backupCommand, vlanId, subnets.foldl (·.insert ·) ∅⟩

section Answers
variable (libc : Libc) (kernel : Kernel) (indeterminate : Nat → Int)

def setUp (r : Router) (s : VrrpService) : VrrpService :=
  let s := (s.setPriority (UInt8.ofInt r.priority)).1
  let s := s.setAdvertisementInterval (UInt32.ofInt (r.interval.tdiv 10)).toNat
  let s := (s.setAcceptMode r.accept).1
  let s := s.setPreemptMode r.preempt
  let s := if hasPrimaryIpAddress r.flags then s.setPrimaryIpAddress r.primaryIp else s
  let s := s.setMasterCommand r.masterCommand
  let s := s.setBackupCommand r.backupCommand
  r.subnets.toList.foldl (fun s subnet => (s.addIpAddress subnet).1) s

def configure (r : Router) (s : VrrpService) : VrrpService :=
  let s := setUp r s
  if r.enabled then (s.enable (kernel.isInterfaceUp s.interface)).1 else s.disable.1

/-- The rest of the loop body: a router that fails a check is passed over. -/
def restore (m : VrrpManager) (r : Router) : VrrpManager :=
  if r.vrid < 1 ∨ 255 < r.vrid then m
  else if r.priority < 1 ∨ 255 < r.priority then m
  else if familyOf r.addressFamily = .unspec then m
  else if r.interval.tmod 10 ≠ 0 ∨ r.interval < 10 ∨ 40950 < r.interval then m
  else
    let ifIndex := libc.nameToIndex (cString r.interface)
    if ifIndex ≤ 0 then m
    else
      match m.getService kernel ⟨ifIndex, UInt8.ofInt r.vrid, familyOf r.addressFamily⟩
          (UInt64.ofInt r.vlanId) true with
      | (m, none) => m
      | (m, some service) => m.update service (configure kernel r)

/-- The locals of the loop body are new in every iteration, and so is what `vlanId` holds in
the iteration with `count` more to come. -/
def readRouters (version : Int) : (count : Nat) → VrrpManager → Text → VrrpManager × Bool
  | 0, m, _ => (m, true)
  | count + 1, m, file =>
    match readRouter version (indeterminate count) file with
    | none => (m, false)
    | some (router, rest) => readRouters version count (restore libc kernel m router) rest

def readHeader : Reader (Int × Int) := do
  let version ← readInt
  if version ≠ 1 ∧ version ≠ 2 ∧ version ≠ 3 then Decoder.fail
  else
    let routerCount ← readInt
    if routerCount < 0 then Decoder.fail else pure (version, routerCount)

def readConfiguration (m : VrrpManager) (file : Text) : VrrpManager × Bool :=
  match readHeader file with
  | none => (m, false)
  | some ((version, routerCount), rest) =>
    readRouters libc kernel indeterminate version routerCount.toNat m rest

/-! ### Writing -/

def services (m : VrrpManager) : List VrrpService := m.services.toList.map Prod.snd

def writeRouter (s : VrrpService) : Text :=
  let flags := if s.autoPrimaryIpAddress then 0 else 1
  writeString (libc.indexToName s.interface) ++ (writeInt s.virtualRouterId.toNat ++
    (writeInt s.family.number ++ (writeInt s.priority.1.toNat ++
    (writeInt (s.advertisementInterval.value * 10) ++ (writeBoolean s.acceptMode ++
    (writeBoolean s.preemptMode ++ (writeBoolean s.enabled ++ (writeInt flags ++
    ((if hasPrimaryIpAddress flags then writeIp s.primaryIpAddress else []) ++
    (writeString s.masterCommand ++ (writeString s.backupCommand ++
    (writeInt s.vlanId.toNat ++ (writeInt s.subnets.size ++
    s.subnets.toList.flatMap writeSubnet)))))))))))))

def writeConfiguration (m : VrrpManager) : Text :=
  writeInt 3 ++ (writeInt (services m).length ++ (services m).flatMap (writeRouter libc))

end Answers

end Configurator

end OpenVrrp
