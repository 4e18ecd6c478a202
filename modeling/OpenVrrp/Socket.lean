import OpenVrrp.Service
import OpenVrrp.Util

/-! VrrpSocket (vrrpsocket.h, vrrpsocket.cpp): the listeners of one family, the packet that
is built for an advertisement, and the checks a received packet goes through. A listener
is whatever the caller registers. Reads of m_buffer are kept with the result. -/
namespace OpenVrrp

/-- `sizeof(m_buffer)`. -/
def packetCapacity : Nat := 2048

def protocolVrrp : Nat := 112

def upperNibble (b : UInt8) : Nat := b.toNat / 16
def lowerNibble (b : UInt8) : Nat := b.toNat % 16

theorem lowerNibble_lt (b : UInt8) : lowerNibble b < 16 := Nat.mod_lt _ (by decide)

inductive Call (ι : Type) where
  | onIncomingVrrpPacket (listener : ι) (interface : Int) (address : IpAddress)
      (virtualRouterId priority : UInt8) (maxAdvertisementInterval : WireInterval)
      (addresses : List IpAddress)
  | onIncomingVrrpError (listener : ι) (interface : Int) (virtualRouterId : UInt8)
      (error : ListenerError)
  deriving DecidableEq

inductive RouterStatistic where
  | routerChecksumErrors | routerVersionErrors | routerVrIdErrors
  deriving DecidableEq

/-- What `recvmsg` and `decodeControlMessage` deliver. -/
structure Datagram where
  buffer : Memory.Cells
  interface : Int
  srcAddress : IpAddress
  dstAddress : IpAddress

structure Handled (ι : Type) where
  result : Bool
  calls : List (Call ι)
  counted : Option RouterStatistic
  deriving DecidableEq

structure VrrpSocket (ι : Type) where
  family : Family
  listeners : Nested.Registry Int UInt8 ι
  interfaceCount : Std.TreeMap Int Nat

structure Packet where
  buffer : Memory.Cells
  size : Nat

def multicastAddress : Family → IpAddress
  | .inet => ⟨.inet, [224, 0, 0, 18], rfl⟩
  | .inet6 => ⟨.inet6, [0xFF, 0x12, 0, 0, 0, 0, 0, 0, 0, 0, 0, 0, 0, 0, 0, 0x12], rfl⟩
  | .unspec => .unspec

namespace VrrpSocket

variable {ι : Type}

/-! ### Registration -/

def addEventListener (socket : VrrpSocket ι) (interface : Int) (virtualRouterId : UInt8)
    (eventListener : ι) : VrrpSocket ι :=
  { socket with listeners := Nested.put socket.listeners interface virtualRouterId eventListener }

def removeEventListener (socket : VrrpSocket ι) (interface : Int) (virtualRouterId : UInt8) :
    VrrpSocket ι :=
  { socket with listeners := Nested.drop socket.listeners interface virtualRouterId }

/-- `joined` says whether the kernel accepted the multicast membership. -/
def addInterface (socket : VrrpSocket ι) (joined : Bool) (interface : Int) :
    VrrpSocket ι × Bool :=
  match socket.interfaceCount[interface]? with
  | some count =>
    ({ socket with interfaceCount := socket.interfaceCount.insert interface (count + 1) }, true)
  | none =>
    if joined then
      ({ socket with interfaceCount := socket.interfaceCount.insert interface 1 }, true)
    else (socket, false)

def removeInterface (socket : VrrpSocket ι) (left : Bool) (interface : Int) :
    VrrpSocket ι × Bool :=
  match socket.interfaceCount[interface]? with
  | none => (socket, false)
  | some 1 =>
    if left then ({ socket with interfaceCount := socket.interfaceCount.erase interface }, true)
    else (socket, false)
  | some count =>
    ({ socket with interfaceCount := socket.interfaceCount.insert interface (count - 1) }, true)

/-! ### Sending -/

def appendAddresses (family : Family) : List IpAddress → (buffer : Memory.Cells) → (ptr : Nat) →
    Option Memory.Cells
  | [], buffer, _ => some buffer
  | address :: rest, buffer, ptr =>
    if address.family ≠ family then none
    else
      appendAddresses family rest (Memory.store buffer ptr address.data) (ptr + familySize family)

def sendPacket (socket : VrrpSocket ι) (buffer : Memory.Cells) (address : IpAddress)
    (virtualRouterId priority : UInt8) (maxAdvertisementInterval : Nat)
    (addresses : IpAddressSet) : Option Packet :=
  if address.family ≠ socket.family then none
  else
    let header := [0x31, virtualRouterId, priority, UInt8.ofNat addresses.size,
      UInt8.ofNat (maxAdvertisementInterval / 256 % 16),
      UInt8.ofNat (maxAdvertisementInterval % 256), 0, 0]
    let buffer := Memory.store buffer 0 header
    match appendAddresses socket.family addresses.toList buffer 8 with
    | none => none
    | some buffer =>
      let packetSize := 8 + addresses.size * familySize socket.family
      let sum := (Util.checksum buffer 0 packetSize address (multicastAddress socket.family)
        protocolVrrp).value
      some ⟨Memory.store buffer 6 (Octets.encode 2 sum), packetSize⟩

/-! ### Receiving -/

/-- The IPv6 extension headers, one after the other; `none` when the walk leaves m_buffer. -/
def skipExtensions (buffer : Memory.Cells) : (fuel packet : Nat) → (size : Int) →
    Reading (Option (Nat × Int))
  | 0, _, _ => pure none
  | fuel + 1, packet, size =>
    if packet < packetCapacity then do
      let next ← Reading.byte buffer packet
      if next.toNat = protocolVrrp then pure (some (packet, size))
      else do
        let length ← Reading.byte buffer (packet + 1)
        skipExtensions buffer fuel (packet + length.toNat + 2) (size - (length.toNat + 2))
    else pure none

def readHeader (family : Family) (buffer : Memory.Cells) : Reading (Option (Nat × Int × UInt8)) :=
  if family = .inet then do
    let ihl ← Reading.byte buffer 0
    let total ← Reading.bytes buffer 2 2
    let ttl ← Reading.byte buffer 8
    let packet := lowerNibble ihl * 4
    pure (some (packet, (Octets.value total : Int) - packet, ttl))
  else do
    let payload ← Reading.bytes buffer 4 2
    let hops ← Reading.byte buffer 7
    let next ← Reading.byte buffer 6
    if next.toNat = protocolVrrp then pure (some (40, (Octets.value payload : Int), hops))
    else do
      let found ← skipExtensions buffer packetCapacity 40 (Octets.value payload)
      pure (found.map fun (packet, size) => (packet, size, hops))

def readAddresses (family : Family) (buffer : Memory.Cells) : (count ptr : Nat) →
    Reading (List IpAddress)
  | 0, _ => pure []
  | count + 1, ptr => do
    let _ ← Reading.bytes buffer ptr (familySize family)
    let rest ← readAddresses family buffer count (ptr + familySize family)
    pure (IpAddress.load buffer ptr family :: rest)

def notifyAll (listeners : Std.TreeMap UInt8 ι) (interface : Int) (error : ListenerError) :
    List (Call ι) :=
  listeners.toList.map fun (virtualRouterId, listener) =>
    .onIncomingVrrpError listener interface virtualRouterId error

def notify (listeners : Std.TreeMap UInt8 ι) (interface : Int) (virtualRouterId : UInt8)
    (error : ListenerError) : List (Call ι) :=
  match listeners[virtualRouterId]? with
  | some listener => [.onIncomingVrrpError listener interface virtualRouterId error]
  | none => []

/-- Zero where the destination is unknown and the checksum is not verified. -/
def verifyChecksum (d : Datagram) (packet : Nat) (size : Int) : Reading Nat :=
  if d.dstAddress.family = .unspec then pure 0
  else Util.checksum d.buffer packet size.toNat d.srcAddress d.dstAddress protocolVrrp

/-- The part of `onSocketPacket` behind the checksum and the type. -/
def receiveAdvertisement (family : Family) (d : Datagram) (listeners : Std.TreeMap UInt8 ι)
    (packet : Nat) (size : Int) (ttl : UInt8) : Reading (Handled ι) := do
  let virtualRouterId ← Reading.byte d.buffer (packet + 1)
  let priority ← Reading.byte d.buffer (packet + 2)
  let addressCount ← Reading.byte d.buffer (packet + 3)
  let high ← Reading.byte d.buffer (packet + 4)
  let low ← Reading.byte d.buffer (packet + 5)
  let maxAdvertisementInterval : WireInterval :=
    ⟨lowerNibble high * 256 + low.toNat, by
      have := lowerNibble_lt high
      have : low.toNat < 256 := low.toNat_lt
      omega⟩
  match listeners[virtualRouterId]? with
  | none => pure ⟨false, notifyAll listeners d.interface .vrIdError, some .routerVrIdErrors⟩
  | some listener =>
    if ttl ≠ 255 then
      pure ⟨false, [.onIncomingVrrpError listener d.interface virtualRouterId .ipTtlError], none⟩
    else if size < 8 + addressCount.toNat * familySize family then
      pure ⟨false,
        [.onIncomingVrrpError listener d.interface virtualRouterId .packetLengthError], none⟩
    else do
      let addresses ← readAddresses family d.buffer addressCount.toNat (packet + 8)
      pure ⟨true, [.onIncomingVrrpPacket listener d.interface d.srcAddress virtualRouterId
        priority maxAdvertisementInterval addresses], none⟩

/-- The checks of `onSocketPacket` behind the IP header. -/
def receivePacket (family : Family) (d : Datagram) (listeners : Std.TreeMap UInt8 ι)
    (packet : Nat) (size : Int) (ttl : UInt8) : Reading (Handled ι) :=
  if size < 8 then pure ⟨false, notifyAll listeners d.interface .packetLengthError, none⟩
  else do
    let first ← Reading.byte d.buffer packet
    if upperNibble first ≠ 3 then
      if first = 0x21 then do
        let virtualRouterId ← Reading.byte d.buffer (packet + 1)
        pure ⟨false, notify listeners d.interface virtualRouterId .versionError,
          some .routerVersionErrors⟩
      else pure ⟨false, [], some .routerVersionErrors⟩
    else do
      let sum ← verifyChecksum d packet size
      if sum ≠ 0 then pure ⟨false, [], some .routerChecksumErrors⟩
      else if lowerNibble first ≠ 1 then
        pure ⟨false, notifyAll listeners d.interface .invalidTypeError, none⟩
      else receiveAdvertisement family d listeners packet size ttl

/-- `none` when the walk over the IPv6 extension headers leaves m_buffer. -/
def onSocketPacket (socket : VrrpSocket ι) (d : Datagram) : Reading (Option (Handled ι)) :=
  match socket.listeners[d.interface]? with
  | none => pure (some ⟨false, [], none⟩)
  | some listeners => do
    match ← readHeader socket.family d.buffer with
    | none => pure none
    | some (packet, size, ttl) =>
      some <$> receivePacket socket.family d listeners packet size ttl

end VrrpSocket

end OpenVrrp
