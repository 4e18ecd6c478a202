import OpenVrrp.ArpService
import OpenVrrp.Text
import OpenVrrp.Timer

/-! VrrpService (vrrpservice.h, vrrpservice.cpp): the state of one virtual router and
its operations. An operation returns the new state and, in order, what it asked of the
socket, of Netlink, of ArpService and of the shell. None of the answers is ever read
back by the service. Log lines are left out; the counters, 64 bits wide, do not wrap here. -/
namespace OpenVrrp

inductive State where
  | disabled | linkDown | backup | master
  deriving DecidableEq, Repr

inductive NewMasterReason where
  | notMaster | priority | preempted | masterNotResponding
  deriving DecidableEq, Repr

inductive ProtocolErrorReason where
  | noError | ipTtlError | versionError | checksumError | vrIdError
  deriving DecidableEq, Repr

inductive ListenerError where
  | checksumError | versionError | vrIdError | advIntervalError | ipTtlError
  | invalidTypeError | packetLengthError
  deriving DecidableEq, Repr

/-- A configured priority: `setPriority` refuses zero. -/
abbrev Priority := { p : UInt8 // p ≠ 0 }

/-- A configured interval in units of 10 ms: `setAdvertisementInterval` checks both bounds. -/
@[ext] structure AdvertisementInterval where
  value : Nat
  positive : 1 ≤ value
  bounded : value ≤ 4095
  deriving DecidableEq

/-- An interval as it travels in a packet: twelve bits, zero included. -/
abbrev WireInterval := Fin 4096

def AdvertisementInterval.toWire (i : AdvertisementInterval) : WireInterval :=
  ⟨i.value, Nat.lt_succ_of_le i.bounded⟩

structure Environment where
  interface : Int
  virtualInterface : Int
  virtualRouterId : UInt8
  priority : UInt8
  primaryIp : IpAddress
  masterIp : IpAddress
  adverInt : Nat
  masterAdverInt : Nat
  preempt : Bool
  accept : Bool
  isMaster : Bool
  ipList : List IpAddress
  family : Family

inductive Effect where
  | sendPacket (interface : Int) (address : IpAddress) (virtualRouterId priority : UInt8)
      (maxAdvertisementInterval : Nat) (addresses : IpAddressSet)
  | sendGratuitiousArp (interface : Int) (address : IpAddress)
  | toggleInterface (interface : Int) (up : Bool)
  | addIpAddress (interface : Int) (subnet : IpSubnet)
  | removeIpAddress (interface : Int) (subnet : IpSubnet)
  | addFakeArp (interface : Int) (address : IpAddress) (mac : Mac)
  | removeFakeArp (interface : Int) (address : IpAddress)
  | executeScript (command : Text) (environment : Environment)

structure VrrpService where
  virtualRouterId : UInt8
  priority : Priority
  primaryIpAddress : IpAddress
  autoPrimaryIpAddress : Bool
  masterIpAddress : IpAddress
  advertisementInterval : AdvertisementInterval
  masterAdvertisementInterval : WireInterval
  preemptMode : Bool
  acceptMode : Bool
  masterDownTimer : Timer
  advertisementTimer : Timer
  state : State
  family : Family
  interface : Int
  macvlanInterface : Int
  vlanInterface : Int
  outputInterface : Int
  inputInterface : Int
  mac : Mac
  subnets : IpSubnetSet
  addresses : IpAddressSet
  backupCommand : Text
  masterCommand : Text
  vlanId : UInt64
  statsMasterTransitions : Nat
  statsNewMasterReason : NewMasterReason
  statsRcvdAdvertisements : Nat
  statsAdvIntervalErrors : Nat
  statsIpTtlErrors : Nat
  statsProtocolErrReason : ProtocolErrorReason
  statsRcvdPriZeroPackets : Nat
  statsSentPriZeroPackets : Nat
  statsRcvdInvalidTypePackets : Nat
  statsAddressListErrors : Nat
  statsPacketLengthErrors : Nat
  pendingNewMasterReason : NewMasterReason

abbrev Outcome := VrrpService × List Effect

structure Creation where
  primaryIpAddress : IpAddress
  macvlanInterface : Int
  hardwareAddress : Option Mac
  vlanInterface : Int

/-- The address 00-00-5E-00-01-VRID (IPv4) or 00-00-5E-00-02-VRID (IPv6). -/
def virtualMac (family : Family) (virtualRouterId : UInt8) : Mac :=
  #v[0x00, 0x00, 0x5E, 0x00, if family = .inet then 1 else 2, virtualRouterId]

/-- `sizeof("vrrpx.xxx.xxxx")`: the local buffer `name` of the constructor. -/
def nameCapacity : Nat := 15

def macvlanName (family : Family) (virtualRouterId : UInt8) : Text :=
  ascii "vrrp" ++ (if family = .inet6 then ascii "6" else []) ++ ascii "." ++
    decimal virtualRouterId.toNat

/-- The VLAN id is cut to an unsigned short. -/
def vlanName (family : Family) (virtualRouterId : UInt8) (vlanId : UInt64) : Text :=
  ascii "vrrp" ++ (if family = .inet6 then ascii "6" else []) ++ ascii "." ++
    decimal virtualRouterId.toNat ++ ascii "." ++ decimal vlanId.toUInt16.toNat

namespace VrrpService

/-- The member initialisers of the constructor. -/
def fresh (interface : Int) (family : Family) (virtualRouterId : UInt8) (vlanId : UInt64)
    (primary : IpAddress) : VrrpService where
  virtualRouterId := virtualRouterId
  priority := ⟨100, by decide⟩
  primaryIpAddress := primary
  autoPrimaryIpAddress := true
  masterIpAddress := .unspec
  advertisementInterval := ⟨100, by decide, by decide⟩
  masterAdvertisementInterval := 100
  preemptMode := true
  acceptMode := decide (family = .inet6 ∨ vlanId ≠ 0)
  masterDownTimer := .new
  advertisementTimer := .new
  state := .disabled
  family := family
  interface := interface
  macvlanInterface := -1
  vlanInterface := -1
  outputInterface := interface
  inputInterface := interface
  mac := virtualMac family virtualRouterId
  subnets := ∅
  addresses := ∅
  backupCommand := []
  masterCommand := []
  vlanId := vlanId
  statsMasterTransitions := 0
  statsNewMasterReason := .notMaster
  statsRcvdAdvertisements := 0
  statsAdvIntervalErrors := 0
  statsIpTtlErrors := 0
  statsProtocolErrReason := .noError
  statsRcvdPriZeroPackets := 0
  statsSentPriZeroPackets := 0
  statsRcvdInvalidTypePackets := 0
  statsAddressListErrors := 0
  statsPacketLengthErrors := 0
  pendingNewMasterReason := .masterNotResponding

/-- The part of the constructor that makes the MACVLAN interface: without it the service
runs on the physical interface with the hardware address. -/
def createMacvlan (s : VrrpService) (answers : Creation) : VrrpService :=
  let s := { s with macvlanInterface := answers.macvlanInterface }
  if s.macvlanInterface < 0 then { s with mac := answers.hardwareAddress.getD s.mac }
  else { s with outputInterface := s.macvlanInterface }

/-- The constructor, for a socket of the family that could be opened; `none` stands for
`error () = 1`, which a refused VLAN interface leaves behind. -/
def construct (interface : Int) (family : Family) (virtualRouterId : UInt8) (vlanId : UInt64)
    (answers : Creation) : Option VrrpService :=
  let s := (fresh interface family virtualRouterId vlanId answers.primaryIpAddress).createMacvlan
    answers
  if 0 < s.vlanId then
    let s := { s with vlanInterface := answers.vlanInterface }
    if s.vlanInterface < 0 then none
    else some { s with outputInterface := s.vlanInterface, inputInterface := s.vlanInterface }
  else some s

def sample (host : UInt8) : VrrpService :=
  (fresh 2 .inet 51 0 (.sample host)).createMacvlan ⟨.sample host, 7, none, -1⟩

theorem construct_sample (host : UInt8) :
    construct 2 .inet 51 0 ⟨.sample host, 7, none, -1⟩ = some (sample host) := rfl

/-! ### Getters and setters -/

def skewTime (s : VrrpService) : Nat :=
  (256 - s.priority.1.toNat) * s.masterAdvertisementInterval.val / 256

def masterDownInterval (s : VrrpService) : Nat :=
  3 * s.masterAdvertisementInterval.val + s.skewTime

def enabled (s : VrrpService) : Bool := s.state != .disabled

def setPrimaryIpAddress (s : VrrpService) (address : IpAddress) : VrrpService :=
  if address.family = s.family then
    { s with primaryIpAddress := address, autoPrimaryIpAddress := false }
  else s

/-- `found` is what Netlink::getPrimaryIpAddress returns. -/
def unsetPrimaryIpAddress (s : VrrpService) (found : IpAddress) : VrrpService :=
  if s.autoPrimaryIpAddress then s
  else { s with primaryIpAddress := found, autoPrimaryIpAddress := false }

def setAdvertisementInterval (s : VrrpService) (n : Nat) : VrrpService :=
  if h : n < 1 ∨ 4095 < n then s
  else { s with advertisementInterval := ⟨n, by omega, by omega⟩ }

def setPreemptMode (s : VrrpService) (enabled : Bool) : VrrpService :=
  { s with preemptMode := enabled }

def setMasterCommand (s : VrrpService) (command : Text) : VrrpService :=
  { s with masterCommand := command }

def setBackupCommand (s : VrrpService) (command : Text) : VrrpService :=
  { s with backupCommand := command }

/-! ### Requests to the kernel, the network and the shell -/

def sendAdvertisement (s : VrrpService) (priority : UInt8) : Effect :=
  .sendPacket s.outputInterface s.primaryIpAddress s.virtualRouterId priority
    s.advertisementInterval.value s.addresses

def sendARPs (s : VrrpService) : List Effect :=
  s.addresses.toList.map (Effect.sendGratuitiousArp s.outputInterface)

def setVirtualMac (s : VrrpService) : List Effect :=
  (if s.macvlanInterface ≠ -1 then [.toggleInterface s.macvlanInterface true] else []) ++
  (if s.vlanInterface ≠ -1 then [.toggleInterface s.vlanInterface true] else [])

def setDefaultMac (s : VrrpService) : List Effect :=
  (if s.vlanInterface ≠ -1 then [.toggleInterface s.vlanInterface false] else []) ++
  (if s.macvlanInterface ≠ -1 then [.toggleInterface s.macvlanInterface false] else [])

/-- The test that `addIpAddresses` and its siblings make: the addresses belong on the
output interface and not into the fake-ARP table. -/
def onInterface (s : VrrpService) : Bool := s.acceptMode || s.priority.1 == 255

def addIpAddresses (s : VrrpService) : List Effect :=
  if s.onInterface then s.subnets.toList.map (Effect.addIpAddress s.outputInterface)
  else s.subnets.toList.map fun subnet => .addFakeArp s.interface subnet.address s.mac

def removeIpAddresses (s : VrrpService) : List Effect :=
  if s.onInterface then s.subnets.toList.map (Effect.removeIpAddress s.outputInterface)
  else s.subnets.toList.map fun subnet => .removeFakeArp s.interface subnet.address

/-- The loop that `setPriority` and `setAcceptMode` share: from ArpService to the interface. -/
def moveToInterface (s : VrrpService) : List Effect :=
  s.subnets.toList.flatMap fun subnet =>
    [.addIpAddress s.outputInterface subnet, .removeFakeArp s.interface subnet.address]

def moveToFakeArp (s : VrrpService) : List Effect :=
  s.subnets.toList.flatMap fun subnet =>
    [.addFakeArp s.interface subnet.address s.mac, .removeIpAddress s.outputInterface subnet]

def environment (s : VrrpService) : Environment where
  interface := s.interface
  virtualInterface := s.outputInterface
  virtualRouterId := s.virtualRouterId
  priority := s.priority.1
  primaryIp := s.primaryIpAddress
  masterIp := s.masterIpAddress
  adverInt := s.advertisementInterval.value
  masterAdverInt := s.masterAdvertisementInterval.val
  preempt := s.preemptMode
  accept := s.acceptMode
  isMaster := s.state == .master
  ipList := s.subnets.toList.map IpSubnet.address
  family := s.family

def script (s : VrrpService) (command : Text) : List Effect :=
  if command.length ≠ 0 then [.executeScript command s.environment] else []

/-! ### State changes -/

def setState (s : VrrpService) (state : State) : Outcome :=
  if s.state ≠ state then
    let oldState := s.state
    let s := { s with state := state }
    let placement :=
      if s.state = .master then
        s.setVirtualMac ++ s.addIpAddresses ++ [s.sendAdvertisement s.priority.1]
      else (if oldState = .master then s.removeIpAddresses else []) ++ s.setDefaultMac
    let commands :=
      if state = .backup then s.script s.backupCommand
      else if state = .master then s.script s.masterCommand
      else []
    (s, placement ++ commands)
  else (s, [])

def startMasterDownTimer (s : VrrpService) (msec : Nat) : VrrpService :=
  { s with masterDownTimer := s.masterDownTimer.start msec }

def stopMasterDownTimer (s : VrrpService) : VrrpService :=
  { s with masterDownTimer := s.masterDownTimer.stop }

def startAdvertisementTimer (s : VrrpService) (msec : Nat) : VrrpService :=
  { s with advertisementTimer := s.advertisementTimer.start msec }

def stopAdvertisementTimer (s : VrrpService) : VrrpService :=
  { s with advertisementTimer := s.advertisementTimer.stop }

/-- What `startup` and `onMasterDownTimer` have in common: the transition to Master. -/
def becomeMaster (s : VrrpService) (reason : NewMasterReason) : Outcome :=
  let (s, entered) := s.setState .master
  let arps := if s.family = .inet then s.sendARPs else []
  let s := s.startAdvertisementTimer (s.advertisementInterval.value * 10)
  ({ s with
      statsMasterTransitions := s.statsMasterTransitions + 1
      statsNewMasterReason := reason
      masterIpAddress := s.primaryIpAddress }, entered ++ arps)

def startup (s : VrrpService) : Outcome :=
  if s.priority.1 = 255 then s.becomeMaster .preempted
  else
    let s := { s with masterAdvertisementInterval := s.advertisementInterval.toWire }
    let s := s.startMasterDownTimer (s.masterDownInterval * 10)
    let (s, effects) := s.setState .backup
    ({ s with statsNewMasterReason := .notMaster }, effects)

def shutdown (s : VrrpService) (newState : State) : Outcome :=
  if s.state = .backup then s.stopMasterDownTimer.setState newState
  else if s.state = .master then
    let s := s.stopAdvertisementTimer
    let farewell := s.sendAdvertisement 0
    let (s, effects) := s.setState newState
    ({ s with statsSentPriZeroPackets := s.statsSentPriZeroPackets + 1 }, farewell :: effects)
  else (s, [])

def onMasterDownTimer (s : VrrpService) : Outcome :=
  if s.state = .backup then s.becomeMaster s.pendingNewMasterReason else (s, [])

def onAdvertisementTimer (s : VrrpService) : Outcome :=
  if s.state = .master then
    (s.startAdvertisementTimer (s.advertisementInterval.value * 10),
      [s.sendAdvertisement s.priority.1])
  else (s, [])

def enable (s : VrrpService) (isInterfaceUp : Bool) : Outcome :=
  if s.state = .disabled then
    if isInterfaceUp then s.startup else s.setState .linkDown
  else (s, [])

def disable (s : VrrpService) : Outcome :=
  if s.state ≠ .disabled then s.shutdown .disabled else (s, [])

def interfaceCallback (s : VrrpService) (isUp : Bool) : Outcome :=
  if isUp then if s.state = .linkDown then s.startup else (s, [])
  else if s.state ≠ .disabled then s.shutdown .linkDown else (s, [])

/-! ### Configuration while running -/

def setPriority (s : VrrpService) (priority : UInt8) : Outcome :=
  if h : priority = 0 then (s, [])
  else
    let effects :=
      if s.state = .master ∧ ¬ s.acceptMode then
        if s.priority.1 ≠ 255 ∧ priority = 255 then s.moveToInterface
        else if s.priority.1 = 255 ∧ priority ≠ 255 then s.moveToFakeArp
        else []
      else []
    ({ s with priority := ⟨priority, h⟩ }, effects)

def setAcceptMode (s : VrrpService) (enabled : Bool) : Outcome :=
  if s.acceptMode = enabled then (s, [])
  else if s.family = .inet6 ∨ s.vlanId ≠ 0 then (s, [])
  else
    let effects :=
      if s.state = .master then if enabled then s.moveToInterface else s.moveToFakeArp
      else []
    ({ s with acceptMode := enabled }, effects)

def addIpAddress (s : VrrpService) (subnet : IpSubnet) : Outcome :=
  if subnet.address.family ≠ s.family then (s, [])
  else
    let s := { s with
      subnets := s.subnets.insert subnet
      addresses := s.addresses.insert subnet.address }
    let effects :=
      if s.state = .master then
        if s.onInterface then [.addIpAddress s.outputInterface subnet]
        else [.addFakeArp s.outputInterface subnet.address s.mac]
      else []
    (s, effects)

def removeIpAddress (s : VrrpService) (subnet : IpSubnet) : Outcome :=
  let s := { s with
    subnets := s.subnets.erase subnet
    addresses := s.addresses.erase subnet.address }
  let effects :=
    if s.state = .master then
      if s.onInterface then [.removeIpAddress s.outputInterface subnet]
      else [.removeFakeArp s.outputInterface subnet.address]
    else []
  (s, effects)

/-! ### Incoming packets -/

/-- `std::set_difference` of two sorted ranges. -/
def setDifference : List IpAddress → List IpAddress → List IpAddress
  | [], _ => []
  | a :: as, [] => a :: as
  | a :: as, b :: bs =>
    if a.operatorLess b then a :: setDifference as (b :: bs)
    else if b.operatorLess a then setDifference (a :: as) bs
    else setDifference as bs
  termination_by as bs => as.length + bs.length

def addressDifference (s : VrrpService) (addresses : List IpAddress) : List IpAddress :=
  setDifference (addresses.mergeSort fun a b => decide (a ≤ b)) s.addresses.toList

def setPendingReason (s : VrrpService) (reason : NewMasterReason) : VrrpService :=
  { s with pendingNewMasterReason := reason }

/-- The master stops gracefully while we are Backup: wait the skew time. -/
def masterStopped (s : VrrpService) : VrrpService :=
  { s with
    masterDownTimer := s.masterDownTimer.start (s.skewTime * 10)
    statsRcvdPriZeroPackets := s.statsRcvdPriZeroPackets + 1
    pendingNewMasterReason := .priority }

/-- A conflicting master stops gracefully while we are Master: remind everybody of us. -/
def remind (s : VrrpService) : Outcome :=
  let reminder := s.sendAdvertisement s.priority.1
  let s := s.startAdvertisementTimer (s.advertisementInterval.value * 10)
  ({ s with
      statsRcvdPriZeroPackets := s.statsRcvdPriZeroPackets + 1
      pendingNewMasterReason := .priority }, [reminder])

def refresh (s : VrrpService) (address : IpAddress) (maxAdvertisementInterval : WireInterval)
    (addresses : List IpAddress) : VrrpService :=
  let s := { s with masterAdvertisementInterval := maxAdvertisementInterval }
  let s := s.startMasterDownTimer (s.masterDownInterval * 10)
  { s with
    masterIpAddress := address
    statsAddressListErrors :=
      if 0 < (s.addressDifference addresses).length then s.statsAddressListErrors + 1
      else s.statsAddressListErrors
    pendingNewMasterReason := .masterNotResponding }

def yield (s : VrrpService) (maxAdvertisementInterval : WireInterval) : Outcome :=
  let s := s.stopAdvertisementTimer
  let s := { s with masterAdvertisementInterval := maxAdvertisementInterval }
  let s := s.startMasterDownTimer (s.masterDownInterval * 10)
  let (s, effects) := s.setState .backup
  ({ s with pendingNewMasterReason := .priority }, effects ++ s.setDefaultMac)

/-- The two counters at the head of `onIncomingVrrpPacket`. The comparison is the source's
own: the negated interval, zero or one, against the configured interval. -/
def countAdvertisement (s : VrrpService) (maxAdvertisementInterval : WireInterval) :
    VrrpService :=
  let negated := if maxAdvertisementInterval.val = 0 then 1 else 0
  { s with
    statsRcvdAdvertisements := s.statsRcvdAdvertisements + 1
    statsProtocolErrReason := .noError
    statsAdvIntervalErrors :=
      if negated ≠ s.advertisementInterval.value then s.statsAdvIntervalErrors + 1
      else s.statsAdvIntervalErrors }

def outranked (s : VrrpService) (address : IpAddress) (priority : UInt8) : Bool :=
  s.priority.1 < priority ||
    (priority == s.priority.1 && address.operatorGreater s.primaryIpAddress)

def onIncomingVrrpPacket (s : VrrpService) (address : IpAddress) (priority : UInt8)
    (maxAdvertisementInterval : WireInterval) (addresses : List IpAddress) : Outcome :=
  let s := s.countAdvertisement maxAdvertisementInterval
  match s.state with
  | .backup =>
    if priority = 0 then (s.masterStopped, [])
    else if !s.preemptMode || s.priority.1 ≤ priority then
      (s.refresh address maxAdvertisementInterval addresses, [])
    else if s.preemptMode then (s.setPendingReason .preempted, [])
    else (s.setPendingReason .priority, [])
  | .master =>
    if priority = 0 then s.remind
    else if s.outranked address priority then s.yield maxAdvertisementInterval
    else (s, [])
  | _ => (s, [])

def setProtocolErrorReason (s : VrrpService) (reason : ProtocolErrorReason) : VrrpService :=
  { s with statsProtocolErrReason := reason }

/-- An IpTtlError sets the reason only: `statsIpTtlErrors` is never incremented. -/
def onIncomingVrrpError (s : VrrpService) (error : ListenerError) : VrrpService :=
  match error with
  | .checksumError => s.setProtocolErrorReason .checksumError
  | .versionError => s.setProtocolErrorReason .versionError
  | .vrIdError => s.setProtocolErrorReason .vrIdError
  | .advIntervalError => { s with statsAdvIntervalErrors := s.statsAdvIntervalErrors + 1 }
  | .ipTtlError => s.setProtocolErrorReason .ipTtlError
  | .invalidTypeError =>
    { s with statsRcvdInvalidTypePackets := s.statsRcvdInvalidTypePackets + 1 }
  | .packetLengthError => { s with statsPacketLengthErrors := s.statsPacketLengthErrors + 1 }

/-! ### Events -/

/-- `Timer::callback` on `m_masterDownTimer`. -/
def masterDownExpiry (s : VrrpService) : Outcome :=
  if s.masterDownTimer.armed then s.stopMasterDownTimer.onMasterDownTimer else (s, [])

def advertisementExpiry (s : VrrpService) : Outcome :=
  if s.advertisementTimer.armed then s.stopAdvertisementTimer.onAdvertisementTimer else (s, [])

end VrrpService

inductive Event where
  | enable (isInterfaceUp : Bool)
  | disable
  | interfaceCallback (isUp : Bool)
  | masterDownExpiry
  | advertisementExpiry
  | incomingPacket (address : IpAddress) (priority : UInt8)
      (maxAdvertisementInterval : WireInterval) (addresses : List IpAddress)
  | incomingError (error : ListenerError)
  | setPrimaryIpAddress (address : IpAddress)
  | unsetPrimaryIpAddress (found : IpAddress)
  | setPriority (priority : UInt8)
  | setAdvertisementInterval (advertisementInterval : Nat)
  | setPreemptMode (enabled : Bool)
  | setAcceptMode (enabled : Bool)
  | addIpAddress (subnet : IpSubnet)
  | removeIpAddress (subnet : IpSubnet)
  | setMasterCommand (command : Text)
  | setBackupCommand (command : Text)

namespace VrrpService

def step (s : VrrpService) : Event → Outcome
  | .enable isInterfaceUp => s.enable isInterfaceUp
  | .disable => s.disable
  | .interfaceCallback isUp => s.interfaceCallback isUp
  | .masterDownExpiry => s.masterDownExpiry
  | .advertisementExpiry => s.advertisementExpiry
  | .incomingPacket address priority interval addresses =>
    s.onIncomingVrrpPacket address priority interval addresses
  | .incomingError error => (s.onIncomingVrrpError error, [])
  | .setPrimaryIpAddress address => (s.setPrimaryIpAddress address, [])
  | .unsetPrimaryIpAddress found => (s.unsetPrimaryIpAddress found, [])
  | .setPriority priority => s.setPriority priority
  | .setAdvertisementInterval n => (s.setAdvertisementInterval n, [])
  | .setPreemptMode enabled => (s.setPreemptMode enabled, [])
  | .setAcceptMode enabled => s.setAcceptMode enabled
  | .addIpAddress subnet => s.addIpAddress subnet
  | .removeIpAddress subnet => s.removeIpAddress subnet
  | .setMasterCommand command => (s.setMasterCommand command, [])
  | .setBackupCommand command => (s.setBackupCommand command, [])

end VrrpService

end OpenVrrp
