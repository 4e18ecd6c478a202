import OpenVrrp.Library.Reading
import OpenVrrp.Telnet.Commands

/-! Which of its words a command of TelnetSession reads. The handlers are translated once more,
in the order in which the source evaluates its conditions, with the index of every `argv[k]`.
Without an index out of bounds they do what Commands.lean says. -/
namespace OpenVrrp.TelnetSession.Reads

variable (libc : Libc) (kernel : Kernel) (m : VrrpManager) (argv : List Text)

/-- `argv[k]`; behind the end it is something without a meaning. -/
def word (k : Nat) : Reading Text := ⟨argv[k]?.getD [], [k]⟩

/-- `std::strcmp(argv[k], text) == 0`. -/
def same (k : Nat) (text : String) : Reading Bool := (· == ascii text) <$> word argv k

/-- `guard && test`. -/
def both (guard : Bool) (test : Reading Bool) : Reading Bool :=
  if guard then test else pure false

abbrev Reaction := Reading (VrrpManager × List Text)

/-- The family and the VLAN id in `xxx xxx INTF VRID [vlan VLAN] [ipv6]`. -/
def readOptions (create : Bool) : Reading (Family × UInt64) := do
  let withVlan ← both (create && decide (6 ≤ argv.length)) (same argv 4 "vlan")
  if withVlan then
    let ipv6 ← both (decide (7 ≤ argv.length)) (same argv 6 "ipv6")
    let vlanId := UInt64.ofInt (atoi (← word argv 5))
    return (if ipv6 then .inet6 else .inet, vlanId)
  else
    let ipv6 ← both (decide (5 ≤ argv.length)) (same argv 4 "ipv6")
    return (if ipv6 then .inet6 else .inet, 0)

def getService (create : Bool) : Reading (VrrpManager × Except Text RouterKey) := do
  let interface := libc.nameToIndex (← word argv 2)
  if interface ≤ 0 then return (m, .error Resp.noSuchInterface)
  else
    let vrid := atoi (← word argv 3)
    if vrid ≤ 0 ∨ 255 < vrid then return (m, .error Resp.invalidRouterId)
    else
      let (family, vlanId) ← readOptions argv create
      match m.getService kernel ⟨interface, UInt8.ofInt vrid, family⟩ vlanId create with
      | (m, some service) => return (m, .ok service)
      | (m, none) =>
        return (m, .error (if create then Resp.errorCreatingRouter else Resp.noSuchRouter))

/-- What the handlers do with the service that `getService` returns, if it is not null. -/
def onService (operation : VrrpService → Reading (VrrpService × List Text)) : Reaction := do
  match ← getService libc kernel m argv false with
  | (m, .error response) => return (m, [response])
  | (m, .ok key) =>
    match m.services[key]? with
    | none => return (m, [])
    | some service =>
      let done ← operation service
      return (m.update key fun _ => done.1, done.2)

def createService : Reaction := do
  match ← getService libc kernel m argv true with
  | (m, .error response) => return (m, [response])
  | (m, .ok _) => return (m, [])

def onAddRouterCommand : Reaction :=
  if argv.length = 4 then createService libc kernel m argv
  else do
  if ← both (argv.length == 5) (same argv 4 "ipv6") then createService libc kernel m argv
  else do
  if ← both (argv.length == 6) (same argv 4 "vlan") then createService libc kernel m argv
  else do
  if ← both (argv.length == 7) (do both (← same argv 4 "vlan") (same argv 6 "ipv6")) then
    createService libc kernel m argv
  else return (m, [Resp.addRouter])

def isIpv6 : Reading Bool := both (decide (4 < argv.length)) (same argv 4 "ipv6")

/-- `add address` and `remove address`. -/
def onAddressCommand (usage : Text) (operation : VrrpService → IpSubnet → VrrpService) :
    Reaction := do
  let ipv6 ← isIpv6 argv
  let place := if ipv6 then 5 else 4
  let family := if ipv6 then Family.inet6 else .inet
  if argv.length = place + 1 then
    let subnet := libc.ipSubnet (← word argv place)
    if subnet.address.family ≠ family then return (m, [usage])
    else onService libc kernel m argv fun service => return (operation service subnet, [])
  else return (m, [usage])

def onAddAddressCommand : Reaction :=
  onAddressCommand libc kernel m argv Resp.addAddress fun service subnet =>
    (service.addIpAddress subnet).1

def onRemoveAddressCommand : Reaction :=
  onAddressCommand libc kernel m argv Resp.removeAddress fun service subnet =>
    (service.removeIpAddress subnet).1

def onRemoveRouterCommand : Reaction := do
  let ipv6 ← isIpv6 argv
  if argv.length = (if ipv6 then 5 else 4) then
    match ← getService libc kernel m argv false with
    | (m, .error response) => return (m, [response])
    | (m, .ok key) => return (m.removeService key, [])
  else return (m, [Resp.removeRouter])

/-- `add` and `remove`: what the second word selects. -/
def onSubcommand (usage : Text) (router address : Reaction) : Reaction :=
  if argv.length = 1 then return (m, [usage])
  else do
    if ← same argv 1 "router" then router
    else do
      if ← same argv 1 "address" then address else return (m, [usage])

def onAddCommand : Reaction :=
  onSubcommand m argv Resp.add (onAddRouterCommand libc kernel m argv)
    (onAddAddressCommand libc kernel m argv)

def onRemoveCommand : Reaction :=
  onSubcommand m argv Resp.remove (onRemoveRouterCommand libc kernel m argv)
    (onRemoveAddressCommand libc kernel m argv)

/-! ### set router -/

/-- The loop over `trueValues` or `falseValues`. -/
def anyOf (k : Nat) : List Text → Reading Bool
  | [] => pure false
  | value :: rest => do
    if (← word argv k) = value then return true
    else anyOf k rest

def switch (k : Nat) : Reading (Option Bool) := do
  if ← anyOf argv k trueValues then return some true
  else do
    if ← anyOf argv k falseValues then return some false
    else return none

/-- The words that the loop from `i` to `argv.size()` puts together; `count` are left. -/
def joined : (count i : Nat) → Reading (List Text)
  | 0, _ => pure []
  | count + 1, i => do
    let first ← word argv i
    let rest ← joined count (i + 1)
    return first :: rest

variable (service : VrrpService) (offset : Nat)

def withValue (usage : Text) (act : Text → VrrpService × List Text) :
    Reading (VrrpService × List Text) :=
  if offset + 1 < argv.length then act <$> word argv (offset + 1) else pure (service, [usage])

/-- `accept` and `preempt`. -/
def withSwitch (usage : Text) (act : Bool → VrrpService) : Reading (VrrpService × List Text) :=
  if offset + 1 < argv.length then do
    match ← switch argv (offset + 1) with
    | some enabled => return (act enabled, [])
    | none => return (service, [usage])
  else return (service, [usage])

/-- `master` and `backup`, told apart only after the command has been put together. -/
def withCommand : Reading (VrrpService × List Text) := do
  let complete ← both (decide (offset + 1 < argv.length)) (same argv (offset + 1) "command")
  if complete then
    let command := joinWords (← joined argv (argv.length - (offset + 2)) (offset + 2))
    if ← same argv offset "master" then return (service.setMasterCommand command, [])
    else return (service.setBackupCommand command, [])
  else do
    if ← same argv offset "master" then return (service, [Resp.setRouterMasterCmd])
    else return (service, [Resp.setRouterBackupCmd])

def setRouter : Reading (VrrpService × List Text) :=
  let offset := if service.family = .inet6 then 5 else 4
  if offset < argv.length then do
    if ← same argv offset "primary" then
      withValue argv service offset Resp.setRouterPrimary (setPrimary libc service)
    else do
    if ← same argv offset "priority" then
      withValue argv service offset Resp.setRouterPriority (setPriority service)
    else do
    if ← same argv offset "interval" then
      withValue argv service offset Resp.setRouterInterval (setInterval service)
    else do
    if ← same argv offset "accept" then
      withSwitch argv service offset Resp.setRouterAccept fun enabled =>
        (service.setAcceptMode enabled).1
    else do
    if ← same argv offset "preempt" then
      withSwitch argv service offset Resp.setRouterPreempt service.setPreemptMode
    else do
    let master ← same argv offset "master"
    let backup ← both (!master) (same argv offset "backup")
    if master || backup then withCommand argv service offset
    else do
    let _ ← same argv offset "status"
    return (service, [Resp.set])
  else return (service, [Resp.set])

/-- There is no look at `argv.size()` before the service is looked up. -/
def onSetRouterCommand : Reaction :=
  onService libc kernel m argv fun service => setRouter libc argv service

def onSetCommand : Reaction := do
  let router ← both (decide (1 < argv.length)) (same argv 1 "router")
  if router then onSetRouterCommand libc kernel m argv else return (m, [Resp.set])

def onEnableCommand : Reaction :=
  if argv.length < 4 then return (m, [Resp.enableRouter])
  else onService libc kernel m argv fun service =>
    return ((service.enable (kernel.isInterfaceUp service.interface)).1, [])

def onDisableCommand : Reaction :=
  if argv.length < 4 then return (m, [Resp.disableRouter])
  else onService libc kernel m argv fun service => return (service.disable.1, [])

/-! ### show and save -/

/-- The variables of `onShowRouterCommand` that its words set; minus one is for not given. -/
structure Selection where
  interface : Int
  vrid : Int
  family : Family
  stats : Bool

/-- `std::isdigit(argv[k][0])`. -/
def startsWithDigit (k : Nat) : Reading Bool := (·.head?.elim false isDigit) <$> word argv k

/-- The loop over the words from `i`, of which `count` are left. -/
def selectRouters : (count i : Nat) → Selection → Reading (Except Text Selection)
  | 0, _, s => pure (.ok s)
  | count + 1, i, s => do
    if ← same argv i "stats" then return .ok { s with stats := true }
    else do
    let ipv6 ← both (s.family == .unspec) (same argv i "ipv6")
    if ipv6 then
      let interface := if s.interface = -1 then 0 else s.interface
      let vrid := if s.vrid = -1 then 0 else s.vrid
      selectRouters count (i + 1) ⟨interface, vrid, .inet6, s.stats⟩
    else do
    let number ← both (s.vrid == -1) (startsWithDigit argv i)
    if number then
      let vrid := atoi (← word argv i)
      if vrid ≤ 0 ∨ 255 < vrid then return .error Resp.invalidRouterId
      else
        let interface := if s.interface = -1 then 0 else s.interface
        selectRouters count (i + 1) { s with interface := interface, vrid := vrid }
    else if s.interface = -1 then
      let interface := libc.nameToIndex (← word argv i)
      if interface ≤ 0 then return .error Resp.noSuchInterface
      else selectRouters count (i + 1) { s with interface := interface }
    else selectRouters count (i + 1) s

/-- What is listed is left out. -/
def onShowRouterCommand : Reading (Except Text Selection) :=
  selectRouters libc argv (argv.length - 2) 2 ⟨-1, -1, .inet, false⟩

def onShowCommand : Reaction :=
  if 1 < argv.length then do
    if ← same argv 1 "router" then
      let _ ← onShowRouterCommand libc argv
      return (m, [])
    else do
    let _ ← same argv 1 "stats"
    return (m, [])
  else return (m, [])

/-- The file name that is given to `writeConfiguration`; `none` stands for the null pointer. -/
def onSaveCommand : Reading (Option Text) :=
  if 1 < argv.length then some <$> word argv 1 else pure none

/-! ### The dispatcher -/

/-- `none` stands for the answer false. -/
def onCommand : Reading (Option (VrrpManager × List Text)) := do
  if ← same argv 0 "add" then some <$> onAddCommand libc kernel m argv
  else do
  if ← same argv 0 "remove" then some <$> onRemoveCommand libc kernel m argv
  else do
  if ← same argv 0 "set" then some <$> onSetCommand libc kernel m argv
  else do
  if ← same argv 0 "enable" then some <$> onEnableCommand libc kernel m argv
  else do
  if ← same argv 0 "disable" then some <$> onDisableCommand libc kernel m argv
  else do
  if ← same argv 0 "show" then some <$> onShowCommand libc m argv
  else do
  if ← same argv 0 "exit" then return none
  else do
  if ← same argv 0 "help" then return some (m, [])
  else do
  if ← same argv 0 "save" then (fun _ => some (m, [])) <$> onSaveCommand argv
  else return some (m, [invalidCommand])

/-- The part of `handleCommand` behind `splitCommand`, for a line as it was received. -/
def handleCommand (line : Text) : Reading (Option (VrrpManager × List Text)) :=
  if 0 < (arguments line).length then onCommand libc kernel m (arguments line)
  else pure (some (m, []))

end OpenVrrp.TelnetSession.Reads
