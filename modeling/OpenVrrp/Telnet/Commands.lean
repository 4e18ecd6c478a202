import OpenVrrp.Libc
import OpenVrrp.Manager
import OpenVrrp.Telnet.Session

/-! The commands of TelnetSession (telnetsession.cpp) that change the configuration. A command
that reads past the end of its words has no result. The commands `show`, `help` and `save` leave
VrrpManager as it is; Telnet.Replies adds what they reply. -/
namespace OpenVrrp

/-! ### The `RESP_` texts -/

namespace Resp

def line (s : String) : Text := ascii s ++ [newline]

def noSuchInterface : Text := line "No such interface"
def invalidRouterId : Text := line "Invalid router id"
def errorCreatingRouter : Text := line "Error creating router"
def noSuchRouter : Text := line "No such router"
def invalidIp : Text := line "Invalid ip address"
def invalidPriority : Text := line "Invalid priority"
def invalidInterval : Text := line "Invalid interval"

def addRouter : Text := line "add router INTF VRID [vlan VLAN] [ipv6]"
def addAddress : Text := line "add address INTF VRID [ipv6] CIDR"
def removeRouter : Text := line "remove router INTF VRID [ipv6]"
def removeAddress : Text := line "remove address INTF VRID [ipv6] CIDR"
def setRouterPrimary : Text := line "set router INTF VRID [ipv6] primary IP"
def setRouterPriority : Text := line "set router INTF VRID [ipv6] priority PRIO"
def setRouterInterval : Text := line "set router INTF VRID [ipv6] interval MSEC"
def setRouterAccept : Text := line "set router INTF VRID [ipv6] accept BOOL"
def setRouterPreempt : Text := line "set router INTF VRID [ipv6] preempt BOOL"
def setRouterStatus : Text := line "set router INTF VRID [ipv6] status [master|slave]"
def setRouterMasterCmd : Text := line "set router INTF VRID [ipv6] master command COMMAND"
def setRouterBackupCmd : Text := line "set router INTF VRID [ipv6] backup command COMMAND"
def enableRouter : Text := line "enable router INTF VRID [ipv6]"
def disableRouter : Text := line "disable router INTF VRID [ipv6]"

def add : Text := addRouter ++ addAddress
def remove : Text := removeRouter ++ removeAddress
def set : Text := setRouterAccept ++ setRouterInterval ++ setRouterPreempt ++ setRouterPrimary ++
  setRouterPriority ++ setRouterStatus ++ setRouterMasterCmd ++ setRouterBackupCmd

end Resp

namespace TelnetSession

variable (libc : Libc) (kernel : Kernel)

abbrev Reaction := Option (VrrpManager × List Text)

def wordIs (argv : List Text) (i : Nat) (word : String) : Bool := argv[i]? == some (ascii word)

/-- The service that the words name: `xxx xxx INTF VRID [vlan VLAN] [ipv6]`. -/
def getService (m : VrrpManager) (argv : List Text) (create : Bool) :
    Option (VrrpManager × Except Text RouterKey) := do
  let interface := libc.nameToIndex (← argv[2]?)
  if interface ≤ 0 then return (m, .error Resp.noSuchInterface)
  let vrid := atoi (← argv[3]?)
  if vrid ≤ 0 ∨ 255 < vrid then return (m, .error Resp.invalidRouterId)
  let withVlan := create && decide (6 ≤ argv.length) && wordIs argv 4 "vlan"
  let family := if wordIs argv (if withVlan then 6 else 4) "ipv6" then Family.inet6 else .inet
  let vlanId := if withVlan then UInt64.ofInt (atoi (argv[5]?.getD [])) else 0
  match m.getService kernel ⟨interface, UInt8.ofInt vrid, family⟩ vlanId create with
  | (m, some service) => return (m, .ok service)
  | (m, none) => return (m, .error (if create then Resp.errorCreatingRouter else Resp.noSuchRouter))

def onService (m : VrrpManager) (argv : List Text)
    (operation : VrrpService → VrrpService × List Text) : Reaction := do
  match ← getService libc kernel m argv false with
  | (m, .error response) => return (m, [response])
  | (m, .ok key) =>
    match m.services[key]? with
    | none => none
    | some service =>
      return (m.update key fun _ => (operation service).1, (operation service).2)

def onAddRouterCommand (m : VrrpManager) (argv : List Text) : Reaction :=
  let complete := argv.length == 4 ||
    argv.length == 5 && wordIs argv 4 "ipv6" ||
    argv.length == 6 && wordIs argv 4 "vlan" ||
    argv.length == 7 && wordIs argv 4 "vlan" && wordIs argv 6 "ipv6"
  if complete then do
    match ← getService libc kernel m argv true with
    | (m, .error response) => return (m, [response])
    | (m, .ok _) => return (m, [])
  else some (m, [Resp.addRouter])

/-- What `add address` and `remove address` share: the family and the place of the subnet, and
the service it is for. -/
def onAddressCommand (m : VrrpManager) (argv : List Text) (usage : Text)
    (operation : VrrpService → IpSubnet → VrrpService) : Reaction :=
  let ipv6 := wordIs argv 4 "ipv6"
  let place := if ipv6 then 5 else 4
  let family := if ipv6 then Family.inet6 else .inet
  if argv.length = place + 1 then do
    let subnet := libc.ipSubnet (← argv[place]?)
    if subnet.address.family ≠ family then return (m, [usage])
    onService libc kernel m argv fun service => (operation service subnet, [])
  else some (m, [usage])

def onAddAddressCommand (m : VrrpManager) (argv : List Text) : Reaction :=
  onAddressCommand libc kernel m argv Resp.addAddress fun service subnet =>
    (service.addIpAddress subnet).1

def onAddCommand (m : VrrpManager) (argv : List Text) : Reaction :=
  if wordIs argv 1 "router" then onAddRouterCommand libc kernel m argv
  else if wordIs argv 1 "address" then onAddAddressCommand libc kernel m argv
  else some (m, [Resp.add])

def onRemoveRouterCommand (m : VrrpManager) (argv : List Text) : Reaction :=
  let length := if wordIs argv 4 "ipv6" then 5 else 4
  if argv.length = length then do
    match ← getService libc kernel m argv false with
    | (m, .error response) => return (m, [response])
    | (m, .ok key) => return (m.removeService key, [])
  else some (m, [Resp.removeRouter])

def onRemoveAddressCommand (m : VrrpManager) (argv : List Text) : Reaction :=
  onAddressCommand libc kernel m argv Resp.removeAddress fun service subnet =>
    (service.removeIpAddress subnet).1

def onRemoveCommand (m : VrrpManager) (argv : List Text) : Reaction :=
  if wordIs argv 1 "router" then onRemoveRouterCommand libc kernel m argv
  else if wordIs argv 1 "address" then onRemoveAddressCommand libc kernel m argv
  else some (m, [Resp.remove])

def trueValues : List Text := [ascii "true", ascii "on", ascii "1", ascii "enabled"]
def falseValues : List Text := [ascii "false", ascii "off", ascii "0", ascii "disabled"]

def switch (word : Text) : Option Bool :=
  if word ∈ trueValues then some true
  else if word ∈ falseValues then some false
  else none

def setPrimary (service : VrrpService) (word : Text) : VrrpService × List Text :=
  let address := libc.ipAddress word
  if address.family ≠ service.family then (service, [Resp.invalidIp])
  else (service.setPrimaryIpAddress address, [])

def setPriority (service : VrrpService) (word : Text) : VrrpService × List Text :=
  let priority := atoi word
  if priority < 1 ∨ 255 < priority then (service, [Resp.invalidPriority])
  else ((service.setPriority (UInt8.ofInt priority)).1, [])

/-- `set router ... interval MSEC`; a negative interval becomes a large unsigned one. -/
def setInterval (service : VrrpService) (word : Text) : VrrpService × List Text :=
  let interval := atoi word
  if interval = 0 ∨ interval.tmod 10 ≠ 0 ∨ 40950 < interval then (service, [Resp.invalidInterval])
  else (service.setAdvertisementInterval (UInt32.ofInt (interval.tdiv 10)).toNat, [])

def setAccept (service : VrrpService) (word : Text) : VrrpService × List Text :=
  match switch word with
  | some enabled => ((service.setAcceptMode enabled).1, [])
  | none => (service, [Resp.setRouterAccept])

def setPreempt (service : VrrpService) (word : Text) : VrrpService × List Text :=
  match switch word with
  | some enabled => (service.setPreemptMode enabled, [])
  | none => (service, [Resp.setRouterPreempt])

def joinWords (words : List Text) : Text := List.intercalate [32] words

def setRouter (service : VrrpService) (words : List Text) : VrrpService × List Text :=
  match words with
  | [] => (service, [Resp.set])
  | name :: values =>
    let withValue (usage : Text) (act : Text → VrrpService × List Text) :=
      match values with
      | [] => (service, [usage])
      | value :: _ => act value
    let withCommand (usage : Text) (act : Text → VrrpService) :=
      match values with
      | [] => (service, [usage])
      | value :: command =>
        if value = ascii "command" then (act (joinWords command), []) else (service, [usage])
    if name = ascii "primary" then withValue Resp.setRouterPrimary (setPrimary libc service)
    else if name = ascii "priority" then withValue Resp.setRouterPriority (setPriority service)
    else if name = ascii "interval" then withValue Resp.setRouterInterval (setInterval service)
    else if name = ascii "accept" then withValue Resp.setRouterAccept (setAccept service)
    else if name = ascii "preempt" then withValue Resp.setRouterPreempt (setPreempt service)
    else if name = ascii "master" then withCommand Resp.setRouterMasterCmd service.setMasterCommand
    else if name = ascii "backup" then withCommand Resp.setRouterBackupCmd service.setBackupCommand
    else (service, [Resp.set])

def onSetRouterCommand (m : VrrpManager) (argv : List Text) : Reaction :=
  onService libc kernel m argv fun service =>
    setRouter libc service (argv.drop (if service.family = .inet6 then 5 else 4))

def onSetCommand (m : VrrpManager) (argv : List Text) : Reaction :=
  if wordIs argv 1 "router" then onSetRouterCommand libc kernel m argv else some (m, [Resp.set])

def onEnableCommand (m : VrrpManager) (argv : List Text) : Reaction :=
  if argv.length < 4 then some (m, [Resp.enableRouter])
  else onService libc kernel m argv fun service =>
    ((service.enable (kernel.isInterfaceUp service.interface)).1, [])

def onDisableCommand (m : VrrpManager) (argv : List Text) : Reaction :=
  if argv.length < 4 then some (m, [Resp.disableRouter])
  else onService libc kernel m argv fun service => (service.disable.1, [])

/-- The session ends at `exit` before this is asked. The replies to `show`, `help` and `save` are
left to `answer`. -/
def onCommand (m : VrrpManager) (argv : List Text) : Reaction :=
  if wordIs argv 0 "add" then onAddCommand libc kernel m argv
  else if wordIs argv 0 "remove" then onRemoveCommand libc kernel m argv
  else if wordIs argv 0 "set" then onSetCommand libc kernel m argv
  else if wordIs argv 0 "enable" then onEnableCommand libc kernel m argv
  else if wordIs argv 0 "disable" then onDisableCommand libc kernel m argv
  else if wordIs argv 0 "show" || wordIs argv 0 "help" || wordIs argv 0 "save" then some (m, [])
  else some (m, [invalidCommand])

end TelnetSession

end OpenVrrp
