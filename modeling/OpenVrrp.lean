import OpenVrrp.Library.Lines
import OpenVrrp.Library.Memory
import OpenVrrp.Library.Runs
import OpenVrrp.Telnet.Framing
import OpenVrrp.Service.MasterDown
import OpenVrrp.Service.Disabling
import OpenVrrp.Service.AddressChanges
import OpenVrrp.Service.Obligations
import OpenVrrp.Netlink.Detection
import OpenVrrp.Manager.Membership
import OpenVrrp.Manager.Listeners
import OpenVrrp.Socket.RoundTrip
import OpenVrrp.Socket.Acceptance
import OpenVrrp.Network.Election
import OpenVrrp.MainLoop.Expiry
import OpenVrrp.Configurator.RoundTrip
import OpenVrrp.Configurator.Truncation
import OpenVrrp.Configurator.Locals
import OpenVrrp.Service.Preemption
import OpenVrrp.Service.Following
import OpenVrrp.ArpService.Answers
import OpenVrrp.Telnet.Arguments
import OpenVrrp.Socket.Sending
import OpenVrrp.Util.Internet
import OpenVrrp.Socket.Corruption
import OpenVrrp.Socket.Extensions
import OpenVrrp.Socket.Control
import OpenVrrp.Service.Commands
import OpenVrrp.Service.Duties
import OpenVrrp.Service.AddressErrors
import OpenVrrp.Service.Reception
import OpenVrrp.Service.Reasons
import OpenVrrp.Socket.Accounting
import OpenVrrp.Netlink.Monitoring
import OpenVrrp.Manager.Requests
import OpenVrrp.Manager.Names
import OpenVrrp.Netlink.Creation
import OpenVrrp.Telnet.Overflow
import OpenVrrp.Address.Comparison
import OpenVrrp.Address.Parsing
import OpenVrrp.Telnet.Listing
import OpenVrrp.Configurator.Loops
import OpenVrrp.History
import OpenVrrp.Prefixes
import OpenVrrp.Telnet.Formatting
import OpenVrrp.Isolation
import OpenVrrp.Configurator.Restarts
import OpenVrrp.Network.Convergence
import OpenVrrp.Telnet.Serving
import OpenVrrp.Telnet.Streams
import OpenVrrp.Manager.Devices
import OpenVrrp.Network.Answering
import OpenVrrp.Network.Takeover
import OpenVrrp.Telnet.Showing
import OpenVrrp.Telnet.Copying
