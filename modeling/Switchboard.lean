import Switchboard.Address.Ip
import Switchboard.Address.SocketAddr
import Switchboard.Call.Context
import Switchboard.Call.History
import Switchboard.Call.Plan
import Switchboard.Circuit
import Switchboard.Circuit.Operation
import Switchboard.Config
import Switchboard.Directory
import Switchboard.Exchange
import Switchboard.Fault
import Switchboard.HostPort
import Switchboard.Mechanism
import Switchboard.NameMap
import Switchboard.Packet.Header
import Switchboard.Packet.Stream
import Switchboard.Proofs.Address.HostPortInPlace
import Switchboard.Proofs.Address.HostPortText
import Switchboard.Proofs.Address.Ipv4Text
import Switchboard.Proofs.Address.Ipv6Text
import Switchboard.Proofs.Address.SocketText
import Switchboard.Proofs.Call.Deadlines
import Switchboard.Proofs.Call.Families
import Switchboard.Proofs.Call.Folding
import Switchboard.Proofs.Call.Genealogy
import Switchboard.Proofs.Call.Plans
import Switchboard.Proofs.Circuit.Causes
import Switchboard.Proofs.Circuit.Lifetime
import Switchboard.Proofs.Dialogue
import Switchboard.Proofs.Directory.Places
import Switchboard.Proofs.Directory.Registration
import Switchboard.Proofs.Exchange.Canonicalization
import Switchboard.Proofs.Exchange.Decision
import Switchboard.Proofs.Exchange.Layers
import Switchboard.Proofs.Exchange.Lookups
import Switchboard.Proofs.Exchange.Unaided
import Switchboard.Proofs.Octets
import Switchboard.Proofs.Packet.Decoding
import Switchboard.Proofs.Packet.Encoding
import Switchboard.Proofs.Packet.StreamLaw
import Switchboard.Proofs.Services.Parts
import Switchboard.Proofs.Services.PortLookup
import Switchboard.Proofs.Tcp.Accepting
import Switchboard.Proofs.Tcp.Connecting
import Switchboard.Proofs.Tcp.DialChecks
import Switchboard.Proofs.Tcp.DialOrder
import Switchboard.Proofs.Tcp.ListenOrder
import Switchboard.Proofs.Tcp.LiteralHosts
import Switchboard.Proofs.Tcp.LocalAddress
import Switchboard.Proofs.Tcp.ReceptionSound
import Switchboard.Proofs.Tcp.ReceptionSteps
import Switchboard.Proofs.Tcp.ReportedAddresses
import Switchboard.Proofs.Tcp.SettingsSection
import Switchboard.Proofs.Tcp.Shutdown
import Switchboard.Proofs.Tcp.Symmetry
import Switchboard.Proofs.Tcp.Waiting
import Switchboard.Proofs.Uri.AddressHost
import Switchboard.Proofs.Uri.Grammar
import Switchboard.Proofs.Uri.RoundTrip
import Switchboard.Proofs.Uri.SchemeJoin
import Switchboard.Proofs.Uri.SchemeParts
import Switchboard.Proofs.Uri.Shape
import Switchboard.Proofs.Uri.SocketUri
import Switchboard.Proofs.Uri.Spelling
import Switchboard.Proofs.Uri.Stages
import Switchboard.Proofs.Uri.Verbatim
import Switchboard.Scripted.Channel
import Switchboard.Scripted.Choice
import Switchboard.Scripted.PortNames
import Switchboard.Scripted.Session
import Switchboard.Scripted.Stub
import Switchboard.Scripted.Traffic
import Switchboard.Scripted.World
import Switchboard.Services
import Switchboard.Tcp.Address
import Switchboard.Tcp.Dial
import Switchboard.Tcp.Filter
import Switchboard.Tcp.Listen
import Switchboard.Tcp.Listener
import Switchboard.Tcp.Loopback
import Switchboard.Tcp.Platform
import Switchboard.Tcp.Reception
import Switchboard.Tcp.Settings
import Switchboard.Tcp.Wait
import Switchboard.Text.Basic
import Switchboard.Text.Binary64
import Switchboard.Text.Blank
import Switchboard.Text.Decimal
import Switchboard.Text.Octets
import Switchboard.Text.Order
import Switchboard.Text.Quoted
import Switchboard.Text.Unshown
import Switchboard.Toml.Datetime
import Switchboard.Toml.Document
import Switchboard.Toml.Number
import Switchboard.Toml.Quote
import Switchboard.Toml.Statement
import Switchboard.Toml.Tree
import Switchboard.Toml.Value
import Switchboard.Uri.Basic
import Switchboard.Uri.Printer
import Switchboard.Uri.Reader
