import NetworkIds.Lib.Checked
import NetworkIds.Lib.Endian
import NetworkIds.Parser.Types
import NetworkIds.Lib.Utf8
import NetworkIds.Parser.Dns
import NetworkIds.Parser.Dhcp
import NetworkIds.Parser.Eapol
import NetworkIds.Parser.Transport
import NetworkIds.Parser.Network
import NetworkIds.Parser.Ethernet
import NetworkIds.Parser.Wifi
import NetworkIds.Parser.Radiotap
import NetworkIds.Parser.Packet
import NetworkIds.Parser.RoundTrip
import NetworkIds.FlowParser
import NetworkIds.Lib.FixedArray
import NetworkIds.Lib.Grouping
import NetworkIds.Lib.HashMap
import NetworkIds.Locality
import NetworkIds.FlowTable
import NetworkIds.Engine.Address
import NetworkIds.Engine.Rules
import NetworkIds.Engine.State
import NetworkIds.Engine.Process
import NetworkIds.Engine.RuleLoop
import NetworkIds.Engine.Independence
import NetworkIds.Lib.Observation
import NetworkIds.Engine.Slot
import NetworkIds.Engine.Alerting
import NetworkIds.Engine.Retention
import NetworkIds.Capture
import NetworkIds.Regrouping
import NetworkIds.Eviction
import NetworkIds.FlowAgreement
import NetworkIds.Engine.Connections
import NetworkIds.Lib.Density
import NetworkIds.Engine.Memory
import NetworkIds.Parser.LinkIndependence
import NetworkIds.Parser.KeyFrames
import NetworkIds.RingProtocol
import NetworkIds.Engine.RuleOrder
import NetworkIds.Parser.ExtensionHeaders
import NetworkIds.Parser.VlanTags
import NetworkIds.Parser.UpperLayers
import NetworkIds.Parser.LinkDetection
import NetworkIds.Parser.DnsFields
import NetworkIds.Parser.DnsNames
import NetworkIds.Parser.DnsRoundTrip
import NetworkIds.Fragments
import NetworkIds.FlowSniffing
import NetworkIds.Lib.LastWins
import NetworkIds.Lib.Tlv
import NetworkIds.Lib.Alignment
import NetworkIds.Parser.TcpOptions
import NetworkIds.Parser.DhcpOptions
import NetworkIds.Parser.RadiotapLayout
import NetworkIds.Parser.RadiotapRoundTrip
import NetworkIds.Parser.WifiElements
import NetworkIds.Parser.TrailingBytes
import NetworkIds.Engine.SharedSlots
import NetworkIds.Engine.Completeness
import NetworkIds.Engine.Sources
import NetworkIds.Engine.ArpSweep
import NetworkIds.Engine.AccessPoints
import NetworkIds.Engine.RuleMatching
import NetworkIds.FlowRing
import NetworkIds.Parser.DnsProgress
import NetworkIds.Parser.DnsFraming
import NetworkIds.Engine.AddressText
import NetworkIds.Engine.AddressLiterals
import NetworkIds.Lib.Channel
import NetworkIds.FlowPipeline
import NetworkIds.BurstDetection
import NetworkIds.AlertPath
import NetworkIds.Engine.WindowDetection
import NetworkIds.Engine.ShippedRules
import NetworkIds.Scans
import NetworkIds.Engine.CleanupSchedule
import NetworkIds.Engine.Hosts
import NetworkIds.Lib.Unwinding
import NetworkIds.Engine.HostIsolation
import NetworkIds.Lib.LazyExpiry
import NetworkIds.Engine.IdleTimeout
import NetworkIds.Lib.Placement
import NetworkIds.BlockLayout
import NetworkIds.RingContents
import NetworkIds.Parser.DatagramRoundTrip
import NetworkIds.Lib.Progress
import NetworkIds.Lib.Delimited
import NetworkIds.BurstLog
import NetworkIds.Sensor
import NetworkIds.SensorLog
import NetworkIds.Parser.WifiHeaderRoundTrip
