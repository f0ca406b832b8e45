import OpenFlow.Lib.StepSystem
import OpenFlow.Lib.WhileLoop
import OpenFlow.Lib.ByteOrder
import OpenFlow.Lib.OnesComplement
import OpenFlow.Lib.Slots
import OpenFlow.Lib.Bits
import OpenFlow.Lib.Wildcards
import OpenFlow.Lib.Memory
import OpenFlow.Lib.Simulation
import OpenFlow.Flow
import OpenFlow.Crc32
import OpenFlow.Actions
import OpenFlow.SwFlow
import OpenFlow.TableHash
import OpenFlow.TableLinear
import OpenFlow.Chain
import OpenFlow.Iterate
import OpenFlow.FlowMod
import OpenFlow.ChainRules
import OpenFlow.Store
import OpenFlow.Packet
import OpenFlow.Csum
import OpenFlow.Execute
import OpenFlow.Outputs
import OpenFlow.Datapath
import OpenFlow.Buffers
import OpenFlow.Forwarding
import OpenFlow.Select
import OpenFlow.Conflict
import OpenFlow.FlowStats
import OpenFlow.Rewrite
import OpenFlow.Controller
import OpenFlow.Rconn
import OpenFlow.VconnStream
import OpenFlow.Ownership
import OpenFlow.LearningSwitch
import OpenFlow.Stp
import OpenFlow.StpBridge
import OpenFlow.KernelFlow
import OpenFlow.Dhcp
import OpenFlow.Entries
import OpenFlow.Protection
import OpenFlow.Tag
import OpenFlow.MacLearning
import OpenFlow.InBand
import OpenFlow.PortWatcher
import OpenFlow.RateLimit
import OpenFlow.DhcpBuffer
import OpenFlow.DhcpClient
import OpenFlow.OfExtMsg
import OpenFlow.LinearOrder
import OpenFlow.Lib.Search
import OpenFlow.PortArray
import OpenFlow.PortArrayNext
import OpenFlow.Netlink
import OpenFlow.Lib.Chain
import OpenFlow.Hmap
import OpenFlow.HmapChains
import OpenFlow.HmapResize
import OpenFlow.HmapRun
import OpenFlow.HmapIterate
import OpenFlow.Lib.CText
import OpenFlow.MatchText
import OpenFlow.MatchRoundTrip
import OpenFlow.MatchMeaning
import OpenFlow.MatchReadBack
import OpenFlow.Vconn
import OpenFlow.VconnRun
import OpenFlow.VconnPair
import OpenFlow.ControlInput
import OpenFlow.DatapathRun
import OpenFlow.Failover
