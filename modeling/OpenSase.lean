import OpenSase.Wire
import OpenSase.Frame
import OpenSase.Dispatch
import OpenSase.Tenant
import OpenSase.Security
import OpenSase.SessionTable
import OpenSase.Policy
import OpenSase.PolicyMatch
import OpenSase.Nat44
import OpenSase.Qos
import OpenSase.Classify
import OpenSase.Encap
import OpenSase.Vxlan
import OpenSase.Dlp
import OpenSase.Ips
import OpenSase.Pipeline
import OpenSase.WireGuard
import OpenSase.WireGuardCli
import OpenSase.Prefetch
import OpenSase.Nodes
import OpenSase.BpfMap
import OpenSase.DdosFilter
import OpenSase.XdpDdosFilter
import OpenSase.XdpClassifier
