import OpenSase.Policy
import OpenSase.Nat44
import OpenSase.Classify
import OpenSase.Vxlan

/-!
How the stages of the pipeline find a packet's L4 ports: most read them right after a 20-byte
IPv4 header, while `ips_scan_packet` and `get_payload` place the L4 header at `ip4_header_bytes`.
-/
namespace OpenSase.Pipeline

open Nat44 Classify

/-- A TCP SYN `10.1.0.5:1234 → 93.184.216.34:80` whose IPv4 header carries one option word
of four NOPs (IHL 6). -/
def synWithOptions : Bytes :=
  (Ip4Header.mk 0x46 0 44 0 0 64 IP_PROTOCOL_TCP 0 0x0A010005 0x5DB8D822).toBytes ++
    [1, 1, 1, 1] ++ be16 1234 ++ be16 80 ++ be32 0 ++ be32 0 ++ [0x50, 0x02] ++ be16 65535 ++
    be16 0 ++ be16 0

/-- On a packet with IP options, the session tracker, the policy matcher, the classifier
and NAT take the option bytes for ports (257 and 257) where the L4 header has 1234 and 80;
and `nat_translate`, for every mapping, writes its port over the options and leaves the
real source port in place. -/
theorem stages_read_options_as_ports :
    l4Ports synWithOptions = (1234, 80) ∧ tcpUdpPortsFixed synWithOptions = (257, 257) ∧
      classifyDstPort synWithOptions = 257 ∧ portsAfterFixedHeader synWithOptions = (257, 257) ∧
      ∀ m : NatMapping, rd16 (natTranslate synWithOptions m) 24 = 1234 := by
  refine ⟨by decide, by decide, by decide, by decide, fun m => ?_⟩
  have hT : ipProtocol synWithOptions = IP_PROTOCOL_TCP := by decide
  rw [(natTranslate_spec synWithOptions m (by decide) (.inl ⟨hT, by decide⟩)).2.2.2 24 (by omega)
    (fun _ => .inl (by omega)) (fun h => absurd (hT.symm.trans h) (by decide))]
  decide

end OpenSase.Pipeline
