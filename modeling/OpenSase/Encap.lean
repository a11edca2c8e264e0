import OpenSase.Frame
import Mathlib.Logic.Function.Basic

/-!
Tunnel encapsulation of `node_encap.c`: the pre-built outer headers of `opensase tunnel create`,
`encap_vxlan`, `encap_wireguard` with its per-tunnel counter, and the node that picks tunnel
`tenant_id % n_tunnels`.
-/
namespace OpenSase.Encap

/-- `encap_type_t`. -/
def ENCAP_NONE : ℕ := 0

def ENCAP_WIREGUARD : ℕ := 1

def ENCAP_VXLAN : ℕ := 2

def ENCAP_GRE : ℕ := 3

def ENCAP_GENEVE : ℕ := 4

def MAX_TUNNELS : ℕ := 4096

/-- `encap_tunnel_t`, with the fields the encapsulations read. -/
structure EncapTunnel where
  encapType : ℕ
  tunnelId : ℕ
  ip4 : Ip4Header
  udp : UdpHeader
  wgReceiverIndex : ℕ
  wgCounter : ℕ
  outputSwIfIndex : ℕ
  deriving DecidableEq, Repr, Inhabited

/-- The global `tunnels` table and `n_tunnels`. -/
structure TunnelTable where
  tunnels : ℕ → EncapTunnel
  nTunnels : ℕ

/-- The table as the program starts: zeroed, so every slot has type `ENCAP_NONE`. -/
def tunnelTableInit : TunnelTable := ⟨fun _ => default, 0⟩

/-- The parsed arguments of `opensase tunnel create`, with the command's defaults. The
addresses have no default: the source leaves them uninitialised. -/
structure TunnelCreateArgs where
  localAddr : ℕ
  remoteAddr : ℕ
  localPort : ℕ := 51820
  remotePort : ℕ := 51820
  swIfIndex : ℕ := 0
  encapType : ℕ := ENCAP_WIREGUARD
  deriving DecidableEq, Repr

/-- The tunnel a successful command installs in slot `n`: version 4 with a 20-byte header,
TTL 64, UDP, the given addresses and ports; everything else zero. -/
def TunnelCreateArgs.tunnel (c : TunnelCreateArgs) (n : ℕ) : EncapTunnel where
  encapType := c.encapType
  tunnelId := n % 65536
  ip4 := { (default : Ip4Header) with
    ipVersionAndHeaderLength := 0x45, ttl := 64, protocol := IP_PROTOCOL_UDP,
    srcAddress := c.localAddr, dstAddress := c.remoteAddr }
  udp := { (default : UdpHeader) with srcPort := c.localPort % 65536, dstPort := c.remotePort % 65536 }
  wgReceiverIndex := 0
  wgCounter := 0
  outputSwIfIndex := c.swIfIndex

/-- `opensase_tunnel_create_fn` on the table. -/
def opensaseTunnelCreateFn (tt : TunnelTable) (c : TunnelCreateArgs) : Except String TunnelTable :=
  if tt.nTunnels ≥ MAX_TUNNELS then .error "tunnel table full"
  else .ok ⟨Function.update tt.tunnels tt.nTunnels (c.tunnel tt.nTunnels), tt.nTunnels + 1⟩

/-- The tunnel's outer IPv4 and UDP headers for a packet of `outerLen` bytes in all. -/
def outerHeaders (tun : EncapTunnel) (outerLen : ℕ) : Bytes :=
  { tun.ip4 with length := outerLen % 65536 }.toBytes ++
    { tun.udp with length := (outerLen - 20) % 65536 }.toBytes

/-- `hdr` prepended to `data`, then `ip4_header_checksum` of the outer header stored. -/
def prependWithChecksum (hdr data : Bytes) : Bytes :=
  storeBytes (hdr ++ data) 10 (be16 (ip4HeaderChecksum (hdr ++ data)))

/-- The VXLAN header: the I flag, then the VNI `tunnel_id` in the upper 24 bits. -/
def vxlanHeader (tun : EncapTunnel) : Bytes := be32 0x08000000 ++ be32 (tun.tunnelId <<< 8)

def encapVxlan (b : Buffer) (tun : EncapTunnel) : Buffer :=
  let outerLen := ipLength b.data + 20 + 8 + 8
  { b with
    data := prependWithChecksum (outerHeaders tun outerLen ++ vxlanHeader tun) b.data
    swIfIndexTx := tun.outputSwIfIndex }

/-- `encap_wireguard`: the buffer, and the tunnel with its counter advanced. The receiver
index and the counter are stored raw, in host byte order. -/
def encapWireguard (e : Endian) (b : Buffer) (tun : EncapTunnel) : Buffer × EncapTunnel :=
  let outerLen := ipLength b.data + 20 + 8 + 16
  let wg := [4, 0, 0, 0] ++ hostBytes e 4 tun.wgReceiverIndex ++ hostBytes e 8 tun.wgCounter
  ({ b with
      data := prependWithChecksum (outerHeaders tun outerLen ++ wg) b.data
      swIfIndexTx := tun.outputSwIfIndex },
    { tun with wgCounter := (tun.wgCounter + 1) % 2 ^ 64 })

@[simp] theorem encapWireguard_tunnel (e : Endian) (b : Buffer) (tun : EncapTunnel) :
    (encapWireguard e b tun).2 = { tun with wgCounter := (tun.wgCounter + 1) % 2 ^ 64 } := rfl

/-- `opensase_encap_next_t`. -/
inductive EncapNext where
  | output
  | drop
  deriving DecidableEq, Repr

/-- The `n_next_nodes` of the node's registration: one past the last `EncapNext` value. -/
def OPENSASE_ENCAP_N_NEXT : ℕ := 2

/-- `get_tunnel_for_session`: the index of the tunnel a buffer uses. -/
def getTunnelForSession (tt : TunnelTable) (m : PacketMeta) : ℕ :=
  m.tenantId % (if tt.nTunnels = 0 then 1 else tt.nTunnels)

section Node

variable (e : Endian)

/-- The `switch` on the type of tunnel `i`. -/
def encapAt (tt : TunnelTable) (i : ℕ) (b : Buffer) : TunnelTable × (Buffer × EncapNext) :=
  let tun := tt.tunnels i
  if tun.encapType = ENCAP_WIREGUARD then
    let r := encapWireguard e b tun
    ({ tt with tunnels := Function.update tt.tunnels i r.2 }, (r.1, .output))
  else if tun.encapType = ENCAP_VXLAN then (tt, (encapVxlan b tun, .output))
  else (tt, (b, .output))

/-- One iteration of the single-packet loop. -/
def encapOne (tt : TunnelTable) (b : Buffer) : TunnelTable × (Buffer × EncapNext) :=
  encapAt e tt (getTunnelForSession tt b.meta) b

/-- One iteration of the four-packet loop: the four tunnels are picked first, then the
four encapsulations run in order. -/
def encapQuad (tt : TunnelTable) (b0 b1 b2 b3 : Buffer) : TunnelTable × List (Buffer × EncapNext) :=
  let i0 := getTunnelForSession tt b0.meta
  let i1 := getTunnelForSession tt b1.meta
  let i2 := getTunnelForSession tt b2.meta
  let i3 := getTunnelForSession tt b3.meta
  let r0 := encapAt e tt i0 b0
  let r1 := encapAt e r0.1 i1 b1
  let r2 := encapAt e r1.1 i2 b2
  let r3 := encapAt e r2.1 i3 b3
  (r3.1, [r0.2, r1.2, r2.2, r3.2])

/-- The `opensase-encap` node on one frame. -/
def opensaseEncapNode (tt : TunnelTable) (frame : List Buffer) :
    TunnelTable × List (Buffer × EncapNext) :=
  vectorLoop (encapQuad e) (encapOne e) tt frame

@[simp] theorem encapAt_nTunnels (tt : TunnelTable) (i : ℕ) (b : Buffer) :
    (encapAt e tt i b).1.nTunnels = tt.nTunnels := by
  dsimp only [encapAt]
  split_ifs <;> rfl

/-- Encapsulations leave `n_tunnels`, so picking the tunnels first changes nothing: the
node is the tail loop on every frame. -/
theorem opensaseEncapNode_eq_tailLoop (tt : TunnelTable) (frame : List Buffer) :
    opensaseEncapNode e tt frame = tailLoop (encapOne e) tt frame := by
  refine vectorLoop_eq_tailLoop (fun _ => True) (encapQuad e) (encapOne e) (fun _ _ _ => trivial)
    (fun tt b0 b1 b2 b3 _ => ?_) tt frame trivial
  simp only [encapQuad, encapOne, tailLoop, getTunnelForSession, encapAt_nTunnels]

/-! ### The outer lengths -/

@[simp] theorem outerHeaders_length (t : EncapTunnel) (len : ℕ) :
    (outerHeaders t len).length = 28 := rfl

/-- The length fields of the outer headers: the IPv4 total length and the UDP length, each
stored as a `u16`. -/
theorem outerHeaders_lengths (t : EncapTunnel) (outerLen : ℕ) (rest : Bytes) :
    rd16 (outerHeaders t outerLen ++ rest) 2 = outerLen % 65536 ∧
      rd16 (outerHeaders t outerLen ++ rest) 24 = (outerLen - 20) % 65536 := by
  simp only [rd16, byteAt, outerHeaders, Ip4Header.toBytes, UdpHeader.toBytes, be16, be32,
    List.append_assoc, List.cons_append, List.nil_append, List.getD_cons_succ,
    List.getD_cons_zero, byte_toNat_ofNat]
  omega

/-- The checksum store leaves the fields of the outer headers at offsets 2 and 24. -/
theorem prependWithChecksum_lengths (t : EncapTunnel) (outerLen : ℕ) (hdr data : Bytes) :
    rd16 (prependWithChecksum (outerHeaders t outerLen ++ hdr) data) 2 = outerLen % 65536 ∧
      rd16 (prependWithChecksum (outerHeaders t outerLen ++ hdr) data) 24 =
        (outerLen - 20) % 65536 := by
  have hl : 10 + (be16 (ip4HeaderChecksum (outerHeaders t outerLen ++ hdr ++ data))).length ≤
      (outerHeaders t outerLen ++ hdr ++ data).length := by simp; omega
  rw [prependWithChecksum, rd16_storeBytes_of_disjoint hl (by simp),
    rd16_storeBytes_of_disjoint hl (by simp), List.append_assoc]
  exact outerHeaders_lengths t outerLen (hdr ++ data)

/-- One encapsulation with tunnel `i`: the buffer goes to `interface-output`, WireGuard
framing writes the lengths `L + 44` and `L + 24` and VXLAN `L + 36` and `L + 16` of the
inner total length `L`, cut to 16 bits; the tunnels keep their types. -/
theorem encapAt_lengths (tt : TunnelTable) (i : ℕ) (b : Buffer) :
    let r := encapAt e tt i b
    (∀ j, (r.1.tunnels j).encapType = (tt.tunnels j).encapType) ∧ r.2.2 = .output ∧
      ((tt.tunnels i).encapType = ENCAP_WIREGUARD →
        rd16 r.2.1.data 2 = (ipLength b.data + 44) % 65536 ∧
          rd16 r.2.1.data 24 = (ipLength b.data + 24) % 65536) ∧
      ((tt.tunnels i).encapType = ENCAP_VXLAN →
        rd16 r.2.1.data 2 = (ipLength b.data + 36) % 65536 ∧
          rd16 r.2.1.data 24 = (ipLength b.data + 16) % 65536) := by
  dsimp only [encapAt]
  split_ifs with hw hv
  · refine ⟨fun j => ?_, rfl, fun _ => ?_, fun h => absurd (hw.symm.trans h) (by decide)⟩
    · dsimp only
      rw [Function.update_apply]
      split_ifs with hj
      · subst hj; rfl
      · rfl
    · exact prependWithChecksum_lengths _ _ _ _
  · exact ⟨fun _ => rfl, rfl, fun h => absurd h hw, fun _ => prependWithChecksum_lengths _ _ _ _⟩
  · exact ⟨fun _ => rfl, rfl, fun h => absurd h hw, fun h => absurd h hv⟩

/-- Over a whole frame, every buffer goes to `interface-output`, and a buffer whose tunnel
uses WireGuard or VXLAN framing gets outer lengths `L + 44`, `L + 24` or `L + 36`, `L + 16`
of its inner total length `L`, taken modulo `2^16`: from `L = 65492` (WireGuard) or
`L = 65500` (VXLAN) on, the written lengths wrap and the buffer is still sent. -/
theorem opensaseEncapNode_outer_lengths (tt : TunnelTable) (frame : List Buffer) :
    List.Forall₂ (fun b o =>
      let t := tt.tunnels (getTunnelForSession tt b.meta)
      o.2 = .output ∧
        (t.encapType = ENCAP_WIREGUARD → rd16 o.1.data 2 = (ipLength b.data + 44) % 65536 ∧
          rd16 o.1.data 24 = (ipLength b.data + 24) % 65536) ∧
        (t.encapType = ENCAP_VXLAN → rd16 o.1.data 2 = (ipLength b.data + 36) % 65536 ∧
          rd16 o.1.data 24 = (ipLength b.data + 16) % 65536))
      frame (opensaseEncapNode e tt frame).2 := by
  rw [opensaseEncapNode_eq_tailLoop]
  refine tailLoop_forall₂_inv (fun s => s.nTunnels = tt.nTunnels ∧
    ∀ j, (s.tunnels j).encapType = (tt.tunnels j).encapType) _ _ (fun s b hs => ?_) tt frame
    ⟨rfl, fun _ => rfl⟩
  obtain ⟨hty, hout, hwg, hvx⟩ := encapAt_lengths e s (getTunnelForSession s b.meta) b
  have hi : getTunnelForSession s b.meta = getTunnelForSession tt b.meta := by
    simp only [getTunnelForSession, hs.1]
  refine ⟨⟨by simp only [encapOne, encapAt_nTunnels, hs.1], fun j => (hty j).trans (hs.2 j)⟩,
    hout, fun h => hwg ?_, fun h => hvx ?_⟩ <;> rwa [hs.2, hi]

/-! ### WireGuard counters over a run -/

/-- The node over successive frames, the tunnel table carried from each frame to the next. -/
def encapRun (tt : TunnelTable) : List (List Buffer) → TunnelTable × List (Buffer × EncapNext)
  | [] => (tt, [])
  | frame :: frames =>
    let r := opensaseEncapNode e tt frame
    let s := encapRun r.1 frames
    (s.1, r.2 ++ s.2)

theorem encapRun_eq_tailLoop (tt : TunnelTable) (frames : List (List Buffer)) :
    encapRun e tt frames = tailLoop (encapOne e) tt frames.flatten := by
  induction frames generalizing tt with
  | nil => rfl
  | cons frame frames ih =>
    rw [encapRun, ih, opensaseEncapNode_eq_tailLoop, List.flatten_cons, tailLoop_append]

/-- The number of buffers of `bs` that `tt` sends through tunnel `j`. -/
def tunnelUses (tt : TunnelTable) (bs : List Buffer) (j : ℕ) : ℕ :=
  bs.countP fun b => getTunnelForSession tt b.meta = j

theorem tunnelUses_snoc (tt : TunnelTable) (pre : List Buffer) (b : Buffer) (j : ℕ) :
    tunnelUses tt (pre ++ [b]) j =
      tunnelUses tt pre j + if getTunnelForSession tt b.meta = j then 1 else 0 := by
  simp [tunnelUses, List.countP_append, List.countP_cons]

/-- The table a run from `tt` has reached after the buffers `pre`: `n_tunnels`, the types and
the receiver indices kept, and each WireGuard counter advanced, modulo `2^64`, once for every
buffer of `pre` on its tunnel. -/
structure CountersAfter (tt s : TunnelTable) (pre : List Buffer) : Prop where
  nTunnels : s.nTunnels = tt.nTunnels
  encapType : ∀ j, (s.tunnels j).encapType = (tt.tunnels j).encapType
  receiverIndex : ∀ j, (s.tunnels j).wgReceiverIndex = (tt.tunnels j).wgReceiverIndex
  counter : ∀ j, (tt.tunnels j).encapType = ENCAP_WIREGUARD →
    (s.tunnels j).wgCounter % 2 ^ 64 = ((tt.tunnels j).wgCounter + tunnelUses tt pre j) % 2 ^ 64

theorem CountersAfter.init (tt : TunnelTable) : CountersAfter tt tt [] :=
  ⟨rfl, fun _ => rfl, fun _ => rfl, fun _ _ => rfl⟩

/-- The 16-byte WireGuard data header sits right after the 28 bytes of outer headers. -/
theorem encapWireguard_header (b : Buffer) (tun : EncapTunnel) :
    ((encapWireguard e b tun).1.data.drop 28).take 16 =
      [4, 0, 0, 0] ++ hostBytes e 4 tun.wgReceiverIndex ++ hostBytes e 8 tun.wgCounter := by
  dsimp only [encapWireguard, prependWithChecksum]
  rw [drop_storeBytes (by simp [be16]) (by simp; omega), List.append_assoc,
    List.drop_left' (outerHeaders_length _ _), List.take_left' (by simp)]

/-- One buffer of a run: the table keeps `CountersAfter` with the buffer added, and a
WireGuard buffer's header carries its tunnel's receiver index and the counter so far. -/
theorem encapOne_counters {tt s : TunnelTable} {pre : List Buffer} (h : CountersAfter tt s pre)
    (b : Buffer) :
    let i := getTunnelForSession tt b.meta
    CountersAfter tt (encapOne e s b).1 (pre ++ [b]) ∧
      ((tt.tunnels i).encapType = ENCAP_WIREGUARD →
        ((encapOne e s b).2.1.data.drop 28).take 16 =
          [4, 0, 0, 0] ++ hostBytes e 4 (tt.tunnels i).wgReceiverIndex ++
            hostBytes e 8 (((tt.tunnels i).wgCounter + tunnelUses tt pre i) % 2 ^ 64)) := by
  intro i
  have hi : getTunnelForSession s b.meta = i := by simp only [i, getTunnelForSession, h.nTunnels]
  have hother : ∀ j, j ≠ i → tunnelUses tt (pre ++ [b]) j = tunnelUses tt pre j := fun j hj => by
    rw [tunnelUses_snoc, if_neg (Ne.symm hj), Nat.add_zero]
  dsimp only [encapOne, encapAt]
  rw [hi]
  by_cases hw : (tt.tunnels i).encapType = ENCAP_WIREGUARD
  · rw [if_pos ((h.encapType i).trans hw)]
    refine ⟨⟨h.nTunnels, fun j => ?_, fun j => ?_, fun j hj => ?_⟩, fun _ => ?_⟩
    · simp only [Function.update_apply]; split_ifs with hji
      · subst hji; exact h.encapType _
      · exact h.encapType j
    · simp only [Function.update_apply]; split_ifs with hji
      · subst hji; exact h.receiverIndex _
      · exact h.receiverIndex j
    · simp only [Function.update_apply]; split_ifs with hji
      · subst hji
        rw [tunnelUses_snoc, if_pos rfl, encapWireguard_tunnel, Nat.mod_mod, Nat.add_mod,
          h.counter _ hw, ← Nat.add_mod, Nat.add_assoc]
      · rw [hother j hji]; exact h.counter j hj
    · rw [encapWireguard_header, h.receiverIndex, ← hostBytes_mod e 8, show 256 ^ 8 = 2 ^ 64 from rfl,
        h.counter i hw]
  · have hs : CountersAfter tt s (pre ++ [b]) := ⟨h.nTunnels, h.encapType, h.receiverIndex,
      fun j hj => by rw [hother j (fun hji => hw (hji ▸ hj))]; exact h.counter j hj⟩
    rw [if_neg (fun hs => hw ((h.encapType i).symm.trans hs))]
    split_ifs
    · exact ⟨hs, fun hw' => absurd hw' hw⟩
    · exact ⟨hs, fun hw' => absurd hw' hw⟩

/-- Over a whole run of buffers the table keeps `CountersAfter`. -/
theorem tailLoop_encapOne_counters (tt : TunnelTable) (bs : List Buffer) :
    ∀ (pre : List Buffer) (s : TunnelTable), CountersAfter tt s pre →
      CountersAfter tt (tailLoop (encapOne e) s bs).1 (pre ++ bs) := by
  induction bs with
  | nil => intro pre s h; simpa using h
  | cons b bs ih =>
    intro pre s h
    simpa [tailLoop_cons] using ih (pre ++ [b]) _ (encapOne_counters e h b).1

/-- One WireGuard tunnel whose counter stands at its last value, `2^64 - 1`. -/
def lastCounterTable : TunnelTable :=
  ⟨fun _ => { (default : EncapTunnel) with encapType := ENCAP_WIREGUARD, wgCounter := 2 ^ 64 - 1 }, 1⟩

/-- Over every run of the node, across successive frames and in any interleaving of tunnels,
a buffer sent through a WireGuard tunnel gets the data header of type 4, three zero bytes, the
tunnel's receiver index and the tunnel's counter at the start of the run plus the number of
earlier buffers of the run on that tunnel, modulo `2^64`, both in host byte order. -/
theorem encapRun_wg_header (tt : TunnelTable) (frames : List (List Buffer)) (pre post : List Buffer)
    (b : Buffer) (h : frames.flatten = pre ++ b :: post) :
    let i := getTunnelForSession tt b.meta
    (tt.tunnels i).encapType = ENCAP_WIREGUARD →
      ((encapRun e tt frames).2[pre.length]?).map (fun o => (o.1.data.drop 28).take 16) =
        some ([4, 0, 0, 0] ++ hostBytes e 4 (tt.tunnels i).wgReceiverIndex ++
          hostBytes e 8 (((tt.tunnels i).wgCounter + tunnelUses tt pre i) % 2 ^ 64)) := by
  intro i hw
  have hpre := tailLoop_encapOne_counters e tt pre [] tt (CountersAfter.init tt)
  rw [List.nil_append] at hpre
  rw [encapRun_eq_tailLoop, h, tailLoop_append, tailLoop_cons,
    List.getElem?_append_right (by rw [tailLoop_length]), tailLoop_length, Nat.sub_self,
    List.getElem?_cons_zero, Option.map_some']
  exact congrArg some ((encapOne_counters e hpre b).2 hw)

theorem encapRun_wg_header_lastCounter :
    [[(default : Buffer)]].flatten = [] ++ [default] ∧
      (lastCounterTable.tunnels 0).encapType = ENCAP_WIREGUARD ∧
      ((encapRun .little lastCounterTable [[default]]).2[0]?).map
          (fun o => (o.1.data.drop 28).take 16) =
        some ([4, 0, 0, 0] ++ hostBytes .little 4 0 ++ hostBytes .little 8 (2 ^ 64 - 1)) :=
  ⟨rfl, rfl, encapRun_wg_header .little lastCounterTable [[default]] [] [] default rfl rfl⟩

/-- The counter wraps: two buffers through a tunnel at its last counter value carry the
counters `2^64 - 1` and then `0`. -/
theorem encapRun_counter_wraps :
    ((encapRun .little lastCounterTable [[default, default]]).2.map
        fun o => (o.1.data.drop 36).take 8) =
      [hostBytes .little 8 (2 ^ 64 - 1), hostBytes .little 8 0] := by
  rw [encapRun_eq_tailLoop]
  decide

end Node

end OpenSase.Encap
