import OpenSase.Encap

/-!
The tenant classifier of `node_vxlan_classifier.c`: a VNI looked up in the direct-mapped
`vni_tenant_table`, and with `encap_vxlan` of `node_encap.c` the VXLAN round trip.
-/
namespace OpenSase.Vxlan

open Encap

def VNI_TENANT_TABLE_SIZE : ℕ := 65536

def VNI_TENANT_TABLE_MASK : ℕ := VNI_TENANT_TABLE_SIZE - 1

/-- `vni_tenant_entry_t`. -/
structure VniTenantEntry where
  vni : ℕ
  tenantId : ℕ
  vrfId : ℕ
  valid : Bool
  aclBypass : Bool
  deriving DecidableEq, Repr, Inhabited

/-- `vni_tenant_table` as the program starts: no valid entry. -/
def vniTableInit : ℕ → VniTenantEntry := fun _ => default

/-- `extract_vxlan_vni` of the VXLAN header after a 20-byte IPv4 and an 8-byte UDP header. -/
def extractVxlanVni (bs : Bytes) : ℕ :=
  byteAt bs 32 <<< 16 ||| byteAt bs 33 <<< 8 ||| byteAt bs 34

def isVxlanPacket (bs : Bytes) : Bool :=
  ipProtocol bs == IP_PROTOCOL_UDP && rd16 bs 22 == 4789

def lookupTenantByVni (vt : ℕ → VniTenantEntry) (vni : ℕ) : Option VniTenantEntry :=
  let entry := vt (vni &&& VNI_TENANT_TABLE_MASK)
  if entry.valid ∧ entry.vni = vni then some entry else none

/-- `lookup_tenant_by_ip`: the default tenant. -/
def lookupTenantByIp (_srcIp : ℕ) : ℕ := 0

/-- `tenant_classifier_next_t`. -/
inductive TenantClassifierNext where
  | acl
  | security
  | drop
  deriving DecidableEq, Repr

/-- The `n_next_nodes` of the node's registration: one past the last `TenantClassifierNext` value. -/
def TENANT_CLASSIFIER_N_NEXT : ℕ := 3

/-- The parsed arguments of `opensase tenant vni add`, with the command's defaults. -/
structure TenantVniAddArgs where
  vni : ℕ := 0
  tenantId : ℕ := 0
  vrfId : ℕ := 0
  aclBypass : Bool := false
  deriving DecidableEq, Repr

/-- `tenant_vni_add_fn` on the table. -/
def tenantVniAddFn (vt : ℕ → VniTenantEntry) (c : TenantVniAddArgs) :
    Except String (ℕ → VniTenantEntry) :=
  if c.vni = 0 then .error "VNI required"
  else .ok (Function.update vt (c.vni &&& VNI_TENANT_TABLE_MASK)
    ⟨c.vni, c.tenantId, c.vrfId, true, c.aclBypass⟩)

/-- The decapsulation of one buffer: the VNI's entry, and the bytes after
`vlib_buffer_advance` past 36 bytes when the packet is VXLAN. -/
def vxlanDecap (vt : ℕ → VniTenantEntry) (bs : Bytes) : Option VniTenantEntry × Bytes :=
  if isVxlanPacket bs then (lookupTenantByVni vt (extractVxlanVni bs), bs.drop 36) else (none, bs)

/-- The tenant and next node stored for a buffer; `ip` is the header it started with. -/
def tenantClassifierStore (b : Buffer) (ip : Bytes) (r : Option VniTenantEntry × Bytes) :
    Buffer × TenantClassifierNext :=
  match r.1 with
  | some te =>
    ({ b with data := r.2, meta := { b.meta with tenantId := te.tenantId } },
      if te.aclBypass then .security else .acl)
  | none => ({ b with data := r.2, meta := { b.meta with tenantId := lookupTenantByIp (ipSrc ip) } }, .acl)

section Node

variable (vt : ℕ → VniTenantEntry)

/-- One iteration of the single-packet loop. -/
def tenantClassifierOne (s : Unit) (b : Buffer) : Unit × (Buffer × TenantClassifierNext) :=
  (s, tenantClassifierStore b b.data (vxlanDecap vt b.data))

/-- One iteration of the four-packet loop: the four decapsulations, then the four stores. -/
def tenantClassifierQuad (s : Unit) (b0 b1 b2 b3 : Buffer) :
    Unit × List (Buffer × TenantClassifierNext) :=
  let r0 := vxlanDecap vt b0.data
  let r1 := vxlanDecap vt b1.data
  let r2 := vxlanDecap vt b2.data
  let r3 := vxlanDecap vt b3.data
  (s, [tenantClassifierStore b0 b0.data r0, tenantClassifierStore b1 b1.data r1,
    tenantClassifierStore b2 b2.data r2, tenantClassifierStore b3 b3.data r3])

/-- The `tenant-classifier` node on one frame. -/
def tenantClassifierNode (frame : List Buffer) : List (Buffer × TenantClassifierNext) :=
  (vectorLoop (tenantClassifierQuad vt) (tenantClassifierOne vt) () frame).2

/-- The node treats every buffer by itself. -/
theorem tenantClassifierNode_eq_map (frame : List Buffer) :
    tenantClassifierNode vt frame = frame.map fun b => (tenantClassifierOne vt () b).2 := by
  rw [tenantClassifierNode, vectorLoop_eq_tailLoop (fun _ => True) (tenantClassifierQuad vt)
    (tenantClassifierOne vt) (fun _ _ _ => trivial) (fun _ _ _ _ _ _ => rfl) () frame trivial]
  induction frame with
  | nil => rfl
  | cons b frame ih => exact congrArg _ ih

@[simp] theorem tenantClassifierStore_data (b : Buffer) (ip : Bytes)
    (r : Option VniTenantEntry × Bytes) : (tenantClassifierStore b ip r).1.data = r.2 := by
  unfold tenantClassifierStore
  split <;> rfl

end Node

/-- `extract_vxlan_vni` as arithmetic on the three VNI bytes. -/
theorem extractVxlanVni_eq (bs : Bytes) :
    extractVxlanVni bs = byteAt bs 32 * 65536 + byteAt bs 33 * 256 + byteAt bs 34 := by
  have h33 := byteAt_lt bs 33
  have h34 := byteAt_lt bs 34
  rw [extractVxlanVni, Nat.or_assoc, shiftLeft_lor_of_lt _ _ 8 (by omega),
    shiftLeft_lor_of_lt _ _ 16 (by omega)]
  omega

/-! ### The VXLAN round trip -/

section RoundTrip

variable {n : ℕ} {c : TunnelCreateArgs}

/-- The bytes `encap_vxlan` builds before the checksum store. -/
theorem encapVxlan_data (b : Buffer) (t : EncapTunnel) :
    (encapVxlan b t).data = prependWithChecksum
      (outerHeaders t (ipLength b.data + 36) ++ vxlanHeader t) b.data := rfl

@[simp] theorem vxlanHeader_length (t : EncapTunnel) : (vxlanHeader t).length = 8 := rfl

/-- Outside the checksum field, the encapsulated bytes are the headers and the inner
packet. -/
theorem byteAt_encapVxlan (b : Buffer) (t : EncapTunnel) {i : ℕ} (hi : i < 10 ∨ 12 ≤ i) :
    byteAt (encapVxlan b t).data i =
      byteAt (outerHeaders t (ipLength b.data + 36) ++ vxlanHeader t ++ b.data) i := by
  rw [encapVxlan_data, prependWithChecksum, byteAt_storeBytes (by simp; omega),
    if_neg (by simp only [be16_length]; omega)]

theorem rd16_encapVxlan (b : Buffer) (t : EncapTunnel) {i : ℕ} (hi : i + 2 ≤ 10 ∨ 12 ≤ i) :
    rd16 (encapVxlan b t).data i =
      rd16 (outerHeaders t (ipLength b.data + 36) ++ vxlanHeader t ++ b.data) i := by
  rw [rd16, rd16, byteAt_encapVxlan b t (by omega), byteAt_encapVxlan b t (by omega)]

/-- The tunnel a successful `opensase tunnel create` installs. -/
theorem opensaseTunnelCreateFn_tunnel {tt tt' : TunnelTable}
    (h : opensaseTunnelCreateFn tt c = .ok tt') :
    tt.nTunnels < MAX_TUNNELS ∧ tt'.tunnels tt.nTunnels = c.tunnel tt.nTunnels := by
  unfold opensaseTunnelCreateFn at h
  split at h
  · cases h
  · cases h
    exact ⟨by omega, Function.update_same _ _ _⟩

/-- The outer header of a VXLAN encapsulation with a created tunnel to port 4789. -/
theorem encapVxlan_outer (hn : n < MAX_TUNNELS) (hport : c.remotePort = 4789) (b : Buffer) :
    let d := (encapVxlan b (c.tunnel n)).data
    isVxlanPacket d = true ∧ extractVxlanVni d = (c.tunnel n).tunnelId ∧
      (byteAt d 28, byteAt d 29, byteAt d 30, byteAt d 31, byteAt d 35) = (0x08, 0, 0, 0, 0) := by
  intro d
  have hn' : n < 4096 := hn
  simp only [d, isVxlanPacket, ipProtocol, extractVxlanVni_eq, rd16,
    byteAt_encapVxlan b _ (show 9 < 10 ∨ 12 ≤ 9 by omega),
    byteAt_encapVxlan b _ (show 22 < 10 ∨ 12 ≤ 22 by omega),
    byteAt_encapVxlan b _ (show 22 + 1 < 10 ∨ 12 ≤ 22 + 1 by omega),
    byteAt_encapVxlan b _ (show 32 < 10 ∨ 12 ≤ 32 by omega),
    byteAt_encapVxlan b _ (show 33 < 10 ∨ 12 ≤ 33 by omega),
    byteAt_encapVxlan b _ (show 34 < 10 ∨ 12 ≤ 34 by omega),
    byteAt_encapVxlan b _ (show 28 < 10 ∨ 12 ≤ 28 by omega),
    byteAt_encapVxlan b _ (show 29 < 10 ∨ 12 ≤ 29 by omega),
    byteAt_encapVxlan b _ (show 30 < 10 ∨ 12 ≤ 30 by omega),
    byteAt_encapVxlan b _ (show 31 < 10 ∨ 12 ≤ 31 by omega),
    byteAt_encapVxlan b _ (show 35 < 10 ∨ 12 ≤ 35 by omega)]
  simp only [byteAt, outerHeaders, vxlanHeader, Ip4Header.toBytes, UdpHeader.toBytes,
    TunnelCreateArgs.tunnel, be16, be32, List.append_assoc, List.cons_append, List.nil_append,
    List.getD_cons_succ, List.getD_cons_zero, byte_toNat_ofNat, hport, Nat.shiftLeft_eq]
  refine ⟨by decide, by omega, ?_⟩
  simp only [Prod.mk.injEq, true_and]
  omega

/-- The outer length field holds the length of the encapsulated packet, and the outer
header checksum is valid. -/
theorem encapVxlan_length_checksum (t : EncapTunnel) (ht : t.ip4.ipVersionAndHeaderLength = 0x45)
    (b : Buffer) (hlen : b.data.length = ipLength b.data) (hmax : ipLength b.data ≤ 65535 - 36) :
    ipLength (encapVxlan b t).data = (encapVxlan b t).data.length ∧
      Ip4ChecksumValid (encapVxlan b t).data := by
  have hl : 12 ≤ (outerHeaders t (ipLength b.data + 36) ++ vxlanHeader t ++ b.data).length := by
    simp only [List.length_append, outerHeaders_length, vxlanHeader_length]; omega
  refine ⟨?_, checksumValid_storeChecksum hl ?_⟩
  · rw [ipLength, rd16_encapVxlan b t (by omega), encapVxlan_data, prependWithChecksum,
      storeBytes_length (by simpa using hl)]
    simp only [List.length_append, outerHeaders_length, vxlanHeader_length, hlen]
    simp only [rd16, byteAt, outerHeaders, vxlanHeader, Ip4Header.toBytes, UdpHeader.toBytes, be16,
      be32, List.append_assoc, List.cons_append, List.nil_append, List.getD_cons_succ,
      List.getD_cons_zero, byte_toNat_ofNat]
    omega
  · simp only [ip4HeaderBytes, byteAt, outerHeaders, Ip4Header.toBytes, be16, be32,
      List.append_assoc, List.cons_append, List.getD_cons_zero, byte_toNat_ofNat, ht]
    decide

/-- The tenant classifier's advance past 36 bytes gives back the inner packet. -/
theorem vxlanDecap_encapVxlan (vt : ℕ → VniTenantEntry) (b : Buffer) (t : EncapTunnel)
    (hv : isVxlanPacket (encapVxlan b t).data = true) :
    (vxlanDecap vt (encapVxlan b t).data).2 = b.data := by
  rw [vxlanDecap, if_pos hv, encapVxlan_data, prependWithChecksum,
    drop_storeBytes (by simp) (by simp; omega), List.drop_append_of_le_length (by simp)]
  simp

end RoundTrip

/-- VXLAN round trip: for a tunnel to port 4789, `encap_vxlan` of every inner IPv4 packet of at
most `65535 - 36` bytes is a VXLAN packet with the tunnel's VNI, a right length and a valid
checksum, and the tenant classifier gives back the inner packets byte for byte. -/
theorem encapVxlan_roundTrip {tt tt' : TunnelTable} {c : TunnelCreateArgs}
    (hcreate : opensaseTunnelCreateFn tt c = .ok tt') (hport : c.remotePort = 4789)
    (vt : ℕ → VniTenantEntry) (frame : List Buffer)
    (hframe : ∀ b ∈ frame, b.data.length = ipLength b.data ∧ ipLength b.data ≤ 65535 - 36) :
    let t := tt'.tunnels tt.nTunnels
    (tenantClassifierNode vt (frame.map (encapVxlan · t))).map (·.1.data) = frame.map (·.data) ∧
      ∀ b ∈ frame, let d := (encapVxlan b t).data
        isVxlanPacket d = true ∧ extractVxlanVni d = t.tunnelId ∧
        (byteAt d 28, byteAt d 29, byteAt d 30, byteAt d 31, byteAt d 35) = (0x08, 0, 0, 0, 0) ∧
        ipLength d = d.length ∧ Ip4ChecksumValid d := by
  intro t
  obtain ⟨hn, ht⟩ := opensaseTunnelCreateFn_tunnel hcreate
  simp only [t, ht]
  refine ⟨?_, fun b hb => ?_⟩
  · rw [tenantClassifierNode_eq_map, List.map_map, List.map_map]
    refine List.map_congr_left fun b _ => ?_
    simp only [Function.comp, tenantClassifierOne, tenantClassifierStore_data]
    exact vxlanDecap_encapVxlan vt b _ (encapVxlan_outer hn hport b).1
  · obtain ⟨hv, hvni, hflags⟩ := encapVxlan_outer hn hport b
    exact ⟨hv, hvni, hflags, encapVxlan_length_checksum _ rfl b (hframe b hb).1 (hframe b hb).2⟩

/-- `opensase tunnel create local 192.0.2.1 remote 198.51.100.7 remote-port 4789 vxlan`. -/
def vxlanToPeer : TunnelCreateArgs :=
  { localAddr := 0xC0000201, remoteAddr := 0xC6336407, remotePort := 4789,
    encapType := ENCAP_VXLAN }

/-- The first tunnel of an empty table carrying `flowA`. -/
theorem encapVxlan_roundTrip_flowA :
    ∃ tt', opensaseTunnelCreateFn tunnelTableInit vxlanToPeer = .ok tt' ∧
      vxlanToPeer.remotePort = 4789 ∧
      (∀ b ∈ [{ data := flowA, meta := default : Buffer }],
        b.data.length = ipLength b.data ∧ ipLength b.data ≤ 65535 - 36) ∧
      let t := tt'.tunnels tunnelTableInit.nTunnels
      (tenantClassifierNode vniTableInit ([{ data := flowA, meta := default : Buffer }].map
          (encapVxlan · t))).map (·.1.data) =
          [{ data := flowA, meta := default : Buffer }].map (·.data) ∧
        ∀ b ∈ [{ data := flowA, meta := default : Buffer }], let d := (encapVxlan b t).data
          isVxlanPacket d = true ∧ extractVxlanVni d = t.tunnelId ∧
          (byteAt d 28, byteAt d 29, byteAt d 30, byteAt d 31, byteAt d 35) = (0x08, 0, 0, 0, 0) ∧
          ipLength d = d.length ∧ Ip4ChecksumValid d := by
  refine ⟨_, rfl, rfl, by decide, ?_⟩
  refine @encapVxlan_roundTrip tunnelTableInit _ vxlanToPeer ?_ ?_ vniTableInit _ (by decide) <;> rfl

/-! ### The VNI table after a run of adds -/

/-- The entry `tenant_vni_add_fn` stores for a command. -/
def TenantVniAddArgs.entry (c : TenantVniAddArgs) : VniTenantEntry :=
  ⟨c.vni, c.tenantId, c.vrfId, true, c.aclBypass⟩

/-- A sequence of `opensase tenant vni add` commands from the startup table, stopping at the
first failure. -/
def runTenantVniAdds (cmds : List TenantVniAddArgs) : Except String (ℕ → VniTenantEntry) :=
  cmds.foldlM tenantVniAddFn vniTableInit

/-- The most recent command of `cmds` whose VNI indexes slot `i` of the table. -/
def lastAddAt (cmds : List TenantVniAddArgs) (i : ℕ) : Option TenantVniAddArgs :=
  cmds.reverse.find? fun c => c.vni &&& VNI_TENANT_TABLE_MASK = i

/-- The most recent command of `cmds` for the VNI `v`. -/
def lastAddOf (cmds : List TenantVniAddArgs) (v : ℕ) : Option TenantVniAddArgs :=
  cmds.reverse.find? fun c => c.vni = v

theorem lastAddAt_cons (c : TenantVniAddArgs) (cs : List TenantVniAddArgs) (i : ℕ) :
    lastAddAt (c :: cs) i =
      (lastAddAt cs i).or (if c.vni &&& VNI_TENANT_TABLE_MASK = i then some c else none) := by
  simp [lastAddAt, List.find?_append, List.find?_singleton]

/-- Each add overwrites its slot: after a successful run from any table, a slot holds the
entry of the most recent add that indexes it, or what it held before. -/
theorem foldlM_tenantVniAddFn {cmds : List TenantVniAddArgs} {vt₀ vt : ℕ → VniTenantEntry}
    (h : cmds.foldlM tenantVniAddFn vt₀ = .ok vt) (i : ℕ) :
    vt i = ((lastAddAt cmds i).map TenantVniAddArgs.entry).getD (vt₀ i) := by
  induction cmds generalizing vt₀ with
  | nil => cases h; rfl
  | cons c cs ih =>
    simp only [List.foldlM_cons, bind, Except.bind] at h
    split at h
    · cases h
    · rename_i vt₁ hadd
      unfold tenantVniAddFn at hadd
      split_ifs at hadd
      cases hadd
      rw [ih h, lastAddAt_cons]
      cases lastAddAt cs i with
      | some c' => rfl
      | none =>
        by_cases hs : c.vni &&& VNI_TENANT_TABLE_MASK = i
        · subst hs
          simp [Function.update_same, TenantVniAddArgs.entry]
        · simp [Function.update_noteq (Ne.symm hs), hs]

theorem runTenantVniAdds_slot {cmds : List TenantVniAddArgs} {vt : ℕ → VniTenantEntry}
    (h : runTenantVniAdds cmds = .ok vt) (i : ℕ) :
    vt i = ((lastAddAt cmds i).map TenantVniAddArgs.entry).getD default :=
  foldlM_tenantVniAddFn h i

/-- The most recent add on a VNI's slot, when it is for that VNI, is the VNI's most recent
add. -/
theorem lastAddOf_of_lastAddAt {cmds : List TenantVniAddArgs} {v : ℕ} {c : TenantVniAddArgs}
    (h : lastAddAt cmds (v &&& VNI_TENANT_TABLE_MASK) = some c) (hv : c.vni = v) :
    lastAddOf cmds v = some c := by
  unfold lastAddAt at h
  unfold lastAddOf
  generalize cmds.reverse = l at h ⊢
  induction l with
  | nil => cases h
  | cons x xs ih =>
    rw [List.find?_cons] at h ⊢
    by_cases hx : x.vni = v
    · have hq : decide (x.vni &&& VNI_TENANT_TABLE_MASK = v &&& VNI_TENANT_TABLE_MASK) = true := by
        simp [hx]
      rw [hq] at h
      cases h
      simp [hx]
    · simp only [hx, decide_False]
      split at h
      · cases h; exact absurd hv hx
      · exact ih h

/-- The lookup of a VNI finds nothing, or the entry of the most recent add for that VNI:
never another VNI's mapping. -/
theorem lookupTenantByVni_sound {cmds : List TenantVniAddArgs} {vt : ℕ → VniTenantEntry}
    (h : runTenantVniAdds cmds = .ok vt) (v : ℕ) :
    lookupTenantByVni vt v = none ∨ ∃ c, lastAddOf cmds v = some c ∧
      lookupTenantByVni vt v = some ⟨v, c.tenantId, c.vrfId, true, c.aclBypass⟩ := by
  unfold lookupTenantByVni
  rw [runTenantVniAdds_slot h]
  cases hc : lastAddAt cmds (v &&& VNI_TENANT_TABLE_MASK) with
  | none => exact .inl (by simp [default])
  | some c =>
    by_cases hv : c.vni = v
    · exact .inr ⟨c, lastAddOf_of_lastAddAt hc hv, by simp [TenantVniAddArgs.entry, hv]⟩
    · exact .inl (by simp [TenantVniAddArgs.entry, hv])

/-- `opensase tenant vni add vni 1 tenant 1`. -/
def vniOneAdd : TenantVniAddArgs := { vni := 1, tenantId := 1 }

/-- `opensase tenant vni add vni 65537 tenant 2`: VNI `1 + 2^16`, on the slot of VNI 1. -/
def vniOneShiftedAdd : TenantVniAddArgs := { vni := 65537, tenantId := 2 }

theorem lookupTenantByVni_sound_colliding :
    ∃ vt, runTenantVniAdds [vniOneAdd, vniOneShiftedAdd] = .ok vt ∧
      (lookupTenantByVni vt 1 = none ∨ ∃ c, lastAddOf [vniOneAdd, vniOneShiftedAdd] 1 = some c ∧
        lookupTenantByVni vt 1 = some ⟨1, c.tenantId, c.vrfId, true, c.aclBypass⟩) :=
  ⟨_, rfl, @lookupTenantByVni_sound [vniOneAdd, vniOneShiftedAdd] _ rfl 1⟩

/-- For a VNI that was added, the lookup finds its most recent add exactly when that add is
also the most recent one on the VNI's slot: a later add of another VNI with the same low 16
bits takes the slot. -/
theorem lookupTenantByVni_added_iff {cmds : List TenantVniAddArgs} {vt : ℕ → VniTenantEntry}
    (h : runTenantVniAdds cmds = .ok vt) {v : ℕ} {c : TenantVniAddArgs}
    (hc : lastAddOf cmds v = some c) :
    lookupTenantByVni vt v = some c.entry ↔
      lastAddAt cmds (v &&& VNI_TENANT_TABLE_MASK) = some c := by
  have hv : c.vni = v := by simpa using List.find?_some hc
  unfold lookupTenantByVni
  rw [runTenantVniAdds_slot h]
  constructor
  · intro hl
    cases hs : lastAddAt cmds (v &&& VNI_TENANT_TABLE_MASK) with
    | none => simp [hs, default] at hl
    | some c' =>
      have hv' : c'.vni = v := by
        by_contra hne
        simp [hs, TenantVniAddArgs.entry, hne] at hl
      rw [← hc, lastAddOf_of_lastAddAt hs hv']
  · intro hs
    simp [hs, TenantVniAddArgs.entry, hv]

theorem lookupTenantByVni_added_iff_colliding :
    ∃ vt, runTenantVniAdds [vniOneAdd, vniOneShiftedAdd] = .ok vt ∧
      lastAddOf [vniOneAdd, vniOneShiftedAdd] 1 = some vniOneAdd ∧
      (lookupTenantByVni vt 1 = some vniOneAdd.entry ↔
        lastAddAt [vniOneAdd, vniOneShiftedAdd] (1 &&& VNI_TENANT_TABLE_MASK) = some vniOneAdd) :=
  ⟨_, rfl, rfl, @lookupTenantByVni_added_iff [vniOneAdd, vniOneShiftedAdd] _ rfl 1 vniOneAdd rfl⟩

/-- Two successful adds whose VNIs agree in their low 16 bits: the second takes the slot of
the first, and VNI 1, which was added, is no longer found. -/
theorem tenantVniAddFn_drops_colliding_vni :
    ∃ vt, runTenantVniAdds [vniOneAdd, vniOneShiftedAdd] = .ok vt ∧
      lastAddOf [vniOneAdd, vniOneShiftedAdd] 1 = some vniOneAdd ∧
      lookupTenantByVni vt 1 = none ∧
      lookupTenantByVni vt 65537 = some vniOneShiftedAdd.entry :=
  ⟨_, rfl, rfl, by decide, by decide⟩

end OpenSase.Vxlan
