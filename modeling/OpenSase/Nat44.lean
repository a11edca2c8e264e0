import OpenSase.Frame
import Mathlib.Logic.Function.Basic
import Mathlib.Data.Rat.Defs
import Mathlib.Data.Nat.ModEq

/-!
NAT44 of `node_nat.c`: a mapping is found by the hash of the XOR-ed 5-tuple alone, its port is
drawn round-robin from the tenant's pool, and it never expires (`natRun_mapping_never_expires`).
-/
namespace OpenSase.Nat44

/-- `nat_mapping_t`, with the fields the node writes. -/
structure NatMapping where
  internalAddr : ℕ
  externalAddr : ℕ
  internalPort : ℕ
  externalPort : ℕ
  protocol : ℕ
  tenantId : ℕ
  expireTime : ℚ
  deriving DecidableEq, Inhabited

/-- `nat_pool_t`; the port fields are `u16`. -/
structure NatPool where
  externalAddr : ℕ
  portStart : ℕ
  portEnd : ℕ
  nextPort : ℕ
  deriving DecidableEq, Repr, Inhabited

def NAT_TABLE_SIZE : ℕ := 2 ^ 20

/-- `nat_worker_t`: `vecLen = vec_len (mappings)`, the mapping hash, `n_mappings` and the
256 tenant pools. -/
structure NatWorker where
  mappings : ℕ → NatMapping
  vecLen : ℕ
  mappingHash : ℕ → Option ℕ
  nMappings : ℕ
  tenantPools : ℕ → NatPool

/-- `opensase_nat_init` for one worker: `NAT_TABLE_SIZE` zeroed mappings, an empty hash
and the default pool `0.0.0.0:10000-65000`. -/
def opensaseNatInit : NatWorker where
  mappings := fun _ => default
  vecLen := NAT_TABLE_SIZE
  mappingHash := fun _ => none
  nMappings := 0
  tenantPools := Function.update (fun _ => default) 0 ⟨0, 10000, 65000, 10000⟩

/-- The parsed arguments of `opensase nat pool tenant <id> address <ip> ports <s>-<e>`,
with the command's defaults. -/
structure NatPoolArgs where
  tenantId : ℕ := 0
  addr : ℕ
  portStart : ℕ := 10000
  portEnd : ℕ := 65000
  deriving DecidableEq, Repr

/-- The pool a successful command installs: the `u32` arguments are stored into `u16`
fields. -/
def NatPoolArgs.pool (c : NatPoolArgs) : NatPool :=
  ⟨c.addr, c.portStart % 65536, c.portEnd % 65536, c.portStart % 65536⟩

/-- `opensase_nat_pool_fn` on a worker. -/
def opensaseNatPoolFn (w : NatWorker) (c : NatPoolArgs) : Except String NatWorker :=
  if c.tenantId ≥ 256 then .error "tenant_id must be < 256"
  else .ok { w with tenantPools := Function.update w.tenantPools c.tenantId c.pool }

section Mapping

variable (e : Endian) (clibXxhash : ℕ → ℕ) (now : ℚ)

def natHashKey (src dst srcPort dstPort proto : ℕ) : ℕ :=
  clibXxhash (xorTupleKey e src dst srcPort dstPort proto)

def natLookup (w : NatWorker) (src dst srcPort dstPort proto : ℕ) : Option NatMapping :=
  (w.mappingHash (natHashKey e clibXxhash src dst srcPort dstPort proto)).map w.mappings

/-- The tenant id `nat_create_mapping` works with: ids from 256 on become 0. -/
def clampTenant (tenantId : ℕ) : ℕ := if tenantId ≥ 256 then 0 else tenantId

/-- The pool `nat_create_mapping` draws from: the tenant's, or pool 0 if the tenant's
pool has address 0. -/
def selectPool (w : NatWorker) (tenantId : ℕ) : ℕ :=
  if (w.tenantPools (clampTenant tenantId)).externalAddr = 0 then 0 else clampTenant tenantId

/-- `next_port++` (a `u16`), then back to `port_start` past `port_end`. -/
def advancePort (p : NatPool) : NatPool :=
  let n := (p.nextPort + 1) % 65536
  { p with nextPort := if n > p.portEnd then p.portStart else n }

/-- The number of ports in a pool's range. -/
def NatPool.size (p : NatPool) : ℕ := p.portEnd + 1 - p.portStart

/-- The cursor lies in `[port_start, port_end]` and `port_end < 65535`, so that
`next_port++` never wraps the `u16`. -/
def NatPool.InRange (p : NatPool) : Prop :=
  p.portStart ≤ p.nextPort ∧ p.nextPort ≤ p.portEnd ∧ p.portEnd < 65535

instance (p : NatPool) : Decidable p.InRange := inferInstanceAs (Decidable (_ ∧ _))

/-- The port handed out `k` allocations from now: round robin over the range. -/
def NatPool.portAfter (p : NatPool) (k : ℕ) : ℕ :=
  p.portStart + (p.nextPort - p.portStart + k) % p.size

@[simp] theorem advancePort_externalAddr (p : NatPool) :
    (advancePort p).externalAddr = p.externalAddr := rfl

theorem advancePort_inRange {p : NatPool} (h : p.InRange) : (advancePort p).InRange := by
  unfold NatPool.InRange at *
  simp only [advancePort]
  split <;> omega

theorem portAfter_advancePort {p : NatPool} (h : p.InRange) (k : ℕ) :
    (advancePort p).portAfter k = p.portAfter (k + 1) := by
  unfold NatPool.InRange at h
  have hoff : (advancePort p).nextPort - p.portStart =
      (p.nextPort - p.portStart + 1) % p.size := by
    simp only [advancePort, NatPool.size]
    split
    · rw [show p.nextPort - p.portStart + 1 = p.portEnd + 1 - p.portStart by omega, Nat.mod_self]
      omega
    · rw [Nat.mod_eq_of_lt
        (show p.nextPort - p.portStart + 1 < p.portEnd + 1 - p.portStart by omega)]
      omega
  show p.portStart + ((advancePort p).nextPort - p.portStart + k) % p.size = _
  rw [hoff, Nat.mod_add_mod, NatPool.portAfter, Nat.add_right_comm _ 1 k, Nat.add_assoc _ k 1]

theorem portAfter_zero {p : NatPool} (h : p.InRange) : p.portAfter 0 = p.nextPort := by
  unfold NatPool.InRange at h
  rw [NatPool.portAfter, Nat.add_zero, Nat.mod_eq_of_lt (by unfold NatPool.size; omega)]
  omega

/-- From a cursor in range, `k` advances move only the cursor, to the `k`-th round-robin
port. -/
theorem advancePort_iterate_eq {p : NatPool} (h : p.InRange) (k : ℕ) :
    advancePort^[k] p = { p with nextPort := p.portAfter k } := by
  induction k generalizing p with
  | zero => rw [portAfter_zero h]; rfl
  | succ k ih =>
    rw [Function.iterate_succ_apply, ih (advancePort_inRange h), portAfter_advancePort h]
    rfl

theorem advancePort_iterate_nextPort {p : NatPool} (h : p.InRange) (k : ℕ) :
    (advancePort^[k] p).nextPort = p.portAfter k := by
  rw [advancePort_iterate_eq h]

@[simp] theorem advancePort_iterate_externalAddr (p : NatPool) (k : ℕ) :
    (advancePort^[k] p).externalAddr = p.externalAddr := by
  induction k generalizing p with
  | zero => rfl
  | succ k ih => rw [Function.iterate_succ_apply, ih, advancePort_externalAddr]

/-- Two round-robin positions give one port exactly when they are a multiple of the range
apart. -/
theorem portAfter_eq_iff (p : NatPool) {k k' : ℕ} (hk : k ≤ k') :
    p.portAfter k = p.portAfter k' ↔ p.size ∣ k' - k := by
  rw [NatPool.portAfter, NatPool.portAfter, Nat.add_left_cancel_iff, ← Nat.add_sub_add_left _ k' k]
  exact Nat.modEq_iff_dvd' (Nat.add_le_add_left hk _)

/-- From a cursor in range, every later cursor stays in the pool's range. -/
theorem advancePort_iterate_bounds {p : NatPool} (h : p.InRange) (k : ℕ) :
    p.portStart ≤ (advancePort^[k] p).nextPort ∧ (advancePort^[k] p).nextPort ≤ p.portEnd := by
  have hs : 0 < p.size := by unfold NatPool.size NatPool.InRange at *; omega
  have := Nat.mod_lt (p.nextPort - p.portStart + k) hs
  rw [advancePort_iterate_nextPort h, NatPool.portAfter]
  unfold NatPool.size NatPool.InRange at *
  omega

/-- With `port_end = 65535` the `> port_end` test never fires: the `u16` cursor counts on
and wraps to 0. -/
theorem advancePort_top {p : NatPool} (h : p.portEnd = 65535) :
    advancePort p = { p with nextPort := (p.nextPort + 1) % 65536 } := by
  simp only [advancePort, h]
  rw [if_neg (by omega)]

theorem advancePort_iterate_top {p : NatPool} (h : p.portEnd = 65535) (hn : p.nextPort < 65536)
    (k : ℕ) : advancePort^[k] p = { p with nextPort := (p.nextPort + k) % 65536 } := by
  induction k with
  | zero => rw [Nat.add_zero, Nat.mod_eq_of_lt hn]; rfl
  | succ k ih =>
    rw [Function.iterate_succ_apply', ih, advancePort_top (p := { p with nextPort := (p.nextPort + k) % 65536 }) h]
    congr 1
    dsimp only
    omega

/-- A successful `opensase nat pool` command installs its pool for its tenant. -/
theorem opensaseNatPoolFn_pool {w w' : NatWorker} {c : NatPoolArgs}
    (h : opensaseNatPoolFn w c = .ok w') : w'.tenantPools c.tenantId = c.pool := by
  unfold opensaseNatPoolFn at h
  split_ifs at h
  cases h
  exact Function.update_same _ _ _

/-- A pool configured with `ports s-e`, `s ≤ e ≤ 65535`, hands out ports in `[s, e]` over
any number of allocations exactly when `e < 65535` or `s = 0`. At `e = 65535` the cursor
wraps from 65535 to 0, which passes the `> port_end` test, and allocation `65536 - s`
gets port 0. -/
theorem natPool_ports_in_range_iff {w w' : NatWorker} {c : NatPoolArgs}
    (hw : opensaseNatPoolFn w c = .ok w') (hse : c.portStart ≤ c.portEnd)
    (he : c.portEnd ≤ 65535) :
    (∀ k, c.portStart ≤ (advancePort^[k] (w'.tenantPools c.tenantId)).nextPort ∧
        (advancePort^[k] (w'.tenantPools c.tenantId)).nextPort ≤ c.portEnd) ↔
      c.portEnd < 65535 ∨ c.portStart = 0 := by
  have hp : w'.tenantPools c.tenantId = ⟨c.addr, c.portStart, c.portEnd, c.portStart⟩ := by
    rw [opensaseNatPoolFn_pool hw, NatPoolArgs.pool, Nat.mod_eq_of_lt (by omega : c.portStart < 65536),
      Nat.mod_eq_of_lt (by omega : c.portEnd < 65536)]
  rw [hp]
  constructor
  · intro hk
    by_contra hne
    have hwrap := (hk (65536 - c.portStart)).1
    rw [advancePort_iterate_top (by dsimp only; omega) (by dsimp only; omega)] at hwrap
    dsimp only at hwrap
    omega
  · intro hr k
    by_cases hlt : c.portEnd < 65535
    · exact advancePort_iterate_bounds (p := ⟨c.addr, c.portStart, c.portEnd, c.portStart⟩)
        ⟨le_rfl, hse, hlt⟩ k
    · rw [advancePort_iterate_top (by dsimp only; omega) (by dsimp only; omega)]
      dsimp only
      omega

/-- `opensase nat pool tenant 1 address 198.51.100.4 ports 65535-65535`. -/
def topPortPool : NatPoolArgs :=
  { tenantId := 1, addr := 0xC6336404, portStart := 65535, portEnd := 65535 }

theorem natPool_ports_in_range_iff_topPort :
    ∃ w', opensaseNatPoolFn opensaseNatInit topPortPool = .ok w' ∧
      topPortPool.portStart ≤ topPortPool.portEnd ∧ topPortPool.portEnd ≤ 65535 ∧
      ((∀ k, topPortPool.portStart ≤ (advancePort^[k] (w'.tenantPools topPortPool.tenantId)).nextPort ∧
          (advancePort^[k] (w'.tenantPools topPortPool.tenantId)).nextPort ≤ topPortPool.portEnd) ↔
        topPortPool.portEnd < 65535 ∨ topPortPool.portStart = 0) :=
  ⟨_, rfl, by decide, by decide, natPool_ports_in_range_iff rfl (by decide) (by decide)⟩

/-- `nat_create_mapping`: the new mapping and the worker afterwards. -/
def natCreateMapping (w : NatWorker) (tenantId internalAddr internalPort dst dstPort proto : ℕ) :
    NatMapping × NatWorker :=
  let pi := selectPool w tenantId
  let pool := w.tenantPools pi
  let m : NatMapping :=
    ⟨internalAddr, pool.externalAddr, internalPort, pool.nextPort, proto,
      clampTenant tenantId, now + 300⟩
  let key := natHashKey e clibXxhash internalAddr dst internalPort dstPort proto
  (m, { w with
        mappings := Function.update w.mappings w.vecLen m
        vecLen := w.vecLen + 1
        mappingHash := Function.update w.mappingHash key (some w.vecLen)
        nMappings := (w.nMappings + 1) % 2 ^ 32
        tenantPools := Function.update w.tenantPools pi (advancePort pool) })

end Mapping

/-- `nat_translate`: the new source address and L4 source port, the L4 checksum zeroed
for TCP and UDP, and the IPv4 header checksum recomputed. Offsets assume a 20-byte
header, as the source does. -/
def natTranslate (bs : Bytes) (m : NatMapping) : Bytes :=
  let b1 := storeBytes bs 12 (be32 m.externalAddr)
  let b2 :=
    if ipProtocol b1 = IP_PROTOCOL_TCP then
      storeBytes (storeBytes b1 20 (be16 m.externalPort)) 36 (be16 0)
    else if ipProtocol b1 = IP_PROTOCOL_UDP then
      storeBytes (storeBytes b1 20 (be16 m.externalPort)) 26 (be16 0)
    else b1
  storeBytes b2 10 (be16 (ip4HeaderChecksum b2))

/-- The stores that follow the address rewrite: the L4 source port, the L4 checksum at
`off` zeroed, then the recomputed header checksum. The other fields from offset 22 on are
left alone. -/
theorem natTranslate_l4 (b : Bytes) (off : ℕ) (hoff : 22 ≤ off) (hl : off + 2 ≤ b.length)
    (hh : 12 ≤ ip4HeaderBytes b) (port : ℕ) :
    let b' := storeBytes (storeBytes b 20 (be16 port)) off (be16 0)
    let b'' := storeBytes b' 10 (be16 (ip4HeaderChecksum b'))
    ipSrc b'' = ipSrc b ∧ rd16 b'' 20 = port % 65536 ∧ Ip4ChecksumValid b'' ∧
      ∀ i, 22 ≤ i → i + 2 ≤ off ∨ off + 2 ≤ i → rd16 b'' i = rd16 b i := by
  intro b' b''
  have h20 : 20 + (be16 port).length ≤ b.length := by simp only [be16_length]; omega
  have hoff' : off + (be16 0).length ≤ (storeBytes b 20 (be16 port)).length := by
    simp only [be16_length, storeBytes_length h20]; omega
  have h10 : 10 + (be16 (ip4HeaderChecksum b')).length ≤ b'.length := by
    simp only [b', be16_length, storeBytes_length hoff', storeBytes_length h20]; omega
  refine ⟨?_, ?_, checksumValid_storeChecksum (by simp only [be16_length] at h10; omega) ?_,
    fun i hi hd => ?_⟩
  · rw [ipSrc, ipSrc, rd32_storeBytes_of_disjoint h10 (by simp only [be16_length]; omega),
      rd32_storeBytes_of_disjoint hoff' (by simp only [be16_length]; omega),
      rd32_storeBytes_of_disjoint h20 (by simp only [be16_length]; omega)]
  · rw [rd16_storeBytes_of_disjoint h10 (by simp only [be16_length]; omega),
      rd16_storeBytes_of_disjoint hoff' (by simp only [be16_length]; omega),
      rd16_storeBytes_be16 (by omega)]
  · rwa [ip4HeaderBytes_storeBytes hoff' (by omega), ip4HeaderBytes_storeBytes h20 (by omega)]
  · rw [rd16_storeBytes_of_disjoint h10 (by simp only [be16_length]; omega),
      rd16_storeBytes_of_disjoint hoff' (by simp only [be16_length]; omega),
      rd16_storeBytes_of_disjoint h20 (by simp only [be16_length]; omega)]

/-- `nat_translate` of a TCP or UDP packet whose L4 checksum field lies inside the data
writes the mapping's external address and port and leaves a valid header checksum; every
16-bit field from offset 22 on outside the L4 checksum keeps its value. -/
theorem natTranslate_spec (bs : Bytes) (m : NatMapping) (hh : 12 ≤ ip4HeaderBytes bs)
    (hp : ipProtocol bs = IP_PROTOCOL_TCP ∧ 38 ≤ bs.length ∨
      ipProtocol bs = IP_PROTOCOL_UDP ∧ 28 ≤ bs.length) :
    ipSrc (natTranslate bs m) = m.externalAddr % 2 ^ 32 ∧
      rd16 (natTranslate bs m) 20 = m.externalPort % 65536 ∧
      Ip4ChecksumValid (natTranslate bs m) ∧
      ∀ i, 22 ≤ i → (ipProtocol bs = IP_PROTOCOL_TCP → i + 2 ≤ 36 ∨ 38 ≤ i) →
        (ipProtocol bs = IP_PROTOCOL_UDP → i + 2 ≤ 26 ∨ 28 ≤ i) →
        rd16 (natTranslate bs m) i = rd16 bs i := by
  have h12 : 12 + (be32 m.externalAddr).length ≤ bs.length := by
    simp only [be32_length]; omega
  have hp1 : ipProtocol (storeBytes bs 12 (be32 m.externalAddr)) = ipProtocol bs := by
    rw [ipProtocol, byteAt_storeBytes h12, if_neg (by omega)]; rfl
  have hs1 := rd32_storeBytes_be32 (show 12 + 4 ≤ bs.length by omega) m.externalAddr
  have hh1 := ip4HeaderBytes_storeBytes h12 (by decide)
  have hl1 := storeBytes_length h12
  have hf1 : ∀ i, 22 ≤ i → rd16 (storeBytes bs 12 (be32 m.externalAddr)) i = rd16 bs i :=
    fun i hi => rd16_storeBytes_of_disjoint h12 (by simp only [be32_length]; omega)
  unfold natTranslate
  generalize storeBytes bs 12 (be32 m.externalAddr) = b1 at hp1 hs1 hh1 hl1 hf1 ⊢
  dsimp only
  rcases hp with ⟨hT, hl⟩ | ⟨hU, hl⟩
  · rw [if_pos (hp1.trans hT)]
    obtain ⟨hs, hq, hv, hf⟩ := natTranslate_l4 b1 36 (by decide) (by omega) (by omega)
      m.externalPort
    exact ⟨hs.trans hs1, hq, hv, fun i hi hd _ => (hf i hi (hd hT)).trans (hf1 i hi)⟩
  · rw [if_neg (by rw [hp1, hU]; decide), if_pos (hp1.trans hU)]
    obtain ⟨hs, hq, hv, hf⟩ := natTranslate_l4 b1 26 (by decide) (by omega) (by omega)
      m.externalPort
    exact ⟨hs.trans hs1, hq, hv, fun i hi _ hd => (hf i hi (hd hU)).trans (hf1 i hi)⟩

/-! ### The L4 checksum -/

/-- Word `j` of the L4 bytes of a datagram with a 20-byte header, `len` bytes long; an odd
last byte is padded with zero. -/
def l4Word (bs : Bytes) (len j : ℕ) : ℕ :=
  byteAt bs (20 + 2 * j) * 256 + if 2 * j + 1 < len then byteAt bs (21 + 2 * j) else 0

/-- The ones' complement sum a receiver takes over the TCP or UDP pseudo-header (source,
destination, protocol, L4 length) and the L4 bytes, checksum field included. -/
def l4Sum (bs : Bytes) : ℕ :=
  let len := ipLength bs - 20
  rd16 bs 12 + rd16 bs 14 + rd16 bs 16 + rd16 bs 18 + ipProtocol bs + len +
    ((List.range ((len + 1) / 2)).map (l4Word bs len)).sum

/-- The receiver's L4 test: the sum folds to `0xffff`, or the datagram is UDP with a zero
checksum field, which means no checksum. -/
def L4ChecksumValid (bs : Bytes) : Prop :=
  onesFold (l4Sum bs) = 65535 ∨ ipProtocol bs = IP_PROTOCOL_UDP ∧ rd16 bs 26 = 0

instance (bs : Bytes) : Decidable (L4ChecksumValid bs) :=
  inferInstanceAs (Decidable (_ ∨ _ ∧ _))

/-- `10.0.0.1:1000 → 10.0.0.2:80`, a TCP SYN with window `0xffff` and no options, before its
checksums are filled in. -/
def synRaw : Bytes :=
  (Ip4Header.mk 0x45 0 40 0 0 64 IP_PROTOCOL_TCP 0 0x0A000001 0x0A000002).toBytes ++
    be16 1000 ++ be16 80 ++ be32 0 ++ be32 0 ++ [0x50, 0x02] ++ be16 0xFFFF ++ be16 0 ++ be16 0

/-- The SYN with a valid header checksum and a valid TCP checksum. -/
def synSegment : Bytes :=
  let b := storeBytes synRaw 10 (be16 (ip4HeaderChecksum synRaw))
  storeBytes b 36 (be16 (65535 - onesFold (l4Sum b)))

/-- A mapping of the SYN's flow to `198.51.100.4:10000`. -/
def synMapping : NatMapping := ⟨0x0A000001, 0xC6336404, 1000, 10000, IP_PROTOCOL_TCP, 1, 300⟩

/-- A SYN with a 20-byte header and valid IPv4 and TCP checksums is rewritten to the
mapping's address and port with a valid header checksum, but `nat_translate` stores 0 in its
TCP checksum instead of recomputing it, and the segment fails the receiver's test. -/
theorem natTranslate_tcp_checksum_invalid :
    ip4HeaderBytes synSegment = 20 ∧ ipProtocol synSegment = IP_PROTOCOL_TCP ∧
      Ip4ChecksumValid synSegment ∧ L4ChecksumValid synSegment ∧
      ipSrc (natTranslate synSegment synMapping) = synMapping.externalAddr ∧
      rd16 (natTranslate synSegment synMapping) 20 = synMapping.externalPort ∧
      Ip4ChecksumValid (natTranslate synSegment synMapping) ∧
      ¬ L4ChecksumValid (natTranslate synSegment synMapping) :=
  ⟨by decide, by decide, by decide, by decide, by decide, by decide, by decide, by decide⟩

/-- `opensase_nat_next_t`. -/
inductive NatNext where
  | encrypt
  | output
  | drop
  deriving DecidableEq, Repr

/-- The `n_next_nodes` of the node's registration: one past the last `NatNext` value. -/
def OPENSASE_NAT_N_NEXT : ℕ := 3

section Node

variable (e : Endian) (clibXxhash : ℕ → ℕ) (now : ℚ)

/-- Lookup, or creation on a miss, of the mapping for a buffer. The ports are read after
a 20-byte header whatever the protocol. -/
def natMappingFor (w : NatWorker) (b : Buffer) : NatMapping × NatWorker :=
  let p := portsAfterFixedHeader b.data
  match natLookup e clibXxhash w (ipSrc b.data) (ipDst b.data) p.1 p.2 (ipProtocol b.data) with
  | some m => (m, w)
  | none => natCreateMapping e clibXxhash now w b.meta.tenantId (ipSrc b.data) p.1
      (ipDst b.data) p.2 (ipProtocol b.data)

/-- The translated buffer; `nat_create_mapping` never returns `NULL`, so it goes on to
`opensase-encap`. -/
def natOut (b : Buffer) (m : NatMapping) : Buffer × NatNext :=
  ({ b with data := natTranslate b.data m }, .encrypt)

/-- One iteration of the single-packet loop. -/
def natOne (w : NatWorker) (b : Buffer) : NatWorker × (Buffer × NatNext) :=
  let r := natMappingFor e clibXxhash now w b
  (r.2, natOut b r.1)

/-- One iteration of the four-packet loop: the four lookups or creations in order, then
the four translations. -/
def natQuad (w : NatWorker) (b0 b1 b2 b3 : Buffer) : NatWorker × List (Buffer × NatNext) :=
  let r0 := natMappingFor e clibXxhash now w b0
  let r1 := natMappingFor e clibXxhash now r0.2 b1
  let r2 := natMappingFor e clibXxhash now r1.2 b2
  let r3 := natMappingFor e clibXxhash now r2.2 b3
  (r3.2, [natOut b0 r0.1, natOut b1 r1.1, natOut b2 r2.1, natOut b3 r3.1])

/-- The `opensase-nat` node on one frame. -/
def opensaseNatNode (w : NatWorker) (frame : List Buffer) : NatWorker × List (Buffer × NatNext) :=
  vectorLoop (natQuad e clibXxhash now) (natOne e clibXxhash now) w frame

/-- The four-packet loop does what four single iterations do, so the node is the tail
loop on every frame. -/
theorem opensaseNatNode_eq_tailLoop (w : NatWorker) (frame : List Buffer) :
    opensaseNatNode e clibXxhash now w frame = tailLoop (natOne e clibXxhash now) w frame :=
  vectorLoop_eq_tailLoop (fun _ => True) (natQuad e clibXxhash now) (natOne e clibXxhash now)
    (fun _ _ _ => trivial) (fun _ _ _ _ _ _ => rfl) w frame trivial

/-- Every buffer of every frame goes on to `opensase-encap`: no packet is ever dropped
for want of a port. -/
theorem opensaseNatNode_never_drops (w : NatWorker) (frame : List Buffer) :
    ∀ o ∈ (opensaseNatNode e clibXxhash now w frame).2, o.2 = .encrypt := by
  rw [opensaseNatNode_eq_tailLoop]
  exact tailLoop_out (fun o : Buffer × NatNext => o.2 = .encrypt) (natOne e clibXxhash now)
    (fun _ _ => rfl) w frame

end Node

/-! ### One mapping for two tenants and two flows -/

/-- `opensase nat pool tenant 1 address 198.51.100.4 ports 10000-11000`. -/
def poolTenant1 : NatPoolArgs := { tenantId := 1, addr := 0xC6336404, portEnd := 11000 }

/-- `opensase nat pool tenant 2 address 198.51.100.5 ports 20000-21000`. -/
def poolTenant2 : NatPoolArgs :=
  { tenantId := 2, addr := 0xC6336405, portStart := 20000, portEnd := 21000 }

/-- A buffer holding `data`, classified to tenant `t`. -/
def tenantBuffer (t : ℕ) (data : Bytes) : Buffer :=
  { data := data, meta := { (default : PacketMeta) with tenantId := t } }

/-- Whatever `clib_xxhash` is: with both tenants' pools configured, `flowA` of tenant 1
creates the only mapping, and `flowA` of tenant 2 and `flowB` of tenant 1 are translated
with it, all three to `198.51.100.4:10000`. -/
theorem opensaseNatNode_shares_mapping (e : Endian) (clibXxhash : ℕ → ℕ) (now : ℚ) :
    ∃ w, [poolTenant1, poolTenant2].foldlM opensaseNatPoolFn opensaseNatInit = .ok w ∧
      let r := opensaseNatNode e clibXxhash now w
        [tenantBuffer 1 flowA, tenantBuffer 2 flowA, tenantBuffer 1 flowB]
      r.2.map (fun o => (ipSrc o.1.data, rd16 o.1.data 20)) =
        [(0xC6336404, 10000), (0xC6336404, 10000), (0xC6336404, 10000)] ∧
        r.1.nMappings = 1 := by
  refine ⟨_, rfl, ?_⟩
  have hA : portsAfterFixedHeader flowA = (1000, 80) := by decide
  have hB : portsAfterFixedHeader flowB = (744, 81) := by decide
  have hT : ∀ m : NatMapping, m.externalAddr = 0xC6336404 → m.externalPort = 10000 →
      (ipSrc (natTranslate flowA m), rd16 (natTranslate flowA m) 20) = (0xC6336404, 10000) ∧
      (ipSrc (natTranslate flowB m), rd16 (natTranslate flowB m) 20) = (0xC6336404, 10000) := by
    intro m ha hp
    obtain ⟨a1, p1, -, -⟩ := natTranslate_spec flowA m (by decide) (.inr ⟨by decide, by decide⟩)
    obtain ⟨a2, p2, -, -⟩ := natTranslate_spec flowB m (by decide) (.inr ⟨by decide, by decide⟩)
    simp only [a1, p1, a2, p2, ha, hp]; decide
  simp [opensaseNatNode, vectorLoop, tailLoop, natOne, natMappingFor, hA, hB, natLookup,
    natHashKey, xorTupleKey_flowB, natCreateMapping, selectPool, clampTenant, natOut, tenantBuffer,
    poolTenant1, poolTenant2, NatPoolArgs.pool, opensaseNatPoolFn, opensaseNatInit,
    Function.update_apply, hT]

/-! ### Runs of the node -/

section Run

variable (e : Endian) (clibXxhash : ℕ → ℕ)

/-- What happens to a worker: a frame of the node, at the time it samples, or an
`opensase nat pool` command. -/
inductive NatEvent where
  | frame (now : ℚ) (frame : List Buffer)
  | pool (c : NatPoolArgs)

/-- One event: the worker after it, and the node's outputs. A refused command leaves the
worker as it was. -/
def NatEvent.step (w : NatWorker) : NatEvent → NatWorker × List (Buffer × NatNext)
  | .frame now f => opensaseNatNode e clibXxhash now w f
  | .pool c =>
    match opensaseNatPoolFn w c with
    | .ok w' => (w', [])
    | .error _ => (w, [])

/-- The events one after another: the worker after them, and each frame's outputs. -/
def natRun (w : NatWorker) (evs : List NatEvent) : NatWorker × List (List (Buffer × NatNext)) :=
  tailLoop (NatEvent.step e clibXxhash) w evs

/-- No buffer of any run is sent to `error-drop`. -/
theorem natRun_never_drops (w : NatWorker) (evs : List NatEvent) :
    ∀ os ∈ (natRun e clibXxhash w evs).2, ∀ o ∈ os, o.2 = .encrypt :=
  tailLoop_out _ _ (fun w ev => by
    cases ev with
    | frame now f => exact opensaseNatNode_never_drops e clibXxhash now w f
    | pool c => simp only [NatEvent.step]; split <;> simp) w evs

end Run

/-! ### Port allocation over a run -/

section Allocation

variable (e : Endian) (clibXxhash : ℕ → ℕ)

theorem clampTenant_clampTenant (t : ℕ) : clampTenant (clampTenant t) = clampTenant t := by
  unfold clampTenant
  split_ifs <;> omega

/-- A mapping records the clamped tenant, which selects the tenant's pool. -/
theorem selectPool_clampTenant (w : NatWorker) (t : ℕ) :
    selectPool w (clampTenant t) = selectPool w t := by
  simp only [selectPool, clampTenant_clampTenant]

/-- Pool selection reads only the pools' addresses. -/
theorem selectPool_congr {w w' : NatWorker}
    (h : ∀ t, (w.tenantPools t).externalAddr = (w'.tenantPools t).externalAddr) (t : ℕ) :
    selectPool w t = selectPool w' t := by
  simp only [selectPool, h]

/-- The indices of the mappings created since `w₀`, up to `w`, that drew from pool `pi`, in
creation order; a mapping's pool is the one `w₀` selects for its tenant. -/
def drawnFrom (w₀ w : NatWorker) (pi : ℕ) : List ℕ :=
  (List.range' w₀.vecLen (w.vecLen - w₀.vecLen)).filter fun j =>
    selectPool w₀ (w.mappings j).tenantId = pi

theorem lt_of_mem_drawnFrom {w₀ w : NatWorker} {pi j : ℕ} (h : j ∈ drawnFrom w₀ w pi) :
    j < w.vecLen := by
  have := List.mem_range'_1.mp (List.mem_filter.mp h).1
  omega

/-- A creation appends its index to the list of the pool it draws from. -/
theorem drawnFrom_natCreateMapping {w₀ w : NatWorker} (hv : w₀.vecLen ≤ w.vecLen) (now : ℚ)
    (t ia ip d dp pr pi : ℕ) :
    drawnFrom w₀ (natCreateMapping e clibXxhash now w t ia ip d dp pr).2 pi =
      drawnFrom w₀ w pi ++ if selectPool w₀ t = pi then [w.vecLen] else [] := by
  simp only [drawnFrom, natCreateMapping]
  rw [show w.vecLen + 1 - w₀.vecLen = w.vecLen - w₀.vecLen + 1 by omega, List.range'_concat,
    List.filter_append, Nat.one_mul, Nat.add_sub_cancel' hv]
  congr 1
  · refine List.filter_congr fun j hj => ?_
    have := List.mem_range'_1.mp hj
    simp only [Function.update_noteq (show j ≠ w.vecLen by omega)]
  · simp only [List.filter_cons, List.filter_nil, Function.update_same, selectPool_clampTenant]
    split_ifs <;> simp_all

/-- What a run from `w₀` over frames at the times `ts` has done by `w`: each pool has advanced
once per mapping drawn from it, the mappings drawn from a pool hold its address and its
successive cursors in order, and every created mapping expires 300 s after one of the
times. -/
def Drawn (ts : List ℚ) (w₀ w : NatWorker) : Prop :=
  w₀.vecLen ≤ w.vecLen ∧
    (∀ pi, w.tenantPools pi = advancePort^[(drawnFrom w₀ w pi).length] (w₀.tenantPools pi)) ∧
    (∀ pi, (drawnFrom w₀ w pi).map
        (fun j => ((w.mappings j).externalAddr, (w.mappings j).externalPort)) =
      (List.range (drawnFrom w₀ w pi).length).map fun k =>
        ((w₀.tenantPools pi).externalAddr, (advancePort^[k] (w₀.tenantPools pi)).nextPort)) ∧
    ∀ j, w₀.vecLen ≤ j → j < w.vecLen → ∃ t ∈ ts, (w.mappings j).expireTime = t + 300

theorem drawn_refl (ts : List ℚ) (w : NatWorker) : Drawn ts w w :=
  ⟨le_rfl, fun _ => by simp [drawnFrom], fun _ => by simp [drawnFrom], fun _ _ _ => by omega⟩

theorem drawn_natCreateMapping {ts : List ℚ} {w₀ w : NatWorker} (h : Drawn ts w₀ w) {now : ℚ}
    (hnow : now ∈ ts) (t ia ip d dp pr : ℕ) :
    Drawn ts w₀ (natCreateMapping e clibXxhash now w t ia ip d dp pr).2 := by
  obtain ⟨hv, hp, hm, hx⟩ := h
  have hs : selectPool w t = selectPool w₀ t :=
    selectPool_congr (fun t' => by rw [hp, advancePort_iterate_externalAddr]) t
  -- the mappings already drawn are untouched
  have hold : ∀ pi, (drawnFrom w₀ w pi).map (fun j =>
      (((natCreateMapping e clibXxhash now w t ia ip d dp pr).2.mappings j).externalAddr,
        ((natCreateMapping e clibXxhash now w t ia ip d dp pr).2.mappings j).externalPort)) =
      (drawnFrom w₀ w pi).map (fun j => ((w.mappings j).externalAddr, (w.mappings j).externalPort)) :=
    fun pi => List.map_congr_left fun j hj => by
      simp only [natCreateMapping, Function.update_noteq (Nat.ne_of_lt (lt_of_mem_drawnFrom hj))]
  refine ⟨Nat.le_succ_of_le hv, fun pi => ?_, fun pi => ?_, fun j hj hj' => ?_⟩
  · rw [drawnFrom_natCreateMapping e clibXxhash hv]
    dsimp only [natCreateMapping]
    rw [hs]
    split_ifs with hpi
    · subst hpi
      rw [Function.update_same, List.length_append, List.length_singleton, hp,
        ← Function.iterate_succ_apply' advancePort]
    · rw [List.append_nil, Function.update_noteq (Ne.symm hpi), hp]
  · rw [drawnFrom_natCreateMapping e clibXxhash hv, List.map_append, hold, hm]
    split_ifs with hpi
    · subst hpi
      simp [natCreateMapping, List.range_succ, hs, hp]
    · simp
  · dsimp only [natCreateMapping] at hj' ⊢
    rw [Function.update_apply]
    split_ifs with hjv
    · exact ⟨now, hnow, rfl⟩
    · exact hx j hj (by omega)

theorem drawn_natMappingFor {ts : List ℚ} {w₀ w : NatWorker} (h : Drawn ts w₀ w) {now : ℚ}
    (hnow : now ∈ ts) (b : Buffer) : Drawn ts w₀ (natMappingFor e clibXxhash now w b).2 := by
  dsimp only [natMappingFor]
  split
  · exact h
  · exact drawn_natCreateMapping e clibXxhash h hnow _ _ _ _ _ _

/-- Every frame of a run keeps `Drawn` for the run's times. -/
theorem drawn_natRun (w : NatWorker) (frames : List (ℚ × List Buffer)) :
    Drawn (frames.map Prod.fst) w
      (natRun e clibXxhash w (frames.map fun f => .frame f.1 f.2)).1 := by
  refine tailLoop_inv_of_mem _ _ _ (fun w' ev hev h => ?_) w (drawn_refl _ w)
  obtain ⟨f, hf, rfl⟩ := List.mem_map.mp hev
  rw [NatEvent.step, opensaseNatNode_eq_tailLoop]
  exact tailLoop_inv (Drawn _ w) _
    (fun _ b h' => drawn_natMappingFor e clibXxhash h' (List.mem_map_of_mem _ hf) b) _ _ h

/-- A list that maps onto `range` pointwise: its `k`-th entry maps to `g k`. -/
theorem map_eq_range_map_of_getElem? {α β : Type} {f : α → β} {g : ℕ → β} {l : List α}
    (h : l.map f = (List.range l.length).map g) {k : ℕ} {a : α} (hk : l[k]? = some a) :
    f a = g k := by
  have := congrArg (·[k]?) h
  simp only [List.getElem?_map, hk, List.getElem?_range (List.getElem?_eq_some_iff.mp hk).1,
    Option.map_some', Option.some.injEq] at this
  exact this

/-- Tenant 1 on pool 0 of the default configuration, then tenant 2 at a later time. -/
def twoFrames : List (ℚ × List Buffer) := [(0, [tenantBuffer 1 flowA]), (400, [tenantBuffer 2 flowB])]

end Allocation

/-- No two mappings that have not expired at `now` share external address, port and
protocol. -/
def ExternalTriplesUnique (w : NatWorker) (now : ℚ) : Prop :=
  ∀ i j, i < w.vecLen → j < w.vecLen → i ≠ j → now < (w.mappings i).expireTime →
    now < (w.mappings j).expireTime →
    ((w.mappings i).externalAddr, (w.mappings i).externalPort, (w.mappings i).protocol) ≠
      ((w.mappings j).externalAddr, (w.mappings j).externalPort, (w.mappings j).protocol)

/-- After a frame on a worker whose pools were configured with pairwise distinct
addresses, the live mappings' external triples are pairwise distinct. -/
def NatTriplesStayUnique : Prop :=
  ∀ (e : Endian) (clibXxhash : ℕ → ℕ) (now : ℚ) (cfgs : List NatPoolArgs) (w : NatWorker)
    (frame : List Buffer), cfgs.foldlM opensaseNatPoolFn opensaseNatInit = .ok w →
    (cfgs.map NatPoolArgs.addr).Nodup →
    ExternalTriplesUnique (opensaseNatNode e clibXxhash now w frame).1 now

/-- `opensase nat pool tenant 1 address 198.51.100.4 ports 10000-10000`. -/
def onePortPool : NatPoolArgs :=
  { tenantId := 1, addr := 0xC6336404, portStart := 10000, portEnd := 10000 }

/-- `10.0.0.3:1000 → 10.0.0.2:80` over UDP: a second host behind the NAT. -/
def flowC : Bytes := udpDatagram 0x0A000003 0x0A000002 1000 80 []

section Sticky

variable (e : Endian) (clibXxhash : ℕ → ℕ)

/-- The key `k` holds index `i` of the vector, whose mapping is `m`. -/
def Holds (k i : ℕ) (m : NatMapping) (w : NatWorker) : Prop :=
  w.mappingHash k = some i ∧ i < w.vecLen ∧ w.mappings i = m

/-- A creation under another key appends past the end and leaves `k` alone. -/
theorem holds_natCreateMapping {k i : ℕ} {m : NatMapping} {w : NatWorker} (h : Holds k i m w)
    (now : ℚ) (t ia ip d dp pr : ℕ) (hk : natHashKey e clibXxhash ia d ip dp pr ≠ k) :
    Holds k i m (natCreateMapping e clibXxhash now w t ia ip d dp pr).2 := by
  obtain ⟨hh, hi, hm⟩ := h
  dsimp only [Holds, natCreateMapping]
  exact ⟨by rw [Function.update_noteq (Ne.symm hk), hh], Nat.lt_succ_of_lt hi,
    by rw [Function.update_noteq (Nat.ne_of_lt hi), hm]⟩

/-- A lookup or creation keeps `k`'s mapping: a miss is under another key. -/
theorem holds_natMappingFor {k i : ℕ} {m : NatMapping} {w : NatWorker} (h : Holds k i m w)
    (now : ℚ) (b : Buffer) : Holds k i m (natMappingFor e clibXxhash now w b).2 := by
  dsimp only [natMappingFor]
  split
  case h_1 => exact h
  case h_2 hl =>
    refine holds_natCreateMapping e clibXxhash h now _ _ _ _ _ _ fun hb => ?_
    rw [natLookup, hb, h.1] at hl
    cases hl

theorem holds_step {k i : ℕ} {m : NatMapping} {w : NatWorker} (h : Holds k i m w) (ev : NatEvent) :
    Holds k i m (NatEvent.step e clibXxhash w ev).1 := by
  cases ev with
  | frame now f =>
    rw [NatEvent.step, opensaseNatNode_eq_tailLoop]
    exact tailLoop_inv (Holds k i m) _ (fun _ b hw => holds_natMappingFor e clibXxhash hw now b) _ _ h
  | pool c =>
    simp only [NatEvent.step, opensaseNatPoolFn]
    split_ifs <;> exact h

/-- Mappings never expire and are never replaced: once the key of a 5-tuple holds a mapping,
over any run of frames at any times and pool commands, the key keeps that mapping, and
`nat_lookup` of every 5-tuple with that key returns it, whatever its tenant and however long
ago the mapping was made. -/
theorem natRun_mapping_never_expires {w : NatWorker} {k i : ℕ} (hk : w.mappingHash k = some i)
    (hi : i < w.vecLen) (evs : List NatEvent) :
    let w' := (natRun e clibXxhash w evs).1
    w'.mappingHash k = some i ∧ w'.mappings i = w.mappings i ∧
      ∀ src dst srcPort dstPort proto, natHashKey e clibXxhash src dst srcPort dstPort proto = k →
        natLookup e clibXxhash w' src dst srcPort dstPort proto = some (w.mappings i) := by
  intro w'
  obtain ⟨hk', -, hm'⟩ : Holds k i (w.mappings i) w' :=
    tailLoop_inv (Holds k i (w.mappings i)) _ (fun _ ev hw => holds_step e clibXxhash hw ev) w evs
      ⟨hk, hi, rfl⟩
  exact ⟨hk', hm', fun _ _ _ _ _ hkey => by rw [natLookup, hkey, hk', Option.map_some', hm']⟩

/-- The worker after tenant 1's first UDP datagram of `flowA`. -/
def natAfterFlowA : NatWorker := (opensaseNatNode .little id 0 opensaseNatInit [tenantBuffer 1 flowA]).1

theorem natRun_mapping_never_expires_flowA :
    natAfterFlowA.mappingHash (natHashKey .little id (ipSrc flowA) (ipDst flowA) 1000 80
        (ipProtocol flowA)) = some NAT_TABLE_SIZE ∧
      NAT_TABLE_SIZE < natAfterFlowA.vecLen ∧
      let w' := (natRun .little id natAfterFlowA [NatEvent.frame 400 [tenantBuffer 1 flowA],
        .pool onePortPool, .frame 1000 [tenantBuffer 2 flowC, tenantBuffer 2 flowA]]).1
      w'.mappingHash (natHashKey .little id (ipSrc flowA) (ipDst flowA) 1000 80 (ipProtocol flowA)) =
          some NAT_TABLE_SIZE ∧
        w'.mappings NAT_TABLE_SIZE = natAfterFlowA.mappings NAT_TABLE_SIZE ∧
        ∀ src dst srcPort dstPort proto, natHashKey .little id src dst srcPort dstPort proto =
            natHashKey .little id (ipSrc flowA) (ipDst flowA) 1000 80 (ipProtocol flowA) →
          natLookup .little id w' src dst srcPort dstPort proto =
            some (natAfterFlowA.mappings NAT_TABLE_SIZE) := by
  have hk : natAfterFlowA.mappingHash (natHashKey .little id (ipSrc flowA) (ipDst flowA) 1000 80
      (ipProtocol flowA)) = some NAT_TABLE_SIZE := by decide
  have hi : NAT_TABLE_SIZE < natAfterFlowA.vecLen := by decide
  exact ⟨hk, hi, natRun_mapping_never_expires .little id hk hi _⟩

end Sticky

end OpenSase.Nat44
