import OpenSase.BpfMap
import OpenSase.Frame

/-!
The XDP program `xdp_ddos_filter` of `src/infra/xdp/xdp_ddos_filter.c`: allowlist, expiring
blocklist, protocol counters and the per-source anomaly score that blocks a source for 60 s.
A block holds until it expires (`run_blocked_drops`); allowlisted frames leave the rest of a
run unchanged (`run_allowlisted_invisible`).
-/
namespace OpenSase.XdpDdosFilter

open Bpf

/-- `struct src_stats`. -/
structure SrcStats where
  packets : ℕ
  bytes : ℕ
  synCount : ℕ
  udpCount : ℕ
  firstSeen : ℕ
  lastSeen : ℕ
  score : ℕ
  deriving DecidableEq, Repr, Inhabited

/-- `struct global_config`: the one entry of the `config` array. -/
structure GlobalConfig where
  ppsThreshold : ℕ
  bpsThreshold : ℕ
  synRateLimit : ℕ
  udpRateLimit : ℕ
  mode : ℕ
  synProxyEnabled : ℕ
  udpFilterEnabled : ℕ
  amplificationFilter : ℕ
  deriving DecidableEq, Repr, Inhabited

/-- `struct protocol_stats`. -/
structure ProtocolStats where
  packets : ℕ
  bytes : ℕ
  drops : ℕ
  deriving DecidableEq, Repr, Inhabited

/-- The program's maps. `proto_stats` has 256 entries. -/
structure FilterMaps where
  srcStats : LruMap ℕ SrcStats
  blocklist : HashMap ℕ ℕ
  config : GlobalConfig
  protoStats : ℕ → ProtocolStats
  allowlist : HashMap ℕ ℕ

/-- The maps as the program is loaded: empty maps, a zeroed configuration (mode 0, monitor). -/
def filterMapsInit : FilterMaps :=
  ⟨.empty 10000000 (by decide), .empty 1000000, default, fun _ => default, .empty 100000⟩

def IPPROTO_TCP : ℕ := 6

def IPPROTO_UDP : ℕ := 17

/-! ### `check_source_anomaly` -/

/-- The entry `check_source_anomaly` starts from: the stored one, or a zero entry first seen
now. -/
def srcStatsOf (m : FilterMaps) (srcIp now : ℕ) : SrcStats :=
  match m.srcStats.lookup srcIp with
  | some st => st
  | none => { (default : SrcStats) with firstSeen := now }

/-- The entry's counters after one more packet. -/
def SrcStats.count (st : SrcStats) (pktLen proto : ℕ) (isSyn : Bool) (now : ℕ) : SrcStats :=
  { st with
    packets := (st.packets + 1) % 2 ^ 64
    bytes := (st.bytes + pktLen) % 2 ^ 64
    lastSeen := now
    synCount := if isSyn then (st.synCount + 1) % 2 ^ 64 else st.synCount
    udpCount := if proto = IPPROTO_UDP then (st.udpCount + 1) % 2 ^ 64 else st.udpCount }

/-- `duration_ns`: the `u64` time since `first_seen`, with 0 replaced by 1. -/
def durationNs (st : SrcStats) (now : ℕ) : ℕ :=
  if (now + 2 ^ 64 - st.firstSeen) % 2 ^ 64 = 0 then 1 else (now + 2 ^ 64 - st.firstSeen) % 2 ^ 64

/-- `pps`, `syn_rate` and `udp_rate`: `count * 1000000000 / duration_ns` in `u64`
arithmetic. -/
def rateOf (count duration : ℕ) : ℕ := count * 1000000000 % 2 ^ 64 / duration

/-- The penalties of the packet rate. -/
def ppsScore (pps : ℕ) : ℕ :=
  (if 10000 < pps then 200 else 0) + (if 50000 < pps then 300 else 0) +
    (if 100000 < pps then 500 else 0)

/-- The penalties of the SYN rate. -/
def synScore (synRate : ℕ) : ℕ :=
  (if 100 < synRate then 100 else 0) + (if 1000 < synRate then 200 else 0) +
    (if 5000 < synRate then 300 else 0)

/-- The penalties of the UDP rate. -/
def udpScore (udpRate : ℕ) : ℕ :=
  (if 10000 < udpRate then 100 else 0) + (if 50000 < udpRate then 300 else 0)

/-- The threat score of the counters `st` at time `now`. -/
def threatScore (st : SrcStats) (now : ℕ) : ℕ :=
  ppsScore (rateOf st.packets (durationNs st now)) +
    synScore (rateOf st.synCount (durationNs st now)) +
      udpScore (rateOf st.udpCount (durationNs st now))

/-- The entry with its score stored, `new_stats.score = score`. -/
def SrcStats.scored (st : SrcStats) (now : ℕ) : SrcStats := { st with score := threatScore st now }

/-- `check_source_anomaly`: the maps after the call, and whether it returned 1. -/
def checkSourceAnomaly (m : FilterMaps) (srcIp pktLen proto : ℕ) (isSyn : Bool) (now : ℕ) :
    FilterMaps × Bool :=
  let st := (srcStatsOf m srcIp now).count pktLen proto isSyn now
  let m := { m with srcStats := m.srcStats.update srcIp (st.scored now) }
  if 500 ≤ threatScore st now then
    ({ m with blocklist := m.blocklist.updateAny srcIp ((now + 60 * 1000000000) % 2 ^ 64) }, true)
  else (m, false)

/-! ### The program -/

/-- `is_blocked`: the maps after the call (an expired entry is deleted), and whether it
returned 1. -/
def isBlocked (m : FilterMaps) (srcIp now : ℕ) : FilterMaps × Bool :=
  match m.blocklist.lookup srcIp with
  | some blockUntil =>
    if now < blockUntil then (m, true) else ({ m with blocklist := m.blocklist.delete srcIp }, false)
  | none => (m, false)

def isAmplification (srcPort pktLen : ℕ) : Bool :=
  match srcPort with
  | 53 => 512 < pktLen
  | 123 => 200 < pktLen
  | 161 => 200 < pktLen
  | 389 => 500 < pktLen
  | 1900 => 200 < pktLen
  | 11211 => 100 < pktLen
  | 19 => true
  | 27015 => 500 < pktLen
  | _ => false

/-- A change of the `proto_stats` entry of `key`; the lookup finds none past the 256th. -/
def FilterMaps.bumpProto (m : FilterMaps) (key : ℕ) (f : ProtocolStats → ProtocolStats) :
    FilterMaps :=
  if key < 256 then { m with protoStats := Function.update m.protoStats key (f (m.protoStats key)) }
  else m

@[simp] theorem FilterMaps.bumpProto_srcStats (m : FilterMaps) (key : ℕ) (f) :
    (m.bumpProto key f).srcStats = m.srcStats := by
  unfold FilterMaps.bumpProto; split_ifs <;> rfl

@[simp] theorem FilterMaps.bumpProto_blocklist (m : FilterMaps) (key : ℕ) (f) :
    (m.bumpProto key f).blocklist = m.blocklist := by
  unfold FilterMaps.bumpProto; split_ifs <;> rfl

@[simp] theorem FilterMaps.bumpProto_config (m : FilterMaps) (key : ℕ) (f) :
    (m.bumpProto key f).config = m.config := by
  unfold FilterMaps.bumpProto; split_ifs <;> rfl

@[simp] theorem FilterMaps.bumpProto_allowlist (m : FilterMaps) (key : ℕ) (f) :
    (m.bumpProto key f).allowlist = m.allowlist := by
  unfold FilterMaps.bumpProto; split_ifs <;> rfl

/-- `pstats->packets++; pstats->bytes += pkt_len`. -/
def FilterMaps.protoCount (m : FilterMaps) (key pktLen : ℕ) : FilterMaps :=
  m.bumpProto key fun s =>
    { s with packets := (s.packets + 1) % 2 ^ 64, bytes := (s.bytes + pktLen) % 2 ^ 64 }

/-- `pstats->drops++`. -/
def FilterMaps.protoDrop (m : FilterMaps) (key : ℕ) : FilterMaps :=
  m.bumpProto key fun s => { s with drops := (s.drops + 1) % 2 ^ 64 }

/-- The offset of the L4 header, `(void *)ip + (ip->ihl * 4)`. -/
def l4Offset (pkt : Bytes) : ℕ := 14 + byteAt pkt 14 % 16 * 4

/-- `tcp->syn && !tcp->ack`. -/
def tcpIsSyn (pkt : Bytes) : Bool :=
  byteAt pkt (l4Offset pkt + 13) / 2 % 2 = 1 && byteAt pkt (l4Offset pkt + 13) / 16 % 2 = 0

/-- The behavioural analysis at the end of the IPv4 path. -/
def anomalyStep (m : FilterMaps) (now key srcIp pktLen proto : ℕ) (isSyn : Bool) :
    FilterMaps × XdpAction :=
  if 1 ≤ m.config.mode then
    if (checkSourceAnomaly m srcIp pktLen proto isSyn now).2 then
      ((checkSourceAnomaly m srcIp pktLen proto isSyn now).1.protoDrop key, .drop)
    else ((checkSourceAnomaly m srcIp pktLen proto isSyn now).1, .pass)
  else (m, .pass)

/-- The IPv4 path after the blocklist check, from the protocol counters on. -/
def ip4Counted (m : FilterMaps) (now key : ℕ) (pkt : Bytes) (pktLen srcIp proto : ℕ) :
    FilterMaps × XdpAction :=
  if proto = IPPROTO_TCP then
    if pkt.length < l4Offset pkt + 20 then (m, .pass)
    else anomalyStep m now key srcIp pktLen proto (tcpIsSyn pkt)
  else if proto = IPPROTO_UDP then
    if pkt.length < l4Offset pkt + 8 then (m, .pass)
    else if m.config.amplificationFilter ≠ 0 ∧ isAmplification (rd16 pkt (l4Offset pkt)) pktLen
    then (m.protoDrop key, .drop)
    else anomalyStep m now key srcIp pktLen proto false
  else anomalyStep m now key srcIp pktLen proto false

/-- The IPv4 path of a frame with a whole IPv4 header. -/
def ip4Filter (m : FilterMaps) (now key : ℕ) (pkt : Bytes) (pktLen srcIp proto : ℕ) :
    FilterMaps × XdpAction :=
  if (m.allowlist.lookup srcIp).isSome then (m, .pass)
  else if (isBlocked m srcIp now).2 then ((isBlocked m srcIp now).1.protoDrop key, .drop)
  else
    ip4Counted ((isBlocked m srcIp now).1.protoCount key pktLen) now key pkt pktLen srcIp proto

/-- `xdp_ddos_filter` on the bytes from `data` to `data_end`, at time `now`, with `pad` the
stack bytes the `proto_stats` key picks up. -/
def xdpDdosFilter (m : FilterMaps) (now pad : ℕ) (pkt : Bytes) : FilterMaps × XdpAction :=
  if pkt.length < 14 then (m, .pass)
  else if rd16 pkt 12 = ETH_P_IP ∧ 34 ≤ pkt.length then
    ip4Filter m now (byteAt pkt 23 + 256 * pad) pkt (pkt.length % 2 ^ 32) (rd32 pkt 26)
      (byteAt pkt 23)
  else (m, .pass)

/-- A write from user space: the configuration, or an entry of the pinned `blocklist` and
`allowlist`. -/
inductive UserOp where
  | setConfig (c : GlobalConfig)
  | block (srcIp blockUntil : ℕ)
  | unblock (srcIp : ℕ)
  | allow (srcIp v : ℕ)
  | disallow (srcIp : ℕ)

def UserOp.apply (m : FilterMaps) : UserOp → FilterMaps
  | .setConfig c => { m with config := c }
  | .block s u => { m with blocklist := m.blocklist.updateAny s u }
  | .unblock s => { m with blocklist := m.blocklist.delete s }
  | .allow s v => { m with allowlist := m.allowlist.updateAny s v }
  | .disallow s => { m with allowlist := m.allowlist.delete s }

/-- The maps a loaded program can reach, with the time of the last packet: packets at
nondecreasing `u64` times, and user-space writes in between. -/
inductive Reachable : FilterMaps → ℕ → Prop
  | init : Reachable filterMapsInit 0
  | packet {m : FilterMaps} {t : ℕ} (now pad : ℕ) (pkt : Bytes) :
      Reachable m t → t ≤ now → now < 2 ^ 64 → Reachable (xdpDdosFilter m now pad pkt).1 now
  | user {m : FilterMaps} {t : ℕ} (op : UserOp) : Reachable m t → Reachable (op.apply m) t

/-! ### The computed rates -/

theorem durationNs_pos_lt (st : SrcStats) (now : ℕ) :
    0 < durationNs st now ∧ durationNs st now < 2 ^ 64 := by
  unfold durationNs
  split_ifs with h
  · norm_num
  · exact ⟨Nat.pos_of_ne_zero h, Nat.mod_lt _ (by norm_num)⟩

/-- A rate over a duration that fits in 64 bits is the exact quotient exactly when the
product `count * 1000000000` does not wrap. -/
theorem rateOf_eq_iff (count : ℕ) {d : ℕ} (hd : 0 < d) (hd' : d < 2 ^ 64) :
    rateOf count d = count * 1000000000 / d ↔ count * 1000000000 < 2 ^ 64 := by
  constructor
  · intro h
    by_contra hw
    have hle : count * 1000000000 % 2 ^ 64 + d ≤ count * 1000000000 := by omega
    have : rateOf count d + 1 ≤ count * 1000000000 / d := by
      rw [rateOf, ← Nat.add_div_right _ hd]
      exact Nat.div_le_div_right hle
    omega
  · intro h
    rw [rateOf, Nat.mod_eq_of_lt h]

/-- The rates of the entry `check_source_anomaly` stores are exact quotients exactly when
the count is below `18446744074`, the first count whose product with `10^9` wraps. -/
theorem rates_exact_iff (st : SrcStats) :
    let d := durationNs st st.lastSeen
    (rateOf st.packets d = st.packets * 1000000000 / d ↔ st.packets < 18446744074) ∧
      (rateOf st.synCount d = st.synCount * 1000000000 / d ↔ st.synCount < 18446744074) ∧
      (rateOf st.udpCount d = st.udpCount * 1000000000 / d ↔ st.udpCount < 18446744074) := by
  obtain ⟨hd, hd'⟩ := durationNs_pos_lt st st.lastSeen
  refine ⟨?_, ?_, ?_⟩ <;> rw [rateOf_eq_iff _ hd hd'] <;> omega

/-! ### A long-lived source -/

/-- `check_source_anomaly` below the blocking score stores the counted entry with its score. -/
theorem checkSourceAnomaly_of_lt {m : FilterMaps} {srcIp pktLen proto : ℕ} {isSyn : Bool}
    {now : ℕ} (h : threatScore ((srcStatsOf m srcIp now).count pktLen proto isSyn now) now < 500) :
    checkSourceAnomaly m srcIp pktLen proto isSyn now =
      ({ m with srcStats := (m.srcStats.update srcIp
          (((srcStatsOf m srcIp now).count pktLen proto isSyn now).scored now)) }, false) := by
  simp only [checkSourceAnomaly, if_neg (Nat.not_le.mpr h)]

/-- An ICMP frame from `src` that is neither allowlisted nor blocked is counted in
`proto_stats` and goes to the behavioural analysis. -/
theorem xdpDdosFilter_icmp {m : FilterMaps} {src : ℕ} (hsrc : src < 2 ^ 32) (now : ℕ)
    (ha : m.allowlist.lookup src = none) (hb : (isBlocked m src now).2 = false) :
    xdpDdosFilter m now 0 (ip4Frame src IPPROTO_ICMP) =
      anomalyStep ((isBlocked m src now).1.protoCount 1 34) now 1 src 34 1 false := by
  obtain ⟨h12, -, h23, h26⟩ := ip4Frame_fields src IPPROTO_ICMP
  unfold xdpDdosFilter
  rw [if_neg (by simp), if_pos ⟨h12, by simp⟩, h23, h26, Nat.mod_eq_of_lt hsrc, ip4Filter, ha]
  simp only [Option.isSome_none, hb, ip4Frame_length, IPPROTO_ICMP, Bool.false_eq_true, if_false]
  rw [ip4Counted, if_neg (by decide), if_neg (by decide)]
  rfl

/-- The source `10.0.0.1` of the long-lived flow. -/
def longLivedSrc : ℕ := 0x0A000001

/-- The time of the `i`-th packet after the first block: from 60 s on, one every 50 µs,
20000 packets a second. -/
def longLivedTime (i : ℕ) : ℕ := 60000000000 + i * 50000

/-- The maps after the source's first packet and `i + 1` packets after its block expired:
one `src_stats` entry with `i + 2` packets, none of them SYN or UDP, first seen at 0 and
last seen now, with the score computed for it. -/
structure LongLived (m : FilterMaps) (i : ℕ) : Prop where
  mode : m.config.mode = 1
  allow : m.allowlist.entries = []
  block : m.blocklist.entries = []
  stats : ∃ st : SrcStats, m.srcStats.entries = [(longLivedSrc, st)] ∧ st.packets = i + 2 ∧
    st.synCount = 0 ∧ st.udpCount = 0 ∧ st.firstSeen = 0 ∧ st.lastSeen = longLivedTime i ∧
    st.score = threatScore st (longLivedTime i)

theorem ppsScore_le {pps : ℕ} (h : pps ≤ 50000) : ppsScore pps ≤ 200 := by
  unfold ppsScore; split_ifs <;> omega

theorem rateOf_le (count d : ℕ) : rateOf count d ≤ count * 1000000000 / d :=
  Nat.div_le_div_right (Nat.mod_le _ _)

/-- One more packet of the flow: its average rate stays below 50000 packets a second, so it
scores at most 200 and passes. -/
theorem longLived_step {m : FilterMaps} {i : ℕ} (h : LongLived m i) (hi : i < 10 ^ 14) :
    LongLived (xdpDdosFilter m (longLivedTime (i + 1)) 0 (ip4Frame longLivedSrc IPPROTO_ICMP)).1
      (i + 1) := by
  obtain ⟨st, hst, hp, hsyn, hudp, hfirst, -, -⟩ := h.stats
  have hnone : ∀ {ν : Type} (mp : HashMap ℕ ν), mp.entries = [] → mp.lookup longLivedSrc = none :=
    fun mp h => by simp [HashMap.lookup, h]
  have hblk : isBlocked m longLivedSrc (longLivedTime (i + 1)) = (m, false) := by
    simp [isBlocked, hnone _ h.block]
  let now := longLivedTime (i + 1)
  let ns := st.count 34 1 false now
  have hns : ns.packets = i + 3 ∧ ns.synCount = 0 ∧ ns.udpCount = 0 ∧ ns.firstSeen = 0 ∧
      ns.lastSeen = now := by
    refine ⟨?_, ?_, ?_, ?_, rfl⟩ <;>
      simp only [ns, SrcStats.count, hp, hsyn, hudp, hfirst, IPPROTO_UDP] <;> first | rfl | omega
  have hd : durationNs ns now = now := by
    simp only [durationNs, hns.2.2.2.1, Nat.sub_zero, now, longLivedTime]
    rw [Nat.add_mod_right, Nat.mod_eq_of_lt (by omega), if_neg (by omega)]
  have hscore : threatScore ns now ≤ 200 := by
    have hr : rateOf ns.packets now ≤ 50000 := (rateOf_le _ _).trans
      (Nat.div_le_of_le_mul (by rw [hns.1]; simp only [now, longLivedTime]; omega))
    simp only [threatScore, hd, hns.2.1, hns.2.2.1]
    have := ppsScore_le hr
    norm_num [rateOf, synScore, udpScore] at this ⊢
    omega
  have hof : srcStatsOf (m.protoCount 1 34) longLivedSrc now = st := by
    simp only [srcStatsOf, FilterMaps.protoCount, FilterMaps.bumpProto_srcStats,
      LruMap.lookup_of_entries hst]
  rw [xdpDdosFilter_icmp (by decide) _ (hnone _ h.allow) (by rw [hblk]), hblk]
  simp only [anomalyStep, FilterMaps.protoCount, FilterMaps.bumpProto_config, h.mode, le_refl,
    if_true]
  rw [← FilterMaps.protoCount, checkSourceAnomaly_of_lt (by rw [hof]; exact lt_of_le_of_lt hscore (by decide)), hof]
  simp only [Bool.false_eq_true, if_false]
  refine ⟨by simp [FilterMaps.protoCount, h.mode], by simp [FilterMaps.protoCount, h.allow],
    by simp [FilterMaps.protoCount, h.block], ns.scored now, ?_, hns.1, hns.2.1, hns.2.2.1,
    hns.2.2.2.1, hns.2.2.2.2, rfl⟩
  exact LruMap.update_single _ (by simpa [FilterMaps.protoCount] using hst) _

/-- The configuration of the first filtering mode. -/
def filterMode : GlobalConfig := { (default : GlobalConfig) with mode := 1 }

/-- The flow's start: user space selects mode 1; the first packet, at time 0, scores 1000
(one packet over the 1 ns its zero duration is replaced by) and blocks the source until
60 s; the next one, at 60 s, finds the block expired and deletes it. -/
theorem longLived_start :
    LongLived (xdpDdosFilter (xdpDdosFilter ((UserOp.setConfig filterMode).apply filterMapsInit)
      0 0 (ip4Frame longLivedSrc IPPROTO_ICMP)).1 (longLivedTime 0) 0
        (ip4Frame longLivedSrc IPPROTO_ICMP)).1 0 := by
  have h : (xdpDdosFilter (xdpDdosFilter ((UserOp.setConfig filterMode).apply filterMapsInit)
      0 0 (ip4Frame longLivedSrc IPPROTO_ICMP)).1 (longLivedTime 0) 0
        (ip4Frame longLivedSrc IPPROTO_ICMP)).1.srcStats.entries =
      [(longLivedSrc, ⟨2, 68, 0, 0, 0, 60000000000, 0⟩)] := by decide
  exact ⟨rfl, rfl, by decide, ⟨_, h, rfl, rfl, rfl, rfl, rfl, by decide⟩⟩

/-- The flow is reachable for every number of packets up to `10^14` (about 158 years). -/
theorem longLived_reachable : ∀ i, i ≤ 10 ^ 14 → ∃ m, Reachable m (longLivedTime i) ∧ LongLived m i
  | 0, _ => ⟨_, ((Reachable.init.user _).packet 0 0 _ le_rfl (by norm_num)).packet
      (longLivedTime 0) 0 _ (Nat.zero_le _) (by decide), longLived_start⟩
  | i + 1, hi => by
    obtain ⟨m, hr, hl⟩ := longLived_reachable i (by omega)
    exact ⟨_, hr.packet (longLivedTime (i + 1)) 0 _ (by simp [longLivedTime])
      (by simp only [longLivedTime]; omega), longLived_step hl (by omega)⟩

/-- A `src_stats` rate is the exact quotient exactly when its count is below `18446744074`, where
the product with `10^9` wraps; a source at 20000 packets a second gets there after about 10.7
days, and then scores 0 where the exact rate scores 200. -/
theorem srcStats_rates_exact_iff :
    (∀ st : SrcStats,
      let d := durationNs st st.lastSeen
      (rateOf st.packets d = st.packets * 1000000000 / d ↔ st.packets < 18446744074) ∧
        (rateOf st.synCount d = st.synCount * 1000000000 / d ↔ st.synCount < 18446744074) ∧
        (rateOf st.udpCount d = st.udpCount * 1000000000 / d ↔ st.udpCount < 18446744074)) ∧
    ∃ m t st, Reachable m t ∧ m.srcStats.lookup longLivedSrc = some st ∧
      st.packets = 18446744074 ∧ rateOf st.packets (durationNs st st.lastSeen) = 0 ∧
      st.packets * 1000000000 / durationNs st st.lastSeen = 19998 ∧ st.score = 0 ∧
      ppsScore 19998 = 200 := by
  refine ⟨rates_exact_iff, ?_⟩
  obtain ⟨m, hr, hl⟩ := longLived_reachable 18446744072 (by decide)
  obtain ⟨st, hst, hp, hsyn, hudp, hf, hls, hsc⟩ := hl.stats
  have hd : durationNs st (longLivedTime 18446744072) = 922397203600000 := by
    unfold durationNs; rw [hf]; decide
  refine ⟨m, _, st, hr, LruMap.lookup_of_entries hst, hp, ?_, ?_, ?_, by decide⟩
  · rw [hls, hd, hp]; decide
  · rw [hls, hd, hp]
  · rw [hsc]; unfold threatScore; rw [hd, hp, hsyn, hudp]; decide

/-! ### A block holds until it expires -/

/-- The maps `m'` keep the allowlist of `m`, and its blocklist entries of every key but `s`. -/
def OnlyBlocks (s : ℕ) (m m' : FilterMaps) : Prop :=
  m'.allowlist = m.allowlist ∧ ∀ k, k ≠ s → m'.blocklist.lookup k = m.blocklist.lookup k

theorem OnlyBlocks.refl (s : ℕ) (m : FilterMaps) : OnlyBlocks s m m := ⟨rfl, fun _ _ => rfl⟩

theorem OnlyBlocks.trans {s : ℕ} {m₁ m₂ m₃ : FilterMaps} (h₁ : OnlyBlocks s m₁ m₂)
    (h₂ : OnlyBlocks s m₂ m₃) : OnlyBlocks s m₁ m₃ :=
  ⟨h₂.1.trans h₁.1, fun k hk => (h₂.2 k hk).trans (h₁.2 k hk)⟩

theorem onlyBlocks_bumpProto (s : ℕ) (m : FilterMaps) (key : ℕ) (f) :
    OnlyBlocks s m (m.bumpProto key f) :=
  ⟨FilterMaps.bumpProto_allowlist _ _ _, fun k _ => by rw [FilterMaps.bumpProto_blocklist]⟩

theorem onlyBlocks_protoDrop (s : ℕ) (m : FilterMaps) (key : ℕ) : OnlyBlocks s m (m.protoDrop key) :=
  onlyBlocks_bumpProto s m key _

theorem onlyBlocks_protoCount (s : ℕ) (m : FilterMaps) (key pktLen : ℕ) :
    OnlyBlocks s m (m.protoCount key pktLen) :=
  onlyBlocks_bumpProto s m key _

theorem isBlocked_onlyBlocks (m : FilterMaps) (srcIp now : ℕ) :
    OnlyBlocks srcIp m (isBlocked m srcIp now).1 := by
  unfold isBlocked
  split
  · split_ifs
    · exact .refl _ _
    · exact ⟨rfl, fun k hk => by rw [HashMap.lookup_delete, if_neg hk]⟩
  · exact .refl _ _

theorem checkSourceAnomaly_onlyBlocks (m : FilterMaps) (srcIp pktLen proto : ℕ) (isSyn : Bool)
    (now : ℕ) : OnlyBlocks srcIp m (checkSourceAnomaly m srcIp pktLen proto isSyn now).1 := by
  unfold checkSourceAnomaly
  dsimp only
  split_ifs
  · exact ⟨rfl, fun k hk => HashMap.lookup_updateAny_ne _ hk _⟩
  · exact .refl _ _

theorem anomalyStep_onlyBlocks (m : FilterMaps) (now key srcIp pktLen proto : ℕ) (isSyn : Bool) :
    OnlyBlocks srcIp m (anomalyStep m now key srcIp pktLen proto isSyn).1 := by
  unfold anomalyStep
  split_ifs
  · exact (checkSourceAnomaly_onlyBlocks m srcIp pktLen proto isSyn now).trans
      (onlyBlocks_protoDrop srcIp _ key)
  · exact checkSourceAnomaly_onlyBlocks m srcIp pktLen proto isSyn now
  · exact .refl _ _

theorem ip4Counted_onlyBlocks (m : FilterMaps) (now key : ℕ) (pkt : Bytes) (pktLen srcIp proto : ℕ) :
    OnlyBlocks srcIp m (ip4Counted m now key pkt pktLen srcIp proto).1 := by
  unfold ip4Counted
  split_ifs <;> first
    | exact .refl _ _
    | exact anomalyStep_onlyBlocks m now key srcIp pktLen proto _
    | exact onlyBlocks_protoDrop srcIp m key

theorem ip4Filter_onlyBlocks (m : FilterMaps) (now key : ℕ) (pkt : Bytes) (pktLen srcIp proto : ℕ) :
    OnlyBlocks srcIp m (ip4Filter m now key pkt pktLen srcIp proto).1 := by
  unfold ip4Filter
  split_ifs
  · exact .refl _ _
  · exact (isBlocked_onlyBlocks m srcIp now).trans (onlyBlocks_protoDrop srcIp _ key)
  · exact ((isBlocked_onlyBlocks m srcIp now).trans (onlyBlocks_protoCount srcIp _ key pktLen)).trans
      (ip4Counted_onlyBlocks _ now key pkt pktLen srcIp proto)

/-- A packet never writes the allowlist, and of the blocklist at most its own source's entry. -/
theorem xdpDdosFilter_onlyBlocks (m : FilterMaps) (now pad : ℕ) (pkt : Bytes) :
    OnlyBlocks (rd32 pkt 26) m (xdpDdosFilter m now pad pkt).1 := by
  unfold xdpDdosFilter
  split_ifs
  · exact .refl _ _
  · exact ip4Filter_onlyBlocks m now _ pkt _ _ _
  · exact .refl _ _

/-- A frame without a whole IPv4 header passes and changes nothing. -/
theorem xdpDdosFilter_of_not_ip4 {pkt : Bytes} (h : ¬ (rd16 pkt 12 = ETH_P_IP ∧ 34 ≤ pkt.length))
    (m : FilterMaps) (now pad : ℕ) : xdpDdosFilter m now pad pkt = (m, .pass) := by
  unfold xdpDdosFilter
  split_ifs <;> rfl

/-- A frame from a source blocked until after `now`, and not allowlisted, is dropped: only its
`proto_stats` drop count changes. -/
theorem xdpDdosFilter_of_blocked {m : FilterMaps} {now pad : ℕ} {pkt : Bytes} {u : ℕ}
    (hip : rd16 pkt 12 = ETH_P_IP) (hl : 34 ≤ pkt.length)
    (ha : m.allowlist.lookup (rd32 pkt 26) = none) (hb : m.blocklist.lookup (rd32 pkt 26) = some u)
    (hu : now < u) : xdpDdosFilter m now pad pkt = (m.protoDrop (byteAt pkt 23 + 256 * pad), .drop) := by
  have hblk : isBlocked m (rd32 pkt 26) now = (m, true) := by simp [isBlocked, hb, hu]
  rw [xdpDdosFilter, if_neg (by omega), if_pos ⟨hip, hl⟩, ip4Filter, ha, hblk]
  simp only [Option.isSome_none, Bool.false_eq_true, if_false, if_true]

/-- What happens to the maps: a packet at its time, or a write from user space. -/
inductive Event where
  | packet (now pad : ℕ) (pkt : Bytes)
  | user (op : UserOp)

/-- One event: the maps after it, and the verdict of a packet. -/
def Event.step (m : FilterMaps) : Event → FilterMaps × Option XdpAction
  | .packet now pad pkt => ((xdpDdosFilter m now pad pkt).1, some (xdpDdosFilter m now pad pkt).2)
  | .user op => (op.apply m, none)

/-- The events one after another: the maps after them, and what each returned. -/
def run (m : FilterMaps) (evs : List Event) : FilterMaps × List (Option XdpAction) :=
  tailLoop Event.step m evs

/-- The events that leave a block of `src` until `u` alone: packets before `u`, and writes from
user space to entries of other sources. -/
def Event.sparesBlock (src u : ℕ) : Event → Bool
  | .packet now _ _ => decide (now < u)
  | .user (.setConfig _) => true
  | .user (.block s _) | .user (.unblock s) | .user (.allow s _) | .user (.disallow s) =>
    decide (s ≠ src)

/-- An IPv4 frame from `src` with a whole IPv4 header. -/
def Event.fromSource (src : ℕ) : Event → Bool
  | .packet _ _ pkt => decide (rd16 pkt 12 = ETH_P_IP ∧ 34 ≤ pkt.length ∧ rd32 pkt 26 = src)
  | .user _ => false

/-- The step lemma: an event that spares the block of `src` keeps it and the absence of an
allowlist entry, and drops a frame of `src`. -/
theorem step_blocked {m : FilterMaps} {src u : ℕ} (hb : m.blocklist.lookup src = some u)
    (ha : m.allowlist.lookup src = none) {e : Event} (he : e.sparesBlock src u = true) :
    (e.step m).1.blocklist.lookup src = some u ∧ (e.step m).1.allowlist.lookup src = none ∧
      (e.fromSource src = true → (e.step m).2 = some .drop) := by
  cases e with
  | packet now pad pkt =>
    simp only [Event.sparesBlock, decide_eq_true_eq] at he
    by_cases hs : rd16 pkt 12 = ETH_P_IP ∧ 34 ≤ pkt.length ∧ rd32 pkt 26 = src
    · obtain ⟨hip, hl, rfl⟩ := hs
      rw [Event.step, xdpDdosFilter_of_blocked hip hl ha hb he]
      exact ⟨by simpa [FilterMaps.protoDrop] using hb, by simpa [FilterMaps.protoDrop] using ha,
        fun _ => rfl⟩
    · have hframe := xdpDdosFilter_onlyBlocks m now pad pkt
      refine ⟨?_, by simp only [Event.step, hframe.1, ha],
        fun h => absurd (by simpa [Event.fromSource] using h) hs⟩
      by_cases hk : src = rd32 pkt 26
      · simp only [Event.step, xdpDdosFilter_of_not_ip4 (fun h => hs ⟨h.1, h.2, hk.symm⟩), hb]
      · simp only [Event.step, hframe.2 src hk, hb]
  | user op =>
    have hu : Event.fromSource src (.user op) = true → (Event.step m (.user op)).2 = some .drop :=
      fun h => by cases h
    cases op with
    | setConfig c => exact ⟨hb, ha, hu⟩
    | block s v =>
      simp only [Event.sparesBlock, decide_eq_true_eq] at he
      exact ⟨(HashMap.lookup_updateAny_ne _ (Ne.symm he) _).trans hb, ha, hu⟩
    | unblock s =>
      simp only [Event.sparesBlock, decide_eq_true_eq] at he
      exact ⟨(HashMap.lookup_delete _ _ _).trans (by rw [if_neg (Ne.symm he), hb]), ha, hu⟩
    | allow s v =>
      simp only [Event.sparesBlock, decide_eq_true_eq] at he
      exact ⟨hb, (HashMap.lookup_updateAny_ne _ (Ne.symm he) _).trans ha, hu⟩
    | disallow s =>
      simp only [Event.sparesBlock, decide_eq_true_eq] at he
      exact ⟨hb, (HashMap.lookup_delete _ _ _).trans (by rw [if_neg (Ne.symm he), ha]), hu⟩

/-- A block holds until it expires: from maps where `src` is blocked until `u` and not
allowlisted, over any run of packets before `u`, from any sources, interleaved with user-space
writes to other sources' entries, every IPv4 frame from `src` is dropped and the block stays. -/
theorem run_blocked_drops {m : FilterMaps} {src u : ℕ} (hb : m.blocklist.lookup src = some u)
    (ha : m.allowlist.lookup src = none) (evs : List Event)
    (he : ∀ e ∈ evs, e.sparesBlock src u = true) :
    (run m evs).1.blocklist.lookup src = some u ∧
      List.Forall₂ (fun e o => e.fromSource src = true → o = some .drop) evs (run m evs).2 := by
  have h := tailLoop_forall₂_inv_of_mem
    (fun s : FilterMaps => s.blocklist.lookup src = some u ∧ s.allowlist.lookup src = none)
    (fun e o => e.fromSource src = true → o = some .drop) Event.step evs
    (fun s e hm hs => let h := step_blocked hs.1 hs.2 (he e hm); ⟨⟨h.1, h.2.1⟩, h.2.2⟩) m ⟨hb, ha⟩
  exact ⟨h.1.1, h.2⟩

/-- A block user space sets until 1 µs: the source's frame at 0.5 µs is dropped, whatever another
source sends and user space blocks in between. -/
theorem run_blocked_drops_userBlock :
    ((UserOp.block 0x0A000001 1000).apply filterMapsInit).blocklist.lookup 0x0A000001 = some 1000 ∧
      ((UserOp.block 0x0A000001 1000).apply filterMapsInit).allowlist.lookup 0x0A000001 = none ∧
      (∀ e ∈ [Event.packet 400 0 (ip4Frame 0x0B000001 IPPROTO_ICMP), .user (.block 0x0B000001 5000),
          .packet 500 0 (ip4Frame 0x0A000001 IPPROTO_ICMP)], e.sparesBlock 0x0A000001 1000 = true) ∧
      (run ((UserOp.block 0x0A000001 1000).apply filterMapsInit)
          [.packet 400 0 (ip4Frame 0x0B000001 IPPROTO_ICMP), .user (.block 0x0B000001 5000),
            .packet 500 0 (ip4Frame 0x0A000001 IPPROTO_ICMP)]).1.blocklist.lookup 0x0A000001 =
        some 1000 ∧
      List.Forall₂ (fun e o => e.fromSource 0x0A000001 = true → o = some .drop)
        [Event.packet 400 0 (ip4Frame 0x0B000001 IPPROTO_ICMP), .user (.block 0x0B000001 5000),
          .packet 500 0 (ip4Frame 0x0A000001 IPPROTO_ICMP)]
        (run ((UserOp.block 0x0A000001 1000).apply filterMapsInit)
          [.packet 400 0 (ip4Frame 0x0B000001 IPPROTO_ICMP), .user (.block 0x0B000001 5000),
            .packet 500 0 (ip4Frame 0x0A000001 IPPROTO_ICMP)]).2 :=
  have hb : ((UserOp.block 0x0A000001 1000).apply filterMapsInit).blocklist.lookup 0x0A000001 =
      some 1000 := by decide
  have he : ∀ e ∈ [Event.packet 400 0 (ip4Frame 0x0B000001 IPPROTO_ICMP),
      .user (.block 0x0B000001 5000), .packet 500 0 (ip4Frame 0x0A000001 IPPROTO_ICMP)],
      e.sparesBlock 0x0A000001 1000 = true := by decide
  ⟨hb, rfl, he, run_blocked_drops hb rfl _ he⟩

/-! ### Allowlisted traffic leaves no trace -/

/-- The events that keep `src` allowlisted: all but the deletion of its entry. -/
def Event.keepsAllow (src : ℕ) : Event → Bool
  | .user (.disallow s) => decide (s ≠ src)
  | _ => true

/-- A frame from an allowlisted source passes before the program writes any map. -/
theorem xdpDdosFilter_of_allowed {m : FilterMaps} {now pad : ℕ} {pkt : Bytes}
    (hip : rd16 pkt 12 = ETH_P_IP) (hl : 34 ≤ pkt.length)
    (ha : (m.allowlist.lookup (rd32 pkt 26)).isSome = true) :
    xdpDdosFilter m now pad pkt = (m, .pass) := by
  rw [xdpDdosFilter, if_neg (by omega), if_pos ⟨hip, hl⟩, ip4Filter, if_pos ha]

theorem step_keepsAllow {m : FilterMaps} {src : ℕ} (ha : (m.allowlist.lookup src).isSome = true)
    {e : Event} (he : e.keepsAllow src = true) :
    ((e.step m).1.allowlist.lookup src).isSome = true := by
  rw [HashMap.isSome_lookup_iff] at ha ⊢
  cases e with
  | packet now pad pkt => rw [Event.step, (xdpDdosFilter_onlyBlocks m now pad pkt).1]; exact ha
  | user op =>
    cases op with
    | allow s v => exact HashMap.keys_subset_updateAny _ s v ha
    | disallow s => exact HashMap.mem_keys_delete ha (Ne.symm (of_decide_eq_true he))
    | setConfig | block | unblock => exact ha

theorem step_fromAllowed {m : FilterMaps} {src : ℕ} (ha : (m.allowlist.lookup src).isSome = true)
    {e : Event} (hs : e.fromSource src = true) : e.step m = (m, some .pass) := by
  cases e with
  | packet now pad pkt =>
    obtain ⟨hip, hl, rfl⟩ := of_decide_eq_true hs
    rw [Event.step, xdpDdosFilter_of_allowed hip hl ha]
  | user op => cases hs

/-- Allowlisted traffic passes and leaves no trace: from maps whose allowlist holds `src`, over
any run of packets and user-space writes that keep that entry, every IPv4 frame from `src`
passes, even while `src` is blocked, and the run without those frames ends in the same maps and
gives every other event the same result. -/
theorem run_allowlisted_invisible {m : FilterMaps} {src : ℕ}
    (ha : (m.allowlist.lookup src).isSome = true) (evs : List Event)
    (he : ∀ e ∈ evs, e.keepsAllow src = true) :
    List.Forall₂ (fun e o => e.fromSource src = true → o = some .pass) evs (run m evs).2 ∧
      run m (evs.filter fun e => !e.fromSource src) =
        ((run m evs).1, ((evs.zip (run m evs).2).filter fun p => !p.1.fromSource src).map Prod.snd) :=
  let Inv := fun s : FilterMaps => (s.allowlist.lookup src).isSome = true
  ⟨(tailLoop_forall₂_inv_of_mem Inv _ Event.step evs (fun _ e h hs =>
      ⟨step_keepsAllow hs (he e h), fun hf => congrArg Prod.snd (step_fromAllowed hs hf)⟩) m ha).2,
    tailLoop_filter_of_skip Inv _ Event.step evs (fun _ e h hs => step_keepsAllow hs (he e h))
      (fun _ _ hs hf => congrArg Prod.fst (step_fromAllowed hs hf)) m ha⟩

/-- In mode 1, user space blocks the allowlisted `10.0.0.1`; its frames around one from
`11.0.0.1`, which the analysis blocks, pass. -/
def allowEvents : List Event :=
  [.user (.setConfig filterMode), .user (.block 0x0A000001 (10 ^ 12)),
    .packet 5 0 (ip4Frame 0x0A000001 IPPROTO_UDP), .packet 6 0 (ip4Frame 0x0B000001 IPPROTO_UDP),
    .packet 7 0 (ip4Frame 0x0A000001 IPPROTO_UDP)]

theorem run_allowlisted_invisible_blocked :
    (((UserOp.allow 0x0A000001 1).apply filterMapsInit).allowlist.lookup 0x0A000001).isSome = true ∧
      (∀ e ∈ allowEvents, e.keepsAllow 0x0A000001 = true) ∧
      List.Forall₂ (fun e o => e.fromSource 0x0A000001 = true → o = some .pass) allowEvents
        (run ((UserOp.allow 0x0A000001 1).apply filterMapsInit) allowEvents).2 ∧
      run ((UserOp.allow 0x0A000001 1).apply filterMapsInit)
          (allowEvents.filter fun e => !e.fromSource 0x0A000001) =
        ((run ((UserOp.allow 0x0A000001 1).apply filterMapsInit) allowEvents).1,
          ((allowEvents.zip (run ((UserOp.allow 0x0A000001 1).apply filterMapsInit) allowEvents).2).filter
            fun p => !p.1.fromSource 0x0A000001).map Prod.snd) := by
  have ha : (((UserOp.allow 0x0A000001 1).apply filterMapsInit).allowlist.lookup 0x0A000001).isSome =
      true := by decide
  have he : ∀ e ∈ allowEvents, e.keepsAllow 0x0A000001 = true := by decide
  exact ⟨ha, he, run_allowlisted_invisible ha _ he⟩

end OpenSase.XdpDdosFilter
