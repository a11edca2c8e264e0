import OpenSase.BpfMap
import OpenSase.Frame

/-!
The XDP program `xdp_ddos_filter` of `src/infra/xdp/ddos_filter.c`: blocklists filled by user
space and a per-source rate limit reset once a second. A block lasts until user space deletes it
(`run_blocks_never_expire`), and `xdp_stats` counts every packet and every drop (`run_stats`).
-/
namespace OpenSase.DdosFilter

open Bpf

/-- `struct rate_limit`. -/
structure RateLimit where
  ppsLimit : ℕ
  bpsLimit : ℕ
  deriving DecidableEq, Repr

/-- `struct rate_state`. -/
structure RateState where
  packets : ℕ
  bytes : ℕ
  lastReset : ℕ
  deriving DecidableEq, Repr

/-- `struct xdp_stats`. -/
structure XdpStats where
  packetsReceived : ℕ
  packetsDropped : ℕ
  packetsPassed : ℕ
  bytesReceived : ℕ
  bytesDropped : ℕ
  blocklistHits : ℕ
  rateLimitHits : ℕ
  synVerified : ℕ
  deriving DecidableEq, Repr, Inhabited

/-- The program's maps. The LPM trie's keys are `(prefixlen, addr)`. -/
structure DdosMaps where
  blocklist : HashMap ℕ ℕ
  blocklistV6 : HashMap Bytes ℕ
  blocklistLpm : HashMap (ℕ × ℕ) ℕ
  rateLimits : HashMap ℕ RateLimit
  rateState : HashMap ℕ RateState
  stats : XdpStats

/-- The maps as the program is loaded: empty, with the `max_entries` of their definitions. -/
def ddosMapsInit : DdosMaps :=
  ⟨.empty 100000, .empty 50000, .empty 10000, .empty 100000, .empty 100000, default⟩

/-- The LPM trie's lookup of `{.prefixlen = 32, .addr = saddr}`: some entry's first
`prefixlen` bits are the address's. -/
def lpmMatch (m : HashMap (ℕ × ℕ) ℕ) (saddr : ℕ) : Bool :=
  m.entries.any fun e => e.1.1 ≤ 32 && saddr / 2 ^ (32 - e.1.1) == e.1.2 / 2 ^ (32 - e.1.1)

def checkBlocklist (m : DdosMaps) (saddr : ℕ) : Bool :=
  (m.blocklist.lookup saddr).isSome || lpmMatch m.blocklistLpm saddr

/-- `check_rate_limit`: the maps after the call, and whether it returned 1. -/
def checkRateLimit (m : DdosMaps) (saddr pktLen now : ℕ) : DdosMaps × Bool :=
  match m.rateLimits.lookup saddr with
  | none => (m, false)
  | some limit =>
    match m.rateState.lookup saddr with
    | none => ({ m with rateState := m.rateState.updateAny saddr ⟨1, pktLen, now⟩ }, false)
    | some state =>
      if 1000000000 ≤ (now + 2 ^ 64 - state.lastReset) % 2 ^ 64 then
        ({ m with rateState := m.rateState.modify saddr fun _ => ⟨1, pktLen, now⟩ }, false)
      else if 0 < limit.ppsLimit ∧ limit.ppsLimit ≤ state.packets then (m, true)
      else if 0 < limit.bpsLimit ∧ limit.bpsLimit ≤ state.bytes then (m, true)
      else
        ({ m with rateState := m.rateState.modify saddr fun s =>
            ⟨(s.packets + 1) % 2 ^ 64, (s.bytes + pktLen) % 2 ^ 64, s.lastReset⟩ }, false)

/-- The calls of `check_rate_limit` for the source `saddr` over a sequence of
`(now, pkt_len)`: the maps after them, and the answers. -/
def rateCalls (saddr : ℕ) (m : DdosMaps) (calls : List (ℕ × ℕ)) : DdosMaps × List Bool :=
  tailLoop (fun m c => checkRateLimit m saddr c.2 c.1) m calls

/-- The lengths of the calls that returned 0. -/
def passedLens : List (ℕ × ℕ) → List Bool → List ℕ
  | c :: cs, r :: rs => if r then passedLens cs rs else c.2 :: passedLens cs rs
  | _, _ => []

theorem passedLens_cons (c : ℕ × ℕ) (cs : List (ℕ × ℕ)) (r : Bool) (rs : List Bool) :
    passedLens (c :: cs) (r :: rs) = if r then passedLens cs rs else c.2 :: passedLens cs rs := rfl

/-- The UDP source ports whose large datagrams the program drops. -/
def amplificationPorts : List ℕ := [19, 53, 123, 161, 389, 1900, 11211]

/-- The counts of a packet on entry. -/
def XdpStats.received (s : XdpStats) (len : ℕ) : XdpStats :=
  { s with packetsReceived := (s.packetsReceived + 1) % 2 ^ 64
           bytesReceived := (s.bytesReceived + len) % 2 ^ 64 }

/-- The counts of a dropped packet. -/
def XdpStats.dropped (s : XdpStats) (len : ℕ) : XdpStats :=
  { s with packetsDropped := (s.packetsDropped + 1) % 2 ^ 64
           bytesDropped := (s.bytesDropped + len) % 2 ^ 64 }

/-- The counts of a packet dropped by a blocklist. -/
def XdpStats.blockHit (s : XdpStats) (len : ℕ) : XdpStats :=
  { s.dropped len with blocklistHits := (s.blocklistHits + 1) % 2 ^ 64 }

/-- The counts of a packet dropped by the rate limit. -/
def XdpStats.rateHit (s : XdpStats) (len : ℕ) : XdpStats :=
  { s.dropped len with rateLimitHits := (s.rateLimitHits + 1) % 2 ^ 64 }

/-- The counts of a packet that reaches the end of the program. -/
def XdpStats.passed (s : XdpStats) : XdpStats :=
  { s with packetsPassed := (s.packetsPassed + 1) % 2 ^ 64 }

/-- The offset of the L4 header, `(void *)ip + (ip->ihl * 4)`. -/
def l4Offset (pkt : Bytes) : ℕ := 14 + byteAt pkt 14 % 16 * 4

/-- The IPv4 path after the blocklist and the rate limit: the TCP and UDP header checks and
the amplification test. -/
def ip4Tail (m : DdosMaps) (pkt : Bytes) (pktLen : ℕ) : DdosMaps × XdpAction :=
  if byteAt pkt 23 = IP_PROTOCOL_TCP ∧ pkt.length < l4Offset pkt + 20 then (m, .pass)
  else if byteAt pkt 23 = IP_PROTOCOL_UDP then
    if pkt.length < l4Offset pkt + 8 then (m, .pass)
    else if rd16 pkt (l4Offset pkt) ∈ amplificationPorts ∧ 512 < pktLen then
      ({ m with stats := m.stats.dropped pktLen }, .drop)
    else ({ m with stats := m.stats.passed }, .pass)
  else ({ m with stats := m.stats.passed }, .pass)

/-- The IPv4 path from the answer of `check_rate_limit` on. -/
def ip4Rated (r : DdosMaps × Bool) (pkt : Bytes) (pktLen : ℕ) : DdosMaps × XdpAction :=
  if r.2 then ({ r.1 with stats := r.1.stats.rateHit pktLen }, .drop) else ip4Tail r.1 pkt pktLen

/-- The program after the entry counts, from the Ethernet header on. -/
def ddosFilterFrom (m : DdosMaps) (now : ℕ) (pkt : Bytes) (pktLen : ℕ) :
    DdosMaps × XdpAction :=
  if pkt.length < 14 then (m, .pass)
  else if rd16 pkt 12 = ETH_P_IP then
    if pkt.length < 34 then (m, .pass)
    else if checkBlocklist m (rd32 pkt 26) then ({ m with stats := m.stats.blockHit pktLen }, .drop)
    else ip4Rated (checkRateLimit m (rd32 pkt 26) pktLen now) pkt pktLen
  else if rd16 pkt 12 = ETH_P_IPV6 then
    if pkt.length < 54 then (m, .pass)
    else if (m.blocklistV6.lookup ((pkt.drop 22).take 16)).isSome then
      ({ m with stats := m.stats.blockHit pktLen }, .drop)
    else ({ m with stats := m.stats.passed }, .pass)
  else ({ m with stats := m.stats.passed }, .pass)

/-- `xdp_ddos_filter` on the bytes from `data` to `data_end`, at time `now`. -/
def xdpDdosFilter (m : DdosMaps) (now : ℕ) (pkt : Bytes) : DdosMaps × XdpAction :=
  ddosFilterFrom { m with stats := m.stats.received (pkt.length % 2 ^ 32) } now pkt
    (pkt.length % 2 ^ 32)

/-- A write from user space to one of the pinned maps. -/
inductive UserOp where
  | setLimit (saddr : ℕ) (limit : RateLimit)
  | deleteLimit (saddr : ℕ)
  | block (saddr blockUntil : ℕ)
  | unblock (saddr : ℕ)
  | blockNet (prefixlen addr blockUntil : ℕ)
  | unblockNet (prefixlen addr : ℕ)
  | block6 (addr : Bytes) (blockUntil : ℕ)
  | unblock6 (addr : Bytes)

def UserOp.apply (m : DdosMaps) : UserOp → DdosMaps
  | .setLimit s l => { m with rateLimits := m.rateLimits.updateAny s l }
  | .deleteLimit s => { m with rateLimits := m.rateLimits.delete s }
  | .block s u => { m with blocklist := m.blocklist.updateAny s u }
  | .unblock s => { m with blocklist := m.blocklist.delete s }
  | .blockNet p a u => { m with blocklistLpm := m.blocklistLpm.updateAny (p, a) u }
  | .unblockNet p a => { m with blocklistLpm := m.blocklistLpm.delete (p, a) }
  | .block6 a u => { m with blocklistV6 := m.blocklistV6.updateAny a u }
  | .unblock6 a => { m with blocklistV6 := m.blocklistV6.delete a }

/-- The maps a loaded program can reach, with the time of the last packet: packets at
nondecreasing `u64` times, and user-space writes in between. -/
inductive Reachable : DdosMaps → ℕ → Prop
  | init : Reachable ddosMapsInit 0
  | packet {m : DdosMaps} {t : ℕ} (now : ℕ) (pkt : Bytes) :
      Reachable m t → t ≤ now → now < 2 ^ 64 → Reachable (xdpDdosFilter m now pkt).1 now
  | user {m : DdosMaps} {t : ℕ} (op : UserOp) : Reachable m t → Reachable (op.apply m) t

/-! ### What a call of `check_rate_limit` changes -/

/-- `check_rate_limit` writes `rate_state` and nothing else. -/
theorem checkRateLimit_eq (m : DdosMaps) (saddr pktLen now : ℕ) :
    (checkRateLimit m saddr pktLen now).1 =
      { m with rateState := (checkRateLimit m saddr pktLen now).1.rateState } := by
  unfold checkRateLimit
  split
  · rfl
  · split
    · rfl
    · split_ifs <;> rfl

/-- `check_rate_limit` does not read the statistics. -/
theorem checkRateLimit_stats (m : DdosMaps) (st : XdpStats) (saddr pktLen now : ℕ) :
    checkRateLimit { m with stats := st } saddr pktLen now =
      ({ (checkRateLimit m saddr pktLen now).1 with stats := st },
        (checkRateLimit m saddr pktLen now).2) := by
  unfold checkRateLimit
  dsimp only
  cases m.rateLimits.lookup saddr with
  | none => rfl
  | some limit =>
    cases m.rateState.lookup saddr with
    | none => rfl
    | some state => dsimp only; split_ifs <;> rfl

/-- A source whose `rate_state` entry is missing from a full map: the creation fails, the call
returns 0 and the maps stay as they were. -/
theorem checkRateLimit_of_full {m : DdosMaps} {saddr : ℕ} (hf : m.rateState.Full)
    (hs : saddr ∉ m.rateState.keys) (pktLen now : ℕ) :
    checkRateLimit m saddr pktLen now = (m, false) := by
  have hn : m.rateState.lookup saddr = none := (HashMap.lookup_eq_none_iff _ _).mpr hs
  unfold checkRateLimit
  cases m.rateLimits.lookup saddr
  · rfl
  · simp only [hn, HashMap.updateAny_of_full hs hf]

theorem ip4Tail_eq (m : DdosMaps) (pkt : Bytes) (pktLen : ℕ) :
    ∃ st, (ip4Tail m pkt pktLen).1 = { m with stats := st } := by
  unfold ip4Tail
  split_ifs <;> exact ⟨_, rfl⟩

/-- After the Ethernet header the program writes the statistics, and `rate_state` only
through `check_rate_limit`. -/
theorem ddosFilterFrom_eq (m : DdosMaps) (now : ℕ) (pkt : Bytes) (pktLen : ℕ) :
    ∃ st, (ddosFilterFrom m now pkt pktLen).1 = { m with stats := st } ∨
      (ddosFilterFrom m now pkt pktLen).1 =
        { (checkRateLimit m (rd32 pkt 26) pktLen now).1 with stats := st } := by
  unfold ddosFilterFrom
  split_ifs
  all_goals first
    | exact ⟨_, .inl rfl⟩
    | unfold ip4Rated
      split_ifs
      · exact ⟨_, .inr rfl⟩
      · obtain ⟨st, h⟩ := ip4Tail_eq (checkRateLimit m (rd32 pkt 26) pktLen now).1 pkt pktLen
        exact ⟨st, .inr h⟩

/-- A program step writes only `rate_state` and the statistics. -/
theorem xdpDdosFilter_eq (m : DdosMaps) (now : ℕ) (pkt : Bytes) :
    ∃ rs st, (xdpDdosFilter m now pkt).1 = { m with rateState := rs, stats := st } := by
  obtain ⟨st, h | h⟩ := ddosFilterFrom_eq { m with stats := m.stats.received (pkt.length % 2 ^ 32) }
    now pkt (pkt.length % 2 ^ 32)
  · exact ⟨_, st, h⟩
  · exact ⟨_, st, by rw [xdpDdosFilter, h, checkRateLimit_eq]⟩

/-- Only `check_rate_limit` writes `rate_state`. -/
theorem xdpDdosFilter_rateState (m : DdosMaps) (now : ℕ) (pkt : Bytes) :
    (xdpDdosFilter m now pkt).1.rateState = m.rateState ∨
      (xdpDdosFilter m now pkt).1.rateState =
        (checkRateLimit m (rd32 pkt 26) (pkt.length % 2 ^ 32) now).1.rateState := by
  obtain ⟨st, h | h⟩ := ddosFilterFrom_eq { m with stats := m.stats.received (pkt.length % 2 ^ 32) }
    now pkt (pkt.length % 2 ^ 32)
  · exact .inl (by rw [xdpDdosFilter, h])
  · exact .inr (by rw [xdpDdosFilter, h, checkRateLimit_stats])

/-- What `check_rate_limit` can do to `rate_state`: leave it, create the source's entry, or
rewrite that entry. -/
theorem checkRateLimit_rateState (m : DdosMaps) (saddr pktLen now : ℕ) :
    (checkRateLimit m saddr pktLen now).1.rateState = m.rateState ∨
      (checkRateLimit m saddr pktLen now).1.rateState =
        m.rateState.updateAny saddr ⟨1, pktLen, now⟩ ∨
      ∃ f, (checkRateLimit m saddr pktLen now).1.rateState = m.rateState.modify saddr f := by
  unfold checkRateLimit
  split
  · exact .inl rfl
  · split
    · exact .inr (.inl rfl)
    · split_ifs
      · exact .inr (.inr ⟨fun _ => ⟨1, pktLen, now⟩, rfl⟩)
      · exact .inl rfl
      · exact .inl rfl
      · exact .inr (.inr ⟨fun s => ⟨(s.packets + 1) % 2 ^ 64, (s.bytes + pktLen) % 2 ^ 64, s.lastReset⟩,
          rfl⟩)

/-- The program never changes the capacity of `rate_state`. -/
theorem xdpDdosFilter_maxEntries (m : DdosMaps) (now : ℕ) (pkt : Bytes) :
    (xdpDdosFilter m now pkt).1.rateState.maxEntries = m.rateState.maxEntries := by
  rcases xdpDdosFilter_rateState m now pkt with h | h <;> rw [h]
  rcases checkRateLimit_rateState m (rd32 pkt 26) (pkt.length % 2 ^ 32) now with h | h | ⟨f, h⟩ <;>
    simp only [h, HashMap.updateAny_maxEntries, HashMap.modify_maxEntries]

/-! ### The accounting window -/

/-- A call inside the window of a stored entry: it returns 1 when a limit is reached, and
otherwise counts the packet. -/
theorem checkRateLimit_within {m : DdosMaps} {saddr now : ℕ} {lim : RateLimit}
    {st : RateState} (pktLen : ℕ) (hl : m.rateLimits.lookup saddr = some lim)
    (hs : m.rateState.lookup saddr = some st) (h₁ : st.lastReset ≤ now)
    (h₂ : now - st.lastReset < 1000000000) :
    checkRateLimit m saddr pktLen now =
      if (0 < lim.ppsLimit ∧ lim.ppsLimit ≤ st.packets) ∨
          (0 < lim.bpsLimit ∧ lim.bpsLimit ≤ st.bytes) then (m, true)
      else ({ m with rateState := m.rateState.modify saddr fun s =>
          ⟨(s.packets + 1) % 2 ^ 64, (s.bytes + pktLen) % 2 ^ 64, s.lastReset⟩ }, false) := by
  have he : (now + 2 ^ 64 - st.lastReset) % 2 ^ 64 = now - st.lastReset := by
    rw [show now + 2 ^ 64 - st.lastReset = now - st.lastReset + 2 ^ 64 by omega,
      Nat.add_mod_right, Nat.mod_eq_of_lt (by omega)]
  simp only [checkRateLimit, hl, hs, he, if_neg (Nat.not_le.mpr h₂)]
  by_cases hp : 0 < lim.ppsLimit ∧ lim.ppsLimit ≤ st.packets
  · simp [hp]
  · by_cases hb : 0 < lim.bpsLimit ∧ lim.bpsLimit ≤ st.bytes <;> simp [hp, hb]

/-- Within the window of a stored entry `st`, the calls that return 0 number at most
`pps_limit - st.packets`, and the bytes counted before the last of them stay below `bps_limit`,
as long as the counters do not wrap. -/
theorem rateCalls_window {lim : RateLimit} {saddr : ℕ} :
    ∀ (calls : List (ℕ × ℕ)) (m : DdosMaps) (st : RateState),
      m.rateLimits.lookup saddr = some lim → m.rateState.lookup saddr = some st →
      (∀ c ∈ calls, st.lastReset ≤ c.1 ∧ c.1 - st.lastReset < 1000000000) →
      st.packets + calls.length < 2 ^ 64 → st.bytes + (calls.map Prod.snd).sum < 2 ^ 64 →
      let passed := passedLens calls (rateCalls saddr m calls).2
      (0 < lim.ppsLimit → st.packets ≤ lim.ppsLimit → st.packets + passed.length ≤ lim.ppsLimit) ∧
        (0 < lim.bpsLimit → passed ≠ [] → st.bytes + passed.dropLast.sum < lim.bpsLimit)
  | [], _, _, _, _, _, _, _ => by simp [rateCalls, passedLens]
  | (now, len) :: calls, m, st, hl, hs, ht, hn, hb => by
    have hw := checkRateLimit_within len hl hs (ht _ (List.mem_cons_self _ _)).1
      (ht _ (List.mem_cons_self _ _)).2
    have ht' := fun c hc => ht c (List.mem_cons_of_mem _ hc)
    simp only [List.length_cons, List.map_cons, List.sum_cons] at hn hb
    dsimp only [rateCalls] at hw ⊢
    rw [tailLoop_cons, hw]
    split_ifs with hlim
    · rw [passedLens_cons, if_pos rfl]
      exact rateCalls_window calls m st hl hs ht' (by omega) (by omega)
    · have hs' : (m.rateState.modify saddr fun s =>
          (⟨(s.packets + 1) % 2 ^ 64, (s.bytes + len) % 2 ^ 64, s.lastReset⟩ : RateState)).lookup
            saddr = some ⟨st.packets + 1, st.bytes + len, st.lastReset⟩ := by
        rw [HashMap.lookup_modify, if_pos rfl, hs, Option.map_some',
          Nat.mod_eq_of_lt (by omega), Nat.mod_eq_of_lt (by omega)]
      obtain ⟨ih₁, ih₂⟩ := rateCalls_window calls
        { m with rateState := m.rateState.modify saddr fun s =>
            ⟨(s.packets + 1) % 2 ^ 64, (s.bytes + len) % 2 ^ 64, s.lastReset⟩ } _ hl hs' ht'
        (by dsimp only; omega) (by dsimp only; omega)
      simp only [rateCalls] at ih₁ ih₂
      simp only [passedLens_cons, Bool.false_eq_true, if_false, List.length_cons]
      refine ⟨fun hp hst => ?_, fun hp _ => ?_⟩
      · have := ih₁ hp (by omega); omega
      · by_cases he : passedLens calls (tailLoop (fun m c => checkRateLimit m saddr c.2 c.1)
            { m with rateState := m.rateState.modify saddr fun s =>
              ⟨(s.packets + 1) % 2 ^ 64, (s.bytes + len) % 2 ^ 64, s.lastReset⟩ } calls).2 = []
        · rw [he]; simp only [List.dropLast_single, List.sum_nil]; omega
        · rw [List.dropLast_cons_of_ne_nil he, List.sum_cons]
          have := ih₂ hp he; omega

/-! ### Filling `rate_state` -/

theorem Reachable.users {m : DdosMaps} {t : ℕ} (h : Reachable m t) :
    ∀ ops : List UserOp, Reachable (ops.foldl UserOp.apply m) t := by
  intro ops
  induction ops generalizing m with
  | nil => exact h
  | cons op ops ih => exact ih (h.user op)

theorem Reachable.packets {m : DdosMaps} {t : ℕ} (h : Reachable m t) (ht : t < 2 ^ 64) :
    ∀ pkts : List Bytes, Reachable (pkts.foldl (fun m p => (xdpDdosFilter m t p).1) m) t := by
  intro pkts
  induction pkts generalizing m with
  | nil => exact h
  | cons p pkts ih => exact ih (h.packet t p le_rfl ht)

theorem foldl_setLimit (lim : RateLimit) :
    ∀ (l : List ℕ) (m : DdosMaps), (l.map fun k => UserOp.setLimit k lim).foldl UserOp.apply m =
      { m with rateLimits := l.foldl (fun r k => r.updateAny k lim) m.rateLimits }
  | [], _ => rfl
  | _ :: l, _ => foldl_setLimit lim l _

/-- The first packet of a limited source with room in `rate_state` creates its entry. -/
theorem xdpDdosFilter_creates {m : DdosMaps} {k : ℕ} {lim : RateLimit} (hk : k < 2 ^ 32)
    (hl : m.rateLimits.lookup k = some lim) (hb : m.blocklist.entries = [])
    (hlpm : m.blocklistLpm.entries = []) (hs : k ∉ m.rateState.keys) (hr : ¬ m.rateState.Full)
    (now : ℕ) :
    (xdpDdosFilter m now (ip4Frame k IPPROTO_ICMP)).1.rateState.entries =
      m.rateState.entries ++ [(k, ⟨1, 34, now⟩)] := by
  obtain ⟨h12, -, -, h26⟩ := ip4Frame_fields k IPPROTO_ICMP
  have hn : m.rateState.lookup k = none := (HashMap.lookup_eq_none_iff _ _).mpr hs
  have hblock : checkBlocklist m k = false := by
    simp [checkBlocklist, lpmMatch, HashMap.lookup, hb, hlpm]
  unfold xdpDdosFilter ddosFilterFrom ip4Rated
  rw [ip4Frame_length, if_neg (by decide), if_pos h12, if_neg (by decide), h26,
    Nat.mod_eq_of_lt hk]
  dsimp only
  rw [if_neg (by simpa [checkBlocklist] using hblock), checkRateLimit_stats]
  simp only [checkRateLimit, hl, hn]
  obtain ⟨st, h⟩ := ip4Tail_eq
    { m with rateState := m.rateState.updateAny k ⟨1, 34 % 2 ^ 32, now⟩, stats := _ }
    (ip4Frame k IPPROTO_ICMP) (34 % 2 ^ 32)
  rw [if_neg Bool.false_ne_true, h]
  exact HashMap.updateAny_of_room hs hr _

/-- One packet from each of the fresh limited sources `l`, in turn, appends their entries to
`rate_state`. -/
theorem foldl_creates {lim : RateLimit} (l : List ℕ) (now : ℕ) :
    ∀ m : DdosMaps, (∀ k ∈ l, k < 2 ^ 32 ∧ m.rateLimits.lookup k = some lim) →
      m.blocklist.entries = [] → m.blocklistLpm.entries = [] → (m.rateState.keys ++ l).Nodup →
      m.rateState.entries.length + l.length ≤ m.rateState.maxEntries →
      let m' := l.foldl (fun m k => (xdpDdosFilter m now (ip4Frame k IPPROTO_ICMP)).1) m
      m'.rateState.entries = m.rateState.entries ++ l.map (fun k => (k, ⟨1, 34, now⟩)) ∧
        m'.rateState.maxEntries = m.rateState.maxEntries ∧ m'.rateLimits = m.rateLimits := by
  induction l with
  | nil => intro m _ _ _ _ _; simp
  | cons k l ih =>
    intro m hl hb hlpm hn hlen
    obtain ⟨rs, st, hm⟩ := xdpDdosFilter_eq m now (ip4Frame k IPPROTO_ICMP)
    have hk : k ∉ m.rateState.keys := fun h =>
      (List.nodup_append.mp hn).2.2 h (List.mem_cons_self k l)
    have hr : ¬ m.rateState.Full := by
      simp only [HashMap.Full, List.length_cons] at hlen ⊢; omega
    have hc := xdpDdosFilter_creates (hl k (List.mem_cons_self k l)).1
      (hl k (List.mem_cons_self k l)).2 hb hlpm hk hr now
    have hmax : rs.maxEntries = m.rateState.maxEntries := by
      rw [← xdpDdosFilter_maxEntries m now (ip4Frame k IPPROTO_ICMP), hm]
    rw [hm] at hc
    replace hc : rs.entries = m.rateState.entries ++ [(k, ⟨1, 34, now⟩)] := hc
    obtain ⟨h1, h2, h3⟩ := ih { m with rateState := rs, stats := st }
      (fun k' hk' => hl k' (List.mem_cons_of_mem k hk')) hb hlpm
      (by rw [HashMap.keys, hc, List.map_append]; simpa [HashMap.keys] using hn)
      (by simp only [hc, hmax, List.length_append, List.length_singleton, List.length_cons,
        List.length_nil] at hlen ⊢; omega)
    simp only [List.foldl_cons, hm]
    exact ⟨by rw [h1, hc]; simp, h2.trans hmax, h3⟩

/-- A source whose entry is missing from a full `rate_state` map passes every call. -/
theorem rateCalls_of_full {m : DdosMaps} {saddr : ℕ} (hf : m.rateState.Full)
    (hs : saddr ∉ m.rateState.keys) :
    ∀ calls : List (ℕ × ℕ), rateCalls saddr m calls = (m, calls.map fun _ => false)
  | [] => rfl
  | c :: calls => by
    rw [rateCalls, tailLoop_cons, checkRateLimit_of_full hf hs]
    exact congrArg (fun r : DdosMaps × List Bool => (r.1, false :: r.2))
      (rateCalls_of_full hf hs calls)

/-- From the loaded program: user space gives the sources of `L` a limit and each of them
sends one packet. Then `rate_limits` and `rate_state` hold exactly their entries. -/
theorem rateState_fill (lim : RateLimit) {L : List ℕ} (hn : L.Nodup) (hl : L.length = 100000)
    (ht : ∀ k ∈ L, k < 2 ^ 32) :
    ∃ m, Reachable m 0 ∧ m.rateLimits.entries = L.map (fun k => (k, lim)) ∧
      m.rateLimits.maxEntries = 100000 ∧
      m.rateState.entries = L.map (fun k => (k, ⟨1, 34, 0⟩)) ∧ m.rateState.maxEntries = 100000 := by
  have e₁ := HashMap.foldl_updateAny_fresh (fun _ => lim) L ddosMapsInit.rateLimits
    (by simpa [HashMap.keys, ddosMapsInit, HashMap.empty] using hn)
    (by simp [ddosMapsInit, HashMap.empty, hl])
  have max₁ := HashMap.foldl_updateAny_maxEntries (fun _ => lim) L ddosMapsInit.rateLimits
  have r := (Reachable.init.users (L.map fun k => UserOp.setLimit k lim)).packets (by norm_num)
    (L.map fun k => ip4Frame k IPPROTO_ICMP)
  rw [List.foldl_map, foldl_setLimit] at r
  obtain ⟨e₂, max₂, lim₂⟩ := foldl_creates L 0
    { ddosMapsInit with rateLimits := L.foldl (fun r k => r.updateAny k lim) ddosMapsInit.rateLimits }
    (fun k hk => ⟨ht k hk, HashMap.lookup_eq_some_of_mem (show (k, lim) ∈ _ by
      rw [e₁]; simp [hk])⟩) rfl rfl
    (by simpa [HashMap.keys, ddosMapsInit, HashMap.empty] using hn)
    (by simp [ddosMapsInit, HashMap.empty, hl])
  refine ⟨_, r, ?_, ?_, e₂, max₂⟩
  · rw [lim₂]; simpa [ddosMapsInit, HashMap.empty] using e₁
  · rw [lim₂]; exact max₁

/-- From the loaded program: user space gives the sources `0, …, 99999` a limit, each sends
one packet, and user space moves source 0's limit to source 100000. Then `rate_state` is full
and source 100000 has no entry in it. -/
theorem rateState_full_reachable (lim : RateLimit) :
    ∃ m, Reachable m 0 ∧ m.rateLimits.lookup 100000 = some lim ∧ m.rateState.Full ∧
      100000 ∉ m.rateState.keys := by
  obtain ⟨m, hr, el, ml, es, ms⟩ := rateState_fill lim (List.nodup_range 100000)
    (List.length_range 100000) (fun k hk => by rw [List.mem_range] at hk; omega)
  refine ⟨(UserOp.setLimit 100000 lim).apply ((UserOp.deleteLimit 0).apply m), (hr.user _).user _,
    HashMap.lookup_updateAny_self (.inr ?_) lim, ?_, ?_⟩
  · have h0 : ((0 : ℕ), lim) ∈ m.rateLimits.entries := by
      rw [el]; exact List.mem_map_of_mem _ (List.mem_range.mpr (by norm_num))
    have hlt := (List.length_filter_lt_length_iff_exists
      (p := fun e : ℕ × RateLimit => decide (e.1 ≠ 0))).mpr ⟨_, h0, by simp⟩
    show ¬ (m.rateLimits.delete 0).Full
    simp only [HashMap.Full, HashMap.delete, not_le]
    calc _ < m.rateLimits.entries.length := hlt
      _ = m.rateLimits.maxEntries := by rw [el, ml, List.length_map, List.length_range]
  · show m.rateState.maxEntries ≤ m.rateState.entries.length
    rw [ms, es, List.length_map, List.length_range]
  · show 100000 ∉ m.rateState.entries.map Prod.fst
    rw [es, List.map_map]
    simp

/-- A source given a limit once `rate_state` is full is never limited: there is a reachable
state in which source 100000 has the limit `lim`, whatever it is, and every call of
`check_rate_limit` for it returns 0, for every sequence of times and lengths. -/
theorem checkRateLimit_unlimited_when_full (lim : RateLimit) :
    ∃ m, Reachable m 0 ∧ m.rateLimits.lookup 100000 = some lim ∧
      ∀ calls : List (ℕ × ℕ), (rateCalls 100000 m calls).2 = calls.map fun _ => false := by
  obtain ⟨m, hr, hl, hf, hs⟩ := rateState_full_reachable lim
  exact ⟨m, hr, hl, fun calls => by rw [rateCalls_of_full hf hs]⟩

/-! ### The statistics over a run -/

/-- What happens to the maps: a packet at its time, or a write from user space. -/
inductive Event where
  | packet (now : ℕ) (pkt : Bytes)
  | user (op : UserOp)

/-- One event: the maps after it, and the verdict of a packet. -/
def Event.step (m : DdosMaps) : Event → DdosMaps × Option XdpAction
  | .packet now pkt => ((xdpDdosFilter m now pkt).1, some (xdpDdosFilter m now pkt).2)
  | .user op => (op.apply m, none)

/-- The events one after another: the maps after them, and what each returned. -/
def run (m : DdosMaps) (evs : List Event) : DdosMaps × List (Option XdpAction) :=
  tailLoop Event.step m evs

def Event.isPacket : Event → Bool
  | .packet .. => true
  | .user _ => false

/-- The `pkt_len` of a packet, `data_end - data` as a `__u32`. -/
def Event.len : Event → ℕ
  | .packet _ pkt => pkt.length % 2 ^ 32
  | .user _ => 0

/-- The bytes an event adds to `bytes_dropped` when it returned `o`. -/
def dropLen (e : Event) (o : Option XdpAction) : ℕ := if o = some .drop then e.len else 0

/-- What a verdict does to the drop counters, the received ones left alone. -/
def DropCounted (s s' : XdpStats) (len : ℕ) (v : XdpAction) : Prop :=
  s'.packetsReceived = s.packetsReceived ∧ s'.bytesReceived = s.bytesReceived ∧
    s'.packetsDropped = (if v = .drop then (s.packetsDropped + 1) % 2 ^ 64 else s.packetsDropped) ∧
    s'.bytesDropped = (if v = .drop then (s.bytesDropped + len) % 2 ^ 64 else s.bytesDropped)

theorem DropCounted.same (s : XdpStats) (len : ℕ) : DropCounted s s len .pass := by
  simp [DropCounted]

theorem DropCounted.passed (s : XdpStats) (len : ℕ) : DropCounted s s.passed len .pass := by
  simp [DropCounted, XdpStats.passed]

theorem DropCounted.dropped (s : XdpStats) (len : ℕ) : DropCounted s (s.dropped len) len .drop := by
  simp [DropCounted, XdpStats.dropped]

theorem DropCounted.blockHit (s : XdpStats) (len : ℕ) : DropCounted s (s.blockHit len) len .drop :=
  .dropped s len

theorem DropCounted.rateHit (s : XdpStats) (len : ℕ) : DropCounted s (s.rateHit len) len .drop :=
  .dropped s len

theorem ip4Tail_dropCounted (m : DdosMaps) (pkt : Bytes) (len : ℕ) :
    DropCounted m.stats (ip4Tail m pkt len).1.stats len (ip4Tail m pkt len).2 := by
  unfold ip4Tail
  split_ifs
  · exact .same _ len
  · exact .same _ len
  · exact .dropped _ len
  · exact .passed _ len
  · exact .passed _ len

theorem ip4Rated_dropCounted (r : DdosMaps × Bool) (pkt : Bytes) (len : ℕ) :
    DropCounted r.1.stats (ip4Rated r pkt len).1.stats len (ip4Rated r pkt len).2 := by
  unfold ip4Rated
  split_ifs
  · exact .rateHit _ len
  · exact ip4Tail_dropCounted _ pkt len

/-- What `ddosFilterFrom` can return, with the header tests that lead there. -/
theorem ddosFilterFrom_cases (P : DdosMaps × XdpAction → Prop) (m : DdosMaps) (now : ℕ) (pkt : Bytes)
    (len : ℕ) (same : ¬(rd16 pkt 12 = ETH_P_IP ∧ 34 ≤ pkt.length) → P (m, .pass))
    (block : P ({ m with stats := m.stats.blockHit len }, .drop))
    (rated : rd16 pkt 12 = ETH_P_IP → 34 ≤ pkt.length →
      P (ip4Rated (checkRateLimit m (rd32 pkt 26) len now) pkt len))
    (passed : rd16 pkt 12 ≠ ETH_P_IP → P ({ m with stats := m.stats.passed }, .pass)) :
    P (ddosFilterFrom m now pkt len) := by
  unfold ddosFilterFrom
  by_cases h₁ : pkt.length < 14
  · rw [if_pos h₁]; exact same fun h => absurd h.2 (by omega)
  rw [if_neg h₁]
  by_cases h₂ : rd16 pkt 12 = ETH_P_IP
  · rw [if_pos h₂]
    by_cases h₃ : pkt.length < 34
    · rw [if_pos h₃]; exact same fun h => absurd h.2 (by omega)
    rw [if_neg h₃]
    by_cases h₄ : checkBlocklist m (rd32 pkt 26) = true
    · rwa [if_pos h₄]
    · rw [if_neg h₄]; exact rated h₂ (by omega)
  rw [if_neg h₂]
  by_cases h₅ : rd16 pkt 12 = ETH_P_IPV6
  · rw [if_pos h₅]
    by_cases h₆ : pkt.length < 54
    · rw [if_pos h₆]; exact same fun h => h₂ h.1
    rw [if_neg h₆]
    by_cases h₇ : (m.blocklistV6.lookup ((pkt.drop 22).take 16)).isSome = true
    · rwa [if_pos h₇]
    · rw [if_neg h₇]; exact passed h₂
  · rw [if_neg h₅]; exact passed h₂

theorem ddosFilterFrom_dropCounted (m : DdosMaps) (now : ℕ) (pkt : Bytes) (len : ℕ) :
    DropCounted m.stats (ddosFilterFrom m now pkt len).1.stats len
      (ddosFilterFrom m now pkt len).2 := by
  have hr : (checkRateLimit m (rd32 pkt 26) len now).1.stats = m.stats := by
    rw [checkRateLimit_eq]
  exact ddosFilterFrom_cases (fun r => DropCounted m.stats r.1.stats len r.2) m now pkt len
    (fun _ => .same _ len) (.blockHit _ len) (fun _ _ => hr ▸ ip4Rated_dropCounted _ pkt len)
    (fun _ => .passed _ len)

/-- What one packet does to the four traffic counters of `xdp_stats`. -/
theorem xdpDdosFilter_stats (m : DdosMaps) (now : ℕ) (pkt : Bytes) :
    DropCounted (m.stats.received (pkt.length % 2 ^ 32)) (xdpDdosFilter m now pkt).1.stats
      (pkt.length % 2 ^ 32) (xdpDdosFilter m now pkt).2 :=
  ddosFilterFrom_dropCounted _ now pkt _

@[simp] theorem UserOp.apply_stats (m : DdosMaps) (op : UserOp) : (op.apply m).stats = m.stats := by
  cases op <;> rfl

/-- The four traffic counters of `xdp_stats` fit in a `__u64`. -/
def StatsFit (s : XdpStats) : Prop :=
  s.packetsReceived < 2 ^ 64 ∧ s.bytesReceived < 2 ^ 64 ∧ s.packetsDropped < 2 ^ 64 ∧
    s.bytesDropped < 2 ^ 64

@[simp] theorem ddosMapsInit_stats : ddosMapsInit.stats = ⟨0, 0, 0, 0, 0, 0, 0, 0⟩ := rfl

theorem run_stats_from {m : DdosMaps} (hm : StatsFit m.stats) (evs : List Event) :
    (run m evs).1.stats.packetsReceived =
        (m.stats.packetsReceived + evs.countP Event.isPacket) % 2 ^ 64 ∧
      (run m evs).1.stats.bytesReceived = (m.stats.bytesReceived + (evs.map Event.len).sum) % 2 ^ 64 ∧
      (run m evs).1.stats.packetsDropped =
        (m.stats.packetsDropped + (run m evs).2.count (some .drop)) % 2 ^ 64 ∧
      (run m evs).1.stats.bytesDropped =
        (m.stats.bytesDropped + (List.zipWith dropLen evs (run m evs).2).sum) % 2 ^ 64 := by
  induction evs generalizing m with
  | nil =>
    obtain ⟨h₁, h₂, h₃, h₄⟩ := hm
    simp only [run, tailLoop_nil, List.countP_nil, List.map_nil, List.sum_nil, List.count_nil,
      List.zipWith_nil_left, Nat.add_zero, Nat.mod_eq_of_lt h₁, Nat.mod_eq_of_lt h₂,
      Nat.mod_eq_of_lt h₃, Nat.mod_eq_of_lt h₄, and_self]
  | cons e evs ih =>
    rw [run, tailLoop_cons, ← run]
    simp only [List.countP_cons, List.map_cons, List.sum_cons, List.count_cons,
      List.zipWith_cons_cons]
    cases e with
    | user op =>
      simpa only [Event.step, UserOp.apply_stats, Event.isPacket, Event.len, dropLen,
        Bool.false_eq_true, ↓reduceIte, beq_iff_eq, reduceCtorEq, Nat.add_zero, Nat.zero_add]
        using ih (m := op.apply m) (by simpa using hm)
    | packet now pkt =>
      obtain ⟨g₁, g₂, g₃, g₄⟩ := hm
      obtain ⟨h₁, h₂, h₃, h₄⟩ := xdpDdosFilter_stats m now pkt
      have hfit : StatsFit (xdpDdosFilter m now pkt).1.stats := by
        have hp : 0 < 2 ^ 64 := Nat.two_pow_pos 64
        rw [StatsFit, h₁, h₂, h₃, h₄]
        split_ifs
        · exact ⟨Nat.mod_lt _ hp, Nat.mod_lt _ hp, Nat.mod_lt _ hp, Nat.mod_lt _ hp⟩
        · exact ⟨Nat.mod_lt _ hp, Nat.mod_lt _ hp, g₃, g₄⟩
      obtain ⟨i₁, i₂, i₃, i₄⟩ := ih hfit
      simp only [Event.step, i₁, i₂, i₃, i₄, h₁, h₂, h₃, h₄, XdpStats.received, Event.isPacket,
        Event.len, dropLen, beq_iff_eq, Option.some.injEq, ↓reduceIte]
      generalize (xdpDdosFilter m now pkt).2 = v
      cases v <;> simp only [↓reduceIte, reduceCtorEq, Nat.mod_add_mod]
      · exact ⟨by rw [Nat.add_right_comm, Nat.add_assoc], by rw [Nat.add_assoc],
          by rw [Nat.add_right_comm, Nat.add_assoc], by rw [Nat.add_assoc]⟩
      · exact ⟨by rw [Nat.add_right_comm, Nat.add_assoc], by rw [Nat.add_assoc], rfl,
          by rw [Nat.zero_add]⟩

/-- The traffic counters of `xdp_stats` count from the moment the program is loaded: over any
run of packets and writes from user space, `packets_received` and `bytes_received` count every
packet and its `pkt_len`, and `packets_dropped` and `bytes_dropped` exactly the packets that got
`XDP_DROP` and their lengths, each modulo `2^64`. -/
theorem run_stats (evs : List Event) :
    (run ddosMapsInit evs).1.stats.packetsReceived = evs.countP Event.isPacket % 2 ^ 64 ∧
      (run ddosMapsInit evs).1.stats.bytesReceived = (evs.map Event.len).sum % 2 ^ 64 ∧
      (run ddosMapsInit evs).1.stats.packetsDropped =
        (run ddosMapsInit evs).2.count (some .drop) % 2 ^ 64 ∧
      (run ddosMapsInit evs).1.stats.bytesDropped =
        (List.zipWith dropLen evs (run ddosMapsInit evs).2).sum % 2 ^ 64 := by
  have h := run_stats_from (m := ddosMapsInit) (by simp [StatsFit, ddosMapsInit_stats]) evs
  simpa only [ddosMapsInit_stats, Nat.zero_add] using h

/-! ### Blocks do not expire

The values of `blocklist` and `blocklist_lpm` are block timestamps, but `check_blocklist` only
asks whether an entry matches, and the program never writes either map. -/

/-- The trie key `(prefixlen, addr)` covers `saddr`: a lookup of `saddr` matches its entry. -/
def covers (k : ℕ × ℕ) (saddr : ℕ) : Bool :=
  k.1 ≤ 32 && saddr / 2 ^ (32 - k.1) == k.2 / 2 ^ (32 - k.1)

/-- `check_blocklist` looks at keys only: the exact address, or a trie key that covers it. -/
theorem checkBlocklist_iff (m : DdosMaps) (saddr : ℕ) :
    checkBlocklist m saddr = true ↔
      saddr ∈ m.blocklist.keys ∨ ∃ k ∈ m.blocklistLpm.keys, covers k saddr = true := by
  simp only [checkBlocklist, lpmMatch, Bool.or_eq_true, HashMap.isSome_lookup_iff, List.any_eq_true,
    HashMap.keys, List.mem_map, exists_exists_and_eq_and, covers]

/-- The events that keep a block of `src`: all but the deletion of its `blocklist` entry and
of a trie prefix that covers it. -/
def Event.keepsBlock (src : ℕ) : Event → Bool
  | .user (.unblock s) => decide (s ≠ src)
  | .user (.unblockNet p a) => !covers (p, a) src
  | _ => true

/-- An IPv4 frame with a whole header from `src`. -/
def Event.fromSource (src : ℕ) : Event → Bool
  | .packet _ pkt => decide (rd16 pkt 12 = ETH_P_IP ∧ 34 ≤ pkt.length ∧ rd32 pkt 26 = src)
  | .user _ => false

theorem xdpDdosFilter_drops_blocked {m : DdosMaps} {now : ℕ} {pkt : Bytes}
    (hip : rd16 pkt 12 = ETH_P_IP) (hl : 34 ≤ pkt.length) (hb : checkBlocklist m (rd32 pkt 26) = true) :
    (xdpDdosFilter m now pkt).2 = .drop := by
  have hb' : checkBlocklist { m with stats := m.stats.received (pkt.length % 2 ^ 32) }
      (rd32 pkt 26) = true := hb
  rw [xdpDdosFilter, ddosFilterFrom, if_neg (by omega), if_pos hip, if_neg (by omega), if_pos hb']

theorem step_keepsBlock {m : DdosMaps} {src : ℕ} (hb : checkBlocklist m src = true)
    {e : Event} (he : e.keepsBlock src = true) :
    checkBlocklist (e.step m).1 src = true ∧
      (e.fromSource src = true → (e.step m).2 = some .drop) := by
  cases e with
  | packet now pkt =>
    obtain ⟨rs, st, h⟩ := xdpDdosFilter_eq m now pkt
    refine ⟨by rw [Event.step, h]; exact hb, fun hs => ?_⟩
    obtain ⟨hip, hl, rfl⟩ := of_decide_eq_true hs
    rw [Event.step, xdpDdosFilter_drops_blocked hip hl hb]
  | user op =>
    refine ⟨?_, fun hs => absurd hs Bool.false_ne_true⟩
    rw [checkBlocklist_iff] at hb ⊢
    cases op with
    | block s u => exact hb.imp_left fun h => HashMap.keys_subset_updateAny _ s u h
    | unblock s =>
      exact hb.imp_left fun h => HashMap.mem_keys_delete h (Ne.symm (of_decide_eq_true he))
    | blockNet p a u =>
      exact hb.imp_right fun ⟨k, hk, hc⟩ => ⟨k, HashMap.keys_subset_updateAny _ (p, a) u hk, hc⟩
    | unblockNet p a =>
      -- the deleted prefix does not cover `src`, so the one that does survives
      refine hb.imp_right fun ⟨k, hk, hc⟩ => ⟨k, HashMap.mem_keys_delete hk fun hka => ?_, hc⟩
      rw [hka] at hc
      simp [Event.keepsBlock, hc] at he
    | setLimit | deleteLimit | block6 | unblock6 => exact hb

/-- Blocks do not expire: from any state in which `check_blocklist` matches `src`, by its exact
entry or by a trie prefix, over any run of packets at any times and writes from user space that
delete neither that entry nor a prefix covering `src`, the match stays and every IPv4 frame from
`src` is dropped, whatever timestamps the entries hold. -/
theorem run_blocks_never_expire {m : DdosMaps} {src : ℕ}
    (hb : checkBlocklist m src = true) (evs : List Event)
    (he : ∀ e ∈ evs, e.keepsBlock src = true) :
    checkBlocklist (run m evs).1 src = true ∧
      List.Forall₂ (fun e o => e.fromSource src = true → o = some .drop) evs (run m evs).2 :=
  tailLoop_forall₂_inv_of_mem (fun s => checkBlocklist s src = true) _ Event.step evs
    (fun _ e h hs => step_keepsBlock hs (he e h)) m hb

/-- Frames from `10.0.0.1` at `10^15` ns and just after, around the deletion of the prefix
`10.1.0.0/16` and a new rate limit. -/
def lateEvents : List Event :=
  [.packet (10 ^ 15) (ip4Frame 0x0A000001 IP_PROTOCOL_UDP), .user (.unblockNet 16 0x0A010000),
    .user (.setLimit 0x0A000001 ⟨1, 0⟩), .packet (10 ^ 15 + 1) (ip4Frame 0x0A000001 IP_PROTOCOL_UDP)]

/-- A source in `10.0.0.0/8`, blocked at timestamp 1, is still dropped days later. -/
theorem run_blocks_never_expire_late :
    checkBlocklist ((UserOp.blockNet 8 0x0A000000 1).apply ddosMapsInit) 0x0A000001 = true ∧
      (∀ e ∈ lateEvents, e.keepsBlock 0x0A000001 = true) ∧
      checkBlocklist (run ((UserOp.blockNet 8 0x0A000000 1).apply ddosMapsInit) lateEvents).1
        0x0A000001 = true ∧
      List.Forall₂ (fun e o => e.fromSource 0x0A000001 = true → o = some .drop) lateEvents
        (run ((UserOp.blockNet 8 0x0A000000 1).apply ddosMapsInit) lateEvents).2 := by
  have hb : checkBlocklist ((UserOp.blockNet 8 0x0A000000 1).apply ddosMapsInit) 0x0A000001 = true := by
    decide
  have he : ∀ e ∈ lateEvents, e.keepsBlock 0x0A000001 = true := by decide
  exact ⟨hb, he, run_blocks_never_expire hb _ he⟩

/-! ### The rate limit holds across a window -/

/-- The events that leave the window of `src`'s entry, started at `t₀`, and its limit in place:
packets less than a second after `t₀`, from any source, and writes from user space to other
sources' limits. -/
def Event.inWindow (src t₀ : ℕ) : Event → Bool
  | .packet now _ => decide (t₀ ≤ now ∧ now - t₀ < 1000000000)
  | .user (.setLimit s _) => decide (s ≠ src)
  | .user (.deleteLimit s) => decide (s ≠ src)
  | .user _ => true

/-- One for an IPv4 frame from `src` that passed. -/
def passCount (src : ℕ) (e : Event) (o : Option XdpAction) : ℕ :=
  if e.fromSource src = true ∧ o = some .pass then 1 else 0

/-- `src` keeps its limit `lim`, and its `rate_state` entry of the window started at `t₀` has
counted at least `k` packets and at most `pps_limit`. -/
def Limited (src t₀ : ℕ) (lim : RateLimit) (k : ℕ) (m : DdosMaps) : Prop :=
  m.rateLimits.lookup src = some lim ∧
    ∃ p b, m.rateState.lookup src = some ⟨p, b, t₀⟩ ∧ k ≤ p ∧ p ≤ lim.ppsLimit

section Window

variable {src t₀ : ℕ} {lim : RateLimit}

theorem Limited.of_lookup {k k' : ℕ} {m m' : DdosMaps} (h : Limited src t₀ lim k m)
    (hl : m'.rateLimits.lookup src = m.rateLimits.lookup src)
    (hs : m'.rateState.lookup src = m.rateState.lookup src) (hk : k' ≤ k) :
    Limited src t₀ lim k' m' := by
  obtain ⟨h₁, p, b, h₂, h₃, h₄⟩ := h
  exact ⟨hl.trans h₁, p, b, hs.trans h₂, hk.trans h₃, h₄⟩

theorem passCount_le_one (e : Event) (o : Option XdpAction) : passCount src e o ≤ 1 := by
  unfold passCount; split_ifs <;> omega

theorem checkRateLimit_lookup_ne (m : DdosMaps) {saddr : ℕ} (h : src ≠ saddr) (pktLen now : ℕ) :
    (checkRateLimit m saddr pktLen now).1.rateState.lookup src = m.rateState.lookup src := by
  rcases checkRateLimit_rateState m saddr pktLen now with h' | h' | ⟨f, h'⟩ <;> rw [h']
  · exact HashMap.lookup_updateAny_ne _ h _
  · rw [HashMap.lookup_modify, if_neg h]

/-- A call of `src` inside its window keeps it `Limited`, with one more packet counted when it
returns 0. -/
theorem checkRateLimit_limited {m : DdosMaps} {k : ℕ} (h : Limited src t₀ lim k m)
    (hp : 0 < lim.ppsLimit) (hlim : lim.ppsLimit < 2 ^ 64) {now : ℕ} (h₁ : t₀ ≤ now)
    (h₂ : now - t₀ < 1000000000) (pktLen : ℕ) :
    Limited src t₀ lim (k + if (checkRateLimit m src pktLen now).2 then 0 else 1)
      (checkRateLimit m src pktLen now).1 := by
  obtain ⟨hl, p, b, hs, hk, hpl⟩ := h
  rw [checkRateLimit_within pktLen hl hs h₁ h₂]
  by_cases hr : (0 < lim.ppsLimit ∧ lim.ppsLimit ≤ p) ∨ (0 < lim.bpsLimit ∧ lim.bpsLimit ≤ b)
  · rw [if_pos hr]
    exact ⟨hl, p, b, hs, by simp only [↓reduceIte, Nat.add_zero]; exact hk, hpl⟩
  · rw [if_neg hr]
    have hpp : p < lim.ppsLimit := by omega
    refine ⟨hl, p + 1, (b + pktLen) % 2 ^ 64, ?_,
      by simp only [Bool.false_eq_true, ↓reduceIte]; omega, hpp⟩
    show (m.rateState.modify src _).lookup src = _
    rw [HashMap.lookup_modify, if_pos rfl, hs]
    simp only [Option.map_some', Option.some.injEq, RateState.mk.injEq, and_true]
    exact Nat.mod_eq_of_lt (by omega)

theorem ip4Rated_maps (r : DdosMaps × Bool) (pkt : Bytes) (len : ℕ) :
    (ip4Rated r pkt len).1.rateLimits = r.1.rateLimits ∧
      (ip4Rated r pkt len).1.rateState = r.1.rateState ∧
      (r.2 = true → (ip4Rated r pkt len).2 = .drop) := by
  unfold ip4Rated
  split_ifs with h
  · exact ⟨rfl, rfl, fun _ => rfl⟩
  · obtain ⟨st, hst⟩ := ip4Tail_eq r.1 pkt len
    exact ⟨by rw [hst], by rw [hst], fun h' => absurd h' h⟩

/-- A packet inside the window keeps `src` `Limited`, counting it when it is an IPv4 frame from
`src` that passes. -/
theorem ddosFilterFrom_limited {m : DdosMaps} {k : ℕ} (h : Limited src t₀ lim k m)
    (hp : 0 < lim.ppsLimit) (hlim : lim.ppsLimit < 2 ^ 64) {now : ℕ} (h₁ : t₀ ≤ now)
    (h₂ : now - t₀ < 1000000000) (pkt : Bytes) (len : ℕ) :
    Limited src t₀ lim (k + passCount src (.packet now pkt) (some (ddosFilterFrom m now pkt len).2))
      (ddosFilterFrom m now pkt len).1 := by
  have hns : ¬(rd16 pkt 12 = ETH_P_IP ∧ 34 ≤ pkt.length) →
      passCount src (.packet now pkt) (some .pass) = 0 := fun hn => by
    simp only [passCount, Event.fromSource, decide_eq_true_eq]
    exact if_neg fun hc => hn ⟨hc.1.1, hc.1.2.1⟩
  apply ddosFilterFrom_cases
    (fun r => Limited src t₀ lim (k + passCount src (.packet now pkt) (some r.2)) r.1)
  · intro hn
    exact h.of_lookup rfl rfl (by simp [hns hn])
  · exact h.of_lookup rfl rfl (by simp [passCount])
  · intro _ _
    obtain ⟨hm₁, hm₂, hdrop⟩ := ip4Rated_maps (checkRateLimit m (rd32 pkt 26) len now) pkt len
    have hlim' : (checkRateLimit m (rd32 pkt 26) len now).1.rateLimits = m.rateLimits := by
      rw [checkRateLimit_eq]
    by_cases hs : rd32 pkt 26 = src
    · have hc := checkRateLimit_limited h hp hlim h₁ h₂ len
      rw [← hs] at hc ⊢
      refine hc.of_lookup (by rw [hm₁]) (by rw [hm₂]) (Nat.add_le_add_left ?_ k)
      split_ifs with hr
      · simp [passCount, hdrop hr]
      · exact passCount_le_one _ _
    · refine h.of_lookup (by rw [hm₁, hlim'])
        (by rw [hm₂]; exact checkRateLimit_lookup_ne _ (Ne.symm hs) _ _) ?_
      simp [passCount, Event.fromSource, hs]
  · intro hn
    exact h.of_lookup rfl rfl (by simp [hns fun h' => hn h'.1])

theorem step_limited {m : DdosMaps} {k : ℕ} (h : Limited src t₀ lim k m) (hp : 0 < lim.ppsLimit)
    (hlim : lim.ppsLimit < 2 ^ 64) {e : Event} (he : e.inWindow src t₀ = true) :
    Limited src t₀ lim (k + passCount src e (e.step m).2) (e.step m).1 := by
  cases e with
  | packet now pkt =>
    obtain ⟨h₁, h₂⟩ := of_decide_eq_true he
    exact ddosFilterFrom_limited (m := { m with stats := m.stats.received (pkt.length % 2 ^ 32) })
      h hp hlim h₁ h₂ pkt (pkt.length % 2 ^ 32)
  | user op =>
    have h₀ : passCount src (.user op) none = 0 := rfl
    rw [Event.step, h₀, Nat.add_zero]
    cases op with
    | setLimit s l =>
      exact h.of_lookup (HashMap.lookup_updateAny_ne _ (Ne.symm (of_decide_eq_true he)) _) rfl le_rfl
    | deleteLimit s =>
      refine h.of_lookup ?_ rfl le_rfl
      show (m.rateLimits.delete s).lookup src = _
      rw [HashMap.lookup_delete, if_neg (Ne.symm (of_decide_eq_true he))]
    | block | unblock | blockNet | unblockNet | block6 | unblock6 => exact h

theorem run_limited {m : DdosMaps} {k : ℕ} (h : Limited src t₀ lim k m) (hp : 0 < lim.ppsLimit)
    (hlim : lim.ppsLimit < 2 ^ 64) (evs : List Event) (he : ∀ e ∈ evs, e.inWindow src t₀ = true) :
    Limited src t₀ lim (k + (List.zipWith (passCount src) evs (run m evs).2).sum) (run m evs).1 := by
  induction evs generalizing m k with
  | nil => exact h
  | cons e evs ih =>
    rw [run, tailLoop_cons, ← run, List.zipWith_cons_cons, List.sum_cons, ← Nat.add_assoc]
    exact ih (step_limited h hp hlim (he e (List.mem_cons_self _ _)))
      fun e' h' => he e' (List.mem_cons_of_mem _ h')

end Window

/-- The rate limit holds across any interleaving: from an entry `st` of `src` under its limit,
over any run inside the window of `st` that leaves `src`'s limit alone, at most
`pps_limit - st.packets` IPv4 frames from `src` pass. -/
theorem run_rate_limited {m : DdosMaps} {src : ℕ} {lim : RateLimit} {st : RateState}
    (hl : m.rateLimits.lookup src = some lim) (hs : m.rateState.lookup src = some st)
    (hp : 0 < lim.ppsLimit) (hst : st.packets ≤ lim.ppsLimit) (hlim : lim.ppsLimit < 2 ^ 64)
    (evs : List Event) (he : ∀ e ∈ evs, e.inWindow src st.lastReset = true) :
    st.packets + (List.zipWith (passCount src) evs (run m evs).2).sum ≤ lim.ppsLimit := by
  obtain ⟨-, p, b, -, hk, hp'⟩ :=
    run_limited ⟨hl, st.packets, st.bytes, hs, le_rfl, hst⟩ hp hlim evs he
  omega

/-- A source limited to two packets a second after its first packet, at time 0. -/
def limitedTwo : DdosMaps :=
  (run ddosMapsInit [.user (.setLimit 0x0A000001 ⟨2, 0⟩),
    .packet 0 (ip4Frame 0x0A000001 IP_PROTOCOL_UDP)]).1

/-- Three more packets of it within the second: one passes. -/
theorem run_rate_limited_two :
    limitedTwo.rateLimits.lookup 0x0A000001 = some ⟨2, 0⟩ ∧
      limitedTwo.rateState.lookup 0x0A000001 = some ⟨1, 34, 0⟩ ∧
      (∀ e ∈ [Event.packet 1 (ip4Frame 0x0A000001 IP_PROTOCOL_UDP),
          .packet 2 (ip4Frame 0x0A000001 IP_PROTOCOL_UDP), .packet 3 (ip4Frame 0x0A000001 IP_PROTOCOL_UDP)],
        e.inWindow 0x0A000001 0 = true) ∧
      1 + (List.zipWith (passCount 0x0A000001) [Event.packet 1 (ip4Frame 0x0A000001 IP_PROTOCOL_UDP),
          .packet 2 (ip4Frame 0x0A000001 IP_PROTOCOL_UDP), .packet 3 (ip4Frame 0x0A000001 IP_PROTOCOL_UDP)]
        (run limitedTwo [.packet 1 (ip4Frame 0x0A000001 IP_PROTOCOL_UDP),
          .packet 2 (ip4Frame 0x0A000001 IP_PROTOCOL_UDP),
          .packet 3 (ip4Frame 0x0A000001 IP_PROTOCOL_UDP)]).2).sum ≤ 2 := by
  have hl : limitedTwo.rateLimits.lookup 0x0A000001 = some ⟨2, 0⟩ := by decide
  have hs : limitedTwo.rateState.lookup 0x0A000001 = some ⟨1, 34, 0⟩ := by decide
  have he : ∀ e ∈ [Event.packet 1 (ip4Frame 0x0A000001 IP_PROTOCOL_UDP),
      .packet 2 (ip4Frame 0x0A000001 IP_PROTOCOL_UDP), .packet 3 (ip4Frame 0x0A000001 IP_PROTOCOL_UDP)],
      e.inWindow 0x0A000001 0 = true := by decide
  exact ⟨hl, hs, he, run_rate_limited hl hs (by decide) (by decide) (by decide) _ he⟩

end OpenSase.DdosFilter
