import OpenSase.Security
import Mathlib.Tactic.NormNum
import Mathlib.Tactic.Linarith
import Mathlib.Algebra.Order.Field.Rat
import Mathlib.Data.List.Chain

/-!
DSCP marking and the token buckets of `node_qos.c`, one global table indexed by
`tenant_id % MAX_TENANT_LIMITERS` and class. The four-packet loop checks the buffer of its
first slot only.
-/
namespace OpenSase.Qos

open Security

def MAX_TENANT_LIMITERS : ℕ := 1024

/-- `qos_to_dscp`: EF, AF31, best effort, AF11 and CS1. -/
def qosToDscp : ℕ → ℕ
  | 0 => 46
  | 1 => 26
  | 2 => 0
  | 3 => 10
  | 4 => 8
  | _ => 0

/-- `apply_dscp`: the class's DSCP into the upper six TOS bits, the ECN bits kept. When the
TOS changes, `ip4_header_checksum_inline` is computed over the old header and stored, and
only then the new TOS. -/
def applyDscp (bs : Bytes) (qosClass : ℕ) : Bytes :=
  let dscp := if qosClass < OPENSASE_QOS_N_CLASSES then qosToDscp qosClass else 0
  let oldTos := byteAt bs 1
  let newTos := (dscp <<< 2 ||| oldTos &&& 3) % 256
  if oldTos ≠ newTos then
    storeBytes (storeBytes bs 10 (be16 (ip4HeaderChecksum bs))) 1 [UInt8.ofNat newTos]
  else bs

/-- The DSCP `apply_dscp` writes for a class: `qos_to_dscp[c]`, or 0 past the table. -/
def classDscp (qosClass : ℕ) : ℕ :=
  if qosClass < OPENSASE_QOS_N_CLASSES then qosToDscp qosClass else 0

theorem classDscp_lt (qosClass : ℕ) : classDscp qosClass < 64 := by
  unfold classDscp qosToDscp
  split_ifs
  · split <;> decide
  · decide

/-- The new TOS as arithmetic: six DSCP bits over the two ECN bits. -/
theorem newTos_eq (d t : ℕ) : d <<< 2 ||| t &&& 3 = d * 4 + t % 4 :=
  calc d <<< 2 ||| t &&& 3 = d * 2 ^ 2 + t % 2 ^ 2 := by
        rw [show (3 : ℕ) = 2 ^ 2 - 1 from rfl, Nat.and_pow_two_sub_one_eq_mod,
          shiftLeft_lor_of_lt _ _ 2 (Nat.mod_lt _ (by decide))]
    _ = d * 4 + t % 4 := by norm_num

/-- `apply_dscp` as a test of the TOS against `dscp * 4 + tos % 4`. -/
theorem applyDscp_eq (bs : Bytes) (qosClass : ℕ) :
    applyDscp bs qosClass =
      if byteAt bs 1 ≠ classDscp qosClass * 4 + byteAt bs 1 % 4 then
        storeBytes (storeBytes bs 10 (be16 (ip4HeaderChecksum bs))) 1
          [UInt8.ofNat (classDscp qosClass * 4 + byteAt bs 1 % 4)]
      else bs := by
  have hd := classDscp_lt qosClass
  unfold classDscp at hd ⊢
  simp only [applyDscp]
  rw [newTos_eq, Nat.mod_eq_of_lt (by omega)]

/-- `apply_dscp` on an IPv4 header with a valid checksum: the TOS becomes
`dscp << 2 | (tos & 3)`, no byte outside the TOS and the checksum field changes, and a second
application with the same class changes nothing. The checksum is computed over the old TOS,
so the result is valid exactly when the TOS did not change. -/
theorem applyDscp_spec (bs : Bytes) (qosClass : ℕ) (hh : 20 ≤ ip4HeaderBytes bs)
    (hl : ip4HeaderBytes bs ≤ bs.length) (hv : Ip4ChecksumValid bs) :
    let r := applyDscp bs qosClass
    byteAt r 1 = classDscp qosClass <<< 2 ||| byteAt bs 1 &&& 3 ∧ r.length = bs.length ∧
      (∀ i, i ≠ 1 → i ≠ 10 → i ≠ 11 → byteAt r i = byteAt bs i) ∧
      applyDscp r qosClass = r ∧ (Ip4ChecksumValid r ↔ byteAt r 1 = byteAt bs 1) := by
  intro r
  have hd := classDscp_lt qosClass
  have ht := byteAt_lt bs 1
  rw [newTos_eq]
  by_cases hch : byteAt bs 1 = classDscp qosClass * 4 + byteAt bs 1 % 4
  · have hr : r = bs := by
      show applyDscp bs qosClass = bs
      rw [applyDscp_eq, if_neg (not_not.mpr hch)]
    rw [hr]
    exact ⟨hch, rfl, fun _ _ _ _ => rfl,
      by rw [applyDscp_eq, if_neg (not_not.mpr hch)], iff_of_true hv rfl⟩
  · have h10 : 10 + (be16 (ip4HeaderChecksum bs)).length ≤ bs.length := by simp; omega
    have h1 : 1 + [UInt8.ofNat (classDscp qosClass * 4 + byteAt bs 1 % 4)].length ≤
        (storeBytes bs 10 (be16 (ip4HeaderChecksum bs))).length := by
      rw [storeBytes_length h10]; simp; omega
    have hr : r = storeBytes (storeBytes bs 10 (be16 (ip4HeaderChecksum bs))) 1
        [UInt8.ofNat (classDscp qosClass * 4 + byteAt bs 1 % 4)] := by
      show applyDscp bs qosClass = _
      rw [applyDscp_eq, if_pos hch]
    have hx : (UInt8.ofNat (classDscp qosClass * 4 + byteAt bs 1 % 4)).toNat =
        classDscp qosClass * 4 + byteAt bs 1 % 4 := by
      rw [byte_toNat_ofNat]; omega
    have hr1 : byteAt r 1 = classDscp qosClass * 4 + byteAt bs 1 % 4 := by
      rw [hr, byteAt_storeBytes h1, if_pos (by simp)]
      simpa using hx
    refine ⟨hr1, by rw [hr, storeBytes_length h1, storeBytes_length h10],
      fun i h₁ h₁₀ h₁₁ => ?_, ?_, iff_of_false ?_ (by rw [hr1]; exact Ne.symm hch)⟩
    · rw [hr, byteAt_storeBytes h1, if_neg (by simp; omega), byteAt_storeBytes h10,
        if_neg (by simp; omega)]
    · rw [applyDscp_eq, hr1, if_neg (by omega)]
    · rw [hr]
      exact not_checksumValid_storeTos (by omega) (by omega) _ (by rw [hx]; exact Ne.symm hch)

/-- `flowA` with its header checksum filled in. -/
def flowAChecked : Bytes := storeBytes flowA 10 (be16 (ip4HeaderChecksum flowA))

theorem applyDscp_spec_realtime :
    20 ≤ ip4HeaderBytes flowAChecked ∧ ip4HeaderBytes flowAChecked ≤ flowAChecked.length ∧
      Ip4ChecksumValid flowAChecked ∧
      let r := applyDscp flowAChecked OPENSASE_QOS_REALTIME
      byteAt r 1 = classDscp OPENSASE_QOS_REALTIME <<< 2 ||| byteAt flowAChecked 1 &&& 3 ∧
        r.length = flowAChecked.length ∧
        (∀ i, i ≠ 1 → i ≠ 10 → i ≠ 11 → byteAt r i = byteAt flowAChecked i) ∧
        applyDscp r OPENSASE_QOS_REALTIME = r ∧ (Ip4ChecksumValid r ↔ byteAt r 1 = byteAt flowAChecked 1) :=
  ⟨by decide, by decide, by decide,
    applyDscp_spec flowAChecked OPENSASE_QOS_REALTIME (by decide) (by decide) (by decide)⟩

/-- `token_bucket_t`. -/
structure TokenBucket where
  tokens : ℚ
  lastUpdate : ℚ
  rateBps : ℚ
  burstBytes : ℚ
  deriving DecidableEq, Inhabited

/-- `init_rate_limiter`: bytes per second from Mbps, a 100 ms burst, a full bucket. -/
def initRateLimiter (rateMbps : ℕ) : TokenBucket :=
  let rateBps := (rateMbps : ℚ) * 1000000 / 8
  ⟨rateBps * (1 / 10), 0, rateBps, rateBps * (1 / 10)⟩

/-- `rate_limit_check`: the verdict and the bucket afterwards. The refill is skipped while
`last_update` is 0, and the bucket's clock moves to `now` whatever the verdict. -/
def rateLimitCheck (tb : TokenBucket) (packetBytes : ℕ) (now : ℚ) : Bool × TokenBucket :=
  let tokens :=
    if 0 < tb.lastUpdate then
      let t := tb.tokens + (now - tb.lastUpdate) * tb.rateBps
      if t > tb.burstBytes then tb.burstBytes else t
    else tb.tokens
  if (packetBytes : ℚ) ≤ tokens then (true, { tb with tokens := tokens - packetBytes, lastUpdate := now })
  else (false, { tb with tokens := tokens, lastUpdate := now })

/-! ### The token bucket over a run of calls -/

/-- The bucket's bounds `0 ≤ tokens ≤ burst_bytes`. -/
def TokenBucket.Bounded (tb : TokenBucket) : Prop := 0 ≤ tb.tokens ∧ tb.tokens ≤ tb.burstBytes

/-- One call keeps the bounds, the rate and the burst, and moves the clock to `now`; the
tokens it keeps plus the bytes it admits are at most the tokens it had plus the refill
`rate * (now - last_update)`, added only while `last_update > 0`. -/
theorem rateLimitCheck_step {tb : TokenBucket} (hb : tb.Bounded) (hr : 0 ≤ tb.rateBps)
    (len : ℕ) {now : ℚ} (ht : 0 < tb.lastUpdate → tb.lastUpdate ≤ now) :
    let r := rateLimitCheck tb len now
    r.2.Bounded ∧ r.2.rateBps = tb.rateBps ∧ r.2.burstBytes = tb.burstBytes ∧
      r.2.lastUpdate = now ∧
      r.2.tokens + (if r.1 then (len : ℚ) else 0) ≤
        tb.tokens + if 0 < tb.lastUpdate then tb.rateBps * (now - tb.lastUpdate) else 0 := by
  obtain ⟨h0, hB⟩ := hb
  simp only [rateLimitCheck]
  generalize hR : (if 0 < tb.lastUpdate then tb.rateBps * (now - tb.lastUpdate) else 0) = R
  generalize hT : (if 0 < tb.lastUpdate then
      (if tb.tokens + (now - tb.lastUpdate) * tb.rateBps > tb.burstBytes then tb.burstBytes
        else tb.tokens + (now - tb.lastUpdate) * tb.rateBps) else tb.tokens) = T
  -- the refilled tokens stay within the bounds and within the tokens plus the refill
  have hTR : 0 ≤ T ∧ T ≤ tb.burstBytes ∧ T ≤ tb.tokens + R := by
    subst hT hR
    split_ifs with h₁ h₂
    · exact ⟨h0.trans hB, le_rfl, by linarith [mul_comm tb.rateBps (now - tb.lastUpdate)]⟩
    · have := mul_nonneg (sub_nonneg.mpr (ht h₁)) hr
      exact ⟨by linarith, not_lt.mp h₂, by linarith [mul_comm tb.rateBps (now - tb.lastUpdate)]⟩
    · simpa using And.intro h0 hB
  obtain ⟨hT0, hTB, hTR⟩ := hTR
  have hl : (0 : ℚ) ≤ len := Nat.cast_nonneg len
  by_cases hv : (len : ℚ) ≤ T
  · rw [if_pos hv]
    exact ⟨⟨sub_nonneg.mpr hv, by dsimp only; linarith⟩, rfl, rfl, rfl,
      by dsimp only; rw [if_pos rfl]; linarith⟩
  · rw [if_neg hv]
    exact ⟨⟨hT0, hTB⟩, rfl, rfl, rfl, by dsimp only; rw [if_neg Bool.false_ne_true]; linarith⟩

/-- A run of `rate_limit_check` on one bucket over calls `(len, now)` in order: the bucket
after them and the bytes of the calls it admitted. -/
def rateLimitRun : TokenBucket → List (ℕ × ℚ) → TokenBucket × ℚ
  | tb, [] => (tb, 0)
  | tb, c :: calls =>
    let r := rateLimitCheck tb c.1 c.2
    let rest := rateLimitRun r.2 calls
    (rest.1, (if r.1 then (c.1 : ℚ) else 0) + rest.2)

/-- The run lemma: from a bounded bucket whose clock, when set, reads `t₀`, over calls at
times `t₀ ≤ t₁ ≤ … ≤ tₙ`, the bucket stays bounded and keeps its burst, and the tokens left
plus the bytes admitted are at most the tokens at the start plus `rate * (tₙ - t₀)`. -/
theorem rateLimitRun_spec (calls : List (ℕ × ℚ)) : ∀ (tb : TokenBucket) (t₀ : ℚ), tb.Bounded →
    0 ≤ tb.rateBps → (0 < tb.lastUpdate → tb.lastUpdate = t₀) →
    List.Chain (· ≤ ·) t₀ (calls.map Prod.snd) →
    (rateLimitRun tb calls).1.Bounded ∧ (rateLimitRun tb calls).1.burstBytes = tb.burstBytes ∧
      (rateLimitRun tb calls).1.tokens + (rateLimitRun tb calls).2 ≤
        tb.tokens + tb.rateBps * ((calls.map Prod.snd).getLastD t₀ - t₀) := by
  induction calls with
  | nil => intro tb t₀ hb _ _ _; exact ⟨hb, rfl, by simp [rateLimitRun]⟩
  | cons c calls ih =>
    intro tb t₀ hb hr hl hc
    rw [List.map_cons, List.chain_cons] at hc
    obtain ⟨hb₁, hr₁, hB₁, hl₁, hstep⟩ :=
      rateLimitCheck_step hb hr c.1 (fun h => (hl h).symm ▸ hc.1)
    obtain ⟨hb', hB', hrun⟩ := ih _ c.2 hb₁ (hr₁ ▸ hr) (fun _ => hl₁) hc.2
    have hrefill : (if 0 < tb.lastUpdate then tb.rateBps * (c.2 - tb.lastUpdate) else 0) ≤
        tb.rateBps * (c.2 - t₀) := by
      split_ifs with h
      · rw [hl h]
      · exact mul_nonneg hr (sub_nonneg.mpr hc.1)
    refine ⟨hb', hB'.trans hB₁, ?_⟩
    simp only [rateLimitRun, List.map_cons, List.getLastD_cons]
    rw [hr₁] at hrun
    linarith

/-- From the bucket `init_rate_limiter` leaves, over calls at nondecreasing times
`t₁ ≤ … ≤ tₙ`: after every call `0 ≤ tokens ≤ burst_bytes`, and the bytes admitted total at
most `burst_bytes + rate_bps * (tₙ - t₁)`. -/
theorem rateLimitCheck_conforms (rateMbps : ℕ) (c₁ : ℕ × ℚ) (calls : List (ℕ × ℚ))
    (hs : List.Chain' (fun a b : ℕ × ℚ => a.2 ≤ b.2) (c₁ :: calls)) :
    (∀ k, 0 ≤ (rateLimitRun (initRateLimiter rateMbps) ((c₁ :: calls).take k)).1.tokens ∧
      (rateLimitRun (initRateLimiter rateMbps) ((c₁ :: calls).take k)).1.tokens ≤
        (initRateLimiter rateMbps).burstBytes) ∧
    (rateLimitRun (initRateLimiter rateMbps) (c₁ :: calls)).2 ≤
      (initRateLimiter rateMbps).burstBytes +
        (initRateLimiter rateMbps).rateBps * ((calls.map Prod.snd).getLastD c₁.2 - c₁.2) := by
  set tb₀ := initRateLimiter rateMbps
  have hm : (0 : ℚ) ≤ rateMbps := Nat.cast_nonneg rateMbps
  have hr : 0 ≤ tb₀.rateBps := show (0 : ℚ) ≤ rateMbps * 1000000 / 8 by linarith
  -- the bucket starts full
  have hfull : tb₀.tokens = tb₀.burstBytes := rfl
  have hb : tb₀.Bounded :=
    ⟨hfull ▸ show (0 : ℚ) ≤ rateMbps * 1000000 / 8 * (1 / 10) by linarith, hfull.le⟩
  have hl : 0 < tb₀.lastUpdate → tb₀.lastUpdate = c₁.2 := fun h => absurd h (lt_irrefl 0)
  have hc : List.Chain (· ≤ ·) c₁.2 ((c₁ :: calls).map Prod.snd) :=
    List.chain_cons.mpr ⟨le_rfl, (List.chain_map Prod.snd).mpr hs⟩
  refine ⟨fun k => ?_, ?_⟩
  · have hck : List.Chain (· ≤ ·) c₁.2 (((c₁ :: calls).take k).map Prod.snd) := by
      rw [List.map_take]
      exact (show List.Chain' (· ≤ ·) (c₁.2 :: (c₁ :: calls).map Prod.snd) from hc).take (k + 1)
    obtain ⟨⟨h0, h1⟩, hB, -⟩ := rateLimitRun_spec _ tb₀ c₁.2 hb hr hl hck
    exact ⟨h0, hB ▸ h1⟩
  · obtain ⟨⟨h0, -⟩, -, hrun⟩ := rateLimitRun_spec _ tb₀ c₁.2 hb hr hl hc
    rw [List.map_cons, List.getLastD_cons, hfull] at hrun
    linarith

theorem rateLimitCheck_conforms_tenMbps :
    List.Chain' (fun a b : ℕ × ℚ => a.2 ≤ b.2) [(1500, 1), (1500, 1), (64, 2)] ∧
      (∀ k, 0 ≤ (rateLimitRun (initRateLimiter 10) ([(1500, 1), (1500, 1), (64, 2)].take k)).1.tokens ∧
        (rateLimitRun (initRateLimiter 10) ([(1500, 1), (1500, 1), (64, 2)].take k)).1.tokens ≤
          (initRateLimiter 10).burstBytes) ∧
      (rateLimitRun (initRateLimiter 10) [(1500, 1), (1500, 1), (64, 2)]).2 ≤
        (initRateLimiter 10).burstBytes + (initRateLimiter 10).rateBps *
          (([(1500, 1), (64, 2)].map Prod.snd).getLastD 1 - 1) :=
  ⟨by norm_num [List.chain'_cons],
    rateLimitCheck_conforms 10 (1500, 1) [(1500, 1), (64, 2)] (by norm_num [List.chain'_cons])⟩

/-- What the node reads and writes besides its buffers: the global `tenant_limiters`, keyed
by `(tenant index, class)`, and the worker's counters. -/
structure QosState where
  limiters : ℕ × ℕ → TokenBucket
  worker : Worker

/-- `tenant_limiters` as the program starts: zero-initialised, so no bucket limits. -/
def qosLimitersInit : ℕ × ℕ → TokenBucket := fun _ => ⟨0, 0, 0, 0⟩

/-- The parsed arguments of `opensase qos rate-limit tenant <id> class <c> rate <mbps>`, with
the command's defaults. -/
structure QosConfigArgs where
  tenantId : ℕ := 0
  rateMbps : ℕ := 100
  qosClass : ℕ := OPENSASE_QOS_SCAVENGER
  deriving DecidableEq, Repr

/-- `opensase_qos_config_fn` on the limiter table. -/
def opensaseQosConfigFn (lim : ℕ × ℕ → TokenBucket) (c : QosConfigArgs) :
    Except String (ℕ × ℕ → TokenBucket) :=
  if c.tenantId ≥ MAX_TENANT_LIMITERS then .error "tenant_id too large"
  else if c.qosClass ≥ OPENSASE_QOS_N_CLASSES then .error "invalid qos class"
  else .ok (Function.update lim (c.tenantId, c.qosClass) (initRateLimiter c.rateMbps))

/-- `opensase_qos_next_t`. -/
inductive QosNext where
  | ip4Lookup
  | wireguard
  | drop
  deriving DecidableEq, Repr

/-- The `n_next_nodes` of the node's registration: one past the last `QosNext` value. -/
def OPENSASE_QOS_N_NEXT : ℕ := 3

section Node

variable (now : ℚ)

/-- The buffer after `apply_dscp` with its own class. -/
def qosMark (b : Buffer) : Buffer := { b with data := applyDscp b.data b.meta.qosClass }

/-- `w->bytes_processed += n`. -/
def addBytes (s : QosState) (n : ℕ) : QosState :=
  { s with worker := { s.worker with bytesProcessed := (s.worker.bytesProcessed + n) % 2 ^ 64 } }

/-- The bucket a buffer of the scavenger class is checked against. -/
def scavengerKey (b : Buffer) : ℕ × ℕ :=
  (b.meta.tenantId % MAX_TENANT_LIMITERS, OPENSASE_QOS_SCAVENGER)

/-- The rate check of the buffer in slot 0 of a four-packet iteration, of length `len`:
for the scavenger class with a configured bucket, a failed `rate_limit_check` sends it to
`error-drop`, sets `OPENSASE_FLAG_RATE_LIMITED` and counts a dropped packet. -/
def scavengerCheck (s : QosState) (b : Buffer) (len : ℕ) : QosState × (Buffer × QosNext) :=
  let tb := s.limiters (scavengerKey b)
  if b.meta.qosClass = OPENSASE_QOS_SCAVENGER ∧ 0 < tb.rateBps then
    let r := rateLimitCheck tb len now
    let lim := Function.update s.limiters (scavengerKey b) r.2
    if r.1 then ({ s with limiters := lim }, (b, .ip4Lookup))
    else
      ({ limiters := lim,
         worker := { s.worker with packetsDropped := (s.worker.packetsDropped + 1) % 2 ^ 64 } },
        (b.withMeta { b.meta with flags := b.meta.flags ||| OPENSASE_FLAG_RATE_LIMITED }, .drop))
  else (s, (b, .ip4Lookup))

/-- One iteration of the four-packet loop: the four markings, the byte count, then the rate
check of slot 0 alone. -/
def qosQuad (s : QosState) (b0 b1 b2 b3 : Buffer) : QosState × List (Buffer × QosNext) :=
  let s1 := addBytes s (b0.lengthInChain + b1.lengthInChain + b2.lengthInChain + b3.lengthInChain)
  let r := scavengerCheck now s1 (qosMark b0) b0.lengthInChain
  (r.1, [r.2, (qosMark b1, .ip4Lookup), (qosMark b2, .ip4Lookup), (qosMark b3, .ip4Lookup)])

/-- One iteration of the tail loop: marking and byte count, no rate check. -/
def qosOne (s : QosState) (b : Buffer) : QosState × (Buffer × QosNext) :=
  (addBytes s b.lengthInChain, (qosMark b, .ip4Lookup))

/-- The `opensase-qos` node on one frame. -/
def opensaseQosNode (s : QosState) (frame : List Buffer) : QosState × List (Buffer × QosNext) :=
  vectorLoop (qosQuad now) qosOne s frame

/-- What the node does to a buffer in a given slot: slot 0 of a four-packet iteration is
the only one checked. -/
def qosSlotted (s : QosState) (x : Buffer × Option (Fin 4)) : QosState × (Buffer × QosNext) :=
  if x.2 = some 0 then scavengerCheck now (addBytes s x.1.lengthInChain) (qosMark x.1) x.1.lengthInChain
  else qosOne s x.1

end Node

/-- A run of the node: frame after frame, each at its own `vlib_time_now`. -/
def qosRun (s : QosState) (frames : List (ℚ × List Buffer)) :
    QosState × List (List (Buffer × QosNext)) :=
  tailLoop (fun s f => opensaseQosNode f.1 s f.2) s frames

/-! ### The node as a loop over slots -/

section Slots

variable (now : ℚ)

@[simp] theorem addBytes_limiters (s : QosState) (n : ℕ) : (addBytes s n).limiters = s.limiters :=
  rfl

theorem addBytes_addBytes (s : QosState) (m n : ℕ) :
    addBytes (addBytes s m) n = addBytes s (m + n) := by
  simp only [addBytes, Nat.mod_add_mod, Nat.add_assoc]

@[simp] theorem qosMark_meta (b : Buffer) : (qosMark b).meta = b.meta := rfl

/-- The rate check neither reads nor writes `bytes_processed`. -/
theorem scavengerCheck_addBytes (s : QosState) (b : Buffer) (len n : ℕ) :
    scavengerCheck now (addBytes s n) b len =
      (addBytes (scavengerCheck now s b len).1 n, (scavengerCheck now s b len).2) := by
  dsimp only [scavengerCheck, addBytes_limiters]
  split_ifs <;> rfl

theorem qosQuad_eq_tailLoop (s : QosState) (b0 b1 b2 b3 : Buffer) :
    qosQuad now s b0 b1 b2 b3 =
      tailLoop (qosSlotted now) s [(b0, some 0), (b1, some 1), (b2, some 2), (b3, some 3)] := by
  simp [qosQuad, qosSlotted, qosOne, tailLoop, scavengerCheck_addBytes, addBytes_addBytes,
    Nat.add_assoc]

/-- The node is the slot-tagged tail loop on every frame. -/
theorem opensaseQosNode_eq_slotted (s : QosState) (frame : List Buffer) :
    opensaseQosNode now s frame = tailLoop (qosSlotted now) s (withSlots frame) :=
  vectorLoop_eq_tailLoop_withSlots _ _ _ (qosQuad_eq_tailLoop now) (fun _ _ => rfl) s frame

/-- Only the buffer in slot 0 of a four-packet iteration can be dropped. -/
theorem opensaseQosNode_unchecked_forwarded (s : QosState) (frame : List Buffer) :
    List.Forall₂ (fun x o => x.2 ≠ some 0 → o.2 = .ip4Lookup) (withSlots frame)
      (opensaseQosNode now s frame).2 := by
  rw [opensaseQosNode_eq_slotted]
  exact tailLoop_forall₂ _ _ (fun s x hx => by simp [qosSlotted, hx, qosOne]) s _

end Slots

/-! ### Buffers the bucket never sees -/

/-- `opensase qos rate-limit tenant 1 rate 1`, the class defaulting to scavenger. -/
def scavengerOneMbps : QosConfigArgs := { tenantId := 1, rateMbps := 1 }

/-- A 20000-byte UDP datagram of tenant 1 in the scavenger class. -/
def bulkTransfer : Buffer :=
  { data := udpDatagram 0x0A000001 0x0A000002 1000 80 (List.replicate 19972 0),
    meta := { (default : PacketMeta) with tenantId := 1, qosClass := OPENSASE_QOS_SCAVENGER } }

/-- With tenant 1's scavenger bucket set to 1 Mbps (a 12500-byte burst), a frame holding
only a 20000-byte scavenger buffer of tenant 1 is forwarded, at any time and on any
worker: the tail loop never consults the bucket. -/
theorem opensaseQosNode_tail_unlimited (w : Worker) (now : ℚ) :
    ∃ lim, opensaseQosConfigFn qosLimitersInit scavengerOneMbps = .ok lim ∧
      (opensaseQosNode now ⟨lim, w⟩ [bulkTransfer]).2.map Prod.snd = [.ip4Lookup] ∧
      (lim (1, OPENSASE_QOS_SCAVENGER)).burstBytes +
          (lim (1, OPENSASE_QOS_SCAVENGER)).rateBps * (now - now) <
        bulkTransfer.lengthInChain := by
  refine ⟨_, rfl, rfl, ?_⟩
  simp only [scavengerOneMbps, Function.update_same, initRateLimiter, bulkTransfer,
    Buffer.lengthInChain, udpDatagram_length, List.length_replicate, sub_self, mul_zero]
  norm_num

/-! ### Tenants sharing a bucket row -/

/-- What tenant `a`'s buffers got in each frame of a run: the next node and the
rate-limited flag. -/
def verdictsOf (a : ℕ) (outs : List (List (Buffer × QosNext))) : List (List (QosNext × ℕ)) :=
  outs.map fun frame => (frame.filter fun o => o.1.meta.tenantId == a).map
    fun o => (o.2, o.1.meta.flags &&& OPENSASE_FLAG_RATE_LIMITED)

/-- A run with tenant `b`'s buffers deleted. -/
def withoutTenant (b : ℕ) (frames : List (ℚ × List Buffer)) : List (ℚ × List Buffer) :=
  frames.map fun f => (f.1, f.2.filter fun x => x.meta.tenantId != b)

/-- The isolation asked of the node for tenants `a` and `b`: two runs from one state whose
frames agree once `b`'s buffers are deleted give `a`'s buffers the same verdicts. -/
def TenantIsolated (a b : ℕ) : Prop :=
  ∀ (s : QosState) (run run' : List (ℚ × List Buffer)),
    withoutTenant b run = withoutTenant b run' →
    verdictsOf a (qosRun s run).2 = verdictsOf a (qosRun s run').2

/-- A state whose scavenger bucket in row 1 holds `tokens`, refilled at 1 byte per second. -/
def limitedState (tokens : ℚ) : QosState :=
  ⟨Function.update qosLimitersInit (1, OPENSASE_QOS_SCAVENGER) ⟨tokens, 0, 1, tokens⟩,
    opensaseWorkerInit 0⟩

/-- A 28-byte scavenger datagram of tenant `t`. -/
def scavengerOf (t : ℕ) : Buffer :=
  { data := flowA, meta := { (default : PacketMeta) with tenantId := t, qosClass := OPENSASE_QOS_SCAVENGER } }

/-- A best-effort datagram of tenant 7. -/
def bestEffort : Buffer :=
  { data := flowA, meta := { (default : PacketMeta) with tenantId := 7, qosClass := OPENSASE_QOS_DEFAULT } }

/-- Tenant 2's buffers, in another bucket row than tenant 1's, still change tenant 1's
verdicts: deleting tenant 2's buffer moves tenant 1's into the checked slot, where it is
dropped. -/
theorem tenants_not_isolated : ¬ TenantIsolated 1 2 := by
  intro h
  have hA : flowA.length = 28 := rfl
  have drop20 : rateLimitCheck ⟨20, 0, 1, 20⟩ 28 1 = (false, ⟨20, 1, 1, 20⟩) := by
    norm_num [rateLimitCheck]
  have := h (limitedState 20)
    [(1, [scavengerOf 2, scavengerOf 1, bestEffort, bestEffort, bestEffort])]
    [(1, [scavengerOf 1, bestEffort, bestEffort, bestEffort])] (by decide)
  simp [verdictsOf, qosRun, tailLoop, limitedState, scavengerOf, bestEffort, OPENSASE_QOS_SCAVENGER,
    OPENSASE_QOS_DEFAULT, opensaseQosNode_eq_slotted, qosSlotted, qosOne, scavengerCheck,
    Buffer.lengthInChain, hA, scavengerKey, MAX_TENANT_LIMITERS, qosLimitersInit, drop20] at this

/-! ### Isolation of tenants in different bucket rows -/

/-- Buffers at one position of two runs agree for tenant `a`: the same buffer, or neither
is of a tenant in `a`'s bucket row. -/
def AgreeFor (a : ℕ) (b b' : Buffer) : Prop :=
  b = b' ∨ (b.meta.tenantId % MAX_TENANT_LIMITERS ≠ a % MAX_TENANT_LIMITERS ∧
    b'.meta.tenantId % MAX_TENANT_LIMITERS ≠ a % MAX_TENANT_LIMITERS)

instance (a : ℕ) : DecidableRel (AgreeFor a) := fun _ _ => inferInstanceAs (Decidable (_ ∨ _))

/-- Two states hold the same buckets in `a`'s row. -/
def SameRow (a : ℕ) (s s' : QosState) : Prop :=
  ∀ c, s.limiters (a % MAX_TENANT_LIMITERS, c) = s'.limiters (a % MAX_TENANT_LIMITERS, c)

section Isolation

variable (now : ℚ) (a : ℕ)

/-- The rate check writes only the buffer's own bucket. -/
theorem scavengerCheck_limiters_of_ne (s : QosState) (b : Buffer) (len : ℕ) {k : ℕ × ℕ}
    (hk : k ≠ scavengerKey b) : (scavengerCheck now s b len).1.limiters k = s.limiters k := by
  dsimp only [scavengerCheck]
  split_ifs <;> simp [Function.update_noteq hk]

/-- The rate check reads only the buffer's own bucket. -/
theorem scavengerCheck_congr {s s' : QosState} (b : Buffer) (len : ℕ)
    (h : s.limiters (scavengerKey b) = s'.limiters (scavengerKey b)) :
    (scavengerCheck now s b len).2 = (scavengerCheck now s' b len).2 ∧
      (scavengerCheck now s b len).1.limiters (scavengerKey b) =
        (scavengerCheck now s' b len).1.limiters (scavengerKey b) := by
  dsimp only [scavengerCheck]
  rw [h]
  split_ifs <;> simp [h]

@[simp] theorem qosSlotted_tenantId (s : QosState) (x : Buffer × Option (Fin 4)) :
    (qosSlotted now s x).2.1.meta.tenantId = x.1.meta.tenantId := by
  unfold qosSlotted
  split
  · dsimp only [scavengerCheck]
    split_ifs <;> rfl
  · rfl

/-- A buffer outside `a`'s row leaves the row as it was. -/
theorem qosSlotted_row_of_ne (s : QosState) (x : Buffer × Option (Fin 4))
    (hx : x.1.meta.tenantId % MAX_TENANT_LIMITERS ≠ a % MAX_TENANT_LIMITERS) (c : ℕ) :
    (qosSlotted now s x).1.limiters (a % MAX_TENANT_LIMITERS, c) =
      s.limiters (a % MAX_TENANT_LIMITERS, c) := by
  unfold qosSlotted
  split
  · rw [scavengerCheck_limiters_of_ne _ _ _ _ (by simp [scavengerKey, Ne.symm hx])]; rfl
  · rfl

/-- A buffer of `a`'s row, from states with the same row, gets the same output and leaves
the same row. -/
theorem qosSlotted_congr {s s' : QosState} (hs : SameRow a s s') (x : Buffer × Option (Fin 4))
    (hx : x.1.meta.tenantId % MAX_TENANT_LIMITERS = a % MAX_TENANT_LIMITERS) :
    SameRow a (qosSlotted now s x).1 (qosSlotted now s' x).1 ∧
      (qosSlotted now s x).2 = (qosSlotted now s' x).2 := by
  have hkey : scavengerKey (qosMark x.1) = (a % MAX_TENANT_LIMITERS, OPENSASE_QOS_SCAVENGER) := by
    simp [scavengerKey, hx]
  unfold qosSlotted
  split
  · obtain ⟨ho, hl⟩ := @scavengerCheck_congr now (addBytes s x.1.lengthInChain)
      (addBytes s' x.1.lengthInChain) (qosMark x.1) x.1.lengthInChain (by rw [hkey]; exact hs _)
    refine ⟨fun c => ?_, ho⟩
    by_cases hc : c = OPENSASE_QOS_SCAVENGER
    · subst hc; rw [← hkey]; exact hl
    · rw [scavengerCheck_limiters_of_ne _ _ _ _ (by rw [hkey]; simp [hc]),
        scavengerCheck_limiters_of_ne _ _ _ _ (by rw [hkey]; simp [hc])]
      exact hs c
  · exact ⟨hs, rfl⟩

/-- Step lemma: buffers that agree for `a`, in the same slot, keep `a`'s row equal and give
`a`'s buffer the same output. -/
theorem qosSlotted_agree {s s' : QosState} (hs : SameRow a s s') {x x' : Buffer × Option (Fin 4)}
    (hx : AgreeFor a x.1 x'.1 ∧ x.2 = x'.2) :
    SameRow a (qosSlotted now s x).1 (qosSlotted now s' x').1 ∧
      ((qosSlotted now s x).2.1.meta.tenantId = a →
        (qosSlotted now s x).2 = (qosSlotted now s' x').2) := by
  obtain ⟨b, sl⟩ := x
  obtain ⟨b', sl'⟩ := x'
  obtain ⟨hab, rfl : sl = sl'⟩ := hx
  by_cases hk : b.meta.tenantId % MAX_TENANT_LIMITERS = a % MAX_TENANT_LIMITERS
  · obtain rfl : b = b' := hab.resolve_right fun h => h.1 hk
    exact ⟨(qosSlotted_congr now a hs _ hk).1, fun _ => (qosSlotted_congr now a hs _ hk).2⟩
  · have hk' : b'.meta.tenantId % MAX_TENANT_LIMITERS ≠ a % MAX_TENANT_LIMITERS := by
      rcases hab with rfl | h
      exacts [hk, h.2]
    refine ⟨fun c => ?_, fun ht => absurd (by rw [← ht, qosSlotted_tenantId]) hk⟩
    rw [qosSlotted_row_of_ne now a _ _ hk, qosSlotted_row_of_ne now a _ _ hk']
    exact hs c

/-- Frame lemma: frames that agree for `a` position by position, from states with the same
row, keep the row equal and give `a`'s buffers the same outputs. -/
theorem opensaseQosNode_agree {s s' : QosState} (hs : SameRow a s s') {frame frame' : List Buffer}
    (h : List.Forall₂ (AgreeFor a) frame frame') :
    SameRow a (opensaseQosNode now s frame).1 (opensaseQosNode now s' frame').1 ∧
      List.Forall₂ (fun o o' => o.1.meta.tenantId = a → o = o')
        (opensaseQosNode now s frame).2 (opensaseQosNode now s' frame').2 := by
  rw [opensaseQosNode_eq_slotted, opensaseQosNode_eq_slotted]
  exact tailLoop_rel (SameRow a) _ _ (qosSlotted now)
    (fun _ _ _ _ hs hx => qosSlotted_agree now a hs hx) (withSlots_forall₂ h) hs

end Isolation

/-- Tenants in different bucket rows cannot affect each other: over two runs from states
with the same buckets in `a`'s row, whose frames come at the same times and agree position
by position except at buffers of tenants outside `a`'s row, every buffer of `a` gets the
same output (next node, flags and DSCP marking) in both runs. -/
theorem qosRun_noninterference (a : ℕ) {s s' : QosState} (hs : SameRow a s s')
    {run run' : List (ℚ × List Buffer)}
    (h : List.Forall₂ (fun f f' => f.1 = f'.1 ∧ List.Forall₂ (AgreeFor a) f.2 f'.2) run run') :
    List.Forall₂ (List.Forall₂ (fun o o' => o.1.meta.tenantId = a → o = o'))
      (qosRun s run).2 (qosRun s' run').2 :=
  (tailLoop_rel (SameRow a) _ _ _
    (fun _ _ f _ hs hf => hf.1 ▸ opensaseQosNode_agree f.1 a hs hf.2) h hs).2

/-- Tenant 2's buffer replaced by a best-effort one in slot 0, ahead of tenant 1's. -/
theorem qosRun_noninterference_replaced :
    SameRow 1 (limitedState 20) (limitedState 20) ∧
    List.Forall₂ (fun f f' => f.1 = f'.1 ∧ List.Forall₂ (AgreeFor 1) f.2 f'.2)
      [(1, [scavengerOf 2, scavengerOf 1, bestEffort, bestEffort])]
      [(1, [bestEffort, scavengerOf 1, bestEffort, bestEffort])] ∧
    List.Forall₂ (List.Forall₂ (fun o o' => o.1.meta.tenantId = 1 → o = o'))
      (qosRun (limitedState 20) [(1, [scavengerOf 2, scavengerOf 1, bestEffort, bestEffort])]).2
      (qosRun (limitedState 20) [(1, [bestEffort, scavengerOf 1, bestEffort, bestEffort])]).2 :=
  ⟨fun _ => rfl, by decide, qosRun_noninterference 1 (fun _ => rfl) (by decide)⟩

end OpenSase.Qos
