import OpenSase.Security

/-!
The DLP node of `node_dlp.c` built without Hyperscan: `get_payload`, the card and SSN scan of
`dlp_simple_scan` against patterns stated over the bytes, and the node's drops and counters.
-/
namespace OpenSase.Dlp

open Security

def OPENSASE_DLP_MAX_MATCH_DEPTH : ℕ := 4096

def OPENSASE_FLAG_DLP_INSPECTED : ℕ := 2 ^ 0

/-- `dlp_category_t`: the two categories the fall-back scanner counts. -/
def DLP_CATEGORY_CREDIT_CARD : ℕ := 0

def DLP_CATEGORY_SSN : ℕ := 1

/-! ### The payload -/

/-- The L4 header length `get_payload` uses: `tcp_header_bytes` for TCP, the eight bytes
of `udp_header_t` for UDP, and none (the `NULL` return) for other protocols. -/
def l4HeaderBytes (bs : Bytes) : Option ℕ :=
  if ipProtocol bs = IP_PROTOCOL_TCP then some (tcpHeaderBytes bs (ip4HeaderBytes bs))
  else if ipProtocol bs = IP_PROTOCOL_UDP then some 8 else none

/-- `get_payload`: the payload's offset from the IP header (`none` for `NULL`) and
`*payload_len`, the `u32` difference `total_len - ip_hdr_len - l4_hdr_len` clamped to
`OPENSASE_DLP_MAX_MATCH_DEPTH`. -/
def getPayload (bs : Bytes) : Option ℕ × ℕ :=
  match l4HeaderBytes bs with
  | none => (none, 0)
  | some l4HdrLen =>
    let payloadLen := subU32 (subU32 (ipLength bs) (ip4HeaderBytes bs)) l4HdrLen
    (some (ip4HeaderBytes bs + l4HdrLen), min payloadLen OPENSASE_DLP_MAX_MATCH_DEPTH)

theorem l4HeaderBytes_le {bs : Bytes} {l4 : ℕ} (h : l4HeaderBytes bs = some l4) : l4 ≤ 60 := by
  unfold l4HeaderBytes at h
  split_ifs at h <;> cases h
  · exact tcpHeaderBytes_le _ _
  · decide

/-- With headers that fit the total length, the payload length is the rest of the
datagram, clamped. -/
theorem getPayload_of_le {bs : Bytes} {l4 : ℕ} (hl4 : l4HeaderBytes bs = some l4)
    (h : ip4HeaderBytes bs + l4 ≤ ipLength bs) :
    getPayload bs = (some (ip4HeaderBytes bs + l4),
      min (ipLength bs - ip4HeaderBytes bs - l4) OPENSASE_DLP_MAX_MATCH_DEPTH) := by
  have hT : ipLength bs < 2 ^ 16 := rd16_lt bs 2
  have hIP : subU32 (ipLength bs) (ip4HeaderBytes bs) = ipLength bs - ip4HeaderBytes bs :=
    subU32_of_le (by omega) (by omega)
  rw [getPayload, hl4]
  dsimp only
  rw [hIP, subU32_of_le (by omega) (by omega)]

/-- With headers that claim more than the total length, the `u32` subtraction wraps and
the clamp makes the payload length 4096. -/
theorem getPayload_of_lt {bs : Bytes} {l4 : ℕ} (hl4 : l4HeaderBytes bs = some l4)
    (h : ipLength bs < ip4HeaderBytes bs + l4) :
    getPayload bs = (some (ip4HeaderBytes bs + l4), OPENSASE_DLP_MAX_MATCH_DEPTH) := by
  have hT : ipLength bs < 2 ^ 16 := rd16_lt bs 2
  have hI := ip4HeaderBytes_le bs
  have hL := l4HeaderBytes_le hl4
  rw [getPayload, hl4]
  dsimp only
  rcases Nat.lt_or_ge (ipLength bs) (ip4HeaderBytes bs) with hi | hi
  · rw [subU32_of_lt hi (by omega), subU32_of_le (by omega) (by omega)]
    unfold OPENSASE_DLP_MAX_MATCH_DEPTH; congr 1; omega
  · rw [subU32_of_le hi (by omega), subU32_of_lt (by omega) (by omega)]
    unfold OPENSASE_DLP_MAX_MATCH_DEPTH; congr 1; omega

/-! ### The fall-back scanner -/

/-- `dlp_match_context_t`: the match count and the count per category. -/
structure DlpMatchContext where
  matchCount : ℕ
  matchCategories : ℕ → ℕ

/-- The zeroed context `{0}` each buffer starts from. -/
def DlpMatchContext.zero : DlpMatchContext := ⟨0, fun _ => 0⟩

/-- `k` matches of category `cat`: `match_count` and `match_categories[cat]` both grow by
`k`. One match of the scanner is `k = 1`. -/
def DlpMatchContext.addHits (ctx : DlpMatchContext) (cat k : ℕ) : DlpMatchContext :=
  { matchCount := ctx.matchCount + k
    matchCategories := Function.update ctx.matchCategories cat (ctx.matchCategories cat + k) }

theorem DlpMatchContext.addHits_add (ctx : DlpMatchContext) (cat a b : ℕ) :
    (ctx.addHits cat a).addHits cat b = ctx.addHits cat (a + b) := by
  simp only [addHits, Function.update_same, Function.update_idem, Nat.add_assoc]

@[simp] theorem DlpMatchContext.addHits_zero (ctx : DlpMatchContext) (cat : ℕ) :
    ctx.addHits cat 0 = ctx := by
  simp only [addHits, Nat.add_zero, Function.update_eq_self]

/-- `data[i] >= '0' && data[i] <= '9'`. -/
def isDigit (c : UInt8) : Bool := 48 ≤ c.toNat && c.toNat ≤ 57

/-- One byte of the first loop of `dlp_simple_scan`, on `consecutive_digits` and the
context: a digit counts, and the 13th to 19th digit of a run each record a card match; a
space or a dash leaves the count; any other byte resets it. -/
def cardStep (s : ℕ × DlpMatchContext) (c : UInt8) : ℕ × DlpMatchContext :=
  if isDigit c then
    let consecutiveDigits := s.1 + 1
    (consecutiveDigits, if 13 ≤ consecutiveDigits ∧ consecutiveDigits ≤ 19 then
      s.2.addHits DLP_CATEGORY_CREDIT_CARD 1 else s.2)
  else if c ≠ 32 ∧ c ≠ 45 then (0, s.2) else s

/-- The test of the second loop at index `i`: `DDD-DD-DDDD` at `data[i..i+10]`. -/
def ssnAt (data : Bytes) (i : ℕ) : Bool :=
  let d := fun k => isDigit (data.getD (i + k) 0)
  d 0 && d 1 && d 2 && data.getD (i + 3) 0 == 45 && d 4 && d 5 && data.getD (i + 6) 0 == 45 &&
    d 7 && d 8 && d 9 && d 10

/-- One index of the second loop. -/
def ssnStep (data : Bytes) (ctx : DlpMatchContext) (i : ℕ) : DlpMatchContext :=
  if ssnAt data i then ctx.addHits DLP_CATEGORY_SSN 1 else ctx

/-- `dlp_simple_scan (data, len, ctx)` with `len = data.length`: the digit loop over every
byte, then the SSN loop over the `i` with `i + 10 < len`. -/
def dlpSimpleScan (data : Bytes) (ctx : DlpMatchContext) : DlpMatchContext :=
  (List.range (data.length - 10)).foldl (ssnStep data) (data.foldl cardStep (0, ctx)).2

/-! ### The patterns the scanner looks for -/

/-- A byte a card number may hold: a digit, `' '` or `'-'`. -/
def CardByte (c : UInt8) : Prop := isDigit c = true ∨ c = 32 ∨ c = 45

/-- A card pattern: a contiguous run of digits, spaces and dashes holding at least 13
digits. -/
def CardPattern (xs : Bytes) : Prop :=
  ∃ run, run <:+: xs ∧ (∀ c ∈ run, CardByte c) ∧ 13 ≤ run.countP isDigit

/-- An SSN pattern: eleven bytes `DDD-DD-DDDD`, dashes at places 3 and 6 and digits
elsewhere. -/
def SsnPattern (xs : Bytes) : Prop :=
  ∃ i, i + 11 ≤ xs.length ∧ ∀ k < 11,
    if k = 3 ∨ k = 6 then xs.getD (i + k) 0 = 45 else isDigit (xs.getD (i + k) 0) = true

/-- A run at the start of `xs` that, after `n` digits already counted, reaches 13 digits. -/
def CardPrefix (n : ℕ) (xs : Bytes) : Prop :=
  ∃ run, run <+: xs ∧ (∀ c ∈ run, CardByte c) ∧ 13 ≤ n + run.countP isDigit

theorem cardPrefix_nil (n : ℕ) : CardPrefix n [] ↔ 13 ≤ n := by
  constructor
  · rintro ⟨run, hp, -, hk⟩
    rw [List.prefix_nil.mp hp] at hk
    exact hk
  · exact fun hn => ⟨[], List.nil_prefix, by simp, hn⟩

theorem cardPrefix_cons (n : ℕ) (c : UInt8) (cs : Bytes) :
    CardPrefix n (c :: cs) ↔
      13 ≤ n ∨ CardByte c ∧ CardPrefix (n + if isDigit c then 1 else 0) cs := by
  constructor
  · rintro ⟨run, hp, hrun, hk⟩
    rcases List.prefix_cons_iff.mp hp with rfl | ⟨t, rfl, ht⟩
    · exact Or.inl hk
    · refine Or.inr ⟨hrun c (List.mem_cons_self _ _), t, ht,
        fun c' hc' => hrun c' (List.mem_cons_of_mem _ hc'), ?_⟩
      rw [List.countP_cons] at hk
      omega
  · rintro (hn | ⟨hc, t, ht, hrun, hk⟩)
    · exact ⟨[], List.nil_prefix, by simp, hn⟩
    · refine ⟨c :: t, List.cons_prefix_cons.mpr ⟨rfl, ht⟩, ?_, ?_⟩
      · exact List.forall_mem_cons.mpr ⟨hc, hrun⟩
      · rw [List.countP_cons]
        omega

theorem cardPrefix_mono {n m : ℕ} (h : n ≤ m) {xs : Bytes} :
    CardPrefix n xs → CardPrefix m xs :=
  fun ⟨run, hp, hrun, hk⟩ => ⟨run, hp, hrun, by omega⟩

theorem cardPattern_of_cardPrefix {xs : Bytes} : CardPrefix 0 xs → CardPattern xs :=
  fun ⟨run, hp, hrun, hk⟩ => ⟨run, hp.isInfix, hrun, by omega⟩

theorem not_cardPattern_nil : ¬ CardPattern [] := by
  rintro ⟨run, hi, -, hk⟩
  rw [List.infix_nil.mp hi] at hk
  exact absurd hk (by decide)

theorem cardPattern_cons (c : UInt8) (cs : Bytes) :
    CardPattern (c :: cs) ↔ CardPrefix 0 (c :: cs) ∨ CardPattern cs := by
  simp only [CardPattern, CardPrefix, List.infix_cons_iff, or_and_right, exists_or,
    Nat.zero_add]

/-! ### The scanner finds exactly the patterns -/

/-- The digit loop records card matches only. -/
theorem foldl_cardStep_addHits (cs : Bytes) (s : ℕ × DlpMatchContext) :
    ∃ k, (cs.foldl cardStep s).2 = s.2.addHits DLP_CATEGORY_CREDIT_CARD k := by
  induction cs generalizing s with
  | nil => exact ⟨0, (DlpMatchContext.addHits_zero _ _).symm⟩
  | cons c cs ih =>
    obtain ⟨k, hk⟩ := ih (cardStep s c)
    rw [List.foldl_cons, hk]
    simp only [cardStep]
    split_ifs
    · exact ⟨1 + k, DlpMatchContext.addHits_add _ _ _ _⟩
    all_goals exact ⟨k, rfl⟩

/-- The digit loop, from a count `n` below 13, records a card match exactly when the bytes
left start with a run that brings the count to 13 or hold a card pattern. -/
theorem foldl_cardStep_spec (cs : Bytes) (n : ℕ) (hn : n ≤ 12) (ctx : DlpMatchContext) :
    ∃ k, (cs.foldl cardStep (n, ctx)).2 = ctx.addHits DLP_CATEGORY_CREDIT_CARD k ∧
      (0 < k ↔ CardPrefix n cs ∨ CardPattern cs) := by
  induction cs generalizing n ctx with
  | nil =>
    refine ⟨0, (DlpMatchContext.addHits_zero _ _).symm, ?_⟩
    simp only [Nat.lt_irrefl, false_iff, cardPrefix_nil, not_cardPattern_nil, or_false]
    omega
  | cons c cs ih =>
    rw [List.foldl_cons, cardPattern_cons]
    simp only [cardPrefix_cons, show ¬ 13 ≤ n by omega, show ¬ 13 ≤ 0 by omega, false_or,
      Nat.zero_add]
    by_cases hd : isDigit c = true
    · have hc : CardByte c := Or.inl hd
      simp only [hd, if_true, hc, true_and]
      by_cases h13 : n + 1 = 13
      · -- the 13th digit: a match now
        obtain ⟨k, hk⟩ := foldl_cardStep_addHits cs (cardStep (n, ctx) c)
        refine ⟨1 + k, ?_, ?_⟩
        · rw [hk]
          simp only [cardStep, hd, if_true, h13, show 13 ≤ 19 by omega, and_self]
          exact DlpMatchContext.addHits_add _ _ _ _
        · exact iff_of_true (by omega)
            (Or.inl ⟨[], List.nil_prefix, by simp, by rw [List.countP_nil]; omega⟩)
      · -- a digit below the 13th
        obtain ⟨k, hk, hiff⟩ := ih (n + 1) (by omega) ctx
        have hstep : cardStep (n, ctx) c = (n + 1, ctx) := by
          simp only [cardStep, hd, if_true, show ¬ 13 ≤ n + 1 by omega, false_and, if_false]
        refine ⟨k, by rw [hstep, hk], ?_⟩
        rw [hiff, ← or_assoc, or_iff_left_of_imp (cardPrefix_mono (by omega))]
    · have hstep : cardStep (n, ctx) c = if c ≠ 32 ∧ c ≠ 45 then (0, ctx) else (n, ctx) := by
        simp only [cardStep, hd, Bool.false_eq_true, if_false]
      by_cases hsep : c ≠ 32 ∧ c ≠ 45
      · -- any other byte resets the count
        have hc : ¬ CardByte c := fun h => h.elim hd (·.elim hsep.1 hsep.2)
        obtain ⟨k, hk, hiff⟩ := ih 0 (by omega) ctx
        refine ⟨k, by rw [hstep, if_pos hsep, hk], ?_⟩
        simp only [hc, false_and, false_or]
        rw [hiff, or_iff_right_of_imp cardPattern_of_cardPrefix]
      · -- a space or a dash keeps it
        have hc : CardByte c := Or.inr (by simpa only [not_and_or, not_not] using hsep)
        obtain ⟨k, hk, hiff⟩ := ih n hn ctx
        refine ⟨k, by rw [hstep, if_neg hsep, hk], ?_⟩
        simp only [hd, Bool.false_eq_true, if_false, Nat.add_zero, hc, true_and]
        rw [hiff, ← or_assoc, or_iff_left_of_imp (cardPrefix_mono (Nat.zero_le n))]

/-- The SSN loop records one SSN match per index whose window has the form. -/
theorem foldl_ssnStep (data : Bytes) (is : List ℕ) (ctx : DlpMatchContext) :
    is.foldl (ssnStep data) ctx = ctx.addHits DLP_CATEGORY_SSN (is.countP (ssnAt data)) := by
  induction is generalizing ctx with
  | nil => exact (DlpMatchContext.addHits_zero _ _).symm
  | cons i is ih =>
    rw [List.foldl_cons, ih, List.countP_cons, ssnStep]
    split_ifs
    · rw [DlpMatchContext.addHits_add, Nat.add_comm]
    · rfl

theorem ssnAt_iff (data : Bytes) (i : ℕ) :
    ssnAt data i = true ↔ ∀ k < 11,
      if k = 3 ∨ k = 6 then data.getD (i + k) 0 = 45 else isDigit (data.getD (i + k) 0) = true := by
  simp [ssnAt, Nat.forall_lt_succ, and_assoc]

/-- `dlp_simple_scan` from the zeroed context: `k₁` card matches and `k₂` SSN matches,
with a card match exactly when the data hold a card pattern and an SSN match exactly when
they hold an SSN pattern. -/
theorem dlpSimpleScan_zero (data : Bytes) :
    ∃ k₁ k₂, dlpSimpleScan data .zero =
        (DlpMatchContext.zero.addHits DLP_CATEGORY_CREDIT_CARD k₁).addHits DLP_CATEGORY_SSN k₂ ∧
      (0 < k₁ ↔ CardPattern data) ∧ (0 < k₂ ↔ SsnPattern data) := by
  obtain ⟨k₁, hk₁, hiff⟩ := foldl_cardStep_spec data 0 (by omega) .zero
  refine ⟨k₁, _, by rw [dlpSimpleScan, hk₁, foldl_ssnStep], ?_, ?_⟩
  · rw [hiff, or_iff_right_of_imp cardPattern_of_cardPrefix]
  · simp only [List.countP_pos_iff, List.mem_range, SsnPattern, ← ssnAt_iff]
    exact ⟨fun ⟨i, hi, h⟩ => ⟨i, by omega, h⟩, fun ⟨i, hi, h⟩ => ⟨i, by omega, h⟩⟩

/-! ### The node -/

/-- `opensase_dlp_next_t`. -/
inductive DlpNext where
  | classify
  | drop
  | log
  deriving DecidableEq, Repr

/-- The `n_next_nodes` of the node's registration: one past the last `DlpNext` value. -/
def OPENSASE_DLP_N_NEXT : ℕ := 3

/-- The inspection of one buffer: its match context and what it adds to
`dlp_bytes_inspected`. A `NULL` payload and an empty one are not scanned. -/
def dlpInspect (bs : Bytes) : DlpMatchContext × ℕ :=
  match getPayload bs with
  | (some off, len) =>
    if 0 < len then (dlpSimpleScan (payloadBytes bs off len) .zero, len) else (.zero, 0)
  | (none, _) => (.zero, 0)

/-- `w->dlp_bytes_inspected += payload_len`. -/
def addInspected (w : Worker) (n : ℕ) : Worker :=
  { w with dlpBytesInspected := (w.dlpBytesInspected + n) % 2 ^ 64 }

/-- The action on one inspected buffer: `OPENSASE_FLAG_DLP_INSPECTED` is set; a card or
SSN match drops the buffer, another match logs it, and no match sends it on to
classification. -/
def dlpAction (w : Worker) (b : Buffer) (ctx : DlpMatchContext) : Worker × (Buffer × DlpNext) :=
  let b' := b.withMeta { b.meta with flags := b.meta.flags ||| OPENSASE_FLAG_DLP_INSPECTED }
  if 0 < ctx.matchCount then
    let w' := { w with dlpPatternsMatched := (w.dlpPatternsMatched + ctx.matchCount) % 2 ^ 64 }
    if 0 < ctx.matchCategories DLP_CATEGORY_CREDIT_CARD ∨
        0 < ctx.matchCategories DLP_CATEGORY_SSN then
      ({ w' with packetsDropped := (w'.packetsDropped + 1) % 2 ^ 64 }, (b', .drop))
    else (w', (b', .log))
  else (w, (b', .classify))

/-- One iteration of the single-buffer loop. -/
def dlpOne (w : Worker) (b : Buffer) : Worker × (Buffer × DlpNext) :=
  let r := dlpInspect b.data
  dlpAction (addInspected w r.2) b r.1

/-- One iteration of the two-buffer loop, in the source's order: both payloads inspected,
then both actions. -/
def dlpPair (w : Worker) (b0 b1 : Buffer) : Worker × List (Buffer × DlpNext) :=
  let r0 := dlpInspect b0.data
  let r1 := dlpInspect b1.data
  let a0 := dlpAction (addInspected (addInspected w r0.2) r1.2) b0 r0.1
  let a1 := dlpAction a0.1 b1 r1.1
  (a1.1, [a0.2, a1.2])

/-- The `opensase-dlp` node on one frame. -/
def opensaseDlpNode (w : Worker) (frame : List Buffer) : Worker × List (Buffer × DlpNext) :=
  pairLoop dlpPair dlpOne w frame

theorem dlpAction_addInspected (w : Worker) (n : ℕ) (b : Buffer) (ctx : DlpMatchContext) :
    dlpAction (addInspected w n) b ctx =
      (addInspected (dlpAction w b ctx).1 n, (dlpAction w b ctx).2) := by
  unfold dlpAction addInspected
  split_ifs <;> rfl

/-- The two-buffer iteration does what two single iterations do: the action on the first
buffer leaves `dlp_bytes_inspected`, which the second inspection raises, alone. -/
theorem dlpPair_eq_tailLoop (w : Worker) (b0 b1 : Buffer) :
    dlpPair w b0 b1 = tailLoop dlpOne w [b0, b1] := by
  simp only [dlpPair, dlpOne, tailLoop, dlpAction_addInspected]

theorem opensaseDlpNode_eq_tailLoop (w : Worker) (frame : List Buffer) :
    opensaseDlpNode w frame = tailLoop dlpOne w frame :=
  pairLoop_eq_tailLoop _ _ dlpPair_eq_tailLoop w frame

theorem dlpAction_dlpBytesInspected (w : Worker) (b : Buffer) (ctx : DlpMatchContext) :
    (dlpAction w b ctx).1.dlpBytesInspected = w.dlpBytesInspected := by
  unfold dlpAction
  split_ifs <;> rfl

/-- Each iteration adds the inspected payload length to `dlp_bytes_inspected`. -/
theorem dlpOne_dlpBytesInspected (w : Worker) (b : Buffer) :
    (dlpOne w b).1.dlpBytesInspected = (w.dlpBytesInspected + (dlpInspect b.data).2) % 2 ^ 64 :=
  dlpAction_dlpBytesInspected _ _ _

/-- Each action counts a drop exactly when it drops the buffer. -/
theorem dlpAction_packetsDropped (w : Worker) (b : Buffer) (ctx : DlpMatchContext)
    (h : w.packetsDropped < 2 ^ 64) :
    (dlpAction w b ctx).1.packetsDropped =
      (w.packetsDropped + if (dlpAction w b ctx).2.2 = .drop then 1 else 0) % 2 ^ 64 := by
  unfold dlpAction
  by_cases hm : 0 < ctx.matchCount
  · by_cases hc : 0 < ctx.matchCategories DLP_CATEGORY_CREDIT_CARD ∨
        0 < ctx.matchCategories DLP_CATEGORY_SSN
    · simp only [if_pos hm, if_pos hc, if_true]
    · simp only [if_pos hm, if_neg hc, reduceCtorEq, if_false, Nat.add_zero, Nat.mod_eq_of_lt h]
  · simp only [if_neg hm, reduceCtorEq, if_false, Nat.add_zero, Nat.mod_eq_of_lt h]

/-! ### What the node does with each buffer -/

/-- The payload the claim of the node's purpose names: the first
`min (L4 payload length) 4096` bytes after the L4 header of a TCP or UDP packet; a packet
of another protocol has none. -/
def dlpPayload (bs : Bytes) : Bytes :=
  match l4HeaderBytes bs with
  | some l4 => payloadBytes bs (ip4HeaderBytes bs + l4)
      (min (ipLength bs - ip4HeaderBytes bs - l4) OPENSASE_DLP_MAX_MATCH_DEPTH)
  | none => []

/-- The IP total length covers the IP header and the L4 header. -/
def HeadersCovered (bs : Bytes) : Prop :=
  ∀ l4 ∈ l4HeaderBytes bs, ip4HeaderBytes bs + l4 ≤ ipLength bs

instance (bs : Bytes) : Decidable (HeadersCovered bs) := by
  unfold HeadersCovered; infer_instance

theorem dlpInspect_fst {bs : Bytes} (h : HeadersCovered bs) :
    (dlpInspect bs).1 = dlpSimpleScan (dlpPayload bs) .zero := by
  unfold dlpInspect dlpPayload
  cases hl4 : l4HeaderBytes bs with
  | none => simp only [getPayload, hl4]; rfl
  | some l4 =>
    rw [getPayload_of_le hl4 (h l4 hl4)]
    dsimp only
    split_ifs with hpos
    · rfl
    · rw [Nat.eq_zero_of_not_pos hpos]; rfl

/-- The counts of a scan from the zeroed context. -/
theorem zero_addHits_addHits (k₁ k₂ : ℕ) :
    let ctx := (DlpMatchContext.zero.addHits DLP_CATEGORY_CREDIT_CARD k₁).addHits
      DLP_CATEGORY_SSN k₂
    ctx.matchCount = k₁ + k₂ ∧ ctx.matchCategories DLP_CATEGORY_CREDIT_CARD = k₁ ∧
      ctx.matchCategories DLP_CATEGORY_SSN = k₂ := by
  simp [DlpMatchContext.addHits, DlpMatchContext.zero, Function.update_apply,
    DLP_CATEGORY_CREDIT_CARD, DLP_CATEGORY_SSN]

/-- The outcome for a buffer whose headers fit its total length: the buffer with
`OPENSASE_FLAG_DLP_INSPECTED` set, dropped exactly when its payload holds a card or an
SSN pattern and sent to classification otherwise. -/
def DlpVerdict (b : Buffer) (o : Buffer × DlpNext) : Prop :=
  o.1 = b.withMeta { b.meta with flags := b.meta.flags ||| OPENSASE_FLAG_DLP_INSPECTED } ∧
    (o.2 = .drop ↔ CardPattern (dlpPayload b.data) ∨ SsnPattern (dlpPayload b.data)) ∧
    (o.2 = .drop ∨ o.2 = .classify)

theorem dlpOne_verdict (w : Worker) (b : Buffer) (h : HeadersCovered b.data) :
    DlpVerdict b (dlpOne w b).2 := by
  obtain ⟨k₁, k₂, hscan, h₁, h₂⟩ := dlpSimpleScan_zero (dlpPayload b.data)
  obtain ⟨hm, hc, hs⟩ := zero_addHits_addHits k₁ k₂
  simp only [DlpVerdict, dlpOne, dlpAction, dlpInspect_fst h, hscan, hm, hc, hs, ← h₁, ← h₂]
  by_cases hk : 0 < k₁ ∨ 0 < k₂
  · rw [if_pos (by omega), if_pos hk]
    exact ⟨rfl, iff_of_true rfl hk, Or.inl rfl⟩
  · rw [if_neg (by omega)]
    exact ⟨rfl, iff_of_false (by simp) hk, Or.inr rfl⟩

theorem opensaseDlpNode_spec (w : Worker) (frame : List Buffer)
    (h : ∀ b ∈ frame, HeadersCovered b.data) (hw : w.packetsDropped < 2 ^ 64) :
    opensaseDlpNode w frame = tailLoop dlpOne w frame ∧
      List.Forall₂ DlpVerdict frame (opensaseDlpNode w frame).2 ∧
      (opensaseDlpNode w frame).1.packetsDropped =
        (w.packetsDropped + (opensaseDlpNode w frame).2.countP (fun o => o.2 = .drop)) % 2 ^ 64 := by
  rw [opensaseDlpNode_eq_tailLoop]
  refine ⟨rfl, tailLoop_forall₂_of_mem _ _ _ (fun s b hb => dlpOne_verdict s b (h b hb)) w, ?_⟩
  exact tailLoop_countP_mod Worker.packetsDropped _ dlpOne (fun s b hs => by
    rw [dlpOne, dlpAction_packetsDropped (addInspected s _) _ _ hs]; simp only [decide_eq_true_eq]; rfl)
    w hw frame

/-- A UDP datagram with a 16-digit card number. -/
def cardUdp : Buffer := ⟨udpDatagram 0x0A000001 0x0A000002 5000 80 (List.replicate 16 52), default, 0⟩

/-- A UDP datagram with a 16-byte payload of spaces. -/
def blankUdp : Buffer := ⟨udpDatagram 0x0A000001 0x0A000002 5000 80 (List.replicate 16 32), default, 0⟩

theorem opensaseDlpNode_spec_cardUdp :
    (∀ b ∈ [cardUdp, blankUdp], HeadersCovered b.data) ∧
      (opensaseWorkerInit 0).packetsDropped < 2 ^ 64 ∧
      opensaseDlpNode (opensaseWorkerInit 0) [cardUdp, blankUdp] =
        tailLoop dlpOne (opensaseWorkerInit 0) [cardUdp, blankUdp] ∧
      List.Forall₂ DlpVerdict [cardUdp, blankUdp]
        (opensaseDlpNode (opensaseWorkerInit 0) [cardUdp, blankUdp]).2 ∧
      (opensaseDlpNode (opensaseWorkerInit 0) [cardUdp, blankUdp]).1.packetsDropped =
        ((opensaseWorkerInit 0).packetsDropped +
          (opensaseDlpNode (opensaseWorkerInit 0) [cardUdp, blankUdp]).2.countP
            (fun o => o.2 = .drop)) % 2 ^ 64 := by
  have h : ∀ b ∈ [cardUdp, blankUdp], HeadersCovered b.data := by decide
  have hw : (opensaseWorkerInit 0).packetsDropped < 2 ^ 64 := by decide
  exact ⟨h, hw, opensaseDlpNode_spec _ _ h hw⟩

example : ((opensaseDlpNode (opensaseWorkerInit 0) [cardUdp, blankUdp]).2.map Prod.snd) =
    [.drop, .classify] := by rfl

/-! ### Headers longer than the datagram -/

/-- A 20-byte UDP datagram whose total length, 20, covers its IP header only. -/
def headerOnlyUdp : Bytes :=
  (Ip4Header.mk 0x45 0 20 0 0 64 IP_PROTOCOL_UDP 0 0x0A000001 0x0A000002).toBytes

/-- `get_payload` places 4096 payload bytes at offset 28 of the 20-byte datagram, and the
node counts them as inspected. -/
theorem getPayload_headerOnlyUdp :
    headerOnlyUdp.length = ipLength headerOnlyUdp ∧
      getPayload headerOnlyUdp = (some 28, 4096) ∧
      ∀ w m, (dlpOne w ⟨headerOnlyUdp, m, 0⟩).1.dlpBytesInspected =
        (w.dlpBytesInspected + 4096) % 2 ^ 64 := by
  have hp : getPayload headerOnlyUdp = (some 28, 4096) :=
    (getPayload_of_lt (show l4HeaderBytes headerOnlyUdp = some 8 by decide) (by decide)).trans
      (by decide)
  have hi : (dlpInspect headerOnlyUdp).2 = 4096 := by
    rw [dlpInspect, hp]
    rfl
  exact ⟨by decide, hp, fun w m => by rw [dlpOne_dlpBytesInspected, hi]⟩

end OpenSase.Dlp
