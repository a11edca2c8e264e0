import OpenSase.Frame

/-!
The IPS node of `node_security_inspect.c`: the fall-back scanner of a build without
Hyperscan, and the Hyperscan match callback over `default_signatures`.
-/
namespace OpenSase.Ips

/-- `ips_category_t`. -/
def IPS_CAT_MALWARE : ℕ := 0

def IPS_CAT_EXPLOIT : ℕ := 1

def IPS_CAT_BOTNET : ℕ := 2

def IPS_CAT_CVE : ℕ := 3

def IPS_CAT_POLICY : ℕ := 4

/-- `ips_action_t`. -/
def IPS_ACTION_ALERT : ℕ := 0

def IPS_ACTION_DROP : ℕ := 1

def IPS_ACTION_REJECT : ℕ := 2

/-- `ips_match_result_t` after a match (`matched = 1`). -/
structure IpsMatch where
  signatureId : ℕ
  action : ℕ
  category : ℕ
  deriving DecidableEq, Repr

/-! ### The fall-back scanner -/

/-- `data[i] == '$' && data[i + 1] == '{' && (data[i + 2] == 'j' || data[i + 2] == 'J')`. -/
def log4jAt (data : Bytes) (i : ℕ) : Bool :=
  data.getD i 0 == 36 && data.getD (i + 1) 0 == 123 &&
    (data.getD (i + 2) 0 == 106 || data.getD (i + 2) 0 == 74)

/-- `union` in any letter case at `data[i..i+4]`. -/
def unionAt (data : Bytes) (i : ℕ) : Bool :=
  (data.getD i 0 == 85 || data.getD i 0 == 117) &&
    (data.getD (i + 1) 0 == 78 || data.getD (i + 1) 0 == 110) &&
    (data.getD (i + 2) 0 == 73 || data.getD (i + 2) 0 == 105) &&
    (data.getD (i + 3) 0 == 79 || data.getD (i + 3) 0 == 111) &&
    (data.getD (i + 4) 0 == 78 || data.getD (i + 4) 0 == 110)

/-- `simple_pattern_scan (data, len, result)` with `len = data.length`: the match it
records, `none` for `matched = 0`. Each loop returns at its first hit with a result that
does not depend on where the hit is. -/
def simplePatternScan (data : Bytes) : Option IpsMatch :=
  if 10 ≤ data.length ∧ (List.range (data.length - 10)).any (log4jAt data) then
    some ⟨4001, IPS_ACTION_DROP, IPS_CAT_CVE⟩
  else if 6 ≤ data.length ∧ (List.range (data.length - 6)).any (unionAt data) then
    some ⟨2003, IPS_ACTION_DROP, IPS_CAT_EXPLOIT⟩
  else none

theorem any_range_iff (n d : ℕ) (p : ℕ → Bool) :
    (d ≤ n ∧ (List.range (n - d)).any p = true) ↔ ∃ i, i + d + 1 ≤ n ∧ p i = true := by
  simp only [List.any_eq_true, List.mem_range]
  constructor
  · rintro ⟨-, i, hi, hp⟩
    exact ⟨i, by omega, hp⟩
  · rintro ⟨i, hi, hp⟩
    exact ⟨by omega, i, by omega, hp⟩

/-- The scanner matches exactly when `${j` starts at an `i` with `i + 11 ≤ len` or `union`
at an `i` with `i + 7 ≤ len`; every match it records asks for a drop. -/
theorem simplePatternScan_spec (data : Bytes) :
    ((simplePatternScan data).isSome ↔
      (∃ i, i + 11 ≤ data.length ∧ log4jAt data i = true) ∨
        ∃ i, i + 7 ≤ data.length ∧ unionAt data i = true) ∧
      ∀ m ∈ simplePatternScan data, m.action = IPS_ACTION_DROP := by
  have h₁ := any_range_iff data.length 10 (log4jAt data)
  have h₂ := any_range_iff data.length 6 (unionAt data)
  unfold simplePatternScan
  split_ifs with c₁ c₂
  · exact ⟨iff_of_true rfl (Or.inl (h₁.mp c₁)), fun m hm => by cases hm; rfl⟩
  · exact ⟨iff_of_true rfl (Or.inr (h₂.mp c₂)), fun m hm => by cases hm; rfl⟩
  · refine ⟨iff_of_false (by simp) ?_, fun m hm => by cases hm⟩
    rintro (h | h)
    · exact c₁ (h₁.mpr h)
    · exact c₂ (h₂.mpr h)

/-! ### The node -/

/-- `ips_scan_packet`: what it adds to `bytes_scanned` and the match it records. Other
protocols, an empty payload and a length past 65535 are not scanned; at most 1500 bytes
are. -/
def ipsScanPacket (bs : Bytes) : ℕ × Option IpsMatch :=
  let ipLen := ipLength bs
  let ipHdrLen := ip4HeaderBytes bs
  let payload : Option (ℕ × ℕ) :=
    if ipProtocol bs = IP_PROTOCOL_TCP then
      let tcpHdrLen := tcpHeaderBytes bs ipHdrLen
      some (ipHdrLen + tcpHdrLen, subU32 (subU32 ipLen ipHdrLen) tcpHdrLen)
    else if ipProtocol bs = IP_PROTOCOL_UDP then
      some (ipHdrLen + 8, subU32 (rd16 bs (ipHdrLen + 4)) 8)
    else none
  match payload with
  | none => (0, none)
  | some (off, payloadLen) =>
    if payloadLen = 0 ∨ 65535 < payloadLen then (0, none)
    else
      let len := min payloadLen 1500
      (len, simplePatternScan (payloadBytes bs off len))

/-- The bytes `ips_scan_packet` hands to the scanner: the payload's offset from the IPv4
header and `payload_len` after the 1500-byte cap, or `none` where it returns before
scanning. -/
def ipsScanRange (bs : Bytes) : Option (ℕ × ℕ) :=
  let ipLen := ipLength bs
  let ipHdrLen := ip4HeaderBytes bs
  let payload : Option (ℕ × ℕ) :=
    if ipProtocol bs = IP_PROTOCOL_TCP then
      let tcpHdrLen := tcpHeaderBytes bs ipHdrLen
      some (ipHdrLen + tcpHdrLen, subU32 (subU32 ipLen ipHdrLen) tcpHdrLen)
    else if ipProtocol bs = IP_PROTOCOL_UDP then
      some (ipHdrLen + 8, subU32 (rd16 bs (ipHdrLen + 4)) 8)
    else none
  match payload with
  | none => none
  | some (off, payloadLen) =>
    if payloadLen = 0 ∨ 65535 < payloadLen then none else some (off, min payloadLen 1500)

/-- `ips_scan_packet` scans exactly the range `ipsScanRange` names. -/
theorem ipsScanPacket_eq_range (bs : Bytes) :
    ipsScanPacket bs = ((ipsScanRange bs).map fun r =>
      (r.2, simplePatternScan (payloadBytes bs r.1 r.2))).getD (0, none) := by
  unfold ipsScanPacket ipsScanRange
  split_ifs <;> dsimp only <;> (try split_ifs) <;> rfl

/-- For UDP the scanned length comes from the UDP length field alone: a field `u ≥ 9` gives
`u - 8` bytes, capped, whatever the total length says. -/
theorem ipsScanRange_udp {bs : Bytes} (hu : ipProtocol bs = IP_PROTOCOL_UDP) :
    ipsScanRange bs = if 9 ≤ rd16 bs (ip4HeaderBytes bs + 4) then
      some (ip4HeaderBytes bs + 8, min (rd16 bs (ip4HeaderBytes bs + 4) - 8) 1500) else none := by
  have hlt := rd16_lt bs (ip4HeaderBytes bs + 4)
  simp only [ipsScanRange, hu, show IP_PROTOCOL_UDP ≠ IP_PROTOCOL_TCP by decide, if_false,
    if_true]
  unfold subU32
  split_ifs with h₁ h₂ h₂
  · exact absurd h₁ (by omega)
  · rfl
  · simp only [Option.some.injEq, Prod.mk.injEq, true_and]; omega
  · exact absurd h₁ (by omega)

/-- A 28-byte UDP datagram whose UDP length field says 108. -/
def overlongUdp : Bytes :=
  (Ip4Header.mk 0x45 0 28 0 0 64 IP_PROTOCOL_UDP 0 0x0A000001 0x0A000002).toBytes ++
    (UdpHeader.mk 5000 80 108 0).toBytes

/-- The datagram holds exactly its 28 bytes, and `ips_scan_packet` scans 100 bytes from
offset 28, all past its end. -/
theorem ipsScanRange_overruns_udp :
    overlongUdp.length = ipLength overlongUdp ∧ ipProtocol overlongUdp = IP_PROTOCOL_UDP ∧
      ipsScanRange overlongUdp = some (28, 100) ∧ ipLength overlongUdp < 28 + 100 ∧
      ipsScanPacket overlongUdp = (100, simplePatternScan (payloadBytes overlongUdp 28 100)) := by
  have hr : ipsScanRange overlongUdp = some (28, 100) := by
    rw [ipsScanRange_udp (by decide)]
    decide
  exact ⟨by decide, by decide, hr, by decide, by rw [ipsScanPacket_eq_range, hr]; rfl⟩

/-- `ips_worker_t`, with its statistics. -/
structure IpsWorker where
  packetsScanned : ℕ
  bytesScanned : ℕ
  signaturesMatched : ℕ
  packetsBlocked : ℕ
  categoryHits : ℕ → ℕ

/-- `security_inspect_next_t`. -/
inductive SecurityInspectNext where
  | nat
  | drop
  | log
  deriving DecidableEq, Repr

/-- The `n_next_nodes` of the node's registration: one past the last `SecurityInspectNext` value. -/
def SECURITY_INSPECT_N_NEXT : ℕ := 3

/-- `w->bytes_scanned += payload_len`. -/
def addScanned (w : IpsWorker) (n : ℕ) : IpsWorker :=
  { w with bytesScanned := (w.bytesScanned + n) % 2 ^ 64 }

/-- `w->packets_scanned += n`. -/
def addPackets (w : IpsWorker) (n : ℕ) : IpsWorker :=
  { w with packetsScanned := (w.packetsScanned + n) % 2 ^ 64 }

/-- The action on one scanned buffer: a match is counted and drops the buffer when it asks
for a drop, and is logged otherwise; no match continues to NAT. -/
def ipsAction (w : IpsWorker) : Option IpsMatch → IpsWorker × SecurityInspectNext
  | none => (w, .nat)
  | some m =>
    let w' := { w with
      signaturesMatched := (w.signaturesMatched + 1) % 2 ^ 64
      categoryHits :=
        Function.update w.categoryHits m.category ((w.categoryHits m.category + 1) % 2 ^ 64) }
    if m.action = IPS_ACTION_DROP then
      ({ w' with packetsBlocked := (w'.packetsBlocked + 1) % 2 ^ 64 }, .drop)
    else (w', .log)

/-- One iteration of the single-packet loop. -/
def securityInspectOne (w : IpsWorker) (b : Buffer) : IpsWorker × (Buffer × SecurityInspectNext) :=
  let r := ipsScanPacket b.data
  let a := ipsAction (addPackets (addScanned w r.1) 1) r.2
  (a.1, (b, a.2))

/-- One iteration of the four-packet loop, in the source's order: the four scans,
`packets_scanned += 4`, then the four actions. -/
def securityInspectQuad (w : IpsWorker) (b0 b1 b2 b3 : Buffer) :
    IpsWorker × List (Buffer × SecurityInspectNext) :=
  let r0 := ipsScanPacket b0.data
  let r1 := ipsScanPacket b1.data
  let r2 := ipsScanPacket b2.data
  let r3 := ipsScanPacket b3.data
  let w' := addPackets (addScanned (addScanned (addScanned (addScanned w r0.1) r1.1) r2.1) r3.1) 4
  let a0 := ipsAction w' r0.2
  let a1 := ipsAction a0.1 r1.2
  let a2 := ipsAction a1.1 r2.2
  let a3 := ipsAction a2.1 r3.2
  (a3.1, [(b0, a0.2), (b1, a1.2), (b2, a2.2), (b3, a3.2)])

/-- The `security-inspect` node on one frame. -/
def securityInspectNode (w : IpsWorker) (frame : List Buffer) :
    IpsWorker × List (Buffer × SecurityInspectNext) :=
  vectorLoop securityInspectQuad securityInspectOne w frame

theorem ipsAction_addScanned (w : IpsWorker) (n : ℕ) (r : Option IpsMatch) :
    ipsAction (addScanned w n) r = (addScanned (ipsAction w r).1 n, (ipsAction w r).2) := by
  cases r with
  | none => rfl
  | some m => simp only [ipsAction, addScanned]; split_ifs <;> rfl

theorem ipsAction_addPackets (w : IpsWorker) (n : ℕ) (r : Option IpsMatch) :
    ipsAction (addPackets w n) r = (addPackets (ipsAction w r).1 n, (ipsAction w r).2) := by
  cases r with
  | none => rfl
  | some m => simp only [ipsAction, addPackets]; split_ifs <;> rfl

/-- The four-packet iteration does what four single iterations do: the actions leave the
scan counters alone, and the counters only add up. -/
theorem securityInspectQuad_eq_tailLoop (w : IpsWorker) (b0 b1 b2 b3 : Buffer) :
    securityInspectQuad w b0 b1 b2 b3 = tailLoop securityInspectOne w [b0, b1, b2, b3] := by
  simp only [securityInspectQuad, securityInspectOne, tailLoop, ipsAction_addScanned,
    ipsAction_addPackets]
  simp only [addScanned, addPackets, Nat.mod_add_mod, Nat.add_assoc]

theorem securityInspectNode_eq_tailLoop (w : IpsWorker) (frame : List Buffer) :
    securityInspectNode w frame = tailLoop securityInspectOne w frame :=
  vectorLoop_eq_tailLoop (fun _ => True) _ _ (fun _ _ _ => trivial)
    (fun w b0 b1 b2 b3 _ => securityInspectQuad_eq_tailLoop w b0 b1 b2 b3) w frame trivial

/-- The range the node scans holds one of the fall-back scanner's patterns where its loops
look: `${j` at an `i` with `i + 11 ≤ len`, or `union` at an `i` with `i + 7 ≤ len`. -/
def ScanHits (bs : Bytes) : Prop :=
  ∃ r ∈ ipsScanRange bs, (∃ i, i + 11 ≤ r.2 ∧ log4jAt (payloadBytes bs r.1 r.2) i = true) ∨
    ∃ i, i + 7 ≤ r.2 ∧ unionAt (payloadBytes bs r.1 r.2) i = true

/-- A buffer goes on unchanged, to `error-drop` exactly when its scan hits and to NAT
otherwise: every match of the fall-back scanner asks for a drop. -/
theorem securityInspectOne_verdict (w : IpsWorker) (b : Buffer) :
    (securityInspectOne w b).2.1 = b ∧ ((securityInspectOne w b).2.2 = .drop ↔ ScanHits b.data) ∧
      ((securityInspectOne w b).2.2 = .drop ∨ (securityInspectOne w b).2.2 = .nat) := by
  unfold securityInspectOne
  dsimp only
  rw [ipsScanPacket_eq_range]
  cases hrange : ipsScanRange b.data with
  | none => simp [ipsAction, ScanHits, hrange]
  | some r =>
    obtain ⟨hiff, hdrop⟩ := simplePatternScan_spec (payloadBytes b.data r.1 r.2)
    have hhits : ScanHits b.data ↔ (simplePatternScan (payloadBytes b.data r.1 r.2)).isSome := by
      rw [hiff]
      simp [ScanHits, hrange, payloadBytes]
    rw [hhits]
    cases hs : simplePatternScan (payloadBytes b.data r.1 r.2) with
    | none => simp [ipsAction, hs]
    | some m => simp [ipsAction, hs, hdrop m hs]

/-- The action counts a blocked packet exactly when it drops the buffer. -/
theorem ipsAction_packetsBlocked (w : IpsWorker) (r : Option IpsMatch)
    (h : w.packetsBlocked < 2 ^ 64) :
    (ipsAction w r).1.packetsBlocked =
      (w.packetsBlocked + if (ipsAction w r).2 = .drop then 1 else 0) % 2 ^ 64 := by
  have h0 : w.packetsBlocked % 2 ^ 64 = w.packetsBlocked := Nat.mod_eq_of_lt h
  cases r with
  | none => simp only [ipsAction, reduceCtorEq, if_false, Nat.add_zero, h0]
  | some m =>
    by_cases hd : m.action = IPS_ACTION_DROP
    · simp only [ipsAction, if_pos hd, if_true]
    · simp only [ipsAction, if_neg hd, reduceCtorEq, if_false, Nat.add_zero, h0]

/-- `ips_workers` as `security_inspect_init` leaves them: zeroed. -/
def securityInspectInit : IpsWorker := ⟨0, 0, 0, 0, fun _ => 0⟩

/-- The seven bytes `${jndi:`. -/
def jndiPrefix : Bytes := [36, 123, 106, 110, 100, 105, 58]

/-- The scanner's two patterns where they fit the data: `${j` at an `i` with
`i + 3 ≤ len`, or `union` at an `i` with `i + 5 ≤ len`. -/
def PatternInData (data : Bytes) : Prop :=
  (∃ i, i + 3 ≤ data.length ∧ log4jAt data i = true) ∨
    ∃ i, i + 5 ≤ data.length ∧ unionAt data i = true

/-- A UDP datagram carrying `${jndi:` passes the node to NAT. -/
theorem securityInspectOne_misses_jndi (w : IpsWorker) :
    PatternInData jndiPrefix ∧ simplePatternScan jndiPrefix = none ∧
      (securityInspectOne w
        ⟨udpDatagram 0x0A000001 0x0A000002 5000 80 jndiPrefix, default, 0⟩).2.2 = .nat := by
  refine ⟨Or.inl ⟨0, by decide, by decide⟩, ?_, rfl⟩
  cases h : simplePatternScan jndiPrefix with
  | none => rfl
  | some m =>
    have hlen : jndiPrefix.length = 7 := rfl
    obtain ⟨i, hi, -⟩ | ⟨i, hi, hu⟩ := (simplePatternScan_spec jndiPrefix).1.mp (by rw [h]; rfl)
    · exact absurd hi (by omega)
    · obtain rfl : i = 0 := by omega
      exact absurd hu (by decide)

/-! ### The Hyperscan callback

Built with Hyperscan, `ips_scan_packet` hands the payload to `hs_scan`, which calls
`hs_match_handler` once per match until the callback returns non-zero. -/

/-- `ips_signature_t` as `hs_match_handler` reads it: the pattern only matters to the
Hyperscan compiler. -/
structure IpsSignature where
  id : ℕ
  category : ℕ
  action : ℕ
  deriving DecidableEq, Repr

/-- `ips_match_result_t`. -/
structure IpsMatchResult where
  signatureId : ℕ
  action : ℕ
  category : ℕ
  matched : Bool
  deriving DecidableEq, Repr

/-- The result `ips_scan_packet` starts from: `matched = 0`, `signature_id = 0`,
`action = IPS_ACTION_ALERT`; `category` keeps what the stack held. -/
def ipsResultInit (category : ℕ) : IpsMatchResult := ⟨0, IPS_ACTION_ALERT, category, false⟩

/-- The match the node acts on: none while `matched = 0`. -/
def IpsMatchResult.toMatch (r : IpsMatchResult) : Option IpsMatch :=
  if r.matched then some ⟨r.signatureId, r.action, r.category⟩ else none

/-- `hs_match_handler (id, from, to, flags, ctx)` on the result `ctx` points to, over the
signature table `sigs`: the result afterwards, and whether the callback returns non-zero.
The loop stops at the first entry with the id; a later match replaces the result only when
its action compares greater as a raw `ips_action_t`. -/
def hsMatchHandler (sigs : List IpsSignature) (id : ℕ) (r : IpsMatchResult) :
    IpsMatchResult × Bool :=
  let r' := match sigs.find? (·.id = id) with
    | some sig =>
      if !r.matched || sig.action > r.action then ⟨id, sig.action, sig.category, true⟩ else r
    | none => r
  (r', r'.action = IPS_ACTION_DROP)

/-- `hs_scan` handing the matches `ids` to the callback in order; it stops after the first
call that returns non-zero. -/
def hsScan (sigs : List IpsSignature) : List ℕ → IpsMatchResult → IpsMatchResult
  | [], r => r
  | id :: ids, r =>
    let s := hsMatchHandler sigs id r
    if s.2 then s.1 else hsScan sigs ids s.1

/-- The ids the callback receives before `hs_scan` stops. -/
def hsDelivered (sigs : List IpsSignature) : List ℕ → IpsMatchResult → List ℕ
  | [], _ => []
  | id :: ids, r =>
    let s := hsMatchHandler sigs id r
    id :: if s.2 then [] else hsDelivered sigs ids s.1

/-- What the result says about the signatures `ms` matched so far: it is matched exactly when
`ms` is not empty, and then its action is the largest raw action among them; unmatched it
still holds `IPS_ACTION_ALERT`. -/
def ResultOf (r : IpsMatchResult) (ms : List IpsSignature) : Prop :=
  (r.matched = true ↔ ms ≠ []) ∧ (∀ s ∈ ms, s.action ≤ r.action) ∧
    (r.matched = true → ∃ s ∈ ms, s.action = r.action) ∧
    (r.matched = false → r.action = IPS_ACTION_ALERT)

theorem resultOf_init (category : ℕ) : ResultOf (ipsResultInit category) [] :=
  ⟨by simp [ipsResultInit], by simp, by simp [ipsResultInit], fun _ => rfl⟩

/-- One call of the callback adds the signature of the id, if the table has one. -/
theorem hsMatchHandler_resultOf {sigs : List IpsSignature} {r : IpsMatchResult}
    {ms : List IpsSignature} (h : ResultOf r ms) (id : ℕ) :
    ResultOf (hsMatchHandler sigs id r).1 (ms ++ (sigs.find? (·.id = id)).toList) := by
  obtain ⟨hm, hle, hex, hal⟩ := h
  simp only [hsMatchHandler]
  cases hf : sigs.find? (·.id = id) with
  | none => simpa using ⟨hm, hle, hex, hal⟩
  | some sig =>
    dsimp only
    rw [show (some sig).toList = [sig] from rfl]
    split_ifs with hup
    · refine ⟨by simp, fun s hs => ?_, fun _ => ⟨sig, by simp, rfl⟩, fun h => by cases h⟩
      rcases List.mem_append.mp hs with hs | hs
      · have hr : r.matched = true := hm.mpr (List.ne_nil_of_mem hs)
        simp only [hr, Bool.not_true, Bool.false_or, decide_eq_true_eq] at hup
        exact Nat.le_of_lt (Nat.lt_of_le_of_lt (hle s hs) hup)
      · rw [List.mem_singleton.mp hs]
    · simp only [Bool.or_eq_true, Bool.not_eq_true', decide_eq_true_eq, not_or,
        Bool.not_eq_false, Nat.not_lt] at hup
      obtain ⟨hr, hsig⟩ := hup
      refine ⟨by simp [hr], fun s hs => ?_, fun _ => ?_, fun h => by simp [hr] at h⟩
      · rcases List.mem_append.mp hs with hs | hs
        · exact hle s hs
        · rw [List.mem_singleton.mp hs]; exact hsig
      · obtain ⟨s, hs, he⟩ := hex hr
        exact ⟨s, List.mem_append_left _ hs, he⟩

theorem filterMap_cons_toList {α β : Type} (f : α → Option β) (a : α) (l : List α) :
    (a :: l).filterMap f = (f a).toList ++ l.filterMap f := by
  cases h : f a <;> simp [List.filterMap_cons, h]

/-- The run lemma: after `hs_scan` the result reflects every signature matched by an id the
callback received. -/
theorem hsScan_resultOf (sigs : List IpsSignature) (ids : List ℕ) :
    ∀ (r : IpsMatchResult) (ms : List IpsSignature), ResultOf r ms →
      ResultOf (hsScan sigs ids r)
        (ms ++ (hsDelivered sigs ids r).filterMap fun id => sigs.find? (·.id = id)) := by
  induction ids with
  | nil => intro r ms h; simpa [hsScan, hsDelivered] using h
  | cons id ids ih =>
    intro r ms h
    have hstep := @hsMatchHandler_resultOf sigs _ _ h id
    simp only [hsScan, hsDelivered]
    split_ifs
    · simpa [filterMap_cons_toList] using hstep
    · rw [filterMap_cons_toList, ← List.append_assoc]
      exact ih _ _ hstep

theorem ipsAction_drop_iff (w : IpsWorker) (r : IpsMatchResult) :
    (ipsAction w r.toMatch).2 = .drop ↔ r.matched = true ∧ r.action = IPS_ACTION_DROP := by
  unfold IpsMatchResult.toMatch
  cases r.matched <;> simp only [ipsAction, if_true, if_false]
  · simp
  · split_ifs <;> simp_all

/-- Over every signature table and order of matches, the result is matched exactly when a
received id is in the table, with the largest matched action as a raw `ips_action_t`; the node
drops exactly when a matched signature asks for a drop and none for a reject. -/
theorem hsScan_result (sigs : List IpsSignature) (ids : List ℕ) (category : ℕ) (w : IpsWorker) :
    let r := hsScan sigs ids (ipsResultInit category)
    let ms := (hsDelivered sigs ids (ipsResultInit category)).filterMap
      fun id => sigs.find? (·.id = id)
    (r.matched = true ↔
        ∃ id ∈ hsDelivered sigs ids (ipsResultInit category), ∃ s ∈ sigs, s.id = id) ∧
      (r.matched = true → (∀ s ∈ ms, s.action ≤ r.action) ∧ ∃ s ∈ ms, s.action = r.action) ∧
      ((ipsAction w r.toMatch).2 = .drop ↔
        (∃ s ∈ ms, s.action = IPS_ACTION_DROP) ∧ ∀ s ∈ ms, s.action ≤ IPS_ACTION_DROP) := by
  intro r ms
  obtain ⟨hm, hle, hex, -⟩ : ResultOf r ms := by
    simpa using hsScan_resultOf sigs ids _ [] (resultOf_init category)
  refine ⟨hm.trans ?_, fun h => ⟨hle, hex h⟩, (ipsAction_drop_iff w r).trans ?_⟩
  · simp [ms, List.filterMap_eq_nil_iff, List.find?_eq_none]
  · constructor
    · rintro ⟨h, hd⟩
      obtain ⟨s, hs, he⟩ := hex h
      exact ⟨⟨s, hs, he.trans hd⟩, fun s hs => hd ▸ hle s hs⟩
    · rintro ⟨⟨s, hs, hd⟩, hall⟩
      have h : r.matched = true := hm.mpr (List.ne_nil_of_mem hs)
      obtain ⟨s', hs', he⟩ := hex h
      exact ⟨h, Nat.le_antisymm (he ▸ hall s' hs') (hd ▸ hle s hs)⟩

example (w : IpsWorker) :
    (ipsAction w (hsScan [⟨1, IPS_CAT_CVE, IPS_ACTION_REJECT⟩, ⟨2, IPS_CAT_CVE, IPS_ACTION_DROP⟩]
      [1, 2] (ipsResultInit 0)).toMatch).2 = .log := rfl

/-! ### The table the node is built with -/

/-- `default_signatures` up to its sentinel, the only table `hs_match_handler` searches. -/
def defaultSignatures : List IpsSignature :=
  [⟨1001, IPS_CAT_MALWARE, IPS_ACTION_DROP⟩, ⟨1002, IPS_CAT_MALWARE, IPS_ACTION_DROP⟩,
    ⟨1003, IPS_CAT_MALWARE, IPS_ACTION_DROP⟩, ⟨2001, IPS_CAT_EXPLOIT, IPS_ACTION_DROP⟩,
    ⟨2002, IPS_CAT_EXPLOIT, IPS_ACTION_DROP⟩, ⟨2003, IPS_CAT_EXPLOIT, IPS_ACTION_DROP⟩,
    ⟨3001, IPS_CAT_BOTNET, IPS_ACTION_DROP⟩, ⟨3002, IPS_CAT_BOTNET, IPS_ACTION_ALERT⟩,
    ⟨4001, IPS_CAT_CVE, IPS_ACTION_DROP⟩, ⟨4002, IPS_CAT_CVE, IPS_ACTION_DROP⟩,
    ⟨5001, IPS_CAT_POLICY, IPS_ACTION_ALERT⟩]

/-- The severity order the contract names: drop above reject above alert. -/
def severityRank (action : ℕ) : ℕ :=
  if action = IPS_ACTION_DROP then 2 else if action = IPS_ACTION_REJECT then 1 else 0

/-- On alert and drop, the raw `ips_action_t` order is the severity order. -/
theorem severityRank_mono {a b : ℕ} (hb : b ≤ IPS_ACTION_DROP) (h : a ≤ b) :
    severityRank a ≤ severityRank b := by
  unfold severityRank IPS_ACTION_DROP IPS_ACTION_REJECT at *
  split_ifs <;> omega

theorem defaultSignatures_action_le : ∀ s ∈ defaultSignatures, s.action ≤ IPS_ACTION_DROP := by
  decide

end OpenSase.Ips
