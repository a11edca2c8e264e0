import OpenSase.Security

/-!
The `opensase-policy` node of `node_policy.c`: the first policy of best priority, its hit counter
and the next node of its action. A hit past `OPENSASE_ACTION_N_ACTIONS` leaves the state `none`.
-/
namespace OpenSase.Policy
open Security

/-- `opensase_policy_t`, with the fields the matcher and the node read. Prefixes are
wire-order IPv4 addresses. -/
structure OpensasePolicy where
  policyId : ℕ
  priority : ℕ
  tenantId : ℕ
  srcPrefix : ℕ
  dstPrefix : ℕ
  srcPrefixLen : ℕ
  dstPrefixLen : ℕ
  srcPortMin : ℕ
  srcPortMax : ℕ
  dstPortMin : ℕ
  dstPortMax : ℕ
  protocol : ℕ
  action : ℕ
  qosClass : ℕ
  deriving DecidableEq, Repr, Inhabited

def OPENSASE_ACTION_ALLOW : ℕ := 0

def OPENSASE_ACTION_DENY : ℕ := 1

def OPENSASE_ACTION_INSPECT_DLP : ℕ := 6

/-- The shared configuration the node reads from `opensase_main`. -/
structure PolicyConfig where
  policies : List OpensasePolicy
  dlpEnabled : Bool

section Match

variable (e : Endian)

/-- The body of the scan: the skip tests of one policy, in the source's order. -/
def policyCandidate (p : OpensasePolicy) (bs : Bytes) (srcPort dstPort tenantId : ℕ) : Bool :=
  !(p.policyId == 0 && p.priority == 0) &&
  (p.tenantId == 0 || p.tenantId == tenantId) &&
  (p.srcPrefixLen == 0 || prefixMatch e (ipSrc bs) p.srcPrefix p.srcPrefixLen) &&
  (p.dstPrefixLen == 0 || prefixMatch e (ipDst bs) p.dstPrefix p.dstPrefixLen) &&
  (p.protocol == 0 || p.protocol == ipProtocol bs) &&
  ((p.srcPortMin == 0 && p.srcPortMax == 0) ||
    (p.srcPortMin ≤ srcPort && srcPort ≤ p.srcPortMax)) &&
  ((p.dstPortMin == 0 && p.dstPortMax == 0) ||
    (p.dstPortMin ≤ dstPort && dstPort ≤ p.dstPortMax))

/-- `vec_foreach_index` from index `i` with `(best_match, best_priority)` so far. -/
def matchFrom (bs : Bytes) (srcPort dstPort tenantId : ℕ) : ℕ → ℕ × ℕ → List OpensasePolicy → ℕ × ℕ
  | _, best, [] => best
  | i, best, p :: ps =>
    matchFrom bs srcPort dstPort tenantId (i + 1)
      (if policyCandidate e p bs srcPort dstPort tenantId && decide (p.priority < best.2) then
        (i, p.priority) else best) ps

/-- `opensase_policy_match`: the index of the chosen policy, or `~0`. -/
def opensasePolicyMatch (policies : List OpensasePolicy) (bs : Bytes) (srcPort dstPort tenantId : ℕ) : ℕ :=
  (matchFrom e bs srcPort dstPort tenantId 0 (0xFFFFFFFF, 0xFFFFFFFF) policies).1

end Match

/-- `opensase_policy_next_t`. -/
inductive PolicyNext where
  | dlp
  | classify
  | drop
  | ip4Lookup
  deriving DecidableEq, Repr

/-- The `n_next_nodes` of the node's registration: one past the last `PolicyNext` value. -/
def OPENSASE_POLICY_N_NEXT : ℕ := 4

/-- The next node of a matched policy in slots 1 to 3 of the four-packet loop: the nested
conditionals on the action. -/
def policyNext (action : ℕ) : PolicyNext :=
  if action = OPENSASE_ACTION_DENY then .drop
  else if action = OPENSASE_ACTION_INSPECT_DLP then .dlp
  else .classify

/-- The next node of a matched policy in slot 0 and in the tail loop: `switch (p->action)`
with the cases `OPENSASE_ACTION_DENY` (1) and `OPENSASE_ACTION_INSPECT_DLP` (6). -/
def policySwitch : ℕ → PolicyNext
  | 1 => .drop
  | 6 => .dlp
  | _ => .classify

/-- The `switch` and the nested conditionals route every action alike. -/
theorem policySwitch_eq_policyNext (action : ℕ) : policySwitch action = policyNext action := by
  unfold policySwitch policyNext OPENSASE_ACTION_DENY OPENSASE_ACTION_INSPECT_DLP
  split <;> simp_all

/-- `w->policy_hits[action]++`, undefined past the array. -/
def bumpPolicyHit (action : ℕ) (w : Worker) : Option Worker :=
  if action < OPENSASE_ACTION_N_ACTIONS then
    some { w with
      policyHits := Function.update w.policyHits action ((w.policyHits action + 1) % 2 ^ 64) }
  else none

section Node

variable (e : Endian) (osm : PolicyConfig)

/-- The actions for one buffer once its match index is known; `route` is how its slot
picks the next node of a matched policy. -/
def policyApply (route : ℕ → PolicyNext) (w : Option Worker) (b : Buffer) (k : ℕ) :
    Option Worker × (Buffer × PolicyNext) :=
  if k ≠ 0xFFFFFFFF then
    let p := osm.policies.getD k default
    (w.bind (bumpPolicyHit p.action),
      (b.withMeta { b.meta with policyId := p.policyId, qosClass := p.qosClass },
        route p.action))
  else (w, (b, if osm.dlpEnabled then .dlp else .classify))

/-- The match index of a buffer, from the ports after a 20-byte header. -/
def policyIndex (b : Buffer) : ℕ :=
  opensasePolicyMatch e osm.policies b.data (tcpUdpPortsFixed b.data).1
    (tcpUdpPortsFixed b.data).2 b.meta.tenantId

/-- One iteration of the single-packet loop. -/
def policyOne (w : Option Worker) (b : Buffer) : Option Worker × (Buffer × PolicyNext) :=
  policyApply osm policySwitch w b (policyIndex e osm b)

/-- One iteration of the four-packet loop: the four matches, then the four applications,
slot 0 with the `switch` and slots 1 to 3 with the nested conditionals. -/
def policyQuad (w : Option Worker) (b0 b1 b2 b3 : Buffer) :
    Option Worker × List (Buffer × PolicyNext) :=
  let k0 := policyIndex e osm b0
  let k1 := policyIndex e osm b1
  let k2 := policyIndex e osm b2
  let k3 := policyIndex e osm b3
  let r0 := policyApply osm policySwitch w b0 k0
  let r1 := policyApply osm policyNext r0.1 b1 k1
  let r2 := policyApply osm policyNext r1.1 b2 k2
  let r3 := policyApply osm policyNext r2.1 b3 k3
  (r3.1, [r0.2, r1.2, r2.2, r3.2])

/-- The `opensase-policy` node on one frame. -/
def opensasePolicyNode (w : Option Worker) (frame : List Buffer) :
    Option Worker × List (Buffer × PolicyNext) :=
  vectorLoop (policyQuad e osm) (policyOne e osm) w frame

/-- The four-packet loop does what four single iterations do, so the node is the tail
loop on every frame. -/
theorem opensasePolicyNode_eq_tailLoop (w : Option Worker) (frame : List Buffer) :
    opensasePolicyNode e osm w frame = tailLoop (policyOne e osm) w frame :=
  vectorLoop_eq_tailLoop (fun _ => True) (policyQuad e osm) (policyOne e osm)
    (fun _ _ _ => trivial)
    (fun _ _ _ _ _ _ => by
      simp only [policyQuad, policyOne, tailLoop, funext policySwitch_eq_policyNext])
    w frame trivial

end Node

/-- The session state of a worker: its arena, `n_sessions`, `session_hash` and
`sessions_created`. -/
def sessionView (w : Worker) : (ℕ → Session) × ℕ × (ℕ → Option ℕ) × ℕ :=
  (w.sessions, w.nSessions, w.sessionHash, w.sessionsCreated)

theorem bumpPolicyHit_sessionView {a : ℕ} {w w' : Worker} (h : bumpPolicyHit a w = some w') :
    sessionView w' = sessionView w := by
  unfold bumpPolicyHit at h
  split at h <;> cases h
  rfl

theorem bumpPolicyHit_isSome {a : ℕ} (h : a < OPENSASE_ACTION_N_ACTIONS) (w : Worker) :
    (bumpPolicyHit a w).isSome := by
  simp [bumpPolicyHit, h]

/-- What the policy node keeps: a defined state with the given session view. -/
def Keeps (v : (ℕ → Session) × ℕ × (ℕ → Option ℕ) × ℕ) (ow : Option Worker) : Prop :=
  ∃ w, ow = some w ∧ sessionView w = v

section Keep

variable (e : Endian) (osm : PolicyConfig)

/-- Step lemma for one buffer. -/
theorem policyApply_keeps (hact : ∀ p ∈ osm.policies, p.action < OPENSASE_ACTION_N_ACTIONS)
    (route : ℕ → PolicyNext) {v} {ow : Option Worker} (h : Keeps v ow) (b : Buffer) (k : ℕ) :
    Keeps v (policyApply osm route ow b k).1 := by
  obtain ⟨w, rfl, hw⟩ := h
  unfold policyApply
  split
  · have ha : (osm.policies.getD k default).action < OPENSASE_ACTION_N_ACTIONS := by
      rw [List.getD_eq_getElem?_getD]
      cases hk : osm.policies[k]? with
      | none => exact (by decide : (default : OpensasePolicy).action < 7)
      | some p => exact hact p (List.getElem?_mem hk)
    obtain ⟨w', hw'⟩ := Option.isSome_iff_exists.mp (bumpPolicyHit_isSome ha w)
    exact ⟨w', by simp only [Option.some_bind, hw'], (bumpPolicyHit_sessionView hw').trans hw⟩
  · exact ⟨w, rfl, hw⟩

/-- Run lemma: on every frame the policy node leaves the session state as it found it,
and with in-bounds actions its state stays defined. -/
theorem opensasePolicyNode_keeps (hact : ∀ p ∈ osm.policies, p.action < OPENSASE_ACTION_N_ACTIONS)
    (w : Worker) (frame : List Buffer) :
    Keeps (sessionView w) (opensasePolicyNode e osm (some w) frame).1 := by
  rw [opensasePolicyNode_eq_tailLoop]
  exact tailLoop_inv (Keeps (sessionView w)) (policyOne e osm)
    (fun _ b h => policyApply_keeps osm hact _ h b _) (some w) frame ⟨w, rfl, rfl⟩
end Keep


/-! ### Denied packets and the session table -/

/-- The buffers the security node sends on to `opensase-policy`, in frame order. -/
def forwardedToPolicy (outs : List (Buffer × SecurityNext)) : List Buffer :=
  outs.filterMap fun o => if o.2 = .policy then some o.1 else none

/-- The contract asked of the pipeline: a packet that `opensase-policy` drops for a DENY
match leaves the session state as it was before it entered `opensase-security`. -/
def DeniedPacketLeavesSessions : Prop :=
  ∀ (e : Endian) (clibXxhash : ℕ → ℕ) (now : ℚ) (osm : PolicyConfig) (w : Worker)
    (b : Buffer),
    let rs := opensaseSecurityNode e clibXxhash now w [b]
    let rp := opensasePolicyNode e osm (some rs.1) (forwardedToPolicy rs.2)
    rp.2.map Prod.snd = [.drop] → Keeps (sessionView w) rp.1

/-- A TCP SYN `10.1.0.5:33000 → 203.0.113.10:443`. -/
def synTo203 : Buffer :=
  { data := tcpSegment 0x0A010005 0xCB00710A 33000 443 0x02 [], meta := default }

/-- A single policy denying destination `203.0.113.10/32`. -/
def denyTo203 : PolicyConfig :=
  ⟨[{ (default : OpensasePolicy) with
      policyId := 1, priority := 1, dstPrefix := 0xCB00710A, dstPrefixLen := 32,
      action := OPENSASE_ACTION_DENY }], true⟩

/-- The denied SYN of a new flow has already got a session when the policy drops it. -/
theorem deniedPacket_creates_session : ¬ DeniedPacketLeavesSessions := by
  intro h
  obtain ⟨w1, hw1, hv1⟩ := h .little id 0 denyTo203
    (opensaseWorkerInit OPENSASE_MAX_SESSIONS_PER_CORE) synTo203 (by decide)
  obtain ⟨w2, hw2, hv2⟩ := opensasePolicyNode_keeps .little denyTo203 (by decide)
    (opensaseSecurityNode .little id 0 (opensaseWorkerInit OPENSASE_MAX_SESSIONS_PER_CORE)
      [synTo203]).1
    (forwardedToPolicy (opensaseSecurityNode .little id 0
      (opensaseWorkerInit OPENSASE_MAX_SESSIONS_PER_CORE) [synTo203]).2)
  obtain rfl : w1 = w2 := Option.some_inj.mp (hw1.symm.trans hw2)
  have hn1 := congrArg (fun v => v.2.1) hv1
  have hn2 := congrArg (fun v => v.2.1) hv2
  simp only [sessionView] at hn1 hn2
  have h1 : (opensaseSecurityNode .little id 0 (opensaseWorkerInit OPENSASE_MAX_SESSIONS_PER_CORE)
      [synTo203]).1.nSessions = 1 := by decide
  rw [h1] at hn2
  rw [hn2] at hn1
  exact absurd hn1 (by decide)

/-- What a denied packet does to the session state is exactly what `opensase-security`
did to it: on every frame, and whatever its verdicts, the policy node leaves
`n_sessions`, `session_hash`, `sessions_created` and every session as the security node
left them (for policies whose actions index `policy_hits` in bounds). -/
theorem opensasePolicyNode_after_security (e : Endian) (clibXxhash : ℕ → ℕ) (now : ℚ)
    (osm : PolicyConfig) (hact : ∀ p ∈ osm.policies, p.action < OPENSASE_ACTION_N_ACTIONS)
    (w : Worker) (frameS frameP : List Buffer) :
    Keeps (sessionView (opensaseSecurityNode e clibXxhash now w frameS).1)
      (opensasePolicyNode e osm (some (opensaseSecurityNode e clibXxhash now w frameS).1)
        frameP).1 :=
  opensasePolicyNode_keeps e osm hact _ frameP

theorem opensasePolicyNode_after_security_synTo203 :
    (∀ p ∈ denyTo203.policies, p.action < OPENSASE_ACTION_N_ACTIONS) ∧
      Keeps (sessionView (opensaseSecurityNode .little id 0
        (opensaseWorkerInit OPENSASE_MAX_SESSIONS_PER_CORE) [synTo203]).1)
        (opensasePolicyNode .little denyTo203 (some (opensaseSecurityNode .little id 0
          (opensaseWorkerInit OPENSASE_MAX_SESSIONS_PER_CORE) [synTo203]).1) [synTo203]).1 :=
  ⟨by decide, opensasePolicyNode_after_security .little id 0 denyTo203 (by decide) _ _ _⟩

/-! ### What the node does with each buffer -/

/-- The three routes of a matched policy. -/
theorem policyNext_spec (a : ℕ) :
    (policyNext a = .drop ↔ a = OPENSASE_ACTION_DENY) ∧
      (policyNext a = .dlp ↔ a = OPENSASE_ACTION_INSPECT_DLP) ∧
      (policyNext a = .classify ↔ a ≠ OPENSASE_ACTION_DENY ∧ a ≠ OPENSASE_ACTION_INSPECT_DLP) := by
  unfold policyNext OPENSASE_ACTION_DENY OPENSASE_ACTION_INSPECT_DLP
  split_ifs <;> simp_all

section Verdict

variable (e : Endian) (osm : PolicyConfig)

/-- The `policy_hits` slot a buffer bumps: the action of its matched policy. -/
def policyHit (b : Buffer) : Option ℕ :=
  if policyIndex e osm b ≠ 0xFFFFFFFF then some (osm.policies.getD (policyIndex e osm b) default).action
  else none

/-- The verdict asked of the node for buffer `b`: a matched policy's id and QoS class
written and its action routed; no match leaves the buffer and follows `dlp_enabled`. -/
def PolicyVerdict (b : Buffer) (o : Buffer × PolicyNext) : Prop :=
  (policyIndex e osm b ≠ 0xFFFFFFFF →
    let p := osm.policies.getD (policyIndex e osm b) default
    o.1 = b.withMeta { b.meta with policyId := p.policyId, qosClass := p.qosClass } ∧
      (o.2 = .drop ↔ p.action = OPENSASE_ACTION_DENY) ∧
      (o.2 = .dlp ↔ p.action = OPENSASE_ACTION_INSPECT_DLP) ∧
      (o.2 = .classify ↔ p.action ≠ OPENSASE_ACTION_DENY ∧ p.action ≠ OPENSASE_ACTION_INSPECT_DLP)) ∧
  (policyIndex e osm b = 0xFFFFFFFF → o = (b, if osm.dlpEnabled then .dlp else .classify))

theorem policyOne_verdict (w : Option Worker) (b : Buffer) :
    PolicyVerdict e osm b (policyOne e osm w b).2 := by
  unfold PolicyVerdict policyOne policyApply
  refine ⟨fun hk => ?_, fun hk => ?_⟩
  · dsimp only
    rw [if_pos hk, policySwitch_eq_policyNext]
    exact ⟨rfl, policyNext_spec _⟩
  · simp only [hk, ne_eq, not_true_eq_false, if_false]

/-- One buffer's step on a defined state: its hit, if any, is counted. -/
theorem policyOne_hits (hact : ∀ p ∈ osm.policies, p.action < OPENSASE_ACTION_N_ACTIONS)
    (w : Worker) (hw : ∀ a, w.policyHits a < 2 ^ 64) (b : Buffer) :
    (policyOne e osm (some w) b).1 = some { w with policyHits := (fun a =>
      (w.policyHits a + if policyHit e osm b = some a then 1 else 0) % 2 ^ 64) } := by
  unfold policyOne policyApply policyHit
  by_cases hk : policyIndex e osm b = 0xFFFFFFFF
  · simp only [hk, ne_eq, not_true_eq_false, if_false, reduceCtorEq, Nat.add_zero,
      Nat.mod_eq_of_lt (hw _)]
  · have ha : (osm.policies.getD (policyIndex e osm b) default).action < OPENSASE_ACTION_N_ACTIONS := by
      rw [List.getD_eq_getElem?_getD]
      cases hp : osm.policies[policyIndex e osm b]? with
      | none => exact (by decide : (default : OpensasePolicy).action < 7)
      | some p => exact hact p (List.getElem?_mem hp)
    simp only [hk, ne_eq, not_false_eq_true, if_true, Option.some_bind, bumpPolicyHit, ha,
      Option.some.injEq]
    congr 1
    funext a
    by_cases hx : (osm.policies.getD (policyIndex e osm b) default).action = a
    · subst hx; simp only [Function.update_same, if_true]
    · rw [Function.update_noteq (Ne.symm hx), if_neg (by simpa using hx), Nat.add_zero,
        Nat.mod_eq_of_lt (hw a)]

end Verdict

/-- The policy node on every frame, for policies whose actions index `policy_hits` in
bounds: the four-packet loop and the tail loop agree, each buffer gets its verdict, and the
u64 `policy_hits[a]` grows by the number of buffers whose matched policy has action `a`. -/
theorem opensasePolicyNode_spec (e : Endian) (osm : PolicyConfig)
    (hact : ∀ p ∈ osm.policies, p.action < OPENSASE_ACTION_N_ACTIONS) (w : Worker)
    (hw : ∀ a, w.policyHits a < 2 ^ 64) (frame : List Buffer) :
    opensasePolicyNode e osm (some w) frame = tailLoop (policyOne e osm) (some w) frame ∧
      List.Forall₂ (PolicyVerdict e osm) frame (opensasePolicyNode e osm (some w) frame).2 ∧
      (opensasePolicyNode e osm (some w) frame).1 = some { w with policyHits := (fun a =>
        (w.policyHits a + (frame.filter fun b => policyHit e osm b = some a).length) % 2 ^ 64) } := by
  rw [opensasePolicyNode_eq_tailLoop]
  refine ⟨rfl, tailLoop_forall₂ _ _ (policyOne_verdict e osm) _ _, ?_⟩
  induction frame generalizing w with
  | nil => simp only [tailLoop_nil, List.filter_nil, List.length_nil, Nat.add_zero,
      Nat.mod_eq_of_lt (hw _)]
  | cons b frame ih =>
    rw [tailLoop_cons, policyOne_hits e osm hact w hw, ih _ (fun a => Nat.mod_lt _ (by norm_num))]
    congr 2
    funext a
    rw [Nat.mod_add_mod]
    by_cases hb : policyHit e osm b = some a
    · simp only [hb, if_true, List.filter_cons, decide_True, List.length_cons]
      omega
    · simp only [hb, if_false, List.filter_cons, decide_False, Bool.false_eq_true, Nat.add_zero]

theorem opensasePolicyNode_spec_synTo203 :
    (∀ p ∈ denyTo203.policies, p.action < OPENSASE_ACTION_N_ACTIONS) ∧
      (∀ a, (opensaseWorkerInit 0).policyHits a < 2 ^ 64) ∧
      opensasePolicyNode .little denyTo203 (some (opensaseWorkerInit 0)) [synTo203] =
        tailLoop (policyOne .little denyTo203) (some (opensaseWorkerInit 0)) [synTo203] ∧
      List.Forall₂ (PolicyVerdict .little denyTo203) [synTo203]
        (opensasePolicyNode .little denyTo203 (some (opensaseWorkerInit 0)) [synTo203]).2 ∧
      (opensasePolicyNode .little denyTo203 (some (opensaseWorkerInit 0)) [synTo203]).1 =
        some { opensaseWorkerInit 0 with policyHits := (fun a => ((opensaseWorkerInit 0).policyHits a +
          ([synTo203].filter fun b => policyHit .little denyTo203 b = some a).length) % 2 ^ 64) } := by
  have hact : ∀ p ∈ denyTo203.policies, p.action < OPENSASE_ACTION_N_ACTIONS := by decide
  have hw : ∀ a, (opensaseWorkerInit 0).policyHits a < 2 ^ 64 := fun _ => Nat.two_pow_pos 64
  exact ⟨hact, hw, opensasePolicyNode_spec .little denyTo203 hact _ hw _⟩

end OpenSase.Policy
