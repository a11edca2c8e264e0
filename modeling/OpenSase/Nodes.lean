import OpenSase.Dispatch
import OpenSase.Tenant
import OpenSase.Vxlan
import OpenSase.Policy
import OpenSase.Dlp
import OpenSase.Classify
import OpenSase.Qos
import OpenSase.Ips
import OpenSase.Nat44

/-!
The loops of the ten opensase node functions at the level of `nexts`: each enqueues every buffer
with the next node of its list model, the qos node included, though it may write `next[0]` twice.
-/
namespace OpenSase

open Tenant Vxlan Encap Security Policy Dlp Classify Qos Ips Nat44

section Loops

variable (e : Endian) (clibXxhash : ℕ → ℕ) (now : ℚ)

/-- The loops of `opensase_tenant_node`: eight, then four, then one buffer at a time, each
buffer handled alike. -/
def opensaseTenantLoops (th : TenantHash) : NodeFunction Unit Buffer :=
  ⟨[(8, iterWrites (fun o => o.2.toCtorIdx) (tailLoop (tenantOne e clibXxhash th))),
      (4, iterWrites (fun o => o.2.toCtorIdx) (tailLoop (tenantOne e clibXxhash th)))],
    iterWrites (fun o => o.2.toCtorIdx) (tailLoop (tenantOne e clibXxhash th)),
    OPENSASE_TENANT_N_NEXT⟩

/-- The loops of `tenant_classifier_node`. -/
def tenantClassifierLoops (vt : ℕ → VniTenantEntry) : NodeFunction Unit Buffer :=
  quadFunction (fun o => o.2.toCtorIdx) (tenantClassifierQuad vt) (tenantClassifierOne vt)
    TENANT_CLASSIFIER_N_NEXT

/-- The loops of `opensase_security_node`. -/
def opensaseSecurityLoops : NodeFunction Worker Buffer :=
  quadFunction (fun o => o.2.toCtorIdx) (securityQuad e clibXxhash now)
    (securityOne e clibXxhash now) OPENSASE_SECURITY_N_NEXT

/-- The loops of `opensase_policy_node`. -/
def opensasePolicyLoops (osm : PolicyConfig) : NodeFunction (Option Worker) Buffer :=
  quadFunction (fun o => o.2.toCtorIdx) (policyQuad e osm) (policyOne e osm)
    OPENSASE_POLICY_N_NEXT

/-- The loops of `opensase_dlp_node`. -/
def opensaseDlpLoops : NodeFunction Worker Buffer :=
  pairFunction (fun o => o.2.toCtorIdx) dlpPair dlpOne OPENSASE_DLP_N_NEXT

/-- The loops of `opensase_classify_node`. -/
def opensaseClassifyLoops : NodeFunction Unit Buffer :=
  quadFunction (fun o => o.2.toCtorIdx) classifyQuad classifyOne OPENSASE_CLASSIFY_N_NEXT

/-- The writes of one iteration of the qos node's four-wide loop, as the source makes them:
`next[0 .. 4) = OPENSASE_QOS_NEXT_IP4_LOOKUP`, then `next[0] = OPENSASE_QOS_NEXT_DROP` when
the buffer in slot 0 fails its rate check. The loop passes it four buffers. -/
def qosQuadWrites (s : QosState) : List Buffer → QosState × List (ℕ × ℕ)
  | [b0, b1, b2, b3] =>
    let r := scavengerCheck now
      (addBytes s (b0.lengthInChain + b1.lengthInChain + b2.lengthInChain + b3.lengthInChain))
      (qosMark b0) b0.lengthInChain
    (r.1, [(0, QosNext.ip4Lookup.toCtorIdx), (1, QosNext.ip4Lookup.toCtorIdx),
        (2, QosNext.ip4Lookup.toCtorIdx), (3, QosNext.ip4Lookup.toCtorIdx)] ++
      if r.2.2 = .drop then [(0, QosNext.drop.toCtorIdx)] else [])
  | _ => (s, [])

/-- The loops of `opensase_qos_node`. -/
def opensaseQosLoops : NodeFunction QosState Buffer :=
  ⟨[(4, qosQuadWrites now)], iterWrites (fun o => o.2.toCtorIdx) (tailLoop qosOne),
    OPENSASE_QOS_N_NEXT⟩

/-- The loops of `security_inspect_node`. -/
def securityInspectLoops : NodeFunction IpsWorker Buffer :=
  quadFunction (fun o => o.2.toCtorIdx) securityInspectQuad securityInspectOne
    SECURITY_INSPECT_N_NEXT

/-- The loops of `opensase_nat_node`. -/
def opensaseNatLoops : NodeFunction NatWorker Buffer :=
  quadFunction (fun o => o.2.toCtorIdx) (natQuad e clibXxhash now) (natOne e clibXxhash now)
    OPENSASE_NAT_N_NEXT

/-- The loops of `opensase_encap_node`. -/
def opensaseEncapLoops : NodeFunction TunnelTable Buffer :=
  quadFunction (fun o => o.2.toCtorIdx) (encapQuad e) (encapOne e) OPENSASE_ENCAP_N_NEXT

/-- The qos iteration writes each of its four slots, slot 0 perhaps twice. -/
theorem qosQuadWrites_slots : WritesSlots OPENSASE_QOS_N_NEXT 4 (qosQuadWrites now) := by
  intro s bs hk
  match bs, hk with
  | [b0, b1, b2, b3], _ =>
    simp only [qosQuadWrites]
    split_ifs
    · exact ⟨fun j => by simp; omega, by decide⟩
    · exact ⟨fun j => by simp; omega, by decide⟩

/-- The rate check sends a buffer to `ip4-lookup` or to `error-drop`. -/
theorem scavengerCheck_next (s : QosState) (b : Buffer) (len : ℕ) :
    (scavengerCheck now s b len).2.2 = .ip4Lookup ∨ (scavengerCheck now s b len).2.2 = .drop := by
  simp only [scavengerCheck]
  split_ifs <;> simp

/-- Writing all four slots and then slot 0 again has the effect of writing each slot once
with the next node of the list model's iteration. -/
theorem qosQuadWrites_sameEffect (s : QosState) (bs : List Buffer) (p : ℕ) (hk : bs.length = 4) :
    (qosQuadWrites now s bs).1 =
        (iterWrites (fun o : Buffer × QosNext => o.2.toCtorIdx) (quadIter (qosQuad now) qosOne) s
          bs).1 ∧
      SameEffect ((qosQuadWrites now s bs).2.map fun w => (p + w.1, w.2))
        ((iterWrites (fun o : Buffer × QosNext => o.2.toCtorIdx) (quadIter (qosQuad now) qosOne) s
          bs).2.map fun w => (p + w.1, w.2)) := by
  match bs, hk with
  | [b0, b1, b2, b3], _ =>
    refine ⟨rfl, fun nexts => ?_⟩
    simp only [qosQuadWrites, iterWrites, quadIter, qosQuad, slotWrites]
    rcases scavengerCheck_next now (addBytes s (b0.lengthInChain + b1.lengthInChain +
      b2.lengthInChain + b3.lengthInChain)) (qosMark b0) b0.lengthInChain with h | h <;> rw [h]
    · rfl
    · -- the second write of slot 0 is its last
      funext i
      simp only [if_pos, applyWrites, List.map_append, List.map_cons, List.map_nil,
        List.cons_append, List.nil_append, List.foldl_cons, List.foldl_nil, Function.update_apply]
      split_ifs <;> first | rfl | omega

/-- The qos node function enqueues every buffer with the next node its list model gives it,
and leaves the state the list model leaves. -/
theorem opensaseQosLoops_call (s : QosState) (frame : List Buffer) (nexts : ℕ → ℕ) :
    (opensaseQosLoops now).call s frame nexts =
      ((opensaseQosNode now s frame).1,
        frame.zip ((opensaseQosNode now s frame).2.map fun o => o.2.toCtorIdx), frame.length) := by
  have hrun : ((opensaseQosLoops now).run s frame).Agree
      ((quadFunction (fun o : Buffer × QosNext => o.2.toCtorIdx) (qosQuad now) qosOne
        OPENSASE_QOS_N_NEXT).run s frame) :=
    strideLoop_agree (fun _ _ _ _ => ⟨rfl, fun _ => rfl⟩) _ _
      (strideLoop_agree (qosQuadWrites_sameEffect now) _ _ ⟨rfl, rfl, rfl, fun _ => rfl⟩)
  have hcall := @quadFunction_call QosState Buffer (Buffer × QosNext) (fun o => o.2.toCtorIdx)
    OPENSASE_QOS_N_NEXT (qosQuad now) qosOne (fun _ _ _ _ _ => rfl) s frame nexts
  rw [opensaseQosNode, ← hcall]
  simp only [NodeFunction.call, hrun.1, hrun.2.2.2 nexts]

end Loops

/-- On every frame the loops of nine of the ten node functions write `next[0]`, …,
`next[n - 1]` once each and in order, and those of the qos node write each of them at
least once; each node consumes the frame, writes only indices below its `n_next_nodes`,
enqueues all `n` buffers and returns `n`. -/
theorem opensaseNodes_dispatch :
    (∀ e clibXxhash th, (opensaseTenantLoops e clibXxhash th).WritesEachOnce) ∧
      (∀ vt, (tenantClassifierLoops vt).WritesEachOnce) ∧
      (∀ e clibXxhash now, (opensaseSecurityLoops e clibXxhash now).WritesEachOnce) ∧
      (∀ e osm, (opensasePolicyLoops e osm).WritesEachOnce) ∧
      opensaseDlpLoops.WritesEachOnce ∧ opensaseClassifyLoops.WritesEachOnce ∧
      (∀ now, (opensaseQosLoops now).WritesEach) ∧ securityInspectLoops.WritesEachOnce ∧
      (∀ e clibXxhash now, (opensaseNatLoops e clibXxhash now).WritesEachOnce) ∧
      ∀ e, (opensaseEncapLoops e).WritesEachOnce := by
  refine ⟨fun e clibXxhash th => ?_, fun vt => ?_, fun e clibXxhash now => ?_, fun e osm => ?_,
    ?_, ?_, fun now => ?_, ?_, fun e clibXxhash now => ?_, fun e => ?_⟩
  · have hb : ∀ k, WritesSlotsOnce OPENSASE_TENANT_N_NEXT k
        (iterWrites (fun o : Buffer × TenantNext => o.2.toCtorIdx)
          (tailLoop (tenantOne e clibXxhash th))) := fun k =>
      writesSlotsOnce_iterWrites (fun o => by cases o.2 <;> decide) (tailLoop_length _)
    exact NodeFunction.writesEachOnce _ (by simpa [opensaseTenantLoops] using ⟨hb 8, hb 4⟩) (hb 1)
  · exact quadFunction_writesEachOnce (fun o => by cases o.2 <;> decide) _ fun _ _ _ _ _ => rfl
  · exact quadFunction_writesEachOnce (fun o => by cases o.2 <;> decide) _ fun _ _ _ _ _ => rfl
  · exact quadFunction_writesEachOnce (fun o => by cases o.2 <;> decide) _ fun _ _ _ _ _ => rfl
  · exact pairFunction_writesEachOnce (fun o => by cases o.2 <;> decide) _ fun _ _ _ => rfl
  · exact quadFunction_writesEachOnce (fun o => by cases o.2 <;> decide) _ fun _ _ _ _ _ => rfl
  · exact NodeFunction.writesEach _ (by simpa [opensaseQosLoops] using qosQuadWrites_slots now)
      (writesSlotsOnce_iterWrites (fun o => show _ < OPENSASE_QOS_N_NEXT by cases o.2 <;> decide)
        (tailLoop_length _)).writesSlots
  · exact quadFunction_writesEachOnce (fun o => by cases o.2 <;> decide) _ fun _ _ _ _ _ => rfl
  · exact quadFunction_writesEachOnce (fun o => by cases o.2 <;> decide) _ fun _ _ _ _ _ => rfl
  · exact quadFunction_writesEachOnce (fun o => by cases o.2 <;> decide) _ fun _ _ _ _ _ => rfl

/-- Whatever `nexts` held before, every node function enqueues each buffer of the frame with
the index of the next node its list model gives it, and returns the frame size; the qos node
enqueues every buffer outside slot 0 of a four-wide iteration to `ip4-lookup`. -/
theorem opensaseNodes_enqueue (frame : List Buffer) (nexts : ℕ → ℕ) :
    (∀ e clibXxhash th, ((opensaseTenantLoops e clibXxhash th).call () frame nexts).2 =
      (frame.zip ((opensaseTenantNode e clibXxhash th frame).map fun o => o.2.toCtorIdx),
        frame.length)) ∧
    (∀ vt, ((tenantClassifierLoops vt).call () frame nexts).2 =
      (frame.zip ((tenantClassifierNode vt frame).map fun o => o.2.toCtorIdx), frame.length)) ∧
    (∀ e clibXxhash now w, ((opensaseSecurityLoops e clibXxhash now).call w frame nexts).2 =
      (frame.zip ((opensaseSecurityNode e clibXxhash now w frame).2.map fun o => o.2.toCtorIdx),
        frame.length)) ∧
    (∀ e osm w, ((opensasePolicyLoops e osm).call w frame nexts).2 =
      (frame.zip ((opensasePolicyNode e osm w frame).2.map fun o => o.2.toCtorIdx),
        frame.length)) ∧
    (∀ w, (opensaseDlpLoops.call w frame nexts).2 =
      (frame.zip ((opensaseDlpNode w frame).2.map fun o => o.2.toCtorIdx), frame.length)) ∧
    (opensaseClassifyLoops.call () frame nexts).2 =
      (frame.zip ((opensaseClassifyNode frame).map fun o => o.2.toCtorIdx), frame.length) ∧
    (∀ now s, ((opensaseQosLoops now).call s frame nexts).2 =
      (frame.zip ((opensaseQosNode now s frame).2.map fun o => o.2.toCtorIdx), frame.length) ∧
      List.Forall₂ (fun x o => x.2 ≠ some 0 → o.2 = .ip4Lookup) (withSlots frame)
        (opensaseQosNode now s frame).2) ∧
    (∀ w, (securityInspectLoops.call w frame nexts).2 =
      (frame.zip ((securityInspectNode w frame).2.map fun o => o.2.toCtorIdx), frame.length)) ∧
    (∀ e clibXxhash now w, ((opensaseNatLoops e clibXxhash now).call w frame nexts).2 =
      (frame.zip ((opensaseNatNode e clibXxhash now w frame).2.map fun o => o.2.toCtorIdx),
        frame.length)) ∧
    ∀ e tt, ((opensaseEncapLoops e).call tt frame nexts).2 =
      (frame.zip ((opensaseEncapNode e tt frame).2.map fun o => o.2.toCtorIdx), frame.length) :=
  ⟨fun e clibXxhash th => congrArg Prod.snd (tailFunction_call _
      (by simp [opensaseTenantLoops]) rfl () frame nexts),
    fun _ => congrArg Prod.snd (quadFunction_call _ (by intros; rfl) () frame nexts),
    fun _ _ _ w => congrArg Prod.snd (quadFunction_call _ (by intros; rfl) w frame nexts),
    fun _ _ w => congrArg Prod.snd (quadFunction_call _ (by intros; rfl) w frame nexts),
    fun w => congrArg Prod.snd (pairFunction_call _ (by intros; rfl) w frame nexts),
    congrArg Prod.snd (quadFunction_call _ (by intros; rfl) () frame nexts),
    fun now s => ⟨congrArg Prod.snd (opensaseQosLoops_call now s frame nexts),
      opensaseQosNode_unchecked_forwarded now s frame⟩,
    fun w => congrArg Prod.snd (quadFunction_call _ (by intros; rfl) w frame nexts),
    fun _ _ _ w => congrArg Prod.snd (quadFunction_call _ (by intros; rfl) w frame nexts),
    fun _ tt => congrArg Prod.snd (quadFunction_call _ (by intros; rfl) tt frame nexts)⟩

/-- A frame of four buffers whose first, a 28-byte scavenger buffer of tenant 1, finds 20
tokens in its bucket: the qos loop writes `next[0]` twice, to `ip4-lookup` (0) and then to
`error-drop` (2), so its loops do not write each slot once. -/
theorem opensaseQosLoops_writes_slot_twice :
    ((opensaseQosLoops 1).run (limitedState 20)
        [scavengerOf 1, bestEffort, bestEffort, bestEffort]).writes =
      [(0, 0), (1, 0), (2, 0), (3, 0), (0, 2)] ∧ ¬ (opensaseQosLoops 1).WritesEachOnce := by
  have drop20 : rateLimitCheck ⟨20, 0, 1, 20⟩ 28 1 = (false, ⟨20, 1, 1, 20⟩) := by
    norm_num [rateLimitCheck]
  have hcheck : (scavengerCheck 1 (addBytes (limitedState 20) 112) (qosMark (scavengerOf 1))
      28).2.2 = .drop := by
    simp only [scavengerCheck, limitedState, addBytes_limiters, qosMark_meta, scavengerOf,
      scavengerKey, MAX_TENANT_LIMITERS, OPENSASE_QOS_SCAVENGER, Function.update_same]
    norm_num [drop20]
  have hw : ((opensaseQosLoops 1).run (limitedState 20)
      [scavengerOf 1, bestEffort, bestEffort, bestEffort]).writes =
        [(0, 0), (1, 0), (2, 0), (3, 0), (0, 2)] := by
    simp only [NodeFunction.run, opensaseQosLoops, List.foldl_cons, List.foldl_nil]
    rw [strideLoop_of_le (qosQuadWrites 1) (by decide),
      strideLoop_of_not (qosQuadWrites 1) (by decide), strideLoop_of_not _ (by decide)]
    simp only [List.take, qosQuadWrites, show (scavengerOf 1).lengthInChain = 28 from rfl,
      show bestEffort.lengthInChain = 28 from rfl, Nat.reduceAdd, hcheck, if_pos]
    rfl
  refine ⟨hw, fun h => ?_⟩
  have := (h (limitedState 20) [scavengerOf 1, bestEffort, bestEffort, bestEffort]).2.2.1
  rw [hw] at this
  exact absurd this (by decide)

end OpenSase
