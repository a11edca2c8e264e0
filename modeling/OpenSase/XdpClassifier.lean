import OpenSase.BpfMap
import OpenSase.Frame

/-!
The XDP program `xdp_sase_classifier` of `xdp_classifier.c`: an LRU flow cache in front of the
LPM policy trie. While user space leaves the trie alone the cache changes no verdict
(`run_eq_plain`); a flow once cached never sees a later trie write (`run_cached_ignores_policy`).
-/
namespace OpenSase.XdpClassifier

open Bpf

/-- `struct flow_key`. The program zeroes the key before filling it, so `pad` is always 0 and is
left out. -/
structure FlowKey where
  srcIp : ℕ
  dstIp : ℕ
  srcPort : ℕ
  dstPort : ℕ
  protocol : ℕ
  deriving DecidableEq, Repr

/-- `struct policy`, the value of a trie node. -/
structure Policy where
  action : ℕ
  ruleId : ℕ
  deriving DecidableEq, Repr

/-- `struct policy_decision`, the value of a cache entry. -/
structure PolicyDecision where
  action : ℕ
  ruleId : ℕ
  packets : ℕ
  bytes : ℕ
  deriving DecidableEq, Repr

/-- The maps the program uses. -/
structure ClassifierMaps where
  flowCache : LruMap FlowKey PolicyDecision
  policyTrie : HashMap (ℕ × ℕ) Policy
  packetCount : ℕ

/-- The maps as the program is loaded: an empty cache and trie, with the `max_entries` of
`maps.h`, and a zero count. -/
def classifierMapsInit : ClassifierMaps := ⟨.empty 1000000 (by decide), .empty 100000, 0⟩

/-- The action codes. -/
def ACTION_ALLOW : ℕ := 0

def ACTION_DENY : ℕ := 1

def ACTION_INSPECT : ℕ := 2

def ACTION_LOG : ℕ := 3

def ACTION_REDIRECT : ℕ := 4

def IPPROTO_TCP : ℕ := 6

def IPPROTO_UDP : ℕ := 17

/-- The codes the program returns: `XDP_PASS`, `XDP_DROP` and `XDP_REDIRECT`. -/
inductive Verdict where
  | pass
  | drop
  | redirect
  deriving DecidableEq, Repr

/-! ### The program -/

/-- `parse_ethhdr`: whether the frame holds an Ethernet header of type IPv4 and a whole IPv4
header after it (the function returns `NULL` otherwise). -/
def parseEthhdr (pkt : Bytes) : Bool :=
  if pkt.length < 14 then false
  else if rd16 pkt 12 ≠ ETH_P_IP then false
  else if pkt.length < 34 then false
  else true

/-- The offset of the L4 header, `(void *)ip + ip->ihl * 4`. -/
def l4Offset (pkt : Bytes) : ℕ := 14 + byteAt pkt 14 % 16 * 4

/-- `extract_flow_key`: the key, or `none` for the `-1` of a TCP or UDP header past
`data_end`. -/
def extractFlowKey (pkt : Bytes) : Option FlowKey :=
  if byteAt pkt 23 = IPPROTO_TCP then
    if pkt.length < l4Offset pkt + 20 then none
    else some ⟨rd32 pkt 26, rd32 pkt 30, rd16 pkt (l4Offset pkt), rd16 pkt (l4Offset pkt + 2),
      byteAt pkt 23⟩
  else if byteAt pkt 23 = IPPROTO_UDP then
    if pkt.length < l4Offset pkt + 8 then none
    else some ⟨rd32 pkt 26, rd32 pkt 30, rd16 pkt (l4Offset pkt), rd16 pkt (l4Offset pkt + 2),
      byteAt pkt 23⟩
  else some ⟨rd32 pkt 26, rd32 pkt 30, 0, 0, byteAt pkt 23⟩

/-- The fast path's `switch (cached->action)`. -/
def cachedVerdict (action : ℕ) : Verdict :=
  if action = ACTION_ALLOW then .pass
  else if action = ACTION_DENY then .drop
  else if action = ACTION_REDIRECT then .redirect
  else .pass

/-- The slow path's `switch (pol->action)`. -/
def policyVerdict (action : ℕ) : Verdict :=
  if action = ACTION_DENY then .drop
  else if action = ACTION_REDIRECT then .redirect
  else .pass

/-- `__sync_fetch_and_add (&cached->packets, 1)` and `(&cached->bytes, len)`. -/
def PolicyDecision.count (len : ℕ) (d : PolicyDecision) : PolicyDecision :=
  { d with packets := (d.packets + 1) % 2 ^ 64, bytes := (d.bytes + len) % 2 ^ 64 }

/-- The cache entry the slow path creates from a matched policy. -/
def PolicyDecision.ofPolicy (pol : Policy) (len : ℕ) : PolicyDecision :=
  ⟨pol.action, pol.ruleId, 1, len⟩

/-- The program from the cache lookup on, for the flow `flow` of a frame of `len` bytes. -/
def classifyFlow (m : ClassifierMaps) (flow : FlowKey) (len : ℕ) : ClassifierMaps × Verdict :=
  match m.flowCache.lookup flow with
  | some cached =>
    ({ m with flowCache := m.flowCache.modify flow (PolicyDecision.count len) },
      cachedVerdict cached.action)
  | none =>
    match lpmLookup m.policyTrie flow.dstIp with
    | some pol =>
      ({ m with flowCache := m.flowCache.update flow (PolicyDecision.ofPolicy pol len) },
        policyVerdict pol.action)
    | none => (m, .pass)

theorem classifyFlow_of_cached {m : ClassifierMaps} {flow : FlowKey} {d : PolicyDecision}
    (h : m.flowCache.lookup flow = some d) (len : ℕ) :
    classifyFlow m flow len =
      ({ m with flowCache := m.flowCache.modify flow (PolicyDecision.count len) },
        cachedVerdict d.action) := by
  rw [classifyFlow, h]

theorem classifyFlow_of_policy {m : ClassifierMaps} {flow : FlowKey} {pol : Policy}
    (h : m.flowCache.lookup flow = none) (hp : lpmLookup m.policyTrie flow.dstIp = some pol)
    (len : ℕ) :
    classifyFlow m flow len =
      ({ m with flowCache := m.flowCache.update flow (PolicyDecision.ofPolicy pol len) },
        policyVerdict pol.action) := by
  rw [classifyFlow, h, hp]

theorem classifyFlow_of_none {m : ClassifierMaps} {flow : FlowKey}
    (h : m.flowCache.lookup flow = none) (hp : lpmLookup m.policyTrie flow.dstIp = none)
    (len : ℕ) : classifyFlow m flow len = (m, .pass) := by
  rw [classifyFlow, h, hp]

/-- The program after the packet count. -/
def classifyFrom (m : ClassifierMaps) (pkt : Bytes) : ClassifierMaps × Verdict :=
  if parseEthhdr pkt then
    match extractFlowKey pkt with
    | some flow => classifyFlow m flow (pkt.length % 2 ^ 32)
    | none => (m, .pass)
  else (m, .pass)

/-- `xdp_sase_classifier` on the bytes from `data` to `data_end`. -/
def xdpSaseClassifier (m : ClassifierMaps) (pkt : Bytes) : ClassifierMaps × Verdict :=
  classifyFrom { m with packetCount := (m.packetCount + 1) % 2 ^ 64 } pkt

/-- The flow key of a frame the program parses. -/
def flowOf (pkt : Bytes) : Option FlowKey := if parseEthhdr pkt then extractFlowKey pkt else none

theorem classifyFrom_eq (m : ClassifierMaps) (pkt : Bytes) :
    classifyFrom m pkt = match flowOf pkt with
      | some flow => classifyFlow m flow (pkt.length % 2 ^ 32)
      | none => (m, .pass) := by
  unfold classifyFrom flowOf
  split_ifs <;> rfl

/-! ### Runs -/

/-- What happens to the maps: a packet, a write from user space to the policy trie, or the
deletion of a cache entry (by user space, or by the kernel evicting it on its own). -/
inductive Event where
  | packet (pkt : Bytes)
  | setPolicy (prefixlen addr : ℕ) (pol : Policy)
  | deletePolicy (prefixlen addr : ℕ)
  | evict (flow : FlowKey)
  deriving DecidableEq, Repr

/-- One event: the maps after it, and the verdict of a packet. -/
def Event.step (m : ClassifierMaps) : Event → ClassifierMaps × Option Verdict
  | .packet pkt => ((xdpSaseClassifier m pkt).1, some (xdpSaseClassifier m pkt).2)
  | .setPolicy prefixlen addr pol =>
    ({ m with policyTrie := lpmUpdateAny m.policyTrie prefixlen addr pol }, none)
  | .deletePolicy prefixlen addr => ({ m with policyTrie := lpmDelete m.policyTrie prefixlen addr }, none)
  | .evict flow => ({ m with flowCache := m.flowCache.delete flow }, none)

/-- The events one after another: the maps after them, and what each returned. -/
def run (m : ClassifierMaps) (evs : List Event) : ClassifierMaps × List (Option Verdict) :=
  tailLoop Event.step m evs

/-- The events that write the policy trie. -/
def Event.writesPolicy : Event → Bool
  | .setPolicy .. | .deletePolicy .. => true
  | _ => false

/-! ### The cache stands in for the trie -/

/-- The verdict of the trie `t` for a flow: the action of the longest prefix of its
destination, `XDP_PASS` without one. -/
def trieVerdict (t : HashMap (ℕ × ℕ) Policy) (flow : FlowKey) : Verdict :=
  match lpmLookup t flow.dstIp with
  | some pol => policyVerdict pol.action
  | none => .pass

/-- The classifier the flow cache stands in for: the trie looked up on every packet. -/
def plainClassifier (t : HashMap (ℕ × ℕ) Policy) (pkt : Bytes) : Verdict :=
  if parseEthhdr pkt then
    match extractFlowKey pkt with
    | some flow => trieVerdict t flow
    | none => .pass
  else .pass

/-- What the plain classifier returns for an event. -/
def Event.plain (t : HashMap (ℕ × ℕ) Policy) : Event → Option Verdict
  | .packet pkt => some (plainClassifier t pkt)
  | _ => none

/-- The fast path's condition: every cache entry holds the action the trie now gives its
destination. -/
def Coherent (m : ClassifierMaps) : Prop :=
  ∀ e ∈ m.flowCache.entries, (lpmLookup m.policyTrie e.1.dstIp).map Policy.action = some e.2.action

/-- The two switches agree: `ACTION_ALLOW` falls into the slow path's default. -/
theorem cachedVerdict_eq_policyVerdict (a : ℕ) : cachedVerdict a = policyVerdict a := by
  unfold cachedVerdict policyVerdict ACTION_ALLOW ACTION_DENY ACTION_REDIRECT
  split_ifs <;> first | rfl | omega

theorem coherent_of_entries_nil {m : ClassifierMaps} (h : m.flowCache.entries = []) :
    Coherent m := by
  intro e he
  rw [h] at he
  cases he

/-- The program after the count keeps the cache coherent and the trie as it is, and returns
what the trie gives the flow. -/
theorem classifyFlow_spec {m : ClassifierMaps} (hc : Coherent m) (flow : FlowKey) (len : ℕ) :
    Coherent (classifyFlow m flow len).1 ∧ (classifyFlow m flow len).1.policyTrie = m.policyTrie ∧
      (classifyFlow m flow len).2 = trieVerdict m.policyTrie flow := by
  cases hl : m.flowCache.lookup flow with
  | some d =>
    rw [classifyFlow_of_cached hl]
    refine ⟨fun e he => ?_, rfl, ?_⟩
    · obtain ⟨e₀, h₀, h₁, h₂ | ⟨-, h₂⟩⟩ := LruMap.mem_modify he <;> rw [h₁, h₂] <;> exact hc e₀ h₀
    · have hd := hc _ (LruMap.mem_of_lookup_eq_some hl)
      unfold trieVerdict
      cases hp : lpmLookup m.policyTrie flow.dstIp with
      | none => simp [hp] at hd
      | some pol =>
        simp only [hp, Option.map_some', Option.some.injEq] at hd
        rw [← hd, cachedVerdict_eq_policyVerdict]
  | none =>
    cases hp : lpmLookup m.policyTrie flow.dstIp with
    | some pol =>
      rw [classifyFlow_of_policy hl hp]
      refine ⟨fun e he => ?_, rfl, by simp [trieVerdict, hp]⟩
      rcases LruMap.mem_update he with h | rfl
      · exact hc e h
      · simp [hp, PolicyDecision.ofPolicy]
    | none =>
      rw [classifyFlow_of_none hl hp]
      exact ⟨hc, rfl, by simp [trieVerdict, hp]⟩

theorem classifyFrom_spec {m : ClassifierMaps} (hc : Coherent m) (pkt : Bytes) :
    Coherent (classifyFrom m pkt).1 ∧ (classifyFrom m pkt).1.policyTrie = m.policyTrie ∧
      (classifyFrom m pkt).2 = plainClassifier m.policyTrie pkt := by
  unfold classifyFrom plainClassifier
  split_ifs
  · cases extractFlowKey pkt with
    | some flow => exact classifyFlow_spec hc flow _
    | none => exact ⟨hc, rfl, rfl⟩
  · exact ⟨hc, rfl, rfl⟩

/-- One event that leaves the trie alone keeps the cache coherent and returns what the plain
classifier returns. -/
theorem step_plain {m : ClassifierMaps} (hc : Coherent m) {e : Event}
    (he : e.writesPolicy = false) :
    Coherent (e.step m).1 ∧ (e.step m).1.policyTrie = m.policyTrie ∧
      (e.step m).2 = e.plain m.policyTrie := by
  cases e with
  | packet pkt =>
    obtain ⟨h₁, h₂, h₃⟩ := classifyFrom_spec (m := { m with packetCount := (m.packetCount + 1) % 2 ^ 64 }) hc pkt
    exact ⟨h₁, h₂, by rw [Event.step, Event.plain, xdpSaseClassifier, h₃]⟩
  | evict flow => exact ⟨fun e h => hc e (LruMap.mem_delete h), rfl, rfl⟩
  | setPolicy | deletePolicy => cases he

/-- While user space leaves the policy trie alone, the flow cache changes no verdict: from a
coherent cache (the loaded program's empty one, say), over any run of packets and evictions,
every packet gets the verdict of a lookup of the trie. -/
theorem run_eq_plain {m : ClassifierMaps} (hc : Coherent m) (evs : List Event)
    (hw : ∀ e ∈ evs, e.writesPolicy = false) :
    (run m evs).2 = evs.map (Event.plain m.policyTrie) :=
  tailLoop_map_of_mem (fun s => Coherent s ∧ s.policyTrie = m.policyTrie) _ Event.step evs
    (fun s e he ⟨hs, ht⟩ => by
      obtain ⟨h₁, h₂, h₃⟩ := step_plain hs (hw e he)
      exact ⟨⟨h₁, h₂.trans ht⟩, h₃.trans (by rw [ht])⟩) m ⟨hc, rfl⟩


/-- The loaded program after user space writes a `/8` deny of `10.0.0.0` into the trie. -/
def denyNetMaps : ClassifierMaps :=
  (run classifierMapsInit [.setPolicy 8 0x0A000000 ⟨ACTION_DENY, 7⟩]).1

/-- A frame of the ICMP flow from `11.0.0.1` to `10.0.0.1`. -/
def toNet10 : Bytes :=
  List.replicate 12 0 ++ be16 ETH_P_IP ++
    (Ip4Header.mk 0x45 0 20 0 0 64 IPPROTO_ICMP 0 0x0B000001 0x0A000001).toBytes

/-- Two packets of a flow the `/8` matches: the first misses the cache and caches the flow,
the second hits it. -/
theorem run_eq_plain_denyNet :
    Coherent denyNetMaps ∧ (∀ e ∈ [Event.packet toNet10, .packet toNet10], e.writesPolicy = false) ∧
      (run denyNetMaps [.packet toNet10, .packet toNet10]).2 =
        [Event.packet toNet10, .packet toNet10].map (Event.plain denyNetMaps.policyTrie) ∧
      denyNetMaps.flowCache.lookup ⟨0x0B000001, 0x0A000001, 0, 0, IPPROTO_ICMP⟩ = none ∧
      ((run denyNetMaps [.packet toNet10]).1.flowCache.lookup
        ⟨0x0B000001, 0x0A000001, 0, 0, IPPROTO_ICMP⟩).isSome ∧
      (run denyNetMaps [.packet toNet10, .packet toNet10]).2 = [some .drop, some .drop] :=
  ⟨coherent_of_entries_nil rfl, by decide, run_eq_plain (coherent_of_entries_nil rfl) _ (by decide),
    by decide, by decide, by decide⟩

/-! ### Writes to the trie do not reach cached flows -/

/-- The keys of a cache and the actions it holds for them. -/
def actionsOf (c : LruMap FlowKey PolicyDecision) (k : FlowKey) : Option ℕ :=
  (c.lookup k).map PolicyDecision.action

/-- The verdict the cache `c` gives a frame: the cached action of its flow (`XDP_PASS` for a
frame without a flow key, or for a flow the cache does not hold). -/
def cacheVerdict (c : LruMap FlowKey PolicyDecision) (pkt : Bytes) : Verdict :=
  match flowOf pkt with
  | some flow => ((actionsOf c flow).map cachedVerdict).getD .pass
  | none => .pass

/-- The events that leave the flows of the cache `c` in place: packets of flows it holds (or
without a flow key), and writes to the trie. -/
def Event.sparesCache (c : LruMap FlowKey PolicyDecision) : Event → Bool
  | .packet pkt =>
    match flowOf pkt with
    | some flow => (actionsOf c flow).isSome
    | none => true
  | .setPolicy .. | .deletePolicy .. => true
  | .evict _ => false

/-- What the cache `c` answers for an event. -/
def Event.cached (c : LruMap FlowKey PolicyDecision) : Event → Option Verdict
  | .packet pkt => some (cacheVerdict c pkt)
  | _ => none

theorem actionsOf_modify_count (c : LruMap FlowKey PolicyDecision) (flow : FlowKey) (len : ℕ) :
    actionsOf (c.modify flow (PolicyDecision.count len)) = actionsOf c := by
  funext k
  simp only [actionsOf, LruMap.lookup_modify]
  split_ifs with h
  · subst h
    cases c.lookup k <;> rfl
  · rfl

/-- A packet of a cached flow takes the fast path: the cache keeps its keys and actions, and the
verdict is the flow's cached action. -/
theorem step_cached {m : ClassifierMaps} {e : Event} (he : e.sparesCache m.flowCache = true) :
    actionsOf (e.step m).1.flowCache = actionsOf m.flowCache ∧
      (e.step m).2 = e.cached m.flowCache := by
  cases e with
  | packet pkt =>
    simp only [Event.sparesCache] at he
    simp only [Event.step, Event.cached, xdpSaseClassifier, classifyFrom_eq, cacheVerdict]
    cases hf : flowOf pkt with
    | none => exact ⟨rfl, rfl⟩
    | some flow =>
      rw [hf] at he
      obtain ⟨d, hd⟩ := Option.isSome_iff_exists.mp (Option.isSome_map'.symm.trans he)
      dsimp only
      rw [classifyFlow_of_cached (m := { m with packetCount := (m.packetCount + 1) % 2 ^ 64 }) hd]
      exact ⟨actionsOf_modify_count _ _ _, by simp [actionsOf, hd]⟩
  | setPolicy | deletePolicy => exact ⟨rfl, rfl⟩
  | evict => cases he

/-- Writes to the policy trie do not reach the flows the cache holds: over any run of their
packets interleaved with any writes to the trie, every packet gets the verdict of its flow's
action as cached at the start, whatever the trie says by then. -/
theorem run_cached_ignores_policy (m : ClassifierMaps) (evs : List Event)
    (h : ∀ e ∈ evs, e.sparesCache m.flowCache = true) :
    (run m evs).2 = evs.map (Event.cached m.flowCache) :=
  tailLoop_map_of_mem (fun s => actionsOf s.flowCache = actionsOf m.flowCache) _ Event.step evs
    (fun s e he hs => by
      have hs' : e.sparesCache s.flowCache = true := by
        cases e <;> simp only [Event.sparesCache, hs] <;> exact h _ he
      obtain ⟨h₁, h₂⟩ := step_cached hs'
      exact ⟨h₁.trans hs, h₂.trans (by cases e <;> simp only [Event.cached, cacheVerdict, hs])⟩)
    m rfl

/-- A cached flow keeps its verdict after user space turns its policy to `ACTION_DENY`. -/
theorem run_cached_ignores_policy_denied :
    (∀ e ∈ [Event.setPolicy 0 0 ⟨ACTION_DENY, 2⟩, .packet (ip4Frame 0x0A000001 IPPROTO_ICMP)],
      e.sparesCache (run classifierMapsInit
        [.setPolicy 0 0 ⟨ACTION_ALLOW, 1⟩, .packet (ip4Frame 0x0A000001 IPPROTO_ICMP)]).1.flowCache = true) ∧
    (run (run classifierMapsInit
        [.setPolicy 0 0 ⟨ACTION_ALLOW, 1⟩, .packet (ip4Frame 0x0A000001 IPPROTO_ICMP)]).1
      [.setPolicy 0 0 ⟨ACTION_DENY, 2⟩, .packet (ip4Frame 0x0A000001 IPPROTO_ICMP)]).2 =
      [Event.setPolicy 0 0 ⟨ACTION_DENY, 2⟩, .packet (ip4Frame 0x0A000001 IPPROTO_ICMP)].map
        (Event.cached (run classifierMapsInit
          [.setPolicy 0 0 ⟨ACTION_ALLOW, 1⟩, .packet (ip4Frame 0x0A000001 IPPROTO_ICMP)]).1.flowCache) :=
  ⟨by decide, run_cached_ignores_policy _ _ (by decide)⟩

/-! ### The counts of the cache entries -/

/-- The counters of every cache entry are `u64` values. -/
def CountersFit (m : ClassifierMaps) : Prop :=
  ∀ e ∈ m.flowCache.entries, e.2.packets < 2 ^ 64 ∧ e.2.bytes < 2 ^ 64

theorem countersFit_step {m : ClassifierMaps} (hm : CountersFit m) (e : Event) :
    CountersFit (e.step m).1 := by
  have hcount : ∀ len (d : PolicyDecision), (d.count len).packets < 2 ^ 64 ∧
      (d.count len).bytes < 2 ^ 64 := fun _ _ => ⟨Nat.mod_lt _ (by decide), Nat.mod_lt _ (by decide)⟩
  cases e with
  | packet pkt =>
    simp only [Event.step, xdpSaseClassifier, classifyFrom_eq]
    cases flowOf pkt with
    | none => exact hm
    | some flow =>
      dsimp only
      cases hl : m.flowCache.lookup flow with
      | some d =>
        rw [classifyFlow_of_cached (m := { m with packetCount := (m.packetCount + 1) % 2 ^ 64 }) hl]
        intro e he
        obtain ⟨e₀, h₀, -, h₂ | ⟨-, h₂⟩⟩ := LruMap.mem_modify he <;> rw [h₂]
        · exact hm e₀ h₀
        · exact hcount _ _
      | none =>
        cases hp : lpmLookup m.policyTrie flow.dstIp with
        | some pol =>
          rw [classifyFlow_of_policy (m := { m with packetCount := (m.packetCount + 1) % 2 ^ 64 }) hl hp]
          intro e he
          rcases LruMap.mem_update he with h | rfl
          · exact hm e h
          · simp only [PolicyDecision.ofPolicy]
            omega
        | none =>
          rw [classifyFlow_of_none (m := { m with packetCount := (m.packetCount + 1) % 2 ^ 64 }) hl hp]
          exact hm
  | setPolicy | deletePolicy => exact hm
  | evict flow => exact fun e he => hm e (LruMap.mem_delete he)

/-- The flow key of an event's frame. -/
def Event.flow : Event → Option FlowKey
  | .packet pkt => flowOf pkt
  | _ => none

/-- The length the program counts for an event's frame, `ctx->data_end - ctx->data`. -/
def Event.len : Event → ℕ
  | .packet pkt => pkt.length % 2 ^ 32
  | _ => 0

/-- The number of packets of the flow `flow` among the events. -/
def flowPackets (flow : FlowKey) (evs : List Event) : ℕ :=
  evs.countP fun e => decide (e.flow = some flow)

/-- The bytes of the packets of the flow `flow` among the events. -/
def flowBytes (flow : FlowKey) (evs : List Event) : ℕ :=
  ((evs.filter fun e => decide (e.flow = some flow)).map Event.len).sum

/-- The counters of a cache entry after `n` more packets of `b` more bytes. -/
def PolicyDecision.advance (n b : ℕ) (d : PolicyDecision) : PolicyDecision :=
  { d with packets := (d.packets + n) % 2 ^ 64, bytes := (d.bytes + b) % 2 ^ 64 }

theorem advance_count (d : PolicyDecision) (len n b : ℕ) :
    (d.count len).advance n b = d.advance (n + 1) (b + len) := by
  simp only [PolicyDecision.count, PolicyDecision.advance, PolicyDecision.mk.injEq, true_and]
  omega

theorem advance_zero {d : PolicyDecision} (hp : d.packets < 2 ^ 64) (hb : d.bytes < 2 ^ 64) :
    d.advance 0 0 = d := by
  simp only [PolicyDecision.advance, Nat.add_zero, Nat.mod_eq_of_lt hp, Nat.mod_eq_of_lt hb]

/-- The step lemma of the counts: an event that spares the cache advances the counters of its
own flow by one packet and its length, and no others. -/
theorem step_lookup {m : ClassifierMaps} {e : Event} (he : e.sparesCache m.flowCache = true)
    (flow : FlowKey) :
    (e.step m).1.flowCache.lookup flow =
      if e.flow = some flow then (m.flowCache.lookup flow).map (PolicyDecision.count e.len)
      else m.flowCache.lookup flow := by
  cases e with
  | packet pkt =>
    simp only [Event.sparesCache] at he
    simp only [Event.step, Event.flow, Event.len, xdpSaseClassifier, classifyFrom_eq]
    cases hf : flowOf pkt with
    | none => rfl
    | some g =>
      rw [hf] at he
      obtain ⟨d, hd⟩ := Option.isSome_iff_exists.mp (Option.isSome_map'.symm.trans he)
      dsimp only
      rw [classifyFlow_of_cached (m := { m with packetCount := (m.packetCount + 1) % 2 ^ 64 }) hd]
      simp only [LruMap.lookup_modify, Option.some.injEq, eq_comm (a := g)]
      split_ifs with hg
      · rw [hg]
      · rfl
  | setPolicy | deletePolicy => rfl
  | evict => cases he

/-- The counters of the cache count: over any run of packets of cached flows interleaved with
writes to the trie, from any state the program reaches, each flow's entry ends with its packet
and byte counters advanced by the number and the total length of the flow's packets, modulo
`2^64`. -/
theorem run_counts_cached (pre evs : List Event)
    (h : ∀ e ∈ evs, e.sparesCache (run classifierMapsInit pre).1.flowCache = true) (flow : FlowKey) :
    (run (run classifierMapsInit pre).1 evs).1.flowCache.lookup flow =
      ((run classifierMapsInit pre).1.flowCache.lookup flow).map
        (PolicyDecision.advance (flowPackets flow evs) (flowBytes flow evs)) := by
  have hfit : CountersFit (run classifierMapsInit pre).1 :=
    tailLoop_inv CountersFit Event.step (fun s e hs => countersFit_step hs e) _ pre
      (fun e he => by cases he)
  generalize (run classifierMapsInit pre).1 = m at h hfit
  induction evs generalizing m with
  | nil =>
    show m.flowCache.lookup flow = _
    cases hl : m.flowCache.lookup flow with
    | none => rfl
    | some d =>
      obtain ⟨hp, hb⟩ := hfit _ (LruMap.mem_of_lookup_eq_some hl)
      exact congrArg some (advance_zero hp hb).symm
  | cons e evs ih =>
    have he := h e (List.mem_cons_self _ _)
    have hs : ∀ e' ∈ evs, e'.sparesCache (e.step m).1.flowCache = true := fun e' he' => by
      cases e' <;> simp only [Event.sparesCache, (step_cached he).1] <;>
        exact h _ (List.mem_cons_of_mem _ he')
    rw [run, tailLoop_cons, ← run, ih _ hs (countersFit_step hfit e), step_lookup he]
    by_cases hf : e.flow = some flow
    · simp only [flowPackets, flowBytes, List.countP_cons, List.filter_cons, hf, decide_True,
        if_true, List.map_cons, List.sum_cons, Option.map_map]
      cases m.flowCache.lookup flow with
      | none => rfl
      | some d =>
        simp only [Option.map_some', Function.comp_apply, advance_count]
        congr 2
        omega
    · simp only [flowPackets, flowBytes, List.countP_cons, List.filter_cons, hf, decide_False,
        if_false, Bool.false_eq_true, Nat.add_zero]

/-- Two more packets of a cached ICMP flow, around a write to the trie. -/
theorem run_counts_cached_icmp :
    (∀ e ∈ [Event.packet (ip4Frame 0x0A000001 IPPROTO_ICMP), .setPolicy 0 0 ⟨ACTION_DENY, 2⟩,
        .packet (ip4Frame 0x0A000001 IPPROTO_ICMP)],
      e.sparesCache (run classifierMapsInit
        [.setPolicy 0 0 ⟨ACTION_ALLOW, 1⟩, .packet (ip4Frame 0x0A000001 IPPROTO_ICMP)]).1.flowCache = true) ∧
    (run (run classifierMapsInit
        [.setPolicy 0 0 ⟨ACTION_ALLOW, 1⟩, .packet (ip4Frame 0x0A000001 IPPROTO_ICMP)]).1
      [.packet (ip4Frame 0x0A000001 IPPROTO_ICMP), .setPolicy 0 0 ⟨ACTION_DENY, 2⟩,
        .packet (ip4Frame 0x0A000001 IPPROTO_ICMP)]).1.flowCache.lookup ⟨0x0A000001, 0, 0, 0, 1⟩ =
      ((run classifierMapsInit
        [.setPolicy 0 0 ⟨ACTION_ALLOW, 1⟩, .packet (ip4Frame 0x0A000001 IPPROTO_ICMP)]).1.flowCache.lookup
          ⟨0x0A000001, 0, 0, 0, 1⟩).map
        (PolicyDecision.advance
          (flowPackets ⟨0x0A000001, 0, 0, 0, 1⟩ [.packet (ip4Frame 0x0A000001 IPPROTO_ICMP),
            .setPolicy 0 0 ⟨ACTION_DENY, 2⟩, .packet (ip4Frame 0x0A000001 IPPROTO_ICMP)])
          (flowBytes ⟨0x0A000001, 0, 0, 0, 1⟩ [.packet (ip4Frame 0x0A000001 IPPROTO_ICMP),
            .setPolicy 0 0 ⟨ACTION_DENY, 2⟩, .packet (ip4Frame 0x0A000001 IPPROTO_ICMP)])) :=
  ⟨by decide, run_counts_cached _ _ (by decide) _⟩

end OpenSase.XdpClassifier
