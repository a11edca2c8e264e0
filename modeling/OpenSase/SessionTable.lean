import OpenSase.Security
import Mathlib.Algebra.Order.Field.Rat
import Mathlib.Algebra.BigOperators.Group.List

/-!
The session table of `node_security.c` over whole runs: `session_hash` stays a bijection onto
the slots in use, a new flow is dropped exactly when every slot is in use, and the forward
counters of a session count every buffer of the run under its key (`securityRun_counts`).
-/
namespace OpenSase.Security

/-- `osm->session_timeout_secs`, which `opensase_init` sets and nothing reads. -/
def sessionTimeoutSecs : ℚ := 300

/-! ### The table as a bounded map -/

/-- The part of a worker that lookups read and write. -/
structure SessionTable where
  capacity : ℕ
  nSessions : ℕ
  sessionHash : ℕ → Option ℕ
  sessionsCreated : ℕ

def Worker.table (w : Worker) : SessionTable :=
  ⟨w.capacity, w.nSessions, w.sessionHash, w.sessionsCreated⟩

namespace SessionTable

/-- What a lookup does to the table: a known key gives its slot, a new key the next free
slot while one is left, and nothing once every slot is in use. -/
def lookup (t : SessionTable) (k : ℕ) : Option ℕ × SessionTable :=
  match t.sessionHash k with
  | some i => (some i, t)
  | none =>
    if t.capacity ≤ t.nSessions then (none, t)
    else
      (some t.nSessions,
        { t with
          nSessions := t.nSessions + 1
          sessionHash := Function.update t.sessionHash k (some t.nSessions)
          sessionsCreated := t.sessionsCreated + 1 })

/-- Every key names a slot in use. -/
def HashBelow (t : SessionTable) : Prop := ∀ k i, t.sessionHash k = some i → i < t.nSessions

/-- The representation invariant: the slots in use lie in the arena, every creation is
counted, and `session_hash` maps its keys one to one onto the slots in use. -/
structure Inv (t : SessionTable) : Prop where
  le_capacity : t.nSessions ≤ t.capacity
  created : t.sessionsCreated = t.nSessions
  lt : t.HashBelow
  inj : ∀ k k' i, t.sessionHash k = some i → t.sessionHash k' = some i → k = k'
  onto : ∀ i < t.nSessions, ∃ k, t.sessionHash k = some i

theorem lookup_of_none {t : SessionTable} {k : ℕ} (hk : t.sessionHash k = none)
    (hc : t.nSessions < t.capacity) :
    t.lookup k = (some t.nSessions,
      { t with
        nSessions := t.nSessions + 1
        sessionHash := Function.update t.sessionHash k (some t.nSessions)
        sessionsCreated := t.sessionsCreated + 1 }) := by
  simp only [lookup, hk, if_neg (Nat.not_le.mpr hc)]

theorem lookup_capacity (t : SessionTable) (k : ℕ) : (t.lookup k).2.capacity = t.capacity := by
  unfold lookup
  split
  · rfl
  · split_ifs <;> rfl

/-- With every slot in use, a lookup changes nothing. -/
theorem lookup_snd_of_full {t : SessionTable} (h : t.capacity ≤ t.nSessions) (k : ℕ) :
    (t.lookup k).2 = t := by
  unfold lookup
  split
  · rfl
  · rw [if_pos h]

/-- A lookup keeps every key below `n_sessions`, answers with a slot in use and never
frees one. -/
theorem lookup_hashBelow {t : SessionTable} (h : t.HashBelow) (k : ℕ) :
    (t.lookup k).2.HashBelow ∧ (∀ i ∈ (t.lookup k).1, i < (t.lookup k).2.nSessions) ∧
      t.nSessions ≤ (t.lookup k).2.nSessions := by
  rcases hk : t.sessionHash k with _ | i
  · rcases Nat.lt_or_ge t.nSessions t.capacity with hc | hc
    · rw [lookup_of_none hk hc]
      dsimp only
      refine ⟨fun k' i' hk' => ?_, fun i' hi' => by cases hi'; omega, by omega⟩
      dsimp only at hk' ⊢
      rw [Function.update_apply] at hk'
      split_ifs at hk'
      · cases hk'; omega
      · have := h k' i' hk'; omega
    · simp only [lookup, hk, if_pos hc]
      exact ⟨h, fun _ hi => absurd hi (by simp), le_rfl⟩
  · simp only [lookup, hk]
    exact ⟨h, fun i' hi' => by cases hi'; exact h k i hk, le_rfl⟩

/-- Every lookup keeps the invariant. -/
theorem lookup_inv {t : SessionTable} (h : t.Inv) (k : ℕ) : (t.lookup k).2.Inv := by
  rcases hk : t.sessionHash k with _ | i
  · rcases Nat.lt_or_ge t.nSessions t.capacity with hc | hc
    · have hb := (lookup_hashBelow h.lt k).1
      rw [lookup_of_none hk hc] at hb ⊢
      dsimp only at hb ⊢
      refine ⟨by dsimp only; omega, by dsimp only; rw [h.created], hb, ?_, ?_⟩
      · intro k₁ k₂ i' h₁ h₂
        dsimp only at h₁ h₂
        rw [Function.update_apply] at h₁ h₂
        split_ifs at h₁ h₂ with e₁ e₂ e₂
        · rw [e₁, e₂]
        · cases h₁; exact absurd (h.lt k₂ _ h₂) (Nat.lt_irrefl _)
        · cases h₂; exact absurd (h.lt k₁ _ h₁) (Nat.lt_irrefl _)
        · exact h.inj k₁ k₂ i' h₁ h₂
      · intro i' hi'
        dsimp only at hi' ⊢
        rcases Nat.lt_or_ge i' t.nSessions with hlt | hge
        · obtain ⟨k', hk'⟩ := h.onto i' hlt
          have hne : k' ≠ k := fun he => by rw [he, hk] at hk'; cases hk'
          exact ⟨k', by rw [Function.update_noteq hne, hk']⟩
        · exact ⟨k, by rw [Function.update_same, show i' = t.nSessions by omega]⟩
    · simp only [lookup, hk, if_pos hc]
      exact h
  · simp only [lookup, hk]
    exact h

/-- Under the invariant a lookup fails exactly when its key is new and every slot is in
use. -/
theorem lookup_eq_none_iff {t : SessionTable} (h : t.Inv) (k : ℕ) :
    (t.lookup k).1 = none ↔ t.sessionHash k = none ∧ t.nSessions = t.capacity := by
  have := h.le_capacity
  rcases hk : t.sessionHash k with _ | i
  · rcases Nat.lt_or_ge t.nSessions t.capacity with hc | hc
    · rw [lookup_of_none hk hc]
      exact iff_of_false (by simp) (by omega)
    · simp only [lookup, hk, if_pos hc, true_and, true_iff]
      omega
  · simp only [lookup, hk, reduceCtorEq, false_and]

end SessionTable

section Table

variable (e : Endian) (clibXxhash : ℕ → ℕ) (now : ℚ)

/-- The key the node looks a buffer up under: `opensase_session_hash` of its header and
of the ports it extracts. -/
def bufferHash (b : Buffer) : ℕ :=
  opensaseSessionHash e clibXxhash b.data (tcpUdpPortsFixed b.data).1 (tcpUdpPortsFixed b.data).2

/-- The lookup of one buffer, as both loops make it. -/
def lookupBuffer (w : Worker) (b : Buffer) : Option ℕ × Worker :=
  opensaseSessionLookupOrCreate e clibXxhash now w b.data (tcpUdpPortsFixed b.data).1
    (tcpUdpPortsFixed b.data).2

/-! ### One lookup -/

theorem lookupBuffer_of_some {w : Worker} {b : Buffer} {i : ℕ}
    (h : w.sessionHash (bufferHash e clibXxhash b) = some i) :
    lookupBuffer e clibXxhash now w b = (some i, w) := by
  unfold bufferHash at h
  simp only [lookupBuffer, opensaseSessionLookupOrCreate, h]

theorem lookupBuffer_of_full {w : Worker} {b : Buffer}
    (h : w.sessionHash (bufferHash e clibXxhash b) = none) (hc : w.capacity ≤ w.nSessions) :
    lookupBuffer e clibXxhash now w b = (none, w) := by
  unfold bufferHash at h
  simp only [lookupBuffer, opensaseSessionLookupOrCreate, h, if_pos hc]

theorem lookupBuffer_of_room {w : Worker} {b : Buffer}
    (h : w.sessionHash (bufferHash e clibXxhash b) = none) (hc : w.nSessions < w.capacity) :
    lookupBuffer e clibXxhash now w b =
      (some w.nSessions,
        { w with
          sessions := Function.update w.sessions w.nSessions
            (newSession now b.data (tcpUdpPortsFixed b.data).1 (tcpUdpPortsFixed b.data).2)
          nSessions := w.nSessions + 1
          sessionHash := Function.update w.sessionHash (bufferHash e clibXxhash b) (some w.nSessions)
          sessionsCreated := w.sessionsCreated + 1 }) := by
  unfold bufferHash at h ⊢
  simp only [lookupBuffer, opensaseSessionLookupOrCreate, h, if_neg (Nat.not_le.mpr hc)]

@[simp] theorem Worker.table_sessionHash (w : Worker) : w.table.sessionHash = w.sessionHash := rfl

@[simp] theorem Worker.table_nSessions (w : Worker) : w.table.nSessions = w.nSessions := rfl

@[simp] theorem Worker.table_capacity (w : Worker) : w.table.capacity = w.capacity := rfl

/-- The source's lookup does to the table what the bounded map's lookup does. -/
theorem lookupBuffer_table (w : Worker) (b : Buffer) :
    ((lookupBuffer e clibXxhash now w b).1, (lookupBuffer e clibXxhash now w b).2.table) =
      w.table.lookup (bufferHash e clibXxhash b) := by
  rcases hk : w.sessionHash (bufferHash e clibXxhash b) with _ | i
  · rcases Nat.lt_or_ge w.nSessions w.capacity with hc | hc
    · rw [lookupBuffer_of_room e clibXxhash now hk hc, SessionTable.lookup_of_none hk hc]
      rfl
    · rw [lookupBuffer_of_full e clibXxhash now hk hc]
      simp only [SessionTable.lookup, Worker.table_sessionHash, hk, Worker.table_capacity,
        Worker.table_nSessions, if_pos hc]
  · rw [lookupBuffer_of_some e clibXxhash now hk]
    simp only [SessionTable.lookup, Worker.table_sessionHash, hk]

/-! ### Lookups and statistics updates commute -/

@[simp] theorem touchIf_table (w : Worker) (o : Option ℕ) (len : ℕ) :
    (touchIf now w o len).table = w.table := by
  cases o <;> rfl

@[simp] theorem touchIf_nSessions (w : Worker) (o : Option ℕ) (len : ℕ) :
    (touchIf now w o len).nSessions = w.nSessions := by
  cases o <;> rfl

/-- A lookup of the worker after the update of a session in use is the lookup before it,
followed by the update: the update writes neither the table nor the slot a lookup
creates. -/
theorem lookupBuffer_touchIf (w : Worker) (o : Option ℕ) (len : ℕ)
    (ho : ∀ i ∈ o, i < w.nSessions) (b : Buffer) :
    lookupBuffer e clibXxhash now (touchIf now w o len) b =
      ((lookupBuffer e clibXxhash now w b).1,
        touchIf now (lookupBuffer e clibXxhash now w b).2 o len) := by
  cases o with
  | none => rfl
  | some i =>
    have hi : i ≠ w.nSessions := Nat.ne_of_lt (ho i rfl)
    rcases hk : w.sessionHash (bufferHash e clibXxhash b) with _ | j
    · rcases Nat.lt_or_ge w.nSessions w.capacity with hc | hc
      · rw [lookupBuffer_of_room e clibXxhash now (w := touchIf now w (some i) len) hk hc,
          lookupBuffer_of_room e clibXxhash now hk hc]
        simp only [touchIf, touch, Function.update_noteq hi, Function.update_comm hi]
      · rw [lookupBuffer_of_full e clibXxhash now (w := touchIf now w (some i) len) hk hc,
          lookupBuffer_of_full e clibXxhash now hk hc]
    · rw [lookupBuffer_of_some e clibXxhash now (w := touchIf now w (some i) len) hk,
        lookupBuffer_of_some e clibXxhash now hk]

/-- The statistics updates of a list of lookups, in order. -/
def touchAll (w : Worker) (ts : List (Option ℕ × ℕ)) : Worker :=
  ts.foldl (fun w t => touchIf now w t.1 t.2) w

/-- The lookups of a list of buffers in order: their results and the worker after. -/
def lookupAll : Worker → List Buffer → List (Option ℕ) × Worker
  | w, [] => ([], w)
  | w, b :: bs =>
    let r := lookupBuffer e clibXxhash now w b
    let t := lookupAll r.2 bs
    (r.1 :: t.1, t.2)

theorem lookupBuffer_touchAll (w : Worker) (ts : List (Option ℕ × ℕ))
    (hts : ∀ t ∈ ts, ∀ i ∈ t.1, i < w.nSessions) (b : Buffer) :
    lookupBuffer e clibXxhash now (touchAll now w ts) b =
      ((lookupBuffer e clibXxhash now w b).1,
        touchAll now (lookupBuffer e clibXxhash now w b).2 ts) := by
  induction ts generalizing w with
  | nil => rfl
  | cons t ts ih =>
    have hts' : ∀ t' ∈ ts, ∀ i ∈ t'.1, i < (touchIf now w t.1 t.2).nSessions := fun t' ht' =>
      (touchIf_nSessions now w t.1 t.2).symm ▸ hts t' (List.mem_cons_of_mem _ ht')
    show lookupBuffer e clibXxhash now (touchAll now (touchIf now w t.1 t.2) ts) b = _
    rw [ih _ hts', lookupBuffer_touchIf e clibXxhash now w t.1 t.2 (hts t (List.mem_cons_self _ _))]
    rfl

theorem lookupBuffer_hashBelow {w : Worker} (hw : w.table.HashBelow) (b : Buffer) :
    (lookupBuffer e clibXxhash now w b).2.table.HashBelow ∧
      (∀ i ∈ (lookupBuffer e clibXxhash now w b).1,
        i < (lookupBuffer e clibXxhash now w b).2.nSessions) ∧
      w.nSessions ≤ (lookupBuffer e clibXxhash now w b).2.nSessions := by
  have h := SessionTable.lookup_hashBelow hw (bufferHash e clibXxhash b)
  rw [← lookupBuffer_table] at h
  exact h

/-- Single iterations from a worker with updates still pending: the lookups in order,
then every update, the pending ones first. -/
theorem tailLoop_touchAll (w : Worker) (hw : w.table.HashBelow) (ts : List (Option ℕ × ℕ))
    (hts : ∀ t ∈ ts, ∀ i ∈ t.1, i < w.nSessions) (bs : List Buffer) :
    tailLoop (securityOne e clibXxhash now) (touchAll now w ts) bs =
      (touchAll now (lookupAll e clibXxhash now w bs).2
          (ts ++ (lookupAll e clibXxhash now w bs).1.zip (bs.map Buffer.lengthInChain)),
        List.zipWith securityOut bs (lookupAll e clibXxhash now w bs).1) := by
  induction bs generalizing w ts with
  | nil => simp only [tailLoop_nil, lookupAll, List.zip_nil_left, List.append_nil]; rfl
  | cons b bs ih =>
    obtain ⟨hb, hlt, hle⟩ := lookupBuffer_hashBelow e clibXxhash now hw b
    have hts' : ∀ t ∈ ts ++ [((lookupBuffer e clibXxhash now w b).1, b.lengthInChain)],
        ∀ i ∈ t.1, i < (lookupBuffer e clibXxhash now w b).2.nSessions := by
      intro t ht i hi
      rcases List.mem_append.mp ht with ht | ht
      · exact Nat.lt_of_lt_of_le (hts t ht i hi) hle
      · rw [List.mem_singleton.mp ht] at hi
        exact hlt i hi
    have hone : securityOne e clibXxhash now (touchAll now w ts) b =
        (touchAll now (lookupBuffer e clibXxhash now w b).2
            (ts ++ [((lookupBuffer e clibXxhash now w b).1, b.lengthInChain)]),
          securityOut b (lookupBuffer e clibXxhash now w b).1) := by
      show (touchIf now (lookupBuffer e clibXxhash now (touchAll now w ts) b).2
        (lookupBuffer e clibXxhash now (touchAll now w ts) b).1 b.lengthInChain,
        securityOut b (lookupBuffer e clibXxhash now (touchAll now w ts) b).1) = _
      rw [lookupBuffer_touchAll e clibXxhash now w ts hts b]
      simp only [touchAll, List.foldl_append, List.foldl_cons, List.foldl_nil]
    rw [tailLoop_cons, hone, ih _ hb _ hts']
    simp only [lookupAll, List.map_cons, List.zip_cons_cons, List.zipWith_cons_cons,
      List.append_assoc, List.singleton_append]

/-- The four-wide iteration does what four single iterations do. -/
theorem securityQuad_eq_tailLoop (w : Worker) (hw : w.table.HashBelow) (b0 b1 b2 b3 : Buffer) :
    securityQuad e clibXxhash now w b0 b1 b2 b3 =
      tailLoop (securityOne e clibXxhash now) w [b0, b1, b2, b3] := by
  rw [show tailLoop (securityOne e clibXxhash now) w [b0, b1, b2, b3] =
      tailLoop (securityOne e clibXxhash now) (touchAll now w []) [b0, b1, b2, b3] from rfl,
    tailLoop_touchAll e clibXxhash now w hw [] (fun _ h => absurd h (List.not_mem_nil _))]
  rfl

/-! ### The node -/

theorem securityOne_eq (w : Worker) (b : Buffer) :
    securityOne e clibXxhash now w b =
      (touchIf now (lookupBuffer e clibXxhash now w b).2 (lookupBuffer e clibXxhash now w b).1
          b.lengthInChain,
        securityOut b (lookupBuffer e clibXxhash now w b).1) := rfl

theorem securityOne_table (w : Worker) (b : Buffer) :
    (securityOne e clibXxhash now w b).1.table = (w.table.lookup (bufferHash e clibXxhash b)).2 := by
  rw [securityOne_eq, touchIf_table, ← lookupBuffer_table]

theorem securityOne_drop_iff (w : Worker) (b : Buffer) :
    (securityOne e clibXxhash now w b).2.2 = .drop ↔
      (w.table.lookup (bufferHash e clibXxhash b)).1 = none := by
  rw [securityOne_eq, ← lookupBuffer_table]
  unfold securityOut
  cases (lookupBuffer e clibXxhash now w b).1 <;> simp

/-- From every worker whose keys name slots in use, the node is its tail loop followed by
`packets_processed += n`. -/
theorem opensaseSecurityNode_eq_tailLoop (w : Worker) (hw : w.table.HashBelow)
    (frame : List Buffer) :
    opensaseSecurityNode e clibXxhash now w frame =
      ({ (tailLoop (securityOne e clibXxhash now) w frame).1 with
          packetsProcessed :=
            ((tailLoop (securityOne e clibXxhash now) w frame).1.packetsProcessed + frame.length) %
              2 ^ 64 },
        (tailLoop (securityOne e clibXxhash now) w frame).2) := by
  unfold opensaseSecurityNode
  rw [vectorLoop_eq_tailLoop (fun w => w.table.HashBelow) _ _
    (fun s b hs => by simp only [securityOne_table]; exact (SessionTable.lookup_hashBelow hs _).1)
    (fun s b0 b1 b2 b3 hs => securityQuad_eq_tailLoop e clibXxhash now s hs b0 b1 b2 b3) w frame hw]

/-- A buffer of a new flow, with room in the table, gets session `n_sessions`, stamped
`now`. -/
theorem securityOne_fresh (w : Worker) (b : Buffer)
    (hk : w.sessionHash (bufferHash e clibXxhash b) = none) (hroom : w.nSessions < w.capacity)
    (hact : ∀ i < w.nSessions, (w.sessions i).lastActive = now) :
    (securityOne e clibXxhash now w b).1.sessionHash =
        Function.update w.sessionHash (bufferHash e clibXxhash b) (some w.nSessions) ∧
      (securityOne e clibXxhash now w b).1.nSessions = w.nSessions + 1 ∧
      (securityOne e clibXxhash now w b).1.capacity = w.capacity ∧
      ∀ i < w.nSessions + 1, ((securityOne e clibXxhash now w b).1.sessions i).lastActive = now := by
  have hstep := securityOne_eq e clibXxhash now w b
  rw [lookupBuffer_of_room e clibXxhash now hk hroom] at hstep
  refine ⟨by rw [hstep]; rfl, by rw [hstep]; rfl, by rw [hstep]; rfl, fun i hi => ?_⟩
  rw [hstep]
  simp only [touchIf, touch, Function.update_apply]
  split_ifs with he
  · rfl
  · exact hact i (by omega)

/-- A run over buffers whose keys are new and pairwise distinct, with room for all of
them, gives each its own new slot, active now. -/
theorem tailLoop_fresh (w : Worker) (bs : List Buffer)
    (hnodup : (bs.map (bufferHash e clibXxhash)).Nodup)
    (hfresh : ∀ b ∈ bs, w.sessionHash (bufferHash e clibXxhash b) = none)
    (hroom : w.nSessions + bs.length ≤ w.capacity)
    (hact : ∀ i < w.nSessions, (w.sessions i).lastActive = now) :
    (tailLoop (securityOne e clibXxhash now) w bs).1.nSessions = w.nSessions + bs.length ∧
      (∀ k ∉ bs.map (bufferHash e clibXxhash),
        (tailLoop (securityOne e clibXxhash now) w bs).1.sessionHash k = w.sessionHash k) ∧
      (tailLoop (securityOne e clibXxhash now) w bs).1.capacity = w.capacity ∧
      ∀ i < (tailLoop (securityOne e clibXxhash now) w bs).1.nSessions,
        ((tailLoop (securityOne e clibXxhash now) w bs).1.sessions i).lastActive = now := by
  induction bs generalizing w with
  | nil => exact ⟨rfl, fun _ _ => rfl, rfl, hact⟩
  | cons b bs ih =>
    simp only [List.map_cons, List.nodup_cons, List.mem_map, not_exists, not_and] at hnodup
    simp only [List.length_cons] at hroom
    obtain ⟨hs1, hs2, hs3, hs4⟩ :=
      securityOne_fresh e clibXxhash now w b (hfresh b (List.mem_cons_self _ _)) (by omega) hact
    obtain ⟨h1, h2, h3, h4⟩ := ih (securityOne e clibXxhash now w b).1 hnodup.2
      (fun b' hb' => by
        rw [hs1, Function.update_noteq (fun he => hnodup.1 b' hb' he)]
        exact hfresh b' (List.mem_cons_of_mem _ hb'))
      (by rw [hs2, hs3]; omega) (by rw [hs2]; exact hs4)
    rw [tailLoop_cons]
    refine ⟨by rw [h1, hs2, List.length_cons]; omega, fun k hk' => ?_, by rw [h3, hs3], h4⟩
    simp only [List.map_cons, List.mem_cons, not_or] at hk'
    rw [h2 k hk'.2, hs1]
    exact Function.update_noteq hk'.1 _ _

/-! ### The forward counters -/

/-- The buffers of `bs` under the session key `k`. -/
def buffersOf (k : ℕ) (bs : List Buffer) : List Buffer :=
  bs.filter fun b => bufferHash e clibXxhash b = k

theorem buffersOf_append_singleton (k : ℕ) (bs : List Buffer) (b : Buffer) :
    buffersOf e clibXxhash k (bs ++ [b]) =
      if bufferHash e clibXxhash b = k then buffersOf e clibXxhash k bs ++ [b]
      else buffersOf e clibXxhash k bs := by
  unfold buffersOf
  split_ifs with h <;> simp [List.filter_append, h]

/-- A session whose forward counters are the number and the total length of `bs`. -/
def Session.Counts (s : Session) (bs : List Buffer) : Prop :=
  s.packetsFwd = bs.length % 2 ^ 64 ∧ s.bytesFwd = (bs.map Buffer.lengthInChain).sum % 2 ^ 64

/-- The forward counters count the buffers `bs` processed so far: the session of a key has
seen the number and the total length of those under the key, and a key without a session
had none of them while a slot was free. -/
def Counted (w : Worker) (bs : List Buffer) : Prop :=
  (∀ k i, w.sessionHash k = some i → (w.sessions i).Counts (buffersOf e clibXxhash k bs)) ∧
    ∀ k, w.sessionHash k = none → w.nSessions < w.capacity → buffersOf e clibXxhash k bs = []

theorem touch_sessions_self (w : Worker) (i len : ℕ) :
    (touch now w i len).sessions i =
      { w.sessions i with
        packetsFwd := ((w.sessions i).packetsFwd + 1) % 2 ^ 64,
        bytesFwd := ((w.sessions i).bytesFwd + len) % 2 ^ 64, lastActive := now } :=
  Function.update_same _ _ _

theorem touch_sessions_ne (w : Worker) {i j : ℕ} (h : j ≠ i) (len : ℕ) :
    (touch now w i len).sessions j = w.sessions j :=
  Function.update_noteq h _ _

theorem touch_counts {w : Worker} {i : ℕ} {bs : List Buffer} (h : (w.sessions i).Counts bs)
    (b : Buffer) : ((touch now w i b.lengthInChain).sessions i).Counts (bs ++ [b]) := by
  rw [touch_sessions_self]
  simp only [Session.Counts, List.length_append, List.length_singleton, List.map_append,
    List.map_singleton, List.sum_append, List.sum_singleton, h.1, h.2, Nat.mod_add_mod, and_self]

theorem buffersOf_append_ne {k : ℕ} {b : Buffer} (h : bufferHash e clibXxhash b ≠ k)
    (bs : List Buffer) : buffersOf e clibXxhash k (bs ++ [b]) = buffersOf e clibXxhash k bs := by
  rw [buffersOf_append_singleton, if_neg h]

/-- Keys that `session_hash` maps differently are different keys. -/
theorem ne_of_sessionHash {w : Worker} {b : Buffer} {k : ℕ} {o o' : Option ℕ}
    (hb : w.sessionHash (bufferHash e clibXxhash b) = o) (hk : w.sessionHash k = o') (h : o ≠ o') :
    bufferHash e clibXxhash b ≠ k := fun he => h (by rw [← hb, ← hk, he])

/-- The statistics update of the session `i` of the buffer's key counts the buffer there. -/
theorem counted_touch {w : Worker} (hw : w.table.Inv) {bs : List Buffer}
    (hc : Counted e clibXxhash w bs) {b : Buffer} {i : ℕ}
    (hk : w.sessionHash (bufferHash e clibXxhash b) = some i) :
    Counted e clibXxhash (touch now w i b.lengthInChain) (bs ++ [b]) := by
  refine ⟨fun k j (hj : w.sessionHash k = some j) => ?_,
    fun k (hj : w.sessionHash k = none) hr => ?_⟩
  · by_cases hji : j = i
    · subst hji
      obtain rfl := hw.inj _ _ _ hk hj
      rw [buffersOf_append_singleton, if_pos rfl]
      exact touch_counts now (hc.1 _ _ hk) b
    · rw [touch_sessions_ne now _ hji,
        buffersOf_append_ne e clibXxhash (ne_of_sessionHash e clibXxhash hk hj (by simpa using Ne.symm hji))]
      exact hc.1 k j hj
  · rw [buffersOf_append_ne e clibXxhash (ne_of_sessionHash e clibXxhash hk hj (by simp))]
    exact hc.2 k hj hr

/-- A lookup that creates the session of a new key, with a slot free, keeps the counters
counting: the new session is zeroed, and its key had no buffer yet. -/
theorem counted_create {w : Worker} (hw : w.table.Inv) {bs : List Buffer}
    (hc : Counted e clibXxhash w bs) {b : Buffer}
    (hk : w.sessionHash (bufferHash e clibXxhash b) = none) (hroom : w.nSessions < w.capacity) :
    Counted e clibXxhash (lookupBuffer e clibXxhash now w b).2 bs := by
  rw [lookupBuffer_of_room e clibXxhash now hk hroom]
  refine ⟨fun k j hj => ?_, fun k hj hr => ?_⟩ <;> dsimp only at hj ⊢ <;>
    rw [Function.update_apply] at hj <;> split_ifs at hj with hkk
  -- the new key, another key with a session, another key without one
  · cases hj
    rw [Function.update_same, hkk, hc.2 _ hk hroom]
    exact ⟨rfl, rfl⟩
  · have hjn : j ≠ w.nSessions := Nat.ne_of_lt (hw.lt k j hj)
    rw [Function.update_noteq hjn]
    exact hc.1 k j hj
  · exact hc.2 k hj (by omega)

/-- One buffer keeps the counters counting: it adds itself to the session of its key, and
to nothing else. -/
theorem securityOne_counted {w : Worker} (hw : w.table.Inv) {bs : List Buffer}
    (hc : Counted e clibXxhash w bs) (b : Buffer) :
    Counted e clibXxhash (securityOne e clibXxhash now w b).1 (bs ++ [b]) := by
  rw [securityOne_eq]
  rcases hk : w.sessionHash (bufferHash e clibXxhash b) with _ | i
  · rcases Nat.lt_or_ge w.nSessions w.capacity with hroom | hfull
    · have h₁ := lookupBuffer_of_room e clibXxhash now hk hroom
      have hinv : (lookupBuffer e clibXxhash now w b).2.table.Inv := by
        have h := congrArg Prod.snd (lookupBuffer_table e clibXxhash now w b)
        dsimp only at h
        rw [h]
        exact SessionTable.lookup_inv hw _
      rw [show (lookupBuffer e clibXxhash now w b).1 = some w.nSessions by rw [h₁]]
      exact counted_touch e clibXxhash now hinv (counted_create e clibXxhash now hw hc hk hroom)
        (by rw [h₁]; exact Function.update_same _ _ _)
    · rw [lookupBuffer_of_full e clibXxhash now hk hfull]
      dsimp only [touchIf]
      refine ⟨fun k j hj => ?_, fun k _ hr => absurd hr (by omega)⟩
      rw [buffersOf_append_ne e clibXxhash (ne_of_sessionHash e clibXxhash hk hj (by simp))]
      exact hc.1 k j hj
  · rw [lookupBuffer_of_some e clibXxhash now hk]
    exact counted_touch e clibXxhash now hw hc hk

/-- A run of single iterations keeps the invariant and the counters counting every buffer
it processed. -/
theorem tailLoop_counted {w : Worker} (hw : w.table.Inv) {bs : List Buffer}
    (hc : Counted e clibXxhash w bs) (frame : List Buffer) :
    (tailLoop (securityOne e clibXxhash now) w frame).1.table.Inv ∧
      Counted e clibXxhash (tailLoop (securityOne e clibXxhash now) w frame).1 (bs ++ frame) := by
  induction frame generalizing w bs with
  | nil => exact ⟨hw, by rw [List.append_nil]; exact hc⟩
  | cons b frame ih =>
    rw [tailLoop_cons, List.append_cons]
    exact ih (by rw [securityOne_table]; exact SessionTable.lookup_inv hw _)
      (securityOne_counted e clibXxhash now hw hc b)

end Table

section Runs

variable (e : Endian) (clibXxhash : ℕ → ℕ)

/-- The workers a run of the security node reaches from `opensase_worker_init` with an
arena of `cap` slots: any number of frames, each at its own time. -/
inductive Reachable (cap : ℕ) : Worker → Prop
  | init : Reachable cap (opensaseWorkerInit cap)
  | node {w : Worker} (now : ℚ) (frame : List Buffer) :
      Reachable cap w → Reachable cap (opensaseSecurityNode e clibXxhash now w frame).1

theorem opensaseWorkerInit_inv (cap : ℕ) : (opensaseWorkerInit cap).table.Inv where
  le_capacity := Nat.zero_le _
  created := rfl
  lt := fun _ _ h => by cases h
  inj := fun _ _ _ h => by cases h
  onto := fun _ h => absurd h (Nat.not_lt_zero _)

/-- One run of the node keeps the invariant and the arena. -/
theorem opensaseSecurityNode_inv {w : Worker} (hw : w.table.Inv) (now : ℚ) (frame : List Buffer) :
    (opensaseSecurityNode e clibXxhash now w frame).1.table.Inv ∧
      (opensaseSecurityNode e clibXxhash now w frame).1.capacity = w.capacity := by
  rw [opensaseSecurityNode_eq_tailLoop e clibXxhash now w hw.lt]
  exact tailLoop_inv (fun s => s.table.Inv ∧ s.capacity = w.capacity) (securityOne e clibXxhash now)
    (fun s b hs => ⟨by simp only [securityOne_table]; exact SessionTable.lookup_inv hs.1 _,
      by rw [← hs.2, ← Worker.table_capacity, securityOne_table, SessionTable.lookup_capacity]; rfl⟩)
    w frame ⟨hw, rfl⟩

theorem Reachable.inv {cap : ℕ} {w : Worker} (hw : Reachable e clibXxhash cap w) :
    w.table.Inv ∧ w.capacity = cap := by
  induction hw with
  | init => exact ⟨opensaseWorkerInit_inv cap, rfl⟩
  | node now frame _ ih =>
    obtain ⟨h1, h2⟩ := opensaseSecurityNode_inv e clibXxhash ih.1 now frame
    exact ⟨h1, h2.trans ih.2⟩

theorem opensaseSecurityNode_table_inv (cap : ℕ) (w : Worker) (hw : Reachable e clibXxhash cap w)
    (now : ℚ) (frame : List Buffer) :
    w.table.Inv ∧ w.capacity = cap ∧
      List.Forall₂ (fun (sb : Worker × Buffer) (o : Buffer × SecurityNext) => sb.1.table.Inv ∧
          (o.2 = .drop ↔ sb.1.sessionHash (bufferHash e clibXxhash sb.2) = none ∧
            sb.1.nSessions = sb.1.capacity))
        (tailLoopTrace (securityOne e clibXxhash now) w frame)
        (opensaseSecurityNode e clibXxhash now w frame).2 := by
  obtain ⟨hinv, hcap⟩ := Reachable.inv e clibXxhash hw
  refine ⟨hinv, hcap, ?_⟩
  rw [opensaseSecurityNode_eq_tailLoop e clibXxhash now w hinv.lt]
  exact tailLoop_forall₂_trace (fun s => s.table.Inv)
    (fun (s : Worker) (b : Buffer) (o : Buffer × SecurityNext) => o.2 = .drop ↔
      s.sessionHash (bufferHash e clibXxhash b) = none ∧ s.nSessions = s.capacity)
    (securityOne e clibXxhash now) (fun s b hs =>
    ⟨by simp only [securityOne_table]; exact SessionTable.lookup_inv hs _,
      (securityOne_drop_iff e clibXxhash now s b).trans (SessionTable.lookup_eq_none_iff hs _)⟩)
    w frame hinv

theorem opensaseSecurityNode_table_inv_init :
    Reachable .little id 2 (opensaseWorkerInit 2) ∧
      (opensaseWorkerInit 2).table.Inv ∧ (opensaseWorkerInit 2).capacity = 2 ∧
      List.Forall₂ (fun (sb : Worker × Buffer) (o : Buffer × SecurityNext) => sb.1.table.Inv ∧
          (o.2 = .drop ↔ sb.1.sessionHash (bufferHash .little id sb.2) = none ∧
            sb.1.nSessions = sb.1.capacity))
        (tailLoopTrace (securityOne .little id 0) (opensaseWorkerInit 2) [⟨flowA, default, 0⟩])
        (opensaseSecurityNode .little id 0 (opensaseWorkerInit 2) [⟨flowA, default, 0⟩]).2 :=
  ⟨.init, opensaseSecurityNode_table_inv .little id 2 _ .init 0 _⟩

/-- The worker a run reaches with one frame at time 0 that carries a new flow per slot:
every slot in use, every session idle since time 0. From any time past
`session_timeout_secs` on, a buffer of yet another flow is dropped. -/
theorem opensaseSecurityNode_full_drops_idle (cap : ℕ) (flows : List Buffer)
    (hlen : flows.length = cap) (hnodup : (flows.map (bufferHash e clibXxhash)).Nodup)
    (b : Buffer) (hb : bufferHash e clibXxhash b ∉ flows.map (bufferHash e clibXxhash))
    (now : ℚ) (hnow : sessionTimeoutSecs < now) :
    let w := (opensaseSecurityNode e clibXxhash 0 (opensaseWorkerInit cap) flows).1
    w.nSessions = w.capacity ∧
      (∀ i < w.nSessions, (w.sessions i).lastActive < now - sessionTimeoutSecs) ∧
      (opensaseSecurityNode e clibXxhash now w [b]).2.map Prod.snd = [.drop] := by
  intro w
  obtain ⟨hn, hkeys, hcap, hact⟩ := tailLoop_fresh e clibXxhash 0 (opensaseWorkerInit cap) flows
    hnodup (fun _ _ => rfl) (by rw [hlen]; exact (Nat.zero_add cap).le)
    (fun _ h => absurd h (Nat.not_lt_zero _))
  have hw : w = { (tailLoop (securityOne e clibXxhash 0) (opensaseWorkerInit cap) flows).1 with
      packetsProcessed := ((tailLoop (securityOne e clibXxhash 0) (opensaseWorkerInit cap)
        flows).1.packetsProcessed + flows.length) % 2 ^ 64 } :=
    congrArg Prod.fst (opensaseSecurityNode_eq_tailLoop e clibXxhash 0 _
      (opensaseWorkerInit_inv cap).lt flows)
  have hfull : w.nSessions = w.capacity := by
    rw [hw]; dsimp only; rw [hn, hcap, hlen]; exact Nat.zero_add cap
  have hnew : w.sessionHash (bufferHash e clibXxhash b) = none := by
    rw [hw]; exact hkeys _ hb
  refine ⟨hfull, fun i hi => ?_, ?_⟩
  · rw [hw] at hi ⊢
    rw [hact i hi]
    exact sub_pos.mpr hnow
  · show [(securityOut b (lookupBuffer e clibXxhash now w b).1).2] = [.drop]
    rw [lookupBuffer_of_full e clibXxhash now hnew hfull.ge]
    rfl

/-- Two flows, `10.0.0.1` and `10.0.0.3` to `10.0.0.2:80`, that fill a table of two
slots. -/
def twoFlows : List Buffer :=
  [⟨flowA, default, 0⟩, ⟨udpDatagram 0x0A000003 0x0A000002 1000 80 [], default, 0⟩]

/-- A third flow, from `10.0.0.4`. -/
def thirdFlow : Buffer := ⟨udpDatagram 0x0A000004 0x0A000002 1000 80 [], default, 0⟩

theorem opensaseSecurityNode_full_drops_idle_at_301 :
    twoFlows.length = 2 ∧ (twoFlows.map (bufferHash .little id)).Nodup ∧
      bufferHash .little id thirdFlow ∉ twoFlows.map (bufferHash .little id) ∧
      sessionTimeoutSecs < 301 ∧
      (opensaseSecurityNode .little id 0 (opensaseWorkerInit 2) twoFlows).1.nSessions =
        (opensaseSecurityNode .little id 0 (opensaseWorkerInit 2) twoFlows).1.capacity ∧
      (∀ i < (opensaseSecurityNode .little id 0 (opensaseWorkerInit 2) twoFlows).1.nSessions,
        ((opensaseSecurityNode .little id 0 (opensaseWorkerInit 2) twoFlows).1.sessions i).lastActive <
          301 - sessionTimeoutSecs) ∧
      (opensaseSecurityNode .little id 301
        (opensaseSecurityNode .little id 0 (opensaseWorkerInit 2) twoFlows).1 [thirdFlow]).2.map
          Prod.snd = [.drop] := by
  have hn : (twoFlows.map (bufferHash .little id)).Nodup := by decide
  have hb : bufferHash .little id thirdFlow ∉ twoFlows.map (bufferHash .little id) := by decide
  have ht : sessionTimeoutSecs < 301 := by unfold sessionTimeoutSecs; decide
  exact ⟨rfl, hn, hb, ht,
    opensaseSecurityNode_full_drops_idle .little id 2 twoFlows rfl hn thirdFlow hb 301 ht⟩

/-- Once every slot is in use, a run of the node leaves the table as it is and drops
exactly the buffers whose keys it does not hold. -/
theorem opensaseSecurityNode_of_full {w : Worker} (hw : w.table.Inv)
    (hfull : w.nSessions = w.capacity) (now : ℚ) (frame : List Buffer) :
    (opensaseSecurityNode e clibXxhash now w frame).1.table = w.table ∧
      List.Forall₂ (fun b o => o.2 = .drop ↔ w.sessionHash (bufferHash e clibXxhash b) = none)
        frame (opensaseSecurityNode e clibXxhash now w frame).2 := by
  have hkeep : ∀ s : Worker, s.table = w.table → ∀ b : Buffer,
      (securityOne e clibXxhash now s b).1.table = w.table := fun s hs b => by
    rw [securityOne_table, hs, SessionTable.lookup_snd_of_full (by rw [Worker.table_capacity,
      Worker.table_nSessions, hfull])]
  rw [opensaseSecurityNode_eq_tailLoop e clibXxhash now w hw.lt]
  refine ⟨tailLoop_inv (fun s => s.table = w.table) _ (fun s b hs => hkeep s hs b) w frame rfl,
    tailLoop_forall₂_inv (fun s => s.table = w.table) _ _ (fun s b hs => ⟨hkeep s hs b, ?_⟩)
      w frame rfl⟩
  rw [securityOne_drop_iff, hs, SessionTable.lookup_eq_none_iff hw]
  simp only [Worker.table_sessionHash, Worker.table_nSessions, Worker.table_capacity, hfull,
    and_true]

/-- The worker after two flows fill both of its slots. -/
def twoFlowsWorker : Worker := (opensaseSecurityNode .little id 0 (opensaseWorkerInit 2) twoFlows).1

theorem opensaseSecurityNode_of_full_twoFlows :
    twoFlowsWorker.table.Inv ∧ twoFlowsWorker.nSessions = twoFlowsWorker.capacity ∧
      (opensaseSecurityNode .little id 1 twoFlowsWorker (thirdFlow :: twoFlows)).1.table =
        twoFlowsWorker.table ∧
      List.Forall₂ (fun b o => o.2 = .drop ↔ twoFlowsWorker.sessionHash (bufferHash .little id b) = none)
        (thirdFlow :: twoFlows) (opensaseSecurityNode .little id 1 twoFlowsWorker (thirdFlow :: twoFlows)).2 := by
  have hw : twoFlowsWorker.table.Inv :=
    (opensaseSecurityNode_inv .little id (opensaseWorkerInit_inv 2) 0 twoFlows).1
  have hfull : twoFlowsWorker.nSessions = twoFlowsWorker.capacity := by decide
  exact ⟨hw, hfull, opensaseSecurityNode_of_full .little id hw hfull 1 _⟩

/-- The node over frames, each at its own time, from `opensase_worker_init` with an arena of
`cap` slots. -/
def securityRun (cap : ℕ) (frames : List (ℚ × List Buffer)) : Worker :=
  frames.foldl (fun w f => (opensaseSecurityNode e clibXxhash f.1 w f.2).1) (opensaseWorkerInit cap)

theorem foldl_counted {w : Worker} (hw : w.table.Inv) {bs : List Buffer}
    (hc : Counted e clibXxhash w bs) (frames : List (ℚ × List Buffer)) :
    Counted e clibXxhash (frames.foldl (fun w f => (opensaseSecurityNode e clibXxhash f.1 w f.2).1) w)
      (bs ++ (frames.map Prod.snd).flatten) := by
  induction frames generalizing w bs with
  | nil => rw [List.map_nil, List.flatten_nil, List.append_nil]; exact hc
  | cons f frames ih =>
    rw [List.foldl_cons, List.map_cons, List.flatten_cons, ← List.append_assoc]
    have hn := opensaseSecurityNode_eq_tailLoop e clibXxhash f.1 w hw.lt f.2
    obtain ⟨hi, hc'⟩ := tailLoop_counted e clibXxhash f.1 hw hc f.2
    exact ih (by rw [hn]; exact hi) (by rw [hn]; exact hc')

/-- After any run from `opensase_worker_init`, a session's `packets_fwd` and `bytes_fwd` are the
number and total length of the run's buffers under its key, modulo `2^64`; a key without a
session had none unless every slot is in use. -/
theorem securityRun_counts (cap : ℕ) (frames : List (ℚ × List Buffer)) :
    (∀ k i, (securityRun e clibXxhash cap frames).sessionHash k = some i →
      ((securityRun e clibXxhash cap frames).sessions i).packetsFwd =
          (buffersOf e clibXxhash k (frames.map Prod.snd).flatten).length % 2 ^ 64 ∧
        ((securityRun e clibXxhash cap frames).sessions i).bytesFwd =
          ((buffersOf e clibXxhash k (frames.map Prod.snd).flatten).map Buffer.lengthInChain).sum %
            2 ^ 64) ∧
      ∀ k, (securityRun e clibXxhash cap frames).sessionHash k = none →
        (securityRun e clibXxhash cap frames).nSessions <
          (securityRun e clibXxhash cap frames).capacity →
        buffersOf e clibXxhash k (frames.map Prod.snd).flatten = [] := by
  have h₀ : Counted e clibXxhash (opensaseWorkerInit cap) [] :=
    ⟨fun _ _ h => (by cases h), fun _ _ _ => rfl⟩
  exact foldl_counted e clibXxhash (opensaseWorkerInit_inv cap) h₀ frames

end Runs

end OpenSase.Security
