import OpenSase.Frame
import Mathlib.Logic.Function.Basic

/-!
The source-prefix tenant table of `node_tenant.c`. The add command hashes the prefix, the lookup
the full address, and the scan takes the first match: not a longest-prefix map, but sound
(`opensaseTenantNode_sound`).
-/
namespace OpenSase.Tenant

def TENANT_HASH_BUCKETS : ℕ := 65536

def TENANT_HASH_MASK : ℕ := TENANT_HASH_BUCKETS - 1

/-- `tenant_entry_t`; the prefix is a wire-order address. -/
structure TenantEntry where
  srcPrefix : ℕ
  prefixLen : ℕ
  tenantId : ℕ
  vrfId : ℕ
  valid : Bool
  deriving DecidableEq, Repr, Inhabited

/-- `tenant_hash`: every bucket holds exactly its four slots. -/
structure TenantHash where
  bucket : ℕ → List TenantEntry
  bucket_length : ∀ i, (bucket i).length = 4

/-- The zero-initialised static table. -/
def initTenantHash : TenantHash := ⟨fun _ => List.replicate 4 default, fun _ => rfl⟩

section Lookup

variable (e : Endian) (clibXxhash : ℕ → ℕ)

/-- The bucket index both functions compute: `clib_xxhash (a.as_u32) & TENANT_HASH_MASK`. -/
def bucketIndex (a : ℕ) : ℕ := clibXxhash (hostToNet32 e a) &&& TENANT_HASH_MASK

/-- The slot scan of `tenant_lookup_fast`: the first valid entry whose prefix matches. -/
def lookupBucket (src : ℕ) : List TenantEntry → ℕ × ℕ
  | [] => (0, 0)
  | t :: ts =>
    if t.valid && prefixMatch e src t.srcPrefix t.prefixLen then (t.tenantId, t.vrfId)
    else lookupBucket src ts

/-- `tenant_lookup_fast`: the tenant id and the `vrf_id` it writes back; `(0, 0)` is the
default tenant. -/
def tenantLookupFast (th : TenantHash) (src : ℕ) : ℕ × ℕ :=
  lookupBucket e src (th.bucket (bucketIndex e clibXxhash src))

end Lookup

/-- `opensase_tenant_next_t`. -/
inductive TenantNext where
  | security
  | drop
  deriving DecidableEq, Repr

/-- The `n_next_nodes` of the node's registration: one past the last `TenantNext` value. -/
def OPENSASE_TENANT_N_NEXT : ℕ := 2

section Node

variable (e : Endian) (clibXxhash : ℕ → ℕ) (th : TenantHash)

/-- What each of the node's three loops does to a buffer:
`op->tenant_id = tenant_lookup_fast (&ip->src_address, &vrf)`, the `vrf` unused, and on to
`opensase-security`. -/
def tenantOne (s : Unit) (b : Buffer) : Unit × (Buffer × TenantNext) :=
  (s, (b.withMeta { b.meta with tenantId := (tenantLookupFast e clibXxhash th (ipSrc b.data)).1 },
    .security))

/-- The `opensase-tenant` node on one frame. -/
def opensaseTenantNode (frame : List Buffer) : List (Buffer × TenantNext) :=
  (tailLoop (tenantOne e clibXxhash th) () frame).2

end Node

/-- The parsed arguments of `opensase tenant add <prefix>/<len> tenant <id> [vrf <id>]`,
with the command's defaults. -/
structure TenantAddArgs where
  srcPrefix : ℕ
  prefixLen : ℕ := 24
  tenantId : ℕ := 1
  vrfId : ℕ := 0
  deriving DecidableEq, Repr

def TenantAddArgs.entry (c : TenantAddArgs) : TenantEntry :=
  ⟨c.srcPrefix, c.prefixLen, c.tenantId, c.vrfId, true⟩

/-- The free-slot search of the add command: the first invalid slot takes the entry. -/
def insertFree (new : TenantEntry) : List TenantEntry → Option (List TenantEntry)
  | [] => none
  | t :: ts => if t.valid then (insertFree new ts).map (t :: ·) else some (new :: ts)

theorem insertFree_length {new : TenantEntry} :
    ∀ {ts us : List TenantEntry}, insertFree new ts = some us → us.length = ts.length
  | [], _, h => by simp [insertFree] at h
  | t :: ts, us, h => by
    unfold insertFree at h
    split at h
    · obtain ⟨vs, hv, rfl⟩ := Option.map_eq_some'.mp h
      simp [insertFree_length hv]
    · cases h; rfl

/-- Every entry of the result is the new one or was already there. -/
theorem mem_insertFree {new t : TenantEntry} :
    ∀ {ts us : List TenantEntry}, insertFree new ts = some us → t ∈ us → t = new ∨ t ∈ ts
  | [], _, h, _ => by simp [insertFree] at h
  | u :: ts, us, h, ht => by
    unfold insertFree at h
    split at h
    · obtain ⟨vs, hv, rfl⟩ := Option.map_eq_some'.mp h
      rcases List.mem_cons.mp ht with rfl | ht
      · exact .inr (List.mem_cons_self _ _)
      · exact (mem_insertFree hv ht).imp_right (List.mem_cons_of_mem _)
    · cases h
      rcases List.mem_cons.mp ht with rfl | ht
      · exact .inl rfl
      · exact .inr (List.mem_cons_of_mem _ ht)

section Add

variable (e : Endian) (clibXxhash : ℕ → ℕ)

/-- `opensase_tenant_add_fn` after parsing: the entry goes into the first free slot of
the bucket of its prefix address, or the command fails with `hash bucket full`. -/
def opensaseTenantAddFn (th : TenantHash) (c : TenantAddArgs) : Except String TenantHash :=
  let h := bucketIndex e clibXxhash c.srcPrefix
  match hb : insertFree c.entry (th.bucket h) with
  | some b => .ok ⟨Function.update th.bucket h b, fun i => by
      by_cases hi : i = h
      · subst hi; simp [insertFree_length hb, th.bucket_length]
      · simp [hi, th.bucket_length]⟩
  | none => .error "hash bucket full"

/-- Spec lemma: a successful add replaces exactly the bucket of the prefix address by the
result of the free-slot search. -/
theorem opensaseTenantAddFn_ok {th th' : TenantHash} {c : TenantAddArgs}
    (hadd : opensaseTenantAddFn e clibXxhash th c = .ok th') :
    ∃ b, insertFree c.entry (th.bucket (bucketIndex e clibXxhash c.srcPrefix)) = some b ∧
      th'.bucket = Function.update th.bucket (bucketIndex e clibXxhash c.srcPrefix) b := by
  dsimp only [opensaseTenantAddFn] at hadd
  split at hadd
  · rename_i b hb
    cases hadd
    exact ⟨b, hb, rfl⟩
  · cases hadd

theorem opensaseTenantAddFn_of_insertFree {th : TenantHash} {c : TenantAddArgs}
    {b : List TenantEntry}
    (hb : insertFree c.entry (th.bucket (bucketIndex e clibXxhash c.srcPrefix)) = some b) :
    ∃ th', opensaseTenantAddFn e clibXxhash th c = .ok th' ∧
      th'.bucket = Function.update th.bucket (bucketIndex e clibXxhash c.srcPrefix) b := by
  dsimp only [opensaseTenantAddFn]
  split
  · rename_i b' hb'
    rw [hb] at hb'
    cases hb'
    exact ⟨_, rfl, rfl⟩
  · rename_i hb'
    rw [hb] at hb'
    cases hb'

/-- A sequence of add commands from the startup table, stopping at the first failure. -/
def runTenantAdds (cmds : List TenantAddArgs) : Except String TenantHash :=
  cmds.foldlM (opensaseTenantAddFn e clibXxhash) initTenantHash

/-- Every valid entry of the table was installed by one of the commands. -/
def Installed (cmds : List TenantAddArgs) (th : TenantHash) : Prop :=
  ∀ i, ∀ t ∈ th.bucket i, t.valid → ∃ c ∈ cmds, t = c.entry

theorem installed_init : Installed [] initTenantHash := by
  intro i t ht hv
  simp only [initTenantHash, List.mem_replicate] at ht
  rw [ht.2] at hv
  exact absurd hv (by decide)

theorem installed_mono {cmds cmds' : List TenantAddArgs} {th : TenantHash}
    (h : Installed cmds th) (hs : cmds ⊆ cmds') : Installed cmds' th := by
  intro i t ht hv
  obtain ⟨c, hc, rfl⟩ := h i t ht hv
  exact ⟨c, hs hc, rfl⟩

/-- Step lemma: a successful add of an accounted-for command keeps every valid entry
accounted for. -/
theorem installed_add {cmds : List TenantAddArgs} {th th' : TenantHash} {c : TenantAddArgs}
    (h : Installed cmds th) (hc : c ∈ cmds)
    (hadd : opensaseTenantAddFn e clibXxhash th c = .ok th') : Installed cmds th' := by
  obtain ⟨b, hb, hbucket⟩ := opensaseTenantAddFn_ok e clibXxhash hadd
  intro i t ht hv
  rw [hbucket] at ht
  by_cases hi : i = bucketIndex e clibXxhash c.srcPrefix
  · subst hi
    rw [Function.update_same] at ht
    rcases mem_insertFree hb ht with rfl | ht
    · exact ⟨c, hc, rfl⟩
    · exact h _ t ht hv
  · rw [Function.update_noteq hi] at ht
    exact h i t ht hv

/-- Run lemma: after any successful sequence of adds every valid entry is installed. -/
theorem installed_runTenantAdds {cmds : List TenantAddArgs} {th : TenantHash}
    (h : runTenantAdds e clibXxhash cmds = .ok th) : Installed cmds th := by
  have key : ∀ (rest : List TenantAddArgs) th₀, rest ⊆ cmds → Installed cmds th₀ →
      rest.foldlM (opensaseTenantAddFn e clibXxhash) th₀ = .ok th → Installed cmds th := by
    intro rest
    induction rest with
    | nil => intro th₀ _ h₀ hrun; cases hrun; exact h₀
    | cons c rest ih =>
      intro th₀ hsub h₀ hrun
      simp only [List.foldlM_cons, bind, Except.bind] at hrun
      split at hrun
      · cases hrun
      · rename_i th₁ hadd
        exact ih th₁ (List.subset_of_cons_subset hsub)
          (installed_add e clibXxhash h₀ (hsub (List.mem_cons_self _ _)) hadd) hrun
  exact key cmds _ (List.Subset.refl _) (installed_mono installed_init (List.nil_subset _)) h

theorem lookupBucket_sound (src : ℕ) (ts : List TenantEntry) :
    lookupBucket e src ts = (0, 0) ∨ ∃ t ∈ ts, t.valid ∧
      prefixMatch e src t.srcPrefix t.prefixLen ∧ lookupBucket e src ts = (t.tenantId, t.vrfId) := by
  induction ts with
  | nil => exact .inl rfl
  | cons t ts ih =>
    by_cases ht : t.valid && prefixMatch e src t.srcPrefix t.prefixLen
    · simp only [Bool.and_eq_true] at ht
      exact .inr ⟨t, List.mem_cons_self _ _, ht.1, ht.2, by simp [lookupBucket, ht]⟩
    · simp only [lookupBucket, ht, Bool.false_eq_true, ↓reduceIte]
      exact ih.imp_right fun ⟨u, hu, h⟩ => ⟨u, List.mem_cons_of_mem _ hu, h⟩

/-- Soundness of the tenant lookup: after any successful sequence of add commands, a
lookup either yields the default `(0, 0)` or the tenant and VRF of an installed command
whose prefix test passes for the address. -/
theorem tenantLookupFast_sound {cmds : List TenantAddArgs} {th : TenantHash}
    (h : runTenantAdds e clibXxhash cmds = .ok th) (src : ℕ) :
    tenantLookupFast e clibXxhash th src = (0, 0) ∨ ∃ c ∈ cmds,
      prefixMatch e src c.srcPrefix c.prefixLen ∧
        tenantLookupFast e clibXxhash th src = (c.tenantId, c.vrfId) := by
  rcases lookupBucket_sound e src (th.bucket (bucketIndex e clibXxhash src)) with h0 | ⟨t, ht, hv, hm, hl⟩
  · exact .inl h0
  · obtain ⟨c, hc, rfl⟩ := installed_runTenantAdds e clibXxhash h _ t ht hv
    exact .inr ⟨c, hc, hm, hl⟩

/-- After any successful sequence of add commands, the `opensase-tenant` node sends every
buffer of every frame on to `opensase-security` unchanged but for its tenant id, which is
the default 0 or the tenant of an installed command whose prefix test passes for the
buffer's source address. -/
theorem opensaseTenantNode_sound {cmds : List TenantAddArgs} {th : TenantHash}
    (h : runTenantAdds e clibXxhash cmds = .ok th) (frame : List Buffer) :
    List.Forall₂ (fun b o => ∃ t, (t = 0 ∨ ∃ c ∈ cmds,
        prefixMatch e (ipSrc b.data) c.srcPrefix c.prefixLen ∧ t = c.tenantId) ∧
        o = (b.withMeta { b.meta with tenantId := t }, .security))
      frame (opensaseTenantNode e clibXxhash th frame) :=
  tailLoop_forall₂_inv (fun _ => True) _ (tenantOne e clibXxhash th) (fun _ b _ => ⟨trivial,
    match tenantLookupFast_sound e clibXxhash h (ipSrc b.data) with
    | .inl h0 => ⟨_, .inl (by rw [h0]), rfl⟩
    | .inr ⟨c, hc, hm, hl⟩ => ⟨_, .inr ⟨c, hc, hm, by rw [hl]⟩, rfl⟩⟩) () frame trivial

/-- `10.0.0.0/8` for tenant 1, and a frame from `10.0.0.1`. -/
theorem opensaseTenantNode_sound_slash8 :
    ∃ th, runTenantAdds .little id [⟨0x0A000000, 8, 1, 0⟩] = .ok th ∧
      List.Forall₂ (fun (b : Buffer) (o : Buffer × TenantNext) => ∃ t,
          (t = 0 ∨ ∃ c ∈ [(⟨0x0A000000, 8, 1, 0⟩ : TenantAddArgs)],
          prefixMatch .little (ipSrc b.data) c.srcPrefix c.prefixLen ∧ t = c.tenantId) ∧
          o = (b.withMeta { b.meta with tenantId := t }, .security))
        [⟨flowA, default, 0⟩] (opensaseTenantNode .little id th [⟨flowA, default, 0⟩]) :=
  ⟨_, rfl, @opensaseTenantNode_sound .little id [⟨0x0A000000, 8, 1, 0⟩] _ rfl _⟩

end Add

/-! ### The longest-prefix contract -/

/-- The first `len` bits of the wire-order address `a` are those of `pfx`. -/
def PrefixContains (pfx len a : ℕ) : Prop := a / 2 ^ (32 - len) = pfx / 2 ^ (32 - len)

instance (pfx len a : ℕ) : Decidable (PrefixContains pfx len a) :=
  inferInstanceAs (Decidable (_ = _))

/-- `r` is what a longest-prefix map over the installed commands gives for `a`: the
tenant and VRF of a longest installed prefix containing `a`, or `(0, 0)` if none does. -/
def LongestPrefixResult (cmds : List TenantAddArgs) (a : ℕ) (r : ℕ × ℕ) : Prop :=
  (∃ c ∈ cmds, PrefixContains c.srcPrefix c.prefixLen a ∧
    (∀ c' ∈ cmds, PrefixContains c'.srcPrefix c'.prefixLen a → c'.prefixLen ≤ c.prefixLen) ∧
    r = (c.tenantId, c.vrfId)) ∨
  ((∀ c ∈ cmds, ¬ PrefixContains c.srcPrefix c.prefixLen a) ∧ r = (0, 0))

/-- The contract asked of the tenant table: after any successful adds of prefixes of
length `1..32`, every source address is looked up to its longest installed prefix. -/
def TenantLookupIsLongestPrefix (e : Endian) (clibXxhash : ℕ → ℕ) : Prop :=
  ∀ (cmds : List TenantAddArgs) (th : TenantHash),
    (∀ c ∈ cmds, 1 ≤ c.prefixLen ∧ c.prefixLen ≤ 32 ∧ c.srcPrefix < 2 ^ 32) →
    runTenantAdds e clibXxhash cmds = .ok th →
    ∀ a < 2 ^ 32, LongestPrefixResult cmds a (tenantLookupFast e clibXxhash th a)

/-- The table breaks the longest-prefix contract for every hash function and host byte
order. `10.0.0.0/8` alone is found for `10.1.0.5` only if both addresses hash to one
bucket; and then `10.1.0.5/32` added after it lands behind it in that bucket, so the
first-match scan returns the `/8` tenant. -/
theorem tenantLookupFast_not_longest_prefix (e : Endian) (clibXxhash : ℕ → ℕ) :
    ¬ TenantLookupIsLongestPrefix e clibXxhash := by
  intro hc
  let c8 : TenantAddArgs := ⟨0x0A000000, 8, 1, 0⟩
  let c32 : TenantAddArgs := ⟨0x0A010005, 32, 2, 0⟩
  have hm8 : prefixMatch e 0x0A010005 0x0A000000 8 = true := by cases e <;> decide
  obtain ⟨th1, hadd1, hb1⟩ := @opensaseTenantAddFn_of_insertFree e clibXxhash initTenantHash c8
    [c8.entry, default, default, default] rfl
  by_cases hb : bucketIndex e clibXxhash 0x0A010005 = bucketIndex e clibXxhash 0x0A000000
  · have hins : insertFree c32.entry (th1.bucket (bucketIndex e clibXxhash c32.srcPrefix)) =
        some [c8.entry, c32.entry, default, default] := by
      rw [hb1, show c32.srcPrefix = 0x0A010005 from rfl, hb, Function.update_same]; rfl
    obtain ⟨th2, hadd2, hb2⟩ := opensaseTenantAddFn_of_insertFree e clibXxhash hins
    have hrun : runTenantAdds e clibXxhash [c8, c32] = .ok th2 := by
      simp [runTenantAdds, hadd1, hadd2, bind, Except.bind, pure, Except.pure]
    have hl : tenantLookupFast e clibXxhash th2 0x0A010005 = (1, 0) := by
      simp only [tenantLookupFast, hb2, show c32.srcPrefix = 0x0A010005 from rfl,
        Function.update_same, lookupBucket, TenantAddArgs.entry, hm8]; rfl
    have := hc [c8, c32] th2 (by decide) hrun 0x0A010005 (by decide)
    rw [hl] at this
    exact absurd this (by unfold LongestPrefixResult; decide)
  · have hrun : runTenantAdds e clibXxhash [c8] = .ok th1 := by
      simp [runTenantAdds, hadd1, bind, Except.bind, pure, Except.pure]
    have hl : tenantLookupFast e clibXxhash th1 0x0A010005 = (0, 0) := by
      simp only [tenantLookupFast, hb1, show c8.srcPrefix = 0x0A000000 from rfl,
        Function.update_noteq hb]; rfl
    have := hc [c8] th1 (by decide) hrun 0x0A010005 (by decide)
    rw [hl] at this
    exact absurd this (by unfold LongestPrefixResult; decide)

end OpenSase.Tenant
