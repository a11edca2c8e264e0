import OpenSase.Frame

/-!
The elements of `bufs` that a node function's loops read, prefetches included. The eight-wide
tenant loop reads past the frame exactly when `n` is at least 8 and `n mod 8 < 4`.
-/
namespace OpenSase

/-- One unrolled loop `while (n_left_from >= stride)` as `bufs` sees it: the offsets from
`b` it prefetches, and the bound `n_left_from >= guard` around them (0 when there is
none). -/
structure PrefetchLoop where
  stride : ℕ
  guard : ℕ
  offsets : List ℕ
  deriving DecidableEq, Repr

namespace PrefetchLoop

/-- The elements one iteration reads, with `b = bufs + p` and `n_left_from = nLeft`:
`b[0 .. stride)`, then `b[o]` for each prefetch offset when the guard holds. -/
def iterReads (l : PrefetchLoop) (p nLeft : ℕ) : List ℕ :=
  (List.range l.stride).map (p + ·) ++ if l.guard ≤ nLeft then l.offsets.map (p + ·) else []

/-- The elements the loop reads from `b = bufs + p` with `nLeft` buffers left, in order, and
`b - bufs` when it exits. -/
def reads (l : PrefetchLoop) (p nLeft : ℕ) : List ℕ × ℕ :=
  if _ : 0 < l.stride ∧ l.stride ≤ nLeft then
    let r := l.reads (p + l.stride) (nLeft - l.stride)
    (l.iterReads p nLeft ++ r.1, r.2)
  else ([], p)
termination_by nLeft
decreasing_by omega

theorem reads_of_le {l : PrefetchLoop} {p nLeft : ℕ} (h : 0 < l.stride ∧ l.stride ≤ nLeft) :
    l.reads p nLeft = (l.iterReads p nLeft ++ (l.reads (p + l.stride) (nLeft - l.stride)).1,
      (l.reads (p + l.stride) (nLeft - l.stride)).2) := by
  rw [reads, dif_pos h]

theorem reads_of_not {l : PrefetchLoop} {p nLeft : ℕ} (h : ¬ (0 < l.stride ∧ l.stride ≤ nLeft)) :
    l.reads p nLeft = ([], p) := by
  rw [reads, dif_neg h]

/-- Every prefetch the loop makes from `nLeft` buffers is inside the frame: the iterations
run at the `n_left_from` values `m` from `nLeft` down by the stride while `m ≥ stride`, and
at each one that passes the guard every offset is below `m`. -/
def SafeFrom (l : PrefetchLoop) (nLeft : ℕ) : Prop :=
  ∀ m, l.stride ≤ m → m ≤ nLeft → m % l.stride = nLeft % l.stride → l.guard ≤ m →
    ∀ o ∈ l.offsets, o < m

/-- Offsets below the stride or the guard are safe from everywhere. -/
theorem safeFrom_of_guarded {l : PrefetchLoop} (h : ∀ o ∈ l.offsets, o < max l.guard l.stride)
    (nLeft : ℕ) : l.SafeFrom nLeft :=
  fun _ hs _ _ hg o ho => Nat.lt_of_lt_of_le (h o ho) (Nat.max_le.mpr ⟨hg, hs⟩)

/-- The run lemma: a loop safe from `nLeft` reads only `b[0 .. nLeft)` and exits with `b`
inside the same range. -/
theorem reads_inside (l : PrefetchLoop) (nLeft : ℕ) :
    ∀ p, l.SafeFrom nLeft → (∀ i ∈ (l.reads p nLeft).1, p ≤ i ∧ i < p + nLeft) ∧
      p ≤ (l.reads p nLeft).2 ∧ (l.reads p nLeft).2 ≤ p + nLeft := by
  induction nLeft using Nat.strongRecOn with
  | ind nLeft ih =>
    intro p hsafe
    by_cases hk : 0 < l.stride ∧ l.stride ≤ nLeft
    · have hsafe' : l.SafeFrom (nLeft - l.stride) := fun m hs hm hmod hg =>
        hsafe m hs (by omega) (hmod.trans (Nat.mod_eq_sub_mod hk.2).symm) hg
      obtain ⟨hr, hp₁, hp₂⟩ := ih (nLeft - l.stride) (by omega) (p + l.stride) hsafe'
      rw [reads_of_le hk]
      refine ⟨fun i hi => ?_, by omega, by omega⟩
      rcases List.mem_append.mp hi with hi | hi
      · simp only [iterReads, List.mem_append, List.mem_map, List.mem_range] at hi
        rcases hi with ⟨j, hj, rfl⟩ | hi
        · omega
        · split_ifs at hi with hg
          · obtain ⟨o, ho, rfl⟩ := List.mem_map.mp hi
            have := hsafe nLeft hk.2 (Nat.le_refl _) rfl hg o ho
            omega
          · cases hi
      · have := hr i hi
        omega
    · rw [reads_of_not hk]
      exact ⟨fun _ hi => (nomatch hi), Nat.le_refl _, Nat.le_add_right _ _⟩

end PrefetchLoop

/-- The closing `while (n_left_from > 0)` loop: one buffer at a time, no prefetch. -/
def singleLoop : PrefetchLoop := ⟨1, 0, []⟩

/-- One loop of a node function, from the reads so far and `b - bufs`. -/
def nodeStep (n : ℕ) (acc : List ℕ × ℕ) (l : PrefetchLoop) : List ℕ × ℕ :=
  (acc.1 ++ (l.reads acc.2 (n - acc.2)).1, (l.reads acc.2 (n - acc.2)).2)

/-- The loops of a node function, widest first, then `while (n_left_from > 0)`, over a frame
of `n` buffers: the elements of `bufs` they read, in order. -/
def nodeReads (loops : List PrefetchLoop) (n : ℕ) : List ℕ :=
  ((loops ++ [singleLoop]).foldl (nodeStep n) ([], 0)).1

/-- Loops safe from everywhere, run after reads inside the frame, read inside it. -/
theorem foldl_nodeStep_lt (n : ℕ) (ls : List PrefetchLoop) (hl : ∀ l ∈ ls, ∀ m, l.SafeFrom m) :
    ∀ acc : List ℕ × ℕ, (∀ i ∈ acc.1, i < n) → acc.2 ≤ n →
      (∀ i ∈ (ls.foldl (nodeStep n) acc).1, i < n) ∧ (ls.foldl (nodeStep n) acc).2 ≤ n := by
  induction ls with
  | nil => exact fun acc h₁ h₂ => ⟨h₁, h₂⟩
  | cons l ls ih =>
    intro acc h₁ h₂
    obtain ⟨hr, -, hp⟩ := l.reads_inside (n - acc.2) acc.2 (hl l (List.mem_cons_self _ _) _)
    refine ih (fun l' hl' => hl l' (List.mem_cons_of_mem _ hl')) _ (fun i hi => ?_) (by
      simp only [nodeStep]; omega)
    rcases List.mem_append.mp hi with hi | hi
    · exact h₁ i hi
    · have := hr i hi
      omega

/-- A node function whose prefetch offsets all lie below their loop's stride or guard reads
only `bufs[0 .. n)`. -/
theorem nodeReads_lt {loops : List PrefetchLoop}
    (h : ∀ l ∈ loops, ∀ o ∈ l.offsets, o < max l.guard l.stride) (n : ℕ) :
    ∀ i ∈ nodeReads loops n, i < n := by
  refine (foldl_nodeStep_lt n _ (fun l hl => ?_) ([], 0) (fun i hi => by cases hi) (Nat.zero_le _)).1
  rcases List.mem_append.mp hl with hl | hl
  · exact PrefetchLoop.safeFrom_of_guarded (h l hl)
  · rw [List.mem_singleton.mp hl]
    exact PrefetchLoop.safeFrom_of_guarded (fun o ho => by cases ho)

/-- The reads of the first loop come first. -/
theorem reads_subset_nodeReads (l : PrefetchLoop) (ls : List PrefetchLoop) (n : ℕ) :
    ∀ i ∈ (l.reads 0 n).1, i ∈ nodeReads (l :: ls) n := by
  intro i hi
  unfold nodeReads
  rw [List.cons_append, List.foldl_cons]
  suffices ∀ (ls' : List PrefetchLoop) (acc : List ℕ × ℕ), i ∈ acc.1 → i ∈ (ls'.foldl (nodeStep n) acc).1 from
    this _ _ (by simpa [nodeStep] using hi)
  intro ls'
  induction ls' with
  | nil => exact fun _ h => h
  | cons l' ls' ih => exact fun acc h => ih _ (List.mem_append_left _ h)

/-! ### The ten opensase nodes -/

/-- `opensase-tenant`: eight at a time, prefetching `b[8..11]` with no guard; then four at a
time with no prefetch. -/
def opensaseTenantPrefetch : List PrefetchLoop := [⟨8, 0, [8, 9, 10, 11]⟩, ⟨4, 0, []⟩]

/-- `tenant-classifier`: four at a time, `b[4]` and `b[5]` when eight are left. -/
def tenantClassifierPrefetch : List PrefetchLoop := [⟨4, 8, [4, 5]⟩]

/-- `opensase-security`: four at a time, `b[4..7]` when eight are left. -/
def opensaseSecurityPrefetch : List PrefetchLoop := [⟨4, 8, [4, 5, 6, 7]⟩]

/-- `opensase-policy`: four at a time, `b[4..7]` when eight are left. -/
def opensasePolicyPrefetch : List PrefetchLoop := [⟨4, 8, [4, 5, 6, 7]⟩]

/-- `opensase-dlp`: two at a time, `b[2]` and `b[3]` when four are left. -/
def opensaseDlpPrefetch : List PrefetchLoop := [⟨2, 4, [2, 3]⟩]

/-- `opensase-classify`: four at a time, `b[4..7]` when eight are left. -/
def opensaseClassifyPrefetch : List PrefetchLoop := [⟨4, 8, [4, 5, 6, 7]⟩]

/-- `opensase-qos`: four at a time, `b[4..7]` when eight are left. -/
def opensaseQosPrefetch : List PrefetchLoop := [⟨4, 8, [4, 5, 6, 7]⟩]

/-- `security-inspect`: four at a time, `b[4]` and `b[5]` when eight are left. -/
def securityInspectPrefetch : List PrefetchLoop := [⟨4, 8, [4, 5]⟩]

/-- `opensase-nat`: four at a time, `b[4]` and `b[5]` when eight are left. -/
def opensaseNatPrefetch : List PrefetchLoop := [⟨4, 8, [4, 5]⟩]

/-- `opensase-encap`: four at a time, `b[4]` and `b[5]` when eight are left. -/
def opensaseEncapPrefetch : List PrefetchLoop := [⟨4, 8, [4, 5]⟩]

/-- The eight-wide loop of `opensase-tenant` is safe from `n` when `n < 8` or `n mod 8 ≥ 4`:
every iteration then has twelve buffers or more left. -/
theorem tenantLoop_safeFrom {n : ℕ} (h : ¬ (8 ≤ n ∧ n % 8 < 4)) :
    PrefetchLoop.SafeFrom ⟨8, 0, [8, 9, 10, 11]⟩ n := by
  intro m hs hm hmod _ o ho
  simp only [List.mem_cons, List.not_mem_nil, or_false] at ho
  dsimp only at hs hmod
  omega

/-- On its last iteration, with `8 + n mod 8` buffers left, the eight-wide loop of
`opensase-tenant` reads `b[8 + n mod 8]`, the element just past the frame. -/
theorem tenantLoop_reads_end (nLeft : ℕ) :
    ∀ p, 8 ≤ nLeft → nLeft % 8 < 4 →
      p + nLeft ∈ (PrefetchLoop.reads ⟨8, 0, [8, 9, 10, 11]⟩ p nLeft).1 := by
  induction nLeft using Nat.strongRecOn with
  | ind nLeft ih =>
    intro p h₁ h₂
    rw [PrefetchLoop.reads_of_le (by dsimp only; omega)]
    refine List.mem_append.mpr ?_
    by_cases hlast : nLeft < 16
    · refine .inl (List.mem_append_right _ ?_)
      simp only [if_pos (Nat.zero_le nLeft), List.mem_map, List.mem_cons, List.not_mem_nil,
        or_false]
      exact ⟨nLeft, by omega, rfl⟩
    · have := ih (nLeft - 8) (by omega) (p + 8) (by omega) (by omega)
      rw [show p + 8 + (nLeft - 8) = p + nLeft by omega] at this
      exact .inr this

/-- Every opensase node but `opensase-tenant` reads only `bufs[0 .. n)` on a frame of `n`
buffers. `opensase-tenant` reads some `bufs[i]` with `i ≥ n` exactly when `n ≥ 8` and
`n mod 8 < 4`, a full frame of `VLIB_FRAME_SIZE = 256` buffers among them. -/
theorem opensaseNodes_prefetch_reads :
    (∀ loops ∈ [tenantClassifierPrefetch, opensaseSecurityPrefetch, opensasePolicyPrefetch,
        opensaseDlpPrefetch, opensaseClassifyPrefetch, opensaseQosPrefetch,
        securityInspectPrefetch, opensaseNatPrefetch, opensaseEncapPrefetch],
      ∀ n, ∀ i ∈ nodeReads loops n, i < n) ∧
    ∀ n, (∃ i ∈ nodeReads opensaseTenantPrefetch n, n ≤ i) ↔ 8 ≤ n ∧ n % 8 < 4 := by
  refine ⟨fun loops hl => nodeReads_lt (by revert loops; decide), fun n => ⟨fun ⟨i, hi, hn⟩ => ?_,
    fun h => ⟨n, reads_subset_nodeReads _ _ n _ (by simpa using tenantLoop_reads_end n 0 h.1 h.2),
      Nat.le_refl _⟩⟩⟩
  by_contra hc
  obtain ⟨hr, -, hp⟩ := PrefetchLoop.reads_inside _ n 0 (tenantLoop_safeFrom hc)
  have hrest := foldl_nodeStep_lt n [⟨4, 0, []⟩, singleLoop]
    (fun l hl m => PrefetchLoop.safeFrom_of_guarded (by revert l; decide) m)
    (nodeStep n ([], 0) ⟨8, 0, [8, 9, 10, 11]⟩)
    (fun i hi => by simpa using hr i (by simpa [nodeStep] using hi))
    (by simpa [nodeStep] using hp)
  exact absurd (hrest.1 i hi) (Nat.not_lt.mpr hn)

end OpenSase
