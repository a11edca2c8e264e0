import OpenSase.Policy

/-!
What `opensase_policy_match` selects. It starts from `best_priority = ~0` and compares
strictly, so a slot of priority `0xFFFFFFFF` is never chosen.
-/
namespace OpenSase.Policy

section FirstBest

variable {α : Type} (key : α → ℕ) (ok : α → Prop)

/-- Slot `j` of `xs` satisfies `ok` with the least `key` among the slots that do, and no
earlier such slot has that key. -/
def IsFirstBest (xs : List α) (j : ℕ) : Prop :=
  ∃ x, xs[j]? = some x ∧ ok x ∧ (∀ (j' : ℕ) (x' : α), xs[j']? = some x' → ok x' → key x ≤ key x') ∧
    ∀ j' < j, ∀ x' : α, xs[j']? = some x' → ok x' → key x < key x'

theorem isFirstBest_unique {xs : List α} {j j' : ℕ} (h : IsFirstBest key ok xs j)
    (h' : IsFirstBest key ok xs j') : j = j' := by
  obtain ⟨x, hx, hok, hle, hlt⟩ := h
  obtain ⟨x', hx', hok', hle', hlt'⟩ := h'
  rcases Nat.lt_trichotomy j j' with hj | hj | hj
  · exact absurd (hle j' x' hx' hok') (Nat.not_le.mpr (hlt' j hj x hx hok))
  · exact hj
  · exact absurd (hle' j x hx hok) (Nat.not_le.mpr (hlt j' hj x' hx' hok'))

end FirstBest

section Match

variable (e : Endian) (bs : Bytes) (srcPort dstPort tenantId : ℕ)

/-- A policy the scan would take against a best priority of `q`: non-empty, matching the
packet, and of priority below `q`. -/
def Eligible (q : ℕ) (p : OpensasePolicy) : Prop :=
  policyCandidate e p bs srcPort dstPort tenantId = true ∧ p.priority < q

/-- The head taken and nothing later beating it: the head is the first best. -/
theorem isFirstBest_head {q : ℕ} {p : OpensasePolicy} {ps : List OpensasePolicy}
    (hp : Eligible e bs srcPort dstPort tenantId q p)
    (hnone : ∀ (j : ℕ) p', ps[j]? = some p' → ¬ Eligible e bs srcPort dstPort tenantId p.priority p') :
    IsFirstBest OpensasePolicy.priority (Eligible e bs srcPort dstPort tenantId q) (p :: ps) 0 := by
  refine ⟨p, List.getElem?_cons_zero, hp, fun j' p' hj' hok => ?_,
    fun j' hj' => absurd hj' (Nat.not_lt_zero _)⟩
  cases j' with
  | zero => cases List.getElem?_cons_zero.symm.trans hj'; exact le_rfl
  | succ j' =>
    rw [List.getElem?_cons_succ] at hj'
    exact Nat.not_lt.mp fun hlt => hnone j' p' hj' ⟨hok.1, hlt⟩

/-- The head taken, then beaten by the first best of the rest. -/
theorem isFirstBest_succ_of_taken {q j : ℕ} {p : OpensasePolicy} {ps : List OpensasePolicy}
    (hp : Eligible e bs srcPort dstPort tenantId q p)
    (hb : IsFirstBest OpensasePolicy.priority (Eligible e bs srcPort dstPort tenantId p.priority) ps j) :
    IsFirstBest OpensasePolicy.priority (Eligible e bs srcPort dstPort tenantId q) (p :: ps) (j + 1) := by
  obtain ⟨x, hx, hok, hle, hlt⟩ := hb
  have hxp : x.priority < p.priority := hok.2
  refine ⟨x, by rw [List.getElem?_cons_succ, hx], ⟨hok.1, hxp.trans hp.2⟩,
    fun j' p' hj' hok' => ?_, fun j' hj' p' hj'' hok' => ?_⟩
  · cases j' with
    | zero => cases List.getElem?_cons_zero.symm.trans hj'; exact hxp.le
    | succ j' =>
      rw [List.getElem?_cons_succ] at hj'
      by_cases hlt' : p'.priority < p.priority
      · exact hle j' p' hj' ⟨hok'.1, hlt'⟩
      · omega
  · cases j' with
    | zero => cases List.getElem?_cons_zero.symm.trans hj''; exact hxp
    | succ j' =>
      rw [List.getElem?_cons_succ] at hj''
      by_cases hlt' : p'.priority < p.priority
      · exact hlt j' (by omega) p' hj'' ⟨hok'.1, hlt'⟩
      · omega

/-- The head passed over: the first best of the rest, one slot on. -/
theorem isFirstBest_succ_of_skipped {q j : ℕ} {p : OpensasePolicy} {ps : List OpensasePolicy}
    (hp : ¬ Eligible e bs srcPort dstPort tenantId q p)
    (hb : IsFirstBest OpensasePolicy.priority (Eligible e bs srcPort dstPort tenantId q) ps j) :
    IsFirstBest OpensasePolicy.priority (Eligible e bs srcPort dstPort tenantId q) (p :: ps) (j + 1) := by
  obtain ⟨x, hx, hok, hle, hlt⟩ := hb
  refine ⟨x, by rw [List.getElem?_cons_succ, hx], hok, fun j' p' hj' hok' => ?_,
    fun j' hj' p' hj'' hok' => ?_⟩
  · cases j' with
    | zero => cases List.getElem?_cons_zero.symm.trans hj'; exact absurd hok' hp
    | succ j' => exact hle j' p' (by rwa [List.getElem?_cons_succ] at hj') hok'
  · cases j' with
    | zero => cases List.getElem?_cons_zero.symm.trans hj''; exact absurd hok' hp
    | succ j' => exact hlt j' (by omega) p' (by rwa [List.getElem?_cons_succ] at hj'') hok'

/-- Loop lemma of the scan from slot `i` with `(best_match, best_priority) = (k, q)`:
either no remaining policy is eligible against `q` and the pair is returned unchanged, or
the scan returns the first best eligible slot and its priority. -/
theorem matchFrom_spec (ps : List OpensasePolicy) (i k q : ℕ) :
    (matchFrom e bs srcPort dstPort tenantId i (k, q) ps = (k, q) ∧
      ∀ (j : ℕ) p, ps[j]? = some p → ¬ Eligible e bs srcPort dstPort tenantId q p) ∨
    ∃ (j : ℕ) (p : OpensasePolicy), ps[j]? = some p ∧
      IsFirstBest OpensasePolicy.priority (Eligible e bs srcPort dstPort tenantId q) ps j ∧
      matchFrom e bs srcPort dstPort tenantId i (k, q) ps = (i + j, p.priority) := by
  induction ps generalizing i k q with
  | nil => exact .inl ⟨rfl, fun j p h => by simp at h⟩
  | cons p ps ih =>
    by_cases hp : Eligible e bs srcPort dstPort tenantId q p
    · have hstep : matchFrom e bs srcPort dstPort tenantId i (k, q) (p :: ps) =
          matchFrom e bs srcPort dstPort tenantId (i + 1) (i, p.priority) ps := by
        simp only [matchFrom, hp.1, hp.2, decide_True, Bool.and_self, if_true]
      refine .inr ?_
      rcases ih (i + 1) i p.priority with ⟨hr, hnone⟩ | ⟨j, p', hj, hb, hr⟩
      · exact ⟨0, p, List.getElem?_cons_zero, isFirstBest_head e bs srcPort dstPort tenantId hp hnone,
          by rw [hstep, hr, Nat.add_zero]⟩
      · exact ⟨j + 1, p', by rw [List.getElem?_cons_succ, hj],
          isFirstBest_succ_of_taken e bs srcPort dstPort tenantId hp hb,
          by rw [hstep, hr, Nat.add_right_comm, Nat.add_assoc]⟩
    · have hstep : matchFrom e bs srcPort dstPort tenantId i (k, q) (p :: ps) =
          matchFrom e bs srcPort dstPort tenantId (i + 1) (k, q) ps := by
        have : (policyCandidate e p bs srcPort dstPort tenantId && decide (p.priority < q)) = false := by
          simpa [Eligible] using hp
        simp only [matchFrom, this, Bool.false_eq_true, if_false]
      rw [hstep]
      rcases ih (i + 1) k q with ⟨hr, hnone⟩ | ⟨j, p', hj, hb, hr⟩
      · refine .inl ⟨hr, fun j p' hj => ?_⟩
        cases j with
        | zero => cases List.getElem?_cons_zero.symm.trans hj; exact hp
        | succ j => exact hnone j p' (by rwa [List.getElem?_cons_succ] at hj)
      · exact .inr ⟨j + 1, p', by rw [List.getElem?_cons_succ, hj],
          isFirstBest_succ_of_skipped e bs srcPort dstPort tenantId hp hb,
          by rw [hr, Nat.add_right_comm, Nat.add_assoc]⟩

/-- `opensase_policy_match` on a policy vector of at most `2^32 - 1` slots (its `u32`
length): it returns `~0` exactly when no non-empty slot matches with a priority below
`0xFFFFFFFF`, and otherwise the first slot of least priority among those. -/
theorem opensasePolicyMatch_spec (ps : List OpensasePolicy) (hlen : ps.length ≤ 0xFFFFFFFF) :
    (opensasePolicyMatch e ps bs srcPort dstPort tenantId = 0xFFFFFFFF ↔
      ∀ (j : ℕ) p, ps[j]? = some p → ¬ Eligible e bs srcPort dstPort tenantId 0xFFFFFFFF p) ∧
    ∀ i ≠ 0xFFFFFFFF, (opensasePolicyMatch e ps bs srcPort dstPort tenantId = i ↔
      IsFirstBest OpensasePolicy.priority (Eligible e bs srcPort dstPort tenantId 0xFFFFFFFF) ps i) := by
  unfold opensasePolicyMatch
  rcases matchFrom_spec e bs srcPort dstPort tenantId ps 0 0xFFFFFFFF 0xFFFFFFFF with
    ⟨hr, hnone⟩ | ⟨j, p, hj, hb, hr⟩
  · rw [hr]
    refine ⟨iff_of_true rfl hnone, fun i hi => iff_of_false (Ne.symm hi) fun ⟨x, hx, hok, _⟩ => ?_⟩
    exact hnone i x hx hok
  · have hjlt : j < 0xFFFFFFFF := (List.getElem?_eq_some_iff.mp hj).1.trans_le hlen
    have hok : Eligible e bs srcPort dstPort tenantId 0xFFFFFFFF p := by
      obtain ⟨x, hx, hok, _⟩ := hb
      rw [hj] at hx
      cases hx
      exact hok
    rw [hr, Nat.zero_add]
    refine ⟨iff_of_false hjlt.ne fun hnone => hnone j p hj hok, fun i _ => ?_⟩
    exact ⟨fun h => h ▸ hb, fun h => isFirstBest_unique _ _ hb h⟩

end Match

/-! ### The contract as stated, and a slot it misses -/

/-- The selection asked of `opensase_policy_match`: `~0` exactly when no non-empty slot
matches, and otherwise the first slot of least priority among the matching non-empty
ones. -/
def PolicyMatchIsFirstBest : Prop :=
  ∀ (e : Endian) (ps : List OpensasePolicy) (bs : Bytes) (srcPort dstPort tenantId : ℕ),
    (opensasePolicyMatch e ps bs srcPort dstPort tenantId = 0xFFFFFFFF ↔
      ∀ (j : ℕ) p, ps[j]? = some p → policyCandidate e p bs srcPort dstPort tenantId = false) ∧
    ∀ i ≠ 0xFFFFFFFF, (opensasePolicyMatch e ps bs srcPort dstPort tenantId = i ↔
      IsFirstBest OpensasePolicy.priority
        (fun p => policyCandidate e p bs srcPort dstPort tenantId = true) ps i)

/-- A policy of id 1 matching everything, at the lowest priority `0xFFFFFFFF`. -/
def allowAllLowest : OpensasePolicy :=
  { (default : OpensasePolicy) with policyId := 1, priority := 0xFFFFFFFF }

/-- The only policy matches `flowA`, yet the scan reports no match. -/
theorem policyMatch_misses_lowest_priority : ¬ PolicyMatchIsFirstBest := by
  intro h
  -- no slot has a priority below `~0`, so the scan keeps `~0`
  have hm : opensasePolicyMatch .little [allowAllLowest] flowA 1000 80 0 = 0xFFFFFFFF :=
    (opensasePolicyMatch_spec .little flowA 1000 80 0 [allowAllLowest] (by decide)).1.mpr
      fun _ p hp hok => by
        cases List.mem_singleton.mp (List.getElem?_mem hp)
        exact lt_irrefl _ hok.2
  have hc : policyCandidate .little allowAllLowest flowA 1000 80 0 = true := by decide
  have := ((h .little [allowAllLowest] flowA 1000 80 0).1.mp hm) 0 allowAllLowest rfl
  rw [hc] at this
  exact Bool.noConfusion this

end OpenSase.Policy
