import OpenSase.Frame

/-!
The index level of a node function's loops: the pointers `b` and `next`, the counter
`n_left_from`, and the array `nexts` that `vlib_buffer_enqueue_to_next` reads.
-/
namespace OpenSase

section Dispatch

variable {σ β γ : Type}

/-- The locals of a node function's loops: the node's state, `next - nexts` (which is also
`b - bufs`), the buffers `b[0 .. n_left_from)`, and the writes `next[i] = v` made so far, as
`(i, v)` in program order. -/
structure Cursor (σ β : Type) where
  state : σ
  next : ℕ
  b : List β
  writes : List (ℕ × ℕ)

/-- `while (n_left_from >= k) { body; b += k; next += k; n_left_from -= k; }`. The body gets
the state and `b[0 .. k)`, and returns the state and its writes relative to `next`. -/
def strideLoop (k : ℕ) (body : σ → List β → σ × List (ℕ × ℕ)) (c : Cursor σ β) : Cursor σ β :=
  if _ : 0 < k ∧ k ≤ c.b.length then
    let r := body c.state (c.b.take k)
    strideLoop k body
      ⟨r.1, c.next + k, c.b.drop k, c.writes ++ r.2.map fun w => (c.next + w.1, w.2)⟩
  else c
termination_by c.b.length
decreasing_by simp only [List.length_drop]; omega

theorem strideLoop_of_le {k : ℕ} (body : σ → List β → σ × List (ℕ × ℕ)) {c : Cursor σ β}
    (h : 0 < k ∧ k ≤ c.b.length) :
    strideLoop k body c =
      strideLoop k body ⟨(body c.state (c.b.take k)).1, c.next + k, c.b.drop k,
        c.writes ++ (body c.state (c.b.take k)).2.map fun w => (c.next + w.1, w.2)⟩ := by
  rw [strideLoop, dif_pos h]

theorem strideLoop_of_not {k : ℕ} (body : σ → List β → σ × List (ℕ × ℕ)) {c : Cursor σ β}
    (h : ¬ (0 < k ∧ k ≤ c.b.length)) : strideLoop k body c = c := by
  rw [strideLoop, dif_neg h]

/-- `nexts` after the writes `ws`, from its contents `nexts` before them. -/
def applyWrites (nexts : ℕ → ℕ) (ws : List (ℕ × ℕ)) : ℕ → ℕ :=
  ws.foldl (fun a w => Function.update a w.1 w.2) nexts

/-- A node function: its unrolled loops, widest first, each a stride and an iteration body;
the body of the last loop, `while (n_left_from > 0)`; and the `n_next_nodes` of its
registration. -/
structure NodeFunction (σ β : Type) where
  unrolled : List (ℕ × (σ → List β → σ × List (ℕ × ℕ)))
  single : σ → List β → σ × List (ℕ × ℕ)
  nNextNodes : ℕ

namespace NodeFunction

/-- The loops on a frame, from `next = nexts` and `n_left_from = frame->n_vectors`. -/
def run (f : NodeFunction σ β) (s : σ) (frame : List β) : Cursor σ β :=
  strideLoop 1 f.single (f.unrolled.foldl (fun c l => strideLoop l.1 l.2 c) ⟨s, 0, frame, []⟩)

/-- The call on a frame, with `nexts` holding whatever it held before: the state it leaves,
the pairs `vlib_buffer_enqueue_to_next (vm, node, from, nexts, frame->n_vectors)` enqueues
(buffer `i` with `nexts[i]`), and the `frame->n_vectors` it returns. -/
def call (f : NodeFunction σ β) (s : σ) (frame : List β) (nexts : ℕ → ℕ) :
    σ × List (β × ℕ) × ℕ :=
  ((f.run s frame).state,
    frame.zip ((List.range frame.length).map (applyWrites nexts (f.run s frame).writes)),
    frame.length)

/-- What the call does with a frame: every write is below `n_next_nodes`, and, whatever
`nexts` held before, it enqueues the frame's buffers in order, each with a next index below
`n_next_nodes`, and returns the frame size. -/
def Dispatches (f : NodeFunction σ β) (s : σ) (frame : List β) : Prop :=
  (∀ w ∈ (f.run s frame).writes, w.2 < f.nNextNodes) ∧
    ∀ nexts, (f.call s frame nexts).2.1.map Prod.fst = frame ∧
      (∀ x ∈ (f.call s frame nexts).2.1, x.2 < f.nNextNodes) ∧
      (f.call s frame nexts).2.2 = frame.length

/-- On every frame the loops end with `n_left_from = 0` and `next = nexts + n`, write
`next[0]`, …, `next[n - 1]` once each and in that order, and the call dispatches the frame. -/
def WritesEachOnce (f : NodeFunction σ β) : Prop :=
  ∀ s frame, (f.run s frame).b = [] ∧ (f.run s frame).next = frame.length ∧
    (f.run s frame).writes.map Prod.fst = List.range frame.length ∧ f.Dispatches s frame

/-- As `WritesEachOnce`, except that the loops write each `next[i]` with `i < n` at least
once, and no other. -/
def WritesEach (f : NodeFunction σ β) : Prop :=
  ∀ s frame, (f.run s frame).b = [] ∧ (f.run s frame).next = frame.length ∧
    (∀ i, i ∈ (f.run s frame).writes.map Prod.fst ↔ i < frame.length) ∧ f.Dispatches s frame

end NodeFunction

/-! ### From one iteration to a run -/

/-- What an iteration body must do for a property `Good` of the writes so far (and of how
far `next` has gone) to survive one iteration of stride `k`. -/
def KeepsGood (Good : List (ℕ × ℕ) → ℕ → Prop) (k : ℕ)
    (body : σ → List β → σ × List (ℕ × ℕ)) : Prop :=
  ∀ s bs ws p, bs.length = k → Good ws p →
    Good (ws ++ (body s bs).2.map fun w => (p + w.1, w.2)) (p + k)

/-- The loop invariant of a node function on `frame`: `b` and `next` are in step, and the
writes so far are good. -/
def CursorInv (Good : List (ℕ × ℕ) → ℕ → Prop) (frame : List β) (c : Cursor σ β) : Prop :=
  c.b = frame.drop c.next ∧ c.next ≤ frame.length ∧ Good c.writes c.next

/-- One loop keeps the invariant, and leaves fewer than `k` buffers. -/
theorem strideLoop_inv (Good : List (ℕ × ℕ) → ℕ → Prop) {k : ℕ}
    {body : σ → List β → σ × List (ℕ × ℕ)} (hk : KeepsGood Good k body) (frame : List β)
    (c : Cursor σ β) (h : CursorInv Good frame c) :
    CursorInv Good frame (strideLoop k body c) ∧ (0 < k → (strideLoop k body c).b.length < k) := by
  induction c using strideLoop.induct k body with
  | case1 c hc r ih =>
    obtain ⟨hb, hn, hg⟩ := h
    have hlen : c.b.length = frame.length - c.next := by rw [hb, List.length_drop]
    rw [strideLoop_of_le body hc]
    refine ih ⟨?_, by dsimp only; omega, hk _ _ _ _ (by simp only [List.length_take]; omega) hg⟩
    rw [hb, List.drop_drop]
  | case2 c hc =>
    rw [strideLoop_of_not body hc]
    exact ⟨h, fun hk0 => by omega⟩

/-- A cursor property that each loop of a list keeps is kept by the loops run in order. -/
theorem foldl_strideLoop_of (P : Cursor σ β → Prop)
    (loops : List (ℕ × (σ → List β → σ × List (ℕ × ℕ))))
    (hl : ∀ l ∈ loops, ∀ c, P c → P (strideLoop l.1 l.2 c)) (c : Cursor σ β) (h : P c) :
    P (loops.foldl (fun c l => strideLoop l.1 l.2 c) c) := by
  induction loops generalizing c with
  | nil => exact h
  | cons l loops ih =>
    exact ih (fun l' hl' => hl l' (List.mem_cons_of_mem _ hl')) _ (hl l (List.mem_cons_self _ _) c h)

/-- A run consumes the whole frame, and its writes are good up to the frame size. -/
theorem NodeFunction.run_good (f : NodeFunction σ β) (Good : List (ℕ × ℕ) → ℕ → Prop)
    (hu : ∀ l ∈ f.unrolled, KeepsGood Good l.1 l.2) (hs : KeepsGood Good 1 f.single)
    (h0 : Good [] 0) (s : σ) (frame : List β) :
    (f.run s frame).b = [] ∧ (f.run s frame).next = frame.length ∧
      Good (f.run s frame).writes frame.length := by
  unfold run
  have hu' := foldl_strideLoop_of (CursorInv Good frame) f.unrolled
    (fun l hl c h => (strideLoop_inv Good (hu l hl) frame c h).1) ⟨s, 0, frame, []⟩
    ⟨(List.drop_zero _).symm, Nat.zero_le _, h0⟩
  obtain ⟨⟨hb, hn, hg⟩, hlt⟩ := strideLoop_inv Good hs frame _ hu'
  have hnil := List.eq_nil_of_length_eq_zero (Nat.lt_one_iff.mp (hlt Nat.one_pos))
  have hnext := congrArg List.length (hb.symm.trans hnil)
  rw [List.length_drop, List.length_nil] at hnext
  have hnext' : _ = frame.length := Nat.le_antisymm hn (Nat.le_of_sub_eq_zero hnext)
  exact ⟨hnil, hnext', hnext' ▸ hg⟩

/-! ### What is enqueued -/

theorem applyWrites_of_not_mem (nexts : ℕ → ℕ) {ws : List (ℕ × ℕ)} {i : ℕ}
    (h : i ∉ ws.map Prod.fst) : applyWrites nexts ws i = nexts i := by
  induction ws generalizing nexts with
  | nil => rfl
  | cons w ws ih =>
    simp only [List.map_cons, List.mem_cons, not_or] at h
    rw [applyWrites, List.foldl_cons, ← applyWrites, ih _ h.2, Function.update_noteq h.1]

/-- A written slot holds the value of one of the writes to it. -/
theorem applyWrites_of_mem (nexts : ℕ → ℕ) {ws : List (ℕ × ℕ)} {i : ℕ}
    (h : i ∈ ws.map Prod.fst) : ∃ w ∈ ws, applyWrites nexts ws i = w.2 := by
  induction ws generalizing nexts with
  | nil => cases h
  | cons w ws ih =>
    rw [applyWrites, List.foldl_cons, ← applyWrites]
    by_cases hi : i ∈ ws.map Prod.fst
    · obtain ⟨w', hw', he⟩ := ih (Function.update nexts w.1 w.2) hi
      exact ⟨w', List.mem_cons_of_mem _ hw', he⟩
    · have hw : i = w.1 := by simpa [hi] using h
      refine ⟨w, List.mem_cons_self _ _, ?_⟩
      rw [applyWrites_of_not_mem _ hi, hw, Function.update_same]

/-- A run that writes every slot of the frame, each to a value below `n_next_nodes`,
dispatches it. -/
theorem NodeFunction.dispatches_of_cover (f : NodeFunction σ β) (s : σ) (frame : List β)
    (hc : ∀ i < frame.length, i ∈ (f.run s frame).writes.map Prod.fst)
    (hv : ∀ w ∈ (f.run s frame).writes, w.2 < f.nNextNodes) : f.Dispatches s frame := by
  refine ⟨hv, fun nexts => ⟨List.map_fst_zip _ _ (by simp), fun x hx => ?_, rfl⟩⟩
  obtain ⟨i, hi, he⟩ := List.mem_map.mp (List.of_mem_zip hx).2
  obtain ⟨w, hw, hw'⟩ := applyWrites_of_mem nexts (hc i (List.mem_range.mp hi))
  rw [← he, hw']
  exact hv w hw

/-! ### Bodies that write each slot once -/

/-- An iteration body over `k` buffers writes `next[0]`, …, `next[k - 1]` once each and in
that order, each to a value below `n`. -/
def WritesSlotsOnce (n k : ℕ) (body : σ → List β → σ × List (ℕ × ℕ)) : Prop :=
  ∀ s bs, bs.length = k →
    (body s bs).2.map Prod.fst = List.range k ∧ ∀ w ∈ (body s bs).2, w.2 < n

/-- An iteration body over `k` buffers writes `next[0]`, …, `next[k - 1]`, each at least
once, and no other slot, each to a value below `n`. -/
def WritesSlots (n k : ℕ) (body : σ → List β → σ × List (ℕ × ℕ)) : Prop :=
  ∀ s bs, bs.length = k →
    (∀ j, j ∈ (body s bs).2.map Prod.fst ↔ j < k) ∧ ∀ w ∈ (body s bs).2, w.2 < n

theorem WritesSlotsOnce.writesSlots {n k : ℕ} {body : σ → List β → σ × List (ℕ × ℕ)}
    (h : WritesSlotsOnce n k body) : WritesSlots n k body := fun s bs hk =>
  ⟨fun j => by rw [(h s bs hk).1, List.mem_range], (h s bs hk).2⟩

/-- Writes to exactly the slots below `p`, in order, with values below `n`. -/
def InOrderBelow (n : ℕ) (ws : List (ℕ × ℕ)) (p : ℕ) : Prop :=
  ws.map Prod.fst = List.range p ∧ ∀ w ∈ ws, w.2 < n

/-- Writes covering exactly the slots below `p`, with values below `n`. -/
def CoverBelow (n : ℕ) (ws : List (ℕ × ℕ)) (p : ℕ) : Prop :=
  (∀ i, i ∈ ws.map Prod.fst ↔ i < p) ∧ ∀ w ∈ ws, w.2 < n

theorem values_append {n : ℕ} {ws : List (ℕ × ℕ)} {p : ℕ} {ws' : List (ℕ × ℕ)}
    (h : ∀ w ∈ ws, w.2 < n) (h' : ∀ w ∈ ws', w.2 < n) :
    ∀ w ∈ ws ++ ws'.map (fun w => (p + w.1, w.2)), w.2 < n := by
  simp only [List.mem_append, List.mem_map]
  rintro w (hw | ⟨w', hw', rfl⟩)
  exacts [h w hw, h' w' hw']

theorem keepsGood_inOrderBelow {n k : ℕ} {body : σ → List β → σ × List (ℕ × ℕ)}
    (hb : WritesSlotsOnce n k body) : KeepsGood (InOrderBelow n) k body := by
  intro s bs ws p hk ⟨hw, hv⟩
  obtain ⟨hw', hv'⟩ := hb s bs hk
  refine ⟨?_, values_append hv hv'⟩
  rw [List.map_append, hw, List.range_add, List.map_map, ← hw', List.map_map]
  rfl

theorem keepsGood_coverBelow {n k : ℕ} {body : σ → List β → σ × List (ℕ × ℕ)}
    (hb : WritesSlots n k body) : KeepsGood (CoverBelow n) k body := by
  intro s bs ws p hk ⟨hw, hv⟩
  obtain ⟨hw', hv'⟩ := hb s bs hk
  refine ⟨fun i => ?_, values_append hv hv'⟩
  rw [List.map_append, List.mem_append, List.map_map]
  constructor
  · rintro (hi | hi)
    · exact Nat.lt_add_right k ((hw i).mp hi)
    · obtain ⟨w, hw0, rfl⟩ := List.mem_map.mp hi
      have := (hw' w.1).mp (List.mem_map_of_mem _ hw0)
      simp only [Function.comp_apply]
      omega
  · intro hi
    by_cases hp : i < p
    · exact .inl ((hw i).mpr hp)
    · obtain ⟨w, hw0, he⟩ := List.mem_map.mp ((hw' (i - p)).mpr (by omega))
      exact .inr (List.mem_map.mpr ⟨w, hw0, by simp only [Function.comp_apply]; omega⟩)

/-- Loops whose bodies each write their slots once and in order write every slot of the
frame once and in order. -/
theorem NodeFunction.writesEachOnce (f : NodeFunction σ β)
    (hu : ∀ l ∈ f.unrolled, WritesSlotsOnce f.nNextNodes l.1 l.2)
    (hs : WritesSlotsOnce f.nNextNodes 1 f.single) : f.WritesEachOnce := by
  intro s frame
  obtain ⟨hb, hn, hw, hv⟩ := f.run_good (InOrderBelow f.nNextNodes)
    (fun l hl => keepsGood_inOrderBelow (hu l hl)) (keepsGood_inOrderBelow hs) ⟨rfl, nofun⟩ s frame
  exact ⟨hb, hn, hw, f.dispatches_of_cover s frame (by simp [hw]) hv⟩

/-- Loops whose bodies each write all their slots write every slot of the frame. -/
theorem NodeFunction.writesEach (f : NodeFunction σ β)
    (hu : ∀ l ∈ f.unrolled, WritesSlots f.nNextNodes l.1 l.2)
    (hs : WritesSlots f.nNextNodes 1 f.single) : f.WritesEach := by
  intro s frame
  obtain ⟨hb, hn, hw, hv⟩ := f.run_good (CoverBelow f.nNextNodes)
    (fun l hl => keepsGood_coverBelow (hu l hl)) (keepsGood_coverBelow hs)
    ⟨fun i => by simp, nofun⟩ s frame
  exact ⟨hb, hn, hw, f.dispatches_of_cover s frame (fun i hi => (hw i).mpr hi) hv⟩

/-! ### Loops over the list models -/

/-- `next[j] = idx o` for the outputs `o` of an iteration, slot after slot from `j`. -/
def slotWrites (idx : γ → ℕ) : ℕ → List γ → List (ℕ × ℕ)
  | _, [] => []
  | j, o :: os => (j, idx o) :: slotWrites idx (j + 1) os

@[simp] theorem map_fst_slotWrites (idx : γ → ℕ) (j : ℕ) (os : List γ) :
    (slotWrites idx j os).map Prod.fst = List.range' j os.length := by
  induction os generalizing j with
  | nil => rfl
  | cons o os ih => simp only [slotWrites, List.map_cons, ih, List.length_cons, List.range'_succ]

theorem slotWrites_lt {idx : γ → ℕ} {n : ℕ} (h : ∀ o, idx o < n) (j : ℕ) (os : List γ) :
    ∀ w ∈ slotWrites idx j os, w.2 < n := by
  induction os generalizing j with
  | nil => nofun
  | cons o os ih =>
    rintro w (_ | ⟨_, hw⟩)
    exacts [h o, ih (j + 1) w hw]

/-- The iteration of a list model, writing `next[j]` with the index of slot `j`'s output. -/
def iterWrites (idx : γ → ℕ) (iter : σ → List β → σ × List γ) (s : σ) (bs : List β) :
    σ × List (ℕ × ℕ) :=
  ((iter s bs).1, slotWrites idx 0 (iter s bs).2)

theorem writesSlotsOnce_iterWrites {idx : γ → ℕ} {n k : ℕ} (h : ∀ o, idx o < n)
    {iter : σ → List β → σ × List γ} (hl : ∀ s bs, (iter s bs).2.length = bs.length) :
    WritesSlotsOnce n k (iterWrites idx iter) := fun s bs hk =>
  ⟨by rw [iterWrites, map_fst_slotWrites, hl, hk, List.range_eq_range'], slotWrites_lt h _ _⟩

/-- The iteration of a four-wide loop on `b[0 .. 4)`. -/
def quadIter (quad : σ → β → β → β → β → σ × List γ) (single : σ → β → σ × γ) (s : σ) :
    List β → σ × List γ
  | [b0, b1, b2, b3] => quad s b0 b1 b2 b3
  | bs => tailLoop single s bs

/-- The iteration of a two-wide loop on `b[0 .. 2)`. -/
def pairIter (pair : σ → β → β → σ × List γ) (single : σ → β → σ × γ) (s : σ) :
    List β → σ × List γ
  | [b0, b1] => pair s b0 b1
  | bs => tailLoop single s bs

theorem quadIter_length {quad : σ → β → β → β → β → σ × List γ} (single : σ → β → σ × γ)
    (hq : ∀ s b0 b1 b2 b3, (quad s b0 b1 b2 b3).2.length = 4) (s : σ) (bs : List β) :
    (quadIter quad single s bs).2.length = bs.length := by
  unfold quadIter
  split
  · exact hq ..
  · exact tailLoop_length ..

theorem pairIter_length {pair : σ → β → β → σ × List γ} (single : σ → β → σ × γ)
    (hp : ∀ s b0 b1, (pair s b0 b1).2.length = 2) (s : σ) (bs : List β) :
    (pairIter pair single s bs).2.length = bs.length := by
  unfold pairIter
  split
  · exact hp ..
  · exact tailLoop_length ..

/-- A node function with a four-wide loop and the one-buffer loop, each writing `next[j]`
with the index `idx` of slot `j`'s next node. -/
def quadFunction (idx : γ → ℕ) (quad : σ → β → β → β → β → σ × List γ)
    (single : σ → β → σ × γ) (n : ℕ) : NodeFunction σ β :=
  ⟨[(4, iterWrites idx (quadIter quad single))], iterWrites idx (tailLoop single), n⟩

/-- A node function with a two-wide loop and the one-buffer loop. -/
def pairFunction (idx : γ → ℕ) (pair : σ → β → β → σ × List γ) (single : σ → β → σ × γ)
    (n : ℕ) : NodeFunction σ β :=
  ⟨[(2, iterWrites idx (pairIter pair single))], iterWrites idx (tailLoop single), n⟩

theorem quadFunction_writesEachOnce {idx : γ → ℕ} {n : ℕ} (h : ∀ o, idx o < n)
    {quad : σ → β → β → β → β → σ × List γ} (single : σ → β → σ × γ)
    (hq : ∀ s b0 b1 b2 b3, (quad s b0 b1 b2 b3).2.length = 4) :
    (quadFunction idx quad single n).WritesEachOnce :=
  NodeFunction.writesEachOnce _
    (by simpa [quadFunction] using writesSlotsOnce_iterWrites h (quadIter_length single hq))
    (writesSlotsOnce_iterWrites h (tailLoop_length single))

theorem pairFunction_writesEachOnce {idx : γ → ℕ} {n : ℕ} (h : ∀ o, idx o < n)
    {pair : σ → β → β → σ × List γ} (single : σ → β → σ × γ)
    (hp : ∀ s b0 b1, (pair s b0 b1).2.length = 2) :
    (pairFunction idx pair single n).WritesEachOnce :=
  NodeFunction.writesEachOnce _
    (by simpa [pairFunction] using writesSlotsOnce_iterWrites h (pairIter_length single hp))
    (writesSlotsOnce_iterWrites h (tailLoop_length single))

/-! ### The loops refine the list models -/

theorem slotWrites_append (idx : γ → ℕ) (j : ℕ) (xs ys : List γ) :
    slotWrites idx j (xs ++ ys) = slotWrites idx j xs ++ slotWrites idx (j + xs.length) ys := by
  induction xs generalizing j with
  | nil => rfl
  | cons x xs ih =>
    rw [List.cons_append, slotWrites, slotWrites, ih, List.cons_append, List.length_cons,
      show j + 1 + xs.length = j + (xs.length + 1) by omega]

theorem map_shift_slotWrites (idx : γ → ℕ) (p j : ℕ) (os : List γ) :
    (slotWrites idx j os).map (fun w => (p + w.1, w.2)) = slotWrites idx (p + j) os := by
  induction os generalizing j with
  | nil => rfl
  | cons o os ih => simp only [slotWrites, List.map_cons, ih, Nat.add_assoc]

/-- The one-buffer loop over the buffers left is the list model's tail loop. -/
theorem strideLoop_tailLoop (idx : γ → ℕ) (single : σ → β → σ × γ) (s : σ) (p : ℕ)
    (bs : List β) (ws : List (ℕ × ℕ)) :
    strideLoop 1 (iterWrites idx (tailLoop single)) ⟨s, p, bs, ws⟩ =
      ⟨(tailLoop single s bs).1, p + bs.length, [], ws ++ slotWrites idx p (tailLoop single s bs).2⟩ := by
  induction bs generalizing s p ws with
  | nil => rw [strideLoop_of_not _ (by simp)]; simp [slotWrites]
  | cons b bs ih =>
    rw [strideLoop_of_le _ (by simp)]
    simp only [List.take, List.drop, iterWrites, tailLoop_cons, tailLoop_nil, slotWrites,
      List.map_cons, List.map_nil, Nat.add_zero, ih, List.length_cons, List.append_assoc,
      List.cons_append, List.nil_append, Cursor.mk.injEq, true_and, and_true]
    omega

/-- From any point of a frame, the four-wide loop and then the one-buffer loop compute the
list model's node loop over the buffers left. -/
theorem strideLoop_vectorLoop {idx : γ → ℕ} {quad : σ → β → β → β → β → σ × List γ}
    (single : σ → β → σ × γ) (hq : ∀ s b0 b1 b2 b3, (quad s b0 b1 b2 b3).2.length = 4)
    (s : σ) (bs : List β) (p : ℕ) (ws : List (ℕ × ℕ)) :
    strideLoop 1 (iterWrites idx (tailLoop single))
        (strideLoop 4 (iterWrites idx (quadIter quad single)) ⟨s, p, bs, ws⟩) =
      ⟨(vectorLoop quad single s bs).1, p + bs.length, [],
        ws ++ slotWrites idx p (vectorLoop quad single s bs).2⟩ := by
  induction s, bs using vectorLoop.induct quad single generalizing p ws with
  | case1 s b0 b1 b2 b3 bs r ih =>
    rw [strideLoop_of_le (iterWrites idx (quadIter quad single)) (by simp), vectorLoop]
    simp only [List.take, List.drop, iterWrites, quadIter]
    rw [ih, slotWrites_append, map_shift_slotWrites, hq]
    simp only [List.length_cons, List.append_assoc, Nat.add_zero, Cursor.mk.injEq, true_and,
      and_true]
    omega
  | case2 | case3 | case4 | case5 =>
    rw [strideLoop_of_not (iterWrites idx (quadIter quad single)) (by simp), strideLoop_tailLoop]
    rfl

/-- The two-wide version of `strideLoop_vectorLoop`. -/
theorem strideLoop_pairLoop {idx : γ → ℕ} {pair : σ → β → β → σ × List γ}
    (single : σ → β → σ × γ) (hp : ∀ s b0 b1, (pair s b0 b1).2.length = 2)
    (s : σ) (bs : List β) (p : ℕ) (ws : List (ℕ × ℕ)) :
    strideLoop 1 (iterWrites idx (tailLoop single))
        (strideLoop 2 (iterWrites idx (pairIter pair single)) ⟨s, p, bs, ws⟩) =
      ⟨(pairLoop pair single s bs).1, p + bs.length, [],
        ws ++ slotWrites idx p (pairLoop pair single s bs).2⟩ := by
  induction s, bs using pairLoop.induct pair single generalizing p ws with
  | case1 s b0 b1 bs r ih =>
    rw [strideLoop_of_le (iterWrites idx (pairIter pair single)) (by simp), pairLoop]
    simp only [List.take, List.drop, iterWrites, pairIter]
    rw [ih, slotWrites_append, map_shift_slotWrites, hp]
    simp only [List.length_cons, List.append_assoc, Nat.add_zero, Cursor.mk.injEq, true_and,
      and_true]
    omega
  | case2 | case3 =>
    rw [strideLoop_of_not (iterWrites idx (pairIter pair single)) (by simp), strideLoop_tailLoop]
    rfl

/-- After the writes of a list of outputs, slot `j + i` holds the index of output `i`. -/
theorem map_applyWrites_slotWrites (nexts : ℕ → ℕ) (idx : γ → ℕ) (j : ℕ) (os : List γ) :
    (List.range' j os.length).map (applyWrites nexts (slotWrites idx j os)) = os.map idx := by
  induction os generalizing j nexts with
  | nil => rfl
  | cons o os ih =>
    rw [List.length_cons, List.range'_succ, List.map_cons, slotWrites, applyWrites,
      List.foldl_cons, ← applyWrites, ih, applyWrites_of_not_mem, Function.update_same]
    · rfl
    · simp

/-- A four-wide node function leaves the state its list model leaves and enqueues each buffer
with the index of the next node the list model gives it, whatever `nexts` held before. -/
theorem quadFunction_call {idx : γ → ℕ} {n : ℕ} {quad : σ → β → β → β → β → σ × List γ}
    (single : σ → β → σ × γ) (hq : ∀ s b0 b1 b2 b3, (quad s b0 b1 b2 b3).2.length = 4)
    (s : σ) (frame : List β) (nexts : ℕ → ℕ) :
    (quadFunction idx quad single n).call s frame nexts =
      ((vectorLoop quad single s frame).1,
        frame.zip ((vectorLoop quad single s frame).2.map idx), frame.length) := by
  have hrun : (quadFunction idx quad single n).run s frame = _ :=
    strideLoop_vectorLoop single hq s frame 0 []
  rw [NodeFunction.call, hrun]
  dsimp only
  rw [List.nil_append, ← vectorLoop_length single hq s frame, List.range_eq_range',
    map_applyWrites_slotWrites]

/-- The two-wide version of `quadFunction_call`. -/
theorem pairFunction_call {idx : γ → ℕ} {n : ℕ} {pair : σ → β → β → σ × List γ}
    (single : σ → β → σ × γ) (hp : ∀ s b0 b1, (pair s b0 b1).2.length = 2)
    (s : σ) (frame : List β) (nexts : ℕ → ℕ) :
    (pairFunction idx pair single n).call s frame nexts =
      ((pairLoop pair single s frame).1,
        frame.zip ((pairLoop pair single s frame).2.map idx), frame.length) := by
  have hrun : (pairFunction idx pair single n).run s frame = _ :=
    strideLoop_pairLoop single hp s frame 0 []
  rw [NodeFunction.call, hrun]
  dsimp only
  rw [List.nil_append, ← pairLoop_length single hp s frame, List.range_eq_range',
    map_applyWrites_slotWrites]

/-- A cursor that has run the list model's tail loop, from `s`, over the first `c.next`
buffers of the frame. -/
def TailPrefix (idx : γ → ℕ) (single : σ → β → σ × γ) (s : σ) (frame : List β)
    (c : Cursor σ β) : Prop :=
  c.next ≤ frame.length ∧ c.b = frame.drop c.next ∧
    c.state = (tailLoop single s (frame.take c.next)).1 ∧
    c.writes = slotWrites idx 0 (tailLoop single s (frame.take c.next)).2

/-- A loop of any stride whose body is the tail loop on its buffers keeps `TailPrefix`. -/
theorem strideLoop_tailPrefix {idx : γ → ℕ} {single : σ → β → σ × γ} {s : σ} {frame : List β}
    (k : ℕ) (c : Cursor σ β) (h : TailPrefix idx single s frame c) :
    TailPrefix idx single s frame (strideLoop k (iterWrites idx (tailLoop single)) c) := by
  induction c using strideLoop.induct k (iterWrites idx (tailLoop single)) with
  | case1 c hc r ih =>
    rw [strideLoop_of_le _ hc]
    obtain ⟨hn, hb, hs, hw⟩ := h
    have hlen : c.b.length = frame.length - c.next := by rw [hb, List.length_drop]
    -- the buffers of this iteration extend the prefix
    have htake : frame.take (c.next + k) = frame.take c.next ++ c.b.take k := by
      rw [hb, List.take_add]
    refine ih ⟨by dsimp only; omega, by rw [hb, List.drop_drop], ?_, ?_⟩
    · show (tailLoop single c.state (c.b.take k)).1 = _
      rw [htake, tailLoop_append, ← hs]
    · show c.writes ++ (slotWrites idx 0 (tailLoop single c.state (c.b.take k)).2).map _ = _
      rw [htake, tailLoop_append, ← hs, hw, map_shift_slotWrites, slotWrites_append,
        tailLoop_length, List.length_take, Nat.min_eq_left hn, Nat.add_zero, Nat.zero_add]
  | case2 c hc => rwa [strideLoop_of_not _ hc]

/-- A node function whose every loop runs the list model's tail loop on its buffers leaves the
state of the tail loop over the frame and enqueues each buffer with the index of the next
node the tail loop gives it. -/
theorem tailFunction_call {idx : γ → ℕ} {single : σ → β → σ × γ} (f : NodeFunction σ β)
    (hu : ∀ l ∈ f.unrolled, l.2 = iterWrites idx (tailLoop single))
    (hs : f.single = iterWrites idx (tailLoop single)) (s : σ) (frame : List β)
    (nexts : ℕ → ℕ) :
    f.call s frame nexts =
      ((tailLoop single s frame).1, frame.zip ((tailLoop single s frame).2.map idx),
        frame.length) := by
  have h0 : TailPrefix idx single s frame ⟨s, 0, frame, []⟩ := ⟨Nat.zero_le _, rfl, rfl, rfl⟩
  have hu' := foldl_strideLoop_of (TailPrefix idx single s frame) f.unrolled
    (fun l hl c h => by rw [hu l hl]; exact strideLoop_tailPrefix _ c h) _ h0
  have hfin : TailPrefix idx single s frame (f.run s frame) := by
    unfold NodeFunction.run
    rw [hs]
    exact strideLoop_tailPrefix 1 _ hu'
  obtain ⟨hn, hb, hst, hw⟩ := hfin
  -- the one-buffer loop leaves no buffer, so the prefix is the whole frame
  have hnil : (f.run s frame).b.length < 1 :=
    (strideLoop_inv _ (show KeepsGood (fun _ _ => True) 1 f.single from fun _ _ _ _ _ _ => trivial)
      frame _ ⟨hu'.2.1, hu'.1, trivial⟩).2 Nat.one_pos
  have hend : (f.run s frame).next = frame.length := by
    have := congrArg List.length hb
    rw [List.length_drop] at this
    omega
  rw [NodeFunction.call, hst, hw, hend, List.take_length, List.range_eq_range',
    ← tailLoop_length single s frame, map_applyWrites_slotWrites]

/-! ### Writes with the same effect -/

/-- Two lists of writes that leave every array the same. -/
def SameEffect (ws ws' : List (ℕ × ℕ)) : Prop := ∀ nexts, applyWrites nexts ws = applyWrites nexts ws'

theorem SameEffect.append {ws ws' us us' : List (ℕ × ℕ)} (hw : SameEffect ws ws')
    (hu : SameEffect us us') : SameEffect (ws ++ us) (ws' ++ us') := fun nexts => by
  rw [applyWrites, List.foldl_append, ← applyWrites, ← applyWrites, hw, hu, applyWrites,
    applyWrites, applyWrites, List.foldl_append]

/-- Cursors that agree except for writes of the same effect. -/
def Cursor.Agree (c c' : Cursor σ β) : Prop :=
  c.state = c'.state ∧ c.next = c'.next ∧ c.b = c'.b ∧ SameEffect c.writes c'.writes

/-- Loops whose bodies leave the same state and writes of the same effect, wherever `next`
is, keep cursors in agreement. -/
theorem strideLoop_agree {k : ℕ} {body body' : σ → List β → σ × List (ℕ × ℕ)}
    (h : ∀ s bs p, bs.length = k → (body s bs).1 = (body' s bs).1 ∧
      SameEffect ((body s bs).2.map fun w => (p + w.1, w.2))
        ((body' s bs).2.map fun w => (p + w.1, w.2)))
    (c c' : Cursor σ β) (hc : c.Agree c') : (strideLoop k body c).Agree (strideLoop k body' c') := by
  obtain ⟨s', n', b', ws⟩ := c'
  obtain ⟨rfl, rfl, rfl, hw⟩ := hc
  induction c using strideLoop.induct k body generalizing ws with
  | case1 c hc r ih =>
    obtain ⟨h1, h2⟩ := h c.state (c.b.take k) c.next (by simp only [List.length_take]; omega)
    rw [strideLoop_of_le body hc, strideLoop_of_le body' (c := ⟨c.state, c.next, c.b, ws⟩) hc]
    have := ih (ws ++ (body' c.state (c.b.take k)).2.map fun w => (c.next + w.1, w.2))
      (hw.append h2)
    rwa [← h1]
  | case2 c hc =>
    rw [strideLoop_of_not body hc, strideLoop_of_not body' (c := ⟨c.state, c.next, c.b, ws⟩) hc]
    exact ⟨rfl, rfl, rfl, hw⟩

end Dispatch

end OpenSase
