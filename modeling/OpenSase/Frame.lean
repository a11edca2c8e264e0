import OpenSase.Wire

/-!
The loop every opensase node runs over a frame: four buffers per iteration while four are left,
then one at a time, with the node's state threaded through in frame order.
-/
namespace OpenSase

/-- Per-packet metadata kept in the buffer's opaque area (`opensase_buffer_opaque_t`). -/
structure PacketMeta where
  tenantId : ℕ
  policyId : ℕ
  appId : ℕ
  qosClass : ℕ
  flags : ℕ
  sessionIdx : ℕ
  deriving DecidableEq, Repr, Inhabited

/-- `opensase_qos_class_t`. -/
def OPENSASE_QOS_REALTIME : ℕ := 0

def OPENSASE_QOS_BUSINESS_CRITICAL : ℕ := 1

def OPENSASE_QOS_DEFAULT : ℕ := 2

def OPENSASE_QOS_BULK : ℕ := 3

def OPENSASE_QOS_SCAVENGER : ℕ := 4

def OPENSASE_QOS_N_CLASSES : ℕ := 5

def OPENSASE_FLAG_RATE_LIMITED : ℕ := 2 ^ 3

/-- A one-segment `vlib_buffer_t`: the bytes from its current data on, its opensase
metadata, and `vnet_buffer (b)->sw_if_index[VLIB_TX]`. -/
structure Buffer where
  data : Bytes
  meta : PacketMeta
  swIfIndexTx : ℕ := 0
  deriving DecidableEq, Repr, Inhabited

/-- `vlib_buffer_length_in_chain` of a one-segment buffer. -/
def Buffer.lengthInChain (b : Buffer) : ℕ := b.data.length

def Buffer.withMeta (b : Buffer) (m : PacketMeta) : Buffer := { b with meta := m }

@[simp] theorem Buffer.withMeta_data (b : Buffer) (m : PacketMeta) :
    (b.withMeta m).data = b.data := rfl

@[simp] theorem Buffer.withMeta_meta (b : Buffer) (m : PacketMeta) :
    (b.withMeta m).meta = m := rfl

section Loops

variable {σ β γ : Type}

/-- The one-at-a-time loop (`while (n_left_from > 0)`). -/
def tailLoop (single : σ → β → σ × γ) : σ → List β → σ × List γ
  | s, [] => (s, [])
  | s, b :: bs =>
    let r := single s b
    let t := tailLoop single r.1 bs
    (t.1, r.2 :: t.2)

/-- The node loop: `while (n_left_from >= 4)` runs `quad`, then `tailLoop` takes the rest. -/
def vectorLoop (quad : σ → β → β → β → β → σ × List γ) (single : σ → β → σ × γ) :
    σ → List β → σ × List γ
  | s, b0 :: b1 :: b2 :: b3 :: bs =>
    let r := quad s b0 b1 b2 b3
    let t := vectorLoop quad single r.1 bs
    (t.1, r.2 ++ t.2)
  | s, [b0, b1, b2] => tailLoop single s [b0, b1, b2]
  | s, [b0, b1] => tailLoop single s [b0, b1]
  | s, [b0] => tailLoop single s [b0]
  | s, [] => (s, [])

@[simp] theorem tailLoop_nil (single : σ → β → σ × γ) (s : σ) :
    tailLoop single s [] = (s, []) := rfl

theorem tailLoop_cons (single : σ → β → σ × γ) (s : σ) (b : β) (bs : List β) :
    tailLoop single s (b :: bs) =
      ((tailLoop single (single s b).1 bs).1,
        (single s b).2 :: (tailLoop single (single s b).1 bs).2) := rfl

theorem tailLoop_append (single : σ → β → σ × γ) (s : σ) (as bs : List β) :
    tailLoop single s (as ++ bs) =
      ((tailLoop single (tailLoop single s as).1 bs).1,
        (tailLoop single s as).2 ++ (tailLoop single (tailLoop single s as).1 bs).2) := by
  induction as generalizing s with
  | nil => rfl
  | cons a as ih => simp only [List.cons_append, tailLoop_cons, ih]

@[simp] theorem tailLoop_length (single : σ → β → σ × γ) (s : σ) (bs : List β) :
    (tailLoop single s bs).2.length = bs.length := by
  induction bs generalizing s with
  | nil => rfl
  | cons b bs ih => simp [tailLoop_cons, ih]

/-- A state predicate kept by every single iteration on the buffers of a frame holds
after the tail loop over that frame. -/
theorem tailLoop_inv_of_mem (Inv : σ → Prop) (single : σ → β → σ × γ) (bs : List β)
    (hs : ∀ s, ∀ b ∈ bs, Inv s → Inv (single s b).1) (s : σ) (h : Inv s) :
    Inv (tailLoop single s bs).1 := by
  induction bs generalizing s with
  | nil => exact h
  | cons b bs ih =>
    exact ih (fun s b' hb' => hs s b' (List.mem_cons_of_mem _ hb')) _
      (hs s b (List.mem_cons_self _ _) h)

/-- A state predicate kept by every single iteration holds after the tail loop. -/
theorem tailLoop_inv (Inv : σ → Prop) (single : σ → β → σ × γ)
    (hs : ∀ s b, Inv s → Inv (single s b).1) (s : σ) (bs : List β) (h : Inv s) :
    Inv (tailLoop single s bs).1 :=
  tailLoop_inv_of_mem Inv single bs (fun s b _ => hs s b) s h

/-- The unrolled loop refines the tail loop: when, from every state satisfying an
invariant that single iterations keep, one `quad` iteration does what four single
iterations do, the whole node loop is the tail loop. -/
theorem vectorLoop_eq_tailLoop (Inv : σ → Prop) (quad : σ → β → β → β → β → σ × List γ)
    (single : σ → β → σ × γ) (hs : ∀ s b, Inv s → Inv (single s b).1)
    (hq : ∀ s b0 b1 b2 b3, Inv s →
      quad s b0 b1 b2 b3 = tailLoop single s [b0, b1, b2, b3])
    (s : σ) (bs : List β) (h : Inv s) :
    vectorLoop quad single s bs = tailLoop single s bs := by
  induction s, bs using vectorLoop.induct quad single with
  | case1 s b0 b1 b2 b3 bs r ih =>
    have hq' := hq s b0 b1 b2 b3 h
    have hr : Inv r.1 := by
      rw [show r = quad s b0 b1 b2 b3 from rfl, hq']
      exact tailLoop_inv Inv single hs s _ h
    rw [vectorLoop, ih hr, show b0 :: b1 :: b2 :: b3 :: bs = [b0, b1, b2, b3] ++ bs from rfl,
      tailLoop_append, ← hq']
  | case2 | case3 | case4 | case5 => rfl

/-- The loop of the DLP node: `while (n_left_from >= 2)` runs `pair`, then `tailLoop`
takes the last buffer. -/
def pairLoop (pair : σ → β → β → σ × List γ) (single : σ → β → σ × γ) :
    σ → List β → σ × List γ
  | s, b0 :: b1 :: bs =>
    let r := pair s b0 b1
    let t := pairLoop pair single r.1 bs
    (t.1, r.2 ++ t.2)
  | s, [b0] => tailLoop single s [b0]
  | s, [] => (s, [])

/-- The two-wide loop refines the tail loop when one `pair` iteration does what two single
iterations do. -/
theorem pairLoop_eq_tailLoop (pair : σ → β → β → σ × List γ) (single : σ → β → σ × γ)
    (hp : ∀ s b0 b1, pair s b0 b1 = tailLoop single s [b0, b1]) (s : σ) (bs : List β) :
    pairLoop pair single s bs = tailLoop single s bs := by
  induction s, bs using pairLoop.induct pair single with
  | case1 s b0 b1 bs r ih =>
    rw [pairLoop, ih, show b0 :: b1 :: bs = [b0, b1] ++ bs from rfl, tailLoop_append, ← hp]
  | case2 | case3 => rfl

theorem vectorLoop_length {quad : σ → β → β → β → β → σ × List γ} (single : σ → β → σ × γ)
    (hq : ∀ s b0 b1 b2 b3, (quad s b0 b1 b2 b3).2.length = 4) (s : σ) (bs : List β) :
    (vectorLoop quad single s bs).2.length = bs.length := by
  induction s, bs using vectorLoop.induct quad single with
  | case1 s b0 b1 b2 b3 bs r ih =>
    rw [vectorLoop, List.length_append, ih, hq, List.length_cons, List.length_cons,
      List.length_cons, List.length_cons]
    omega
  | case2 | case3 | case4 | case5 => simp [vectorLoop]

theorem pairLoop_length {pair : σ → β → β → σ × List γ} (single : σ → β → σ × γ)
    (hp : ∀ s b0 b1, (pair s b0 b1).2.length = 2) (s : σ) (bs : List β) :
    (pairLoop pair single s bs).2.length = bs.length := by
  induction s, bs using pairLoop.induct pair single with
  | case1 s b0 b1 bs r ih =>
    rw [pairLoop, List.length_append, ih, hp, List.length_cons, List.length_cons]
    omega
  | case2 | case3 => rfl

/-- Each buffer with the slot the node loop processes it in: `some j` for place `j` of a
four-buffer iteration, `none` for the tail loop. -/
def withSlots : List β → List (β × Option (Fin 4))
  | b0 :: b1 :: b2 :: b3 :: bs =>
    (b0, some 0) :: (b1, some 1) :: (b2, some 2) :: (b3, some 3) :: withSlots bs
  | [b0, b1, b2] => [(b0, none), (b1, none), (b2, none)]
  | [b0, b1] => [(b0, none), (b1, none)]
  | [b0] => [(b0, none)]
  | [] => []

/-- The unrolled loop is a tail loop over the buffers tagged with their slots, when one
`quad` iteration does what the tagged single iterations do. -/
theorem vectorLoop_eq_tailLoop_withSlots (quad : σ → β → β → β → β → σ × List γ)
    (single : σ → β → σ × γ) (slotted : σ → β × Option (Fin 4) → σ × γ)
    (hq : ∀ s b0 b1 b2 b3, quad s b0 b1 b2 b3 =
      tailLoop slotted s [(b0, some 0), (b1, some 1), (b2, some 2), (b3, some 3)])
    (hs : ∀ s b, single s b = slotted s (b, none)) (s : σ) (bs : List β) :
    vectorLoop quad single s bs = tailLoop slotted s (withSlots bs) := by
  induction s, bs using vectorLoop.induct quad single with
  | case1 s b0 b1 b2 b3 bs r ih =>
    rw [vectorLoop, ih, withSlots,
      show ∀ l : List (β × Option (Fin 4)), (b0, some 0) :: (b1, some 1) :: (b2, some 2) ::
        (b3, some 3) :: l = [(b0, some 0), (b1, some 1), (b2, some 2), (b3, some 3)] ++ l
        from fun _ => rfl, tailLoop_append, ← hq]
  | case2 | case3 | case4 | case5 => simp [vectorLoop, withSlots, tailLoop, hs]

/-- Frames related position by position get their slots in the same places. -/
theorem withSlots_forall₂ {R : β → β → Prop} {bs bs' : List β} (h : List.Forall₂ R bs bs') :
    List.Forall₂ (fun x y => R x.1 y.1 ∧ x.2 = y.2) (withSlots bs) (withSlots bs') := by
  induction bs using withSlots.induct generalizing bs' with
  | case1 b0 b1 b2 b3 bs ih =>
    rcases h with _ | ⟨h0, _ | ⟨h1, _ | ⟨h2, _ | ⟨h3, h⟩⟩⟩⟩
    simp only [withSlots]
    exact .cons ⟨h0, rfl⟩ (.cons ⟨h1, rfl⟩ (.cons ⟨h2, rfl⟩ (.cons ⟨h3, rfl⟩ (ih h))))
  | case2 =>
    rcases h with _ | ⟨h0, _ | ⟨h1, _ | ⟨h2, _ | _⟩⟩⟩
    exact .cons ⟨h0, rfl⟩ (.cons ⟨h1, rfl⟩ (.cons ⟨h2, rfl⟩ .nil))
  | case3 =>
    rcases h with _ | ⟨h0, _ | ⟨h1, _ | _⟩⟩
    exact .cons ⟨h0, rfl⟩ (.cons ⟨h1, rfl⟩ .nil)
  | case4 =>
    rcases h with _ | ⟨h0, _ | _⟩
    exact .cons ⟨h0, rfl⟩ .nil
  | case5 => cases h; exact .nil

/-- Two runs of the tail loop from related states over related inputs: when one iteration
keeps the state relation and relates its outputs, the whole runs do. -/
theorem tailLoop_rel (R : σ → σ → Prop) (I : β → β → Prop) (O : γ → γ → Prop)
    (single : σ → β → σ × γ)
    (hs : ∀ s s' b b', R s s' → I b b' →
      R (single s b).1 (single s' b').1 ∧ O (single s b).2 (single s' b').2)
    {bs bs' : List β} (hb : List.Forall₂ I bs bs') {s s' : σ} (h : R s s') :
    R (tailLoop single s bs).1 (tailLoop single s' bs').1 ∧
      List.Forall₂ O (tailLoop single s bs).2 (tailLoop single s' bs').2 := by
  induction hb generalizing s s' with
  | nil => exact ⟨h, .nil⟩
  | cons hi _ ih =>
    obtain ⟨hr, ho⟩ := hs _ _ _ _ h hi
    exact ⟨(ih hr).1, .cons ho (ih hr).2⟩

/-- An input-output relation that every single iteration meets holds position by position
over the tail loop. -/
theorem tailLoop_forall₂ (P : β → γ → Prop) (single : σ → β → σ × γ)
    (hs : ∀ s b, P b (single s b).2) (s : σ) (bs : List β) :
    List.Forall₂ P bs (tailLoop single s bs).2 := by
  induction bs generalizing s with
  | nil => exact .nil
  | cons b bs ih => exact .cons (hs s b) (ih _)

/-- `tailLoop_forall₂` for a relation met by the iterations on the frame's own buffers. -/
theorem tailLoop_forall₂_of_mem (P : β → γ → Prop) (single : σ → β → σ × γ) (bs : List β)
    (hs : ∀ s, ∀ b ∈ bs, P b (single s b).2) (s : σ) :
    List.Forall₂ P bs (tailLoop single s bs).2 := by
  induction bs generalizing s with
  | nil => exact .nil
  | cons b bs ih =>
    exact .cons (hs s b (List.mem_cons_self _ _))
      (ih (fun s b' hb' => hs s b' (List.mem_cons_of_mem _ hb')) _)

/-- Each buffer of the tail loop with the state its iteration starts from. -/
def tailLoopTrace (single : σ → β → σ × γ) : σ → List β → List (σ × β)
  | _, [] => []
  | s, b :: bs => (s, b) :: tailLoopTrace single (single s b).1 bs

/-- When single iterations keep an invariant and relate the state they start from, their
buffer and their output, every output of the tail loop is so related to its buffer and
the state its iteration starts from. -/
theorem tailLoop_forall₂_trace (Inv : σ → Prop) (P : σ → β → γ → Prop)
    (single : σ → β → σ × γ) (hs : ∀ s b, Inv s → Inv (single s b).1 ∧ P s b (single s b).2)
    (s : σ) (bs : List β) (h : Inv s) :
    List.Forall₂ (fun sb o => Inv sb.1 ∧ P sb.1 sb.2 o) (tailLoopTrace single s bs)
      (tailLoop single s bs).2 := by
  induction bs generalizing s with
  | nil => exact .nil
  | cons b bs ih => exact .cons ⟨h, (hs s b h).2⟩ (ih _ (hs s b h).1)

/-- `tailLoop_forall₂` for a relation that iterations meet from the states of an invariant
they keep. -/
theorem tailLoop_forall₂_inv (Inv : σ → Prop) (P : β → γ → Prop) (single : σ → β → σ × γ)
    (hs : ∀ s b, Inv s → Inv (single s b).1 ∧ P b (single s b).2) (s : σ) (bs : List β)
    (h : Inv s) : List.Forall₂ P bs (tailLoop single s bs).2 := by
  induction bs generalizing s with
  | nil => exact .nil
  | cons b bs ih => exact .cons (hs s b h).2 (ih _ (hs s b h).1)

/-- `tailLoop_forall₂_inv` for iterations on the members of the list only: runs whose steps are
restricted (no writes of some kind, times before a deadline) keep the invariant too. -/
theorem tailLoop_forall₂_inv_of_mem (Inv : σ → Prop) (P : β → γ → Prop) (single : σ → β → σ × γ)
    (bs : List β) (hs : ∀ s, ∀ b ∈ bs, Inv s → Inv (single s b).1 ∧ P b (single s b).2) (s : σ)
    (h : Inv s) : Inv (tailLoop single s bs).1 ∧ List.Forall₂ P bs (tailLoop single s bs).2 := by
  induction bs generalizing s with
  | nil => exact ⟨h, .nil⟩
  | cons b bs ih =>
    have hb := hs s b (List.mem_cons_self _ _) h
    have ht := ih (fun s b' hb' => hs s b' (List.mem_cons_of_mem _ hb')) _ hb.1
    exact ⟨ht.1, .cons hb.2 ht.2⟩

/-- Outputs that are a function of the input alone, as long as an invariant holds: the loop's
outputs are the inputs mapped. -/
theorem tailLoop_map_of_mem (Inv : σ → Prop) (f : β → γ) (single : σ → β → σ × γ) (bs : List β)
    (hs : ∀ s, ∀ b ∈ bs, Inv s → Inv (single s b).1 ∧ (single s b).2 = f b) (s : σ) (h : Inv s) :
    (tailLoop single s bs).2 = bs.map f := by
  have h₂ := (tailLoop_forall₂_inv_of_mem Inv (fun b o => o = f b) single bs hs s h).2
  generalize (tailLoop single s bs).2 = os at h₂
  clear hs
  induction h₂ with
  | nil => rfl
  | cons ho _ ih => rw [ho, ih, List.map_cons]

/-- A counter below `M` that each iteration bumps, modulo `M`, on the outputs satisfying `p`
ends at its start plus their number, modulo `M`. -/
theorem tailLoop_countP_mod {M : ℕ} (f : σ → ℕ) (p : γ → Bool) (single : σ → β → σ × γ)
    (hs : ∀ s b, f s < M → f (single s b).1 = (f s + if p (single s b).2 then 1 else 0) % M)
    (s : σ) (hlt : f s < M) (bs : List β) :
    f (tailLoop single s bs).1 = (f s + (tailLoop single s bs).2.countP p) % M := by
  induction bs generalizing s with
  | nil => exact (Nat.mod_eq_of_lt hlt).symm
  | cons b bs ih =>
    rw [tailLoop_cons, ih _ (by rw [hs _ _ hlt]; exact Nat.mod_lt _ (by omega)), hs _ _ hlt,
      List.countP_cons, Nat.mod_add_mod, Nat.add_assoc, Nat.add_comm (ite _ _ _)]

/-- An output property that every single iteration meets holds of every output of the
tail loop. -/
theorem tailLoop_out (P : γ → Prop) (single : σ → β → σ × γ) (hs : ∀ s b, P (single s b).2)
    (s : σ) (bs : List β) : ∀ o ∈ (tailLoop single s bs).2, P o := by
  induction bs generalizing s with
  | nil => simp
  | cons b bs ih =>
    simp only [tailLoop_cons, List.mem_cons, forall_eq_or_imp]
    exact ⟨hs s b, ih _⟩

/-- Iterations that leave the state alone can be taken out of the loop: while an invariant
holds, if the buffers `skip` picks leave the state as it was, the loop over the other buffers
ends in the same state and gives each of them the same output. -/
theorem tailLoop_filter_of_skip (Inv : σ → Prop) (skip : β → Bool) (single : σ → β → σ × γ)
    (bs : List β) (hs : ∀ s, ∀ b ∈ bs, Inv s → Inv (single s b).1)
    (hskip : ∀ s b, Inv s → skip b = true → (single s b).1 = s) (s : σ) (h : Inv s) :
    tailLoop single s (bs.filter fun b => !skip b) =
      ((tailLoop single s bs).1,
        ((bs.zip (tailLoop single s bs).2).filter fun p => !skip p.1).map Prod.snd) := by
  induction bs generalizing s with
  | nil => rfl
  | cons b bs ih =>
    have ht := ih (fun s b' hb' => hs s b' (List.mem_cons_of_mem _ hb')) _
      (hs s b (List.mem_cons_self _ _) h)
    cases hb : skip b with
    | false =>
      simp only [List.filter_cons, hb, Bool.not_false, ↓reduceIte, tailLoop_cons, ht,
        List.zip_cons_cons, List.map_cons]
    | true =>
      rw [hskip s b h hb] at ht
      simp only [List.filter_cons, hb, Bool.not_true, Bool.false_eq_true, ↓reduceIte, tailLoop_cons,
        List.zip_cons_cons, ht, hskip s b h hb]

end Loops

end OpenSase
