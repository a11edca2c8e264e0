import OpenSase.Wire

/-!
The tunnel table of the `wireguard_tunnel` plugin: the tunnel pool, `tunnel_by_sw_if_index`, and
each tunnel's peers with `peer_by_pubkey`, keyed by the first eight bytes of the public key.
-/
namespace OpenSase.WireGuard

def WG_KEY_LEN : ℕ := 32

def WG_PEER_STATE_NEW : ℕ := 0

/-- A key of `WG_KEY_LEN` bytes. -/
structure WgKey where
  bytes : Bytes
  length_eq : bytes.length = WG_KEY_LEN
  deriving DecidableEq

instance : Inhabited WgKey := ⟨⟨List.replicate WG_KEY_LEN 0, List.length_replicate _ _⟩⟩

/-- What `wg_peer_add` keys `peer_by_pubkey` by, `*(u64 *)public_key`: the load of the key's
first eight bytes, which it determines and which determine it on either byte order. -/
def WgKey.pubkeyHash (k : WgKey) : Bytes := k.bytes.take 8

/-- `wg_keypair_t`. -/
structure WgKeypair where
  privateKey : WgKey
  publicKey : WgKey
  deriving DecidableEq, Inhabited

/-- `wg_peer_t`, with the fields `wg_peer_add` writes; its memset leaves the others zero. -/
structure WgPeer where
  publicKey : WgKey
  endpointAddr : ℕ
  endpointPort : ℕ
  endpointSet : Bool
  allowedIp : ℕ
  allowedIpPrefix : ℕ
  state : ℕ
  ifIndex : ℕ
  deriving DecidableEq

/-- `wg_tunnel_t`, with the fields the calls write. `n_peers` is a `u32`. -/
structure WgTunnel where
  swIfIndex : ℕ
  hwIfIndex : ℕ
  keypair : WgKeypair
  listenPort : ℕ
  peers : List WgPeer
  nPeers : ℕ
  peerByPubkey : Bytes → Option ℕ

/-- The zeroed tunnel `clib_memset` leaves, with an empty `peer_by_pubkey`. -/
def WgTunnel.zero : WgTunnel := ⟨0, 0, default, 0, [], 0, fun _ => none⟩

/-! ### The pool -/

/-- The bookkeeping of a VPP pool: `vec_len` of its elements, and its free indices, the one
freed last first. -/
structure Pool where
  len : ℕ
  freeIndices : List ℕ

/-- A slot in use: below `vec_len` and not free. -/
def Pool.live (p : Pool) (i : ℕ) : Prop := i < p.len ∧ i ∉ p.freeIndices

instance (p : Pool) (i : ℕ) : Decidable (p.live i) := inferInstanceAs (Decidable (_ ∧ _))

/-- Free indices are distinct slots of the pool. -/
structure Pool.WF (p : Pool) : Prop where
  nodup : p.freeIndices.Nodup
  lt : ∀ i ∈ p.freeIndices, i < p.len

/-- `pool_get`: the slot freed last, or a new one at the end. -/
def poolGet (p : Pool) : ℕ × Pool :=
  match p.freeIndices with
  | i :: rest => (i, { p with freeIndices := rest })
  | [] => (p.len, { p with len := p.len + 1 })

/-- `pool_put`: the slot becomes free. -/
def poolPut (p : Pool) (i : ℕ) : Pool := { p with freeIndices := i :: p.freeIndices }

/-- `pool_get` hands out a slot not in use and puts exactly that one in use. -/
theorem poolGet_spec {p : Pool} (hp : p.WF) :
    ¬ p.live (poolGet p).1 ∧ (poolGet p).2.WF ∧
      ∀ i, (poolGet p).2.live i ↔ p.live i ∨ i = (poolGet p).1 := by
  unfold poolGet
  rcases hf : p.freeIndices with _ | ⟨j, rest⟩
  · refine ⟨fun h => Nat.lt_irrefl _ h.1, ⟨List.nodup_nil, fun _ h => absurd h (List.not_mem_nil _)⟩,
      fun i => ?_⟩
    simp only [Pool.live, hf, List.not_mem_nil, not_false_eq_true, and_true]
    omega
  · have hnd := hp.nodup
    rw [hf, List.nodup_cons] at hnd
    refine ⟨fun h => h.2 (by rw [hf]; exact List.mem_cons_self _ _),
      ⟨hnd.2, fun i hi => hp.lt i (by rw [hf]; exact List.mem_cons_of_mem _ hi)⟩, fun i => ?_⟩
    have hj : j < p.len := hp.lt j (by rw [hf]; exact List.mem_cons_self _ _)
    simp only [Pool.live, hf, List.mem_cons, not_or]
    by_cases hij : i = j
    · subst hij; exact iff_of_true ⟨hj, hnd.1⟩ (Or.inr rfl)
    · simp only [hij, not_false_eq_true, true_and, or_false]

/-- `pool_put` of a slot in use frees exactly that one. -/
theorem poolPut_spec {p : Pool} (hp : p.WF) {i : ℕ} (hi : p.live i) :
    (poolPut p i).WF ∧ ∀ j, (poolPut p i).live j ↔ p.live j ∧ j ≠ i := by
  refine ⟨⟨List.nodup_cons.mpr ⟨hi.2, hp.nodup⟩, fun j hj => ?_⟩, fun j => ?_⟩
  · rcases List.mem_cons.mp hj with rfl | hj
    · exact hi.1
    · exact hp.lt j hj
  · simp only [Pool.live, poolPut, List.mem_cons, not_or]
    constructor
    · rintro ⟨hl, hne, hf⟩; exact ⟨⟨hl, hf⟩, hne⟩
    · rintro ⟨⟨hl, hf⟩, hne⟩; exact ⟨hl, hne, hf⟩

/-! ### The calls -/

/-- `wg_main_t`, with the tunnel pool and `tunnel_by_sw_if_index`. -/
structure WgMain where
  pool : Pool
  tunnels : ℕ → WgTunnel
  tunnelBySwIfIndex : ℕ → Option ℕ

/-- The state `wg_tunnel_init_internal` leaves: no tunnel and an empty hash. -/
def wgMainInit : WgMain := ⟨⟨0, []⟩, fun _ => .zero, fun _ => none⟩

/-- `wg_tunnel_create`: the return code, `*sw_if_index`, and the state after. -/
def wgTunnelCreate (m : WgMain) (keypair : WgKeypair) (listenPort : ℕ) : ℤ × ℕ × WgMain :=
  let r := poolGet m.pool
  let tunIndex := r.1
  let tun : WgTunnel :=
    { WgTunnel.zero with
      keypair := keypair, listenPort := listenPort, swIfIndex := tunIndex, hwIfIndex := tunIndex }
  (0, tun.swIfIndex,
    { pool := r.2
      tunnels := Function.update m.tunnels tunIndex tun
      tunnelBySwIfIndex := Function.update m.tunnelBySwIfIndex tun.swIfIndex (some tunIndex) })

/-- `wg_tunnel_delete`: the return code and the state after. `vec_free` and `hash_free`
leave the slot with no peers and no peer hash. -/
def wgTunnelDelete (m : WgMain) (swIfIndex : ℕ) : ℤ × WgMain :=
  match m.tunnelBySwIfIndex swIfIndex with
  | none => (-1, m)
  | some tunIndex =>
    let tun := m.tunnels tunIndex
    (0,
      { pool := poolPut m.pool tunIndex
        tunnels := Function.update m.tunnels tunIndex
          { tun with peers := [], peerByPubkey := fun _ => none }
        tunnelBySwIfIndex := Function.update m.tunnelBySwIfIndex swIfIndex none })

/-- `wg_peer_add`: the return code and the state after. An absent endpoint or allowed IP
is the `NULL` pointer. -/
def wgPeerAdd (m : WgMain) (swIfIndex : ℕ) (publicKey : WgKey) (endpoint : Option ℕ)
    (port : ℕ) (allowedIp : Option ℕ) (prefixLen : ℕ) : ℤ × WgMain :=
  match m.tunnelBySwIfIndex swIfIndex with
  | none => (-1, m)
  | some tunIndex =>
    let tun := m.tunnels tunIndex
    let pubkeyHash := publicKey.pubkeyHash
    match tun.peerByPubkey pubkeyHash with
    | some _ => (-2, m)
    | none =>
      let peerIndex := tun.peers.length
      let peer : WgPeer :=
        { publicKey := publicKey
          endpointAddr := endpoint.getD 0
          endpointPort := if endpoint.isSome then port else 0
          endpointSet := endpoint.isSome
          allowedIp := allowedIp.getD 0
          allowedIpPrefix := if allowedIp.isSome then prefixLen else 0
          state := WG_PEER_STATE_NEW
          ifIndex := swIfIndex }
      (0,
        { m with
          tunnels := Function.update m.tunnels tunIndex
            { tun with
              peers := tun.peers ++ [peer]
              peerByPubkey := Function.update tun.peerByPubkey pubkeyHash (some peerIndex)
              nPeers := (tun.nPeers + 1) % 2 ^ 32 } })

/-- The states some sequence of calls reaches from the initial one. -/
inductive WgReachable : WgMain → Prop
  | init : WgReachable wgMainInit
  | create {m : WgMain} (keypair : WgKeypair) (listenPort : ℕ) :
      WgReachable m → WgReachable (wgTunnelCreate m keypair listenPort).2.2
  | delete {m : WgMain} (swIfIndex : ℕ) :
      WgReachable m → WgReachable (wgTunnelDelete m swIfIndex).2
  | peerAdd {m : WgMain} (swIfIndex : ℕ) (publicKey : WgKey) (endpoint : Option ℕ) (port : ℕ)
      (allowedIp : Option ℕ) (prefixLen : ℕ) :
      WgReachable m →
        WgReachable (wgPeerAdd m swIfIndex publicKey endpoint port allowedIp prefixLen).2

/-! ### The table invariant -/

/-- `peer_by_pubkey` maps exactly the key prefixes of the tunnel's peers, each to the index
of its peer. -/
def PeerInv (t : WgTunnel) : Prop :=
  ∀ h j, t.peerByPubkey h = some j ↔ ∃ p, t.peers[j]? = some p ∧ p.publicKey.pubkeyHash = h

/-- The invariant of the tunnel table. -/
structure WgInv (m : WgMain) : Prop where
  /-- The free list holds distinct slots of the pool. -/
  pool : m.pool.WF
  /-- `tunnel_by_sw_if_index` names exactly the live tunnels, each under its own index. -/
  hash : ∀ s i, m.tunnelBySwIfIndex s = some i ↔ m.pool.live i ∧ (m.tunnels i).swIfIndex = s
  /-- A live tunnel's `sw_if_index` is its pool slot. -/
  swIfIndex : ∀ i, m.pool.live i → (m.tunnels i).swIfIndex = i
  /-- A live tunnel's `n_peers` counts its peers as a `u32`. -/
  nPeers : ∀ i, m.pool.live i → (m.tunnels i).nPeers = (m.tunnels i).peers.length % 2 ^ 32
  /-- Every slot's peer hash agrees with its peers. -/
  peers : ∀ i, PeerInv (m.tunnels i)

theorem peerInv_of_nil {t : WgTunnel} (hp : t.peers = []) (hh : ∀ h, t.peerByPubkey h = none) :
    PeerInv t := fun h j => by
  rw [hh, hp]
  exact iff_of_false (by simp) (by simp)

theorem getElem?_append_singleton_of_le {α : Type} {l : List α} {a : α} {j : ℕ}
    (hj : l.length ≤ j) : (l ++ [a])[j]? = if j = l.length then some a else none := by
  rw [List.getElem?_append_right hj]
  obtain ⟨k, rfl⟩ := Nat.exists_eq_add_of_le hj
  cases k <;> simp [Nat.add_sub_cancel_left]

/-- Adding a peer under a prefix `peer_by_pubkey` does not hold keeps the invariant. -/
theorem PeerInv.add {t : WgTunnel} (ht : PeerInv t) {h₀ : Bytes} (hnone : t.peerByPubkey h₀ = none)
    (p : WgPeer) (hp : p.publicKey.pubkeyHash = h₀) (n : ℕ) :
    PeerInv { t with
      peers := t.peers ++ [p]
      peerByPubkey := Function.update t.peerByPubkey h₀ (some t.peers.length)
      nPeers := n } := by
  intro h j
  dsimp only
  rw [Function.update_apply]
  rcases Nat.lt_or_ge j t.peers.length with hj | hj
  · rw [List.getElem?_append_left hj]
    split_ifs with hh
    · subst hh
      rw [← ht, hnone]
      exact iff_of_false (fun e => by cases e; omega) (by simp)
    · exact ht h j
  · rw [getElem?_append_singleton_of_le hj]
    have hnot : t.peerByPubkey h ≠ some j := fun e => by
      obtain ⟨q, hq, -⟩ := (ht h j).mp e
      rw [List.getElem?_eq_none hj] at hq
      cases hq
    split_ifs with hh he he
    · subst hh he; exact iff_of_true rfl ⟨p, rfl, hp⟩
    · exact iff_of_false (fun e => he (Option.some.inj e).symm) (by simp)
    · exact iff_of_false hnot (fun ⟨q, hq, hqh⟩ => by cases hq; exact hh (hqh.symm.trans hp))
    · exact iff_of_false hnot (by simp)

/-- Under the invariant the hash holds a key prefix exactly when some peer's key has it. -/
theorem PeerInv.exists_iff {t : WgTunnel} (ht : PeerInv t) (h : Bytes) :
    (∃ p ∈ t.peers, p.publicKey.pubkeyHash = h) ↔ ∃ j, t.peerByPubkey h = some j := by
  simp only [ht h _, List.mem_iff_getElem?]
  exact ⟨fun ⟨p, ⟨j, hj⟩, hp⟩ => ⟨j, p, hj, hp⟩, fun ⟨j, p, hj, hp⟩ => ⟨p, ⟨j, hj⟩, hp⟩⟩

theorem wgMainInit_inv : WgInv wgMainInit where
  pool := ⟨List.nodup_nil, fun _ h => absurd h (List.not_mem_nil _)⟩
  hash := fun _ i => iff_of_false (by simp [wgMainInit]) (fun h => Nat.not_lt_zero i h.1.1)
  swIfIndex := fun i h => absurd h.1 (Nat.not_lt_zero i)
  nPeers := fun i h => absurd h.1 (Nat.not_lt_zero i)
  peers := fun _ => peerInv_of_nil rfl fun _ => rfl

/-- `wg_tunnel_create` keeps the invariant: its slot was not in use, so neither the hash
nor another live tunnel names it. -/
theorem wgTunnelCreate_inv {m : WgMain} (hm : WgInv m) (keypair : WgKeypair) (listenPort : ℕ) :
    WgInv (wgTunnelCreate m keypair listenPort).2.2 := by
  obtain ⟨hfree, hwf, hlive⟩ := poolGet_spec hm.pool
  unfold wgTunnelCreate
  dsimp only
  generalize (poolGet m.pool).1 = idx at hfree hlive ⊢
  refine ⟨hwf, fun s i => ?_, fun i hi => ?_, fun i hi => ?_, fun i => ?_⟩ <;> dsimp only at *
  · rw [hlive, Function.update_apply, Function.update_apply]
    by_cases hs : s = idx
    · rw [hs, if_pos rfl]
      constructor
      · rintro ⟨⟩
        exact ⟨Or.inr rfl, by rw [if_pos rfl]⟩
      · rintro ⟨hi, he⟩
        by_cases hie : i = idx
        · rw [hie]
        · rw [if_neg hie] at he
          exact absurd ((hm.swIfIndex i (hi.resolve_right hie)).symm.trans he) hie
    · rw [if_neg hs, hm.hash]
      by_cases hie : i = idx
      · subst hie
        rw [if_pos rfl]
        exact iff_of_false (fun h => hfree h.1) (fun h => hs h.2.symm)
      · rw [if_neg hie]
        simp only [hie, or_false]
  · rw [hlive] at hi
    rw [Function.update_apply]
    split_ifs with hie
    · exact hie.symm
    · exact hm.swIfIndex i (hi.resolve_right hie)
  · rw [hlive] at hi
    rw [Function.update_apply]
    split_ifs with hie
    · rfl
    · exact hm.nPeers i (hi.resolve_right hie)
  · rw [Function.update_apply]
    split_ifs
    · exact peerInv_of_nil rfl fun _ => rfl
    · exact hm.peers i

/-- `wg_tunnel_delete` keeps the invariant: it unsets the one key that names the slot it
frees. -/
theorem wgTunnelDelete_inv {m : WgMain} (hm : WgInv m) (swIfIndex : ℕ) :
    WgInv (wgTunnelDelete m swIfIndex).2 := by
  unfold wgTunnelDelete
  rcases hk : m.tunnelBySwIfIndex swIfIndex with _ | i
  · exact hm
  obtain ⟨hi, hsi⟩ := (hm.hash swIfIndex i).mp hk
  obtain ⟨hwf, hlive⟩ := poolPut_spec hm.pool hi
  dsimp only
  refine ⟨hwf, fun s j => ?_, fun j hj => ?_, fun j hj => ?_, fun j => ?_⟩ <;> dsimp only
  · rw [hlive, Function.update_apply, Function.update_apply]
    by_cases hs : s = swIfIndex
    · subst hs
      rw [if_pos rfl]
      refine iff_of_false (by simp) fun ⟨⟨hj, hji⟩, hsj⟩ => hji ?_
      rw [if_neg hji] at hsj
      exact Option.some.inj (((hm.hash _ j).mpr ⟨hj, hsj⟩).symm.trans hk)
    · rw [if_neg hs, hm.hash]
      by_cases hji : j = i
      · subst hji
        rw [if_pos rfl]
        exact iff_of_false (fun h => hs (h.2.symm.trans hsi)) (fun h => h.1.2 rfl)
      · rw [if_neg hji]
        simp only [hji, ne_eq, not_false_eq_true, and_true]
  · rw [hlive] at hj
    rw [Function.update_noteq hj.2]
    exact hm.swIfIndex j hj.1
  · rw [hlive] at hj
    rw [Function.update_noteq hj.2]
    exact hm.nPeers j hj.1
  · rw [Function.update_apply]
    split_ifs
    · exact peerInv_of_nil rfl fun _ => rfl
    · exact hm.peers j

/-- Replacing a live tunnel by one with the same `sw_if_index` whose peers keep their
invariants keeps the table invariant. -/
theorem WgInv.setTunnel {m : WgMain} (hm : WgInv m) {i : ℕ} {t : WgTunnel}
    (hs : t.swIfIndex = (m.tunnels i).swIfIndex) (hn : t.nPeers = t.peers.length % 2 ^ 32)
    (hp : PeerInv t) : WgInv { m with tunnels := Function.update m.tunnels i t } := by
  refine ⟨hm.pool, fun s j => ?_, fun j hj => ?_, fun j hj => ?_, fun j => ?_⟩ <;>
    dsimp only <;> rw [Function.update_apply] <;> split_ifs with hji
  · rw [hji, hs, ← hji]; exact hm.hash s j
  · exact hm.hash s j
  · rw [hs, ← hji]; exact hm.swIfIndex j hj
  · exact hm.swIfIndex j hj
  · exact hn
  · exact hm.nPeers j hj
  · exact hp
  · exact hm.peers j

/-- `wg_peer_add` keeps the invariant. -/
theorem wgPeerAdd_inv {m : WgMain} (hm : WgInv m) (swIfIndex : ℕ) (publicKey : WgKey)
    (endpoint : Option ℕ) (port : ℕ) (allowedIp : Option ℕ) (prefixLen : ℕ) :
    WgInv (wgPeerAdd m swIfIndex publicKey endpoint port allowedIp prefixLen).2 := by
  unfold wgPeerAdd
  rcases hk : m.tunnelBySwIfIndex swIfIndex with _ | i
  · exact hm
  dsimp only
  rcases hp : (m.tunnels i).peerByPubkey publicKey.pubkeyHash with _ | j
  · refine hm.setTunnel rfl ?_ ((hm.peers i).add hp _ rfl _)
    dsimp only
    rw [hm.nPeers i ((hm.hash swIfIndex i).mp hk).1, List.length_append, List.length_singleton]
    omega
  · exact hm

theorem WgReachable.inv {m : WgMain} (hm : WgReachable m) : WgInv m := by
  induction hm with
  | init => exact wgMainInit_inv
  | create keypair listenPort _ ih => exact wgTunnelCreate_inv ih keypair listenPort
  | delete swIfIndex _ ih => exact wgTunnelDelete_inv ih swIfIndex
  | peerAdd swIfIndex publicKey endpoint port allowedIp prefixLen _ ih =>
    exact wgPeerAdd_inv ih swIfIndex publicKey endpoint port allowedIp prefixLen

/-! ### What the calls guarantee -/

/-- The key of thirty-two `1` bytes. -/
def keyOnes : WgKey := ⟨List.replicate 32 1, rfl⟩

/-- A key that agrees with `keyOnes` on its first eight bytes only. -/
def keyTwin : WgKey := ⟨List.replicate 8 1 ++ List.replicate 24 2, by decide⟩

/-- A tunnel at `sw_if_index 0` with one peer, reached by two calls. -/
def tunnelWithPeer (k : WgKey) : WgMain :=
  (wgPeerAdd (wgTunnelCreate wgMainInit default 51820).2.2 0 k none 0 none 0).2

theorem tunnelWithPeer_reachable (k : WgKey) : WgReachable (tunnelWithPeer k) :=
  .peerAdd _ _ _ _ _ _ (.create _ _ .init)

/-- In every reachable state the tunnel hash maps a `sw_if_index` to the one live tunnel that
has it: live tunnels have distinct indices, and deleting fails with `-1` exactly when no live
tunnel has the index. -/
theorem wgTunnelBySwIfIndex_spec (m : WgMain) (hm : WgReachable m) :
    (∀ s i, m.tunnelBySwIfIndex s = some i ↔ m.pool.live i ∧ (m.tunnels i).swIfIndex = s) ∧
      (∀ i j, m.pool.live i → m.pool.live j →
        (m.tunnels i).swIfIndex = (m.tunnels j).swIfIndex → i = j) ∧
      (∀ s, (wgTunnelDelete m s).1 = -1 ↔ ∀ i, m.pool.live i → (m.tunnels i).swIfIndex ≠ s) ∧
      ∀ s i, m.tunnelBySwIfIndex s = some i → m.pool.live i := by
  have h := hm.inv
  refine ⟨h.hash, fun i j hi hj he => (h.swIfIndex i hi).symm.trans (he.trans (h.swIfIndex j hj)),
    fun s => ?_, fun s i hs => ((h.hash s i).mp hs).1⟩
  unfold wgTunnelDelete
  rcases hk : m.tunnelBySwIfIndex s with _ | i
  · exact iff_of_true rfl fun i hi hsi => by rw [(h.hash s i).mpr ⟨hi, hsi⟩] at hk; cases hk
  · exact iff_of_false (by simp) fun hno => hno i ((h.hash s i).mp hk).1 ((h.hash s i).mp hk).2

theorem wgTunnelBySwIfIndex_spec_withPeer :
    WgReachable (tunnelWithPeer keyOnes) ∧
      (∀ s i, (tunnelWithPeer keyOnes).tunnelBySwIfIndex s = some i ↔
        (tunnelWithPeer keyOnes).pool.live i ∧ ((tunnelWithPeer keyOnes).tunnels i).swIfIndex = s) ∧
      (∀ i j, (tunnelWithPeer keyOnes).pool.live i → (tunnelWithPeer keyOnes).pool.live j →
        ((tunnelWithPeer keyOnes).tunnels i).swIfIndex =
          ((tunnelWithPeer keyOnes).tunnels j).swIfIndex → i = j) ∧
      (∀ s, (wgTunnelDelete (tunnelWithPeer keyOnes) s).1 = -1 ↔
        ∀ i, (tunnelWithPeer keyOnes).pool.live i → ((tunnelWithPeer keyOnes).tunnels i).swIfIndex ≠ s) ∧
      ∀ s i, (tunnelWithPeer keyOnes).tunnelBySwIfIndex s = some i →
        (tunnelWithPeer keyOnes).pool.live i :=
  ⟨tunnelWithPeer_reachable keyOnes,
    wgTunnelBySwIfIndex_spec (tunnelWithPeer keyOnes) (tunnelWithPeer_reachable keyOnes)⟩

/-- Without a live tunnel at `sw_if_index` the call fails with `-1`, and when the tunnel has a
peer whose key agrees with the new one on its first eight bytes with `-2`, in both cases
changing nothing; otherwise it appends one peer with the key to that tunnel, counts it in the
`u32` `n_peers`, and changes nothing else. -/
theorem wgPeerAdd_spec (m : WgMain) (hm : WgReachable m) (swIfIndex : ℕ) (publicKey : WgKey)
    (endpoint : Option ℕ) (port : ℕ) (allowedIp : Option ℕ) (prefixLen : ℕ) :
    let r := wgPeerAdd m swIfIndex publicKey endpoint port allowedIp prefixLen
    (r.1 = -1 ↔ ∀ i, m.pool.live i → (m.tunnels i).swIfIndex ≠ swIfIndex) ∧
      (∀ i, m.pool.live i → (m.tunnels i).swIfIndex = swIfIndex →
        (r.1 = -2 ↔ ∃ p ∈ (m.tunnels i).peers, p.publicKey.pubkeyHash = publicKey.pubkeyHash) ∧
        (r.1 ≠ -2 → r.1 = 0 ∧ ∃ p : WgPeer, p.publicKey = publicKey ∧
          (r.2.tunnels i).peers = (m.tunnels i).peers ++ [p] ∧
          (r.2.tunnels i).nPeers = ((m.tunnels i).nPeers + 1) % 2 ^ 32 ∧
          r.2.pool = m.pool ∧ r.2.tunnelBySwIfIndex = m.tunnelBySwIfIndex ∧
          ∀ j ≠ i, r.2.tunnels j = m.tunnels j)) ∧
      (r.1 ≠ 0 → r.2 = m) := by
  intro r
  have h := hm.inv
  rcases hk : m.tunnelBySwIfIndex swIfIndex with _ | i₀
  · have hr : r = (-1, m) := by simp only [r, wgPeerAdd, hk]
    rw [hr]
    refine ⟨iff_of_true rfl fun i hi hsi => ?_, fun i hi hsi => ?_, fun _ => rfl⟩ <;>
      rw [(h.hash swIfIndex i).mpr ⟨hi, hsi⟩] at hk <;> cases hk
  obtain ⟨hi₀, hs₀⟩ := (h.hash swIfIndex i₀).mp hk
  have hmem := (h.peers i₀).exists_iff publicKey.pubkeyHash
  have hsame : ∀ i, m.pool.live i → (m.tunnels i).swIfIndex = swIfIndex → i = i₀ := fun i hi hsi =>
    Option.some.inj (((h.hash swIfIndex i).mpr ⟨hi, hsi⟩).symm.trans hk)
  have hnot : ¬ ∀ i, m.pool.live i → (m.tunnels i).swIfIndex ≠ swIfIndex :=
    fun hno => hno i₀ hi₀ hs₀
  rcases hp : (m.tunnels i₀).peerByPubkey publicKey.pubkeyHash with _ | j
  · have hr : r.1 = 0 := by simp only [r, wgPeerAdd, hk, hp]
    refine ⟨iff_of_false (by rw [hr]; decide) hnot, fun i hi hsi => ?_, fun h0 => absurd hr h0⟩
    obtain rfl := hsame i hi hsi
    refine ⟨iff_of_false (by rw [hr]; decide) fun he => ?_, fun _ => ⟨hr, ?_⟩⟩
    · obtain ⟨j, hj⟩ := hmem.mp he
      rw [hp] at hj
      cases hj
    · simp only [r, wgPeerAdd, hk, hp, Function.update_same]
      exact ⟨_, rfl, rfl, trivial, trivial, trivial, fun j hj => Function.update_noteq hj _ _⟩
  · have hr : r = (-2, m) := by simp only [r, wgPeerAdd, hk, hp]
    rw [hr]
    refine ⟨iff_of_false (by simp) hnot, fun i hi hsi => ?_, fun _ => rfl⟩
    obtain rfl := hsame i hi hsi
    exact ⟨iff_of_true rfl (hmem.mpr ⟨j, hp⟩), fun h2 => absurd rfl h2⟩

theorem wgPeerAdd_spec_prefixTwin :
    WgReachable (tunnelWithPeer keyOnes) ∧
      let m := tunnelWithPeer keyOnes
      let r := wgPeerAdd m 0 keyTwin none 0 none 0
      (r.1 = -1 ↔ ∀ i, m.pool.live i → (m.tunnels i).swIfIndex ≠ 0) ∧
        (∀ i, m.pool.live i → (m.tunnels i).swIfIndex = 0 →
          (r.1 = -2 ↔ ∃ p ∈ (m.tunnels i).peers, p.publicKey.pubkeyHash = keyTwin.pubkeyHash) ∧
          (r.1 ≠ -2 → r.1 = 0 ∧ ∃ p : WgPeer, p.publicKey = keyTwin ∧
            (r.2.tunnels i).peers = (m.tunnels i).peers ++ [p] ∧
            (r.2.tunnels i).nPeers = ((m.tunnels i).nPeers + 1) % 2 ^ 32 ∧
            r.2.pool = m.pool ∧ r.2.tunnelBySwIfIndex = m.tunnelBySwIfIndex ∧
            ∀ j ≠ i, r.2.tunnels j = m.tunnels j)) ∧
        (r.1 ≠ 0 → r.2 = m) :=
  ⟨tunnelWithPeer_reachable keyOnes,
    wgPeerAdd_spec (tunnelWithPeer keyOnes) (tunnelWithPeer_reachable keyOnes) 0 keyTwin none 0 none 0⟩

/-- The peer hash is keyed by the first eight bytes of a key, so adding a peer whose key
differs from every present peer's key fails with `-2` when the first eight bytes agree. -/
theorem wgPeerAdd_rejects_prefix_twin :
    WgReachable (tunnelWithPeer keyOnes) ∧ (tunnelWithPeer keyOnes).pool.live 0 ∧
      ((tunnelWithPeer keyOnes).tunnels 0).swIfIndex = 0 ∧
      (∀ p ∈ ((tunnelWithPeer keyOnes).tunnels 0).peers, p.publicKey ≠ keyTwin) ∧
      (wgPeerAdd (tunnelWithPeer keyOnes) 0 keyTwin none 0 none 0).1 = -2 :=
  ⟨tunnelWithPeer_reachable keyOnes, by decide, rfl, by decide, rfl⟩

end OpenSase.WireGuard
