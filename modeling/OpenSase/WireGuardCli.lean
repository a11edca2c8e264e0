import OpenSase.WireGuard

/-!
Key generation and key printing of the `wireguard_tunnel` CLI (`wireguard_cli.c`):
`wg_random_bytes` fills one byte of the key, and `wg_base64_encode` writes RFC 4648.
-/
namespace OpenSase.WireGuard

/-- `random_u32 (&seed)` of vppinfra: the seed's linear-congruential update, which is also
the value returned. -/
def randomU32 (seed : ℕ) : ℕ := (1664525 * seed + 1013904223) % 2 ^ 32

/-- The loop of `wg_random_bytes (buf, len)` from counter `i` with at most `fuel`
iterations: the stores it makes, each an index and a byte, or `none` when the fuel runs out.
With `late` the store addresses `buf[i]` after `random_u32 (&i)` has rewritten `i`. -/
def wgRandomBytesFrom (len : ℕ) (late : Bool) : ℕ → ℕ → Option (List (ℕ × ℕ))
  | 0, _ => none
  | fuel + 1, i =>
    if i < len then
      let seed := randomU32 i
      (wgRandomBytesFrom len late fuel ((seed + 1) % 2 ^ 32)).map
        (((if late then seed else i), seed % 256) :: ·)
    else some []

/-- `wg_random_bytes (buf, len)`: the loop from `i = 0`. -/
def wgRandomBytes (len : ℕ) (late : Bool) (fuel : ℕ) : Option (List (ℕ × ℕ)) :=
  wgRandomBytesFrom len late fuel 0

/-- For every length from 1 to `1013904224`, and either order of evaluation, the loop stops
after a single store of `0x5f`: at index 0, or at index `1013904223` when `buf[i]` is
addressed after the call. No byte `buf[1..len-1]` is written. -/
theorem wgRandomBytes_one_store (len : ℕ) (h₁ : 1 ≤ len) (h₂ : len ≤ 1013904224) (late : Bool)
    (fuel : ℕ) : wgRandomBytes len late (fuel + 2) = some [(if late then 1013904223 else 0, 0x5F)] := by
  have hseed : randomU32 0 = 1013904223 := rfl
  simp only [wgRandomBytes, wgRandomBytesFrom, if_pos (show 0 < len by omega), hseed]
  rw [if_neg (show ¬ (1013904223 + 1) % 2 ^ 32 < len by omega)]
  cases late <;> rfl

theorem wgRandomBytes_one_store_key :
    1 ≤ WG_KEY_LEN ∧ WG_KEY_LEN ≤ 1013904224 ∧
      wgRandomBytes WG_KEY_LEN false (0 + 2) = some [(if false then 1013904223 else 0, 0x5F)] :=
  ⟨by decide, by decide, wgRandomBytes_one_store WG_KEY_LEN (by decide) (by decide) false 0⟩

/-- The Curve25519 clamp both commands apply to the private key. -/
def clampKey (k : Bytes) : Bytes :=
  (k.modify (· &&& 248) 0).modify (fun b => b &&& 127 ||| 64) 31

/-- Stores applied to a buffer, in order. -/
def applyStores (buf : Bytes) (ws : List (ℕ × ℕ)) : Bytes :=
  ws.foldl (fun b w => b.set w.1 (UInt8.ofNat w.2)) buf

/-- The private key `wireguard keygen` prints when `buf[i]` is addressed before the call,
from the bytes its stack buffer `private_key` held; `none` if the loop did not stop within
one iteration per byte. -/
def wgKeygenPrivate (stack : Bytes) : Option Bytes :=
  (wgRandomBytes WG_KEY_LEN false (WG_KEY_LEN + 1)).map fun ws => clampKey (applyStores stack ws)

/-! ### Base64 -/

def base64Table : Bytes :=
  "ABCDEFGHIJKLMNOPQRSTUVWXYZabcdefghijklmnopqrstuvwxyz0123456789+/".toList.map
    fun c => UInt8.ofNat c.toNat

/-- The loop of `wg_base64_encode (src, src_len, dst)` over `src_len = src.length`, from `i`
with `j` bytes written: the stores `dst[j] = v` it makes, each at the `u32` index `j`, and
`j` when it exits. -/
def wgBase64Loop (src : Bytes) (i j : ℕ) : List (ℕ × ℕ) × ℕ :=
  if i < src.length then
    let a := byteAt src i
    let b := if i + 1 < src.length then byteAt src (i + 1) else 0
    let c := if i + 2 < src.length then byteAt src (i + 2) else 0
    let r := wgBase64Loop src (i + 3) (j + 4)
    ([(j % 2 ^ 32, byteAt base64Table (a >>> 2 &&& 0x3f)),
      ((j + 1) % 2 ^ 32, byteAt base64Table ((a <<< 4 ||| b >>> 4) &&& 0x3f)),
      ((j + 2) % 2 ^ 32,
        if i + 1 < src.length then byteAt base64Table ((b <<< 2 ||| c >>> 6) &&& 0x3f) else 61),
      ((j + 3) % 2 ^ 32, if i + 2 < src.length then byteAt base64Table (c &&& 0x3f) else 61)] ++
        r.1, r.2)
  else ([], j)
termination_by src.length - i

/-- `wg_base64_encode (src, src_len, dst)`: the loop's stores, then `dst[j] = 0`. -/
def wgBase64Encode (src : Bytes) : List (ℕ × ℕ) :=
  let r := wgBase64Loop src 0 0
  r.1 ++ [(r.2 % 2 ^ 32, 0)]

/-! The reference encoding, from RFC 4648 rather than from the source. -/

/-- The RFC 4648 alphabet: `A-Z`, `a-z`, `0-9`, `+`, `/`. -/
def rfc4648Char (k : ℕ) : ℕ :=
  if k < 26 then 65 + k else if k < 52 then 71 + k else if k < 62 then k - 4
  else if k = 62 then 43 else 47

/-- RFC 4648 base64 with `=` padding: each three bytes become four 6-bit digits. -/
def rfc4648Base64 : Bytes → List ℕ
  | [] => []
  | [a] => [rfc4648Char (a.toNat / 4), rfc4648Char (a.toNat % 4 * 16), 61, 61]
  | [a, b] => [rfc4648Char (a.toNat / 4), rfc4648Char (a.toNat % 4 * 16 + b.toNat / 16),
      rfc4648Char (b.toNat % 16 * 4), 61]
  | a :: b :: c :: rest => [rfc4648Char (a.toNat / 4),
      rfc4648Char (a.toNat % 4 * 16 + b.toNat / 16),
      rfc4648Char (b.toNat % 16 * 4 + c.toNat / 64), rfc4648Char (c.toNat % 64)] ++
        rfc4648Base64 rest

theorem byteAt_base64Table : ∀ k < 64, byteAt base64Table k = rfc4648Char k := by
  decide

theorem rfc4648Base64_length (src : Bytes) :
    (rfc4648Base64 src).length = 4 * ((src.length + 2) / 3) := by
  induction src using rfc4648Base64.induct with
  | case4 a b c rest ih =>
    simp only [rfc4648Base64, List.length_append, ih, List.length_cons, List.length_nil]; omega
  | _ => simp [rfc4648Base64]

/-- The four 6-bit digits the shifts and masks of the loop cut from three bytes. -/
theorem base64_sextets {a b c : ℕ} (ha : a < 256) (hb : b < 256) (hc : c < 256) :
    a >>> 2 &&& 0x3f = a / 4 ∧ (a <<< 4 ||| b >>> 4) &&& 0x3f = a % 4 * 16 + b / 16 ∧
      (b <<< 2 ||| c >>> 6) &&& 0x3f = b % 16 * 4 + c / 64 ∧ c &&& 0x3f = c % 64 := by
  have h63 : (0x3f : ℕ) = 2 ^ 6 - 1 := rfl
  simp only [h63, Nat.and_pow_two_sub_one_eq_mod, Nat.shiftRight_eq_div_pow]
  rw [shiftLeft_lor_of_lt _ _ 4 (by omega), shiftLeft_lor_of_lt _ _ 2 (by omega)]
  exact ⟨by omega, by omega, by omega, trivial⟩

/-- One iteration's four stores are the four RFC 4648 digits of its bytes, `=` standing for
the missing ones. -/
theorem wgBase64_quad {a b c : ℕ} (ha : a < 256) (hb : b < 256) (hc : c < 256) (p₁ p₂ : Prop)
    [Decidable p₁] [Decidable p₂] (j : ℕ) :
    [(j % 2 ^ 32, byteAt base64Table (a >>> 2 &&& 0x3f)),
      ((j + 1) % 2 ^ 32, byteAt base64Table ((a <<< 4 ||| b >>> 4) &&& 0x3f)),
      ((j + 2) % 2 ^ 32, if p₁ then byteAt base64Table ((b <<< 2 ||| c >>> 6) &&& 0x3f) else 61),
      ((j + 3) % 2 ^ 32, if p₂ then byteAt base64Table (c &&& 0x3f) else 61)] =
      ([rfc4648Char (a / 4), rfc4648Char (a % 4 * 16 + b / 16),
        if p₁ then rfc4648Char (b % 16 * 4 + c / 64) else 61,
        if p₂ then rfc4648Char (c % 64) else 61].enumFrom j).map fun kc => (kc.1 % 2 ^ 32, kc.2) := by
  obtain ⟨s0, s1, s2, s3⟩ := base64_sextets ha hb hc
  rw [s0, s1, s2, s3, byteAt_base64Table _ (by omega), byteAt_base64Table _ (by omega),
    byteAt_base64Table _ (by omega), byteAt_base64Table _ (by omega)]
  rfl

theorem wgBase64Loop_of_not {src : Bytes} {i : ℕ} (h : ¬ i < src.length) (j : ℕ) :
    wgBase64Loop src i j = ([], j) := by
  rw [wgBase64Loop, if_neg h]

/-- The loop's stores are the RFC 4648 digits of the bytes from `i` on, at the indices
from `j` on, each cut to 32 bits. -/
theorem wgBase64Loop_eq (src : Bytes) (i j : ℕ) :
    wgBase64Loop src i j =
      (((rfc4648Base64 (src.drop i)).enumFrom j).map fun kc => (kc.1 % 2 ^ 32, kc.2),
        j + (rfc4648Base64 (src.drop i)).length) := by
  obtain ⟨n, hn⟩ : ∃ n, src.length - i = n := ⟨_, rfl⟩
  induction n using Nat.strongRecOn generalizing i j with
  | ind n ih =>
    by_cases hi : i < src.length
    · have hd : ∀ k, byteAt src (i + k) = byteAt (src.drop i) k := fun k => by
        simp only [byteAt, List.getD_eq_getElem?_getD, List.getElem?_drop]
      have hlen : (src.drop i).length = n := by rw [List.length_drop]; omega
      have hr := ih (n - 3) (by omega) (i + 3) (j + 4) (by omega)
      rw [wgBase64Loop, if_pos hi]
      dsimp only
      have h1 : i + 1 < src.length ↔ 1 < (src.drop i).length := by rw [List.length_drop]; omega
      have h2 : i + 2 < src.length ↔ 2 < (src.drop i).length := by rw [List.length_drop]; omega
      rw [hr, show src.drop (i + 3) = (src.drop i).drop 3 by rw [List.drop_drop, Nat.add_comm],
        show byteAt src i = byteAt (src.drop i) 0 from hd 0, hd 1, hd 2]
      simp only [h1, h2]
      have hb : ∀ t k, byteAt t k < 256 := byteAt_lt
      generalize src.drop i = t at hlen ⊢
      rw [wgBase64_quad (hb _ _) (by split_ifs <;> first | exact hb _ _ | decide)
        (by split_ifs <;> first | exact hb _ _ | decide)]
      rcases t with _ | ⟨x, _ | ⟨y, _ | ⟨z, rest⟩⟩⟩
      · simp at hlen; omega
      · simp [rfc4648Base64, byteAt]
      · simp [rfc4648Base64, byteAt]
      · simp [rfc4648Base64, byteAt, List.enumFrom_append]
        omega
    · rw [wgBase64Loop_of_not hi, List.drop_eq_nil_of_le (by omega)]
      simp [rfc4648Base64]

/-- The stores of `wg_base64_encode`: the RFC 4648 encoding of `src`, then the NUL, at the
indices `0, 1, ...` taken modulo `2^32`. -/
theorem wgBase64Encode_eq (src : Bytes) :
    wgBase64Encode src =
      (rfc4648Base64 src ++ [0]).enum.map fun kc : ℕ × ℕ => (kc.1 % 2 ^ 32, kc.2) := by
  rw [wgBase64Encode, wgBase64Loop_eq, List.drop_zero, List.enum, List.enumFrom_append,
    List.map_append]
  simp

/-- Stores to consecutive indices inside the buffer replace that stretch of it. -/
theorem applyStores_enumFrom (l : List ℕ) :
    ∀ (pre rest : Bytes), l.length ≤ rest.length →
      applyStores (pre ++ rest) (l.enumFrom pre.length) =
        pre ++ l.map UInt8.ofNat ++ rest.drop l.length := by
  induction l with
  | nil => intro pre rest _; simp [applyStores]
  | cons x l ih =>
    intro pre rest h
    cases rest with
    | nil => simp at h
    | cons r rest =>
      have h' := ih (pre ++ [UInt8.ofNat x]) rest (by simp at h; omega)
      rw [List.length_append, List.length_singleton, List.append_assoc, List.singleton_append] at h'
      rw [List.enumFrom_cons, applyStores, List.foldl_cons, ← applyStores,
        List.set_append_right _ _ (Nat.le_refl _), Nat.sub_self, List.set_cons_zero, h']
      simp

/-- Into a buffer with room for it, `wg_base64_encode` writes the RFC 4648 encoding of
`src` and a NUL, `4 * ceil(n / 3) + 1` bytes, and leaves the rest of the buffer alone,
whenever its `u32` index `j` does not wrap. -/
theorem wgBase64Encode_writes (src dst : Bytes)
    (hd : 4 * ((src.length + 2) / 3) + 1 ≤ dst.length) (hn : 4 * ((src.length + 2) / 3) < 2 ^ 32) :
    (rfc4648Base64 src).length = 4 * ((src.length + 2) / 3) ∧
      applyStores dst (wgBase64Encode src) =
        (rfc4648Base64 src ++ [0]).map UInt8.ofNat ++ dst.drop (4 * ((src.length + 2) / 3) + 1) := by
  have hL := rfc4648Base64_length src
  -- no index reaches `2^32`, so the stores go to `0, 1, ...` as they are
  have hst : wgBase64Encode src = (rfc4648Base64 src ++ [0]).enumFrom ([] : Bytes).length := by
    rw [wgBase64Encode_eq, List.length_nil, ← List.enum]
    refine (List.map_congr_left fun kc hkc => ?_).trans (List.map_id _)
    have := List.fst_lt_of_mem_enum hkc
    simp only [List.length_append, hL, List.length_singleton] at this
    rw [Nat.mod_eq_of_lt (by omega)]
    rfl
  refine ⟨hL, ?_⟩
  rw [hst, show dst = [] ++ dst from rfl, applyStores_enumFrom _ _ _ (by simp; omega)]
  simp [hL]

/-- A 32-byte key into the 45-byte buffers `wg_keygen_cli` and `wg_show_interface_cli` pass. -/
theorem wgBase64Encode_writes_key :
    4 * (((List.replicate WG_KEY_LEN (0 : UInt8)).length + 2) / 3) + 1 ≤
        (List.replicate 45 (0 : UInt8)).length ∧
      4 * (((List.replicate WG_KEY_LEN (0 : UInt8)).length + 2) / 3) < 2 ^ 32 ∧
      (rfc4648Base64 (List.replicate WG_KEY_LEN 0)).length =
        4 * (((List.replicate WG_KEY_LEN (0 : UInt8)).length + 2) / 3) ∧
      applyStores (List.replicate 45 0) (wgBase64Encode (List.replicate WG_KEY_LEN 0)) =
        (rfc4648Base64 (List.replicate WG_KEY_LEN 0) ++ [0]).map UInt8.ofNat ++
          (List.replicate 45 0).drop (4 * (((List.replicate WG_KEY_LEN (0 : UInt8)).length + 2) / 3) + 1) :=
  ⟨by decide, by decide, wgBase64Encode_writes _ _ (by decide) (by decide)⟩

end OpenSase.WireGuard
