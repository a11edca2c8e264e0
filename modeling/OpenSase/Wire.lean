import Mathlib.Data.List.GetD
import Mathlib.Tactic.Ring

/-!
Packet bytes as the plugin reads and writes them: big-endian header fields, raw `as_u32` loads
in the host byte order (a parameter), and the RFC 1071 sum of `ip4_header_checksum`.
-/
namespace OpenSase

/-- The bytes of a buffer from its current data pointer on. -/
abbrev Bytes := List UInt8

theorem byte_toNat_ofNat (n : ℕ) : (UInt8.ofNat n).toNat = n % 256 := by
  simp [UInt8.ofNat, UInt8.toNat, BitVec.toNat_ofNat]

theorem byte_toNat_lt (b : UInt8) : b.toNat < 256 := b.toBitVec.isLt

/-- The byte at offset `i`; reads past the end of the data give zero. -/
def byteAt (bs : Bytes) (i : ℕ) : ℕ := (bs.getD i 0).toNat

/-- `clib_net_to_host_u16` of the 16-bit field at offset `i`. -/
def rd16 (bs : Bytes) (i : ℕ) : ℕ := byteAt bs i * 256 + byteAt bs (i + 1)

/-- `clib_net_to_host_u32` of the 32-bit field at offset `i`. -/
def rd32 (bs : Bytes) (i : ℕ) : ℕ := rd16 bs i * 65536 + rd16 bs (i + 2)

/-- The two wire bytes of a store of `clib_host_to_net_u16 v` (the value is truncated to 16 bits). -/
def be16 (v : ℕ) : Bytes := [UInt8.ofNat (v / 256), UInt8.ofNat v]

/-- The four wire bytes of a store of `clib_host_to_net_u32 v`. -/
def be32 (v : ℕ) : Bytes := be16 (v / 65536) ++ be16 v

@[simp] theorem be16_length (v : ℕ) : (be16 v).length = 2 := rfl

@[simp] theorem be32_length (v : ℕ) : (be32 v).length = 4 := rfl

theorem byteAt_lt (bs : Bytes) (i : ℕ) : byteAt bs i < 256 := byte_toNat_lt _

theorem rd16_lt (bs : Bytes) (i : ℕ) : rd16 bs i < 65536 := by
  have := byteAt_lt bs i; have := byteAt_lt bs (i + 1); unfold rd16; omega

/-- An OR of a shifted value with one below the shift is their sum. -/
theorem shiftLeft_lor_of_lt (a b k : ℕ) (hb : b < 2 ^ k) : a <<< k ||| b = a * 2 ^ k + b := by
  apply Nat.eq_of_testBit_eq
  intro i
  rw [Nat.testBit_or, Nat.testBit_shiftLeft]
  rcases Nat.lt_or_ge i k with h | h
  · have hm : (a * 2 ^ k + b) % 2 ^ k = b := by
      rw [Nat.add_comm, Nat.add_mul_mod_self_right, Nat.mod_eq_of_lt hb]
    have := Nat.testBit_mod_two_pow (a * 2 ^ k + b) k i
    rw [hm, decide_eq_true h, Bool.true_and] at this
    rw [← this]
    simp [Nat.not_le.mpr h]
  · have hd : (a * 2 ^ k + b) / 2 ^ k = a := by
      rw [Nat.add_comm, Nat.add_mul_div_right _ _ (Nat.two_pow_pos k), Nat.div_eq_of_lt hb,
        Nat.zero_add]
    have ha : (a * 2 ^ k + b).testBit i = a.testBit (i - k) :=
      calc (a * 2 ^ k + b).testBit i = (a * 2 ^ k + b).testBit (k + (i - k)) := by
            rw [Nat.add_sub_cancel' h]
        _ = ((a * 2 ^ k + b) >>> k).testBit (i - k) := (Nat.testBit_shiftRight _).symm
        _ = a.testBit (i - k) := by rw [Nat.shiftRight_eq_div_pow, hd]
    rw [Nat.testBit_lt_two_pow (Nat.lt_of_lt_of_le hb (Nat.pow_le_pow_right (by decide) h)), ha]
    simp [h]

/-- Byte order of the host; it decides what a raw `as_u32` load of four wire bytes holds. -/
inductive Endian where
  | little
  | big
  deriving DecidableEq, Repr

/-- The `n` bytes of `v`, least significant first. -/
def leBytes : ℕ → ℕ → Bytes
  | 0, _ => []
  | n + 1, v => UInt8.ofNat v :: leBytes n (v / 256)

/-- The `n` bytes a raw store of an `n`-byte host value writes. -/
def hostBytes : Endian → ℕ → ℕ → Bytes
  | .little, n, v => leBytes n v
  | .big, n, v => (leBytes n v).reverse

theorem ofNat_eq_of_mod {x y : ℕ} (h : x % 256 = y % 256) : UInt8.ofNat x = UInt8.ofNat y := by
  apply UInt8.toNat.inj
  rw [byte_toNat_ofNat, byte_toNat_ofNat, h]

@[simp] theorem leBytes_length (n v : ℕ) : (leBytes n v).length = n := by
  induction n generalizing v <;> simp [leBytes, *]

@[simp] theorem hostBytes_length (e : Endian) (n v : ℕ) : (hostBytes e n v).length = n := by
  cases e <;> simp [hostBytes]

/-- An `n`-byte store sees only the value modulo `256 ^ n`. -/
theorem hostBytes_mod (e : Endian) (n v : ℕ) : hostBytes e n (v % 256 ^ n) = hostBytes e n v := by
  have hle : ∀ n v, leBytes n (v % 256 ^ n) = leBytes n v := by
    intro n
    induction n with
    | zero => intro _; rfl
    | succ n ih =>
      intro v
      rw [leBytes, leBytes, Nat.pow_succ', Nat.mod_mul_right_div_self, ih,
        ofNat_eq_of_mod (Nat.mod_mul_right_mod v 256 _)]
  cases e <;> simp only [hostBytes, hle]

/-- The 32-bit value with its four bytes reversed. -/
def bswap32 (v : ℕ) : ℕ :=
  v % 256 * 2 ^ 24 + v / 256 % 256 * 2 ^ 16 + v / 2 ^ 16 % 256 * 256 + v / 2 ^ 24 % 256

/-- `clib_host_to_net_u32` (equally `clib_net_to_host_u32`). Applied to a wire-order
address it is also the value of the raw `as_u32` load of that address. -/
def hostToNet32 : Endian → ℕ → ℕ
  | .little, v => bswap32 v
  | .big, v => v

/-- The `u32` mask `~0 << (32 - len)` of a prefix length. The C shift is undefined
outside `1..32`; there the model takes whatever the `Nat` arithmetic gives. -/
def prefixMask (len : ℕ) : ℕ := (2 ^ 32 - 1) * 2 ^ (32 - len) % 2 ^ 32

/-- The prefix test of `opensase_policy_match` and `tenant_lookup_fast`:
`(a.as_u32 & clib_host_to_net_u32 (mask)) == (p.as_u32 & clib_host_to_net_u32 (mask))`. -/
def prefixMatch (e : Endian) (a p len : ℕ) : Bool :=
  (hostToNet32 e a &&& hostToNet32 e (prefixMask len)) ==
    (hostToNet32 e p &&& hostToNet32 e (prefixMask len))

/-! ### The prefix test on wire-order addresses -/

/-- `&&&` splits at a power of two. -/
theorem two_pow_mul_add_and {a b c d k : ℕ} (hb : b < 2 ^ k) (hd : d < 2 ^ k) :
    (2 ^ k * a + b) &&& (2 ^ k * c + d) = 2 ^ k * (a &&& c) + (b &&& d) := by
  apply Nat.eq_of_testBit_eq
  intro j
  rw [Nat.testBit_and, Nat.testBit_mul_pow_two_add _ hb, Nat.testBit_mul_pow_two_add _ hd,
    Nat.testBit_mul_pow_two_add _ (Nat.and_lt_two_pow _ hd)]
  split_ifs <;> simp

/-- Byte `k` of an `&&&` is the `&&&` of the bytes. -/
theorem byte_and (x y k : ℕ) : (x &&& y) / 2 ^ k % 256 = x / 2 ^ k % 256 &&& y / 2 ^ k % 256 := by
  apply Nat.eq_of_testBit_eq
  intro j
  rw [show (256 : ℕ) = 2 ^ 8 from rfl]
  simp only [← Nat.shiftRight_eq_div_pow, Nat.testBit_mod_two_pow, Nat.testBit_shiftRight,
    Nat.testBit_and]
  cases decide (j < 8) <;> rfl

/-- An equation between two splits at `2 ^ k` splits into the two parts. -/
theorem two_pow_mul_add_inj {a b c d k : ℕ} (hb : b < 2 ^ k) (hd : d < 2 ^ k)
    (h : 2 ^ k * a + b = 2 ^ k * c + d) : a = c ∧ b = d := by
  have hdm : ∀ x y, y < 2 ^ k → (2 ^ k * x + y) / 2 ^ k = x ∧ (2 ^ k * x + y) % 2 ^ k = y :=
    fun x y hy => ⟨by rw [Nat.mul_add_div (Nat.two_pow_pos k), Nat.div_eq_of_lt hy, Nat.add_zero],
      by rw [Nat.mul_add_mod, Nat.mod_eq_of_lt hy]⟩
  obtain ⟨h₁, h₂⟩ := hdm a b hb
  obtain ⟨h₃, h₄⟩ := hdm c d hd
  rw [h] at h₁ h₂
  exact ⟨h₁.symm.trans h₃, h₂.symm.trans h₄⟩

/-- The swapped value as its four bytes, each split off at its power of two. -/
theorem bswap32_eq_bytes (v : ℕ) : bswap32 v = 2 ^ 24 * (v / 2 ^ 0 % 256) +
    (2 ^ 16 * (v / 2 ^ 8 % 256) + (2 ^ 8 * (v / 2 ^ 16 % 256) + v / 2 ^ 24 % 256)) := by
  unfold bswap32; omega

theorem bswap32_and (x y : ℕ) : bswap32 (x &&& y) = bswap32 x &&& bswap32 y := by
  have hb : ∀ v k, v / 2 ^ k % 256 < 2 ^ 8 := fun v k => Nat.mod_lt _ (by decide)
  rw [bswap32_eq_bytes, bswap32_eq_bytes x, bswap32_eq_bytes y,
    two_pow_mul_add_and (by omega) (by omega), two_pow_mul_add_and (by omega) (by omega),
    two_pow_mul_add_and (hb _ _) (hb _ _), byte_and, byte_and, byte_and, byte_and]

/-- On 32-bit values the swap loses nothing: equal swaps have equal bytes. -/
theorem bswap32_inj {x y : ℕ} (hx : x < 2 ^ 32) (hy : y < 2 ^ 32) (h : bswap32 x = bswap32 y) :
    x = y := by
  have hb : ∀ v k, v / 2 ^ k % 256 < 2 ^ 8 := fun v k => Nat.mod_lt _ (by decide)
  rw [bswap32_eq_bytes, bswap32_eq_bytes y] at h
  obtain ⟨h0, h⟩ := two_pow_mul_add_inj (by omega) (by omega) h
  obtain ⟨h1, h⟩ := two_pow_mul_add_inj (by omega) (by omega) h
  obtain ⟨h2, h3⟩ := two_pow_mul_add_inj (hb _ _) (hb _ _) h
  omega

theorem hostToNet32_and (e : Endian) (x y : ℕ) :
    hostToNet32 e (x &&& y) = hostToNet32 e x &&& hostToNet32 e y := by
  cases e
  · exact bswap32_and x y
  · rfl

theorem hostToNet32_eq_iff (e : Endian) {x y : ℕ} (hx : x < 2 ^ 32) (hy : y < 2 ^ 32) :
    hostToNet32 e x = hostToNet32 e y ↔ x = y := by
  refine ⟨fun h => ?_, congrArg _⟩
  cases e
  · exact bswap32_inj hx hy h
  · exact h

/-- The mask of a length up to 32 is `len` ones above `32 - len` zeros. -/
theorem prefixMask_eq {len : ℕ} (h : len ≤ 32) :
    prefixMask len = 2 ^ (32 - len) * (2 ^ len - 1) := by
  have hpq : 2 ^ 32 = 2 ^ len * 2 ^ (32 - len) := by rw [← Nat.pow_add, Nat.add_sub_cancel' h]
  have hp : 1 ≤ 2 ^ (32 - len) := Nat.one_le_two_pow
  have hq : 1 ≤ 2 ^ len := Nat.one_le_two_pow
  have hsplit : (2 ^ 32 - 1) * 2 ^ (32 - len) =
      2 ^ (32 - len) * (2 ^ len - 1) + 2 ^ 32 * (2 ^ (32 - len) - 1) := by
    obtain ⟨p, hp'⟩ : ∃ p, 2 ^ (32 - len) = p + 1 := ⟨_, (Nat.succ_pred_eq_of_pos hp).symm⟩
    obtain ⟨q, hq'⟩ : ∃ q, 2 ^ len = q + 1 := ⟨_, (Nat.succ_pred_eq_of_pos hq).symm⟩
    rw [hpq, hp', hq', Nat.add_sub_cancel, Nat.add_sub_cancel,
      show (q + 1) * (p + 1) = q * (p + 1) + p + 1 by ring, Nat.add_sub_cancel]
    ring
  unfold prefixMask
  rw [hsplit, Nat.add_mul_mod_self_left, Nat.mod_eq_of_lt]
  rw [hpq, Nat.mul_comm (2 ^ len)]
  exact Nat.mul_lt_mul_of_pos_left (Nat.sub_lt hq Nat.one_pos) hp

/-- Masking a 32-bit value keeps its first `len` bits. -/
theorem and_prefixMask {a len : ℕ} (ha : a < 2 ^ 32) (h : len ≤ 32) :
    a &&& prefixMask len = 2 ^ (32 - len) * (a / 2 ^ (32 - len)) := by
  have hlt : a / 2 ^ (32 - len) < 2 ^ len := by
    rw [Nat.div_lt_iff_lt_mul (Nat.two_pow_pos _), ← Nat.pow_add, Nat.add_sub_cancel' h]
    exact ha
  rw [prefixMask_eq h, ← Nat.add_zero (2 ^ (32 - len) * (2 ^ len - 1)),
    ← Nat.div_add_mod a (2 ^ (32 - len)), two_pow_mul_add_and (Nat.mod_lt _ (Nat.two_pow_pos _)) (Nat.two_pow_pos _),
    Nat.and_pow_two_sub_one_eq_mod, Nat.and_zero, Nat.add_zero, Nat.mul_add_div (Nat.two_pow_pos _),
    Nat.div_eq_of_lt (Nat.mod_lt _ (Nat.two_pow_pos _)), Nat.add_zero, Nat.mod_eq_of_lt hlt]

/-- The prefix test on 32-bit addresses in wire order compares their first `len` bits, on
either host byte order: the byte swap of the loads and the one of the mask cancel. -/
theorem prefixMatch_iff (e : Endian) {a p len : ℕ} (ha : a < 2 ^ 32) (hp : p < 2 ^ 32)
    (h : len ≤ 32) :
    prefixMatch e a p len = true ↔ a / 2 ^ (32 - len) = p / 2 ^ (32 - len) := by
  have hm : ∀ x, x < 2 ^ 32 → x &&& prefixMask len < 2 ^ 32 := fun x hx =>
    Nat.lt_of_le_of_lt Nat.and_le_left hx
  rw [prefixMatch, beq_iff_eq, ← hostToNet32_and, ← hostToNet32_and,
    hostToNet32_eq_iff e (hm a ha) (hm p hp), and_prefixMask ha h, and_prefixMask hp h,
    Nat.mul_left_cancel_iff (Nat.two_pow_pos _)]

theorem prefixMatch_iff_slash8 :
    0x0A010005 < 2 ^ 32 ∧ 0x0A000000 < 2 ^ 32 ∧ 8 ≤ 32 ∧
      (prefixMatch .little 0x0A010005 0x0A000000 8 = true ↔
        0x0A010005 / 2 ^ (32 - 8) = 0x0A000000 / 2 ^ (32 - 8)) :=
  ⟨by decide, by decide, by decide, prefixMatch_iff .little (by decide) (by decide) (by decide)⟩

/-! ### IPv4, UDP and TCP headers -/

def IP_PROTOCOL_TCP : ℕ := 6

def IP_PROTOCOL_UDP : ℕ := 17

/-- `ip4_header_t`; addresses are wire-order values, other fields host values. -/
structure Ip4Header where
  ipVersionAndHeaderLength : ℕ
  tos : ℕ
  length : ℕ
  fragmentId : ℕ
  flagsAndFragmentOffset : ℕ
  ttl : ℕ
  protocol : ℕ
  checksum : ℕ
  srcAddress : ℕ
  dstAddress : ℕ
  deriving DecidableEq, Repr, Inhabited

/-- The 20 bytes a store of the header writes. -/
def Ip4Header.toBytes (h : Ip4Header) : Bytes :=
  [UInt8.ofNat h.ipVersionAndHeaderLength, UInt8.ofNat h.tos] ++ be16 h.length ++
    be16 h.fragmentId ++ be16 h.flagsAndFragmentOffset ++
    [UInt8.ofNat h.ttl, UInt8.ofNat h.protocol] ++ be16 h.checksum ++
    be32 h.srcAddress ++ be32 h.dstAddress

@[simp] theorem Ip4Header.toBytes_length (h : Ip4Header) : h.toBytes.length = 20 := rfl

/-- `udp_header_t`, in host values. -/
structure UdpHeader where
  srcPort : ℕ
  dstPort : ℕ
  length : ℕ
  checksum : ℕ
  deriving DecidableEq, Repr, Inhabited

def UdpHeader.toBytes (u : UdpHeader) : Bytes :=
  be16 u.srcPort ++ be16 u.dstPort ++ be16 u.length ++ be16 u.checksum

@[simp] theorem UdpHeader.toBytes_length (u : UdpHeader) : u.toBytes.length = 8 := rfl

/-- An IPv4 datagram with a 20-byte header (TTL 64, zero checksum) and a UDP header
followed by `payload`. -/
def udpDatagram (src dst srcPort dstPort : ℕ) (payload : Bytes) : Bytes :=
  (Ip4Header.mk 0x45 0 (28 + payload.length) 0 0 64 IP_PROTOCOL_UDP 0 src dst).toBytes ++
    (UdpHeader.mk srcPort dstPort (8 + payload.length) 0).toBytes ++ payload

@[simp] theorem udpDatagram_length (src dst srcPort dstPort : ℕ) (payload : Bytes) :
    (udpDatagram src dst srcPort dstPort payload).length = 28 + payload.length := by
  simp [udpDatagram]; omega

/-- An IPv4 datagram with a 20-byte header and a 20-byte TCP header (data offset 5, flag
byte `flags`) followed by `payload`. -/
def tcpSegment (src dst srcPort dstPort flags : ℕ) (payload : Bytes) : Bytes :=
  (Ip4Header.mk 0x45 0 (40 + payload.length) 0 0 64 IP_PROTOCOL_TCP 0 src dst).toBytes ++
    be16 srcPort ++ be16 dstPort ++ be32 0 ++ be32 0 ++ [0x50, UInt8.ofNat flags] ++
    be16 65535 ++ be16 0 ++ be16 0 ++ payload

/-- `ip4->protocol`. -/
def ipProtocol (bs : Bytes) : ℕ := byteAt bs 9

/-- `clib_net_to_host_u16 (ip4->length)`. -/
def ipLength (bs : Bytes) : ℕ := rd16 bs 2

/-- `ip4->src_address`, as a wire-order value. -/
def ipSrc (bs : Bytes) : ℕ := rd32 bs 12

/-- `ip4->dst_address`, as a wire-order value. -/
def ipDst (bs : Bytes) : ℕ := rd32 bs 16

/-- `ip4_header_bytes`: the IHL field times four. -/
def ip4HeaderBytes (bs : Bytes) : ℕ := byteAt bs 0 % 16 * 4

/-- `tcp_header_bytes` of the TCP header at offset `off`: the data offset (the high nibble
of its byte 12) times four. -/
def tcpHeaderBytes (bs : Bytes) (off : ℕ) : ℕ := byteAt bs (off + 12) / 16 * 4

theorem ip4HeaderBytes_le (bs : Bytes) : ip4HeaderBytes bs ≤ 60 := by
  unfold ip4HeaderBytes; omega

theorem tcpHeaderBytes_le (bs : Bytes) (off : ℕ) : tcpHeaderBytes bs off ≤ 60 := by
  have := byteAt_lt bs (off + 12); unfold tcpHeaderBytes; omega

/-- The `len` bytes `payload[0..len)` of a payload at offset `off`; reads past the data give zero. -/
def payloadBytes (bs : Bytes) (off len : ℕ) : Bytes :=
  (List.range len).map fun i => bs.getD (off + i) 0

/-- `a - b` on `u32` operands: the difference modulo `2^32` (for `a` below `2^32`). -/
def subU32 (a b : ℕ) : ℕ := (a + 2 ^ 32 - b % 2 ^ 32) % 2 ^ 32

theorem subU32_of_le {a b : ℕ} (h : b ≤ a) (ha : a < 2 ^ 32) : subU32 a b = a - b := by
  unfold subU32; omega

theorem subU32_of_lt {a b : ℕ} (h : a < b) (hb : b < 2 ^ 32) : subU32 a b = a + 2 ^ 32 - b := by
  unfold subU32; omega

/-! ### Port extraction -/

/-- The ports at `(u16 *)(ip4 + 1)`, i.e. right after a 20-byte header, in host order. -/
def portsAfterFixedHeader (bs : Bytes) : ℕ × ℕ := (rd16 bs 20, rd16 bs 22)

/-- The port extraction of the security and policy nodes: the ports after a 20-byte
header for TCP and UDP, zero ports for other protocols. -/
def tcpUdpPortsFixed (bs : Bytes) : ℕ × ℕ :=
  if ipProtocol bs = IP_PROTOCOL_TCP ∨ ipProtocol bs = IP_PROTOCOL_UDP then
    portsAfterFixedHeader bs else (0, 0)

/-- The ports of the L4 header at offset `4 * IHL`, where `ips_scan_packet` and
`get_payload` place it. -/
def l4Ports (bs : Bytes) : ℕ × ℕ := (rd16 bs (ip4HeaderBytes bs), rd16 bs (ip4HeaderBytes bs + 2))

/-- The bytes after a store of `v` at offset `off`. -/
def storeBytes (bs : Bytes) (off : ℕ) (v : Bytes) : Bytes :=
  bs.take off ++ v ++ bs.drop (off + v.length)

@[simp] theorem storeBytes_length {bs v : Bytes} {off : ℕ} (hl : off + v.length ≤ bs.length) :
    (storeBytes bs off v).length = bs.length := by
  simp only [storeBytes, List.length_append, List.length_take, List.length_drop]; omega

/-- A store inside the data changes exactly the bytes it covers. -/
theorem byteAt_storeBytes {bs v : Bytes} {off : ℕ} (hl : off + v.length ≤ bs.length) (i : ℕ) :
    byteAt (storeBytes bs off v) i =
      if off ≤ i ∧ i < off + v.length then (v.getD (i - off) 0).toNat else byteAt bs i := by
  simp only [byteAt, storeBytes, List.getD_eq_getElem?_getD]
  split_ifs with h
  · rw [List.getElem?_append_left (by simp; omega), List.getElem?_append_right (by simp; omega)]
    simp only [List.length_take, Nat.min_eq_left (show off ≤ bs.length by omega)]
  · rcases Nat.lt_or_ge i off with h1 | h1
    · rw [List.getElem?_append_left (by simp; omega), List.getElem?_append_left (by simp; omega),
        List.getElem?_take_of_lt h1]
    · rw [List.getElem?_append_right (by simp; omega), List.getElem?_drop]
      simp only [List.length_append, List.length_take, Nat.min_eq_left (show off ≤ bs.length by omega)]
      congr 3; omega

/-- A store below offset `n` leaves the bytes from `n` on. -/
theorem drop_storeBytes {bs v : Bytes} {off n : ℕ} (hl : off + v.length ≤ n) (hn : off ≤ bs.length) :
    (storeBytes bs off v).drop n = bs.drop n := by
  rw [storeBytes, List.drop_append_eq_append_drop, List.drop_eq_nil_of_le (by simp; omega),
    List.nil_append, List.drop_drop]
  congr 1
  simp; omega

theorem rd16_storeBytes_of_disjoint {bs v : Bytes} {off : ℕ} (hl : off + v.length ≤ bs.length)
    {i : ℕ} (h : i + 2 ≤ off ∨ off + v.length ≤ i) : rd16 (storeBytes bs off v) i = rd16 bs i := by
  simp only [rd16, byteAt_storeBytes hl]
  rw [if_neg (by omega), if_neg (by omega)]

theorem rd32_storeBytes_of_disjoint {bs v : Bytes} {off : ℕ} (hl : off + v.length ≤ bs.length)
    {i : ℕ} (h : i + 4 ≤ off ∨ off + v.length ≤ i) : rd32 (storeBytes bs off v) i = rd32 bs i := by
  simp only [rd32, rd16_storeBytes_of_disjoint hl (show i + 2 ≤ off ∨ off + v.length ≤ i by omega),
    rd16_storeBytes_of_disjoint hl (show i + 2 + 2 ≤ off ∨ off + v.length ≤ i + 2 by omega)]

theorem rd16_storeBytes_be16 {bs : Bytes} {off : ℕ} (hl : off + 2 ≤ bs.length) (v : ℕ) :
    rd16 (storeBytes bs off (be16 v)) off = v % 65536 := by
  simp only [rd16, byteAt_storeBytes (v := be16 v) hl]
  simp [be16, byte_toNat_ofNat, Nat.add_sub_cancel_left]
  omega

theorem rd32_storeBytes_be32 {bs : Bytes} {off : ℕ} (hl : off + 4 ≤ bs.length) (v : ℕ) :
    rd32 (storeBytes bs off (be32 v)) off = v % 2 ^ 32 := by
  simp only [rd32, rd16, byteAt_storeBytes (v := be32 v) hl]
  simp [be32, be16, byte_toNat_ofNat, Nat.add_assoc, Nat.add_sub_cancel_left]
  omega

/-- The XOR of the two 64-bit words that `opensase_session_hash` and `nat_hash_key` build
from a 5-tuple before hashing: `(src.as_u32 << 32 | dst.as_u32) ^
(src_port << 48 | dst_port << 32 | proto)`. -/
def xorTupleKey (e : Endian) (src dst srcPort dstPort proto : ℕ) : ℕ :=
  (hostToNet32 e src <<< 32 ||| hostToNet32 e dst) ^^^
    (srcPort <<< 48 ||| dstPort <<< 32 ||| proto)

/-- `10.0.0.1:1000 → 10.0.0.2:80` over UDP. -/
def flowA : Bytes := udpDatagram 0x0A000001 0x0A000002 1000 80 []

/-- `11.0.0.0:744 → 10.0.0.2:81` over UDP. Its source differs from `flowA`'s by
`0x01000001` and its ports by `0x0100` and `0x0001`, a difference both host byte orders
map to the same bits of the XOR-ed key. -/
def flowB : Bytes := udpDatagram 0x0B000000 0x0A000002 744 81 []

/-- The two flows have one XOR-ed key on either byte order. -/
theorem xorTupleKey_flowB (e : Endian) :
    xorTupleKey e (ipSrc flowB) (ipDst flowB) 744 81 (ipProtocol flowB) =
      xorTupleKey e (ipSrc flowA) (ipDst flowA) 1000 80 (ipProtocol flowA) := by
  cases e <;> decide

/-! ### The header checksum -/

/-- One end-around-carry fold of a ones' complement sum. -/
def fold16 (s : ℕ) : ℕ := s % 65536 + s / 65536

/-- `ip_csum_fold`: two folds bring any sum below `2 ^ 32` to 16 bits. -/
def onesFold (s : ℕ) : ℕ := fold16 (fold16 s)

/-- Sum of the first `n` big-endian 16-bit words, the sixth (the IPv4 checksum field)
read as zero when `skip` holds. -/
def wordSum (bs : Bytes) (skip : Bool) : ℕ → ℕ
  | 0 => 0
  | n + 1 => wordSum bs skip n + if skip && n == 5 then 0 else rd16 bs (2 * n)

/-- `ip4_header_checksum`, the value stored into the checksum field. -/
def ip4HeaderChecksum (bs : Bytes) : ℕ :=
  65535 - onesFold (wordSum bs true (ip4HeaderBytes bs / 2))

/-- The receiver's test: the header's words, checksum included, fold to `0xffff`. -/
def Ip4ChecksumValid (bs : Bytes) : Prop :=
  onesFold (wordSum bs false (ip4HeaderBytes bs / 2)) = 65535

instance (bs : Bytes) : Decidable (Ip4ChecksumValid bs) :=
  inferInstanceAs (Decidable (_ = _))

theorem wordSum_le (bs : Bytes) (skip : Bool) (n : ℕ) : wordSum bs skip n ≤ 65535 * n := by
  induction n with
  | zero => simp [wordSum]
  | succ n ih =>
    have := rd16_lt bs (2 * n)
    simp only [wordSum]
    split <;> omega

/-- With the sixth word left out, the two sums differ by exactly that word. -/
theorem wordSum_false_eq (bs : Bytes) {n : ℕ} (h : 6 ≤ n) :
    wordSum bs false n = wordSum bs true n + rd16 bs 10 := by
  induction n with
  | zero => omega
  | succ n ih =>
    simp only [wordSum, Bool.false_and, Bool.true_and, cond_false]
    rcases Nat.lt_or_ge n 6 with hn | hn
    · obtain rfl : n = 5 := by omega
      have : wordSum bs false 5 = wordSum bs true 5 := by
        simp [wordSum]
      simp [this]
    · have : (n == 5) = false := by simpa using (show n ≠ 5 by omega)
      simp only [this, ih hn, cond_false]
      omega

theorem onesFold_add_compl (s : ℕ) (h : s < 2 ^ 31) :
    onesFold (s + (65535 - onesFold s)) = 65535 := by
  unfold onesFold fold16; omega

/-- A header whose checksum field holds `ip4_header_checksum` of itself is valid. -/
theorem checksumValid_of_field (bs : Bytes) (hl : 12 ≤ ip4HeaderBytes bs)
    (hc : rd16 bs 10 = ip4HeaderChecksum bs) : Ip4ChecksumValid bs := by
  have hw : ip4HeaderBytes bs / 2 ≤ 30 := by
    have := byteAt_lt bs 0; unfold ip4HeaderBytes; omega
  have hs := wordSum_le bs true (ip4HeaderBytes bs / 2)
  unfold Ip4ChecksumValid
  rw [wordSum_false_eq bs (by omega), hc, ip4HeaderChecksum]
  exact onesFold_add_compl _ (by omega)

theorem ip4HeaderBytes_storeBytes {bs v : Bytes} {off : ℕ} (hl : off + v.length ≤ bs.length)
    (h : 0 < off) : ip4HeaderBytes (storeBytes bs off v) = ip4HeaderBytes bs := by
  rw [ip4HeaderBytes, ip4HeaderBytes, byteAt_storeBytes hl, if_neg (by omega)]

/-- A store into the checksum field leaves the sum without that field unchanged. -/
theorem wordSum_storeBytes_csum {bs : Bytes} (hl : 12 ≤ bs.length) (v n : ℕ) :
    wordSum (storeBytes bs 10 (be16 v)) true n = wordSum bs true n := by
  have hl' : 10 + (be16 v).length ≤ bs.length := hl
  induction n with
  | zero => rfl
  | succ n ih =>
    simp only [wordSum, ih, Bool.true_and]
    by_cases h : n = 5
    · simp [h]
    · rw [rd16_storeBytes_of_disjoint hl' (by simp only [be16_length]; omega)]

/-- A store into the checksum field leaves the sum `ip4_header_checksum` takes unchanged. -/
theorem ip4HeaderChecksum_storeBytes_csum {bs : Bytes} (hl : 12 ≤ bs.length) (v : ℕ) :
    ip4HeaderChecksum (storeBytes bs 10 (be16 v)) = ip4HeaderChecksum bs := by
  rw [ip4HeaderChecksum, ip4HeaderChecksum, wordSum_storeBytes_csum hl,
    ip4HeaderBytes_storeBytes (show 10 + (be16 v).length ≤ bs.length from hl) (by decide)]

/-- Storing `ip4_header_checksum` of a header into its checksum field makes it valid. -/
theorem checksumValid_storeChecksum {bs : Bytes} (hl : 12 ≤ bs.length)
    (hh : 12 ≤ ip4HeaderBytes bs) : Ip4ChecksumValid (storeBytes bs 10 (be16 (ip4HeaderChecksum bs))) := by
  have hlt : ip4HeaderChecksum bs < 65536 := by unfold ip4HeaderChecksum; omega
  apply checksumValid_of_field
  · rwa [ip4HeaderBytes_storeBytes (by simpa using hl) (by decide)]
  · rw [rd16_storeBytes_be16 hl, ip4HeaderChecksum_storeBytes_csum hl, Nat.mod_eq_of_lt hlt]

/-- Storing the byte at offset 1, the TOS, changes the first word of the sum and no other. -/
theorem wordSum_storeBytes_tos {bs : Bytes} (hl : 2 ≤ bs.length) (x : UInt8) (skip : Bool) :
    ∀ n, 0 < n → wordSum (storeBytes bs 1 [x]) skip n + byteAt bs 1 = wordSum bs skip n + x.toNat
  | 0, h => absurd h (Nat.lt_irrefl 0)
  | 1, _ => by
    have hl' : 1 + [x].length ≤ bs.length := hl
    simp only [wordSum, rd16, byteAt_storeBytes hl', Nat.zero_add]
    simp
    omega
  | n + 2, _ => by
    have ih := wordSum_storeBytes_tos hl x skip (n + 1) (Nat.succ_pos n)
    rw [wordSum.eq_2, wordSum.eq_2 bs, rd16_storeBytes_of_disjoint (show 1 + [x].length ≤ bs.length from hl)
      (by simp only [List.length_singleton]; omega)]
    omega

/-- A header checksum computed before the TOS is rewritten goes stale: after the checksum
store and then a store of a different TOS, the header is not valid. -/
theorem not_checksumValid_storeTos {bs : Bytes} (hh : 12 ≤ ip4HeaderBytes bs)
    (hl : 12 ≤ bs.length) (x : UInt8) (hx : x.toNat ≠ byteAt bs 1) :
    ¬ Ip4ChecksumValid (storeBytes (storeBytes bs 10 (be16 (ip4HeaderChecksum bs))) 1 [x]) := by
  have h10 : 10 + (be16 (ip4HeaderChecksum bs)).length ≤ bs.length := hl
  have hmid := storeBytes_length h10
  have h1 : 1 + [x].length ≤ (storeBytes bs 10 (be16 (ip4HeaderChecksum bs))).length := by
    rw [hmid]; simp only [List.length_singleton]; omega
  have hhdr : ip4HeaderBytes (storeBytes (storeBytes bs 10 (be16 (ip4HeaderChecksum bs))) 1 [x]) =
      ip4HeaderBytes bs := by
    rw [ip4HeaderBytes_storeBytes h1 (by decide), ip4HeaderBytes_storeBytes h10 (by decide)]
  have hn : ip4HeaderBytes bs / 2 ≤ 30 := by
    have := byteAt_lt bs 0; unfold ip4HeaderBytes; omega
  have hS := wordSum_le bs true (ip4HeaderBytes bs / 2)
  have hW := wordSum_storeBytes_tos (show 2 ≤ (storeBytes bs 10 (be16 (ip4HeaderChecksum bs))).length
    by omega) x true (ip4HeaderBytes bs / 2) (by omega)
  have hc : rd16 (storeBytes (storeBytes bs 10 (be16 (ip4HeaderChecksum bs))) 1 [x]) 10 =
      ip4HeaderChecksum bs := by
    rw [rd16_storeBytes_of_disjoint h1 (by simp only [List.length_singleton]; omega),
      rd16_storeBytes_be16 hl, Nat.mod_eq_of_lt (by unfold ip4HeaderChecksum; omega)]
  have ht : byteAt (storeBytes bs 10 (be16 (ip4HeaderChecksum bs))) 1 = byteAt bs 1 := by
    rw [byteAt_storeBytes h10, if_neg (by omega)]
  have hxl := byte_toNat_lt x
  have htl := byteAt_lt bs 1
  rw [ht, wordSum_storeBytes_csum hl] at hW
  unfold Ip4ChecksumValid
  rw [hhdr, wordSum_false_eq _ (by omega), hc]
  unfold ip4HeaderChecksum onesFold fold16 at *
  omega

end OpenSase
