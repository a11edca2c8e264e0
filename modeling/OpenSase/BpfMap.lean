import OpenSase.Wire
import Mathlib.Data.List.Nodup

/-!
The BPF maps of the XDP filters: `BPF_MAP_TYPE_HASH` refuses a new key once `max_entries` are
held, `BPF_MAP_TYPE_LRU_HASH` evicts the entry updated least recently. The last section builds
the Ethernet and IPv4 frames the filters parse.
-/
namespace OpenSase.Bpf

/-- A `BPF_MAP_TYPE_HASH` map: distinct keys, at most `maxEntries` of them, oldest first. -/
structure HashMap (κ ν : Type) where
  entries : List (κ × ν)
  maxEntries : ℕ
  nodup : (entries.map Prod.fst).Nodup
  le : entries.length ≤ maxEntries

namespace HashMap

variable {κ ν : Type} [DecidableEq κ]

/-- The map as the program finds it when it is loaded: empty. -/
def empty (n : ℕ) : HashMap κ ν := ⟨[], n, List.nodup_nil, Nat.zero_le _⟩

def keys (m : HashMap κ ν) : List κ := m.entries.map Prod.fst

/-- A map with no room for another key. -/
def Full (m : HashMap κ ν) : Prop := m.maxEntries ≤ m.entries.length

instance (m : HashMap κ ν) : Decidable m.Full := inferInstanceAs (Decidable (_ ≤ _))

/-- `bpf_map_lookup_elem`. -/
def lookup (m : HashMap κ ν) (k : κ) : Option ν := (m.entries.find? (·.1 = k)).map Prod.snd

/-- A store through the pointer `bpf_map_lookup_elem` returned for `k`. -/
def modify (m : HashMap κ ν) (k : κ) (f : ν → ν) : HashMap κ ν where
  entries := m.entries.map fun e => if e.1 = k then (k, f e.2) else e
  maxEntries := m.maxEntries
  nodup := by
    rw [List.map_map]
    convert m.nodup using 2
    funext e
    by_cases h : e.1 = k <;> simp [h]
  le := by simpa using m.le

/-- `bpf_map_update_elem (map, &k, &v, BPF_ANY)`; `none` is the `-E2BIG` of a full map. -/
def update (m : HashMap κ ν) (k : κ) (v : ν) : Option (HashMap κ ν) :=
  if hk : k ∈ m.keys then some (m.modify k fun _ => v)
  else if h : m.entries.length < m.maxEntries then
    some ⟨m.entries ++ [(k, v)], m.maxEntries, by
      rw [List.map_append, List.nodup_append]
      exact ⟨m.nodup, List.nodup_singleton _, by simpa [keys, List.disjoint_singleton] using hk⟩,
      by simpa using h⟩
  else none

/-- The map after an update whose result the program ignores. -/
def updateAny (m : HashMap κ ν) (k : κ) (v : ν) : HashMap κ ν := (m.update k v).getD m

/-- `bpf_map_delete_elem`. -/
def delete (m : HashMap κ ν) (k : κ) : HashMap κ ν where
  entries := m.entries.filter fun e => e.1 ≠ k
  maxEntries := m.maxEntries
  nodup := m.nodup.sublist ((List.filter_sublist _).map _)
  le := (List.length_filter_le _ _).trans m.le

theorem lookup_eq_none_iff (m : HashMap κ ν) (k : κ) : m.lookup k = none ↔ k ∉ m.keys := by
  simp only [lookup, keys, Option.map_eq_none', List.find?_eq_none, decide_eq_true_eq, List.mem_map]
  exact ⟨fun h ⟨e, he, hek⟩ => h e he hek, fun h e he hek => h ⟨e, he, hek⟩⟩

theorem lookup_eq_some_of_mem {m : HashMap κ ν} {k : κ} {v : ν} (h : (k, v) ∈ m.entries) :
    m.lookup k = some v := by
  cases hf : m.entries.find? (·.1 = k) with
  | none => exact absurd h (by simpa using List.find?_eq_none.mp hf (k, v))
  | some e =>
    have hek : e.1 = k := by simpa using List.find?_some hf
    have he : e = (k, v) := List.inj_on_of_nodup_map m.nodup (List.mem_of_find?_eq_some hf) h hek
    simp [lookup, hf, he]

theorem mem_of_lookup_eq_some {m : HashMap κ ν} {k : κ} {v : ν} (h : m.lookup k = some v) :
    (k, v) ∈ m.entries := by
  simp only [lookup, Option.map_eq_some'] at h
  obtain ⟨e, he, rfl⟩ := h
  have hk : e.1 = k := by simpa using List.find?_some he
  rw [← hk]
  exact List.mem_of_find?_eq_some he

@[simp] theorem keys_modify (m : HashMap κ ν) (k : κ) (f : ν → ν) :
    (m.modify k f).keys = m.keys := by
  simp only [keys, modify, List.map_map]
  congr 1
  funext e
  by_cases h : e.1 = k <;> simp [h]

@[simp] theorem modify_maxEntries (m : HashMap κ ν) (k : κ) (f : ν → ν) :
    (m.modify k f).maxEntries = m.maxEntries := rfl

theorem lookup_modify (m : HashMap κ ν) (k : κ) (f : ν → ν) (k' : κ) :
    (m.modify k f).lookup k' = if k' = k then (m.lookup k).map f else m.lookup k' := by
  split_ifs with hk
  · subst hk
    cases h : m.lookup k' with
    | none =>
      rw [Option.map_none', lookup_eq_none_iff, keys_modify, ← lookup_eq_none_iff]; exact h
    | some v =>
      exact lookup_eq_some_of_mem (List.mem_map.mpr ⟨(k', v), mem_of_lookup_eq_some h, by simp⟩)
  · cases h : m.lookup k' with
    | none => rw [lookup_eq_none_iff, keys_modify, ← lookup_eq_none_iff]; exact h
    | some v =>
      exact lookup_eq_some_of_mem (List.mem_map.mpr ⟨(k', v), mem_of_lookup_eq_some h,
        by simp [hk]⟩)

theorem updateAny_of_mem {m : HashMap κ ν} {k : κ} (h : k ∈ m.keys) (v : ν) :
    m.updateAny k v = m.modify k fun _ => v := by
  simp [updateAny, update, h]

theorem updateAny_of_room {m : HashMap κ ν} {k : κ} (h : k ∉ m.keys) (hr : ¬ m.Full) (v : ν) :
    (m.updateAny k v).entries = m.entries ++ [(k, v)] := by
  simp only [Full, Nat.not_le] at hr
  simp [updateAny, update, h, hr]

@[simp] theorem updateAny_maxEntries (m : HashMap κ ν) (k : κ) (v : ν) :
    (m.updateAny k v).maxEntries = m.maxEntries := by
  unfold updateAny update
  split_ifs <;> rfl

/-- In a full map a new key is refused and the map stays as it was. -/
theorem updateAny_of_full {m : HashMap κ ν} {k : κ} (h : k ∉ m.keys) (hf : m.Full) (v : ν) :
    m.updateAny k v = m := by
  simp only [Full] at hf
  simp [updateAny, update, h, Nat.not_lt.mpr hf]

/-- An update of a key the map holds, or of any key while there is room, stores the value. -/
theorem lookup_updateAny_self {m : HashMap κ ν} {k : κ} (h : k ∈ m.keys ∨ ¬ m.Full) (v : ν) :
    (m.updateAny k v).lookup k = some v := by
  by_cases hk : k ∈ m.keys
  · simp [updateAny_of_mem hk, lookup_modify, (lookup_eq_none_iff m k).not.mpr (not_not.mpr hk),
      Option.map_eq_some']
    exact Option.ne_none_iff_exists'.mp ((lookup_eq_none_iff m k).not.mpr (not_not.mpr hk))
  · exact lookup_eq_some_of_mem (by rw [updateAny_of_room hk (h.resolve_left hk)]; simp)

theorem lookup_updateAny_ne (m : HashMap κ ν) {k k' : κ} (hk : k' ≠ k) (v : ν) :
    (m.updateAny k v).lookup k' = m.lookup k' := by
  by_cases hm : k ∈ m.keys
  · rw [updateAny_of_mem hm, lookup_modify, if_neg hk]
  by_cases hf : m.Full
  · rw [updateAny_of_full hm hf]
  cases h : m.lookup k' with
  | none =>
    rw [lookup_eq_none_iff, keys, updateAny_of_room hm hf]
    simpa [hk, keys] using (lookup_eq_none_iff m k').mp h
  | some w =>
    exact lookup_eq_some_of_mem (by rw [updateAny_of_room hm hf]; simp [mem_of_lookup_eq_some h])

theorem foldl_updateAny_maxEntries (f : κ → ν) :
    ∀ (l : List κ) (m : HashMap κ ν),
      (l.foldl (fun m k => m.updateAny k (f k)) m).maxEntries = m.maxEntries
  | [], _ => rfl
  | k :: l, m => (foldl_updateAny_maxEntries f l _).trans (updateAny_maxEntries m k (f k))

/-- Updates of fresh keys, one after another while there is room, append them in order. -/
theorem foldl_updateAny_fresh (f : κ → ν) :
    ∀ (l : List κ) (m : HashMap κ ν), (m.keys ++ l).Nodup → m.entries.length + l.length ≤ m.maxEntries →
      (l.foldl (fun m k => m.updateAny k (f k)) m).entries = m.entries ++ l.map fun k => (k, f k)
  | [], m, _, _ => by simp
  | k :: l, m, hn, hl => by
    have hk : k ∉ m.keys := fun h => (List.nodup_append.mp hn).2.2 h (List.mem_cons_self k l)
    have hr : ¬ m.Full := by simp only [Full, List.length_cons] at hl ⊢; omega
    have he := updateAny_of_room hk hr (f k)
    rw [List.foldl_cons, foldl_updateAny_fresh f l _ ?_ ?_, he]
    · simp
    · rw [keys, he, List.map_append]
      simpa using hn
    · simp only [he, updateAny_maxEntries, List.length_cons, List.length_append,
        List.length_singleton, List.length_nil] at hl ⊢
      omega

theorem lookup_delete (m : HashMap κ ν) (k k' : κ) :
    (m.delete k).lookup k' = if k' = k then none else m.lookup k' := by
  split_ifs with hk
  · rw [lookup_eq_none_iff]
    simp [keys, delete, hk]
  · cases h : m.lookup k' with
    | none =>
      rw [lookup_eq_none_iff] at h ⊢
      exact fun hd => h (List.map_subset _ (List.filter_sublist _).subset hd)
    | some v =>
      exact lookup_eq_some_of_mem (List.mem_filter.mpr ⟨mem_of_lookup_eq_some h, by simpa using hk⟩)

theorem isSome_lookup_iff (m : HashMap κ ν) (k : κ) : (m.lookup k).isSome ↔ k ∈ m.keys := by
  rw [← not_iff_not, Option.not_isSome_iff_eq_none, lookup_eq_none_iff]

/-- An update never removes a key: it replaces a value, appends the key, or is refused. -/
theorem keys_subset_updateAny (m : HashMap κ ν) (k : κ) (v : ν) :
    m.keys ⊆ (m.updateAny k v).keys := by
  by_cases hm : k ∈ m.keys
  · rw [updateAny_of_mem hm, keys_modify]; exact List.Subset.refl _
  by_cases hf : m.Full
  · rw [updateAny_of_full hm hf]; exact List.Subset.refl _
  · unfold keys
    rw [updateAny_of_room hm hf, List.map_append]
    exact List.subset_append_left _ _

theorem mem_keys_delete {m : HashMap κ ν} {k k' : κ} (h : k' ∈ m.keys) (hk : k' ≠ k) :
    k' ∈ (m.delete k).keys := by
  obtain ⟨e, he, rfl⟩ := List.mem_map.mp h
  exact List.mem_map_of_mem _ (List.mem_filter.mpr ⟨he, by simpa using hk⟩)

end HashMap

/-- A `BPF_MAP_TYPE_LRU_HASH` map: distinct keys, at most `maxEntries` of them, the entry
updated least recently first. -/
structure LruMap (κ ν : Type) where
  entries : List (κ × ν)
  maxEntries : ℕ
  nodup : (entries.map Prod.fst).Nodup
  le : entries.length ≤ maxEntries
  pos : 0 < maxEntries

namespace LruMap

variable {κ ν : Type} [DecidableEq κ]

def empty (n : ℕ) (h : 0 < n) : LruMap κ ν := ⟨[], n, List.nodup_nil, Nat.zero_le _, h⟩

/-- `bpf_map_lookup_elem`. -/
def lookup (m : LruMap κ ν) (k : κ) : Option ν := (m.entries.find? (·.1 = k)).map Prod.snd

/-- The entries an update of `k` keeps: all but `k`'s, less the least recent one when the
others already fill the map. -/
def keep (es : List (κ × ν)) (n : ℕ) (k : κ) : List (κ × ν) :=
  if (es.filter fun e => e.1 ≠ k).length < n then es.filter fun e => e.1 ≠ k
  else (es.filter fun e => e.1 ≠ k).drop 1

theorem keep_sublist (es : List (κ × ν)) (n : ℕ) (k : κ) : (keep es n k).Sublist es := by
  unfold keep; split_ifs
  · exact List.filter_sublist _
  · exact (List.drop_sublist _ _).trans (List.filter_sublist _)

theorem keep_ne {es : List (κ × ν)} {n : ℕ} {k : κ} {e : κ × ν} (he : e ∈ keep es n k) :
    e.1 ≠ k := by
  unfold keep at he; split_ifs at he
  · simpa using (List.mem_filter.mp he).2
  · simpa using (List.mem_filter.mp (List.mem_of_mem_drop he)).2

theorem keep_length_lt {es : List (κ × ν)} {n : ℕ} (k : κ) (hl : es.length ≤ n) (hn : 0 < n) :
    (keep es n k).length < n := by
  have hf := (List.length_filter_le (fun e : κ × ν => decide (e.1 ≠ k)) es).trans hl
  unfold keep; split_ifs with h
  · exact h
  · rw [List.length_drop]; omega

/-- `bpf_map_update_elem (map, &k, &v, BPF_ANY)`: `k` becomes the most recent entry; a new
key in a full map evicts the least recent one first. -/
def update (m : LruMap κ ν) (k : κ) (v : ν) : LruMap κ ν where
  entries := keep m.entries m.maxEntries k ++ [(k, v)]
  maxEntries := m.maxEntries
  nodup := by
    rw [List.map_append, List.nodup_append]
    refine ⟨m.nodup.sublist ((keep_sublist _ _ _).map _), List.nodup_singleton _, ?_⟩
    simp only [List.map_cons, List.map_nil, List.disjoint_singleton, List.mem_map, not_exists,
      not_and]
    exact fun e he hek => keep_ne he hek
  le := by
    have := keep_length_lt k m.le m.pos
    simp only [List.length_append, List.length_singleton]; omega
  pos := m.pos

/-- An update of a map whose only key is `k` leaves `k`'s new value alone in it. -/
theorem update_single (m : LruMap κ ν) {k : κ} {v₀ : ν} (h : m.entries = [(k, v₀)]) (v : ν) :
    (m.update k v).entries = [(k, v)] := by
  have : (m.entries.filter fun e => e.1 ≠ k) = [] := by simp [h]
  simp only [update, keep, this, List.length_nil, m.pos, if_true, List.nil_append]

theorem lookup_of_entries {m : LruMap κ ν} {k : κ} {v : ν} (h : m.entries = [(k, v)]) :
    m.lookup k = some v := by
  simp [lookup, h]

/-- The map seen as a `BPF_MAP_TYPE_HASH` map: the two kinds differ only in `update`. -/
def toHashMap (m : LruMap κ ν) : HashMap κ ν := ⟨m.entries, m.maxEntries, m.nodup, m.le⟩

/-- A store through the pointer `bpf_map_lookup_elem` returned for `k`. It does not count as an
update: the entry keeps its place in the LRU order. -/
def modify (m : LruMap κ ν) (k : κ) (f : ν → ν) : LruMap κ ν :=
  ⟨(m.toHashMap.modify k f).entries, m.maxEntries, (m.toHashMap.modify k f).nodup,
    (m.toHashMap.modify k f).le, m.pos⟩

/-- `bpf_map_delete_elem`, or the kernel evicting the entry of `k` on its own. -/
def delete (m : LruMap κ ν) (k : κ) : LruMap κ ν :=
  ⟨(m.toHashMap.delete k).entries, m.maxEntries, (m.toHashMap.delete k).nodup,
    (m.toHashMap.delete k).le, m.pos⟩

theorem lookup_modify (m : LruMap κ ν) (k : κ) (f : ν → ν) (k' : κ) :
    (m.modify k f).lookup k' = if k' = k then (m.lookup k).map f else m.lookup k' :=
  HashMap.lookup_modify m.toHashMap k f k'

theorem lookup_delete (m : LruMap κ ν) (k k' : κ) :
    (m.delete k).lookup k' = if k' = k then none else m.lookup k' :=
  HashMap.lookup_delete m.toHashMap k k'

theorem mem_of_lookup_eq_some {m : LruMap κ ν} {k : κ} {v : ν} (h : m.lookup k = some v) :
    (k, v) ∈ m.entries :=
  HashMap.mem_of_lookup_eq_some (m := m.toHashMap) h

/-- A store keeps every key and changes at most the value of `k`. -/
theorem mem_modify {m : LruMap κ ν} {k : κ} {f : ν → ν} {e : κ × ν} (he : e ∈ (m.modify k f).entries) :
    ∃ e₀ ∈ m.entries, e.1 = e₀.1 ∧ (e.2 = e₀.2 ∨ e.1 = k ∧ e.2 = f e₀.2) := by
  obtain ⟨e₀, h₀, rfl⟩ := List.mem_map.mp he
  by_cases hk : e₀.1 = k
  · exact ⟨e₀, h₀, by simp [hk], .inr (by simp [hk])⟩
  · exact ⟨e₀, h₀, by simp [hk], .inl (by simp [hk])⟩

/-- An update leaves old entries and the new one, nothing else. -/
theorem mem_update {m : LruMap κ ν} {k : κ} {v : ν} {e : κ × ν} (he : e ∈ (m.update k v).entries) :
    e ∈ m.entries ∨ e = (k, v) := by
  rcases List.mem_append.mp he with h | h
  · exact .inl ((keep_sublist _ _ _).subset h)
  · exact .inr (List.mem_singleton.mp h)

theorem mem_delete {m : LruMap κ ν} {k : κ} {e : κ × ν} (he : e ∈ (m.delete k).entries) :
    e ∈ m.entries :=
  (List.mem_filter.mp he).1

end LruMap

/-! ### `BPF_MAP_TYPE_LPM_TRIE` -/

section Lpm

variable {ν : Type}

/-- The trie node of the prefix `addr/prefixlen` of a 32-bit address: the prefix length and the
address's first `prefixlen` bits. The trie compares keys from their first byte, so on the
wire-order value of an address the first bits are the high ones. -/
def lpmNode (prefixlen addr : ℕ) : ℕ × ℕ := (prefixlen, addr / 2 ^ (32 - prefixlen))

/-- `bpf_map_lookup_elem` with the key `{.prefixlen = 32, .addr = a}`: the value of the longest
prefix of `a` the trie holds. -/
def lpmLookup (t : HashMap (ℕ × ℕ) ν) (a : ℕ) : Option ν :=
  (List.range 33).reverse.findSome? fun p => t.lookup (lpmNode p a)

/-- `bpf_map_update_elem` of `{prefixlen, addr}` with `BPF_ANY`: a prefix longer than 32 bits is
refused (`-EINVAL`), and so is a new prefix in a full trie (`-ENOSPC`). -/
def lpmUpdateAny (t : HashMap (ℕ × ℕ) ν) (prefixlen addr : ℕ) (v : ν) : HashMap (ℕ × ℕ) ν :=
  if prefixlen ≤ 32 then t.updateAny (lpmNode prefixlen addr) v else t

/-- `bpf_map_delete_elem` of `{prefixlen, addr}`. -/
def lpmDelete (t : HashMap (ℕ × ℕ) ν) (prefixlen addr : ℕ) : HashMap (ℕ × ℕ) ν :=
  if prefixlen ≤ 32 then t.delete (lpmNode prefixlen addr) else t

end Lpm

/-! ### Frames -/

/-- The verdicts the filters return: `XDP_DROP` and `XDP_PASS`. -/
inductive XdpAction where
  | drop
  | pass
  deriving DecidableEq, Repr

def ETH_P_IP : ℕ := 0x0800

def ETH_P_IPV6 : ℕ := 0x86DD

def IPPROTO_ICMP : ℕ := 1

/-- An Ethernet frame with zero MAC addresses around a 20-byte IPv4 header (TTL 64, zero
checksum and destination) with protocol `proto` and source address `src`, and no payload. -/
def ip4Frame (src proto : ℕ) : Bytes :=
  List.replicate 12 0 ++ be16 ETH_P_IP ++
    (Ip4Header.mk 0x45 0 20 0 0 64 proto 0 src 0).toBytes

@[simp] theorem ip4Frame_length (src proto : ℕ) : (ip4Frame src proto).length = 34 := rfl

/-- The fields the filters read: the EtherType, IHL and protocol, and the source address. -/
theorem ip4Frame_fields (src proto : ℕ) :
    rd16 (ip4Frame src proto) 12 = ETH_P_IP ∧ byteAt (ip4Frame src proto) 14 % 16 = 5 ∧
      byteAt (ip4Frame src proto) 23 = proto % 256 ∧
        rd32 (ip4Frame src proto) 26 = src % 2 ^ 32 := by
  simp only [ip4Frame, rd32, rd16, byteAt, Ip4Header.toBytes, be32, be16, List.replicate,
    List.append_assoc, List.cons_append, List.nil_append, List.getD_cons_succ,
    List.getD_cons_zero, byte_toNat_ofNat]
  exact ⟨rfl, trivial, trivial, by omega⟩

end OpenSase.Bpf
