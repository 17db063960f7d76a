import TxForge.Proofs.BigEndian
import TxForge.Rlp

/-!
# Unique reading of length prefixes

The bytes of a tree say where they end and what the tree is: whatever follows them, no other tree
starts with the same bytes.  Heads carry this.  A head tells the length of what follows it, and its
first byte tells a string from a list, and both from a byte that stands for itself.

The length of a length has to fit into the byte in front of it, so trees are read back if there are
fewer than `lengthLimit` bytes of them.  All byte strings in memory are that short: their lengths
are 64-bit numbers.  A longer string would begin as the empty list does.

* `Rlp.head_append_inj` — heads with the same base are read in one way.
* `Rlp.encode_append_inj` — and so are trees.
* `Rlp.encodeAll_of_list` — where nothing follows a list, what is in it is read at any length.
-/

set_option autoImplicit false

namespace TxForge
namespace Rlp

/-- Lengths are below this number, so that eight bytes hold them. -/
def lengthLimit : Nat := 2 ^ 64

variable {x y : Bytes}

/-! ## Heads -/

/-- A length of more than 55 takes one to eight bytes. -/
theorem length_digits {len : Nat} (hlen : len < lengthLimit) (h : ¬ len < 56) :
    0 < (Bytes.bigEndian len).length ∧ (Bytes.bigEndian len).length ≤ 8 :=
  ⟨List.length_pos_iff.2 (Bytes.bigEndian_ne_nil (by omega)),
    Bytes.length_bigEndian_le (by decide) hlen⟩

/-- The byte that a head starts with, as a distance from its base. -/
def headByte (len : Nat) : Nat :=
  if len < 56 then len else 55 + (Bytes.bigEndian len).length

theorem headByte_lt {len : Nat} (hlen : len < lengthLimit) : headByte len < 64 := by
  rw [headByte]
  split
  · omega
  · rename_i h
    have := length_digits hlen h
    omega

theorem head_eq (base : UInt8) (len : Nat) :
    head base len = (base + UInt8.ofNat (headByte len)) ::
      if len < 56 then [] else Bytes.bigEndian len := by
  rw [head, headByte]
  split
  · rfl
  · rw [UInt8.ofNat_add, ← UInt8.add_assoc]
    rfl

theorem toNat_firstByte {base : UInt8} {len : Nat} (hbase : base.toNat ≤ 192)
    (hlen : len < lengthLimit) :
    (base + UInt8.ofNat (headByte len)).toNat = base.toNat + headByte len := by
  have := headByte_lt hlen
  rw [UInt8.toNat_add, UInt8.toNat_ofNat']
  omega

/-- **The head of a length is not the start of the head of another.** -/
theorem head_append_inj {base : UInt8} {m n : Nat} (hbase : base.toNat ≤ 192) (hm : m < lengthLimit)
    (hn : n < lengthLimit) (h : head base m ++ x = head base n ++ y) : m = n ∧ x = y := by
  rw [head_eq, head_eq, List.cons_append, List.cons_append, List.cons.injEq] at h
  obtain ⟨hfirst, hrest⟩ := h
  have hbyte : headByte m = headByte n := by
    have hnat := congrArg UInt8.toNat hfirst
    rw [toNat_firstByte hbase hm, toNat_firstByte hbase hn] at hnat
    omega
  rw [headByte, headByte] at hbyte
  by_cases hm' : m < 56 <;> by_cases hn' : n < 56
  · rw [if_pos hm', if_pos hn'] at hbyte hrest
    exact ⟨hbyte, hrest⟩
  · -- a short length is less than the first byte of a long one stands for
    have := length_digits hn hn'
    rw [if_pos hm', if_neg hn'] at hbyte
    omega
  · have := length_digits hm hm'
    rw [if_neg hm', if_pos hn'] at hbyte
    omega
  · rw [if_neg hm', if_neg hn'] at hbyte hrest
    obtain ⟨hdigits, hxy⟩ := List.append_inj hrest (by omega)
    exact ⟨Bytes.bigEndian_inj.1 hdigits, hxy⟩

theorem length_head_mono (base : UInt8) {m n : Nat} (h : m ≤ n) :
    (head base m).length ≤ (head base n).length := by
  rw [head_eq, head_eq, List.length_cons, List.length_cons]
  by_cases hm : m < 56
  · rw [if_pos hm]
    exact Nat.succ_le_succ (Nat.zero_le _)
  · rw [if_neg hm, if_neg (by omega)]
    exact Nat.succ_le_succ (Bytes.length_bigEndian_mono h)

/-- What stands behind a head is known if it is all that does.  There is no limit here: a longer
body never has a shorter head, so the length of both together tells the length of each. -/
theorem body_of_head {base : UInt8} (h : head base x.length ++ x = head base y.length ++ y) :
    x = y := by
  have hsum := congrArg List.length h
  rw [List.length_append, List.length_append] at hsum
  have hlength : x.length = y.length := by
    rcases Nat.le_total x.length y.length with hle | hle
    · have hhead := length_head_mono base hle
      omega
    · have hhead := length_head_mono base hle
      omega
  rw [hlength] at h
  exact List.append_cancel_left h

/-! ## Strings and lists by their first byte -/

/-- The first byte of a string is in the range of bytes `lo` to `hi`. -/
def StartsIn (lo hi : Nat) (b : Bytes) : Prop :=
  ∃ first rest, b = first :: rest ∧ lo ≤ first.toNat ∧ first.toNat < hi

theorem StartsIn.append {lo hi : Nat} {b : Bytes} (h : StartsIn lo hi b) (x : Bytes) :
    StartsIn lo hi (b ++ x) := by
  obtain ⟨first, rest, rfl, hlo, hhi⟩ := h
  exact ⟨first, rest ++ x, rfl, hlo, hhi⟩

theorem StartsIn.ne_nil {lo hi : Nat} {b : Bytes} (h : StartsIn lo hi b) : b ≠ [] := by
  obtain ⟨first, rest, rfl, -, -⟩ := h
  exact List.cons_ne_nil _ _

/-- Strings that start in ranges one behind the other differ. -/
theorem StartsIn.ne {lo mid hi : Nat} {b c : Bytes} (hb : StartsIn lo mid b)
    (hc : StartsIn mid hi c) : b ≠ c := by
  obtain ⟨first, rest, rfl, -, hfirst⟩ := hb
  obtain ⟨first', rest', rfl, hfirst', -⟩ := hc
  intro h
  cases h
  omega

theorem startsIn_head (base : UInt8) {len : Nat} (hbase : base.toNat ≤ 192)
    (hlen : len < lengthLimit) : StartsIn base.toNat (base.toNat + 64) (head base len) := by
  have hlt := headByte_lt hlen
  have hfirst := toNat_firstByte hbase hlen
  exact ⟨_, _, head_eq base len, by omega, by omega⟩

/-- The limit cannot be dropped: a string as long as that starts as the empty list does. -/
example : (head 0x80 lengthLimit).head? = (Rlp.list []).encode.head? := by decide

/-- The string is a byte that stands for itself. -/
def StandsAlone (b : Bytes) : Prop :=
  ∃ byte : UInt8, byte < 0x80 ∧ b = [byte]

theorem StandsAlone.startsIn {b : Bytes} (h : StandsAlone b) : StartsIn 0 128 b := by
  obtain ⟨byte, hbyte, rfl⟩ := h
  exact ⟨byte, [], rfl, Nat.zero_le _, hbyte⟩

theorem encodeBytes_of_standsAlone {b : Bytes} (h : StandsAlone b) : encodeBytes b = b := by
  obtain ⟨byte, hbyte, rfl⟩ := h
  exact if_pos hbyte

theorem encodeBytes_of_not_standsAlone {b : Bytes} (h : ¬ StandsAlone b) :
    encodeBytes b = head 0x80 b.length ++ b := by
  unfold encodeBytes
  split
  · rename_i byte
    exact if_neg fun hbyte => h ⟨byte, hbyte, rfl⟩
  · rfl

theorem length_le_length_encodeBytes (b : Bytes) : b.length ≤ (encodeBytes b).length := by
  by_cases h : StandsAlone b
  · exact Nat.le_of_eq (congrArg List.length (encodeBytes_of_standsAlone h).symm)
  · rw [encodeBytes_of_not_standsAlone h, List.length_append]
    omega

theorem startsIn_encodeBytes {b : Bytes} (hb : b.length < lengthLimit) :
    StartsIn 0 192 (encodeBytes b) := by
  by_cases h : StandsAlone b
  · obtain ⟨first, rest, heq, hlo, hhi⟩ := h.startsIn
    rw [encodeBytes_of_standsAlone h]
    exact ⟨first, rest, heq, hlo, by omega⟩
  · obtain ⟨first, rest, heq, -, hhi⟩ := startsIn_head 0x80 (by decide) hb
    rw [encodeBytes_of_not_standsAlone h]
    exact StartsIn.append ⟨first, rest, heq, Nat.zero_le _, hhi⟩ b

/-- No string goes on as another. -/
theorem encodeBytes_append_inj {b c : Bytes} (hb : b.length < lengthLimit)
    (hc : c.length < lengthLimit) (h : encodeBytes b ++ x = encodeBytes c ++ y) : b = c ∧ x = y := by
  have hhead {d : Bytes} (hd : d.length < lengthLimit) : StartsIn 128 192 (head 0x80 d.length) :=
    startsIn_head 0x80 (by decide) hd
  by_cases hb' : StandsAlone b <;> by_cases hc' : StandsAlone c
  · rw [encodeBytes_of_standsAlone hb', encodeBytes_of_standsAlone hc'] at h
    obtain ⟨byte, -, rfl⟩ := hb'
    obtain ⟨byte', -, rfl⟩ := hc'
    exact List.append_inj h rfl
  · rw [encodeBytes_of_standsAlone hb', encodeBytes_of_not_standsAlone hc', List.append_assoc] at h
    exact absurd h ((hb'.startsIn.append x).ne ((hhead hc).append _))
  · rw [encodeBytes_of_not_standsAlone hb', encodeBytes_of_standsAlone hc', List.append_assoc] at h
    exact absurd h.symm ((hc'.startsIn.append y).ne ((hhead hb).append _))
  · rw [encodeBytes_of_not_standsAlone hb', encodeBytes_of_not_standsAlone hc', List.append_assoc,
      List.append_assoc] at h
    obtain ⟨hlength, hrest⟩ := head_append_inj (by decide) hb hc h
    exact List.append_inj hrest hlength

/-! ## Trees -/

theorem startsIn_encode_list (items : List Rlp)
    (h : (Rlp.list items).encode.length < lengthLimit) :
    StartsIn 192 256 (Rlp.list items).encode := by
  rw [encode, List.length_append] at h
  rw [encode]
  exact (startsIn_head 0xc0 (by decide) (by omega)).append _

theorem startsIn_encode_bytes (b : Bytes) (h : (Rlp.bytes b).encode.length < lengthLimit) :
    StartsIn 0 192 (Rlp.bytes b).encode := by
  rw [encode] at h ⊢
  exact startsIn_encodeBytes (Nat.lt_of_le_of_lt (length_le_length_encodeBytes b) h)

theorem encode_ne_nil {a : Rlp} (h : a.encode.length < lengthLimit) : a.encode ≠ [] := by
  cases a with
  | bytes b => exact (startsIn_encode_bytes b h).ne_nil
  | list items => exact (startsIn_encode_list items h).ne_nil

mutual

/-- **No tree goes on as another**: its bytes are not the start of those of a different tree. -/
theorem encode_append_inj : ∀ {a b : Rlp} {x y : Bytes}, (a.encode ++ x).length < lengthLimit →
    (b.encode ++ y).length < lengthLimit → a.encode ++ x = b.encode ++ y → a = b ∧ x = y
  | .bytes b, .bytes c, x, y, ha, hb, h => by
    rw [encode, List.length_append] at ha hb
    rw [encode, encode] at h
    have hle := length_le_length_encodeBytes b
    have hle' := length_le_length_encodeBytes c
    obtain ⟨rfl, hxy⟩ := encodeBytes_append_inj (by omega) (by omega) h
    exact ⟨rfl, hxy⟩
  | .bytes b, .list items, x, y, ha, hb, h => by
    rw [List.length_append] at ha hb
    have hbytes := (startsIn_encode_bytes b (by omega)).append x
    have hlist := (startsIn_encode_list items (by omega)).append y
    exact absurd h (hbytes.ne hlist)
  | .list items, .bytes b, x, y, ha, hb, h => by
    rw [List.length_append] at ha hb
    have hlist := (startsIn_encode_list items (by omega)).append x
    have hbytes := (startsIn_encode_bytes b (by omega)).append y
    exact absurd h.symm (hbytes.ne hlist)
  | .list items, .list items', x, y, ha, hb, h => by
    rw [encode, List.length_append, List.length_append] at ha hb
    rw [encode, encode, List.append_assoc, List.append_assoc] at h
    obtain ⟨hlength, hrest⟩ := head_append_inj (by decide) (by omega) (by omega) h
    obtain ⟨hbody, hxy⟩ := List.append_inj hrest hlength
    exact ⟨congrArg Rlp.list (encodeAll_inj (by omega) hbody), hxy⟩

/-- Trees one behind the other are told apart. -/
theorem encodeAll_inj : ∀ {items items' : List Rlp}, (encodeAll items).length < lengthLimit →
    encodeAll items = encodeAll items' → items = items'
  | [], [], _, _ => rfl
  | [], b :: bs, hlen, h => by
    rw [h, encodeAll, List.length_append] at hlen
    have hnil := List.append_eq_nil_iff.1 h.symm
    exact absurd hnil.1 (encode_ne_nil (by omega))
  | a :: as, [], hlen, h => by
    rw [encodeAll, List.length_append] at hlen
    have hnil := List.append_eq_nil_iff.1 h
    exact absurd hnil.1 (encode_ne_nil (by omega))
  | a :: as, b :: bs, hlen, h => by
    have hlen' := hlen
    rw [h] at hlen'
    rw [encodeAll] at hlen hlen'
    obtain ⟨rfl, hrest⟩ := encode_append_inj hlen hlen' h
    rw [List.length_append] at hlen
    rw [encodeAll_inj (by omega) hrest]

end

/-- Trees are told apart by their bytes. -/
theorem encode_inj {a b : Rlp} (hlen : a.encode.length < lengthLimit)
    (h : a.encode = b.encode) : a = b := by
  have ha : (a.encode ++ []).length < lengthLimit := by rwa [List.append_nil]
  exact (encode_append_inj ha (h ▸ ha) (congrArg (· ++ []) h)).1

/-! ## Lists of any length -/

/-- The bytes of a list tell those of its items. -/
theorem encodeAll_of_list {items items' : List Rlp}
    (h : (Rlp.list items).encode = (Rlp.list items').encode) :
    encodeAll items = encodeAll items' := by
  rw [encode, encode] at h
  exact body_of_head h

theorem encodeAll_append (items items' : List Rlp) :
    encodeAll (items ++ items') = encodeAll items ++ encodeAll items' := by
  induction items with
  | nil => rfl
  | cons item items ih => rw [List.cons_append, encodeAll, encodeAll, ih, List.append_assoc]

/-- A number of 256 bits is read whatever follows it. -/
theorem natural_append_inj {m n : Nat} (hm : m < 2 ^ 256) (hn : n < 2 ^ 256)
    (h : (natural m).encode ++ x = (natural n).encode ++ y) : m = n ∧ x = y := by
  have hlength {k : Nat} (hk : k < 2 ^ 256) : (Bytes.bigEndian k).length < lengthLimit :=
    Nat.lt_of_le_of_lt (Bytes.length_bigEndian_le (by decide : 0 < 32) hk) (by decide)
  rw [natural, natural, encode, encode] at h
  obtain ⟨hdigits, hrest⟩ := encodeBytes_append_inj (hlength hm) (hlength hn) h
  exact ⟨Bytes.bigEndian_inj.1 hdigits, hrest⟩

end Rlp
end TxForge
