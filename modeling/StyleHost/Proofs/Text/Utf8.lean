import Mathlib.Tactic.SplitIfs
import StyleHost.Text.Utf8

/-!
# Decoding what was encoded

The bytes of a text are those of its characters, one after the other, and decoding gives them back.
An ASCII byte is never a part of another character.

* `Utf8.encode_eq` : a text is encoded character by character.
* `Utf8.mem_of_mem_encode` : where the ASCII bytes come from.
* `Utf8.decodeChars_encode` : the round trip.
-/

namespace StyleHost

namespace Utf8

open String (utf8EncodeChar)

variable {b : UInt8} {c : Char} {cs : List Char}

/-! ### Encoding -/

theorem toList_loop (bytes : ByteArray) (i : Nat) (read : Bytes) :
    ByteArray.toList.loop bytes i read = read.reverse ++ bytes.data.toList.drop i := by
  fun_induction ByteArray.toList.loop bytes i read with
  | case1 i read hlt ih =>
    have hlength : i < bytes.data.toList.length := hlt
    have hget : bytes.get! i = bytes.data[i] := getElem!_pos bytes.data i hlt
    rw [ih, hget, List.reverse_cons, List.append_assoc, List.singleton_append,
      List.drop_eq_getElem_cons hlength]
    rfl
  | case2 i read hge =>
    rw [List.drop_eq_nil_of_le (Nat.le_of_not_lt hge), List.append_nil]

/-- A text is encoded character by character. -/
theorem encode_eq (s : String) : encode s = s.toList.flatMap utf8EncodeChar := by
  rw [encode, String.toUTF8_eq_toByteArray, ← String.utf8Encode_toList, ByteArray.toList,
    toList_loop, List.utf8Encode, List.data_toByteArray]
  rfl

theorem encode_ofList (cs : List Char) :
    encode (String.ofList cs) = cs.flatMap utf8EncodeChar := by
  rw [encode_eq, String.toList_ofList]

theorem encode_append (s t : String) : encode (s ++ t) = encode s ++ encode t := by
  simp only [encode_eq, String.toList_append, List.flatMap_append]

/-! ### Decoding a character -/

variable {n lead : Nat}

theorem toNat_ofNat (h : n < 256) : (UInt8.ofNat n).toNat = n := UInt8.toNat_ofNat_of_lt' h

theorem ofNat_lt_iff (h : n < 256) : UInt8.ofNat n < b ↔ n < b.toNat := by
  rw [UInt8.lt_iff_toNat_lt, toNat_ofNat h]

theorem ofNat_le_iff (h : n < 256) : UInt8.ofNat n ≤ b ↔ n ≤ b.toNat := by
  rw [UInt8.le_iff_toNat_le, toNat_ofNat h]

theorem le_ofNat_iff (h : n < 256) : b ≤ UInt8.ofNat n ↔ b.toNat ≤ n := by
  rw [UInt8.le_iff_toNat_le, toNat_ofNat h]

theorem ofNat_eq_iff (h : n < 256) : UInt8.ofNat n = b ↔ n = b.toNat := by
  rw [← UInt8.toNat_inj, toNat_ofNat h]

/-- Six bits of a character, in a byte that continues it. -/
def tail (n : Nat) : UInt8 := UInt8.ofNat (n + 128)

theorem toNat_tail (h : n < 0x40) : (tail n).toNat = n + 128 := by
  have hbyte : n + 128 < 256 := by omega
  exact toNat_ofNat hbyte

theorem tail_between (h : n < 0x40) {low high : UInt8} :
    (low ≤ tail n && tail n ≤ high) = true ↔ low.toNat ≤ n + 128 ∧ n + 128 ≤ high.toNat := by
  rw [Bool.and_eq_true, decide_eq_true_eq, decide_eq_true_eq, UInt8.le_iff_toNat_le,
    UInt8.le_iff_toNat_le, toNat_tail h]

theorem isTail_tail (h : n < 0x40) : isTail (tail n) = true := by
  simp only [isTail, tail_between h, UInt8.reduceToNat]
  omega

theorem tailBits_tail (h : n < 0x40) : tailBits (tail n) = n := by
  have hbyte : (tail n).toNat - 0x80 = n := by
    have htail := toNat_tail h
    omega
  exact hbyte

/-- A second byte may not follow every first byte: they could spell a character in more bytes than
it takes, a surrogate, or a number beyond the last character. -/
theorem isSecond_tail (h : n < 0x40) (hlead : lead < 256) (hE0 : lead = 0xE0 → 0x20 ≤ n)
    (hED : lead = 0xED → n < 0x20) (hF0 : lead = 0xF0 → 0x10 ≤ n) (hF4 : lead = 0xF4 → n < 0x10) :
    isSecond (UInt8.ofNat lead) (tail n) = true := by
  simp only [isSecond, ofNat_eq_iff hlead, UInt8.reduceToNat]
  split_ifs with h1 h2 h3 h4
  case neg => exact isTail_tail h
  all_goals
    simp only [tail_between h, UInt8.reduceToNat]
    omega

section

variable {v : Nat} {rest : Bytes}

theorem first_one (h : v < 0x80) : first (UInt8.ofNat v) rest = .ok (Char.ofNat v, rest) := by
  have hbyte : v < 256 := by omega
  have hlt : UInt8.ofNat v < 0x80 := (ofNat_lt_iff hbyte).2 h
  rw [first.eq_def, if_pos hlt, toNat_ofNat hbyte]

theorem first_two (hlow : 0x80 ≤ v) (hhigh : v < 0x800) :
    first (UInt8.ofNat (v / 64 + 192)) (tail (v % 64) :: rest) = .ok (Char.ofNat v, rest) := by
  have hbyte : v / 64 + 192 < 256 := by omega
  have htail : v % 64 < 0x40 := by omega
  simp only [first, ofNat_lt_iff hbyte, ofNat_le_iff hbyte, le_ofNat_iff hbyte, UInt8.reduceToNat]
  rw [if_neg (by omega), if_pos (by omega), if_pos (isTail_tail htail), toNat_ofNat hbyte,
    tailBits_tail htail]
  congr 3
  omega

theorem first_three (hlow : 0x800 ≤ v) (hhigh : v < 0x10000) (hvalid : v < 0xD800 ∨ 0xDFFF < v) :
    first (UInt8.ofNat (v / 4096 + 224)) (tail (v / 64 % 64) :: tail (v % 64) :: rest) =
      .ok (Char.ofNat v, rest) := by
  have hbyte : v / 4096 + 224 < 256 := by omega
  have hsecond : v / 64 % 64 < 0x40 := by omega
  have hthird : v % 64 < 0x40 := by omega
  have hallowed := isSecond_tail hsecond hbyte (by omega) (by omega) (by omega) (by omega)
  simp only [first, ofNat_lt_iff hbyte, ofNat_le_iff hbyte, le_ofNat_iff hbyte, UInt8.reduceToNat,
    hallowed]
  rw [if_neg (by omega), if_neg (by omega), if_pos (by omega), if_neg (by decide),
    if_pos (isTail_tail hthird), toNat_ofNat hbyte, tailBits_tail hsecond, tailBits_tail hthird]
  congr 3
  omega

theorem first_four (hlow : 0x10000 ≤ v) (hhigh : v < 0x110000) :
    first (UInt8.ofNat (v / 262144 + 240))
        (tail (v / 4096 % 64) :: tail (v / 64 % 64) :: tail (v % 64) :: rest) =
      .ok (Char.ofNat v, rest) := by
  have hbyte : v / 262144 + 240 < 256 := by omega
  have hsecond : v / 4096 % 64 < 0x40 := by omega
  have hthird : v / 64 % 64 < 0x40 := by omega
  have hfourth : v % 64 < 0x40 := by omega
  have hallowed := isSecond_tail hsecond hbyte (by omega) (by omega) (by omega) (by omega)
  simp only [first, ofNat_lt_iff hbyte, ofNat_le_iff hbyte, le_ofNat_iff hbyte, UInt8.reduceToNat,
    hallowed, isTail_tail hthird]
  rw [if_neg (by omega), if_neg (by omega), if_neg (by omega), if_pos (by omega),
    if_neg (by decide), if_neg (by decide), if_pos (isTail_tail hfourth), toNat_ofNat hbyte,
    tailBits_tail hsecond, tailBits_tail hthird, tailBits_tail hfourth]
  have hdiv : v / 4096 / 64 = v / 262144 := Nat.div_div_eq_div_mul v 4096 64
  congr 3
  omega

end

/-- **A character is read back** from its bytes, whatever follows them. -/
theorem first_encodeChar (c : Char) (rest : Bytes) :
    ∃ b bs, utf8EncodeChar c = b :: bs ∧ first b (bs ++ rest) = .ok (c, rest) := by
  have hvalid : c.toNat < 0xD800 ∨ 0xDFFF < c.toNat ∧ c.toNat < 0x110000 := c.valid
  have hback : Char.ofNat c.toNat = c := Char.ofNat_toNat c
  rw [utf8EncodeChar.eq_1]
  change ∃ b bs, (if c.toNat ≤ 127 then [UInt8.ofNat c.toNat]
    else if c.toNat ≤ 2047 then [UInt8.ofNat (c.toNat / 64 % 32 + 192), tail (c.toNat % 64)]
    else if c.toNat ≤ 65535 then [UInt8.ofNat (c.toNat / 4096 % 16 + 224),
      tail (c.toNat / 64 % 64), tail (c.toNat % 64)]
    else [UInt8.ofNat (c.toNat / 262144 % 8 + 240), tail (c.toNat / 4096 % 64),
      tail (c.toNat / 64 % 64), tail (c.toNat % 64)]) = b :: bs ∧ _
  generalize c.toNat = v at hvalid hback
  subst hback
  -- the bits of the first byte are never more than it has room for
  split_ifs with h1 h2 h3
  · exact ⟨_, _, rfl, first_one (by omega)⟩
  · rw [Nat.mod_eq_of_lt (by omega)]
    exact ⟨_, _, rfl, first_two (by omega) (by omega)⟩
  · rw [Nat.mod_eq_of_lt (a := v / 4096) (by omega)]
    exact ⟨_, _, rfl, first_three (by omega) (by omega) (by omega)⟩
  · rw [Nat.mod_eq_of_lt (a := v / 262144) (by omega)]
    exact ⟨_, _, rfl, first_four (by omega) (by omega)⟩

/-! ### Decoding a text -/

theorem decodeUpTo_encode (cs : List Char) {fuel : Nat}
    (h : (cs.flatMap utf8EncodeChar).length ≤ fuel) (index : Nat) (read : List Char) :
    decodeUpTo fuel index read (cs.flatMap utf8EncodeChar) = .ok (read.reverse ++ cs) := by
  induction cs generalizing fuel index read with
  | nil => rw [List.flatMap_nil, decodeUpTo, List.append_nil]
  | cons c cs ih =>
    obtain ⟨b, bs, hchar, hfirst⟩ := first_encodeChar c (cs.flatMap utf8EncodeChar)
    rw [List.flatMap_cons, hchar, List.cons_append] at h ⊢
    obtain ⟨fuel, rfl⟩ := Nat.exists_eq_succ_of_ne_zero (Nat.ne_zero_of_lt h)
    rw [decodeUpTo, hfirst]
    dsimp only
    have hrest : (cs.flatMap utf8EncodeChar).length ≤ fuel := by
      rw [List.length_cons, List.length_append] at h
      omega
    rw [ih hrest, List.reverse_cons, List.append_assoc, List.singleton_append]

/-- **Decoding undoes encoding.** -/
theorem decodeChars_encode (s : String) : decodeChars (encode s) = .ok s.toList := by
  rw [decodeChars, encode_eq]
  exact decodeUpTo_encode _ (Nat.le_refl _) 0 []

/-! ### ASCII -/

/-- A byte with its highest bit set is not of ASCII. -/
theorem not_ofNat_lt (hhigh : n < 256) (hlow : 0x80 ≤ n) : ¬ UInt8.ofNat n < 0x80 := by
  rw [ofNat_lt_iff hhigh]
  exact Nat.not_lt.2 hlow

/-- An ASCII byte among those of a character is all of it. -/
theorem toNat_of_mem_encodeChar (h : b ∈ utf8EncodeChar c) (hb : b < 0x80) :
    b.toNat = c.toNat := by
  rw [utf8EncodeChar.eq_1] at h
  split_ifs at h with h1 h2 h3
  · obtain rfl := List.mem_singleton.1 h
    exact toNat_ofNat (by omega)
  -- all bytes of a longer character have their highest bit set
  all_goals
    simp only [List.mem_cons, List.not_mem_nil, or_false] at h
  · rcases h with rfl | rfl <;> exact absurd hb (not_ofNat_lt (by omega) (by omega))
  · rcases h with rfl | rfl | rfl <;> exact absurd hb (not_ofNat_lt (by omega) (by omega))
  · rcases h with rfl | rfl | rfl | rfl <;> exact absurd hb (not_ofNat_lt (by omega) (by omega))

/-- Where the ASCII bytes of a text come from. -/
theorem mem_of_mem_encode {s : String} (h : b ∈ encode s) (hb : b < 0x80) :
    Char.ofNat b.toNat ∈ s.toList := by
  rw [encode_eq] at h
  obtain ⟨c, hc, hmem⟩ := List.mem_flatMap.1 h
  rwa [toNat_of_mem_encodeChar hmem hb, Char.ofNat_toNat]

end Utf8

end StyleHost
