import StyleHost.Proofs.Number.Nearest

/-!
# Doubles and their encoding

Each encoding but those of what is not a number stands for a double that has no other encoding. A
double is zero just if nothing but the sign is encoded.

* `Double.toBits_ofBits` : the encoding of what an encoding stands for.
* `Double.toBits_withPlainZero` : the encoding when the sign of a zero is left out.
-/

namespace StyleHost

namespace Magnitude

variable {n : ℕ} {x : Magnitude}

theorem toNat_of_ofNat?_eq_some (h : ofNat? n = some x) : x.toNat = n := by
  unfold ofNat? at h
  split_ifs at h with hs hf
  · obtain rfl := Option.some.inj h
    simp [toNat]
  · obtain rfl := Option.some.inj h
    simp only [toNat, leadingOne_eq] at hs ⊢
    omega

theorem toNat_lt (x : Magnitude) : x.toNat < 2047 * leadingOne := by
  have hm := x.mantissa_lt
  have he := x.exponent_le
  rw [toNat, leadingOne_eq] at *
  omega

theorem units_eq_zero_iff : x.units = 0 ↔ x.toNat = 0 := by
  have hnormal := x.normal
  rw [units_eq, toNat, leadingOne_eq]
  rw [leadingOne_eq] at hnormal
  constructor
  · intro h
    have hm : x.mantissa = 0 := (mul_eq_zero.1 h).resolve_right (by positivity)
    omega
  · intro h
    have hm : x.mantissa = 0 := by omega
    rw [hm, Nat.zero_mul]

end Magnitude

namespace Double

variable {bits : UInt64}

/-- Whether this is a number and not an infinity. -/
def isFinite : Double → Bool
  | .finite _ _ => true
  | _ => false

/-- The number with the sign of a zero left out. -/
def withPlainZero : Double → Double
  | .finite negative size => if size.units = 0 then zero else .finite negative size
  | x => x

theorem isFinite_iff {x : Double} :
    x.isFinite = true ↔ ∃ negative size, x = .finite negative size := by
  cases x <;> simp [isFinite]

/-- The encoding of negative zero. -/
def negativeZeroBits : UInt64 := 0x8000000000000000

theorem signBit_eq : signBit = 9223372036854775808 := by decide

/-- The sign and what else is encoded make up the encoding. -/
theorem sign_add_mod (bits : UInt64) :
    (if decide (signBit ≤ bits.toNat) then signBit else 0) + bits.toNat % signBit = bits.toNat := by
  have hlt := bits.toNat_lt
  rw [signBit_eq]
  split_ifs with h
  · rw [decide_eq_true_eq] at h
    omega
  · rw [decide_eq_true_eq] at h
    omega

theorem bitsNat_ofBits (h : (ofBits bits).isNaN = false) : (ofBits bits).bitsNat = bits.toNat := by
  unfold ofBits at h ⊢
  dsimp only at h ⊢
  split at h
  · rename_i size hsize
    rw [bitsNat, Magnitude.toNat_of_ofNat?_eq_some hsize]
    exact sign_add_mod bits
  · split_ifs at h with hinfinite
    · rw [if_pos hinfinite, bitsNat, ← hinfinite]
      exact sign_add_mod bits
    · cases h

theorem toBits_ofBits (h : (ofBits bits).isNaN = false) : (ofBits bits).toBits = bits := by
  rw [toBits, bitsNat_ofBits h, UInt64.ofNat_toNat]

/-- What an encoding stands for is zero just if the encoding is that of one of the two zeros. -/
theorem units_eq_zero_iff {negative : Bool} {size : Magnitude}
    (h : ofBits bits = .finite negative size) :
    size.units = 0 ↔ bits = 0 ∨ bits = negativeZeroBits := by
  have hlt := size.toNat_lt
  have hnat : (ofBits bits).bitsNat = bits.toNat := bitsNat_ofBits (by rw [h]; rfl)
  have hzero : (0 : UInt64).toNat = 0 := rfl
  have hminus : negativeZeroBits.toNat = 9223372036854775808 := rfl
  rw [Magnitude.units_eq_zero_iff, ← UInt64.toNat_inj, ← UInt64.toNat_inj, hzero, hminus]
  rw [h, bitsNat, signBit_eq] at hnat
  rw [leadingOne_eq] at hlt
  split_ifs at hnat <;> omega

/-- **The encoding is kept, but for that of negative zero**, if the sign of a zero is left out. -/
theorem toBits_withPlainZero (h : (ofBits bits).isFinite = true) :
    (ofBits bits).withPlainZero.toBits = if bits = negativeZeroBits then 0 else bits := by
  obtain ⟨negative, size, hx⟩ := isFinite_iff.1 h
  have hbits : (ofBits bits).toBits = bits := toBits_ofBits (by rw [hx]; rfl)
  have hzero : zero.toBits = 0 := by decide
  rw [hx] at hbits ⊢
  rw [withPlainZero]
  by_cases hunits : size.units = 0
  · rw [if_pos hunits, hzero]
    rcases (units_eq_zero_iff hx).1 hunits with rfl | rfl
    · rfl
    · rfl
  · have hne : bits ≠ negativeZeroBits := fun heq => hunits ((units_eq_zero_iff hx).2 (.inr heq))
    rw [if_neg hunits, if_neg hne, hbits]

end Double

end StyleHost
