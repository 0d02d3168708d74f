/-!
# Binary64 numbers

A double is given by its meaning: not a number, an infinity, or a sign with a magnitude. A
magnitude counts units of `2 ^ (-1074)`, the least positive double, so that every finite double is
an integer number of units and comparison is comparison of integers.

* `Magnitude` : mantissa and exponent in normal form; `Magnitude.units` is its value.
* `Double.ofBits`, `Double.toBits` : the interchange encoding. The bits of a magnitude are
  `exponent * 2 ^ 52 + mantissa`, for normal and subnormal numbers alike.
* `Double.ofRatio` : the double nearest to a quotient of natural numbers, ties to even.
* `Double.compare?` : the numeric order; nothing is comparable with what is not a number.
-/

namespace StyleHost

/-- The weight of the leading one of a normal mantissa, which the encoding leaves out. -/
def leadingOne : Nat := 1 <<< 52

theorem leadingOne_eq : leadingOne = 4503599627370496 := by decide

/-- The number of units in one. -/
def unitsPerOne : Nat := 1 <<< 1074

/-- A finite magnitude in normal form: `mantissa * 2 ^ exponent` units of `2 ^ (-1074)`. -/
structure Magnitude where
  /-- At most 53 bits. -/
  mantissa : Nat
  /-- The power of two that the mantissa is scaled by. -/
  exponent : Nat
  mantissa_lt : mantissa < 2 * leadingOne
  exponent_le : exponent ≤ 2045
  normal : exponent = 0 ∨ leadingOne ≤ mantissa
deriving DecidableEq

namespace Magnitude

/-- The value in units of `2 ^ (-1074)`. -/
def units (x : Magnitude) : Nat := x.mantissa <<< x.exponent

/-- The magnitude zero. -/
def zero : Magnitude := ⟨0, 0, by decide, by decide, .inl rfl⟩

/-- The encoding of a magnitude in the low 63 bits. -/
def toNat (x : Magnitude) : Nat := x.exponent * leadingOne + x.mantissa

/-- The magnitude with the given encoding, if that encodes a finite one. -/
def ofNat? (n : Nat) : Option Magnitude :=
  if hs : n < 2 * leadingOne then
    some ⟨n, 0, hs, by decide, .inl rfl⟩
  else if hf : n < 2047 * leadingOne then
    some ⟨n % leadingOne + leadingOne, n / leadingOne - 1, by simp only [leadingOne_eq]; omega,
      by simp only [leadingOne_eq] at hf ⊢; omega, .inr (Nat.le_add_left _ _)⟩
  else none

theorem ofNat?_toNat (x : Magnitude) : ofNat? x.toNat = some x := by
  obtain ⟨m, e, hm, he, hn⟩ := x
  by_cases h0 : e = 0
  · subst h0
    simp only [toNat, ofNat?, Nat.zero_mul, Nat.zero_add, dif_pos hm]
  · have hm' : leadingOne ≤ m := hn.resolve_left h0
    have h1 : ¬ e * leadingOne + m < 2 * leadingOne := by
      simp only [leadingOne_eq] at *
      omega
    have h2 : e * leadingOne + m < 2047 * leadingOne := by
      simp only [leadingOne_eq] at *
      omega
    have h3 : (e * leadingOne + m) % leadingOne + leadingOne = m := by
      simp only [leadingOne_eq] at *
      omega
    have h4 : (e * leadingOne + m) / leadingOne - 1 = e := by
      simp only [leadingOne_eq] at *
      omega
    simp only [toNat, ofNat?, dif_neg h1, dif_pos h2, h3, h4]

end Magnitude

/-- A binary64 number. All values that are not numbers are one value. -/
inductive Double where
  | nan
  | infinite (negative : Bool)
  | finite (negative : Bool) (size : Magnitude)
deriving DecidableEq

namespace Double

/-- Positive zero. -/
def zero : Double := .finite false .zero

/-- Whether this is not a number. -/
def isNaN : Double → Bool
  | .nan => true
  | _ => false

/-- The bit of the encoding that negative numbers have. -/
def signBit : Nat := 1 <<< 63

/-- The number with the given interchange encoding. -/
def ofBits (bits : UInt64) : Double :=
  let negative := decide (signBit ≤ bits.toNat)
  let low := bits.toNat % signBit
  match Magnitude.ofNat? low with
  | some size => .finite negative size
  | none => if low = 2047 * leadingOne then .infinite negative else .nan

/-- The interchange encoding as a natural number below `2 ^ 64`. -/
def bitsNat : Double → Nat
  | .nan => 2047 * leadingOne + leadingOne / 2
  | .infinite negative => (if negative then signBit else 0) + 2047 * leadingOne
  | .finite negative size => (if negative then signBit else 0) + size.toNat

/-- The interchange encoding; a quiet encoding stands for what is not a number. -/
def toBits (x : Double) : UInt64 := UInt64.ofNat x.bitsNat

/-- The signed number of units of a finite double. -/
def signedUnits (negative : Bool) (size : Magnitude) : Int :=
  if negative then -(size.units : Int) else size.units

/-- The numeric order. Both zeros are equal; what is not a number compares with nothing. -/
def compare? : Double → Double → Option Ordering
  | .nan, _ => none
  | _, .nan => none
  | .infinite a, .infinite b => some (if a = b then .eq else if a then .lt else .gt)
  | .infinite a, .finite _ _ => some (if a then .lt else .gt)
  | .finite _ _, .infinite b => some (if b then .gt else .lt)
  | .finite a x, .finite b y => some (compare (signedUnits a x) (signedUnits b y))

/-- The quotient rounded to the nearest integer, a tie to the even neighbour. -/
def roundHalfEven (num den : Nat) : Nat :=
  let q := num / den
  let r := num % den
  if 2 * r < den then q
  else if den < 2 * r then q + 1
  else if q % 2 = 0 then q else q + 1

theorem roundHalfEven_le (num den : Nat) : roundHalfEven num den ≤ num / den + 1 := by
  simp only [roundHalfEven]
  split
  · omega
  · split
    · omega
    · split <;> omega

theorem le_roundHalfEven (num den : Nat) : num / den ≤ roundHalfEven num den := by
  simp only [roundHalfEven]
  split
  · omega
  · split
    · omega
    · split <;> omega

/-- The finite magnitude with this mantissa and exponent, the carry out of the mantissa taken into
the exponent; infinite if the exponent is too large. -/
def ofScaled (negative : Bool) (mantissa exponent : Nat) : Double :=
  if h : mantissa < 2 * leadingOne ∧ exponent ≤ 2045 ∧ (exponent = 0 ∨ leadingOne ≤ mantissa) then
    .finite negative ⟨mantissa, exponent, h.1, h.2.1, h.2.2⟩
  else if h : mantissa = 2 * leadingOne ∧ exponent + 1 ≤ 2045 then
    .finite negative ⟨leadingOne, exponent + 1, by decide, h.2, .inr (by decide)⟩
  else .infinite negative

/-- The double nearest to `num / den` units, a tie to the even neighbour; a quotient beyond the
largest finite double goes to the infinity of its sign. -/
def ofUnits (negative : Bool) (num den : Nat) : Double :=
  let exponent := Nat.log2 (num / den) - 52
  ofScaled negative (roundHalfEven num (den <<< exponent)) exponent

/-- The double nearest to the rational `num / den`, a tie to the even neighbour. -/
def ofRatio (negative : Bool) (num den : Nat) : Double :=
  ofUnits negative (num * unitsPerOne) den

/-- The magnitude as a quotient of natural numbers: numerator and denominator. -/
def ratio (size : Magnitude) : Nat × Nat := (size.units, unitsPerOne)

end Double

end StyleHost
