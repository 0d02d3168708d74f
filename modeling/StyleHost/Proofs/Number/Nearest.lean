import Mathlib.Algebra.Order.Field.Basic
import Mathlib.Algebra.Order.Group.Abs
import Mathlib.Algebra.Order.Field.Rat
import Mathlib.Algebra.Ring.Parity
import Mathlib.Data.Nat.Log
import Mathlib.Tactic.FieldSimp
import Mathlib.Tactic.Linarith
import Mathlib.Tactic.NormNum
import Mathlib.Tactic.Positivity
import Mathlib.Tactic.Ring
import StyleHost.Number.Double

/-!
# The nearest magnitude

The doubles of one binade lie on a grid, and all larger ones lie on that grid as well. Smaller ones
are closer together, but the least number of the binade is nearer to what lies in it than any of
them. So a quotient is rounded on the grid of its own binade only, and the result is the nearest of
all doubles.

* `Double.isNearestNat_roundHalfEven` : the nearest integer to a quotient.
* `Magnitude.IsNearest` : the nearest of all magnitudes, a tie to the even mantissa.
* `Magnitude.isNearest_of_grid` : the nearest place on the grid of a binade is nearest of all.
* `Magnitude.IsNearest.unique` : a number has one nearest magnitude.
-/

namespace StyleHost

theorem leadingOne_eq_two_pow : leadingOne = 2 ^ 52 := by decide

theorem unitsPerOne_eq_two_pow : unitsPerOne = 2 ^ 1074 := by
  have h (n : ℕ) : 1 <<< n = 2 ^ n := Nat.one_shiftLeft n
  exact h 1074

theorem unitsPerOne_pos : 0 < unitsPerOne := by
  rw [unitsPerOne_eq_two_pow]
  exact pow_pos two_pos _

/-! ### The nearest integer -/

namespace Double

variable {num den m : ℕ} {t : ℚ}

/-- `m` is the nearest integer to `t`, a tie to the even neighbour. -/
structure IsNearestNat (m : ℕ) (t : ℚ) : Prop where
  near : |(m : ℚ) - t| ≤ 1 / 2
  even : |(m : ℚ) - t| = 1 / 2 → Even m

theorem isNearestNat_roundHalfEven (hden : 0 < den) :
    IsNearestNat (roundHalfEven num den) (num / den) := by
  have hpos : (0 : ℚ) < den := by exact_mod_cast hden
  have hsplit : (num : ℚ) / den = (num / den : ℕ) + (num % den : ℕ) / den := by
    have h : ((den * (num / den) + num % den : ℕ) : ℚ) = num := by rw [Nat.div_add_mod]
    rw [← h]
    push_cast
    field_simp
  have hrest : (0 : ℚ) ≤ (num % den : ℕ) / den := by positivity
  have hhalf (hless : ¬2 * (num % den) < den) (hmore : ¬den < 2 * (num % den)) :
      ((num % den : ℕ) : ℚ) / den = 1 / 2 := by
    rw [div_eq_div_iff hpos.ne' two_ne_zero]
    exact_mod_cast (by omega : num % den * 2 = 1 * den)
  rw [hsplit]
  unfold roundHalfEven
  dsimp only
  split_ifs with hless hmore heven
  · -- the rest is less than one half
    have h : ((num % den : ℕ) : ℚ) / den < 1 / 2 := by
      rw [div_lt_div_iff₀ hpos two_pos]
      exact_mod_cast (by omega : num % den * 2 < 1 * den)
    have habs : |((num / den : ℕ) : ℚ) - ((num / den : ℕ) + (num % den : ℕ) / den)| < 1 / 2 := by
      rw [abs_lt]
      constructor <;> linarith
    exact ⟨habs.le, fun htie => absurd htie habs.ne⟩
  · -- the rest is more than one half
    have h : 1 / 2 < ((num % den : ℕ) : ℚ) / den := by
      rw [div_lt_div_iff₀ two_pos hpos]
      exact_mod_cast (by omega : 1 * den < num % den * 2)
    have hlt : ((num % den : ℕ) : ℚ) / den < 1 := by
      rw [div_lt_one hpos]
      exact_mod_cast Nat.mod_lt num hden
    have habs : |((num / den + 1 : ℕ) : ℚ) - ((num / den : ℕ) + (num % den : ℕ) / den)| <
        1 / 2 := by
      push_cast
      rw [abs_lt]
      constructor <;> linarith
    exact ⟨habs.le, fun htie => absurd htie habs.ne⟩
  · refine ⟨?_, fun _ => Nat.even_iff.2 heven⟩
    rw [hhalf hless hmore, abs_le]
    constructor <;> linarith
  · refine ⟨?_, fun _ => Nat.even_iff.2 (by omega)⟩
    push_cast
    rw [hhalf hless hmore, abs_le]
    constructor <;> linarith

/-- Two different integers are one apart. -/
theorem one_le_abs_sub_add_abs_sub {k : ℕ} (hne : k ≠ m) (t : ℚ) :
    1 ≤ |(k : ℚ) - t| + |(m : ℚ) - t| := by
  have hapart : (1 : ℚ) ≤ |(k : ℚ) - m| := by
    exact_mod_cast Int.one_le_abs (show (k : ℤ) - m ≠ 0 by omega)
  have htriangle : |(k : ℚ) - m| ≤ |(k : ℚ) - t| + |(m : ℚ) - t| := by
    rw [abs_sub_comm (m : ℚ) t]
    exact abs_sub_le _ _ _
  exact hapart.trans htriangle

namespace IsNearestNat

theorem abs_sub_le_abs_sub (h : IsNearestNat m t) (k : ℕ) : |(m : ℚ) - t| ≤ |(k : ℚ) - t| := by
  rcases eq_or_ne k m with rfl | hne
  · exact le_rfl
  · linarith [h.near, one_le_abs_sub_add_abs_sub hne t]

theorem even_of_tie (h : IsNearestNat m t) {k : ℕ} (hne : k ≠ m)
    (htie : |(k : ℚ) - t| = |(m : ℚ) - t|) : Even m := by
  have hapart := one_le_abs_sub_add_abs_sub hne t
  exact h.even (le_antisymm h.near (by linarith))

theorem le_of_lt (h : IsNearestNat m t) {n : ℕ} (ht : t < n) : m ≤ n := by
  have hsub := (abs_le.1 h.near).2
  have hlt : (m : ℚ) < (n + 1 : ℕ) := by
    push_cast
    linarith
  exact Nat.lt_succ_iff.1 (by exact_mod_cast hlt)

theorem le_of_le (h : IsNearestNat m t) {n : ℕ} (ht : (n : ℚ) ≤ t) : n ≤ m := by
  have hsub := (abs_le.1 h.near).1
  have hlt : (n : ℚ) < (m + 1 : ℕ) := by
    push_cast
    linarith
  exact Nat.lt_succ_iff.1 (by exact_mod_cast hlt)

end IsNearestNat

end Double

/-! ### Magnitudes on the grids -/

namespace Magnitude

variable {x y : Magnitude} {q u t : ℚ} {m e : ℕ}

/-- The rational number that a magnitude stands for. -/
def value (x : Magnitude) : ℚ := x.units / unitsPerOne

theorem units_eq (x : Magnitude) : x.units = x.mantissa * 2 ^ x.exponent := Nat.shiftLeft_eq _ _

theorem mantissa_lt_two_pow (x : Magnitude) : x.mantissa < 2 ^ 53 := by
  have h := x.mantissa_lt
  rw [leadingOne_eq_two_pow] at h
  omega

/-- A magnitude with a smaller exponent is smaller than all of a binade. -/
theorem units_lt_of_exponent_lt (h : x.exponent < e) : x.units < 2 ^ 52 * 2 ^ e := by
  have hgrid : 0 < 2 ^ x.exponent := by positivity
  rw [units_eq]
  calc x.mantissa * 2 ^ x.exponent
      < 2 ^ 53 * 2 ^ x.exponent := Nat.mul_lt_mul_of_pos_right x.mantissa_lt_two_pow hgrid
    _ = 2 ^ 52 * 2 ^ (x.exponent + 1) := by rw [pow_succ]; ring
    _ ≤ 2 ^ 52 * 2 ^ e := Nat.mul_le_mul_left _ (Nat.pow_le_pow_right (by decide) h)

/-- A magnitude that is not on a grid is smaller than the binade of that grid. -/
theorem dvd_units_or_lt (x : Magnitude) (e : ℕ) :
    2 ^ e ∣ x.units ∨ 0 < e ∧ x.units < 2 ^ 52 * 2 ^ e := by
  rcases Nat.lt_or_ge x.exponent e with h | h
  · exact .inr ⟨Nat.zero_lt_of_lt h, units_lt_of_exponent_lt h⟩
  · rw [units_eq]
    exact .inl (dvd_mul_of_dvd_right (pow_dvd_pow 2 h) _)

theorem units_lt_units (h : x.exponent < y.exponent) : x.units < y.units := by
  have hy : 2 ^ 52 ≤ y.mantissa := by
    rw [← leadingOne_eq_two_pow]
    exact y.normal.resolve_left (Nat.ne_zero_of_lt h)
  rw [units_eq y]
  exact (units_lt_of_exponent_lt h).trans_le (Nat.mul_le_mul_right _ hy)

/-- The normal form is unique. -/
theorem units_injective (h : x.units = y.units) : x = y := by
  rcases Nat.lt_trichotomy x.exponent y.exponent with hlt | heq | hgt
  · exact absurd h (units_lt_units hlt).ne
  · rw [units_eq, units_eq, heq] at h
    have hm : x.mantissa = y.mantissa := Nat.eq_of_mul_eq_mul_right (by positivity) h
    cases x
    cases y
    simp_all
  · exact absurd h (units_lt_units hgt).ne'

/-! ### The nearest magnitude -/

/-- `x` is the nearest of all magnitudes to `q`, and if another one is as near then the mantissa of
`x` is even. -/
structure IsNearest (x : Magnitude) (q : ℚ) : Prop where
  abs_sub_le : ∀ y : Magnitude, |x.value - q| ≤ |y.value - q|
  even : ∀ y : Magnitude, y ≠ x → |y.value - q| = |x.value - q| → Even x.mantissa

theorem abs_value_sub (x : Magnitude) (u : ℚ) :
    |x.value - u / unitsPerOne| = |(x.units : ℚ) - u| / unitsPerOne := by
  have hpos : (0 : ℚ) < unitsPerOne := by exact_mod_cast unitsPerOne_pos
  rw [value, ← sub_div, abs_div, abs_of_pos hpos]

/-- Nearness counted in units. -/
theorem isNearest_iff : x.IsNearest (u / unitsPerOne) ↔
    ∀ y : Magnitude, |(x.units : ℚ) - u| ≤ |(y.units : ℚ) - u| ∧
      (y ≠ x → |(y.units : ℚ) - u| = |(x.units : ℚ) - u| → Even x.mantissa) := by
  have hpos : (0 : ℚ) < unitsPerOne := by exact_mod_cast unitsPerOne_pos
  have hle (y : Magnitude) : |x.value - u / unitsPerOne| ≤ |y.value - u / unitsPerOne| ↔
      |(x.units : ℚ) - u| ≤ |(y.units : ℚ) - u| := by
    rw [abs_value_sub, abs_value_sub, div_le_div_iff_of_pos_right hpos]
  have heq (y : Magnitude) : |y.value - u / unitsPerOne| = |x.value - u / unitsPerOne| ↔
      |(y.units : ℚ) - u| = |(x.units : ℚ) - u| := by
    rw [abs_value_sub, abs_value_sub, div_left_inj' hpos.ne']
  constructor
  · intro h y
    exact ⟨(hle y).1 (h.abs_sub_le y), fun hne htie => h.even y hne ((heq y).2 htie)⟩
  · intro h
    exact ⟨fun y => (hle y).2 (h y).1, fun y hne htie => (h y).2 hne ((heq y).1 htie)⟩

/-- A number is on the side of its nearest magnitude of the middle between that and another one. -/
theorem IsNearest.middle (h : x.IsNearest (u / unitsPerOne)) (y : Magnitude) :
    0 ≤ ((y.units : ℚ) - x.units) * (x.units + y.units - 2 * u) := by
  have hsquares := sq_le_sq.2 (isNearest_iff.1 h y).1
  have hfactors : ((y.units : ℚ) - x.units) * (x.units + y.units - 2 * u) =
      (y.units - u) ^ 2 - (x.units - u) ^ 2 := by ring
  rw [hfactors]
  linarith

theorem IsNearest.two_mul_le (h : x.IsNearest (u / unitsPerOne)) (hxy : x.units < y.units) :
    2 * u ≤ x.units + y.units := by
  have hxy' : (0 : ℚ) < y.units - x.units := sub_pos.2 (by exact_mod_cast hxy)
  linarith [nonneg_of_mul_nonneg_right (h.middle y) hxy']

theorem IsNearest.le_two_mul (h : x.IsNearest (u / unitsPerOne)) (hyx : y.units < x.units) :
    (x.units : ℚ) + y.units ≤ 2 * u := by
  have hyx' : (y.units : ℚ) - x.units < 0 := sub_neg.2 (by exact_mod_cast hyx)
  linarith [nonpos_of_mul_nonneg_right (h.middle y) hyx']

theorem IsNearest.even_of_middle (h : x.IsNearest (u / unitsPerOne)) (hne : y.units ≠ x.units)
    (hmiddle : 2 * u = x.units + y.units) : Even x.mantissa := by
  have hopposite : (y.units : ℚ) - u = -(x.units - u) := by linarith
  exact (isNearest_iff.1 h y).2 (fun heq => hne (heq ▸ rfl)) (by rw [hopposite, abs_neg])

/-- For each magnitude there is a place on a grid that is at least as near to a number of the
binade, and just as near only if the magnitude is at that place. -/
theorem exists_on_grid (y : Magnitude) (hbinade : e = 0 ∨ 2 ^ 52 ≤ t) :
    ∃ k : ℕ, |(k : ℚ) - t| * 2 ^ e ≤ |(y.units : ℚ) - t * 2 ^ e| ∧
      (|(y.units : ℚ) - t * 2 ^ e| = |(k : ℚ) - t| * 2 ^ e → y.units = k * 2 ^ e) := by
  have hpos : (0 : ℚ) < 2 ^ e := by positivity
  have hscale (k : ℕ) : |((k * 2 ^ e : ℕ) : ℚ) - t * 2 ^ e| = |(k : ℚ) - t| * 2 ^ e := by
    push_cast
    rw [← sub_mul, abs_mul, abs_of_pos hpos]
  rcases y.dvd_units_or_lt e with ⟨k, hk⟩ | ⟨he, hlt⟩
  · have hunits : y.units = k * 2 ^ e := hk.trans (Nat.mul_comm _ _)
    refine ⟨k, ?_, fun _ => hunits⟩
    rw [hunits, hscale]
  · -- the least number of the binade lies between the magnitude and the number
    have ht : (2 : ℚ) ^ 52 ≤ t := hbinade.resolve_left he.ne'
    have hle : (2 : ℚ) ^ 52 * 2 ^ e ≤ t * 2 ^ e := mul_le_mul_of_nonneg_right ht hpos.le
    have hlt' : (y.units : ℚ) < 2 ^ 52 * 2 ^ e := by exact_mod_cast hlt
    have hless : |((2 ^ 52 : ℕ) : ℚ) - t| * 2 ^ e < |(y.units : ℚ) - t * 2 ^ e| := by
      rw [← hscale]
      push_cast
      rw [abs_of_nonpos (by linarith), abs_of_nonpos (by linarith)]
      linarith
    exact ⟨2 ^ 52, hless.le, fun htie => absurd htie hless.ne'⟩

/-- **Rounding on the grid of the binade finds the nearest magnitude.** -/
theorem isNearest_of_grid (hunits : x.units = m * 2 ^ e) (hm : Double.IsNearestNat m t)
    (hbinade : e = 0 ∨ 2 ^ 52 ≤ t) (heven : Even m → Even x.mantissa) :
    x.IsNearest (t * 2 ^ e / unitsPerOne) := by
  have hpos : (0 : ℚ) < 2 ^ e := by positivity
  have hx : |(x.units : ℚ) - t * 2 ^ e| = |(m : ℚ) - t| * 2 ^ e := by
    rw [hunits]
    push_cast
    rw [← sub_mul, abs_mul, abs_of_pos hpos]
  rw [isNearest_iff]
  intro y
  obtain ⟨k, hle, hplace⟩ := y.exists_on_grid hbinade
  have hnear : |(m : ℚ) - t| * 2 ^ e ≤ |(k : ℚ) - t| * 2 ^ e :=
    mul_le_mul_of_nonneg_right (hm.abs_sub_le_abs_sub k) hpos.le
  rw [hx]
  refine ⟨hnear.trans hle, fun hne htie => heven ?_⟩
  have hk : |(k : ℚ) - t| * 2 ^ e = |(m : ℚ) - t| * 2 ^ e :=
    le_antisymm (hle.trans htie.le) hnear
  have hkm : k ≠ m := by
    rintro rfl
    exact hne (units_injective ((hplace htie).trans hunits.symm))
  exact hm.even_of_tie hkm (mul_right_cancel₀ hpos.ne' hk)

/-- The magnitude after one with an even mantissa. -/
theorem exists_next (x : Magnitude) (h : Even x.mantissa) : ∃ z : Magnitude,
    z.units = x.units + 2 ^ x.exponent ∧ ¬Even z.mantissa ∧
      ∀ y : Magnitude, x.units < y.units → z.units ≤ y.units := by
  have hlt := x.mantissa_lt
  have hnormal : x.exponent = 0 ∨ leadingOne ≤ x.mantissa + 1 :=
    x.normal.imp_right fun hle => Nat.le_succ_of_le hle
  have hcarry : x.mantissa + 1 < 2 * leadingOne := by
    obtain ⟨k, hk⟩ := h
    omega
  refine ⟨⟨x.mantissa + 1, x.exponent, hcarry, x.exponent_le, hnormal⟩, ?_, ?_, fun y hy => ?_⟩
  · simp only [units_eq, Nat.add_mul, Nat.one_mul]
  · simpa [Nat.even_add_one] using h
  simp only [units_eq _, Nat.add_mul, Nat.one_mul] at hy ⊢
  rcases y.dvd_units_or_lt x.exponent with ⟨k, hk⟩ | ⟨he, hless⟩
  · rw [← units_eq y, hk, Nat.mul_comm (2 ^ x.exponent) k] at hy ⊢
    have hmk := Nat.lt_of_mul_lt_mul_right hy
    calc x.mantissa * 2 ^ x.exponent + 2 ^ x.exponent
        = (x.mantissa + 1) * 2 ^ x.exponent := by rw [Nat.add_mul, Nat.one_mul]
      _ ≤ k * 2 ^ x.exponent := Nat.mul_le_mul_right _ hmk
  · -- a smaller binade has no greater number
    have hx : 2 ^ 52 ≤ x.mantissa := by
      rw [← leadingOne_eq_two_pow]
      exact x.normal.resolve_left he.ne'
    rw [units_eq] at hless
    have := Nat.mul_le_mul_right (2 ^ x.exponent) hx
    omega

/-- **There is only one nearest magnitude.** The middle between two of them would be equally near to
both, and so both would have even mantissas; but then the one after the smaller is nearer. -/
theorem IsNearest.unique (hx : x.IsNearest q) (hy : y.IsNearest q) : x = y := by
  have hpos : (0 : ℚ) < unitsPerOne := by exact_mod_cast unitsPerOne_pos
  obtain ⟨u, rfl⟩ : ∃ u, q = u / unitsPerOne := ⟨q * unitsPerOne, by field_simp⟩
  -- it is enough to look at the smaller one of the two
  wlog hlt : x.units < y.units generalizing x y
  · rcases Nat.lt_or_eq_of_le (Nat.le_of_not_lt hlt) with hgt | heq
    · exact (this hy hx hgt).symm
    · exact (units_injective heq).symm
  have hmiddle : 2 * u = x.units + y.units :=
    le_antisymm (hx.two_mul_le hlt) (by linarith [hy.le_two_mul hlt])
  obtain ⟨z, hz, hodd, hnext⟩ := x.exists_next (hx.even_of_middle hlt.ne' hmiddle)
  have hxz : x.units < z.units := by
    rw [hz]
    exact Nat.lt_add_of_pos_right (by positivity)
  have hzy : z.units < y.units := by
    refine lt_of_le_of_ne (hnext y hlt) fun heq => hodd ?_
    rw [units_injective heq]
    exact hy.even_of_middle hlt.ne (by linarith)
  have hzy' : (z.units : ℚ) < y.units := by exact_mod_cast hzy
  linarith [hx.two_mul_le hxz]

end Magnitude

end StyleHost
