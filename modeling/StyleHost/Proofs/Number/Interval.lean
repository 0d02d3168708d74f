import StyleHost.Number.Shortest
import StyleHost.Proofs.Number.Rounding

/-!
# The interval of a double

The numbers that are rounded to a double make up an interval around it. Its ends are half way to
the neighbouring doubles, and belong to it just if the mantissa of the double is even. Below the
least mantissa of a binade the neighbour is nearer, but there the even mantissas of both grids meet.

* `Shortest.Interval.Holds` : a number lies in an interval.
* `Shortest.contains_iff` : how it is found out.
* `Shortest.rounds_iff_holds` : the interval of a double is made up of the numbers that are rounded
  to it.
-/

namespace StyleHost

namespace Shortest

variable {i : Interval} {x : Magnitude} {q u t : ℚ} {num den : ℕ} {negative : Bool}

/-- A number of quarters of a unit lies in an interval. -/
def Interval.Holds (i : Interval) (u : ℚ) : Prop :=
  if i.closed then i.low ≤ u ∧ u ≤ i.high else i.low < u ∧ u < i.high

theorem Interval.Holds.bounds (h : i.Holds u) : i.low ≤ u ∧ u ≤ i.high := by
  unfold Interval.Holds at h
  split_ifs at h with hclosed
  · exact h
  · exact ⟨h.1.le, h.2.le⟩

theorem Interval.Holds.of_lt (hlow : i.low < u) (hhigh : u < i.high) : i.Holds u := by
  unfold Interval.Holds
  split_ifs
  · exact ⟨hlow.le, hhigh.le⟩
  · exact ⟨hlow, hhigh⟩

/-- An interval has no gaps. -/
theorem Interval.Holds.between {a b : ℚ} (ha : i.Holds a) (hb : i.Holds b) (hau : a ≤ u)
    (hub : u ≤ b) : i.Holds u := by
  unfold Interval.Holds at *
  split_ifs at * with hclosed
  · exact ⟨ha.1.trans hau, hub.trans hb.2⟩
  · exact ⟨ha.1.trans_le hau, hub.trans_lt hb.2⟩

/-- The value of an interval lies between its ends. -/
structure Interval.Proper (i : Interval) : Prop where
  low_lt : i.low < i.value
  lt_high : i.value < i.high

theorem Interval.Proper.holds_value (h : i.Proper) : i.Holds i.value :=
  .of_lt (by exact_mod_cast h.low_lt) (by exact_mod_cast h.lt_high)

theorem proper_interval (hx : 0 < x.mantissa) : (interval x).Proper := by
  have hgrid : 0 < 2 ^ x.exponent := by positivity
  constructor
  · simp only [interval]
    rw [Nat.shiftLeft_eq, Nat.shiftLeft_eq]
    refine Nat.mul_lt_mul_of_pos_right ?_ hgrid
    split_ifs <;> omega
  · simp only [interval]
    rw [Nat.shiftLeft_eq, Nat.shiftLeft_eq]
    exact Nat.mul_lt_mul_of_pos_right (by omega) hgrid

theorem contains_iff (hden : 0 < den) : i.contains num den = true ↔ i.Holds (num / den) := by
  have hpos : (0 : ℚ) < den := by exact_mod_cast hden
  unfold Interval.contains Interval.Holds
  rw [le_div_iff₀ hpos, div_le_iff₀ hpos, lt_div_iff₀ hpos, div_lt_iff₀ hpos]
  split_ifs <;> simp only [Bool.and_eq_true, decide_eq_true_eq] <;> norm_cast

/-! ### The ends of the interval -/

/-- Whether a double has the nearer neighbour below. -/
def IsLeast (x : Magnitude) : Prop := x.mantissa = leadingOne ∧ x.exponent ≠ 0

theorem high_interval (x : Magnitude) :
    ((interval x).high : ℚ) = (4 * x.mantissa + 2) * 2 ^ x.exponent := by
  simp only [interval]
  rw [Nat.shiftLeft_eq]
  push_cast
  ring

theorem low_of_isLeast (h : IsLeast x) :
    ((interval x).low : ℚ) = (4 * x.mantissa - 1) * 2 ^ x.exponent := by
  have hcond : x.mantissa = leadingOne ∧ x.exponent ≠ 0 := h
  have hm : 1 ≤ 4 * x.mantissa := by
    rw [hcond.1]
    decide
  simp only [interval, if_pos hcond]
  rw [Nat.shiftLeft_eq]
  push_cast [Nat.cast_sub hm]
  ring

theorem low_of_not_isLeast (hx : 0 < x.mantissa) (h : ¬IsLeast x) :
    ((interval x).low : ℚ) = (4 * x.mantissa - 2) * 2 ^ x.exponent := by
  have hcond : ¬(x.mantissa = leadingOne ∧ x.exponent ≠ 0) := h
  have hm : 2 ≤ 4 * x.mantissa := by omega
  simp only [interval, if_neg hcond]
  rw [Nat.shiftLeft_eq]
  push_cast [Nat.cast_sub hm]
  ring

theorem closed_interval : (interval x).closed = true ↔ Even x.mantissa := by
  simp [interval, Nat.even_iff]

/-! ### From the interval to the double -/

/-- Below the least mantissa of a binade the interval ends half as far away. -/
theorem bounds_of_isLeast (hleast : IsLeast x) (h : (interval x).Holds (4 * t * 2 ^ x.exponent)) :
    2 ^ 52 - 1 / 4 ≤ t ∧ t ≤ 2 ^ 52 + 1 / 2 := by
  have hgrid : (0 : ℚ) < 2 ^ x.exponent := by positivity
  have hm : (x.mantissa : ℚ) = 2 ^ 52 := by exact_mod_cast hleast.1.trans leadingOne_eq_two_pow
  have hbounds := h.bounds
  rw [low_of_isLeast hleast, high_interval, mul_le_mul_iff_of_pos_right hgrid,
    mul_le_mul_iff_of_pos_right hgrid, hm] at hbounds
  constructor <;> linarith [hbounds.1, hbounds.2]

/-- Otherwise the ends are half way to both neighbours, and belong to the interval just if the
mantissa is even. -/
theorem isNearestNat_of_holds (hx : 0 < x.mantissa) (hleast : ¬IsLeast x)
    (h : (interval x).Holds (4 * t * 2 ^ x.exponent)) : Double.IsNearestNat x.mantissa t := by
  have hgrid : (0 : ℚ) < 2 ^ x.exponent := by positivity
  unfold Interval.Holds at h
  rw [low_of_not_isLeast hx hleast, high_interval, mul_le_mul_iff_of_pos_right hgrid,
    mul_le_mul_iff_of_pos_right hgrid, mul_lt_mul_iff_of_pos_right hgrid,
    mul_lt_mul_iff_of_pos_right hgrid] at h
  split_ifs at h with heven
  · have hle : |(x.mantissa : ℚ) - t| ≤ 1 / 2 := by
      rw [abs_le]
      constructor <;> linarith
    exact ⟨hle, fun _ => closed_interval.1 heven⟩
  · have hlt : |(x.mantissa : ℚ) - t| < 1 / 2 := by
      rw [abs_lt]
      constructor <;> linarith
    exact ⟨hlt.le, fun htie => absurd htie hlt.ne⟩

theorem rounds_of_isLeast (hleast : IsLeast x)
    (h : (interval x).Holds (4 * t * 2 ^ x.exponent)) :
    Double.Rounds negative (t * 2 ^ x.exponent / unitsPerOne) (.finite negative x) := by
  obtain ⟨hlow, hhigh⟩ := bounds_of_isLeast hleast h
  have hm : x.mantissa = 2 ^ 52 := hleast.1.trans leadingOne_eq_two_pow
  rcases le_or_gt (2 ^ 52) t with hle | hlt
  · have hnear : Double.IsNearestNat x.mantissa t := by
      refine ⟨?_, fun _ => by rw [hm]; decide⟩
      rw [hm, abs_le]
      push_cast
      constructor <;> linarith
    rw [← Double.ofScaled_self]
    exact Double.ofScaled_rounds negative hnear (.inr hle) (by linarith)
  · -- these numbers are on the grid of the binade before, whose steps are half as long
    obtain ⟨e, he⟩ := Nat.exists_eq_succ_of_ne_zero hleast.2
    have hnear : Double.IsNearestNat (2 ^ 53) (2 * t) := by
      refine ⟨?_, fun _ => by decide⟩
      rw [abs_le]
      push_cast
      constructor <;> linarith
    have hsteps : t * 2 ^ x.exponent = 2 * t * 2 ^ e := by
      rw [he, pow_succ]
      ring
    rw [hsteps, ← Double.ofScaled_carry negative hleast.1 he]
    exact Double.ofScaled_rounds negative hnear (.inr (by linarith)) (by linarith)

theorem rounds_of_not_isLeast (hx : 0 < x.mantissa) (hleast : ¬IsLeast x)
    (h : (interval x).Holds (4 * t * 2 ^ x.exponent)) :
    Double.Rounds negative (t * 2 ^ x.exponent / unitsPerOne) (.finite negative x) := by
  have hnear := isNearestNat_of_holds hx hleast h
  have hsub := abs_le.1 hnear.near
  have hlow : x.exponent = 0 ∨ (2 : ℚ) ^ 52 ≤ t := by
    by_cases he : x.exponent = 0
    · exact .inl he
    have hgt : 2 ^ 52 + 1 ≤ x.mantissa := by
      rw [← leadingOne_eq_two_pow]
      exact lt_of_le_of_ne (x.normal.resolve_left he) fun heq => hleast ⟨heq.symm, he⟩
    have hgt' : (2 : ℚ) ^ 52 + 1 ≤ x.mantissa := by exact_mod_cast hgt
    exact .inr (by linarith)
  have hhigh : (x.mantissa : ℚ) + 1 ≤ 2 ^ 53 := by exact_mod_cast x.mantissa_lt_two_pow
  rw [← Double.ofScaled_self]
  exact Double.ofScaled_rounds negative hnear hlow (by linarith)

/-- **The numbers in the interval of a double are rounded to it.** -/
theorem rounds_of_holds (hx : 0 < x.mantissa) (h : (interval x).Holds (q * perOne)) :
    Double.Rounds negative q (.finite negative x) := by
  have hunits : (0 : ℚ) < unitsPerOne := by exact_mod_cast unitsPerOne_pos
  -- the number counted in steps of the grid of the double
  obtain ⟨t, rfl⟩ : ∃ t, q = t * 2 ^ x.exponent / unitsPerOne :=
    ⟨q * unitsPerOne / 2 ^ x.exponent, by field_simp⟩
  have hquarters : t * 2 ^ x.exponent / unitsPerOne * perOne = 4 * t * 2 ^ x.exponent := by
    rw [perOne]
    push_cast
    field_simp
  rw [hquarters] at h
  by_cases hleast : IsLeast x
  · exact rounds_of_isLeast hleast h
  · exact rounds_of_not_isLeast hx hleast h

/-! ### From the double to the interval -/

/-- The next magnitude, if there is one. -/
theorem exists_above (x : Magnitude) : (∃ y : Magnitude, y.units = x.units + 2 ^ x.exponent) ∨
    x.mantissa + 1 = 2 ^ 53 ∧ x.exponent = 2045 := by
  have hlt := x.mantissa_lt
  have hexp := x.exponent_le
  have hcarry : 2 * leadingOne = 2 ^ 53 := by decide
  rcases Nat.lt_or_ge (x.mantissa + 1) (2 * leadingOne) with hm | hm
  · refine .inl ⟨⟨x.mantissa + 1, x.exponent, hm, hexp, x.normal.imp_right Nat.le_succ_of_le⟩, ?_⟩
    simp only [Magnitude.units_eq, Nat.add_mul, Nat.one_mul]
  rcases Nat.lt_or_ge x.exponent 2045 with he | he
  · refine .inl ⟨⟨leadingOne, x.exponent + 1, by decide, he, .inr le_rfl⟩, ?_⟩
    have hlast : x.mantissa + 1 = 2 * leadingOne := by omega
    rw [Magnitude.units_eq, Magnitude.units_eq]
    calc leadingOne * 2 ^ (x.exponent + 1)
        = 2 * leadingOne * 2 ^ x.exponent := by ring
      _ = x.mantissa * 2 ^ x.exponent + 2 ^ x.exponent := by rw [← hlast]; ring
  · exact .inr ⟨by omega, by omega⟩

/-- The magnitude before one that is not the least of its binade. -/
theorem exists_below (hx : 0 < x.mantissa) (h : ¬IsLeast x) :
    ∃ y : Magnitude, y.units + 2 ^ x.exponent = x.units := by
  have hlt := x.mantissa_lt
  have hnormal : x.exponent = 0 ∨ leadingOne ≤ x.mantissa - 1 := by
    by_cases he : x.exponent = 0
    · exact .inl he
    · have hle := x.normal.resolve_left he
      have hne : x.mantissa ≠ leadingOne := fun hm => h ⟨hm, he⟩
      exact .inr (by omega)
  refine ⟨⟨x.mantissa - 1, x.exponent, by omega, x.exponent_le, hnormal⟩, ?_⟩
  rw [Magnitude.units_eq, Magnitude.units_eq, ← Nat.succ_mul]
  dsimp only
  rw [Nat.succ_eq_add_one, Nat.sub_add_cancel hx]

/-- The magnitude before the least one of a binade. -/
theorem exists_below_of_isLeast (h : IsLeast x) :
    ∃ y : Magnitude, 2 * y.units + 2 ^ x.exponent = 2 * x.units := by
  have hexp := x.exponent_le
  obtain ⟨e, he⟩ := Nat.exists_eq_succ_of_ne_zero h.2
  have hlast : 2 * leadingOne - 1 + 1 = 2 * leadingOne := by decide
  refine ⟨⟨2 * leadingOne - 1, e, by decide, by omega, .inr (by decide)⟩, ?_⟩
  rw [Magnitude.units_eq, Magnitude.units_eq, h.1, he]
  calc 2 * ((2 * leadingOne - 1) * 2 ^ e) + 2 ^ (e + 1)
      = (2 * leadingOne - 1 + 1) * 2 ^ (e + 1) := by ring
    _ = 2 * (leadingOne * 2 ^ (e + 1)) := by rw [hlast]; ring

section

variable {v : ℚ}

/-- What is rounded to a double is not above its interval, and at the end only if the mantissa is
even. -/
theorem le_high_of_isNearest (hq : v / unitsPerOne < Double.overflow)
    (h : x.IsNearest (v / unitsPerOne)) :
    4 * v ≤ (interval x).high ∧ (4 * v = (interval x).high → Even x.mantissa) := by
  have hgrid : (0 : ℚ) < 2 ^ x.exponent := by positivity
  rw [high_interval]
  rcases exists_above x with ⟨y, hy⟩ | ⟨hm, he⟩
  · have hxy : x.units < y.units := by
      rw [hy]
      exact Nat.lt_add_of_pos_right (by positivity)
    have hmiddle : (x.units : ℚ) + y.units = (2 * x.mantissa + 1) * 2 ^ x.exponent := by
      rw [hy, Magnitude.units_eq]
      push_cast
      ring
    have hle := h.two_mul_le hxy
    refine ⟨by linarith, fun hend => h.even_of_middle hxy.ne' (by linarith)⟩
  · -- there is no greater magnitude, but numbers at the end are rounded to infinity
    have hlt : v < (2 ^ 53 - 1 / 2) * 2 ^ x.exponent := by
      have hv : v * 2 ^ 0 / unitsPerOne < Double.overflow := by rwa [pow_zero, mul_one]
      rw [he]
      simpa using Double.lt_overflow_iff.1 hv
    have hm' : (x.mantissa : ℚ) = 2 ^ 53 - 1 := by
      have : (x.mantissa : ℚ) + 1 = 2 ^ 53 := by exact_mod_cast hm
      linarith
    rw [hm']
    have hlt' : 4 * v < (4 * (2 ^ 53 - 1) + 2) * 2 ^ x.exponent := by linarith
    exact ⟨hlt'.le, fun hend => absurd hend hlt'.ne⟩

/-- What is rounded to a double is not below its interval, and at the end only if the mantissa is
even. -/
theorem low_le_of_isNearest (hx : 0 < x.mantissa) (h : x.IsNearest (v / unitsPerOne)) :
    (interval x).low ≤ 4 * v ∧ (4 * v = (interval x).low → Even x.mantissa) := by
  have hgrid : (0 : ℚ) < 2 ^ x.exponent := by positivity
  have hstep : 0 < 2 ^ x.exponent := by positivity
  have hunits : (x.units : ℚ) = x.mantissa * 2 ^ x.exponent := by
    rw [Magnitude.units_eq]
    push_cast
    rfl
  by_cases hleast : IsLeast x
  · obtain ⟨y, hy⟩ := exists_below_of_isLeast hleast
    have hy' : 2 * (y.units : ℚ) + 2 ^ x.exponent = 2 * x.units := by exact_mod_cast hy
    have hle := h.le_two_mul (y := y) (by omega)
    rw [low_of_isLeast hleast]
    exact ⟨by linarith, fun hend => h.even_of_middle (y := y) (by omega) (by linarith)⟩
  · obtain ⟨y, hy⟩ := exists_below hx hleast
    have hy' : (y.units : ℚ) + 2 ^ x.exponent = x.units := by exact_mod_cast hy
    have hle := h.le_two_mul (y := y) (by omega)
    rw [low_of_not_isLeast hx hleast]
    exact ⟨by linarith, fun hend => h.even_of_middle (y := y) (by omega) (by linarith)⟩

end

/-- **The numbers that are rounded to a double lie in its interval.** -/
theorem holds_of_rounds (hx : 0 < x.mantissa)
    (h : Double.Rounds negative q (.finite negative x)) : (interval x).Holds (q * perOne) := by
  have hunits : (0 : ℚ) < unitsPerOne := by exact_mod_cast unitsPerOne_pos
  obtain ⟨v, rfl⟩ : ∃ v, q = v / unitsPerOne := ⟨q * unitsPerOne, by field_simp⟩
  have hquarters : v / unitsPerOne * perOne = 4 * v := by
    rw [perOne]
    push_cast
    field_simp
  rw [hquarters]
  cases h with
  | finite hq hsize =>
    obtain ⟨hhigh, hhighEnd⟩ := le_high_of_isNearest hq hsize
    obtain ⟨hlow, hlowEnd⟩ := low_le_of_isNearest hx hsize
    unfold Interval.Holds
    split_ifs with hclosed
    · exact ⟨hlow, hhigh⟩
    · rw [closed_interval] at hclosed
      exact ⟨lt_of_le_of_ne hlow fun heq => hclosed (hlowEnd heq.symm),
        lt_of_le_of_ne hhigh fun heq => hclosed (hhighEnd heq)⟩

/-- **The interval of a double** is made up of the numbers that are rounded to it. -/
theorem rounds_iff_holds (hx : 0 < x.mantissa) :
    Double.Rounds negative q (.finite negative x) ↔ (interval x).Holds (q * perOne) :=
  ⟨holds_of_rounds hx, rounds_of_holds hx⟩

end Shortest

end StyleHost
