import StyleHost.Proofs.Number.Nearest

/-!
# Rounding to a double

A number is rounded to the nearest double, and a tie goes to the even mantissa. From half way
between the largest finite double and the next power of two on it is rounded to infinity. The sign
is kept, also that of zero and of infinity.

* `Double.Rounds` : what a number is rounded to, given its sign and its size.
* `Double.ofRatio_rounds` : a quotient is rounded so.
* `Double.Rounds.unique` : a number is rounded to one double only.
-/

namespace StyleHost

namespace Double

variable {negative : Bool} {q t : ℚ} {x y : Double} {num den m e : ℕ}

/-- Half way between the largest finite double and `2 ^ 1024`. -/
def overflow : ℚ := 2 ^ 1024 - 2 ^ 970

/-- What a number is rounded to, given its sign and its size `q`. -/
inductive Rounds (negative : Bool) (q : ℚ) : Double → Prop
  | finite {size : Magnitude} (hq : q < overflow) (hsize : size.IsNearest q) :
    Rounds negative q (.finite negative size)
  | infinite (hq : overflow ≤ q) : Rounds negative q (.infinite negative)

/-- **A number is rounded to one double only.** -/
theorem Rounds.unique (hx : Rounds negative q x) (hy : Rounds negative q y) : x = y := by
  cases hx with
  | finite hq hsize =>
    cases hy with
    | finite _ hsize' => rw [hsize.unique hsize']
    | infinite hq' => exact absurd hq (not_lt.2 hq')
  | infinite hq =>
    cases hy with
    | finite hq' _ => exact absurd hq' (not_lt.2 hq)
    | infinite _ => rfl

theorem Rounds.ne_nan (h : Rounds negative q x) : x ≠ .nan := by
  rintro rfl
  cases h

/-- The overflow counted in units: half a step behind the last place of the last binade. -/
theorem overflow_eq : overflow = (2 ^ 53 - 1 / 2) * 2 ^ 2045 / unitsPerOne := by
  have h (d k : ℕ) : (2 : ℚ) ^ (54 + k) - 2 ^ k = (2 ^ 53 - 1 / 2) * 2 ^ (1 + k + d) / 2 ^ d := by
    field_simp
    ring
  rw [unitsPerOne_eq_two_pow, Nat.cast_pow, Nat.cast_ofNat]
  exact h 1074 970

theorem lt_overflow_iff : t * 2 ^ e / unitsPerOne < overflow ↔
    t * 2 ^ e < (2 ^ 53 - 1 / 2) * 2 ^ 2045 := by
  have hpos : (0 : ℚ) < unitsPerOne := by exact_mod_cast unitsPerOne_pos
  rw [overflow_eq, div_lt_div_iff_of_pos_right hpos]

/-- The last place of a binade is odd, so that a tie behind it goes on to the next binade. -/
theorem lt_of_isNearestNat (hm : IsNearestNat m t) (h : m < 2 ^ 53) : t < 2 ^ 53 - 1 / 2 := by
  have hle : (m : ℚ) + 1 ≤ 2 ^ 53 := by exact_mod_cast h
  have hsub := (abs_le.1 hm.near).1
  refine lt_of_le_of_ne (by linarith) fun htie => ?_
  have hlast : (m : ℚ) + 1 = 2 ^ 53 := le_antisymm hle (by linarith)
  have hcast : m + 1 = 2 ^ 53 := by exact_mod_cast hlast
  have hhalf : |(m : ℚ) - t| = 1 / 2 := by
    have : (m : ℚ) = 2 ^ 53 - 1 := by linarith
    rw [this, htie]
    norm_num
  have heven : Even (m + 1) := by
    rw [hcast]
    decide
  exact Nat.even_add_one.1 heven (hm.even hhalf)

/-- What a place on the grid of a binade amounts to as a double. -/
theorem ofScaled_rounds (negative : Bool) (hm : IsNearestNat m t) (hlow : e = 0 ∨ 2 ^ 52 ≤ t)
    (hhigh : t < 2 ^ 53) :
    Rounds negative (t * 2 ^ e / unitsPerOne) (ofScaled negative m e) := by
  have hmle : m ≤ 2 ^ 53 := hm.le_of_lt (by exact_mod_cast hhigh)
  have hmge : e = 0 ∨ 2 ^ 52 ≤ m := hlow.imp_right fun h => hm.le_of_le (by exact_mod_cast h)
  have hgrow {a b : ℕ} (h : a ≤ b) : (2 : ℚ) ^ a ≤ 2 ^ b := pow_le_pow_right₀ one_le_two h
  have hpos (n : ℕ) : (0 : ℚ) < 2 ^ n := by positivity
  have hcarried (n : ℕ) : (2 : ℚ) ^ 53 * 2 ^ n = 2 ^ 52 * 2 ^ (n + 1) := by ring
  rw [ofScaled]
  simp only [leadingOne_eq_two_pow]
  split_ifs with hplain hcarry
  · have ht := lt_of_isNearestNat hm (by omega)
    refine .finite (lt_overflow_iff.2 ?_) (Magnitude.isNearest_of_grid ?_ hm hlow id)
    · calc t * 2 ^ e < (2 ^ 53 - 1 / 2) * 2 ^ e := mul_lt_mul_of_pos_right ht (hpos e)
        _ ≤ (2 ^ 53 - 1 / 2) * 2 ^ 2045 :=
          mul_le_mul_of_nonneg_left (hgrow hplain.2.1) (by norm_num)
    · exact Magnitude.units_eq _
  · obtain ⟨rfl, he⟩ : m = 2 ^ 53 ∧ e + 1 ≤ 2045 := ⟨by omega, hcarry.2⟩
    refine .finite (lt_overflow_iff.2 ?_) (Magnitude.isNearest_of_grid ?_ hm hlow fun _ => ?_)
    · calc t * 2 ^ e < 2 ^ 53 * 2 ^ e := mul_lt_mul_of_pos_right hhigh (hpos e)
        _ = 2 ^ 52 * 2 ^ (e + 1) := hcarried e
        _ ≤ 2 ^ 52 * 2 ^ 2045 := mul_le_mul_of_nonneg_left (hgrow he) (by norm_num)
        _ < (2 ^ 53 - 1 / 2) * 2 ^ 2045 := mul_lt_mul_of_pos_right (by norm_num) (hpos 2045)
    · rw [Magnitude.units_eq]
      simp only [pow_succ]
      ring
    · exact (by decide : Even (2 ^ 52))
  · refine .infinite (not_lt.1 (mt lt_overflow_iff.1 (not_lt.2 ?_)))
    rcases Nat.lt_or_ge 2045 e with he | he
    · have ht : (2 : ℚ) ^ 52 ≤ t := hlow.resolve_left (by omega)
      calc ((2 : ℚ) ^ 53 - 1 / 2) * 2 ^ 2045
          ≤ 2 ^ 53 * 2 ^ 2045 := mul_le_mul_of_nonneg_right (by norm_num) (hpos 2045).le
        _ = 2 ^ 52 * 2 ^ (2045 + 1) := hcarried 2045
        _ ≤ t * 2 ^ e := mul_le_mul ht (hgrow he) (hpos _).le ((hpos 52).le.trans ht)
    · obtain ⟨rfl, rfl⟩ : m = 2 ^ 53 ∧ e = 2045 := by omega
      have hsub := (abs_le.1 hm.near).2
      push_cast at hsub
      exact mul_le_mul_of_nonneg_right (by linarith) (hpos 2045).le

/-- The exponent that is chosen is that of the binade of the quotient. -/
theorem binade_of_log2 (num : ℕ) (hden : 0 < den) (he : e = Nat.log2 (num / den) - 52) :
    (e = 0 ∨ 2 ^ 52 ≤ (num : ℚ) / (den * 2 ^ e : ℕ)) ∧ (num : ℚ) / (den * 2 ^ e : ℕ) < 2 ^ 53 := by
  have hscaled : (0 : ℚ) < (den * 2 ^ e : ℕ) := by
    have : 0 < den * 2 ^ e := by positivity
    exact_mod_cast this
  constructor
  · rcases Nat.eq_zero_or_pos e with h | h
    · exact .inl h
    have hlog : Nat.log2 (num / den) = 52 + e := by omega
    have hne : num / den ≠ 0 := by
      intro hzero
      rw [hzero, Nat.log2_zero] at hlog
      omega
    have hle : 2 ^ (52 + e) ≤ num / den := hlog ▸ Nat.log2_self_le hne
    have hmul : 2 ^ 52 * (den * 2 ^ e) ≤ num := by
      calc 2 ^ 52 * (den * 2 ^ e) = 2 ^ (52 + e) * den := by rw [pow_add]; ring
        _ ≤ num / den * den := Nat.mul_le_mul_right _ hle
        _ ≤ num := Nat.div_mul_le_self _ _
    refine .inr ?_
    rw [le_div_iff₀ hscaled]
    exact_mod_cast hmul
  · have hlog : Nat.log2 (num / den) + 1 ≤ 53 + e := by omega
    have hlt : num / den < 2 ^ (53 + e) :=
      Nat.lt_log2_self.trans_le (Nat.pow_le_pow_right (by decide) hlog)
    have hmul : num < 2 ^ 53 * (den * 2 ^ e) := by
      calc num < 2 ^ (53 + e) * den := (Nat.div_lt_iff_lt_mul hden).1 hlt
        _ = 2 ^ 53 * (den * 2 ^ e) := by rw [pow_add]; ring
    rw [div_lt_iff₀ hscaled]
    exact_mod_cast hmul

theorem ofUnits_rounds (negative : Bool) (num : ℕ) (hden : 0 < den) :
    Rounds negative (num / den / unitsPerOne) (ofUnits negative num den) := by
  obtain ⟨e, he⟩ : ∃ e, e = Nat.log2 (num / den) - 52 := ⟨_, rfl⟩
  have hpos : (0 : ℚ) < 2 ^ e := by positivity
  obtain ⟨hlow, hhigh⟩ := binade_of_log2 num hden he
  have hround : IsNearestNat (roundHalfEven num (den <<< e)) (num / (den * 2 ^ e : ℕ)) := by
    rw [Nat.shiftLeft_eq]
    exact isNearestNat_roundHalfEven (by positivity)
  have hquot : (num : ℚ) / den = num / (den * 2 ^ e : ℕ) * 2 ^ e := by
    have : (0 : ℚ) < den := by exact_mod_cast hden
    push_cast
    field_simp
  rw [ofUnits, hquot]
  simp only [← he]
  exact ofScaled_rounds negative hround hlow hhigh

/-- **A quotient is rounded to the nearest double.** -/
theorem ofRatio_rounds (negative : Bool) (num : ℕ) (hden : 0 < den) :
    Rounds negative (num / den) (ofRatio negative num den) := by
  have hpos : (0 : ℚ) < unitsPerOne := by exact_mod_cast unitsPerOne_pos
  have hquot : (num : ℚ) / den = (num * unitsPerOne : ℕ) / den / unitsPerOne := by
    push_cast
    field_simp
  rw [hquot]
  exact ofUnits_rounds negative (num * unitsPerOne) hden

/-! ### Doubles on their own grid -/

variable {size : Magnitude}

/-- A magnitude in normal form is put together from its own parts. -/
theorem ofScaled_self (negative : Bool) (size : Magnitude) :
    ofScaled negative size.mantissa size.exponent = .finite negative size := by
  rw [ofScaled, dif_pos ⟨size.mantissa_lt, size.exponent_le, size.normal⟩]

/-- The least mantissa of a binade is also the carry out of the binade before. -/
theorem ofScaled_carry (negative : Bool) {e : ℕ} (hm : size.mantissa = leadingOne)
    (he : size.exponent = e + 1) : ofScaled negative (2 ^ 53) e = .finite negative size := by
  have hle := size.exponent_le
  have hcarry : 2 ^ 53 = 2 * leadingOne := by decide
  rw [ofScaled, dif_neg (by omega), dif_pos ⟨hcarry, by omega⟩]
  cases size
  simp only at hm he
  simp only [hm, he]

/-- A double is rounded to itself. -/
theorem rounds_value (negative : Bool) (size : Magnitude) :
    Rounds negative size.value (.finite negative size) := by
  have hm : IsNearestNat size.mantissa size.mantissa := ⟨by simp, by norm_num⟩
  have hlow : size.exponent = 0 ∨ (2 : ℚ) ^ 52 ≤ size.mantissa := by
    refine size.normal.imp_right fun h => ?_
    rw [leadingOne_eq_two_pow] at h
    exact_mod_cast h
  have hhigh : (size.mantissa : ℚ) < 2 ^ 53 := by exact_mod_cast size.mantissa_lt_two_pow
  have h := ofScaled_rounds negative hm hlow hhigh
  rw [ofScaled_self] at h
  rw [Magnitude.value, Magnitude.units_eq]
  exact_mod_cast h

end Double

end StyleHost
