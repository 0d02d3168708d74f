import Mathlib.Algebra.Order.Field.Power
import StyleHost.Proofs.Number.Interval

/-!
# The decimal that is chosen reads back

A decimal grid whose steps are not longer than the upper half of the interval of a double has a
place in it: the last place that is not above the double, if that is the double itself, and
otherwise the next one. The eighteenth grid is so fine, and so the search ends with a decimal in the
interval. Since no coarser grid has a place there, no decimal that is rounded to the double has
fewer digits.

* `Decimal.value` : the number that a decimal stands for.
* `Shortest.onGrid_spec` : what is tried on a grid.
* `Shortest.rounds_decimal` : the decimal that is chosen is rounded to the double.
* `Shortest.width_decimal_le` : it has the fewest digits.
* `Shortest.decimal_short` : a bound on its digits and its exponent.
-/

namespace StyleHost

/-- The rational number that a decimal stands for. -/
def Decimal.value (d : Decimal) : ℚ := d.digits * 10 ^ d.exponent

namespace Shortest

variable {i : Interval} {d : Decimal} {x : Magnitude} {e : ℤ} {num den : ℕ}

/-! ### Places on a decimal grid -/

theorem tenTo_eq (e : ℤ) :
    0 < (tenTo e).1 ∧ 0 < (tenTo e).2 ∧ ((tenTo e).1 : ℚ) / (tenTo e).2 = 10 ^ e := by
  have hpos (n : ℕ) : 0 < Nat.pow 10 n := Nat.pow_pos (by decide)
  have hcast (n : ℕ) : ((Nat.pow 10 n : ℕ) : ℚ) = 10 ^ n := by exact_mod_cast rfl
  unfold tenTo
  split_ifs with he
  · refine ⟨hpos _, Nat.one_pos, ?_⟩
    rw [hcast, Nat.cast_one, div_one, ← zpow_natCast, Int.toNat_of_nonneg he]
  · refine ⟨Nat.one_pos, hpos _, ?_⟩
    rw [hcast, Nat.cast_one, one_div, ← zpow_natCast, ← zpow_neg, Int.toNat_of_nonneg (by omega),
      neg_neg]

theorem perOne_pos : 0 < perOne := Nat.mul_pos (by decide) unitsPerOne_pos

theorem step_pos (e : ℤ) : (0 : ℚ) < 10 ^ e * perOne := by
  have hpos : (0 : ℚ) < perOne := by exact_mod_cast perOne_pos
  positivity

/-- A place on a grid, in quarters of a unit. -/
theorem place_eq (hten : tenTo e = (num, den)) (k : ℕ) :
    ((k * (perOne * num) : ℕ) : ℚ) / den = k * 10 ^ e * perOne := by
  have hpow := (tenTo_eq e).2.2
  rw [hten] at hpow
  rw [← hpow]
  push_cast
  ring

/-- **What is tried on a grid** is the last place that is not above the value and the next one. -/
theorem onGrid_spec (i : Interval) (e : ℤ) : ∃ below : ℕ,
    ((below : ℚ) * 10 ^ e * perOne ≤ i.value ∧ (i.value : ℚ) < (below + 1 : ℕ) * 10 ^ e * perOne) ∧
    (∀ d, onGrid i e = some d →
      d.exponent = e ∧ d.digits ≤ below + 1 ∧ i.Holds (d.value * perOne)) ∧
    (onGrid i e = none →
      ¬i.Holds (below * 10 ^ e * perOne) ∧ ¬i.Holds ((below + 1 : ℕ) * 10 ^ e * perOne)) := by
  obtain ⟨num, den, hten⟩ : ∃ num den, tenTo e = (num, den) := ⟨_, _, rfl⟩
  obtain ⟨hnum, hden⟩ : 0 < num ∧ 0 < den := by
    have h := tenTo_eq e
    rw [hten] at h
    exact ⟨h.1, h.2.1⟩
  have hden' : (0 : ℚ) < den := by exact_mod_cast hden
  obtain ⟨k, hk⟩ : ∃ k, k = i.value * den / (perOne * num) := ⟨_, rfl⟩
  have hplace (n : ℕ) :
      i.contains (n * (perOne * num)) den = true ↔ i.Holds (n * 10 ^ e * perOne) := by
    rw [contains_iff hden, place_eq hten]
  refine ⟨k, ⟨?_, ?_⟩, fun d h => ?_, fun h => ?_⟩
  · rw [← place_eq hten, div_le_iff₀ hden', hk]
    exact_mod_cast Nat.div_mul_le_self _ _
  · rw [← place_eq hten, lt_div_iff₀ hden', hk]
    exact_mod_cast (Nat.div_lt_iff_lt_mul (Nat.mul_pos perOne_pos hnum)).1 (Nat.lt_succ_self _)
  · simp only [onGrid, hten, ← hk] at h
    split at h
    · rename_i hdown hup
      obtain rfl := Option.some.inj h
      split_ifs
      · exact ⟨rfl, Nat.le_succ k, (hplace k).1 hdown⟩
      · exact ⟨rfl, le_rfl, (hplace (k + 1)).1 hup⟩
    · rename_i hdown _
      obtain rfl := Option.some.inj h
      exact ⟨rfl, Nat.le_succ k, (hplace k).1 hdown⟩
    · rename_i _ hup
      obtain rfl := Option.some.inj h
      exact ⟨rfl, le_rfl, (hplace (k + 1)).1 hup⟩
    · cases h
  · simp only [onGrid, hten, ← hk] at h
    split at h
    · cases h
    · cases h
    · cases h
    · rename_i hdown hup
      rw [← hplace, ← hplace, hdown, hup]
      exact ⟨Bool.false_ne_true, Bool.false_ne_true⟩

theorem holds_of_onGrid (h : onGrid i e = some d) : i.Holds (d.value * perOne) := by
  obtain ⟨below, -, hfound, -⟩ := onGrid_spec i e
  exact (hfound d h).2.2

/-- A grid with a place in the interval is found to have one, since one of the neighbours of the
value lies between that place and the value. -/
theorem exists_onGrid_of_holds (hi : i.Proper) {n : ℕ} (h : i.Holds (n * 10 ^ e * perOne)) :
    ∃ d, onGrid i e = some d := by
  obtain ⟨below, ⟨hbelow, habove⟩, -, hnone⟩ := onGrid_spec i e
  have hstep : (0 : ℚ) < 10 ^ e * perOne := step_pos e
  have hscale {a b : ℕ} (hab : a ≤ b) : (a : ℚ) * 10 ^ e * perOne ≤ b * 10 ^ e * perOne := by
    rw [mul_assoc, mul_assoc]
    exact mul_le_mul_of_nonneg_right (by exact_mod_cast hab) hstep.le
  rw [← Option.ne_none_iff_exists']
  intro hgrid
  rcases Nat.lt_or_ge below n with hlt | hle
  · exact (hnone hgrid).2 (hi.holds_value.between h habove.le (hscale hlt))
  · exact (hnone hgrid).1 (h.between hi.holds_value (hscale hle) hbelow)

/-- **A grid with steps that are not too long has a place in the interval.** -/
theorem exists_onGrid (hi : i.Proper) (hstep : (10 : ℚ) ^ e * perOne ≤ i.high - i.value) :
    ∃ d, onGrid i e = some d := by
  obtain ⟨below, ⟨hbelow, habove⟩, -, hnone⟩ := onGrid_spec i e
  have hlow : (i.low : ℚ) < i.value := by exact_mod_cast hi.low_lt
  rw [← Option.ne_none_iff_exists']
  intro hgrid
  rcases eq_or_lt_of_le hbelow with heq | hlt
  · refine (hnone hgrid).1 ?_
    rw [heq]
    exact hi.holds_value
  · refine (hnone hgrid).2 (.of_lt (hlow.trans habove) ?_)
    push_cast
    linarith

/-! ### The search -/

theorem width_pos (n : ℕ) : 0 < width n := Nat.length_toDigits_pos

theorem lt_ten_pow_width (n : ℕ) : n < 10 ^ width n :=
  (Nat.length_toDigits_le_iff (by decide) Nat.length_toDigits_pos).1 le_rfl

theorem ten_pow_width_le {n : ℕ} (hn : 0 < n) : 10 ^ (width n - 1) ≤ n := by
  rcases Nat.eq_zero_or_pos (width n - 1) with h | h
  · rw [h]
    exact hn
  · have hwidth : ¬(Nat.toDigits 10 n).length ≤ width n - 1 := by
      rw [← width]
      omega
    rw [Nat.length_toDigits_le_iff (by decide) h] at hwidth
    exact Nat.le_of_not_lt hwidth

theorem inv_ten_pow_mul_le_iff (n a b : ℕ) :
    (10 : ℚ) ^ (-(n : ℤ)) * a ≤ b ↔ a ≤ b * 10 ^ n := by
  rw [zpow_neg, zpow_natCast, inv_mul_le_iff₀ (by positivity), mul_comm]
  exact_mod_cast Iff.rfl

/-- Where the leading digit stands. -/
theorem ten_zpow_leading (hvalue : 0 < i.value) :
    (10 : ℚ) ^ leading i * perOne ≤ i.value ∧
      (i.value : ℚ) < 10 ^ (leading i + 1) * perOne := by
  obtain ⟨w, hw⟩ : ∃ w, width (perOne / i.value) = w + 1 :=
    Nat.exists_eq_add_one_of_ne_zero (width_pos _).ne'
  have hperOne : (0 : ℚ) < perOne := by exact_mod_cast perOne_pos
  unfold leading
  dsimp only
  rw [hw, Nat.add_sub_cancel]
  split_ifs with hone hwide
  · have hn : 0 < i.value / perOne := Nat.div_pos hone perOne_pos
    have hle : 10 ^ (width (i.value / perOne) - 1) * perOne ≤ i.value :=
      (Nat.mul_le_mul_right _ (ten_pow_width_le hn)).trans (Nat.div_mul_le_self _ _)
    have hlt : i.value < 10 ^ width (i.value / perOne) * perOne :=
      (Nat.div_lt_iff_lt_mul perOne_pos).1 (lt_ten_pow_width _)
    constructor
    · rw [← Nat.cast_pred (width_pos _), zpow_natCast]
      exact_mod_cast hle
    · rw [sub_add_cancel, zpow_natCast]
      exact_mod_cast hlt
  · -- the reciprocal of the value is the power of ten of its own leading digit
    have hreciprocal : 10 ^ w * i.value ≤ perOne := by
      have h := ten_pow_width_le (Nat.div_pos (Nat.le_of_not_le hone) hvalue)
      rw [hw, Nat.add_sub_cancel] at h
      exact (Nat.mul_le_mul_right _ h).trans (Nat.div_mul_le_self _ _)
    have hvalue' : (i.value : ℚ) ≤ 10 ^ (-(w : ℤ)) * perOne := by
      rw [zpow_neg, zpow_natCast, le_inv_mul_iff₀ (by positivity)]
      exact_mod_cast hreciprocal
    have hexp : -(((w + 1 : ℕ) : ℤ) - 1) = -w := by omega
    rw [hexp]
    refine ⟨(inv_ten_pow_mul_le_iff _ _ _).2 hwide, hvalue'.trans_lt ?_⟩
    rw [zpow_add_one₀ (by norm_num)]
    have : (0 : ℚ) < 10 ^ (-(w : ℤ)) * perOne := by positivity
    linarith
  · have hreciprocal : perOne < 10 ^ (w + 1) * i.value := by
      have h := (Nat.div_lt_iff_lt_mul hvalue).1 (lt_ten_pow_width (perOne / i.value))
      rwa [hw] at h
    have hexp : -((w + 1 : ℕ) : ℤ) + 1 = -w := by omega
    rw [hexp, inv_ten_pow_mul_le_iff, ← not_le, inv_ten_pow_mul_le_iff, Nat.mul_comm]
    exact ⟨hreciprocal.le, hwide⟩

theorem value_strip (fuel : ℕ) (d : Decimal) : (strip fuel d).value = d.value := by
  induction fuel generalizing d with
  | zero => rfl
  | succ fuel ih =>
    unfold strip
    split_ifs with h
    · have hdigits : d.digits = d.digits / 10 * 10 := by omega
      rw [ih, Decimal.value, Decimal.value]
      dsimp only
      rw [zpow_add₀ (by norm_num : (10 : ℚ) ≠ 0), zpow_one]
      nth_rewrite 2 [hdigits]
      push_cast
      ring
    · rfl

/-- The search ends at the first grid that has a place in the interval. -/
theorem exists_search_eq {ks : List ℕ} {top : ℤ} {k : ℕ} (hsorted : ks.Pairwise (· < ·))
    (hk : k ∈ ks) (h : ∃ d, onGrid i (top - k) = some d) :
    ∃ j ≤ k, ∃ d, onGrid i (top - j) = some d ∧ search i top ks = strip 20 d := by
  induction ks with
  | nil => cases hk
  | cons k' ks ih =>
    obtain ⟨hfirst, hrest⟩ := List.pairwise_cons.1 hsorted
    rw [search]
    cases hgrid : onGrid i (top - k') with
    | some d =>
      refine ⟨k', ?_, d, hgrid, rfl⟩
      rcases List.mem_cons.1 hk with rfl | hmem
      · exact le_rfl
      · exact (hfirst k hmem).le
    | none =>
      obtain ⟨d, hd⟩ := h
      rcases List.mem_cons.1 hk with rfl | hmem
      · rw [hgrid] at hd
        cases hd
      · exact ih hrest hmem

/-- The eighteenth grid is fine enough, because a mantissa has at most seventeen digits. -/
theorem exists_onGrid_interval (hx : 0 < x.mantissa) :
    ∃ d, onGrid (interval x) (leading (interval x) - (17 : ℕ)) = some d := by
  have hi := proper_interval hx
  have hvalue : (interval x).value = 4 * x.mantissa * 2 ^ x.exponent := Nat.shiftLeft_eq _ _
  have hhigh : (interval x).high = (4 * x.mantissa + 2) * 2 ^ x.exponent := Nat.shiftLeft_eq _ _
  have hmantissa : (x.mantissa : ℚ) ≤ 2 ^ 53 := by exact_mod_cast x.mantissa_lt_two_pow.le
  have hgrid : (0 : ℚ) < 2 ^ x.exponent := by positivity
  have hleading := (ten_zpow_leading (Nat.zero_lt_of_lt hi.low_lt)).1
  rw [hvalue] at hleading
  push_cast at hleading
  refine exists_onGrid hi ?_
  rw [hvalue, hhigh, zpow_sub₀ (by norm_num : (10 : ℚ) ≠ 0), zpow_natCast, div_mul_eq_mul_div,
    div_le_iff₀ (by positivity)]
  push_cast
  calc (10 : ℚ) ^ leading (interval x) * perOne
      ≤ 4 * x.mantissa * 2 ^ x.exponent := hleading
    _ ≤ 4 * 2 ^ 53 * 2 ^ x.exponent := by gcongr
    _ ≤ 2 * 10 ^ 17 * 2 ^ x.exponent := mul_le_mul_of_nonneg_right (by norm_num) hgrid.le
    _ = ((4 * x.mantissa + 2) * 2 ^ x.exponent - 4 * x.mantissa * 2 ^ x.exponent) * 10 ^ 17 := by
      ring

/-- The decimal that is chosen comes from the first grid that has a place in the interval. -/
theorem exists_decimal_eq {k : ℕ} (hk : k < 18)
    (h : ∃ d, onGrid (interval x) (leading (interval x) - k) = some d) :
    ∃ j ≤ k, ∃ d, onGrid (interval x) (leading (interval x) - j) = some d ∧
      decimal x = strip 20 d :=
  exists_search_eq List.pairwise_lt_range (List.mem_range.2 hk) h

theorem holds_decimal (hx : 0 < x.mantissa) :
    (interval x).Holds ((decimal x).value * perOne) := by
  obtain ⟨j, -, d, hgrid, hdecimal⟩ := exists_decimal_eq (by decide) (exists_onGrid_interval hx)
  rw [hdecimal, value_strip]
  exact holds_of_onGrid hgrid

/-- **The decimal that is chosen is rounded to the double.** -/
theorem rounds_decimal (negative : Bool) (hx : 0 < x.mantissa) :
    Double.Rounds negative (decimal x).value (.finite negative x) :=
  (rounds_iff_holds hx).2 (holds_decimal hx)

/-! ### The fewest digits -/

theorem width_le {n k : ℕ} (hk : 0 < k) (h : n < 10 ^ k) : width n ≤ k :=
  (Nat.length_toDigits_le_iff (by decide) hk).2 h

theorem digits_strip_le (fuel : ℕ) (d : Decimal) : (strip fuel d).digits ≤ d.digits := by
  induction fuel generalizing d with
  | zero => exact le_rfl
  | succ fuel ih =>
    unfold strip
    split_ifs
    · exact (ih _).trans (Nat.div_le_self _ _)
    · exact le_rfl

theorem digits_strip_ten_pow {fuel n : ℕ} (hn : n ≤ fuel) (e : ℤ) :
    (strip fuel ⟨10 ^ n, e⟩).digits = 1 := by
  induction fuel generalizing n e with
  | zero =>
    obtain rfl := Nat.le_zero.1 hn
    rfl
  | succ fuel ih =>
    cases n with
    | zero => rfl
    | succ n =>
      have hmod : 10 ^ (n + 1) % 10 = 0 := by rw [pow_succ, Nat.mul_mod_left]
      have hdiv : 10 ^ (n + 1) / 10 = 10 ^ n := by rw [pow_succ, Nat.mul_div_cancel _ (by decide)]
      rw [strip, if_pos ⟨(by positivity), hmod⟩]
      dsimp only
      rw [hdiv]
      exact ih (Nat.le_of_succ_le_succ hn) _

/-- One more than all the places loses its zeros. -/
theorem width_strip_le {fuel k : ℕ} (hk : 0 < k) (hfuel : k ≤ fuel) (h : d.digits ≤ 10 ^ k) :
    width (strip fuel d).digits ≤ k := by
  rcases Nat.lt_or_eq_of_le h with hlt | heq
  · exact width_le hk ((digits_strip_le fuel d).trans_lt hlt)
  · obtain ⟨digits, e⟩ := d
    obtain rfl : digits = 10 ^ k := heq
    rw [digits_strip_ten_pow hfuel]
    exact Nat.succ_le_of_lt hk

/-- How many digits there are on a grid. -/
theorem digits_le_of_onGrid {j : ℕ} (hvalue : 0 < i.value)
    (h : onGrid i (leading i - j) = some d) : d.digits ≤ 10 ^ (j + 1) := by
  obtain ⟨below, ⟨hbelow, -⟩, hfound, -⟩ := onGrid_spec i (leading i - j)
  have hstep := step_pos (leading i - j)
  have hlt : (below : ℚ) * (10 ^ (leading i - j) * perOne) <
      10 ^ (j + 1) * (10 ^ (leading i - j) * perOne) := by
    calc (below : ℚ) * (10 ^ (leading i - j) * perOne)
        = below * 10 ^ (leading i - j) * perOne := by ring
      _ ≤ i.value := hbelow
      _ < 10 ^ (leading i + 1) * perOne := (ten_zpow_leading hvalue).2
      _ = 10 ^ (j + 1) * (10 ^ (leading i - j) * perOne) := by
        rw [← mul_assoc, ← zpow_natCast, ← zpow_add₀ (by norm_num)]
        congr 2
        push_cast
        ring
  have hbound : below < 10 ^ (j + 1) := by exact_mod_cast lt_of_mul_lt_mul_right hlt hstep.le
  exact (hfound d h).2.1.trans hbound

/-- A decimal that is not below the leading digit is a place on the grid of its own digits. -/
theorem exists_place {top : ℤ} (h : (10 : ℚ) ^ top ≤ d.value) :
    ∃ n : ℕ, d.value = n * 10 ^ (top - (width d.digits - 1 : ℕ)) := by
  have hten : (10 : ℚ) ≠ 0 := by norm_num
  have hpos := width_pos d.digits
  have hdigits : (d.digits : ℚ) < 10 ^ width d.digits := by
    exact_mod_cast lt_ten_pow_width d.digits
  have hlt : (10 : ℚ) ^ top < 10 ^ ((width d.digits : ℤ) + d.exponent) := by
    rw [zpow_add₀ hten, zpow_natCast]
    exact h.trans_lt (mul_lt_mul_of_pos_right hdigits (by positivity))
  have hexp : top < width d.digits + d.exponent := (zpow_lt_zpow_iff_right₀ (by norm_num)).1 hlt
  obtain ⟨t, ht⟩ : ∃ t : ℕ, d.exponent = t + (top - (width d.digits - 1 : ℕ)) :=
    ⟨(d.exponent - (top - (width d.digits - 1 : ℕ))).toNat, by omega⟩
  refine ⟨d.digits * 10 ^ t, ?_⟩
  have hsplit : d.value = d.digits * 10 ^ (t + (top - (width d.digits - 1 : ℕ))) := by
    rw [← ht, Decimal.value]
  rw [hsplit, zpow_add₀ hten, zpow_natCast]
  push_cast
  ring

theorem width_decimal_le_of_holds (hx : 0 < x.mantissa)
    (h : (interval x).Holds (d.value * perOne)) : width (decimal x).digits ≤ width d.digits := by
  have hi := proper_interval hx
  have hvalue := Nat.zero_lt_of_lt hi.low_lt
  have hpos := width_pos d.digits
  have hgrid {k : ℕ} (hk : k < 18)
      (hplace : ∃ d, onGrid (interval x) (leading (interval x) - k) = some d) :
      width (decimal x).digits ≤ k + 1 := by
    obtain ⟨j, hle, d', hfound, hdecimal⟩ := exists_decimal_eq hk hplace
    have hwidth : width (strip 20 d').digits ≤ j + 1 :=
      width_strip_le j.succ_pos (by omega) (digits_le_of_onGrid hvalue hfound)
    rw [hdecimal]
    exact hwidth.trans (Nat.succ_le_succ hle)
  by_cases htop : (10 : ℚ) ^ leading (interval x) ≤ d.value
  · by_cases hmany : 18 < width d.digits
    · exact (hgrid (by decide) (exists_onGrid_interval hx)).trans hmany.le
    · obtain ⟨n, hn⟩ := exists_place htop
      rw [hn] at h
      have hwidth := hgrid (by omega) (exists_onGrid_of_holds hi h)
      rwa [Nat.sub_add_cancel hpos] at hwidth
  · -- the power of ten of the leading digit lies between the decimal and the value
    have hperOne : (0 : ℚ) < perOne := by exact_mod_cast perOne_pos
    have hbetween : (interval x).Holds (10 ^ leading (interval x) * perOne) :=
      h.between hi.holds_value (mul_le_mul_of_nonneg_right (le_of_not_ge htop) hperOne.le)
        (ten_zpow_leading hvalue).1
    have hplace : (interval x).Holds
        ((1 : ℕ) * 10 ^ (leading (interval x) - (0 : ℕ)) * perOne) := by
      rwa [Nat.cast_one, one_mul, Nat.cast_zero, sub_zero]
    exact (hgrid (by decide) (exists_onGrid_of_holds hi hplace)).trans hpos

/-- **No decimal that is rounded to the double has fewer digits than the one that is chosen.** -/
theorem width_decimal_le {negative : Bool} (hx : 0 < x.mantissa)
    (h : Double.Rounds negative d.value (.finite negative x)) :
    width (decimal x).digits ≤ width d.digits :=
  width_decimal_le_of_holds hx ((rounds_iff_holds hx).1 h)

/-! ### The length -/

theorem four_eq_two_pow : 4 = 2 ^ 2 := by decide

theorem perOne_eq_two_pow : perOne = 2 ^ 1076 := by
  rw [perOne, unitsPerOne_eq_two_pow, four_eq_two_pow, ← pow_add]

theorem two_pow_le (n : ℕ) : (2 : ℚ) ^ n ≤ 10 ^ n :=
  pow_le_pow_left₀ (by norm_num) (by norm_num) n

/-- The leading digit of a double stands at most so far from the point. -/
theorem leading_le (hx : 0 < x.mantissa) :
    -1077 ≤ leading (interval x) ∧ leading (interval x) ≤ 2100 := by
  have hi := proper_interval hx
  have hpos : 0 < (interval x).value := Nat.zero_lt_of_lt hi.low_lt
  have hvalue : (interval x).value = 4 * x.mantissa * 2 ^ x.exponent := Nat.shiftLeft_eq _ _
  have hlarge : (interval x).value < 2 ^ 2100 := by
    calc (interval x).value = 4 * x.mantissa * 2 ^ x.exponent := hvalue
      _ < 4 * 2 ^ 53 * 2 ^ x.exponent := by
        gcongr
        exact x.mantissa_lt_two_pow
      _ ≤ 4 * 2 ^ 53 * 2 ^ 2045 := by
        gcongr
        · decide
        · exact x.exponent_le
      _ = 2 ^ 2100 := by rw [four_eq_two_pow, ← pow_add, ← pow_add]
  obtain ⟨hle, hlt⟩ := ten_zpow_leading hpos
  rw [perOne_eq_two_pow] at hle hlt
  constructor
  · by_contra hsmall
    have hexp : leading (interval x) + 1 ≤ -(1076 : ℕ) := by omega
    have h : (1 : ℚ) < 1 := by
      calc (1 : ℚ) ≤ (interval x).value := by exact_mod_cast hpos
        _ < 10 ^ (leading (interval x) + 1) * (2 ^ 1076 : ℕ) := hlt
        _ ≤ 10 ^ (-(1076 : ℕ) : ℤ) * 10 ^ 1076 := by
          rw [Nat.cast_pow, Nat.cast_ofNat]
          exact mul_le_mul (zpow_le_zpow_right₀ (by norm_num) hexp) (two_pow_le _) (by positivity)
            (by positivity)
        _ = 1 := by
          rw [zpow_neg, zpow_natCast, inv_mul_cancel₀ (by positivity)]
    exact lt_irrefl _ h
  · by_contra hbig
    have hexp : ((2100 : ℕ) : ℤ) ≤ leading (interval x) := by omega
    have h : ((interval x).value : ℚ) < (interval x).value := by
      calc ((interval x).value : ℚ) < 2 ^ 2100 := by exact_mod_cast hlarge
        _ ≤ 10 ^ 2100 := two_pow_le _
        _ ≤ 10 ^ leading (interval x) := by
          rw [← zpow_natCast]
          exact zpow_le_zpow_right₀ (by norm_num) hexp
        _ ≤ 10 ^ leading (interval x) * (2 ^ 1076 : ℕ) := by
          rw [Nat.cast_pow, Nat.cast_ofNat]
          exact le_mul_of_one_le_right (by positivity) (one_le_pow₀ (by norm_num))
        _ ≤ (interval x).value := hle
    exact lt_irrefl _ h

theorem exponent_strip (fuel : ℕ) (d : Decimal) :
    d.exponent ≤ (strip fuel d).exponent ∧ (strip fuel d).exponent ≤ d.exponent + fuel := by
  induction fuel generalizing d with
  | zero => exact ⟨le_rfl, by simp [strip]⟩
  | succ fuel ih =>
    unfold strip
    split_ifs
    · have h := ih ⟨d.digits / 10, d.exponent + 1⟩
      dsimp only at h
      omega
    · omega

/-- **The decimal that is chosen is short**, and so are the zeros that it is written with. -/
theorem decimal_short (hx : 0 < x.mantissa) :
    width (decimal x).digits ≤ 18 ∧ (decimal x).exponent.natAbs ≤ 2120 := by
  obtain ⟨j, hj, d, hgrid, hdecimal⟩ := exists_decimal_eq (by decide) (exists_onGrid_interval hx)
  obtain ⟨below, -, hfound, -⟩ := onGrid_spec (interval x) (leading (interval x) - j)
  have hexponent := (hfound d hgrid).1
  have hleading := leading_le hx
  have hstrip := exponent_strip 20 d
  have hdigits := digits_le_of_onGrid (Nat.zero_lt_of_lt (proper_interval hx).low_lt) hgrid
  rw [hdecimal]
  exact ⟨(width_strip_le j.succ_pos (by omega) hdigits).trans (by omega), by omega⟩

end Shortest

end StyleHost
