import StyleHost.Proofs.Number.Encoding
import StyleHost.Proofs.Number.Numeral
import StyleHost.Proofs.Number.Shortest

/-!
# What is written reads back

A decimal is written positionally, wherever its point falls, and what is written is a number of the
grammar with the value of the decimal. A double is written exactly or by a decimal of its interval,
and both are rounded to it. So a finite double is read back from its own text; negative zero, whose
text has no sign, becomes positive zero.

* `Number.unsigned_positional` : a decimal as it is written.
* `Number.exists_signed_format` : what is written of a finite double.
* `Number.parse_format` : what is read back.
-/

namespace StyleHost

namespace Number

variable {x : Magnitude} {negative : Bool}

/-! ### Digits -/

theorem digitsValue_digitChars (n : ℕ) : digitsValue (digitChars n) = n :=
  Nat.ofDigitChars_ten_toDigits

theorem isDigits_digitChars (n : ℕ) : IsDigits (digitChars n) :=
  ⟨Nat.toDigits_ne_nil, fun _ hc => Nat.isDigit_of_mem_toDigits (by decide) (by decide) hc⟩

/-! ### Decimals -/

/-- Digits with a point among them write the quotient by a power of ten. -/
theorem unsigned_point {whole frac ds : List Char} {places : ℕ}
    (hwhole : ∀ c ∈ whole, c.isDigit = true) (hfrac : ∀ c ∈ frac, c.isDigit = true)
    (hne : whole ≠ []) (hplaces : frac.length = places)
    (hvalue : digitsValue (whole ++ frac) = digitsValue ds) :
    Unsigned (whole ++ '.' :: frac) (digitsValue ds / 10 ^ places) := by
  refine unsigned_iff.2 ⟨whole, frac, splitDigits?_of_point hwhole hfrac (.inl hne), ?_⟩
  rw [hvalue, hplaces]
  push_cast
  rfl

theorem value_of_neg {d : Decimal} (h : ¬0 ≤ d.exponent) :
    d.value = digitsValue (digitChars d.digits) / 10 ^ (-d.exponent).toNat := by
  obtain ⟨n, hn⟩ : ∃ n : ℕ, d.exponent = -(n : ℤ) := ⟨(-d.exponent).toNat, by omega⟩
  rw [Decimal.value, digitsValue_digitChars, hn, neg_neg, Int.toNat_natCast, zpow_neg,
    zpow_natCast, div_eq_mul_inv]

/-- **A decimal is written as a number with its value**, wherever its point falls. -/
theorem unsigned_positional (d : Decimal) : Unsigned (positional d) d.value := by
  have hdigits := isDigits_digitChars d.digits
  unfold positional
  dsimp only
  split_ifs with hexp hplaces
  · -- zeros stand between the digits and the point
    obtain ⟨n, hn⟩ := Int.eq_ofNat_of_zero_le hexp
    have hvalue : (wholeValue (digitChars d.digits ++ List.replicate n '0') : ℚ) = d.value := by
      rw [← digitsValue_eq, digitsValue_append, digitsValue_digitChars, wholeValue_zeros,
        List.length_replicate, Decimal.value, hn, zpow_natCast]
      push_cast
      ring
    rw [hn, Int.toNat_natCast, ← hvalue]
    refine .integer ⟨by simp [hdigits.ne_nil], fun c hc => ?_⟩
    exact (List.mem_append.1 hc).elim (hdigits.isDigit c) isDigit_of_mem_zeros
  · -- the point falls among the digits
    rw [value_of_neg hexp]
    refine unsigned_point (fun c hc => hdigits.isDigit c (List.mem_of_mem_take hc))
      (fun c hc => hdigits.isDigit c (List.mem_of_mem_drop hc)) ?_ ?_ ?_
    · intro hnil
      have hlength := congrArg List.length hnil
      rw [List.length_take, List.length_nil] at hlength
      omega
    · rw [List.length_drop]
      omega
    · rw [List.take_append_drop]
  · -- zeros stand between the point and the digits
    rw [value_of_neg hexp]
    have hzero : ∀ c ∈ ['0'], c.isDigit = true := List.forall_mem_singleton.2 (by decide)
    refine unsigned_point hzero (fun c hc => ?_) (by simp) ?_ ?_
    · exact (List.mem_append.1 hc).elim isDigit_of_mem_zeros (hdigits.isDigit c)
    · rw [List.length_append, List.length_replicate]
      omega
    · rw [← List.append_assoc, digitsValue_append, digitsValue_append, wholeValue_zeros,
        ← digitsValue_eq (digitChars d.digits)]
      simp [digitsValue]

/-- How long a decimal is, written positionally. -/
theorem length_positional_le (d : Decimal) :
    (positional d).length ≤ Shortest.width d.digits + d.exponent.natAbs + 2 := by
  have hwidth : (digitChars d.digits).length = Shortest.width d.digits := rfl
  unfold positional
  dsimp only
  split_ifs <;> simp only [List.length_append, List.length_replicate, List.length_cons,
    List.length_take, List.length_drop, hwidth] <;> omega

/-! ### Doubles -/

/-- A magnitude is written exactly or by a decimal of its interval. -/
theorem exists_unsigned_magnitudeChars (negative : Bool) (hx : 0 < x.mantissa) :
    ∃ q, Unsigned (magnitudeChars x) q ∧ Double.Rounds negative q (.finite negative x) := by
  unfold magnitudeChars
  dsimp only
  split_ifs with hexact
  · have hpos : (0 : ℚ) < unitsPerOne := by exact_mod_cast unitsPerOne_pos
    have hunits : x.units / unitsPerOne * unitsPerOne = x.units := Nat.div_mul_cancel
      (Nat.dvd_of_mod_eq_zero hexact.1)
    have hvalue : (wholeValue (digitChars (x.units / unitsPerOne)) : ℚ) = x.value := by
      rw [← digitsValue_eq, digitsValue_digitChars, Magnitude.value, eq_div_iff hpos.ne']
      exact_mod_cast hunits
    refine ⟨x.value, ?_, Double.rounds_value negative x⟩
    rw [← hvalue]
    exact .integer (isDigits_digitChars _)
  · exact ⟨_, unsigned_positional _, Shortest.rounds_decimal negative hx⟩

/-- No magnitude is written with so many characters that counting them would begin again. -/
theorem length_magnitudeChars_lt (hx : 0 < x.mantissa) :
    (magnitudeChars x).length < 2 ^ 32 := by
  unfold magnitudeChars
  dsimp only
  split_ifs with hexact
  · have hwidth : Shortest.width (x.units / unitsPerOne) ≤ 17 :=
      Shortest.width_le (by decide) hexact.2
    have hlength : (digitChars (x.units / unitsPerOne)).length =
        Shortest.width (x.units / unitsPerOne) := rfl
    omega
  · have hlength := length_positional_le (Shortest.decimal x)
    have hshort := Shortest.decimal_short hx
    omega

theorem mantissa_pos (h : x.units ≠ 0) : 0 < x.mantissa := by
  rw [x.units_eq] at h
  exact Nat.pos_of_ne_zero (left_ne_zero_of_mul h)

theorem rounds_zero : Double.Rounds false 0 Double.zero := by
  have h := Double.rounds_value false Magnitude.zero
  have hvalue : Magnitude.zero.value = 0 := by
    rw [Magnitude.value, Magnitude.units_eq]
    simp [Magnitude.zero]
  rwa [hvalue] at h

/-- **What is written of a finite double** is a number of the grammar, without blanks, that is
rounded to the double; and it is short enough to be counted. -/
theorem exists_signed_format {x : Double} (hx : x.isFinite = true) :
    ∃ negative body q, (format x).toList = signed negative body ∧ Unsigned body q ∧
      body.length < 2 ^ 32 ∧ Double.Rounds negative q x.withPlainZero := by
  obtain ⟨negative, size, rfl⟩ := Double.isFinite_iff.1 hx
  simp only [format, formatList, Double.withPlainZero, String.toList_ofList]
  by_cases hzero : size.units = 0
  · have hunsigned : Unsigned ['0'] 0 := by
      have h := Unsigned.integer (isDigits_digitChars 0)
      rw [← digitsValue_eq, digitsValue_digitChars] at h
      exact_mod_cast h
    rw [if_pos hzero, if_pos hzero]
    exact ⟨false, ['0'], 0, rfl, hunsigned, by decide, rounds_zero⟩
  · obtain ⟨q, hunsigned, hrounds⟩ :=
      exists_unsigned_magnitudeChars negative (mantissa_pos hzero)
    rw [if_neg hzero, if_neg hzero]
    refine ⟨negative, _, q, ?_, hunsigned, length_magnitudeChars_lt (mantissa_pos hzero), hrounds⟩
    cases negative <;> rfl

/-- **What is read back**: a finite double, but for the sign of zero, and nothing else. -/
theorem parse_format (x : Double) :
    parse (format x) = if x.isFinite then x.withPlainZero else .nan := by
  cases x with
  | nan => decide
  | infinite negative => cases negative <;> decide
  | finite negative size =>
    obtain ⟨sign, body, q, hformat, hunsigned, hlength, hrounds⟩ :=
      exists_signed_format (x := .finite negative size) rfl
    have hbare : (format (.finite negative size)).toList = [] ++ (signed sign body ++ []) := by
      rw [hformat, List.append_nil, List.nil_append]
    have hdigits : ¬2 ^ 32 ∣ body.countP Char.isDigit :=
      Nat.not_dvd_of_pos_of_lt hunsigned.count_le.1 (List.countP_le_length.trans_lt hlength)
    exact ((parse_of_unsigned hunsigned (by simp) (by simp) hbare).1 hdigits).unique hrounds

end Number

end StyleHost
