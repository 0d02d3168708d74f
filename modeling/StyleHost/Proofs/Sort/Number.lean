import StyleHost.Proofs.Number.Positional
import StyleHost.Proofs.Sort.Key

/-!
# The keys of numbers

A numeric key is read from the text of its value. For a finite number that gives the number itself,
so the keys of finite numbers are in the order of the numbers. The infinities are written with a
word, and their keys are those of what is not a number: they come before all finite numbers, in
either direction.

* `SortKey.ofValue_number` : the key of a number.
* `SortKey.compare_ofValue_number` : the order of the keys of numbers.
* `SortKey.number_roundTrip` : numbers and the keys that are read from their text.
-/

namespace StyleHost

namespace Double

variable {x y : Double}

theorem place_withPlainZero (x : Double) : x.withPlainZero.place = x.place := by
  cases x with
  | nan => rfl
  | infinite negative => rfl
  | finite negative size =>
    rw [withPlainZero]
    split_ifs with hzero
    · have hunits : signedUnits negative size = 0 := by
        rw [signedUnits, hzero]
        split_ifs <;> rfl
      have hplain : signedUnits false Magnitude.zero = 0 := by decide
      rw [zero, place, place, hunits, hplain]
    · rfl

theorem isNaN_withPlainZero (x : Double) : x.withPlainZero.isNaN = x.isNaN := by
  cases x with
  | nan => rfl
  | infinite negative => rfl
  | finite negative size =>
    rw [withPlainZero]
    split_ifs <;> rfl

theorem isNaN_of_isFinite (h : x.isFinite = true) : x.isNaN = false := by
  obtain ⟨negative, size, rfl⟩ := isFinite_iff.1 h
  rfl

theorem compare?_withPlainZero (hx : x.isFinite = true) (hy : y.isFinite = true) :
    x.withPlainZero.compare? y.withPlainZero = x.compare? y := by
  have hx' := isNaN_of_isFinite hx
  have hy' := isNaN_of_isFinite hy
  rw [compare?_eq_some hx' hy', compare?_eq_some ((isNaN_withPlainZero x).trans hx')
    ((isNaN_withPlainZero y).trans hy'), place_withPlainZero, place_withPlainZero]

/-- A finite number equals itself, whatever the sign of a zero. -/
theorem compare?_self_withPlainZero (hx : x.isFinite = true) :
    x.compare? x.withPlainZero = some .eq := by
  have hx' := isNaN_of_isFinite hx
  rw [compare?_eq_some hx' ((isNaN_withPlainZero x).trans hx'), place_withPlainZero]
  simp [compareLex, compareOn]

end Double

namespace SortKey

variable {collate : String → String → Ordering} {order : SortOrder} {x y : Double}

/-- The key of a number. -/
theorem ofValue_number (x : Double) :
    ofValue (.number x) .number = if x.isFinite then .number x.withPlainZero else .notANumber := by
  simp only [ofValue, Value.stringValue, Number.parse_format]
  by_cases hx : x.isFinite = true
  · have hnumber : x.withPlainZero.isNaN = false :=
      (Double.isNaN_withPlainZero x).trans (Double.isNaN_of_isFinite hx)
    simp [hx, hnumber]
  · simp [hx, Double.isNaN]

/-- **The order of the keys of finite numbers is that of the numbers.** -/
theorem compare_ofValue_number (hx : x.isFinite = true) (hy : y.isFinite = true) :
    ∃ o, x.compare? y = some o ∧ compare collate order (some (ofValue (.number x) .number))
      (some (ofValue (.number y) .number)) = directed order o := by
  obtain ⟨o, ho⟩ : ∃ o, x.compare? y = some o :=
    ⟨_, Double.compare?_eq_some (Double.isNaN_of_isFinite hx) (Double.isNaN_of_isFinite hy)⟩
  refine ⟨o, ho, ?_⟩
  rw [ofValue_number, ofValue_number, if_pos hx, if_pos hy, compare,
    Double.compare?_withPlainZero hx hy, ho]
  rfl

/-- The order of the keys of two numbers of which one is not finite. -/
theorem compare_ofValue_not_finite (h : x.isFinite = false ∨ y.isFinite = false) :
    compare collate order (some (ofValue (.number x) .number))
      (some (ofValue (.number y) .number)) = Ord.compare x.isFinite y.isFinite := by
  rw [ofValue_number, ofValue_number]
  cases hx : x.isFinite <;> cases hy : y.isFinite
  · rfl
  · rfl
  · rfl
  · simp [hx, hy] at h

/-- **Numbers and the keys that are read from their text.** A finite number is written by the number
grammar and read back as the same number, with the same encoding but for negative zero; the
infinities are read back as what is not a number. So the keys of finite numbers are in the order of
the numbers, and the keys of all others come before them and tie. -/
theorem number_roundTrip (collate : String → String → Ordering) (order : SortOrder) :
    (∀ x : Double, x.isFinite = true →
      (∃ negative body q, (Number.format x).toList = Number.signed negative body ∧
        Number.Unsigned body q) ∧
      (∀ c ∈ (Number.format x).toList, c = '-' ∨ c.isDigit = true ∨ c = '.') ∧
      x.compare? (Number.parse (Number.format x)) = some .eq ∧
      ofValue (.number x) .number = .number x.withPlainZero) ∧
    (∀ bits : UInt64, (Double.ofBits bits).isFinite = true →
      (Number.parse (Number.format (.ofBits bits))).toBits =
        if bits = Double.negativeZeroBits then 0 else bits) ∧
    (∀ x : Double, x.isFinite = false → Number.parse (Number.format x) = .nan ∧
      ofValue (.number x) .number = .notANumber) ∧
    (∀ x y : Double, x.isFinite = true → y.isFinite = true → ∃ o, x.compare? y = some o ∧
      compare collate order (some (ofValue (.number x) .number))
        (some (ofValue (.number y) .number)) = directed order o) ∧
    ∀ x y : Double, x.isFinite = false ∨ y.isFinite = false →
      compare collate order (some (ofValue (.number x) .number))
        (some (ofValue (.number y) .number)) = Ord.compare x.isFinite y.isFinite := by
  refine ⟨fun x hx => ⟨?_, ?_, ?_, ?_⟩, fun bits hbits => ?_, fun x hx => ⟨?_, ?_⟩,
    fun x y => compare_ofValue_number, fun x y => compare_ofValue_not_finite⟩
  · obtain ⟨negative, body, q, hformat, hbody, -⟩ := Number.exists_signed_format hx
    exact ⟨negative, body, q, hformat, hbody⟩
  · obtain ⟨negative, body, q, hformat, hbody, -⟩ := Number.exists_signed_format hx
    intro c hc
    rw [hformat] at hc
    exact (Number.mem_signed hc).imp_right (hbody.isDigit_or_point.2 c)
  · rw [Number.parse_format, if_pos hx]
    exact Double.compare?_self_withPlainZero hx
  · rw [ofValue_number, if_pos hx]
  · rw [Number.parse_format, if_pos hbits]
    exact Double.toBits_withPlainZero hbits
  · rw [Number.parse_format, hx]
    rfl
  · rw [ofValue_number, hx]
    rfl

/-- The least positive double, one, negative zero and an infinity. -/
theorem number_roundTrip_least :
    (Double.ofBits 1).isFinite = true ∧ (Double.ofBits 0x3FF0000000000000).isFinite = true ∧
    (Double.ofBits 1).compare? (Number.parse (Number.format (.ofBits 1))) = some .eq ∧
    (Number.parse (Number.format (.ofBits 1))).toBits = 1 ∧
    (Number.parse (Number.format (.ofBits Double.negativeZeroBits))).toBits = 0 ∧
    ofValue (.number (.infinite true)) .number = .notANumber ∧
    (∃ o, (Double.ofBits 1).compare? (.ofBits 0x3FF0000000000000) = some o ∧
      compare (fun _ _ => .eq) .descending (some (ofValue (.number (.ofBits 1)) .number))
        (some (ofValue (.number (.ofBits 0x3FF0000000000000)) .number)) =
          directed .descending o) ∧
    compare (fun _ _ => .eq) .descending (some (ofValue (.number (.infinite false)) .number))
      (some (ofValue (.number (.ofBits 1)) .number)) = .lt := by
  have hleast : (Double.ofBits 1).isFinite = true := by decide
  have hone : (Double.ofBits 0x3FF0000000000000).isFinite = true := by decide
  have hminus : (Double.ofBits Double.negativeZeroBits).isFinite = true := by decide
  have hinfinite (negative : Bool) : (Double.infinite negative).isFinite = false := rfl
  obtain ⟨hfinite, hbits, hother, horder, hfirst⟩ :=
    number_roundTrip (fun _ _ => .eq) .descending
  obtain ⟨-, -, hequal, -⟩ := hfinite _ hleast
  exact ⟨hleast, hone, hequal, hbits _ hleast, hbits _ hminus, (hother _ (hinfinite true)).2,
    horder _ _ hleast hone, hfirst _ _ (.inl (hinfinite false))⟩

/-- The keys of the infinities are not in the order of the numbers: positive infinity is more than
one, and its key is first. -/
theorem compare_ofValue_infinite : ¬∀ (x y : Double) (o : Ordering), x.compare? y = some o →
    compare (fun _ _ => .eq) .ascending (some (ofValue (.number x) .number))
      (some (ofValue (.number y) .number)) = o := by
  intro h
  have hgreater : (Double.infinite false).compare? (.ofBits 0x3FF0000000000000) = some .gt := by
    decide
  have hfirst : compare (fun _ _ => .eq) .ascending
      (some (ofValue (.number (.infinite false)) .number))
      (some (ofValue (.number (.ofBits 0x3FF0000000000000)) .number)) = .lt :=
    compare_ofValue_not_finite (.inl rfl)
  rw [h _ _ _ hgreater] at hfirst
  cases hfirst

end SortKey

end StyleHost
