import Mathlib.Data.Nat.ModEq
import StyleHost.Number.Text

/-!
# What the first look at a number counts

Counting stands for the count itself modulo `2 ^ 32`, as long as each character is a digit or a
point. Counters that must not begin again follow the same course up to the character where one of
them would come to `2 ^ 31`.

* `Number.scan_wrap` : the counters after a text.
* `Number.scan_advance` : the same text with counters that break down.
* `Number.Tally.allows_of` : when what was counted allows for a number.
-/

namespace StyleHost

namespace Number

variable {cs : List Char} {d p n : ℕ}

/-- Whether a character is counted. -/
def counts (c : Char) : Bool := c.isDigit || c == '.'

theorem isDigit_point : '.'.isDigit = false := by decide

theorem counts_of_isDigit {c : Char} (h : c.isDigit = true) : counts c = true := by
  simp [counts, h]

theorem counts_point : counts '.' = true := by decide

theorem ne_point_of_isDigit {c : Char} (h : c.isDigit = true) : c ≠ '.' := by
  rintro rfl
  rw [isDigit_point] at h
  cases h

/-! ### Counters -/

theorem ofNat_succ (n : ℕ) : Int32.ofNat n + 1 = Int32.ofNat (n + 1) := by
  rw [Int32.ofNat_add]
  rfl

theorem ofNat_eq_zero_iff : Int32.ofNat n = 0 ↔ 2 ^ 32 ∣ n := by
  rw [← Int32.toBitVec_inj]
  simp [BitVec.ofNat_eq_ofNat, ← BitVec.toNat_inj, Nat.dvd_iff_mod_eq_zero]

theorem ofNat_eq_maxValue_iff (h : n < 2 ^ 31) :
    Int32.ofNat n = Int32.maxValue ↔ n + 1 = 2 ^ 31 := by
  have hmax : Int32.maxValue = Int32.ofNat (2 ^ 31 - 1) := rfl
  have hmod : n % 2 ^ 32 = n := Nat.mod_eq_of_lt (h.trans (by decide))
  rw [hmax, ← Int32.toBitVec_inj, ← BitVec.toNat_inj]
  simp only [Int32.toBitVec_ofNat', BitVec.toNat_ofNat, hmod]
  omega

theorem advance_ofNat (h : n < 2 ^ 31) : advance (.ofNat n) =
    if n + 1 = 2 ^ 31 then .error counterOverflow else .ok (.ofNat (n + 1)) := by
  simp only [advance, ofNat_eq_maxValue_iff h, ofNat_succ]

/-- The counters after so many digits and points. -/
def Tally.of (d p : ℕ) : Tally := ⟨.ofNat d, .ofNat p⟩

/-- **When what was counted allows for a number**, with one point at most: if the digits are not a
multiple of `2 ^ 32`. -/
theorem Tally.allows_of (hp : p ≤ 1) : (Tally.of d p).Allows ↔ ¬2 ^ 32 ∣ d := by
  have hpoints : Int32.ofNat p ≤ 1 := by
    obtain rfl | rfl : p = 0 ∨ p = 1 := by omega
    · decide
    · decide
  simp only [Allows, of, ne_eq, ofNat_eq_zero_iff, hpoints, and_true]

/-! ### Texts -/

section Step

variable {m : Type → Type} [Monad m] {raise : Int32 → m Int32} {c : Char}

theorem scan_digit (h : c.isDigit = true) : scan raise (.of d p) (c :: cs) =
    raise (.ofNat d) >>= fun n => scan raise ⟨n, .ofNat p⟩ cs := by
  rw [scan, if_pos h]
  rfl

theorem scan_point : scan raise (.of d p) ('.' :: cs) =
    raise (.ofNat p) >>= fun n => scan raise ⟨.ofNat d, n⟩ cs := by
  rw [scan, if_neg (by simp [isDigit_point]), if_pos rfl]
  rfl

theorem scan_other {t : Tally} (h : counts c = false) :
    scan raise t (c :: cs) = pure none := by
  simp only [counts, Bool.or_eq_false_iff, beq_eq_false_iff_ne] at h
  simp [scan, h]

end Step

theorem scan_wrap_digit {c : Char} (h : c.isDigit = true) :
    scan wrap (.of d p) (c :: cs) = scan wrap (.of (d + 1) p) cs := by
  rw [scan_digit h, Tally.of, ← ofNat_succ]
  rfl

theorem scan_wrap_point : scan wrap (.of d p) ('.' :: cs) = scan wrap (.of d (p + 1)) cs := by
  rw [scan_point, Tally.of, ← ofNat_succ]
  rfl

/-- A character is a digit, a point or not counted at all. -/
theorem digit_or_point_or_other (c : Char) :
    c.isDigit = true ∨ c = '.' ∨ counts c = false := by
  by_cases hdigit : c.isDigit = true
  · exact .inl hdigit
  · by_cases hpoint : c = '.'
    · exact .inr (.inl hpoint)
    · exact .inr (.inr (by simp [counts, hdigit, hpoint]))

/-- **The counters after a text** of digits and points, and none after any other text. -/
theorem scan_wrap (d p : ℕ) (cs : List Char) : (scan wrap (.of d p) cs).run =
    if cs.all counts then some (.of (d + cs.countP Char.isDigit) (p + cs.count '.')) else none := by
  induction cs generalizing d p with
  | nil => rfl
  | cons c cs ih =>
    rcases digit_or_point_or_other c with hdigit | rfl | hother
    · rw [scan_wrap_digit hdigit, ih, List.all_cons, counts_of_isDigit hdigit, Bool.true_and,
        List.countP_cons_of_pos hdigit, List.count_cons_of_ne (ne_point_of_isDigit hdigit),
        Nat.add_right_comm d 1, Nat.add_assoc d]
    · rw [scan_wrap_point, ih, List.all_cons, counts_point, Bool.true_and,
        List.countP_cons_of_neg (by simp [isDigit_point]), List.count_cons_self,
        Nat.add_right_comm p 1, Nat.add_assoc p]
    · rw [scan_other hother, List.all_cons, hother]
      rfl

/-- **Counters that must not begin again** break down where the digits or the points in front of the
first other character come to `2 ^ 31`, and otherwise count the same. -/
theorem scan_advance (hd : d < 2 ^ 31) (hp : p < 2 ^ 31) (cs : List Char) :
    scan advance (.of d p) cs =
      if 2 ^ 31 ≤ d + (cs.takeWhile counts).countP Char.isDigit ∨
          2 ^ 31 ≤ p + (cs.takeWhile counts).count '.' then .error counterOverflow
      else .ok (scan wrap (.of d p) cs).run := by
  induction cs generalizing d p with
  | nil =>
    rw [if_neg (by simpa using ⟨hd, hp⟩)]
    rfl
  | cons c cs ih =>
    rcases digit_or_point_or_other c with hdigit | rfl | hother
    · rw [scan_digit hdigit, advance_ofNat hd, scan_wrap_digit hdigit,
        List.takeWhile_cons_of_pos (counts_of_isDigit hdigit), List.countP_cons_of_pos hdigit,
        List.count_cons_of_ne (ne_point_of_isDigit hdigit)]
      split_ifs with hlast hover hover
      · rfl
      · omega
      · exact (ih (by omega) hp).trans (if_pos (by omega))
      · exact (ih (by omega) hp).trans (if_neg (by omega))
    · rw [scan_point, advance_ofNat hp, scan_wrap_point,
        List.takeWhile_cons_of_pos counts_point,
        List.countP_cons_of_neg (by simp [isDigit_point]), List.count_cons_self]
      split_ifs with hlast hover hover
      · rfl
      · omega
      · exact (ih hd (by omega)).trans (if_pos (by omega))
      · exact (ih hd (by omega)).trans (if_neg (by omega))
    · rw [scan_other hother, scan_other hother,
        List.takeWhile_cons_of_neg (by simp [hother]), if_neg (by simpa using ⟨hd, hp⟩)]
      rfl

end Number

end StyleHost
