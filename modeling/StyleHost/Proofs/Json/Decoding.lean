import StyleHost.Proofs.Json.Strings

/-!
# Values are read as what they say

The readers of fields and the decoders that they agree with. A value of another kind is an error,
and so is a number that is not a natural number of 64 bits: one with a sign, a point or an exponent
is a float or a negative integer, whatever its value.

* `Tree.flag?`, `Tree.word?`, `Tree.string?`, `Tree.optional?` : the decoders.
* `Takes.flag`, `Takes.word`, `Takes.string`, `Takes.optional` : the readers agree with them.
-/

namespace StyleHost

namespace Json

variable {α β : Type} {cs rest : List Char}

/-! ### Values of the wrong kind -/

theorem error_of_bind {x : Except Error α} {f : α → Except Error β}
    (h : ∀ a, ∃ e, f a = .error e) : ∃ e, (x >>= f) = .error e := by
  rcases x with e | a
  · exact ⟨e, rfl⟩
  · exact h a

theorem failType_error (c : Cursor) (name : String) :
    ∃ e, (failType c name : Except Error α) = .error e := by
  unfold failType
  split
  case h_8 =>
    split
    · exact error_of_bind fun _ => ⟨_, rfl⟩
    · exact ⟨_, rfl⟩
  all_goals first
    | exact error_of_bind fun _ => ⟨_, rfl⟩
    | exact ⟨_, rfl⟩

/-! ### Decoders -/

namespace Tree

/-- A boolean. -/
def flag? : Tree → Option Bool
  | boolean b => some b
  | _ => none

/-- A natural number of 64 bits, without a point and an exponent. -/
def word? : Tree → Option UInt64
  | number n =>
    match n.negative, n.fraction, n.exponent with
    | false, none, none =>
      let value := Nat.ofDigitChars 10 n.whole 0
      if value ≤ maxWord then some (UInt64.ofNat value) else none
    | _, _, _ => none
  | _ => none

/-- A string that denotes a text. -/
def string? : Tree → Option String
  | text s => s
  | _ => none

/-- A value that may be null instead. -/
def optional? (decode : Tree → Option α) : Tree → Option (Option α)
  | null => some none
  | t => (decode t).map some

end Tree

/-! ### Readers of fields -/

theorem Takes.flag : Takes readFlag fun t => wanted t.flag? := by
  intro t cs rest before h hclosed hbefore position
  obtain ⟨position', hskip⟩ := h.skipBlanks hbefore position
  rw [readFlag, hskip]
  cases h with
  | boolean b =>
    obtain ⟨position'', hread⟩ := Reads.flag b position' rest hclosed
    have hhead : (⟨position', writeFlag b ++ rest⟩ : Cursor).skipBlanks =
        ⟨position', writeFlag b ++ rest⟩ := by
      cases b <;> exact Cursor.skipBlanks_cons _ (by decide)
    rw [readFlag, hhead] at hread
    exact ⟨position'', hread⟩
  | number n =>
    obtain ⟨d, ds, hd, hne⟩ := n.exists_chars_eq rest
    have ht := hne 't' (by decide) (by decide)
    have hf := hne 'f' (by decide) (by decide)
    rw [hd]
    dsimp only
    split
    case h_1 heq => exact absurd (List.cons.inj heq).1 ht
    case h_2 heq => exact absurd (List.cons.inj heq).1 hf
    case h_3 => exact failType_error _ _
  | null | text | emptyList | list | emptyObject | object => exact failType_error _ _

/-! ### Words -/

/-- The reading of a number does not come to a natural number. -/
def NotNatural (x : Except Error (Numeral × Cursor)) : Prop := ∀ k c, x ≠ .ok (.natural k, c)

section naturals

variable {positive : Bool} {value : Nat} {shift : Int} {c c' : Cursor}

theorem NotNatural.error (e : Error) : NotNatural (.error e) := nofun

theorem NotNatural.float (x : Double) (c : Cursor) : NotNatural (.ok (.float x, c)) := nofun

theorem floatOf_notNatural : NotNatural (floatOf positive value shift c) := by
  unfold floatOf
  split
  · exact .float _ _
  · exact .error _

theorem readExponent_notNatural : NotNatural (readExponent positive value shift c) := by
  unfold readExponent
  dsimp only
  -- with a plus sign, with a minus sign and without one
  split
  all_goals
    split
    · split <;> exact .error _
    · split
      · exact floatOf_notNatural
      · split
        · exact .error _
        · exact .float _ _

theorem readEnd_notNatural : NotNatural (readEnd positive value shift c) := by
  unfold readEnd
  split
  · exact readExponent_notNatural
  · exact readExponent_notNatural
  · exact floatOf_notNatural

theorem readFraction_notNatural : NotNatural (readFraction positive value shift c) := by
  unfold readFraction
  dsimp only
  split
  · split <;> exact .error _
  · exact readEnd_notNatural

/-- Only all of the digits make up an integer. -/
theorem appendDigits_all {bound value : Nat} (count : Nat) (ds : List Char)
    (h : count + ds.length ≤ (appendDigits bound value count ds).2.1) (hvalue : value ≤ bound) :
    (appendDigits bound value count ds).1 = Nat.ofDigitChars 10 ds value ∧
      Nat.ofDigitChars 10 ds value ≤ bound := by
  induction ds generalizing value count with
  | nil => exact ⟨rfl, hvalue⟩
  | cons d ds ih =>
    rw [appendDigits] at h ⊢
    rw [Nat.ofDigitChars_cons]
    split at h
    case isTrue hle =>
      rw [if_pos hle]
      exact ih (count + 1) (by rw [List.length_cons] at h; omega) hle
    case isFalse =>
      dsimp only at h
      rw [List.length_cons] at h
      omega

/-- **An integer** is read from digits alone, within 64 bits and without a sign. -/
theorem readNumber_natural {k : Nat} (h : readNumber positive c = .ok (.natural k, c')) :
    positive = true ∧ c' = c.digits.2 ∧ k = Nat.ofDigitChars 10 c.digits.1 0 ∧ k ≤ maxWord ∧
      (∀ d ∈ c'.rest.head?, d ≠ '.' ∧ d ≠ 'e' ∧ d ≠ 'E') := by
  unfold readNumber at h
  split at h
  case h_1 => split at h <;> cases h
  case h_2 => cases h
  case h_3 digits after _ _ heq =>
    rw [heq]
    dsimp only at h ⊢
    unfold readTail at h
    split at h
    case h_1 => exact absurd h (readFraction_notNatural k c')
    case h_2 => exact absurd h (readExponent_notNatural k c')
    case h_3 => exact absurd h (readExponent_notNatural k c')
    case h_4 hpoint he hE =>
      -- no digit may have been dropped, else the number were a float
      split at h
      case isFalse => exact absurd h (floatOf_notNatural k c')
      case isTrue hall =>
        have hcount : digits.length - (appendDigits maxWord 0 0 digits).2.1 = 0 := hall
        obtain ⟨hvalue, hle⟩ := appendDigits_all 0 digits (by omega) (Nat.zero_le maxWord)
        unfold integerOf at h
        split at h
        case isFalse => split at h <;> cases h
        case isTrue hpositive =>
          cases h
          refine ⟨hpositive, rfl, hvalue, hvalue ▸ hle, fun d hd => ?_⟩
          obtain ⟨ds, hds⟩ := List.head?_eq_some_iff.1 hd
          refine ⟨?_, ?_, ?_⟩ <;> rintro rfl
          · exact hpoint ds hds
          · exact he ds hds
          · exact hE ds hds

end naturals

theorem wordOf_error {x : Except Error (Numeral × Cursor)} (h : NotNatural x) (name : String) :
    ∃ e, (x >>= fun r => wordOf name r.1 r.2) = .error e := by
  rcases x with e | ⟨k | k | v, c⟩
  · exact ⟨e, rfl⟩
  · exact absurd rfl (h k c)
  · exact ⟨_, rfl⟩
  · exact ⟨_, rfl⟩

/-- A number that is no word is not read as an integer. -/
theorem readNumber_notNatural {n : Figures} (hword : (Tree.number n).word? = none)
    (hclosed : Closed rest) (position : Position) :
    NotNatural (readNumber (!n.negative) ⟨position, n.unsigned rest⟩) := by
  intro k c h
  obtain ⟨position', hdigits⟩ := digits_append position n.isWhole.2
    (fractionChars_head n.fraction n.exponent hclosed)
  rw [Figures.unsigned] at h
  obtain ⟨hpositive, hc, hk, hle, hhead⟩ := readNumber_natural h
  rw [hdigits] at hc hk
  rw [Bool.not_eq_true'] at hpositive
  subst hc hk
  rcases hfraction : n.fraction with _ | ds
  · rcases hexponent : n.exponent with _ | e
    · dsimp only at hle
      simp [Tree.word?, hpositive, hfraction, hexponent] at hword
      omega
    · rw [hfraction, hexponent] at hhead
      have := hhead e.letter rfl
      rcases e.isLetter with h | h <;> simp_all
  · rw [hfraction] at hhead
    exact absurd rfl (hhead '.' rfl).1

theorem readWord_other {d : Char} {ds : List Char} {position : Position} {c : Cursor}
    (name : String) (hskip : c.skipBlanks = ⟨position, d :: ds⟩) (hminus : d ≠ '-')
    (hdigit : d.isDigit = false) : ∃ e, readWord name c = .error e := by
  rw [readWord, hskip]
  dsimp only
  split
  case h_1 heq => exact absurd (List.cons.inj heq).1 hminus
  case h_2 heq =>
    obtain ⟨rfl, rfl⟩ := List.cons.inj heq
    rw [hdigit, if_neg (by decide)]
    exact failType_error _ _
  case h_3 heq => cases heq

theorem readWord_digit {d : Char} {ds : List Char} {position : Position} {c : Cursor}
    (name : String) (hskip : c.skipBlanks = ⟨position, d :: ds⟩) (hdigit : d.isDigit = true) :
    readWord name c =
      (readNumber true ⟨position, d :: ds⟩ >>= fun r => wordOf name r.1 r.2) := by
  have hminus : d ≠ '-' := by rintro rfl; cases hdigit
  rw [readWord, hskip]
  dsimp only
  split
  case h_1 heq => exact absurd (List.cons.inj heq).1 hminus
  case h_2 heq =>
    obtain ⟨rfl, rfl⟩ := List.cons.inj heq
    exact if_pos hdigit
  case h_3 heq => cases heq

/-- A number is a word if its tree is one. -/
theorem readWord_number (name : String) {n : Figures} (hclosed : Closed rest) {c : Cursor}
    {position : Position} (hskip : c.skipBlanks = ⟨position, n.chars rest⟩) :
    Comes (readWord name c) rest (wanted (Tree.number n).word?) := by
  obtain ⟨d, tail, hd⟩ := List.exists_cons_of_ne_nil n.isWhole.1
  have hdigit : d.isDigit = true := n.isWhole.2 d (hd ▸ List.mem_cons_self)
  cases hnegative : n.negative with
  | true =>
    have hnone : (Tree.number n).word? = none := by simp [Tree.word?, hnegative]
    have hread := readNumber_notNatural hnone hclosed (position.afterChar '-')
    rw [hnegative] at hread
    rw [hnone, readWord, hskip, Figures.chars, if_pos hnegative]
    exact wordOf_error hread name
  | false =>
    have hchars : n.chars rest = n.unsigned rest := if_neg (by simp [hnegative])
    have hhead : n.unsigned rest =
        d :: (tail ++ fractionChars n.fraction (exponentChars n.exponent rest)) := by
      rw [Figures.unsigned, hd, List.cons_append]
    rw [hchars, hhead] at hskip
    rw [readWord_digit name hskip hdigit, ← hhead]
    cases hword : (Tree.number n).word? with
    | none =>
      have hread := readNumber_notNatural hword hclosed position
      rw [hnegative] at hread
      exact wordOf_error hread name
    | some w =>
      simp only [Tree.word?, hnegative] at hword
      split at hword
      case h_2 => cases hword
      case h_1 hfraction hexponent =>
        split at hword
        case isFalse => cases hword
        case isTrue hle =>
          cases hword
          obtain ⟨position', hread⟩ :=
            readNumber_digits n.isWhole.1 n.isWhole.2 n.isShort hle position hclosed
          refine ⟨position', ?_⟩
          rw [Figures.unsigned, hfraction, hexponent]
          dsimp only [fractionChars, exponentChars]
          rw [hread]
          rfl

theorem Takes.word (name : String) : Takes (readWord name) fun t => wanted t.word? := by
  intro t cs rest before h hclosed hbefore position
  obtain ⟨position', hskip⟩ := h.skipBlanks hbefore position
  cases h with
  | number n => exact readWord_number name hclosed hskip
  | boolean b => cases b <;> exact readWord_other name hskip (by decide) (by decide)
  | null | text | emptyList | list | emptyObject | object =>
    exact readWord_other name hskip (by decide) (by decide)

theorem Takes.string (name : String) : Takes (readString name) fun t => wanted t.string? := by
  intro t cs rest before h hclosed hbefore position
  obtain ⟨position', hskip⟩ := h.skipBlanks hbefore position
  rw [readString, hskip]
  cases h with
  | text ps => exact readText_quoted ps (position'.afterChar '"') rest
  | number n =>
    obtain ⟨d, ds, hd, hne⟩ := n.exists_chars_eq rest
    have hquote := hne '"' (by decide) (by decide)
    rw [hd]
    dsimp only
    split
    case h_1 heq => exact absurd (List.cons.inj heq).1 hquote
    case h_2 => exact failType_error _ _
  | boolean b => cases b <;> exact failType_error _ _
  | null | emptyList | list | emptyObject | object => exact failType_error _ _

theorem Tree.optional?_of_some {decode : Tree → Option α} {t : Tree} {a : α}
    (h : decode t = some a) : ∃ o, t.optional? decode = some o := by
  cases t <;> simp [optional?, h]

theorem wanted_map (f : α → β) (o : Option α) : wanted (o.map f) = (wanted o).map f := by
  cases o <;> rfl

theorem Takes.optional {read : Cursor → Except Error (α × Cursor)} {decode : Tree → Option α}
    (hread : Takes read fun t => wanted (decode t)) :
    Takes (readOptional read) fun t => wanted (t.optional? decode) := by
  intro t cs rest before h hclosed hbefore position
  obtain ⟨position', hskip⟩ := h.skipBlanks hbefore position
  have hvalue := (hread h hclosed (.refl _) position').map some
  rw [← wanted_map] at hvalue
  rw [readOptional, hskip]
  cases h with
  | null =>
    obtain ⟨position'', hword⟩ :=
      Cursor.expectWord_append (position'.afterChar 'n') "ull".toList rest
    refine ⟨position'', ?_⟩
    change (do .ok (none, ← Cursor.expectWord _ "ull".toList)) = _
    exact congrArg (fun x => x.map fun c => ((none : Option α), c)) hword
  | number n =>
    obtain ⟨d, ds, hd, hne⟩ := n.exists_chars_eq rest
    have hn := hne 'n' (by decide) (by decide)
    rw [hd] at hvalue ⊢
    dsimp only
    split
    case h_1 heq => exact absurd (List.cons.inj heq).1 hn
    case h_2 => exact hvalue
  | boolean b => cases b <;> exact hvalue
  | text | emptyList | list | emptyObject | object => exact hvalue

end Json

end StyleHost
