import StyleHost.Proofs.Number.Rounding
import StyleHost.Proofs.Number.Tally
import StyleHost.Proofs.Text.Trim

/-!
# Numbers as they are written

The number grammar of XPath 1.0 as a relation between a text and the number that it writes: the
place of a digit before or behind the point is what it counts. Literals are written in more ways
than numbers, but a literal of digits and points alone is a number. So reading a text follows the
grammar, and gives the double that the number written is rounded to, as long as the digits are not a
multiple of `2 ^ 32`. All other texts are not numbers.

* `Number.Unsigned`, `Number.Writes` : the grammar.
* `Number.splitDigits?_eq_some_iff` : how an unsigned number is taken apart.
* `Number.readLiteral_signed` : literals of digits and points.
* `Number.parse_writes` : what is read.
-/

namespace StyleHost

namespace Number

open Text

variable {cs whole frac rest body before after : List Char} {q : ℚ} {negative : Bool} {s : String}

/-! ### The grammar -/

/-- A run of digits that is not empty. -/
structure IsDigits (cs : List Char) : Prop where
  ne_nil : cs ≠ []
  isDigit : ∀ c ∈ cs, c.isDigit = true

/-- The digit that a character stands for. -/
def digit (c : Char) : ℕ := c.toNat - '0'.toNat

/-- The number that digits before the point write. -/
def wholeValue : List Char → ℕ
  | [] => 0
  | c :: cs => digit c * 10 ^ cs.length + wholeValue cs

/-- The number that digits behind the point write. -/
def fractionValue : List Char → ℚ
  | [] => 0
  | c :: cs => (digit c + fractionValue cs) / 10

/-- A text writes a number without sign: `Digits ('.' Digits?)? | '.' Digits`. -/
inductive Unsigned : List Char → ℚ → Prop
  | integer {whole : List Char} (hwhole : IsDigits whole) : Unsigned whole (wholeValue whole)
  | pointed {whole : List Char} (hwhole : IsDigits whole) :
    Unsigned (whole ++ ['.']) (wholeValue whole)
  | decimal {whole frac : List Char} (hwhole : IsDigits whole) (hfrac : IsDigits frac) :
    Unsigned (whole ++ '.' :: frac) (wholeValue whole + fractionValue frac)
  | fraction {frac : List Char} (hfrac : IsDigits frac) :
    Unsigned ('.' :: frac) (fractionValue frac)

/-- A number with the sign in front of it. -/
def signed (negative : Bool) (body : List Char) : List Char :=
  if negative then '-' :: body else body

/-- A text writes the number with the given sign and size, with blanks around it. -/
def Writes (s : String) (negative : Bool) (q : ℚ) : Prop :=
  ∃ before body after, s.toList = before ++ (signed negative body ++ after) ∧
    (∀ c ∈ before, isXmlSpace c = true) ∧ (∀ c ∈ after, isXmlSpace c = true) ∧ Unsigned body q

/-! ### The value of digits -/

theorem digitsValue_append (cs ds : List Char) :
    digitsValue (cs ++ ds) = digitsValue cs * 10 ^ ds.length + wholeValue ds := by
  have hfold (n : ℕ) : ds.foldl (fun n c => 10 * n + (c.toNat - '0'.toNat)) n =
      n * 10 ^ ds.length + wholeValue ds := by
    induction ds generalizing n with
    | nil => simp [wholeValue]
    | cons d ds ih =>
      rw [List.foldl_cons, ih, wholeValue, List.length_cons, pow_succ, digit]
      ring
  rw [digitsValue, List.foldl_append]
  exact hfold _

theorem digitsValue_eq (cs : List Char) : digitsValue cs = wholeValue cs := by
  have h := digitsValue_append [] cs
  simpa [digitsValue] using h

theorem wholeValue_zeros (n : ℕ) : wholeValue (List.replicate n '0') = 0 := by
  induction n with
  | zero => rfl
  | succ n ih => simp [List.replicate_succ, wholeValue, ih, digit]

/-- Digits behind the point are as many tenths of tenths as there are of them. -/
theorem fractionValue_eq (cs : List Char) :
    fractionValue cs = wholeValue cs / 10 ^ cs.length := by
  induction cs with
  | nil => simp [fractionValue, wholeValue]
  | cons c cs ih =>
    rw [fractionValue, wholeValue, ih, List.length_cons]
    push_cast
    field_simp
    ring

theorem value_append (whole frac : List Char) :
    (digitsValue (whole ++ frac) : ℚ) / (10 ^ frac.length : ℕ) =
      wholeValue whole + fractionValue frac := by
  rw [digitsValue_append, digitsValue_eq, fractionValue_eq]
  push_cast
  field_simp

/-! ### Taking a number apart -/

/-- Where the digits of a text end. -/
theorem takeWhile_isDigit_append (frac : List Char) (hwhole : ∀ c ∈ whole, c.isDigit = true) :
    (whole ++ '.' :: frac).takeWhile Char.isDigit = whole ∧
      (whole ++ '.' :: frac).dropWhile Char.isDigit = '.' :: frac := by
  rw [List.takeWhile_append_of_pos hwhole, List.dropWhile_append_of_pos hwhole,
    List.takeWhile_cons_of_neg (by simp [isDigit_point]),
    List.dropWhile_cons_of_neg (by simp [isDigit_point]), List.append_nil]
  exact ⟨rfl, rfl⟩

theorem splitDigits?_of_digits (h : IsDigits whole) :
    splitDigits? whole = some (whole, [], []) := by
  have htake : whole.takeWhile Char.isDigit = whole := List.takeWhile_eq_self_iff.2 h.isDigit
  have hdrop : whole.dropWhile Char.isDigit = [] := List.dropWhile_eq_nil_iff.2 h.isDigit
  simp [splitDigits?, splitFraction, htake, hdrop, h.ne_nil]

theorem splitDigits?_of_point (hwhole : ∀ c ∈ whole, c.isDigit = true)
    (hfrac : ∀ c ∈ frac, c.isDigit = true) (hne : whole ≠ [] ∨ frac ≠ []) :
    splitDigits? (whole ++ '.' :: frac) = some (whole, frac, []) := by
  obtain ⟨htake, hdrop⟩ := takeWhile_isDigit_append frac hwhole
  have htake' : frac.takeWhile Char.isDigit = frac := List.takeWhile_eq_self_iff.2 hfrac
  have hdrop' : frac.dropWhile Char.isDigit = [] := List.dropWhile_eq_nil_iff.2 hfrac
  have hsome : (whole.isEmpty && frac.isEmpty) = false := by
    rcases hne with hne | hne <;> simp [hne]
  simp [splitDigits?, splitFraction, htake, hdrop, htake', hdrop', hsome]

/-- What stands behind the digits is the rest of the text. -/
theorem splitFraction_append (cs : List Char) :
    (∀ c ∈ (splitFraction cs).1, c.isDigit = true) ∧
      (cs = (splitFraction cs).2 ∧ (splitFraction cs).1 = [] ∨
        cs = '.' :: ((splitFraction cs).1 ++ (splitFraction cs).2)) := by
  unfold splitFraction
  split
  · exact ⟨fun c hc => List.mem_takeWhile_imp hc, .inr (by rw [List.takeWhile_append_dropWhile])⟩
  · exact ⟨nofun, .inl ⟨rfl, rfl⟩⟩

/-- The digits of a literal, a point among them, and what follows them. -/
theorem append_of_splitDigits? (h : splitDigits? body = some (whole, frac, rest)) :
    (∀ c ∈ whole, c.isDigit = true) ∧ (∀ c ∈ frac, c.isDigit = true) ∧
      (whole ≠ [] ∨ frac ≠ []) ∧
      (body = whole ++ rest ∧ frac = [] ∨ body = whole ++ '.' :: (frac ++ rest)) := by
  have hwhole : ∀ c ∈ body.takeWhile Char.isDigit, c.isDigit = true :=
    fun c hc => List.mem_takeWhile_imp hc
  obtain ⟨hfrac, hrest⟩ := splitFraction_append (body.dropWhile Char.isDigit)
  have hsplit := List.takeWhile_append_dropWhile (p := Char.isDigit) (l := body)
  simp only [splitDigits?] at h
  split_ifs at h with hempty
  simp only [Option.some.injEq, Prod.mk.injEq] at h
  obtain ⟨rfl, rfl, rfl⟩ := h
  refine ⟨hwhole, hfrac, ?_, ?_⟩
  · by_contra hnone
    rw [not_or, not_not, not_not] at hnone
    exact hempty (by simp [hnone])
  · rcases hrest with ⟨heq, hnil⟩ | heq
    · rw [← heq]
      exact .inl ⟨hsplit.symm, hnil⟩
    · rw [← heq]
      exact .inr hsplit.symm

/-- **An unsigned number is taken apart at its point**, and no other text can be without a rest. -/
theorem splitDigits?_eq_some_iff : splitDigits? body = some (whole, frac, []) ↔
    (∀ c ∈ whole, c.isDigit = true) ∧ (∀ c ∈ frac, c.isDigit = true) ∧
      (body = whole ∧ frac = [] ∧ whole ≠ [] ∨
        body = whole ++ '.' :: frac ∧ (whole ≠ [] ∨ frac ≠ [])) := by
  constructor
  · intro h
    obtain ⟨hwhole, hfrac, hne, hbody⟩ := append_of_splitDigits? h
    simp only [List.append_nil] at hbody
    refine ⟨hwhole, hfrac, hbody.imp (fun ⟨heq, hnil⟩ => ⟨heq, hnil, ?_⟩) fun heq => ⟨heq, hne⟩⟩
    exact hne.resolve_right (not_not.2 hnil)
  · rintro ⟨hwhole, hfrac, ⟨rfl, rfl, hne⟩ | ⟨rfl, hne⟩⟩
    · exact splitDigits?_of_digits ⟨hne, hwhole⟩
    · exact splitDigits?_of_point hwhole hfrac hne

/-- The grammar says what the parts of a number amount to. -/
theorem unsigned_iff : Unsigned body q ↔ ∃ whole frac, splitDigits? body = some (whole, frac, []) ∧
    q = digitsValue (whole ++ frac) / (10 ^ frac.length : ℕ) := by
  simp only [value_append]
  constructor
  · intro h
    cases h with
    | integer hwhole => exact ⟨_, [], splitDigits?_of_digits hwhole, by simp [fractionValue]⟩
    | @pointed whole hwhole =>
      exact ⟨whole, [], splitDigits?_of_point hwhole.isDigit nofun (.inl hwhole.ne_nil),
        by simp [fractionValue]⟩
    | @decimal whole frac hwhole hfrac =>
      exact ⟨whole, frac, splitDigits?_of_point hwhole.isDigit hfrac.isDigit (.inl hwhole.ne_nil),
        rfl⟩
    | @fraction frac hfrac =>
      have hsplit : splitDigits? ([] ++ '.' :: frac) = some ([], frac, []) :=
        splitDigits?_of_point (by simp) hfrac.isDigit (.inr hfrac.ne_nil)
      exact ⟨[], frac, hsplit, by simp [wholeValue]⟩
  · rintro ⟨whole, frac, hsplit, rfl⟩
    obtain ⟨hwhole, hfrac, ⟨rfl, rfl, hne⟩ | ⟨rfl, hne⟩⟩ := splitDigits?_eq_some_iff.1 hsplit
    · simpa [fractionValue] using Unsigned.integer ⟨hne, hwhole⟩
    · by_cases hnil : whole = []
      · subst hnil
        simpa [wholeValue] using Unsigned.fraction ⟨hne.resolve_left (· rfl), hfrac⟩
      · by_cases hnil' : frac = []
        · subst hnil'
          simpa [fractionValue] using Unsigned.pointed ⟨hnil, hwhole⟩
        · exact .decimal ⟨hnil, hwhole⟩ ⟨hnil', hfrac⟩

/-! ### Literals of digits and points -/

theorem toLower_of_counts {c : Char} (h : counts c = true) : c.toLower = c := by
  have hlast : c.val.toNat ≤ 57 := by
    simp only [counts, Char.isDigit, Bool.or_eq_true, Bool.and_eq_true, decide_eq_true_eq,
      beq_iff_eq] at h
    rcases h with ⟨-, hlast⟩ | rfl
    · exact UInt32.le_iff_toNat_le.1 hlast
    · decide
  refine dif_neg ?_
  rintro ⟨hfirst, -⟩
  have hfirst' : 65 ≤ c.val.toNat := UInt32.le_iff_toNat_le.1 hfirst
  omega

theorem scale?_of_counts (hne : rest ≠ []) (h : ∀ c ∈ rest, counts c = true) :
    scale? rest = none := by
  obtain ⟨c, cs, rfl⟩ := List.exists_cons_of_ne_nil hne
  have hc := h c List.mem_cons_self
  have hletter : c.toLower ≠ 'e' := by
    rw [toLower_of_counts hc]
    rintro rfl
    revert hc
    decide
  simp [scale?, hletter]

theorem readName_of_counts (h : ∀ c ∈ body, counts c = true) : readName negative body = none := by
  have hbody : body.map Char.toLower = body :=
    (List.map_congr_left fun c hc => toLower_of_counts (h c hc)).trans body.map_id
  have hname (name : List Char) (hletter : ∃ c ∈ name, counts c = false) : body ≠ name := by
    rintro rfl
    obtain ⟨c, hc, hfalse⟩ := hletter
    rw [h c hc] at hfalse
    cases hfalse
  have hinf : body ≠ "inf".toList := hname _ ⟨'i', by decide, rfl⟩
  have hinfinity : body ≠ "infinity".toList := hname _ ⟨'i', by decide, rfl⟩
  have hnan : body ≠ "nan".toList := hname _ ⟨'n', by decide, rfl⟩
  simp only [readName, hbody, hinf, hinfinity, hnan, decide_false, Bool.or_false,
    Bool.false_eq_true, if_false]

/-- A text of digits and points has no sign of its own. -/
theorem splitSign_signed (h : ∀ c ∈ body, counts c = true) :
    splitSign (signed negative body) = (negative, body) ∧
      splitEitherSign (signed negative body) = (negative, body) := by
  cases negative with
  | true => exact ⟨rfl, rfl⟩
  | false =>
    cases body with
    | nil => exact ⟨rfl, rfl⟩
    | cons c cs =>
      have hc := h c List.mem_cons_self
      have hminus : c ≠ '-' := by
        rintro rfl
        revert hc
        decide
      have hplus : c ≠ '+' := by
        rintro rfl
        revert hc
        decide
      simp [signed, splitSign, splitEitherSign, hminus, hplus]

/-- **A literal of digits and points** is a number, and it has the value of that number. -/
theorem readLiteral_signed (h : ∀ c ∈ body, counts c = true) :
    (∀ whole frac, splitDigits? body = some (whole, frac, []) →
      readLiteral (signed negative body) =
        some (.ofRatio negative (digitsValue (whole ++ frac)) (10 ^ frac.length))) ∧
    ((∀ q, ¬Unsigned body q) → readLiteral (signed negative body) = none) := by
  have hread : readLiteral (signed negative body) = readDigits negative body := by
    simp only [readLiteral, (splitSign_signed h).2, readName_of_counts h, Option.or_none]
  rw [hread]
  refine ⟨fun whole frac hsplit => ?_, fun hnone => ?_⟩
  · simp [readDigits, hsplit, scale?]
  · cases hsplit : splitDigits? body with
    | none => simp [readDigits, hsplit]
    | some parts =>
      obtain ⟨whole, frac, rest⟩ := parts
      obtain ⟨-, -, -, hbody⟩ := append_of_splitDigits? hsplit
      have hrest : ∀ c ∈ rest, counts c = true := by
        intro c hc
        rcases hbody with ⟨rfl, -⟩ | rfl <;> exact h c (by simp [hc])
      have hne : rest ≠ [] := by
        rintro rfl
        exact hnone _ (unsigned_iff.2 ⟨whole, frac, hsplit, rfl⟩)
      simp [readDigits, hsplit, scale?_of_counts hne hrest]

/-! ### Signs and blanks -/

/-- What an unsigned number consists of. -/
theorem Unsigned.isDigit_or_point (h : Unsigned body q) :
    body ≠ [] ∧ ∀ c ∈ body, c.isDigit = true ∨ c = '.' := by
  obtain ⟨whole, frac, hsplit, -⟩ := unsigned_iff.1 h
  obtain ⟨hwhole, hfrac, ⟨rfl, -, hne⟩ | ⟨rfl, -⟩⟩ := splitDigits?_eq_some_iff.1 hsplit
  · exact ⟨hne, fun c hc => .inl (hwhole c hc)⟩
  · refine ⟨by simp, fun c hc => ?_⟩
    rcases List.mem_append.1 hc with hc | hc
    · exact .inl (hwhole c hc)
    · exact (List.mem_cons.1 hc).symm.imp_left (hfrac c)

theorem Unsigned.counts_eq_true (h : Unsigned body q) : ∀ c ∈ body, counts c = true := by
  intro c hc
  rcases h.isDigit_or_point.2 c hc with hdigit | rfl
  · exact counts_of_isDigit hdigit
  · exact counts_point

/-- An unsigned number has digits, and no second point. -/
theorem Unsigned.count_le (h : Unsigned body q) :
    0 < body.countP Char.isDigit ∧ body.count '.' ≤ 1 := by
  obtain ⟨whole, frac, hsplit, -⟩ := unsigned_iff.1 h
  obtain ⟨hwhole, hfrac, hbody⟩ := splitDigits?_eq_some_iff.1 hsplit
  have hnone {ds : List Char} (hds : ∀ c ∈ ds, c.isDigit = true) : ds.count '.' = 0 :=
    List.count_eq_zero.2 fun hc => ne_point_of_isDigit (hds _ hc) rfl
  have hall {ds : List Char} (hds : ∀ c ∈ ds, c.isDigit = true) :
      ds.countP Char.isDigit = ds.length := List.countP_eq_length.2 hds
  rcases hbody with ⟨rfl, -, hne⟩ | ⟨rfl, hne⟩
  · rw [hall hwhole, hnone hwhole]
    exact ⟨List.length_pos_of_ne_nil hne, Nat.zero_le 1⟩
  · rw [List.countP_append, List.countP_cons_of_neg (by simp [isDigit_point]), hall hwhole,
      hall hfrac, List.count_append, List.count_cons_self, hnone hwhole, hnone hfrac]
    refine ⟨?_, le_rfl⟩
    rcases hne with hne | hne
    · exact Nat.add_pos_left (List.length_pos_of_ne_nil hne) _
    · exact Nat.add_pos_right _ (List.length_pos_of_ne_nil hne)

theorem mem_signed {c : Char} (hc : c ∈ signed negative body) : c = '-' ∨ c ∈ body := by
  cases negative with
  | true => exact List.mem_cons.1 hc
  | false => exact .inr hc

theorem signed_splitSign (cs : List Char) : signed (splitSign cs).1 (splitSign cs).2 = cs := by
  unfold splitSign
  split <;> rfl

theorem isDigit_of_blank {c : Char} (h : isXmlSpace c = true) : c.isDigit = false := by
  simp only [isXmlSpace, Bool.or_eq_true, beq_iff_eq] at h
  rcases h with ((rfl | rfl) | rfl) | rfl <;> decide

/-- A number has no blanks at its ends. -/
theorem Unsigned.not_blank (h : Unsigned body q) {c : Char} (hc : c ∈ signed negative body) :
    isXmlSpace c = false := by
  rcases mem_signed hc with rfl | hmem
  · decide
  rcases h.isDigit_or_point.2 c hmem with hdigit | rfl
  · by_contra hblank
    rw [isDigit_of_blank (Bool.not_eq_false _ ▸ hblank)] at hdigit
    cases hdigit
  · decide

/-- Signs and blanks are no digits. -/
theorem countP_isDigit_blanks (hbefore : ∀ c ∈ before, isXmlSpace c = true)
    (hafter : ∀ c ∈ after, isXmlSpace c = true) :
    (before ++ (signed negative body ++ after)).countP Char.isDigit =
      body.countP Char.isDigit := by
  have hnone {cs : List Char} (hcs : ∀ c ∈ cs, isXmlSpace c = true) :
      cs.countP Char.isDigit = 0 :=
    List.countP_eq_zero.2 fun c hc => by simp [isDigit_of_blank (hcs c hc)]
  have hsigned : (signed negative body).countP Char.isDigit = body.countP Char.isDigit := by
    cases negative with
    | true => exact List.countP_cons_of_neg (by decide)
    | false => rfl
  rw [List.countP_append, List.countP_append, hnone hbefore, hnone hafter, hsigned, Nat.zero_add,
    Nat.add_zero]

theorem Unsigned.trimList (h : Unsigned body q) (hbefore : ∀ c ∈ before, isXmlSpace c = true)
    (hafter : ∀ c ∈ after, isXmlSpace c = true) :
    trimList isXmlSpace (before ++ (signed negative body ++ after)) = signed negative body :=
  trimList_append hbefore hafter (fun _ hc => h.not_blank (List.mem_of_mem_head? hc))
    fun _ hc => h.not_blank (List.mem_of_mem_getLast? hc)

/-! ### Reading -/

/-- The characters that the first look at a text goes over, up to the first that it does not
count. -/
def counted (s : String) : List Char :=
  (splitSign (trimList isXmlSpace s.toList)).2.takeWhile counts

/-- What is read, by what was counted. -/
theorem parse_eq (s : String) (htrim : trimList isXmlSpace s.toList = signed negative body)
    (hsign : (splitSign (signed negative body)).2 = body) : parse s =
      if body.all counts = true ∧ (Tally.of (body.countP Char.isDigit) (body.count '.')).Allows
      then (readLiteral (signed negative body)).getD .nan else .nan := by
  have hscan : scan wrap ⟨0, 0⟩ body =
      if body.all counts then some (.of (body.countP Char.isDigit) (body.count '.')) else none := by
    have h := scan_wrap 0 0 body
    rwa [Nat.zero_add, Nat.zero_add] at h
  simp only [parse, parseList, htrim, hsign]
  rw [hscan]
  by_cases hall : body.all counts = true
  · simp only [hall, if_true, true_and]
    rfl
  · simp only [hall]
    rfl

theorem parse_of_unsigned (h : Unsigned body q) (hbefore : ∀ c ∈ before, isXmlSpace c = true)
    (hafter : ∀ c ∈ after, isXmlSpace c = true)
    (hs : s.toList = before ++ (signed negative body ++ after)) :
    (¬2 ^ 32 ∣ body.countP Char.isDigit → Double.Rounds negative q (parse s)) ∧
      (2 ^ 32 ∣ body.countP Char.isDigit → parse s = .nan) := by
  have hcounts := h.counts_eq_true
  have hallows := Tally.allows_of (d := body.countP Char.isDigit) h.count_le.2
  rw [parse_eq s (hs ▸ h.trimList hbefore hafter) (by rw [(splitSign_signed hcounts).1])]
  obtain ⟨whole, frac, hsplit, rfl⟩ := unsigned_iff.1 h
  constructor
  · intro hdigits
    rw [if_pos ⟨List.all_eq_true.2 hcounts, hallows.2 hdigits⟩,
      (readLiteral_signed hcounts).1 whole frac hsplit, Option.getD_some]
    exact Double.ofRatio_rounds negative _ (by positivity)
  · intro hdigits
    rw [if_neg fun hand => hallows.1 hand.2 hdigits]

theorem writes_of_parse (h : parse s ≠ .nan) : ∃ negative q, Writes s negative q := by
  obtain ⟨before, after, hs, hbefore, hafter⟩ := exists_append_trimList isXmlSpace s.toList
  have hsigned := signed_splitSign (trimList isXmlSpace s.toList)
  rw [parse_eq s hsigned.symm (by rw [hsigned])] at h
  split_ifs at h with hcounted
  · rw [← hsigned] at hs
    by_contra hnone
    refine h ?_
    rw [(readLiteral_signed (List.all_eq_true.1 hcounted.1)).2, Option.getD_none]
    exact fun q hq => hnone ⟨_, q, before, _, after, hs, hbefore, hafter, hq⟩
  · exact absurd rfl h

/-- Where counting breaks down, and what is read otherwise. -/
theorem parseChecked_eq (s : String) : parseChecked s =
    if 2 ^ 31 ≤ (counted s).countP Char.isDigit ∨ 2 ^ 31 ≤ (counted s).count '.' then
      .error counterOverflow
    else .ok (parse s) := by
  have hscan := scan_advance (d := 0) (p := 0) (by decide) (by decide)
    (splitSign (trimList isXmlSpace s.toList)).2
  rw [Nat.zero_add, Nat.zero_add, ← counted] at hscan
  have hzero : (⟨0, 0⟩ : Tally) = .of 0 0 := rfl
  simp only [parseChecked, parse, parseList, hzero, hscan]
  split_ifs
  · rfl
  · cases scan wrap (.of 0 0) (splitSign (trimList isXmlSpace s.toList)).2 <;> rfl

theorem counted_of_unsigned (h : Unsigned body q) (hbefore : ∀ c ∈ before, isXmlSpace c = true)
    (hafter : ∀ c ∈ after, isXmlSpace c = true)
    (hs : s.toList = before ++ (signed negative body ++ after)) : counted s = body := by
  rw [counted, hs, h.trimList hbefore hafter, (splitSign_signed h.counts_eq_true).1]
  exact List.takeWhile_eq_self_iff.2 h.counts_eq_true

/-- **What is read**: the texts of the number grammar are numbers, unless their digits are a
multiple of `2 ^ 32`, and each is read as the double that the number written is rounded to; no other
text is a number. Counters that must not begin again break down at `2 ^ 31` digits or points, and
are of no consequence otherwise. -/
theorem parse_writes (s : String) :
    (parse s ≠ .nan ↔
      (∃ negative q, Writes s negative q) ∧ ¬2 ^ 32 ∣ s.toList.countP Char.isDigit) ∧
    (∀ negative q, Writes s negative q → ¬2 ^ 32 ∣ s.toList.countP Char.isDigit →
      Double.Rounds negative q (parse s)) ∧
    (parseChecked s =
      if 2 ^ 31 ≤ (counted s).countP Char.isDigit ∨ 2 ^ 31 ≤ (counted s).count '.' then
        .error counterOverflow
      else .ok (parse s)) ∧
    ∀ negative q, Writes s negative q →
      (parseChecked s = .error counterOverflow ↔ 2 ^ 31 ≤ s.toList.countP Char.isDigit) := by
  have hread (negative : Bool) (q : ℚ) (h : Writes s negative q) :
      (¬2 ^ 32 ∣ s.toList.countP Char.isDigit → Double.Rounds negative q (parse s)) ∧
        (2 ^ 32 ∣ s.toList.countP Char.isDigit → parse s = .nan) := by
    obtain ⟨before, body, after, hs, hbefore, hafter, hbody⟩ := h
    have hdigits : s.toList.countP Char.isDigit = body.countP Char.isDigit := by
      rw [hs]
      exact countP_isDigit_blanks hbefore hafter
    rw [hdigits]
    exact parse_of_unsigned hbody hbefore hafter hs
  refine ⟨⟨fun h => ?_, ?_⟩, fun negative q h => (hread negative q h).1, parseChecked_eq s, ?_⟩
  · obtain ⟨negative, q, hwrites⟩ := writes_of_parse h
    exact ⟨⟨negative, q, hwrites⟩, fun hdigits => h ((hread negative q hwrites).2 hdigits)⟩
  · rintro ⟨⟨negative, q, h⟩, hdigits⟩
    exact ((hread negative q h).1 hdigits).ne_nan
  · rintro negative q ⟨before, body, after, hs, hbefore, hafter, hbody⟩
    have hdigits : s.toList.countP Char.isDigit = body.countP Char.isDigit := by
      rw [hs]
      exact countP_isDigit_blanks hbefore hafter
    have hpoints := hbody.count_le.2
    rw [parseChecked_eq, counted_of_unsigned hbody hbefore hafter hs, hdigits]
    split_ifs with hover
    · exact iff_of_true rfl (by omega)
    · exact iff_of_false nofun (by omega)

/-- A number half way between two doubles, with a sign, blanks and no digits behind the point. -/
theorem parse_writes_tie : Writes "\t-9007199254740993.\n" true 9007199254740993 ∧
    ¬2 ^ 32 ∣ "\t-9007199254740993.\n".toList.countP Char.isDigit ∧
    Double.Rounds true 9007199254740993 (parse "\t-9007199254740993.\n") ∧
    parseChecked "\t-9007199254740993.\n" ≠ .error counterOverflow := by
  have hdigits : IsDigits "9007199254740993".toList :=
    ⟨by decide, List.all_eq_true.1 (by decide)⟩
  have hvalue : wholeValue "9007199254740993".toList = 9007199254740993 := by decide
  have hbody : Unsigned ("9007199254740993".toList ++ ['.']) 9007199254740993 := by
    have h := Unsigned.pointed hdigits
    rw [hvalue] at h
    exact_mod_cast h
  have hwrites : Writes "\t-9007199254740993.\n" true 9007199254740993 :=
    ⟨['\t'], _, ['\n'], by decide, List.forall_mem_singleton.2 rfl,
      List.forall_mem_singleton.2 rfl, hbody⟩
  have hcount : "\t-9007199254740993.\n".toList.countP Char.isDigit = 16 := by decide
  obtain ⟨-, hrounds, -, hchecked⟩ := parse_writes "\t-9007199254740993.\n"
  have hfew : ¬2 ^ 32 ∣ "\t-9007199254740993.\n".toList.countP Char.isDigit := by
    rw [hcount]
    decide
  refine ⟨hwrites, hfew, hrounds _ _ hwrites hfew, fun hover => ?_⟩
  have h := (hchecked _ _ hwrites).1 hover
  rw [hcount] at h
  exact absurd h (by decide)

/-- Nothing but zeros. -/
def zeros (n : ℕ) : String := String.ofList (List.replicate n '0')

theorem isDigit_of_mem_zeros {n : ℕ} {c : Char} (hc : c ∈ List.replicate n '0') :
    c.isDigit = true := by
  rw [List.eq_of_mem_replicate hc]
  decide

/-- Zeros write zero, and how they are read depends on how many they are. -/
theorem parse_zeros {n : ℕ} (hn : n ≠ 0) : Writes (zeros n) false 0 ∧
    (2 ^ 32 ∣ n → parse (zeros n) = .nan) ∧
    (2 ^ 31 ≤ n → parseChecked (zeros n) = .error counterOverflow) := by
  have hdigits : IsDigits (List.replicate n '0') :=
    ⟨by simpa using hn, fun _ hc => isDigit_of_mem_zeros hc⟩
  have hbody : Unsigned (List.replicate n '0') 0 := by
    have h := Unsigned.integer hdigits
    rw [wholeValue_zeros] at h
    exact_mod_cast h
  have hs : (zeros n).toList = [] ++ (signed false (List.replicate n '0') ++ []) := by
    rw [zeros, String.toList_ofList, List.append_nil]
    rfl
  have hcount : (List.replicate n '0').countP Char.isDigit = n := by
    rw [List.countP_eq_length.2 hdigits.isDigit, List.length_replicate]
  have hblank : ∀ c ∈ ([] : List Char), isXmlSpace c = true := by simp
  refine ⟨⟨[], _, [], hs, hblank, hblank, hbody⟩, fun hdvd => ?_, fun hle => ?_⟩
  · exact (parse_of_unsigned hbody hblank hblank hs).2 (by rwa [hcount])
  · rw [parseChecked_eq, counted_of_unsigned hbody hblank hblank hs, hcount, if_pos (.inl hle)]

/-- As many zeros as the counter has numbers write a number that is not read, and stop counters that
must not begin again. -/
theorem parse_zeros_lost : Writes (zeros (2 ^ 32)) false 0 ∧ parse (zeros (2 ^ 32)) = .nan ∧
    parseChecked (zeros (2 ^ 32)) = .error counterOverflow := by
  obtain ⟨hwrites, hlost, hstops⟩ := parse_zeros (n := 2 ^ 32) (by decide)
  exact ⟨hwrites, hlost (dvd_refl _), hstops (by decide)⟩

end Number

end StyleHost
