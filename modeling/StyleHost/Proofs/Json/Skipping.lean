import StyleHost.Json.Skip
import StyleHost.Proofs.Json.Grammar
import StyleHost.Proofs.Json.Value

/-!
# Whatever a value says, it can be skipped

The skipper of unknown values takes any value that the grammar has, however deep it nests, and
stops right behind it. It runs on a bound on its steps; each step takes at least one character, so
that the characters ahead are always steps enough.

* `Cursor.skipBlanks_of_blanks` : white space before a token.
* `skipText_quoted`, `skipScalar_number` : strings and numbers.
* `Reaches` : what a number of steps comes to.
* `skipValue_spelled` : a whole value.
-/

namespace StyleHost

namespace Json

variable {cs rest : List Char}

/-! ### White space -/

theorem isBlank_iff (c : Char) :
    Cursor.isBlank c = true ↔ c = ' ' ∨ c = '\t' ∨ c = '\n' ∨ c = '\r' := by
  simp only [Cursor.isBlank, Bool.or_eq_true, beq_iff_eq]
  grind

theorem Cursor.skipBlanks_of_blanks (position : Position) (h : Blanks cs rest)
    (hrest : ∀ d ∈ rest.head?, isBlank d = false) :
    ∃ position', (⟨position, cs⟩ : Cursor).skipBlanks = ⟨position', rest⟩ := by
  obtain ⟨ws, rfl, hws⟩ := h
  exact skipWhile_append position (fun c hc => (isBlank_iff c).2 (hws c hc)) hrest

/-- White space belongs to no number. -/
theorem Blanks.closed (h : Blanks cs rest) (hrest : Closed rest) : Closed cs := by
  obtain ⟨ws, rfl, hws⟩ := h
  cases ws with
  | nil => exact hrest
  | cons w ws =>
    refine closed_cons _ ?_
    rcases hws w List.mem_cons_self with rfl | rfl | rfl | rfl <;> decide

/-! ### Strings -/

theorem escapes_iff (letter c : Char) : (letter, c) ∈ escapes ↔ shortEscape letter = some c := by
  simp only [escapes, List.mem_cons, Prod.mk.injEq, List.not_mem_nil, or_false]
  constructor
  · rintro (⟨rfl, rfl⟩ | ⟨rfl, rfl⟩ | ⟨rfl, rfl⟩ | ⟨rfl, rfl⟩ | ⟨rfl, rfl⟩ | ⟨rfl, rfl⟩ |
      ⟨rfl, rfl⟩ | ⟨rfl, rfl⟩) <;> rfl
  · intro h
    unfold shortEscape at h
    split at h <;> simp_all [eq_comm]

theorem readUnit_of_fourHex {a b c d : Char} {value : Nat} (h : fourHex? a b c d = some value)
    (position : Position) (rest : List Char) : ∃ position',
      readUnit ⟨position, a :: b :: c :: d :: rest⟩ = .ok (value, ⟨position', rest⟩) := by
  simp [readUnit, h]

/-- **One piece** of a string is skipped in one go. -/
theorem skipTextUpTo_piece (p : Piece) (fuel : Nat) (position : Position) (rest : List Char) :
    ∃ position', skipTextUpTo (fuel + 1) ⟨position, p.chars ++ rest⟩ =
      skipTextUpTo fuel ⟨position', rest⟩ := by
  cases p with
  | plain c h =>
    obtain ⟨hquote, hbackslash, hcontrol⟩ := h
    refine ⟨position.afterChar c, ?_⟩
    simp [Piece.chars, skipTextUpTo, hcontrol]
  | short letter c h =>
    have hshort := (escapes_iff letter c).1 h
    have hu : letter ≠ 'u' := by rintro rfl; cases hshort
    refine ⟨(position.afterChar '\\').afterChar letter, ?_⟩
    simp [Piece.chars, skipTextUpTo, skipEscape, hshort, ok_bind]
  | unit a b c d value h =>
    obtain ⟨position', hunit⟩ :=
      readUnit_of_fourHex h ((position.afterChar '\\').afterChar 'u') rest
    refine ⟨position', ?_⟩
    simp [Piece.chars, skipTextUpTo, skipEscape, hunit, ok_bind, Except.map]

theorem Piece.length_chars_pos (p : Piece) : 0 < p.chars.length := by
  cases p <;> simp [Piece.chars]

theorem length_le_flatMap_chars (ps : List Piece) :
    ps.length ≤ (ps.flatMap Piece.chars).length := by
  induction ps with
  | nil => simp
  | cons p ps ih =>
    have := p.length_chars_pos
    simp only [List.flatMap_cons, List.length_append, List.length_cons]
    omega

theorem skipTextUpTo_pieces (ps : List Piece) (fuel : Nat) (h : ps.length < fuel)
    (position : Position) (rest : List Char) : ∃ position',
      skipTextUpTo fuel ⟨position, ps.flatMap Piece.chars ++ '"' :: rest⟩ =
        .ok ⟨position', rest⟩ := by
  induction ps generalizing fuel position with
  | nil =>
    obtain ⟨fuel, rfl⟩ := Nat.exists_eq_succ_of_ne_zero (Nat.ne_zero_of_lt h)
    exact ⟨position.afterChar '"', by simp [skipTextUpTo]⟩
  | cons p ps ih =>
    obtain ⟨fuel, rfl⟩ := Nat.exists_eq_succ_of_ne_zero (Nat.ne_zero_of_lt h)
    obtain ⟨position₁, hpiece⟩ := skipTextUpTo_piece p fuel position
      (ps.flatMap Piece.chars ++ '"' :: rest)
    obtain ⟨position₂, hrest⟩ := ih fuel (Nat.lt_of_succ_lt_succ h) position₁
    exact ⟨position₂, by rw [List.flatMap_cons, List.append_assoc, hpiece, hrest]⟩

/-- A string, whatever it denotes. -/
theorem skipText_quoted (ps : List Piece) (position : Position) (rest : List Char) :
    ∃ position', skipText ⟨position, ps.flatMap Piece.chars ++ '"' :: rest⟩ =
      .ok ⟨position', rest⟩ := by
  have := length_le_flatMap_chars ps
  refine skipTextUpTo_pieces ps _ ?_ position rest
  rw [List.length_append]
  omega

/-! ### Numbers -/

/-- Digits are not followed by an exponent that starts with a digit. -/
theorem exponentChars_head (e : Option Exponent) (hrest : Closed rest) :
    ∀ d ∈ (exponentChars e rest).head?, d.isDigit = false ∧ d ≠ '.' := by
  cases e with
  | none => exact fun d hd => ⟨(hrest d hd).1, (hrest d hd).2.1⟩
  | some e =>
    rintro d ⟨⟩
    rcases e.isLetter with h | h <;> rw [h] <;> decide

theorem fractionChars_head (fraction : Option (List Char)) (e : Option Exponent)
    (hrest : Closed rest) :
    ∀ d ∈ (fractionChars fraction (exponentChars e rest)).head?, d.isDigit = false := by
  cases fraction with
  | none => exact fun d hd => (exponentChars_head e hrest d hd).1
  | some ds =>
    rintro d ⟨⟩
    decide

/-- Digits behind which there are no more. -/
theorem digits_eq {ds : List Char} (h : IsDigits ds) (position : Position)
    (hrest : ∀ d ∈ rest.head?, d.isDigit = false) : ∃ d tail position', ds = d :: tail ∧
      (⟨position, ds ++ rest⟩ : Cursor).digits = (d :: tail, ⟨position', rest⟩) := by
  obtain ⟨d, tail, rfl⟩ := List.exists_cons_of_ne_nil h.1
  obtain ⟨position', hdigits⟩ := digits_append position h.2 hrest
  exact ⟨d, tail, position', rfl, hdigits⟩

theorem skipExponent_some (e : Exponent) (hrest : Closed rest) (position : Position) :
    ∃ position', skipExponent ⟨position, e.sign ++ (e.digits ++ rest)⟩ =
      .ok ⟨position', rest⟩ := by
  have hafter : ∀ d ∈ rest.head?, d.isDigit = false := fun d hd => (hrest d hd).1
  rcases e.isSign with hsign | hsign | hsign
  · obtain ⟨d, tail, position', hd, hdigits⟩ := digits_eq e.isDigits position hafter
    have hdigit : d.isDigit = true := e.isDigits.2 d (hd ▸ List.mem_cons_self)
    have hplus : d ≠ '+' := by rintro rfl; cases hdigit
    have hminus : d ≠ '-' := by rintro rfl; cases hdigit
    refine ⟨position', ?_⟩
    rw [hd] at hdigits
    rw [hsign, hd, List.nil_append]
    unfold skipExponent
    dsimp only
    split <;> (rename_i heq; split at heq <;> simp_all)
  · obtain ⟨d, tail, position', -, hdigits⟩ :=
      digits_eq e.isDigits (position.afterChar '+') hafter
    exact ⟨position', by simp [skipExponent, hsign, hdigits]⟩
  · obtain ⟨d, tail, position', -, hdigits⟩ :=
      digits_eq e.isDigits (position.afterChar '-') hafter
    exact ⟨position', by simp [skipExponent, hsign, hdigits]⟩

theorem skipEnd_exponent (e : Option Exponent) (hrest : Closed rest) (position : Position) :
    ∃ position', skipEnd ⟨position, exponentChars e rest⟩ = .ok ⟨position', rest⟩ := by
  cases e with
  | none =>
    refine ⟨position, ?_⟩
    change skipEnd ⟨position, rest⟩ = _
    unfold skipEnd
    split
    case h_1 heq => exact absurd rfl (hrest 'e' (congrArg List.head? heq)).2.2.1
    case h_2 heq => exact absurd rfl (hrest 'E' (congrArg List.head? heq)).2.2.2
    case h_3 => rfl
  | some e =>
    obtain ⟨position', h⟩ := skipExponent_some e hrest (position.afterChar e.letter)
    refine ⟨position', ?_⟩
    rw [← h]
    rcases e.isLetter with hletter | hletter <;> simp [exponentChars, skipEnd, hletter]

/-- A number, whatever its size. -/
theorem skipNumber_unsigned (n : Figures) (hrest : Closed rest) (position : Position) :
    ∃ position', skipNumber ⟨position, n.unsigned rest⟩ = .ok ⟨position', rest⟩ := by
  obtain ⟨d, tail, position₁, hwhole, hdigits⟩ :=
    digits_eq n.isWhole position (fractionChars_head n.fraction n.exponent hrest)
  rw [Figures.unsigned, skipNumber, hdigits]
  split
  case h_1 heq => cases heq
  case h_2 heq =>
    -- a leading zero stands alone
    have hlead := congrArg Prod.fst heq
    cases hlead
    cases hwhole ▸ n.isShort (by rw [hwhole]; rfl)
  case h_3 after _ _ heq =>
    cases heq
    cases hfraction : n.fraction with
    | none =>
      obtain ⟨position', hend⟩ := skipEnd_exponent n.exponent hrest position₁
      refine ⟨position', ?_⟩
      rw [← hend]
      dsimp only [fractionChars]
      split
      case h_1 heq =>
        exact absurd rfl (exponentChars_head n.exponent hrest '.' (congrArg List.head? heq)).2
      case h_2 => rfl
    | some ds =>
      have hds := n.isFraction ds hfraction
      obtain ⟨e, ds', position₂, hds', hdigits⟩ := digits_eq hds (position₁.afterChar '.')
        fun d hd => (exponentChars_head n.exponent hrest d hd).1
      obtain ⟨position', hend⟩ := skipEnd_exponent n.exponent hrest position₂
      refine ⟨position', ?_⟩
      rw [← hend]
      simp [fractionChars, hdigits]

/-- A number starts with a minus sign or a digit. -/
theorem skipScalar_number (n : Figures) (hrest : Closed rest) : ∃ d,
    (n.chars rest).head? = some d ∧ d ≠ '[' ∧ d ≠ '{' ∧ ∀ position, ∃ position',
      skipScalar d ⟨position, n.chars rest⟩ = .ok ⟨position', rest⟩ := by
  obtain ⟨d, tail, hd⟩ := List.exists_cons_of_ne_nil n.isWhole.1
  have hdigit : d.isDigit = true := n.isWhole.2 d (hd ▸ List.mem_cons_self)
  cases hnegative : n.negative with
  | true =>
    refine ⟨'-', by simp [Figures.chars, hnegative], by decide, by decide, fun position => ?_⟩
    obtain ⟨position', h⟩ := skipNumber_unsigned n hrest (position.afterChar '-')
    exact ⟨position', by simp [skipScalar, Figures.chars, hnegative, h]⟩
  | false =>
    have hne : ∀ c : Char, c.isDigit = false → d ≠ c := by
      rintro c hc rfl
      rw [hdigit] at hc
      cases hc
    refine ⟨d, by simp [Figures.chars, Figures.unsigned, hnegative, hd], hne '[' (by decide),
      hne '{' (by decide), fun position => ?_⟩
    obtain ⟨position', h⟩ := skipNumber_unsigned n hrest position
    refine ⟨position', ?_⟩
    simp [skipScalar, Figures.chars, hnegative, h, hdigit, hne 'n' (by decide),
      hne 't' (by decide), hne 'f' (by decide), hne '-' (by decide)]

/-- White space before a phrase is skipped up to its head. -/
theorem Spelled.skipBlanks {p : Phrase} {before : List Char} (h : Spelled p cs rest)
    (hbefore : Blanks before cs) (position : Position) : ∃ position',
      (⟨position, before⟩ : Cursor).skipBlanks = ⟨position', cs⟩ := by
  obtain ⟨d, ds, rfl, hd, -⟩ := h.head
  exact Cursor.skipBlanks_of_blanks position hbefore (by rintro _ ⟨⟩; exact hd)

/-- A mark of the grammar behind white space. -/
theorem Cursor.skipBlanks_mark {d : Char} (position : Position) (h : Blanks cs (d :: rest))
    (hd : isBlank d = false) :
    ∃ position', (⟨position, cs⟩ : Cursor).skipBlanks = ⟨position', d :: rest⟩ :=
  skipBlanks_of_blanks position h (by rintro _ ⟨⟩; exact hd)

/-! ### Steps -/

/-- Some steps lead from one state to another, at most one for each character that they take. -/
def Reaches (s s' : Skipping) : Prop :=
  ∃ steps, steps + s'.cursor.rest.length ≤ s.cursor.rest.length ∧
    ∀ fuel, skipUpTo (fuel + steps) s = skipUpTo fuel s'

theorem Reaches.trans {s s' s'' : Skipping} (h : Reaches s s') (h' : Reaches s' s'') :
    Reaches s s'' := by
  obtain ⟨steps, hle, h⟩ := h
  obtain ⟨steps', hle', h'⟩ := h'
  refine ⟨steps' + steps, by omega, fun fuel => ?_⟩
  rw [← Nat.add_assoc, h, h']

theorem Reaches.step {s s' : Skipping} (h : ∀ fuel, skipUpTo (fuel + 1) s = skipUpTo fuel s')
    (hlt : s'.cursor.rest.length < s.cursor.rest.length) : Reaches s s' :=
  ⟨1, by omega, h⟩

section steps

variable {behind before : List Char} {opened : List Bracket}

/-- A scalar is skipped in one step. -/
theorem Reaches.scalar {t : Tree} (hspelled : Spelled (.value t) cs rest) {d : Char}
    (hhead : cs.head? = some d) (hlist : d ≠ '[') (hobject : d ≠ '{')
    (h : ∀ position, ∃ position', skipScalar d ⟨position, cs⟩ = .ok ⟨position', rest⟩)
    (hbefore : Blanks before cs) (position : Position) :
    ∃ position', Reaches ⟨opened, .value, ⟨position, before⟩⟩
      ⟨opened, .next, ⟨position', rest⟩⟩ := by
  obtain ⟨position₁, hskip⟩ := hspelled.skipBlanks hbefore position
  obtain ⟨position₂, hscalar⟩ := h position₁
  obtain ⟨ds, rfl⟩ := List.head?_eq_some_iff.1 hhead
  refine ⟨position₂, .step (fun fuel => ?_)
    (Nat.lt_of_lt_of_le hspelled.length_lt hbefore.length_le)⟩
  have hstart : skipStart opened ⟨position, before⟩ = .ok ⟨opened, .next, ⟨position₂, rest⟩⟩ := by
    rw [skipStart, hskip]
    dsimp only
    split <;> simp_all [ok_bind]
  rw [skipUpTo]
  dsimp only
  rw [hstart, ok_bind]

end steps

/-- The character that opens a bracket. -/
def Bracket.opening : Bracket → Char
  | list => '['
  | object => '{'

/-- The character that closes a bracket. -/
def Bracket.closing : Bracket → Char
  | list => ']'
  | object => '}'

/-- What stands inside a bracket. -/
def Bracket.inside : Bracket → Expect
  | list => .value
  | object => .key

section brackets

variable {before inside : List Char} (bracket : Bracket) (opened : List Bracket)
  (position : Position)

/-- An empty bracket is skipped in one step. -/
theorem Reaches.empty (hbefore : Blanks before (bracket.opening :: cs))
    (h : Blanks cs (bracket.closing :: rest)) : ∃ position',
      Reaches ⟨opened, .value, ⟨position, before⟩⟩ ⟨opened, .next, ⟨position', rest⟩⟩ := by
  obtain ⟨position₁, hopen⟩ := Cursor.skipBlanks_mark position hbefore (by cases bracket <;> decide)
  obtain ⟨position₂, hclose⟩ := Cursor.skipBlanks_mark (position₁.afterChar bracket.opening) h
    (by cases bracket <;> decide)
  refine ⟨position₂.afterChar bracket.closing, .step (fun fuel => ?_) ?_⟩
  · cases bracket <;>
      simp_all [skipUpTo, skipStart, Bracket.opening, Bracket.closing, ok_bind]
  · have := hbefore.length_le
    have := h.length_le
    simp only [List.length_cons] at *
    omega

/-- Any other bracket is opened. -/
theorem Reaches.enter {p : Phrase} (hbefore : Blanks before (bracket.opening :: cs))
    (hinside : Blanks cs inside) (h : Spelled p inside rest) : ∃ position',
      Reaches ⟨opened, .value, ⟨position, before⟩⟩
        ⟨bracket :: opened, bracket.inside, ⟨position', inside⟩⟩ := by
  obtain ⟨position₁, hopen⟩ := Cursor.skipBlanks_mark position hbefore (by cases bracket <;> decide)
  obtain ⟨position₂, hskip⟩ := h.skipBlanks hinside (position₁.afterChar bracket.opening)
  obtain ⟨d, ds, rfl, -, hlist, hobject⟩ := h.head
  have hstart : skipStart opened ⟨position, before⟩ =
      .ok ⟨bracket :: opened, bracket.inside, ⟨position₂, d :: ds⟩⟩ := by
    cases bracket <;> simp only [skipStart, hopen, Bracket.opening, Cursor.step_mk] at hskip ⊢ <;>
      rw [hskip] <;> split <;> simp_all [Bracket.inside]
  refine ⟨position₂, .step (fun fuel => ?_) ?_⟩
  · rw [skipUpTo]
    dsimp only
    rw [hstart, ok_bind]
  · have := hbefore.length_le
    have := hinside.length_le
    simp only [List.length_cons] at *
    omega

/-- A comma leads on to the next member. -/
theorem Reaches.comma (h : Blanks cs (',' :: rest)) : ∃ position',
    Reaches ⟨bracket :: opened, .next, ⟨position, cs⟩⟩
      ⟨bracket :: opened, bracket.inside, ⟨position', rest⟩⟩ := by
  obtain ⟨position', hskip⟩ := Cursor.skipBlanks_mark position h (by decide)
  refine ⟨position'.afterChar ',', .step (fun fuel => ?_) h.length_le⟩
  cases bracket <;> simp [skipUpTo, skipNext, Bracket.inside, hskip, ok_bind]

/-- A bracket is closed. -/
theorem Reaches.leave (h : Blanks cs (bracket.closing :: rest)) : ∃ position',
    Reaches ⟨bracket :: opened, .next, ⟨position, cs⟩⟩ ⟨opened, .next, ⟨position', rest⟩⟩ := by
  obtain ⟨position', hskip⟩ := Cursor.skipBlanks_mark position h (by cases bracket <;> decide)
  refine ⟨position'.afterChar bracket.closing, .step (fun fuel => ?_) h.length_le⟩
  cases bracket <;> dsimp only [Bracket.closing] at hskip <;>
    simp [skipUpTo, skipNext, hskip, ok_bind, Bracket.closing]

/-- A key with its colon is skipped in one step. -/
theorem Reaches.key (ps : List Piece) (hbefore : Blanks before (quoted ps cs))
    (h : Blanks cs (':' :: rest)) : ∃ position',
      Reaches ⟨opened, .key, ⟨position, before⟩⟩ ⟨opened, .value, ⟨position', rest⟩⟩ := by
  obtain ⟨position₁, hquote⟩ := Cursor.skipBlanks_mark position hbefore (by decide)
  obtain ⟨position₂, htext⟩ := skipText_quoted ps (position₁.afterChar '"') cs
  obtain ⟨position₃, hcolon⟩ := Cursor.skipBlanks_mark position₂ h (by decide)
  refine ⟨position₃.afterChar ':', .step (fun fuel => ?_) ?_⟩
  · simp [skipUpTo, skipKey, hquote, htext, hcolon, ok_bind]
  · have := hbefore.length_le
    have := h.length_le
    simp only [quoted, List.length_cons, List.length_append] at *
    omega

end brackets

/-! ### Values -/

/-- What the skipper expects before a phrase. -/
def Phrase.expect : Phrase → Expect
  | value _ | elements _ => .value
  | member _ _ | members _ => .key

/-- The brackets that are open inside a phrase. -/
def Phrase.inside : Phrase → List Bracket → List Bracket
  | value _, outer | member _ _, outer => outer
  | elements _, outer => .list :: outer
  | members _, outer => .object :: outer

/-- **Every phrase is skipped**, whatever is open around it. The induction is on the derivation, so
that values of any depth are covered. -/
theorem Spelled.reaches {p : Phrase} (h : Spelled p cs rest) (hclosed : Closed rest)
    (outer : List Bracket) {before : List Char} (hbefore : Blanks before cs) (position : Position) :
    ∃ position', Reaches ⟨p.inside outer, p.expect, ⟨position, before⟩⟩
      ⟨p.inside outer, .next, ⟨position', rest⟩⟩ := by
  induction h generalizing outer before position with
  | null rest =>
    refine Reaches.scalar (.null rest) (d := 'n') rfl (by decide) (by decide) (fun position => ?_)
      hbefore position
    exact Cursor.expectWord_append (position.afterChar 'n') "ull".toList rest
  | boolean b rest =>
    cases b with
    | true =>
      refine Reaches.scalar (.boolean true rest) (d := 't') rfl (by decide) (by decide)
        (fun position => ?_) hbefore position
      exact Cursor.expectWord_append (position.afterChar 't') "rue".toList rest
    | false =>
      refine Reaches.scalar (.boolean false rest) (d := 'f') rfl (by decide) (by decide)
        (fun position => ?_) hbefore position
      exact Cursor.expectWord_append (position.afterChar 'f') "alse".toList rest
  | number n rest =>
    obtain ⟨d, hhead, hlist, hobject, hskip⟩ := skipScalar_number n hclosed
    exact Reaches.scalar (.number n rest) hhead hlist hobject hskip hbefore position
  | text ps rest =>
    refine Reaches.scalar (.text ps rest) (d := '"') rfl (by decide) (by decide)
      (fun position => ?_) hbefore position
    exact skipText_quoted ps (position.afterChar '"') rest
  | emptyList h => exact Reaches.empty .list outer position hbefore h
  | list start h stop ih =>
    obtain ⟨position₁, hopen⟩ := Reaches.enter .list outer position hbefore start h
    obtain ⟨position₂, hinside⟩ := ih (stop.closed (closed_cons _ (by decide))) outer
      (.refl _) position₁
    obtain ⟨position₃, hclose⟩ := Reaches.leave .list outer position₂ stop
    exact ⟨position₃, (hopen.trans hinside).trans hclose⟩
  | emptyObject h => exact Reaches.empty .object outer position hbefore h
  | object start h stop ih =>
    obtain ⟨position₁, hopen⟩ := Reaches.enter .object outer position hbefore start h
    obtain ⟨position₂, hinside⟩ := ih (stop.closed (closed_cons _ (by decide))) outer
      (.refl _) position₁
    obtain ⟨position₃, hclose⟩ := Reaches.leave .object outer position₂ stop
    exact ⟨position₃, (hopen.trans hinside).trans hclose⟩
  | oneElement _ ih => exact ih hclosed (.list :: outer) hbefore position
  | moreElements _ stop start _ ih ihmore =>
    obtain ⟨position₁, hfirst⟩ := ih (stop.closed (closed_cons _ (by decide))) (.list :: outer)
      hbefore position
    obtain ⟨position₂, hcomma⟩ := Reaches.comma .list outer position₁ stop
    obtain ⟨position₃, hmore⟩ := ihmore hclosed outer start position₂
    exact ⟨position₃, (hfirst.trans hcomma).trans hmore⟩
  | member ps stop start _ ih =>
    obtain ⟨position₁, hkey⟩ := Reaches.key outer position ps hbefore stop
    obtain ⟨position₂, hvalue⟩ := ih hclosed outer start position₁
    exact ⟨position₂, hkey.trans hvalue⟩
  | oneMember _ ih => exact ih hclosed (.object :: outer) hbefore position
  | moreMembers _ stop start _ ih ihmore =>
    obtain ⟨position₁, hfirst⟩ := ih (stop.closed (closed_cons _ (by decide))) (.object :: outer)
      hbefore position
    obtain ⟨position₂, hcomma⟩ := Reaches.comma .object outer position₁ stop
    obtain ⟨position₃, hmore⟩ := ihmore hclosed outer start position₂
    exact ⟨position₃, (hfirst.trans hcomma).trans hmore⟩

/-- **A value is skipped**, and nothing behind it. -/
theorem skipValue_spelled {t : Tree} {before : List Char} (h : Spelled (.value t) cs rest)
    (hclosed : Closed rest) (hbefore : Blanks before cs) (position : Position) :
    ∃ position', skipValue ⟨position, before⟩ = .ok ⟨position', rest⟩ := by
  obtain ⟨position', steps, hle, hsteps⟩ := h.reaches hclosed [] hbefore position
  refine ⟨position', ?_⟩
  dsimp only at hle
  obtain ⟨fuel, hfuel⟩ := Nat.exists_eq_add_of_le (Nat.le_trans (Nat.le_add_right _ _) hle)
  rw [skipValue, hfuel, show steps + fuel + 2 = (fuel + 2) + steps by omega]
  exact hsteps (fuel + 2)

end Json

end StyleHost
