import StyleHost.Proofs.Json.Value

/-!
# The grammar of JSON

What a text says, apart from its layout, is a tree; how it says it is a derivation of the grammar.
A rule relates the characters ahead to those that are left behind what it takes, so that rules
follow each other without any cutting of texts.

* `Piece`, `meaning` : the inside of a string, and what it denotes.
* `Figures` : how a number is written.
* `Tree` : what is said. Keys stand in the order of the text, also those that are repeated.
* `Spelled` : the rules.
* `Document` : a whole text.
* `Spelled.head`, `Spelled.length_lt` : how a phrase starts, and that it takes something.
-/

namespace StyleHost

namespace Json

/-! ### Blanks -/

/-- Up to `rest` there is nothing but white space. -/
def Blanks (cs rest : List Char) : Prop :=
  ∃ ws, cs = ws ++ rest ∧ ∀ c ∈ ws, c = ' ' ∨ c = '\t' ∨ c = '\n' ∨ c = '\r'

theorem Blanks.refl (rest : List Char) : Blanks rest rest := ⟨[], rfl, by simp⟩

theorem Blanks.length_le {cs rest : List Char} (h : Blanks cs rest) :
    rest.length ≤ cs.length := by
  obtain ⟨ws, rfl, -⟩ := h
  simp

/-! ### Strings -/

/-- The letters of the short escapes, and the characters that they stand for. -/
def escapes : List (Char × Char) :=
  [('"', '"'), ('\\', '\\'), ('/', '/'), ('b', '\x08'), ('f', '\x0c'), ('n', '\n'), ('r', '\r'),
    ('t', '\t')]

/-- A piece of a string: a character that stands for itself, a short escape, or a unit of UTF-16 as
four hexadecimal digits. -/
inductive Piece where
  | plain (c : Char) (h : c ≠ '"' ∧ c ≠ '\\' ∧ isControl c = false)
  | short (letter character : Char) (h : (letter, character) ∈ escapes)
  | unit (a b c d : Char) (value : Nat) (h : fourHex? a b c d = some value)

/-- A piece as it is written. -/
def Piece.chars : Piece → List Char
  | plain c _ => [c]
  | short letter _ _ => ['\\', letter]
  | unit a b c d _ _ => ['\\', 'u', a, b, c, d]

/-- What pieces denote. Surrogates denote a character in pairs and nothing else. -/
def denote : List Piece → Option (List Char)
  | [] => some []
  | .plain c _ :: ps => (denote ps).map (c :: ·)
  | .short _ c _ :: ps => (denote ps).map (c :: ·)
  | .unit _ _ _ _ first _ :: ps =>
    if isTrailing first then none
    else if isLeading first then
      match ps with
      | .unit _ _ _ _ second _ :: ps =>
        if isTrailing second then (denote ps).map (pairChar first second :: ·) else none
      | _ => none
    else (denote ps).map (Char.ofNat first :: ·)

theorem denote_unit {a b c d : Char} {first : Nat} (h : fourHex? a b c d = some first)
    (ps : List Piece) : denote (.unit a b c d first h :: ps) =
      if isTrailing first then none
      else if isLeading first then
        match ps with
        | .unit _ _ _ _ second _ :: ps =>
          if isTrailing second then (denote ps).map (pairChar first second :: ·) else none
        | _ => none
      else (denote ps).map (Char.ofNat first :: ·) := by
  rw [denote.eq_def]

/-- The text that pieces denote, if they do. -/
def meaning (ps : List Piece) : Option String := (denote ps).map String.ofList

/-- A string in quotes, and what follows it. -/
def quoted (ps : List Piece) (rest : List Char) : List Char :=
  '"' :: (ps.flatMap Piece.chars ++ '"' :: rest)

/-! ### Numbers -/

/-- Decimal digits, at least one. -/
def IsDigits (ds : List Char) : Prop := ds ≠ [] ∧ ∀ d ∈ ds, d.isDigit = true

/-- The exponent of a number. -/
structure Exponent where
  letter : Char
  sign : List Char
  digits : List Char
  isLetter : letter = 'e' ∨ letter = 'E'
  isSign : sign = [] ∨ sign = ['+'] ∨ sign = ['-']
  isDigits : IsDigits digits

/-- A number as it is written. -/
structure Figures where
  negative : Bool
  whole : List Char
  fraction : Option (List Char)
  exponent : Option Exponent
  isWhole : IsDigits whole
  /-- Only zero starts with a zero. -/
  isShort : whole.head? = some '0' → whole = ['0']
  isFraction : ∀ ds ∈ fraction, IsDigits ds

/-- An exponent, if there is one, and what follows it. -/
def exponentChars : Option Exponent → List Char → List Char
  | none, rest => rest
  | some e, rest => e.letter :: (e.sign ++ (e.digits ++ rest))

/-- A point and the digits behind it, if there are any, and what follows them. -/
def fractionChars : Option (List Char) → List Char → List Char
  | none, rest => rest
  | some ds, rest => '.' :: (ds ++ rest)

namespace Figures

/-- A number without its sign, and what follows it. -/
def unsigned (n : Figures) (rest : List Char) : List Char :=
  n.whole ++ fractionChars n.fraction (exponentChars n.exponent rest)

/-- A number, and what follows it. -/
def chars (n : Figures) (rest : List Char) : List Char :=
  if n.negative then '-' :: n.unsigned rest else n.unsigned rest

end Figures

/-! ### Values -/

/-- What a text says. A string, also as a key, need not denote a text. -/
inductive Tree where
  | null
  | boolean (b : Bool)
  | number (n : Figures)
  | text (s : Option String)
  | list (elements : List Tree)
  | object (members : List (Option String × Tree))

/-- What a rule of the grammar takes. -/
inductive Phrase where
  | value (t : Tree)
  /-- The elements of a list, at least one. -/
  | elements (ts : List Tree)
  | member (key : Option String) (t : Tree)
  /-- The members of an object, at least one. -/
  | members (ms : List (Option String × Tree))

/-- The rules: the characters ahead start with the phrase, and those at last are left. White space
may stand around each bracket, comma and colon. -/
inductive Spelled : Phrase → List Char → List Char → Prop where
  | null (rest : List Char) : Spelled (.value .null) ("null".toList ++ rest) rest
  | boolean (b : Bool) (rest : List Char) :
      Spelled (.value (.boolean b)) ((if b then "true" else "false").toList ++ rest) rest
  | number (n : Figures) (rest : List Char) : Spelled (.value (.number n)) (n.chars rest) rest
  | text (ps : List Piece) (rest : List Char) :
      Spelled (.value (.text (meaning ps))) (quoted ps rest) rest
  | emptyList {cs rest : List Char} (h : Blanks cs (']' :: rest)) :
      Spelled (.value (.list [])) ('[' :: cs) rest
  | list {ts : List Tree} {cs inside behind rest : List Char} (start : Blanks cs inside)
      (h : Spelled (.elements ts) inside behind) (stop : Blanks behind (']' :: rest)) :
      Spelled (.value (.list ts)) ('[' :: cs) rest
  | emptyObject {cs rest : List Char} (h : Blanks cs ('}' :: rest)) :
      Spelled (.value (.object [])) ('{' :: cs) rest
  | object {ms : List (Option String × Tree)} {cs inside behind rest : List Char}
      (start : Blanks cs inside) (h : Spelled (.members ms) inside behind)
      (stop : Blanks behind ('}' :: rest)) : Spelled (.value (.object ms)) ('{' :: cs) rest
  | oneElement {t : Tree} {cs rest : List Char} (h : Spelled (.value t) cs rest) :
      Spelled (.elements [t]) cs rest
  | moreElements {t : Tree} {ts : List Tree} {cs behind comma next rest : List Char}
      (first : Spelled (.value t) cs behind) (stop : Blanks behind (',' :: comma))
      (start : Blanks comma next) (more : Spelled (.elements ts) next rest) :
      Spelled (.elements (t :: ts)) cs rest
  | member {t : Tree} {behind colon next rest : List Char} (ps : List Piece)
      (stop : Blanks behind (':' :: colon)) (start : Blanks colon next)
      (h : Spelled (.value t) next rest) :
      Spelled (.member (meaning ps) t) (quoted ps behind) rest
  | oneMember {key : Option String} {t : Tree} {cs rest : List Char}
      (h : Spelled (.member key t) cs rest) : Spelled (.members [(key, t)]) cs rest
  | moreMembers {key : Option String} {t : Tree} {ms : List (Option String × Tree)}
      {cs behind comma next rest : List Char} (first : Spelled (.member key t) cs behind)
      (stop : Blanks behind (',' :: comma)) (start : Blanks comma next)
      (more : Spelled (.members ms) next rest) : Spelled (.members ((key, t) :: ms)) cs rest

/-- The text says `t` and nothing else. -/
def Document (text : String) (t : Tree) : Prop :=
  ∃ cs rest, Blanks text.toList cs ∧ Spelled (.value t) cs rest ∧ Blanks rest []

/-! ### Heads and lengths -/

variable {cs rest : List Char}

/-- A number starts with a minus sign or a digit, so that no other value is meant. -/
theorem Figures.exists_chars_eq (n : Figures) (rest : List Char) : ∃ d ds,
    n.chars rest = d :: ds ∧ ∀ c : Char, c.isDigit = false → c ≠ '-' → d ≠ c := by
  obtain ⟨d, tail, hd⟩ := List.exists_cons_of_ne_nil n.isWhole.1
  have hdigit : d.isDigit = true := n.isWhole.2 d (hd ▸ List.mem_cons_self)
  rw [chars, unsigned, hd]
  split
  · exact ⟨_, _, rfl, fun c _ hc => hc.symm⟩
  · refine ⟨_, _, rfl, ?_⟩
    rintro c hc - rfl
    rw [hdigit] at hc
    cases hc

theorem Figures.length_lt (n : Figures) (rest : List Char) :
    rest.length < (n.chars rest).length := by
  have hwhole := List.length_pos_iff.2 n.isWhole.1
  have hexponent : rest.length ≤ (exponentChars n.exponent rest).length := by
    cases n.exponent <;> simp [exponentChars]; omega
  have hfraction : (exponentChars n.exponent rest).length ≤
      (fractionChars n.fraction (exponentChars n.exponent rest)).length := by
    cases n.fraction <;> simp [fractionChars]; omega
  rw [chars, unsigned]
  split <;> simp only [List.length_cons, List.length_append] <;> omega

/-- What every phrase starts with is neither white space nor a closing bracket. -/
theorem Spelled.head {p : Phrase} (h : Spelled p cs rest) : ∃ d ds, cs = d :: ds ∧
    Cursor.isBlank d = false ∧ d ≠ ']' ∧ d ≠ '}' := by
  induction h with
  | null => exact ⟨_, _, rfl, by decide⟩
  | boolean b => cases b <;> exact ⟨_, _, rfl, by decide⟩
  | number n rest =>
    obtain ⟨d, tail, hd⟩ := List.exists_cons_of_ne_nil n.isWhole.1
    have hdigit : d.isDigit = true := n.isWhole.2 d (hd ▸ List.mem_cons_self)
    rw [Figures.chars, Figures.unsigned, hd]
    split
    · exact ⟨_, _, rfl, by decide⟩
    · refine ⟨_, _, rfl, (of_isDigit hdigit).1, ?_, ?_⟩ <;> (rintro rfl; cases hdigit)
  | text | emptyList | list | emptyObject | object | member => exact ⟨_, _, rfl, by decide⟩
  | oneElement _ ih | oneMember _ ih => exact ih
  | moreElements _ _ _ _ ih _ | moreMembers _ _ _ _ ih _ => exact ih

/-- Every phrase takes at least one character. -/
theorem Spelled.length_lt {p : Phrase} (h : Spelled p cs rest) : rest.length < cs.length := by
  induction h with
  | null => simp; omega
  | boolean b => cases b <;> simp <;> omega
  | number n rest => exact n.length_lt rest
  | text => simp [quoted]; omega
  | emptyList h | emptyObject h =>
    have := h.length_le
    simp only [List.length_cons] at *
    omega
  | list start _ stop ih | object start _ stop ih =>
    have := start.length_le
    have := stop.length_le
    simp only [List.length_cons] at *
    omega
  | member ps stop start _ ih =>
    have := start.length_le
    have := stop.length_le
    simp only [quoted, List.length_cons, List.length_append] at *
    omega
  | oneElement _ ih | oneMember _ ih => exact ih
  | moreElements _ stop start _ ih ihmore | moreMembers _ stop start _ ih ihmore =>
    have := start.length_le
    have := stop.length_le
    simp only [List.length_cons] at *
    omega

end Json

end StyleHost
