import StyleHost.Number.Literal
import StyleHost.Number.Shortest
import StyleHost.Panic
import StyleHost.Text.Space

/-!
# Numbers as XPath text

* `Number.parse` reads the XPath 1.0 number grammar: blanks, an optional minus sign, digits with at
  most one point among them and at least one digit, blanks. A first look counts the digits and the
  points behind the sign and stops at all other characters; then the text is read as a literal. The
  counters have 32 bits, and begin again when they run over.
* `Number.parseChecked` is the same with counters that break down instead.
* `Number.format` writes a number the way the XPath function `string` does: integers below `10^17`
  exactly, all other numbers with the fewest digits that read back, never with an exponent.
-/

namespace StyleHost

namespace Number

open Text

/-- The digits and the points counted so far. -/
structure Tally where
  digits : Int32
  points : Int32
deriving DecidableEq

/-- Whether what was counted allows for a number: there are digits, and no second point. -/
def Tally.Allows (t : Tally) : Prop := t.digits ≠ 0 ∧ t.points ≤ 1

instance (t : Tally) : Decidable t.Allows := inferInstanceAs (Decidable (_ ∧ _))

section Scan

variable {m : Type → Type} [Monad m]

/-- Count the digits and the points of a text. The second part says how a counter is raised. There
is no result if there is any other character. -/
def scan (raise : Int32 → m Int32) (t : Tally) : List Char → m (Option Tally)
  | [] => pure (some t)
  | c :: cs =>
    if c.isDigit then do scan raise { t with digits := ← raise t.digits } cs
    else if c = '.' then do scan raise { t with points := ← raise t.points } cs
    else pure none

/-- The sign of a number and what follows it. -/
def splitSign : List Char → Bool × List Char
  | '-' :: cs => (true, cs)
  | cs => (false, cs)

/-- The double that a list of characters denotes by the number grammar. -/
def parseList (raise : Int32 → m Int32) (cs : List Char) : m Double := do
  let trimmed := trimList isXmlSpace cs
  match ← scan raise ⟨0, 0⟩ (splitSign trimmed).2 with
  | some t => return if t.Allows then (readLiteral trimmed).getD .nan else .nan
  | none => return .nan

end Scan

/-- Raise a counter; after the last number comes the first. -/
def wrap (n : Int32) : Id Int32 := pure (n + 1)

/-- How counting ends where the counter is at its last number and is not to begin again. -/
def counterOverflow : Panic := ⟨"attempt to add with overflow"⟩

/-- Raise a counter that has not come to its last number. -/
def advance (n : Int32) : Except Panic Int32 :=
  if n = Int32.maxValue then .error counterOverflow else .ok (n + 1)

/-- The double that a text denotes; what is no number by the grammar is `Double.nan`. -/
def parse (s : String) : Double := (parseList wrap s.toList).run

/-- The double that a text denotes, where arithmetic that leaves its range breaks down. -/
def parseChecked (s : String) : Except Panic Double := parseList advance s.toList

/-- The decimal digits of a natural number. -/
def digitChars (n : Nat) : List Char := Nat.toDigits 10 n

/-- A decimal written positionally. -/
def positional (d : Decimal) : List Char :=
  let ds := digitChars d.digits
  if 0 ≤ d.exponent then ds ++ List.replicate d.exponent.toNat '0'
  else
    let places := (-d.exponent).toNat
    if places < ds.length then
      ds.take (ds.length - places) ++ '.' :: ds.drop (ds.length - places)
    else '0' :: '.' :: (List.replicate (places - ds.length) '0' ++ ds)

/-- Integers from this bound on are written with the fewest digits that read back. -/
def exactBound : Nat := Nat.pow 10 17

/-- A positive magnitude written positionally. -/
def magnitudeChars (x : Magnitude) : List Char :=
  let whole := x.units / unitsPerOne
  if x.units % unitsPerOne = 0 ∧ whole < exactBound then digitChars whole
  else positional (Shortest.decimal x)

/-- The characters of a number's text. Both zeros are written without a sign. -/
def formatList : Double → List Char
  | .nan => "NaN".toList
  | .infinite negative => if negative then "-Infinity".toList else "Infinity".toList
  | .finite negative size =>
    if size.units = 0 then ['0']
    else if negative then '-' :: magnitudeChars size else magnitudeChars size

/-- The text of a number. -/
def format (x : Double) : String := String.ofList (formatList x)

end Number

end StyleHost
