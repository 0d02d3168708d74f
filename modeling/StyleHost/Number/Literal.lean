import StyleHost.Number.Double

/-!
# Floating-point literals

The way in which programs write doubles: a sign, digits with a point before, among or behind them,
and a power of ten. Infinities and what is not a number are spelled out in letters of either case.
The digits are not limited in number, and the result is the double nearest to what they say.

* `Number.splitDigits?` : the digits of a literal.
* `Number.readLiteral` : the double of a literal.
-/

namespace StyleHost

namespace Number

/-- The number that a list of digits denotes. -/
def digitsValue (cs : List Char) : Nat :=
  cs.foldl (fun n c => 10 * n + (c.toNat - '0'.toNat)) 0

/-- The digits behind the point, if a point comes next, and what follows them. -/
def splitFraction : List Char → List Char × List Char
  | '.' :: cs => (cs.takeWhile Char.isDigit, cs.dropWhile Char.isDigit)
  | cs => ([], cs)

/-- The digits before and behind the point and what follows them, if there is any digit. -/
def splitDigits? (cs : List Char) : Option (List Char × List Char × List Char) :=
  let whole := cs.takeWhile Char.isDigit
  let (frac, rest) := splitFraction (cs.dropWhile Char.isDigit)
  if whole.isEmpty && frac.isEmpty then none else some (whole, frac, rest)

/-- Whether a minus sign stands in front, and what follows the sign, of either kind or left out. -/
def splitEitherSign : List Char → Bool × List Char
  | '-' :: cs => (true, cs)
  | '+' :: cs => (false, cs)
  | cs => (false, cs)

/-- The power of ten that digits are scaled by, which may be left out. -/
def scale? : List Char → Option Int
  | [] => some 0
  | c :: cs =>
    let (negative, ds) := splitEitherSign cs
    if c.toLower = 'e' && !ds.isEmpty && ds.all Char.isDigit then
      some (if negative then -(digitsValue ds : Int) else digitsValue ds)
    else none

/-- The double of digits, a point and a power of ten. -/
def readDigits (negative : Bool) (cs : List Char) : Option Double := do
  let (whole, frac, rest) ← splitDigits? cs
  let e ← scale? rest
  return .ofRatio negative (digitsValue (whole ++ frac) * Nat.pow 10 e.toNat)
    (Nat.pow 10 (frac.length + (-e).toNat))

/-- The double that is spelled out. -/
def readName (negative : Bool) (cs : List Char) : Option Double :=
  let name := cs.map Char.toLower
  if name = "inf".toList || name = "infinity".toList then some (.infinite negative)
  else if name = "nan".toList then some .nan
  else none

/-- The double that a list of characters denotes as a literal. -/
def readLiteral (cs : List Char) : Option Double :=
  let (negative, body) := splitEitherSign cs
  (readDigits negative body).or (readName negative body)

end Number

end StyleHost
