import StyleHost.Json.Cursor

/-!
# JSON numbers

An integer that fits into 64 bits stays one; any other number is a float. Of a long number the
digits that fit into 64 bits count, the others only shift the point; the float is their product
with a power of ten, each rounded.

* `readNumber` : the number at the cursor, after its sign.
* `skipNumber` : the same without its value, which may then be out of range.
-/

namespace StyleHost

namespace Json

/-- The value of a number. -/
inductive Numeral where
  | natural (n : Nat)
  | negative (n : Int)
  | float (x : Double)
deriving DecidableEq

/-- The description of a number of the wrong kind. -/
def Numeral.found : Numeral → Found
  | natural n => .integer n
  | negative n => .integer n
  | float x => .float x

/-- The greatest integer of 64 bits. -/
def maxWord : Nat := UInt64.size - 1

/-- The greatest exponent that is computed with. -/
def maxExponent : Nat := UInt32.size / 2 - 1

/-- Appends digits to a number as long as it stays within a bound: the number, how many digits were
appended, and whether all were. -/
def appendDigits (bound value count : Nat) : List Char → Nat × Nat × Bool
  | [] => (value, count, true)
  | d :: ds =>
    let longer := 10 * value + (d.toNat - '0'.toNat)
    if longer ≤ bound then appendDigits bound longer (count + 1) ds else (value, count, false)

/-- The double nearest to a product of two finite magnitudes. -/
def product (a b : Magnitude) : Double := .ofUnits false (a.units * b.units) unitsPerOne

/-- The double nearest to a quotient of two finite magnitudes. -/
def quotient (a b : Magnitude) : Double := .ofUnits false (a.units * unitsPerOne) b.units

/-- The magnitude of a finite double; zero for any other. -/
def magnitudeOf : Double → Magnitude
  | .finite _ size => size
  | _ => .zero

/-- The double nearest to a natural number. -/
def nearest (n : Nat) : Magnitude := magnitudeOf (.ofRatio false n 1)

/-- The largest power of ten that is a finite double. -/
def largestPower : Magnitude := nearest (Nat.pow 10 308)

/-- Divides by powers of ten, of which the largest at hand is `10^308`. -/
def scaleDown (size : Magnitude) (places : Nat) : Magnitude :=
  if h : 308 < places then
    if size.units = 0 then size
    else scaleDown (magnitudeOf (quotient size largestPower)) (places - 308)
  else magnitudeOf (quotient size (nearest (Nat.pow 10 places)))
termination_by places
decreasing_by omega

/-- The magnitude of a number with a power of ten, if it is in range. -/
def scale (value : Nat) (exponent : Int) : Option Magnitude :=
  let size := nearest value
  if exponent < 0 then some (scaleDown size (-exponent).toNat)
  else if 308 < exponent then if size.units = 0 then some size else none
  else match product size (nearest (Nat.pow 10 exponent.toNat)) with
    | .finite _ size => some size
    | _ => none

/-- The float of a number with a power of ten. -/
def floatOf (positive : Bool) (value : Nat) (exponent : Int) (c : Cursor) :
    Except Error (Numeral × Cursor) :=
  match scale value exponent with
  | some size => .ok (.float (.finite (!positive) size), c)
  | none => c.failHere .numberOutOfRange

/-- The integer with a sign; zero with a minus sign, and what does not fit, are floats. -/
def integerOf (positive : Bool) (value : Nat) : Numeral :=
  if positive then .natural value
  else if value = 0 ∨ UInt64.size / 2 < value then .float (.finite true (nearest value))
  else .negative (-(value : Int))

/-- The cursor after a number of digits. -/
def stepMany : Nat → Cursor → Cursor
  | 0, c => c
  | n + 1, c => stepMany n c.step

/-- Reads an exponent, after its letter. -/
def readExponent (positive : Bool) (value : Nat) (shift : Int) (c : Cursor) :
    Except Error (Numeral × Cursor) := do
  let (up, c) := match c.rest with
    | '+' :: _ => (true, c.step)
    | '-' :: _ => (false, c.step)
    | _ => (true, c)
  let (digits, after) := c.digits
  if digits.isEmpty then
    match c.rest with
    | [] => c.failHere .endInValue
    | _ :: _ => c.failNext .invalidNumber
  else
    match appendDigits maxExponent 0 0 digits with
    | (exponent, _, true) =>
      floatOf positive value (if up then shift + exponent else shift - exponent) after
    | (_, count, false) =>
      if value ≠ 0 ∧ up then (stepMany (count + 1) c).failHere .numberOutOfRange
      else .ok (.float (.finite (!positive) .zero), after)

/-- Reads the end of a number: an exponent, or nothing. -/
def readEnd (positive : Bool) (value : Nat) (shift : Int) (c : Cursor) :
    Except Error (Numeral × Cursor) :=
  match c.rest with
  | 'e' :: _ | 'E' :: _ => readExponent positive value shift c.step
  | _ => floatOf positive value shift c

/-- Reads the digits after a point. -/
def readFraction (positive : Bool) (value : Nat) (shift : Int) (c : Cursor) :
    Except Error (Numeral × Cursor) :=
  let (digits, after) := c.digits
  if digits.isEmpty then
    match c.rest with
    | [] => c.failHere .endInValue
    | _ :: _ => c.failNext .invalidNumber
  else
    let (value, count, _) := appendDigits maxWord value 0 digits
    readEnd positive value (shift - count) after

/-- Reads what follows the digits of an integer, of which the last `dropped` do not count. -/
def readTail (positive : Bool) (value dropped : Nat) (c : Cursor) :
    Except Error (Numeral × Cursor) :=
  match c.rest with
  | '.' :: _ => readFraction positive value dropped c.step
  | 'e' :: _ | 'E' :: _ => readExponent positive value dropped c.step
  | _ => if dropped = 0 then .ok (integerOf positive value, c) else floatOf positive value dropped c

/-- Reads a number, after its sign. -/
def readNumber (positive : Bool) (c : Cursor) : Except Error (Numeral × Cursor) :=
  match c.digits with
  | ([], _) =>
    match c.rest with
    | [] => c.failHere .endInValue
    | _ :: _ => c.failNext .invalidNumber
  | ('0' :: _ :: _, _) => c.step.failNext .invalidNumber
  | (digits, after) =>
    let (value, count, _) := appendDigits maxWord 0 0 digits
    readTail positive value (digits.length - count) after

/-- Skips an exponent, after its letter. -/
def skipExponent (c : Cursor) : Except Error Cursor :=
  let c := match c.rest with
    | '+' :: _ | '-' :: _ => c.step
    | _ => c
  match c.digits with
  | ([], _) => c.failNext .invalidNumber
  | (_, after) => .ok after

/-- Skips the end of a number: an exponent, or nothing. -/
def skipEnd (c : Cursor) : Except Error Cursor :=
  match c.rest with
  | 'e' :: _ | 'E' :: _ => skipExponent c.step
  | _ => .ok c

/-- Skips a number, after its sign. -/
def skipNumber (c : Cursor) : Except Error Cursor :=
  match c.digits with
  | ([], _) => c.failNext .invalidNumber
  | ('0' :: _ :: _, _) => c.step.failNext .invalidNumber
  | (_, after) =>
    match after.rest with
    | '.' :: _ =>
      match after.step.digits with
      | ([], _) => after.step.failNext .invalidNumber
      | (_, after) => skipEnd after
    | _ => skipEnd after

end Json

end StyleHost
