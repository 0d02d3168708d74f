/-!
# Punycode

A label of a domain name spells characters outside ASCII as an ASCII text: the plain characters up
to the last hyphen, and after it numbers that say which characters to put in, and where. A number
is written in base 36, its digits having thresholds that adapt to the numbers before.

* `Punycode.decode?` : the code points that a label spells.
* `Punycode.encode` : the label that spells a text.
-/

namespace StyleHost

namespace Punycode

/-- The value of a digit. -/
def digit? (c : Char) : Option Nat :=
  if 'a' ≤ c ∧ c ≤ 'z' then some (c.toNat - 'a'.toNat)
  else if c.isDigit then some (c.toNat - '0'.toNat + 26)
  else none

/-- The threshold of the digit in a position, which is a multiple of 36. -/
def threshold (position bias : Nat) : Nat := min 26 (max 1 (position - bias))

/-- Divides a number by 35 until it is at most 455, and counts the divisions. -/
def shrink : Nat → Nat → Nat → Nat × Nat
  | 0, n, count => (n, count)
  | fuel + 1, n, count => if 455 < n then shrink fuel (n / 35) (count + 1) else (n, count)

/-- The bias after a number, given how many characters there are then. -/
def adapt (number count : Nat) (isFirst : Bool) : Nat :=
  let n := if isFirst then number / 700 else number / 2
  let n := n + n / count
  let (n, divisions) := shrink n n 0
  36 * divisions + 36 * n / (n + 38)

/-- The number at the start of some digits, and the digits after it. -/
def number? (bias : Nat) : (position weight value : Nat) → List Char → Option (Nat × List Char)
  | _, _, _, [] => none
  | position, weight, value, c :: cs => do
    let digit ← digit? c
    let value := value + digit * weight
    let limit := threshold position bias
    if digit < limit then some (value, cs)
    else number? bias (position + 36) (weight * (36 - limit)) value cs

/-- What has been decoded so far. -/
structure State where
  /-- The code points. -/
  output : List Nat
  /-- The code point to put in next. -/
  code : Nat := 128
  /-- Where to put it in next. -/
  place : Nat := 0
  bias : Nat := 72
  isFirst : Bool := true

/-- Puts in the characters that digits tell of, at most `fuel`. -/
def insertUpTo : Nat → State → List Char → Option (List Nat)
  | _, s, [] => some s.output
  | 0, _, _ :: _ => none
  | fuel + 1, s, c :: cs => do
    let (number, rest) ← number? s.bias 36 1 0 (c :: cs)
    let count := s.output.length + 1
    let place := s.place + number
    let code := s.code + place / count
    let index := place % count
    if code.isValidChar then
      insertUpTo fuel ⟨s.output.take index ++ code :: s.output.drop index, code, index + 1,
        adapt number count s.isFirst, false⟩ rest
    else none

/-- The code points that a label spells. -/
def decode? (label : List Char) : Option (List Nat) :=
  let digits := (label.reverse.takeWhile (· != '-')).reverse
  let plain := label.take (label.length - digits.length - 1)
  insertUpTo digits.length { output := plain.map Char.toNat } digits

/-- The digit of a value. -/
def digitChar (value : Nat) : Char :=
  if value < 26 then Char.ofNat ('a'.toNat + value) else Char.ofNat ('0'.toNat + (value - 26))

/-- The digits of a number. -/
def digitsOf (bias position number : Nat) : List Char :=
  let limit := threshold position bias
  if number < limit then [digitChar number]
  else
    digitChar (limit + (number - limit) % (36 - limit)) ::
      digitsOf bias (position + 36) ((number - limit) / (36 - limit))
termination_by number
decreasing_by
  have : 1 ≤ threshold position bias := by unfold threshold; omega
  have := Nat.div_le_self (number - threshold position bias) (36 - threshold position bias)
  omega

/-- What has been encoded so far. -/
structure Encoder where
  /-- How far the digits to come are from the last ones: the places passed in between. -/
  delta : Nat := 0
  bias : Nat := 72
  /-- How many characters of the text the label tells of. -/
  count : Nat
  isFirst : Bool := true
  digits : List Char := []

/-- Takes the encoder past a character while the occurrences of `code` are told of: one of a lower
code point is a place to pass, and one of `code` itself is written. -/
def Encoder.pass (code : Nat) (e : Encoder) (c : Char) : Encoder :=
  if c.toNat < code then { e with delta := e.delta + 1 }
  else if c.toNat = code then
    ⟨0, adapt e.delta (e.count + 1) e.isFirst, e.count + 1, false,
      e.digits ++ digitsOf e.bias 36 e.delta⟩
  else e

/-- Tells of the occurrences of `code`, after those of all code points up to `last`. -/
def Encoder.tell (text : List Char) (last : Nat) (e : Encoder) (code : Nat) : Encoder :=
  text.foldl (Encoder.pass code) { e with delta := e.delta + (code - last - 1) * (e.count + 1) }

/-- The label that spells a text. -/
def encode (text : List Char) : List Char :=
  let plain := text.filter (·.toNat < 128)
  let codes := ((text.map Char.toNat).filter (128 ≤ ·)).mergeSort.eraseDups
  let start := if plain.isEmpty then [] else plain ++ ['-']
  let result := codes.foldl (fun (e, last) code =>
      let e := Encoder.tell text last e code
      ({ e with delta := e.delta + 1 }, code))
    (({ count := plain.length, digits := start } : Encoder), 127)
  result.1.digits

end Punycode

end StyleHost
