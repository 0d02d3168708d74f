import StyleHost.Number.Text
import StyleHost.Text.Quoted

/-!
# Errors of JSON texts

Reading stops at the first fault. Its cause is either the form of the text or a value of the wrong
kind; its place is a line and the number of bytes of that line that had been read.

* `Json.Cause` : what was wrong.
* `Json.Error.message` : the wording, with the place.
-/

namespace StyleHost

namespace Json

/-- A place in a text: the line, counted from one, and the bytes read in it. -/
structure Position where
  line : Nat
  column : Nat
deriving DecidableEq

/-- A value of the wrong kind, as messages describe it. -/
inductive Found where
  | integer (n : Int)
  | float (x : Double)
  | text (s : String)
  | boolean (b : Bool)
  | null
  | map
  | sequence
deriving DecidableEq

/-- What is wrong with a text. -/
inductive Cause where
  | endInValue
  | endInObject
  | endInList
  | endInString
  | expectedValue
  | expectedIdent
  | expectedColon
  | expectedCommaOrBrace
  | expectedCommaOrBracket
  | keyNotString
  | trailingComma
  | trailingCharacters
  | invalidNumber
  | numberOutOfRange
  | invalidEscape
  | loneSurrogate
  | endOfEscape
  | controlCharacter
  | invalidType (found : Found) (wanted : String)
  | invalidValue (n : Int) (wanted : String)
  | duplicateField (name : String)
  | unknownVariant (name : String) (known : List String)
deriving DecidableEq

/-- The number of digits before the point of a decimal in scientific form, less one. -/
def leadingExponent (d : Decimal) : Int :=
  d.exponent + ((Number.digitChars d.digits).length - 1 : Int)

/-- A decimal with one digit before the point and an exponent with its sign. -/
def scientific (d : Decimal) : List Char :=
  let e := leadingExponent d
  let mantissa := match Number.digitChars d.digits with
    | [] => []
    | [c] => [c]
    | c :: cs => c :: '.' :: cs
  mantissa ++ ['e', if e < 0 then '-' else '+'] ++ Number.digitChars e.natAbs

/-- A positive decimal: positional from `10^-5` to below `10^16`, always with a point; scientific
beyond. -/
def decimalText (d : Decimal) : List Char :=
  let e := leadingExponent d
  if -5 ≤ e ∧ e ≤ 15 then
    let digits := Number.positional d
    if '.' ∈ digits then digits else digits ++ ['.', '0']
  else scientific d

/-- The text of a float in a message. -/
def floatText : Double → String
  | .nan => "NaN"
  | .infinite negative => if negative then "-inf" else "inf"
  | .finite negative size =>
    let digits := if size.units = 0 then "0.0".toList else decimalText (Shortest.decimal size)
    String.ofList (if negative then '-' :: digits else digits)

/-- The description of a value of the wrong kind. -/
def Found.describe : Found → String
  | integer n => "integer `" ++ toString n ++ "`"
  | float x => "floating point `" ++ floatText x ++ "`"
  | text s => "string " ++ Text.quote s
  | boolean b => "boolean `" ++ (if b then "true" else "false") ++ "`"
  | null => "null"
  | map => "map"
  | sequence => "sequence"

/-- A list of names in a sentence. -/
def alternatives : List String → String
  | [] => "nothing"
  | [a] => "`" ++ a ++ "`"
  | [a, b] => "`" ++ a ++ "` or `" ++ b ++ "`"
  | names => "one of " ++ ", ".intercalate (names.map fun n => "`" ++ n ++ "`")

/-- The wording of a cause. -/
def Cause.message : Cause → String
  | endInValue => "EOF while parsing a value"
  | endInObject => "EOF while parsing an object"
  | endInList => "EOF while parsing a list"
  | endInString => "EOF while parsing a string"
  | expectedValue => "expected value"
  | expectedIdent => "expected ident"
  | expectedColon => "expected `:`"
  | expectedCommaOrBrace => "expected `,` or `\x7d`"
  | expectedCommaOrBracket => "expected `,` or `]`"
  | keyNotString => "key must be a string"
  | trailingComma => "trailing comma"
  | trailingCharacters => "trailing characters"
  | invalidNumber => "invalid number"
  | numberOutOfRange => "number out of range"
  | invalidEscape => "invalid escape"
  | loneSurrogate => "lone leading surrogate in hex escape"
  | endOfEscape => "unexpected end of hex escape"
  | controlCharacter => "control character (\\u0000-\\u001F) found while parsing a string"
  | invalidType found wanted => "invalid type: " ++ found.describe ++ ", expected " ++ wanted
  | invalidValue n wanted =>
    "invalid value: integer `" ++ toString n ++ "`, expected " ++ wanted
  | duplicateField name => "duplicate field `" ++ name ++ "`"
  | unknownVariant name known =>
    "unknown variant `" ++ name ++ "`, expected " ++ alternatives known

/-- A fault of a text and its place. -/
structure Error where
  cause : Cause
  position : Position
deriving DecidableEq

/-- The wording of an error. -/
def Error.message (e : Error) : String :=
  e.cause.message ++ " at line " ++ toString e.position.line ++ " column " ++
    toString e.position.column

end Json

end StyleHost
