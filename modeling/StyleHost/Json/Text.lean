import StyleHost.Json.Cursor

/-!
# JSON strings

A string stands in double quotes; a backslash introduces an escape. A character beyond U+FFFF may
be escaped as a pair of surrogates.

* `readText` : the string after an opening quote.
* `skipText` : the same without looking at what it denotes; surrogates need no partner there.
* `writeText` : a string in quotes. Quotes, backslashes and controls are escaped, nothing else.
-/

namespace StyleHost

namespace Json

/-- The character of a short escape. -/
def shortEscape : Char → Option Char
  | '"' => some '"'
  | '\\' => some '\\'
  | '/' => some '/'
  | 'b' => some '\x08'
  | 'f' => some '\x0c'
  | 'n' => some '\n'
  | 'r' => some '\r'
  | 't' => some '\t'
  | _ => none

/-- The value of four hexadecimal digits. -/
def fourHex? (a b c d : Char) : Option Nat := do
  let a ← CodePoints.hexDigit? a
  let b ← CodePoints.hexDigit? b
  let c ← CodePoints.hexDigit? c
  let d ← CodePoints.hexDigit? d
  return ((a * 16 + b) * 16 + c) * 16 + d

/-- The unit of an escape after `\u`: four bytes that are hexadecimal digits. -/
def readUnit (c : Cursor) : Except Error (Nat × Cursor) :=
  match c.rest with
  | a :: b :: d :: e :: _ =>
    match fourHex? a b d e with
    | some unit => .ok (unit, c.step.step.step.step)
    | none => .error ⟨.invalidEscape, c.positionAfter 4⟩
  | _ =>
    if 4 ≤ c.bytes.length then .error ⟨.invalidEscape, c.positionAfter 4⟩
    else .error ⟨.endInString, c.endPosition⟩

/-- The first unit of a pair of surrogates. -/
def isLeading (unit : Nat) : Bool := 0xD800 ≤ unit && unit ≤ 0xDBFF

/-- The second unit of a pair of surrogates. -/
def isTrailing (unit : Nat) : Bool := 0xDC00 ≤ unit && unit ≤ 0xDFFF

/-- The character that a pair of surrogates denotes. -/
def pairChar (leading trailing : Nat) : Char :=
  Char.ofNat ((leading - 0xD800) * 0x400 + (trailing - 0xDC00) + 0x10000)

/-- The cursor after a character that a pair of surrogates must have here. -/
def expectInPair (c : Cursor) (d : Char) : Except Error Cursor :=
  match c.rest with
  | [] => c.failHere .endInString
  | e :: _ => if e = d then .ok c.step else c.failNext .endOfEscape

/-- The character of an escape after `\u`. -/
def readUnicode (c : Cursor) : Except Error (Char × Cursor) := do
  let (unit, c) ← readUnit c
  if isTrailing unit then c.failHere .loneSurrogate
  else if !isLeading unit then .ok (Char.ofNat unit, c)
  else
    let c ← expectInPair c '\\'
    let c ← expectInPair c 'u'
    let (second, c) ← readUnit c
    if isTrailing second then .ok (pairChar unit second, c)
    else c.failHere .loneSurrogate

/-- The character of an escape after the backslash. -/
def readEscape (c : Cursor) : Except Error (Char × Cursor) :=
  match c.rest with
  | [] => c.failHere .endInString
  | 'u' :: _ => readUnicode c.step
  | d :: _ =>
    match shortEscape d with
    | some e => .ok (e, c.step)
    | none => c.failNext .invalidEscape

/-- A control character, which must be escaped. -/
def isControl (d : Char) : Bool := d.toNat < 0x20

/-- Reads a string up to its closing quote, at most `fuel` characters; `read` holds what was read,
last first. -/
def readTextUpTo : Nat → List Char → Cursor → Except Error (String × Cursor)
  | 0, _, c => c.failHere .endInString
  | fuel + 1, read, c =>
    match c.rest with
    | [] => c.failHere .endInString
    | '"' :: _ => .ok (String.ofList read.reverse, c.step)
    | '\\' :: _ => do
      let (d, c) ← readEscape c.step
      readTextUpTo fuel (d :: read) c
    | d :: _ =>
      if isControl d then c.failNext .controlCharacter
      else readTextUpTo fuel (d :: read) c.step

/-- The string after an opening quote. -/
def readText (c : Cursor) : Except Error (String × Cursor) := readTextUpTo (c.rest.length + 1) [] c

/-- The cursor after an escape that is not looked at. -/
def skipEscape (c : Cursor) : Except Error Cursor :=
  match c.rest with
  | [] => c.failHere .endInString
  | 'u' :: _ => (readUnit c.step).map (·.2)
  | d :: _ => if (shortEscape d).isSome then .ok c.step else c.failNext .invalidEscape

/-- Skips a string up to its closing quote, at most `fuel` characters. -/
def skipTextUpTo : Nat → Cursor → Except Error Cursor
  | 0, c => c.failHere .endInString
  | fuel + 1, c =>
    match c.rest with
    | [] => c.failHere .endInString
    | '"' :: _ => .ok c.step
    | '\\' :: _ => do skipTextUpTo fuel (← skipEscape c.step)
    | d :: _ => if isControl d then c.failHere .controlCharacter else skipTextUpTo fuel c.step

/-- The cursor after a string whose opening quote has been read. -/
def skipText (c : Cursor) : Except Error Cursor := skipTextUpTo (c.rest.length + 1) c

/-- The escape of a control character without a short one. -/
def controlEscape (c : Char) : List Char :=
  let digit (n : Nat) : Char := if n < 10 then Char.ofNat (48 + n) else Char.ofNat (87 + n)
  ['\\', 'u', '0', '0', digit (c.toNat / 16), digit (c.toNat % 16)]

/-- A character as it stands in a string. -/
def writeChar (c : Char) : List Char :=
  if c = '"' then ['\\', '"']
  else if c = '\\' then ['\\', '\\']
  else if c = '\x08' then ['\\', 'b']
  else if c = '\x0c' then ['\\', 'f']
  else if c = '\n' then ['\\', 'n']
  else if c = '\r' then ['\\', 'r']
  else if c = '\t' then ['\\', 't']
  else if isControl c then controlEscape c
  else [c]

/-- The characters of a string in quotes. -/
def writeText (cs : List Char) : List Char := '"' :: (cs.flatMap writeChar ++ ['"'])

end Json

end StyleHost
