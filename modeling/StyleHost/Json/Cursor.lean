import StyleHost.Json.Error

/-!
# Reading a JSON text

A cursor is the part of a text that is still to be read and the place where it starts. Readers take
a cursor and give a value with the cursor after it, or the first error.

* `Cursor.step`, `Cursor.skipBlanks` : moving on.
* `Cursor.failHere`, `Cursor.failNext` : an error at the place reached, or one byte further on, as
  if the byte that is in the way had been read.
-/

namespace StyleHost

namespace Json

/-- The place after one more byte: the first of the character `c`. -/
def Position.afterByte (p : Position) (c : Char) : Position :=
  if c = '\n' then ⟨p.line + 1, 0⟩ else ⟨p.line, p.column + 1⟩

/-- The place after the character `c`. -/
def Position.afterChar (p : Position) (c : Char) : Position :=
  if c = '\n' then ⟨p.line + 1, 0⟩ else ⟨p.line, p.column + c.utf8Size⟩

/-- The rest of a text and its place. -/
structure Cursor where
  position : Position
  rest : List Char

namespace Cursor

/-- The start of a text. -/
def start (text : String) : Cursor := ⟨⟨1, 0⟩, text.toList⟩

/-- An error at the place reached. -/
def failHere {α : Type} (c : Cursor) (cause : Cause) : Except Error α :=
  .error ⟨cause, c.position⟩

/-- The place one byte further on; at the end of the text the end. -/
def nextPosition (c : Cursor) : Position :=
  match c.rest with
  | [] => c.position
  | d :: _ => c.position.afterByte d

/-- An error one byte further on. -/
def failNext {α : Type} (c : Cursor) (cause : Cause) : Except Error α :=
  .error ⟨cause, c.nextPosition⟩

/-- The cursor after one character, if there is one. -/
def step (c : Cursor) : Cursor :=
  match c.rest with
  | [] => c
  | d :: ds => ⟨c.position.afterChar d, ds⟩

/-- A blank between tokens. -/
def isBlank (d : Char) : Bool := d == ' ' || d == '\n' || d == '\t' || d == '\r'

/-- The cursor after the characters of the class `p`. -/
def skipWhile (p : Char → Bool) (position : Position) : List Char → Cursor
  | [] => ⟨position, []⟩
  | d :: ds => if p d then skipWhile p (position.afterChar d) ds else ⟨position, d :: ds⟩

/-- The cursor after blanks. -/
def skipBlanks (c : Cursor) : Cursor := skipWhile isBlank c.position c.rest

/-- The digits ahead, and the cursor after them. -/
def digits (c : Cursor) : List Char × Cursor :=
  (c.rest.takeWhile Char.isDigit, skipWhile Char.isDigit c.position c.rest)

/-- The cursor after the given word. The error of a cut or misspelt word is at its first fault. -/
def expectWord (c : Cursor) : List Char → Except Error Cursor
  | [] => .ok c
  | d :: ds =>
    match c.rest with
    | [] => c.failHere .endInValue
    | e :: _ => if e = d then expectWord c.step ds else c.failNext .expectedIdent

/-- The characters ahead as bytes. -/
def bytes (c : Cursor) : List UInt8 := (String.ofList c.rest).toUTF8.toList

/-- The place a number of bytes further on. -/
def positionAfter (c : Cursor) (count : Nat) : Position :=
  (c.bytes.take count).foldl
    (fun p b => if b = 0x0A then ⟨p.line + 1, 0⟩ else ⟨p.line, p.column + 1⟩) c.position

/-- The end of the text. -/
def endPosition (c : Cursor) : Position := c.positionAfter c.bytes.length

end Cursor

end Json

end StyleHost
