import StyleHost.Json.Number
import StyleHost.Json.Text

/-!
# Skipping a JSON value

The value of an unknown key is read over. It may nest to any depth: the open brackets are kept in a
list, so that nothing depends on the depth.

* `skipValue` : the cursor after the value ahead.
-/

namespace StyleHost

namespace Json

/-- A bracket that is open. -/
inductive Bracket where
  | list
  | object
deriving DecidableEq

/-- What comes next inside a value that is skipped. -/
inductive Expect where
  | value
  /-- A key of the innermost object. -/
  | key
  /-- What follows a complete value. -/
  | next
deriving DecidableEq

/-- The result of a step: the open brackets, what comes next, and the cursor. -/
structure Skipping where
  opened : List Bracket
  expect : Expect
  cursor : Cursor

/-- Skips a scalar whose first character is `d`. -/
def skipScalar (d : Char) (c : Cursor) : Except Error Cursor :=
  if d = 'n' then c.step.expectWord "ull".toList
  else if d = 't' then c.step.expectWord "rue".toList
  else if d = 'f' then c.step.expectWord "alse".toList
  else if d = '-' then skipNumber c.step
  else if d.isDigit then skipNumber c
  else if d = '"' then skipText c.step
  else c.failNext .expectedValue

/-- Skips the start of a value: a scalar, or an opening bracket with the closing one if it follows
at once. -/
def skipStart (opened : List Bracket) (c : Cursor) : Except Error Skipping :=
  let c := c.skipBlanks
  match c.rest with
  | [] => c.failNext .endInValue
  | '[' :: _ =>
    let c := c.step.skipBlanks
    match c.rest with
    | [] => c.failNext .endInList
    | ']' :: _ => .ok ⟨opened, .next, c.step⟩
    | _ => .ok ⟨.list :: opened, .value, c⟩
  | '{' :: _ =>
    let c := c.step.skipBlanks
    match c.rest with
    | [] => c.failNext .endInObject
    | '}' :: _ => .ok ⟨opened, .next, c.step⟩
    | _ => .ok ⟨.object :: opened, .key, c⟩
  | d :: _ => do .ok ⟨opened, .next, ← skipScalar d c⟩

/-- Skips a key and its colon. -/
def skipKey (opened : List Bracket) (c : Cursor) : Except Error Skipping := do
  let c := c.skipBlanks
  match c.rest with
  | [] => c.failNext .endInObject
  | '"' :: _ =>
    let c := (← skipText c.step).skipBlanks
    match c.rest with
    | [] => c.failNext .endInObject
    | ':' :: _ => .ok ⟨opened, .value, c.step⟩
    | _ => c.failNext .expectedColon
  | _ => c.failNext .keyNotString

/-- Skips what follows a member of the innermost bracket: a comma, or the closing bracket. -/
def skipNext (bracket : Bracket) (outer : List Bracket) (c : Cursor) : Except Error Skipping :=
  let c := c.skipBlanks
  match bracket with
  | .list =>
    match c.rest with
    | [] => c.failNext .endInList
    | ',' :: _ => .ok ⟨.list :: outer, .value, c.step⟩
    | ']' :: _ => .ok ⟨outer, .next, c.step⟩
    | _ => c.failNext .expectedCommaOrBracket
  | .object =>
    match c.rest with
    | [] => c.failNext .endInObject
    | ',' :: _ => .ok ⟨.object :: outer, .key, c.step⟩
    | '}' :: _ => .ok ⟨outer, .next, c.step⟩
    | _ => c.failNext .expectedCommaOrBrace

/-- Skips up to the end of the outermost value, at most `fuel` steps. -/
def skipUpTo : Nat → Skipping → Except Error Cursor
  | 0, s => s.cursor.failHere .endInValue
  | fuel + 1, s =>
    match s.expect, s.opened with
    | .value, opened => do skipUpTo fuel (← skipStart opened s.cursor)
    | .key, opened => do skipUpTo fuel (← skipKey opened s.cursor)
    | .next, bracket :: outer => do skipUpTo fuel (← skipNext bracket outer s.cursor)
    | .next, [] => .ok s.cursor

/-- The cursor after the value ahead. Every step but the last reads a character. -/
def skipValue (c : Cursor) : Except Error Cursor :=
  skipUpTo (c.rest.length + 2) ⟨[], .value, c⟩

end Json

end StyleHost
