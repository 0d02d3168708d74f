import StyleHost.Json.Skip

/-!
# Records in JSON

A record is written as an object whose keys name the fields, or as a list of the fields in order.
Fields that are missing keep their default, unknown keys are skipped, and a field given twice is an
error. Reading starts from the default and replaces field after field.

* `Member` : the key of a field and the reader of its value.
* `readRecord` : the record at the cursor.
* `readFlag`, `readWord`, `readString`, `readOptional`, `readChoice` : values of fields.
* `readAll` : a whole text.
-/

namespace StyleHost

namespace Json

/-- A key of a record, and the reader of its value, which replaces the field of that key. -/
structure Member (σ : Type) where
  key : String
  read : σ → Cursor → Except Error (σ × Cursor)

/-- The error of a value of the wrong kind, at its end; of a list or an object at its start. -/
def failType {α : Type} (c : Cursor) (wanted : String) : Except Error α :=
  match c.rest with
  | 'n' :: _ => do (← c.step.expectWord "ull".toList).failHere (.invalidType .null wanted)
  | 't' :: _ => do
    (← c.step.expectWord "rue".toList).failHere (.invalidType (.boolean true) wanted)
  | 'f' :: _ => do
    (← c.step.expectWord "alse".toList).failHere (.invalidType (.boolean false) wanted)
  | '"' :: _ => do
    let (s, c) ← readText c.step
    c.failHere (.invalidType (.text s) wanted)
  | '[' :: _ => c.failHere (.invalidType .sequence wanted)
  | '{' :: _ => c.failHere (.invalidType .map wanted)
  | '-' :: _ => do
    let (n, c) ← readNumber false c.step
    c.failHere (.invalidType n.found wanted)
  | d :: _ =>
    if d.isDigit then do
      let (n, c) ← readNumber true c
      c.failHere (.invalidType n.found wanted)
    else c.failNext .expectedValue
  | [] => c.failNext .endInValue

/-- A boolean. -/
def readFlag (c : Cursor) : Except Error (Bool × Cursor) :=
  let c := c.skipBlanks
  match c.rest with
  | 't' :: _ => do .ok (true, ← c.step.expectWord "rue".toList)
  | 'f' :: _ => do .ok (false, ← c.step.expectWord "alse".toList)
  | _ => failType c "a boolean"

/-- The word that a number denotes, or the error of one that is none. -/
def wordOf (wanted : String) (n : Numeral) (c : Cursor) : Except Error (UInt64 × Cursor) :=
  match n with
  | .natural n => .ok (UInt64.ofNat n, c)
  | .negative n => c.failHere (.invalidValue n wanted)
  | .float x => c.failHere (.invalidType (.float x) wanted)

/-- An unsigned integer of 64 bits. -/
def readWord (wanted : String) (c : Cursor) : Except Error (UInt64 × Cursor) :=
  let c := c.skipBlanks
  match c.rest with
  | '-' :: _ => do
    let (n, c) ← readNumber false c.step
    wordOf wanted n c
  | d :: _ =>
    if d.isDigit then do
      let (n, c) ← readNumber true c
      wordOf wanted n c
    else failType c wanted
  | [] => failType c wanted

/-- A string. -/
def readString (wanted : String) (c : Cursor) : Except Error (String × Cursor) :=
  let c := c.skipBlanks
  match c.rest with
  | '"' :: _ => readText c.step
  | _ => failType c wanted

/-- A value that may be `null` instead. -/
def readOptional {α : Type} (read : Cursor → Except Error (α × Cursor)) (c : Cursor) :
    Except Error (Option α × Cursor) :=
  let c := c.skipBlanks
  match c.rest with
  | 'n' :: _ => do .ok (none, ← c.step.expectWord "ull".toList)
  | _ => (read c).map fun r => (some r.1, r.2)

/-- The cursor after the colon of a member. -/
def expectColon (c : Cursor) : Except Error Cursor :=
  let c := c.skipBlanks
  match c.rest with
  | [] => c.failNext .endInObject
  | ':' :: _ => .ok c.step
  | _ => c.failNext .expectedColon

/-- The value that a name stands for. -/
def readName {α : Type} (choices : List (String × α)) (c : Cursor) :
    Except Error (α × Cursor) := do
  let (name, c) ← readString "variant identifier" c
  match choices.find? (·.1 == name) with
  | some (_, value) => .ok (value, c)
  | none => c.failHere (.unknownVariant name (choices.map (·.1)))

/-- The cursor after a `null`. -/
def expectNull (c : Cursor) : Except Error Cursor :=
  let c := c.skipBlanks
  match c.rest with
  | 'n' :: _ => c.step.expectWord "ull".toList
  | _ => failType c "unit"

/-- The cursor before the key of an object that must have one. -/
def expectKey (c : Cursor) : Except Error Cursor :=
  let c := c.skipBlanks
  match c.rest with
  | [] => c.failNext .endInValue
  | '"' :: _ => .ok c
  | '}' :: _ => c.failNext .expectedValue
  | _ => c.failNext .keyNotString

/-- A choice among names: the name as a string, or as the only key of an object with the value
`null`. -/
def readChoice {α : Type} (choices : List (String × α)) (c : Cursor) :
    Except Error (α × Cursor) :=
  let c := c.skipBlanks
  match c.rest with
  | [] => c.failNext .endInValue
  | '"' :: _ => readName choices c
  | '{' :: _ => do
    let (value, c) ← readName choices (← expectKey c.step)
    let c := (← expectNull (← expectColon c)).skipBlanks
    match c.rest with
    | [] => c.failHere .endInObject
    | '}' :: _ => .ok (value, c.step)
    | _ => c.failHere .expectedValue
  | _ => c.failNext .expectedValue

/-- The cursor before the next key of an object, if there is one. -/
def nextKey? (isFirst : Bool) (c : Cursor) : Except Error (Bool × Cursor) :=
  let c := c.skipBlanks
  match c.rest with
  | [] => c.failNext .endInObject
  | '}' :: _ => .ok (false, c)
  | d :: _ =>
    if isFirst then
      if d = '"' then .ok (true, c) else c.failNext .keyNotString
    else if d = ',' then
      let c := c.step.skipBlanks
      match c.rest with
      | [] => c.failNext .endInValue
      | '"' :: _ => .ok (true, c)
      | '}' :: _ => c.failNext .trailingComma
      | _ => c.failNext .keyNotString
    else c.failNext .expectedCommaOrBrace

/-- The cursor before the next member of a list, if there is one. -/
def nextMember? (isFirst : Bool) (c : Cursor) : Except Error (Bool × Cursor) :=
  let c := c.skipBlanks
  match c.rest with
  | [] => c.failNext .endInList
  | ']' :: _ => .ok (false, c)
  | d :: _ =>
    if isFirst then .ok (true, c)
    else if d = ',' then
      let c := c.step.skipBlanks
      match c.rest with
      | [] => c.failNext .endInValue
      | ']' :: _ => c.failNext .trailingComma
      | _ => .ok (true, c)
    else c.failNext .expectedCommaOrBracket

/-- The error of a field given twice: after the key, or after the end of the object if that follows
at once. -/
def failDuplicate {α : Type} (c : Cursor) (key : String) : Except Error α :=
  let c := c.skipBlanks
  match c.rest with
  | '}' :: _ => c.step.failHere (.duplicateField key)
  | _ => c.failHere (.duplicateField key)

/-- Reads the members of an object, at most `fuel` of them; `seen` lists the fields given so
far. -/
def readMembers {σ : Type} (fields : List (Member σ)) :
    Nat → Bool → List String → σ → Cursor → Except Error (σ × Cursor)
  | 0, _, _, _, c => c.failHere .endInObject
  | fuel + 1, isFirst, seen, record, c => do
    let (more, c) ← nextKey? isFirst c
    if more then
      let (key, c) ← readText c.step
      match fields.find? (·.key == key) with
      | none => readMembers fields fuel false seen record (← skipValue (← expectColon c))
      | some field =>
        if key ∈ seen then failDuplicate c key
        else
          let (record, c) ← field.read record (← expectColon c)
          readMembers fields fuel false (key :: seen) record c
    else .ok (record, c.step)

/-- Reads the members of a list as the fields in order. -/
def readElements {σ : Type} (isFirst : Bool) (record : σ) (c : Cursor) :
    List (Member σ) → Except Error (σ × Cursor)
  | [] => .ok (record, c)
  | field :: fields => do
    let (more, c) ← nextMember? isFirst c
    if more then
      let (record, c) ← field.read record c
      readElements false record c fields
    else .ok (record, c)

/-- The cursor after the closing bracket of a list that must end here. -/
def endList (c : Cursor) : Except Error Cursor :=
  let c := c.skipBlanks
  match c.rest with
  | [] => c.failNext .endInList
  | ']' :: _ => .ok c.step
  | ',' :: _ =>
    let c := c.step.skipBlanks
    match c.rest with
    | ']' :: _ => c.failNext .trailingComma
    | _ => c.failNext .trailingCharacters
  | _ => c.failNext .trailingCharacters

/-- The record at the cursor: an object or a list, all else is of the wrong kind. -/
def readRecord {σ : Type} (wanted : String) (fields : List (Member σ)) (default : σ)
    (c : Cursor) : Except Error (σ × Cursor) :=
  let c := c.skipBlanks
  match c.rest with
  | '{' :: _ => readMembers fields (c.rest.length + 1) true [] default c.step
  | '[' :: _ => do
    let (record, c) ← readElements true default c.step fields
    .ok (record, ← endList c)
  | _ => failType c wanted

/-- The value that a whole text denotes. -/
def readAll {α : Type} (read : Cursor → Except Error (α × Cursor)) (text : String) :
    Except Error α := do
  let (value, c) ← read (Cursor.start text)
  let c := c.skipBlanks
  match c.rest with
  | [] => .ok value
  | _ => c.failNext .trailingCharacters

end Json

end StyleHost
