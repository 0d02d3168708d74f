import StyleHost.Text.Space
import StyleHost.Xml.Event

/-!
# Reading XML

The events of a text, read from its bytes. A byte order mark at the start is left out and not
counted.

* `Xml.next` : the event at the start of a text, with the bytes after it.
* `Xml.scan` : all events.

Markup of each kind has its own end: a comment ends at `-->`, character data at `]]>`, an
instruction at `?>`, a document type at the `>` that balances the `<` inside, and a tag at the
first `>` outside of quotes.
-/

namespace StyleHost

namespace Xml

open Text

/-- The code of an ASCII character. -/
def code (c : Char) : UInt8 := c.toNat.toUInt8

/-- The codes of an ASCII text. -/
def codes (s : String) : Bytes := s.toList.map code

/-- A byte in lower case. -/
def lowerByte (b : UInt8) : UInt8 := if code 'A' ≤ b ∧ b ≤ code 'Z' then b + 32 else b

/-- The index of the first `>` that a mark precedes twice; `before` and `last` are the two bytes
before the text. -/
def findAfter (mark before last : UInt8) (index : Nat) : Bytes → Option Nat
  | [] => none
  | b :: bs =>
    if b = code '>' ∧ last = mark ∧ before = mark then some index
    else findAfter mark last b (index + 1) bs

/-- The index of the first `>` after a question mark. -/
def findInstructionEnd (last : UInt8) (index : Nat) : Bytes → Option Nat
  | [] => none
  | b :: bs =>
    if b = code '>' ∧ last = code '?' then some index else findInstructionEnd b (index + 1) bs

/-- The index of the first `>` that closes no inner `<`. -/
def findBalance (depth index : Nat) : Bytes → Option Nat
  | [] => none
  | b :: bs =>
    if b = code '<' then findBalance (depth + 1) (index + 1) bs
    else if b = code '>' then
      if depth = 0 then some index else findBalance (depth - 1) (index + 1) bs
    else findBalance depth (index + 1) bs

/-- The index of the first `>` outside of quotes; `quote` is the one that is open. -/
def findTagEnd (quote : Option UInt8) (index : Nat) : Bytes → Option Nat
  | [] => none
  | b :: bs =>
    match quote with
    | some q => findTagEnd (if b = q then none else quote) (index + 1) bs
    | none =>
      if b = code '>' then some index
      else findTagEnd (if b = code '"' ∨ b = code '\'' then some b else none) (index + 1) bs

/-- What the start of a text is: an event, the number of bytes it takes, and the names of the
elements that are open after it. -/
structure Piece where
  event : Event
  size : Nat
  opened : List Bytes

/-- An event, or a cause with its distance from the start of the text. -/
abbrev PieceResult := Except (Cause × Nat) Piece

/-- The comment whose first byte is that after `<!`. It has at least four bytes before its `>`. -/
def readComment (opened : List Bytes) (body : Bytes) : PieceResult :=
  match findAfter (code '-') (body.getD 2 0) (body.getD 3 0) 4 (body.drop 4) with
  | some i =>
    if (codes "--").isPrefixOf body then .ok ⟨.comment, i + 3, opened⟩
    else .error (.commentNotClosed, 0)
  | none => .error (.commentNotClosed, 0)

/-- The character data whose first byte is that after `<!`. -/
def readCdata (opened : List Bytes) (body : Bytes) : PieceResult :=
  match findAfter (code ']') 0 0 0 body with
  | some i =>
    if (codes "[CDATA[").isPrefixOf body then .ok ⟨.cdata, i + 3, opened⟩
    else .error (.cdataNotClosed, 0)
  | none => .error (.cdataNotClosed, 0)

/-- The document type whose first byte is that after `<!`. -/
def readDoctype (opened : List Bytes) (body : Bytes) : PieceResult :=
  match findBalance 0 0 body with
  | some i =>
    let content := body.take i
    if (content.take 7).map lowerByte ≠ codes "doctype" then .error (.doctypeNotClosed, 0)
    else if (content.drop 7).all isXmlSpaceByte then .error (.doctypeWithoutName, i + 2)
    else .ok ⟨.doctype, i + 3, opened⟩
  | none => .error (.doctypeNotClosed, 0)

/-- The markup after `<!`. -/
def readBang (opened : List Bytes) (body : Bytes) : PieceResult :=
  match body with
  | b :: _ =>
    if b = code '[' then readCdata opened body
    else if b = code '-' then readComment opened body
    else if b = code 'D' ∨ b = code 'd' then readDoctype opened body
    else .error (.unknownMarkup, 0)
  | [] => .error (.unknownMarkup, 0)

/-- The event of an instruction with the given content. -/
def instructionOf (content : Bytes) : Event :=
  let target := content.takeWhile (!isXmlSpaceByte ·)
  if target = codes "xml" then .declaration
  else .instruction target (content.drop target.length)

/-- The instruction whose first byte is the question mark. -/
def readInstruction (opened : List Bytes) (body : Bytes) : PieceResult :=
  match findInstructionEnd 0 0 body with
  | some i =>
    if i < 2 then .error (.instructionNotClosed, 0)
    else .ok ⟨instructionOf ((body.take (i - 1)).drop 1), i + 2, opened⟩
  | none => .error (.instructionNotClosed, 0)

/-- A name without the blanks that follow it; a name of blanks alone stays as it is. -/
def trimEnd (name : Bytes) : Bytes :=
  if name.all isXmlSpaceByte then name else (name.reverse.dropWhile isXmlSpaceByte).reverse

/-- The closing tag with the given content, after its slash. -/
def closeOf (opened : List Bytes) (content : Bytes) (size : Nat) : PieceResult :=
  let name := trimEnd content
  match opened with
  | [] => .error (.unmatchedTag name, 0)
  | expected :: outer =>
    if name = expected then .ok ⟨.closeTag name, size, outer⟩
    else .error (.mismatchedTag expected name, 0)

/-- The opening or empty tag with the given content. -/
def openOf (opened : List Bytes) (content : Bytes) (size : Nat) : Piece :=
  if content.getLast? = some (code '/') then ⟨.emptyTag, size, opened⟩
  else
    let name := content.takeWhile (!isXmlSpaceByte ·)
    ⟨.openTag name, size, name :: opened⟩

/-- The tag whose first byte is that after `<`. -/
def readTag (opened : List Bytes) (body : Bytes) : PieceResult :=
  match findTagEnd none 0 body with
  | some i =>
    let content := body.take i
    match content with
    | b :: rest =>
      if b = code '/' then closeOf opened rest (i + 2) else .ok (openOf opened content (i + 2))
    | [] => .ok (openOf opened content (i + 2))
  | none => .error (.tagNotClosed, 0)

/-- The markup after `<`. -/
def readMarkup (opened : List Bytes) (body : Bytes) : PieceResult :=
  match body with
  | b :: rest =>
    if b = code '!' then readBang opened rest
    else if b = code '?' then readInstruction opened body
    else readTag opened body
  | [] => .error (.tagNotClosed, 0)

/-- The reference after `&`. -/
def readReference (opened : List Bytes) (body : Bytes) : PieceResult :=
  let name := body.takeWhile fun b => b != code ';' && b != code '&' && b != code '<'
  if body[name.length]? = some (code ';') then .ok ⟨.reference, name.length + 2, opened⟩
  else .error (.referenceNotClosed, 0)

/-- A byte at which text ends. -/
def isMarkup (b : UInt8) : Bool := b == code '<' || b == code '&'

/-- The event at the start of a text that is not empty. -/
def next (opened : List Bytes) (b : UInt8) (rest : Bytes) : PieceResult :=
  if b = code '<' then readMarkup opened rest
  else if b = code '&' then readReference opened rest
  else
    let content := b :: rest.takeWhile (!isMarkup ·)
    .ok ⟨.text content, content.length, opened⟩

/-- Reads the events from an offset on, at most `fuel` of them. -/
def scanUpTo : Nat → Nat → List Bytes → Bytes → Scan
  | 0, _, _, _ => ⟨[], none⟩
  | _, _, _, [] => ⟨[], none⟩
  | fuel + 1, offset, opened, b :: rest =>
    match next opened b rest with
    | .error (cause, distance) => ⟨[], some ⟨cause, offset + distance⟩⟩
    | .ok piece =>
      let finish := offset + piece.size
      let scan := scanUpTo fuel finish piece.opened ((b :: rest).drop piece.size)
      ⟨⟨piece.event, finish⟩ :: scan.events, scan.fault⟩

/-- A text without its byte order mark. -/
def withoutMark (bytes : Bytes) : Bytes :=
  match bytes with
  | 0xEF :: 0xBB :: 0xBF :: rest => rest
  | _ => bytes

/-- The events of a text. -/
def scan (bytes : Bytes) : Scan :=
  let text := withoutMark bytes
  scanUpTo text.length 0 [] text

end Xml

end StyleHost
