import StyleHost.Text.Utf8

/-!
# Events of an XML text

An XML text is read as a sequence of events: tags, text between them, and the other kinds of
markup. Neither the encoding nor names and attributes are checked, only that markup is closed and
that tags match. Places are offsets in bytes.

* `Xml.Event`, `Xml.Located` : an event, and the place just after it.
* `Xml.Fault` : why a text cannot be read further.
* `Xml.Scan` : the events of a text up to its end or to the first fault.
-/

namespace StyleHost

namespace Xml

/-- A piece of an XML text. -/
inductive Event where
  | openTag (name : Bytes)
  /-- A tag that opens and closes an element. -/
  | emptyTag
  | closeTag (name : Bytes)
  | text (content : Bytes)
  | cdata
  /-- A reference to a character or to an entity. -/
  | reference
  | comment
  | instruction (target content : Bytes)
  | declaration
  | doctype
deriving DecidableEq

/-- An event with the offset just after it. -/
structure Located where
  event : Event
  finish : Nat
deriving DecidableEq

/-- Why a text cannot be read further. -/
inductive Cause where
  | referenceNotClosed
  | unknownMarkup
  | doctypeWithoutName
  | instructionNotClosed
  | tagNotClosed
  | commentNotClosed
  | cdataNotClosed
  | doctypeNotClosed
  | mismatchedTag (expected found : Bytes)
  | unmatchedTag (found : Bytes)
deriving DecidableEq

/-- The name of a tag in a message; empty if it is no text. -/
def nameText (name : Bytes) : String :=
  match Utf8.decode name with
  | .ok s => s
  | .error _ => ""

/-- The wording of a cause. -/
def Cause.message : Cause → String
  | referenceNotClosed =>
    "ill-formed document: entity or character reference not closed: `;` not found before " ++
      "end of input"
  | unknownMarkup => "syntax error: unknown or missed symbol in markup"
  | doctypeWithoutName =>
    "ill-formed document: `<!DOCTYPE>` declaration does not contain a name of a document type"
  | instructionNotClosed =>
    "syntax error: processing instruction or xml declaration not closed: `?>` not found before " ++
      "end of input"
  | tagNotClosed => "syntax error: tag not closed: `>` not found before end of input"
  | commentNotClosed => "syntax error: comment not closed: `-->` not found before end of input"
  | cdataNotClosed => "syntax error: CDATA not closed: `]]>` not found before end of input"
  | doctypeNotClosed => "syntax error: DOCTYPE not closed: `>` not found before end of input"
  | mismatchedTag expected found =>
    "ill-formed document: expected `</" ++ nameText expected ++ ">`, but `</" ++ nameText found ++
      ">` was found"
  | unmatchedTag found =>
    "ill-formed document: close tag `</" ++ nameText found ++ ">` does not match any open tag"

/-- A fault and its offset. -/
structure Fault where
  cause : Cause
  offset : Nat
deriving DecidableEq

/-- The wording of a fault. -/
def Fault.message (f : Fault) : String :=
  f.cause.message ++ " at byte " ++ toString f.offset

/-- What reading a text gives. -/
structure Scan where
  /-- The events in order. -/
  events : List Located
  /-- The fault that ends the text early. -/
  fault : Option Fault
deriving DecidableEq

end Xml

end StyleHost
