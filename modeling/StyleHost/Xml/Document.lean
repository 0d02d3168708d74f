import StyleHost.Xml.Reader

/-!
# Documents

A document has exactly one outermost element, with nothing around it but blanks, comments,
instructions and declarations. Events are checked in order, so of several faults the first counts,
and a fault of reading counts when reading comes to it.

* `Document.Fault` : why a text is no document.
* `Document.check` : the check of a text.
-/

namespace StyleHost

namespace Document

/-- Why a text is no document. -/
inductive Fault where
  | unreadable (fault : Xml.Fault)
  | secondElement (offset : Nat)
  | textOutside (offset : Nat)
  | contentOutside (offset : Nat)
  | unclosed (depth : Nat)
  | noElement
deriving DecidableEq

/-- The wording of a fault. -/
def Fault.message : Fault → String
  | unreadable fault => fault.message
  | secondElement offset => "second document element at byte " ++ toString offset
  | textOutside offset => "text outside the document element at byte " ++ toString offset
  | contentOutside offset => "content outside the document element at byte " ++ toString offset
  | unclosed depth => toString depth ++ " unclosed element(s) at end of input"
  | noElement => "no document element"

/-- How far a document has been checked: the number of open elements, and whether the outermost one
has been met. -/
structure State where
  depth : Nat
  met : Bool
deriving DecidableEq

/-- The state at the start of a document. -/
def start : State := ⟨0, false⟩

/-- The state after an event. -/
def step (s : State) (e : Xml.Located) : Except Fault State :=
  match e.event with
  | .openTag _ =>
    if s.depth = 0 ∧ s.met then .error (.secondElement e.finish) else .ok ⟨s.depth + 1, true⟩
  | .emptyTag =>
    if s.depth = 0 ∧ s.met then .error (.secondElement e.finish) else .ok ⟨s.depth, true⟩
  | .closeTag _ => .ok ⟨s.depth - 1, s.met⟩
  | .text content =>
    if s.depth = 0 ∧ !content.all Text.isAsciiSpace then .error (.textOutside e.finish) else .ok s
  | .cdata | .reference =>
    if s.depth = 0 then .error (.contentOutside e.finish) else .ok s
  | .comment | .instruction _ _ | .declaration | .doctype => .ok s

/-- The check at the end of a document. -/
def finish (s : State) : Except Fault Unit :=
  if 0 < s.depth then .error (.unclosed s.depth)
  else if s.met then .ok ()
  else .error .noElement

/-- The check of what reading a text gave. -/
def checkScan (scan : Xml.Scan) : Except Fault Unit := do
  let s ← scan.events.foldlM step start
  match scan.fault with
  | some fault => .error (.unreadable fault)
  | none => finish s

/-- Checks that a text is a document. -/
def check (bytes : Bytes) : Except Fault Unit := checkScan (Xml.scan bytes)

end Document

end StyleHost
