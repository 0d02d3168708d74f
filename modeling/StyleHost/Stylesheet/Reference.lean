import StyleHost.Stylesheet.Attributes
import StyleHost.Text.Ascii
import StyleHost.Xml.Reader

/-!
# The stylesheet that a document asks for

A document names its stylesheet in an `xml-stylesheet` instruction outside of all elements, with a
`type` that means XSLT and an `href` that is not empty. The first such instruction counts. The
document is read to its end, so that a fault anywhere in it is found.

* `Stylesheet.hrefOf` : the reference that one instruction makes.
* `Stylesheet.find` : the reference that a document makes.
-/

namespace StyleHost

namespace Stylesheet

/-- The media types of XSLT. -/
def xsltTypes : List String := ["text/xsl", "application/xslt+xml"]

/-- Whether a media type means XSLT. -/
def isXslt (type : List Char) : Bool :=
  xsltTypes.any fun t => Text.eqIgnoreCase (String.ofList type) t

/-- The reference that an instruction with the given content makes. -/
def hrefOf (content : List Char) : Option String :=
  let attributes := Attributes.parse content
  match Attributes.find? attributes "type", Attributes.find? attributes "href" with
  | some type, some href =>
    if isXslt type && !href.isEmpty then some (String.ofList (unescape href)) else none
  | _, _ => none

/-- The reference that an event makes outside of all elements. -/
def hrefOfEvent : Xml.Event → Option String
  | .instruction target content =>
    if target = Xml.codes "xml-stylesheet" then
      match Utf8.decodeChars content with
      | .ok cs => hrefOf cs
      | .error _ => none
    else none
  | _ => none

/-- The number of open elements after an event. -/
def depthAfter (depth : Nat) : Xml.Event → Nat
  | .openTag _ => depth + 1
  | .closeTag _ => depth - 1
  | _ => depth

/-- The first reference among events, `depth` elements being open before them. -/
def firstHref (depth : Nat) : List Xml.Located → Option String
  | [] => none
  | e :: es =>
    let here := if depth = 0 then hrefOfEvent e.event else none
    here.or (firstHref (depthAfter depth e.event) es)

/-- The reference that a document makes, if any; an unreadable document is a fault. -/
def find (bytes : Bytes) : Except Xml.Fault (Option String) :=
  let scan := Xml.scan bytes
  match scan.fault with
  | some fault => .error fault
  | none => .ok (firstHref 0 scan.events)

end Stylesheet

end StyleHost
