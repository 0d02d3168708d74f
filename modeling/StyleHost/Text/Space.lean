/-!
# White space

Four different sets of blanks matter to a stylesheet host, and they are kept apart here.

* `isXmlSpace` : the four blanks of XML and of XPath numbers.
* `isAsciiSpace` : those four and the form feed, on bytes; what may stand between markup outside
  the document element.
* `isBlank` : the Unicode property `White_Space`, used when attribute values are trimmed.
* `trimWith` : drops the characters of a class from both ends of a text.
-/

namespace StyleHost

namespace Text

/-- The blanks of XML: space, tab, carriage return, line feed. -/
def isXmlSpace (c : Char) : Bool :=
  c == ' ' || c == '\t' || c == '\r' || c == '\n'

/-- The blanks of XML as bytes. -/
def isXmlSpaceByte (b : UInt8) : Bool :=
  b == 0x20 || b == 0x09 || b == 0x0D || b == 0x0A

/-- The ASCII blanks: those of XML and the form feed. -/
def isAsciiSpace (b : UInt8) : Bool :=
  isXmlSpaceByte b || b == 0x0C

/-- The ranges of the Unicode property `White_Space`, first and last code point. -/
def blankRanges : List (Nat × Nat) :=
  [(0x09, 0x0D), (0x20, 0x20), (0x85, 0x85), (0xA0, 0xA0), (0x1680, 0x1680), (0x2000, 0x200A),
    (0x2028, 0x2029), (0x202F, 0x202F), (0x205F, 0x205F), (0x3000, 0x3000)]

/-- A character with the Unicode property `White_Space`. -/
def isBlank (c : Char) : Bool :=
  blankRanges.any fun r => r.1 ≤ c.toNat && c.toNat ≤ r.2

/-- A text without the leading characters of the class `p`. -/
def trimStartList (p : Char → Bool) (cs : List Char) : List Char :=
  cs.dropWhile p

/-- A text without the characters of the class `p` at either end. -/
def trimList (p : Char → Bool) (cs : List Char) : List Char :=
  ((cs.dropWhile p).reverse.dropWhile p).reverse

/-- A text without the characters of the class `p` at either end. -/
def trimWith (p : Char → Bool) (s : String) : String :=
  String.ofList (trimList p s.toList)

/-- A text without the blanks at either end. -/
def trim (s : String) : String := trimWith isBlank s

theorem isXmlSpace_isBlank {c : Char} (h : isXmlSpace c = true) : isBlank c = true := by
  simp only [isXmlSpace, Bool.or_eq_true, beq_iff_eq] at h
  rcases h with ((rfl | rfl) | rfl) | rfl <;> decide

end Text

end StyleHost
