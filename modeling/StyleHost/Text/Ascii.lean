/-!
# ASCII letters

Names that are matched without regard to case (schemes, media types, header names) fold the ASCII
letters only. On other characters the folding is the identity.
-/

namespace StyleHost

namespace Text

/-- The lower-case form of an ASCII letter, any other character itself. -/
def lowerAscii (c : Char) : Char := c.toLower

/-- Equality of two texts up to the case of ASCII letters. -/
def eqIgnoreCase (a b : String) : Bool :=
  a.toList.map lowerAscii == b.toList.map lowerAscii

/-- A text with its ASCII letters in lower case. -/
def lower (s : String) : String := String.ofList (s.toList.map lowerAscii)

theorem eqIgnoreCase_iff {a b : String} :
    eqIgnoreCase a b = true ↔ a.toList.map lowerAscii = b.toList.map lowerAscii := beq_iff_eq

theorem eqIgnoreCase_refl (a : String) : eqIgnoreCase a a = true := by
  simp [eqIgnoreCase]

theorem eqIgnoreCase_comm (a b : String) : eqIgnoreCase a b = eqIgnoreCase b a := by
  simp only [eqIgnoreCase]
  exact Bool.beq_comm

end Text

end StyleHost
