import StyleHost.Text.Utf8

/-!
# Percent-encoding

In a URL a byte can be written as a percent sign and two hexadecimal digits. Which characters must
be written so depends on where they stand.

* `percentEncode` : a text with the characters of a set encoded, each as its UTF-8 bytes.
* `percentDecode` : bytes with all encoded bytes decoded. A percent sign without two digits after
  it stands for itself.
-/

namespace StyleHost

namespace Url

/-- A character that is encoded everywhere: a control, or one outside ASCII. -/
def isControl (c : Char) : Bool := c.toNat < 0x20 || 0x7E < c.toNat

/-- A character that is encoded in a fragment. -/
def inFragmentSet (c : Char) : Bool := isControl c || " \"<>`".toList.contains c

/-- A character that is encoded in a path. -/
def inPathSet (c : Char) : Bool := inFragmentSet c || "#?\x7b\x7d".toList.contains c

/-- A character that is encoded in credentials. -/
def inUserinfoSet (c : Char) : Bool := inPathSet c || "/:;=@[\\]^|".toList.contains c

/-- A character that is encoded in a query; an apostrophe only if the scheme is special. -/
def inQuerySet (special : Bool) (c : Char) : Bool :=
  isControl c || " \"#<>".toList.contains c || (special && c == '\'')

/-- The upper-case hexadecimal digit of a number below 16. -/
def hexDigit (n : Nat) : Char := "0123456789ABCDEF".toList.getD n '0'

/-- An encoded byte. -/
def encodeByte (b : UInt8) : List Char := ['%', hexDigit (b.toNat / 16), hexDigit (b.toNat % 16)]

/-- An encoded character. -/
def encodeChar (c : Char) : List Char := (Utf8.encode (String.singleton c)).flatMap encodeByte

/-- A text with the characters of a set encoded. -/
def percentEncode (inSet : Char → Bool) (cs : List Char) : List Char :=
  cs.flatMap fun c => if inSet c then encodeChar c else [c]

/-- The value of a hexadecimal digit. -/
def hexValue? (b : UInt8) : Option UInt8 :=
  if 0x30 ≤ b ∧ b ≤ 0x39 then some (b - 0x30)
  else if 0x41 ≤ b ∧ b ≤ 0x46 then some (b - 0x41 + 10)
  else if 0x61 ≤ b ∧ b ≤ 0x66 then some (b - 0x61 + 10)
  else none

/-- The byte that two hexadecimal digits spell. -/
def byteOf? (high low : UInt8) : Option UInt8 := do
  return (← hexValue? high) * 16 + (← hexValue? low)

/-- Bytes with all encoded bytes decoded. -/
def percentDecode : Bytes → Bytes
  | 0x25 :: high :: low :: rest =>
    match byteOf? high low with
    | some b => b :: percentDecode rest
    | none => 0x25 :: percentDecode (high :: low :: rest)
  | b :: rest => b :: percentDecode rest
  | [] => []

end Url

end StyleHost
