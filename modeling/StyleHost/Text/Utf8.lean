/-!
# UTF-8

Texts as bytes. Decoding stops at the first byte that belongs to no character and tells where, and
how many bytes before the next one make up the faulty sequence.

* `Bytes` : a document as it is stored and sent.
* `Utf8.decode` : the text that bytes spell.
* `Utf8.encode` : the bytes of a text.
-/

namespace StyleHost

/-- The bytes of a document. -/
abbrev Bytes := List UInt8

namespace Utf8

/-- Why bytes are no text. -/
structure Fault where
  /-- The number of bytes before the faulty sequence. -/
  index : Nat
  /-- The length of the faulty sequence; none if the bytes end within a character. -/
  length : Option Nat
deriving DecidableEq

/-- The wording of a fault. -/
def Fault.message (f : Fault) : String :=
  match f.length with
  | some n =>
    "invalid utf-8 sequence of " ++ toString n ++ " bytes from index " ++ toString f.index
  | none => "incomplete utf-8 byte sequence from index " ++ toString f.index

/-- A byte that continues a character. -/
def isTail (b : UInt8) : Bool := 0x80 ≤ b && b ≤ 0xBF

/-- The second bytes that may follow a first byte of a character of three or four bytes. -/
def isSecond (first second : UInt8) : Bool :=
  if first = 0xE0 then 0xA0 ≤ second && second ≤ 0xBF
  else if first = 0xED then 0x80 ≤ second && second ≤ 0x9F
  else if first = 0xF0 then 0x90 ≤ second && second ≤ 0xBF
  else if first = 0xF4 then 0x80 ≤ second && second ≤ 0x8F
  else isTail second

/-- The bits of a byte that continues a character. -/
def tailBits (b : UInt8) : Nat := b.toNat - 0x80

/-- The first character of a sequence of bytes with the bytes after it, or the length of the faulty
sequence, none if the bytes end within a character. -/
def first (b : UInt8) (rest : Bytes) : Except (Option Nat) (Char × Bytes) :=
  if b < 0x80 then .ok (Char.ofNat b.toNat, rest)
  else if 0xC2 ≤ b ∧ b ≤ 0xDF then
    match rest with
    | [] => .error none
    | c :: rest =>
      if isTail c then .ok (Char.ofNat ((b.toNat - 0xC0) * 0x40 + tailBits c), rest)
      else .error (some 1)
  else if 0xE0 ≤ b ∧ b ≤ 0xEF then
    match rest with
    | [] => .error none
    | c :: rest =>
      if !isSecond b c then .error (some 1)
      else match rest with
        | [] => .error none
        | d :: rest =>
          if isTail d then
            .ok (Char.ofNat (((b.toNat - 0xE0) * 0x40 + tailBits c) * 0x40 + tailBits d), rest)
          else .error (some 2)
  else if 0xF0 ≤ b ∧ b ≤ 0xF4 then
    match rest with
    | [] => .error none
    | c :: rest =>
      if !isSecond b c then .error (some 1)
      else match rest with
        | [] => .error none
        | d :: rest =>
          if !isTail d then .error (some 2)
          else match rest with
            | [] => .error none
            | e :: rest =>
              if isTail e then
                let high := ((b.toNat - 0xF0) * 0x40 + tailBits c) * 0x40 + tailBits d
                .ok (Char.ofNat (high * 0x40 + tailBits e), rest)
              else .error (some 3)
  else .error (some 1)

/-- Decodes bytes from an index on, at most `fuel` characters; `read` holds the characters so far,
last first. -/
def decodeUpTo : Nat → Nat → List Char → Bytes → Except Fault (List Char)
  | _, _, read, [] => .ok read.reverse
  | 0, index, _, _ :: _ => .error ⟨index, none⟩
  | fuel + 1, index, read, b :: rest =>
    match first b rest with
    | .ok (c, rest) => decodeUpTo fuel (index + c.utf8Size) (c :: read) rest
    | .error length => .error ⟨index, length⟩

/-- The characters that bytes spell. -/
def decodeChars (bytes : Bytes) : Except Fault (List Char) :=
  decodeUpTo bytes.length 0 [] bytes

/-- The text that bytes spell. -/
def decode (bytes : Bytes) : Except Fault String := (decodeChars bytes).map String.ofList

/-- The bytes of a text. -/
def encode (s : String) : Bytes := s.toUTF8.toList

end Utf8

end StyleHost
