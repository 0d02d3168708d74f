import StyleHost.Text.CodePoints
import StyleHost.Text.DecompositionTable
import Std.Data.HashMap

/-!
# Canonical decomposition

Texts that look alike may be spelled with combined letters or with letters and marks. The canonical
decomposition spells them the second way, with the marks on a letter in a fixed order.

* `decomposeChar` : the full decomposition of one character.
* `reorderMarks` : the canonical order of marks, a stable sort by combining class between
  characters of class zero.
* `decompose` : the canonical decomposition of a text.
-/

namespace StyleHost

namespace Text

open CodePoints

/-- The value of a text of decimal digits. -/
def decimalValue (digits : List Char) : Nat :=
  digits.foldl (fun n c => 10 * n + (c.toNat - '0'.toNat)) 0

/-- The canonical decompositions of characters, by their code points. -/
def decompositions : Std.HashMap Nat (List Char) :=
  Std.HashMap.ofList ((words decompositionTable).map fun word =>
    (hexValue (sides word).1, charsOf (sides word).2))

/-- The combining classes of marks, by their code points. -/
def combiningClasses : Std.HashMap Nat Nat :=
  Std.HashMap.ofList ((words combiningClassTable).flatMap fun word =>
    let range := rangeOf (sides word).1
    (List.range (range.2 + 1 - range.1)).map fun i =>
      (range.1 + i, decimalValue (sides word).2))

/-- The canonical combining class of a character; zero for all but marks. -/
def combiningClass (c : Char) : Nat := combiningClasses.getD c.toNat 0

/-- The letters of a Hangul syllable. -/
def decomposeHangul (c : Char) : List Char :=
  let index := c.toNat - 0xAC00
  let lead := Char.ofNat (0x1100 + index / 588)
  let vowel := Char.ofNat (0x1161 + index % 588 / 28)
  let tail := index % 28
  if tail = 0 then [lead, vowel] else [lead, vowel, Char.ofNat (0x11A7 + tail)]

/-- The full canonical decomposition of a character. -/
def decomposeChar (c : Char) : List Char :=
  if c.toNat < 0xC0 then [c]
  else if 0xAC00 ≤ c.toNat ∧ c.toNat ≤ 0xD7A3 then decomposeHangul c
  else decompositions.getD c.toNat [c]

/-- A character put before a text in canonical order, behind the marks of a lower class. -/
def insertMark (c : Char) (rank : Nat) : List Char → List Char
  | [] => [c]
  | d :: ds =>
    if combiningClass d ≠ 0 ∧ combiningClass d < rank then d :: insertMark c rank ds
    else c :: d :: ds

/-- A text with its marks in canonical order. -/
def reorderMarks : List Char → List Char
  | [] => []
  | c :: cs =>
    let rank := combiningClass c
    if rank = 0 then c :: reorderMarks cs else insertMark c rank (reorderMarks cs)

/-- The canonical decomposition of a text. -/
def decompose (cs : List Char) : List Char :=
  if cs.all (·.toNat < 0xC0) then cs else reorderMarks (cs.flatMap decomposeChar)

end Text

end StyleHost
