import StyleHost.Collation.Root.Groups
import StyleHost.Collation.Root.Lower
import StyleHost.Collation.Root.Sequences
import StyleHost.Collation.Root.Supplementary
import StyleHost.Collation.Root.Upper
import StyleHost.Collation.Table

/-!
# The root collation

The order of characters that every language starts from, read from its table. Ideographs and
characters that are not assigned come last, in the order of code points.

A word of the table names a character, a sequence joined by `+`, or a range. After the equals sign
come its elements, separated by semicolons. In a range `first-last` the primary weights ascend with
the characters; in a range `first~last` all characters have the same elements. Characters in front
of a bar have to stand before the sequence. A word with no element is ignored in every comparison.

* `root` : the table of the root collation.
-/

namespace StyleHost

namespace Collation

open CodePoints

/-- The ranges of the ideographs of the first block. -/
def coreIdeographs : List (Nat × Nat) :=
  [(0x4E00, 0x9FFF), (0xFA0E, 0xFA0F), (0xFA11, 0xFA11), (0xFA13, 0xFA14), (0xFA1F, 0xFA1F),
    (0xFA21, 0xFA21), (0xFA23, 0xFA24), (0xFA27, 0xFA29)]

/-- The ranges of all other ideographs. -/
def furtherIdeographs : List (Nat × Nat) :=
  [(0x3400, 0x4DBF), (0x20000, 0x2A6DF), (0x2A700, 0x2B739), (0x2B740, 0x2B81D),
    (0x2B820, 0x2CEA1), (0x2CEB0, 0x2EBE0), (0x2EBF0, 0x2EE5D), (0x30000, 0x3134A),
    (0x31350, 0x323AF)]

/-- The primary weight of a character without an entry: ideographs of the first block, then the
others, then all else. -/
def implicitPrimary (c : Char) : Weight :=
  let offset : Int :=
    if c.toNat < 0x3400 then 2
    else if inRanges coreIdeographs c then 0
    else if inRanges furtherIdeographs c then 1
    else 2
  [firstIdeographic + offset, (c.toNat : Int)]

/-- The place in front of all ideographs. -/
def beforeIdeographs : Weight := [firstIdeographic - 1]

/-- The parts of a text before and after the first occurrence of a character. -/
def splitAt (c : Char) (cs : List Char) : List Char × List Char :=
  (cs.takeWhile (· != c), (cs.dropWhile (· != c)).drop 1)

/-- The primary weight that a word denotes: a number, raised by `offset`, or that of an ideograph
after an at sign. -/
def primaryOf (offset : Nat) : List Char → Weight
  | [] => []
  | '@' :: digits => implicitPrimary (Char.ofNat (hexValue digits))
  | digits => [((hexValue digits + offset : Nat) : Int)]

/-- The element that a word of the root table denotes: a primary weight, after a point the
secondary weight if it is not the common one, after a comma the tertiary weight if it is not the
common one, and a `u` for upper case. -/
def elementOf (offset : Nat) (word : List Char) : Element :=
  let isUpper := word.getLast? = some 'u'
  let (weights, tertiary) := splitAt ',' (if isUpper then word.dropLast else word)
  let (primary, secondary) := splitAt '.' weights
  { primary := primaryOf offset primary
    secondary := if secondary.isEmpty then
        (if primary.isEmpty then [] else commonSecondary)
      else [((hexValue secondary : Nat) : Int)]
    tertiary := if tertiary.isEmpty then commonTertiary else [((hexValue tertiary : Nat) : Int)]
    letterCase := if isUpper then .upper else .lower }

/-- The characters from the first to the last of a range, with their places in it. -/
def numbered (first last : List Char) : List (Char × Nat) :=
  let first := hexValue first
  (List.range (hexValue last + 1 - first)).map fun i => (Char.ofNat (first + i), i)

/-- The entries that a word of the root table denotes, with the characters before the sequence. -/
def entriesOf (word : List Char) : List (List Char × List Char × List Element) :=
  let (key, value) := sides word
  let words := wordsBy (· == ';') value
  let elements := words.map (elementOf 0)
  match key.find? "-~+|".toList.contains with
  | some '-' =>
    (numbered (splitAt '-' key).1 (splitAt '-' key).2).map fun (c, i) =>
      ([], [c], words.map (elementOf i))
  | some '~' =>
    (numbered (splitAt '~' key).1 (splitAt '~' key).2).map fun (c, _) => ([], [c], elements)
  | some '|' => [(charsOf (splitAt '|' key).1, charsOf (splitAt '|' key).2, elements)]
  | _ => [([], charsOf key, elements)]

/-- The table of the root collation. -/
def root : Thunk Table := Thunk.mk fun _ =>
  ([lowerCharacters, upperCharacters, supplementaryCharacters, characterSequences].flatMap
    fun part => (words part).flatMap entriesOf).foldl
      (fun t e => t.insert e.1 e.2.1 e.2.2) ⟨{}, fun c => [.letter (implicitPrimary c)]⟩

end Collation

end StyleHost
