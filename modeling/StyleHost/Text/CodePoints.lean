/-!
# Tables of code points

Tables of character properties are written as texts: words separated by blanks, each one code point
or a range `first-last` in hexadecimal.

* `hexValue` : the value of a text of hexadecimal digits.
* `sides`, `charsOf` : the parts of a word that says something of a character.
* `rangesOf` : the ranges that a table lists.
* `inRanges` : membership in a list of ranges.
-/

namespace StyleHost

namespace CodePoints

/-- The value of a hexadecimal digit of either case. -/
def hexDigit? (c : Char) : Option Nat :=
  if '0' ≤ c ∧ c ≤ '9' then some (c.toNat - '0'.toNat)
  else if 'a' ≤ c ∧ c ≤ 'f' then some (c.toNat - 'a'.toNat + 10)
  else if 'A' ≤ c ∧ c ≤ 'F' then some (c.toNat - 'A'.toNat + 10)
  else none

/-- The value of a text of hexadecimal digits; other characters count as zero. -/
def hexValue (cs : List Char) : Nat :=
  cs.foldl (fun n c => 16 * n + (hexDigit? c).getD 0) 0

/-- The parts of a text between the characters of the class `p`, empty parts left out. -/
def wordsBy (p : Char → Bool) (cs : List Char) : List (List Char) :=
  (cs.foldr (fun c parts =>
    if p c then [] :: parts
    else match parts with
      | [] => [[c]]
      | part :: rest => (c :: part) :: rest) [[]]).filter (!·.isEmpty)

/-- The words of a table, which blanks and line ends separate. -/
def words (table : String) : List (List Char) :=
  wordsBy (fun c => c == ' ' || c == '\n') table.toList

/-- The range that a word of a table denotes. -/
def rangeOf (word : List Char) : Nat × Nat :=
  match wordsBy (· == '-') word with
  | [first, last] => (hexValue first, hexValue last)
  | _ => (hexValue word, hexValue word)

/-- The characters that a word of code points joined by `+` denotes. -/
def charsOf (word : List Char) : List Char :=
  (wordsBy (· == '+') word).map fun digits => Char.ofNat (hexValue digits)

/-- The two sides of a word at its equals sign. -/
def sides (word : List Char) : List Char × List Char :=
  (word.takeWhile (· != '='), (word.dropWhile (· != '=')).drop 1)

/-- The ranges that a table lists, first and last code point. -/
def rangesOf (table : String) : List (Nat × Nat) := (words table).map rangeOf

/-- Whether a character lies in one of the ranges. -/
def inRanges (ranges : List (Nat × Nat)) (c : Char) : Bool :=
  ranges.any fun r => r.1 ≤ c.toNat && c.toNat ≤ r.2

end CodePoints

end StyleHost
