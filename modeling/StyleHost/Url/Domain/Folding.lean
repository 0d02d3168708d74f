import StyleHost.Text.CodePoints
import StyleHost.Url.Domain.FoldingTable
import Std.Data.HashMap

/-!
# Folding of domain names

Domain names that differ in case, width or style alone are the same. A name is folded to one of
them by folding its characters: most stay as they are, some give way to others, some are left out,
and some may not stand in a name.

* `Url.Domain.fold?` : what a character is folded to.
-/

namespace StyleHost

namespace Url

namespace Domain

open CodePoints

/-- The characters that a word of the table of folded characters speaks of, with what they are
folded to. -/
def foldedByWord (word : List Char) : List (Nat × List Char) :=
  match wordsBy (· == '~') word with
  | [first, last] =>
    let first := hexValue first
    (List.range ((hexValue last - first) / 2 + 1)).map fun i =>
      (first + 2 * i, [Char.ofNat (first + 2 * i + 1)])
  | _ =>
    let (source, target) := sides word
    let range := rangeOf source
    if range.1 < range.2 then
      (List.range (range.2 + 1 - range.1)).map fun i =>
        (range.1 + i, [Char.ofNat (hexValue target + i)])
    else [(range.1, charsOf target)]

/-- The characters that others take the place of, by their code points. -/
def folded : Thunk (Std.HashMap Nat (List Char)) := Thunk.mk fun _ =>
  Std.HashMap.ofList ((words foldedTable).flatMap foldedByWord)

/-- The ranges of the characters that are left out. -/
def droppedRanges : Thunk (List (Nat × Nat)) := Thunk.mk fun _ => rangesOf droppedTable

/-- The ranges of the characters that a name may not hold. -/
def refusedRanges : Thunk (List (Nat × Nat)) := Thunk.mk fun _ => rangesOf refusedTable

/-- What a character is folded to, if a name may hold it. -/
def fold? (c : Char) : Option (List Char) :=
  match folded.get[c.toNat]? with
  | some cs => some cs
  | none =>
    if c.toNat < 128 then some [c]
    else if inRanges droppedRanges.get c then some []
    else if inRanges refusedRanges.get c then none
    else some [c]

/-- Whether a name may hold a character, and folding leaves it as it is. -/
def isFolded (c : Char) : Bool := fold? c = some [c]

end Domain

end Url

end StyleHost
