import StyleHost.Collation.Cluster
import StyleHost.Collation.Element
import Std.Data.HashMap

/-!
# Tables of collation elements

A table gives elements to characters and to sequences of characters that sort as a unit, some of
them only after certain characters. A text is cut into the longest sequences that the table knows;
a mark that follows further on joins a sequence if nothing between them stands in the way.

* `Table.insert`, `Table.suppress` : tables with an entry put in or sequences taken out.
* `Table.elements` : the elements of a text.
-/

namespace StyleHost

namespace Collation

/-- The elements of a sequence of characters, whose first character is known from the context. -/
structure Entry where
  /-- The characters that have to stand before the sequence, the nearest first. -/
  before : List Char
  /-- The characters after the first. -/
  tail : List Char
  elements : List Element

/-- Whether an entry is tried before another: more characters before it, then a longer sequence. -/
def Entry.precedes (e f : Entry) : Bool :=
  f.before.length < e.before.length ||
    (f.before.length == e.before.length && f.tail.length < e.tail.length)

/-- Entries by the code point of their first character, in the order in which they are tried. -/
structure Table where
  entries : Std.HashMap Nat (List Entry)
  /-- The elements of a character that has no entry. -/
  unlisted : Char → List Element

namespace Table

/-- The entries of sequences that start with a character. -/
def entriesFor (t : Table) (c : Char) : List Entry := t.entries.getD c.toNat []

/-- An entry put into its place in a list; it replaces that of the same sequence. -/
def insertEntry (e : Entry) (entries : List Entry) : List Entry :=
  let others := entries.filter fun f => f.before != e.before || f.tail != e.tail
  others.takeWhile (·.precedes e) ++ e :: others.dropWhile (·.precedes e)

/-- The table with the elements of a sequence replaced; the empty sequence has no entry. -/
def insert (t : Table) (before sequence : List Char) (elements : List Element) : Table :=
  match sequence with
  | [] => t
  | c :: tail =>
    { t with
      entries := t.entries.insert c.toNat
        (insertEntry ⟨before.reverse, tail, elements⟩ (t.entriesFor c)) }

/-- The table without the longer sequences that start with a character. -/
def suppress (t : Table) (c : Char) : Table :=
  { t with entries := t.entries.insert c.toNat ((t.entriesFor c).filter (·.tail.isEmpty)) }

/-- What is left of marks and clusters after the characters of a sequence, if they start with
these. Within a cluster further on, its own marks come before those written after it. -/
def leftAfter? : (tail marks : List Char) → List Cluster → Option (List Char × List Cluster)
  | [], marks, rest => some (marks, rest)
  | c :: tail, m :: marks, rest => if c = m then leftAfter? tail marks rest else none
  | c :: tail, [], k :: rest =>
    if c = k.first then leftAfter? tail (k.own ++ k.following) rest else none
  | _ :: _, [], [] => none

/-- What a step through a text has found: the elements of a sequence, the characters of the
sequence from its end on, and the text after it. -/
structure Match where
  elements : List Element
  passed : List Char
  marks : List Char
  rest : List Cluster

/-- Extends a match by marks further on. A mark joins the sequence if there is an entry for the
longer sequence and no mark that is left in between has the same class or a higher one; `left`
holds these marks, last first, and `bar` the class of the last. -/
def joinMarks (candidates : List Entry) (tail : List Char) (elements : List Element) (bar : Nat)
    (left : List Char) : List Char → List Element × List Char × List Char
  | [] => (elements, tail, left.reverse)
  | d :: ds =>
    let rank := Text.combiningClass d
    if rank ≤ bar then joinMarks candidates tail elements rank (d :: left) ds
    else match candidates.find? (·.tail = tail ++ [d]) with
      | some e => joinMarks candidates (tail ++ [d]) e.elements bar left ds
      | none => joinMarks candidates tail elements rank (d :: left) ds

/-- The longest sequence that starts with `c` and goes on with marks and clusters, after certain
characters, the nearest first. -/
def longest (t : Table) (before : List Char) (c : Char) (marks : List Char)
    (rest : List Cluster) : Match :=
  let entries := t.entriesFor c
  let found := entries.findSome? fun e =>
    if e.before.isPrefixOf before then (leftAfter? e.tail marks rest).map (e, ·) else none
  match found with
  | some (e, marks, rest) =>
    let (elements, tail, marks) :=
      if marks.isEmpty then (e.elements, e.tail, marks)
      else joinMarks (entries.filter (·.before = e.before)) e.tail e.elements 0 [] marks
    ⟨elements, (c :: tail).reverse, marks, rest⟩
  | none => ⟨t.unlisted c, [c], marks, rest⟩

/-- The elements of marks and clusters after certain characters, of which at most `fuel` sequences
are read. -/
def elementsUpTo (t : Table) : Nat → (before marks : List Char) → List Cluster → List Element
  | 0, _, _, _ => []
  | fuel + 1, before, c :: marks, rest =>
    let m := t.longest before c marks rest
    m.elements ++ elementsUpTo t fuel (m.passed ++ before) m.marks m.rest
  | fuel + 1, before, [], k :: rest =>
    let m := t.longest before k.first k.marks rest
    m.elements ++ elementsUpTo t fuel (m.passed ++ before) m.marks m.rest
  | _ + 1, _, [], [] => []

/-- The elements of a text. -/
def elements (t : Table) (cs : List Char) : List Element :=
  let s := Spelling.ofText cs
  t.elementsUpTo s.length [] s.marks s.clusters

end Table

end Collation

end StyleHost
