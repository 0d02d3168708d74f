import StyleHost.Text.Decomposition

/-!
# Clusters of a text

A text is compared character by character in canonical decomposition, a character with the marks
after it forming a cluster. The marks of a cluster are ordered as those of its canonical
decomposition; yet the marks that the character itself brings along, being spelled with it, are
told apart from those written after it.

* `Cluster` : a character and its marks.
* `Spelling.ofText` : the clusters of a text.
-/

namespace StyleHost

namespace Collation

/-- Whether a character is a mark on the one before it. -/
def isMark (c : Char) : Bool := Text.combiningClass c != 0

/-- A character with the marks on it. -/
structure Cluster where
  first : Char
  /-- The marks that belong to the decomposition of one character of the text. -/
  own : List Char
  /-- The marks written after that character, in canonical order. -/
  following : List Char

/-- All marks of a cluster in canonical order. -/
def Cluster.marks (c : Cluster) : List Char := Text.reorderMarks (c.own ++ c.following)

/-- A text as clusters, with the marks at its start, which stand on no character. -/
structure Spelling where
  marks : List Char
  clusters : List Cluster

namespace Spelling

/-- The marks at the start of a decomposition, and its characters with their marks. -/
def cut : List Char → List Char × List (Char × List Char)
  | [] => ([], [])
  | c :: cs =>
    let (marks, parts) := cut cs
    if isMark c then (c :: marks, parts) else ([], (c, marks) :: parts)

/-- The clusters of the parts of a decomposition, the last of which takes the marks after it. -/
def clustersOf (following : List Char) : List (Char × List Char) → List Cluster
  | [] => []
  | [part] => [⟨part.1, part.2, following⟩]
  | part :: parts => ⟨part.1, part.2, []⟩ :: clustersOf following parts

/-- A spelling with a character put before it. -/
def put (c : Char) (s : Spelling) : Spelling :=
  match cut (Text.decomposeChar c) with
  | (marks, []) => ⟨marks ++ s.marks, s.clusters⟩
  | (marks, parts) => ⟨marks, clustersOf (Text.reorderMarks s.marks) parts ++ s.clusters⟩

/-- The spelling of a text. -/
def ofText (cs : List Char) : Spelling :=
  let s := cs.foldr put ⟨[], []⟩
  ⟨Text.reorderMarks s.marks, s.clusters⟩

/-- The number of characters of a spelling. -/
def length (s : Spelling) : Nat :=
  s.clusters.foldl (fun n c => n + c.own.length + c.following.length + 1) s.marks.length

end Spelling

end Collation

end StyleHost
