import StyleHost.Text.Utf8

/-!
# Trees of files

A tree holds files, directories and symbolic links under their places, a place being the list of
names that lead there from the root. A path is followed name by name: whatever has more of the path
after it must be a directory, and a link is replaced by its target. Following gives up after forty
links.

* `FileTree.find?` : what stands at a place.
* `FileTree.resolve?` : the place that a path leads to, which is a file or a directory and not a
  link.
-/

namespace StyleHost

/-- The name of an entry of a directory. -/
abbrev FileName := Bytes

/-- The names that lead from the root to an entry. -/
abbrev Place := List FileName

/-- What stands at a place. -/
inductive FileNode where
  | file (content : Bytes)
  /-- A file that may not be read. -/
  | unreadable
  | directory
  | link (target : Bytes)
deriving DecidableEq

/-- What stands at which place. The root is a directory. -/
structure FileTree where
  nodes : List (Place × FileNode) := []
  /-- The names that lead from the root to where paths start that do not start at the root. -/
  workingDirectory : List FileName := []

namespace FileTree

/-- What stands at a place. -/
def find? (t : FileTree) (place : Place) : Option FileNode :=
  if place = [] then some .directory else t.nodes.lookup place

/-- The tree with something put at a place. -/
def put (t : FileTree) (place : Place) (node : FileNode) : FileTree :=
  { t with nodes := (place, node) :: t.nodes }

/-- The byte between the names of a path. -/
def separator : UInt8 := 0x2F

/-- The names of a path. Two separators in a row have an empty name between them. -/
def names : Bytes → List FileName
  | [] => [[]]
  | b :: bs =>
    if b = separator then [] :: names bs
    else
      match names bs with
      | name :: rest => (b :: name) :: rest
      | [] => [[b]]

/-- Whether a path starts at the root. -/
def isAbsolute (path : Bytes) : Bool := path.head? == some separator

/-- The name of the directory itself; so is the empty name. -/
def dot : FileName := [0x2E]

/-- The name of the directory above. -/
def dotDot : FileName := [0x2E, 0x2E]

/-- The number of links that may be followed on one path. -/
def maxLinks : Nat := 40

/-- Where names lead from a place, if at most `links` links are followed. -/
def walk (t : FileTree) (links : Nat) (place : Place) (pending : List FileName) : Option Place :=
  match pending with
  | [] => some place
  | name :: rest =>
    if t.find? place ≠ some .directory then none
    else if name = [] ∨ name = dot then t.walk links place rest
    else if name = dotDot then t.walk links place.dropLast rest
    else
      match t.find? (place ++ [name]) with
      | none => none
      | some (.link target) =>
        match links with
        | 0 => none
        | links + 1 =>
          t.walk links (if isAbsolute target then [] else place) (names target ++ rest)
      | some _ => t.walk links (place ++ [name]) rest
termination_by (links, pending.length)

/-- The names that a path leads along from the root. -/
def route (t : FileTree) (path : Bytes) : List FileName :=
  if isAbsolute path then names path else t.workingDirectory ++ names path

/-- The place that a path leads to. An empty path, or one with a zero byte, leads nowhere. -/
def resolve? (t : FileTree) (path : Bytes) : Option Place :=
  if path = [] ∨ 0 ∈ path then none else t.walk maxLinks [] (t.route path)

end FileTree

end StyleHost
