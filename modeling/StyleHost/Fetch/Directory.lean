import StyleHost.Fetch.FileTree
import StyleHost.Fetch.Store
import StyleHost.Url.FilePath

/-!
# Documents beneath a directory

A directory fetcher reads files beneath its base. A reference is a `file` URL, or a path from the
base. Whatever the reference looks like, the place that it leads to in the end must lie beneath the
place of the base, name by name.

* `DirectoryFetcher.fetch` : the content of the file that a reference leads to.
-/

namespace StyleHost

/-- A directory of a tree. -/
structure DirectoryFetcher where
  tree : FileTree
  /-- The path of the directory. -/
  base : String

namespace DirectoryFetcher

/-- Whether a reference starts with the scheme of files, in any case. -/
def isFileUri (uri : String) : Bool := Text.eqIgnoreCase (String.ofList (uri.toList.take 5)) "file:"

/-- A path from the base. -/
def inBase (f : DirectoryFetcher) (path : Bytes) : Bytes :=
  let base := Utf8.encode f.base
  if base = [] ∨ base.getLast? = some FileTree.separator then base ++ path
  else base ++ FileTree.separator :: path

/-- The path that a reference means. -/
def candidate (f : DirectoryFetcher) (uri : String) : Except FetchError Bytes :=
  if isFileUri uri then
    match Url.parse uri with
    | .ok url =>
      match url.toFilePath? with
      | some path => .ok path
      | none => .error (.invalidUri uri)
    | .error _ => .error (.invalidUri uri)
  else
    let path := Utf8.encode uri
    if FileTree.isAbsolute path then .error (.forbidden uri) else .ok (f.inBase path)

/-- The place of the base, if it exists. -/
def basePlace? (f : DirectoryFetcher) : Option Place := f.tree.resolve? (Utf8.encode f.base)

/-- Whether a place is the base or lies beneath it. -/
def contains (f : DirectoryFetcher) (place : Place) : Bool :=
  f.basePlace?.any (·.isPrefixOf place)

/-- The content of the file at a place. -/
def read (f : DirectoryFetcher) (uri : String) (place : Place) : Except FetchError Bytes :=
  match f.tree.find? place with
  | some (.file content) => .ok content
  | some .unreadable => .error (.io "Permission denied (os error 13)")
  | some .directory => .error (.io "Is a directory (os error 21)")
  | some (.link _) | none => .error (.notFound uri)

/-- The content of the file that a reference leads to. -/
def fetch (f : DirectoryFetcher) (uri : String) : Except FetchError Bytes := do
  let path ← f.candidate uri
  match f.tree.resolve? path with
  | none => .error (.notFound uri)
  | some place => if f.contains place then f.read uri place else .error (.forbidden uri)

/-- The directory as a fetcher. -/
def fetcher (f : DirectoryFetcher) : Fetcher :=
  .ofOutcomes "FilesystemFetcher" fun uri => .ofExcept (f.fetch uri)

end DirectoryFetcher

end StyleHost
