import StyleHost.Result.Tree

/-!
# Media types of results

The media type of a result follows from its output method: the declared one or, when none is
declared, `html` for a tree that was built as an HTML document.

* `ResultTree.effectiveMethod` : the method that counts.
* `ResultTree.mediaType` : the media type of a tree.
-/

namespace StyleHost

/-- The media type of a result. -/
inductive MediaType where
  | html
  | text
  | xml
deriving DecidableEq

namespace MediaType

/-- The name of a media type. -/
def name : MediaType → String
  | html => "text/html"
  | text => "text/plain"
  | xml => "application/xml"

/-- The media type that an output method gives. -/
def ofMethod : Option String → MediaType
  | some "html" => html
  | some "text" => text
  | _ => xml

end MediaType

namespace ResultTree

variable {T : Type} [ResultTree T]

/-- The output method that counts for a tree. -/
def effectiveMethod (tree : T) : Except Panic (Option String) := do
  match ← method? tree with
  | some method => return some method
  | none => return if ← isHtmlDocument tree then some "html" else none

/-- The media type of a tree. -/
def mediaType (tree : T) : Except Panic MediaType := do
  return .ofMethod (← effectiveMethod tree)

end ResultTree

end StyleHost
