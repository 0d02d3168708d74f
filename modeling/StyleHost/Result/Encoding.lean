import StyleHost.Result.MediaType
import StyleHost.Text.Ascii

/-!
# The declared encoding of an HTML result

An HTML result declares its encoding in its head. If no `meta` element does so yet, one of the form
`http-equiv` is put in front, so that the serializer need not add one of its own.

* `Meta.declaresEncoding` : whether an element declares an encoding.
* `ResultTree.declareEncoding` : the tree with its encoding declared.
-/

namespace StyleHost

/-- Whether a `meta` element declares an encoding. -/
def Meta.declaresEncoding (m : Meta) : Bool :=
  m.charset.isSome || m.httpEquiv.any (Text.eqIgnoreCase · "Content-Type")

namespace ResultTree

variable {T : Type} [ResultTree T]

/-- The content of the element that declares an encoding; without one it is UTF-8. -/
def encodingContent (encoding? : Option String) : String :=
  "text/html; charset=" ++ encoding?.getD "UTF-8"

/-- The content of the element that a tree lacks, if it lacks one. -/
def missingDeclaration (tree : T) : Except Panic (Option String) := do
  if (← effectiveMethod tree) = some "html" then
    let encoding ← ResultTree.encoding? tree
    match ← metas? tree with
    | none => return none
    | some metas =>
      return if metas.any Meta.declaresEncoding then none else some (encodingContent encoding)
  else return none

/-- The tree with its encoding declared, and whether an element had to be put in. -/
def declareEncoding {A : Type} (tree : T) : WorkM A (T × Bool) := do
  match ← WorkM.ofExcept (missingDeclaration tree) with
  | none => return (tree, false)
  | some content => do
    WorkM.note (.insertingMeta content)
    return (← WorkM.ofExcept (prependMeta tree "Content-Type" content), true)

end ResultTree

end StyleHost
