import StyleHost.Record
import StyleHost.Text.Utf8

/-!
# Result trees

What the host sees of the tree that an engine builds: the declared output method and encoding,
whether it is an HTML document, the `meta` elements in its head, and its serialized form. A tree
belongs to the engine, so any of these may break down.

* `Meta` : the attributes of a `meta` element that can declare an encoding.
* `ResultTree` : the operations on a tree.
-/

namespace StyleHost

/-- The attributes of a `meta` element that can declare an encoding. -/
structure Meta where
  charset : Option String := none
  httpEquiv : Option String := none
deriving DecidableEq

/-- The operations that the host has on the trees of an engine. -/
class ResultTree (T : Type) where
  /-- The declared output method. -/
  method? : T → Except Panic (Option String)
  /-- The declared encoding. -/
  encoding? : T → Except Panic (Option String)
  /-- Whether the tree was built as an HTML document. -/
  isHtmlDocument : T → Except Panic Bool
  /-- The `meta` elements of the head, in order; none without a head. -/
  metas? : T → Except Panic (Option (List Meta))
  /-- The tree with a `meta` element put in front of the others in its head. -/
  prependMeta : T → (httpEquiv content : String) → Except Panic T
  /-- The tree as a document. -/
  serialize : T → Except Panic (Except EngineError Bytes)

end StyleHost
