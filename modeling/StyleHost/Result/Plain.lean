import StyleHost.Result.Tree

/-!
# Plain result trees

The simplest result tree: everything that the host asks of a tree is written down in it.

* `PlainTree` : the data of a tree, an instance of `ResultTree`.
-/

namespace StyleHost

/-- A `meta` element of a plain tree. -/
structure PlainMeta extends Meta where
  content : Option String := none
deriving DecidableEq

/-- A result tree that is written down. -/
structure PlainTree where
  method : Option String := none
  encoding : Option String := none
  isHtml : Bool := false
  /-- The `meta` elements of the head, if there is one. -/
  head : Option (List PlainMeta) := none
  /-- The serialized form. -/
  serialized : Except EngineError Bytes := .ok []

instance : ResultTree PlainTree where
  method? t := .ok t.method
  encoding? t := .ok t.encoding
  isHtmlDocument t := .ok t.isHtml
  metas? t := .ok (t.head.map (·.map PlainMeta.toMeta))
  prependMeta t httpEquiv content :=
    .ok { t with head := t.head.map (⟨⟨none, some httpEquiv⟩, some content⟩ :: ·) }
  serialize t := .ok t.serialized

end StyleHost
