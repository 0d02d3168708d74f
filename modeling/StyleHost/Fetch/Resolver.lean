import StyleHost.Fetch.Bridge

/-!
# Loading documents for an engine

A resolver fetches documents through a bridge and has them parsed. To the engine a failed fetch and
a document that cannot be parsed look the same: there is no document.

* `Resolver.resolve` : one load.
* `Resolver.loaded`, `Resolver.failed` : counters of what became of the loads.
-/

namespace StyleHost

/-- The document that bytes fetched from a URI spell. -/
abbrev DocumentParser (D : Type) := Bytes → (uri : String) → Except EngineError D

/-- A bridge with counters of the loads made through it. -/
structure Resolver where
  bridge : Bridge
  loaded : Nat := 0
  failed : Nat := 0

namespace Resolver

variable {A D : Type}

/-- A resolver with one more load that went well. -/
def countLoaded (r : Resolver) : Resolver := { r with loaded := r.loaded + 1 }

/-- A resolver with one more load that failed. -/
def countFailed (r : Resolver) : Resolver := { r with failed := r.failed + 1 }

/-- The document at a URI. -/
def resolve (r : Resolver) (parse : DocumentParser D) (uri : String) (kind : LoadKind) :
    HostM A (Option D × Resolver) := do
  HostM.note (.resolving kind uri)
  let (reply, bridge) ← r.bridge.fetch uri
  let r := { r with bridge := bridge }
  match reply with
  | none => return (none, r.countFailed)
  | some content =>
    match parse content uri with
    | .ok document => return (some document, r.countLoaded)
    | .error cause => do
      HostM.note (.notParsed uri cause)
      return (none, r.countFailed)

end Resolver

end StyleHost
