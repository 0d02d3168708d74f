import StyleHost.Config.Basic
import StyleHost.Fetch.Resolver
import StyleHost.Sort.Sorter

/-!
# Engines

The transformation engine is not part of the host. It is a program that a run starts with a request
and that then asks the host for sorted selections and for external documents, in any order and
number, each question depending on the answers so far. An engine has a state that it keeps from one
run to the next.

* `Request` : what a run starts an engine with.
* `Interaction` : what an engine does from some moment of a run on.
* `Interaction.run` : the host's side of the conversation.
* `Exchange` : what passes between the host and the engine, as the record of a run tells it.
-/

namespace StyleHost

/-- The settings that an engine is told. -/
structure EngineOptions where
  omitXmlDeclaration : Bool := true
  maxVariables : UInt64 := 20000
  exslt : Bool := true
  security : Policy := .standard
deriving DecidableEq

/-- The part of a configuration that concerns the engine. -/
def Config.engineOptions (c : Config) : EngineOptions :=
  ⟨c.omitXmlDeclaration, c.maxVariables, c.exslt, c.security⟩

/-- What a run starts an engine with. -/
structure Request where
  source : Bytes
  stylesheet : Bytes
  /-- The URI of the stylesheet, against which its references are resolved. -/
  baseUri : String
  /-- The parameters with their expressions, in order. -/
  params : List (String × String) := []
  options : EngineOptions := {}
deriving DecidableEq

/-- What an engine does from some moment of a run on. `S` is the state of the engine, `X` are its
expressions, `I` the items of selections, `D` its documents and `T` its result trees. -/
inductive Interaction (S X I D T : Type) where
  /-- Asks for a sorted selection. -/
  | sort (evaluate : Evaluator X I) (items : Array I) (specs : List (SortSpec X))
    (resume : Array I → Interaction S X I D T)
  /-- Asks for an external document. -/
  | load (parse : DocumentParser D) (uri : String) (kind : LoadKind)
    (resume : Option D → Interaction S X I D T)
  /-- Ends the run in a state that the next run starts from. -/
  | finish (state : S) (result : Except EngineError T)
  /-- Breaks down. -/
  | panic (cause : Panic)

/-- A transformation engine. -/
structure Engine (S X I D T : Type) where
  start : S → Request → Interaction S X I D T

/-- What passes between the host and the engine. -/
inductive Exchange (X I D T : Type) where
  | began (request : Request)
  /-- A selection is given back sorted. -/
  | sorted (result : Sorter.Sorted X I)
  /-- An external document is handed over, or there is none. -/
  | loaded (document : Option D)
  /-- A result tree is serialized. -/
  | serialized (tree : T)

namespace Interaction

variable {S X I D T : Type}

/-- The notices among the occurrences of a sort. -/
def noticesOf (events : List (SortEvent X)) : List Notice :=
  events.filterMap fun
    | .note notice => some notice
    | .evaluated _ _ => none

/-- Gives a sorted selection back to the engine, unless the sort broke down. -/
def giveSorted (sorted : Sorter.Sorted X I) : HostM (Exchange X I D T) Unit := do
  for notice in noticesOf sorted.events do
    HostM.note notice
  if sorted.breakdown.isNone then
    HostM.exchange (.sorted sorted)

/-- Answers the engine until it ends the run, or something breaks down. -/
def run (sorter : Sorter) : Interaction S X I D T → Resolver →
    HostM (Exchange X I D T) (Except Panic (S × Except EngineError T) × Resolver)
  | .sort evaluate items specs resume, resolver => do
    let sorted := sorter.sort evaluate items specs
    giveSorted sorted
    match sorted.breakdown with
    | some cause => return (.error cause, resolver)
    | none => run sorter (resume sorted.items) resolver
  | .load parse uri kind resume, resolver => do
    let (document, resolver) ← resolver.resolve parse uri kind
    HostM.exchange (.loaded document)
    run sorter (resume document) resolver
  | .finish state result, resolver => return (.ok (state, result), resolver)
  | .panic cause, resolver => return (.error cause, resolver)

end Interaction

end StyleHost
