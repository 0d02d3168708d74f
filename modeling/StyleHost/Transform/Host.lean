import StyleHost.Result.Encoding
import StyleHost.Transform.Engine
import StyleHost.Transform.Output

/-!
# Hosts

A host runs transformations on an engine, one after another. It answers the engine's questions,
makes sure that an HTML result declares its encoding, and serializes the result.

* `EngineLock` : the engine between runs. If the engine breaks down during a run, no later run gets
  hold of it.
* `Host.deliver` : what is done with a tree after the engine has given it.
* `Host.transform` : a run.
-/

namespace StyleHost

/-- The engine between runs. -/
inductive EngineLock (S : Type) where
  | free (state : S)
  /-- The engine broke down in an earlier run. -/
  | poisoned
deriving DecidableEq

/-- An engine with all that runs on it need. -/
structure Host (S X I D T : Type) where
  engine : Engine S X I D T
  fetcher : Fetcher
  collations : Collations
  config : Config := {}

namespace Host

variable {S X I D T : Type}

/-- What the runs of a host sort by. -/
def sorter (h : Host S X I D T) : Sorter :=
  { collations := h.collations, defaultLocale := h.config.defaultLocale }

/-- The bridge of a run, before anything was fetched through it. -/
def bridge (h : Host S X I D T) : Bridge :=
  { fetcher := h.fetcher, policy := h.config.security, timeoutMs := h.config.fetchTimeoutMs }

/-- The host after some retrievals. -/
def after (h : Host S X I D T) (uris : List String) : Host S X I D T :=
  { h with fetcher := h.fetcher.after uris }

@[simp]
theorem after_nil (h : Host S X I D T) : h.after [] = h := rfl

@[simp]
theorem after_after (h : Host S X I D T) (us vs : List String) :
    (h.after us).after vs = h.after (us ++ vs) := by
  simp only [after, Fetcher.after_after]

/-- The output of a run that gave a tree. -/
def deliver [ResultTree T] (tree : T) :
    WorkM (Exchange X I D T) (Except TransformError Output) := do
  let mediaType ← WorkM.ofExcept (ResultTree.mediaType tree)
  let (tree, _) ← ResultTree.declareEncoding tree
  WorkM.exchange (.serialized tree)
  match ← WorkM.ofExcept (ResultTree.serialize tree) with
  | .ok bytes => return .ok ⟨bytes, mediaType⟩
  | .error cause => return .error (.ofEngine cause)

/-- How the work of a run ends, with the engine and the service after it. -/
structure Worked (S : Type) where
  outcome : Except Panic (Except TransformError Output)
  lock : EngineLock S
  service : Service

/-- A run on an engine in the given state. -/
def workFrom [ResultTree T] (h : Host S X I D T) (request : Request) (state : S) :
    HostM (Exchange X I D T) (Worked S) := do
  HostM.exchange (.began request)
  let (ended, resolver) ← (h.engine.start state request).run h.sorter { bridge := h.bridge }
  let service := resolver.bridge.service
  match ended with
  | .error panic => return ⟨.error panic, .poisoned, service⟩
  | .ok (state, .error cause) => return ⟨.ok (.error (.ofEngine cause)), .free state, service⟩
  | .ok (state, .ok tree) => return ⟨← (deliver tree).run, .free state, service⟩

/-- The work of a run. -/
def work [ResultTree T] (h : Host S X I D T) (request : Request) (lock : EngineLock S) :
    HostM (Exchange X I D T) (Worked S) := do
  HostM.note (.transforming request.source.length request.stylesheet.length request.baseUri)
  match lock with
  | .poisoned => return ⟨.ok (.error .lockPoisoned), .poisoned, .serving⟩
  | .free state => h.workFrom request state

/-- What the caller of a run sees of the end of the work: a breakdown of blocking work is the
caller's own, one of concurrent work is an error, and one of a service that runs with the caller is
the caller's own. -/
def conclude (mode : Mode) : Ended (Except TransformError Output) →
    Except Panic (Except TransformError Output)
  | .returned result => .ok result
  | .servicePanicked panic => .error panic
  | .workPanicked panic =>
    match mode with
    | .blocking => .error panic
    | .concurrent => .ok (.error .taskPanicked)

/-- A run: its result, which may be a breakdown, and the engine after it. -/
def transform [ResultTree T] (h : Host S X I D T) (mode : Mode) (request : Request)
    (lock : EngineLock S) :
    HostM (Exchange X I D T) (Except Panic (Except TransformError Output) × EngineLock S) := do
  let worked ← h.work request lock
  let ended ← Bridge.settle mode worked.service worked.outcome
  return (conclude mode ended, worked.lock)

end Host

end StyleHost
