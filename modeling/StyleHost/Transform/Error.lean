import StyleHost.Error
import StyleHost.Url.Error

/-!
# Errors of a transformation

What a run reports to its caller. Sorting and loading do not fail by themselves, so every error is
one of the engine, of a document the caller gave, of a fetch that the caller asked for, or of the
host.

* `TransformError` : the cause.
* `TransformError.ofEngine` : an engine's error as that of the run. A failed serialization is told
  apart from other engine errors.
-/

namespace StyleHost

/-- The cause of a failed run. -/
inductive TransformError where
  | sourceParse (detail : String)
  | stylesheetParse (detail : String)
  | engine (cause : EngineError)
  | serialize (detail : String)
  | fetch (cause : FetchError)
  | noStylesheet
  | stylesheetNotImported
  | invalidUrl (cause : UrlError)
  | config (detail : String)
  | runtime (detail : String)
deriving DecidableEq

namespace TransformError

/-- An engine's error as that of a run. -/
def ofEngine : EngineError → TransformError
  | .serialize detail => .serialize detail
  | other => .engine other

/-- The error of a run on an engine that panicked before. -/
def lockPoisoned : TransformError := runtime "engine lock poisoned by an earlier run"

/-- The error of a concurrent run whose engine panics. -/
def taskPanicked : TransformError := runtime "task panicked"

/-- The wording of an error. -/
def message : TransformError → String
  | sourceParse detail => "Failed to parse the source document: " ++ detail
  | stylesheetParse detail => "Failed to parse the stylesheet: " ++ detail
  | engine cause => "Engine error: " ++ cause.message
  | serialize detail => "Failed to serialize the result: " ++ detail
  | fetch cause => "Fetch failed: " ++ cause.message
  | noStylesheet => "No xml-stylesheet processing instruction with an XSLT type was found"
  | stylesheetNotImported => "No stylesheet has been imported"
  | invalidUrl cause => "Invalid URL: " ++ cause.message
  | config detail => "Invalid configuration: " ++ detail
  | runtime detail => "Runtime error: " ++ detail

end TransformError

end StyleHost
