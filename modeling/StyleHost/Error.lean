/-!
# Errors of the engine and of fetching

An error says what went wrong; `message` is the wording that the user sees.

* `EngineError` : what the transformation engine reports, by the stage that failed.
* `FetchError` : why a document could not be retrieved.
-/

namespace StyleHost

/-- An error reported by the transformation engine. -/
inductive EngineError where
  | parse (detail : String)
  | evaluation (detail : String)
  | transform (detail : String)
  | serialize (detail : String)
deriving DecidableEq

/-- The wording of an engine error. -/
def EngineError.message : EngineError → String
  | .parse detail => "Parse error: " ++ detail
  | .evaluation detail => "Expression evaluation error: " ++ detail
  | .transform detail => "Transformation error: " ++ detail
  | .serialize detail => "Serialization error: " ++ detail

/-- The cause of a failed fetch. -/
inductive FetchError where
  /-- The server answered with a status that is no success. -/
  | status (uri : String) (code : Nat)
  /-- The exchange with the server broke down. -/
  | transport (uri detail : String)
  | invalidUri (detail : String)
  | notFound (uri : String)
  | timeout (uri : String)
  /-- The policy, or the fetcher's base directory, does not admit the reference. -/
  | forbidden (uri : String)
  /-- Nobody serves the channel any more. -/
  | bridgeClosed
  | io (detail : String)
deriving DecidableEq

/-- The wording of a fetch error. -/
def FetchError.message : FetchError → String
  | .status uri code => "Request for '" ++ uri ++ "' failed with status " ++ toString code
  | .transport uri detail => "Transport error while fetching '" ++ uri ++ "': " ++ detail
  | .invalidUri detail => "Invalid URI: " ++ detail
  | .notFound uri => "Resource not found: " ++ uri
  | .timeout uri => "Fetch of '" ++ uri ++ "' timed out"
  | .forbidden uri => "Access to '" ++ uri ++ "' is forbidden by the security policy"
  | .bridgeClosed => "Fetch bridge is closed"
  | .io detail => "I/O error: " ++ detail

end StyleHost
