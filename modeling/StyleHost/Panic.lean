/-!
# Breakdowns

Some requests cannot be met at all: neither with a result nor with an error that a caller could
handle. They end with a text that says why.

* `Panic` : the end of such a request.
-/

namespace StyleHost

/-- A breakdown: the end of a computation that none of its callers can mend. -/
structure Panic where
  text : String
deriving DecidableEq

end StyleHost
