import StyleHost.Record
import StyleHost.Text.Utf8

/-!
# Fetchers

A fetcher retrieves the document at a URI. It may fail, it may never settle, and a faulty one may
break down. It may have a memory: how a retrieval ends may depend on those before it, so that the
document at a URI can be another one the next time.

* `Fetcher` : a named way to retrieve documents.
* `Fetcher.Outcome` : how a retrieval ends.
* `Fetcher.after` : the fetcher that some retrievals leave.
-/

namespace StyleHost

namespace Fetcher

/-- How a retrieval ends. -/
inductive Outcome where
  | bytes (content : Bytes)
  | fails (cause : FetchError)
  /-- The retrieval never settles. -/
  | stalls
  /-- The fetcher breaks down. -/
  | panics (panic : Panic)
deriving DecidableEq

/-- The outcome that a result stands for. -/
def Outcome.ofExcept : Except FetchError Bytes → Outcome
  | .ok content => .bytes content
  | .error cause => .fails cause

end Fetcher

/-- A way to retrieve documents. -/
structure Fetcher where
  name : String
  /-- How the retrieval at a URI ends after those at some others, which are given in order. -/
  outcomeAfter : List String → String → Fetcher.Outcome

namespace Fetcher

/-- The fetcher without a memory that gives an outcome for each URI. -/
def ofOutcomes (name : String) (outcome : String → Outcome) : Fetcher := ⟨name, fun _ => outcome⟩

/-- How the next retrieval ends. -/
def fetch (f : Fetcher) (uri : String) : Outcome := f.outcomeAfter [] uri

/-- The fetcher after some retrievals. -/
def after (f : Fetcher) (uris : List String) : Fetcher :=
  { f with outcomeAfter := fun later => f.outcomeAfter (uris ++ later) }

@[simp]
theorem after_nil (f : Fetcher) : f.after [] = f := rfl

@[simp]
theorem after_after (f : Fetcher) (us vs : List String) :
    (f.after us).after vs = f.after (us ++ vs) := by
  simp only [after, List.append_assoc]

end Fetcher

end StyleHost
