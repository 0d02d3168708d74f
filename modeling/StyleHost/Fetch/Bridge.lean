import StyleHost.Config.Basic
import StyleHost.Fetch.Fetcher

/-!
# Bridges

An engine cannot wait for a fetcher by itself. Between them stands a bridge: the work holds one end
and hands in one request at a time, a service at the other end answers each with the bytes or with
nothing. What went wrong is written to the log. Before a request leaves the work's end it is checked
against the policy.

* `Bridge.fetch` : one request. It fails rather than blocks when nobody serves it.
* `Bridge.run` : work on a bridge, from the start of the service to its end.

The service can share the thread of the caller (`Mode.concurrent`) or have its own
(`Mode.blocking`); then a breakdown of the fetcher ends the service but not the work.
-/

namespace StyleHost

/-- How the service at the far end of a bridge stands. -/
inductive Service where
  | serving
  /-- Nobody serves. -/
  | closed
  /-- The fetcher broke down, and nobody serves any more. -/
  | broken (panic : Panic)
deriving DecidableEq

/-- Where the service runs. -/
inductive Mode where
  /-- On a thread of its own, while the caller does the work. -/
  | blocking
  /-- With the caller, while the work runs on another thread. -/
  | concurrent
deriving DecidableEq

/-- A connection between some work and a fetcher. -/
structure Bridge where
  fetcher : Fetcher
  policy : Policy := .standard
  /-- Give up a fetch after this many milliseconds. -/
  timeoutMs : Option UInt64 := none
  service : Service := .serving

/-- How some work on a bridge ends for the caller. -/
inductive Ended (α : Type) where
  | returned (result : α)
  | workPanicked (panic : Panic)
  /-- The fetcher broke down and took the caller with it. -/
  | servicePanicked (panic : Panic)

namespace Bridge

variable {A α : Type}

/-- The service's answer to a request, and how the service stands after it. -/
def serve (b : Bridge) (uri : String) : HostM A (Option Bytes × Service) := do
  HostM.note (.loading uri)
  HostM.emit (.fetched uri)
  match b.fetcher.fetch uri with
  | .bytes content => do
    HostM.note (.fetched content.length uri)
    return (some content, .serving)
  | .fails cause => do
    HostM.note (.fetchFailed uri cause)
    return (none, .serving)
  | .stalls =>
    if b.timeoutMs.isSome then do
      HostM.note (.fetchFailed uri (.timeout uri))
      return (none, .serving)
    else throw ⟨uri⟩
  | .panics panic => do
    HostM.note (.notLoaded uri)
    return (none, .broken panic)

/-- The document at a URI, if the policy admits it and the fetch succeeds. -/
def fetch (b : Bridge) (uri : String) : HostM A (Option Bytes × Bridge) := do
  if b.policy.admits uri then
    match b.service with
    | .serving => do
      let (reply, service) ← b.serve uri
      return (reply, { b with fetcher := b.fetcher.after [uri], service := service })
    | .closed | .broken _ => do
      HostM.note (.notLoaded uri)
      return (none, b)
  else
    HostM.note (.refused uri (Capability.toRead uri))
    return (none, b)

/-- The documents at some URIs, fetched in order. -/
def fetchAll (b : Bridge) : List String → HostM A (List (Option Bytes) × Bridge)
  | [] => return ([], b)
  | uri :: uris => do
    let (reply, b) ← b.fetch uri
    let (replies, b) ← b.fetchAll uris
    return (reply :: replies, b)

/-- How work goes out for the caller, given how it ended and how the service stands. -/
def settle (mode : Mode) (service : Service) (outcome : Except Panic α) : HostM A (Ended α) :=
  match mode, service, outcome with
  | .concurrent, .broken panic, _ => return .servicePanicked panic
  | .blocking, .broken _, .ok result => do
    HostM.note .servicePanicked
    return .returned result
  | _, _, .ok result => return .returned result
  | _, _, .error panic => return .workPanicked panic

/-- Runs some work on a bridge; the service ends when the work does. -/
def run (mode : Mode) (b : Bridge) (work : Bridge → HostM A (Except Panic α × Bridge)) :
    HostM A (Ended α) := do
  let (outcome, b) ← work b
  settle mode b.service outcome

/-- The description of the service in messages. -/
def describeService (b : Bridge) : String :=
  let timeout := match b.timeoutMs with
    | some ms => "Some(" ++ Duration.describe ms.toNat ++ ")"
    | none => "None"
  "FetchService \x7b fetcher: " ++ Text.quote b.fetcher.name ++ ", timeout: " ++ timeout ++ " \x7d"

end Bridge

end StyleHost
