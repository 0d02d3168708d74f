import StyleHost.Fetch.Fetcher
import StyleHost.Policy

/-!
# Interleavings on a bridge

Step by step, a bridge is a queue with room for one request, and each request carries a way back for
its reply. Callers and the service act in any order; who cannot act waits.

* `Interleaving.State` : where everyone stands, and what has happened so far.
* `Interleaving.next?` : the state after an action, if it can happen.
* `Interleaving.Reachable` : the states that come about.

When the service goes, it takes the far end of the queue with it: nothing enters the queue any more,
but a request in the queue stays there, and its way back stays open.
-/

namespace StyleHost

namespace Interleaving

/-- A request on its way; no two have the same number. -/
structure Ticket where
  number : Nat
  uri : String
deriving DecidableEq

/-- The way back of a reply. -/
inductive WayBack where
  | pending
  | replied (reply : Option Bytes)
  /-- Given up without a reply. -/
  | dropped
deriving DecidableEq

/-- Where a caller stands. -/
inductive Caller where
  | idle
  /-- With a request that is not in the queue yet. -/
  | sending (t : Ticket)
  /-- Waiting for the reply to its request. -/
  | waiting (t : Ticket)
deriving DecidableEq

/-- Where the service stands. -/
inductive Server where
  | starting
  | listening
  | fetching (t : Ticket)
  /-- The fetcher broke down: the request in hand is given up, the queue is not yet. -/
  | unwinding
  | gone
deriving DecidableEq

/-- What can be told from outside. -/
inductive Happening where
  | entered (t : Ticket)
  | fetched (t : Ticket)
  | settled (t : Ticket) (outcome : Fetcher.Outcome)
  /-- A caller has its answer; a request that was refused has no ticket. -/
  | returned (caller : Nat) (uri : String) (ticket : Option Ticket) (reply : Option Bytes)
deriving DecidableEq

/-- What someone does next. -/
inductive Action where
  | ask (caller : Nat) (uri : String)
  | send (caller : Nat)
  | collect (caller : Nat)
  | start
  /-- The service goes before it has started. -/
  | failToStart
  | take
  | settle (outcome : Fetcher.Outcome)
  /-- The service goes after its fetcher broke down. -/
  | leave
deriving DecidableEq

/-- Where everyone stands. -/
structure State where
  callers : Nat → Caller := fun _ => .idle
  server : Server := .starting
  queue : List Ticket := []
  /-- The ways back, by the numbers of the requests. -/
  waysBack : Nat → WayBack := fun _ => .pending
  /-- The number that the next request gets. -/
  issued : Nat := 0
  /-- What has happened, in order. -/
  history : List Happening := []

/-- The number of requests for which the queue has room. -/
def capacity : Nat := 1

namespace State

/-- The state after something has happened. -/
def record (s : State) (h : Happening) : State := { s with history := s.history ++ [h] }

/-- The state with a caller moved. -/
def move (s : State) (caller : Nat) (stance : Caller) : State :=
  { s with callers := fun c => if c = caller then stance else s.callers c }

/-- The state with a way back used. -/
def answer (s : State) (t : Ticket) (w : WayBack) : State :=
  { s with waysBack := fun n => if n = t.number then w else s.waysBack n }

/-- The state after a caller has got its answer. -/
def finish (s : State) (caller : Nat) (t : Ticket) (reply : Option Bytes) : State :=
  (s.move caller .idle).record (.returned caller t.uri (some t) reply)

/-- The state after a caller has asked for a document. -/
def ask (s : State) (policy : Policy) (caller : Nat) (uri : String) : State :=
  if policy.admits uri then
    { s.move caller (.sending ⟨s.issued, uri⟩) with issued := s.issued + 1 }
  else s.record (.returned caller uri none none)

/-- The state after a caller has sent its request, which fails if the service is gone; if the queue
is full, the caller waits. -/
def send? (s : State) (caller : Nat) (t : Ticket) : Option State :=
  if s.server = .gone then some (s.finish caller t none)
  else if s.queue.length < capacity then
    some ({ s.move caller (.waiting t) with queue := s.queue ++ [t] }.record (.entered t))
  else none

/-- The state after a caller has got the reply to its request, if the way back holds one or is
given up. -/
def collect? (s : State) (caller : Nat) (t : Ticket) : Option State :=
  match s.waysBack t.number with
  | .pending => none
  | .replied reply => some (s.finish caller t reply)
  | .dropped => some (s.finish caller t none)

/-- The state after the service has taken the first request of the queue. -/
def take? (s : State) : Option State :=
  match s.queue with
  | [] => none
  | t :: rest => some ({ s with server := .fetching t, queue := rest }.record (.fetched t))

/-- The state after a fetch has settled; one that never settles does so if there is a time limit. -/
def settle? (s : State) (timed : Bool) (t : Ticket) (outcome : Fetcher.Outcome) : Option State :=
  let after (w : WayBack) (server : Server) : State :=
    { s.answer t w with server := server }.record (.settled t outcome)
  match outcome with
  | .bytes content => some (after (.replied (some content)) .listening)
  | .fails _ => some (after (.replied none) .listening)
  | .stalls => if timed then some (after (.replied none) .listening) else none
  | .panics _ => some (after .dropped .unwinding)

end State

/-- The state after an action, if it can happen. -/
def next? (policy : Policy) (timed : Bool) (s : State) : Action → Option State
  | .ask caller uri =>
    match s.callers caller with
    | .idle => some (s.ask policy caller uri)
    | _ => none
  | .send caller =>
    match s.callers caller with
    | .sending t => s.send? caller t
    | _ => none
  | .collect caller =>
    match s.callers caller with
    | .waiting t => s.collect? caller t
    | _ => none
  | .start => if s.server = .starting then some { s with server := .listening } else none
  | .failToStart => if s.server = .starting then some { s with server := .gone } else none
  | .take => if s.server = .listening then s.take? else none
  | .settle outcome =>
    match s.server with
    | .fetching t => s.settle? timed t outcome
    | _ => none
  | .leave => if s.server = .unwinding then some { s with server := .gone } else none

/-- The state after a sequence of actions, if all of them can happen. -/
def run? (policy : Policy) (timed : Bool) (s : State) (actions : List Action) : Option State :=
  actions.foldlM (next? policy timed) s

/-- The states that come about from a fresh bridge. -/
inductive Reachable (policy : Policy) (timed : Bool) : State → Prop
  | fresh : Reachable policy timed {}
  | step {s s' : State} (a : Action) :
    Reachable policy timed s → next? policy timed s a = some s' → Reachable policy timed s'

end Interleaving

end StyleHost
