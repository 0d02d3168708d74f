import StyleHost.Proofs.Fetch.Admission
import StyleHost.Proofs.Fetch.Ledger
import StyleHost.Proofs.Fetch.Memory

/-!
# Fetches in a row

If the fetcher has no memory, each request of a row is answered by itself: with the bytes of its
document if the policy admits it and its retrieval gives them, and with nothing otherwise
(`Bridge.answer`). Refusals, failures and retrievals that are cut short leave nothing behind for the
requests after them. The fetcher is asked once for each admitted request, in their order.

It does not matter where the service runs, as long as the fetcher does not break down. If it does,
the request in hand is answered with nothing; work that has the thread to itself still returns,
while the caller of a service on its own thread breaks down with it.

* `Bridge.run_fetching` : fetches in a row.
-/

namespace StyleHost

open HostM

/-- How a retrieval leaves the service. -/
def Fetcher.Outcome.leaves : Outcome → Service
  | .bytes _ | .fails _ | .stalls => .serving
  | .panics panic => .broken panic

/-- Only a breakdown ends the service. -/
theorem Fetcher.Outcome.leaves_of_ne {outcome : Outcome}
    (h : ∀ panic, outcome ≠ .panics panic) : outcome.leaves = .serving := by
  cases outcome with
  | bytes | fails | stalls => rfl
  | panics panic => exact absurd rfl (h panic)

namespace Bridge

variable {A : Type} {b : Bridge} {uri : String} {uris : List String}

/-- The answer to a request that somebody serves. -/
def answer (b : Bridge) (uri : String) : Option Bytes :=
  if b.policy.admits uri then (b.fetcher.fetch uri).reply else none

theorem answer_eq_some_iff {content : Bytes} :
    b.answer uri = some content ↔
      b.policy.admits uri = true ∧ b.fetcher.fetch uri = .bytes content := by
  rw [answer]
  cases b.policy.admits uri <;> cases b.fetcher.fetch uri <;>
    simp [Fetcher.Outcome.reply]

/-- A retrieval that the policy admits comes to an end, by itself or because it is cut short. -/
def Settles (b : Bridge) (uri : String) : Prop :=
  b.policy.admits uri = true → b.fetcher.fetch uri = .stalls → b.timeoutMs.isSome = true

/-- The fetcher does not break down over a request, or does not get it. -/
def Bears (b : Bridge) (uri : String) : Prop :=
  b.policy.admits uri = true → ∀ panic, b.fetcher.fetch uri ≠ .panics panic

/-- The service after a request that it was there for. -/
def serviceAfter (b : Bridge) (uri : String) : Service :=
  if b.policy.admits uri then (b.fetcher.fetch uri).leaves else .serving

theorem serviceAfter_of_bears (h : b.Bears uri) : b.serviceAfter uri = .serving := by
  rw [serviceAfter]
  split
  case isTrue hadmits => exact Fetcher.Outcome.leaves_of_ne (h hadmits)
  case isFalse => rfl

/-! ### One request -/

theorem serve_gives (hsettles : b.fetcher.fetch uri = .stalls → b.timeoutMs.isSome = true) :
    Gives (b.serve uri : HostM A _) [uri]
      ((b.fetcher.fetch uri).reply, (b.fetcher.fetch uri).leaves) := by
  unfold serve
  refine (Gives.note _).bind ((Gives.fetched uri).bind ?_)
  cases hfetch : b.fetcher.fetch uri with
  | bytes content => exact (Gives.note _).bind (.pure _)
  | fails cause => exact (Gives.note _).bind (.pure _)
  | stalls =>
    dsimp only
    rw [if_pos (hsettles hfetch)]
    exact (Gives.note _).bind (.pure _)
  | panics panic => exact (Gives.note _).bind (.pure _)

/-- **One request.** If the policy admits it, the fetcher remembers it. -/
theorem fetch_gives (hservice : b.service = .serving) (hsettles : b.Settles uri) :
    Gives (b.fetch uri : HostM A _) ([uri].filter b.policy.admits)
      (b.answer uri, { b with
        fetcher := b.fetcher.after ([uri].filter b.policy.admits)
        service := b.serviceAfter uri }) := by
  rw [answer, serviceAfter]
  cases h : b.policy.admits uri with
  | true =>
    rw [fetch, if_pos h, if_pos rfl, if_pos rfl, hservice, List.filter_cons_of_pos h]
    exact (serve_gives (hsettles h)).bind (.pure _)
  | false =>
    rw [fetch_of_refused h, if_neg Bool.false_ne_true, if_neg Bool.false_ne_true,
      List.filter_cons_of_neg (Bool.eq_false_iff.1 h), ← hservice]
    exact (Gives.note _).bind (.pure _)

/-! ### All requests -/

/-- **A row of requests** to a fetcher without a memory. None of them changes the bridge, but the
last may end the service. -/
theorem fetchAll_gives (hforgets : b.fetcher.Forgetful) (hservice : b.service = .serving)
    (hsettles : ∀ uri ∈ uris, b.Settles uri) (hbears : ∀ uri ∈ uris.dropLast, b.Bears uri) :
    Gives (b.fetchAll uris : HostM A _) (uris.filter b.policy.admits)
      (uris.map b.answer,
        { b with service := (uris.getLast?.map b.serviceAfter).getD .serving }) := by
  induction uris with
  | nil =>
    cases b
    cases hservice
    exact .pure _
  | cons uri uris ih =>
    have hfetch := fetch_gives (A := A) hservice (hsettles uri List.mem_cons_self)
    rw [hforgets.after_eq] at hfetch
    rw [← List.singleton_append, List.filter_append, ← List.append_nil (uris.filter _)]
    refine hfetch.bind ?_
    cases uris with
    | nil => exact (Gives.pure _).bind (.pure _)
    | cons next rest =>
      have hthis : b.Bears uri := hbears uri List.mem_cons_self
      rw [serviceAfter_of_bears hthis, ← hservice]
      have hrest := ih (fun u hu => hsettles u (List.mem_cons_of_mem _ hu))
        fun u hu => hbears u (List.mem_cons_of_mem _ hu)
      exact hrest.bind (.pure _)

/-! ### Work on a bridge -/

/-- Work that makes a row of requests and returns the answers. -/
def fetching (uris : List String) (b : Bridge) :
    HostM A (Except Panic (List (Option Bytes)) × Bridge) := do
  let (replies, b) ← b.fetchAll uris
  return (.ok replies, b)

/-- Work that has the thread to itself returns whatever became of the service. -/
theorem settle_blocking_gives {α : Type} (service : Service) (result : α) :
    Gives (settle .blocking service (.ok result) : HostM A _) [] (.returned result) := by
  cases service with
  | serving | closed => exact .pure _
  | broken panic => exact (Gives.note _).bind (.pure _)

/-- **Work that makes a row of requests** returns their answers. The fetcher has no memory; it may
only break down over the last of them, and not even over that one if it runs with the caller. -/
theorem run_fetching (hforgets : b.fetcher.Forgetful) (hservice : b.service = .serving)
    (hsettles : ∀ uri ∈ uris, b.Settles uri) (hbears : ∀ uri ∈ uris.dropLast, b.Bears uri) :
    Gives (b.run .blocking (fetching uris) : HostM A _) (uris.filter b.policy.admits)
      (.returned (uris.map b.answer)) ∧
    ((∀ uri ∈ uris, b.Bears uri) →
      Gives (b.run .concurrent (fetching uris) : HostM A _) (uris.filter b.policy.admits)
        (.returned (uris.map b.answer))) := by
  have hwork : Gives (fetching uris b : HostM A _) (uris.filter b.policy.admits)
      (.ok (uris.map b.answer),
        { b with service := (uris.getLast?.map b.serviceAfter).getD .serving }) := by
    rw [← List.append_nil (uris.filter _)]
    exact (fetchAll_gives hforgets hservice hsettles hbears).bind (.pure _)
  rw [← List.append_nil (uris.filter _)]
  refine ⟨hwork.bind (settle_blocking_gives _ _), fun hall => hwork.bind ?_⟩
  have hserving : (uris.getLast?.map b.serviceAfter).getD .serving = .serving := by
    cases hlast : uris.getLast? with
    | none => rfl
    | some uri => exact serviceAfter_of_bears (hall uri (List.mem_of_getLast? hlast))
  rw [hserving]
  exact .pure _

end Bridge

end StyleHost
