import StyleHost.Fetch.Interleaving
import StyleHost.Fetch.Resolver
import StyleHost.Proofs.Record

/-!
# What a bridge lets through

A bridge asks the fetcher only for what its policy admits (`Bridge.fetchAll_asks`). A refused
request is answered with nothing and leaves the bridge as it was, so the requests around it fare as
if it had never been made (`Bridge.fetchAll_alike`).

With several callers on one bridge, in whatever order they and the service act, the same holds of
what the service takes in hand (`Interleaving.Reachable.admitted`): a refused request never gets a
ticket.
-/

namespace StyleHost

open HostM

namespace Bridge

variable {A : Type}

theorem serve_asks {P : String → Prop} (b : Bridge) {uri : String} (h : P uri) :
    Asks P (b.serve uri : HostM A _) fun _ => True := by
  unfold serve
  refine (Asks.note _).bind fun _ _ => (Asks.fetched h).bind fun _ _ => ?_
  split
  · exact (Asks.note _).bind fun _ _ => .pure trivial
  · exact (Asks.note _).bind fun _ _ => .pure trivial
  · split
    · exact (Asks.note _).bind fun _ _ => .pure trivial
    · exact .throw
  · exact (Asks.note _).bind fun _ _ => .pure trivial

/-- **One request.** The policy does not change. -/
theorem fetch_asks (b : Bridge) (uri : String) :
    Asks (b.policy.admits · = true) (b.fetch uri : HostM A _) fun r => r.2.policy = b.policy := by
  unfold fetch
  split
  case isTrue h =>
    split
    · exact (b.serve_asks h).bind fun _ _ => .pure rfl
    · exact (Asks.note _).bind fun _ _ => .pure rfl
    · exact (Asks.note _).bind fun _ _ => .pure rfl
  case isFalse h => exact (Asks.note _).bind fun _ _ => .pure rfl

/-- A refused request has no effect but a notice. -/
theorem fetch_of_refused {b : Bridge} {uri : String} (h : b.policy.admits uri = false) :
    (b.fetch uri : HostM A _) = do
      HostM.note (.refused uri (Capability.toRead uri))
      return (none, b) := by
  rw [fetch, if_neg (by rw [h]; exact Bool.false_ne_true)]

/-- **Any requests in a row.** -/
theorem fetchAll_asks {p : Policy} (uris : List String) {b : Bridge} (hb : b.policy = p) :
    Asks (p.admits · = true) (b.fetchAll uris : HostM A _) fun r => r.2.policy = p := by
  induction uris generalizing b with
  | nil => exact .pure hb
  | cons uri uris ih =>
    subst hb
    exact (b.fetch_asks uri).bind fun r hr => (ih hr).bind fun r' hr' => .pure hr'

/-- The replies to requests, given those to the requests that the policy admits. -/
def spread (p : Policy) : List String → List (Option Bytes) → List (Option Bytes)
  | [], _ => []
  | uri :: uris, replies =>
    if p.admits uri then replies.headD none :: spread p uris replies.tail
    else none :: spread p uris replies

/-- **Refused requests do not affect the others.** -/
theorem fetchAll_alike {p : Policy} (uris : List String) {b : Bridge} (hb : b.policy = p) :
    Alike (fun r r' => r = (spread p uris r'.1, r'.2)) (b.fetchAll uris : HostM A _)
      (b.fetchAll (uris.filter p.admits)) := by
  induction uris generalizing b with
  | nil => exact .pure rfl
  | cons uri uris ih =>
    cases h : p.admits uri with
    | true =>
      rw [List.filter_cons_of_pos h]
      have hfetch := b.fetch_asks (A := A) uri
      refine (Alike.refl hfetch).bind ?_
      rintro ⟨reply, b'⟩ _ ⟨rfl, hb'⟩
      refine (ih (hb'.trans hb)).bind ?_
      rintro _ ⟨replies, b''⟩ rfl
      refine .pure ?_
      simp only [spread, h, if_true]
      rfl
    | false =>
      rw [List.filter_cons_of_neg (by rw [h]; exact Bool.false_ne_true), fetchAll,
        fetch_of_refused (hb ▸ h)]
      rw [← bind_pure (b.fetchAll (uris.filter p.admits))]
      refine Alike.bind_left rfl rfl ((ih hb).bind ?_)
      rintro _ ⟨replies, b'⟩ rfl
      refine .pure ?_
      simp only [spread, h, Bool.false_eq_true, if_false]

end Bridge

namespace Resolver

variable {A D : Type}

/-- **One load** asks for what its request asks for, and does to the bridge what that does. -/
theorem resolve_keeps {P : String → Prop} {J : Bridge → Prop} (r : Resolver) {uri : String}
    (hfetch : Asks P (r.bridge.fetch uri : HostM A _) fun a => J a.2) (parse : DocumentParser D)
    (kind : LoadKind) : Asks P (r.resolve parse uri kind : HostM A _) fun a => J a.2.bridge := by
  unfold resolve
  refine (Asks.note _).bind fun _ _ => hfetch.bind ?_
  rintro ⟨reply | content, bridge⟩ ha
  · exact .pure ha
  · dsimp only
    split
    · exact .pure ha
    · exact (Asks.note _).bind fun _ _ => .pure ha

/-- A load only depends on the bridge. -/
theorem resolve_alike {p : Policy} {r r' : Resolver} (hr : r.bridge.policy = p)
    (hb : r.bridge = r'.bridge) (parse : DocumentParser D) (uri : String) (kind : LoadKind) :
    Alike (fun a a' => a.1 = a'.1 ∧ a.2.bridge = a'.2.bridge ∧ a.2.bridge.policy = p)
      (r.resolve parse uri kind : HostM A _) (r'.resolve parse uri kind) := by
  subst hr
  unfold resolve
  rw [← hb]
  refine .bind_same fun _ => ?_
  refine (Alike.refl (r.bridge.fetch_asks uri)).bind ?_
  rintro ⟨reply | content, bridge⟩ _ ⟨rfl, ha⟩
  · exact .pure ⟨rfl, rfl, ha⟩
  · dsimp only
    split
    · exact .pure ⟨rfl, rfl, ha⟩
    · exact .bind_same fun _ => .pure ⟨rfl, rfl, ha⟩

/-- A refused load has no effect but on notices and counters. -/
theorem resolve_of_refused {r : Resolver} {uri : String}
    (h : r.bridge.policy.admits uri = false) (parse : DocumentParser D) (kind : LoadKind) :
    (r.resolve parse uri kind : HostM A _).run.value = .ok (none, r.countFailed) ∧
      (r.resolve parse uri kind : HostM A _).fetches = [] := by
  rw [resolve, Bridge.fetch_of_refused h]
  exact ⟨rfl, rfl⟩

end Resolver

namespace Interleaving

/-- Every request that has got a ticket is one that the policy admits. -/
structure Admitted (policy : Policy) (s : State) : Prop where
  sending : ∀ c t, s.callers c = .sending t → policy.admits t.uri = true
  queued : ∀ t ∈ s.queue, policy.admits t.uri = true
  fetched : ∀ t, .fetched t ∈ s.history → policy.admits t.uri = true

variable {policy : Policy} {timed : Bool} {s s' : State}

theorem Admitted.record (h : Admitted policy s) {e : Happening}
    (he : ∀ t, e = .fetched t → policy.admits t.uri = true) : Admitted policy (s.record e) where
  sending := h.sending
  queued := h.queued
  fetched t ht := by
    rcases List.mem_append.1 ht with ht | ht
    · exact h.fetched t ht
    · exact he t (List.mem_singleton.1 ht).symm

theorem Admitted.move (h : Admitted policy s) (c : Nat) {stance : Caller}
    (hs : ∀ t, stance = .sending t → policy.admits t.uri = true) :
    Admitted policy (s.move c stance) where
  sending c' t ht := by
    by_cases hc : c' = c
    · exact hs t ((if_pos hc).symm.trans ht)
    · exact h.sending c' t ((if_neg hc).symm.trans ht)
  queued := h.queued
  fetched := h.fetched

theorem Admitted.finish (h : Admitted policy s) (c : Nat) (t : Ticket) (reply : Option Bytes) :
    Admitted policy (s.finish c t reply) := by
  have hmove : Admitted policy (s.move c .idle) := h.move c fun _ ht => nomatch ht
  refine hmove.record ?_
  rintro _ ⟨⟩

theorem Admitted.ask (h : Admitted policy s) (c : Nat) (uri : String) :
    Admitted policy (s.ask policy c uri) := by
  unfold State.ask
  split
  case isTrue hu =>
    have hmove : Admitted policy (s.move c (.sending ⟨s.issued, uri⟩)) :=
      h.move c fun t ht => Caller.sending.inj ht ▸ hu
    exact ⟨hmove.sending, hmove.queued, hmove.fetched⟩
  case isFalse hu => exact h.record fun _ he => nomatch he

theorem Admitted.send (h : Admitted policy s) {c : Nat} {t : Ticket}
    (ht : s.callers c = .sending t) (hs : s.send? c t = some s') : Admitted policy s' := by
  unfold State.send? at hs
  split at hs
  · cases hs
    exact h.finish c t none
  · split at hs
    · cases hs
      have hmove : Admitted policy (s.move c (.waiting t)) := h.move c fun _ hw => nomatch hw
      refine Admitted.record (s := { s.move c (.waiting t) with queue := s.queue ++ [t] })
        ⟨hmove.sending, fun t' ht' => ?_, hmove.fetched⟩ fun _ he => nomatch he
      rcases List.mem_append.1 ht' with ht' | ht'
      · exact h.queued t' ht'
      · exact List.mem_singleton.1 ht' ▸ h.sending c t ht
    · cases hs

theorem Admitted.take (h : Admitted policy s) (hs : s.take? = some s') : Admitted policy s' := by
  unfold State.take? at hs
  split at hs
  · cases hs
  · rename_i t rest hq
    cases hs
    have hqueue : ∀ t' ∈ t :: rest, policy.admits t'.uri = true := hq ▸ h.queued
    refine Admitted.record (s := { s with server := .fetching t, queue := rest })
      ⟨h.sending, fun t' ht' => ?_, h.fetched⟩ fun t' ht' => ?_
    · exact hqueue t' (List.mem_cons_of_mem _ ht')
    · exact Happening.fetched.inj ht' ▸ hqueue t List.mem_cons_self

theorem Admitted.collect (h : Admitted policy s) {c : Nat} {t : Ticket}
    (hs : s.collect? c t = some s') : Admitted policy s' := by
  unfold State.collect? at hs
  split at hs
  · cases hs
  · cases hs
    exact h.finish c t _
  · cases hs
    exact h.finish c t none

theorem Admitted.settle (h : Admitted policy s) {t : Ticket} {outcome : Fetcher.Outcome}
    (hs : s.settle? timed t outcome = some s') : Admitted policy s' := by
  have hafter : ∀ w server, Admitted policy
      ({ s.answer t w with server := server }.record (.settled t outcome)) := by
    intro w server
    exact Admitted.record (s := { s.answer t w with server := server })
      ⟨h.sending, h.queued, h.fetched⟩ fun _ he => nomatch he
  unfold State.settle? at hs
  split at hs
  · cases hs
    exact hafter _ _
  · cases hs
    exact hafter _ _
  · split at hs
    · cases hs
      exact hafter _ _
    · cases hs
  · cases hs
    exact hafter _ _

/-- **One action.** -/
theorem Admitted.step (h : Admitted policy s) {a : Action}
    (hs : next? policy timed s a = some s') : Admitted policy s' := by
  have hserver : ∀ server, Admitted policy { s with server := server } :=
    fun server => ⟨h.sending, h.queued, h.fetched⟩
  cases a with
  | ask c uri =>
    simp only [next?] at hs
    split at hs
    · cases hs
      exact h.ask c uri
    · cases hs
  | send c =>
    simp only [next?] at hs
    split at hs
    · exact h.send ‹_› hs
    · cases hs
  | collect c =>
    simp only [next?] at hs
    split at hs
    · exact h.collect hs
    · cases hs
  | start =>
    simp only [next?, Option.ite_none_right_eq_some, Option.some.injEq] at hs
    exact hs.2 ▸ hserver _
  | failToStart =>
    simp only [next?, Option.ite_none_right_eq_some, Option.some.injEq] at hs
    exact hs.2 ▸ hserver _
  | take =>
    simp only [next?, Option.ite_none_right_eq_some] at hs
    exact h.take hs.2
  | settle outcome =>
    simp only [next?] at hs
    split at hs
    · exact h.settle hs
    · cases hs
  | leave =>
    simp only [next?, Option.ite_none_right_eq_some, Option.some.injEq] at hs
    exact hs.2 ▸ hserver _

/-- **All actions.** -/
theorem Reachable.admitted (h : Reachable policy timed s) : Admitted policy s := by
  induction h with
  | fresh =>
    exact ⟨fun _ _ ht => (nomatch ht), fun _ ht => absurd ht List.not_mem_nil,
      fun _ ht => absurd ht List.not_mem_nil⟩
  | step a _ hs ih => exact ih.step hs

end Interleaving

end StyleHost
