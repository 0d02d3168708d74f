import StyleHost.Proofs.Fetch.Series
import StyleHost.Proofs.Fetch.Sharing
import StyleHost.Proofs.Fetch.Stranding

/-!
# One caller on a bridge

If one caller has a bridge to itself and the service comes up, it does not matter how the two take
their turns. Whenever the caller has no request under way, it has the answers that work on a bridge
gives step by step, and the fetcher was asked for the same. Until then someone can always move
(`Interleaving.Solo.moves`), and there are only so many moves (`Interleaving.Solo.length_le`), so in
the end it gets its answer.

* `Interleaving.Plays` : what may happen next.
* `Interleaving.Solo` : the states that come about.
* `Interleaving.State.weight` : how far the caller is from its answer.
* `Bridge.InARow` : what becomes of requests that are made in a row.
-/

namespace StyleHost

open HostM

namespace Interleaving

/-- The URI that an action asks for. -/
def Action.asked? : Action → Option String
  | .ask _ uri => some uri
  | _ => none

/-- The URIs that are asked for, in order. -/
def urisOf (actions : List Action) : List String := actions.filterMap Action.asked?

/-- What a caller has got. -/
def Happening.reply? : Happening → Option (Option Bytes)
  | .returned _ _ _ reply => some reply
  | _ => none

/-- What callers have got, in order. -/
def State.replies (s : State) : List (Option Bytes) := s.history.filterMap Happening.reply?

/-- The request that is not in the queue yet. -/
def Caller.toSend : Caller → List Ticket
  | .sending t => [t]
  | .idle | .waiting _ => []

/-- What may happen if one caller has the bridge to itself, the service comes up, and each retrieval
ends as the fetcher has it after those before. -/
def Plays (b : Bridge) (s : State) : Action → Prop
  | .ask c _ | .send c | .collect c => c = 0
  | .settle outcome => ∀ t, s.server = .fetching t →
    outcome = b.fetcher.outcomeAfter (s.fetched.dropLast.map Ticket.uri) t.uri
  | .start | .take | .leave => True
  | .failToStart => False

/-- The states that then come about, by what has been done. -/
inductive Solo (b : Bridge) : List Action → State → Prop
  | fresh : Solo b [] {}
  | step {as : List Action} {s s' : State} {a : Action} (h : Solo b as s) (ha : Plays b s a)
    (hstep : Step b.policy b.timeoutMs.isSome s a s') : Solo b (as ++ [a]) s'

section

variable {b : Bridge} {policy : Policy} {timed : Bool} {as : List Action} {s s' : State}
  {a : Action} {t : Ticket} {uri : String}

/-! ### What is asked for -/

theorem callsOf_concat : callsOf policy (as ++ [a]) = addCall policy (callsOf policy as) a :=
  List.foldl_concat ..

theorem addCall_of_asked?_eq_none (calls : List Call) (h : a.asked? = none) :
    addCall policy calls a = calls := by
  cases a with
  | ask => cases h
  | send | collect | start | failToStart | take | settle | leave => rfl

theorem urisOf_concat : urisOf (as ++ [a]) = urisOf as ++ a.asked?.toList := by
  cases h : a.asked? <;> simp [urisOf, h]

theorem map_uri_callsOf (policy : Policy) :
    (callsOf policy as).map Call.uri = urisOf as := by
  induction as using List.reverseRecOn with
  | nil => rfl
  | append_singleton as a ih =>
    rw [callsOf_concat, urisOf_concat, ← ih]
    cases a with
    | ask c uri => exact List.map_append ..
    | send | collect | start | failToStart | take | settle | leave =>
      exact (List.append_nil _).symm

/-- The requests are for the URIs that the policy admits. -/
theorem map_uri_requestsOf :
    (requestsOf (callsOf policy as)).map Ticket.uri = (urisOf as).filter policy.admits := by
  induction as using List.reverseRecOn with
  | nil => rfl
  | append_singleton as a ih =>
    rw [callsOf_concat, urisOf_concat, List.filter_append, ← ih]
    cases a with
    | ask c uri =>
      rw [addCall, requestsOf_concat, List.map_append]
      congr 1
      cases h : policy.admits uri <;> simp [Action.asked?, h]
    | send | collect | start | failToStart | take | settle | leave =>
      exact (List.append_nil _).symm

/-! ### What is known of the caller -/

theorem Solo.run (h : Solo b as s) : run? b.policy b.timeoutMs.isSome {} as = some s := by
  induction h with
  | fresh => rfl
  | step _ _ hstep ih => exact run?_concat.2 ⟨_, ih, hstep⟩

theorem Solo.reachable (h : Solo b as s) : Reachable b.policy b.timeoutMs.isSome s :=
  reachable_iff.2 ⟨as, h.run⟩

/-- All calls are those of the one caller. -/
theorem Solo.caller_eq (h : Solo b as s) {call : Call} (hcall : call ∈ callsOf b.policy as) :
    call.caller = 0 := by
  induction h with
  | fresh => cases hcall
  | @step as s s' a _ ha _ ih =>
    rw [callsOf_concat] at hcall
    cases a with
    | ask c uri =>
      rw [addCall, List.mem_append, List.mem_singleton] at hcall
      obtain hcall | rfl := hcall
      · exact ih hcall
      · exact ha
    | send | collect | start | failToStart | take | settle | leave => exact ih hcall

/-- Calls are answered in order, but for the one under way. -/
theorem Solo.calls (h : Solo b as s) :
    callsOf b.policy as = s.returned ++ (s.callers 0).underWay 0 := by
  have haccounted := accounted_of_run h.run
  have hreturned : ∀ call ∈ s.returned, call.caller = 0 := by
    intro call hcall
    refine h.caller_eq (List.mem_of_mem_filter (p := fun x => x.caller = call.caller) ?_)
    change call ∈ callsBy call.caller _
    rw [haccounted.byCaller]
    refine List.mem_append_left _ (List.mem_filter.2 ⟨hcall, ?_⟩)
    exact decide_eq_true rfl
  have hall : ∀ {calls : List Call}, (∀ call ∈ calls, call.caller = 0) → callsBy 0 calls = calls :=
    fun hcalls => List.filter_eq_self.2 fun call hcall => decide_eq_true (hcalls call hcall)
  have hcalls := haccounted.byCaller 0
  rwa [hall fun _ => h.caller_eq, hall hreturned] at hcalls

/-- Retrievals end as a fetcher without a memory has it. -/
theorem Solo.settled (h : Solo b as s) (hforgets : b.fetcher.Forgetful)
    {outcome : Fetcher.Outcome} (hsettled : (t, outcome) ∈ s.settled) :
    outcome = b.fetcher.fetch t.uri := by
  induction h with
  | fresh => cases hsettled
  | @step as s s' a _ ha hstep ih =>
    cases hstep with
    | settle hs ho =>
      rw [State.settled_settle, List.mem_append, List.mem_singleton] at hsettled
      obtain hold | heq := hsettled
      · exact ih hold
      · cases heq
        exact (ha _ hs).trans (hforgets _ _)
    | refuse | enter | unsent | collect | take =>
      refine ih ?_
      simpa [State.settled_record, Happening.settled?] using hsettled
    | issue | start | failToStart | leave => exact ih hsettled

/-- The service only goes because of a breakdown. -/
theorem Solo.down (h : Solo b as s) (hdown : s.server.isUp = false) :
    ∃ t panic, (t, .panics panic) ∈ s.settled := by
  induction h with
  | fresh => cases hdown
  | @step as s s' a _ ha hstep ih =>
    cases hstep with
    | @settle t outcome hs ho =>
      cases outcome with
      | panics panic =>
        rw [State.settled_settle]
        exact ⟨t, panic, List.mem_append_right _ (List.mem_singleton_self _)⟩
      | bytes | fails | stalls => cases hdown
    | refuse | enter | unsent | collect =>
      simpa [State.settled_record, Happening.settled?] using ih hdown
    | issue => exact ih hdown
    | leave hs => exact ih (by rw [hs]; rfl)
    | start => cases hdown
    | take => cases hdown
    | failToStart => exact ha.elim

/-- The fetcher does not break down over any request but the last. -/
def Bearing (b : Bridge) (as : List Action) : Prop := ∀ uri ∈ (urisOf as).dropLast, b.Bears uri

theorem Bearing.of_concat (h : Bearing b (as ++ [a])) : Bearing b as := by
  intro uri huri
  refine h uri ?_
  rw [urisOf_concat]
  cases a.asked? with
  | none =>
    rw [Option.toList_none, List.append_nil]
    exact huri
  | some next =>
    rw [Option.toList_some, List.dropLast_concat]
    exact List.dropLast_subset _ huri

/-- As long as a request is under way that is not settled, the service is there. -/
theorem Solo.isUp (h : Solo b as s) (hforgets : b.fetcher.Forgetful) (hbearing : Bearing b as)
    (hcall : (s.callers 0).underWay 0 = [⟨0, t.uri, some t⟩])
    (hopen : ∀ outcome, (t, outcome) ∉ s.settled) : s.server.isUp = true := by
  by_contra hdown
  rw [Bool.not_eq_true] at hdown
  obtain ⟨broken, panic, hsettled⟩ := h.down hdown
  have hledger := h.reachable.ledger
  -- the request over which the fetcher broke down was made by an earlier call
  have hfetched := hledger.fetched_of_settled hsettled
  obtain ⟨c, hbroken⟩ :=
    (accounted_of_run h.run).entered broken (hledger.entered_of_fetched hfetched)
  rw [h.calls, hcall, List.mem_append, List.mem_singleton] at hbroken
  have huri : broken.uri ∈ (urisOf as).dropLast := by
    rw [← map_uri_callsOf b.policy, h.calls, hcall, List.map_append,
      List.map_singleton, List.dropLast_concat]
    obtain hbroken | heq := hbroken
    · exact List.mem_map_of_mem (f := Call.uri) hbroken
    · have hsame : broken = t := Option.some.inj (congrArg Call.ticket heq)
      exact absurd (hsame ▸ hsettled) (hopen _)
  refine hbearing _ huri ?_ panic (h.settled hforgets hsettled).symm
  exact h.reachable.admitted.fetched broken (mem_fetched_iff.1 hfetched)

/-- The requests of the calls have entered the queue in order, but for one that has yet to be
sent. -/
theorem Solo.entered (h : Solo b as s) (hforgets : b.fetcher.Forgetful)
    (hbearing : Bearing b as) :
    requestsOf (callsOf b.policy as) = s.entered ++ (s.callers 0).toSend := by
  induction h with
  | fresh => rfl
  | @step as s s' a h ha hstep ih =>
    have hbefore := ih hbearing.of_concat
    rw [callsOf_concat]
    cases hstep with
    | @issue c uri hc hu =>
      cases ha
      have hnumber := (accounted_of_run h.run).length_requestsOf
      rw [hc] at hbefore
      rw [addCall, requestsOf_concat, if_pos hu, hnumber, hbefore, State.callers_issue, if_pos rfl]
      exact congrArg (· ++ _) (List.append_nil s.entered)
    | @refuse c uri hc hu =>
      rw [addCall, requestsOf_concat, hbefore, if_neg (Bool.eq_false_iff.1 hu),
        State.entered_record]
      simp [Happening.entered?, State.record]
    | @enter c t hc hs hq =>
      cases ha
      rw [hc] at hbefore
      rw [addCall_of_asked?_eq_none _ rfl, hbefore, State.entered_enter, State.callers_enter,
        if_pos rfl]
      exact (List.append_nil _).symm
    | @unsent c t hc hs =>
      -- the service is not gone while a request has yet to be sent
      cases ha
      have hup : s.server.isUp = true := by
        refine h.isUp hforgets hbearing.of_concat (t := t) (by rw [hc]; rfl)
          fun outcome hsettled => ?_
        have hledger := h.reachable.ledger
        have hentered := hledger.entered_of_fetched (hledger.fetched_of_settled hsettled)
        exact (hledger.sending 0 t hc).2 t hentered rfl
      rw [hs] at hup
      cases hup
    | @collect c t reply hc hw =>
      cases ha
      rw [hc] at hbefore
      rw [addCall_of_asked?_eq_none _ rfl, hbefore, State.entered_finish, State.callers_finish,
        if_pos rfl]
      rfl
    | take =>
      rw [addCall_of_asked?_eq_none _ rfl, hbefore, State.entered_take]
      rfl
    | settle =>
      rw [addCall_of_asked?_eq_none _ rfl, hbefore, State.entered_settle]
      rfl
    | start | leave => exact hbefore
    | failToStart => exact ha.elim

/-! ### What the caller gets -/

/-- Each answer is the one that a served bridge gives. -/
theorem Solo.reply_eq (h : Solo b as s) (hforgets : b.fetcher.Forgetful)
    (hbearing : Bearing b as) {c : Nat} {ticket : Option Ticket} {reply : Option Bytes}
    (hreturned : .returned c uri ticket reply ∈ s.history) : reply = b.answer uri := by
  have hreplies := h.reachable.replies
  cases hreplies.answers c uri ticket reply hreturned with
  | refused hu => rw [Bridge.answer, hu, if_neg Bool.false_ne_true]
  | @fetched t outcome ht hsettled =>
    have hfetched := h.reachable.ledger.fetched_of_settled hsettled
    have hadmits := h.reachable.admitted.fetched t (mem_fetched_iff.1 hfetched)
    rw [ht] at hadmits
    rw [Bridge.answer, if_pos hadmits, h.settled hforgets hsettled, ht]
  | @unsent t ht hnot =>
    -- the request of an answered call has entered, or it would still have to be sent
    have hcall : ⟨c, uri, some t⟩ ∈ callsOf b.policy as := by
      rw [h.calls]
      exact List.mem_append_left _ (List.mem_filterMap.2 ⟨_, hreturned, rfl⟩)
    have hrequest : t ∈ requestsOf (callsOf b.policy as) :=
      List.mem_filterMap.2 ⟨_, hcall, rfl⟩
    rw [h.entered hforgets hbearing, List.mem_append] at hrequest
    obtain hentered | hsend := hrequest
    · exact absurd hentered hnot
    · cases hc : s.callers 0 with
      | sending t' =>
        rw [hc] at hsend
        have hdone := (hreplies.done c uri t none hreturned).2 0 t' hc
        exact absurd (congrArg Ticket.number (List.mem_singleton.1 hsend).symm) hdone
      | idle | waiting =>
        rw [hc] at hsend
        cases hsend

/-- The answers so far are those to the calls so far. -/
theorem Solo.replies (h : Solo b as s) (hforgets : b.fetcher.Forgetful)
    (hbearing : Bearing b as) (hidle : s.callers 0 = .idle) :
    s.replies = (urisOf as).map b.answer := by
  have hcalls := h.calls
  rw [hidle] at hcalls
  rw [← map_uri_callsOf b.policy, hcalls, List.map_append, List.map_append]
  change _ = (s.returned.map Call.uri).map b.answer ++ []
  rw [List.append_nil, List.map_map, State.returned, List.map_filterMap]
  refine List.filterMap_congr fun e he => ?_
  cases e with
  | returned c uri ticket reply => exact congrArg some (h.reply_eq hforgets hbearing he)
  | entered | fetched | settled => rfl

/-- A caller without a request under way has left nothing behind. -/
theorem Solo.fetched (h : Solo b as s) (hforgets : b.fetcher.Forgetful)
    (hbearing : Bearing b as) (hidle : s.callers 0 = .idle) :
    s.fetched.map Ticket.uri = (urisOf as).filter b.policy.admits := by
  have hledger := h.reachable.ledger
  have hentered := h.entered hforgets hbearing
  have hcalls := h.calls
  rw [hidle] at hentered hcalls
  change _ = s.entered ++ [] at hentered
  change _ = s.returned ++ [] at hcalls
  rw [List.append_nil] at hentered hcalls
  have hqueue : s.queue = [] := by
    refine List.eq_nil_iff_forall_not_mem.2 fun t ht => ?_
    -- a request in the queue is that of an answered call, so it is settled
    have hin := hledger.entered_of_queued ht
    rw [← hentered, hcalls] at hin
    obtain ⟨call, hcall, hticket⟩ := List.mem_filterMap.1 hin
    obtain ⟨e, he, heq⟩ := List.mem_filterMap.1 hcall
    cases e with
    | entered | fetched | settled => cases heq
    | returned c uri ticket reply =>
      cases heq
      cases hticket
      cases h.reachable.replies.answers c uri (some t) reply he with
      | unsent _ hnot => exact hnot (hledger.entered_of_queued ht)
      | fetched _ hsettled =>
        exact hledger.not_settled_of_mem (List.mem_append_right _ ht) _ hsettled
  rw [← map_uri_requestsOf, hentered, hledger.queue, hqueue, List.append_nil]

/-! ### That it gets it -/

/-- How far a caller is from its answer. -/
def Caller.weight : Caller → Nat
  | .idle => 0
  | .sending _ => 7
  | .waiting _ => 1

/-- How far the service is from doing nothing. -/
def Server.weight : Server → Nat
  | .starting | .unwinding => 1
  | .listening | .gone => 0
  | .fetching _ => 3

/-- How far the caller is from its answer. -/
def State.weight (s : State) : Nat :=
  (s.callers 0).weight + 5 * s.queue.length + s.server.weight

/-- Every move brings the caller nearer to its answer. -/
theorem weight_lt (ha : Plays b s a) (hasked : a.asked? = none)
    (hstep : Step policy timed s a s') : s'.weight < s.weight := by
  cases hstep with
  | issue | refuse => cases hasked
  | @enter c t hc hs hq =>
    cases ha
    rw [State.weight, State.weight, hc]
    change 1 + 5 * (s.queue ++ [t]).length + s.server.weight <
      7 + 5 * s.queue.length + s.server.weight
    rw [List.length_append, List.length_singleton]
    omega
  | unsent hc hs =>
    cases ha
    rw [State.weight, State.weight, hc]
    change 0 + 5 * s.queue.length + s.server.weight < 7 + 5 * s.queue.length + s.server.weight
    omega
  | collect hc hw =>
    cases ha
    rw [State.weight, State.weight, hc]
    change 0 + 5 * s.queue.length + s.server.weight < 1 + 5 * s.queue.length + s.server.weight
    omega
  | start hs | leave hs =>
    rw [State.weight, State.weight, hs]
    exact Nat.lt_succ_self _
  | failToStart => exact ha.elim
  | @take t rest hs hq =>
    rw [State.weight, State.weight, hs, hq]
    change (s.callers 0).weight + 5 * rest.length + 3 <
      (s.callers 0).weight + 5 * (rest.length + 1) + 0
    omega
  | @settle t outcome hs ho =>
    have hafter : (Server.after outcome).weight ≤ 1 := by
      cases outcome with
      | panics => exact Nat.le_refl 1
      | bytes | fails | stalls => exact Nat.zero_le 1
    rw [State.weight, State.weight, hs]
    change (s.callers 0).weight + 5 * s.queue.length + (Server.after outcome).weight <
      (s.callers 0).weight + 5 * s.queue.length + 3
    omega

theorem Ledger.collects (h : Ledger s) {c : Nat} {outcome : Fetcher.Outcome}
    (hc : s.callers c = .waiting t) (hsettled : (t, outcome) ∈ s.settled) :
    Step policy timed s (.collect c) (s.finish c t outcome.reply) := by
  refine .collect hc ?_
  rw [h.answered t outcome hsettled, WayBack.reply?_after]

/-- **A caller with a request under way is not left alone**: someone can move. -/
theorem Solo.moves (h : Solo b as s) (hforgets : b.fetcher.Forgetful)
    (hsettles : ∀ uri ∈ urisOf as, b.Settles uri)
    (hbearing : Bearing b as) (hbusy : s.callers 0 ≠ .idle) :
    ∃ a s', Plays b s a ∧ a.asked? = none ∧ Step b.policy b.timeoutMs.isSome s a s' := by
  have hledger := h.reachable.ledger
  cases hs : s.server with
  | starting => exact ⟨.start, _, trivial, rfl, .start hs⟩
  | unwinding => exact ⟨.leave, _, trivial, rfl, .leave hs⟩
  | fetching t =>
    have hfetched : t ∈ s.fetched := by
      rw [hledger.inHand, hs]
      exact List.mem_append_right _ (List.mem_singleton_self t)
    obtain ⟨c, hcall⟩ := (accounted_of_run h.run).entered t (hledger.entered_of_fetched hfetched)
    have huri : t.uri ∈ urisOf as := by
      rw [← map_uri_callsOf b.policy]
      exact List.mem_map_of_mem (f := Call.uri) hcall
    have hadmits := h.reachable.admitted.fetched t (mem_fetched_iff.1 hfetched)
    refine ⟨.settle (b.fetcher.outcomeAfter (s.fetched.dropLast.map Ticket.uri) t.uri), _,
      fun t' ht' => ?_, rfl, .settle hs ?_⟩
    · rw [Server.fetching.inj (hs.symm.trans ht')]
    · rw [hforgets]
      exact hsettles _ huri hadmits
  | listening =>
    cases hq : s.queue with
    | cons t rest => exact ⟨.take, _, trivial, rfl, .take hs hq⟩
    | nil =>
      cases hc : s.callers 0 with
      | idle => exact absurd hc hbusy
      | sending t =>
        have hroom : s.queue.length < capacity := by
          rw [hq]
          exact Nat.zero_lt_one
        exact ⟨.send 0, _, rfl, rfl, .enter hc (by rw [hs]; nofun) hroom⟩
      | waiting t =>
        obtain ⟨outcome, hsettled⟩ | hhand | hin := hledger.waiting_cases hc
        · exact ⟨.collect 0, _, rfl, rfl, hledger.collects hc hsettled⟩
        · rw [hs] at hhand
          cases hhand
        · rw [hq] at hin
          cases hin
  | gone =>
    cases hc : s.callers 0 with
    | idle => exact absurd hc hbusy
    | sending t => exact ⟨.send 0, _, rfl, rfl, .unsent hc hs⟩
    | waiting t =>
      -- a service that is gone has not left the request in the queue
      obtain ⟨outcome, hsettled⟩ | hhand | hin := hledger.waiting_cases hc
      · exact ⟨.collect 0, _, rfl, rfl, hledger.collects hc hsettled⟩
      · rw [hs] at hhand
        cases hhand
      · have hup : s.server.isUp = true := by
          refine h.isUp hforgets hbearing (t := t) (by rw [hc]; rfl) ?_
          exact hledger.not_settled_of_mem (List.mem_append_right _ hin)
        rw [hs] at hup
        cases hup

theorem Solo.of_concat (h : Solo b (as ++ [a]) s') :
    ∃ s, Solo b as s ∧ Plays b s a ∧ Step b.policy b.timeoutMs.isSome s a s' := by
  generalize hcs : as ++ [a] = cs at h
  cases h with
  | fresh => exact absurd hcs (List.append_ne_nil_of_right_ne_nil as (List.cons_ne_nil a []))
  | step h ha hstep =>
    obtain ⟨rfl, hlast⟩ := List.append_inj' hcs rfl
    cases hlast
    exact ⟨_, h, ha, hstep⟩

/-- **There are only so many moves** until the caller has to ask again. -/
theorem Solo.length_le (h : Solo b as s) {bs : List Action} (h' : Solo b (as ++ bs) s')
    (hbs : urisOf bs = []) : bs.length + s'.weight ≤ s.weight := by
  induction bs using List.reverseRecOn generalizing s' with
  | nil =>
    -- the actions determine the state
    have hsame := h.run.symm.trans (List.append_nil as ▸ h'.run)
    rw [Option.some.inj hsame, List.length_nil, Nat.zero_add]
  | append_singleton bs a ih =>
    rw [urisOf_concat, List.append_eq_nil_iff, Option.toList_eq_nil_iff] at hbs
    rw [← List.append_assoc] at h'
    obtain ⟨s₁, h₁, ha, hstep⟩ := h'.of_concat
    have hlt := weight_lt ha hbs.2 hstep
    have hle := ih h₁ hbs.1
    rw [List.length_append, List.length_singleton]
    omega

end

end Interleaving

namespace Bridge

open Interleaving

/-- What becomes of requests that are made in a row on a bridge. -/
structure InARow (A : Type) (b : Bridge) (uris : List String) : Prop where
  /-- Each is answered by itself. -/
  answer : ∀ uri content, b.answer uri = some content ↔
    b.policy.admits uri = true ∧ b.fetcher.fetch uri = .bytes content
  /-- The service has a thread of its own. -/
  blocking : Gives (b.run .blocking (fetching uris) : HostM A _) (uris.filter b.policy.admits)
    (.returned (uris.map b.answer))
  /-- The service runs with the caller, who would not survive a breakdown. -/
  concurrent : (∀ uri ∈ uris, b.Bears uri) →
    Gives (b.run .concurrent (fetching uris) : HostM A _) (uris.filter b.policy.admits)
      (.returned (uris.map b.answer))
  /-- Nothing else comes of it in whatever order the two act. -/
  turns : ∀ as s, Solo b as s → urisOf as = uris → s.callers 0 = .idle →
    s.replies = uris.map b.answer ∧ s.fetched.map Ticket.uri = uris.filter b.policy.admits
  /-- Nor does the caller wait for good: someone can move as long as it waits, -/
  moves : ∀ as s, Solo b as s → urisOf as = uris → s.callers 0 ≠ .idle →
    ∃ a s', a.asked? = none ∧ Solo b (as ++ [a]) s'
  /-- and there are only so many moves. -/
  bounded : ∀ as s bs s', Solo b as s → Solo b (as ++ bs) s' → urisOf bs = [] →
    bs.length ≤ s.weight

/-- **Fetches in a row.** Each is answered with the bytes that the fetcher gives for it, if the
policy admits it, and with nothing otherwise, and the fetcher is asked for just what is admitted.
The fetcher has no memory, and only over the last may it break down. -/
theorem answered_inARow {A : Type} {b : Bridge} {uris : List String}
    (hforgets : b.fetcher.Forgetful) (hservice : b.service = .serving)
    (hsettles : ∀ uri ∈ uris, b.Settles uri)
    (hbears : ∀ uri ∈ uris.dropLast, b.Bears uri) : InARow A b uris := by
  obtain ⟨hblocking, hconcurrent⟩ := run_fetching (A := A) hforgets hservice hsettles hbears
  refine ⟨fun _ _ => answer_eq_some_iff, hblocking, hconcurrent, ?_, ?_, ?_⟩
  · rintro as s hsolo rfl hidle
    exact ⟨hsolo.replies hforgets hbears hidle, hsolo.fetched hforgets hbears hidle⟩
  · rintro as s hsolo rfl hbusy
    obtain ⟨a, s', ha, hasked, hstep⟩ := hsolo.moves hforgets hsettles hbears hbusy
    exact ⟨a, s', hasked, hsolo.step ha hstep⟩
  · intro as s bs s' hsolo hsolo' hbs
    exact Nat.le_of_add_right_le (hsolo.length_le hsolo' hbs)

/-- A bridge for files alone, to a fetcher with retrievals that end in every way. -/
def fickle : Bridge where
  fetcher := .ofOutcomes "fickle" fun
    | "a" => .bytes [1]
    | "empty" => .bytes []
    | "missing" => .fails (.notFound "missing")
    | "slow" => .stalls
    | _ => .panics ⟨"out of order"⟩
  policy := { Policy.lockedDown with readFile := .allow }
  timeoutMs := some 5

theorem fickle_answers :
    Gives (fickle.run .blocking (fetching ["a", "slow", "http://a", "missing", "empty", "b"]) :
      HostM Empty _) ["a", "slow", "missing", "empty", "b"]
      (.returned [some [1], none, none, none, some [], none]) ∧
    Gives (fickle.run .concurrent (fetching ["a", "slow", "http://a", "missing", "empty"]) :
      HostM Empty _) ["a", "slow", "missing", "empty"]
      (.returned [some [1], none, none, none, some []]) := by
  have hsettles : ∀ uri, fickle.Settles uri := fun _ _ _ => rfl
  have hbears : ∀ uri ∈ ["a", "slow", "http://a", "missing", "empty"], fickle.Bears uri := by
    intro uri huri
    simp only [List.mem_cons, List.not_mem_nil, or_false] at huri
    obtain rfl | rfl | rfl | rfl | rfl := huri
    · exact fun _ _ => nofun
    · exact fun _ _ => nofun
    · exact fun hadmits => nomatch hadmits
    · exact fun _ _ => nofun
    · exact fun _ _ => nofun
  constructor
  · refine (answered_inARow (Fetcher.forgetful_ofOutcomes _ _) rfl (fun _ _ => hsettles _)
      ?_).blocking
    exact hbears
  · refine (answered_inARow (Fetcher.forgetful_ofOutcomes _ _) rfl (fun _ _ => hsettles _)
      ?_).concurrent hbears
    exact fun uri huri => hbears uri (List.dropLast_subset _ huri)

end Bridge

end StyleHost
