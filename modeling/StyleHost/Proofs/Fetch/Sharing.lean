import Mathlib.Data.List.Range
import StyleHost.Proofs.Fetch.Admission
import StyleHost.Proofs.Fetch.Ledger

/-!
# Callers that share a bridge

Any number of callers may use one bridge, each with one call after another. However they and the
service take their turns, every caller gets the answers to its own calls, in the order in which it
made them, and the bytes in an answer are those that the fetcher gave for just that call. The
fetcher is asked for one document at a time, at most once for each request that has entered the
queue and in the order of entrance.

* `Interleaving.callsOf` : the calls that are made in a run, each with its request.
* `Interleaving.Answers` : what a call is answered.
* `Interleaving.Orderly` : what callers can rely on.
-/

namespace StyleHost

namespace Interleaving

/-- A call of a caller; one that the policy refuses makes no request. -/
structure Call where
  caller : Nat
  uri : String
  ticket : Option Ticket
deriving DecidableEq

/-- The requests that calls make. -/
def requestsOf (calls : List Call) : List Ticket := calls.filterMap Call.ticket

/-- The calls of one caller. -/
def callsBy (c : Nat) (calls : List Call) : List Call := calls.filter (·.caller = c)

/-- Calls with those that an action adds. The requests are numbered as they are made. -/
def addCall (policy : Policy) (calls : List Call) : Action → List Call
  | .ask c uri =>
    calls ++
      [⟨c, uri, if policy.admits uri then some ⟨(requestsOf calls).length, uri⟩ else none⟩]
  | _ => calls

/-- The calls that are made in a run. -/
def callsOf (policy : Policy) (actions : List Action) : List Call :=
  actions.foldl (addCall policy) []

/-- The call that a caller has its answer to. -/
def Happening.returned? : Happening → Option Call
  | .returned c uri ticket _ => some ⟨c, uri, ticket⟩
  | _ => none

/-- The calls that are answered, in order. -/
def State.returned (s : State) : List Call := s.history.filterMap Happening.returned?

/-- The call that a caller has under way. -/
def Caller.underWay (c : Nat) : Caller → List Call
  | .idle => []
  | .sending t | .waiting t => [⟨c, t.uri, some t⟩]

/-- What a call is answered: a refused one nothing, one whose request was fetched what the fetch
came to, and one whose request found nobody who serves, so that it never entered the queue,
nothing. -/
inductive Answers (policy : Policy) (s : State) (uri : String) : Option Ticket → Option Bytes → Prop
  | refused (hu : policy.admits uri = false) : Answers policy s uri none none
  | fetched {t : Ticket} {outcome : Fetcher.Outcome} (ht : t.uri = uri)
    (h : (t, outcome) ∈ s.settled) : Answers policy s uri (some t) outcome.reply
  | unsent {t : Ticket} (ht : t.uri = uri) (h : t ∉ s.entered) : Answers policy s uri (some t) none

/-- The answers fit the calls, and no request of an answered call is on its way any more. -/
structure Replies (policy : Policy) (s : State) : Prop where
  answers : ∀ c uri ticket reply, .returned c uri ticket reply ∈ s.history →
    Answers policy s uri ticket reply
  done : ∀ c uri t reply, .returned c uri (some t) reply ∈ s.history →
    t.number < s.issued ∧ ∀ c' t', s.callers c' = .sending t' → t'.number ≠ t.number

/-- The calls and the state tell the same. -/
structure Accounted (calls : List Call) (s : State) : Prop where
  numbers : (requestsOf calls).map Ticket.number = List.range s.issued
  byCaller : ∀ c, callsBy c calls = callsBy c s.returned ++ (s.callers c).underWay c
  entered : ∀ t ∈ s.entered, ∃ c, ⟨c, t.uri, some t⟩ ∈ calls

section

variable {policy : Policy} {timed : Bool} {s s' : State} {calls : List Call} {c : Nat}
  {t : Ticket}

/-! ### Calls -/

theorem returned_record (s : State) (e : Happening) :
    (s.record e).returned = s.returned ++ e.returned?.toList := by
  cases e <;> simp [State.returned, State.record, Happening.returned?]

theorem callsBy_append (calls calls' : List Call) :
    callsBy c (calls ++ calls') = callsBy c calls ++ callsBy c calls' :=
  List.filter_append ..

theorem callsBy_singleton (call : Call) :
    callsBy c [call] = if call.caller = c then [call] else [] := by
  simp [callsBy, List.filter_singleton]

theorem requestsOf_concat (call : Call) :
    requestsOf (calls ++ [call]) = requestsOf calls ++ call.ticket.toList := by
  cases h : call.ticket <;> simp [requestsOf, h]

theorem Accounted.length_requestsOf (h : Accounted calls s) :
    (requestsOf calls).length = s.issued := by
  rw [← List.length_map (f := Ticket.number), h.numbers, List.length_range]

/-- No two calls make the same request. -/
theorem Accounted.nodup (h : Accounted calls s) : (requestsOf calls).Nodup :=
  List.Nodup.of_map Ticket.number (h.numbers ▸ List.nodup_range)

/-- One caller moves: it makes the calls `made` and gets the answers to the calls `answered`. -/
theorem Accounted.move (h : Accounted calls s) (c : Nat) {made answered : List Call}
    (hmade : callsBy c made = made ∧ ∀ c', c' ≠ c → callsBy c' made = [])
    (hanswered : callsBy c answered = answered ∧ ∀ c', c' ≠ c → callsBy c' answered = [])
    (hnumbers : (requestsOf (calls ++ made)).map Ticket.number = List.range s'.issued)
    (hreturned : s'.returned = s.returned ++ answered)
    (hothers : ∀ c', c' ≠ c → s'.callers c' = s.callers c')
    (hself : (s.callers c).underWay c ++ made = answered ++ (s'.callers c).underWay c)
    (hentered : s'.entered = s.entered) : Accounted (calls ++ made) s' := by
  constructor
  · exact hnumbers
  · intro c'
    rw [callsBy_append, hreturned, callsBy_append, h.byCaller c']
    by_cases hc : c' = c
    · rw [hc, hmade.1, hanswered.1, List.append_assoc, hself, List.append_assoc]
    · rw [hmade.2 c' hc, hanswered.2 c' hc, hothers c' hc, List.append_nil, List.append_nil]
  · intro t ht
    rw [hentered] at ht
    obtain ⟨c', hcall⟩ := h.entered t ht
    exact ⟨c', List.mem_append_left _ hcall⟩

/-- No caller moves, or one does so with the same call under way. -/
theorem Accounted.stay (h : Accounted calls s) (hissued : s'.issued = s.issued)
    (hreturned : s'.returned = s.returned)
    (hcallers : ∀ c, (s'.callers c).underWay c = (s.callers c).underWay c)
    (hentered : ∀ t ∈ s'.entered,
      t ∈ s.entered ∨ ∃ c, (s.callers c).underWay c = [⟨c, t.uri, some t⟩]) :
    Accounted calls s' := by
  constructor
  · exact hissued ▸ h.numbers
  · intro c
    rw [hreturned, hcallers]
    exact h.byCaller c
  · intro t ht
    obtain hold | ⟨c, hc⟩ := hentered t ht
    · exact h.entered t hold
    · -- the request is that of the call that its caller has under way
      have hcalls := h.byCaller c
      rw [hc] at hcalls
      have hcall : ⟨c, t.uri, some t⟩ ∈ callsBy c calls :=
        hcalls ▸ List.mem_append_right _ (List.mem_singleton_self _)
      exact ⟨c, List.mem_of_mem_filter hcall⟩

theorem callsBy_none : callsBy c [] = [] ∧ ∀ c', c' ≠ c → callsBy c' [] = [] :=
  ⟨rfl, fun _ _ => rfl⟩

theorem callsBy_own (uri : String) (ticket : Option Ticket) :
    callsBy c [⟨c, uri, ticket⟩] = [⟨c, uri, ticket⟩] ∧
      ∀ c', c' ≠ c → callsBy c' [⟨c, uri, ticket⟩] = [] := by
  refine ⟨?_, fun c' hc => ?_⟩
  · rw [callsBy_singleton, if_pos rfl]
  · rw [callsBy_singleton, if_neg (Ne.symm hc)]

/-- A caller gets the answer to the call that it has under way. -/
theorem Accounted.finish (h : Accounted calls s) {reply : Option Bytes}
    (hc : (s.callers c).underWay c = [⟨c, t.uri, some t⟩]) :
    Accounted calls (s.finish c t reply) := by
  rw [← List.append_nil calls]
  refine h.move c callsBy_none (callsBy_own t.uri (some t)) ?_ (returned_record ..)
    (fun _ hne => if_neg hne) ?_ (State.entered_finish ..)
  · rw [List.append_nil]
    exact h.numbers
  · rw [hc, List.append_nil, State.callers_finish, if_pos rfl]
    rfl

/-- **One action.** -/
theorem Accounted.step (h : Accounted calls s) {a : Action} (hstep : Step policy timed s a s') :
    Accounted (addCall policy calls a) s' := by
  have hidle : ∀ {c uri ticket}, s.callers c = .idle →
      (s.callers c).underWay c ++ [⟨c, uri, ticket⟩] = [⟨c, uri, ticket⟩] := by
    intro c uri ticket hc
    rw [hc]
    rfl
  cases hstep with
  | @issue c uri hc hu =>
    rw [addCall, if_pos hu, h.length_requestsOf]
    refine h.move c (callsBy_own ..) callsBy_none ?_ ?_ ?_ ?_ rfl
    · rw [requestsOf_concat, List.map_append, h.numbers]
      exact List.range_succ.symm
    · exact (List.append_nil _).symm
    · exact fun c' hne => if_neg hne
    · rw [hidle hc, State.callers_issue, if_pos rfl]
      rfl
  | @refuse c uri hc hu =>
    rw [addCall, if_neg (Bool.eq_false_iff.1 hu)]
    refine h.move c (callsBy_own ..) (callsBy_own ..) ?_ (returned_record ..) (fun _ _ => rfl) ?_
      ((State.entered_record ..).trans (List.append_nil _))
    · rw [requestsOf_concat, Option.toList_none, List.append_nil]
      exact h.numbers
    · rw [hidle hc]
      change _ = _ ++ (s.callers c).underWay c
      rw [hc]
      rfl
  | @enter c t hc hs hq =>
    refine h.stay rfl ((returned_record ..).trans (List.append_nil _)) (fun c' => ?_) ?_
    · rw [State.callers_enter]
      split_ifs with heq
      · rw [heq, hc]
        rfl
      · rfl
    · intro t' ht'
      rw [State.entered_enter, List.mem_append, List.mem_singleton] at ht'
      obtain hold | rfl := ht'
      · exact .inl hold
      · exact .inr ⟨c, by rw [hc]; rfl⟩
  | unsent hc hs => exact h.finish (by rw [hc]; rfl)
  | collect hc hw => exact h.finish (by rw [hc]; rfl)
  | take =>
    refine h.stay rfl ((returned_record ..).trans (List.append_nil _)) (fun _ => rfl) fun t ht => ?_
    rw [State.entered_take] at ht
    exact .inl ht
  | settle =>
    refine h.stay rfl ((returned_record ..).trans (List.append_nil _)) (fun _ => rfl) fun t ht => ?_
    rw [State.entered_settle] at ht
    exact .inl ht
  | start | failToStart | leave => exact h.stay rfl rfl (fun _ => rfl) fun _ => .inl

/-! ### Answers -/

/-- What was answered stays answered: no request that found nobody who serves enters later. -/
theorem Replies.extend (h : Replies policy s)
    (hreturned : ∀ c uri ticket reply, .returned c uri ticket reply ∈ s'.history →
      .returned c uri ticket reply ∈ s.history ∨
        Answers policy s' uri ticket reply ∧ ∀ t, ticket = some t →
          t.number < s'.issued ∧ ∀ c' t', s'.callers c' = .sending t' → t'.number ≠ t.number)
    (hsettled : ∀ p ∈ s.settled, p ∈ s'.settled)
    (hentered : ∀ t ∈ s'.entered, t ∈ s.entered ∨ ∃ c, s.callers c = .sending t)
    (hissued : s.issued ≤ s'.issued)
    (hsending : ∀ c t, s'.callers c = .sending t →
      s.callers c = .sending t ∨ t.number = s.issued) : Replies policy s' := by
  constructor
  · intro c uri ticket reply hmem
    obtain hmem | ⟨hnew, -⟩ := hreturned c uri ticket reply hmem
    · cases h.answers c uri ticket reply hmem with
      | refused hu => exact .refused hu
      | fetched ht hp => exact .fetched ht (hsettled _ hp)
      | unsent ht hnot =>
        refine .unsent ht fun hin => ?_
        obtain hin | ⟨c', hc'⟩ := hentered _ hin
        · exact hnot hin
        · exact (h.done c uri _ _ hmem).2 c' _ hc' rfl
    · exact hnew
  · intro c uri t reply hmem
    obtain hmem | ⟨-, hnew⟩ := hreturned c uri _ reply hmem
    · obtain ⟨hlt, hothers⟩ := h.done c uri t reply hmem
      refine ⟨Nat.lt_of_lt_of_le hlt hissued, fun c' t' hc' => ?_⟩
      obtain hbefore | hnumber := hsending c' t' hc'
      · exact hothers c' t' hbefore
      · exact fun heq => absurd (heq.symm.trans hnumber) (Nat.ne_of_lt hlt)
    · exact hnew t rfl

/-- A caller gets an answer that fits its request. -/
theorem Replies.finish (h : Replies policy s) {reply : Option Bytes}
    (hanswers : Answers policy (s.finish c t reply) t.uri (some t) reply)
    (hlt : t.number < s.issued)
    (hothers : ∀ c' t', c' ≠ c → s.callers c' = .sending t' → t'.number ≠ t.number) :
    Replies policy (s.finish c t reply) := by
  have hsending : ∀ c' t', (s.finish c t reply).callers c' = .sending t' →
      c' ≠ c ∧ s.callers c' = .sending t' := by
    intro c' t' hc'
    rw [State.callers_finish] at hc'
    split_ifs at hc' with heq
    exact ⟨heq, hc'⟩
  refine h.extend ?_ ?_ ?_ (Nat.le_refl _) fun c' t' hc' => .inl (hsending c' t' hc').2
  · intro c' uri ticket reply' hmem
    rcases List.mem_append.1 hmem with hmem | hnew
    · exact .inl hmem
    · cases List.mem_singleton.1 hnew
      refine .inr ⟨hanswers, ?_⟩
      rintro _ ⟨⟩
      exact ⟨hlt, fun c' t' hc' => hothers c' t' (hsending c' t' hc').1 (hsending c' t' hc').2⟩
  · rw [State.settled_finish]
    exact fun _ => id
  · rw [State.entered_finish]
    exact fun _ => .inl

/-- **One action.** -/
theorem Replies.step (h : Replies policy s) (hledger : Ledger s) {a : Action}
    (hstep : Step policy timed s a s') : Replies policy s' := by
  have hold : ∀ e : Happening, e.returned? = none → ∀ c uri ticket reply,
      Happening.returned c uri ticket reply ∈ s.history ++ [e] →
        Happening.returned c uri ticket reply ∈ s.history := by
    intro e he c uri ticket reply hmem
    rcases List.mem_append.1 hmem with hmem | hnew
    · exact hmem
    · cases List.mem_singleton.1 hnew
      cases he
  cases hstep with
  | @issue c uri hc hu =>
    refine h.extend (fun _ _ _ _ => .inl) (fun _ => id) (fun _ => .inl) (Nat.le_succ _) ?_
    intro c' t hc'
    rw [State.callers_issue] at hc'
    split_ifs at hc' with heq
    · cases hc'
      exact .inr rfl
    · exact .inl hc'
  | @refuse c uri hc hu =>
    refine h.extend ?_ ?_ ?_ (Nat.le_refl _) fun _ _ => .inl
    · intro c' uri' ticket reply hmem
      rcases List.mem_append.1 hmem with hmem | hnew
      · exact .inl hmem
      · cases List.mem_singleton.1 hnew
        exact .inr ⟨.refused hu, nofun⟩
    · exact fun p hp => (State.settled_record ..).symm ▸ List.mem_append_left _ hp
    · intro t ht
      rw [State.entered_record] at ht
      exact .inl ((List.append_nil s.entered) ▸ ht)
  | @enter c t hc hs hq =>
    refine h.extend (fun c' uri ticket reply hmem => .inl (hold _ rfl c' uri ticket reply hmem))
      ?_ ?_ (Nat.le_refl _) ?_
    · rw [State.settled_enter]
      exact fun _ => id
    · intro t' ht'
      rw [State.entered_enter, List.mem_append, List.mem_singleton] at ht'
      obtain hin | rfl := ht'
      · exact .inl hin
      · exact .inr ⟨c, hc⟩
    · intro c' t' hc'
      rw [State.callers_enter] at hc'
      split_ifs at hc' with heq
      exact .inl hc'
  | @unsent c t hc hs =>
    obtain ⟨hlt, hnew⟩ := hledger.sending c t hc
    refine h.finish (.unsent rfl fun hin => ?_) hlt fun c' t' hne hc' heq => ?_
    · rw [State.entered_finish] at hin
      exact hnew t hin rfl
    · exact hne (hledger.distinct c' c t' t hc' hc heq)
  | @collect c t reply hc hw =>
    have hentered := hledger.waiting c t hc
    obtain ⟨outcome, hsettled, rfl⟩ := hledger.settled_of_reply hc hw
    refine h.finish (.fetched rfl ?_) (hledger.issued t hentered) fun c' t' hne hc' heq => ?_
    · rw [State.settled_finish]
      exact hsettled
    · exact (hledger.sending c' t' hc').2 t hentered heq.symm
  | take hs hq =>
    refine h.extend (fun c uri ticket reply hmem => .inl (hold _ rfl c uri ticket reply hmem))
      ?_ ?_ (Nat.le_refl _) fun _ _ => .inl
    · rw [State.settled_take]
      exact fun _ => id
    · rw [State.entered_take]
      exact fun _ => .inl
  | settle hs ho =>
    refine h.extend (fun c uri ticket reply hmem => .inl (hold _ rfl c uri ticket reply hmem))
      ?_ ?_ (Nat.le_refl _) fun _ _ => .inl
    · rw [State.settled_settle]
      exact fun _ => List.mem_append_left _
    · rw [State.entered_settle]
      exact fun _ => .inl
  | start | failToStart | leave =>
    exact h.extend (fun _ _ _ _ => .inl) (fun _ => id) (fun _ => .inl) (Nat.le_refl _)
      fun _ _ => .inl

theorem Reachable.replies (h : Reachable policy timed s) : Replies policy s := by
  refine (h.invariant (P := fun s => Ledger s ∧ Replies policy s) ⟨ledger_fresh, ?_⟩ ?_).2
  · exact ⟨fun _ _ _ _ hmem => absurd hmem List.not_mem_nil,
      fun _ _ _ _ hmem => absurd hmem List.not_mem_nil⟩
  · rintro s a s' ⟨hledger, hreplies⟩ hstep
    exact ⟨hledger.step hstep, hreplies.step hledger hstep⟩

/-- The calls of a run and the state that it leads to tell the same. -/
theorem accounted_of_run {as : List Action} (has : run? policy timed {} as = some s) :
    Accounted (callsOf policy as) s := by
  induction as using List.reverseRecOn generalizing s with
  | nil =>
    cases has
    exact ⟨rfl, fun _ => rfl, fun _ ht => absurd ht List.not_mem_nil⟩
  | append_singleton as a ih =>
    obtain ⟨s₁, hs₁, hstep⟩ := run?_concat.1 has
    rw [callsOf, List.foldl_concat]
    exact (ih hs₁).step hstep

end

/-! ### What callers can rely on -/

/-- What callers that share a bridge can rely on, given the calls that they have made. -/
structure Orderly (policy : Policy) (calls : List Call) (s : State) : Prop where
  /-- Every caller has the answers to its calls, each once and in order, but for the one that it has
  under way. -/
  answered : ∀ c, callsBy c calls = callsBy c s.returned ++ (s.callers c).underWay c
  /-- No two calls make the same request. -/
  distinct : (requestsOf calls).Nodup
  /-- The bytes in an answer are those that the fetcher gave for the request of just that call. -/
  bytes : ∀ c uri ticket content, .returned c uri ticket (some content) ∈ s.history →
    ∃ t, ticket = some t ∧ t.uri = uri ∧ .settled t (.bytes content) ∈ s.history
  /-- Nor is a call answered with nothing if its fetch gave bytes. -/
  answers : ∀ c uri ticket reply, .returned c uri ticket reply ∈ s.history →
    Answers policy s uri ticket reply
  /-- What enters the queue is the request of a call. -/
  called : ∀ t ∈ s.entered, ∃ c, ⟨c, t.uri, some t⟩ ∈ calls
  /-- A request enters the queue once. -/
  entered : s.entered.Nodup
  /-- Requests are fetched in the order of entrance, each once. -/
  fetched : s.fetched <+: s.entered
  /-- They are answered in the order in which they were fetched, each once. -/
  settled : s.settled.map Prod.fst <+: s.fetched
  /-- There is one fetch at a time. -/
  oneAtATime : s.fetched.length ≤ s.settled.length + 1
  /-- What the policy refuses is not fetched. -/
  admitted : ∀ t ∈ s.fetched, policy.admits t.uri = true

section

variable {policy : Policy} {timed : Bool} {s : State} {as : List Action}

theorem mem_settled_iff {t : Ticket} {outcome : Fetcher.Outcome} :
    (t, outcome) ∈ s.settled ↔ .settled t outcome ∈ s.history := by
  have hiff : ∀ e : Happening, e.settled? = some (t, outcome) ↔ e = .settled t outcome := by
    intro e
    cases e <;> simp [Happening.settled?]
  simp [State.settled, List.mem_filterMap, hiff]

theorem mem_fetched_iff {t : Ticket} : t ∈ s.fetched ↔ .fetched t ∈ s.history := by
  have hiff : ∀ e : Happening, e.fetched? = some t ↔ e = .fetched t := by
    intro e
    cases e <;> simp [Happening.fetched?]
  simp [State.fetched, List.mem_filterMap, hiff]

theorem Answers.bytes {uri : String} {ticket : Option Ticket} {content : Bytes}
    (h : Answers policy s uri ticket (some content)) :
    ∃ t, ticket = some t ∧ t.uri = uri ∧ .settled t (.bytes content) ∈ s.history := by
  generalize hreply : some content = reply at h
  cases h with
  | refused | unsent => cases hreply
  | @fetched t outcome ht hsettled =>
    cases outcome with
    | bytes content' =>
      cases hreply
      exact ⟨t, rfl, ht, mem_settled_iff.1 hsettled⟩
    | fails | stalls | panics => cases hreply

/-- **Callers that share a bridge do not mix up their answers**, whoever takes turns and however the
fetches end. -/
theorem orderly_of_run (has : run? policy timed {} as = some s) :
    Orderly policy (callsOf policy as) s := by
  have hreachable : Reachable policy timed s := reachable_iff.2 ⟨as, has⟩
  have haccounted := accounted_of_run has
  have hledger := hreachable.ledger
  have hreplies := hreachable.replies
  constructor
  · exact haccounted.byCaller
  · exact haccounted.nodup
  · exact fun c uri ticket content hmem => (hreplies.answers c uri ticket _ hmem).bytes
  · exact hreplies.answers
  · exact haccounted.entered
  · exact .of_map Ticket.number hledger.nodup
  · exact hledger.queue ▸ List.prefix_append ..
  · exact hledger.inHand ▸ List.prefix_append ..
  · have hhand : s.server.inHand.length ≤ 1 := by
      cases s.server <;> simp [Server.inHand]
    rw [hledger.inHand, List.length_append, List.length_map]
    omega
  · exact fun t ht => hreachable.admitted.fetched t (mem_fetched_iff.1 ht)

/-- Two callers: the second asks while the request of the first is fetched, and the first asks for
what is refused before the second has its answer. -/
def takingTurns : List Action :=
  [.start, .ask 0 "a", .send 0, .take, .ask 1 "b", .send 1, .settle (.bytes [1]), .take, .collect 0,
    .ask 0 "http://c", .settle (.bytes []), .collect 1]

/-- A policy that admits files alone. -/
def filesOnly : Policy := { Policy.lockedDown with readFile := .allow }

theorem takingTurns_orderly : ∃ s, run? filesOnly false {} takingTurns = some s ∧
    callsBy 0 s.returned = [⟨0, "a", some ⟨0, "a"⟩⟩, ⟨0, "http://c", none⟩] ∧
    s.settled = [(⟨0, "a"⟩, .bytes [1]), (⟨1, "b"⟩, .bytes [])] ∧
    .settled ⟨1, "b"⟩ (.bytes []) ∈ s.history := by
  have hrun : run? filesOnly false {} takingTurns = some _ := rfl
  have horderly := orderly_of_run hrun
  refine ⟨_, hrun, ?_, rfl, ?_⟩
  · have hanswered := horderly.answered 0
    rw [← List.append_nil (callsBy 0 _)]
    exact hanswered.symm
  · obtain ⟨t, ht, -, hsettled⟩ := horderly.bytes 1 "b" (some ⟨1, "b"⟩) []
      (List.mem_append_right _ (List.mem_singleton_self _))
    exact Option.some.inj ht ▸ hsettled

end

end Interleaving

end StyleHost
