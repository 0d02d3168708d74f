import Mathlib.Data.List.Induction
import Mathlib.Data.List.Nodup
import Mathlib.Tactic.SplitIfs
import StyleHost.Fetch.Interleaving

/-!
# What the history of a bridge tells

What an action does is said once, one rule per kind of action (`Interleaving.Step`), and all that is
said of interleavings follows from it.

* `Interleaving.next?_eq_some_iff` : the rules are all that can happen.
* `Interleaving.Ledger` : the history and the state tell the same. The requests that have entered
  the queue are those that were fetched and, after them, those that are still in it; the requests
  that were fetched are those that are settled and the one in hand; a way back holds what the fetch
  of its own request came to.
* `Interleaving.Reachable.ledger` : this holds however callers and service take their turns.
-/

namespace StyleHost

/-- The bytes that a caller gets of a fetch. -/
def Fetcher.Outcome.reply : Fetcher.Outcome → Option Bytes
  | .bytes content => some content
  | _ => none

namespace Interleaving

/-! ### What an action does -/

/-- What becomes of the way back when a fetch settles. -/
def WayBack.after : Fetcher.Outcome → WayBack
  | .panics _ => .dropped
  | outcome => .replied outcome.reply

/-- What a way back gives to a caller who waits for it. -/
def WayBack.reply? : WayBack → Option (Option Bytes)
  | .pending => none
  | .replied reply => some reply
  | .dropped => some none

/-- Where the service stands when a fetch has settled. -/
def Server.after : Fetcher.Outcome → Server
  | .panics _ => .unwinding
  | _ => .listening

/-- The requests that the service has in hand. -/
def Server.inHand : Server → List Ticket
  | .fetching t => [t]
  | _ => []

namespace State

/-- The state with an admitted request on the way to the queue. -/
def issue (s : State) (caller : Nat) (uri : String) : State :=
  { s.move caller (.sending ⟨s.issued, uri⟩) with issued := s.issued + 1 }

/-- The state with a request in the queue. -/
def enter (s : State) (caller : Nat) (t : Ticket) : State :=
  { s.move caller (.waiting t) with queue := s.queue ++ [t] }.record (.entered t)

/-- The state with the first request of the queue in the hands of the service. -/
def take (s : State) (t : Ticket) (rest : List Ticket) : State :=
  { s with server := .fetching t, queue := rest }.record (.fetched t)

/-- The state after a fetch. -/
def settle (s : State) (t : Ticket) (outcome : Fetcher.Outcome) : State :=
  { s.answer t (.after outcome) with server := .after outcome }.record (.settled t outcome)

end State

/-- What an action does. -/
inductive Step (policy : Policy) (timed : Bool) (s : State) : Action → State → Prop
  | issue {c : Nat} {uri : String} (hc : s.callers c = .idle) (hu : policy.admits uri = true) :
    Step policy timed s (.ask c uri) (s.issue c uri)
  | refuse {c : Nat} {uri : String} (hc : s.callers c = .idle) (hu : policy.admits uri = false) :
    Step policy timed s (.ask c uri) (s.record (.returned c uri none none))
  | enter {c : Nat} {t : Ticket} (hc : s.callers c = .sending t) (hs : s.server ≠ .gone)
    (hq : s.queue.length < capacity) : Step policy timed s (.send c) (s.enter c t)
  /-- Nobody serves. -/
  | unsent {c : Nat} {t : Ticket} (hc : s.callers c = .sending t) (hs : s.server = .gone) :
    Step policy timed s (.send c) (s.finish c t none)
  | collect {c : Nat} {t : Ticket} {reply : Option Bytes} (hc : s.callers c = .waiting t)
    (hw : (s.waysBack t.number).reply? = some reply) :
    Step policy timed s (.collect c) (s.finish c t reply)
  | start (hs : s.server = .starting) : Step policy timed s .start { s with server := .listening }
  | failToStart (hs : s.server = .starting) :
    Step policy timed s .failToStart { s with server := .gone }
  | take {t : Ticket} {rest : List Ticket} (hs : s.server = .listening) (hq : s.queue = t :: rest) :
    Step policy timed s .take (s.take t rest)
  | settle {t : Ticket} {outcome : Fetcher.Outcome} (hs : s.server = .fetching t)
    (ho : outcome = .stalls → timed = true) :
    Step policy timed s (.settle outcome) (s.settle t outcome)
  | leave (hs : s.server = .unwinding) : Step policy timed s .leave { s with server := .gone }

section

variable {policy : Policy} {timed : Bool} {s s' : State} {a : Action}

theorem send?_eq_some_iff {c : Nat} {t : Ticket} : s.send? c t = some s' ↔
    (s.server = .gone ∧ s.finish c t none = s') ∨
      (s.server ≠ .gone ∧ s.queue.length < capacity ∧ s.enter c t = s') := by
  unfold State.send?
  split_ifs with hs hq
  · simp [hs]
  · simp [hs, hq, State.enter]
  · simp [hs, hq]

theorem collect?_eq_some_iff {c : Nat} {t : Ticket} : s.collect? c t = some s' ↔
    ∃ reply, (s.waysBack t.number).reply? = some reply ∧ s.finish c t reply = s' := by
  unfold State.collect?
  cases s.waysBack t.number <;> simp [WayBack.reply?]

theorem take?_eq_some_iff :
    s.take? = some s' ↔ ∃ t rest, s.queue = t :: rest ∧ s.take t rest = s' := by
  unfold State.take?
  cases s.queue <;> simp [State.take]

theorem settle?_eq_some_iff {t : Ticket} {outcome : Fetcher.Outcome} :
    s.settle? timed t outcome = some s' ↔
      (outcome = .stalls → timed = true) ∧ s.settle t outcome = s' := by
  unfold State.settle?
  cases outcome <;>
    simp [State.settle, WayBack.after, Server.after, Fetcher.Outcome.reply]

/-- **The rules are all that can happen.** -/
theorem next?_eq_some_iff : next? policy timed s a = some s' ↔ Step policy timed s a s' := by
  constructor
  · intro h
    cases a with
    | ask c uri =>
      simp only [next?] at h
      split at h
      · rename_i hc
        rw [State.ask] at h
        split at h
        · rename_i hu
          cases h
          exact .issue hc hu
        · rename_i hu
          cases h
          exact .refuse hc (Bool.eq_false_iff.2 hu)
      · cases h
    | send c =>
      simp only [next?] at h
      split at h
      · rename_i t hc
        obtain ⟨hs, rfl⟩ | ⟨hs, hq, rfl⟩ := send?_eq_some_iff.1 h
        · exact .unsent hc hs
        · exact .enter hc hs hq
      · cases h
    | collect c =>
      simp only [next?] at h
      split at h
      · rename_i t hc
        obtain ⟨reply, hw, rfl⟩ := collect?_eq_some_iff.1 h
        exact .collect hc hw
      · cases h
    | start =>
      simp only [next?, Option.ite_none_right_eq_some, Option.some.injEq] at h
      obtain ⟨hs, rfl⟩ := h
      exact .start hs
    | failToStart =>
      simp only [next?, Option.ite_none_right_eq_some, Option.some.injEq] at h
      obtain ⟨hs, rfl⟩ := h
      exact .failToStart hs
    | take =>
      simp only [next?, Option.ite_none_right_eq_some, take?_eq_some_iff] at h
      obtain ⟨hs, t, rest, hq, rfl⟩ := h
      exact .take hs hq
    | settle outcome =>
      simp only [next?] at h
      split at h
      · rename_i t hs
        obtain ⟨ho, rfl⟩ := settle?_eq_some_iff.1 h
        exact .settle hs ho
      · cases h
    | leave =>
      simp only [next?, Option.ite_none_right_eq_some, Option.some.injEq] at h
      obtain ⟨hs, rfl⟩ := h
      exact .leave hs
  · intro h
    cases h with
    | issue hc hu => simp [next?, hc, State.ask, hu, State.issue]
    | refuse hc hu => simp [next?, hc, State.ask, hu]
    | enter hc hs hq => simp [next?, hc, send?_eq_some_iff, hs, hq]
    | unsent hc hs => simp [next?, hc, send?_eq_some_iff, hs]
    | collect hc hw => simp [next?, hc, collect?_eq_some_iff, hw]
    | start hs => simp [next?, hs]
    | failToStart hs => simp [next?, hs]
    | take hs hq => simp [next?, hs, take?_eq_some_iff, hq]
    | settle hs ho => simpa [next?, hs, settle?_eq_some_iff] using ho
    | leave hs => simp [next?, hs]

/-! ### Runs -/

theorem run?_append {as bs : List Action} : run? policy timed s (as ++ bs) = some s' ↔
    ∃ s₁, run? policy timed s as = some s₁ ∧ run? policy timed s₁ bs = some s' := by
  simp [run?, List.foldlM_append, Option.bind_eq_some_iff]

theorem run?_singleton : run? policy timed s [a] = some s' ↔ Step policy timed s a s' := by
  simp [run?, next?_eq_some_iff]

theorem run?_concat {as : List Action} : run? policy timed s (as ++ [a]) = some s' ↔
    ∃ s₁, run? policy timed s as = some s₁ ∧ Step policy timed s₁ a s' := by
  simp only [run?_append, run?_singleton]

/-- The reachable states are those that runs of a fresh bridge lead to. -/
theorem reachable_iff : Reachable policy timed s ↔ ∃ as, run? policy timed {} as = some s := by
  constructor
  · intro h
    induction h with
    | fresh => exact ⟨[], rfl⟩
    | step a _ hs ih =>
      obtain ⟨as, has⟩ := ih
      exact ⟨as ++ [a], run?_concat.2 ⟨_, has, next?_eq_some_iff.1 hs⟩⟩
  · rintro ⟨as, has⟩
    induction as using List.reverseRecOn generalizing s with
    | nil =>
      cases has
      exact .fresh
    | append_singleton as a ih =>
      obtain ⟨s₁, hs₁, hstep⟩ := run?_concat.1 has
      exact .step a (ih hs₁) (next?_eq_some_iff.2 hstep)

/-- What holds of a fresh bridge and is kept by every action holds of all states that come about. -/
theorem Reachable.invariant {P : State → Prop} (h : Reachable policy timed s) (h₀ : P {})
    (hstep : ∀ s a s', P s → Step policy timed s a s' → P s') : P s := by
  induction h with
  | fresh => exact h₀
  | step a _ hs ih => exact hstep _ a _ ih (next?_eq_some_iff.1 hs)

end

/-! ### Reading the history -/

namespace Happening

/-- The request that has entered the queue. -/
def entered? : Happening → Option Ticket
  | .entered t => some t
  | _ => none

/-- The request that the fetcher was asked for. -/
def fetched? : Happening → Option Ticket
  | .fetched t => some t
  | _ => none

/-- The request whose fetch has settled, with what it came to. -/
def settled? : Happening → Option (Ticket × Fetcher.Outcome)
  | .settled t outcome => some (t, outcome)
  | _ => none

end Happening

namespace State

/-- The requests that have entered the queue, in order. -/
def entered (s : State) : List Ticket := s.history.filterMap Happening.entered?

/-- The requests that the fetcher was asked for, in order. -/
def fetched (s : State) : List Ticket := s.history.filterMap Happening.fetched?

/-- The requests whose fetch has settled, in order, with what it came to. -/
def settled (s : State) : List (Ticket × Fetcher.Outcome) :=
  s.history.filterMap Happening.settled?

section

variable (s : State) (c : Nat) (t : Ticket) (outcome : Fetcher.Outcome) (reply : Option Bytes)

theorem entered_record (e : Happening) :
    (s.record e).entered = s.entered ++ e.entered?.toList := by
  cases e <;> simp [entered, record, Happening.entered?]

theorem fetched_record (e : Happening) :
    (s.record e).fetched = s.fetched ++ e.fetched?.toList := by
  cases e <;> simp [fetched, record, Happening.fetched?]

theorem settled_record (e : Happening) :
    (s.record e).settled = s.settled ++ e.settled?.toList := by
  cases e <;> simp [settled, record, Happening.settled?]

@[simp]
theorem entered_finish : (s.finish c t reply).entered = s.entered :=
  (entered_record _ _).trans (List.append_nil _)

@[simp]
theorem fetched_finish : (s.finish c t reply).fetched = s.fetched :=
  (fetched_record _ _).trans (List.append_nil _)

@[simp]
theorem settled_finish : (s.finish c t reply).settled = s.settled :=
  (settled_record _ _).trans (List.append_nil _)

@[simp]
theorem entered_enter : (s.enter c t).entered = s.entered ++ [t] := entered_record _ _

@[simp]
theorem fetched_enter : (s.enter c t).fetched = s.fetched :=
  (fetched_record _ _).trans (List.append_nil _)

@[simp]
theorem settled_enter : (s.enter c t).settled = s.settled :=
  (settled_record _ _).trans (List.append_nil _)

@[simp]
theorem entered_take (rest : List Ticket) : (s.take t rest).entered = s.entered :=
  (entered_record _ _).trans (List.append_nil _)

@[simp]
theorem fetched_take (rest : List Ticket) : (s.take t rest).fetched = s.fetched ++ [t] :=
  fetched_record _ _

@[simp]
theorem settled_take (rest : List Ticket) : (s.take t rest).settled = s.settled :=
  (settled_record _ _).trans (List.append_nil _)

@[simp]
theorem entered_settle : (s.settle t outcome).entered = s.entered :=
  (entered_record _ _).trans (List.append_nil _)

@[simp]
theorem fetched_settle : (s.settle t outcome).fetched = s.fetched :=
  (fetched_record _ _).trans (List.append_nil _)

@[simp]
theorem settled_settle : (s.settle t outcome).settled = s.settled ++ [(t, outcome)] :=
  settled_record _ _

/-! Whoever moves, the others stay. -/

theorem callers_move (c' : Nat) (stance : Caller) :
    (s.move c stance).callers c' = if c' = c then stance else s.callers c' := rfl

theorem callers_issue (c' : Nat) (uri : String) : (s.issue c uri).callers c' =
    if c' = c then .sending ⟨s.issued, uri⟩ else s.callers c' := rfl

theorem callers_enter (c' : Nat) :
    (s.enter c t).callers c' = if c' = c then .waiting t else s.callers c' := rfl

theorem callers_finish (c' : Nat) :
    (s.finish c t reply).callers c' = if c' = c then .idle else s.callers c' := rfl

end

end State

@[simp]
theorem Server.inHand_after (outcome : Fetcher.Outcome) :
    (Server.after outcome).inHand = [] := by
  cases outcome <;> rfl

@[simp]
theorem WayBack.reply?_after (outcome : Fetcher.Outcome) :
    (WayBack.after outcome).reply? = some outcome.reply := by
  cases outcome <;> rfl

/-- The history and the state tell the same. -/
structure Ledger (s : State) : Prop where
  /-- The queue is first in, first out. -/
  queue : s.entered = s.fetched ++ s.queue
  inHand : s.fetched = s.settled.map Prod.fst ++ s.server.inHand
  nodup : (s.entered.map Ticket.number).Nodup
  issued : ∀ t ∈ s.entered, t.number < s.issued
  sending : ∀ c t, s.callers c = .sending t →
    t.number < s.issued ∧ ∀ t' ∈ s.entered, t'.number ≠ t.number
  /-- No two callers are about to send the same request. -/
  distinct : ∀ c c' t t', s.callers c = .sending t → s.callers c' = .sending t' →
    t.number = t'.number → c = c'
  waiting : ∀ c t, s.callers c = .waiting t → t ∈ s.entered
  answered : ∀ t outcome, (t, outcome) ∈ s.settled → s.waysBack t.number = .after outcome
  pending : ∀ n, (∀ p ∈ s.settled, p.1.number ≠ n) → s.waysBack n = .pending

section

variable {policy : Policy} {timed : Bool} {s s' : State}

theorem ledger_fresh : Ledger {} where
  queue := rfl
  inHand := rfl
  nodup := List.nodup_nil
  issued _ ht := absurd ht List.not_mem_nil
  sending _ _ hc := nomatch hc
  distinct _ _ _ _ hc := nomatch hc
  waiting _ _ hc := nomatch hc
  answered _ _ ht := absurd ht List.not_mem_nil
  pending _ _ := rfl

/-- It does not matter to the ledger if callers get their answers, or if a service without a request
in hand moves. -/
theorem Ledger.relax (h : Ledger s) (hentered : s'.entered = s.entered)
    (hfetched : s'.fetched = s.fetched) (hsettled : s'.settled = s.settled)
    (hqueue : s'.queue = s.queue) (hhand : s'.server.inHand = s.server.inHand)
    (hways : s'.waysBack = s.waysBack) (hissued : s'.issued = s.issued)
    (hcallers : ∀ c, s'.callers c = s.callers c ∨ s'.callers c = .idle) : Ledger s' := by
  have hbusy : ∀ c stance, s'.callers c = stance → stance ≠ .idle → s.callers c = stance := by
    intro c stance hc hne
    rcases hcallers c with heq | hidle
    · exact heq ▸ hc
    · exact absurd (hc.symm.trans hidle) hne
  constructor
  · rw [hentered, hfetched, hqueue]
    exact h.queue
  · rw [hfetched, hsettled, hhand]
    exact h.inHand
  · rw [hentered]
    exact h.nodup
  · rw [hentered, hissued]
    exact h.issued
  · intro c t hc
    rw [hentered, hissued]
    exact h.sending c t (hbusy c _ hc nofun)
  · intro c c' t t' hc hc'
    exact h.distinct c c' t t' (hbusy c _ hc nofun) (hbusy c' _ hc' nofun)
  · intro c t hc
    rw [hentered]
    exact h.waiting c t (hbusy c _ hc nofun)
  · rw [hsettled, hways]
    exact h.answered
  · rw [hsettled, hways]
    exact h.pending

/-- A new request has a number that no other one has. -/
theorem Ledger.issue (h : Ledger s) (c : Nat) (uri : String) : Ledger (s.issue c uri) := by
  have hold : ∀ c' t, (s.issue c uri).callers c' = .sending t →
      (c' = c ∧ t.number = s.issued) ∨ (c' ≠ c ∧ s.callers c' = .sending t) := by
    intro c' t hc'
    by_cases heq : c' = c
    · have ht := (if_pos heq).symm.trans hc'
      cases ht
      exact .inl ⟨heq, rfl⟩
    · exact .inr ⟨heq, (if_neg heq).symm.trans hc'⟩
  have hnew : ∀ t ∈ s.entered, t.number ≠ s.issued := fun t ht => Nat.ne_of_lt (h.issued t ht)
  constructor
  · exact h.queue
  · exact h.inHand
  · exact h.nodup
  · exact fun t ht => Nat.lt_succ_of_lt (h.issued t ht)
  · intro c' t hc'
    rcases hold c' t hc' with ⟨-, hnumber⟩ | ⟨-, hc'⟩
    · rw [hnumber]
      exact ⟨Nat.lt_succ_self _, hnew⟩
    · exact ⟨Nat.lt_succ_of_lt (h.sending c' t hc').1, (h.sending c' t hc').2⟩
  · intro c₁ c₂ t₁ t₂ h₁ h₂ heq
    rcases hold c₁ t₁ h₁ with ⟨hc₁, hn₁⟩ | ⟨-, h₁⟩ <;>
      rcases hold c₂ t₂ h₂ with ⟨hc₂, hn₂⟩ | ⟨-, h₂⟩
    · rw [hc₁, hc₂]
    · exact absurd (heq.symm.trans hn₁) (Nat.ne_of_lt (h.sending c₂ t₂ h₂).1)
    · exact absurd (heq.trans hn₂) (Nat.ne_of_lt (h.sending c₁ t₁ h₁).1)
    · exact h.distinct c₁ c₂ t₁ t₂ h₁ h₂ heq
  · intro c' t hc'
    by_cases heq : c' = c
    · have ht := (if_pos heq).symm.trans hc'
      cases ht
    · exact h.waiting c' t ((if_neg heq).symm.trans hc')
  · exact h.answered
  · exact h.pending

/-- A request that enters the queue has not entered it before. -/
theorem Ledger.enter (h : Ledger s) {c : Nat} {t : Ticket} (hc : s.callers c = .sending t) :
    Ledger (s.enter c t) := by
  obtain ⟨hissued, hnew⟩ := h.sending c t hc
  have hold : ∀ c' stance, (s.enter c t).callers c' = stance →
      (c' = c ∧ stance = .waiting t) ∨ (c' ≠ c ∧ s.callers c' = stance) := by
    intro c' stance hc'
    by_cases heq : c' = c
    · exact .inl ⟨heq, ((if_pos heq).symm.trans hc').symm⟩
    · exact .inr ⟨heq, (if_neg heq).symm.trans hc'⟩
  constructor
  · rw [State.entered_enter, State.fetched_enter, h.queue, List.append_assoc]
    rfl
  · rw [State.fetched_enter, State.settled_enter]
    exact h.inHand
  · rw [State.entered_enter, List.map_append, List.map_singleton, ← List.concat_eq_append]
    refine h.nodup.concat fun hmem => ?_
    obtain ⟨t', ht', heq⟩ := List.mem_map.1 hmem
    exact hnew t' ht' heq
  · intro t' ht'
    rw [State.entered_enter, List.mem_append, List.mem_singleton] at ht'
    rcases ht' with ht' | rfl
    · exact h.issued t' ht'
    · exact hissued
  · intro c' t' hc'
    obtain ⟨-, hstance⟩ | ⟨hne, hbefore⟩ := hold c' _ hc'
    · cases hstance
    · refine ⟨(h.sending c' t' hbefore).1, fun t'' ht'' => ?_⟩
      rw [State.entered_enter, List.mem_append, List.mem_singleton] at ht''
      rcases ht'' with ht'' | rfl
      · exact (h.sending c' t' hbefore).2 t'' ht''
      · exact fun heq => hne (h.distinct c' c t' t'' hbefore hc heq.symm)
  · intro c₁ c₂ t₁ t₂ h₁ h₂
    obtain ⟨-, hstance⟩ | ⟨-, h₁⟩ := hold c₁ _ h₁
    · cases hstance
    · obtain ⟨-, hstance⟩ | ⟨-, h₂⟩ := hold c₂ _ h₂
      · cases hstance
      · exact h.distinct c₁ c₂ t₁ t₂ h₁ h₂
  · intro c' t' hc'
    rw [State.entered_enter, List.mem_append, List.mem_singleton]
    obtain ⟨-, hstance⟩ | ⟨-, hc'⟩ := hold c' _ hc'
    · exact .inr (Caller.waiting.inj hstance)
    · exact .inl (h.waiting c' t' hc')
  · rw [State.settled_enter]
    exact h.answered
  · rw [State.settled_enter]
    exact h.pending

/-- The service takes the request that has waited longest. -/
theorem Ledger.take (h : Ledger s) {t : Ticket} {rest : List Ticket}
    (hhand : s.server.inHand = []) (hq : s.queue = t :: rest) : Ledger (s.take t rest) := by
  constructor
  · rw [State.entered_take, State.fetched_take, h.queue, hq, List.append_assoc]
    rfl
  · rw [State.fetched_take, State.settled_take, h.inHand, hhand, List.append_nil]
    rfl
  · rw [State.entered_take]
    exact h.nodup
  · rw [State.entered_take]
    exact h.issued
  · rw [State.entered_take]
    exact h.sending
  · exact h.distinct
  · rw [State.entered_take]
    exact h.waiting
  · rw [State.settled_take]
    exact h.answered
  · rw [State.settled_take]
    exact h.pending

/-- A fetch settles the request in hand, and no other one. -/
theorem Ledger.settle (h : Ledger s) {t : Ticket} (hs : s.server = .fetching t)
    (outcome : Fetcher.Outcome) : Ledger (s.settle t outcome) := by
  have hfetched : s.fetched = s.settled.map Prod.fst ++ [t] := by rw [h.inHand, hs]; rfl
  -- the request in hand has entered once, so it is not among those that are settled
  have hnew : ∀ p ∈ s.settled, p.1.number ≠ t.number := by
    have hnodup := h.nodup
    rw [h.queue, hfetched, List.map_append, List.map_append, List.nodup_append] at hnodup
    have hdisjoint := (List.nodup_append.1 hnodup.1).2.2
    intro p hp
    refine hdisjoint _ ?_ _ (List.mem_singleton_self _)
    exact List.mem_map_of_mem (List.mem_map_of_mem hp)
  constructor
  · rw [State.entered_settle, State.fetched_settle]
    exact h.queue
  · rw [State.fetched_settle, State.settled_settle, hfetched, List.map_append]
    change _ = _ ++ (Server.after outcome).inHand
    rw [Server.inHand_after, List.append_nil]
    rfl
  · rw [State.entered_settle]
    exact h.nodup
  · rw [State.entered_settle]
    exact h.issued
  · rw [State.entered_settle]
    exact h.sending
  · exact h.distinct
  · rw [State.entered_settle]
    exact h.waiting
  · intro t' outcome' hmem
    rw [State.settled_settle, List.mem_append, List.mem_singleton] at hmem
    rcases hmem with hmem | heq
    · exact (if_neg (hnew _ hmem)).trans (h.answered t' outcome' hmem)
    · cases heq
      exact if_pos rfl
  · intro n hn
    rw [State.settled_settle] at hn
    have hne : t.number ≠ n := hn (t, outcome) (List.mem_append_right _ (List.mem_singleton_self _))
    exact (if_neg hne.symm).trans (h.pending n fun p hp => hn p (List.mem_append_left _ hp))

/-- **One action.** -/
theorem Ledger.step (h : Ledger s) {a : Action} (hstep : Step policy timed s a s') :
    Ledger s' := by
  have hfinish : ∀ c t reply, Ledger (s.finish c t reply) := fun c t reply =>
    h.relax (State.entered_finish ..) (State.fetched_finish ..) (State.settled_finish ..) rfl rfl
      rfl rfl fun c' => (em (c' = c)).symm.imp (fun hne => if_neg hne) fun heq => if_pos heq
  have hserver : ∀ server : Server, server.inHand = s.server.inHand →
      Ledger { s with server := server } := fun server hhand =>
    h.relax rfl rfl rfl rfl hhand rfl rfl fun _ => .inl rfl
  cases hstep with
  | issue hc hu => exact h.issue _ _
  | refuse hc hu =>
    exact h.relax ((State.entered_record ..).trans (List.append_nil _))
      ((State.fetched_record ..).trans (List.append_nil _))
      ((State.settled_record ..).trans (List.append_nil _)) rfl rfl rfl rfl fun _ => .inl rfl
  | enter hc hs hq => exact h.enter hc
  | unsent hc hs => exact hfinish _ _ _
  | collect hc hw => exact hfinish _ _ _
  | start hs => exact hserver _ (by rw [hs]; rfl)
  | failToStart hs => exact hserver _ (by rw [hs]; rfl)
  | take hs hq => exact h.take (by rw [hs]; rfl) hq
  | settle hs ho => exact h.settle hs _
  | leave hs => exact hserver _ (by rw [hs]; rfl)

/-- **All actions.** -/
theorem Reachable.ledger (h : Reachable policy timed s) : Ledger s :=
  h.invariant ledger_fresh fun _ _ _ h hstep => h.step hstep

/-! ### Where a request can be -/

/-- A request is not both settled and on its way. -/
theorem Ledger.pending_of_mem (h : Ledger s) {t : Ticket} (ht : t ∈ s.server.inHand ++ s.queue) :
    s.waysBack t.number = .pending := by
  refine h.pending _ fun p hp heq => ?_
  have hnodup := h.nodup
  rw [h.queue, h.inHand, List.append_assoc, List.map_append, List.nodup_append] at hnodup
  exact hnodup.2.2 p.1.number (List.mem_map_of_mem (List.mem_map_of_mem hp)) t.number
    (List.mem_map_of_mem ht) heq

theorem Ledger.not_settled_of_mem (h : Ledger s) {t : Ticket}
    (ht : t ∈ s.server.inHand ++ s.queue) (outcome : Fetcher.Outcome) :
    (t, outcome) ∉ s.settled := by
  intro hsettled
  have hreply := congrArg WayBack.reply? (h.answered t outcome hsettled)
  rw [h.pending_of_mem ht, WayBack.reply?_after] at hreply
  cases hreply

theorem Ledger.fetched_of_settled (h : Ledger s) {t : Ticket} {outcome : Fetcher.Outcome}
    (hsettled : (t, outcome) ∈ s.settled) : t ∈ s.fetched := by
  rw [h.inHand]
  exact List.mem_append_left _ (List.mem_map_of_mem (f := Prod.fst) hsettled)

theorem Ledger.entered_of_fetched (h : Ledger s) {t : Ticket} (hfetched : t ∈ s.fetched) :
    t ∈ s.entered := by
  rw [h.queue]
  exact List.mem_append_left _ hfetched

theorem Ledger.entered_of_queued (h : Ledger s) {t : Ticket} (hqueue : t ∈ s.queue) :
    t ∈ s.entered := by
  rw [h.queue]
  exact List.mem_append_right _ hqueue

/-- A request whose caller waits is settled, or in hand, or in the queue. -/
theorem Ledger.waiting_cases (h : Ledger s) {c : Nat} {t : Ticket}
    (hc : s.callers c = .waiting t) :
    (∃ outcome, (t, outcome) ∈ s.settled) ∨ s.server = .fetching t ∨ t ∈ s.queue := by
  have hentered := h.waiting c t hc
  rw [h.queue, h.inHand, List.mem_append, List.mem_append] at hentered
  rcases hentered with (hsettled | hhand) | hqueue
  · obtain ⟨p, hp, rfl⟩ := List.mem_map.1 hsettled
    exact .inl ⟨p.2, hp⟩
  · cases hs : s.server with
    | fetching t' =>
      rw [hs] at hhand
      exact .inr (.inl (List.mem_singleton.1 hhand ▸ rfl))
    | starting | listening | unwinding | gone =>
      rw [hs] at hhand
      cases hhand
  · exact .inr (.inr hqueue)

/-- A caller who gets an answer to its request gets what the fetch came to. -/
theorem Ledger.settled_of_reply (h : Ledger s) {c : Nat} {t : Ticket} {reply : Option Bytes}
    (hc : s.callers c = .waiting t) (hw : (s.waysBack t.number).reply? = some reply) :
    ∃ outcome, (t, outcome) ∈ s.settled ∧ outcome.reply = reply := by
  have hpending : t ∉ s.server.inHand ++ s.queue := by
    intro ht
    rw [h.pending_of_mem ht] at hw
    cases hw
  rw [List.mem_append, not_or] at hpending
  obtain ⟨outcome, hsettled⟩ | hs | hqueue := h.waiting_cases hc
  · refine ⟨outcome, hsettled, ?_⟩
    rw [h.answered t outcome hsettled, WayBack.reply?_after] at hw
    exact Option.some.inj hw
  · rw [hs] at hpending
    exact absurd (List.mem_singleton_self t) hpending.1
  · exact absurd hqueue hpending.2

end

end Interleaving

end StyleHost
