import StyleHost.Proofs.Fetch.Ledger

/-!
# Callers that wait for good

A caller who waits for its reply is attended to if the service has the request in hand, or is up
and can still take it from the queue, or is done with it: then the way back holds a reply or is
given up.

A request that is in the queue when the service goes is none of these. Nobody takes it any more, and
nobody gives up its way back, since it lies in the queue with the request. There is time for this
before the service has started, and again between the breakdown of the fetcher and the moment when
the service leaves the queue.

* `Interleaving.Attended`, `Interleaving.Stranded` : the two ways in which a caller can wait.
* `Interleaving.Reachable.attended_or_stranded` : one who is attended to can still return, and one
  who is stranded never does.
-/

namespace StyleHost

namespace Interleaving

/-- Whether the service takes requests, now or later. -/
def Server.isUp : Server → Bool
  | .starting | .listening | .fetching _ => true
  | .unwinding | .gone => false

/-- A request for which its caller does not wait in vain. -/
inductive Attended (s : State) (t : Ticket) : Prop
  | inHand (h : s.server = .fetching t)
  | queued (h : t ∈ s.queue) (hup : s.server.isUp = true)
  /-- The way back holds a reply, or is given up. -/
  | answered (h : s.waysBack t.number ≠ .pending)

/-- A request that was left in the queue. -/
structure Stranded (s : State) (t : Ticket) : Prop where
  queued : t ∈ s.queue
  down : s.server.isUp = false

/-- A caller who can still get an answer. -/
def CanReturn (policy : Policy) (timed : Bool) (s : State) (c : Nat) : Prop :=
  ∃ as s', run? policy timed s as = some s' ∧ s'.callers c = .idle

section

variable {policy : Policy} {timed : Bool} {s s' : State} {c : Nat} {t : Ticket}

theorem Ledger.attended_iff (h : Ledger s) (hc : s.callers c = .waiting t) :
    Attended s t ↔ ¬Stranded s t := by
  constructor
  · rintro hattended ⟨hqueue, hdown⟩
    cases hattended with
    | inHand hs =>
      rw [hs] at hdown
      cases hdown
    | queued _ hup =>
      rw [hup] at hdown
      cases hdown
    | answered hw => exact hw (h.pending_of_mem (List.mem_append_right _ hqueue))
  · intro hstranded
    obtain ⟨outcome, hsettled⟩ | hs | hqueue := h.waiting_cases hc
    · refine .answered fun hw => ?_
      have hreply := congrArg WayBack.reply? ((h.answered t outcome hsettled).symm.trans hw)
      rw [WayBack.reply?_after] at hreply
      cases hreply
    · exact .inHand hs
    · have hup : ¬s.server.isUp = false := fun hdown => hstranded ⟨hqueue, hdown⟩
      rw [Bool.not_eq_false] at hup
      exact .queued hqueue hup

/-- The queue is never longer than there is room for. -/
theorem Reachable.length_queue_le (h : Reachable policy timed s) : s.queue.length ≤ capacity := by
  refine h.invariant (P := fun s => s.queue.length ≤ capacity) (Nat.zero_le _)
    fun s a s' hlength hstep => ?_
  cases hstep with
  | enter hc hs hq =>
    change (s.queue ++ [_]).length ≤ capacity
    rw [List.length_append]
    exact hq
  | take hs hq =>
    rw [hq] at hlength
    exact Nat.le_trans (Nat.le_succ _) hlength
  | issue | refuse | unsent | collect | start | failToStart | settle | leave => exact hlength

/-! ### A caller who is attended to -/

theorem CanReturn.of_step {a : Action} (hstep : Step policy timed s a s')
    (h : CanReturn policy timed s' c) : CanReturn policy timed s c := by
  obtain ⟨as, s'', has, hc⟩ := h
  exact ⟨a :: as, s'', run?_append.2 ⟨s', run?_singleton.2 hstep, has⟩, hc⟩

theorem canReturn_of_answered (hc : s.callers c = .waiting t)
    (hw : s.waysBack t.number ≠ .pending) : CanReturn policy timed s c := by
  obtain ⟨reply, hreply⟩ : ∃ reply, (s.waysBack t.number).reply? = some reply := by
    cases hway : s.waysBack t.number with
    | pending => exact absurd hway hw
    | replied reply => exact ⟨reply, rfl⟩
    | dropped => exact ⟨none, rfl⟩
  exact ⟨[.collect c], _, run?_singleton.2 (.collect hc hreply), if_pos rfl⟩

theorem canReturn_of_inHand (hc : s.callers c = .waiting t) (hs : s.server = .fetching t) :
    CanReturn policy timed s c := by
  refine .of_step (a := .settle (.bytes [])) (.settle hs nofun)
    (canReturn_of_answered (t := t) hc ?_)
  exact fun hpending => nomatch (if_pos rfl).symm.trans hpending

theorem canReturn_of_listening (hc : s.callers c = .waiting t) (hs : s.server = .listening)
    (hq : s.queue = [t]) : CanReturn policy timed s c :=
  .of_step (.take hs hq) (canReturn_of_inHand (t := t) hc rfl)

theorem canReturn_of_queued (hc : s.callers c = .waiting t) (hup : s.server.isUp = true)
    (hq : s.queue = [t]) : CanReturn policy timed s c := by
  cases hs : s.server with
  | starting => exact .of_step (.start hs) (canReturn_of_listening (t := t) hc rfl hq)
  | listening => exact canReturn_of_listening hc hs hq
  | fetching t' =>
    -- the service first has to be done with the request in hand
    exact .of_step (a := .settle (.bytes [])) (.settle hs nofun)
      (canReturn_of_listening (t := t) hc rfl hq)
  | unwinding | gone =>
    rw [hs] at hup
    cases hup

/-! ### A caller who is stranded -/

/-- A stranded request stays where it is. -/
theorem Stranded.step {a : Action} (h : Stranded s t) (hc : s.callers c = .waiting t)
    (hw : s.waysBack t.number = .pending) (hstep : Step policy timed s a s') :
    Stranded s' t ∧ s'.callers c = .waiting t ∧ s'.waysBack t.number = .pending := by
  obtain ⟨hqueue, hdown⟩ := h
  -- whoever moves is not the caller who waits
  have hmove : ∀ c' stance, s.callers c' ≠ .waiting t →
      (s.move c' stance).callers c = .waiting t := by
    intro c' stance hne
    have hcc' : c ≠ c' := fun heq => hne (heq ▸ hc)
    rw [State.callers_move, if_neg hcc', hc]
  cases hstep with
  | issue hc' hu =>
    exact ⟨⟨hqueue, hdown⟩, hmove _ _ (by rw [hc']; nofun), hw⟩
  | refuse => exact ⟨⟨hqueue, hdown⟩, hc, hw⟩
  | enter hc' hs hq =>
    exact ⟨⟨List.mem_append_left _ hqueue, hdown⟩, hmove _ _ (by rw [hc']; nofun), hw⟩
  | unsent hc' hs =>
    exact ⟨⟨hqueue, hdown⟩, hmove _ _ (by rw [hc']; nofun), hw⟩
  | @collect c' t' reply hc' hreply =>
    have hne : s.callers c' ≠ .waiting t := by
      rw [hc']
      rintro ⟨⟩
      rw [hw] at hreply
      cases hreply
    exact ⟨⟨hqueue, hdown⟩, hmove _ _ hne, hw⟩
  | start hs | failToStart hs | take hs hq | settle hs ho =>
    rw [hs] at hdown
    cases hdown
  | leave hs => exact ⟨⟨hqueue, rfl⟩, hc, hw⟩

theorem Stranded.waiting_of_run (h : Stranded s t) (hc : s.callers c = .waiting t)
    (hw : s.waysBack t.number = .pending) {as : List Action}
    (has : run? policy timed s as = some s') : s'.callers c = .waiting t := by
  suffices hall : Stranded s' t ∧ s'.callers c = .waiting t ∧ s'.waysBack t.number = .pending from
    hall.2.1
  induction as using List.reverseRecOn generalizing s' with
  | nil =>
    cases has
    exact ⟨h, hc, hw⟩
  | append_singleton as a ih =>
    obtain ⟨s₁, hs₁, hstep⟩ := run?_concat.1 has
    obtain ⟨h₁, hc₁, hw₁⟩ := ih hs₁
    exact h₁.step hc₁ hw₁ hstep

/-- **Whether a caller waits in vain.** One who is attended to can still return. One whose request
was left in the queue by the service never does, whatever happens from then on. -/
theorem Reachable.attended_or_stranded (h : Reachable policy timed s)
    (hc : s.callers c = .waiting t) :
    (Attended s t ∧ ¬Stranded s t ∧ CanReturn policy timed s c) ∨
      (Stranded s t ∧ ¬Attended s t ∧
        ∀ as s', run? policy timed s as = some s' → s'.callers c = .waiting t) := by
  have hledger := h.ledger
  have hiff := hledger.attended_iff hc
  by_cases hstranded : Stranded s t
  · right
    refine ⟨hstranded, fun hattended => hiff.1 hattended hstranded, fun as s' has => ?_⟩
    have hpending := hledger.pending_of_mem (List.mem_append_right _ hstranded.queued)
    exact hstranded.waiting_of_run hc hpending has
  · left
    have hattended := hiff.2 hstranded
    refine ⟨hattended, hstranded, ?_⟩
    cases hattended with
    | inHand hs => exact canReturn_of_inHand hc hs
    | answered hw => exact canReturn_of_answered hc hw
    | queued hqueue hup =>
      obtain ⟨t', ht'⟩ := List.length_eq_one_iff.1
        (Nat.le_antisymm h.length_queue_le (List.length_pos_of_mem hqueue))
      rw [ht', List.mem_singleton] at hqueue
      exact canReturn_of_queued hc hup (hqueue ▸ ht')

end

/-! ### Two ways to be stranded -/

/-- The fetcher breaks down, and its caller has the answer. The caller asks again, and its request
enters the queue before the service has left it. -/
def askAfterBreakdown : List Action :=
  [.start, .ask 0 "a", .send 0, .take, .settle (.panics ⟨"bug"⟩), .collect 0, .ask 0 "b", .send 0,
    .leave]

theorem askAfterBreakdown_strands : ∃ s, run? .standard false {} askAfterBreakdown = some s ∧
    s.callers 0 = .waiting ⟨1, "b"⟩ ∧
    ∀ as s', run? .standard false s as = some s' → s'.callers 0 = .waiting ⟨1, "b"⟩ := by
  refine ⟨_, rfl, rfl, ?_⟩
  have hreachable : Reachable .standard false _ := reachable_iff.2 ⟨askAfterBreakdown, rfl⟩
  obtain ⟨-, hnot, -⟩ | ⟨-, -, hwaits⟩ :=
    hreachable.attended_or_stranded (c := 0) (t := ⟨1, "b"⟩) rfl
  · exact absurd ⟨List.mem_singleton_self _, rfl⟩ hnot
  · exact hwaits

/-- A request enters the queue before the service comes up, and the service does not come up. -/
def askBeforeFailure : List Action := [.ask 0 "a", .send 0, .failToStart]

/-- Not every caller who waits is attended to, even if there is only one. -/
theorem askBeforeFailure_strands :
    (∃ s, run? .standard false {} askBeforeFailure = some s ∧
      s.callers 0 = .waiting ⟨0, "a"⟩ ∧ ¬Attended s ⟨0, "a"⟩) ∧
    ¬∀ s, Reachable .standard false s → ∀ t, s.callers 0 = .waiting t → Attended s t := by
  have hnot : ∃ s, run? .standard false {} askBeforeFailure = some s ∧
      s.callers 0 = .waiting ⟨0, "a"⟩ ∧ ¬Attended s ⟨0, "a"⟩ := by
    refine ⟨_, rfl, rfl, ?_⟩
    rintro (h | ⟨-, hup⟩ | h)
    · cases h
    · cases hup
    · exact h rfl
  refine ⟨hnot, fun h => ?_⟩
  obtain ⟨s, hrun, hwaiting, hattended⟩ := hnot
  exact hattended (h s (reachable_iff.2 ⟨_, hrun⟩) _ hwaiting)

end Interleaving

end StyleHost
