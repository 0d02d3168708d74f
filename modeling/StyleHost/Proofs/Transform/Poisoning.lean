import StyleHost.Proofs.Fetch.Memory
import StyleHost.Proofs.Transform.Admission

/-!
# Runs one after another

Runs on one host share its engine, its fetcher and nothing else. How a run leaves the engine is
decided by their conversation alone: not by where the run takes place, nor by what becomes of the
tree afterwards. As long as the engine has not broken down, each run goes as it would by itself on
the engine in its current state, with a fetcher that was asked for what the runs before have asked
for. After a breakdown of the engine every run fails at once, and no other outcome of a run has that
effect.

* `Host.series` : runs one after another.
* `Host.conversation`, `Host.stateAfter?`, `Host.BreaksDown` : what becomes of the engine.
* `Host.outcome` : how a run ends, by how its conversation ended (`Host.transform_value`).
* `Host.Lasting` : what lasts from one run to the next.
-/

namespace StyleHost

open HostM

variable {S X I D T α : Type}

/-- What a run comes to for its caller, which may be a breakdown. -/
abbrev Host.Result := Except Panic (Except TransformError Output)

/-- How work ends that the service does not disturb. -/
def Ended.ofExcept : Except Panic α → Ended α
  | .ok result => .returned result
  | .error panic => .workPanicked panic

/-- What becomes of a tree that is written out. -/
def ResultTree.written [ResultTree T] (mediaType : MediaType) (tree : T) : Host.Result := do
  match ← ResultTree.serialize tree with
  | .ok bytes => return .ok ⟨bytes, mediaType⟩
  | .error cause => return .error (.ofEngine cause)

/-- What becomes of a tree that is delivered. -/
def ResultTree.delivered [ResultTree T] (tree : T) : Host.Result := do
  let mediaType ← ResultTree.mediaType tree
  match ← ResultTree.missingDeclaration tree with
  | none => written mediaType tree
  | some content => written mediaType (← ResultTree.prependMeta tree "Content-Type" content)

namespace Host

/-- A run that somebody asks for. -/
structure Run where
  mode : Mode
  request : Request
deriving DecidableEq

/-- The conversation of a run with the engine in a state. -/
def conversation (h : Host S X I D T) (state : S) (request : Request) :
    HostM (Exchange X I D T) (Except Panic (S × Except EngineError T) × Resolver) :=
  (h.engine.start state request).run h.sorter { bridge := h.bridge }

/-- What a conversation leaves, unless the engine breaks down or a fetch never settles: the state of
the engine, and the URIs that the fetcher was asked for so far. -/
def stateAfter? (h : Host S X I D T) : List String × S → Request → Option (List String × S)
  | (asked, state), request =>
    let conversation := (h.after asked).conversation state request
    match conversation.run.value with
    | .ok (.ok (next, _), _) => some (asked ++ conversation.fetches, next)
    | .ok (.error _, _) | .error _ => none

/-- What requests, one after another, leave. -/
def stateAfterAll? (h : Host S X I D T) (state : S) (requests : List Request) :
    Option (List String × S) :=
  requests.foldlM h.stateAfter? ([], state)

/-- The engine breaks down over one of the requests. -/
def BreaksDown (h : Host S X I D T) (state : S) (requests : List Request) : Prop :=
  ∃ before request after asked s panic resolver, requests = before ++ request :: after ∧
    h.stateAfterAll? state before = some (asked, s) ∧
    ((h.after asked).conversation s request).run.value = .ok (.error panic, resolver)

section

variable [ResultTree T]

/-- Runs one after another, each on the engine and with the fetcher as the one before it has left
them. After a run that does not come to an end there is none. -/
def series (h : Host S X I D T) :
    EngineLock S → List Run → List (HostM (Exchange X I D T) (Result × EngineLock S))
  | _, [] => []
  | lock, run :: runs =>
    let ran := h.transform run.mode run.request lock
    ran :: match ran.run.value with
      | .ok (_, next) => (h.after ran.fetches).series next runs
      | .error _ => []

/-- What a run leaves, if it comes to an end: the engine, and the URIs that the fetcher was asked
for so far. -/
def lockAfter? (h : Host S X I D T) :
    List String × EngineLock S → Run → Option (List String × EngineLock S)
  | (asked, lock), run =>
    let ran := (h.after asked).transform run.mode run.request lock
    match ran.run.value with
    | .ok (_, next) => some (asked ++ ran.fetches, next)
    | .error _ => none

/-- How the work of a run ends and how it leaves the engine, by how the conversation ended. -/
def workAfter : Except Panic (S × Except EngineError T) → Result × EngineLock S
  | .error panic => (.error panic, .poisoned)
  | .ok (next, .error cause) => (.ok (.error (.ofEngine cause)), .free next)
  | .ok (next, .ok tree) => (ResultTree.delivered tree, .free next)

/-- How a run ends for its caller and how it leaves the engine, by how the conversation ended. -/
def outcome (mode : Mode) (ended : Except Panic (S × Except EngineError T)) :
    Result × EngineLock S :=
  (conclude mode (.ofExcept (workAfter ended).1), (workAfter ended).2)

end

end Host

/-! ### The service of a run -/

/-- A request to a fetcher that does not break down leaves the service as it was. -/
theorem Bridge.fetch_keeps {A : Type} {b : Bridge} (hcalm : b.fetcher.Calm)
    (hservice : b.service = .serving) (uri : String) :
    Asks (fun _ => True) (b.fetch uri : HostM A _)
      fun r => r.2.fetcher.Calm ∧ r.2.service = .serving := by
  have hserve : Asks (fun _ => True) (b.serve uri : HostM A _) fun r => r.2 = .serving := by
    unfold serve
    refine (Asks.note _).bind fun _ _ => (Asks.fetched trivial).bind fun _ _ => ?_
    split
    · exact (Asks.note _).bind fun _ _ => .pure rfl
    · exact (Asks.note _).bind fun _ _ => .pure rfl
    · split
      · exact (Asks.note _).bind fun _ _ => .pure rfl
      · exact .throw
    · rename_i hpanics
      exact absurd hpanics (hcalm.fetch_ne uri _)
  unfold fetch
  split
  · rw [hservice]
    exact hserve.bind fun r hr => .pure ⟨hcalm.of_follows (Fetcher.follows_after _ _), hr⟩
  · exact (Asks.note _).bind fun _ _ => .pure ⟨hcalm, hservice⟩

namespace Host

variable [ResultTree T] {h : Host S X I D T}

/-! ### One run -/

/-- A tree is delivered in any case, and nothing but the tree decides what becomes of it. -/
theorem deliver_value (tree : T) :
    (deliver tree : WorkM (Exchange X I D T) _).run.run.value =
      .ok (ResultTree.delivered tree) := by
  have hwritten : ∀ (mediaType : MediaType) (tree : T), (do
      WorkM.exchange (.serialized tree)
      match ← WorkM.ofExcept (ResultTree.serialize tree) with
      | .ok bytes => return .ok ⟨bytes, mediaType⟩
      | .error cause => return .error (.ofEngine cause) :
        WorkM (Exchange X I D T) (Except TransformError Output)).run.run.value =
      .ok (ResultTree.written mediaType tree) := by
    intro mediaType tree
    rw [WorkM.value_exchange_bind, WorkM.value_ofExcept_bind, ResultTree.written]
    cases ResultTree.serialize tree with
    | error panic => rfl
    | ok result => cases result <;> rfl
  unfold deliver ResultTree.declareEncoding ResultTree.delivered
  rw [WorkM.value_ofExcept_bind]
  cases ResultTree.mediaType tree with
  | error panic => rfl
  | ok mediaType =>
    dsimp only
    rw [bind_assoc, WorkM.value_ofExcept_bind]
    cases ResultTree.missingDeclaration tree with
    | error panic => rfl
    | ok content? =>
      cases content? with
      | none => exact hwritten mediaType tree
      | some content =>
        dsimp only
        rw [bind_assoc, WorkM.value_note_bind, bind_assoc, WorkM.value_ofExcept_bind]
        change _ = Except.ok (ResultTree.prependMeta tree "Content-Type" content >>=
          ResultTree.written mediaType)
        cases ResultTree.prependMeta tree "Content-Type" content with
        | error panic => rfl
        | ok tree => exact hwritten mediaType tree

omit [ResultTree T] in
theorem settle_value (mode : Mode) (outcome : Except Panic α) :
    (Bridge.settle mode .serving outcome : HostM (Exchange X I D T) _).run.value =
      .ok (.ofExcept outcome) := by
  cases mode <;> cases outcome <;> rfl

omit [ResultTree T] in
/-- The service of a run outlives its conversation. -/
theorem conversation_keeps (hcalm : h.fetcher.Calm) (state : S) (request : Request) :
    Asks (fun _ => True) (h.conversation state request)
      fun r => r.2.bridge.service = .serving := by
  have hbridge : Asks (fun _ => True) (h.conversation state request)
      fun r => r.2.bridge.fetcher.Calm ∧ r.2.bridge.service = .serving :=
    Interaction.run_keeps (J := fun b => b.fetcher.Calm ∧ b.service = .serving) h.sorter _
      ⟨hcalm, rfl⟩ fun _ uri hb => Bridge.fetch_keeps hb.1 hb.2 uri
  exact hbridge.imp fun _ hkept => hkept.2

theorem workFrom_value (hcalm : h.fetcher.Calm) (request : Request) (state : S) :
    (h.workFrom request state).run.value =
      (h.conversation state request).run.value.map fun r =>
        ⟨(workAfter r.1).1, (workAfter r.1).2, .serving⟩ := by
  have hservice := conversation_keeps hcalm state request
  -- the engine is told of the request first, which changes nothing in what it returns
  rw [workFrom, value_bind]
  change (h.conversation state request >>= _).run.value = _
  rw [value_bind]
  cases hended : (h.conversation state request).run.value with
  | error stalled => rfl
  | ok r =>
    obtain ⟨ended, resolver⟩ := r
    have hserving : resolver.bridge.service = .serving := hservice.returns _ hended
    dsimp only [Except.map]
    rw [hserving]
    cases ended with
    | error panic => rfl
    | ok r =>
      obtain ⟨next, result⟩ := r
      cases result with
      | error cause => rfl
      | ok tree =>
        -- the lock is given back before the tree is delivered
        change ((deliver tree).run >>= _).run.value = _
        rw [value_bind, deliver_value]
        rfl

/-- **A run** on an engine that has not broken down ends as its conversation has it, and nothing
else decides how it leaves the engine. -/
theorem transform_value (hcalm : h.fetcher.Calm) (mode : Mode) (request : Request) (state : S) :
    (h.transform mode request (.free state)).run.value =
      (h.conversation state request).run.value.map fun r => outcome mode r.1 := by
  have hwork : (h.work request (.free state)).run.value =
      (h.workFrom request state).run.value := by
    rw [work, value_bind]
    rfl
  rw [transform, value_bind, hwork, workFrom_value hcalm]
  cases (h.conversation state request).run.value with
  | error stalled => rfl
  | ok r =>
    dsimp only [Except.map]
    rw [value_bind, settle_value]
    rfl

/-- Going back to the caller, nothing passes any more. -/
theorem settle_quiet {A β : Type} (mode : Mode) (service : Service) (outcome : Except Panic α)
    (f : Ended α → β) :
    (do return f (← Bridge.settle mode service outcome) : HostM A β).exchanges = [] ∧
      (do return f (← Bridge.settle mode service outcome) : HostM A β).fetches = [] := by
  cases mode <;> cases service <;> cases outcome <;> exact ⟨rfl, rfl⟩

theorem fetches_transform (mode : Mode) (request : Request) (lock : EngineLock S) :
    (h.transform mode request lock).fetches = (h.work request lock).fetches := by
  rw [transform, fetches_bind]
  cases (h.work request lock).run.value with
  | error stalled => exact List.append_nil _
  | ok worked =>
    exact (congrArg _ (settle_quiet mode _ _ _).2).trans (List.append_nil _)

/-- A run asks the fetcher for what its conversation asks for. -/
theorem fetches_work (request : Request) (state : S) :
    (h.work request (.free state)).fetches = (h.conversation state request).fetches := by
  change (h.conversation state request >>= _).fetches = _
  rw [fetches_bind]
  rcases (h.conversation state request).run.value with stalled | ⟨cause | ⟨next, cause | tree⟩, _⟩
  · exact List.append_nil _
  · exact List.append_nil _
  · exact List.append_nil _
  · -- a tree is delivered without the fetcher
    have hdeliver : (deliver tree : WorkM (Exchange X I D T) _).run.fetches = [] :=
      (deliver_asks tree).fetches_eq_nil
    change _ ++ ((deliver tree).run >>= _).fetches = _
    rw [fetches_bind, hdeliver, deliver_value]
    exact List.append_nil _

omit [ResultTree T] in
theorem stateAfter?_eq_some_iff {asked asked' : List String} {state next : S} {request : Request} :
    h.stateAfter? (asked, state) request = some (asked', next) ↔
      asked' = asked ++ ((h.after asked).conversation state request).fetches ∧
      ∃ result resolver, ((h.after asked).conversation state request).run.value =
        .ok (.ok (next, result), resolver) := by
  rw [stateAfter?]
  rcases ((h.after asked).conversation state request).run.value with
    stalled | ⟨cause | ⟨next', result⟩, resolver⟩
  · simp
  · simp
  · simp [eq_comm]

theorem lockAfter?_eq_some_iff (hcalm : h.fetcher.Calm) {asked asked' : List String} {state : S}
    {run : Run} {lock : EngineLock S} :
    h.lockAfter? (asked, .free state) run = some (asked', lock) ↔
      asked' = asked ++ ((h.after asked).conversation state run.request).fetches ∧
      ∃ ended resolver, ((h.after asked).conversation state run.request).run.value =
        .ok (ended, resolver) ∧ (workAfter ended).2 = lock := by
  have hlater : (h.after asked).fetcher.Calm := hcalm.of_follows (Fetcher.follows_after _ _)
  rw [lockAfter?, transform_value hlater, fetches_transform, fetches_work]
  cases ((h.after asked).conversation state run.request).run.value with
  | error stalled => simp [Except.map]
  | ok r => simp [Except.map, outcome, Prod.ext_iff, eq_comm]

/-- A run after a breakdown of the engine fails at once. -/
theorem transform_poisoned (mode : Mode) (request : Request) :
    (h.transform mode request .poisoned).run.value = .ok (.ok (.error .lockPoisoned), .poisoned) ∧
      (h.transform mode request .poisoned).fetches = [] ∧
      (h.transform mode request .poisoned).exchanges = [] := by
  cases mode <;> exact ⟨rfl, rfl, rfl⟩

theorem lockAfter?_poisoned (asked : List String) (run : Run) :
    h.lockAfter? (asked, .poisoned) run = some (asked, .poisoned) := by
  obtain ⟨hvalue, hfetches, -⟩ :=
    (h.after asked).transform_poisoned run.mode run.request
  rw [lockAfter?, hvalue, hfetches]
  exact congrArg (fun uris => some (uris, _)) (List.append_nil asked)

/-! ### Failures of a poisoned engine -/

omit [ResultTree T] in
theorem lockPoisoned_ne_ofEngine (cause : EngineError) :
    TransformError.lockPoisoned ≠ .ofEngine cause := by
  cases cause <;> nofun

theorem written_ne_lockPoisoned (mediaType : MediaType) (tree : T) :
    ResultTree.written mediaType tree ≠ .ok (.error .lockPoisoned) := by
  rw [ResultTree.written]
  cases ResultTree.serialize tree with
  | error panic => exact nofun
  | ok result =>
    cases result with
    | ok bytes => exact nofun
    | error cause =>
      intro heq
      exact lockPoisoned_ne_ofEngine cause (Except.error.inj (Except.ok.inj heq)).symm

theorem delivered_ne_lockPoisoned (tree : T) :
    ResultTree.delivered tree ≠ .ok (.error .lockPoisoned) := by
  rw [ResultTree.delivered]
  cases ResultTree.mediaType tree with
  | error panic => exact nofun
  | ok mediaType =>
    cases ResultTree.missingDeclaration tree with
    | error panic => exact nofun
    | ok content? =>
      cases content? with
      | none => exact written_ne_lockPoisoned mediaType tree
      | some content =>
        change (ResultTree.prependMeta tree "Content-Type" content >>=
          ResultTree.written mediaType) ≠ _
        cases ResultTree.prependMeta tree "Content-Type" content with
        | error panic => exact nofun
        | ok tree => exact written_ne_lockPoisoned mediaType tree

/-- No run on an engine that has not broken down fails like one after a breakdown. -/
theorem outcome_ne_lockPoisoned (mode : Mode) (ended : Except Panic (S × Except EngineError T)) :
    (outcome mode ended).1 ≠ .ok (.error .lockPoisoned) := by
  have hwork : (workAfter ended).1 ≠ .ok (.error .lockPoisoned) := by
    cases ended with
    | error panic => exact nofun
    | ok r =>
      obtain ⟨next, result⟩ := r
      cases result with
      | error cause =>
        intro heq
        exact lockPoisoned_ne_ofEngine cause (Except.error.inj (Except.ok.inj heq)).symm
      | ok tree => exact delivered_ne_lockPoisoned tree
  rw [outcome]
  generalize (workAfter ended).1 = result at hwork
  cases result with
  | ok result => exact hwork
  | error panic =>
    cases mode with
    | blocking => exact nofun
    | concurrent =>
      intro heq
      have htexts := TransformError.runtime.inj (Except.error.inj (Except.ok.inj heq))
      exact absurd htexts (by decide)

/-! ### All runs -/

/-- The run in any place of a series. -/
theorem series_getElem? (asked : List String) (lock : EngineLock S) (done : List Run) (run : Run)
    (rest : List Run) :
    ((h.after asked).series lock (done ++ run :: rest))[done.length]? =
      (done.foldlM h.lockAfter? (asked, lock)).map fun left =>
        (h.after left.1).transform run.mode run.request left.2 := by
  induction done generalizing asked lock with
  | nil => rfl
  | cons first done ih =>
    rw [List.cons_append, series, List.length_cons, List.getElem?_cons_succ, List.foldlM_cons,
      lockAfter?]
    cases ((h.after asked).transform first.mode first.request lock).run.value with
    | error stalled => rfl
    | ok r =>
      dsimp only
      rw [after_after]
      exact ih _ r.2

theorem locks_poisoned (asked : List String) (runs : List Run) :
    runs.foldlM h.lockAfter? (asked, .poisoned) = some (asked, .poisoned) := by
  induction runs with
  | nil => rfl
  | cons run runs ih =>
    rw [List.foldlM_cons, lockAfter?_poisoned]
    exact ih

/-- A conversation that leaves the engine free. -/
theorem lockAfter?_of_stateAfter? (hcalm : h.fetcher.Calm) {asked asked' : List String}
    {state next : S} {run : Run}
    (hnext : h.stateAfter? (asked, state) run.request = some (asked', next)) :
    h.lockAfter? (asked, .free state) run = some (asked', .free next) := by
  obtain ⟨hasked, result, resolver, hvalue⟩ := stateAfter?_eq_some_iff.1 hnext
  refine (lockAfter?_eq_some_iff hcalm).2 ⟨hasked, _, resolver, hvalue, ?_⟩
  cases result <;> rfl

/-- As long as the engine has not broken down, it is where its conversations have brought it. -/
theorem locks_of_states (hcalm : h.fetcher.Calm) {left left' : List String × S} {runs : List Run}
    (hs : (runs.map Run.request).foldlM h.stateAfter? left = some left') :
    runs.foldlM h.lockAfter? (left.1, .free left.2) = some (left'.1, .free left'.2) := by
  induction runs generalizing left with
  | nil =>
    cases hs
    rfl
  | cons run runs ih =>
    rw [List.map_cons, List.foldlM_cons] at hs
    obtain ⟨next, hnext, hs⟩ := Option.bind_eq_some_iff.1 hs
    rw [List.foldlM_cons, lockAfter?_of_stateAfter? hcalm hnext]
    exact ih hs

/-- A breakdown of the engine lasts. -/
theorem locks_of_breaksDown (hcalm : h.fetcher.Calm) {state : S} {runs : List Run}
    (hbreaks : h.BreaksDown state (runs.map Run.request)) :
    ∃ asked, runs.foldlM h.lockAfter? ([], .free state) = some (asked, .poisoned) := by
  obtain ⟨before, request, after, asked, s, panic, resolver, hruns, hs, hvalue⟩ := hbreaks
  obtain ⟨earlier, others, rfl, rfl, hothers⟩ := List.map_eq_append_iff.1 hruns
  obtain ⟨run, later, rfl, rfl, rfl⟩ := List.map_eq_cons_iff.1 hothers
  have hlock : h.lockAfter? (asked, .free s) run =
      some (asked ++ ((h.after asked).conversation s run.request).fetches, .poisoned) :=
    (lockAfter?_eq_some_iff hcalm).2 ⟨rfl, _, resolver, hvalue, rfl⟩
  refine ⟨asked ++ ((h.after asked).conversation s run.request).fetches, ?_⟩
  rw [List.foldlM_append, locks_of_states hcalm hs]
  change (run :: later).foldlM h.lockAfter? (asked, .free s) = _
  rw [List.foldlM_cons, hlock]
  exact locks_poisoned _ later

/-- Nothing but a breakdown of the engine has that effect. -/
theorem breaksDown_of_locks (hcalm : h.fetcher.Calm) {asked : List String} {state : S}
    {runs : List Run}
    (hlocks : runs.foldlM h.lockAfter? ([], .free state) = some (asked, .poisoned)) :
    h.BreaksDown state (runs.map Run.request) := by
  -- a breakdown is looked for from any point of the series on
  suffices hfrom : ∀ left : List String × S,
      runs.foldlM h.lockAfter? (left.1, .free left.2) = some (asked, .poisoned) →
      ∃ before request after asked s panic resolver,
        runs.map Run.request = before ++ request :: after ∧
        before.foldlM h.stateAfter? left = some (asked, s) ∧
        ((h.after asked).conversation s request).run.value = .ok (.error panic, resolver) from
    hfrom ([], state) hlocks
  clear hlocks
  induction runs with
  | nil => exact fun _ hlocks => nomatch hlocks
  | cons run runs ih =>
    rintro ⟨before, state⟩ hlocks
    rw [List.foldlM_cons] at hlocks
    obtain ⟨⟨asked', lock⟩, hlock, hlocks⟩ := Option.bind_eq_some_iff.1 hlocks
    obtain ⟨hasked, ended, resolver, hvalue, rfl⟩ := (lockAfter?_eq_some_iff hcalm).1 hlock
    cases ended with
    | error panic =>
      exact ⟨[], run.request, runs.map Run.request, before, state, panic, resolver, rfl, rfl,
        hvalue⟩
    | ok r =>
      obtain ⟨next, result⟩ := r
      have hfree : (workAfter (.ok (next, result))).2 = .free next := by cases result <;> rfl
      rw [hfree] at hlocks
      -- the breakdown comes later, and this run only brings the engine nearer to it
      obtain ⟨earlier, request, after, asked, s, panic, resolver', hrest, hs, hbreaks⟩ :=
        ih (asked', next) hlocks
      refine ⟨run.request :: earlier, request, after, asked, s, panic, resolver', ?_, ?_, hbreaks⟩
      · rw [List.map_cons, hrest, List.cons_append]
      · rw [List.foldlM_cons, stateAfter?_eq_some_iff.2 ⟨hasked, result, resolver, hvalue⟩]
        exact hs

/-- What lasts from the runs before a run to that run, as it then goes. -/
structure Lasting (h : Host S X I D T) (state : S) (before : List Run) (run : Run)
    (ran? : Option (HostM (Exchange X I D T) (Result × EngineLock S))) : Prop where
  /-- If the engine has not broken down, the run goes as it would by itself on the engine in the
  state in which the conversations have left it, with the fetcher that was asked for what they asked
  for. -/
  alone : ∀ asked s, h.stateAfterAll? state (before.map Run.request) = some (asked, s) →
    ran? = some ((h.after asked).transform run.mode run.request (.free s))
  /-- How it then ends is decided by its own conversation. -/
  ends : ∀ asked s, ((h.after asked).transform run.mode run.request (.free s)).run.value =
    ((h.after asked).conversation s run.request).run.value.map fun r => outcome run.mode r.1
  /-- After a breakdown of the engine the run fails at once: neither the engine nor the fetcher is
  asked for anything. -/
  poisoned : h.BreaksDown state (before.map Run.request) → ∃ ran, ran? = some ran ∧
    ran.run.value = .ok (.ok (.error .lockPoisoned), .poisoned) ∧
      ran.fetches = [] ∧ ran.exchanges = []
  /-- It fails in this way only then. -/
  onlyThen : ∀ ran lock, ran? = some ran → ran.run.value = .ok (.ok (.error .lockPoisoned), lock) →
    h.BreaksDown state (before.map Run.request)

/-- **Runs one after another** have nothing but the engine and the fetcher in common, and only a
breakdown of the engine puts an end to it. -/
theorem series_lasting (hcalm : h.fetcher.Calm) (state : S) (before : List Run) (run : Run)
    (after : List Run) :
    Lasting h state before run
      (h.series (.free state) (before ++ run :: after))[before.length]? := by
  have hlater (asked : List String) : (h.after asked).fetcher.Calm :=
    hcalm.of_follows (Fetcher.follows_after _ _)
  have hran := series_getElem? (h := h) [] (.free state) before run after
  rw [after_nil] at hran
  rw [hran]
  constructor
  · intro asked s hs
    rw [locks_of_states hcalm hs]
    rfl
  · exact fun asked => transform_value (hlater asked) run.mode run.request
  · intro hbreaks
    obtain ⟨asked, hlocks⟩ := locks_of_breaksDown hcalm hbreaks
    rw [hlocks]
    exact ⟨_, rfl, transform_poisoned run.mode run.request⟩
  · intro ran lock hran hvalue
    obtain ⟨⟨asked, found⟩, hfound, rfl⟩ := Option.map_eq_some_iff.1 hran
    cases found with
    | poisoned => exact breaksDown_of_locks hcalm hfound
    | free s =>
      -- a run on a free engine ends in another way
      rw [transform_value (hlater asked)] at hvalue
      cases hended : ((h.after asked).conversation s run.request).run.value with
      | error stalled =>
        rw [hended] at hvalue
        cases hvalue
      | ok r =>
        rw [hended] at hvalue
        have hresult := congrArg Prod.fst (Except.ok.inj hvalue)
        exact absurd hresult (outcome_ne_lockPoisoned run.mode r.1)

end Host

/-- A tree that breaks down whatever is asked of it. -/
instance : ResultTree Panic where
  method? := .error
  encoding? := .error
  isHtmlDocument := .error
  metas? := .error
  prependMeta panic _ _ := .error panic
  serialize := .error

/-- A host with an engine that counts its runs. It reports an error in the first, builds a tree that
cannot be delivered in the second, and breaks down in the third. -/
def brittleHost : Host Nat Unit Unit Unit Panic where
  engine := ⟨fun count _ =>
    match count with
    | 0 => .finish 1 (.error (.transform "no template"))
    | 1 => .finish 2 (.ok ⟨"no method"⟩)
    | _ => .panic ⟨"out of order"⟩⟩
  fetcher := .ofOutcomes "any" fun _ => .bytes []
  collations _ _ := .ok none

/-- Four runs of the same request. -/
def fourRuns : List Host.Run :=
  [.concurrent, .blocking, .concurrent, .blocking].map (⟨·, ⟨[], [], "about:blank", [], {}⟩⟩)

theorem brittleHost_breaksDown : brittleHost.fetcher.Calm ∧
    ((brittleHost.series (.free 0) fourRuns)[2]?.map (·.run.value)) =
      some (.ok (.ok (.error .taskPanicked), .poisoned)) ∧
    ((brittleHost.series (.free 0) fourRuns)[3]?.map (·.run.value)) =
      some (.ok (.ok (.error .lockPoisoned), .poisoned)) := by
  have hcalm : brittleHost.fetcher.Calm := Fetcher.calm_ofOutcomes fun _ => nofun
  have hthird := Host.series_lasting hcalm 0 (fourRuns.take 2) fourRuns[2] (fourRuns.drop 3)
  have hfourth := Host.series_lasting hcalm 0 (fourRuns.take 3) fourRuns[3] []
  refine ⟨hcalm, ?_, ?_⟩
  · have halone := hthird.alone [] 2 rfl
    exact (congrArg _ halone).trans (congrArg some (hthird.ends [] 2))
  · obtain ⟨ran, hran, hvalue, -, -⟩ := hfourth.poisoned
      ⟨(fourRuns.take 2).map Host.Run.request, fourRuns[2].request, [], [], 2, ⟨"out of order"⟩,
        { bridge := brittleHost.bridge }, rfl, rfl, rfl⟩
    exact (congrArg _ hran).trans (congrArg some hvalue)

end StyleHost
