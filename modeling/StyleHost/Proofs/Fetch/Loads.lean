import StyleHost.Proofs.Fetch.Series

/-!
# Loads in a row

A resolver makes one load after the other. What a load comes to depends on the bytes that its bridge
gives for it and on what its parser makes of them, and on nothing else that earlier loads did.
Fetchers and parsers may be others each time.

* `Bridge.document?` : the document of a load, if it has one.
* `Resolver.next` : a load's document, and the resolver after the load. The counters tell loads with
  a document from those without.
* `Resolver.callAll` : loads in a row. `Resolver.watch` makes a load and records what its parser is
  called on.
* `Accounts` : what a row of loads comes to.
-/

namespace StyleHost

open HostM

variable {A D : Type}

/-- A load, with the fetcher and the parser as it meets them. -/
structure Load (D : Type) where
  uri : String
  kind : LoadKind
  fetcher : Fetcher
  parse : DocumentParser D

namespace Bridge

variable {b : Bridge} {l : Load D} {uri : String}

/-- The bridge as a load meets it. -/
def meet (b : Bridge) (l : Load D) : Bridge := { b with fetcher := l.fetcher }

/-- If somebody serves, the fetch of a load comes to an end, and without a breakdown. -/
def Ends (b : Bridge) (l : Load D) : Prop :=
  b.service = .serving → (b.meet l).Settles l.uri ∧ (b.meet l).Bears l.uri

/-- Whether the fetcher is asked for a load. -/
def asks (b : Bridge) (l : Load D) : Bool := b.service = .serving && b.policy.admits l.uri

/-- The bridge as a load leaves it: a fetcher that was asked for the load remembers it. -/
def afterLoad (b : Bridge) (l : Load D) : Bridge :=
  { b with fetcher := l.fetcher.after (([l].filter b.asks).map Load.uri) }

/-- The bytes that a bridge gives for a load. -/
def bytes? (b : Bridge) (l : Load D) : Option Bytes :=
  if b.service = .serving then (b.meet l).answer l.uri else none

/-- The document that the parser of a load makes of them. -/
def document? (b : Bridge) (l : Load D) : Option D :=
  (b.bytes? l).bind fun content => (l.parse content l.uri).toOption

theorem bytes?_eq_some_iff {content : Bytes} :
    b.bytes? l = some content ↔ b.service = .serving ∧ b.policy.admits l.uri = true ∧
      l.fetcher.fetch l.uri = .bytes content := by
  rw [bytes?, Option.ite_none_right_eq_some, answer_eq_some_iff]
  exact Iff.rfl

theorem document?_eq_some_iff {document : D} :
    b.document? l = some document ↔
      ∃ content, b.bytes? l = some content ∧ l.parse content l.uri = .ok document := by
  rw [document?, Option.bind_eq_some_iff]
  refine exists_congr fun content => and_congr_right fun _ => ?_
  cases l.parse content l.uri <;> simp [Except.toOption]

/-- All the ways in which a load can have no document. -/
theorem document?_eq_none_iff :
    b.document? l = none ↔ b.service ≠ .serving ∨ b.policy.admits l.uri = false ∨
      (∃ cause, l.fetcher.fetch l.uri = .fails cause) ∨ l.fetcher.fetch l.uri = .stalls ∨
      (∃ panic, l.fetcher.fetch l.uri = .panics panic) ∨
      ∃ content cause, l.fetcher.fetch l.uri = .bytes content ∧
        l.parse content l.uri = .error cause := by
  by_cases hservice : b.service = .serving
  · cases hadmits : b.policy.admits l.uri with
    | false => simp [document?, bytes?, answer, meet, hservice, hadmits]
    | true =>
      have hbytes : b.bytes? l = (l.fetcher.fetch l.uri).reply := by
        rw [bytes?, if_pos hservice, answer]
        exact if_pos hadmits
      rw [document?, hbytes]
      cases l.fetcher.fetch l.uri with
      | bytes content =>
        cases hparse : l.parse content l.uri <;>
          simp [Fetcher.Outcome.reply, hparse, hservice, Except.toOption]
      | fails | stalls | panics => simp [Fetcher.Outcome.reply]
  · simp [document?, bytes?, hservice]

/-- A bridge that nobody serves gives nothing. -/
theorem fetch_of_not_serving (h : b.service ≠ .serving) :
    Gives (b.fetch uri : HostM A _) [] (none, b) := by
  unfold fetch
  split
  · split
    · exact absurd ‹_› h
    · exact (Gives.note _).bind (.pure _)
    · exact (Gives.note _).bind (.pure _)
  · exact (Gives.note _).bind (.pure _)

/-- The fetch of a load. -/
theorem fetch_meet (h : b.Ends l) :
    Gives ((b.meet l).fetch l.uri : HostM A _) (([l].filter b.asks).map Load.uri)
      (b.bytes? l, b.afterLoad l) := by
  by_cases hservice : b.service = .serving
  · obtain ⟨hsettles, hbears⟩ := h hservice
    have hfetch := fetch_gives (A := A) (b := b.meet l) hservice hsettles
    have hasks : ([l].filter b.asks).map Load.uri = [l.uri].filter (b.meet l).policy.admits := by
      change _ = [l.uri].filter b.policy.admits
      cases hadmits : b.policy.admits l.uri <;> simp [asks, hservice, hadmits]
    rw [serviceAfter_of_bears hbears, ← hservice, ← hasks] at hfetch
    rw [bytes?, if_pos hservice]
    exact hfetch
  · have hasks : ([l].filter b.asks).map Load.uri = [] := by simp [asks, hservice]
    rw [bytes?, if_neg hservice, afterLoad, hasks]
    exact fetch_of_not_serving hservice

/-- What a bridge is after a load makes no difference to the load that follows. -/
theorem ends_afterLoad {l' : Load D} : (b.afterLoad l).Ends l' ↔ b.Ends l' := Iff.rfl

/-- A fetch exchanges nothing with the engine. -/
theorem exchanges_fetch (b : Bridge) (uri : String) :
    (b.fetch uri : HostM A _).exchanges = [] := by
  unfold fetch
  split
  · split
    · unfold serve
      cases b.fetcher.fetch uri with
      | stalls => cases b.timeoutMs <;> rfl
      | bytes | fails | panics => rfl
    · rfl
    · rfl
  · rfl

end Bridge

namespace Resolver

variable {r : Resolver} {l : Load D} {loads : List (Load D)}

/-- The resolver as a load meets it. -/
def meet (r : Resolver) (l : Load D) : Resolver := { r with bridge := r.bridge.meet l }

/-- The document of a load, and the resolver after the load. -/
def next (r : Resolver) (l : Load D) : Option D × Resolver :=
  let after := { r with bridge := r.bridge.afterLoad l }
  match r.bridge.document? l with
  | some document => (some document, after.countLoaded)
  | none => (none, after.countFailed)

/-- The documents of loads in a row, each with the resolver after it. -/
def replies (r : Resolver) : List (Load D) → List (Option D × Resolver)
  | [] => []
  | l :: loads => r.next l :: (r.next l).2.replies loads

/-- The resolver after loads in a row. -/
def after (r : Resolver) (loads : List (Load D)) : Resolver :=
  loads.foldl (fun r l => (r.next l).2) r

/-- A load whose parser has effects of its own. -/
def resolveWith (r : Resolver) (parse : Bytes → String → HostM A (Except EngineError D))
    (uri : String) (kind : LoadKind) : HostM A (Option D × Resolver) := do
  HostM.note (.resolving kind uri)
  let (reply, bridge) ← r.bridge.fetch uri
  let r := { r with bridge := bridge }
  match reply with
  | none => return (none, r.countFailed)
  | some content =>
    match ← parse content uri with
    | .ok document => return (some document, r.countLoaded)
    | .error cause => do
      HostM.note (.notParsed uri cause)
      return (none, r.countFailed)

/-- Makes a load. -/
def load (r : Resolver) (l : Load D) : HostM A (Option D × Resolver) :=
  (r.meet l).resolve l.parse l.uri l.kind

/-- Makes a load, and records each call of its parser. -/
def watch (r : Resolver) (l : Load D) : HostM (Bytes × String) (Option D × Resolver) :=
  (r.meet l).resolveWith (fun content uri => do
    HostM.exchange (content, uri)
    return l.parse content uri) l.uri l.kind

/-- Makes loads in a row. -/
def callAll (call : Resolver → Load D → HostM A (Option D × Resolver)) (r : Resolver) :
    List (Load D) → HostM A (List (Option D × Resolver) × Resolver)
  | [] => return ([], r)
  | l :: loads => do
    let (document, r) ← call r l
    let (replies, last) ← callAll call r loads
    return ((document, r) :: replies, last)

/-! ### One load -/

theorem resolveWith_pure (r : Resolver) (parse : DocumentParser D) (uri : String)
    (kind : LoadKind) :
    (r.resolveWith (fun content uri => pure (parse content uri)) uri kind : HostM A _) =
      r.resolve parse uri kind := rfl

variable {parse : Bytes → String → HostM A (Except EngineError D)}

/-- **One load** has the document that its parser makes of the bytes that the bridge gives. -/
theorem resolveWith_gives (h : r.bridge.Ends l)
    (hparse : ∀ content, Gives (parse content l.uri) [] (l.parse content l.uri)) :
    Gives ((r.meet l).resolveWith parse l.uri l.kind)
      (([l].filter r.bridge.asks).map Load.uri) (r.next l) := by
  have hfetch := Bridge.fetch_meet (A := A) h
  unfold resolveWith
  rw [← List.append_nil (List.map _ _)]
  refine (Gives.note _).bind (hfetch.bind ?_)
  rw [next, Bridge.document?]
  cases r.bridge.bytes? l with
  | none => exact .pure _
  | some content =>
    refine (hparse content).bind ?_
    dsimp only [Option.bind_some]
    cases l.parse content l.uri with
    | ok document => exact .pure _
    | error cause => exact (Gives.note _).bind (.pure _)

/-- Its parser is called once on those bytes, if there are any. -/
theorem watch_tells (h : r.bridge.Ends l) :
    Tells (r.watch l) ((r.bridge.bytes? l).map (·, l.uri)).toList (.ok (r.next l)) := by
  have hfetch : Tells ((r.bridge.meet l).fetch l.uri : HostM (Bytes × String) _) []
      (.ok (r.bridge.bytes? l, r.bridge.afterLoad l)) :=
    ⟨Bridge.exchanges_fetch _ _, (Bridge.fetch_meet h).returns⟩
  unfold watch resolveWith
  refine (Tells.note _).bind (hfetch.bind ?_)
  rw [next, Bridge.document?]
  cases r.bridge.bytes? l with
  | none => exact .pure _
  | some content =>
    have hcall : Tells (do HostM.exchange (content, l.uri); return l.parse content l.uri)
        [(content, l.uri)] (.ok (l.parse content l.uri)) := (Tells.exchange _).bind (.pure _)
    change Tells _ ([(content, l.uri)] ++ []) _
    refine hcall.bind ?_
    dsimp only [Option.bind_some]
    cases l.parse content l.uri with
    | ok document => exact .pure _
    | error cause => exact (Tells.note _).bind (.pure _)

theorem load_gives (h : r.bridge.Ends l) :
    Gives (r.load l : HostM A _) (([l].filter r.bridge.asks).map Load.uri) (r.next l) := by
  rw [load, ← resolveWith_pure]
  exact resolveWith_gives h fun _ => .pure _

theorem bridge_next : (r.next l).2.bridge = r.bridge.afterLoad l := by
  unfold next
  split <;> rfl

theorem next_fst : (r.next l).1 = r.bridge.document? l := by
  unfold next
  cases r.bridge.document? l <;> rfl

/-- Each load is counted once, by whether it has a document. -/
theorem counts_next :
    (r.next l).2.loaded = r.loaded + [r.next l].countP (·.1.isSome) ∧
      (r.next l).2.loaded + (r.next l).2.failed = r.loaded + r.failed + 1 := by
  unfold next
  cases r.bridge.document? l with
  | none => exact ⟨rfl, rfl⟩
  | some document => exact ⟨rfl, Nat.add_right_comm ..⟩

/-! ### All loads -/

theorem callAll_gives (h : ∀ l ∈ loads, r.bridge.Ends l) :
    Gives (callAll load r loads : HostM A _) ((loads.filter r.bridge.asks).map Load.uri)
      (r.replies loads, r.after loads) := by
  induction loads generalizing r with
  | nil => exact .pure _
  | cons l loads ih =>
    have hload := load_gives (A := A) (h l List.mem_cons_self)
    have hrest := ih (r := (r.next l).2) fun l' hl' => by
      rw [bridge_next, Bridge.ends_afterLoad]
      exact h l' (List.mem_cons_of_mem _ hl')
    rw [bridge_next] at hrest
    rw [← List.singleton_append, List.filter_append, List.map_append,
      ← List.append_nil (List.map _ (loads.filter _))]
    exact hload.bind (hrest.bind (.pure _))

theorem callAll_tells (h : ∀ l ∈ loads, r.bridge.Ends l) :
    Tells (callAll watch r loads)
      (loads.filterMap fun l => (r.bridge.bytes? l).map (·, l.uri))
      (.ok (r.replies loads, r.after loads)) := by
  rw [List.filterMap_eq_flatMap_toList]
  induction loads generalizing r with
  | nil => exact .pure _
  | cons l loads ih =>
    have hload := watch_tells (h l List.mem_cons_self)
    have hrest := ih (r := (r.next l).2) fun l' hl' => by
      rw [bridge_next, Bridge.ends_afterLoad]
      exact h l' (List.mem_cons_of_mem _ hl')
    rw [bridge_next] at hrest
    rw [List.flatMap_cons, ← List.append_nil (List.flatMap _ loads)]
    exact hload.bind (hrest.bind (.pure _))

/-- Each load has its own document. -/
theorem map_fst_replies : (r.replies loads).map Prod.fst = loads.map r.bridge.document? := by
  induction loads generalizing r with
  | nil => rfl
  | cons l loads ih =>
    have hrest := ih (r := (r.next l).2)
    rw [bridge_next] at hrest
    exact congrArg₂ List.cons next_fst hrest

/-- The bridge after each load does not depend on the loads before it. -/
theorem map_bridge_replies :
    (r.replies loads).map (·.2.bridge) = loads.map r.bridge.afterLoad := by
  induction loads generalizing r with
  | nil => rfl
  | cons l loads ih =>
    have hrest := ih (r := (r.next l).2)
    rw [bridge_next] at hrest
    exact congrArg₂ List.cons bridge_next hrest

/-- After each load, the counters tell how many loads there were and how many had a document. -/
theorem counts_replies {before later : List (Option D × Resolver)} {reply : Option D × Resolver}
    (h : r.replies loads = before ++ reply :: later) :
    reply.2.loaded = r.loaded + (before ++ [reply]).countP (·.1.isSome) ∧
      reply.2.loaded + reply.2.failed = r.loaded + r.failed + (before.length + 1) := by
  induction loads generalizing r before with
  | nil => exact absurd h.symm (List.append_ne_nil_of_right_ne_nil _ (List.cons_ne_nil _ _))
  | cons l loads ih =>
    obtain ⟨hloaded, hall⟩ := counts_next (r := r) (l := l)
    -- either the reply is that to the first load, or it is one of the resolver after that load
    cases before with
    | nil =>
      obtain ⟨rfl, -⟩ := List.cons.inj h
      exact ⟨hloaded, hall⟩
    | cons first before =>
      obtain ⟨rfl, hrest⟩ := List.cons.inj h
      obtain ⟨hloaded', hall'⟩ := ih hrest
      rw [List.cons_append, ← List.singleton_append, List.countP_append, List.length_cons]
      omega

theorem service_after : (r.after loads).bridge.service = r.bridge.service := by
  induction loads generalizing r with
  | nil => rfl
  | cons l loads ih => exact ih.trans (by rw [bridge_next]; rfl)

end Resolver

/-- Work that makes loads in a row and returns what they came to. -/
def Bridge.loading (loads : List (Load D)) (b : Bridge) :
    HostM A (Except Panic (List (Option D × Resolver)) × Bridge) := do
  let (replies, r) ← Resolver.callAll Resolver.load { bridge := b } loads
  return (.ok replies, r.bridge)

theorem Bridge.loading_gives {b : Bridge} {loads : List (Load D)} (h : ∀ l ∈ loads, b.Ends l) :
    Gives (Bridge.loading loads b : HostM A _) ((loads.filter b.asks).map Load.uri)
      (.ok (Resolver.replies { bridge := b } loads),
        (Resolver.after { bridge := b } loads).bridge) := by
  have hloads := Resolver.callAll_gives (A := A) (r := { bridge := b }) h
  rw [← List.append_nil (List.map _ _)]
  exact hloads.bind (.pure _)

/-- What a row of loads on a new resolver comes to; each reply is a document, if there is one, with
the resolver after the load. -/
structure Accounts (A : Type) (b : Bridge) (loads : List (Load D))
    (replies : List (Option D × Resolver)) : Prop where
  /-- All loads return. The fetcher is asked once for each load that it is to be asked for. -/
  returns : ∃ last, Gives (Resolver.callAll Resolver.load { bridge := b } loads : HostM A _)
    ((loads.filter b.asks).map Load.uri) (replies, last)
  /-- So they do from the start of the service to its end. -/
  runs : (∀ panic, b.service ≠ .broken panic) → ∀ mode,
    Gives (b.run mode (Bridge.loading loads) : HostM A _) ((loads.filter b.asks).map Load.uri)
      (.returned replies)
  documents : replies.map Prod.fst = loads.map b.document?
  /-- There is a document if the bridge gives bytes and the parser accepts them. -/
  present : ∀ l ∈ loads, ∀ document, b.document? l = some document ↔
    ∃ content, ((b.meet l).fetch l.uri : HostM A _).run.value = .ok (some content, b.afterLoad l) ∧
      l.parse content l.uri = .ok document
  /-- There is none, and always the same none, after a failure of any of five kinds. -/
  absent : ∀ l ∈ loads, b.document? l = none ↔ b.service ≠ .serving ∨
    b.policy.admits l.uri = false ∨ (∃ cause, l.fetcher.fetch l.uri = .fails cause) ∨
    l.fetcher.fetch l.uri = .stalls ∨ ∃ content cause, l.fetcher.fetch l.uri = .bytes content ∧
      l.parse content l.uri = .error cause
  /-- No load changes the bridge for those that follow, but that its fetcher remembers it. -/
  bridge : replies.map (·.2.bridge) = loads.map b.afterLoad
  /-- What the counters are after each load. -/
  counts : ∀ before reply later, replies = before ++ reply :: later →
    reply.2.loaded = (before ++ [reply]).countP (·.1.isSome) ∧
      reply.2.loaded + reply.2.failed = before.length + 1
  /-- A parser is called once on the bytes that the bridge gives for its load, and on nothing
  else. -/
  parses : ∃ last, Tells (Resolver.callAll Resolver.watch { bridge := b } loads)
    (loads.filterMap fun l => (b.bytes? l).map (·, l.uri)) (.ok (replies, last))
  /-- When the bridge gives bytes. -/
  bytes : ∀ l ∈ loads,
    ((b.meet l).fetch l.uri : HostM A _).run.value = .ok (b.bytes? l, b.afterLoad l) ∧
      ∀ content, b.bytes? l = some content ↔ b.service = .serving ∧
        b.policy.admits l.uri = true ∧ l.fetcher.fetch l.uri = .bytes content

/-- **What a row of loads comes to.** -/
theorem resolver_accounts (A : Type) (b : Bridge) (loads : List (Load D))
    (h : ∀ l ∈ loads, b.Ends l) :
    Accounts A b loads (Resolver.replies { bridge := b } loads) where
  returns := ⟨_, Resolver.callAll_gives h⟩
  runs hservice mode := by
    rw [← List.append_nil (List.map _ _)]
    refine (Bridge.loading_gives h).bind ?_
    dsimp only
    rw [Resolver.service_after]
    cases hb : b.service with
    | broken panic => exact absurd hb (hservice panic)
    | serving | closed => cases mode <;> exact .pure _
  documents := Resolver.map_fst_replies
  present l hl document := by
    rw [Bridge.document?_eq_some_iff, (Bridge.fetch_meet (h l hl)).returns]
    simp
  absent l hl := by
    rw [Bridge.document?_eq_none_iff]
    refine or_congr_right' fun hservice => or_congr_right' fun hadmits => ?_
    -- an admitted fetch that somebody serves does not break down
    have hbears := ((h l hl) (not_not.1 hservice)).2 (Bool.not_eq_false _ ▸ hadmits)
    simp [show ¬∃ panic, l.fetcher.fetch l.uri = .panics panic from fun ⟨p, hp⟩ => hbears p hp]
  bridge := Resolver.map_bridge_replies
  counts before reply later heq := by
    simpa using Resolver.counts_replies heq
  parses := ⟨_, Resolver.callAll_tells h⟩
  bytes l hl := ⟨(Bridge.fetch_meet (h l hl)).returns, fun _ => Bridge.bytes?_eq_some_iff⟩

/-- A bridge to the network and to no files. -/
def timedBridge : Bridge where
  fetcher := .ofOutcomes "" fun _ => .stalls
  policy := { Policy.lockedDown with readNetwork := .allow }
  timeoutMs := some 10

/-- A load that only parses single bytes. -/
def sampleLoad (uri : String) (outcome : Fetcher.Outcome) : Load Bytes where
  uri := uri
  kind := .document
  fetcher := .ofOutcomes "" fun _ => outcome
  parse content uri := if content.length = 1 then .ok content else .error (.parse uri)

/-- Loads that fail in all ways between two that do not. -/
def sampleLoads : List (Load Bytes) :=
  [sampleLoad "http://a" (.bytes [1]), sampleLoad "refused.xml" (.bytes [1]),
    sampleLoad "http://b" (.fails (.status "http://b" 404)), sampleLoad "http://c" .stalls,
    sampleLoad "http://d" (.bytes []), sampleLoad "http://e" (.bytes [2])]

theorem sampleLoads_account :
    ∃ replies, Accounts Unit timedBridge sampleLoads replies ∧
      replies.map (fun reply => (reply.1, reply.2.loaded, reply.2.failed)) =
        [(some [1], 1, 0), (none, 1, 1), (none, 1, 2), (none, 1, 3), (none, 1, 4),
          (some [2], 2, 4)] := by
  refine ⟨_, resolver_accounts Unit timedBridge sampleLoads fun l hl _ => ?_, by decide +kernel⟩
  refine ⟨fun _ _ => rfl, fun _ panic hpanic => ?_⟩
  simp only [sampleLoads, List.mem_cons, List.not_mem_nil, or_false] at hl
  rcases hl with rfl | rfl | rfl | rfl | rfl | rfl <;> cases hpanic

end StyleHost
