import StyleHost.Proofs.Fetch.Admission
import StyleHost.Result.Plain
import StyleHost.Transform.Load
import StyleHost.Transform.Processor

/-!
# What a host fetches

Whatever an engine asks for, and whichever documents have to be found first, a host asks the fetcher
only for what the policy of its configuration admits. The policy is checked in two places: the
bridge of a run, and each direct fetch on the way to it.

An engine to which every refused load is answered at once, before it comes to the host
(`Interaction.withoutRefused`), fetches the same and ends the same. So a refused load affects
nothing that comes after it.
-/

namespace StyleHost

open HostM

variable {S X I D T A : Type} {p : Policy}

namespace Interaction

/-- The same engine with every load that a policy refuses answered at once: there is no document. -/
def withoutRefused (p : Policy) : Interaction S X I D T → Interaction S X I D T
  | .sort evaluate items specs resume =>
    .sort evaluate items specs fun sorted => (resume sorted).withoutRefused p
  | .load parse uri kind resume =>
    if p.admits uri then .load parse uri kind fun document => (resume document).withoutRefused p
    else (resume none).withoutRefused p
  | .finish state result => .finish state result
  | .panic cause => .panic cause

theorem notes_asks {P : String → Prop} (notices : List Notice) :
    Asks P (forIn notices PUnit.unit fun notice _ => do
      HostM.note notice
      return ForInStep.yield PUnit.unit : HostM A PUnit) fun _ => True := by
  induction notices with
  | nil => exact .pure trivial
  | cons notice notices ih =>
    rw [List.forIn_cons, bind_assoc]
    refine (Asks.note notice).bind fun _ _ => ?_
    rw [pure_bind]
    exact ih

theorem giveSorted_asks {P : String → Prop} (sorted : Sorter.Sorted X I) :
    Asks P (giveSorted sorted : HostM (Exchange X I D T) Unit) fun _ => True := by
  unfold giveSorted
  refine (notes_asks _).bind fun _ _ => ?_
  split
  · exact .exchange _
  · exact .pure trivial

/-- What every request asks for and does to the bridge, a conversation does. -/
theorem run_keeps {P : String → Prop} {J : Bridge → Prop} (sorter : Sorter)
    (i : Interaction S X I D T) {r : Resolver} (hr : J r.bridge)
    (hfetch : ∀ b uri, J b → Asks P (b.fetch uri : HostM (Exchange X I D T) _) fun a => J a.2) :
    Asks P (i.run sorter r) fun a => J a.2.bridge := by
  induction i generalizing r with
  | sort evaluate items specs resume ih =>
    rw [run]
    refine (giveSorted_asks _).bind fun _ _ => ?_
    split
    · exact .pure hr
    · exact ih _ hr
  | load parse uri kind resume ih =>
    rw [run]
    refine (r.resolve_keeps (hfetch _ uri hr) parse kind).bind fun a ha => ?_
    exact (Asks.exchange _).bind fun _ _ => ih _ ha
  | finish state result => exact .pure hr
  | panic cause => exact .pure hr

/-- **Any conversation.** -/
theorem run_asks (sorter : Sorter) (i : Interaction S X I D T) {r : Resolver}
    (hr : r.bridge.policy = p) : Asks (p.admits · = true) (i.run sorter r) fun _ => True := by
  refine (run_keeps (J := (·.policy = p)) sorter i hr fun b uri hb => ?_).imp fun _ _ => trivial
  subst hb
  exact b.fetch_asks uri

/-- **Refused loads do not affect the rest of a conversation.** Only the counters of the resolver
tell that they were made. -/
theorem run_alike (sorter : Sorter) (i : Interaction S X I D T) {r r' : Resolver}
    (hr : r.bridge.policy = p) (hb : r.bridge = r'.bridge) :
    Alike (fun a a' => a.1 = a'.1 ∧ a.2.bridge = a'.2.bridge) (i.run sorter r)
      ((i.withoutRefused p).run sorter r') := by
  induction i generalizing r r' with
  | sort evaluate items specs resume ih =>
    rw [withoutRefused, run, run]
    refine .bind_same fun _ => ?_
    split
    · exact .pure ⟨rfl, hb⟩
    · exact ih _ hr hb
  | load parse uri kind resume ih =>
    rw [withoutRefused]
    cases h : p.admits uri with
    | true =>
      rw [if_pos rfl, run, run]
      refine (r.resolve_alike hr hb parse uri kind).bind ?_
      rintro ⟨document, r₁⟩ ⟨_, r₂⟩ ⟨rfl, hb₁, hr₁⟩
      exact .bind_same fun _ => ih _ hr₁ hb₁
    | false =>
      -- here the engine on the left makes a load that the one on the right does not
      rw [if_neg Bool.false_ne_true, run]
      subst hr
      obtain ⟨hv, he⟩ := r.resolve_of_refused (A := Exchange X I D T) h parse kind
      exact .bind_left hv he (.bind_left rfl rfl (ih _ rfl hb))
  | finish state result => exact .pure ⟨rfl, hb⟩
  | panic cause => exact .pure ⟨rfl, hb⟩

end Interaction

namespace LoadM

variable {P : String → Prop} {α β : Type}

theorem asks_bind {x : LoadM A α} {f : α → LoadM A β} (hx : Asks P x.run.run fun _ => True)
    (hf : ∀ a, Asks P (f a).run.run fun _ => True) :
    Asks P (x >>= f).run.run fun _ => True := by
  rw [ExceptT.run_bind]
  refine WorkM.asks_bind hx fun r => ?_
  cases r with
  | ok a => exact hf a
  | error e => exact .pure trivial

theorem ofExcept_ok (a : α) : (ofExcept (.ok a) : LoadM A α) = pure a := rfl

theorem ofUrl_ok (url : Url) : (ofUrl (.ok url) : LoadM A Url) = pure url := rfl

theorem survive_ok (a : α) : (survive (.ok a) : LoadM A α) = pure a := rfl

theorem asks_lift {x : HostM A α} (hx : Asks P x fun _ => True) :
    Asks P (ExceptT.lift (ExceptT.lift x) : LoadM A α).run.run fun _ => True := by
  have hwork : Asks P (ExceptT.lift x : WorkM A α).run fun _ => True := hx.map
  exact WorkM.asks_bind hwork fun _ => .pure trivial

theorem asks_survive (x : Except Panic α) :
    Asks P (survive x : LoadM A α).run.run fun _ => True := by
  cases x <;> exact .pure trivial

end LoadM

namespace Host

/-! ### Runs -/

theorem declareEncoding_asks {P : String → Prop} [ResultTree T] (tree : T) :
    Asks P (ResultTree.declareEncoding tree : WorkM A _).run fun _ => True := by
  unfold ResultTree.declareEncoding
  refine WorkM.asks_bind (.pure trivial) fun content? => ?_
  cases content? with
  | none => exact .pure trivial
  | some content =>
    refine WorkM.asks_bind (Asks.note _).map fun _ => ?_
    exact WorkM.asks_bind (.pure trivial) fun _ => .pure trivial

theorem deliver_asks {P : String → Prop} [ResultTree T] (tree : T) :
    Asks P (deliver tree : WorkM (Exchange X I D T) _).run fun _ => True := by
  unfold deliver
  refine WorkM.asks_bind (.pure trivial) fun _ => ?_
  refine WorkM.asks_bind (declareEncoding_asks tree) fun r => ?_
  refine WorkM.asks_bind (Asks.exchange _).map fun _ => ?_
  refine WorkM.asks_bind (.pure trivial) fun result => ?_
  cases result <;> exact .pure trivial

theorem settle_asks {P : String → Prop} {α : Type} (mode : Mode) (service : Service)
    (outcome : Except Panic α) :
    Asks P (Bridge.settle mode service outcome : HostM A _) fun _ => True := by
  unfold Bridge.settle
  split
  · exact .pure trivial
  · exact (Asks.note _).bind fun _ _ => .pure trivial
  · exact .pure trivial
  · exact .pure trivial

variable [ResultTree T] (h : Host S X I D T)

theorem workFrom_asks (request : Request) (state : S) :
    Asks (h.config.security.admits · = true) (h.workFrom request state) fun _ => True := by
  unfold workFrom
  refine (Asks.exchange _).bind fun _ _ => ?_
  have hbridge : ({ bridge := h.bridge } : Resolver).bridge.policy = h.config.security := rfl
  refine (Interaction.run_asks h.sorter _ hbridge).bind ?_
  rintro ⟨cause | ⟨state, cause | tree⟩, resolver⟩ _
  · exact .pure trivial
  · exact .pure trivial
  · exact (deliver_asks tree).bind fun _ _ => .pure trivial

/-- **Any run.** -/
theorem transform_asks (mode : Mode) (request : Request) (lock : EngineLock S) :
    Asks (h.config.security.admits · = true) (h.transform mode request lock) fun _ => True := by
  unfold transform work
  refine Asks.bind (R := fun _ => True) ?_ fun worked _ =>
    (settle_asks _ _ _).bind fun _ _ => .pure trivial
  refine (Asks.note _).bind fun _ _ => ?_
  cases lock with
  | poisoned => exact .pure trivial
  | free state => exact h.workFrom_asks request state

/-- The same host with an engine to which refused loads are answered at once. -/
def withoutRefused (h : Host S X I D T) : Host S X I D T :=
  { h with engine :=
      ⟨fun state request => (h.engine.start state request).withoutRefused h.config.security⟩ }

theorem workFrom_alike (request : Request) (state : S) :
    Alike (· = ·) (h.workFrom request state) (h.withoutRefused.workFrom request state) := by
  unfold workFrom
  refine .bind_same fun _ => ?_
  have hbridge : ({ bridge := h.bridge } : Resolver).bridge.policy = h.config.security := rfl
  refine (Interaction.run_alike h.sorter _ hbridge rfl).bind ?_
  rintro ⟨cause | ⟨state, cause | tree⟩, resolver⟩ ⟨_, resolver'⟩ ⟨rfl, hb⟩
  · exact .pure (by rw [hb])
  · exact .pure (by rw [hb])
  · exact .bind_same fun _ => .pure (by rw [hb])

/-- **Refused loads do not affect a run.** -/
theorem transform_alike (mode : Mode) (request : Request) (lock : EngineLock S) :
    Alike (· = ·) (h.transform mode request lock)
      (h.withoutRefused.transform mode request lock) := by
  unfold transform
  refine Alike.bind (R := (· = ·)) ?_ ?_
  · unfold work
    refine .bind_same fun _ => ?_
    cases lock with
    | poisoned => exact .pure rfl
    | free state => exact h.workFrom_alike request state
  · rintro worked _ rfl
    exact .bind_same fun _ => .pure rfl

theorem processor_asks (p : Processor) (mode : Mode) (source : Bytes) (lock : EngineLock S) :
    Asks (h.config.security.admits · = true) (p.transform h mode source lock) fun _ => True := by
  unfold Processor.transform
  split
  · exact .pure trivial
  · dsimp only
    split
    · exact (Asks.note _).bind fun _ _ => h.transform_asks _ _ _
    · exact h.transform_asks _ _ _

theorem processor_alike (p : Processor) (mode : Mode) (source : Bytes) (lock : EngineLock S) :
    Alike (· = ·) (p.transform h mode source lock)
      (p.transform h.withoutRefused mode source lock) := by
  unfold Processor.transform
  have hoptions : h.withoutRefused.config.engineOptions = h.config.engineOptions := rfl
  rw [hoptions]
  split
  · exact .pure rfl
  · dsimp only
    split
    · exact .bind_same fun _ => h.transform_alike _ _ _
    · exact h.transform_alike _ _ _

/-! ### Loading -/

omit [ResultTree T]

/-- **One direct fetch.** -/
theorem fetchDirect_asks (uri : String) : Asks (h.config.security.admits · = true)
    (h.fetchDirect uri : LoadM A _).run.run fun _ => True := by
  unfold fetchDirect
  split
  case isTrue hu =>
    refine LoadM.asks_bind (LoadM.asks_lift (.fetched hu)) fun _ => ?_
    split
    · exact .pure trivial
    · exact .pure trivial
    · exact LoadM.asks_lift .throw
    · exact .pure trivial
  case isFalse hu => exact .pure trivial

/-- A refused direct fetch does nothing but fail. -/
theorem fetchDirect_of_refused {uri : String} (hu : h.config.security.admits uri = false) :
    (h.fetchDirect uri : LoadM A _) = throw (.fetch (.forbidden uri)) := by
  rw [fetchDirect, if_neg (by rw [hu]; exact Bool.false_ne_true)]

theorem fetchDirect_of_bytes {uri : String} {content : Bytes}
    (hu : h.config.security.admits uri = true) (hf : h.fetcher.fetch uri = .bytes content) :
    (h.fetchDirect uri : LoadM A _) =
      ExceptT.lift (ExceptT.lift (HostM.emit (.fetched uri))) >>= fun _ => pure content := by
  rw [fetchDirect, if_pos hu, hf]

/-- A document whose stylesheet is refused makes no request. -/
theorem requestFor_of_refused {document : Bytes} {url target : Url} {href : String}
    (hs : stylesheetOf document = .ok href) (hj : url.join href = .ok (.ok target))
    (ht : h.config.security.admits target.toString = false) :
    (h.requestFor document url : LoadM A _) =
      LoadM.note (.applying target.toString url.toString) >>= fun _ =>
        throw (.fetch (.forbidden target.toString)) := by
  rw [requestFor, findStylesheet, hs, LoadM.ofExcept_ok, pure_bind, hj, LoadM.survive_ok,
    pure_bind, LoadM.ofUrl_ok, pure_bind]
  dsimp only
  rw [h.fetchDirect_of_refused ht]
  rfl

theorem requestFor_asks (document : Bytes) (url : Url) :
    Asks (h.config.security.admits · = true) (h.requestFor document url : LoadM A _).run.run
      fun _ => True := by
  unfold requestFor findStylesheet
  refine LoadM.asks_bind ?_ fun _ => .pure trivial
  refine LoadM.asks_bind (.pure trivial) fun href => ?_
  refine LoadM.asks_bind (LoadM.asks_survive _) fun target => ?_
  refine LoadM.asks_bind (.pure trivial) fun target => ?_
  refine LoadM.asks_bind (LoadM.asks_lift (.note _)) fun _ => ?_
  refine LoadM.asks_bind (h.fetchDirect_asks _) fun _ => ?_
  exact LoadM.asks_bind (LoadM.asks_lift (.note _)) fun _ => .pure trivial

theorem documentRequest_asks (document : Bytes) (url : String) :
    Asks (h.config.security.admits · = true) (h.documentRequest document url : LoadM A _).run.run
      fun _ => True :=
  LoadM.asks_bind (.pure trivial) fun url => h.requestFor_asks document url

theorem urlRequest_asks (url : String) :
    Asks (h.config.security.admits · = true) (h.urlRequest url : LoadM A _).run.run
      fun _ => True :=
  LoadM.asks_bind (.pure trivial) fun _ =>
    LoadM.asks_bind (h.fetchDirect_asks _) fun document => (h.after _).requestFor_asks document _

variable [ResultTree T] {stages : LoadM (Exchange X I D T) Request}

theorem transformWith_asks
    (hstages : Asks (h.config.security.admits · = true) stages.run.run fun _ => True)
    (lock : EngineLock S) :
    Asks (h.config.security.admits · = true) (h.transformWith stages lock) fun _ => True := by
  unfold transformWith
  refine hstages.bind ?_
  rintro (cause | cause | request) _
  · exact .pure trivial
  · exact .pure trivial
  · exact (h.after _).transform_asks _ request lock

theorem transformWith_alike (lock : EngineLock S) :
    Alike (· = ·) (h.transformWith stages lock) (h.withoutRefused.transformWith stages lock) := by
  unfold transformWith
  refine .bind_same ?_
  rintro (cause | cause | request)
  · exact .pure rfl
  · exact .pure rfl
  · exact (h.after _).transform_alike _ request lock

/-- A document whose own URL is refused is not fetched. -/
theorem loadUrl_of_refused {text : String} {url : Url} (hu : Url.parse text = .ok url)
    (hr : h.config.security.admits url.toString = false) (lock : EngineLock S) :
    h.loadUrl text lock = pure (.ok (.error (.fetch (.forbidden url.toString))), lock) := by
  rw [loadUrl, urlRequest, hu, LoadM.ofUrl_ok, pure_bind, h.fetchDirect_of_refused hr]
  rfl

/-- A document whose stylesheet is refused fails, without another fetch. -/
theorem loadDocument_of_refused {document : Bytes} {text href : String} {url target : Url}
    (hu : Url.parse text = .ok url) (hs : stylesheetOf document = .ok href)
    (hj : url.join href = .ok (.ok target))
    (ht : h.config.security.admits target.toString = false) (lock : EngineLock S) :
    h.loadDocument document text lock =
      HostM.note (.applying target.toString url.toString) >>= fun _ =>
        pure (.ok (.error (.fetch (.forbidden target.toString))), lock) := by
  rw [loadDocument, documentRequest, hu, LoadM.ofUrl_ok, pure_bind,
    h.requestFor_of_refused hs hj ht]
  rfl

theorem loadUrl_of_refused_stylesheet {document : Bytes} {text href : String} {url target : Url}
    (hu : Url.parse text = .ok url) (ha : h.config.security.admits url.toString = true)
    (hf : h.fetcher.fetch url.toString = .bytes document)
    (hs : stylesheetOf document = .ok href) (hj : url.join href = .ok (.ok target))
    (ht : h.config.security.admits target.toString = false) (lock : EngineLock S) :
    h.loadUrl text lock = HostM.emit (.fetched url.toString) >>= fun _ =>
      HostM.note (.applying target.toString url.toString) >>= fun _ =>
        pure (.ok (.error (.fetch (.forbidden target.toString))), lock) := by
  rw [loadUrl, urlRequest, hu, LoadM.ofUrl_ok, pure_bind, h.fetchDirect_of_bytes ha hf,
    bind_assoc]
  simp only [pure_bind, (h.after _).requestFor_of_refused hs hj ht]
  rfl

end Host

/-! ### All ways to the fetcher -/

/-- What the policy of a bridge means for any requests made through it. -/
structure Bridge.Guarded (A : Type) (b : Bridge) : Prop where
  admitted : ∀ uris, ∀ uri ∈ (b.fetchAll uris : HostM A _).fetches, b.policy.admits uri = true
  /-- A refused request is answered with nothing, without a fetch, and does not change the
  bridge. -/
  refused : ∀ uri, b.policy.admits uri = false →
    (b.fetch uri : HostM A _).run.value = .ok (none, b) ∧ (b.fetch uri : HostM A _).fetches = []
  /-- Without the refused requests, the others get the same replies from the same fetches. -/
  unaffected : ∀ uris,
    (b.fetchAll uris : HostM A _).run.value =
        (b.fetchAll (uris.filter b.policy.admits) : HostM A _).run.value.map
          (fun r => (Bridge.spread b.policy uris r.1, r.2)) ∧
      (b.fetchAll uris : HostM A _).fetches =
        (b.fetchAll (uris.filter b.policy.admits) : HostM A _).fetches

/-- What a policy means for a bridge that several callers share. -/
structure Interleaving.Guarded (policy : Policy) (timed : Bool) : Prop where
  admitted : ∀ s, Reachable policy timed s → ∀ t, .fetched t ∈ s.history →
    policy.admits t.uri = true
  /-- A refused request returns at once, and nothing but the history tells that it was made. -/
  refused : ∀ s c uri, s.callers c = .idle → policy.admits uri = false →
    next? policy timed s (.ask c uri) = some (s.record (.returned c uri none none))

/-- A computation asks the fetcher only for what a policy admits, and ends just as another one. -/
structure HostM.GuardedAs {α : Type} (p : Policy) (x y : HostM A α) : Prop where
  admitted : ∀ uri ∈ x.fetches, p.admits uri = true
  fetches_eq : x.fetches = y.fetches
  value_eq : x.run.value = y.run.value

/-- What the policy of a configuration means for the runs of a host, whatever the engine does. -/
structure Host.Guarded [ResultTree T] (h : Host S X I D T) : Prop where
  transform : ∀ mode request lock, GuardedAs h.config.security (h.transform mode request lock)
    (h.withoutRefused.transform mode request lock)
  loadDocument : ∀ document text lock, GuardedAs h.config.security
    (h.loadDocument document text lock) (h.withoutRefused.loadDocument document text lock)
  loadUrl : ∀ text lock, GuardedAs h.config.security (h.loadUrl text lock)
    (h.withoutRefused.loadUrl text lock)
  processor : ∀ (p : Processor) mode source lock, GuardedAs h.config.security
    (p.transform h mode source lock) (p.transform h.withoutRefused mode source lock)
  /-- A document whose own URL is refused is not fetched. -/
  documentRefused : ∀ text url lock, Url.parse text = .ok url →
    h.config.security.admits url.toString = false →
    (h.loadUrl text lock).run.value =
        .ok (.ok (.error (.fetch (.forbidden url.toString))), lock) ∧
      (h.loadUrl text lock).fetches = []
  /-- A stylesheet whose URL is refused is not fetched, and the engine is not started. -/
  stylesheetRefused : ∀ document text url href target lock, Url.parse text = .ok url →
    stylesheetOf document = .ok href → url.join href = .ok (.ok target) →
    h.config.security.admits target.toString = false →
    ((h.loadDocument document text lock).run.value =
        .ok (.ok (.error (.fetch (.forbidden target.toString))), lock) ∧
      (h.loadDocument document text lock).fetches = []) ∧
    (h.config.security.admits url.toString = true →
      h.fetcher.fetch url.toString = .bytes document →
      (h.loadUrl text lock).run.value =
          .ok (.ok (.error (.fetch (.forbidden target.toString))), lock) ∧
        (h.loadUrl text lock).fetches = [url.toString])

theorem HostM.guardedAs {α : Type} {x y : HostM A α}
    (hx : Asks (p.admits · = true) x fun _ => True) (hxy : Alike (· = ·) x y) :
    GuardedAs p x y where
  admitted := hx.fetches
  fetches_eq := hxy.fetches
  value_eq := by
    have hvalue := hxy.value_eq (f := id)
    rw [hvalue]
    cases y.run.value <;> rfl

/-- **Nothing that a policy refuses reaches the fetcher**: not through a bridge, not through one
that several callers share, and not through any run of a host. What is refused is answered with
nothing, or ends the loading; what comes after it fares as if it had never been asked for. -/
theorem all_guarded [ResultTree T] :
    (∀ b : Bridge, b.Guarded A) ∧ (∀ policy timed, Interleaving.Guarded policy timed) ∧
      ∀ h : Host S X I D T, h.Guarded := by
  refine ⟨fun b => ?_, fun policy timed => ?_, fun h => ?_⟩
  · refine ⟨fun uris => (b.fetchAll_asks uris rfl).fetches, fun uri hu => ?_, fun uris => ?_⟩
    · rw [Bridge.fetch_of_refused hu]
      exact ⟨rfl, rfl⟩
    · have halike := b.fetchAll_alike (A := A) uris rfl
      exact ⟨halike.value_eq, halike.fetches⟩
  · refine ⟨fun s hs => hs.admitted.fetched, fun s c uri hc hu => ?_⟩
    rw [Interleaving.next?, hc]
    simp only [Interleaving.State.ask, hu, Bool.false_eq_true, if_false]
  · constructor
    · intro mode request lock
      exact guardedAs (h.transform_asks mode request lock) (h.transform_alike mode request lock)
    · intro document text lock
      have hstages := h.documentRequest_asks (A := Exchange X I D T) document text
      exact guardedAs (h.transformWith_asks hstages lock) (h.transformWith_alike lock)
    · intro text lock
      have hstages := h.urlRequest_asks (A := Exchange X I D T) text
      exact guardedAs (h.transformWith_asks hstages lock) (h.transformWith_alike lock)
    · intro p mode source lock
      exact guardedAs (h.processor_asks p mode source lock) (h.processor_alike p mode source lock)
    · intro text url lock hu hr
      rw [h.loadUrl_of_refused hu hr]
      exact ⟨rfl, rfl⟩
    · intro document text url href target lock hu hs hj ht
      constructor
      · rw [h.loadDocument_of_refused hu hs hj ht]
        exact ⟨rfl, rfl⟩
      · intro ha hf
        rw [h.loadUrl_of_refused_stylesheet hu ha hf hs hj ht]
        exact ⟨rfl, rfl⟩

/-- A host that may read nothing. -/
def lockedHost : Host Unit Unit Unit Unit PlainTree where
  engine := ⟨fun state _ => .finish state (.ok {})⟩
  fetcher := .ofOutcomes "any" fun _ => .bytes []
  collations _ _ := .ok none
  config := { security := .lockedDown }

theorem lockedHost_refuses : (lockedHost.loadUrl "mem:a" (.free ())).run.value =
      .ok (.ok (.error (.fetch (.forbidden "mem:a"))), .free ()) ∧
    (lockedHost.loadUrl "mem:a" (.free ())).fetches = [] := by
  have hu : Url.parse "mem:a" = .ok { scheme := "mem", path := .flat "a" } := rfl
  exact ((all_guarded (A := Unit)).2.2 lockedHost).documentRefused _ _ _ hu (by decide)

end StyleHost
