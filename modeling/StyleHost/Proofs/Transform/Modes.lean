import StyleHost.Collation.Locales
import StyleHost.Proofs.Transform.Conversation
import StyleHost.Result.Plain
import StyleHost.Transform.Processor

/-!
# Blocking and concurrent runs

Whether a run takes place on the thread of its caller or on another one makes no difference to the
engine and to the fetcher: the engine is started with the same request and gets the same answers,
and the fetcher is asked for the same documents. The caller gets the same result as long as nothing
breaks down. A breakdown is the caller's own in a blocking run, and an error of the run in a
concurrent one. If neither the engine nor the fetcher does so by itself, only the collation data can
break down, over the language of a key by which the engine has a selection sorted.

* `Host.Steady` : neither the engine, nor its trees, nor the fetcher break down by themselves, and
  the fetcher has no memory.
* `Host.Agree` : runs of the two modes agree.
* `Host.modes_agree` : all runs do, those of a processor among them.
* `pairHost_parts` : where the two modes part.
-/

namespace StyleHost

open HostM

variable {S X I D T α β : Type}

/-! ### What a breakdown of the work would need -/

/-- A computation that does not break down. -/
def Returns (x : Except Panic α) : Prop := ∃ a, x = .ok a

theorem Returns.pure (a : α) : Returns (pure a : Except Panic α) := ⟨a, rfl⟩

theorem Returns.bind {x : Except Panic α} {f : α → Except Panic β} (hx : Returns x)
    (hf : ∀ a, Returns (f a)) : Returns (x >>= f) := by
  obtain ⟨a, rfl⟩ := hx
  exact hf a

/-- Trees that do not break down. -/
structure ResultTree.PanicFree (T : Type) [ResultTree T] : Prop where
  method? (tree : T) : Returns (ResultTree.method? tree)
  encoding? (tree : T) : Returns (ResultTree.encoding? tree)
  isHtmlDocument (tree : T) : Returns (ResultTree.isHtmlDocument tree)
  metas? (tree : T) : Returns (ResultTree.metas? tree)
  prependMeta (tree : T) (httpEquiv content : String) :
    Returns (ResultTree.prependMeta tree httpEquiv content)
  serialize (tree : T) : Returns (ResultTree.serialize tree)

namespace ResultTree.PanicFree

variable [ResultTree T] (hpanics : PanicFree T) (tree : T)

include hpanics

theorem effectiveMethod : Returns (ResultTree.effectiveMethod tree) := by
  refine (hpanics.method? tree).bind fun method? => ?_
  cases method? with
  | some method => exact .pure _
  | none => exact (hpanics.isHtmlDocument tree).bind fun _ => .pure _

theorem missingDeclaration : Returns (ResultTree.missingDeclaration tree) := by
  refine (hpanics.effectiveMethod tree).bind fun method? => ?_
  split
  · refine (hpanics.encoding? tree).bind fun _ => (hpanics.metas? tree).bind fun metas? => ?_
    cases metas? <;> exact .pure _
  · exact .pure _

theorem written (mediaType : MediaType) : Returns (ResultTree.written mediaType tree) := by
  refine (hpanics.serialize tree).bind fun result => ?_
  cases result <;> exact .pure _

/-- A tree that does not break down is delivered. -/
theorem delivered : Returns (ResultTree.delivered tree) := by
  have hmediaType : Returns (ResultTree.mediaType tree) :=
    (hpanics.effectiveMethod tree).bind fun _ => .pure _
  refine hmediaType.bind fun mediaType => (hpanics.missingDeclaration tree).bind fun content? => ?_
  cases content? with
  | none => exact hpanics.written tree mediaType
  | some content =>
    exact (hpanics.prependMeta tree _ _).bind fun tree => hpanics.written tree mediaType

end ResultTree.PanicFree

namespace Host

variable [ResultTree T]

/-- Neither the engine, nor its trees, nor the fetcher break down by themselves. The fetcher answers
by the URI alone. -/
structure Steady (h : Host S X I D T) : Prop where
  fetcher : h.fetcher.Calm
  forgets : h.fetcher.Forgetful
  engine (state : S) (request : Request) : (h.engine.start state request).PanicFree
  trees : ResultTree.PanicFree T

/-! ### What passes in a run -/

variable {h : Host S X I D T}

/-- What passes after the end of a conversation: a tree is serialized. -/
def afterwards : Close S T → List (Exchange X I D T)
  | .ok (.ok (_, .ok tree)) => (deliver tree).run.exchanges
  | _ => []

theorem exchanges_transform (mode : Mode) (request : Request) (lock : EngineLock S) :
    (h.transform mode request lock).exchanges = (h.work request lock).exchanges := by
  rw [transform, exchanges_bind]
  cases (h.work request lock).run.value with
  | error stalled => exact List.append_nil _
  | ok worked =>
    exact (congrArg _ (settle_quiet mode _ _ _).1).trans (List.append_nil _)

theorem exchanges_workFrom {request : Request} {state : S} {told : List (Exchange X I D T)}
    {ended : Except Stalled (Except Panic (S × Except EngineError T) × Resolver)}
    (hran : Tells (h.conversation state request) told ended) :
    (h.workFrom request state).exchanges =
      .began request :: (told ++ afterwards (ended.map Prod.fst)) := by
  refine congrArg (Exchange.began request :: ·) ?_
  change (h.conversation state request >>= _).exchanges = _
  rw [exchanges_bind, hran.exchanges, hran.ends]
  cases ended with
  | error stalled => rfl
  | ok r =>
    obtain ⟨cause | ⟨next, cause | tree⟩, resolver⟩ := r
    · rfl
    · rfl
    · change told ++ ((deliver tree).run >>= _).exchanges = _
      rw [exchanges_bind, deliver_value]
      exact congrArg (told ++ ·) (List.append_nil _)

/-- **What passes in a run**, and how it ends: the engine gets the request and the answers, and what
becomes of its tree is told to the caller. -/
theorem transform_tells (hcalm : h.fetcher.Calm) (hforgets : h.fetcher.Forgetful) (mode : Mode)
    {request : Request} {state : S}
    {told : List (Exchange X I D T)} {close : Close S T}
    (hconverses : h.Converses (h.engine.start state request) told close) :
    Tells (h.transform mode request (.free state)) (.began request :: (told ++ afterwards close))
      (close.map (outcome mode)) := by
  obtain ⟨_, _, hother, ended, rfl, hran⟩ :=
    converses_run hcalm hforgets (h.engine.start state request) (r := { bridge := h.bridge }) rfl
  -- the conversation of the run is the given one, since there is no other
  obtain ⟨rfl, rfl⟩ := hconverses.unique hother
  constructor
  · rw [exchanges_transform, ← exchanges_workFrom hran]
    rfl
  · rw [transform_value hcalm, conversation, hran.ends]
    cases ended <;> rfl

/-! ### Runs in both modes -/

/-- A run with a request comes to have a selection sorted by a key. -/
def RunSortsBy (h : Host S X I D T) (request : Request) : EngineLock S → SortSpec X → Prop
  | .free state, spec => h.SortsBy (h.engine.start state request) spec
  | .poisoned, _ => False

/-- Runs of the two modes agree, which sort by the keys in `sortsBy`: the same passes between host
and engine, the fetcher is asked for the same documents, and the caller gets the same, unless the
collation data break down over one of the keys. -/
structure Agree (h : Host S X I D T) (sortsBy : SortSpec X → Prop)
    (blocking concurrent : HostM (Exchange X I D T) (Result × EngineLock S)) : Prop where
  exchanges : concurrent.exchanges = blocking.exchanges
  fetches : concurrent.fetches = blocking.fetches
  ends : concurrent.run.value = blocking.run.value ∨
    ∃ spec cause, sortsBy spec ∧ h.sorter.BreaksOver spec cause ∧
      blocking.run.value = .ok (.error cause, .poisoned) ∧
      concurrent.run.value = .ok (.ok (.error .taskPanicked), .poisoned)

/-- The request of a run; the engine is told the options of the configuration. -/
def requestOf (h : Host S X I D T) (source stylesheet : Bytes) (baseUri : String)
    (params : List (String × String)) : Request :=
  ⟨source, stylesheet, baseUri, params, h.config.engineOptions⟩

/-- All that a host does in a run is the same in both modes. -/
structure ModesAgree (h : Host S X I D T) : Prop where
  /-- The engine is started with the request and answered as a conversation goes, which also decides
  how the run ends. -/
  converses (source stylesheet : Bytes) (baseUri : String) (params : List (String × String))
    (state : S) : ∃ told close,
      h.Converses (h.engine.start state (h.requestOf source stylesheet baseUri params)) told close ∧
      ∀ mode, Tells (h.transform mode (h.requestOf source stylesheet baseUri params) (.free state))
        (.began (h.requestOf source stylesheet baseUri params) :: (told ++ afterwards close))
        (close.map (outcome mode))
  runs (source stylesheet : Bytes) (baseUri : String) (params : List (String × String))
    (lock : EngineLock S) : h.Agree
      (h.RunSortsBy (h.requestOf source stylesheet baseUri params) lock)
      (h.transform .blocking (h.requestOf source stylesheet baseUri params) lock)
      (h.transform .concurrent (h.requestOf source stylesheet baseUri params) lock)
  processors (p : Processor) (source : Bytes) (lock : EngineLock S) : h.Agree
      (fun spec => ∃ request, p.request h.config.engineOptions source = .ok request ∧
        h.RunSortsBy request lock spec)
      (p.transform h .blocking source lock) (p.transform h .concurrent source lock)

/-- The result of a run is the same in both modes unless the conversation breaks down. -/
theorem outcome_eq (htrees : ResultTree.PanicFree T) (mode : Mode)
    (ended : S × Except EngineError T) :
    outcome mode (.ok ended) = outcome .blocking (.ok ended) := by
  have hresult : Returns (workAfter (.ok ended)).1 := by
    obtain ⟨next, cause | tree⟩ := ended
    · exact .pure _
    · exact htrees.delivered tree
  obtain ⟨result, hresult⟩ := hresult
  rw [outcome, outcome, hresult]
  rfl

theorem runs_agree (hsteady : h.Steady) (request : Request) (lock : EngineLock S) :
    h.Agree (h.RunSortsBy request lock) (h.transform .blocking request lock)
      (h.transform .concurrent request lock) := by
  refine ⟨by rw [exchanges_transform, exchanges_transform],
    by rw [fetches_transform, fetches_transform], ?_⟩
  cases lock with
  | poisoned => exact .inl rfl
  | free state =>
    obtain ⟨told, close, hconverses, -⟩ := converses_run hsteady.fetcher hsteady.forgets
      (h.engine.start state request) (r := { bridge := h.bridge }) rfl
    have hends (mode : Mode) :=
      (transform_tells hsteady.fetcher hsteady.forgets mode hconverses).ends
    rw [hends, hends]
    -- the mode decides only how a breakdown is reported
    match close, hconverses with
    | .error stalled, _ => exact .inl rfl
    | .ok (.ok ended), _ =>
      exact .inl (congrArg Except.ok (outcome_eq hsteady.trees .concurrent ended))
    | .ok (.error cause), hconverses =>
      obtain ⟨spec, hsorts, hover⟩ := hconverses.breaksOver (hsteady.engine state request) rfl
      exact .inr ⟨spec, cause, hsorts, hover, rfl, rfl⟩

omit [ResultTree T] in
/-- A notice before a run is not seen by the engine or the fetcher, nor by the caller. -/
theorem Agree.note_left {sortsBy : SortSpec X → Prop}
    {blocking concurrent : HostM (Exchange X I D T) (Result × EngineLock S)}
    (hagree : h.Agree sortsBy blocking concurrent) (n : Notice) :
    h.Agree sortsBy (do HostM.note n; blocking) concurrent where
  exchanges := hagree.exchanges
  fetches := hagree.fetches
  ends := hagree.ends

theorem processors_agree (hsteady : h.Steady) (p : Processor) (source : Bytes)
    (lock : EngineLock S) : h.Agree
      (fun spec => ∃ request, p.request h.config.engineOptions source = .ok request ∧
        h.RunSortsBy request lock spec)
      (p.transform h .blocking source lock) (p.transform h .concurrent source lock) := by
  unfold Processor.transform
  cases hrequest : p.request h.config.engineOptions source with
  | error cause => exact ⟨rfl, rfl, .inl rfl⟩
  | ok request =>
    obtain ⟨hexchanges, hfetches, hends⟩ := (runs_agree hsteady request lock).note_left
      (.transformingWith request.params.length)
    refine ⟨hexchanges, hfetches, hends.imp_right ?_⟩
    rintro ⟨spec, cause, hsorts, hover⟩
    exact ⟨spec, cause, ⟨request, rfl, hsorts⟩, hover⟩

/-- **The two modes agree** in all that an engine and a fetcher see of them, and in all results,
unless the collation data break down. -/
theorem modes_agree (hsteady : h.Steady) : h.ModesAgree where
  converses source stylesheet baseUri params state := by
    obtain ⟨told, close, hconverses, -⟩ := converses_run hsteady.fetcher hsteady.forgets
      (h.engine.start state (h.requestOf source stylesheet baseUri params))
      (r := { bridge := h.bridge }) rfl
    exact ⟨told, close, hconverses, fun mode =>
      transform_tells hsteady.fetcher hsteady.forgets mode hconverses⟩
  runs _ _ _ _ lock := runs_agree hsteady _ lock
  processors := processors_agree hsteady

end Host

/-! ### A host of which the modes agree or not, as the key has it -/

theorem PlainTree.panicFree : ResultTree.PanicFree PlainTree where
  method? _ := .pure _
  encoding? _ := .pure _
  isHtmlDocument _ := .pure _
  metas? _ := .pure _
  prependMeta _ _ _ := .pure _
  serialize _ := .pure _

/-- A host whose engine has two numerals sorted by a key, and gives the document that the first one
names as its result. -/
def pairHost (key : SortSpec Unit) : Host Unit Unit String Bytes PlainTree where
  engine := ⟨fun state _ =>
    .sort (fun _ item _ _ => .ok (.text item)) #["2", "1"] [key] fun items =>
      .load (fun content _ => .ok content) (items.getD 0 "") .document fun document =>
        .finish state (.ok { serialized := .ok (document.getD []) })⟩
  fetcher := .ofOutcomes "numerals" fun uri => .bytes (Utf8.encode uri)
  collations := Collation.data

theorem pairHost_steady (key : SortSpec Unit) : (pairHost key).Steady where
  fetcher := Fetcher.calm_ofOutcomes fun _ => nofun
  forgets := Fetcher.forgetful_ofOutcomes _ _
  engine _ _ _ _ := trivial
  trees := PlainTree.panicFree

theorem pairHost_agrees : (pairHost { select := (), dataType := .number }).Steady ∧
    ((pairHost { select := (), dataType := .number }).transform .concurrent
      ⟨[], [], "about:blank", [], {}⟩ (.free ())).run.value =
        .ok (.ok (.ok ⟨Utf8.encode "1", .xml⟩), .free ()) := by
  have hsteady := pairHost_steady { select := (), dataType := .number }
  have hblocking : ((pairHost { select := (), dataType := .number }).transform .blocking
      ⟨[], [], "about:blank", [], {}⟩ (.free ())).run.value =
        .ok (.ok (.ok ⟨Utf8.encode "1", .xml⟩), .free ()) := by decide +kernel
  refine ⟨hsteady, ?_⟩
  obtain hsame | ⟨_, _, _, _, hbroken, _⟩ :=
    ((Host.modes_agree hsteady).runs [] [] "about:blank" [] (.free ())).ends
  · exact hsame.trans hblocking
  · cases hblocking.symm.trans hbroken

/-- A key of a script without a language brings down the collation data. The two modes do not report
it alike. -/
theorem pairHost_parts : (pairHost { select := (), lang := some "und-Cyrl" }).Steady ∧
    ((pairHost { select := (), lang := some "und-Cyrl" }).transform .blocking
      ⟨[], [], "about:blank", [], {}⟩ (.free ())).run.value =
        .ok (.error Collation.noLanguage, .poisoned) ∧
    ((pairHost { select := (), lang := some "und-Cyrl" }).transform .concurrent
      ⟨[], [], "about:blank", [], {}⟩ (.free ())).run.value =
        .ok (.ok (.error .taskPanicked), .poisoned) :=
  ⟨pairHost_steady _, by decide +kernel, by decide +kernel⟩

end StyleHost
