import StyleHost.Proofs.Transform.Admission
import StyleHost.Proofs.Transform.Load

/-!
# The stages of loading

A document is loaded in stages: its URL is read, the document is fetched, its stylesheet is looked
for, the URL of the stylesheet is made, the stylesheet is fetched, and then there is one run. The
stages are given here as rules, apart from the computation that goes through them: each rule says
what the fetcher is asked for, and whether loading goes on or why it comes to a halt.

* `Halt` : the ways in which a stage brings loading to a halt.
* `Host.FetchStage`, `Host.SheetStages`, `Host.DocumentStages`, `Host.UrlStages` : the rules.
* `Host.Concludes` : how loading ends, given how its stages do. After a halt there is nothing more;
  otherwise the stages are followed by the run.
* `Host.Staged` : loading goes through its stages. There is one way to do so, for every document and
  every URL.
-/

namespace StyleHost

open HostM

variable {S X I D T A α β : Type}

/-- Why loading comes to a halt at a stage. -/
inductive Halt where
  | fails (cause : TransformError)
  | breaksDown (panic : Panic)
  /-- The stage never comes to an end. -/
  | stalls (uri : String)

namespace Halt

/-- How stages end. -/
def outcome : Except Halt α → Except Stalled (Except Panic (Except TransformError α))
  | .ok a => .ok (.ok (.ok a))
  | .error (.fails cause) => .ok (.ok (.error cause))
  | .error (.breaksDown panic) => .ok (.error panic)
  | .error (.stalls uri) => .error ⟨uri⟩

/-- How loading ends that comes to a halt. -/
def result (lock : EngineLock S) :
    Halt → Except Stalled (Except Panic (Except TransformError Output) × EngineLock S)
  | fails cause => .ok (.ok (.error cause), lock)
  | breaksDown panic => .ok (.error panic, lock)
  | stalls uri => .error ⟨uri⟩

theorem outcome_injective : Function.Injective (outcome : Except Halt α → _) := by
  rintro ((_ | _ | _) | _) ((_ | _ | _) | _) h <;> simp_all [outcome]

end Halt

namespace LoadM

variable {x : LoadM A α} {f : α → LoadM A β} {us vs : List String} {a : α} {halt : Halt}
  {r : Except Halt β}

/-- The stages ask the fetcher for `uris` and the engine for nothing, and they end with `r`. -/
structure Ends (x : LoadM A α) (uris : List String) (r : Except Halt α) : Prop where
  fetches : HostM.fetches x.run.run = uris
  exchanges : HostM.exchanges x.run.run = []
  returns : x.run.run.run.value = Halt.outcome r

/-- Stages one after the other. -/
theorem run_bind (x : LoadM A α) (f : α → LoadM A β) :
    (x >>= f).run.run = x.run.run >>= fun
      | .ok (.ok a) => (f a).run.run
      | .ok (.error cause) => pure (.ok (.error cause))
      | .error panic => pure (.error panic) := by
  rw [ExceptT.run_bind, ExceptT.run_bind]
  refine bind_congr fun ended => ?_
  rcases ended with panic | cause | a <;> rfl

theorem Ends.pure (a : α) : Ends (pure a : LoadM A α) [] (.ok a) := ⟨rfl, rfl, rfl⟩

theorem Ends.note (n : Notice) : Ends (LoadM.note n : LoadM A Unit) [] (.ok ()) := ⟨rfl, rfl, rfl⟩

theorem Ends.fetched (uri : String) :
    Ends (ExceptT.lift (ExceptT.lift (emit (.fetched uri))) : LoadM A Unit) [uri] (.ok ()) :=
  ⟨rfl, rfl, rfl⟩

theorem Ends.throw (cause : TransformError) :
    Ends (throw cause : LoadM A α) [] (.error (.fails cause)) := ⟨rfl, rfl, rfl⟩

theorem Ends.breakDown (panic : Panic) :
    Ends (survive (.error panic) : LoadM A α) [] (.error (.breaksDown panic)) := ⟨rfl, rfl, rfl⟩

theorem Ends.stall (uri : String) : Ends (LoadM.stall uri : LoadM A α) [] (.error (.stalls uri)) :=
  ⟨rfl, rfl, rfl⟩

/-- A stage that goes on. -/
theorem Ends.bind (hx : Ends x us (.ok a)) (hf : Ends (f a) vs r) :
    Ends (x >>= f) (us ++ vs) r := by
  constructor
  · rw [run_bind, fetches_bind, hx.fetches, hx.returns]
    exact congrArg (us ++ ·) hf.fetches
  · rw [run_bind, exchanges_bind, hx.exchanges, hx.returns]
    exact hf.exchanges
  · rw [run_bind, value_bind, hx.returns]
    exact hf.returns

/-- A stage that comes to a halt. -/
theorem Ends.bind_halt (hx : Ends x us (.error halt)) : Ends (x >>= f) us (.error halt) := by
  -- whatever the halt is, `f` is not reached
  constructor
  · rw [run_bind, fetches_bind, hx.fetches, hx.returns]
    cases halt <;> exact List.append_nil us
  · rw [run_bind, exchanges_bind, hx.exchanges, hx.returns]
    cases halt <;> rfl
  · rw [run_bind, value_bind, hx.returns]
    cases halt <;> rfl

/-- Stages end in one way. -/
theorem Ends.unique {r r' : Except Halt α} (hx : Ends x us r) (hx' : Ends x vs r') :
    us = vs ∧ r = r' :=
  ⟨hx.fetches.symm.trans hx'.fetches, Halt.outcome_injective (hx.returns.symm.trans hx'.returns)⟩

end LoadM

namespace Host

/-! ### The rules -/

/-- The fetch of the document at a URI, under the policy. -/
inductive FetchStage (h : Host S X I D T) (uri : String) :
    List String → Except Halt Bytes → Prop
  | refused (hpolicy : h.config.security.admits uri = false) :
    FetchStage h uri [] (.error (.fails (.fetch (.forbidden uri))))
  | failed {cause : FetchError} (hpolicy : h.config.security.admits uri = true)
    (hfetch : h.fetcher.fetch uri = .fails cause) :
    FetchStage h uri [uri] (.error (.fails (.fetch cause)))
  | brokeDown {panic : Panic} (hpolicy : h.config.security.admits uri = true)
    (hfetch : h.fetcher.fetch uri = .panics panic) :
    FetchStage h uri [uri] (.error (.breaksDown panic))
  | stalled (hpolicy : h.config.security.admits uri = true)
    (hfetch : h.fetcher.fetch uri = .stalls) : FetchStage h uri [uri] (.error (.stalls uri))
  | fetched {content : Bytes} (hpolicy : h.config.security.admits uri = true)
    (hfetch : h.fetcher.fetch uri = .bytes content) : FetchStage h uri [uri] (.ok content)

/-- The stages from a document at a URL to the request that is made with its stylesheet. -/
inductive SheetStages (h : Host S X I D T) (document : Bytes) (url : Url) :
    List String → Except Halt Request → Prop
  | unreadable {fault : Xml.Fault} (hfind : Stylesheet.find document = .error fault) :
    SheetStages h document url [] (.error (.fails (.sourceParse fault.message)))
  | noStylesheet (hfind : Stylesheet.find document = .ok none) :
    SheetStages h document url [] (.error (.fails .noStylesheet))
  | badReference {href : String} {cause : UrlError}
    (hfind : Stylesheet.find document = .ok (some href))
    (hjoin : url.join href = .ok (.error cause)) :
    SheetStages h document url [] (.error (.fails (.invalidUrl cause)))
  | aboveDrive {href : String} {panic : Panic}
    (hfind : Stylesheet.find document = .ok (some href)) (hjoin : url.join href = .error panic) :
    SheetStages h document url [] (.error (.breaksDown panic))
  | notFetched {href : String} {target : Url} {uris : List String} {halt : Halt}
    (hfind : Stylesheet.find document = .ok (some href)) (hjoin : url.join href = .ok (.ok target))
    (hfetch : h.FetchStage target.toString uris (.error halt)) :
    SheetStages h document url uris (.error halt)
  | ready {href : String} {target : Url} {uris : List String} {stylesheet : Bytes}
    (hfind : Stylesheet.find document = .ok (some href)) (hjoin : url.join href = .ok (.ok target))
    (hfetch : h.FetchStage target.toString uris (.ok stylesheet)) :
    SheetStages h document url uris
      (.ok ⟨document, stylesheet, target.toString, [], h.config.engineOptions⟩)

/-- The stages for a document at hand, given the text of its URL. -/
inductive DocumentStages (h : Host S X I D T) (document : Bytes) (text : String) :
    List String → Except Halt Request → Prop
  | badUrl {cause : UrlError} (hurl : Url.parse text = .error cause) :
    DocumentStages h document text [] (.error (.fails (.invalidUrl cause)))
  | sheet {url : Url} {uris : List String} {r : Except Halt Request}
    (hurl : Url.parse text = .ok url) (hsheet : h.SheetStages document url uris r) :
    DocumentStages h document text uris r

/-- The stages for a document that has to be fetched: the same ones, after its fetch. The fetcher
remembers it, so even a document that names itself need not get the same bytes again. -/
inductive UrlStages (h : Host S X I D T) (text : String) :
    List String → Except Halt Request → Prop
  | badUrl {cause : UrlError} (hurl : Url.parse text = .error cause) :
    UrlStages h text [] (.error (.fails (.invalidUrl cause)))
  | notFetched {url : Url} {uris : List String} {halt : Halt} (hurl : Url.parse text = .ok url)
    (hfetch : h.FetchStage url.toString uris (.error halt)) : UrlStages h text uris (.error halt)
  | sheet {url : Url} {before uris : List String} {document : Bytes} {r : Except Halt Request}
    (hurl : Url.parse text = .ok url) (hfetch : h.FetchStage url.toString before (.ok document))
    (hsheet : (h.after before).SheetStages document url uris r) :
    UrlStages h text (before ++ uris) r

variable {h : Host S X I D T} {uri text : String} {document : Bytes} {url : Url}
  {uris : List String} {r : Except Halt Request}

/-! ### There are stages for everything -/

theorem exists_fetchStage (h : Host S X I D T) (uri : String) :
    ∃ uris r, h.FetchStage uri uris r := by
  cases hpolicy : h.config.security.admits uri with
  | false => exact ⟨_, _, .refused hpolicy⟩
  | true =>
    cases hfetch : h.fetcher.fetch uri with
    | bytes content => exact ⟨_, _, .fetched hpolicy hfetch⟩
    | fails cause => exact ⟨_, _, .failed hpolicy hfetch⟩
    | stalls => exact ⟨_, _, .stalled hpolicy hfetch⟩
    | panics panic => exact ⟨_, _, .brokeDown hpolicy hfetch⟩

theorem exists_sheetStages (h : Host S X I D T) (document : Bytes) (url : Url) :
    ∃ uris r, h.SheetStages document url uris r := by
  rcases hfind : Stylesheet.find document with fault | _ | href
  · exact ⟨_, _, .unreadable hfind⟩
  · exact ⟨_, _, .noStylesheet hfind⟩
  rcases hjoin : url.join href with panic | cause | target
  · exact ⟨_, _, .aboveDrive hfind hjoin⟩
  · exact ⟨_, _, .badReference hfind hjoin⟩
  obtain ⟨uris, halt | stylesheet, hfetch⟩ := h.exists_fetchStage target.toString
  · exact ⟨_, _, .notFetched hfind hjoin hfetch⟩
  · exact ⟨_, _, .ready hfind hjoin hfetch⟩

theorem exists_documentStages (h : Host S X I D T) (document : Bytes) (text : String) :
    ∃ uris r, h.DocumentStages document text uris r := by
  cases hurl : Url.parse text with
  | error cause => exact ⟨_, _, .badUrl hurl⟩
  | ok url =>
    obtain ⟨_, _, hsheet⟩ := h.exists_sheetStages document url
    exact ⟨_, _, .sheet hurl hsheet⟩

theorem exists_urlStages (h : Host S X I D T) (text : String) :
    ∃ uris r, h.UrlStages text uris r := by
  cases hurl : Url.parse text with
  | error cause => exact ⟨_, _, .badUrl hurl⟩
  | ok url =>
    obtain ⟨before, halt | document, hfetch⟩ := h.exists_fetchStage url.toString
    · exact ⟨_, _, .notFetched hurl hfetch⟩
    · obtain ⟨_, _, hsheet⟩ := (h.after before).exists_sheetStages document url
      exact ⟨_, _, .sheet hurl hfetch hsheet⟩

/-! ### Loading goes through its stages -/

theorem FetchStage.ends {r : Except Halt Bytes} (hstage : h.FetchStage uri uris r) :
    (h.fetchDirect uri : LoadM A Bytes).Ends uris r := by
  cases hstage with
  | refused hpolicy =>
    rw [h.fetchDirect_of_refused hpolicy]
    exact .throw _
  | failed hpolicy hfetch =>
    rw [fetchDirect, if_pos hpolicy, hfetch]
    exact (LoadM.Ends.fetched uri).bind (.throw _)
  | brokeDown hpolicy hfetch =>
    rw [fetchDirect, if_pos hpolicy, hfetch]
    exact (LoadM.Ends.fetched uri).bind (.breakDown _)
  | stalled hpolicy hfetch =>
    rw [fetchDirect, if_pos hpolicy, hfetch]
    exact (LoadM.Ends.fetched uri).bind (.stall uri)
  | fetched hpolicy hfetch =>
    rw [h.fetchDirect_of_bytes hpolicy hfetch]
    exact (LoadM.Ends.fetched uri).bind (.pure _)

/-- A fetch asks once, or the policy does not admit it. What is fetched was asked for. -/
theorem FetchStage.asks {r : Except Halt Bytes} (hstage : h.FetchStage uri uris r) :
    (uris = [] ∨ uris = [uri]) ∧
      ∀ content, r = .ok content → uris = [uri] ∧ h.fetcher.fetch uri = .bytes content := by
  cases hstage with
  | refused => exact ⟨.inl rfl, nofun⟩
  | failed | brokeDown | stalled => exact ⟨.inr rfl, nofun⟩
  | fetched _ hfetch => exact ⟨.inr rfl, fun _ hr => ⟨rfl, hfetch.trans (by rw [Except.ok.inj hr])⟩⟩

theorem requestFor_eq (h : Host S X I D T) (document : Bytes) (url : Url) :
    (h.requestFor document url : LoadM A Request) = do
      let href ← LoadM.ofExcept (stylesheetOf document)
      let joined ← LoadM.survive (url.join href)
      let target ← LoadM.ofUrl joined
      LoadM.note (.applying target.toString url.toString)
      let stylesheet ← h.fetchDirect target.toString
      LoadM.note (.stylesheetFetched target.toString stylesheet.length)
      return ⟨document, stylesheet, target.toString, [], h.config.engineOptions⟩ := by
  simp only [requestFor, findStylesheet, bind_assoc, pure_bind]

/-- A document that names a stylesheet. -/
theorem requestFor_of_join {href : String} {target : Url}
    (hfind : Stylesheet.find document = .ok (some href))
    (hjoin : url.join href = .ok (.ok target)) :
    (h.requestFor document url : LoadM A Request) = do
      LoadM.note (.applying target.toString url.toString)
      let stylesheet ← h.fetchDirect target.toString
      LoadM.note (.stylesheetFetched target.toString stylesheet.length)
      return ⟨document, stylesheet, target.toString, [], h.config.engineOptions⟩ := by
  rw [requestFor_eq, stylesheetOf, hfind, LoadM.ofExcept_ok, pure_bind, hjoin, LoadM.survive_ok,
    pure_bind, LoadM.ofUrl_ok, pure_bind]

theorem SheetStages.ends (hstages : h.SheetStages document url uris r) :
    (h.requestFor document url : LoadM A Request).Ends uris r := by
  cases hstages with
  | unreadable hfind =>
    rw [requestFor_eq, stylesheetOf, hfind]
    exact (LoadM.Ends.throw _).bind_halt
  | noStylesheet hfind =>
    rw [requestFor_eq, stylesheetOf, hfind]
    exact (LoadM.Ends.throw _).bind_halt
  | badReference hfind hjoin =>
    rw [requestFor_eq, stylesheetOf, hfind, LoadM.ofExcept_ok, pure_bind, hjoin, LoadM.survive_ok,
      pure_bind]
    exact (LoadM.Ends.throw _).bind_halt
  | aboveDrive hfind hjoin =>
    rw [requestFor_eq, stylesheetOf, hfind, LoadM.ofExcept_ok, pure_bind, hjoin]
    exact (LoadM.Ends.breakDown _).bind_halt
  | notFetched hfind hjoin hfetch =>
    rw [requestFor_of_join hfind hjoin]
    exact (LoadM.Ends.note _).bind hfetch.ends.bind_halt
  | ready hfind hjoin hfetch =>
    rw [requestFor_of_join hfind hjoin, ← List.append_nil uris]
    exact (LoadM.Ends.note _).bind (hfetch.ends.bind ((LoadM.Ends.note _).bind (.pure _)))

theorem DocumentStages.ends (hstages : h.DocumentStages document text uris r) :
    (h.documentRequest document text : LoadM A Request).Ends uris r := by
  unfold documentRequest
  cases hstages with
  | badUrl hurl =>
    rw [hurl]
    exact (LoadM.Ends.throw _).bind_halt
  | sheet hurl hsheet =>
    rw [hurl, LoadM.ofUrl_ok, pure_bind]
    exact hsheet.ends

theorem UrlStages.ends (hstages : h.UrlStages text uris r) :
    (h.urlRequest text : LoadM A Request).Ends uris r := by
  unfold urlRequest
  cases hstages with
  | badUrl hurl =>
    rw [hurl]
    exact (LoadM.Ends.throw _).bind_halt
  | notFetched hurl hfetch =>
    rw [hurl, LoadM.ofUrl_ok, pure_bind]
    exact hfetch.ends.bind_halt
  | sheet hurl hfetch hsheet =>
    obtain ⟨rfl, -⟩ := hfetch.asks.2 _ rfl
    rw [hurl, LoadM.ofUrl_ok, pure_bind]
    exact hfetch.ends.bind hsheet.ends

/-! ### How loading ends -/

/-- How loading ends, given how its stages do. -/
inductive Concludes [ResultTree T] (h : Host S X I D T) (lock : EngineLock S)
    (x : HostM (Exchange X I D T) (Except Panic (Except TransformError Output) × EngineLock S)) :
    List String → Except Halt Request → Prop
  /-- After a halt neither the fetcher nor the engine is asked for anything. -/
  | halts {uris : List String} {halt : Halt} (hfetches : x.fetches = uris)
    (hexchanges : x.exchanges = []) (hvalue : x.run.value = halt.result lock) :
    Concludes h lock x uris (.error halt)
  /-- Otherwise there is one run after the stages, and its result is that of loading. -/
  | runs {uris : List String} {request : Request} {before : List (Event (Exchange X I D T))}
    (hfetches : before.filterMap Event.uri? = uris)
    (hexchanges : before.filterMap Event.exchange? = [])
    (hevents : x.run.events =
      before ++ ((h.after uris).transform .concurrent request lock).run.events)
    (hvalue : x.run.value = ((h.after uris).transform .concurrent request lock).run.value) :
    Concludes h lock x uris (.ok request)

theorem concludes_transformWith [ResultTree T] {stages : LoadM (Exchange X I D T) Request}
    (hends : stages.Ends uris r) (lock : EngineLock S) :
    h.Concludes lock (h.transformWith stages lock) uris r := by
  obtain ⟨hfetches, hexchanges, hreturns⟩ := hends
  -- the run is reached only with a request
  unfold transformWith
  cases r with
  | error halt =>
    constructor
    · rw [fetches_bind, hfetches, hreturns]
      cases halt <;> exact List.append_nil uris
    · rw [exchanges_bind, hexchanges, hreturns]
      cases halt <;> rfl
    · rw [value_bind, hreturns]
      cases halt <;> rfl
  | ok request =>
    refine .runs hfetches hexchanges ?_ ?_
    · rw [ExceptT.run_bind, Recorded.events_bind, hreturns, hfetches]
      rfl
    · rw [value_bind, hreturns, hfetches]
      rfl

/-! ### What the stages ask for -/

/-- The stages after the document ask for its stylesheet, if for anything. -/
theorem SheetStages.asks (hstages : h.SheetStages document url uris r) :
    uris = [] ∨ ∃ href target, Stylesheet.find document = .ok (some href) ∧
      url.join href = .ok (.ok target) ∧ uris = [target.toString] := by
  cases hstages with
  | unreadable | noStylesheet | badReference | aboveDrive => exact .inl rfl
  | notFetched hfind hjoin hfetch | ready hfind hjoin hfetch =>
    exact hfetch.asks.1.imp_right fun huris => ⟨_, _, hfind, hjoin, huris⟩

/-- The fetcher is asked at most for the document, and after it for its stylesheet. -/
theorem UrlStages.asks (hstages : h.UrlStages text uris r) :
    uris = [] ∨ ∃ url, Url.parse text = .ok url ∧ (uris = [url.toString] ∨
      ∃ document href target, h.fetcher.fetch url.toString = .bytes document ∧
        Stylesheet.find document = .ok (some href) ∧ url.join href = .ok (.ok target) ∧
        uris = [url.toString, target.toString]) := by
  cases hstages with
  | badUrl => exact .inl rfl
  | notFetched hurl hfetch => exact hfetch.asks.1.imp_right fun huris => ⟨_, hurl, .inl huris⟩
  | @sheet url before uris document r hurl hfetch hsheet =>
    obtain ⟨rfl, hbytes⟩ := hfetch.asks.2 document rfl
    refine .inr ⟨url, hurl, ?_⟩
    rcases hsheet.asks with rfl | ⟨href, target, hfind, hjoin, rfl⟩
    · exact .inl rfl
    · exact .inr ⟨document, href, target, hbytes, hfind, hjoin, rfl⟩

/-! ### Loading by URL and loading at hand -/

/-- A fetch before other stages goes before loading with these. -/
theorem transformWith_fetched [ResultTree T] (h : Host S X I D T) (uri : String)
    (stages : LoadM (Exchange X I D T) Request) (lock : EngineLock S) :
    h.transformWith (ExceptT.lift (ExceptT.lift (emit (.fetched uri))) >>= fun _ => stages) lock =
      emit (.fetched uri) >>= fun _ => (h.after [uri]).transformWith stages lock := by
  have hrun : (ExceptT.lift (ExceptT.lift (emit (.fetched uri))) >>= fun _ => stages :
      LoadM (Exchange X I D T) Request).run.run =
      emit (.fetched uri) >>= fun _ => stages.run.run := by
    rw [LoadM.run_bind]
    rfl
  unfold transformWith
  rw [hrun, bind_assoc, fetches_bind]
  refine bind_congr fun _ => bind_congr fun ended => ?_
  rcases ended with panic | cause | request
  · rfl
  · rfl
  · dsimp only
    rw [after_after]
    rfl

/-- Loading by URL is a fetch, and then loading at hand. -/
theorem loadUrl_eq [ResultTree T] (h : Host S X I D T) (hurl : Url.parse text = .ok url)
    (hagain : Url.parse url.toString = .ok url)
    (hpolicy : h.config.security.admits url.toString = true)
    (hfetch : h.fetcher.fetch url.toString = .bytes document) (lock : EngineLock S) :
    h.loadUrl text lock =
      HostM.emit (.fetched url.toString) >>= fun _ =>
        (h.after [url.toString]).loadDocument document url.toString lock := by
  rw [loadUrl, urlRequest, hurl, LoadM.ofUrl_ok, pure_bind, h.fetchDirect_of_bytes hpolicy hfetch,
    bind_assoc, transformWith_fetched, loadDocument, documentRequest, hagain, LoadM.ofUrl_ok,
    pure_bind, pure_bind]

/-- How documents are loaded. -/
structure Staged [ResultTree T] (h : Host S X I D T) : Prop where
  /-- There is one way through the stages, for each URL and each document at hand. -/
  urlStages : ∀ text, ∃! stages : List String × Except Halt Request,
    h.UrlStages text stages.1 stages.2
  documentStages : ∀ document text, ∃! stages : List String × Except Halt Request,
    h.DocumentStages document text stages.1 stages.2
  /-- Loading goes through the stages, and ends as they do. -/
  loadUrl : ∀ text uris r lock, h.UrlStages text uris r →
    h.Concludes lock (h.loadUrl text lock) uris r
  loadDocument : ∀ document text uris r lock, h.DocumentStages document text uris r →
    h.Concludes lock (h.loadDocument document text lock) uris r
  /-- The stages ask at most for the document, and after it for its stylesheet. -/
  asks : ∀ text uris r, h.UrlStages text uris r →
    uris = [] ∨ ∃ url, Url.parse text = .ok url ∧ (uris = [url.toString] ∨
      ∃ document href target, h.fetcher.fetch url.toString = .bytes document ∧
        Stylesheet.find document = .ok (some href) ∧ url.join href = .ok (.ok target) ∧
        uris = [url.toString, target.toString])
  /-- Loading by URL is a fetch, and then loading at hand with what is left of the fetcher. -/
  same : ∀ text url document lock, Url.parse text = .ok url → Url.parse url.toString = .ok url →
    h.config.security.admits url.toString = true →
    h.fetcher.fetch url.toString = .bytes document →
    h.loadUrl text lock =
      HostM.emit (.fetched url.toString) >>= fun _ =>
        (h.after [url.toString]).loadDocument document url.toString lock

/-- **The stages of loading.** -/
theorem loads_staged [ResultTree T] (h : Host S X I D T) : h.Staged where
  urlStages text := by
    obtain ⟨uris, r, hstages⟩ := h.exists_urlStages text
    refine ⟨(uris, r), hstages, fun stages hstages' => ?_⟩
    obtain ⟨huris, hr⟩ := (UrlStages.ends (A := Unit) hstages').unique hstages.ends
    exact Prod.ext huris hr
  documentStages document text := by
    obtain ⟨uris, r, hstages⟩ := h.exists_documentStages document text
    refine ⟨(uris, r), hstages, fun stages hstages' => ?_⟩
    obtain ⟨huris, hr⟩ := (DocumentStages.ends (A := Unit) hstages').unique hstages.ends
    exact Prod.ext huris hr
  loadUrl _ _ _ lock hstages := concludes_transformWith hstages.ends lock
  loadDocument _ _ _ _ lock hstages := concludes_transformWith hstages.ends lock
  asks _ _ _ := UrlStages.asks
  same _ _ _ lock hurl hagain hpolicy hfetch := h.loadUrl_eq hurl hagain hpolicy hfetch lock

/-- A document that refers to its stylesheet. -/
def referring (href : String) : Bytes :=
  Utf8.encode ("<?xml-stylesheet type='text/xsl' href='" ++ href ++ "'?><a/>")

/-- A host whose fetcher gives a document that refers to its stylesheet the first time, and a
stylesheet from then on. -/
def referringHost (href : String) : Host Unit Unit Unit Unit PlainTree :=
  { plainHost with fetcher := ⟨"any", fun before _ =>
      .bytes (if before = [] then referring href else Utf8.encode "<x/>")⟩ }

/-- A document that names itself as its stylesheet. -/
theorem referringHost_loads : (referringHost "mem:d").Concludes (.free ())
    ((referringHost "mem:d").loadUrl "mem:d" (.free ())) ["mem:d", "mem:d"]
    (.ok ⟨referring "mem:d", Utf8.encode "<x/>", "mem:d", [], {}⟩) := by
  have hurl : Url.parse "mem:d" = .ok { scheme := "mem", path := .flat "d" } := rfl
  have hfind : Stylesheet.find (referring "mem:d") = .ok (some "mem:d") := by cbv
  have hjoin : Url.join { scheme := "mem", path := .flat "d" } "mem:d" =
      .ok (.ok { scheme := "mem", path := .flat "d" }) := rfl
  exact (loads_staged (referringHost "mem:d")).loadUrl "mem:d" _ _ _
    (.sheet hurl (.fetched (by decide) rfl) (.ready hfind hjoin (.fetched (by decide) rfl)))

/-- A URL whose path ends in a drive that is not its first name. -/
def innerDrive : Url :=
  { scheme := "file", authority := some { host := .empty }, path := .segments ["D:", "ab", "C:"] }

/-- Loading can break down over a reference, though every fetch gives a document. -/
theorem referringHost_breaksDown :
    ¬∀ (h : Host Unit Unit Unit Unit PlainTree) (text : String) (lock : EngineLock Unit),
      (∀ before uri, ∃ content, h.fetcher.outcomeAfter before uri = .bytes content) →
      (∃ cause, (h.loadUrl text lock).run.value = .ok (.ok (.error cause), lock)) ∨
        ∃ before, ∃ request ∈ (h.loadUrl text lock).requests, (h.loadUrl text lock).run.value =
          ((h.after before).transform .concurrent request lock).run.value := by
  intro hall
  have hurl : Url.parse "file:///D:/ab/C:" = .ok innerDrive := by decide +kernel
  have hfind : Stylesheet.find (referring "%2e%2e") = .ok (some "%2e%2e") := by cbv
  have hstages : (referringHost "%2e%2e").UrlStages "file:///D:/ab/C:" [innerDrive.toString]
      (.error (.breaksDown Url.aboveDrive)) :=
    .sheet hurl (.fetched (by decide) rfl) (.aboveDrive hfind (by cbv))
  have hconcludes : (referringHost "%2e%2e").Concludes (.free ())
      ((referringHost "%2e%2e").loadUrl "file:///D:/ab/C:" (.free ())) _ _ :=
    concludes_transformWith hstages.ends _
  obtain ⟨-, hexchanges, hvalue⟩ := hconcludes
  rcases hall (referringHost "%2e%2e") "file:///D:/ab/C:" (.free ()) fun _ _ => ⟨_, rfl⟩ with
    ⟨cause, hcause⟩ | ⟨-, request, hmem, -⟩
  · cases hcause.symm.trans hvalue
  · rw [HostM.requests, hexchanges] at hmem
    cases hmem

end Host

end StyleHost
