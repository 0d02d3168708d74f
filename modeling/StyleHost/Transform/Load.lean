import StyleHost.Stylesheet.Reference
import StyleHost.Transform.Host
import StyleHost.Url.Parser

/-!
# Loading a document with its stylesheet

A document names its stylesheet by a reference against its own URL. The document and the stylesheet
are fetched directly, each under the policy; then the document is transformed. The first stage that
fails gives the result.

* `Host.fetchDirect` : a fetch without a bridge.
* `Host.findStylesheet` : the stages before the run.
* `Host.loadDocument`, `Host.loadUrl` : the stages and the run, for a document at hand and for one
  that has to be fetched.
-/

namespace StyleHost

/-- A stage of loading, which can fail. -/
abbrev LoadM (A : Type) := ExceptT TransformError (WorkM A)

namespace LoadM

variable {A α : Type}

/-- Writes a notice. -/
def note (n : Notice) : LoadM A Unit := ExceptT.lift (WorkM.note n)

/-- Goes on with a result unless it is an error. -/
def ofExcept (x : Except TransformError α) : LoadM A α := ExceptT.mk (pure x)

/-- The URL that was read, if it is one. -/
def ofUrl (x : Except UrlError Url) : LoadM A Url := ofExcept (x.mapError .invalidUrl)

/-- Goes on with a result unless it is a breakdown. -/
def survive (x : Except Panic α) : LoadM A α := ExceptT.lift (WorkM.ofExcept x)

/-- Gets stuck on a fetch. -/
def stall (uri : String) : LoadM A α := ExceptT.lift (ExceptT.lift (throw ⟨uri⟩))

end LoadM

namespace Host

variable {S X I D T : Type}

/-- The document at a URI, fetched directly if the policy admits it. -/
def fetchDirect {A : Type} (h : Host S X I D T) (uri : String) : LoadM A Bytes := do
  if h.config.security.admits uri then
    ExceptT.lift (ExceptT.lift (HostM.emit (.fetched uri)))
    match h.fetcher.fetch uri with
    | .bytes content => return content
    | .fails cause => throw (.fetch cause)
    | .stalls => LoadM.stall uri
    | .panics cause => LoadM.survive (.error cause)
  else throw (.fetch (.forbidden uri))

/-- The reference that a document makes to its stylesheet. -/
def stylesheetOf (document : Bytes) : Except TransformError String :=
  match Stylesheet.find document with
  | .error fault => .error (.sourceParse fault.message)
  | .ok none => .error .noStylesheet
  | .ok (some href) => .ok href

/-- The stylesheet of a document at a URL, with the URL of the stylesheet. -/
def findStylesheet {A : Type} (h : Host S X I D T) (document : Bytes) (url : Url) :
    LoadM A (String × Bytes) := do
  let href ← LoadM.ofExcept (stylesheetOf document)
  let target ← LoadM.ofUrl (← LoadM.survive (url.join href))
  let uri := target.toString
  LoadM.note (.applying uri url.toString)
  let stylesheet ← h.fetchDirect uri
  LoadM.note (.stylesheetFetched uri stylesheet.length)
  return (uri, stylesheet)

/-- The request that a document makes with its stylesheet. -/
def requestFor {A : Type} (h : Host S X I D T) (document : Bytes) (url : Url) :
    LoadM A Request := do
  let (uri, stylesheet) ← h.findStylesheet document url
  return ⟨document, stylesheet, uri, [], h.config.engineOptions⟩

/-- The request that a document at hand makes, given the text of its URL. -/
def documentRequest {A : Type} (h : Host S X I D T) (document : Bytes) (url : String) :
    LoadM A Request := do
  h.requestFor document (← LoadM.ofUrl (Url.parse url))

/-- The request that the document at a URL makes. -/
def urlRequest {A : Type} (h : Host S X I D T) (url : String) : LoadM A Request := do
  let url ← LoadM.ofUrl (Url.parse url)
  let document ← h.fetchDirect url.toString
  (h.after [url.toString]).requestFor document url

/-- A run with the request that stages of loading lead to. The fetcher has been through the
stages. -/
def transformWith [ResultTree T] (h : Host S X I D T)
    (stages : LoadM (Exchange X I D T) Request) (lock : EngineLock S) :
    HostM (Exchange X I D T) (Except Panic (Except TransformError Output) × EngineLock S) := do
  match ← stages.run.run with
  | .error cause => return (.error cause, lock)
  | .ok (.error cause) => return (.ok (.error cause), lock)
  | .ok (.ok request) =>
    (h.after (HostM.fetches stages.run.run)).transform .concurrent request lock

/-- Transforms a document at hand with the stylesheet that it names. -/
def loadDocument [ResultTree T] (h : Host S X I D T) (document : Bytes) (url : String)
    (lock : EngineLock S) :
    HostM (Exchange X I D T) (Except Panic (Except TransformError Output) × EngineLock S) :=
  h.transformWith (h.documentRequest document url) lock

/-- Transforms the document at a URL with the stylesheet that it names. -/
def loadUrl [ResultTree T] (h : Host S X I D T) (url : String) (lock : EngineLock S) :
    HostM (Exchange X I D T) (Except Panic (Except TransformError Output) × EngineLock S) :=
  h.transformWith (h.urlRequest url) lock

end Host

end StyleHost
