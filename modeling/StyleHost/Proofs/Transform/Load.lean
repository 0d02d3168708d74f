import Mathlib
import StyleHost.Proofs.Transform.Requests
import StyleHost.Proofs.Xml.Document
import StyleHost.Transform.Processor

/-!
# Which documents are loaded

A document that is loaded is read to its end in search of its stylesheet, but not checked. So the
loader reports the faults of reading and no other, and sends documents to the engine that a
processor would reject: those that can be read and are not an element with nothing else around it,
such as one whose element is not closed.

* `LoadM.Gives` : the result of stages of loading that do not fail.
* `Host.Judged` : what loader and processor make of a document.
-/

namespace StyleHost

open HostM

variable {S X I D T A α β : Type}

namespace LoadM

/-! ### Stages that do not fail -/

/-- The stages end with a value. -/
def Gives (x : LoadM A α) (a : α) : Prop := x.run.run.run.value = .ok (.ok (.ok a))

theorem gives_bind_iff {x : LoadM A α} {f : α → LoadM A β} {b : β} :
    Gives (x >>= f) b ↔ ∃ a, Gives x a ∧ Gives (f a) b := by
  unfold Gives
  rw [ExceptT.run_bind, ExceptT.run_bind, value_bind]
  rcases x.run.run.run.value with e | e | e | a <;> simp [pure, ExceptT.pure]

theorem gives_pure_iff {a b : α} : Gives (pure a : LoadM A α) b ↔ a = b := by
  simp [Gives, pure, ExceptT.pure]

theorem gives_ofExcept_iff {x : Except TransformError α} {a : α} :
    Gives (ofExcept x : LoadM A α) a ↔ x = .ok a := by
  simp [Gives, ofExcept, pure, ExceptT.pure, ExceptT.run, ExceptT.mk]

/-! ### Stages start no engine -/

/-- No request reaches the engine. -/
def Quiet (x : LoadM (Exchange X I D T) α) : Prop :=
  Sends [] (fun _ => True) x.run.run fun _ => True

theorem Quiet.pure (a : α) : Quiet (pure a : LoadM (Exchange X I D T) α) := Sends.pure trivial

theorem Quiet.bind {x : LoadM (Exchange X I D T) α} {f : α → LoadM (Exchange X I D T) β}
    (hx : Quiet x) (hf : ∀ a, Quiet (f a)) : Quiet (x >>= f) := by
  unfold Quiet
  rw [ExceptT.run_bind]
  refine WorkM.sends_bind hx fun r => ?_
  cases r with
  | ok a => exact hf a
  | error e => exact Sends.pure trivial

theorem Quiet.lift {x : HostM (Exchange X I D T) α}
    (hx : Sends [] (fun _ => True) x fun _ => True) :
    Quiet (ExceptT.lift (ExceptT.lift x)) := by
  have hwork : Sends [] (fun _ => True) (ExceptT.lift x : WorkM (Exchange X I D T) α).run
      fun _ => True := hx.map
  exact WorkM.sends_bind hwork fun _ => .pure trivial

theorem Quiet.survive (x : Except Panic α) : Quiet (survive x : LoadM (Exchange X I D T) α) := by
  cases x <;> exact Sends.pure trivial

theorem Quiet.ofExcept (x : Except TransformError α) :
    Quiet (ofExcept x : LoadM (Exchange X I D T) α) := Sends.pure trivial

end LoadM

namespace Host

open LoadM

section

variable (h : Host S X I D T)

theorem fetchDirect_quiet (uri : String) :
    Quiet (h.fetchDirect uri : LoadM (Exchange X I D T) Bytes) := by
  unfold fetchDirect
  split
  · refine (Quiet.lift (.fetched _)).bind fun _ => ?_
    split
    · exact .pure _
    · exact .ofExcept (.error _)
    · exact .lift (.throw trivial)
    · exact .survive _
  · exact .ofExcept (.error _)

theorem requestFor_quiet (document : Bytes) (url : Url) :
    Quiet (h.requestFor document url : LoadM (Exchange X I D T) Request) := by
  have hfind : Quiet (h.findStylesheet document url : LoadM (Exchange X I D T) _) := by
    unfold findStylesheet
    refine (Quiet.ofExcept _).bind fun _ => (Quiet.survive _).bind fun _ => ?_
    refine (Quiet.ofExcept _).bind fun _ => (Quiet.lift (.note _)).bind fun _ => ?_
    exact (h.fetchDirect_quiet _).bind fun _ => (Quiet.lift (.note _)).bind fun _ => .pure _
  unfold requestFor
  exact hfind.bind fun _ => .pure _

/-- A request that is made for a document is made with the document. -/
theorem stylesheetOf_of_requestFor {document : Bytes} {url : Url} {request : Request}
    (hgives : (h.requestFor document url : LoadM A Request).Gives request) :
    request.source = document ∧ ∃ href, stylesheetOf document = .ok href := by
  unfold requestFor findStylesheet at hgives
  obtain ⟨⟨uri, stylesheet⟩, hfind, hrequest⟩ := LoadM.gives_bind_iff.1 hgives
  obtain ⟨href, hhref, -⟩ := LoadM.gives_bind_iff.1 hfind
  exact ⟨congrArg Request.source (LoadM.gives_pure_iff.1 hrequest).symm, href,
    LoadM.gives_ofExcept_iff.1 hhref⟩

/-- **What is sent** after some stages of loading is the request that they lead to. -/
theorem mem_requests_transformWith [ResultTree T] {stages : LoadM (Exchange X I D T) Request}
    (hquiet : Quiet stages) {lock : EngineLock S} {request : Request} :
    request ∈ (h.transformWith stages lock).requests ↔
      stages.Gives request ∧ lock ≠ .poisoned := by
  unfold transformWith LoadM.Gives
  rw [requests_bind, hquiet.requests, List.nil_append]
  rcases stages.run.run.run.value with e | e | e | sent
  · exact ⟨(nomatch ·), fun h => nomatch h.1⟩
  · exact ⟨(nomatch ·), fun h => nomatch h.1⟩
  · exact ⟨(nomatch ·), fun h => nomatch h.1⟩
  · dsimp only
    cases lock with
    | poisoned =>
      rw [((h.after _).transform_sends_of_poisoned _ _).requests]
      exact ⟨(nomatch ·), fun h => absurd rfl h.2⟩
    | free state =>
      rw [((h.after _).transform_sends _ _ _).requests, List.mem_singleton]
      simp [eq_comm]

theorem mem_requests_loadDocument [ResultTree T] {document : Bytes} {url : String}
    {lock : EngineLock S} {request : Request} :
    request ∈ (h.loadDocument document url lock).requests ↔
      (h.documentRequest document url : LoadM (Exchange X I D T) _).Gives request ∧
        lock ≠ .poisoned :=
  h.mem_requests_transformWith ((Quiet.ofExcept _).bind fun _ => h.requestFor_quiet _ _)

theorem mem_requests_loadUrl [ResultTree T] {url : String} {lock : EngineLock S}
    {request : Request} : request ∈ (h.loadUrl url lock).requests ↔
      (h.urlRequest url : LoadM (Exchange X I D T) _).Gives request ∧ lock ≠ .poisoned := by
  refine h.mem_requests_transformWith ((Quiet.ofExcept _).bind fun _ => ?_)
  exact (h.fetchDirect_quiet _).bind fun _ => (h.after _).requestFor_quiet _ _

end

/-! ### What loader and processor make of a document -/

theorem stylesheetOf_eq_sourceParse_iff {document : Bytes} {detail : String} :
    stylesheetOf document = .error (.sourceParse detail) ↔
      ∃ fault, (Xml.scan document).fault = some fault ∧ detail = fault.message := by
  rw [stylesheetOf, Stylesheet.find]
  cases (Xml.scan document).fault with
  | some fault => simp [eq_comm]
  | none =>
    dsimp only
    cases Stylesheet.firstHref 0 (Xml.scan document).events <;> simp

theorem fault_of_stylesheetOf {document : Bytes} {href : String}
    (hhref : stylesheetOf document = .ok href) : (Xml.scan document).fault = none := by
  rw [stylesheetOf, Stylesheet.find] at hhref
  cases hfault : (Xml.scan document).fault with
  | some fault =>
    rw [hfault] at hhref
    cases hhref
  | none => rfl

/-- What the check rejects. -/
theorem check_eq_error_iff {document : Bytes} :
    (∃ fault, Document.check document = .error fault) ↔
      (Xml.scan document).fault ≠ none ∨ ¬Document.IsDocument (Xml.eventsOf document) := by
  rw [ne_eq, ← Classical.not_and_iff_not_or_not, ← Document.check_eq_ok_iff]
  cases Document.check document with
  | ok => simp
  | error fault => simp

theorem request_eq_sourceParse_iff {p : Processor} (hsheet : p.hasStylesheet = true)
    {options : EngineOptions} {document : Bytes} :
    (∃ detail, p.request options document = .error (.sourceParse detail)) ↔
      ∃ fault, Document.check document = .error fault := by
  obtain ⟨sheet, hsheet⟩ := Option.isSome_iff_exists.1 hsheet
  rw [Processor.request, hsheet]
  cases Document.check document with
  | ok => simp
  | error fault => simp

/-- A document that is sent can be read. -/
theorem readable_of_requestFor (h : Host S X I D T) {document : Bytes} {url : Url}
    {request : Request} (hgives : (h.requestFor document url : LoadM A Request).Gives request) :
    request.source = document ∧ (Xml.scan document).fault = none ∧
      ((∃ fault, Document.check document = .error fault) ↔
        ¬Document.IsDocument (Xml.eventsOf document)) := by
  obtain ⟨hsource, href, hhref⟩ := h.stylesheetOf_of_requestFor hgives
  have hfault := fault_of_stylesheetOf hhref
  refine ⟨hsource, hfault, ?_⟩
  rw [check_eq_error_iff, hfault]
  exact or_iff_right (absurd rfl)

/-- What loader and processor make of documents. -/
structure Judged [ResultTree T] (h : Host S X I D T) : Prop where
  /-- The loader reports the fault of reading, if there is one. -/
  loader : ∀ document detail, stylesheetOf document = .error (.sourceParse detail) ↔
    ∃ fault, (Xml.scan document).fault = some fault ∧ detail = fault.message
  /-- A processor also rejects what is no document. -/
  processor : ∀ (p : Processor) options document, p.hasStylesheet = true →
    ((∃ detail, p.request options document = .error (.sourceParse detail)) ↔
      (Xml.scan document).fault ≠ none ∨ ¬Document.IsDocument (Xml.eventsOf document))
  /-- A fault of reading that the check comes to is the one that the loader reports. -/
  sameFault : ∀ document fault, Document.check document = .error (.unreadable fault) →
    stylesheetOf document = .error (.sourceParse fault.message)
  /-- What the loader sends can be read, but the check rejects it unless it is a document. -/
  sent : ∀ document url lock, ∀ request ∈ (h.loadDocument document url lock).requests,
    request.source = document ∧ (Xml.scan document).fault = none ∧
      ((∃ fault, Document.check document = .error fault) ↔
        ¬Document.IsDocument (Xml.eventsOf document))
  sentFetched : ∀ url lock, ∀ request ∈ (h.loadUrl url lock).requests,
    (Xml.scan request.source).fault = none ∧
      ((∃ fault, Document.check request.source = .error fault) ↔
        ¬Document.IsDocument (Xml.eventsOf request.source))
  /-- No request is held back. -/
  sending : ∀ document url request state,
    (h.documentRequest document url : LoadM (Exchange X I D T) _).Gives request →
      request ∈ (h.loadDocument document url (.free state)).requests

/-- **The loader and the check disagree** just on what can be read and is no document. The loader
lets it through. -/
theorem documents_judged [ResultTree T] (h : Host S X I D T) : h.Judged where
  loader _ _ := stylesheetOf_eq_sourceParse_iff
  processor _ _ _ hsheet := (request_eq_sourceParse_iff hsheet).trans check_eq_error_iff
  sameFault document fault hfault :=
    stylesheetOf_eq_sourceParse_iff.2 ⟨fault, Document.fault_of_check hfault, rfl⟩
  sent document url lock request hmem := by
    obtain ⟨_, -, hgives⟩ := LoadM.gives_bind_iff.1 (h.mem_requests_loadDocument.1 hmem).1
    exact h.readable_of_requestFor hgives
  sentFetched url lock request hmem := by
    obtain ⟨_, -, hgives⟩ := LoadM.gives_bind_iff.1 (h.mem_requests_loadUrl.1 hmem).1
    obtain ⟨document, -, hgives⟩ := LoadM.gives_bind_iff.1 hgives
    obtain ⟨rfl, hreadable⟩ := (h.after _).readable_of_requestFor hgives
    exact hreadable
  sending document url request state hgives :=
    h.mem_requests_loadDocument.2 ⟨hgives, nofun⟩

/-- A source whose element is not closed. -/
def unclosedSource : Bytes := Utf8.encode "<?xml-stylesheet type='text/xsl' href='mem:s'?><a>"

/-- The loader sends a source to the engine that the check rejects. -/
theorem unclosedSource_loads :
    (¬∀ document, (∃ detail, stylesheetOf document = .error (.sourceParse detail)) ↔
      ∃ fault, Document.check document = .error fault) ∧
    ¬∀ url lock, ∀ request ∈ (plainHost.loadDocument unclosedSource url lock).requests,
      Document.check request.source = .ok () := by
  have hcheck : Document.check unclosedSource = .error (.unclosed 1) := by cbv
  have hhref : stylesheetOf unclosedSource = .ok "mem:s" := by cbv
  have hsent : (plainHost.loadDocument unclosedSource "mem:d" (.free ())).requests =
    [⟨unclosedSource, [], "mem:s", [], {}⟩] := by cbv
  refine ⟨fun h => ?_, fun h => ?_⟩
  · obtain ⟨detail, hdetail⟩ := (h unclosedSource).2 ⟨_, hcheck⟩
    rw [hhref] at hdetail
    cases hdetail
  · have hok := h "mem:d" (.free ()) ⟨unclosedSource, [], "mem:s", [], {}⟩
      (by rw [hsent]; exact List.mem_singleton_self _)
    rw [hcheck] at hok
    cases hok

end Host

end StyleHost
