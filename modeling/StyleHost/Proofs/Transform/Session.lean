import Mathlib
import StyleHost.Proofs.Transform.History
import StyleHost.Proofs.Transform.Requests

/-!
# Sessions with a processor

A session is any sequence of operations on one processor and one host. What it answers and what
reaches the engine is determined by the history of operations alone: whichever result a run has, it
changes nothing that the processor remembers.

* `Processor.session` : the operations one after another.
* `Processor.requestAfter` : the request that reaches the engine by an operation.
* `Processor.Answers` : what may be answered to an operation.
* `Processor.Refined` : how a session goes. It ends early only in a run with a fetch that stalls.
-/

namespace StyleHost

open HostM

variable {S X I D T : Type}

namespace Processor

/-- What is answered to an operation. -/
inductive Answer where
  | done
  | imported (result : Except TransformError Unit)
  | found (value : Option String)
  | transformed (result : Except Panic (Except TransformError Output))

section

variable [ResultTree T]

/-- The answer to an operation, and the engine after it. -/
def answer (h : Host S X I D T) (p : Processor) (lock : EngineLock S) :
    Operation → HostM (Exchange X I D T) (Answer × EngineLock S)
  | .importStylesheet bytes baseUri =>
    return (.imported ((p.importFrom bytes baseUri).map fun _ => ()), lock)
  | .getParameter ns name => return (.found (p.getParameter ns name), lock)
  | .transform mode source => do
    let (result, lock) ← p.transform h mode source lock
    return (.transformed result, lock)
  | .setParameter _ _ _ | .removeParameter _ _ | .clearParameters | .reset => return (.done, lock)

/-- The answers to operations one after another, with the processor and the engine after them. The
fetcher remembers what it is asked for. -/
def session (h : Host S X I D T) (p : Processor) (lock : EngineLock S) :
    List Operation → HostM (Exchange X I D T) (List Answer × Processor × EngineLock S)
  | [] => return ([], p, lock)
  | op :: ops => do
    let answering := p.answer h lock op
    let (answer, lock) ← answering
    let (answers, p, lock) ← (p.after op).session (h.after answering.fetches) lock ops
    return (answer :: answers, p, lock)

end

/-! ### What a history calls for -/

/-- The parameters that a history leaves, as the engine receives them. -/
def literalsOf (history : List Operation) : List (String × String) :=
  (parametersOf history).map fun (name, value) => (name, XPath.literal value)

/-- The request that reaches the engine by an operation, given the operations before it. -/
def requestAfter (options : EngineOptions) (history : List Operation) :
    Operation → Option Request
  | .transform _ source =>
    match latestStylesheet history, Document.check source with
    | some sheet, .ok () => some ⟨source, sheet.bytes, sheet.baseUri, literalsOf history, options⟩
    | _, _ => none
  | _ => none

/-- The requests that reach the engine by operations, given the operations before them. -/
def requestsAfter (options : EngineOptions) (history : List Operation) :
    List Operation → List Request
  | [] => []
  | op :: ops =>
    (requestAfter options history op).toList ++ requestsAfter options (history ++ [op]) ops

/-- What may be answered to an operation, given the operations before it. Nothing is said about the
result of a run. -/
inductive Answers (history : List Operation) : Operation → Answer → Prop
  | imported {bytes : Bytes} {baseUri : Option String} (h : Document.check bytes = .ok ()) :
    Answers history (.importStylesheet bytes baseUri) (.imported (.ok ()))
  | notImported {bytes : Bytes} {baseUri : Option String} {fault : Document.Fault}
    (h : Document.check bytes = .error fault) :
    Answers history (.importStylesheet bytes baseUri)
      (.imported (.error (.stylesheetParse fault.message)))
  | found {ns : Option String} {name : String} :
    Answers history (.getParameter ns name) (.found (valueOf history name))
  | set {ns : Option String} {name value : String} :
    Answers history (.setParameter ns name value) .done
  | removed {ns : Option String} {name : String} :
    Answers history (.removeParameter ns name) .done
  | cleared : Answers history .clearParameters .done
  | reset : Answers history .reset .done
  | noStylesheet {mode : Mode} {source : Bytes} (h : latestStylesheet history = none) :
    Answers history (.transform mode source) (.transformed (.ok (.error .stylesheetNotImported)))
  | noDocument {mode : Mode} {source : Bytes} {fault : Document.Fault}
    (hsheet : latestStylesheet history ≠ none) (h : Document.check source = .error fault) :
    Answers history (.transform mode source)
      (.transformed (.ok (.error (.sourceParse fault.message))))
  | run {mode : Mode} {source : Bytes} {result : Except Panic (Except TransformError Output)}
    (hsheet : latestStylesheet history ≠ none) (h : Document.check source = .ok ()) :
    Answers history (.transform mode source) (.transformed result)

/-- What may be answered to operations one after another. -/
inductive AnswersAll : List Operation → List Operation → List Answer → Prop
  | nil {history : List Operation} : AnswersAll history [] []
  | cons {history ops : List Operation} {op : Operation} {answer : Answer} {answers : List Answer}
    (h : Answers history op answer) (hrest : AnswersAll (history ++ [op]) ops answers) :
    AnswersAll history (op :: ops) (answer :: answers)

section

variable [ResultTree T] {h : Host S X I D T} {history ops : List Operation} {op : Operation}
  {mode : Mode} {source : Bytes}

/-! ### One operation -/

/-- A source that is not for the engine is answered at once, and nothing else happens. -/
theorem answer_of_refused (lock : EngineLock S)
    (hnone : requestAfter h.config.engineOptions history (.transform mode source) = none) :
    ∃ cause, Answers history (.transform mode source) (.transformed (.ok (.error cause))) ∧
      (remembered history).answer h lock (.transform mode source) =
        pure (.transformed (.ok (.error cause)), lock) := by
  rw [requestAfter] at hnone
  rw [answer, transform, request]
  cases hsheet : latestStylesheet history with
  | none =>
    refine ⟨.stylesheetNotImported, .noStylesheet hsheet, ?_⟩
    simp only [remembered, hsheet, pure_bind]
  | some sheet =>
    cases hcheck : Document.check source with
    | ok =>
      rw [hsheet, hcheck] at hnone
      cases hnone
    | error fault =>
      refine ⟨.sourceParse fault.message, .noDocument (by simp [hsheet]) hcheck, ?_⟩
      simp only [remembered, hsheet, pure_bind]

/-- A source that is for the engine starts a run. -/
theorem answer_of_admitted (hsteady : h.NeverPanics) {request : Request} (state : S)
    (hsome : requestAfter h.config.engineOptions history (.transform mode source) =
      some request) :
    Sends [request] h.Stalls
      ((remembered history).answer h (.free state) (.transform mode source))
      fun r => Answers history (.transform mode source) r.1 ∧ ∃ next, r.2 = .free next := by
  rw [requestAfter] at hsome
  cases hsheet : latestStylesheet history with
  | none =>
    rw [hsheet] at hsome
    cases hsome
  | some sheet =>
    cases hcheck : Document.check source with
    | error fault =>
      rw [hsheet, hcheck] at hsome
      cases hsome
    | ok =>
      have hanswer : ∀ result, Answers history (.transform mode source) (.transformed result) :=
        fun result => .run (by simp [hsheet]) hcheck
      have hrequest :
          (remembered history).request h.config.engineOptions source = .ok request := by
        rw [hsheet, hcheck] at hsome
        rw [Processor.request, remembered, hsheet, hcheck, ← Option.some.inj hsome]
        rfl
      have hrun : Sends [request] h.Stalls
          ((remembered history).transform h mode source (.free state))
          fun r => h.NeverPanics → ∃ next, r.2 = .free next := by
        rw [transform, hrequest]
        dsimp only
        -- a blocking run is announced first
        split
        · exact .bind_left rfl rfl (h.transform_sends _ _ _)
        · exact h.transform_sends _ _ _
      rw [answer]
      exact hrun.bind fun r hlock => .pure ⟨hanswer r.1, hlock hsteady⟩

/-- **One operation.** -/
theorem answer_sends (hsteady : h.NeverPanics) (history : List Operation) (op : Operation)
    (state : S) :
    Sends (requestAfter h.config.engineOptions history op).toList
      (fun s => h.Stalls s ∧ requestAfter h.config.engineOptions history op ≠ none)
      ((remembered history).answer h (.free state) op)
      fun r => Answers history op r.1 ∧ ∃ next, r.2 = .free next := by
  cases op with
  | importStylesheet bytes baseUri =>
    refine .pure ⟨?_, state, rfl⟩
    rw [importFrom, importStylesheet]
    cases hcheck : Document.check bytes with
    | ok => exact .imported hcheck
    | error fault => exact .notImported hcheck
  | setParameter => exact .pure ⟨.set, state, rfl⟩
  | getParameter ns name =>
    refine .pure ⟨?_, state, rfl⟩
    rw [getParameter_remembered]
    exact .found
  | removeParameter => exact .pure ⟨.removed, state, rfl⟩
  | clearParameters => exact .pure ⟨.cleared, state, rfl⟩
  | reset => exact .pure ⟨.reset, state, rfl⟩
  | transform mode source =>
    cases hadmitted : requestAfter h.config.engineOptions history (.transform mode source) with
    | none =>
      obtain ⟨cause, hanswer, heq⟩ := answer_of_refused (.free state) hadmitted
      rw [heq]
      exact .pure ⟨hanswer, state, rfl⟩
    | some request =>
      obtain ⟨hrequests, hstuck, hreturns⟩ := answer_of_admitted hsteady state hadmitted
      exact ⟨hrequests, fun s hs => ⟨hstuck s hs, Option.some_ne_none _⟩, hreturns⟩

/-! ### Sessions -/

/-- How operations go, given the operations before them. -/
inductive Goes (h : Host S X I D T) (history ops : List Operation)
    (x : HostM (Exchange X I D T) (List Answer × Processor × EngineLock S)) : Prop
  /-- All operations are answered, and all that the history calls for reached the engine. -/
  | returned (answers : List Answer) (next : S)
    (hvalue : x.run.value = .ok (answers, remembered (history ++ ops), .free next))
    (hanswers : AnswersAll history ops answers)
    (hrequests : x.requests = requestsAfter h.config.engineOptions history ops)
  /-- A run that the history calls for got stuck, with its request the last that reached the
  engine. -/
  | stalled (s : Stalled) (done : List Operation) (op : Operation) (rest : List Operation)
    (hops : ops = done ++ op :: rest) (hvalue : x.run.value = .error s) (hs : h.Stalls s)
    (hrun : requestAfter h.config.engineOptions (history ++ done) op ≠ none)
    (hrequests : x.requests = requestsAfter h.config.engineOptions history (done ++ [op]))

section

variable {p : Processor} {lock : EngineLock S}

theorem session_cons_of_stuck (ops : List Operation) {s : Stalled}
    (hanswer : (p.answer h lock op).run.value = .error s) :
    (p.session h lock (op :: ops)).run.value = .error s ∧
      (p.session h lock (op :: ops)).requests = (p.answer h lock op).requests := by
  rw [session, value_bind, requests_bind, hanswer]
  exact ⟨rfl, List.append_nil _⟩

theorem session_cons_of_answer (ops : List Operation) {reply : Answer} {next : EngineLock S}
    (hanswer : (p.answer h lock op).run.value = .ok (reply, next)) :
    let rest := (p.after op).session (h.after (p.answer h lock op).fetches) next ops
    (p.session h lock (op :: ops)).run.value =
        rest.run.value.map (fun r => (reply :: r.1, r.2)) ∧
      (p.session h lock (op :: ops)).requests =
        (p.answer h lock op).requests ++ rest.requests := by
  intro rest
  rw [session, value_bind, requests_bind, hanswer]
  dsimp only
  rw [value_bind, requests_bind]
  cases rest.run.value with
  | error s => exact ⟨rfl, congrArg _ (List.append_nil _)⟩
  | ok r => exact ⟨rfl, congrArg _ (List.append_nil _)⟩

end

/-- **A session** goes as its history calls for. -/
theorem session_goes (hsteady : h.NeverPanics) (history ops : List Operation) (state : S) :
    Goes h history ops ((remembered history).session h (.free state) ops) := by
  -- the processor is carried along as its history, which grows by one operation at a time, and the
  -- fetcher with its memory
  induction ops generalizing h history state with
  | nil => exact .returned [] state (by rw [List.append_nil]; rfl) .nil rfl
  | cons op ops ih =>
    obtain ⟨hsent, hstuck, hreturns⟩ := answer_sends hsteady history op state
    cases hanswer : ((remembered history).answer h (.free state) op).run.value with
    | error s =>
      obtain ⟨hs, hrun⟩ := hstuck s hanswer
      obtain ⟨hvalue, hrequests⟩ := session_cons_of_stuck ops hanswer
      refine .stalled s [] op ops rfl hvalue hs (by rwa [List.append_nil]) ?_
      rw [hrequests, hsent, List.nil_append, requestsAfter, requestsAfter, List.append_nil]
    | ok r =>
      obtain ⟨reply, lock⟩ := r
      -- the engine is free again, so the rest of the session finds it as this operation did
      obtain ⟨hfits, next, rfl⟩ := hreturns _ hanswer
      obtain ⟨hvalue, hrequests⟩ := session_cons_of_answer ops hanswer
      rw [← remembered_concat] at hvalue hrequests
      rw [hsent] at hrequests
      cases ih (hsteady.after _) (history ++ [op]) next with
      | returned answers final hrest hanswers hsent' =>
        rw [hrest, List.append_assoc] at hvalue
        rw [hsent'] at hrequests
        exact .returned (reply :: answers) final hvalue (.cons hfits hanswers) hrequests
      | stalled s done stuck rest hops hrest hs hrun hsent' =>
        rw [hrest] at hvalue
        rw [hsent'] at hrequests
        rw [List.append_assoc] at hrun
        exact .stalled s (op :: done) stuck rest (congrArg _ hops) hvalue hs.of_after hrun hrequests

/-- What becomes of operations on a new processor. -/
structure Refined (h : Host S X I D T) (ops : List Operation) : Prop where
  session : ∀ state, Goes h [] ops (({} : Processor).session h (.free state) ops)
  /-- A source without a stylesheet for it, or one that is no document, is answered at once; neither
  the engine nor the fetcher is asked for anything. -/
  refused : ∀ mode source (lock : EngineLock S),
    requestAfter h.config.engineOptions ops (.transform mode source) = none →
    ∃ cause, Answers ops (.transform mode source) (.transformed (.ok (.error cause))) ∧
      (remembered ops).answer h lock (.transform mode source) =
        pure (.transformed (.ok (.error cause)), lock)
  /-- A run changes nothing that is remembered. -/
  transformed : ∀ mode source, remembered (ops ++ [.transform mode source]) = remembered ops
  /-- Nor does an import that brings no document. -/
  notImported : ∀ bytes baseUri fault, Document.check bytes = .error fault →
    remembered (ops ++ [.importStylesheet bytes baseUri]) = remembered ops
  /-- The parameters are a map from names to the values that they were last given. -/
  distinct : ((remembered ops).parameters.map Prod.fst).Nodup
  parameters : ∀ name value, (name, value) ∈ (remembered ops).parameters ↔
    valueOf ops name = some value
  /-- A new value stands where the old one stood, and a new name at the end. -/
  replaced : ∀ ns name value, name ∈ (remembered ops).parameters.map Prod.fst →
    (remembered (ops ++ [.setParameter ns name value])).parameters =
      (remembered ops).parameters.map fun q => (q.1, if q.1 = name then value else q.2)
  added : ∀ ns name value, name ∉ (remembered ops).parameters.map Prod.fst →
    (remembered (ops ++ [.setParameter ns name value])).parameters =
      (remembered ops).parameters ++ [(name, value)]
  /-- A name that was removed before it is set again moves to the end. -/
  moved : ∀ ns ns' name value,
    (remembered (ops ++ [.removeParameter ns name, .setParameter ns' name value])).parameters =
      (remembered ops).parameters.filter (·.1 != name) ++ [(name, value)]

/-- **A processor** answers, remembers and sends to the engine what its history calls for. -/
theorem session_refined (hsteady : h.NeverPanics) (ops : List Operation) : Refined h ops where
  session state := session_goes hsteady [] ops state
  refused mode source lock hnone := answer_of_refused lock hnone
  transformed mode source := remembered_concat
  notImported bytes baseUri fault hfault := by
    rw [remembered_concat, after_import, Operation.stylesheet?, hfault]
    rfl
  distinct := parametersOf_nodup ops
  parameters name value := mem_parametersOf_iff
  replaced ns name value hname := by
    rw [remembered_concat]
    exact setIn_of_mem (parametersOf_nodup ops) hname
  added ns name value hname := by
    rw [remembered_concat]
    exact setIn_of_not_mem hname
  moved ns ns' name value := by
    rw [← List.singleton_append, ← List.append_assoc, remembered_concat, remembered_concat]
    -- the name was just removed
    refine setIn_of_not_mem fun hname => ?_
    obtain ⟨q, hq, rfl⟩ := List.mem_map.1 hname
    exact absurd (List.mem_filter.1 hq).2 (by simp)

end

/-- Operations that set three parameters, one of them again after it was removed, and then transform
a source. -/
def resetting : List Operation :=
  [.importStylesheet (Utf8.encode "<s/>") none, .setParameter none "a" "1",
    .setParameter none "b" "2", .setParameter (some "ns") "c" "3", .removeParameter none "a",
    .importStylesheet (Utf8.encode "<s>") none, .setParameter none "a" "it's",
    .setParameter none "c" "4", .transform .blocking (Utf8.encode "<d/>")]

theorem resetting_sends : plainHost.NeverPanics ∧
    (({} : Processor).session plainHost (.free ()) resetting).requests =
      [⟨Utf8.encode "<d/>", Utf8.encode "<s/>", "about:blank",
        [("b", "'2'"), ("c", "'4'"), ("a", "\"it's\"")], {}⟩] := by
  refine ⟨plainHost_neverPanics, ?_⟩
  have hcalled : requestsAfter plainHost.config.engineOptions [] resetting =
      [⟨Utf8.encode "<d/>", Utf8.encode "<s/>", "about:blank",
        [("b", "'2'"), ("c", "'4'"), ("a", "\"it's\"")], {}⟩] := by cbv
  cases (session_refined plainHost_neverPanics resetting).session () with
  | returned answers next hvalue hanswers hrequests => rw [hrequests, hcalled]
  | stalled s done op rest hops hvalue hs hrun hrequests =>
    cases hs.fetch_eq (Fetcher.forgetful_ofOutcomes _ _)

end Processor

end StyleHost
