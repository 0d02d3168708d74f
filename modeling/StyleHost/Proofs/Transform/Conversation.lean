import StyleHost.Proofs.Fetch.Series
import StyleHost.Proofs.Transform.Poisoning
import StyleHost.Proofs.Transform.Requests

/-!
# How an engine is answered

An engine asks its questions one after another, each depending on the answers so far. With a fetcher
that has no memory, how each of them is answered does not depend on those before: a selection comes
back as the sorter of the host leaves it, and a document is there just if the policy admits its URI,
the fetcher gives bytes, and the engine can parse them. `Host.Converses` says so, without bridges,
counters or services.

* `Host.Converses` : an engine is answered to the end of a run.
* `Host.converses_run` : so it goes in every run whose fetcher neither breaks down nor remembers,
  and in no other way (`Host.Converses.unique`).
* `Host.Converses.breaksOver` : an engine that does not break down by itself can only be brought
  down by the collation data.
-/

namespace StyleHost

open HostM

variable {S X I D T : Type} {h : Host S X I D T} {i : Interaction S X I D T}

/-- How the conversation of a run ends: the engine ends it, something breaks down, or a fetch never
settles. -/
abbrev Host.Close (S T : Type) := Except Stalled (Except Panic (S × Except EngineError T))

namespace Host

/-- The document at a URI, as an engine gets it. -/
def document? (h : Host S X I D T) (parse : DocumentParser D) (uri : String) : Option D := do
  (parse (← h.bridge.answer uri) uri).toOption

/-- An engine that goes on with `i` is answered with `told`, and so it comes to an end. -/
inductive Converses (h : Host S X I D T) :
    Interaction S X I D T → List (Exchange X I D T) → Close S T → Prop
  | sorted {evaluate : Evaluator X I} {items : Array I} {specs : List (SortSpec X)}
    {resume : Array I → Interaction S X I D T} {told : List (Exchange X I D T)} {close : Close S T}
    (hsorted : (h.sorter.sort evaluate items specs).breakdown = none)
    (hrest : Converses h (resume (h.sorter.sort evaluate items specs).items) told close) :
    Converses h (.sort evaluate items specs resume)
      (.sorted (h.sorter.sort evaluate items specs) :: told) close
  | unsorted {evaluate : Evaluator X I} {items : Array I} {specs : List (SortSpec X)}
    {resume : Array I → Interaction S X I D T} {cause : Panic}
    (hbroken : (h.sorter.sort evaluate items specs).breakdown = some cause) :
    Converses h (.sort evaluate items specs resume) [] (.ok (.error cause))
  | loaded {parse : DocumentParser D} {uri : String} {kind : LoadKind}
    {resume : Option D → Interaction S X I D T} {told : List (Exchange X I D T)} {close : Close S T}
    (hsettles : h.bridge.Settles uri)
    (hrest : Converses h (resume (h.document? parse uri)) told close) :
    Converses h (.load parse uri kind resume) (.loaded (h.document? parse uri) :: told) close
  | stuck {parse : DocumentParser D} {uri : String} {kind : LoadKind}
    {resume : Option D → Interaction S X I D T} (hstalls : ¬h.bridge.Settles uri) :
    Converses h (.load parse uri kind resume) [] (.error ⟨uri⟩)
  | finished (state : S) (result : Except EngineError T) :
    Converses h (.finish state result) [] (.ok (.ok (state, result)))
  | panicked (cause : Panic) : Converses h (.panic cause) [] (.ok (.error cause))

end Host

/-! ### One answer -/

section

variable {b : Bridge} {uri : String}

theorem Bridge.serve_tells (hcalm : b.fetcher.Calm)
    (hsettles : b.fetcher.fetch uri = .stalls → b.timeoutMs.isSome = true) :
    Tells (b.serve uri : HostM (Exchange X I D T) _) []
      (.ok ((b.fetcher.fetch uri).reply, .serving)) := by
  unfold serve
  refine (Tells.note _).bind ((Tells.fetched uri).bind ?_)
  cases hfetch : b.fetcher.fetch uri with
  | bytes content => exact (Tells.note _).bind (.pure _)
  | fails cause => exact (Tells.note _).bind (.pure _)
  | stalls =>
    dsimp only
    rw [if_pos (hsettles hfetch)]
    exact (Tells.note _).bind (.pure _)
  | panics panic => exact absurd hfetch (hcalm.fetch_ne uri panic)

/-- What a bridge answers. The engine does not hear of what the fetcher is asked. -/
theorem Bridge.fetch_tells (hcalm : b.fetcher.Calm) (hforgets : b.fetcher.Forgetful)
    (hservice : b.service = .serving) (hsettles : b.Settles uri) :
    Tells (b.fetch uri : HostM (Exchange X I D T) _) [] (.ok (b.answer uri, b)) := by
  have hkept : { b with fetcher := b.fetcher.after [uri], service := .serving } = b := by
    rw [hforgets.after_eq, ← hservice]
  unfold fetch answer
  split
  case isTrue hadmits =>
    rw [hservice]
    refine (serve_tells hcalm (hsettles hadmits)).bind ?_
    dsimp only
    rw [hkept]
    exact .pure _
  case isFalse => exact (Tells.note _).bind (.pure _)

/-- Where a bridge gets stuck. -/
theorem Bridge.fetch_stuck (hservice : b.service = .serving) (hstalls : ¬b.Settles uri) :
    Tells (b.fetch uri : HostM (Exchange X I D T) _) [] (.error ⟨uri⟩) := by
  rw [Settles, Classical.not_imp, Classical.not_imp] at hstalls
  obtain ⟨hadmits, hfetch, htimeout⟩ := hstalls
  have hserve : Tells (b.serve uri : HostM (Exchange X I D T) _) [] (.error ⟨uri⟩) := by
    unfold serve
    refine (Tells.note _).bind ((Tells.fetched uri).bind ?_)
    rw [hfetch]
    dsimp only
    rw [if_neg htimeout]
    exact .throw _
  unfold fetch
  rw [if_pos hadmits, hservice]
  exact hserve.bind_stuck

end

/-- What a resolver answers. -/
theorem Resolver.resolve_tells {r : Resolver} (hr : r.bridge = h.bridge)
    (hcalm : h.fetcher.Calm) (hforgets : h.fetcher.Forgetful) {uri : String}
    (hsettles : h.bridge.Settles uri) (parse : DocumentParser D) (kind : LoadKind) :
    ∃ r' : Resolver, r'.bridge = h.bridge ∧
      Tells (r.resolve parse uri kind : HostM (Exchange X I D T) _) []
        (.ok (h.document? parse uri, r')) := by
  have hfetch : Tells (r.bridge.fetch uri : HostM (Exchange X I D T) _) []
      (.ok (h.bridge.answer uri, h.bridge)) := by
    rw [hr]
    exact Bridge.fetch_tells hcalm hforgets rfl hsettles
  unfold resolve Host.document?
  cases hanswer : h.bridge.answer uri with
  | none =>
    rw [hanswer] at hfetch
    exact ⟨_, rfl, (Tells.note _).bind (hfetch.bind (.pure _))⟩
  | some content =>
    rw [hanswer] at hfetch
    change ∃ r', _ ∧ Tells _ [] (.ok ((parse content uri).toOption, r'))
    cases hparse : parse content uri with
    | ok document =>
      refine ⟨Resolver.countLoaded { r with bridge := h.bridge }, rfl,
        (Tells.note _).bind (hfetch.bind ?_)⟩
      dsimp only
      rw [hparse]
      exact .pure _
    | error cause =>
      refine ⟨Resolver.countFailed { r with bridge := h.bridge }, rfl,
        (Tells.note _).bind (hfetch.bind ?_)⟩
      dsimp only
      rw [hparse]
      exact (Tells.note _).bind (.pure _)

theorem Interaction.giveSorted_tells (sorted : Sorter.Sorted X I) :
    Tells (giveSorted sorted : HostM (Exchange X I D T) Unit)
      (if sorted.breakdown.isNone then [.sorted sorted] else []) (.ok ()) := by
  have hnotes : ∀ notices : List Notice, Tells (forIn notices PUnit.unit fun notice _ => do
      HostM.note notice
      return ForInStep.yield PUnit.unit : HostM (Exchange X I D T) PUnit) [] (.ok ()) := by
    intro notices
    induction notices with
    | nil => exact .pure _
    | cons notice notices ih =>
      rw [List.forIn_cons, bind_assoc]
      refine (Tells.note notice).bind ?_
      rw [pure_bind]
      exact ih
  -- only a sort that went well is given back
  unfold giveSorted
  by_cases hnone : sorted.breakdown.isNone = true
  · rw [if_pos hnone, if_pos hnone]
    exact (hnotes _).bind (.exchange _)
  · rw [if_neg hnone, if_neg hnone]
    exact (hnotes _).bind (.pure _)

/-! ### All answers -/

/-- **How an engine is answered** in a run whose fetcher neither breaks down nor remembers. -/
theorem Host.converses_run (hcalm : h.fetcher.Calm) (hforgets : h.fetcher.Forgetful)
    (i : Interaction S X I D T) {r : Resolver} (hr : r.bridge = h.bridge) :
    ∃ told close, h.Converses i told close ∧
      ∃ ended, close = ended.map Prod.fst ∧ Tells (i.run h.sorter r) told ended := by
  -- the counters of the resolver change with every document, its bridge does not
  induction i generalizing r with
  | sort evaluate items specs resume ih =>
    have hgiven := Interaction.giveSorted_tells (D := D) (T := T)
      (h.sorter.sort evaluate items specs)
    rw [Interaction.run]
    cases hbreakdown : (h.sorter.sort evaluate items specs).breakdown with
    | some cause =>
      rw [hbreakdown] at hgiven
      exact ⟨_, _, .unsorted hbreakdown, _, rfl, hgiven.bind (.pure _)⟩
    | none =>
      rw [hbreakdown] at hgiven
      obtain ⟨told, close, hconverses, ended, hclose, htells⟩ :=
        ih (h.sorter.sort evaluate items specs).items hr
      exact ⟨_, close, .sorted hbreakdown hconverses, ended, hclose, hgiven.bind htells⟩
  | load parse uri kind resume ih =>
    rw [Interaction.run]
    by_cases hsettles : h.bridge.Settles uri
    · obtain ⟨r', hr', hresolve⟩ := Resolver.resolve_tells (X := X) (I := I) (T := T) hr hcalm
        hforgets hsettles parse kind
      obtain ⟨told, close, hconverses, ended, hclose, htells⟩ := ih (h.document? parse uri) hr'
      exact ⟨_, close, .loaded hsettles hconverses, ended, hclose,
        hresolve.bind ((Tells.exchange _).bind htells)⟩
    · have hresolve : Tells (r.resolve parse uri kind : HostM (Exchange X I D T) _) []
          (.error ⟨uri⟩) := by
        unfold Resolver.resolve
        rw [hr]
        exact (Tells.note _).bind (Bridge.fetch_stuck rfl hsettles).bind_stuck
      exact ⟨_, _, .stuck hsettles, _, rfl, hresolve.bind_stuck⟩
  | finish state result => exact ⟨_, _, .finished state result, _, rfl, .pure _⟩
  | panic cause => exact ⟨_, _, .panicked cause, _, rfl, .pure _⟩

/-- The host has no choice in how it answers. -/
theorem Host.Converses.unique {told told' : List (Exchange X I D T)} {close close' : Close S T}
    (hconverses : h.Converses i told close) (hother : h.Converses i told' close') :
    told = told' ∧ close = close' := by
  induction hconverses generalizing told' close' with
  | sorted hsorted _ ih =>
    cases hother with
    | sorted _ hrest =>
      obtain ⟨rfl, rfl⟩ := ih hrest
      exact ⟨rfl, rfl⟩
    | unsorted hbroken => rw [hsorted] at hbroken; cases hbroken
  | unsorted hbroken =>
    cases hother with
    | sorted hsorted => rw [hbroken] at hsorted; cases hsorted
    | unsorted hother =>
      rw [hbroken] at hother
      cases hother
      exact ⟨rfl, rfl⟩
  | loaded hsettles _ ih =>
    cases hother with
    | loaded _ hrest =>
      obtain ⟨rfl, rfl⟩ := ih hrest
      exact ⟨rfl, rfl⟩
    | stuck hstalls => exact absurd hsettles hstalls
  | stuck hstalls =>
    cases hother with
    | loaded hsettles => exact absurd hsettles hstalls
    | stuck => exact ⟨rfl, rfl⟩
  | finished | panicked =>
    cases hother
    exact ⟨rfl, rfl⟩

/-! ### Breakdowns -/

/-- An engine that goes on with `i` comes to have a selection sorted by a key. -/
inductive Host.SortsBy (h : Host S X I D T) : Interaction S X I D T → SortSpec X → Prop
  | now {evaluate : Evaluator X I} {items : Array I} {specs : List (SortSpec X)}
    {resume : Array I → Interaction S X I D T} {spec : SortSpec X} (hspec : spec ∈ specs) :
    SortsBy h (.sort evaluate items specs resume) spec
  | sorted {evaluate : Evaluator X I} {items : Array I} {specs : List (SortSpec X)}
    {resume : Array I → Interaction S X I D T} {spec : SortSpec X}
    (hsorted : (h.sorter.sort evaluate items specs).breakdown = none)
    (hlater : SortsBy h (resume (h.sorter.sort evaluate items specs).items) spec) :
    SortsBy h (.sort evaluate items specs resume) spec
  | loaded {parse : DocumentParser D} {uri : String} {kind : LoadKind}
    {resume : Option D → Interaction S X I D T} {spec : SortSpec X}
    (hsettles : h.bridge.Settles uri) (hlater : SortsBy h (resume (h.document? parse uri)) spec) :
    SortsBy h (.load parse uri kind resume) spec

/-- **What brings an engine down** that does not break down by itself: the collation data do, over
a key that it sorts by. -/
theorem Host.Converses.breaksOver {told : List (Exchange X I D T)} {close : Close S T}
    {cause : Panic} (hconverses : h.Converses i told close) (hi : i.PanicFree)
    (hclose : close = .ok (.error cause)) :
    ∃ spec, h.SortsBy i spec ∧ h.sorter.BreaksOver spec cause := by
  induction hconverses with
  | sorted hsorted _ ih =>
    obtain ⟨spec, hlater, hover⟩ := ih (hi _) hclose
    exact ⟨spec, .sorted hsorted hlater, hover⟩
  | unsorted hbroken =>
    cases hclose
    obtain ⟨spec, hspec, hover⟩ := Sorter.breaksOver_of_sort hbroken
    exact ⟨spec, .now hspec, hover⟩
  | loaded hsettles _ ih =>
    obtain ⟨spec, hlater, hover⟩ := ih (hi _) hclose
    exact ⟨spec, .loaded hsettles hlater, hover⟩
  | stuck | finished => cases hclose
  | panicked => exact hi.elim

end StyleHost
