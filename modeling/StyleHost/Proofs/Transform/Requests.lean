import StyleHost.Proofs.Fetch.Memory
import StyleHost.Proofs.Record
import StyleHost.Proofs.Sort.Breakdown
import StyleHost.Result.Plain
import StyleHost.Transform.Load

/-!
# What engines are started with

The record of a computation tells which requests reached an engine. A run starts its engine once,
with its own request, unless the engine broke down before (`Host.transform_sends`). All else that a
host does starts none.

* `HostM.requests` : the requests that reach the engine.
* `HostM.Sends` : which requests those are, and how the computation ends.
* `Host.NeverPanics` : the engine breaks down in no run. Then the next run always gets hold of it.
* `Interaction.PanicFree` : the engine does not break down by itself.

To a run it makes no difference whether its engine breaks down by itself or is brought down by the
collation data in the middle of a sort, so what matters for the runs after it is `Host.NeverPanics`.
An engine can answer for itself alone: `Interaction.PanicFree` says nothing about the data. The
first follows from the second where the data do not break down over any key
(`Host.neverPanics_of_panicFree`).
-/

namespace StyleHost

variable {S X I D T α β : Type}

/-- The request that an exchange starts an engine with. -/
def Exchange.began? : Exchange X I D T → Option Request
  | .began request => some request
  | _ => none

/-- A fetch that never settles, after any others, with nothing to cut it short. -/
structure Stalled.Of (fetcher : Fetcher) (timeoutMs : Option UInt64) (s : Stalled) : Prop where
  stalls : ∃ later : Fetcher, later.Follows fetcher ∧ later.fetch s.uri = .stalls
  timeout : timeoutMs = none

theorem Stalled.Of.of_follows {fetcher later : Fetcher} {timeoutMs : Option UInt64} {s : Stalled}
    (h : s.Of later timeoutMs) (hlater : later.Follows fetcher) : s.Of fetcher timeoutMs := by
  obtain ⟨last, hlast, hstalls⟩ := h.stalls
  exact ⟨⟨last, hlast.trans hlater, hstalls⟩, h.timeout⟩

/-- A fetcher without a memory stalls over the same documents at all times. -/
theorem Stalled.Of.fetch_eq {fetcher : Fetcher} {timeoutMs : Option UInt64} {s : Stalled}
    (h : s.Of fetcher timeoutMs) (hforgets : fetcher.Forgetful) :
    fetcher.fetch s.uri = .stalls := by
  obtain ⟨_, ⟨uris, rfl⟩, hstalls⟩ := h.stalls
  rwa [hforgets.after_eq] at hstalls

/-- A bridge to what is left of a fetcher. -/
structure Bridge.Reaches (b : Bridge) (fetcher : Fetcher) (timeoutMs : Option UInt64) : Prop where
  fetcher : b.fetcher.Follows fetcher
  timeoutMs : b.timeoutMs = timeoutMs

namespace HostM

/-- The requests that reach the engine in a computation. -/
def requests (x : HostM (Exchange X I D T) α) : List Request :=
  x.exchanges.filterMap Exchange.began?

theorem requests_bind (x : HostM (Exchange X I D T) α) (f : α → HostM (Exchange X I D T) β) :
    (x >>= f).requests = x.requests ++ match x.run.value with
      | .ok a => (f a).requests
      | .error _ => [] := by
  unfold requests exchanges
  rw [ExceptT.run_bind, Recorded.events_bind, List.filterMap_append, List.filterMap_append]
  cases x.run.value <;> rfl

/-- The requests `rs` reach the engine in `x`, whether it returns or gets stuck. Where it gets stuck
satisfies `F`, and what it returns satisfies `Q`. -/
structure Sends (rs : List Request) (F : Stalled → Prop) (x : HostM (Exchange X I D T) α)
    (Q : α → Prop) : Prop where
  requests : x.requests = rs
  stuck : ∀ s, x.run.value = .error s → F s
  returns : ∀ a, x.run.value = .ok a → Q a

section Rules

variable {rs : List Request} {F : Stalled → Prop} {Q : α → Prop} {R : β → Prop}
  {x : HostM (Exchange X I D T) α} {f : α → HostM (Exchange X I D T) β}

theorem Sends.pure {a : α} (h : Q a) : Sends [] F (pure a : HostM (Exchange X I D T) α) Q :=
  ⟨rfl, nofun, fun _ ha => Except.ok.inj ha ▸ h⟩

theorem Sends.throw {s : Stalled} (h : F s) :
    Sends [] F (throw s : HostM (Exchange X I D T) α) Q :=
  ⟨rfl, fun _ hs => Except.error.inj hs ▸ h, nofun⟩

theorem Sends.note (n : Notice) :
    Sends [] F (note n : HostM (Exchange X I D T) Unit) fun _ => True :=
  ⟨rfl, nofun, fun _ _ => trivial⟩

theorem Sends.fetched (uri : String) :
    Sends [] F (emit (.fetched uri) : HostM (Exchange X I D T) Unit) fun _ => True :=
  ⟨rfl, nofun, fun _ _ => trivial⟩

theorem Sends.exchange (a : Exchange X I D T) :
    Sends a.began?.toList F (exchange a) fun _ => True := by
  refine ⟨?_, nofun, fun _ _ => trivial⟩
  change [a].filterMap Exchange.began? = _
  cases h : a.began? with
  | none => exact List.filterMap_cons_none h
  | some request => exact List.filterMap_cons_some h

theorem Sends.bind (hx : Sends rs F x Q) (hf : ∀ a, Q a → Sends [] F (f a) R) :
    Sends rs F (x >>= f) R := by
  constructor
  · rw [requests_bind, hx.requests]
    cases hv : x.run.value with
    | ok a => exact (congrArg _ (hf a (hx.returns a hv)).requests).trans (List.append_nil _)
    | error s => exact List.append_nil _
  · intro s hs
    rw [value_bind] at hs
    cases hv : x.run.value with
    | ok a =>
      rw [hv] at hs
      exact (hf a (hx.returns a hv)).stuck s hs
    | error s' =>
      rw [hv] at hs
      exact Except.error.inj hs ▸ hx.stuck s' hv
  · intro b hb
    obtain ⟨a, ha, hb⟩ := value_bind_eq_ok_iff.1 hb
    exact (hf a (hx.returns a ha)).returns b hb

/-- What comes before cannot get stuck and starts no engine. -/
theorem Sends.bind_left {a : α} (hv : x.run.value = .ok a) (hx : x.requests = [])
    (hf : Sends rs F (f a) R) : Sends rs F (x >>= f) R := by
  have hvalue : (x >>= f).run.value = (f a).run.value := by rw [value_bind, hv]
  constructor
  · rw [requests_bind, hx, hv]
    exact hf.requests
  · rw [hvalue]
    exact hf.stuck
  · rw [hvalue]
    exact hf.returns

theorem Sends.map {f : α → β} (hx : Sends rs F x Q) : Sends rs F (f <$> x) fun _ => True := by
  rw [← bind_pure_comp]
  exact hx.bind fun _ _ => .pure trivial

end Rules

end HostM

open HostM

/-! ### Work that starts no engine -/

section

variable {F : Stalled → Prop}

theorem WorkM.sends_bind {x : WorkM (Exchange X I D T) α} {f : α → WorkM (Exchange X I D T) β}
    (hx : Sends [] F x.run fun _ => True) (hf : ∀ a, Sends [] F (f a).run fun _ => True) :
    Sends [] F (x >>= f).run fun _ => True := by
  rw [ExceptT.run_bind]
  refine hx.bind fun r _ => ?_
  cases r with
  | ok a => exact hf a
  | error e => exact .pure trivial

theorem Bridge.settle_sends (mode : Mode) (service : Service) (outcome : Except Panic α) :
    Sends [] F (settle mode service outcome : HostM (Exchange X I D T) _) fun _ => True := by
  unfold settle
  split
  · exact .pure trivial
  · exact (Sends.note _).bind fun _ _ => .pure trivial
  · exact .pure trivial
  · exact .pure trivial

theorem Interaction.giveSorted_sends (sorted : Sorter.Sorted X I) :
    Sends [] F (giveSorted sorted : HostM (Exchange X I D T) Unit) fun _ => True := by
  have hnotes : ∀ notices : List Notice, Sends [] F (forIn notices PUnit.unit fun notice _ => do
      HostM.note notice
      return ForInStep.yield PUnit.unit : HostM (Exchange X I D T) PUnit) fun _ => True := by
    intro notices
    induction notices with
    | nil => exact .pure trivial
    | cons notice notices ih =>
      rw [List.forIn_cons, bind_assoc]
      refine (Sends.note notice).bind fun _ _ => ?_
      rw [pure_bind]
      exact ih
  unfold giveSorted
  refine (hnotes _).bind fun _ _ => ?_
  split
  · exact .exchange (.sorted sorted)
  · exact .pure trivial

theorem Host.deliver_sends [ResultTree T] (tree : T) :
    Sends [] F (deliver tree : WorkM (Exchange X I D T) _).run fun _ => True := by
  have hencoding : Sends [] F (ResultTree.declareEncoding tree : WorkM (Exchange X I D T) _).run
      fun _ => True := by
    unfold ResultTree.declareEncoding
    refine WorkM.sends_bind (.pure trivial) fun content? => ?_
    cases content? with
    | none => exact .pure trivial
    | some content =>
      refine WorkM.sends_bind (Sends.note _).map fun _ => ?_
      exact WorkM.sends_bind (.pure trivial) fun _ => .pure trivial
  unfold deliver
  refine WorkM.sends_bind (.pure trivial) fun _ => WorkM.sends_bind hencoding fun r => ?_
  refine WorkM.sends_bind (Sends.exchange (.serialized r.1)).map fun _ => ?_
  refine WorkM.sends_bind (.pure trivial) fun result => ?_
  cases result <;> exact .pure trivial

end

/-! ### Conversations -/

section

variable {fetcher : Fetcher} {timeoutMs : Option UInt64}

/-- A fetch only gets stuck where the fetcher does. -/
theorem Bridge.fetch_sends {b : Bridge} (hb : b.Reaches fetcher timeoutMs) (uri : String) :
    Sends [] (Stalled.Of fetcher timeoutMs) (b.fetch uri : HostM (Exchange X I D T) _)
      fun r => r.2.Reaches fetcher timeoutMs := by
  have hserve : Sends [] (Stalled.Of fetcher timeoutMs)
      (b.serve uri : HostM (Exchange X I D T) _) fun _ => True := by
    unfold serve
    refine (Sends.note _).bind fun _ _ => (Sends.fetched _).bind fun _ _ => ?_
    split
    · exact (Sends.note _).bind fun _ _ => .pure trivial
    · exact (Sends.note _).bind fun _ _ => .pure trivial
    · rename_i hstalls
      split
      · exact (Sends.note _).bind fun _ _ => .pure trivial
      · rename_i htimeout
        rw [hb.timeoutMs, Option.not_isSome_iff_eq_none] at htimeout
        exact .throw ⟨⟨b.fetcher, hb.fetcher, hstalls⟩, htimeout⟩
    · exact (Sends.note _).bind fun _ _ => .pure trivial
  have hafter : (b.fetcher.after [uri]).Follows fetcher :=
    (Fetcher.follows_after _ _).trans hb.fetcher
  unfold fetch
  split
  · split
    · exact hserve.bind fun _ _ => .pure ⟨hafter, hb.timeoutMs⟩
    · exact (Sends.note _).bind fun _ _ => .pure hb
    · exact (Sends.note _).bind fun _ _ => .pure hb
  · exact (Sends.note _).bind fun _ _ => .pure hb

theorem Resolver.resolve_sends {r : Resolver} (hr : r.bridge.Reaches fetcher timeoutMs)
    (parse : DocumentParser D) (uri : String) (kind : LoadKind) :
    Sends [] (Stalled.Of fetcher timeoutMs)
      (r.resolve parse uri kind : HostM (Exchange X I D T) _)
      fun a => a.2.bridge.Reaches fetcher timeoutMs := by
  unfold resolve
  refine (Sends.note _).bind fun _ _ => (Bridge.fetch_sends hr uri).bind ?_
  rintro ⟨_ | content, bridge⟩ hbridge
  · exact .pure hbridge
  · dsimp only
    split
    · exact .pure hbridge
    · exact (Sends.note _).bind fun _ _ => .pure hbridge

/-- **A conversation** goes on with the engine that it began with. -/
theorem Interaction.run_sends (sorter : Sorter) (i : Interaction S X I D T) {r : Resolver}
    (hr : r.bridge.Reaches fetcher timeoutMs) :
    Sends [] (Stalled.Of fetcher timeoutMs) (i.run sorter r) fun _ => True := by
  -- the resolver changes with every document, but its bridge keeps to what is left of the fetcher
  induction i generalizing r with
  | sort evaluate items specs resume ih =>
    rw [run]
    refine (giveSorted_sends _).bind fun _ _ => ?_
    split
    · exact .pure trivial
    · exact ih _ hr
  | load parse uri kind resume ih =>
    rw [run]
    refine (Resolver.resolve_sends hr parse uri kind).bind fun a ha => ?_
    exact (Sends.exchange (.loaded a.1)).bind fun _ _ => ih _ ha
  | finish state result => exact .pure trivial
  | panic cause => exact .pure trivial

end

namespace Host

/-! ### Runs -/

/-- However a run is started, and whatever the fetcher was asked for before, its conversation with
the engine does not end in a breakdown. -/
def NeverPanics (h : Host S X I D T) : Prop :=
  ∀ before request state panic resolver, ((h.engine.start state request).run h.sorter
    { bridge := (h.after before).bridge }).run.value ≠ .ok (.error panic, resolver)

theorem NeverPanics.after {h : Host S X I D T} (hsteady : h.NeverPanics) (uris : List String) :
    (h.after uris).NeverPanics := by
  intro before request
  rw [after_after]
  exact hsteady (uris ++ before) request

/-- The fetches on which a run of a host can get stuck. -/
abbrev Stalls (h : Host S X I D T) : Stalled → Prop := Stalled.Of h.fetcher h.config.fetchTimeoutMs

theorem Stalls.of_after {h : Host S X I D T} {uris : List String} {s : Stalled}
    (hs : (h.after uris).Stalls s) : h.Stalls s :=
  Stalled.Of.of_follows hs (Fetcher.follows_after _ uris)

variable [ResultTree T] (h : Host S X I D T)

theorem workFrom_sends (request : Request) (state : S) :
    Sends [request] h.Stalls (h.workFrom request state)
      fun worked => h.NeverPanics → ∃ next, worked.lock = .free next := by
  unfold workFrom
  refine (Sends.exchange (.began request)).bind fun _ _ => ?_
  have hrun := Interaction.run_sends h.sorter (h.engine.start state request)
    (r := { bridge := h.bridge }) ⟨.refl _, rfl⟩
  -- what the conversation returns is kept as it is, since a breakdown is told by it alone
  refine Sends.bind ⟨hrun.requests, hrun.stuck, fun ended hended => hended⟩ ?_
  rintro ⟨cause | ⟨next, cause | tree⟩, resolver⟩ hended
  · exact .pure fun hsteady => absurd hended (hsteady [] request state cause resolver)
  · exact .pure fun _ => ⟨next, rfl⟩
  · exact (deliver_sends tree).bind fun _ _ => .pure fun _ => ⟨next, rfl⟩

/-- **A run** starts the engine with its request. If the engine does not break down, it is free for
the next run. -/
theorem transform_sends (mode : Mode) (request : Request) (state : S) :
    Sends [request] h.Stalls (h.transform mode request (.free state))
      fun r => h.NeverPanics → ∃ next, r.2 = .free next := by
  have hwork : Sends [request] h.Stalls (h.work request (.free state))
      fun worked => h.NeverPanics → ∃ next, worked.lock = .free next :=
    .bind_left rfl rfl (h.workFrom_sends request state)
  exact hwork.bind fun _ hlock => (Bridge.settle_sends _ _ _).bind fun _ _ => .pure hlock

/-- A run after a breakdown of the engine does not get hold of it. -/
theorem transform_sends_of_poisoned (mode : Mode) (request : Request) :
    Sends [] h.Stalls (h.transform mode request .poisoned) fun r => r.2 = .poisoned := by
  have hwork : Sends [] h.Stalls (h.work request (.poisoned : EngineLock S))
      fun worked => worked.lock = .poisoned :=
    .bind_left rfl rfl (.pure rfl)
  exact hwork.bind fun _ hlock => (Bridge.settle_sends _ _ _).bind fun _ _ => .pure hlock

end Host

/-! ### Engines that do not break down -/

/-- An engine that does not break down by itself, whatever it is answered. -/
def Interaction.PanicFree : Interaction S X I D T → Prop
  | .sort _ _ _ resume => ∀ items, (resume items).PanicFree
  | .load _ _ _ resume => ∀ document, (resume document).PanicFree
  | .finish _ _ => True
  | .panic _ => False

/-- An engine that does not break down by itself goes on until the collation data do. -/
theorem Interaction.PanicFree.value_ne {sorter : Sorter} {i : Interaction S X I D T}
    (hi : i.PanicFree) (hdata : ∀ (spec : SortSpec X) cause, ¬sorter.BreaksOver spec cause)
    {r r' : Resolver} {panic : Panic} : (i.run sorter r).run.value ≠ .ok (.error panic, r') := by
  induction i generalizing r with
  | sort evaluate items specs resume ih =>
    have hsort : (sorter.sort evaluate items specs).breakdown = none := by
      rw [Option.eq_none_iff_forall_ne_some]
      intro cause hcause
      obtain ⟨spec, -, hover⟩ := Sorter.breaksOver_of_sort hcause
      exact hdata spec cause hover
    intro hvalue
    rw [run] at hvalue
    obtain ⟨-, -, hvalue⟩ := value_bind_eq_ok_iff.1 hvalue
    rw [hsort] at hvalue
    exact ih _ (hi _) hvalue
  | load parse uri kind resume ih =>
    intro hvalue
    rw [run] at hvalue
    obtain ⟨a, -, hvalue⟩ := value_bind_eq_ok_iff.1 hvalue
    obtain ⟨-, -, hvalue⟩ := value_bind_eq_ok_iff.1 hvalue
    exact ih _ (hi a.1) hvalue
  | finish state result => exact nofun
  | panic cause => exact hi.elim

/-- **An engine that does not break down by itself** breaks down in no run, unless the collation
data bring it down. -/
theorem Host.neverPanics_of_panicFree {h : Host S X I D T}
    (hengine : ∀ state request, (h.engine.start state request).PanicFree)
    (hdata : ∀ (spec : SortSpec X) cause, ¬h.sorter.BreaksOver spec cause) : h.NeverPanics :=
  fun _ request state _ _ => (hengine state request).value_ne hdata

/-- A host whose engine builds an empty tree, and whose fetcher gives empty documents. -/
def plainHost : Host Unit Unit Unit Unit PlainTree where
  engine := ⟨fun state _ => .finish state (.ok {})⟩
  fetcher := .ofOutcomes "any" fun _ => .bytes []
  collations _ _ := .ok none

theorem plainHost_neverPanics : plainHost.NeverPanics :=
  Host.neverPanics_of_panicFree (fun _ _ => trivial) fun _ _ hover => by
    obtain ⟨tag, -, hbreaks⟩ := hover.breaks
    cases hbreaks

end StyleHost
