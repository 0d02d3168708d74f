import StyleHost.Proofs.Sort.Correspondence
import StyleHost.Proofs.Sort.Evaluation

/-!
# Running out of room

The keys of a level need room, and so does the arrangement; and there may be none. A sort asks for
room for a level the first time the level is needed, in the middle of any pass, and for the
arrangement once the first level is evaluated. It then either goes on as if room were unlimited or
gives up as a whole: the items stay as they were, never half sorted.

* `Sorter.unlimited` : the sorter that always has room.
* `Sorter.Requires` : what there has to be room for.
* `Sorter.exists_required` : the levels that the unlimited sort evaluates are the ones there has to
  be room for; if there is, both sorts are the same, and if not, the items are left alone.
-/

namespace StyleHost

namespace Sorter

variable {X I : Type} {n : Nat}

/-- The sorter with room for everything. -/
def unlimited (s : Sorter) : Sorter := { s with hasRoom := fun _ => true }

theorem hasRoom_unlimited (s : Sorter) (r : Storage) : s.unlimited.hasRoom r = true := rfl

/-- What there has to be room for where the levels from `k` on are evaluated that are before `k'`,
and where the items are arranged. -/
def Requires (k k' : Nat) (arranges : Prop) : Storage → Prop
  | .keys j => k ≤ j ∧ j < k'
  | .order => arranges

/-- The first `k` levels have been evaluated, and no other has been tried. -/
structure Reached (specs : List (SortSpec X)) (k : Nat) (p : Progress X n) : Prop where
  le_length : k ≤ specs.length
  length_levels : p.levels.length = k
  pending : p.pending = specs.drop k
  evaluations_events : evaluations p.events = (specs.take k).flatMap (levelCalls n)

/-- The first `k` levels have been tried by a step, the last of them without success if the data
broke down over it. -/
def Tried {α : Type} (specs : List (SortSpec X)) (k : Nat) :
    Except Stop α × Progress X n → Prop
  | (.ok _, p) => Reached specs k p
  | (.error (.breakdown _), p) =>
    k ≤ specs.length ∧ evaluations p.events = (specs.take k).flatMap (levelCalls n)
  | (.error .noRoom, _) => False

/-- From a state where the levels up to `k` are evaluated, `y` tries those up to `k'`, and arranges
the items or not. If there is room for that then `x` does the same, and otherwise it ends for want
of room. -/
structure Rationed {α : Type} (s : Sorter) (specs : List (SortSpec X)) (k k' : Nat)
    (arranges : Prop) (p : Progress X n) (x y : SortM X n α) : Prop where
  le : k ≤ k'
  tried : Tried specs k' (y.run.run p)
  agrees : (∀ r, Requires k k' arranges r → s.hasRoom r = true) → x.run.run p = y.run.run p
  stops : ∀ r, Requires k k' arranges r → s.hasRoom r = false →
    ∃ q, x.run.run p = (.error .noRoom, q)

variable {α β : Type} {s : Sorter} {specs rest : List (SortSpec X)} {spec : SortSpec X}
  {k k' k'' : Nat} {arranges : Prop} {p p' : Progress X n} {x y : SortM X n α}
  {f g : α → SortM X n β} {evaluate : Evaluator X I} {items : Vector I n}

theorem Tried.evaluations_events {result : Except Stop α × Progress X n}
    (h : Tried specs k result) : k ≤ specs.length ∧
      evaluations result.2.events = (specs.take k).flatMap (levelCalls n) := by
  obtain ⟨stop | v, p⟩ := result
  · cases stop with
    | noRoom => exact h.elim
    | breakdown cause => exact h
  · have hreached : Reached specs k p := h
    exact ⟨hreached.le_length, hreached.evaluations_events⟩

/-- A step that tries no level. -/
theorem Rationed.of_ok {v : α} (hp : Reached specs k p) (hx : x.run.run p = (.ok v, p))
    (hy : y.run.run p = (.ok v, p)) : Rationed s specs k k False p x y where
  le := le_rfl
  tried := by
    rw [hy]
    exact hp
  agrees _ := hx.trans hy.symm
  stops r hr := by
    cases r with
    | keys j => exact absurd hr.2 hr.1.not_gt
    | order => exact hr.elim

/-- The first step ends the sort. -/
theorem Rationed.bind_of_error {stop : Stop} (h : Rationed s specs k k' False p x y)
    (hy : y.run.run p = (.error stop, p')) :
    Rationed s specs k k' False p (x >>= f) (y >>= g) where
  le := h.le
  tried := by
    have htried := h.tried
    rw [hy] at htried
    rw [run_bind_of_error hy]
    cases stop <;> exact htried
  agrees hroom := by rw [run_bind_of_error hy, run_bind_of_error ((h.agrees hroom).trans hy)]
  stops r hr hno := by
    obtain ⟨q, hq⟩ := h.stops r hr hno
    exact ⟨q, run_bind_of_error hq⟩

/-- **One step after another.** -/
theorem Rationed.bind_of_ok {v : α} (h : Rationed s specs k k' False p x y)
    (hy : y.run.run p = (.ok v, p')) (h' : Rationed s specs k' k'' arranges p' (f v) (g v)) :
    Rationed s specs k k'' arranges p (x >>= f) (y >>= g) := by
  have hfirst : ∀ r, Requires k k' False r → Requires k k'' arranges r := by
    rintro (j | -) hr
    · exact ⟨hr.1, hr.2.trans_le h'.le⟩
    · exact hr.elim
  have hsecond : ∀ r, Requires k' k'' arranges r → Requires k k'' arranges r := by
    rintro (j | -) hr
    · exact ⟨h.le.trans hr.1, hr.2⟩
    · exact hr
  have heither : ∀ r, Requires k k'' arranges r →
      Requires k k' False r ∨ Requires k' k'' arranges r := by
    rintro (j | -) hr
    · exact (Nat.lt_or_ge j k').imp (fun hlt => ⟨hr.1, hlt⟩) fun hle => ⟨hle, hr.2⟩
    · exact .inr hr
  refine ⟨h.le.trans h'.le, ?_, fun hroom => ?_, fun r hr hno => ?_⟩
  · rw [run_bind_of_ok hy]
    exact h'.tried
  · have hx := (h.agrees fun r hr => hroom r (hfirst r hr)).trans hy
    rw [Sorter.run_bind_of_ok hx, Sorter.run_bind_of_ok hy]
    exact h'.agrees fun r hr => hroom r (hsecond r hr)
  · -- the room is lacking in the first step, or else in the second
    by_cases hroom : ∀ r, Requires k k' False r → s.hasRoom r = true
    · rw [Sorter.run_bind_of_ok ((h.agrees hroom).trans hy)]
      refine h'.stops r ((heither r hr).resolve_left fun hr' => ?_) hno
      rw [hroom r hr'] at hno
      cases hno
    · obtain ⟨r', hr', hnone⟩ : ∃ r, Requires k k' False r ∧ s.hasRoom r = false := by
        simpa using hroom
      obtain ⟨q, hq⟩ := h.stops r' hr' hnone
      exact ⟨q, run_bind_of_error hq⟩

theorem Rationed.bind (h : Rationed s specs k k' False p x y)
    (hf : ∀ v p', y.run.run p = (.ok v, p') → Reached specs k' p' →
      ∃ k'', Rationed s specs k' k'' False p' (f v) (g v)) :
    ∃ k'', Rationed s specs k k'' False p (x >>= f) (y >>= g) := by
  have htried := h.tried
  rcases hy : y.run.run p with ⟨stop | v, p'⟩
  · exact ⟨k', h.bind_of_error hy⟩
  · rw [hy] at htried
    obtain ⟨k'', h'⟩ := hf v p' hy htried
    exact ⟨k'', h.bind_of_ok hy h'⟩

/-- **Evaluating a level** tries that level. -/
theorem evaluateLevel_rationed (hp : Reached specs k p) (h : specs.drop k = spec :: rest) :
    Rationed s specs k (k + 1) False p (s.evaluateLevel evaluate items spec rest)
      (s.unlimited.evaluateLevel evaluate items spec rest) := by
  have hcalls : evaluations (p.events ++ s.levelEvents evaluate items spec) =
      (specs.take (k + 1)).flatMap (levelCalls n) := by
    rw [evaluations_append, hp.evaluations_events, evaluations_levelEvents, take_succ_of_drop h,
      List.flatMap_append, List.flatMap_singleton]
  constructor
  case le => exact Nat.le_succ k
  case tried =>
    have hcollation : s.unlimited.collation spec = s.collation spec := rfl
    rw [evaluateLevel_run_eq, if_pos (hasRoom_unlimited s _), hcollation]
    cases (s.collation spec).1 with
    | error cause => exact ⟨lt_length_of_drop h, hcalls⟩
    | ok collate =>
      refine ⟨lt_length_of_drop h, ?_, (drop_succ_of_drop h).symm, hcalls⟩
      rw [List.length_append, hp.length_levels, List.length_singleton]
  case agrees =>
    intro hroom
    have hk := hroom (.keys k) ⟨le_rfl, Nat.lt_succ_self k⟩
    rw [evaluateLevel_run_eq, evaluateLevel_run_eq, hp.length_levels, if_pos hk,
      if_pos (hasRoom_unlimited s _)]
    rfl
  case stops =>
    rintro (j | -) hr hno
    · obtain rfl : j = k := Nat.le_antisymm (Nat.lt_succ_iff.1 hr.2) hr.1
      refine ⟨p, ?_⟩
      rw [evaluateLevel_run_eq, hp.length_levels, if_neg (by simp [hno])]
    · exact hr.elim

theorem breakTie_rationed (a b : Fin n) (pending : List (SortSpec X)) (hp : Reached specs k p)
    (h : specs.drop k = pending) :
    ∃ k', Rationed s specs k k' False p (s.breakTie evaluate items a b pending)
      (s.unlimited.breakTie evaluate items a b pending) := by
  induction pending generalizing k p with
  | nil => exact ⟨k, .of_ok hp rfl rfl⟩
  | cons spec rest ih =>
    rw [breakTie, breakTie]
    refine (evaluateLevel_rationed hp h).bind fun level p' _ hp' => ?_
    split
    · exact ih hp' (drop_succ_of_drop h)
    · exact ⟨k + 1, .of_ok hp' rfl rfl⟩

theorem compareItems_rationed (a b : Fin n) (hp : Reached specs k p) :
    ∃ k', Rationed s specs k k' False p (s.compareItems evaluate items a b)
      (s.unlimited.compareItems evaluate items a b) := by
  rw [compareItems, compareItems]
  refine (Rationed.of_ok hp (run_get p) (run_get p)).bind fun v p' hv hp' => ?_
  obtain ⟨rfl, rfl⟩ : v = p ∧ p' = p := by
    rw [run_get] at hv
    cases hv
    exact ⟨rfl, rfl⟩
  split
  · exact breakTie_rationed a b _ hp hp.pending.symm
  · exact ⟨k, .of_ok hp rfl rfl⟩

/-- Steps that differ in nothing but in whether there is room. -/
def rationing (X : Type) (n : Nat) (s : Sorter) (specs : List (SortSpec X)) :
    Correspondence (SortM X n) (SortM X n) where
  rel x y := ∀ k p, Reached specs k p → ∃ k', Rationed s specs k k' False p x y
  rel_pure _ k _ hp := ⟨k, .of_ok hp rfl rfl⟩
  rel_bind hx hf k p hp := by
    obtain ⟨k', h⟩ := hx k p hp
    exact h.bind fun v p' _ hp' => hf v k' p' hp'

/-- A step that needs room for the arrangement first. -/
theorem Rationed.arranging (h : Rationed s specs k k' False p x y) :
    Rationed s specs k k' True p (if s.hasRoom .order then x else throw .noRoom) y where
  le := h.le
  tried := h.tried
  agrees hroom := by
    rw [if_pos (hroom .order trivial)]
    refine h.agrees fun r hr => hroom r ?_
    cases r with
    | keys j => exact hr
    | order => trivial
  stops r hr hno := by
    split
    case isTrue hroom =>
      cases r with
      | keys j => exact h.stops (.keys j) hr hno
      | order =>
        rw [hroom] at hno
        cases hno
    case isFalse => exact ⟨p, rfl⟩

variable (s evaluate items) in
/-- **The whole arrangement.** It is asked for room if the first level can be evaluated. -/
theorem arrange_rationed (spec : SortSpec X) (rest : List (SortSpec X)) :
    ∃ k', 0 < k' ∧ Rationed s (spec :: rest) 0 k' (s.Built [spec]) ⟨[], spec :: rest, []⟩
      (s.arrange evaluate items spec rest) (s.unlimited.arrange evaluate items spec rest) := by
  have hstart : Reached (spec :: rest) 0 (⟨[], spec :: rest, []⟩ : Progress X n) :=
    ⟨Nat.zero_le _, rfl, rfl, rfl⟩
  have hlevel : Rationed s (spec :: rest) 0 1 False ⟨[], spec :: rest, []⟩
      (s.evaluateLevel evaluate items spec rest)
      (s.unlimited.evaluateLevel evaluate items spec rest) := evaluateLevel_rationed hstart rfl
  have hrun : (s.unlimited.evaluateLevel evaluate items spec rest).run.run
      ⟨[], spec :: rest, []⟩ = _ := evaluateLevel_run_eq spec rest _
  have hcollation : s.unlimited.collation spec = s.collation spec := rfl
  have htried := hlevel.tried
  rw [if_pos (hasRoom_unlimited s _), hcollation] at hrun
  rw [arrange, arrange, if_pos (hasRoom_unlimited s _)]
  cases hc : (s.collation spec).1 with
  | error cause =>
    have hnone : s.Built [spec] = False := by simp [Built, hc]
    rw [hc] at hrun
    rw [hnone]
    exact ⟨1, Nat.one_pos, (hlevel.bind_of_error hrun).bind_of_error (run_bind_of_error hrun)⟩
  | ok collate =>
    have hbuilt : s.Built [spec] = True := by simp [Built, hc]
    rw [hc] at hrun
    rw [hrun] at htried
    rw [hbuilt]
    obtain ⟨k', h⟩ := Gaps.sort_corresponds (rationing X n s (spec :: rest))
      (fun a b k p hp => compareItems_rationed a b hp) _ _ htried
    exact ⟨k', h.le, (hlevel.bind_of_ok hrun (.of_ok htried rfl rfl)).bind_of_ok
      (discard_run hrun) h.arranging⟩

theorem sort_unlimited_of_abandoned {items : Array I}
    (h : items.size < 2 ∨ specs = [] ∨ SortSpec.maxKeys ≤ specs.length) :
    s.sort evaluate items specs = s.unlimited.sort evaluate items specs := by
  by_cases htriv : items.size < 2 ∨ specs = []
  · rw [sort_of_trivial htriv, sort_of_trivial htriv]
  · obtain ⟨hn, hne⟩ := not_or.1 htriv
    have hmax : SortSpec.maxKeys ≤ specs.length := (h.resolve_left hn).resolve_left hne
    obtain ⟨spec, rest, rfl⟩ := List.exists_cons_of_ne_nil hne
    rw [sort, sort, if_neg hn, if_neg hn, if_pos hmax, if_pos hmax]

/-- **A sort and the room it needs.** The levels that the unlimited sort tries are the ones that
need room, and so does the arrangement if there is a first level that can be evaluated. If there is
room for all that, the sort is the unlimited one; if there is none for some of it, the sort is given
up and the items stay in input order. -/
theorem exists_required (s : Sorter) (evaluate : Evaluator X I) (items : Array I)
    (specs : List (SortSpec X)) : ∃ levels ≤ specs.length,
      evaluations (s.unlimited.sort evaluate items specs).events =
        (specs.take levels).flatMap (levelCalls items.size) ∧
      ((∀ r, Requires 0 levels (0 < levels ∧ s.Built (specs.take 1)) r → s.hasRoom r = true) →
        s.sort evaluate items specs = s.unlimited.sort evaluate items specs) ∧
      ∀ r, Requires 0 levels (0 < levels ∧ s.Built (specs.take 1)) r → s.hasRoom r = false →
        ∃ events, s.sort evaluate items specs =
          { items, events := events ++ [.note (.sortAbandoned items.size)] } := by
  by_cases htriv : items.size < 2 ∨ specs = [] ∨ SortSpec.maxKeys ≤ specs.length
  · obtain ⟨notices, hsort⟩ := s.unlimited.sort_of_abandoned htriv
    refine ⟨0, Nat.zero_le _, ?_, fun _ => sort_unlimited_of_abandoned htriv, fun r hr => ?_⟩
    · rw [hsort]
      exact evaluations_notes notices
    · cases r with
      | keys j => exact absurd hr.2 (Nat.not_lt_zero j)
      | order => exact absurd hr.1 (lt_irrefl 0)
  · obtain ⟨hn, hne, hmax⟩ : ¬ items.size < 2 ∧ specs ≠ [] ∧ ¬ SortSpec.maxKeys ≤ specs.length := by
      simpa using htriv
    obtain ⟨spec, rest, rfl⟩ := List.exists_cons_of_ne_nil hne
    obtain ⟨k, hk, h⟩ := arrange_rationed s evaluate items.toVector spec rest
    have htried := h.tried
    have harranges : (0 < k ∧ s.Built ((spec :: rest).take 1)) = s.Built [spec] :=
      propext (and_iff_right hk)
    rw [← harranges] at h
    refine ⟨k, htried.evaluations_events.1, ?_, fun hroom => ?_, fun r hr hno => ?_⟩
    · rw [← htried.evaluations_events.2, sort, if_neg hn, if_neg hmax]
      split
      case h_1 order p hrun =>
        rw [hrun, evaluations_append]
        exact List.append_nil _
      case h_2 p hrun =>
        rw [hrun] at htried
        exact htried.elim
      case h_3 cause p hrun => rw [hrun]
    · rw [sort, sort, if_neg hn, if_neg hn, if_neg hmax, if_neg hmax, h.agrees hroom]
    · obtain ⟨q, hq⟩ := h.stops r hr hno
      rw [sort, if_neg hn, if_neg hmax, hq]
      exact ⟨q.events, rfl⟩

end Sorter

end StyleHost
