import StyleHost.Proofs.Sort.Lawless

/-!
# A sort without its state

A sort evaluates levels as it needs them, so what a comparison does depends on those before it. What
it answers does not: that is a matter of the two items alone, and of the keys taken one by one up to
the first that tells them apart (`Sorter.pairOrder`). Hence the items after a sort, and whether the
collation data break down during it, are those of a sort that keeps no state and asks each pair
anew. Nothing is asked of the comparisons of texts, and the data may break down over any key.

* `Sorter.pairOrder` : the order of two items, or how the data break down while it is found out.
* `Sorter.sort_stateless` : a sort is the sort by the orders of the pairs.
* `Sorter.sort_eq_of_pairOrder` : two sorts by keys that order every pair alike come to the same.
-/

namespace StyleHost

namespace Gaps

variable {n : Nat} {m : Type → Type} [Monad m] [LawfulMonad m]
  {compare : Fin n → Fin n → m Ordering}

theorem sink_of_ordered (h : ∀ a b, a < b → ∃ o, o ≠ .gt ∧ compare a b = pure o) {gap : Nat}
    (hgap : 0 < gap) {j : Nat} (hj : j < n) :
    sink compare gap hgap j hj (identity n) = pure (identity n) := by
  rw [sink]
  split
  case isTrue hle =>
    have hlt : (identity n)[j - gap] < (identity n)[j] := by
      simp only [identity, Vector.getElem_ofFn, id, Fin.mk_lt_mk]
      omega
    obtain ⟨o, ho, hcompare⟩ := h _ _ hlt
    rw [hcompare, pure_bind, if_neg ho]
  case isFalse => rfl

theorem pass_of_ordered (h : ∀ a b, a < b → ∃ o, o ≠ .gt ∧ compare a b = pure o) {gap : Nat}
    (hgap : 0 < gap) (i : Nat) :
    pass compare gap hgap i (identity n) = pure (identity n) := by
  induction hm : n - i generalizing i with
  | zero => rw [pass, dif_neg (by omega)]
  | succ k ih =>
    rw [pass, dif_pos (by omega), sink_of_ordered h, pure_bind]
    exact ih (i + 1) (by omega)

/-- Positions that are in order already stay where they are. -/
theorem sort_of_ordered (h : ∀ a b, a < b → ∃ o, o ≠ .gt ∧ compare a b = pure o) :
    sort compare = pure (identity n) := by
  have hpasses : ∀ gap, passes compare gap (identity n) = pure (identity n) := by
    intro gap
    induction gap using Nat.strongRecOn with
    | ind gap ih =>
      rw [passes]
      split
      · rw [pass_of_ordered h, pure_bind]
        exact ih (gap / 2) (by omega)
      · rfl
  exact hpasses (n / 2)

/-- The first comparison of a sort is its end if all comparisons fail. -/
theorem sort_of_error {ε : Type} {e : ε} (hn : 2 ≤ n) :
    sort (fun _ _ : Fin n => (.error e : Except ε Ordering)) = .error e := by
  rw [sort, passes, dif_pos (by omega), pass, dif_pos (by omega), sink, dif_pos le_rfl]
  rfl

end Gaps

namespace Sorter

variable {X I : Type} {n : Nat}

/-! ### The order of a pair -/

/-- The first order of a list that is not a tie, or else the last resort. An order further back is
not asked for. -/
def firstDecisive (lastResort : Ordering) : List (Except Panic Ordering) → Except Panic Ordering
  | [] => return lastResort
  | o :: rest => do
    match ← o with
    | .eq => firstDecisive lastResort rest
    | decided => return decided

/-- The order of two items by one key. -/
def orderBy (s : Sorter) (evaluate : Evaluator X I) (items : Vector I n) (a b : Fin n)
    (spec : SortSpec X) : Except Panic Ordering := do
  let collate ← (s.collation spec).1
  return SortKey.compare collate spec.order (keyAt evaluate items spec a)
    (keyAt evaluate items spec b)

/-- The order of two items by some keys, and by input order last. -/
def pairOrder (s : Sorter) (evaluate : Evaluator X I) (items : Vector I n)
    (specs : List (SortSpec X)) (a b : Fin n) : Except Panic Ordering :=
  firstDecisive (compare a b) (specs.map (s.orderBy evaluate items a b))

variable {s : Sorter} {evaluate : Evaluator X I} {items : Vector I n} {spec : SortSpec X}
  {specs rest : List (SortSpec X)} {cause : Panic}

theorem orderBy_of_ok {collate : String → String → Ordering}
    (h : (s.collation spec).1 = .ok collate) (a b : Fin n) :
    s.orderBy evaluate items a b spec = .ok ((s.levelOf evaluate items spec).compare a b) := by
  rw [orderBy, h, compare_levelOf, textOrder_of_collation h]
  rfl

theorem pairOrder_cons_of_error (h : (s.collation spec).1 = .error cause) (a b : Fin n) :
    s.pairOrder evaluate items (spec :: rest) a b = .error cause := by
  rw [pairOrder, List.map_cons, firstDecisive, orderBy, h]
  rfl

theorem pairOrder_cons_of_eq {collate : String → String → Ordering} {a b : Fin n}
    (h : (s.collation spec).1 = .ok collate)
    (htie : (s.levelOf evaluate items spec).compare a b = .eq) :
    s.pairOrder evaluate items (spec :: rest) a b = s.pairOrder evaluate items rest a b := by
  rw [pairOrder, List.map_cons, firstDecisive, orderBy_of_ok h, htie]
  rfl

theorem pairOrder_cons_of_ne {collate : String → String → Ordering} {a b : Fin n}
    (h : (s.collation spec).1 = .ok collate)
    (hne : (s.levelOf evaluate items spec).compare a b ≠ .eq) :
    s.pairOrder evaluate items (spec :: rest) a b =
      .ok ((s.levelOf evaluate items spec).compare a b) := by
  rw [pairOrder, List.map_cons, firstDecisive, orderBy_of_ok h]
  cases ho : (s.levelOf evaluate items spec).compare a b with
  | eq => exact absurd ho hne
  | lt => rfl
  | gt => rfl

variable (rest) in
theorem pairOrder_append_of_eq (hbuilt : s.Built specs) {a b : Fin n}
    (htie : compareLevels (s.allLevels evaluate items specs) a b = .eq) :
    s.pairOrder evaluate items (specs ++ rest) a b = s.pairOrder evaluate items rest a b := by
  induction specs with
  | nil => rfl
  | cons spec specs ih =>
    obtain ⟨⟨collate, hc⟩, hbuilt⟩ := List.forall_mem_cons.1 hbuilt
    rw [allLevels, List.map_cons, KeyLevel.compareLevels_cons, Ordering.then_eq_eq] at htie
    rw [List.cons_append, pairOrder_cons_of_eq hc htie.1]
    exact ih hbuilt htie.2

variable (rest) in
theorem pairOrder_append_of_ne (hbuilt : s.Built specs) {a b : Fin n}
    (hne : compareLevels (s.allLevels evaluate items specs) a b ≠ .eq) :
    s.pairOrder evaluate items (specs ++ rest) a b =
      .ok (compareLevels (s.allLevels evaluate items specs) a b) := by
  induction specs with
  | nil => exact absurd rfl hne
  | cons spec specs ih =>
    obtain ⟨⟨collate, hc⟩, hbuilt⟩ := List.forall_mem_cons.1 hbuilt
    rw [allLevels, List.map_cons, KeyLevel.compareLevels_cons] at hne ⊢
    rw [List.cons_append]
    by_cases htie : (s.levelOf evaluate items spec).compare a b = .eq
    · rw [htie] at hne ⊢
      rw [pairOrder_cons_of_eq hc htie]
      exact ih hbuilt hne
    · rw [pairOrder_cons_of_ne hc htie]
      cases ho : (s.levelOf evaluate items spec).compare a b with
      | eq => exact absurd ho htie
      | lt => rfl
      | gt => rfl

/-! ### One answer in all states -/

/-- Some first levels have been evaluated, and the data have not broken down over their keys. -/
def Underway (s : Sorter) (evaluate : Evaluator X I) (items : Vector I n)
    (specs : List (SortSpec X)) (p : Progress X n) : Prop :=
  ∃ k ≤ specs.length, s.Built (specs.take k) ∧ p = s.progressAt evaluate items specs k

/-- A step of a sort comes to what a computation without a state comes to. -/
inductive Answers (s : Sorter) (evaluate : Evaluator X I) (items : Vector I n)
    (specs : List (SortSpec X)) {α : Type} : Except Stop α × Progress X n → Except Panic α → Prop
  | ok {v : α} {p : Progress X n} (hp : s.Underway evaluate items specs p) :
    Answers s evaluate items specs (.ok v, p) (.ok v)
  | error {cause : Panic} {p : Progress X n} :
    Answers s evaluate items specs (.error (.breakdown cause), p) (.error cause)

theorem Answers.bind {α β : Type} {x : SortM X n α} {y : Except Panic α} {f : α → SortM X n β}
    {g : α → Except Panic β} {p : Progress X n}
    (h : s.Answers evaluate items specs (x.run.run p) y)
    (hf : ∀ v p', s.Underway evaluate items specs p' →
      s.Answers evaluate items specs ((f v).run.run p') (g v)) :
    s.Answers evaluate items specs ((x >>= f).run.run p) (y >>= g) := by
  generalize hrun : x.run.run p = result at h
  cases h with
  | ok hp =>
    rw [run_bind_of_ok hrun]
    exact hf _ _ hp
  | error =>
    rw [run_bind_of_error hrun]
    exact .error

variable (s evaluate items specs) in
/-- Steps of a sort next to computations without a state. -/
def stateless : Correspondence (SortM X n) (Except Panic) where
  rel x y := ∀ p, s.Underway evaluate items specs p →
    s.Answers evaluate items specs (x.run.run p) y
  rel_pure _ _ hp := .ok hp
  rel_bind hx hf p hp := (hx p hp).bind hf

variable (evaluate items rest) in
theorem evaluateLevel_run_of_error {p : Progress X n}
    (hroom : s.hasRoom (.keys p.levels.length) = true) (h : (s.collation spec).1 = .error cause) :
    ∃ p', (s.evaluateLevel evaluate items spec rest).run.run p =
      (.error (.breakdown cause), p') := by
  rw [evaluateLevel_run_eq, if_pos hroom, h]
  exact ⟨_, rfl⟩

theorem built_take_succ {k : Nat} {collate : String → String → Ordering}
    (hbuilt : s.Built (specs.take k)) (h : specs.drop k = spec :: rest)
    (hc : (s.collation spec).1 = .ok collate) : s.Built (specs.take (k + 1)) := by
  rw [take_succ_of_drop h]
  intro found hfound
  rcases List.mem_append.1 hfound with hmem | hmem
  · exact hbuilt found hmem
  · rw [List.mem_singleton.1 hmem]
    exact ⟨collate, hc⟩

theorem breakTie_answers (hroom : s.Roomy specs) (a b : Fin n)
    (pending : List (SortSpec X)) {k : Nat} (hk : k ≤ specs.length)
    (hbuilt : s.Built (specs.take k)) (h : specs.drop k = pending) :
    s.Answers evaluate items specs
      ((s.breakTie evaluate items a b pending).run.run (s.progressAt evaluate items specs k))
      (s.pairOrder evaluate items pending a b) := by
  -- as keys are taken from `pending`, the levels evaluated grow to match the rest
  induction pending generalizing k with
  | nil => exact .ok ⟨k, hk, hbuilt, rfl⟩
  | cons spec rest ih =>
    have hlt := lt_length_of_drop h
    rw [breakTie]
    cases hc : (s.collation spec).1 with
    | error cause =>
      have hroom' :
          s.hasRoom (.keys (s.progressAt evaluate items specs k).levels.length) = true := by
        rw [length_levels_progressAt hk]
        exact hroom.keys_room k hlt
      obtain ⟨p, hrun⟩ := evaluateLevel_run_of_error evaluate items rest hroom' hc
      rw [run_bind_of_error hrun, pairOrder_cons_of_error hc]
      exact .error
    | ok collate =>
      have hbuilt' := built_take_succ hbuilt h hc
      rw [run_bind_of_ok (evaluateLevel_run_of_ok (hroom.keys_room k hlt) h hc)]
      by_cases htie : (s.levelOf evaluate items spec).compare a b = .eq
      · rw [pairOrder_cons_of_eq hc htie, htie]
        exact ih hlt hbuilt' (drop_succ_of_drop h)
      · rw [pairOrder_cons_of_ne hc htie]
        cases ho : (s.levelOf evaluate items spec).compare a b with
        | eq => exact absurd ho htie
        | lt => exact .ok ⟨k + 1, hlt, hbuilt', rfl⟩
        | gt => exact .ok ⟨k + 1, hlt, hbuilt', rfl⟩

/-- **A comparison answers the same in all states.** -/
theorem compareItems_answers (hroom : s.Roomy specs) (a b : Fin n)
    {p : Progress X n} (hp : s.Underway evaluate items specs p) :
    s.Answers evaluate items specs ((s.compareItems evaluate items a b).run.run p)
      (s.pairOrder evaluate items specs a b) := by
  obtain ⟨k, hk, hbuilt, rfl⟩ := hp
  have hlevels : (s.progressAt evaluate items specs k).levels =
      s.allLevels evaluate items (specs.take k) := List.map_take.symm
  -- the levels at hand are the keys up to `k`: they decide, or they all tie
  have hsplit := List.take_append_drop k specs
  rw [compareItems, run_bind_of_ok (run_get _), hlevels]
  by_cases htie : compareLevels (s.allLevels evaluate items (specs.take k)) a b = .eq
  · have horder := pairOrder_append_of_eq (specs.drop k) hbuilt htie
    rw [hsplit] at horder
    rw [horder, htie]
    exact breakTie_answers hroom a b _ hk hbuilt rfl
  · have horder := pairOrder_append_of_ne (specs.drop k) hbuilt htie
    rw [hsplit] at horder
    rw [horder]
    cases ho : compareLevels (s.allLevels evaluate items (specs.take k)) a b with
    | eq => exact absurd ho htie
    | lt => exact .ok ⟨k, hk, hbuilt, rfl⟩
    | gt => exact .ok ⟨k, hk, hbuilt, rfl⟩

/-! ### Whole sorts -/

variable (evaluate items) in
theorem arrange_answers (hn : 2 ≤ n) (hroom : s.Roomy (spec :: rest)) :
    s.Answers evaluate items (spec :: rest)
      ((s.arrange evaluate items spec rest).run.run ⟨[], spec :: rest, []⟩)
      (Gaps.sort (s.pairOrder evaluate items (spec :: rest))) := by
  have hroom' : s.hasRoom (.keys 0) = true := hroom.keys_room 0 (Nat.succ_pos _)
  cases hc : (s.collation spec).1 with
  | error cause =>
    -- the first level is evaluated before any pair is compared, and every pair fails over it
    have horder : s.pairOrder evaluate items (spec :: rest) = fun _ _ => .error cause := by
      funext a b
      exact pairOrder_cons_of_error hc a b
    obtain ⟨p, hrun⟩ := evaluateLevel_run_of_error evaluate items rest
      (p := ⟨[], spec :: rest, []⟩) hroom' hc
    have hdiscard : (discard (s.evaluateLevel evaluate items spec rest)).run.run
        ⟨[], spec :: rest, []⟩ = (.error (.breakdown cause), p) := run_bind_of_error hrun
    rw [arrange, run_bind_of_error hdiscard, horder, Gaps.sort_of_error hn]
    exact .error
  | ok collate =>
    have hbuilt : s.Built ((spec :: rest).take 0) := fun _ h => absurd h List.not_mem_nil
    have hfirst : s.Underway evaluate items (spec :: rest)
        (s.progressAt evaluate items (spec :: rest) 1) :=
      ⟨1, Nat.succ_pos _, built_take_succ hbuilt rfl hc, rfl⟩
    rw [arrange_run_of_ok hroom' hroom.order_room hc]
    exact Gaps.sort_corresponds (stateless s evaluate items (spec :: rest))
      (fun a b _ hp => compareItems_answers hroom a b hp) _ hfirst

/-- The items after a sort that has come to an arrangement or broken down, and the breakdown. -/
def outcome (items : Array I) :
    Except Panic (Vector (Fin items.size) items.size) → Array I × Option Panic
  | .ok order => ((Permutation.rearrange items.toVector order).toArray, none)
  | .error cause => (items, some cause)

/-- Two sorts come to the same items, and break down alike if they do. -/
structure SameOutcome {X Y I : Type} (r : Sorted X I) (r' : Sorted Y I) : Prop where
  items : r.items = r'.items
  breakdown : r.breakdown = r'.breakdown

theorem pairOrder_nil {a b : Fin n} (hab : a < b) :
    s.pairOrder evaluate items [] a b = .ok .lt := by
  have hlt : compare a b = .lt := Nat.compare_eq_lt.2 hab
  rw [pairOrder, hlt]
  rfl

theorem sort_pairOrder_of_trivial (h : n < 2 ∨ specs = []) :
    Gaps.sort (s.pairOrder evaluate items specs) = .ok (Gaps.identity n) := by
  refine Gaps.sort_of_ordered fun a b hab => ?_
  obtain hn | rfl := h
  · omega
  · exact ⟨.lt, by decide, pairOrder_nil hab⟩

variable (evaluate) in
/-- **A sort is the sort by the orders of the pairs.** -/
theorem sort_stateless (items : Array I) (hroom : s.Roomy specs)
    (hmax : specs.length < SortSpec.maxKeys) :
    ((s.sort evaluate items specs).items, (s.sort evaluate items specs).breakdown) =
      outcome items (Gaps.sort (s.pairOrder evaluate items.toVector specs)) := by
  by_cases htriv : items.size < 2 ∨ specs = []
  · rw [sort_pairOrder_of_trivial htriv, sort_of_trivial htriv, outcome, rearrange_identity]
  · obtain ⟨hn, hne⟩ := not_or.1 htriv
    obtain ⟨spec, rest, rfl⟩ := List.exists_cons_of_ne_nil hne
    have h := arrange_answers evaluate items.toVector (not_lt.1 hn) hroom
    rw [sort, if_neg hn, if_neg hmax.not_ge]
    generalize (s.arrange evaluate items.toVector spec rest).run.run ⟨[], spec :: rest, []⟩ =
      result at h ⊢
    generalize Gaps.sort (s.pairOrder evaluate items.toVector (spec :: rest)) = answer at h ⊢
    cases h with
    | ok _ => rfl
    | error => rfl

/-- **Sorts by keys that order every pair alike** come to the same, whatever the keys are. -/
theorem sort_eq_of_pairOrder {Y : Type} {evaluate' : Evaluator Y I} {specs' : List (SortSpec Y)}
    {items : Array I}
    (h : s.pairOrder evaluate items.toVector specs = s.pairOrder evaluate' items.toVector specs')
    (hroom : s.Roomy specs)
    (hroom' : s.Roomy specs') (hmax : specs.length < SortSpec.maxKeys)
    (hmax' : specs'.length < SortSpec.maxKeys) :
    SameOutcome (s.sort evaluate items specs) (s.sort evaluate' items specs') := by
  have hsame := sort_stateless evaluate items hroom hmax
  rw [h, ← sort_stateless evaluate' items hroom' hmax'] at hsame
  exact ⟨congrArg Prod.fst hsame, congrArg Prod.snd hsame⟩

end Sorter

end StyleHost
