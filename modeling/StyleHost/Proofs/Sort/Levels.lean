import Mathlib.Data.List.Basic
import Mathlib.Order.Nat
import StyleHost.Proofs.Sort.Key
import StyleHost.Sort.Sorter

/-!
# Comparing items level by level

The levels that a comparison evaluates are a function of the pair alone: all those up to the first
that tells the two items apart (`KeyLevel.depth`). So the state of a sort is known from the number
of levels evaluated so far (`Sorter.progressAt`), and a comparison has a closed form
(`Sorter.compareItems_run`): its answer is the lexicographic order of all levels with the input
order last, whatever had been evaluated before, and afterwards the levels reach at least to the
depth of the pair. Only a level that some two items have come to is ever evaluated
(`Sorter.Needed`), so a sort depends on no other level (`Sorter.Ready`).
-/

namespace StyleHost

namespace KeyLevel

variable {n : Nat}

/-- The number of levels that it takes to tell two items apart; all of them if they tie. -/
def depth (levels : List (KeyLevel n)) (a b : Fin n) : Nat :=
  match levels with
  | [] => 0
  | level :: rest =>
    match level.compare a b with
    | .eq => depth rest a b + 1
    | _ => 1

theorem depth_cons_of_eq {level : KeyLevel n} {a b : Fin n} (h : level.compare a b = .eq)
    (rest : List (KeyLevel n)) : depth (level :: rest) a b = depth rest a b + 1 := by
  simp only [depth, h]

theorem depth_cons_of_ne {level : KeyLevel n} {a b : Fin n} (h : level.compare a b ≠ .eq)
    (rest : List (KeyLevel n)) : depth (level :: rest) a b = 1 := by
  cases hc : level.compare a b with
  | eq => exact absurd hc h
  | lt => simp only [depth, hc]
  | gt => simp only [depth, hc]

theorem depth_le_length (levels : List (KeyLevel n)) (a b : Fin n) :
    depth levels a b ≤ levels.length := by
  induction levels with
  | nil => exact le_rfl
  | cons level rest ih =>
    by_cases h : level.compare a b = .eq
    · rw [depth_cons_of_eq h]
      exact Nat.succ_le_succ ih
    · rw [depth_cons_of_ne h]
      exact Nat.succ_le_succ (Nat.zero_le _)

/-- A pair reaches a level if it ties on all levels before it. -/
theorem lt_depth_iff {levels : List (KeyLevel n)} {a b : Fin n} {k : Nat} :
    k < depth levels a b ↔
      k < levels.length ∧ ∀ level ∈ levels.take k, level.compare a b = .eq := by
  induction levels generalizing k with
  | nil => simp [depth]
  | cons level rest ih =>
    cases k with
    | zero =>
      by_cases h : level.compare a b = .eq
      · simp [depth_cons_of_eq h]
      · simp [depth_cons_of_ne h]
    | succ k =>
      by_cases h : level.compare a b = .eq
      · simp [depth_cons_of_eq h, ih, h]
      · simp [depth_cons_of_ne h, h]

theorem compareLevels_eq_eq_iff {levels : List (KeyLevel n)} {a b : Fin n} :
    Sorter.compareLevels levels a b = .eq ↔ ∀ level ∈ levels, level.compare a b = .eq := by
  induction levels with
  | nil => simp [Sorter.compareLevels]
  | cons level rest ih =>
    simp only [Sorter.compareLevels, List.forall_mem_cons]
    cases level.compare a b <;> simp [ih]

theorem compareLevels_cons (level : KeyLevel n) (rest : List (KeyLevel n)) (a b : Fin n) :
    Sorter.compareLevels (level :: rest) a b =
      (level.compare a b).then (Sorter.compareLevels rest a b) := by
  simp only [Sorter.compareLevels]
  cases level.compare a b <;> rfl

theorem compareLevels_append (levels rest : List (KeyLevel n)) (a b : Fin n) :
    Sorter.compareLevels (levels ++ rest) a b =
      (Sorter.compareLevels levels a b).then (Sorter.compareLevels rest a b) := by
  induction levels with
  | nil => rfl
  | cons level levels ih =>
    rw [List.cons_append, compareLevels_cons, compareLevels_cons, ih, Ordering.then_assoc]

theorem depth_append_of_eq {levels : List (KeyLevel n)} {a b : Fin n}
    (h : Sorter.compareLevels levels a b = .eq) (rest : List (KeyLevel n)) :
    depth (levels ++ rest) a b = levels.length + depth rest a b := by
  induction levels with
  | nil => simp
  | cons level levels ih =>
    obtain ⟨h1, h2⟩ := List.forall_mem_cons.1 (compareLevels_eq_eq_iff.1 h)
    rw [List.cons_append, depth_cons_of_eq h1, ih (compareLevels_eq_eq_iff.2 h2), List.length_cons]
    omega

theorem depth_append_of_ne {levels : List (KeyLevel n)} {a b : Fin n}
    (h : Sorter.compareLevels levels a b ≠ .eq) (rest : List (KeyLevel n)) :
    depth (levels ++ rest) a b ≤ levels.length := by
  by_contra hlt
  refine h (compareLevels_eq_eq_iff.2 ?_)
  simpa using (lt_depth_iff.1 (not_le.1 hlt)).2

end KeyLevel

namespace Sorter

open KeyLevel

variable {X I : Type} {n : Nat}

/-- How texts compare at the level of a specification; all are equal if no comparison was built. -/
def textOrder (s : Sorter) (spec : SortSpec X) : String → String → Ordering :=
  match (s.collation spec).1 with
  | .ok collate => collate
  | .error _ => fun _ _ => .eq

variable (s : Sorter) (evaluate : Evaluator X I) (items : Vector I n) (specs : List (SortSpec X))

/-- The level of a specification. -/
def levelOf (spec : SortSpec X) : KeyLevel n :=
  ⟨Vector.ofFn (keyAt evaluate items spec), spec.order, s.textOrder spec⟩

/-- The levels of all specifications. -/
def allLevels : List (KeyLevel n) := specs.map (s.levelOf evaluate items)

/-- What the evaluation of a level leaves in the record. -/
def levelEvents (spec : SortSpec X) : List (SortEvent X) :=
  (List.finRange n).flatMap (eventsAt evaluate items spec) ++ (s.collation spec).2.map .note

/-- The progress once the first `k` levels are evaluated. -/
def progressAt (k : Nat) : Progress X n :=
  ⟨(s.allLevels evaluate items specs).take k, specs.drop k,
    (specs.take k).flatMap (s.levelEvents evaluate items)⟩

/-- The order of two items by all levels, and by input order last. -/
def itemOrder (a b : Fin n) : Ordering :=
  (compareLevels (s.allLevels evaluate items specs) a b).then (compare a b)

/-- A level is needed if it is the first, or if two items tie on all levels before it. -/
def Needed (k : Nat) : Prop :=
  k = 0 ∨ ∃ a b : Fin n, a ≠ b ∧
    compareLevels ((s.allLevels evaluate items specs).take k) a b = .eq

/-- What a sort by some specifications needs: there is room for the arrangement and for the keys of
every level that is needed, and for every such level of texts a comparison can be built. -/
structure Ready : Prop where
  order_room : s.hasRoom .order = true
  keys_room : ∀ k < specs.length, s.Needed evaluate items specs k → s.hasRoom (.keys k) = true
  built : ∀ (k : Nat) (hk : k < specs.length), s.Needed evaluate items specs k →
    ∃ collate, (s.collation specs[k]).1 = .ok collate

/-- There is room for the arrangement and for the keys of every level. -/
structure Roomy : Prop where
  order_room : s.hasRoom .order = true
  keys_room : ∀ k < specs.length, s.hasRoom (.keys k) = true

/-- A comparison can be built for each of the keys. -/
def Built : Prop := ∀ spec ∈ specs, ∃ collate, (s.collation spec).1 = .ok collate

variable {s evaluate items specs}

/-- A sort that could evaluate every level has what it needs. -/
theorem Roomy.ready (h : s.Roomy specs) (hbuilt : s.Built specs) :
    s.Ready evaluate items specs where
  order_room := h.order_room
  keys_room k hk _ := h.keys_room k hk
  built _ _ _ := hbuilt _ (List.getElem_mem _)

@[simp]
theorem length_allLevels : (s.allLevels evaluate items specs).length = specs.length :=
  List.length_map _

theorem needed_zero : s.Needed evaluate items specs 0 := .inl rfl

theorem compare_levelOf (spec : SortSpec X) (a b : Fin n) :
    (s.levelOf evaluate items spec).compare a b = SortKey.compare (s.textOrder spec) spec.order
      (keyAt evaluate items spec a) (keyAt evaluate items spec b) := by
  simp only [KeyLevel.compare, levelOf, Permutation.get_eq_getElem, Vector.getElem_ofFn]

theorem length_levels_progressAt {k : Nat} (hk : k ≤ specs.length) :
    (s.progressAt evaluate items specs k).levels.length = k := by
  rw [progressAt, List.length_take, length_allLevels, Nat.min_eq_left hk]

theorem getElem_of_drop {spec : SortSpec X} {rest : List (SortSpec X)} {k : Nat}
    (h : specs.drop k = spec :: rest) : specs[k]? = some spec := by
  rw [← List.head?_drop, h]
  rfl

theorem lt_length_of_drop {spec : SortSpec X} {rest : List (SortSpec X)} {k : Nat}
    (h : specs.drop k = spec :: rest) : k < specs.length := by
  by_contra hk
  rw [List.drop_eq_nil_of_le (not_lt.1 hk)] at h
  cases h

theorem take_succ_of_drop {spec : SortSpec X} {rest : List (SortSpec X)} {k : Nat}
    (h : specs.drop k = spec :: rest) : specs.take (k + 1) = specs.take k ++ [spec] := by
  rw [List.take_add_one, getElem_of_drop h]
  rfl

theorem drop_succ_of_drop {spec : SortSpec X} {rest : List (SortSpec X)} {k : Nat}
    (h : specs.drop k = spec :: rest) : specs.drop (k + 1) = rest := by
  rw [← List.tail_drop, h]
  rfl

theorem progressAt_succ {spec : SortSpec X} {rest : List (SortSpec X)} {k : Nat}
    (h : specs.drop k = spec :: rest) :
    s.progressAt evaluate items specs (k + 1) =
      ⟨(s.allLevels evaluate items specs).take k ++ [s.levelOf evaluate items spec], rest,
        (specs.take k).flatMap (s.levelEvents evaluate items) ++
          s.levelEvents evaluate items spec⟩ := by
  simp only [progressAt, allLevels, ← List.map_take, take_succ_of_drop h, drop_succ_of_drop h,
    List.map_append, List.map_cons, List.map_nil, List.flatMap_append, List.flatMap_cons,
    List.flatMap_nil, List.append_nil]

theorem run_bind_of_ok {α β : Type} {x : SortM X n α} {f : α → SortM X n β} {v : α}
    {p p' : Progress X n} (h : x.run.run p = (.ok v, p')) :
    (x >>= f).run.run p = (f v).run.run p' := by
  simp only [ExceptT.run_bind, StateT.run_bind, h]
  rfl

theorem run_bind_of_error {α β : Type} {x : SortM X n α} {f : α → SortM X n β} {stop : Stop}
    {p p' : Progress X n} (h : x.run.run p = (.error stop, p')) :
    (x >>= f).run.run p = (.error stop, p') := by
  simp only [ExceptT.run_bind, StateT.run_bind, h]
  rfl

theorem discard_run {α : Type} {x : SortM X n α} {v : α} {p p' : Progress X n}
    (h : x.run.run p = (.ok v, p')) : (discard x).run.run p = (.ok ⟨⟩, p') :=
  run_bind_of_ok h

theorem run_get (p : Progress X n) :
    (get : SortM X n (Progress X n)).run.run p = (.ok p, p) := rfl

theorem textOrder_of_collation {spec : SortSpec X} {collate : String → String → Ordering}
    (h : (s.collation spec).1 = .ok collate) : s.textOrder spec = collate := by
  simp only [textOrder, h]

/-- **Evaluating a level.** There may be no room for its keys, or the collation data may break down
over its language, once its keys are evaluated. -/
theorem evaluateLevel_run_eq (spec : SortSpec X) (rest : List (SortSpec X)) (p : Progress X n) :
    (s.evaluateLevel evaluate items spec rest).run.run p =
      if s.hasRoom (.keys p.levels.length) then
        match (s.collation spec).1 with
        | .error cause =>
          (.error (.breakdown cause),
            { p with events := p.events ++ s.levelEvents evaluate items spec })
        | .ok _ =>
          (.ok (s.levelOf evaluate items spec), ⟨p.levels ++ [s.levelOf evaluate items spec], rest,
            p.events ++ s.levelEvents evaluate items spec⟩)
      else (.error .noRoom, p) := by
  rw [evaluateLevel, run_bind_of_ok (run_get p)]
  split
  case isFalse h => rfl
  case isTrue h =>
    have hpair : s.collation spec = ((s.collation spec).1, (s.collation spec).2) := rfl
    rw [hpair]
    cases hc : (s.collation spec).1 with
    | error cause =>
      simp only [levelEvents, List.append_assoc]
      rfl
    | ok collate =>
      simp only [levelOf, textOrder_of_collation hc, levelEvents, List.append_assoc]
      rfl

/-- Evaluating the next level, where there is room for its keys and a comparison can be built. -/
theorem evaluateLevel_run_of_ok {spec : SortSpec X} {rest : List (SortSpec X)} {k : Nat}
    {collate : String → String → Ordering} (hroom : s.hasRoom (.keys k) = true)
    (h : specs.drop k = spec :: rest) (hc : (s.collation spec).1 = .ok collate) :
    (s.evaluateLevel evaluate items spec rest).run.run (s.progressAt evaluate items specs k) =
      (.ok (s.levelOf evaluate items spec), s.progressAt evaluate items specs (k + 1)) := by
  rw [progressAt_succ h, evaluateLevel_run_eq,
    length_levels_progressAt (lt_length_of_drop h).le, if_pos hroom, hc]
  rfl

/-- Evaluating the next level, where it is needed. -/
theorem evaluateLevel_run (hr : s.Ready evaluate items specs) {spec : SortSpec X}
    {rest : List (SortSpec X)} {k : Nat} (hk : s.Needed evaluate items specs k)
    (h : specs.drop k = spec :: rest) :
    (s.evaluateLevel evaluate items spec rest).run.run (s.progressAt evaluate items specs k) =
      (.ok (s.levelOf evaluate items spec), s.progressAt evaluate items specs (k + 1)) := by
  have hlt := lt_length_of_drop h
  obtain ⟨collate, hc⟩ := hr.built k hlt hk
  have hspec : specs[k] = spec := by
    have hget := getElem_of_drop h
    rw [List.getElem?_eq_getElem hlt] at hget
    exact Option.some.inj hget
  rw [hspec] at hc
  exact evaluateLevel_run_of_ok (hr.keys_room k hlt hk) h hc

theorem take_succ_allLevels {spec : SortSpec X} {rest : List (SortSpec X)} {k : Nat}
    (h : specs.drop k = spec :: rest) : (s.allLevels evaluate items specs).take (k + 1) =
      (s.allLevels evaluate items specs).take k ++ [s.levelOf evaluate items spec] := by
  rw [allLevels, ← List.map_take, take_succ_of_drop h, List.map_append, List.map_take]
  rfl

/-- **Breaking a tie.** It evaluates pending levels up to the one that decides. -/
theorem breakTie_run (hr : s.Ready evaluate items specs) {pending : List (SortSpec X)} {k : Nat}
    (h : specs.drop k = pending) {a b : Fin n} (hne : a ≠ b)
    (htie : compareLevels ((s.allLevels evaluate items specs).take k) a b = .eq) :
    (s.breakTie evaluate items a b pending).run.run (s.progressAt evaluate items specs k) =
      (.ok ((compareLevels (s.allLevels evaluate items pending) a b).then (compare a b)),
        s.progressAt evaluate items specs
          (k + depth (s.allLevels evaluate items pending) a b)) := by
  -- `pending` shrinks as `k` grows: together they stay all specifications
  induction pending generalizing k with
  | nil => rfl
  | cons spec rest ih =>
    have hneeded : s.Needed evaluate items specs k := .inr ⟨a, b, hne, htie⟩
    rw [breakTie, run_bind_of_ok (evaluateLevel_run hr hneeded h), allLevels, List.map_cons,
      compareLevels_cons]
    by_cases hc : (s.levelOf evaluate items spec).compare a b = .eq
    · have htie' : compareLevels ((s.allLevels evaluate items specs).take (k + 1)) a b = .eq := by
        rw [take_succ_allLevels h, compareLevels_append, htie, compareLevels_cons, hc]
        rfl
      rw [hc, depth_cons_of_eq hc, ih (drop_succ_of_drop h) htie', Nat.add_right_comm]
      rfl
    · rw [depth_cons_of_ne hc]
      cases ho : (s.levelOf evaluate items spec).compare a b with
      | eq => exact absurd ho hc
      | lt => rfl
      | gt => rfl

/-- **A comparison.** It answers by all levels, whatever has been evaluated before. -/
theorem compareItems_run (hr : s.Ready evaluate items specs) {k : Nat} (hk : k ≤ specs.length)
    {a b : Fin n} (hne : a ≠ b) :
    (s.compareItems evaluate items a b).run.run (s.progressAt evaluate items specs k) =
      (.ok (s.itemOrder evaluate items specs a b),
        s.progressAt evaluate items specs
          (max k (depth (s.allLevels evaluate items specs) a b))) := by
  have hlen : ((s.allLevels evaluate items specs).take k).length = k :=
    length_levels_progressAt hk
  have hsplit : s.allLevels evaluate items specs =
      (s.allLevels evaluate items specs).take k ++ s.allLevels evaluate items (specs.drop k) := by
    rw [allLevels, allLevels, List.map_drop, List.take_append_drop]
  rw [compareItems, run_bind_of_ok (run_get _), itemOrder]
  by_cases hc : compareLevels ((s.allLevels evaluate items specs).take k) a b = .eq
  · rw [hsplit, compareLevels_append, depth_append_of_eq hc, hc, hlen,
      Nat.max_eq_right (Nat.le_add_right _ _)]
    have hrun := breakTie_run hr rfl hne hc
    simp only [progressAt, hc] at hrun ⊢
    exact hrun
  · have hd := depth_append_of_ne hc (s.allLevels evaluate items (specs.drop k))
    rw [← hsplit, hlen] at hd
    rw [Nat.max_eq_left hd, hsplit, compareLevels_append]
    simp only [progressAt]
    cases ho : compareLevels ((s.allLevels evaluate items specs).take k) a b with
    | eq => exact absurd ho hc
    | lt => rfl
    | gt => rfl

/-- The first level is evaluated before any two items are compared. -/
theorem arrange_run_of_ok {spec : SortSpec X} {rest : List (SortSpec X)}
    {collate : String → String → Ordering} (hroom : s.hasRoom (.keys 0) = true)
    (hroom' : s.hasRoom .order = true) (hc : (s.collation spec).1 = .ok collate) :
    (s.arrange evaluate items spec rest).run.run ⟨[], spec :: rest, []⟩ =
      (Gaps.sort (s.compareItems evaluate items)).run.run
        (s.progressAt evaluate items (spec :: rest) 1) := by
  have hlevel : (s.evaluateLevel evaluate items spec rest).run.run ⟨[], spec :: rest, []⟩ =
      (.ok (s.levelOf evaluate items spec), s.progressAt evaluate items (spec :: rest) 1) :=
    evaluateLevel_run_of_ok (k := 0) hroom rfl hc
  rw [arrange, run_bind_of_ok (discard_run hlevel), if_pos hroom']

theorem Ready.arrange_run {spec : SortSpec X} {rest : List (SortSpec X)}
    (hr : s.Ready evaluate items (spec :: rest)) :
    (s.arrange evaluate items spec rest).run.run ⟨[], spec :: rest, []⟩ =
      (Gaps.sort (s.compareItems evaluate items)).run.run
        (s.progressAt evaluate items (spec :: rest) 1) := by
  obtain ⟨collate, hc⟩ := hr.built 0 (Nat.succ_pos _) needed_zero
  exact arrange_run_of_ok (hr.keys_room 0 (Nat.succ_pos _) needed_zero) hr.order_room hc

end Sorter

end StyleHost
