import StyleHost.Proofs.Sort.Stable

/-!
# The evaluations of a sort are the needed ones

The record of a sort lists the calls of the evaluator (`Sorter.evaluations`). They come level by
level, each level once and for every item in input order; and a level is among them exactly if it is
the first or two items tie on all levels before it.

Nothing else of the evaluator matters: one that gives the same values in these calls leads to the
same sort (`Sorter.sort_congr`). So the record leaves no call out.
-/

namespace StyleHost

namespace Sorter

open KeyLevel

variable {X I : Type} {n : Nat}

/-- The calls of the evaluator that a record lists. -/
def evaluations (events : List (SortEvent X)) : List (X × SortEvent.Place) :=
  events.filterMap fun
    | .evaluated select place => some (select, place)
    | .note _ => none

/-- The calls that evaluate a level: one for each item, in input order. -/
def levelCalls (n : Nat) (spec : SortSpec X) : List (X × SortEvent.Place) :=
  (List.finRange n).map fun i : Fin n => (spec.select, ⟨i + 1, n⟩)

/-- Two evaluators give the same values in the calls for a level. -/
def AgreeOn (evaluate evaluate' : Evaluator X I) (items : Vector I n) (spec : SortSpec X) : Prop :=
  ∀ i : Fin n, evaluate' spec.select (items.get i) (i + 1) n =
    evaluate spec.select (items.get i) (i + 1) n

variable {s : Sorter} {evaluate evaluate' : Evaluator X I} {items : Vector I n}
  {specs : List (SortSpec X)}

theorem evaluations_append (events rest : List (SortEvent X)) :
    evaluations (events ++ rest) = evaluations events ++ evaluations rest :=
  List.filterMap_append

theorem evaluations_notes (notices : List Notice) :
    evaluations (notices.map (SortEvent.note (X := X))) = [] := by
  induction notices with
  | nil => rfl
  | cons notice notices ih => exact ih

theorem evaluations_flatMap {α : Type} {f : α → List (SortEvent X)}
    {g : α → List (X × SortEvent.Place)} (h : ∀ a, evaluations (f a) = g a) (l : List α) :
    evaluations (l.flatMap f) = l.flatMap g := by
  induction l with
  | nil => rfl
  | cons a l ih => rw [List.flatMap_cons, List.flatMap_cons, evaluations_append, h, ih]

theorem evaluations_eventsAt (spec : SortSpec X) (i : Fin n) :
    evaluations (eventsAt evaluate items spec i) = [(spec.select, ⟨i + 1, n⟩)] :=
  congrArg (_ :: ·) (evaluations_notes _)

theorem evaluations_levelEvents (spec : SortSpec X) :
    evaluations (s.levelEvents evaluate items spec) = levelCalls n spec := by
  rw [levelEvents, evaluations_append, evaluations_notes, List.append_nil,
    evaluations_flatMap (evaluations_eventsAt spec), levelCalls, List.map_eq_flatMap]

/-! ### What the calls leave open does not matter -/

theorem levelOf_congr {spec : SortSpec X} (h : AgreeOn evaluate evaluate' items spec) :
    s.levelOf evaluate' items spec = s.levelOf evaluate items spec := by
  have hkey : keyAt evaluate' items spec = keyAt evaluate items spec := by
    funext i
    rw [keyAt, keyAt, h i]
  rw [levelOf, levelOf, hkey]

theorem levelEvents_congr {spec : SortSpec X} (h : AgreeOn evaluate evaluate' items spec) :
    s.levelEvents evaluate' items spec = s.levelEvents evaluate items spec := by
  have hevents : eventsAt evaluate' items spec = eventsAt evaluate items spec := by
    funext i
    rw [eventsAt, eventsAt, h i]
  rw [levelEvents, levelEvents, hevents]

theorem take_allLevels_congr {k : Nat}
    (h : ∀ spec ∈ specs.take k, AgreeOn evaluate evaluate' items spec) {j : Nat} (hj : j ≤ k) :
    (s.allLevels evaluate' items specs).take j = (s.allLevels evaluate items specs).take j := by
  rw [allLevels, allLevels, ← List.map_take, ← List.map_take]
  refine List.map_congr_left fun spec hs => levelOf_congr (h spec ?_)
  exact List.take_subset_take_left _ hj hs

theorem needed_congr {k : Nat} (h : ∀ spec ∈ specs.take k, AgreeOn evaluate evaluate' items spec)
    {j : Nat} (hj : j ≤ k) :
    s.Needed evaluate' items specs j ↔ s.Needed evaluate items specs j := by
  rw [Needed, Needed, take_allLevels_congr h hj]

/-- With a level all levels before it are needed. -/
theorem Needed.mono {j k : Nat} (h : s.Needed evaluate items specs k) (hj : j ≤ k) :
    s.Needed evaluate items specs j := by
  rcases h with rfl | ⟨a, b, hne, hab⟩
  · exact .inl (Nat.le_zero.1 hj)
  · refine .inr ⟨a, b, hne, ?_⟩
    rw [compareLevels_eq_eq_iff] at hab ⊢
    exact fun level hl => hab level (List.take_subset_take_left _ hj hl)

/-- An evaluator that agrees up to where no level is needed needs no more than the other. -/
theorem Ready.congr (hr : s.Ready evaluate items specs) {k : Nat}
    (hk : k < specs.length → ¬ s.Needed evaluate items specs k)
    (h : ∀ spec ∈ specs.take k, AgreeOn evaluate evaluate' items spec) :
    s.Ready evaluate' items specs := by
  have hneeded (j : Nat) (hj : j < specs.length) (hj' : s.Needed evaluate' items specs j) :
      s.Needed evaluate items specs j := by
    rcases Nat.lt_or_ge k j with hlt | hle
    · exact absurd ((needed_congr h le_rfl).1 (hj'.mono hlt.le)) (hk (hlt.trans hj))
    · exact (needed_congr h hle).1 hj'
  exact ⟨hr.order_room, fun j hj hj' => hr.keys_room j hj (hneeded j hj hj'),
    fun j hj hj' => hr.built j hj (hneeded j hj hj')⟩

/-- The levels from one on that is not needed have no say. -/
theorem itemOrder_of_not_needed (hd : s.collations.Orders) {k : Nat}
    (hk : ¬ s.Needed evaluate items specs k) (a b : Fin n) :
    s.itemOrder evaluate items specs a b =
      (compareLevels ((s.allLevels evaluate items specs).take k) a b).then (compare a b) := by
  by_cases hab : a = b
  · subst hab
    have := transCmp_itemOrder evaluate items specs hd
    have := transCmp_take evaluate items specs hd k
    have h1 : s.itemOrder evaluate items specs a a = .eq := Std.ReflCmp.compare_self
    have h2 : compareLevels ((s.allLevels evaluate items specs).take k) a a = .eq :=
      Std.ReflCmp.compare_self
    have h3 : compare a a = .eq := Std.ReflCmp.compare_self
    rw [h1, h2, h3]
    rfl
  · -- no two items tie on all levels before it, so one of those decides
    rw [itemOrder_split k]
    cases ho : compareLevels ((s.allLevels evaluate items specs).take k) a b with
    | eq => exact absurd (.inr ⟨a, b, hab, ho⟩) hk
    | lt => rfl
    | gt => rfl

theorem itemOrder_congr (hd : s.collations.Orders) {k : Nat}
    (hk : k < specs.length → ¬ s.Needed evaluate items specs k)
    (h : ∀ spec ∈ specs.take k, AgreeOn evaluate evaluate' items spec) :
    s.itemOrder evaluate' items specs = s.itemOrder evaluate items specs := by
  by_cases hlt : k < specs.length
  · funext a b
    have hk' := hk hlt
    have hk'' := mt (needed_congr h le_rfl).1 hk'
    rw [itemOrder_of_not_needed hd hk', itemOrder_of_not_needed hd hk'',
      take_allLevels_congr h le_rfl]
  · have hall := take_allLevels_congr (s := s) h le_rfl
    rw [List.take_of_length_le (by rw [length_allLevels]; omega),
      List.take_of_length_le (by rw [length_allLevels]; omega)] at hall
    funext a b
    rw [itemOrder, itemOrder, hall]

/-- The levels evaluated are known from those that are needed. -/
theorem count_unique {k k' count : Nat} (hk : k ≤ count) (hk' : k' ≤ count)
    (h : ∀ j < count, j ≤ k → (j < k ↔ j < k')) : k = k' := by
  rcases Nat.lt_trichotomy k k' with hlt | heq | hgt
  · exact absurd ((h k (by omega) le_rfl).2 hlt) (lt_irrefl k)
  · exact heq
  · exact absurd ((h k' (by omega) hgt.le).1 hgt) (lt_irrefl k')

/-- **An evaluator that agrees in the calls for the needed levels leads to the same sort.** -/
theorem sort_congr {items : Array I} (hr : s.Ready evaluate items.toVector specs)
    (hd : s.collations.Orders) (hn : 2 ≤ items.size) (hne : specs ≠ [])
    (hmax : specs.length < SortSpec.maxKeys) {k : Nat} (hk : k ≤ specs.length)
    (hneeded : ∀ j < specs.length, j < k ↔ s.Needed evaluate items.toVector specs j)
    (h : ∀ spec ∈ specs.take k, AgreeOn evaluate evaluate' items.toVector spec) :
    s.sort evaluate' items specs = s.sort evaluate items specs := by
  obtain ⟨k₁, hk₁, hneeded₁, hsort₁⟩ := s.sort_run evaluate hr hd hn hne hmax
  have hr' := hr.congr (fun hlt => mt (hneeded k hlt).2 (lt_irrefl k)) h
  obtain ⟨k₂, hk₂, hneeded₂, hsort₂⟩ := s.sort_run evaluate' hr' hd hn hne hmax
  obtain rfl : k = k₁ :=
    count_unique hk hk₁ fun j hj _ => (hneeded j hj).trans (hneeded₁ j hj).symm
  obtain rfl : k = k₂ := count_unique hk hk₂ fun j hj hjk =>
    (hneeded j hj).trans ((needed_congr h hjk).symm.trans (hneeded₂ j hj).symm)
  have horder : s.itemOrder evaluate' items.toVector specs =
      s.itemOrder evaluate items.toVector specs :=
    itemOrder_congr hd (fun hlt => mt (hneeded k hlt).2 (lt_irrefl k)) h
  have hevents : (specs.take k).flatMap (s.levelEvents evaluate' items.toVector) =
      (specs.take k).flatMap (s.levelEvents evaluate items.toVector) :=
    List.flatMap_congr fun spec hs => levelEvents_congr (h spec hs)
  rw [hsort₁, hsort₂, hevents, sortedOrder, sortedOrder, horder]

theorem needed_iff {k : Nat} : s.Needed evaluate items specs k ↔ k = 0 ∨ ∃ a b : Fin n, a ≠ b ∧
    ∀ spec ∈ specs.take k, SortKey.compare (s.textOrder spec) spec.order
      (keyAt evaluate items spec a) (keyAt evaluate items spec b) = .eq := by
  simp only [Needed, allLevels, ← List.map_take, compareLevels_eq_eq_iff, List.forall_mem_map,
    compare_levelOf]

theorem sort_of_abandoned {items : Array I}
    (h : items.size < 2 ∨ specs = [] ∨ SortSpec.maxKeys ≤ specs.length) :
    ∃ notices : List Notice, ∀ evaluate : Evaluator X I,
      s.sort evaluate items specs = { items, events := notices.map .note } := by
  by_cases htriv : items.size < 2 ∨ specs = []
  · exact ⟨[], fun evaluate => sort_of_trivial htriv⟩
  · have hmax : SortSpec.maxKeys ≤ specs.length := by
      rcases h with h | h | h
      · exact absurd (.inl h) htriv
      · exact absurd (.inr h) htriv
      · exact h
    refine ⟨[.tooManyKeys specs.length], fun evaluate => ?_⟩
    obtain _ | ⟨spec, rest⟩ := specs
    · exact absurd (.inr rfl) htriv
    · rw [sort, if_neg fun hn => htriv (.inl hn), if_pos hmax]
      rfl

/-- **A sort evaluates the needed levels and no others.** Each is evaluated once, in order, and for
every item at its place; what the evaluator gives elsewhere does not matter. With fewer than two
items, no keys or too many, nothing is evaluated and the items stay. -/
theorem evaluations_sort (s : Sorter) (evaluate : Evaluator X I) (items : Array I)
    (specs : List (SortSpec X)) :
    (items.size < 2 ∨ specs = [] ∨ SortSpec.maxKeys ≤ specs.length →
      (s.sort evaluate items specs).items = items ∧
      evaluations (s.sort evaluate items specs).events = [] ∧
      ∀ evaluate', s.sort evaluate' items specs = s.sort evaluate items specs) ∧
    (s.Ready evaluate items.toVector specs → s.collations.Orders → 2 ≤ items.size → specs ≠ [] →
      specs.length < SortSpec.maxKeys → ∃ levels ≤ specs.length,
      evaluations (s.sort evaluate items specs).events =
        (specs.take levels).flatMap (levelCalls items.size) ∧
      (∀ k < specs.length, k < levels ↔ k = 0 ∨ ∃ a b : Fin items.size, a ≠ b ∧
        ∀ spec ∈ specs.take k, SortKey.compare (s.textOrder spec) spec.order
          (keyAt evaluate items.toVector spec a) (keyAt evaluate items.toVector spec b) = .eq) ∧
      ∀ evaluate', (∀ spec ∈ specs.take levels, AgreeOn evaluate evaluate' items.toVector spec) →
        s.sort evaluate' items specs = s.sort evaluate items specs) := by
  constructor
  · intro h
    obtain ⟨notices, hsort⟩ := s.sort_of_abandoned h
    simp only [hsort, implies_true, and_true, true_and]
    exact evaluations_notes notices
  · intro hr hd hn hne hmax
    obtain ⟨levels, hlevels, hneeded, hsort⟩ := s.sort_run evaluate hr hd hn hne hmax
    refine ⟨levels, hlevels, ?_, fun k hk => (hneeded k hk).trans needed_iff,
      fun evaluate' h => sort_congr hr hd hn hne hmax hlevels hneeded h⟩
    rw [hsort]
    simp only [evaluations_append, evaluations_flatMap evaluations_levelEvents]
    exact List.append_nil _

theorem evaluations_of_pairs :
    evaluations (sort ⟨Collation.data, none, fun _ => true⟩ pairKeys
        #[(1, "b"), (2, "a"), (1, "a"), (2, "a")] pairSpecs).events =
      pairSpecs.flatMap (levelCalls 4) := by
  obtain ⟨levels, hlevels, hcalls, hneeded, -⟩ :=
    (evaluations_sort ⟨Collation.data, none, fun _ => true⟩ pairKeys
      #[(1, "b"), (2, "a"), (1, "a"), (2, "a")] pairSpecs).2 (ready_pairSpecs _)
      Collation.orders_data (by decide) (by decide) (by decide)
  have htie : 1 < levels := (hneeded 1 (by decide)).2 (.inr ⟨0, 2, by decide, by decide +kernel⟩)
  obtain rfl : levels = 2 := Nat.le_antisymm hlevels htie
  exact hcalls

end Sorter

end StyleHost
