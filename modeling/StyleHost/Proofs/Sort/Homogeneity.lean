import StyleHost.Proofs.Sort.Stable

/-!
# The keys of a level belong together

Keys of two data types are not in order: they all tie. A sort never compares such keys, because the
keys of a level all come from one specification, and a specification gives keys of its data type
only, also where its expression fails.

* `Sorter.Evaluated` : what is known of the state of a sort at any time, also when it stops early.
* `KeyLevel.Homogeneous` : the keys of a level are of one data type, and such keys are in a total
  preorder in either direction, with the same ties.
* `Sorter.homogeneous_levels` : every level that a sort evaluates is like that.
-/

namespace StyleHost

namespace SortKey

variable {collate : String → String → Ordering}

/-- The direction has no say in whether two keys tie. -/
theorem compare_eq_eq_iff (a b : Option SortKey) (order order' : SortOrder) :
    compare collate order a b = .eq ↔ compare collate order' a b = .eq := by
  rcases a with _ | (_ | _ | _) <;> rcases b with _ | (_ | _ | _) <;>
    simp [compare, directed_eq_eq_iff]

end SortKey

/-- A level as a specification describes it. -/
structure KeyLevel.Homogeneous {X : Type} {n : Nat} (s : Sorter) (spec : SortSpec X)
    (level : KeyLevel n) : Prop where
  order_eq : level.order = spec.order
  collate_eq : level.collate = s.textOrder spec
  /-- The keys are of one data type. -/
  fits : ∀ i, SortKey.Fits spec.dataType (level.keys.get i)

/-- The keys of a data type are in a total preorder, in either direction. -/
structure SortKey.Ordered (dataType : DataType) (collate : String → String → Ordering) : Prop where
  self (order : SortOrder) {a : Option SortKey} (ha : Fits dataType a) :
    compare collate order a a = .eq
  swap (order : SortOrder) {a b : Option SortKey} (ha : Fits dataType a) (hb : Fits dataType b) :
    compare collate order b a = (compare collate order a b).swap
  trans (order : SortOrder) {a b c : Option SortKey} (ha : Fits dataType a) (hb : Fits dataType b)
    (hc : Fits dataType c) (hab : (compare collate order a b).isLE)
    (hbc : (compare collate order b c).isLE) : (compare collate order a c).isLE
  /-- Both directions have the same ties. -/
  ties (a b : Option SortKey) :
    compare collate .ascending a b = .eq ↔ compare collate .descending a b = .eq

/-- All keys of a data type are in order if texts are. -/
theorem SortKey.ordered {collate : String → String → Ordering} (h : Std.TransCmp collate)
    (dataType : DataType) : Ordered dataType collate := by
  have htrans : ∀ order, Std.TransCmp fun a b : {key // Fits dataType key} =>
      compare collate order a.1 b.1 := fun order => transCmp_compare Subtype.property
  constructor
  · intro order a ha
    -- only a tie is its own reverse
    have hself : compare collate order a a = (compare collate order a a).swap :=
      (htrans order).eq_swap (a := ⟨a, ha⟩) (b := ⟨a, ha⟩)
    cases h : compare collate order a a <;> simp_all
  · intro order a b ha hb
    exact (htrans order).eq_swap (a := ⟨b, hb⟩) (b := ⟨a, ha⟩)
  · intro order a b c ha hb hc
    exact (htrans order).isLE_trans (a := ⟨a, ha⟩) (b := ⟨b, hb⟩) (c := ⟨c, hc⟩)
  · intro a b
    exact compare_eq_eq_iff a b _ _

/-- Keys of two data types are not in order: two numbers that differ both tie with a text. -/
example (collate : String → String → Ordering) :
    SortKey.compare collate .ascending (some (.number (.infinite false))) (some (.text "")) = .eq ∧
      SortKey.compare collate .ascending (some (.text "")) (some (.number (.infinite true))) = .eq ∧
      SortKey.compare collate .ascending (some (.number (.infinite false)))
        (some (.number (.infinite true))) = .gt :=
  ⟨rfl, rfl, rfl⟩

namespace Sorter

variable {X I : Type} {n k : Nat} {s : Sorter} {evaluate : Evaluator X I} {items : Vector I n}
  {spec : SortSpec X} {specs rest : List (SortSpec X)} {p : Progress X n}

theorem homogeneous_levelOf (spec : SortSpec X) :
    (s.levelOf evaluate items spec).Homogeneous s spec where
  order_eq := rfl
  collate_eq := rfl
  fits i := by
    simp only [levelOf, Permutation.get_eq_getElem, Vector.getElem_ofFn]
    exact fits_keyAt i

/-! ### The levels of a sort -/

/-- The levels evaluated so far are those of the first `k` specifications, and the others are
pending. -/
structure EvaluatedTo (s : Sorter) (evaluate : Evaluator X I) (items : Vector I n)
    (specs : List (SortSpec X)) (k : Nat) (p : Progress X n) : Prop where
  levels : p.levels = (s.allLevels evaluate items specs).take k
  pending : p.pending = specs.drop k

/-- The levels evaluated so far are those of some first specifications. -/
def Evaluated (s : Sorter) (evaluate : Evaluator X I) (items : Vector I n)
    (specs : List (SortSpec X)) (p : Progress X n) : Prop :=
  ∃ k, s.EvaluatedTo evaluate items specs k p

/-- **Evaluating a level** adds that of the next specification, or none if it fails. -/
theorem evaluateLevel_evaluated (hp : s.EvaluatedTo evaluate items specs k p)
    (h : specs.drop k = spec :: rest) :
    Ends (s.evaluateLevel evaluate items spec rest)
      (fun _ p' => s.EvaluatedTo evaluate items specs (k + 1) p')
      (fun _ p' => s.Evaluated evaluate items specs p') p := by
  unfold Ends
  rw [evaluateLevel_run_eq]
  by_cases hroom : s.hasRoom (.keys p.levels.length) = true
  · rw [if_pos hroom]
    cases (s.collation spec).1 with
    | error cause => exact ⟨k, hp.levels, hp.pending⟩
    | ok collate =>
      constructor
      · simp only [hp.levels, allLevels, ← List.map_take, take_succ_of_drop h, List.map_append,
          List.map_cons, List.map_nil]
      · exact (drop_succ_of_drop h).symm
  · rw [if_neg hroom]
    exact ⟨k, hp⟩

theorem breakTie_evaluated {pending : List (SortSpec X)} (a b : Fin n)
    (hp : s.EvaluatedTo evaluate items specs k p) (h : specs.drop k = pending) :
    Ends (s.breakTie evaluate items a b pending) (fun _ p' => s.Evaluated evaluate items specs p')
      (fun _ p' => s.Evaluated evaluate items specs p') p := by
  induction pending generalizing k p with
  | nil => exact Ends.pure_iff.2 ⟨k, hp⟩
  | cons spec rest ih =>
    rw [breakTie]
    refine Ends.bind_iff.2 ((evaluateLevel_evaluated hp h).mono fun level p' hp' => ?_)
    split
    · exact ih hp' (drop_succ_of_drop h)
    · exact Ends.pure_iff.2 ⟨k + 1, hp'⟩

/-- **One comparison.** -/
theorem compareItems_evaluated {a b : Fin n} (hp : s.Evaluated evaluate items specs p) :
    Ends (s.compareItems evaluate items a b) (fun _ p' => s.Evaluated evaluate items specs p')
      (fun _ p' => s.Evaluated evaluate items specs p') p := by
  obtain ⟨k, hk⟩ := hp
  rw [compareItems, Ends.bind_iff, Ends.get_iff]
  split
  · exact breakTie_evaluated a b hk hk.pending.symm
  · exact Ends.pure_iff.2 ⟨k, hk⟩

/-- What the comparison promises about the levels. Nothing is said of the order of entries. -/
def evaluating (s : Sorter) (evaluate : Evaluator X I) (items : Vector I n)
    (specs : List (SortSpec X)) : Gaps.Contract (s.compareItems evaluate items) where
  inv p := s.Evaluated evaluate items specs p
  mayPrecede _ _ _ := True
  stop _ p := s.Evaluated evaluate items specs p
  compare_ends _ hp := (compareItems_evaluated hp).mono fun _ _ hp' =>
    ⟨hp', fun _ _ _ => trivial, by split <;> trivial⟩

variable (s evaluate items spec rest) in
/-- **The whole sort**, whether it comes to its end or not. -/
theorem arrange_evaluated :
    s.Evaluated evaluate items (spec :: rest)
      ((s.arrange evaluate items spec rest).run.run ⟨[], spec :: rest, []⟩).2 := by
  have hstart : s.EvaluatedTo evaluate items (spec :: rest) 0 ⟨[], spec :: rest, []⟩ := ⟨rfl, rfl⟩
  have hends : Ends (s.arrange evaluate items spec rest)
      (fun _ p => s.Evaluated evaluate items (spec :: rest) p)
      (fun _ p => s.Evaluated evaluate items (spec :: rest) p) ⟨[], spec :: rest, []⟩ := by
    rw [arrange, discard]
    refine Ends.bind_iff.2 (Ends.bind_iff.2 ((evaluateLevel_evaluated hstart rfl).mono ?_))
    intro _ p hp
    have hev : (evaluating s evaluate items (spec :: rest)).inv p := ⟨0 + 1, hp⟩
    refine Ends.pure_iff.2 ?_
    split
    · exact (Gaps.sort_ends _ hev).mono fun _ _ h => h.1
    · exact hev
  unfold Ends at hends
  split at hends
  all_goals
    rename_i hrun
    rw [hrun]
    exact hends

/-- **Every level that a sort evaluates** holds keys of the data type of its specification only,
and such keys are in a total preorder in either direction if the usable collations are. -/
theorem homogeneous_levels {level : KeyLevel n}
    (h : ((s.arrange evaluate items spec rest).run.run ⟨[], spec :: rest, []⟩).2.levels[k]? =
      some level) :
    ∃ spec', (spec :: rest)[k]? = some spec' ∧ level.Homogeneous s spec' ∧
      (s.collations.Orders → SortKey.Ordered spec'.dataType level.collate) := by
  obtain ⟨m, hm⟩ := arrange_evaluated s evaluate items spec rest
  rw [hm.levels, allLevels, ← List.map_take, List.getElem?_map, Option.map_eq_some_iff] at h
  obtain ⟨spec', hspec, rfl⟩ := h
  refine ⟨spec', ?_, homogeneous_levelOf spec',
    fun hd => SortKey.ordered (transCmp_textOrder hd spec') _⟩
  rw [List.getElem?_take] at hspec
  split_ifs at hspec
  exact hspec

/-- Two levels of pairs, the second of them for a tie of the first. -/
theorem homogeneous_levels_of_pairs : ∃ level,
    ((arrange ⟨Collation.data, none, fun _ => true⟩ pairKeys
        #v[(1, "b"), (2, "a"), (1, "a"), (2, "a")]
        { select := .number, dataType := .number, order := .descending }
        [{ select := .text }]).run.run ⟨[], pairSpecs, []⟩).2.levels[1]? = some level ∧
      level.Homogeneous ⟨Collation.data, none, fun _ => true⟩
        ({ select := .text } : SortSpec DataType) ∧
      SortKey.Ordered .text level.collate := by
  obtain ⟨order, m, hrun, -, hm, hneeded⟩ :=
    @arrange_run _ _ 4 _ pairKeys #v[(1, "b"), (2, "a"), (1, "a"), (2, "a")] _ _
      (ready_pairSpecs _) Collation.orders_data
  have htie : 1 < m := (hneeded 1 (by decide)).2 (.inr ⟨0, 2, by decide, by decide +kernel⟩)
  obtain rfl : m = 2 := Nat.le_antisymm hm htie
  have hlevel := congrArg (fun r => r.2.levels[1]?) hrun
  obtain ⟨spec, hspec, hlevel', hordered⟩ := homogeneous_levels hlevel
  cases hspec
  exact ⟨_, hlevel, hlevel', hordered Collation.orders_data⟩

end Sorter

end StyleHost
