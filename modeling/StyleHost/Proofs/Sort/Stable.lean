import StyleHost.Proofs.Sort.Run

/-!
# A sort is a stable sort by tuples of keys

The plain way to sort a selection evaluates all keys of all items first, compares the tuples of keys
place by place, and breaks ties by input order (`Sorter.stableSort`). The sort that evaluates levels
on demand, sinks entries over shrinking gaps and rearranges in place gives the same items.
-/

namespace StyleHost

namespace Sorter

variable {X I : Type} {n : Nat}

/-- The tuple of keys of an item, one for each specification. -/
def keysOf (evaluate : Evaluator X I) (items : Vector I n) (specs : List (SortSpec X)) (i : Fin n) :
    List (Option SortKey) :=
  specs.map fun spec => keyAt evaluate items spec i

/-- The order of two tuples of keys: the first place that differs decides, in its own direction. -/
def compareKeys (s : Sorter) : List (SortSpec X) → List (Option SortKey) →
    List (Option SortKey) → Ordering
  | spec :: specs, a :: as, b :: bs =>
    (SortKey.compare (s.textOrder spec) spec.order a b).then (s.compareKeys specs as bs)
  | _, _, _ => .eq

/-- The order of two items by their tuples of keys, and by input order if these tie. -/
def stableOrder (s : Sorter) (evaluate : Evaluator X I) (items : Vector I n)
    (specs : List (SortSpec X)) (a b : Fin n) : Ordering :=
  (s.compareKeys specs (keysOf evaluate items specs a) (keysOf evaluate items specs b)).then
    (compare a b)

/-- The items sorted by their tuples of keys. -/
def stableSort (s : Sorter) (evaluate : Evaluator X I) (items : Array I)
    (specs : List (SortSpec X)) : List I :=
  ((List.finRange items.size).mergeSort fun a b =>
    (s.stableOrder evaluate items.toVector specs a b).isLE).map items.toVector.get

variable {s : Sorter} {evaluate : Evaluator X I} {specs : List (SortSpec X)}

theorem compareLevels_eq_compareKeys {items : Vector I n} (a b : Fin n) :
    compareLevels (s.allLevels evaluate items specs) a b =
      s.compareKeys specs (keysOf evaluate items specs a) (keysOf evaluate items specs b) := by
  induction specs with
  | nil => rfl
  | cons spec specs ih =>
    rw [allLevels] at ih
    rw [allLevels, List.map_cons, KeyLevel.compareLevels_cons, compare_levelOf, ih]
    rfl

theorem itemOrder_eq_stableOrder {items : Vector I n} :
    s.itemOrder evaluate items specs = s.stableOrder evaluate items specs := by
  funext a b
  rw [itemOrder, compareLevels_eq_compareKeys, stableOrder]

theorem pairwise_compareKeys {items : Vector I n} (hd : s.collations.Orders) :
    (s.sortedOrder evaluate items specs).Pairwise fun a b =>
      let o := s.compareKeys specs (keysOf evaluate items specs a) (keysOf evaluate items specs b)
      o = .lt ∨ o = .eq ∧ a < b := by
  refine (pairwise_lt_sortedOrder hd).imp fun {a b} hlt => ?_
  rw [itemOrder_eq_stableOrder, stableOrder, Ordering.then_eq_lt] at hlt
  exact hlt.imp_right fun ⟨heq, hab⟩ => ⟨heq, Nat.compare_eq_lt.1 hab⟩

/-- **A sort by fewer than fifteen keys is the stable sort by tuples of keys.** It only rearranges
the items: tuples come in ascending order, and items whose tuples tie keep their input order. -/
theorem sort_eq_stableSort (items : Array I) (hr : s.Ready evaluate items.toVector specs)
    (hd : s.collations.Orders) (hmax : specs.length < SortSpec.maxKeys) :
    (s.sort evaluate items specs).items.toList = s.stableSort evaluate items specs ∧
      (s.sort evaluate items specs).breakdown = none ∧
      (s.sort evaluate items specs).items.toList.Perm items.toList ∧
      ∃ order : List (Fin items.size), order.Perm (List.finRange items.size) ∧
        (s.sort evaluate items specs).items.toList = order.map items.toVector.get ∧
        order.Pairwise fun a b =>
          let o := s.compareKeys specs (keysOf evaluate items.toVector specs a)
            (keysOf evaluate items.toVector specs b)
          o = .lt ∨ o = .eq ∧ a < b := by
  obtain ⟨hbreak, hitems⟩ := items_sort evaluate items hr hd hmax
  have hperm : (s.sortedOrder evaluate items.toVector specs).Perm (List.finRange items.size) :=
    List.mergeSort_perm _ _
  refine ⟨?_, hbreak, ?_, _, hperm, hitems, pairwise_compareKeys hd⟩
  · rw [hitems, sortedOrder, itemOrder_eq_stableOrder, stableSort]
  · rw [hitems]
    exact (hperm.map _).trans (.of_eq (map_get_finRange _))

/-- A key by number and a key by text, for items that have both. -/
def pairKeys : Evaluator DataType (Nat × String) := fun select item _ _ =>
  match select with
  | .number => .ok (.text (toString item.1))
  | .text => .ok (.text item.2)

/-- Greater numbers first, and then by text. -/
def pairSpecs : List (SortSpec DataType) :=
  [{ select := .number, dataType := .number, order := .descending }, { select := .text }]

theorem roomy_always (data : Collations) (specs : List (SortSpec X)) :
    Roomy ⟨data, none, fun _ => true⟩ specs :=
  ⟨rfl, fun _ _ => rfl⟩

theorem built_pairSpecs : Built ⟨Collation.data, none, fun _ => true⟩ pairSpecs := by
  simp only [Built, pairSpecs, List.forall_mem_cons]
  exact ⟨⟨_, rfl⟩, ⟨_, rfl⟩, by simp⟩

theorem ready_pairSpecs (items : Vector (Nat × String) n) :
    Ready ⟨Collation.data, none, fun _ => true⟩ pairKeys items pairSpecs :=
  (roomy_always _ _).ready built_pairSpecs

theorem stableSort_of_pairs :
    (sort ⟨Collation.data, none, fun _ => true⟩ pairKeys
        #[(1, "b"), (2, "a"), (1, "a"), (2, "a")] pairSpecs).items.toList =
      stableSort ⟨Collation.data, none, fun _ => true⟩ pairKeys
        #[(1, "b"), (2, "a"), (1, "a"), (2, "a")] pairSpecs :=
  (sort_eq_stableSort _ (ready_pairSpecs _) Collation.orders_data (by decide)).1

end Sorter

end StyleHost
