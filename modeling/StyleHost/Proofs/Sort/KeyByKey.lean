import StyleHost.Proofs.Sort.Stable

/-!
# Sorting key by key

A sort by several keys can be done in as many sorts by one key each, the last key first: since every
sort keeps the order of ties, the order that the later keys have made survives where the earlier
ones tie. The keys have to belong to the items and not to their places, which every sort changes.

* `Sorter.ByItem` : an evaluator that does not look at places.
* `Sorter.sortKeyByKey` : one sort after another, the last key first.
-/

namespace StyleHost

namespace Sorter

open KeyLevel

variable {X I : Type} {n m : Nat}

/-- The values of an evaluator depend on the item alone, not on its place in the selection. -/
def ByItem (evaluate : Evaluator X I) : Prop :=
  ∀ select item position size position' size',
    evaluate select item position size = evaluate select item position' size'

/-- The items after one sort for each key, the last key first. -/
def sortKeyByKey (s : Sorter) (evaluate : Evaluator X I) (items : Array I) :
    List (SortSpec X) → Array I
  | [] => items
  | spec :: specs => (s.sort evaluate (s.sortKeyByKey evaluate items specs) [spec]).items

variable {s : Sorter} {evaluate : Evaluator X I} {spec : SortSpec X} {specs : List (SortSpec X)}

/-- Where an item stands in two selections, it has the same key. -/
theorem ByItem.keyAt_eq (h : ByItem evaluate) {items : Vector I n} {items' : Vector I m} {i : Fin n}
    {j : Fin m} (hij : items'.get j = items.get i) :
    keyAt evaluate items' spec j = keyAt evaluate items spec i := by
  rw [keyAt, keyAt, hij, h _ _ (j + 1) m (i + 1) n]

theorem Roomy.of_cons (h : s.Roomy (spec :: specs)) : s.Roomy [spec] ∧ s.Roomy specs := by
  refine ⟨⟨h.order_room, fun k hk => ?_⟩, h.order_room, fun k hk => ?_⟩
  · exact h.keys_room k (hk.trans_le (Nat.succ_le_succ (Nat.zero_le _)))
  · exact h.keys_room k (hk.trans (Nat.lt_succ_self _))

theorem Built.of_cons (h : s.Built (spec :: specs)) : s.Built [spec] ∧ s.Built specs := by
  obtain ⟨hspec, hspecs⟩ := List.forall_mem_cons.1 h
  exact ⟨List.forall_mem_singleton.2 hspec, hspecs⟩

theorem itemOrder_cons (items : Vector I n) (a b : Fin n) :
    s.itemOrder evaluate items (spec :: specs) a b =
      ((s.levelOf evaluate items spec).compare a b).then
        (s.itemOrder evaluate items specs a b) := by
  rw [itemOrder, allLevels, List.map_cons, compareLevels_cons, Ordering.then_assoc]
  rfl

theorem itemOrder_nil (items : Vector I n) (a b : Fin n) :
    s.itemOrder evaluate items [] a b = compare a b := rfl

/-- Two places of a selection that is sorted by some keys are in order by one more key before these
if they are by that key alone. -/
theorem isLE_itemOrder_cons (hitem : ByItem evaluate) (hd : s.collations.Orders)
    {items : Vector I n} {items' : Vector I m} {place : Fin m → Fin n}
    (hplace : ∀ j, items'.get j = items.get (place j))
    (hsorted : ∀ a b, a < b → (s.itemOrder evaluate items specs (place a) (place b)).isLE)
    {a b : Fin m} (hab : (s.itemOrder evaluate items' [spec] a b).isLE) :
    (s.itemOrder evaluate items (spec :: specs) (place a) (place b)).isLE := by
  have hlevel : (s.levelOf evaluate items spec).compare (place a) (place b) =
      (s.levelOf evaluate items' spec).compare a b := by
    rw [compare_levelOf, compare_levelOf, hitem.keyAt_eq (hplace a), hitem.keyAt_eq (hplace b)]
  rw [itemOrder_cons, itemOrder_nil, Ordering.isLE_then_iff_or] at hab
  rw [itemOrder_cons, hlevel, Ordering.isLE_then_iff_or]
  refine hab.imp_right fun ⟨htie, hle⟩ => ⟨htie, ?_⟩
  -- the key leaves the two where they were, and there they are in order by the other keys
  rcases Nat.lt_or_eq_of_le (Nat.isLE_compare.1 hle) with hlt | heq
  · exact hsorted a b hlt
  · have := transCmp_itemOrder evaluate items specs hd
    rw [Fin.ext heq]
    exact Std.ReflCmp.isLE_rfl

/-- Where the items of a selection come from, if they are given by their places in another. -/
theorem exists_places (items : Vector I n) (items' : Vector I m) {order : List (Fin n)}
    (h : items'.toList = order.map items.get) : ∃ place : Fin m → Fin n,
      (∀ j, items'.get j = items.get (place j)) ∧ (List.finRange m).map place = order := by
  have hlength : m = order.length := by simpa using congrArg List.length h
  refine ⟨fun j => order.get (j.cast hlength), fun j => ?_, ?_⟩
  · have := List.getElem_of_eq h (i := j) (by simp)
    simpa [Permutation.get_eq_getElem] using this
  · exact List.ext_getElem (by simp [hlength]) fun k _ _ => by simp

theorem one_lt_maxKeys (spec : SortSpec X) : [spec].length < SortSpec.maxKeys := by
  rw [List.length_singleton]
  decide

/-- **One key more in front** is one sort more at the end. -/
theorem sort_cons (hitem : ByItem evaluate) (items : Array I) (hroom : s.Roomy (spec :: specs))
    (hbuilt : s.Built (spec :: specs)) (hd : s.collations.Orders)
    (hmax : (spec :: specs).length < SortSpec.maxKeys) :
    (s.sort evaluate items (spec :: specs)).items =
      (s.sort evaluate (s.sort evaluate items specs).items [spec]).items := by
  have hrest := (items_sort evaluate items (hroom.of_cons.2.ready hbuilt.of_cons.2) hd
    ((Nat.lt_succ_self _).trans hmax)).2
  generalize (s.sort evaluate items specs).items = items' at hrest ⊢
  obtain ⟨place, hplace, hplaces⟩ := exists_places items.toVector items'.toVector hrest
  have hplaced : ((List.finRange items'.size).map place).Pairwise fun a b =>
      (s.itemOrder evaluate items.toVector specs a b).isLE := by
    rw [hplaces]
    exact pairwise_sortedOrder hd
  have hsorted := pairwise_finRange_iff.1 (List.pairwise_map.1 hplaced)
  have hitems := (items_sort evaluate items (hroom.ready hbuilt) hd hmax).2
  have hitems' := (items_sort evaluate items' (hroom.of_cons.1.ready hbuilt.of_cons.1) hd
    (one_lt_maxKeys spec)).2
  -- the second sort arranges the places of the first by all keys
  have hboth : (s.sortedOrder evaluate items'.toVector [spec]).map place =
      s.sortedOrder evaluate items.toVector (spec :: specs) := by
    refine eq_sortedOrder hd ?_ ?_
    · have hperm : (s.sortedOrder evaluate items'.toVector [spec]).Perm
          (List.finRange items'.size) := List.mergeSort_perm _ _
      refine (hperm.map place).trans ?_
      rw [hplaces]
      exact List.mergeSort_perm _ _
    · exact List.pairwise_map.2 ((pairwise_sortedOrder hd).imp
        (isLE_itemOrder_cons hitem hd hplace hsorted))
  refine Array.toList_inj.1 ?_
  rw [hitems, hitems', ← hboth, List.map_map]
  exact List.map_congr_left fun j _ => (hplace j).symm

/-- **A sort by several keys is a sort by each of them, the last key first.** Each of these sorts
evaluates its key, so there has to be room for all keys and a comparison for each. -/
theorem sort_eq_sortKeyByKey (hitem : ByItem evaluate) (items : Array I) (hroom : s.Roomy specs)
    (hbuilt : s.Built specs) (hd : s.collations.Orders) (hmax : specs.length < SortSpec.maxKeys) :
    (s.sort evaluate items specs).items = s.sortKeyByKey evaluate items specs := by
  induction specs with
  | nil => rfl
  | cons spec specs ih =>
    rw [sort_cons hitem items hroom hbuilt hd hmax,
      ih hroom.of_cons.2 hbuilt.of_cons.2 ((Nat.lt_succ_self _).trans hmax), sortKeyByKey]

/-- Four pairs sorted by text, and then by number with the greatest first. -/
theorem sortKeyByKey_of_pairs :
    (sort ⟨Collation.data, none, fun _ => true⟩ pairKeys
        #[(1, "b"), (2, "a"), (1, "a"), (2, "b")] pairSpecs).items =
      sortKeyByKey ⟨Collation.data, none, fun _ => true⟩ pairKeys
        #[(1, "b"), (2, "a"), (1, "a"), (2, "b")] pairSpecs :=
  sort_eq_sortKeyByKey (fun _ _ _ _ _ _ => rfl) _ (roomy_always _ _) built_pairSpecs
    Collation.orders_data (by decide)

end Sorter

end StyleHost
