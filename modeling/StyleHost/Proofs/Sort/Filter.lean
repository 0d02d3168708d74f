import StyleHost.Proofs.Sort.KeyByKey

/-!
# Sorting a part of a selection

The order of two items is a matter of these two alone: what else is in the selection has no say in
it. So whoever takes items out of a selection may do so before the sort or after it, although the
sort of the part compares other pairs, over other gaps, and may evaluate other levels.

* `Sorter.filter_sort` : the part of a sorted selection is the sorted part.
-/

namespace StyleHost

namespace Sorter

variable {X I : Type} {n m : Nat} {s : Sorter} {evaluate : Evaluator X I}
  {specs : List (SortSpec X)}

/-- Two items that stand in two selections in the same order compare alike in both. -/
theorem ByItem.itemOrder_eq (hitem : ByItem evaluate) {items : Vector I n} {items' : Vector I m}
    {place : Fin m → Fin n} (hplace : ∀ j, items'.get j = items.get (place j)) {a b : Fin m}
    (hab : compare (place a) (place b) = compare a b) :
    s.itemOrder evaluate items' specs a b =
      s.itemOrder evaluate items specs (place a) (place b) := by
  induction specs with
  | nil => exact hab.symm
  | cons spec specs ih =>
    rw [itemOrder_cons, itemOrder_cons, ih, compare_levelOf, compare_levelOf,
      hitem.keyAt_eq (hplace a), hitem.keyAt_eq (hplace b)]

/-- The places of a part stand in the order of the whole. -/
theorem strictMono_of_filter {place : Fin m → Fin n} {p : Fin n → Bool}
    (hplaces : (List.finRange m).map place = (List.finRange n).filter p) : StrictMono place := by
  have hlt : ((List.finRange m).map place).Pairwise (· < ·) :=
    hplaces ▸ (List.pairwise_lt_finRange n).filter p
  exact fun a b hab => pairwise_finRange_iff.1 (List.pairwise_map.1 hlt) a b hab

/-- **The sorted arrangement of a part.** -/
theorem map_sortedOrder_eq_filter (hitem : ByItem evaluate) (hd : s.collations.Orders)
    {items : Vector I n} {items' : Vector I m} {place : Fin m → Fin n} {p : Fin n → Bool}
    (hplace : ∀ j, items'.get j = items.get (place j))
    (hplaces : (List.finRange m).map place = (List.finRange n).filter p) :
    (s.sortedOrder evaluate items' specs).map place =
      (s.sortedOrder evaluate items specs).filter p := by
  have hmono := strictMono_of_filter hplaces
  have hperm : ((s.sortedOrder evaluate items' specs).map place).Perm
      ((s.sortedOrder evaluate items specs).filter p) := by
    have hpart : (s.sortedOrder evaluate items' specs).Perm (List.finRange m) :=
      List.mergeSort_perm _ _
    have hwhole : (s.sortedOrder evaluate items specs).Perm (List.finRange n) :=
      List.mergeSort_perm _ _
    exact (hpart.map place).trans (hplaces ▸ (hwhole.filter p).symm)
  refine eq_of_perm_of_sorted hd hperm ?_ ((pairwise_sortedOrder hd).filter p)
  refine List.pairwise_map.2 ((pairwise_sortedOrder hd).imp fun {a b} hab => ?_)
  have hinput : compare (place a) (place b) = compare a b := by
    rw [← cmp_eq_compare, ← cmp_eq_compare, hmono.cmp_map_eq]
  rwa [hitem.itemOrder_eq hplace hinput] at hab

/-- What is left of the sorted arrangement is sorted by the order of the whole. -/
theorem filter_sortedOrder (hd : s.collations.Orders) {items : Vector I n} (p : Fin n → Bool) :
    (s.sortedOrder evaluate items specs).filter p = ((List.finRange n).filter p).mergeSort
      fun a b => (s.itemOrder evaluate items specs a b).isLE := by
  have := transCmp_itemOrder evaluate items specs hd
  have hwhole : (s.sortedOrder evaluate items specs).Perm (List.finRange n) :=
    List.mergeSort_perm _ _
  refine eq_of_perm_of_sorted hd ((hwhole.filter p).trans (List.mergeSort_perm _ _).symm)
    ((pairwise_sortedOrder hd).filter p) ?_
  exact List.pairwise_mergeSort (fun _ _ _ => Std.TransCmp.isLE_trans) (isLE_total _) _

/-- Items that tie in a part tie in the whole. -/
theorem ByItem.take_allLevels_eq (hitem : ByItem evaluate) {items : Vector I n}
    {items' : Vector I m} {place : Fin m → Fin n}
    (hplace : ∀ j, items'.get j = items.get (place j)) (k : Nat) (a b : Fin m) :
    compareLevels ((s.allLevels evaluate items' specs).take k) a b =
      compareLevels ((s.allLevels evaluate items specs).take k) (place a) (place b) := by
  rw [allLevels, allLevels, ← List.map_take, ← List.map_take]
  induction specs.take k with
  | nil => rfl
  | cons spec specs ih =>
    rw [List.map_cons, List.map_cons, KeyLevel.compareLevels_cons, KeyLevel.compareLevels_cons, ih,
      compare_levelOf, compare_levelOf, hitem.keyAt_eq (hplace a), hitem.keyAt_eq (hplace b)]

/-- A part needs no more than the whole. -/
theorem Ready.part (hitem : ByItem evaluate) {items : Vector I n} {items' : Vector I m}
    {place : Fin m → Fin n} (hplace : ∀ j, items'.get j = items.get (place j))
    (hinjective : Function.Injective place) (hr : s.Ready evaluate items specs) :
    s.Ready evaluate items' specs := by
  have hneeded (k : Nat) (hk : s.Needed evaluate items' specs k) :
      s.Needed evaluate items specs k := by
    refine hk.imp_right fun ⟨a, b, hne, hab⟩ => ⟨place a, place b, hinjective.ne hne, ?_⟩
    rwa [hitem.take_allLevels_eq hplace] at hab
  exact ⟨hr.order_room, fun k hk hk' => hr.keys_room k hk (hneeded k hk'),
    fun k hk hk' => hr.built k hk (hneeded k hk')⟩

/-- **Taking items out before a sort or after it is the same.** The items that are left neither
change their order nor that of their ties: they are arranged by the order of the items in the whole
selection. -/
theorem filter_sort (hitem : ByItem evaluate) (items : Array I)
    (hr : s.Ready evaluate items.toVector specs) (hd : s.collations.Orders)
    (hmax : specs.length < SortSpec.maxKeys) (p : I → Bool) :
    (s.sort evaluate items specs).items.filter p =
        (s.sort evaluate (items.filter p) specs).items ∧
      (s.sort evaluate (items.filter p) specs).items.toList =
        (((List.finRange items.size).filter (p ∘ items.toVector.get)).mergeSort fun a b =>
          (s.stableOrder evaluate items.toVector specs a b).isLE).map items.toVector.get := by
  have hwhole := (items_sort evaluate items hr hd hmax).2
  have hitems : (items.filter p).toVector.toList =
      ((List.finRange items.size).filter (p ∘ items.toVector.get)).map items.toVector.get := by
    rw [← List.filter_map, map_get_finRange]
    exact Array.toList_filter
  obtain ⟨place, hplace, hplaces⟩ :=
    exists_places items.toVector (items.filter p).toVector hitems
  have hinjective : Function.Injective place := (strictMono_of_filter hplaces).injective
  have hpart := (items_sort evaluate (items.filter p) (hr.part hitem hplace hinjective) hd hmax).2
  have hplaced : (s.sort evaluate (items.filter p) specs).items.toList =
      ((s.sortedOrder evaluate items.toVector specs).filter (p ∘ items.toVector.get)).map
        items.toVector.get := by
    rw [hpart, ← map_sortedOrder_eq_filter hitem hd hplace hplaces, List.map_map]
    exact List.map_congr_left fun j _ => hplace j
  constructor
  · refine Array.toList_inj.1 ?_
    rw [hplaced, Array.toList_filter, hwhole, List.filter_map]
  · rw [hplaced, filter_sortedOrder hd, itemOrder_eq_stableOrder]

/-- Four pairs sorted by number and by text, of which those with the text `a` are left. -/
theorem filter_sort_of_pairs :
    (sort ⟨Collation.data, none, fun _ => true⟩ pairKeys
        #[(1, "b"), (2, "a"), (1, "a"), (2, "b")] pairSpecs).items.filter (·.2 == "a") =
      (sort ⟨Collation.data, none, fun _ => true⟩ pairKeys #[(2, "a"), (1, "a")]
        pairSpecs).items :=
  (filter_sort (fun _ _ _ _ _ _ => rfl) _ (ready_pairSpecs _) Collation.orders_data (by decide) _).1

end Sorter

end StyleHost
