import Mathlib.Data.Bool.Basic
import StyleHost.Proofs.Sort.KeyByKey

/-!
# Turning the direction of a key

A key can be turned from ascending to descending. That does not turn the sorted selection around:
items whose key is absent or not a number stay in front, and items that tie stay in input order.
What is turned around is the order of the classes of items that tie.

* `Sorter.TieClasses` : the classes of ties among the items with ordinary keys, in ascending order.
* `Sorter.sort_directions` : a sort by one key lists these classes, one after the other, and the
  sort in the other direction lists the same classes, the last one first.
-/

namespace StyleHost

namespace SortKey

variable {collate : String → String → Ordering} {order : SortOrder} {dataType : DataType}
  {a b : Option SortKey}

/-- A key that stands for a failed evaluation comes before every other, in either direction. -/
theorem compare_ofFailure (hb : Fits dataType b) (h : b ≠ ofFailure dataType) :
    compare collate order (ofFailure dataType) b = .lt := by
  cases hb with
  | absent => exact absurd rfl h
  | text s => rfl
  | notANumber => exact absurd rfl h
  | number hx => rfl

theorem compare_ofFailure_self :
    compare collate order (ofFailure dataType) (ofFailure dataType) = .eq := by
  cases dataType <;> rfl

/-- Turning the direction swaps the order of ordinary keys. -/
theorem compare_descending (ha : Fits dataType a) (hb : Fits dataType b)
    (ha' : a ≠ ofFailure dataType) (hb' : b ≠ ofFailure dataType) :
    compare collate .descending a b = (compare collate .ascending a b).swap := by
  cases ha with
  | absent => exact absurd rfl ha'
  | notANumber => exact absurd rfl ha'
  | text x =>
    cases hb with
    | absent => exact absurd rfl hb'
    | text y => rfl
  | number hx =>
    cases hb with
    | notANumber => exact absurd rfl hb'
    | number hy => rfl

end SortKey

namespace Sorter

variable {X I : Type} {n : Nat}

/-! ### Classes of ties -/

/-- The classes of items that tie, among the items that `p` holds of, in ascending order. -/
structure TieClasses (cmp : Fin n → Fin n → Ordering) (p : Fin n → Bool)
    (classes : List (List (Fin n))) : Prop where
  /-- A class consists of all items that tie with one of them, in input order. -/
  whole : ∀ c ∈ classes, ∃ i, p i = true ∧
    c = (List.finRange n).filter fun j => p j && cmp i j == .eq
  total : ∀ i, p i = true → ∃ c ∈ classes, i ∈ c
  increasing : classes.Pairwise fun c d => ∀ a ∈ c, ∀ b ∈ d, cmp a b = .lt

section Classes

variable {cmp : Fin n → Fin n → Ordering} {p : Fin n → Bool} {classes : List (List (Fin n))}

/-- The first item of each class. -/
def firsts (cmp : Fin n → Fin n → Ordering) (p : Fin n → Bool) : List (Fin n) :=
  (List.finRange n).filter fun i => p i && decide (∀ j < i, p j = true → cmp j i ≠ .eq)

theorem mem_firsts {i : Fin n} :
    i ∈ firsts cmp p ↔ p i = true ∧ ∀ j < i, p j = true → cmp j i ≠ .eq := by
  simp [firsts]

variable [Std.TransCmp cmp]

/-- Every item ties with the first of its class. -/
theorem exists_first {i : Fin n} (hi : p i = true) : ∃ j ∈ firsts cmp p, cmp j i = .eq := by
  induction i using WellFoundedLT.induction with
  | ind i ih =>
    by_cases hfirst : i ∈ firsts cmp p
    · exact ⟨i, hfirst, Std.ReflCmp.compare_self⟩
    · obtain ⟨j, hji, hj, htie⟩ : ∃ j < i, p j = true ∧ cmp j i = .eq := by
        simpa [mem_firsts, hi] using hfirst
      obtain ⟨k, hk, hkj⟩ := ih j hji hj
      exact ⟨k, hk, Std.TransCmp.eq_trans hkj htie⟩

theorem eq_of_firsts {i j : Fin n} (hi : i ∈ firsts cmp p) (hj : j ∈ firsts cmp p)
    (htie : cmp i j = .eq) : i = j := by
  obtain ⟨hpi, hi⟩ := mem_firsts.1 hi
  obtain ⟨hpj, hj⟩ := mem_firsts.1 hj
  rcases lt_trichotomy i j with hlt | heq | hgt
  · exact absurd htie (hj i hlt hpi)
  · exact heq
  · exact absurd (Std.OrientedCmp.eq_comm.1 htie) (hi j hgt hpj)

/-- **The items fall into classes of ties.** -/
theorem exists_tieClasses (cmp : Fin n → Fin n → Ordering) [Std.TransCmp cmp] (p : Fin n → Bool) :
    ∃ classes, TieClasses cmp p classes := by
  -- one class for each first item, in ascending order of the first items
  let sorted := (firsts cmp p).mergeSort fun a b => (cmp a b).isLE
  have hmem : ∀ {i}, i ∈ sorted ↔ i ∈ firsts cmp p := List.mem_mergeSort
  have hsorted : sorted.Pairwise fun a b => (cmp a b).isLE :=
    List.pairwise_mergeSort (fun _ _ _ => Std.TransCmp.isLE_trans) (isLE_total cmp) _
  have hnodup : sorted.Nodup :=
    (List.mergeSort_perm _ _).nodup_iff.2 ((List.nodup_finRange n).filter _)
  refine ⟨sorted.map fun i => (List.finRange n).filter fun j => p j && cmp i j == .eq, ?_, ?_, ?_⟩
  · rintro c hc
    obtain ⟨i, hi, rfl⟩ := List.mem_map.1 hc
    exact ⟨i, (mem_firsts.1 (hmem.1 hi)).1, rfl⟩
  · intro i hi
    obtain ⟨j, hj, hji⟩ : ∃ j ∈ firsts cmp p, cmp j i = .eq := exists_first hi
    exact ⟨_, List.mem_map_of_mem (hmem.2 hj), by simp [hi, hji]⟩
  · refine List.pairwise_map.2 ((hsorted.and hnodup).imp_of_mem ?_)
    rintro i j hi hj ⟨hle, hne⟩ a ha b hb
    have hij : cmp i j = .lt := by
      refine (Ordering.isLE_iff_eq_lt_or_eq_eq.1 hle).resolve_right fun htie => hne ?_
      exact eq_of_firsts (hmem.1 hi) (hmem.1 hj) htie
    have hai : cmp a i = .eq := Std.OrientedCmp.eq_comm.1 (by simpa using ha : _ ∧ _).2
    have hjb : cmp j b = .eq := (by simpa using hb : _ ∧ _).2
    exact Std.TransCmp.lt_of_eq_of_lt hai (Std.TransCmp.lt_of_lt_of_eq hij hjb)

/-! #### The items of a class -/

theorem TieClasses.mem_iff (h : TieClasses cmp p classes) {c : List (Fin n)} (hc : c ∈ classes)
    {a b : Fin n} (ha : a ∈ c) : b ∈ c ↔ p b = true ∧ cmp a b = .eq := by
  obtain ⟨i, hi, rfl⟩ := h.whole c hc
  have hia : cmp i a = .eq := (by simpa using ha : _ ∧ _).2
  have hcongr : cmp i b = .eq ↔ cmp a b = .eq := by
    rw [Std.TransCmp.congr_left hia]
  simp [hcongr]

theorem TieClasses.pairwise (h : TieClasses cmp p classes) {c : List (Fin n)} (hc : c ∈ classes) :
    c.Pairwise fun a b => cmp a b = .eq ∧ a < b := by
  have hlt : c.Pairwise (· < ·) := by
    obtain ⟨i, -, rfl⟩ := h.whole c hc
    exact (List.pairwise_lt_finRange n).filter _
  exact hlt.imp_of_mem fun ha hb hab => ⟨((h.mem_iff hc ha).1 hb).2, hab⟩

theorem TieClasses.flatten_perm (h : TieClasses cmp p classes) :
    classes.flatten.Perm ((List.finRange n).filter p) := by
  have hnodup : classes.flatten.Nodup := by
    -- an item in two classes would be less than itself
    refine List.nodup_flatten.2 ⟨fun c hc => (h.pairwise hc).imp fun hab => hab.2.ne, ?_⟩
    refine h.increasing.imp fun {c d} hcd a hac had => ?_
    have hself : cmp a a = .eq := Std.ReflCmp.compare_self
    exact absurd (hself.symm.trans (hcd a hac a had)) (by decide)
  refine (List.perm_ext_iff_of_nodup hnodup ((List.nodup_finRange n).filter _)).2 fun i => ?_
  simp only [List.mem_flatten, List.mem_filter, List.mem_finRange, true_and]
  constructor
  · rintro ⟨c, hc, hi⟩
    exact ((h.mem_iff hc hi).1 hi).1
  · exact h.total i

end Classes

/-! ### A sort by one key -/

variable {s : Sorter} {evaluate : Evaluator X I} {items : Vector I n} {spec : SortSpec X}
  {order : SortOrder}

/-- The order of two items by one key, in a direction of choice. -/
def keyOrder (s : Sorter) (evaluate : Evaluator X I) (items : Vector I n) (spec : SortSpec X)
    (order : SortOrder) (a b : Fin n) : Ordering :=
  SortKey.compare (s.textOrder spec) order (keyAt evaluate items spec a)
    (keyAt evaluate items spec b)

/-- Whether the key of an item is a value: neither absent, as a key by text can be, nor not a
number, as a key by number can be. -/
def isOrdinary (evaluate : Evaluator X I) (items : Vector I n) (spec : SortSpec X) (i : Fin n) :
    Bool :=
  decide (keyAt evaluate items spec i ≠ SortKey.ofFailure spec.dataType)

/-- The items whose keys are no values, in input order. -/
def unordered (evaluate : Evaluator X I) (items : Vector I n) (spec : SortSpec X) : List (Fin n) :=
  (List.finRange n).filter fun i => !isOrdinary evaluate items spec i

theorem isOrdinary_iff {i : Fin n} : isOrdinary evaluate items spec i = true ↔
    keyAt evaluate items spec i ≠ SortKey.ofFailure spec.dataType :=
  decide_eq_true_iff

theorem mem_unordered {i : Fin n} : i ∈ unordered evaluate items spec ↔
    keyAt evaluate items spec i = SortKey.ofFailure spec.dataType := by
  simp [unordered, isOrdinary]

variable (evaluate items spec order) in
theorem transCmp_keyOrder (hd : s.collations.Orders) :
    Std.TransCmp (s.keyOrder evaluate items spec order) :=
  transCmp_compare_keyAt evaluate items hd spec order

theorem itemOrder_direction (a b : Fin n) :
    s.itemOrder evaluate items [{ spec with order := order }] a b =
      (s.keyOrder evaluate items spec order a b).then (compare a b) := by
  rw [itemOrder_cons, compare_levelOf]
  rfl

theorem isLE_of_lt {a b : Fin n} (h : s.keyOrder evaluate items spec order a b = .lt) :
    (s.itemOrder evaluate items [{ spec with order := order }] a b).isLE := by
  rw [itemOrder_direction, h]
  rfl

theorem isLE_of_eq {a b : Fin n} (h : s.keyOrder evaluate items spec order a b = .eq)
    (hab : a < b) : (s.itemOrder evaluate items [{ spec with order := order }] a b).isLE := by
  rw [itemOrder_direction, h]
  exact Nat.isLE_compare.2 hab.le

/-- Items whose keys are no values tie, and come before the others. -/
theorem keyOrder_of_unordered {a b : Fin n} (ha : a ∈ unordered evaluate items spec) :
    s.keyOrder evaluate items spec order a b =
      if isOrdinary evaluate items spec b then .lt else .eq := by
  rw [keyOrder, mem_unordered.1 ha]
  split
  case isTrue hb => exact SortKey.compare_ofFailure (fits_keyAt b) (isOrdinary_iff.1 hb)
  case isFalse hb =>
    have hb' := not_not.1 (mt isOrdinary_iff.2 hb)
    rw [hb']
    exact SortKey.compare_ofFailure_self

/-- **The sorted arrangement by one key**: first the items whose keys are no values, then the
classes of ties as they follow each other in the direction of the key. -/
theorem sortedOrder_eq_append (hd : s.collations.Orders) {classes : List (List (Fin n))}
    (htie : ∀ c ∈ classes, c.Pairwise fun a b =>
      s.keyOrder evaluate items spec order a b = .eq ∧ a < b)
    (hlt : classes.Pairwise fun c d => ∀ a ∈ c, ∀ b ∈ d,
      s.keyOrder evaluate items spec order a b = .lt)
    (hperm : classes.flatten.Perm
      ((List.finRange n).filter (isOrdinary evaluate items spec))) :
    s.sortedOrder evaluate items [{ spec with order := order }] =
      unordered evaluate items spec ++ classes.flatten := by
  refine (eq_sortedOrder hd ?_ (List.pairwise_append.2 ⟨?_, ?_, ?_⟩)).symm
  · exact ((hperm.append_left _).trans List.perm_append_comm).trans
      (List.filter_append_perm _ _)
  · -- the items in front tie, and stand in input order
    refine ((List.pairwise_lt_finRange n).filter _).imp_of_mem fun {a b} ha hb hab => ?_
    have hb' := (List.mem_filter.1 hb).2
    refine isLE_of_eq ?_ hab
    rw [keyOrder_of_unordered ha, if_neg (by simpa using hb')]
  · refine List.pairwise_flatten.2 ⟨fun c hc => ?_, ?_⟩
    · exact (htie c hc).imp fun hab => isLE_of_eq hab.1 hab.2
    · exact hlt.imp fun hcd a ha b hb => isLE_of_lt (hcd a ha b hb)
  · -- and they come before all others
    intro a ha b hb
    have hb' := (List.mem_filter.1 (hperm.mem_iff.1 hb)).2
    refine isLE_of_lt ?_
    rw [keyOrder_of_unordered ha, if_pos hb']

/-- Turning the direction swaps the order of two items whose keys are values. -/
theorem keyOrder_descending {a b : Fin n} (ha : isOrdinary evaluate items spec a)
    (hb : isOrdinary evaluate items spec b) : s.keyOrder evaluate items spec .descending a b =
      (s.keyOrder evaluate items spec .ascending a b).swap :=
  SortKey.compare_descending (fits_keyAt a) (fits_keyAt b) (isOrdinary_iff.1 ha)
    (isOrdinary_iff.1 hb)

/-- Turning the direction does not change which items tie. -/
theorem keyOrder_eq_iff (hd : s.collations.Orders) (a b : Fin n) :
    s.keyOrder evaluate items spec .descending a b = .eq ↔
      s.keyOrder evaluate items spec .ascending a b = .eq := by
  have hfixed : ∀ {a b : Fin n}, isOrdinary evaluate items spec a = false →
      s.keyOrder evaluate items spec .descending a b =
        s.keyOrder evaluate items spec .ascending a b := by
    intro a b ha
    have ha' : a ∈ unordered evaluate items spec := by simp [unordered, ha]
    rw [keyOrder_of_unordered ha', keyOrder_of_unordered ha']
  cases ha : isOrdinary evaluate items spec a with
  | false => rw [hfixed ha]
  | true =>
    cases hb : isOrdinary evaluate items spec b with
    | false =>
      have := transCmp_keyOrder evaluate items spec .ascending hd
      have := transCmp_keyOrder evaluate items spec .descending hd
      rw [Std.OrientedCmp.eq_comm, hfixed hb, Std.OrientedCmp.eq_comm]
    | true => rw [keyOrder_descending ha hb, Ordering.swap_eq_eq]

/-- The classes of ties in the other direction, the last one first. -/
theorem sortedOrder_descending (hd : s.collations.Orders) {classes : List (List (Fin n))}
    (h : TieClasses (s.keyOrder evaluate items spec .ascending) (isOrdinary evaluate items spec)
      classes) : s.sortedOrder evaluate items [{ spec with order := .descending }] =
        unordered evaluate items spec ++ classes.reverse.flatten := by
  have := transCmp_keyOrder evaluate items spec .ascending hd
  have hordinary : ∀ c ∈ classes, ∀ a ∈ c, isOrdinary evaluate items spec a = true :=
    fun c hc a ha => ((h.mem_iff hc ha).1 ha).1
  refine sortedOrder_eq_append hd (fun c hc => ?_) ?_
    ((classes.reverse_perm.flatten).trans h.flatten_perm)
  · refine (h.pairwise (List.mem_reverse.1 hc)).imp fun {a b} hab => ⟨?_, hab.2⟩
    exact (keyOrder_eq_iff hd a b).2 hab.1
  · refine List.pairwise_reverse.2 (h.increasing.imp_of_mem fun {d c} hd hc hdc a ha b hb => ?_)
    rw [keyOrder_descending (hordinary c hc a ha) (hordinary d hd b hb),
      ← Std.OrientedCmp.eq_swap, hdc b hb a ha]

/-- A sort by one key evaluates it in either direction. -/
theorem Ready.direction (hr : s.Ready evaluate items [spec]) (order : SortOrder) :
    s.Ready evaluate items [{ spec with order := order }] where
  order_room := hr.order_room
  keys_room k hk _ := by
    obtain rfl : k = 0 := Nat.lt_one_iff.1 hk
    exact hr.keys_room 0 hk needed_zero
  built k hk _ := by
    obtain rfl : k = 0 := Nat.lt_one_iff.1 hk
    exact hr.built 0 hk needed_zero

variable (evaluate) in
/-- **A key in both directions.** Both sorts begin with the items whose keys are no values, in input
order. Then the ascending one lists the classes of ties in ascending order and the descending one
the same classes in the opposite order, each class in input order. -/
theorem sort_directions (items : Array I) (hr : s.Ready evaluate items.toVector [spec])
    (hd : s.collations.Orders) :
    (∀ a b, s.keyOrder evaluate items.toVector spec .descending a b = .eq ↔
      s.keyOrder evaluate items.toVector spec .ascending a b = .eq) ∧
    ∃ classes, TieClasses (s.keyOrder evaluate items.toVector spec .ascending)
        (isOrdinary evaluate items.toVector spec) classes ∧
      (s.sort evaluate items [{ spec with order := .ascending }]).breakdown = none ∧
      (s.sort evaluate items [{ spec with order := .ascending }]).items.toList =
        (unordered evaluate items.toVector spec ++ classes.flatten).map items.toVector.get ∧
      (s.sort evaluate items [{ spec with order := .descending }]).breakdown = none ∧
      (s.sort evaluate items [{ spec with order := .descending }]).items.toList =
        (unordered evaluate items.toVector spec ++ classes.reverse.flatten).map
          items.toVector.get := by
  have := transCmp_keyOrder evaluate items.toVector spec .ascending hd
  obtain ⟨classes, h⟩ := exists_tieClasses (s.keyOrder evaluate items.toVector spec .ascending)
    (isOrdinary evaluate items.toVector spec)
  have hup := items_sort evaluate items (hr.direction .ascending) hd (one_lt_maxKeys _)
  have hdown := items_sort evaluate items (hr.direction .descending) hd (one_lt_maxKeys _)
  refine ⟨keyOrder_eq_iff hd, classes, h, hup.1, ?_, hdown.1, ?_⟩
  · rw [hup.2, sortedOrder_eq_append hd (fun c hc => h.pairwise hc) h.increasing h.flatten_perm]
  · rw [hdown.2, sortedOrder_descending hd h]

/-- A key by number, read from the text of a pair. -/
def readSpec : SortSpec DataType := { select := .text, dataType := .number }

/-- Pairs whose texts are numbers, but for two of them. -/
def mixedPairs : Array (Nat × String) := #[(0, "2"), (1, "x"), (2, "1"), (3, "2"), (4, "")]

theorem ready_readSpec (items : Vector (Nat × String) n) :
    Ready ⟨Collation.data, none, fun _ => true⟩ pairKeys items [readSpec] :=
  (roomy_always _ _).ready (List.forall_mem_singleton.2 ⟨_, rfl⟩)

theorem sort_directions_of_mixedPairs : ∃ classes : List (List (Fin mixedPairs.size)),
    (sort ⟨Collation.data, none, fun _ => true⟩ pairKeys mixedPairs
        [{ readSpec with order := .ascending }]).items.toList =
      [(1, "x"), (4, "")] ++ classes.flatten.map mixedPairs.toVector.get ∧
    (sort ⟨Collation.data, none, fun _ => true⟩ pairKeys mixedPairs
        [{ readSpec with order := .descending }]).items.toList =
      [(1, "x"), (4, "")] ++ classes.reverse.flatten.map mixedPairs.toVector.get := by
  obtain ⟨-, classes, -, -, hup, -, hdown⟩ :=
    sort_directions pairKeys mixedPairs (ready_readSpec _) Collation.orders_data
  have hfirst : (unordered pairKeys mixedPairs.toVector readSpec).map mixedPairs.toVector.get =
      [(1, "x"), (4, "")] := by decide +kernel
  rw [List.map_append, hfirst] at hup hdown
  exact ⟨classes, hup, hdown⟩

end Sorter

end StyleHost
