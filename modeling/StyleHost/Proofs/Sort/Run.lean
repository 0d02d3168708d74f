import Mathlib.Data.Fin.Basic
import Mathlib.Data.List.Sort
import Mathlib.Order.MinMax
import Mathlib.Tactic.WLOG
import StyleHost.Proofs.Sort.Gaps
import StyleHost.Proofs.Sort.Levels
import StyleHost.Proofs.Sort.Permutation

/-!
# What a whole sort does

Where the collation data compare texts by total preorders (`Collations.Orders`), the order of the
items by all levels and by input order last is linear. So there is one sorted arrangement
(`Sorter.sortedOrder`), and a comparison keeps the contract of a sort with shrinking gaps. In a
sorted arrangement items that tie on some levels stand together; the last pass compares all
neighbours, so it meets every tie. Hence the levels that a sort evaluates are just the needed ones,
and the sort has a closed form (`Sorter.sort_run`).
-/

namespace StyleHost

namespace Sorter

open KeyLevel

variable {X I : Type} {n : Nat} {s : Sorter} {evaluate : Evaluator X I} {items : Vector I n}
  {specs : List (SortSpec X)}

/-! ### The order of the items -/

/-- What holds of a comparison by which all texts are equal, and of every comparison that the
collation data hold, holds of the comparison of a level. -/
theorem textOrder_cases {P : (String → String → Ordering) → Prop} (heq : P fun _ _ => .eq)
    (hdata : ∀ tag caseOrder collate, s.collations tag caseOrder = .ok (some collate) → P collate)
    (spec : SortSpec X) : P (s.textOrder spec) := by
  unfold textOrder
  split
  case h_2 => exact heq
  case h_1 collate h =>
    unfold collation at h
    cases ht : spec.dataType with
    | number =>
      simp only [ht] at h
      cases h
      exact heq
    | text =>
      simp only [ht] at h
      cases hc : (Comparator.create s.collations (spec.lang.or s.defaultLocale)
          spec.caseOrder).1 with
      | error cause =>
        rw [hc] at h
        cases h
      | ok c =>
        rw [hc] at h
        cases h
        exact Comparator.compare_create heq hdata hc

theorem transCmp_textOrder (hd : s.collations.Orders) (spec : SortSpec X) :
    Std.TransCmp (s.textOrder spec) :=
  textOrder_cases transCmp_eq hd spec

theorem fits_keyAt {spec : SortSpec X} (i : Fin n) :
    SortKey.Fits spec.dataType (keyAt evaluate items spec i) :=
  SortKey.fits_ofResult _ _

variable (evaluate items) in
/-- The keys of one specification order the items totally, in either direction. -/
theorem transCmp_compare_keyAt (hd : s.collations.Orders) (spec : SortSpec X) (order : SortOrder) :
    Std.TransCmp fun a b => SortKey.compare (s.textOrder spec) order
      (keyAt evaluate items spec a) (keyAt evaluate items spec b) := by
  have := transCmp_textOrder hd spec
  exact SortKey.transCmp_compare fits_keyAt

theorem transCmp_levelOf (hd : s.collations.Orders) (spec : SortSpec X) :
    Std.TransCmp (s.levelOf evaluate items spec).compare := by
  have hcompare : (s.levelOf evaluate items spec).compare = fun a b =>
      SortKey.compare (s.textOrder spec) spec.order (keyAt evaluate items spec a)
        (keyAt evaluate items spec b) := by
    funext a b
    exact compare_levelOf spec a b
  rw [hcompare]
  exact transCmp_compare_keyAt evaluate items hd spec spec.order

theorem transCmp_compareLevels {levels : List (KeyLevel n)}
    (h : ∀ level ∈ levels, Std.TransCmp level.compare) : Std.TransCmp (compareLevels levels) := by
  induction levels with
  | nil => exact transCmp_eq
  | cons level rest ih =>
    obtain ⟨_, hrest⟩ := List.forall_mem_cons.1 h
    have := ih hrest
    have heq : compareLevels (level :: rest) = compareLex level.compare (compareLevels rest) := by
      funext a b
      exact compareLevels_cons level rest a b
    rw [heq]
    infer_instance

variable (evaluate items specs)

theorem transCmp_take (hd : s.collations.Orders) (k : Nat) :
    Std.TransCmp (compareLevels ((s.allLevels evaluate items specs).take k)) := by
  refine transCmp_compareLevels fun level hl => ?_
  obtain ⟨spec, -, rfl⟩ := List.mem_map.1 (List.mem_of_mem_take hl)
  exact transCmp_levelOf hd spec

theorem transCmp_allLevels (hd : s.collations.Orders) :
    Std.TransCmp (compareLevels (s.allLevels evaluate items specs)) := by
  have h := transCmp_take evaluate items specs hd specs.length
  rwa [List.take_of_length_le length_allLevels.le] at h

/-- **The order of the items is total and transitive.** -/
theorem transCmp_itemOrder (hd : s.collations.Orders) :
    Std.TransCmp (s.itemOrder evaluate items specs) := by
  have := transCmp_allLevels evaluate items specs hd
  exact inferInstanceAs (Std.TransCmp (compareLex _ _))

variable (s) in
/-- The sorted arrangement of the items. -/
def sortedOrder : List (Fin n) :=
  (List.finRange n).mergeSort fun a b => (s.itemOrder evaluate items specs a b).isLE

variable (s) in
/-- What is known of two items once they have been compared: they are in order, and the levels
reach to the depth of the pair. -/
def Compared (p : Progress X n) (a b : Fin n) : Prop :=
  (s.itemOrder evaluate items specs a b).isLE ∧
    depth (s.allLevels evaluate items specs) a b ≤ p.levels.length

variable (s) in
/-- The levels up to some one have been evaluated, and all of them were needed. -/
def OnlyNeeded (p : Progress X n) : Prop :=
  ∃ k, 1 ≤ k ∧ k ≤ specs.length ∧ p = s.progressAt evaluate items specs k ∧
    ∀ j < k, s.Needed evaluate items specs j

variable {evaluate items specs}

theorem eq_of_itemOrder {a b : Fin n} (h : s.itemOrder evaluate items specs a b = .eq) : a = b :=
  Std.LawfulEqCmp.eq_of_compare (Ordering.then_eq_eq.1 h).2

theorem pairwise_sortedOrder (hd : s.collations.Orders) :
    (s.sortedOrder evaluate items specs).Pairwise fun a b =>
      (s.itemOrder evaluate items specs a b).isLE := by
  have := transCmp_itemOrder evaluate items specs hd
  exact List.pairwise_mergeSort (fun _ _ _ => Std.TransCmp.isLE_trans) (isLE_total _) _

/-- There is one sorted arrangement of the same items. -/
theorem eq_of_perm_of_sorted (hd : s.collations.Orders) {order order' : List (Fin n)}
    (hperm : order.Perm order')
    (hsorted : order.Pairwise fun a b => (s.itemOrder evaluate items specs a b).isLE)
    (hsorted' : order'.Pairwise fun a b => (s.itemOrder evaluate items specs a b).isLE) :
    order = order' := by
  have := transCmp_itemOrder evaluate items specs hd
  refine hperm.eq_of_pairwise (fun a b _ _ hab hba => ?_) hsorted hsorted'
  exact eq_of_itemOrder (Std.OrientedCmp.isLE_antisymm hab hba)

theorem eq_sortedOrder (hd : s.collations.Orders) {order : List (Fin n)}
    (hperm : order.Perm (List.finRange n))
    (hsorted : order.Pairwise fun a b => (s.itemOrder evaluate items specs a b).isLE) :
    order = s.sortedOrder evaluate items specs :=
  eq_of_perm_of_sorted hd (hperm.trans (List.mergeSort_perm _ _).symm) hsorted
    (pairwise_sortedOrder hd)

/-! ### Ties -/

theorem lt_depth_allLevels_iff {a b : Fin n} {k : Nat} :
    k < depth (s.allLevels evaluate items specs) a b ↔ k < specs.length ∧
      compareLevels ((s.allLevels evaluate items specs).take k) a b = .eq := by
  rw [lt_depth_iff, length_allLevels, compareLevels_eq_eq_iff]

theorem depth_comm (hd : s.collations.Orders) (a b : Fin n) :
    depth (s.allLevels evaluate items specs) a b =
      depth (s.allLevels evaluate items specs) b a := by
  refine eq_of_forall_lt_iff fun k => ?_
  have := transCmp_take evaluate items specs hd k
  rw [lt_depth_allLevels_iff, lt_depth_allLevels_iff, Std.OrientedCmp.eq_comm]

theorem itemOrder_split (k : Nat) (a b : Fin n) : s.itemOrder evaluate items specs a b =
    (compareLevels ((s.allLevels evaluate items specs).take k) a b).then
      ((compareLevels ((s.allLevels evaluate items specs).drop k) a b).then (compare a b)) := by
  have h := compareLevels_append ((s.allLevels evaluate items specs).take k)
    ((s.allLevels evaluate items specs).drop k) a b
  rw [List.take_append_drop] at h
  rw [itemOrder, h, Ordering.then_assoc]

theorem isLE_take {a b : Fin n} (h : (s.itemOrder evaluate items specs a b).isLE) (k : Nat) :
    (compareLevels ((s.allLevels evaluate items specs).take k) a b).isLE := by
  rw [itemOrder_split k] at h
  exact Ordering.isLE_left_of_isLE_then h

/-- Items between two that tie on some levels tie with them. -/
theorem take_eq_of_between (hd : s.collations.Orders) {a b c : Fin n} {k : Nat}
    (hac : (s.itemOrder evaluate items specs a c).isLE)
    (hcb : (s.itemOrder evaluate items specs c b).isLE)
    (hab : compareLevels ((s.allLevels evaluate items specs).take k) a b = .eq) :
    compareLevels ((s.allLevels evaluate items specs).take k) a c = .eq := by
  have := transCmp_take evaluate items specs hd k
  refine Std.OrientedCmp.isLE_antisymm (isLE_take hac k) ?_
  have hba := Std.OrientedCmp.eq_comm.1 hab
  exact Std.TransCmp.isLE_trans (isLE_take hcb k) (by rw [hba]; rfl)

/-- If two items tie on some levels, so do two neighbours in the sorted arrangement. -/
theorem exists_neighbours_of_tie (hd : s.collations.Orders) {order : List (Fin n)} {a b : Fin n}
    {k : Nat} (hsorted : order.Pairwise fun a b => (s.itemOrder evaluate items specs a b).isLE)
    (ha : a ∈ order) (hb : b ∈ order) (hne : a ≠ b)
    (hab : compareLevels ((s.allLevels evaluate items specs).take k) a b = .eq) :
    ∃ (i : Nat) (h : i + 1 < order.length),
      compareLevels ((s.allLevels evaluate items specs).take k) order[i] order[i + 1] = .eq := by
  have := transCmp_take evaluate items specs hd k
  have := transCmp_itemOrder evaluate items specs hd
  obtain ⟨i, hi, rfl⟩ := List.getElem_of_mem ha
  obtain ⟨j, hj, rfl⟩ := List.getElem_of_mem hb
  have hij : i ≠ j := by
    rintro rfl
    exact hne rfl
  -- a tie is symmetric, so let the first item come first
  wlog hlt : i < j generalizing i j
  · exact this j hj hb i hi ha hne.symm (Std.OrientedCmp.eq_comm.1 hab) hij.symm (by omega)
  have hle := List.pairwise_iff_getElem.1 hsorted
  refine ⟨i, by omega, take_eq_of_between hd (hle _ _ _ _ (Nat.lt_succ_self i)) ?_ hab⟩
  rcases Nat.lt_or_eq_of_le (Nat.succ_le_of_lt hlt) with h | h
  · exact hle _ _ _ _ h
  · subst h
    exact Std.ReflCmp.isLE_rfl

/-! ### Comparisons -/

theorem Compared.mono {p p' : Progress X n} {a b : Fin n}
    (h : s.Compared evaluate items specs p a b) (hp : p.levels.length ≤ p'.levels.length) :
    s.Compared evaluate items specs p' a b :=
  ⟨h.1, h.2.trans hp⟩

theorem Compared.of_gt (hd : s.collations.Orders) {p : Progress X n} {a b : Fin n}
    (h : s.itemOrder evaluate items specs a b = .gt)
    (hdepth : depth (s.allLevels evaluate items specs) a b ≤ p.levels.length) :
    s.Compared evaluate items specs p b a := by
  have := transCmp_itemOrder evaluate items specs hd
  have hba : s.itemOrder evaluate items specs b a =
      (s.itemOrder evaluate items specs a b).swap := Std.OrientedCmp.eq_swap
  rw [Compared, hba, h, depth_comm hd]
  exact ⟨rfl, hdepth⟩

/-- **One comparison** evaluates only needed levels, and leaves the pair compared. -/
theorem compareItems_ends (hr : s.Ready evaluate items specs) (hd : s.collations.Orders)
    {a b : Fin n} {p : Progress X n} (hne : a ≠ b) (hp : s.OnlyNeeded evaluate items specs p) :
    Ends (s.compareItems evaluate items a b) (fun o p' => s.OnlyNeeded evaluate items specs p' ∧
      (∀ x y, s.Compared evaluate items specs p x y → s.Compared evaluate items specs p' x y) ∧
      if o = .gt then s.Compared evaluate items specs p' b a
      else s.Compared evaluate items specs p' a b) (fun _ _ => False) p := by
  obtain ⟨k, h1, hk, rfl, hneeded⟩ := hp
  have hd' := depth_le_length (s.allLevels evaluate items specs) a b
  rw [length_allLevels] at hd'
  unfold Ends
  rw [compareItems_run hr hk hne]
  -- the levels now reach to `k` or to the depth of the pair, whichever is more
  have hlen : (s.progressAt evaluate items specs
      (max k (depth (s.allLevels evaluate items specs) a b))).levels.length = max k _ :=
    length_levels_progressAt (max_le hk hd')
  refine ⟨⟨_, h1.trans (le_max_left _ _), max_le hk hd', rfl, fun j hj => ?_⟩, ?_, ?_⟩
  · rcases lt_max_iff.1 hj with hj | hj
    · exact hneeded j hj
    · exact .inr ⟨a, b, hne, (lt_depth_allLevels_iff.1 hj).2⟩
  · intro x y h
    refine h.mono ?_
    rw [hlen, length_levels_progressAt hk]
    exact le_max_left _ _
  · have hreach := (le_max_right k _).trans_eq hlen.symm
    split
    case isTrue h => exact .of_gt hd h hreach
    case isFalse h => exact ⟨Ordering.isLE_iff_ne_gt.2 h, hreach⟩

/-- The contract of the comparison. -/
def contract (hr : s.Ready evaluate items specs) (hd : s.collations.Orders) :
    Gaps.Contract (s.compareItems evaluate items) where
  inv := s.OnlyNeeded evaluate items specs
  mayPrecede := s.Compared evaluate items specs
  stop _ _ := False
  compare_ends := compareItems_ends hr hd

/-! ### The sort -/

theorem pairwise_of_isChain (hd : s.collations.Orders) {order : List (Fin n)}
    (h : order.IsChain fun a b => (s.itemOrder evaluate items specs a b).isLE = true) :
    order.Pairwise fun a b => (s.itemOrder evaluate items specs a b).isLE = true := by
  have := transCmp_itemOrder evaluate items specs hd
  let R (a b : Fin n) : Prop := (s.itemOrder evaluate items specs a b).isLE = true
  have : Trans R R R := ⟨Std.TransCmp.isLE_trans⟩
  exact List.isChain_iff_pairwise.1 h

/-- **The arrangement of a sort.** It is the sorted one, and the levels evaluated for it are the
needed ones. -/
theorem arrange_run {spec : SortSpec X} {rest : List (SortSpec X)}
    (hr : s.Ready evaluate items (spec :: rest)) (hd : s.collations.Orders) : ∃ order k,
      (s.arrange evaluate items spec rest).run.run ⟨[], spec :: rest, []⟩ =
        (.ok order, s.progressAt evaluate items (spec :: rest) k) ∧
      order.toList = s.sortedOrder evaluate items (spec :: rest) ∧ k ≤ (spec :: rest).length ∧
      ∀ j < (spec :: rest).length, j < k ↔ s.Needed evaluate items (spec :: rest) j := by
  have hfirst : s.OnlyNeeded evaluate items (spec :: rest)
      (s.progressAt evaluate items (spec :: rest) 1) :=
    ⟨1, le_rfl, Nat.succ_le_succ (Nat.zero_le _), rfl, fun j hj => .inl (by omega)⟩
  obtain ⟨order, _, hrun, ⟨k, h1, hk, rfl, hneeded⟩, hperm, hchain⟩ :=
    (Gaps.sort_ends (contract hr hd) hfirst).exists_run
  have hsorted := pairwise_of_isChain hd (hchain.imp fun _ _ h => h.1)
  rw [hr.arrange_run]
  refine ⟨order, k, hrun, eq_sortedOrder hd hperm hsorted, hk, fun j hj => ⟨hneeded j, ?_⟩⟩
  rintro (rfl | ⟨a, b, hne, hab⟩)
  · exact h1
  · -- the tie shows between two neighbours, and the last pass compared them
    have hmem : ∀ i, i ∈ order.toList := fun i => hperm.mem_iff.2 (List.mem_finRange i)
    obtain ⟨i, hi, htie⟩ := exists_neighbours_of_tie hd hsorted (hmem a) (hmem b) hne hab
    have hdepth := (List.isChain_iff_getElem.1 hchain i hi).2
    rw [length_levels_progressAt hk] at hdepth
    exact (lt_depth_allLevels_iff.2 ⟨hj, htie⟩).trans_le hdepth

theorem nodup_sortedOrder : (s.sortedOrder evaluate items specs).Nodup :=
  (List.mergeSort_perm _ _).nodup_iff.2 (List.nodup_finRange n)

theorem pairwise_lt_sortedOrder (hd : s.collations.Orders) :
    (s.sortedOrder evaluate items specs).Pairwise fun a b =>
      s.itemOrder evaluate items specs a b = .lt := by
  refine ((pairwise_sortedOrder hd).and nodup_sortedOrder).imp ?_
  rintro a b ⟨hle, hne⟩
  exact (Ordering.isLE_iff_eq_lt_or_eq_eq.1 hle).resolve_right (hne ∘ eq_of_itemOrder)

variable (s evaluate) in
/-- **The whole sort.** -/
theorem sort_run {items : Array I} (hr : s.Ready evaluate items.toVector specs)
    (hd : s.collations.Orders) (hn : 2 ≤ items.size) (hne : specs ≠ [])
    (hmax : specs.length < SortSpec.maxKeys) :
    ∃ k ≤ specs.length, (∀ j < specs.length, j < k ↔ s.Needed evaluate items.toVector specs j) ∧
      s.sort evaluate items specs =
        { items :=
            ((s.sortedOrder evaluate items.toVector specs).map items.toVector.get).toArray
          events := (specs.take k).flatMap (s.levelEvents evaluate items.toVector) ++
            [.note (.sorted items.size k specs.length)] } := by
  obtain _ | ⟨spec, rest⟩ := specs
  · contradiction
  obtain ⟨order, k, hrun, horder, hk, hneeded⟩ := arrange_run hr hd
  have hitems : (Permutation.rearrange items.toVector order).toList =
      (s.sortedOrder evaluate items.toVector (spec :: rest)).map items.toVector.get := by
    rw [Permutation.toList_rearrange _ (horder ▸ nodup_sortedOrder), horder]
  refine ⟨k, hk, hneeded, ?_⟩
  rw [sort, if_neg (by omega), if_neg (by omega), hrun, ← hitems]
  have hlen : (s.progressAt evaluate items.toVector (spec :: rest) k).levels.length = k :=
    length_levels_progressAt hk
  simp only [hlen]
  rfl

theorem pairwise_finRange_iff {R : Fin n → Fin n → Prop} :
    (List.finRange n).Pairwise R ↔ ∀ a b, a < b → R a b := by
  rw [List.pairwise_iff_getElem]
  constructor
  · intro h a b hab
    simpa using h a b (by simp) (by simp) hab
  · intro h i j hi hj hij
    simpa using h ⟨i, by simpa using hi⟩ ⟨j, by simpa using hj⟩ hij

theorem sortedOrder_eq_finRange (hd : s.collations.Orders)
    (h : ∀ a b : Fin n, a < b → (s.itemOrder evaluate items specs a b).isLE) :
    s.sortedOrder evaluate items specs = List.finRange n :=
  (eq_sortedOrder hd (List.Perm.refl _) (pairwise_finRange_iff.2 h)).symm

theorem map_get_finRange (v : Vector I n) : (List.finRange n).map v.get = v.toList := by
  refine List.ext_getElem (by simp) fun k hk _ => ?_
  simp [Permutation.get_eq_getElem]

theorem sort_of_trivial {items : Array I} (h : items.size < 2 ∨ specs = []) :
    s.sort evaluate items specs = { items, events := [] } := by
  obtain _ | ⟨spec, rest⟩ := specs
  · rfl
  · rw [sort, if_pos (h.resolve_right (List.cons_ne_nil _ _))]

theorem sortedOrder_of_trivial {items : Array I} (hd : s.collations.Orders)
    (h : items.size < 2 ∨ specs = []) :
    s.sortedOrder evaluate items.toVector specs = List.finRange items.size := by
  refine sortedOrder_eq_finRange hd fun a b hab => ?_
  rcases h with h | rfl
  · omega
  · have : s.itemOrder evaluate items.toVector [] a b = .lt := Nat.compare_eq_lt.2 hab
    rw [this]
    rfl

variable (evaluate) in
/-- **The items after a sort** are those before in the sorted arrangement, also where there is
nothing to sort. -/
theorem items_sort (items : Array I) (hr : s.Ready evaluate items.toVector specs)
    (hd : s.collations.Orders) (hmax : specs.length < SortSpec.maxKeys) :
    (s.sort evaluate items specs).breakdown = none ∧
      (s.sort evaluate items specs).items.toList =
        (s.sortedOrder evaluate items.toVector specs).map items.toVector.get := by
  by_cases h : items.size < 2 ∨ specs = []
  · rw [sort_of_trivial h, sortedOrder_of_trivial hd h, map_get_finRange]
    exact ⟨rfl, rfl⟩
  · obtain ⟨hn, hne⟩ := not_or.1 h
    obtain ⟨k, -, -, hsort⟩ := s.sort_run evaluate hr hd (not_lt.1 hn) hne hmax
    rw [hsort]
    exact ⟨rfl, rfl⟩

end Sorter

end StyleHost
