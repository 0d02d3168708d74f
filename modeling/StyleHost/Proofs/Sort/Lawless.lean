import StyleHost.Proofs.Sort.Breakdown
import StyleHost.Proofs.Sort.KeyByKey
import StyleHost.Proofs.Sort.Room

/-!
# Lawless comparisons

Nothing is asked of the comparisons of texts: they need be neither transitive nor symmetric, and the
answer for a text and itself may be anything. The items are only ever rearranged, each of them ends
in one slot, and no number that names a slot is out of bounds. If comparisons are at least
antisymmetric, then no item of a sorted selection is greater than the next one, since the last pass
compares every two neighbours and swaps those that are out of order.

* `Collations.Antisymmetric` : swapping two texts swaps the answer.
* `Sorter.sort_lawless` : what a sort keeps to whatever it compares by, and wherever it runs out of
  room.
-/

namespace StyleHost

/-- Every comparison of the data answers two texts in one order as it answers them in the other,
the other way round. -/
def Collations.Antisymmetric (data : Collations) : Prop :=
  ∀ tag caseOrder collate, data tag caseOrder = .ok (some collate) → Std.OrientedCmp collate

theorem Collations.Orders.antisymmetric {data : Collations} (hd : data.Orders) :
    data.Antisymmetric := fun tag caseOrder collate h =>
  have := hd tag caseOrder collate h
  inferInstance

namespace SortKey

variable {collate : String → String → Ordering} {order : SortOrder}

theorem swap_directed (o : Ordering) : (directed order o).swap = directed order o.swap := by
  cases order <;> rfl

theorem swap_compare? (x y : Double) :
    ((x.compare? y).getD .eq).swap = (y.compare? x).getD .eq := by
  cases x with
  | nan => cases y <;> rfl
  | infinite a =>
    cases y with
    | nan => rfl
    | infinite b => cases a <;> cases b <;> rfl
    | finite b y => cases a <;> rfl
  | finite a x =>
    cases y with
    | nan => rfl
    | infinite b => cases b <;> rfl
    | finite b y => exact Std.OrientedOrd.eq_swap.symm

/-- Swapping two keys swaps their order. -/
theorem swap_compare [Std.OrientedCmp collate] (a b : Option SortKey) :
    (compare collate order a b).swap = compare collate order b a := by
  rcases a with _ | (x | x | _) <;> rcases b with _ | (y | y | _)
  case some.text.some.text =>
    simp only [compare]
    rw [swap_directed, ← Std.OrientedCmp.eq_swap]
  case some.number.some.number =>
    simp only [compare]
    rw [swap_directed, swap_compare?]
  case some.text.some.number => exact swap_directed .eq
  case some.number.some.text => exact swap_directed .eq
  all_goals rfl

end SortKey

namespace Sorter

variable {X I : Type} {n : Nat} {s : Sorter} {evaluate : Evaluator X I} {items : Vector I n}
  {spec : SortSpec X} {specs rest : List (SortSpec X)} {cause : Panic}

/-! ### Antisymmetric comparisons -/

theorem swap_compareLevels (ha : s.collations.Antisymmetric) (a b : Fin n) :
    (compareLevels (s.allLevels evaluate items specs) a b).swap =
      compareLevels (s.allLevels evaluate items specs) b a := by
  induction specs with
  | nil => rfl
  | cons spec specs ih =>
    have htexts : Std.OrientedCmp (s.textOrder spec) :=
      textOrder_cases (transCmp_eq.toOrientedCmp) ha spec
    rw [allLevels] at ih ⊢
    rw [List.map_cons, KeyLevel.compareLevels_cons, KeyLevel.compareLevels_cons,
      Ordering.swap_then, ih, compare_levelOf, compare_levelOf, SortKey.swap_compare]

/-- Of two items one may precede the other. -/
theorem itemOrder_ne_gt (ha : s.collations.Antisymmetric) {a b : Fin n}
    (h : s.itemOrder evaluate items specs a b = .gt) :
    s.itemOrder evaluate items specs b a ≠ .gt := by
  have hswap : (s.itemOrder evaluate items specs a b).swap =
      s.itemOrder evaluate items specs b a := by
    rw [itemOrder, itemOrder, Ordering.swap_then, swap_compareLevels ha, ← Std.OrientedOrd.eq_swap]
  rw [← hswap, h]
  decide

/-- What an antisymmetric comparison promises: of two items that it has compared, the first may
precede the second unless it is greater. -/
def antisymmetric (hr : s.Ready evaluate items specs) (ha : s.collations.Antisymmetric) :
    Gaps.Contract (s.compareItems evaluate items) where
  inv p := ∃ k ≤ specs.length, p = s.progressAt evaluate items specs k
  mayPrecede _ a b := s.itemOrder evaluate items specs a b ≠ .gt
  stop _ _ := False
  compare_ends := by
    rintro a b _ hne ⟨k, hk, rfl⟩
    have hdepth := KeyLevel.depth_le_length (s.allLevels evaluate items specs) a b
    rw [length_allLevels] at hdepth
    unfold Ends
    rw [compareItems_run hr hk hne]
    refine ⟨⟨_, max_le hk hdepth, rfl⟩, fun _ _ => id, ?_⟩
    split
    case isTrue h => exact itemOrder_ne_gt ha h
    case isFalse h => exact h

/-- **No neighbours out of order.** -/
theorem arrange_isChain (hr : s.Ready evaluate items (spec :: rest))
    (ha : s.collations.Antisymmetric) :
    ∃ order p,
      (s.arrange evaluate items spec rest).run.run ⟨[], spec :: rest, []⟩ = (.ok order, p) ∧
      order.toList.IsChain fun a b => s.itemOrder evaluate items (spec :: rest) a b ≠ .gt := by
  obtain ⟨order, p, hrun, -, -, hchain⟩ := (Gaps.sort_ends (antisymmetric hr ha)
    ⟨1, Nat.succ_le_succ (Nat.zero_le _), rfl⟩).exists_run
  rw [hr.arrange_run]
  exact ⟨order, p, hrun, hchain⟩

/-! ### Any comparisons -/

theorem isPermutation_of_arrange {p p' : Progress X n} {order : Vector (Fin n) n}
    (h : (s.arrange evaluate items spec rest).run.run p = (.ok order, p')) :
    Gaps.IsPermutation order := by
  have hends := arrange_stops s evaluate items spec rest p
  rwa [Ends, h] at hends

theorem items_of_breakdown {items : Array I}
    (h : (s.sort evaluate items specs).breakdown = some cause) :
    (s.sort evaluate items specs).items = items := by
  cases specs with
  | nil => rfl
  | cons spec rest =>
    rw [sort] at h ⊢
    split_ifs at h ⊢
    split at h
    · cases h
    · rfl
    · rfl

/-- The arrangement that leaves the items as they are. -/
theorem rearrange_identity (items : Array I) :
    (Permutation.rearrange items.toVector (Gaps.identity items.size)).toArray = items := by
  have hnodup := (Gaps.isPermutation_identity (n := items.size)).nodup
  refine Array.toList_inj.1 ((Permutation.toList_rearrange items.toVector hnodup).trans ?_)
  rw [Gaps.toList_identity, map_get_finRange]
  rfl

theorem isChain_identity (hn : n < 2 ∨ specs = []) :
    (Gaps.identity n).toList.IsChain fun a b => s.itemOrder evaluate items specs a b ≠ .gt := by
  rw [Gaps.toList_identity]
  -- without keys the input order alone decides
  refine (pairwise_finRange_iff.2 fun a b hab => ?_).isChain
  obtain hn | rfl := hn
  · omega
  · have hlt : compare a b = .lt := Nat.compare_eq_lt.2 hab
    rw [itemOrder_nil, hlt]
    decide

variable (s evaluate specs) in
/-- The items after a sort are those before in some arrangement, and where the sort goes through
that is the arrangement it has come to. -/
theorem exists_arrangement (items : Array I) : ∃ order : Vector (Fin items.size) items.size,
    Gaps.IsPermutation order ∧
    (s.sort evaluate items specs).items = (Permutation.rearrange items.toVector order).toArray ∧
    (s.Ready evaluate items.toVector specs → s.collations.Antisymmetric →
      specs.length < SortSpec.maxKeys →
      order.toList.IsChain fun a b => s.itemOrder evaluate items.toVector specs a b ≠ .gt) := by
  have hsame : (s.sort evaluate items specs).items = items → (s.sort evaluate items specs).items =
      (Permutation.rearrange items.toVector (Gaps.identity items.size)).toArray :=
    fun h => h.trans (rearrange_identity items).symm
  by_cases htriv : items.size < 2 ∨ specs = []
  · refine ⟨_, Gaps.isPermutation_identity, hsame ?_, fun _ _ _ => isChain_identity htriv⟩
    rw [sort_of_trivial htriv]
  · obtain ⟨hn, hne⟩ := not_or.1 htriv
    obtain ⟨spec, rest, rfl⟩ := List.exists_cons_of_ne_nil hne
    by_cases hmax : SortSpec.maxKeys ≤ (spec :: rest).length
    · refine ⟨_, Gaps.isPermutation_identity, hsame ?_, fun _ _ h => absurd hmax h.not_ge⟩
      rw [sort, if_neg hn, if_pos hmax]
    · rcases hrun : (s.arrange evaluate items.toVector spec rest).run.run ⟨[], spec :: rest, []⟩
        with ⟨stop | order, p⟩
      · refine ⟨_, Gaps.isPermutation_identity, hsame ?_, fun hr ha _ => ?_⟩
        · rw [sort, if_neg hn, if_neg hmax, hrun]
          cases stop <;> rfl
        · obtain ⟨_, _, hrun', -⟩ := arrange_isChain hr ha
          rw [hrun] at hrun'
          cases hrun'
      · refine ⟨order, isPermutation_of_arrange hrun, ?_, fun hr ha _ => ?_⟩
        · rw [sort, if_neg hn, if_neg hmax, hrun]
        · obtain ⟨_, _, hrun', hchain⟩ := arrange_isChain hr ha
          rw [hrun] at hrun'
          cases hrun'
          exact hchain

/-- **What a sort keeps to**, whatever it compares by and wherever it runs out of room. The items
are rearranged by a permutation, whose numbers are all in bounds; if the collation data break down
over the language of a key, or if there is no room for a level that the sort needs or for the
arrangement, they stay as they were. Where comparisons are antisymmetric and the sort is carried
out, no item is greater than the next one. -/
theorem sort_lawless (s : Sorter) (evaluate : Evaluator X I) (items : Array I)
    (specs : List (SortSpec X)) :
    (s.sort evaluate items specs).items.toList.Perm items.toList ∧
    (∃ order : Vector (Fin items.size) items.size, order.toList.Perm (List.finRange items.size) ∧
      Permutation.rearrange? items (order.map Fin.val).toArray =
        .ok (s.sort evaluate items specs).items ∧
      (s.sort evaluate items specs).items.toList = order.toList.map items.toVector.get ∧
      (s.Ready evaluate items.toVector specs → s.collations.Antisymmetric →
        specs.length < SortSpec.maxKeys →
        order.toList.IsChain fun a b =>
          s.stableOrder evaluate items.toVector specs a b ≠ .gt)) ∧
    (∀ cause, (s.sort evaluate items specs).breakdown = some cause →
      (s.sort evaluate items specs).items = items ∧ ∃ spec ∈ specs, s.BreaksOver spec cause) ∧
    ∃ levels ≤ specs.length,
      evaluations (s.unlimited.sort evaluate items specs).events =
        (specs.take levels).flatMap (levelCalls items.size) ∧
      ((∀ r, Requires 0 levels (0 < levels ∧ s.Built (specs.take 1)) r → s.hasRoom r = true) →
        s.sort evaluate items specs = s.unlimited.sort evaluate items specs) ∧
      ∀ r, Requires 0 levels (0 < levels ∧ s.Built (specs.take 1)) r → s.hasRoom r = false →
        ∃ events, s.sort evaluate items specs =
          { items, events := events ++ [.note (.sortAbandoned items.size)] } := by
  obtain ⟨order, hperm, hitems, hchain⟩ := exists_arrangement s evaluate specs items
  have hlist : (s.sort evaluate items specs).items.toList =
      order.toList.map items.toVector.get := by
    rw [hitems]
    exact Permutation.toList_rearrange _ hperm.nodup
  refine ⟨?_, ⟨order, hperm, ?_, hlist, ?_⟩, fun cause h =>
    ⟨items_of_breakdown h, breaksOver_of_sort h⟩, exists_required s evaluate items specs⟩
  · rw [hlist]
    exact (hperm.map _).trans (.of_eq (map_get_finRange _))
  · rw [hitems]
    exact Permutation.rearrange?_eq items hperm.nodup
  · rwa [itemOrder_eq_stableOrder] at hchain

/-- An order in which every text is less than those one letter longer, and these are less than those
one letter longer again, which are less than the first. -/
def circle : Collations := fun _ _ => .ok <| some fun a b =>
  if a.length % 3 = b.length % 3 then .eq
  else if (a.length + 1) % 3 = b.length % 3 then .lt
  else .gt

theorem antisymmetric_circle : circle.Antisymmetric := by
  rintro tag caseOrder collate ⟨⟩
  refine ⟨fun {a b} => ?_⟩
  obtain h | h | h : a.length % 3 = b.length % 3 ∨ (a.length + 1) % 3 = b.length % 3 ∨
      (b.length + 1) % 3 = a.length % 3 := by omega
  · rw [if_pos h, if_pos h.symm]
    rfl
  · rw [if_neg (by omega), if_pos h, if_neg (by omega), if_neg (by omega)]
    rfl
  · rw [if_neg (by omega), if_neg (by omega), if_neg (by omega), if_pos h]
    rfl

theorem ready_circle (items : Vector (Nat × String) n) :
    Ready ⟨circle, none, fun _ => true⟩ pairKeys items [{ select := .text }] :=
  (roomy_always _ _).ready (List.forall_mem_singleton.2 ⟨_, rfl⟩)

theorem sort_lawless_of_circle : ∃ order : Vector (Fin 3) 3,
    (sort ⟨circle, none, fun _ => true⟩ pairKeys #[(1, "aaa"), (2, "a"), (3, "aa")]
        [{ select := .text }]).items.toList =
      order.toList.map #v[(1, "aaa"), (2, "a"), (3, "aa")].get ∧
    order.toList.IsChain fun a b => stableOrder ⟨circle, none, fun _ => true⟩ pairKeys
      #v[(1, "aaa"), (2, "a"), (3, "aa")] [{ select := .text }] a b ≠ .gt := by
  obtain ⟨-, ⟨order, -, -, hitems, hchain⟩, -⟩ :=
    sort_lawless ⟨circle, none, fun _ => true⟩ pairKeys #[(1, "aaa"), (2, "a"), (3, "aa")]
      [{ select := .text }]
  exact ⟨order, hitems, hchain (ready_circle _) antisymmetric_circle (by decide)⟩

/-- Too many keys to sort by, all of them the number. -/
def manySpecs : List (SortSpec DataType) :=
  List.replicate 15 { select := .number, dataType := .number }

theorem ready_manySpecs (items : Vector (Nat × String) n) :
    Ready ⟨Collation.data, none, fun _ => true⟩ pairKeys items manySpecs := by
  refine (roomy_always _ _).ready fun spec hs => ?_
  rw [List.eq_of_mem_replicate hs]
  exact ⟨_, rfl⟩

/-- By fifteen keys nothing is sorted: of two items the greater one stays in front. -/
theorem manySpecs_unsorted :
    Ready ⟨Collation.data, none, fun _ => true⟩ pairKeys #v[(2, "a"), (1, "a")] manySpecs ∧
    Collation.data.Antisymmetric ∧
    (sort ⟨Collation.data, none, fun _ => true⟩ pairKeys #[(2, "a"), (1, "a")]
      manySpecs).items = #[(2, "a"), (1, "a")] ∧
    stableOrder ⟨Collation.data, none, fun _ => true⟩ pairKeys #v[(2, "a"), (1, "a")] manySpecs
      0 1 = .gt :=
  ⟨ready_manySpecs _, Collation.orders_data.antisymmetric, rfl, by decide +kernel⟩

end Sorter

end StyleHost
