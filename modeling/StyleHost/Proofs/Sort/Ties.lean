import StyleHost.Proofs.Sort.Stateless

/-!
# Keys that are asked for

A key is asked for only if two items tie on all keys before it. So a key over whose language the
collation data break down spoils a sort in that case and in no other: where no two items tie on the
keys before it, or where these break down themselves, the sort is the one by the keys before it, and
what stands behind them has no say.

* `Sorter.Ties` : two items tie on some keys.
* `Sorter.breakdown_iff_ties` : when a sort breaks down over a key.
* `Sorter.sort_append_of_unasked` : when it is not asked for.
-/

namespace StyleHost

namespace Sorter

variable {X I : Type} {n : Nat} {s : Sorter} {evaluate : Evaluator X I} {items : Vector I n}
  {spec : SortSpec X} {before after rest : List (SortSpec X)} {cause : Panic}

/-- Two items tie on some keys. -/
def Ties (s : Sorter) (evaluate : Evaluator X I) (items : Vector I n) (specs : List (SortSpec X)) :
    Prop :=
  ∃ a b : Fin n, a ≠ b ∧ compareLevels (s.allLevels evaluate items specs) a b = .eq

theorem ties_nil (hn : 2 ≤ n) : s.Ties evaluate items [] :=
  ⟨⟨0, by omega⟩, ⟨1, by omega⟩, by simp, rfl⟩

theorem not_ties_of_lt_two (hn : n < 2) : ¬s.Ties evaluate items before := by
  rintro ⟨a, b, hne, -⟩
  exact hne (Fin.ext (by omega))

/-! ### A key that is asked for -/

/-- What a comparison promises where the data break down over a key: two items that are told apart
by the keys before it come in order, and two others stop the sort. -/
def tellingApart (hroom : s.Roomy (before ++ spec :: after)) (hbuilt : s.Built before)
    (hd : s.collations.Orders) (hcause : (s.collation spec).1 = .error cause) :
    Gaps.Contract (s.compareItems evaluate items) where
  inv := s.Underway evaluate items (before ++ spec :: after)
  mayPrecede _ a b := compareLevels (s.allLevels evaluate items before) a b = .lt
  stop stop _ := stop = .breakdown cause ∧ s.Ties evaluate items before
  compare_ends := by
    intro a b p hne hp
    have hanswer : s.Answers evaluate items (before ++ spec :: after)
        ((s.compareItems evaluate items a b).run.run p) _ := compareItems_answers hroom a b hp
    have := transCmp_allLevels evaluate items before hd
    unfold Ends
    generalize (s.compareItems evaluate items a b).run.run p = result at hanswer ⊢
    by_cases htie : compareLevels (s.allLevels evaluate items before) a b = .eq
    · rw [pairOrder_append_of_eq _ hbuilt htie, pairOrder_cons_of_error hcause] at hanswer
      cases hanswer with
      | error => exact ⟨rfl, a, b, hne, htie⟩
    · rw [pairOrder_append_of_ne _ hbuilt htie] at hanswer
      cases hanswer with
      | ok hp' =>
        refine ⟨hp', fun _ _ => id, ?_⟩
        split
        case isTrue hgt => exact Std.OrientedCmp.lt_of_gt hgt
        case isFalse hgt => exact (Ordering.isLE_iff_eq_lt_or_eq_eq.1
          (Ordering.isLE_iff_ne_gt.2 hgt)).resolve_right htie

/-- An arrangement in which each item comes before the next by some keys has no ties of these. -/
theorem not_ties_of_isChain (hd : s.collations.Orders) {order : Vector (Fin n) n}
    (hperm : Gaps.IsPermutation order)
    (hchain : order.toList.IsChain fun a b =>
      compareLevels (s.allLevels evaluate items before) a b = .lt) :
    ¬s.Ties evaluate items before := by
  have := transCmp_allLevels evaluate items before hd
  let R (a b : Fin n) : Prop := compareLevels (s.allLevels evaluate items before) a b = .lt
  let Apart (a b : Fin n) : Prop := compareLevels (s.allLevels evaluate items before) a b ≠ .eq
  have : Trans R R R := ⟨Std.TransCmp.lt_trans⟩
  have : Std.Symm Apart := ⟨fun _ _ h heq => h (Std.OrientedCmp.eq_comm.1 heq)⟩
  have hpairs : order.toList.Pairwise R := List.isChain_iff_pairwise.1 hchain
  have hapart : order.toList.Pairwise Apart := by
    refine hpairs.imp fun {a b} hlt heq => ?_
    simp only [R, heq] at hlt
    cases hlt
  rintro ⟨a, b, hne, htie⟩
  have hmem (i : Fin n) : i ∈ order.toList := hperm.mem_iff.2 (List.mem_finRange i)
  exact hapart.forall (hmem a) (hmem b) hne htie

/-- **How the items are arranged** where the data break down over a key: they are if no two of them
tie on the keys before it. -/
theorem arrange_ties {first : SortSpec X} (hn : 2 ≤ n)
    (hsplit : first :: rest = before ++ spec :: after) (hroom : s.Roomy (first :: rest))
    (hbuilt : s.Built before) (hd : s.collations.Orders)
    (hcause : (s.collation spec).1 = .error cause) :
    Ends (s.arrange evaluate items first rest) (fun _ _ => ¬s.Ties evaluate items before)
      (fun stop _ => stop = .breakdown cause ∧ s.Ties evaluate items before)
      ⟨[], first :: rest, []⟩ := by
  cases before with
  | nil =>
    obtain ⟨rfl, rfl⟩ := List.cons.inj hsplit
    obtain ⟨p, hrun⟩ := evaluateLevel_run_of_error evaluate items rest
      (p := ⟨[], first :: rest, []⟩) (hroom.keys_room 0 (Nat.succ_pos _)) hcause
    have hdiscard : (discard (s.evaluateLevel evaluate items first rest)).run.run
        ⟨[], first :: rest, []⟩ = (.error (.breakdown cause), p) := run_bind_of_error hrun
    rw [Ends, arrange, run_bind_of_error hdiscard]
    exact ⟨rfl, ties_nil hn⟩
  | cons spec' before =>
    obtain ⟨rfl, rfl⟩ := List.cons.inj hsplit
    obtain ⟨⟨collate, hc⟩, -⟩ := List.forall_mem_cons.1 hbuilt
    have hstart : s.Built ((first :: (before ++ spec :: after)).take 0) :=
      fun _ h => absurd h List.not_mem_nil
    have hfirst : s.Underway evaluate items (first :: (before ++ spec :: after))
        (s.progressAt evaluate items (first :: (before ++ spec :: after)) 1) :=
      ⟨1, Nat.succ_pos _, built_take_succ hstart rfl hc, rfl⟩
    have hends := Gaps.sort_ends (tellingApart hroom hbuilt hd hcause :
      Gaps.Contract (s.compareItems evaluate items)) hfirst
    rw [Ends, arrange_run_of_ok (hroom.keys_room 0 (Nat.succ_pos _)) hroom.order_room hc]
    exact hends.mono fun order _ h => not_ties_of_isChain hd h.2.1 h.2.2

/-- **When a sort breaks down over a key**: if two items tie on the keys before it. -/
theorem breakdown_iff_ties {items : Array I} (hroom : s.Roomy (before ++ spec :: after))
    (hmax : (before ++ spec :: after).length < SortSpec.maxKeys) (hbuilt : s.Built before)
    (hd : s.collations.Orders) (hcause : (s.collation spec).1 = .error cause) :
    (s.sort evaluate items (before ++ spec :: after)).breakdown = some cause ↔
      s.Ties evaluate items.toVector before := by
  by_cases hn : items.size < 2
  · rw [sort_of_trivial (.inl hn)]
    exact iff_of_false (Option.some_ne_none cause).symm (not_ties_of_lt_two hn)
  · obtain ⟨first, rest, hsplit⟩ : ∃ first rest, first :: rest = before ++ spec :: after := by
      cases before with
      | nil => exact ⟨_, _, rfl⟩
      | cons spec' before => exact ⟨_, _, rfl⟩
    rw [← hsplit] at hroom hmax
    have hends : Ends (s.arrange evaluate items.toVector first rest) _ _ _ :=
      arrange_ties (not_lt.1 hn) hsplit hroom hbuilt hd hcause
    unfold Ends at hends
    rw [← hsplit, sort, if_neg hn, if_neg hmax.not_ge]
    generalize (s.arrange evaluate items.toVector first rest).run.run ⟨[], first :: rest, []⟩ =
      result at hends ⊢
    obtain ⟨stop | order, p⟩ := result
    · obtain ⟨rfl, hties⟩ := hends
      exact iff_of_true rfl hties
    · exact iff_of_false (Option.some_ne_none cause).symm hends

/-! ### A key that is not asked for -/

theorem SameOutcome.symm {Y : Type} {r : Sorted X I} {r' : Sorted Y I} (h : SameOutcome r r') :
    SameOutcome r' r :=
  ⟨h.items.symm, h.breakdown.symm⟩

theorem SameOutcome.trans {Y Z : Type} {r : Sorted X I} {r' : Sorted Y I} {r'' : Sorted Z I}
    (h : SameOutcome r r') (h' : SameOutcome r' r'') : SameOutcome r r'' :=
  ⟨h.items.trans h'.items, h.breakdown.trans h'.breakdown⟩

theorem Roomy.of_append (h : s.Roomy (before ++ rest)) : s.Roomy before :=
  ⟨h.order_room, fun k hk => h.keys_room k (by rw [List.length_append]; omega)⟩

/-- Keys behind one that the data break down over have no say. -/
theorem pairOrder_append_of_not_built (h : ¬s.Built before) (rest : List (SortSpec X))
    (a b : Fin n) : s.pairOrder evaluate items (before ++ rest) a b =
      s.pairOrder evaluate items before a b := by
  induction before with
  | nil => exact absurd nofun h
  | cons spec before ih =>
    rw [List.cons_append]
    cases hc : (s.collation spec).1 with
    | error cause => rw [pairOrder_cons_of_error hc, pairOrder_cons_of_error hc]
    | ok collate =>
      by_cases htie : (s.levelOf evaluate items spec).compare a b = .eq
      · rw [pairOrder_cons_of_eq hc htie, pairOrder_cons_of_eq hc htie]
        exact ih fun hbuilt => h (List.forall_mem_cons.2 ⟨⟨collate, hc⟩, hbuilt⟩)
      · rw [pairOrder_cons_of_ne hc htie, pairOrder_cons_of_ne hc htie]

/-- Behind keys that the data break down over, no key is asked for. -/
theorem sort_append_of_not_built {items : Array I} (h : ¬s.Built before)
    (hroom : s.Roomy (before ++ rest)) (hmax : (before ++ rest).length < SortSpec.maxKeys) :
    SameOutcome (s.sort evaluate items (before ++ rest)) (s.sort evaluate items before) := by
  refine sort_eq_of_pairOrder ?_ hroom hroom.of_append hmax
    (by rw [List.length_append] at hmax; omega)
  funext a b
  exact pairOrder_append_of_not_built h rest a b

theorem take_allLevels_append : (s.allLevels evaluate items (before ++ rest)).take before.length =
    s.allLevels evaluate items before := by
  rw [allLevels, List.map_append, List.take_left' (List.length_map _)]
  rfl

theorem not_needed_of_not_ties (h : ¬s.Ties evaluate items before) (hne : before ≠ [])
    (rest : List (SortSpec X)) : ¬s.Needed evaluate items (before ++ rest) before.length := by
  rintro (hnil | ⟨a, b, hab, htie⟩)
  · exact hne (List.eq_nil_of_length_eq_zero hnil)
  · rw [take_allLevels_append] at htie
    exact h ⟨a, b, hab, htie⟩

/-- Where no two items tie on some keys, no key behind them is asked for. -/
theorem sort_append_of_not_ties {items : Array I} (h : ¬s.Ties evaluate items.toVector before)
    (hbuilt : s.Built before) (hd : s.collations.Orders) (hroom : s.Roomy (before ++ rest))
    (hmax : (before ++ rest).length < SortSpec.maxKeys) :
    SameOutcome (s.sort evaluate items (before ++ rest)) (s.sort evaluate items before) := by
  by_cases hn : items.size < 2
  · rw [sort_of_trivial (.inl hn), sort_of_trivial (.inl hn)]
    exact ⟨rfl, rfl⟩
  · have hne : before ≠ [] := by
      rintro rfl
      exact h (ties_nil (not_lt.1 hn))
    have hnot := not_needed_of_not_ties h hne rest
    have hr : s.Ready evaluate items.toVector (before ++ rest) := by
      refine ⟨hroom.order_room, fun k hk _ => hroom.keys_room k hk, fun k hk hneeded => ?_⟩
      have hlt : k < before.length := by
        by_contra hge
        exact hnot (hneeded.mono (not_lt.1 hge))
      rw [List.getElem_append_left hlt]
      exact hbuilt _ (List.getElem_mem hlt)
    have hr' : s.Ready evaluate items.toVector before := hroom.of_append.ready hbuilt
    have hwhole := items_sort evaluate items hr hd hmax
    have hpart := items_sort evaluate items hr' hd (by rw [List.length_append] at hmax; omega)
    have horder : s.itemOrder evaluate items.toVector (before ++ rest) =
        s.itemOrder evaluate items.toVector before := by
      funext a b
      rw [itemOrder_of_not_needed hd hnot, take_allLevels_append, itemOrder]
    refine ⟨Array.toList_inj.1 ?_, hwhole.1.trans hpart.1.symm⟩
    rw [hwhole.2, hpart.2, sortedOrder, sortedOrder, horder]

/-- Keys behind some others are not asked for: the data break down over these, or no two items tie
on them. -/
def Unasked (s : Sorter) (evaluate : Evaluator X I) (items : Vector I n)
    (before : List (SortSpec X)) : Prop :=
  ¬s.Built before ∨ s.collations.Orders ∧ ¬s.Ties evaluate items before

/-- **Keys that are not asked for** have no say. -/
theorem sort_append_of_unasked {items : Array I} (h : s.Unasked evaluate items.toVector before)
    (hroom : s.Roomy (before ++ rest)) (hmax : (before ++ rest).length < SortSpec.maxKeys) :
    SameOutcome (s.sort evaluate items (before ++ rest)) (s.sort evaluate items before) := by
  by_cases hbuilt : s.Built before
  · obtain ⟨hd, hties⟩ := h.resolve_left (not_not.2 hbuilt)
    exact sort_append_of_not_ties hties hbuilt hd hroom hmax
  · exact sort_append_of_not_built hbuilt hroom hmax

end Sorter

end StyleHost
