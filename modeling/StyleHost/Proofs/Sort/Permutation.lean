import Mathlib.Data.List.FinRange
import Mathlib.Data.Set.Insert
import StyleHost.Sort.Permutation

/-!
# Rearranging by a permutation

If every slot is the source of one slot, the walk over the cycles brings to each slot the item of
its source (`Permutation.rearrange_get`). Between two cycles every slot is either settled and holds
its item, or has not been touched at all, and the untouched slots form whole cycles
(`Permutation.Walking`). While a cycle is followed, one slot holds the item that was displaced at
the start of the cycle (`Permutation.Following`).
-/

namespace StyleHost

namespace Permutation

variable {α ε : Type} {n : Nat}

theorem get_swap (items : Vector α n) (i j k : Fin n) :
    (items.swap i j i.isLt j.isLt).get k = if k = i then items.get j else if k = j then items.get i
      else items.get k := by
  simp only [get_eq_getElem, Vector.getElem_swap, Fin.ext_iff]

/-- Between two cycles: the slots outside `rest` are settled, those in it have not been touched. -/
structure Walking (π : Fin n → Fin n) (original : Vector α n) (rest : Set (Fin n))
    (items : Vector α n) (source : Sources ε n) : Prop where
  settled : ∀ k ∉ rest, source.get k = .ok k ∧ items.get k = original.get (π k)
  untouched : ∀ k ∈ rest, source.get k = .ok (π k) ∧ items.get k = original.get k
  closed : ∀ k ∈ rest, π k ∈ rest

/-- On the cycle of `start`: as between two cycles, but for `slot`, which holds the first item of
the cycle. Of the slots in `rest`, only the last of the cycle has a source that was settled
before. -/
structure Following (π : Fin n → Fin n) (original : Vector α n) (start slot : Fin n)
    (rest : Set (Fin n)) (items : Vector α n) (source : Sources ε n) : Prop where
  settled : ∀ k ∉ rest, source.get k = .ok k ∧ items.get k = original.get (π k)
  source_eq : ∀ k ∈ rest, source.get k = .ok (π k)
  untouched : ∀ k ∈ rest, k ≠ slot → items.get k = original.get k
  slot_mem : slot ∈ rest
  displaced : items.get slot = original.get start
  closed : ∀ k ∈ rest, π k = start ∨ π k ∈ rest ∧ π k ≠ slot
  begun : start ∈ rest → slot = start

variable {π : Fin n → Fin n} {original items : Vector α n} {source : Sources ε n}
  {start slot : Fin n} {rest : Set (Fin n)}

/-- A cycle begins at any slot that has not been touched. -/
theorem Walking.following (h : Walking π original rest items source) (hs : start ∈ rest) :
    Following π original start start rest items source where
  settled := h.settled
  source_eq k hk := (h.untouched k hk).1
  untouched k hk _ := (h.untouched k hk).2
  slot_mem := hs
  displaced := (h.untouched start hs).2
  closed k hk := by
    by_cases he : π k = start
    · exact .inl he
    · exact .inr ⟨h.closed k hk, he⟩
  begun _ := rfl

/-- The last slot of a cycle is settled as it is. -/
theorem Following.walking (hπ : Function.Injective π)
    (h : Following π original start slot rest items source) (he : π slot = start) :
    Walking π original (rest \ {slot}) items (source.set slot (.ok slot) slot.isLt) where
  settled k hk := by
    by_cases hks : k = slot
    · subst hks
      exact ⟨get_set_self _ _ _, by rw [h.displaced, he]⟩
    · rw [get_set_of_ne source _ hks]
      exact h.settled k fun hk' => hk ⟨hk', hks⟩
  untouched k hk := by
    rw [get_set_of_ne source _ hk.2]
    exact ⟨h.source_eq k hk.1, h.untouched k hk.1 hk.2⟩
  closed k hk := by
    rcases h.closed k hk.1 with hk' | hk'
    · -- only the slot that is settled now has the start as its source
      exact absurd (hπ (hk'.trans he.symm)) hk.2
    · exact hk'

/-- Any other slot of a cycle is settled by a swap with its source. -/
theorem Following.next (hπ : Function.Injective π)
    (h : Following π original start slot rest items source) (h1 : π slot ≠ start)
    (h2 : π slot ≠ slot) :
    Following π original start (π slot) (rest \ {slot})
      (items.swap slot (π slot) slot.isLt (π slot).isLt)
      (source.set slot (.ok slot) slot.isLt) := by
  have hmem : π slot ∈ rest := ((h.closed slot h.slot_mem).resolve_left h1).1
  refine ⟨fun k hk => ?_, fun k hk => ?_, fun k hk hkn => ?_, ⟨hmem, h2⟩, ?_, fun k hk => ?_, ?_⟩
  · by_cases hks : k = slot
    · subst hks
      rw [get_set_self, get_swap, if_pos rfl]
      exact ⟨rfl, h.untouched _ hmem h2⟩
    · have hk' : k ∉ rest := fun hk' => hk ⟨hk', hks⟩
      have hkn : k ≠ π slot := fun e => hk' (e ▸ hmem)
      rw [get_set_of_ne source _ hks, get_swap, if_neg hks, if_neg hkn]
      exact h.settled k hk'
  · rw [get_set_of_ne source _ hk.2]
    exact h.source_eq k hk.1
  · have hks : k ≠ slot := hk.2
    rw [get_swap, if_neg hks, if_neg hkn]
    exact h.untouched k hk.1 hks
  · rw [get_swap, if_neg h2, if_pos rfl, h.displaced]
  · rcases h.closed k hk.1 with hk' | ⟨hk', hks⟩
    · exact .inl hk'
    · exact .inr ⟨⟨hk', hks⟩, fun e => hk.2 (hπ e)⟩
  · exact fun hs => absurd (h.begun hs.1) (Ne.symm hs.2)

/-- **One cycle.** Following it settles its slots, the start among them. -/
theorem exists_follow (hπ : Function.Injective π)
    (h : Following π original start slot rest items source) :
    ∃ items' source' rest', follow start slot items source = .ok (items', source') ∧
      Walking π original rest' items' source' ∧ rest' ⊆ rest ∧ start ∉ rest' := by
  fun_induction follow start slot items source generalizing rest with
  | case1 slot items source e hs => simp [h.source_eq slot h.slot_mem] at hs
  | case2 slot items source next hs hnext =>
    have hn : next = π slot := by simpa [h.source_eq slot h.slot_mem] using hs.symm
    subst hn
    have he : π slot = start := by
      rcases h.closed slot h.slot_mem with he | ⟨-, hne⟩
      · exact he
      · exact hnext.resolve_right hne
    exact ⟨_, _, _, rfl, h.walking hπ he, Set.sdiff_subset, fun hs => hs.2 (h.begun hs.1).symm⟩
  | case3 slot items source next hs hnext ih =>
    have hn : next = π slot := by simpa [h.source_eq slot h.slot_mem] using hs.symm
    subst hn
    obtain ⟨h1, h2⟩ := not_or.1 hnext
    obtain ⟨items', source', rest', hf, hw, hsub, hstart⟩ := ih (h.next hπ h1 h2)
    exact ⟨items', source', rest', hf, hw, hsub.trans Set.sdiff_subset, hstart⟩

/-- A cycle that was followed before is not followed again. -/
theorem follow_settled (h : source.get start = .ok start) :
    follow start start items source = .ok (items, source.set start (.ok start) start.isLt) := by
  rw [follow]
  split
  · rename_i e he
    simp [h] at he
  · rename_i next hn
    have : next = start := by simpa [h] using hn.symm
    rw [dif_pos (.inl this)]

theorem set_settled (h : source.get start = .ok start) :
    source.set start (.ok start) start.isLt = source := by
  apply Vector.ext
  intro k hk
  by_cases he : k = start
  · subst he
    simpa [get_eq_getElem] using h.symm
  · exact Vector.getElem_set_ne _ _ (Ne.symm he)

/-- **Some cycles.** The walk goes through and settles all slots at which it begins a cycle. -/
theorem exists_foldlM_follow (hπ : Function.Injective π) (starts : List (Fin n))
    (h : Walking π original rest items source) :
    ∃ items' source' rest', starts.foldlM (fun state start => follow start start state.1 state.2)
        (items, source) = .ok (items', source') ∧
      Walking π original rest' items' source' ∧ rest' ⊆ rest ∧ ∀ k ∈ starts, k ∉ rest' := by
  induction starts generalizing rest items source with
  | nil => exact ⟨_, _, _, rfl, h, subset_rfl, by simp⟩
  | cons start starts ih =>
    obtain ⟨items₁, source₁, rest₁, hf, hw, hsub, hstart⟩ :
        ∃ items' source' rest', follow start start items source = .ok (items', source') ∧
          Walking π original rest' items' source' ∧ rest' ⊆ rest ∧ start ∉ rest' := by
      by_cases hs : start ∈ rest
      · exact exists_follow hπ (h.following hs)
      · have hset := (h.settled start hs).1
        have hf : follow start start items source = .ok (items, source) := by
          rw [follow_settled hset, set_settled hset]
        exact ⟨_, _, rest, hf, h, subset_rfl, hs⟩
    obtain ⟨items', source', rest', hf', hw', hsub', hstarts⟩ := ih hw
    refine ⟨items', source', rest', ?_, hw', hsub'.trans hsub, ?_⟩
    · rw [List.foldlM_cons, hf]
      exact hf'
    · rintro k (_ | ⟨_, hk⟩)
      · exact fun hk => hstart (hsub' hk)
      · exact hstarts k hk

/-- **The walk over all cycles.** Slot `k` ends with the item of its source. -/
theorem exists_walk (items : Vector α n) {source : Vector (Fin n) n}
    (hs : Function.Injective source.get) : ∃ items',
      walk items (source.map (Except.ok (ε := ε))) = .ok items' ∧
        ∀ k, items'.get k = items.get (source.get k) := by
  have hw : Walking source.get items Set.univ items (source.map (Except.ok (ε := ε))) :=
    ⟨fun k hk => absurd (Set.mem_univ k) hk, fun k _ => ⟨by simp [get_eq_getElem], rfl⟩,
      fun _ _ => Set.mem_univ _⟩
  obtain ⟨items', source', rest', hf, hw', -, hrest⟩ := exists_foldlM_follow hs (List.finRange n) hw
  refine ⟨items', ?_, fun k => (hw'.settled k (hrest k (List.mem_finRange k))).2⟩
  rw [walk, hf]
  rfl

theorem rearrange_get (items : Vector α n) {source : Vector (Fin n) n}
    (hs : Function.Injective source.get) (k : Fin n) :
    (rearrange items source).get k = items.get (source.get k) := by
  obtain ⟨items', hwalk, hget⟩ := exists_walk (ε := Empty) items hs
  rw [rearrange, hwalk]
  exact hget k

theorem injective_get {source : Vector (Fin n) n} (hs : source.toList.Nodup) :
    Function.Injective source.get := by
  intro i j hij
  have hi : i.val < source.toList.length := by simp
  have hj : j.val < source.toList.length := by simp
  have he : source.toList[i.val] = source.toList[j.val] := by
    simpa [get_eq_getElem] using hij
  exact Fin.ext (hs.getElem_inj_iff.1 he)

/-- The whole of a rearrangement by sources that name no slot twice. -/
theorem toList_rearrange (items : Vector α n) {source : Vector (Fin n) n}
    (hs : source.toList.Nodup) :
    (rearrange items source).toList = source.toList.map items.get := by
  refine List.ext_getElem (by simp) fun k hk _ => ?_
  have hk' : k < n := by simpa using hk
  simpa [get_eq_getElem] using rearrange_get items (injective_get hs) ⟨k, hk'⟩

/-- A rearrangement by plain numbers that name every slot once meets no fault. -/
theorem rearrange?_eq (items : Array α) {source : Vector (Fin items.size) items.size}
    (hs : source.toList.Nodup) :
    rearrange? items (source.map Fin.val).toArray =
      .ok (rearrange items.toVector source).toArray := by
  have hsource : Vector.ofFn (slotOf items.size (source.map Fin.val).toArray) =
      source.map (Except.ok (ε := OutOfBounds)) := by
    apply Vector.ext
    intro k hk
    simp [slotOf, hk]
  obtain ⟨items', hwalk, hget⟩ := exists_walk (ε := OutOfBounds) items.toVector (injective_get hs)
  have hitems : items' = rearrange items.toVector source := by
    apply Vector.ext
    intro k hk
    exact (hget ⟨k, hk⟩).trans (rearrange_get items.toVector (injective_get hs) ⟨k, hk⟩).symm
  rw [rearrange?, hsource, hwalk, hitems]
  rfl

end Permutation

end StyleHost
