import StyleHost.Proofs.Sort.Permutation

/-!
# Rearranging by any numbers

The walk over the cycles does not need a permutation. Every slot that it comes to is settled and is
never left again, so it ends; it only ever swaps items, so it keeps them all; and it comes to every
slot at least once, so it meets each number.

* `Permutation.NamesSlots` : each of the first numbers of a list names a slot.
* `Permutation.Named` : the same of the sources on the way. A step keeps it, and so does the walk.
* `Permutation.items_moved` : the walk meets no fault just if the first numbers name slots. Then
  it leaves the same items in some order, and by a permutation each slot ends with the item of its
  source.
-/

namespace StyleHost

namespace Permutation

variable {α ε : Type} {n : Nat}

/-! ### Sources that all name slots -/

/-- Every slot names a source. -/
def Named (source : Sources ε n) : Prop := ∀ k, ∃ i, source.get k = .ok i

variable {items items' : Vector α n} {source source' : Sources ε n} {start slot k : Fin n} {e : ε}

/-- To settle a slot is to let it name one. -/
theorem Named.set (h : Named source) (k : Fin n) : Named (source.set k (.ok k) k.isLt) := by
  intro j
  by_cases hj : j = k
  · exact ⟨k, by rw [hj, get_set_self]⟩
  · simpa [get_set_of_ne source _ hj] using h j

/-- **One cycle.** Following it swaps items, and nothing else happens to them. -/
theorem exists_follow_perm (items : Vector α n) (h : Named source) :
    ∃ items' source', follow start slot items source = .ok (items', source') ∧
      Named source' ∧ items'.Perm items := by
  fun_induction follow start slot items source with
  | case1 slot items source e hs =>
    obtain ⟨i, hi⟩ := h slot
    simp [hs] at hi
  | case2 slot items source next hs hnext => exact ⟨_, _, rfl, h.set slot, .refl _⟩
  | case3 slot items source next hs hnext ih =>
    obtain ⟨items', source', hf, hn, hperm⟩ := ih (h.set slot)
    exact ⟨items', source', hf, hn, hperm.trans (Vector.swap_perm slot.isLt next.isLt)⟩

/-- **Some cycles.** -/
theorem exists_foldlM_follow_perm (starts : List (Fin n)) (items : Vector α n)
    (h : Named source) :
    ∃ items' source', starts.foldlM (fun state start => follow start start state.1 state.2)
        (items, source) = .ok (items', source') ∧ items'.Perm items := by
  induction starts generalizing items source with
  | nil => exact ⟨items, source, rfl, .refl _⟩
  | cons start starts ih =>
    obtain ⟨items₁, source₁, hf, hn, hperm⟩ := exists_follow_perm items h
    obtain ⟨items', source', hf', hperm'⟩ := ih items₁ hn
    refine ⟨items', source', ?_, hperm'.trans hperm⟩
    rw [List.foldlM_cons, hf]
    exact hf'

/-! ### Sources one of which names no slot -/

/-- On the way along a cycle a slot without a source is not settled: it would have been read. -/
theorem get_of_follow (hk : source.get k = .error e)
    (h : follow start slot items source = .ok (items', source')) : source'.get k = .error e := by
  fun_induction follow start slot items source with
  | case1 slot items source e hs => cases h
  | case2 slot items source next hs hnext =>
    cases h
    have hne : k ≠ slot := by
      rintro rfl
      simp [hk] at hs
    rwa [get_set_of_ne source _ hne]
  | case3 slot items source next hs hnext ih =>
    refine ih ?_ h
    have hne : k ≠ slot := by
      rintro rfl
      simp [hk] at hs
    rwa [get_set_of_ne source _ hne]

/-- A cycle that begins at a slot without a source meets the fault at once. -/
theorem follow_of_error (hk : source.get start = .error e) (ended : Vector α n × Sources ε n) :
    follow start start items source ≠ .ok ended := by
  intro h
  rw [follow] at h
  split at h
  · cases h
  · rename_i hnext
    simp [hk] at hnext

/-- **The walk comes to every slot.** So it does not end well if one of them has no source. -/
theorem foldlM_follow_of_error (starts : List (Fin n)) (items : Vector α n) (hmem : k ∈ starts)
    (hk : source.get k = .error e) (ended : Vector α n × Sources ε n) :
    starts.foldlM (fun state start => follow start start state.1 state.2) (items, source) ≠
      .ok ended := by
  induction starts generalizing items source with
  | nil => simp at hmem
  | cons start starts ih =>
    intro h
    rw [List.foldlM_cons] at h
    cases hf : follow start start items source with
    | error e' =>
      rw [hf] at h
      cases h
    | ok state =>
      rw [hf] at h
      rcases List.mem_cons.1 hmem with rfl | hmem
      · exact follow_of_error hk state hf
      · exact ih state.1 hmem (get_of_follow hk hf) h

/-! ### Lists of numbers -/

/-- Each of the first numbers of a list, one for each of `size` slots, names a slot. -/
def NamesSlots (size : Nat) (source : Array Nat) : Prop :=
  ∀ k < size, ∃ i < size, source[k]? = some i

theorem slotOf_eq_ok_iff {size : Nat} {source : Array Nat} {k i : Fin size} :
    slotOf size source k = .ok i ↔ source[k.val]? = some i.val := by
  unfold slotOf
  split
  case h_1 h => simp [h]
  case h_2 j h =>
    rw [h]
    split_ifs with hj
    · simp [Fin.ext_iff]
    · have hne : j ≠ i.val := fun he => hj (he ▸ i.isLt)
      simp [hne]

/-- The slots that a list of numbers names. -/
theorem named_iff {size : Nat} {source : Array Nat} :
    Named (Vector.ofFn (slotOf size source)) ↔ NamesSlots size source := by
  simp only [Named, NamesSlots, get_eq_getElem, Vector.getElem_ofFn, slotOf_eq_ok_iff]
  constructor
  · intro h k hk
    obtain ⟨i, hi⟩ := h ⟨k, hk⟩
    exact ⟨i, i.isLt, hi⟩
  · intro h k
    obtain ⟨i, hi, hk⟩ := h k k.isLt
    exact ⟨⟨i, hi⟩, hk⟩

/-- A rearrangement keeps the items and meets no fault if the numbers name slots. -/
theorem exists_rearrange?_perm {items : Array α} {source : Array Nat}
    (h : NamesSlots items.size source) :
    ∃ rearranged, rearrange? items source = .ok rearranged ∧ rearranged.Perm items := by
  obtain ⟨items', source', hf, hperm⟩ :=
    exists_foldlM_follow_perm (List.finRange items.size) items.toVector (named_iff.2 h)
  refine ⟨items'.toArray, ?_, hperm.toArray⟩
  rw [rearrange?, walk, hf]
  rfl

/-- A number that names no slot is always met. -/
theorem namesSlots_of_rearrange? {items rearranged : Array α} {source : Array Nat}
    (h : rearrange? items source = .ok rearranged) : NamesSlots items.size source := by
  by_contra hnames
  rw [← named_iff] at hnames
  simp only [Named, not_forall] at hnames
  obtain ⟨k, hk⟩ := hnames
  cases hget : (Vector.ofFn (slotOf items.size source)).get k with
  | ok i => exact hk ⟨i, hget⟩
  | error e =>
    have hfold := foldlM_follow_of_error (List.finRange items.size) items.toVector
      (List.mem_finRange k) hget
    rw [rearrange?, walk] at h
    revert h hfold
    cases List.foldlM (fun state start => follow start start state.1 state.2)
        (items.toVector, Vector.ofFn (slotOf items.size source)) (List.finRange items.size) with
    | error e' => simp [Except.map]
    | ok ended => simp

/-- The numbers of a permutation name slots. -/
theorem namesSlots_of_perm {size : Nat} {source : Array Nat}
    (h : (source.toList.take size).Perm (List.range size)) : NamesSlots size source := by
  intro k hk
  have hlength : k < (source.toList.take size).length := by simpa [h.length_eq] using hk
  have hmem := h.mem_iff.1 (List.getElem_mem hlength)
  refine ⟨(source.toList.take size)[k], List.mem_range.1 hmem, ?_⟩
  rw [List.getElem_take]
  simp

/-- No two slots have the same source in a permutation. -/
theorem eq_of_perm {size : Nat} {source : Array Nat}
    (h : (source.toList.take size).Perm (List.range size)) {j k : Nat} (hj : j < size)
    (hk : k < size) (heq : source[j]? = source[k]?) : j = k := by
  have hnodup : (source.toList.take size).Nodup := h.nodup_iff.2 List.nodup_range
  refine (List.getElem?_inj (by simpa [h.length_eq] using hj) hnodup).1 ?_
  simpa [List.getElem?_take_of_lt hj, List.getElem?_take_of_lt hk] using heq

/-- **Rearranging by a permutation** brings to each slot the item of its source. -/
theorem getElem?_rearrange? {items rearranged : Array α} {source : Array Nat}
    (h : rearrange? items source = .ok rearranged)
    (hperm : (source.toList.take items.size).Perm (List.range items.size)) {k : Nat}
    (hk : k < items.size) : rearranged[k]? = source[k]?.bind (items[·]?) := by
  choose slot hslot using fun k : Fin items.size => named_iff.2 (namesSlots_of_perm hperm) k
  have hsource : Vector.ofFn (slotOf items.size source) =
      (Vector.ofFn slot).map (Except.ok (ε := OutOfBounds)) := by
    apply Vector.ext
    intro j hj
    simpa [get_eq_getElem] using hslot ⟨j, hj⟩
  have hget : ∀ j : Fin items.size, source[j.val]? = some (slot j).val := by
    intro j
    simpa [get_eq_getElem, slotOf_eq_ok_iff] using hslot j
  have hinjective : Function.Injective (Vector.ofFn slot).get := by
    intro i j hij
    have hij' : slot i = slot j := by simpa [get_eq_getElem] using hij
    exact Fin.ext (eq_of_perm hperm i.isLt j.isLt (by rw [hget, hget, hij']))
  obtain ⟨items', hwalk, hitems⟩ := exists_walk (ε := OutOfBounds) items.toVector hinjective
  rw [rearrange?, hsource, hwalk] at h
  cases h
  have hk' := hitems ⟨k, hk⟩
  rw [hget ⟨k, hk⟩]
  simp only [get_eq_getElem, Vector.getElem_ofFn] at hk'
  simp [hk, hk']

/-- **Rearranging by any list of numbers.** The walk ends, and it meets no fault just if the first
numbers, one for each item, name slots; the numbers need not be a permutation. It keeps the items,
and if the first numbers are a permutation, each slot ends with the item of its source. -/
theorem items_moved (items : Array α) (source : Array Nat) :
    ((∃ rearranged, rearrange? items source = .ok rearranged) ↔ NamesSlots items.size source) ∧
    ∀ rearranged, rearrange? items source = .ok rearranged →
      rearranged.Perm items ∧
      ((source.toList.take items.size).Perm (List.range items.size) →
        ∀ k < items.size, rearranged[k]? = source[k]?.bind (items[·]?)) := by
  refine ⟨⟨?_, ?_⟩, ?_⟩
  · rintro ⟨rearranged, h⟩
    exact namesSlots_of_rearrange? h
  · intro h
    obtain ⟨rearranged, hr, -⟩ := exists_rearrange?_perm h
    exact ⟨rearranged, hr⟩
  · intro rearranged h
    obtain ⟨rearranged', hr, hperm⟩ := exists_rearrange?_perm (namesSlots_of_rearrange? h)
    have heq : rearranged' = rearranged := Except.ok.inj (hr.symm.trans h)
    exact ⟨heq ▸ hperm, fun hsource k hk => getElem?_rearrange? h hsource hk⟩

/-- Three items by numbers that name one slot twice, and by a permutation with a number more. -/
theorem items_moved_three :
    (∃ rearranged, rearrange? #['a', 'b', 'c'] #[1, 1, 0] = .ok rearranged ∧
      rearranged.Perm #['a', 'b', 'c']) ∧
    ∃ rearranged, rearrange? #['a', 'b', 'c'] #[2, 0, 1, 9] = .ok rearranged ∧
      ∀ k < 3, rearranged[k]? = #[2, 0, 1, 9][k]?.bind (#['a', 'b', 'c'][·]?) := by
  obtain ⟨htwice, hkept⟩ := items_moved #['a', 'b', 'c'] #[1, 1, 0]
  obtain ⟨honce, hsorted⟩ := items_moved #['a', 'b', 'c'] #[2, 0, 1, 9]
  obtain ⟨r, hr⟩ := htwice.2 (by unfold NamesSlots; decide)
  obtain ⟨q, hq⟩ := honce.2 (by unfold NamesSlots; decide)
  exact ⟨⟨r, hr, (hkept r hr).1⟩, q, hq, (hsorted q hq).2 (by decide)⟩

end Permutation

end StyleHost
