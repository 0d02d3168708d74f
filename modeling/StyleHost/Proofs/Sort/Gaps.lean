import Mathlib.Data.List.Chain
import Mathlib.Data.List.FinRange
import StyleHost.Sort.Gaps

/-!
# What a sort with shrinking gaps leaves behind

The comparison may keep a state and may stop the sort. Its `Gaps.Contract` says what it promises: an
invariant of the state, and what is known of two entries once they have been compared. From the
contract alone

* the arrangement stays a permutation of the positions, whatever the comparison answers;
* in the end every two neighbours have been compared with each other, and the first of them may
  precede the second (`Gaps.sort_ends`).

Neither needs a transitive comparison. The passes with wider gaps contribute nothing but the
invariant: the last pass settles all neighbours by itself.
-/

namespace StyleHost

/-- From the state `s` a step ends in `Q` if it returns, and in `E` if it stops. -/
def Ends {ε σ α : Type} (x : ExceptT ε (StateM σ) α) (Q : α → σ → Prop) (E : ε → σ → Prop)
    (s : σ) : Prop :=
  match x.run.run s with
  | (.ok a, s') => Q a s'
  | (.error e, s') => E e s'

namespace Ends

variable {ε σ α β : Type} {E : ε → σ → Prop} {s : σ}

theorem pure_iff {a : α} {Q : α → σ → Prop} :
    Ends (pure a : ExceptT ε (StateM σ) α) Q E s ↔ Q a s := Iff.rfl

theorem get_iff {Q : σ → σ → Prop} :
    Ends (get : ExceptT ε (StateM σ) σ) Q E s ↔ Q s s := Iff.rfl

theorem bind_iff {x : ExceptT ε (StateM σ) α} {f : α → ExceptT ε (StateM σ) β}
    {Q : β → σ → Prop} : Ends (x >>= f) Q E s ↔ Ends x (fun a => Ends (f a) Q E) E s := by
  have h : (x >>= f).run.run s = match x.run.run s with
      | (.ok a, s') => (f a).run.run s'
      | (.error e, s') => (.error e, s') := by
    simp only [ExceptT.run_bind, StateT.run_bind]
    rcases x.run.run s with ⟨e | a, s'⟩ <;> rfl
  unfold Ends
  rw [h]
  rcases x.run.run s with ⟨e | a, s'⟩ <;> rfl

theorem mono {x : ExceptT ε (StateM σ) α} {Q Q' : α → σ → Prop} (h : Ends x Q E s)
    (hQ : ∀ a s', Q a s' → Q' a s') : Ends x Q' E s := by
  unfold Ends at *
  revert h
  rcases x.run.run s with ⟨e | a, s'⟩
  · exact id
  · exact hQ a s'

/-- A step that never stops returns. -/
theorem exists_run {x : ExceptT ε (StateM σ) α} {Q : α → σ → Prop}
    (h : Ends x Q (fun _ _ => False) s) : ∃ a s', x.run.run s = (.ok a, s') ∧ Q a s' := by
  unfold Ends at h
  revert h
  rcases x.run.run s with ⟨e | a, s'⟩
  · exact False.elim
  · exact fun h => ⟨a, s', rfl, h⟩

end Ends

namespace Gaps

variable {n : Nat} {ε σ : Type} {compare : Fin n → Fin n → ExceptT ε (StateM σ) Ordering}

/-- What a comparison promises. -/
structure Contract (compare : Fin n → Fin n → ExceptT ε (StateM σ) Ordering) where
  /-- What holds of the state between comparisons. -/
  inv : σ → Prop
  /-- What is known, in a state, of two entries the first of which may precede the second. -/
  mayPrecede : σ → Fin n → Fin n → Prop
  /-- How the comparison may stop the sort. -/
  stop : ε → σ → Prop
  compare_ends : ∀ {a b : Fin n} {s : σ}, a ≠ b → inv s →
    Ends (compare a b) (fun o s' => inv s' ∧ (∀ x y, mayPrecede s x y → mayPrecede s' x y) ∧
      if o = .gt then mayPrecede s' b a else mayPrecede s' a b) stop s

/-- An arrangement in which every position has one slot. -/
def IsPermutation (order : Vector (Fin n) n) : Prop := order.toList.Perm (List.finRange n)

theorem toList_identity : (identity n).toList = List.finRange n := by
  apply List.ext_getElem <;> simp [identity]

theorem isPermutation_identity : IsPermutation (identity n) := by
  rw [IsPermutation, toList_identity]

theorem IsPermutation.nodup {order : Vector (Fin n) n} (h : IsPermutation order) :
    order.toList.Nodup :=
  h.nodup_iff.2 (List.nodup_finRange n)

theorem IsPermutation.swap {order : Vector (Fin n) n} (h : IsPermutation order) {i j : Nat}
    (hi : i < n) (hj : j < n) : IsPermutation (order.swap i j) :=
  (Vector.swap_perm hi hj).toList.trans h

theorem IsPermutation.getElem_ne {order : Vector (Fin n) n} (h : IsPermutation order) {i j : Nat}
    (hi : i < n) (hj : j < n) (hij : i ≠ j) : order[i] ≠ order[j] := by
  intro he
  have hi' : i < order.toList.length := by simpa
  have hj' : j < order.toList.length := by simpa
  exact hij (h.nodup.getElem_inj_iff.1 (show order.toList[i] = order.toList[j] by simpa using he))

/-- The slots up to `i` while the entry in slot `j` sinks: all neighbours are in order but for that
entry and the one below it, which is in order with the one above. -/
structure Sinking (R : Fin n → Fin n → Prop) (i j : Nat) (order : Vector (Fin n) n) : Prop where
  neighbours : ∀ k (h : k + 1 < n), k + 1 ≤ i → k + 1 ≠ j → R order[k] order[k + 1]
  around : ∀ (h : j + 1 < n), 0 < j → j < i → R order[j - 1] order[j + 1]

/-- The neighbours among the slots up to `i` are in order. -/
def InOrder (R : Fin n → Fin n → Prop) (i : Nat) (order : Vector (Fin n) n) : Prop :=
  ∀ k (h : k + 1 < n), k + 1 ≤ i → R order[k] order[k + 1]

variable {R R' : Fin n → Fin n → Prop} {i j : Nat} {order : Vector (Fin n) n}

theorem Sinking.mono (h : Sinking R i j order) (hR : ∀ x y, R x y → R' x y) :
    Sinking R' i j order :=
  ⟨fun k hk hi hj => hR _ _ (h.neighbours k hk hi hj), fun hn h0 hi => hR _ _ (h.around hn h0 hi)⟩

theorem InOrder.sinking (h : InOrder R i order) : Sinking R (i + 1) (i + 1) order :=
  ⟨fun k hk hi hj => h k hk (by omega), fun _ _ hi => absurd hi (lt_irrefl _)⟩

/-- An entry in the lowest slot has sunk. -/
theorem Sinking.inOrder_zero (h : Sinking R i 0 order) : InOrder R i order :=
  fun k hk hi => h.neighbours k hk hi (by omega)

/-- An entry that the one below it may precede has sunk. -/
theorem Sinking.inOrder_of_le (h : Sinking R i j order) (hj : j < n) (h0 : 0 < j)
    (hR : R order[j - 1] order[j]) : InOrder R i order := by
  intro k hk hi
  by_cases hkj : k + 1 = j
  · subst hkj
    exact hR
  · exact h.neighbours k hk hi hkj

/-- An entry that may precede the one below it sinks by one slot. -/
theorem Sinking.swap (h : Sinking R i j order) (hj : j < n) (h0 : 0 < j)
    (hR : R order[j] order[j - 1]) : Sinking R i (j - 1) (order.swap (j - 1) j) := by
  constructor
  · intro k hk hi hkj
    rcases Nat.lt_trichotomy (k + 1) j with hlt | heq | hgt
    · -- both slots lie below the two that change
      have := h.neighbours k hk hi (by omega)
      rwa [Vector.getElem_swap_of_ne (by omega) (by omega),
        Vector.getElem_swap_of_ne (by omega) (by omega)]
    · have hk' : k = j - 1 := by omega
      subst heq
      simpa using hR
    · by_cases hkj' : k = j
      · -- the entry that moved up meets the one that was two slots above it
        subst hkj'
        rw [Vector.getElem_swap_right, Vector.getElem_swap_of_ne (by omega) (by omega)]
        exact h.around hk h0 (by omega)
      · have := h.neighbours k hk hi (by omega)
        rwa [Vector.getElem_swap_of_ne (by omega) (by omega),
          Vector.getElem_swap_of_ne (by omega) (by omega)]
  · intro hn h0' hi
    have := h.neighbours (j - 1 - 1) (by omega) (by omega) (by omega)
    have e1 : j - 1 + 1 = j := by omega
    have e2 : j - 1 - 1 + 1 = j - 1 := by omega
    simp only [e1, e2] at this ⊢
    rwa [Vector.getElem_swap_right, Vector.getElem_swap_of_ne (by omega) (by omega)]

/-- **One sinking entry.** -/
theorem sink_ends (c : Contract compare) {gap : Nat} (hgap : 0 < gap) {s : σ} (hj : j < n)
    (hp : IsPermutation order) (hs : c.inv s) :
    Ends (sink compare gap hgap j hj order) (fun order' s' => c.inv s' ∧ IsPermutation order' ∧
      (∀ i, gap = 1 → Sinking (c.mayPrecede s) i j order →
        InOrder (c.mayPrecede s') i order')) c.stop s := by
  induction j using Nat.strongRecOn generalizing order s with
  | ind j ih =>
    rw [sink]
    split
    case isFalse h =>
      refine Ends.pure_iff.2 ⟨hs, hp, fun i hg hi => ?_⟩
      have h0 : j = 0 := by omega
      subst h0
      exact hi.inOrder_zero
    case isTrue h =>
      refine Ends.bind_iff.2 ((c.compare_ends (hp.getElem_ne _ _ (by omega)) hs).mono ?_)
      rintro o s' ⟨hs', hmono, ho⟩
      split
      case isTrue hgt =>
        refine (ih (j - gap) (by omega) (by omega) (hp.swap _ _) hs').mono ?_
        rintro order' s'' ⟨hs'', hp'', hin⟩
        refine ⟨hs'', hp'', fun i hg hi => hin i hg ?_⟩
        subst hg
        rw [if_pos hgt] at ho
        exact (hi.mono hmono).swap hj (by omega) ho
      case isFalse hgt =>
        refine Ends.pure_iff.2 ⟨hs', hp, fun i hg hi => ?_⟩
        subst hg
        rw [if_neg hgt] at ho
        exact (hi.mono hmono).inOrder_of_le hj (by omega) ho

/-- **One pass.** With gap one it extends the slots whose neighbours are in order to all slots. -/
theorem pass_ends (c : Contract compare) {gap : Nat} (hgap : 0 < gap) {s : σ}
    (hp : IsPermutation order) (hs : c.inv s) :
    Ends (pass compare gap hgap i order) (fun order' s' => c.inv s' ∧ IsPermutation order' ∧
      (gap = 1 → 0 < i → InOrder (c.mayPrecede s) (i - 1) order →
        InOrder (c.mayPrecede s') (n - 1) order')) c.stop s := by
  induction hm : n - i generalizing i order s with
  | zero =>
    rw [pass, dif_neg (by omega)]
    exact Ends.pure_iff.2 ⟨hs, hp, fun _ _ hin k hk hi => hin k hk (by omega)⟩
  | succ m ih =>
    rw [pass, dif_pos (by omega)]
    refine Ends.bind_iff.2 ((sink_ends c hgap (by omega) hp hs).mono ?_)
    rintro order₁ s₁ ⟨hs₁, hp₁, hin₁⟩
    refine (ih hp₁ hs₁ (show n - (i + 1) = m by omega)).mono ?_
    rintro order₂ s₂ ⟨hs₂, hp₂, hin₂⟩
    refine ⟨hs₂, hp₂, fun hg hi hin => hin₂ hg (by omega) (hin₁ i hg ?_)⟩
    have h1 : i - 1 + 1 = i := by omega
    simpa only [h1] using hin.sinking

/-- **All passes.** The last one has gap one. -/
theorem passes_ends (c : Contract compare) (gap : Nat) {s : σ} (hp : IsPermutation order)
    (hs : c.inv s) :
    Ends (passes compare gap order) (fun order' s' => c.inv s' ∧ IsPermutation order' ∧
      (0 < gap → InOrder (c.mayPrecede s') (n - 1) order')) c.stop s := by
  induction gap using Nat.strongRecOn generalizing order s with
  | ind gap ih =>
    rw [passes]
    split
    case isFalse h => exact Ends.pure_iff.2 ⟨hs, hp, fun h' => absurd h' h⟩
    case isTrue h =>
      refine Ends.bind_iff.2 ((pass_ends c h hp hs).mono ?_)
      rintro order₁ s₁ ⟨hs₁, hp₁, hin₁⟩
      by_cases hg : gap = 1
      · subst hg
        rw [passes, dif_neg (by decide)]
        exact Ends.pure_iff.2
          ⟨hs₁, hp₁, fun _ => hin₁ rfl (by omega) fun k hk hi => absurd hi (by omega)⟩
      · refine (ih (gap / 2) (by omega) hp₁ hs₁).mono ?_
        rintro order₂ s₂ ⟨hs₂, hp₂, hin₂⟩
        exact ⟨hs₂, hp₂, fun _ => hin₂ (by omega)⟩

/-- **The whole sort.** It keeps the invariant and leaves a permutation in which every entry may
precede the next. -/
theorem sort_ends (c : Contract compare) {s : σ} (hs : c.inv s) :
    Ends (sort compare) (fun order s' => c.inv s' ∧ IsPermutation order ∧
      order.toList.IsChain (c.mayPrecede s')) c.stop s := by
  refine (passes_ends c (n / 2) isPermutation_identity hs).mono ?_
  rintro order s' ⟨hs', hp, hin⟩
  refine ⟨hs', hp, List.isChain_iff_getElem.2 fun k hk => ?_⟩
  have hk' : k + 1 < n := by simpa using hk
  simpa using hin (by omega) k hk' (by omega)

end Gaps

end StyleHost
