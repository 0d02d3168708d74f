import StyleHost.Sort.Gaps

/-!
# Two sorts side by side

The passes of a sort are written for any monad, and all that they learn of the items are the answers
of the comparison. So two sorts whose comparisons correspond to each other correspond as a whole,
in whatever sense of "correspond" that is kept when computations are put one after the other.

* `Correspondence` : such a relation of the computations of two monads.
* `Gaps.sort_corresponds` : corresponding comparisons lead to corresponding sorts.
-/

namespace StyleHost

/-- A relation of the computations of two monads that single values keep and sequences of
computations keep. -/
structure Correspondence (m m' : Type → Type) [Monad m] [Monad m'] where
  /-- Whether two computations of a value correspond. -/
  rel : {α : Type} → m α → m' α → Prop
  rel_pure : ∀ {α : Type} (a : α), rel (pure a) (pure a)
  rel_bind : ∀ {α β : Type} {x : m α} {x' : m' α} {f : α → m β} {f' : α → m' β},
    rel x x' → (∀ a, rel (f a) (f' a)) → rel (x >>= f) (x' >>= f')

namespace Gaps

variable {n : Nat} {m m' : Type → Type} [Monad m] [Monad m'] {compare : Fin n → Fin n → m Ordering}
  {compare' : Fin n → Fin n → m' Ordering}

theorem sink_corresponds (r : Correspondence m m')
    (h : ∀ a b, r.rel (compare a b) (compare' a b)) {gap : Nat} (hgap : 0 < gap) {j : Nat}
    (hj : j < n) (order : Vector (Fin n) n) :
    r.rel (sink compare gap hgap j hj order) (sink compare' gap hgap j hj order) := by
  -- the slot falls by a gap with each step; the arrangement is whatever the swaps so far have made
  induction j using Nat.strongRecOn generalizing order with
  | ind j ih =>
    rw [sink, sink]
    split
    · refine r.rel_bind (h _ _) fun o => ?_
      split
      · exact ih (j - gap) (by omega) _ _
      · exact r.rel_pure order
    · exact r.rel_pure order

theorem pass_corresponds (r : Correspondence m m')
    (h : ∀ a b, r.rel (compare a b) (compare' a b)) {gap : Nat} (hgap : 0 < gap) (i : Nat)
    (order : Vector (Fin n) n) :
    r.rel (pass compare gap hgap i order) (pass compare' gap hgap i order) := by
  induction hm : n - i generalizing i order with
  | zero =>
    rw [pass, pass, dif_neg (by omega), dif_neg (by omega)]
    exact r.rel_pure order
  | succ k ih =>
    rw [pass, pass, dif_pos (by omega), dif_pos (by omega)]
    exact r.rel_bind (sink_corresponds r h hgap _ order) fun order' => ih (i + 1) order' (by omega)

theorem passes_corresponds (r : Correspondence m m')
    (h : ∀ a b, r.rel (compare a b) (compare' a b)) (gap : Nat) (order : Vector (Fin n) n) :
    r.rel (passes compare gap order) (passes compare' gap order) := by
  induction gap using Nat.strongRecOn generalizing order with
  | ind gap ih =>
    rw [passes, passes]
    split
    · exact r.rel_bind (pass_corresponds r h _ gap order) fun order' =>
        ih (gap / 2) (by omega) order'
    · exact r.rel_pure order

/-- **Corresponding comparisons lead to corresponding sorts.** -/
theorem sort_corresponds (r : Correspondence m m')
    (h : ∀ a b, r.rel (compare a b) (compare' a b)) : r.rel (sort compare) (sort compare') :=
  passes_corresponds r h (n / 2) (identity n)

end Gaps

end StyleHost
