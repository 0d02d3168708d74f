import StyleHost.Collation.Locales

/-!
# Collations are total preorders

A comparison is a total preorder if swapping its arguments swaps its answer and if it is transitive
(`Std.TransCmp`). Every comparison that the collation data hold compares sort keys, which are lists
of weights, level by level; so the data compare by total preorders (`Collation.orders_data`). What
a comparator compares by comes from the data, but where it has to treat all texts as equal
(`Comparator.compare_create`).
-/

namespace StyleHost

/-! ### Comparisons -/

/-- A comparison seen through a function. -/
theorem transCmp_comap {α β : Type} (cmp : β → β → Ordering) [Std.TransCmp cmp] (f : α → β) :
    Std.TransCmp fun a b => cmp (f a) (f b) where
  eq_swap := Std.OrientedCmp.eq_swap
  isLE_trans := Std.TransCmp.isLE_trans

theorem transCmp_eq {α : Type} : Std.TransCmp fun _ _ : α => Ordering.eq where
  eq_swap := rfl
  isLE_trans := fun _ _ => rfl

theorem isLE_total {α : Type} (cmp : α → α → Ordering) [Std.OrientedCmp cmp] (a b : α) :
    (cmp a b).isLE || (cmp b a).isLE := by
  have h : cmp b a = (cmp a b).swap := Std.OrientedCmp.eq_swap
  rw [h]
  cases cmp a b <;> rfl

/-! ### Collation data -/

/-- The collation data compare texts by total preorders. -/
def Collations.Orders (data : Collations) : Prop :=
  ∀ tag caseOrder collate, data tag caseOrder = .ok (some collate) → Std.TransCmp collate

namespace Collation

theorem transCmp_key : Std.TransCmp Key.compare := by
  have : Std.TransCmp Weight.compare := inferInstanceAs (Std.TransCmp (List.compareLex _))
  have := transCmp_comap (List.compareLex Weight.compare) Key.primary
  have := transCmp_comap (List.compareLex Weight.compare) Key.secondary
  have := transCmp_comap (List.compareLex Weight.compare) Key.tertiary
  exact inferInstanceAs (Std.TransCmp (compareLex _ (compareLex _ _)))

theorem Collator.transCmp_compare (c : Collator) : Std.TransCmp c.compare := by
  have := transCmp_key
  exact transCmp_comap Key.compare c.key

/-- **The collation data of all tags compare by total preorders.** -/
theorem orders_data : Collations.Orders data := by
  intro tag caseOrder collate h
  unfold data at h
  split at h
  · cases h
  · split at h
    · cases h
      exact Collator.transCmp_compare _
    · cases h

end Collation

/-- What holds of a comparison by which all texts are equal, and of every comparison that the data
hold, holds of every comparator. -/
theorem Comparator.compare_create {P : (String → String → Ordering) → Prop} {data : Collations}
    (heq : P fun _ _ => .eq)
    (hdata : ∀ tag caseOrder collate, data tag caseOrder = .ok (some collate) → P collate)
    {locale : Option String} {caseOrder : CaseOrder} {c : Comparator}
    (h : (create data locale caseOrder).1 = .ok c) : P c.compare := by
  unfold create at h
  cases ht : tagOf (trimmedLocale locale) with
  | error e =>
    simp only [ht, unusable] at h
    cases h
    exact heq
  | ok tag =>
    cases hc : data tag caseOrder with
    | error cause =>
      simp only [ht, hc] at h
      cases h
    | ok collate? =>
      cases collate? with
      | none =>
        simp only [ht, hc, unusable] at h
        cases h
        exact heq
      | some collate =>
        simp only [ht, hc] at h
        cases h
        exact hdata _ _ _ hc

end StyleHost
