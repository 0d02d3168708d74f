import StyleHost.Proofs.Sort.Lawless
import StyleHost.Proofs.Sort.Ties

/-!
# Keys of unusable languages

If no comparison can be built for the language of a key, all its texts are equal. That spoils
nothing but the key itself. Where its expression can be evaluated for every item, the sort is the
one without the key, at whatever place the key stands. Where it cannot, the keys of some items are
absent, and absent keys come first in either direction: the key then tells the items whose
evaluation failed from the others, as a number of two values would, and leaves all other pairs to
the remaining keys.

There is one exception. Over some languages the collation data break down instead of telling that
they have no comparison, and a sort that asks for such a key breaks down with them. It asks for the
key just if two items tie on all keys before it.

* `Sorter.Unusable` : no comparison can be built for the language of a key.
* `Sorter.withProbe` : expressions, with one more for whether a given one can be evaluated.
* `Sorter.failuresFirst` : the order of two items in which such a key takes part.
* `Sorter.sort_unusable` : what becomes of a sort by a key of an unusable language.
-/

namespace StyleHost

theorem Comparator.compare_of_not_usable {c : Comparator} (h : c.isUsable = false) :
    c.compare = fun _ _ => .eq := by
  have hnone : c.collate? = none := by simpa [isUsable] using h
  funext a b
  rw [Comparator.compare, hnone]

/-- Where all texts are equal, the key of an evaluation that failed comes before that of one that
did not, and other keys tie. -/
theorem SortKey.compare_ofResult_text (order : SortOrder) (r r' : Except EngineError Value) :
    SortKey.compare (fun _ _ => .eq) order (ofResult r .text) (ofResult r' .text) =
      Ord.compare r.isOk r'.isOk := by
  cases r <;> cases r' <;> cases order <;> rfl

/-- The same key of an expression of another type. -/
def SortSpec.withSelect {X Y : Type} (spec : SortSpec X) (select : Y) : SortSpec Y :=
  { spec with select }

namespace Sorter

variable {X I : Type} {n : Nat}

/-- No comparison can be built for the language of a text key: if a comparator comes about at all,
then one that cannot be used. -/
structure Unusable (s : Sorter) (spec : SortSpec X) : Prop where
  compares_texts : spec.dataType = .text
  not_usable : ∀ c, (Comparator.create s.collations (spec.lang.or s.defaultLocale)
    spec.caseOrder).1 = .ok c → c.isUsable = false

/-- Whether an expression can be evaluated for the item at an index. -/
def evaluates (evaluate : Evaluator X I) (items : Vector I n) (select : X) (i : Fin n) : Bool :=
  (evaluate select (items.get i) (i + 1) n).isOk

/-- The expressions of an evaluator and one more, the number of which is one for the items that a
given expression can be evaluated for, and zero for the others. -/
def withProbe (evaluate : Evaluator X I) (probed : X) : Evaluator (Option X) I
  | some select, item, position, size => evaluate select item position size
  | none, item, position, size =>
    .ok (.text (if (evaluate probed item position size).isOk then "1" else "0"))

/-- The key by that number. -/
def probeKey : SortSpec (Option X) := { select := none, dataType := .number }

/-- A key of the given expressions among those with one more. -/
def besideProbe (spec : SortSpec X) : SortSpec (Option X) := spec.withSelect (some spec.select)

variable {s : Sorter} {evaluate : Evaluator X I} {items : Vector I n} {spec : SortSpec X}
  {before after : List (SortSpec X)}

/-! ### The level of the key -/

theorem Unusable.collation_eq (h : s.Unusable spec) {collate : String → String → Ordering}
    (hc : (s.collation spec).1 = .ok collate) : collate = fun _ _ => .eq := by
  rw [Sorter.collation, h.compares_texts] at hc
  dsimp only at hc
  cases hcreate : (Comparator.create s.collations (spec.lang.or s.defaultLocale)
      spec.caseOrder).1 with
  | error cause =>
    rw [hcreate] at hc
    cases hc
  | ok c =>
    rw [hcreate] at hc
    cases hc
    exact Comparator.compare_of_not_usable (h.not_usable c hcreate)

/-- All texts of the key are equal, also where the data break down over it. -/
theorem Unusable.textOrder (h : s.Unusable spec) : s.textOrder spec = fun _ _ => .eq := by
  cases hc : (s.collation spec).1 with
  | error cause => simp only [Sorter.textOrder, hc]
  | ok collate => rw [textOrder_of_collation hc, h.collation_eq hc]

theorem Unusable.compare_levelOf (h : s.Unusable spec) (a b : Fin n) :
    (s.levelOf evaluate items spec).compare a b =
      compare (evaluates evaluate items spec.select a)
        (evaluates evaluate items spec.select b) := by
  rw [Sorter.compare_levelOf, h.textOrder, keyAt, keyAt, h.compares_texts,
    SortKey.compare_ofResult_text]
  rfl

/-- The order of two items by the keys before, then by whether an expression can be evaluated, then
by the keys after, and by input order last. -/
def failuresFirst (s : Sorter) (evaluate : Evaluator X I) (items : Vector I n)
    (before : List (SortSpec X)) (probed : X) (after : List (SortSpec X)) (a b : Fin n) :
    Ordering :=
  (compareLevels (s.allLevels evaluate items before) a b).then
    ((compare (evaluates evaluate items probed a) (evaluates evaluate items probed b)).then
      ((compareLevels (s.allLevels evaluate items after) a b).then (compare a b)))

theorem Unusable.itemOrder (h : s.Unusable spec) :
    s.itemOrder evaluate items (before ++ spec :: after) =
      s.failuresFirst evaluate items before spec.select after := by
  funext a b
  rw [Sorter.itemOrder, allLevels, List.map_append, List.map_cons, KeyLevel.compareLevels_append,
    KeyLevel.compareLevels_cons, h.compare_levelOf, Ordering.then_assoc, Ordering.then_assoc]
  rfl

theorem Unusable.orderBy (h : s.Unusable spec) {collate : String → String → Ordering}
    (hc : (s.collation spec).1 = .ok collate) (a b : Fin n) :
    s.orderBy evaluate items a b spec = .ok (compare (evaluates evaluate items spec.select a)
      (evaluates evaluate items spec.select b)) := by
  rw [orderBy_of_ok hc, h.compare_levelOf]

/-! ### Without the key -/

/-- A tie is as good as no order at all, wherever it stands. -/
theorem firstDecisive_tie (lastResort : Ordering) (orders rest : List (Except Panic Ordering)) :
    firstDecisive lastResort (orders ++ .ok .eq :: rest) =
      firstDecisive lastResort (orders ++ rest) := by
  induction orders with
  | nil => rfl
  | cons o orders ih =>
    rw [List.cons_append, List.cons_append, firstDecisive, firstDecisive, ih]

/-- Pairs that the key does not tell apart are left to the remaining keys. -/
theorem Unusable.pairOrder (h : s.Unusable spec) {collate : String → String → Ordering}
    (hc : (s.collation spec).1 = .ok collate) {a b : Fin n}
    (hab : evaluates evaluate items spec.select a = evaluates evaluate items spec.select b) :
    s.pairOrder evaluate items (before ++ spec :: after) a b =
      s.pairOrder evaluate items (before ++ after) a b := by
  have htie : s.orderBy evaluate items a b spec = .ok .eq := by
    rw [h.orderBy hc, hab, Std.ReflOrd.compare_self]
  rw [Sorter.pairOrder, Sorter.pairOrder, List.map_append, List.map_cons, htie, firstDecisive_tie,
    ← List.map_append]

/-! ### The two-valued key -/

theorem orderBy_besideProbe (probed : X) (a b : Fin n) :
    s.orderBy (withProbe evaluate probed) items a b ∘ besideProbe = s.orderBy evaluate items a b :=
  rfl

theorem orderBy_probeKey (probed : X) (a b : Fin n) :
    s.orderBy (withProbe evaluate probed) items a b probeKey =
      .ok (compare (evaluates evaluate items probed a) (evaluates evaluate items probed b)) := by
  -- the key is the number that one of two texts spells
  have hkey : ∀ p q : Bool, SortKey.compare (fun _ _ => .eq) .ascending
      (some (SortKey.ofValue (.text (if p then "1" else "0")) .number))
      (some (SortKey.ofValue (.text (if q then "1" else "0")) .number)) = compare p q := by
    decide +kernel
  exact congrArg Except.ok (hkey _ _)

/-- The key is no other than the two-valued one. -/
theorem Unusable.pairOrder_eq_probe (h : s.Unusable spec) {collate : String → String → Ordering}
    (hc : (s.collation spec).1 = .ok collate) :
    s.pairOrder evaluate items (before ++ spec :: after) =
      s.pairOrder (withProbe evaluate spec.select) items
        (before.map besideProbe ++ probeKey :: after.map besideProbe) := by
  funext a b
  rw [Sorter.pairOrder, Sorter.pairOrder, List.map_append, List.map_cons, List.map_append,
    List.map_cons, List.map_map, List.map_map, orderBy_besideProbe, orderBy_probeKey, h.orderBy hc]

/-! ### The sort -/

/-- Where texts of other keys compare by total preorders, the items come in ascending order. -/
theorem Unusable.exists_order {items : Array I} (h : s.Unusable spec)
    {collate : String → String → Ordering} (hc : (s.collation spec).1 = .ok collate)
    (hroom : s.Roomy (before ++ spec :: after))
    (hmax : (before ++ spec :: after).length < SortSpec.maxKeys)
    (hbuilt : s.Built (before ++ after)) (hd : s.collations.Orders) :
    ∃ order : List (Fin items.size), order.Perm (List.finRange items.size) ∧
      (s.sort evaluate items (before ++ spec :: after)).items.toList =
        order.map items.toVector.get ∧
      order.Pairwise fun a b =>
        s.failuresFirst evaluate items.toVector before spec.select after a b = .lt := by
  have hr : s.Ready evaluate items.toVector (before ++ spec :: after) := by
    refine hroom.ready fun found hfound => ?_
    rcases List.mem_append.1 hfound with hmem | hmem
    · exact hbuilt found (List.mem_append_left _ hmem)
    · rcases List.mem_cons.1 hmem with rfl | hmem
      · exact ⟨_, hc⟩
      · exact hbuilt found (List.mem_append_right _ hmem)
  refine ⟨_, List.mergeSort_perm _ _, (items_sort evaluate items hr hd hmax).2, ?_⟩
  rw [← h.itemOrder]
  exact pairwise_lt_sortedOrder hd

theorem Roomy.of_length_le {Y : Type} {specs : List (SortSpec X)} {specs' : List (SortSpec Y)}
    (h : s.Roomy specs) (hle : specs'.length ≤ specs.length) : s.Roomy specs' :=
  ⟨h.order_room, fun k hk => h.keys_room k (hk.trans_le hle)⟩

/-- The sort by the keys before comes to the same with the probe beside them. -/
theorem sort_besideProbe {items : Array I} (probed : X) (hroom : s.Roomy before)
    (hmax : before.length < SortSpec.maxKeys) : SameOutcome (s.sort evaluate items before)
      (s.sort (withProbe evaluate probed) items (before.map besideProbe)) := by
  have hlength : (before.map besideProbe).length = before.length := List.length_map _
  refine sort_eq_of_pairOrder ?_ hroom (hroom.of_length_le hlength.le) hmax (hlength ▸ hmax)
  funext a b
  rw [Sorter.pairOrder, Sorter.pairOrder, List.map_map, orderBy_besideProbe]

theorem unasked_besideProbe (probed : X) :
    s.Unasked (withProbe evaluate probed) items (before.map besideProbe) ↔
      s.Unasked evaluate items before := by
  have hbuilt : s.Built (before.map besideProbe) ↔ s.Built before := by
    simp only [Built, List.forall_mem_map]
    rfl
  have hlevels : s.allLevels (withProbe evaluate probed) items (before.map besideProbe) =
      s.allLevels evaluate items before := by
    rw [allLevels, allLevels, List.map_map]
    rfl
  rw [Unasked, Unasked, hbuilt, Ties, Ties, hlevels]

variable (s evaluate before spec after) in
/-- **A key of an unusable language.** If the collation data do not break down over it and its
expression can be evaluated for every item, the sort comes to the same as the one without the key.
In any case it comes to the same as the sort by the two-valued key in its place, whichever direction
the key has: items whose evaluation fails are before the others, and pairs that are alike in this
are left to the remaining keys. If these order the items totally, the items come in the order that
is described so.

If the data do break down over the key, so does the sort, just if two items tie on all keys before
it. Where no two items tie on these, or where the data break down over one of these, the sort comes
to the same as both the other sorts. -/
theorem sort_unusable (items : Array I) (h : s.Unusable spec)
    (hroom : s.Roomy (before ++ spec :: after))
    (hmax : (before ++ spec :: after).length < SortSpec.maxKeys) :
    (∀ a b, (s.levelOf evaluate items.toVector spec).compare a b =
      compare (evaluates evaluate items.toVector spec.select a)
        (evaluates evaluate items.toVector spec.select b)) ∧
    (∀ collate, (s.collation spec).1 = .ok collate →
      ((∀ i, evaluates evaluate items.toVector spec.select i = true) →
        SameOutcome (s.sort evaluate items (before ++ spec :: after))
          (s.sort evaluate items (before ++ after)) ∧
        (before ++ after = [] →
          (s.sort evaluate items (before ++ spec :: after)).items = items)) ∧
      SameOutcome (s.sort evaluate items (before ++ spec :: after))
        (s.sort (withProbe evaluate spec.select) items
          (before.map besideProbe ++ probeKey :: after.map besideProbe)) ∧
      (s.Built (before ++ after) → s.collations.Orders →
        ∃ order : List (Fin items.size), order.Perm (List.finRange items.size) ∧
          (s.sort evaluate items (before ++ spec :: after)).items.toList =
            order.map items.toVector.get ∧
          order.Pairwise fun a b =>
            s.failuresFirst evaluate items.toVector before spec.select after a b = .lt)) ∧
    ∀ cause, (s.collation spec).1 = .error cause →
      (s.Built before → s.collations.Orders →
        ((s.sort evaluate items (before ++ spec :: after)).breakdown = some cause ↔
          s.Ties evaluate items.toVector before) ∧
        (s.Ties evaluate items.toVector before →
          (s.sort evaluate items (before ++ spec :: after)).items = items)) ∧
      (s.Unasked evaluate items.toVector before →
        SameOutcome (s.sort evaluate items (before ++ spec :: after))
          (s.sort evaluate items (before ++ after)) ∧
        SameOutcome (s.sort evaluate items (before ++ spec :: after))
          (s.sort (withProbe evaluate spec.select) items
            (before.map besideProbe ++ probeKey :: after.map besideProbe))) := by
  have hlength : (before ++ after).length ≤ (before ++ spec :: after).length := by
    simp only [List.length_append, List.length_cons]
    omega
  have hlength' : (before.map besideProbe ++ probeKey :: after.map besideProbe).length =
      (before ++ spec :: after).length := by
    simp only [List.length_append, List.length_cons, List.length_map]
  have hroom' := hroom.of_length_le hlength
  have hroomProbe : s.Roomy (before.map besideProbe ++ probeKey :: after.map besideProbe) :=
    hroom.of_length_le hlength'.le
  refine ⟨h.compare_levelOf, fun collate hc => ⟨fun hall => ?_,
    sort_eq_of_pairOrder (h.pairOrder_eq_probe hc) hroom hroomProbe hmax (hlength' ▸ hmax),
    h.exists_order hc hroom hmax⟩, fun cause hcause => ⟨fun hbuilt hd => ?_, fun hnot => ?_⟩⟩
  · have hpairs : s.pairOrder evaluate items.toVector (before ++ spec :: after) =
        s.pairOrder evaluate items.toVector (before ++ after) := by
      funext a b
      exact h.pairOrder hc ((hall a).trans (hall b).symm)
    have hsame := sort_eq_of_pairOrder hpairs hroom hroom' hmax (hlength.trans_lt hmax)
    refine ⟨hsame, fun hnil => ?_⟩
    rw [hsame.items, hnil]
    rfl
  · have hties : (s.sort evaluate items (before ++ spec :: after)).breakdown = some cause ↔ _ :=
      breakdown_iff_ties hroom hmax hbuilt hd hcause
    exact ⟨hties, fun h => items_of_breakdown (hties.2 h)⟩
  · -- all three sorts come to the sort by the keys before
    have hwhole := sort_append_of_unasked hnot hroom hmax
    have hpart := sort_append_of_unasked hnot hroom' (hlength.trans_lt hmax)
    have hprobe := sort_append_of_unasked ((unasked_besideProbe spec.select).2 hnot) hroomProbe
      (hlength' ▸ hmax)
    have hbefore : before.length < SortSpec.maxKeys := by
      rw [List.length_append] at hmax
      omega
    exact ⟨hwhole.trans hpart.symm, (hwhole.trans
      (sort_besideProbe spec.select hroom.of_append hbefore)).trans hprobe.symm⟩

/-- Keys of pairs, where the key by text fails for an empty text. -/
def patchyKeys : Evaluator DataType (Nat × String) := fun select item position size =>
  match select, item.2 with
  | .text, "" => .error (.evaluation "no text")
  | _, _ => pairKeys select item position size

/-- A key by text, in a language that there is no tag for. -/
def unknownLanguage : SortSpec DataType := { select := .text, lang := some "not a locale!" }

theorem unusable_unknownLanguage :
    Unusable ⟨Collation.data, none, fun _ => true⟩ unknownLanguage :=
  ⟨rfl, by rintro c ⟨⟩; rfl⟩

/-- A key by text, in a script without a language. -/
def scriptAlone : SortSpec DataType := { select := .text, lang := some "und-Cyrl" }

theorem collation_scriptAlone :
    (collation ⟨Collation.data, none, fun _ => true⟩ scriptAlone).1 =
      .error Collation.noLanguage := rfl

theorem unusable_scriptAlone : Unusable ⟨Collation.data, none, fun _ => true⟩ scriptAlone :=
  ⟨rfl, by rintro c ⟨⟩⟩

/-- The key by number. -/
def byNumber : SortSpec DataType := { select := .number, dataType := .number }

/-- A language that there is no tag for, with an expression that can be evaluated for every item and
with one that cannot, and a script without a language, behind a key that tells the items apart and
in front of it. -/
theorem sort_unusable_of_unknownLanguage :
    (sort ⟨Collation.data, none, fun _ => true⟩ patchyKeys #[(2, "b"), (2, "a"), (1, "c")]
        [unknownLanguage, byNumber]).items =
      (sort ⟨Collation.data, none, fun _ => true⟩ patchyKeys #[(2, "b"), (2, "a"), (1, "c")]
        [byNumber]).items ∧
    (sort ⟨Collation.data, none, fun _ => true⟩ patchyKeys #[(2, "b"), (2, ""), (1, "c")]
        [unknownLanguage, byNumber]).items =
      (sort ⟨Collation.data, none, fun _ => true⟩ (withProbe patchyKeys .text)
        #[(2, "b"), (2, ""), (1, "c")] [probeKey, besideProbe byNumber]).items ∧
    SameOutcome
      (sort ⟨Collation.data, none, fun _ => true⟩ patchyKeys #[(2, "b"), (1, "a")]
        [byNumber, scriptAlone])
      (sort ⟨Collation.data, none, fun _ => true⟩ patchyKeys #[(2, "b"), (1, "a")] [byNumber]) ∧
    (sort ⟨Collation.data, none, fun _ => true⟩ patchyKeys #[(2, "b"), (1, "a")]
      [scriptAlone, byNumber]).breakdown = some Collation.noLanguage := by
  refine ⟨?_, ?_, ?_, ?_⟩
  · refine (((sort_unusable ⟨Collation.data, none, fun _ => true⟩ patchyKeys unknownLanguage []
      [byNumber] _ unusable_unknownLanguage (roomy_always _ _) (by decide)).2.1 _ rfl).1 ?_).1.items
    decide
  · exact ((sort_unusable ⟨Collation.data, none, fun _ => true⟩ patchyKeys unknownLanguage []
      [byNumber] _ unusable_unknownLanguage (roomy_always _ _) (by decide)).2.1 _ rfl).2.1.items
  · refine (((sort_unusable ⟨Collation.data, none, fun _ => true⟩ patchyKeys scriptAlone [byNumber]
      [] _ unusable_scriptAlone (roomy_always _ _) (by decide)).2.2 _ collation_scriptAlone).2
      (.inr ⟨Collation.orders_data, ?_⟩)).1
    rw [Ties]
    decide +kernel
  · refine (((sort_unusable ⟨Collation.data, none, fun _ => true⟩ patchyKeys scriptAlone []
      [byNumber] _ unusable_scriptAlone (roomy_always _ _) (by decide)).2.2 _
      collation_scriptAlone).1 (by simp [Built]) Collation.orders_data).1.2 ?_
    exact ties_nil (by decide)

/-- A key of a script without a language, whose expression can be evaluated for every item, is
unusable and does not degrade: the sort by it breaks down and leaves the items in input order, while
the sort without it puts the lesser number first. -/
theorem sort_scriptAlone : Unusable ⟨Collation.data, none, fun _ => true⟩ scriptAlone ∧
    (∀ i, evaluates pairKeys #v[(2, "b"), (1, "a")] scriptAlone.select i = true) ∧
    (sort ⟨Collation.data, none, fun _ => true⟩ pairKeys #[(2, "b"), (1, "a")]
      [scriptAlone, byNumber]).breakdown = some Collation.noLanguage ∧
    (sort ⟨Collation.data, none, fun _ => true⟩ pairKeys #[(2, "b"), (1, "a")]
      [scriptAlone, byNumber]).items = #[(2, "b"), (1, "a")] ∧
    (sort ⟨Collation.data, none, fun _ => true⟩ pairKeys #[(2, "b"), (1, "a")]
      [byNumber]).breakdown = none ∧
    (sort ⟨Collation.data, none, fun _ => true⟩ pairKeys #[(2, "b"), (1, "a")]
      [byNumber]).items = #[(1, "a"), (2, "b")] :=
  ⟨unusable_scriptAlone, by decide, by decide +kernel, by decide +kernel, by decide +kernel,
    by decide +kernel⟩

end Sorter

end StyleHost
