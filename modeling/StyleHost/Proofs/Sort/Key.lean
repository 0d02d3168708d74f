import Mathlib.Data.Ordering.Basic
import StyleHost.Proofs.Collation.Order
import StyleHost.Sort.Key

/-!
# The order of the keys of a level

The keys that one specification gives are all of its data type (`SortKey.Fits`). Among such keys the
comparison is lexicographic: first by rank (absent, not a number, ordinary), then by value in the
direction of the level. So it is a total preorder whenever texts are compared by one
(`SortKey.transCmp_compare`). Keys of two data types would not be ordered: they all tie.
-/

namespace StyleHost

namespace Double

/-- The place of a double on the line: the infinities outside, the finite doubles by their units. -/
def place : Double → Int × Int
  | .nan => (0, 0)
  | .infinite negative => (if negative then -1 else 1, 0)
  | .finite negative size => (0, signedUnits negative size)

theorem compare?_eq_some {x y : Double} (hx : x.isNaN = false) (hy : y.isNaN = false) :
    x.compare? y = some (compareLex (compareOn Prod.fst) (compareOn Prod.snd) x.place y.place) := by
  cases x with
  | nan => cases hx
  | infinite a => cases y with
    | nan => cases hy
    | infinite b => cases a <;> cases b <;> rfl
    | finite b y => cases a <;> rfl
  | finite a x => cases y with
    | nan => cases hy
    | infinite b => cases b <;> rfl
    | finite b y => rfl

end Double

namespace SortKey

variable {collate : String → String → Ordering} {order : SortOrder}

theorem directed_eq_eq_iff {o : Ordering} : directed order o = .eq ↔ o = .eq := by
  cases order <;> cases o <;> decide

theorem transCmp_directed {α : Type} (order : SortOrder) (cmp : α → α → Ordering)
    [Std.TransCmp cmp] : Std.TransCmp fun a b => directed order (cmp a b) := by
  cases order with
  | ascending => assumption
  | descending =>
    have h : (fun a b => directed .descending (cmp a b)) = fun a b => cmp b a := by
      funext a b
      exact Std.OrientedCmp.eq_swap.symm
    rw [h]
    infer_instance

/-- The keys that a specification with a data type can give. -/
inductive Fits : DataType → Option SortKey → Prop
  | absent : Fits .text none
  | text (s : String) : Fits .text (some (.text s))
  | notANumber : Fits .number (some .notANumber)
  | number {x : Double} (h : x.isNaN = false) : Fits .number (some (.number x))

theorem fits_ofResult (result : Except EngineError Value) (dataType : DataType) :
    Fits dataType (ofResult result dataType) := by
  cases result with
  | error e => cases dataType <;> constructor
  | ok v =>
    cases dataType with
    | text => constructor
    | number =>
      simp only [ofResult, ofValue]
      split
      · constructor
      · exact .number (Bool.eq_false_iff.2 ‹_›)

/-- Absent keys come first and keys that are not numbers next, in either direction. -/
def rank : Option SortKey → Nat
  | none => 0
  | some .notANumber => 1
  | some _ => 2

/-- The text of a key; empty if it has none. -/
def textOf : Option SortKey → String
  | some (.text s) => s
  | _ => ""

/-- The place on the line of the number of a key. -/
def placeOf : Option SortKey → Int × Int
  | some (.number x) => x.place
  | _ => (0, 0)

theorem compare_of_fits_text [Std.ReflCmp collate] {a b : Option SortKey} (ha : Fits .text a)
    (hb : Fits .text b) : compare collate order a b =
      compareLex (compareOn rank)
        (fun a b => directed order (collate (textOf a) (textOf b))) a b := by
  cases ha <;> cases hb
  · -- two absent keys tie, as the empty text does with itself
    have h : directed order (collate "" "") = .eq :=
      directed_eq_eq_iff.2 Std.ReflCmp.compare_self
    exact h.symm
  · rfl
  · rfl
  · rfl

theorem compare_of_fits_number {a b : Option SortKey} (ha : Fits .number a) (hb : Fits .number b) :
    compare collate order a b = compareLex (compareOn rank) (fun a b => directed order
      (compareLex (compareOn Prod.fst) (compareOn Prod.snd) (placeOf a) (placeOf b))) a b := by
  cases ha <;> cases hb
  · cases order <;> rfl
  · rfl
  · rfl
  · rename_i x hx y hy
    simp only [compare, Double.compare?_eq_some hx hy]
    rfl

/-- **The keys of a level are in a total preorder** if texts are compared by one. -/
theorem transCmp_compare [Std.TransCmp collate] {ι : Type} {dataType : DataType}
    {key : ι → Option SortKey} (hkey : ∀ i, Fits dataType (key i)) :
    Std.TransCmp fun i j => compare collate order (key i) (key j) := by
  cases dataType with
  | text =>
    have := transCmp_comap collate textOf
    have := transCmp_directed order fun a b => collate (textOf a) (textOf b)
    simp only [compare_of_fits_text (hkey _) (hkey _)]
    exact transCmp_comap _ key
  | number =>
    have := transCmp_comap (compareLex (compareOn Prod.fst) (compareOn Prod.snd)) placeOf
    have := transCmp_directed order fun a b =>
      compareLex (compareOn Prod.fst) (compareOn Prod.snd) (placeOf a) (placeOf b)
    simp only [compare_of_fits_number (hkey _) (hkey _)]
    exact transCmp_comap _ key

end SortKey

end StyleHost
