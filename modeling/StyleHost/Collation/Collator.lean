import StyleHost.Collation.Tailoring

/-!
# Collators

A collator compares two texts by their sort keys: first all primary weights, then all secondary,
then all tertiary. The rules of a language say how it departs from the root collation.

* `Collator.ofRules` : the collator of a language.
* `Collator.key` : the sort key of a text.
* `Collator.compare` : the order of two texts, which is that of their keys.
-/

namespace StyleHost

namespace Collation

/-- Which case comes first where a language or a sort key asks for it. -/
inductive CaseFirst where
  | lower
  | upper
deriving DecidableEq

/-- The weights of a text, level by level. -/
structure Key where
  primary : List Weight
  secondary : List Weight
  tertiary : List Weight
deriving DecidableEq

/-- The order of keys: a level decides only if all before it tie. -/
def Key.compare (a b : Key) : Ordering :=
  (List.compareLex Weight.compare a.primary b.primary).then
    ((List.compareLex Weight.compare a.secondary b.secondary).then
      (List.compareLex Weight.compare a.tertiary b.tertiary))

/-- A table of elements with the settings that a comparison needs. -/
structure Collator where
  table : Table
  caseFirst : Option CaseFirst
  /-- Accents count from the end of a text. -/
  backwards : Bool
  /-- Spaces and punctuation are ignored. -/
  ignoresPunctuation : Bool
  /-- The scripts whose letters precede those of all others, in their order. -/
  leading : List Script

namespace Collator

/-- The scripts that rules move to the front. -/
def leadingOf (rules : List Rule) : List Script :=
  (rules.findSome? fun
    | .reorder codes => some (codes.filterMap fun code => scripts.get.find? (·.code == code))
    | _ => none).getD []

/-- The collator of a language that states its rules. -/
def ofRules (rules : List Rule) : Collator where
  table := Tailoring.apply rules root.get
  caseFirst := if rules.contains .upperFirst then some .upper else none
  backwards := rules.contains .backwards
  ignoresPunctuation := rules.contains .ignorePunctuation
  leading := leadingOf rules

/-- Whether a primary weight is that of a space or of punctuation. -/
def isPunctuation : Weight → Bool
  | [] => false
  | p :: _ => firstSpace ≤ p && p ≤ lastPunctuation

/-- The elements without spaces and punctuation and without the marks on them; `after` tells
whether the element before was left out. -/
def withoutPunctuation (after : Bool) : List Element → List Element
  | [] => []
  | e :: es =>
    if isPunctuation e.primary then withoutPunctuation true es
    else if e.primary.isEmpty && after then withoutPunctuation true es
    else e :: withoutPunctuation (after && e.primary.isEmpty) es

/-- A primary weight with the letters of the leading scripts moved to just behind the digits. -/
def moved (leading : List Script) (w : Weight) : Weight :=
  match w with
  | [] => []
  | p :: _ =>
    match leading.findIdx? fun s => s.first ≤ p && p ≤ s.last with
    | some i => lastDigit :: (i : Int) :: w
    | none => w

/-- The rank of a case if one case comes first. Marks rank behind all letters. -/
def caseRank (first : CaseFirst) (e : Element) : Int :=
  let rank : Int := match e.letterCase with
    | .lower => 0
    | .mixed => 1
    | .upper => 2
  match first with
  | .lower => rank
  | .upper => if e.primary.isEmpty && e.secondary.isEmpty then 3 else 3 - rank

/-- The tertiary weight of an element, headed by its case if one case comes first. -/
def tertiaryOf (first : Option CaseFirst) (e : Element) : Weight :=
  match first with
  | some f => if e.tertiary.isEmpty then [] else caseRank f e :: e.tertiary
  | none => e.tertiary

/-- The elements of a text that count in a comparison. -/
def elements (c : Collator) (s : String) : List Element :=
  let es := c.table.elements s.toList
  if c.ignoresPunctuation then withoutPunctuation false es else es

/-- The weights of elements that have one. -/
def weights (f : Element → Weight) (es : List Element) : List Weight :=
  (es.map f).filter (!·.isEmpty)

/-- The sort key of a text. -/
def key (c : Collator) (s : String) : Key :=
  let es := c.elements s
  let accents := weights (·.secondary) es
  { primary := weights (fun e => moved c.leading e.primary) es
    secondary := if c.backwards then accents.reverse else accents
    tertiary := weights (tertiaryOf c.caseFirst) es }

/-- The order of two texts. -/
def compare (c : Collator) (a b : String) : Ordering := (c.key a).compare (c.key b)

end Collator

end Collation

end StyleHost
