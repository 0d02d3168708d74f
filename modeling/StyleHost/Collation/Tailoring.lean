import StyleHost.Collation.Root
import StyleHost.Collation.Rule

/-!
# Tailoring an order

Applies the rules of a language to a table of elements. The place of a rule is a list of elements;
a relation changes the last of them, so that the new weight follows the old one immediately, and
the text of the relation takes these elements.

* `Tailoring.apply` : the table after a list of rules.
-/

namespace StyleHost

namespace Collation

namespace Tailoring

/-- The present place of a tailoring. The flags say of which weights the last element already has
one of a chain that the last reset started. -/
structure Place where
  elements : List Element := []
  /-- The number of resets so far, which numbers the chains. -/
  resets : Nat := 0
  primaryChained : Bool := false
  secondaryChained : Bool := false
  tertiaryChained : Bool := false

namespace Place

/-- The place after a reset to some elements. -/
def reset (p : Place) (elements : List Element) : Place :=
  { elements := elements, resets := p.resets + 1 }

/-- The weight that follows `w` at the place. -/
def follow (p : Place) (isChained : Bool) (w : Weight) : Weight :=
  (if isChained then w else w.after p.resets).next

/-- The element that follows `e` at a strength. -/
def followElement (p : Place) (strength : Strength) (e : Element) : Element :=
  match strength with
  | .primary => .letter (p.follow p.primaryChained e.primary)
  | .secondary =>
    { e with
      secondary := p.follow p.secondaryChained e.secondary
      tertiary := commonTertiary }
  | .tertiary =>
    { e with
      tertiary := p.follow p.tertiaryChained
        (if e.tertiary.isEmpty then lastTertiary else e.tertiary) }
  | .identical => e

/-- The place with weights of a strength taken from a chain; those of weaker ones are new. -/
def chain (p : Place) : Strength → Place
  | .primary =>
    { p with primaryChained := true, secondaryChained := false, tertiaryChained := false }
  | .secondary => { p with secondaryChained := true, tertiaryChained := false }
  | .tertiary => { p with tertiaryChained := true }
  | .identical => p

end Place

/-- A list with its last member changed. -/
def mapLast {α : Type} (f : α → α) : List α → List α
  | [] => []
  | [x] => [f x]
  | x :: xs => x :: mapLast f xs

/-- The elements up to the last one that makes a difference of a strength. -/
def upToStrength (strength : Strength) (elements : List Element) : List Element :=
  match elements.reverse.dropWhile fun e => strength.rank < e.strength.rank with
  | [] => [.ignorable]
  | es => es.reverse

/-- The element just before `e` at a strength, at the start of a chain. -/
def precede (strength : Strength) (chain : Nat) (e : Element) : Element :=
  match strength with
  | .primary => .letter (e.primary.before chain)
  | .secondary => { e with secondary := e.secondary.before chain, tertiary := commonTertiary }
  | .tertiary => { e with tertiary := e.tertiary.before chain }
  | .identical => e

/-- The elements of a place that no text has. -/
def elementsOf : Position → List Element
  | .lastRegular => [.letter beforeIdeographs]
  | .lastPrimaryIgnorable => [⟨[], lastSecondary, commonTertiary, .lower⟩]
  | .lastSecondaryIgnorable => [.ignorable]
  | .lastTertiaryIgnorable => [.ignorable]

/-- The case of several letters taken together. -/
def joinCases : List LetterCase → LetterCase
  | [] => .lower
  | c :: cs => if cs.all (· = c) then c else .mixed

/-- Cases for `count` letters: one each, and all that are left for the last. -/
def distribute : Nat → List LetterCase → List LetterCase
  | 0, _ => []
  | 1, cases => [joinCases cases]
  | _ + 1, [] => []
  | count + 1, c :: cs => c :: distribute count cs

/-- The elements with the cases of letters put in. An accent is lower case; an element that makes
no more than a variant is upper case, so that it stays behind all letters. -/
def putCases : List LetterCase → List Element → List Element
  | _, [] => []
  | cases, e :: es =>
    match e.strength with
    | .primary =>
      match cases with
      | [] => { e with letterCase := .lower } :: putCases [] es
      | c :: cs => { e with letterCase := c } :: putCases cs es
    | .tertiary => { e with letterCase := .upper } :: putCases cases es
    | _ => { e with letterCase := .lower } :: putCases cases es

/-- The elements that a text takes at a place; their cases are those of its letters in the root
order. -/
def withCasesOf (text : List Char) (elements : List Element) : List Element :=
  let letters := (root.get.elements text).filter (!·.primary.isEmpty)
  let count := (elements.filter (!·.primary.isEmpty)).length
  putCases (distribute count (letters.map (·.letterCase))) elements

/-- The elements of a relation of a strength to the place. -/
def related (strength : Strength) (p : Place) : List Element :=
  mapLast (p.followElement strength)
    (if strength = .identical then p.elements else upToStrength strength p.elements)

/-- Applies one rule to a table at a place. -/
def step : Table × Place → Rule → Table × Place
  | (t, p), .reset anchor => let elements := t.elements anchor; (t, p.reset elements)
  | (t, p), .resetBefore strength anchor =>
    let elements := upToStrength strength (t.elements anchor)
    (t, (p.reset (mapLast (precede strength (p.resets + 1)) elements)).chain strength)
  | (t, p), .resetTo position => (t, p.reset (elementsOf position))
  | (t, p), .relation strength before text extension =>
    let place := related strength p
    let elements := withCasesOf text place ++ t.elements extension
    (t.insert (Text.decompose before) (Text.decompose text) elements,
      { p.chain strength with elements := place })
  | (t, p), .suppress characters => (characters.foldl (fun t c => t.suppress c) t, p)
  | (t, p), _ => (t, p)

/-- The table after a list of rules. -/
def apply (rules : List Rule) (t : Table) : Table := (rules.foldl step (t, {})).1

end Tailoring

end Collation

end StyleHost
