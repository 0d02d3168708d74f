/-!
# Collation elements

A text is compared by the elements of its characters. An element has three weights: the primary one
tells letters apart, the secondary one accents, the tertiary one case and other variants.

* `Weight` : a list of integers, compared lexicographically. Between two weights there is always
  room for more: `Weight.after` starts a chain right behind a weight, `Weight.before` one right in
  front of it, and `Weight.next` goes on with a chain. The empty weight says that the element has
  none at that level.
* `Element` : three weights and the case of the letter.
-/

namespace StyleHost

namespace Collation

/-- A weight at one level; empty if there is none. -/
abbrev Weight := List Int

namespace Weight

/-- The order of weights. -/
def compare (a b : Weight) : Ordering := List.compareLex Ord.compare a b

/-- The weight with its last number raised by `step`. -/
def shift (step : Int) : Weight → Weight
  | [] => []
  | [n] => [n + step]
  | n :: w => n :: shift step w

/-- The next weight of the chain that `w` belongs to. -/
def next (w : Weight) : Weight := w.shift 1

/-- The start of a chain right behind `w` and in front of the chains with lower numbers there. -/
def after (w : Weight) (chain : Nat) : Weight := w ++ [-(chain : Int), 0]

/-- The start of a chain right in front of `w` and behind the chains with lower numbers there. -/
def before (w : Weight) (chain : Nat) : Weight := w.shift (-1) ++ [(chain : Int), 0]

end Weight

/-- The case of a letter or of a group of letters. -/
inductive LetterCase where
  | lower
  | mixed
  | upper
deriving DecidableEq

/-- A collation element. -/
structure Element where
  primary : Weight
  secondary : Weight
  tertiary : Weight
  letterCase : LetterCase
deriving DecidableEq

/-- The weight of letters without an accent. -/
def commonSecondary : Weight := [1]

/-- The weight of letters without a variant. -/
def commonTertiary : Weight := [5]

/-- The weight behind those of all accents. -/
def lastSecondary : Weight := [0x1000]

/-- The weight behind those of all variants. -/
def lastTertiary : Weight := [0x3F]

/-- How much two neighbours of an order differ. -/
inductive Strength where
  | primary
  | secondary
  | tertiary
  | identical
deriving DecidableEq

/-- The rank of a strength, the strongest first. -/
def Strength.rank : Strength → Nat
  | primary => 0
  | secondary => 1
  | tertiary => 2
  | identical => 3

namespace Element

/-- The element that has no weight. -/
def ignorable : Element := ⟨[], [], [], .lower⟩

/-- A letter of its own. -/
def letter (primary : Weight) : Element := ⟨primary, commonSecondary, commonTertiary, .lower⟩

/-- The strongest difference that an element makes. -/
def strength (e : Element) : Strength :=
  if !e.primary.isEmpty then .primary
  else if !e.secondary.isEmpty then .secondary
  else if !e.tertiary.isEmpty then .tertiary
  else .identical

end Element

end Collation

end StyleHost
