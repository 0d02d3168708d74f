import StyleHost.Text.Decomposition

/-!
# Canonical composition

Of the spellings that look alike, the composed one has as few characters as can be: every mark that
forms a character with the one it stands on is put together with it.

* `composite?` : the character that a pair composes to.
* `compose` : the composed spelling of a decomposed text.
* `normalize` : the composed spelling of a text.
-/

namespace StyleHost

namespace Text

open CodePoints

/-- A number for a pair of characters. -/
def pairKey (a b : Char) : Nat := a.toNat * 0x110000 + b.toNat

/-- The pairs that compose, with what they compose to, entered from the decompositions of a certain
length, given those of smaller lengths. -/
def enterComposites (found : Std.HashMap Nat Char) (decompositions : List (Char × List Char)) :
    Std.HashMap Nat Char :=
  decompositions.foldl (fun m e =>
    match e.2 with
    | [] => m
    | a :: rest =>
      let stem := rest.dropLast.foldl (fun a b => m.getD (pairKey a b) a) a
      m.insert (pairKey stem (rest.getLastD a)) e.1) found

/-- The pairs that compose, with what they compose to. -/
def composites : Thunk (Std.HashMap Nat Char) := Thunk.mk fun _ =>
  let uncomposed := rangesOf uncomposedTable
  let all := (decompositions.toList.map fun e => (Char.ofNat e.1, e.2)).filter fun e =>
    !inRanges uncomposed e.1
  [2, 3, 4].foldl (fun m n => enterComposites m (all.filter (·.2.length = n))) {}

/-- The syllable that a Hangul pair composes to: a leading letter and a vowel, or a syllable without
a final letter and a final letter. -/
def hangulComposite? (a b : Char) : Option Char :=
  if 0x1100 ≤ a.toNat ∧ a.toNat < 0x1113 ∧ 0x1161 ≤ b.toNat ∧ b.toNat < 0x1176 then
    some (Char.ofNat (0xAC00 + (a.toNat - 0x1100) * 588 + (b.toNat - 0x1161) * 28))
  else if 0xAC00 ≤ a.toNat ∧ a.toNat ≤ 0xD7A3 ∧ (a.toNat - 0xAC00) % 28 = 0 ∧
      0x11A7 < b.toNat ∧ b.toNat < 0x11C3 then
    some (Char.ofNat (a.toNat + (b.toNat - 0x11A7)))
  else none

/-- The character that a pair composes to. -/
def composite? (a b : Char) : Option Char :=
  (composites.get[pairKey a b]?).or (hangulComposite? a b)

/-- Composes what follows a character, given the marks in between that did not compose, the last of
them first. A mark of the same class or a higher one keeps a character from composing. -/
def composeAfter (start : Char) (between : List Char) : List Char → List Char
  | [] => start :: between.reverse
  | c :: cs =>
    let rank := combiningClass c
    let isFree := match between with
      | [] => true
      | mark :: _ => combiningClass mark < rank
    match if isFree then composite? start c else none with
    | some composite => composeAfter composite between cs
    | none =>
      if rank = 0 then start :: between.reverse ++ composeAfter c [] cs
      else composeAfter start (c :: between) cs

/-- The composed spelling of a decomposed text, whose marks are in canonical order. -/
def compose : List Char → List Char
  | [] => []
  | c :: cs => if combiningClass c = 0 then composeAfter c [] cs else c :: compose cs

/-- The composed spelling of a text. -/
def normalize (cs : List Char) : List Char := compose (decompose cs)

end Text

end StyleHost
