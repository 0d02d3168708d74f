import Mathlib.Tactic.SplitIfs
import StyleHost.Stylesheet.Attributes

/-!
# Values without their entities

The five characters that markup is made of have an entity each. They are replaced one entity after
the other, the ampersand last: until then every ampersand starts an entity, so that no replacement
makes up a new one.

* `escape` : a text with the five characters written as entities.
* `unescape_escape` : nothing is lost.
* `not_mem_escape` : what is left can stand between quotes.
-/

namespace StyleHost

namespace Stylesheet

variable {c x : Char} {cs word pattern entity rest : List Char}

/-- The characters with an entity, in the order in which the entities are replaced. -/
def predefined : List (Char × List Char) :=
  [('<', "&lt;".toList), ('>', "&gt;".toList), ('"', "&quot;".toList), ('\'', "&apos;".toList),
    ('&', "&amp;".toList)]

/-- A character as it is written in a value. -/
def escapeChar (c : Char) : List Char := (predefined.lookup c).getD [c]

/-- A text with the five characters written as entities. -/
def escape (cs : List Char) : List Char := cs.flatMap escapeChar

/-! ### Entities -/

theorem lookup_predefined (h : (x, entity) ∈ predefined) : predefined.lookup x = some entity := by
  have hall : ∀ p ∈ predefined, predefined.lookup p.1 = some p.2 := by decide
  exact hall _ h

/-- An entity is an ampersand and a word. -/
theorem predefined_word (h : (x, entity) ∈ predefined) :
    ∃ word, entity = '&' :: word ∧ '&' ∉ word := by
  have hall : ∀ p ∈ predefined, p.2 = '&' :: p.2.tail ∧ '&' ∉ p.2.tail := by decide
  exact ⟨_, hall _ h⟩

/-- No entity is the start of another one. -/
theorem predefined_apart {y : Char} {other : List Char} (h : (x, entity) ∈ predefined)
    (hother : (y, other) ∈ predefined) (hne : y ≠ x) : ¬entity <+: other ++ rest := by
  have hall : ∀ p ∈ predefined, ∀ q ∈ predefined, q.1 ≠ p.1 → ¬p.2 <+: q.2 ∧ ¬q.2 <+: p.2 := by
    decide
  obtain ⟨hleft, hright⟩ := hall _ h _ hother hne
  intro hstart
  rcases List.prefix_or_prefix_of_prefix hstart (List.prefix_append other rest) with hle | hle
  · exact hleft hle
  · exact hright hle

theorem escapeChar_predefined (h : (x, entity) ∈ predefined) : escapeChar x = entity := by
  rw [escapeChar, lookup_predefined h, Option.getD_some]

theorem escapeChar_cases (c : Char) :
    (c, escapeChar c) ∈ predefined ∨ escapeChar c = [c] ∧ c ∉ predefined.map Prod.fst := by
  cases h : predefined.lookup c with
  | none =>
    refine .inr ⟨by rw [escapeChar, h, Option.getD_none], ?_⟩
    intro hmem
    obtain ⟨⟨_, entity⟩, hp, rfl⟩ := List.mem_map.1 hmem
    rw [lookup_predefined hp] at h
    cases h
  | some entity =>
    obtain ⟨l₁, l₂, hsplit, -⟩ := List.lookup_eq_some_iff.1 h
    refine .inl ?_
    rw [escapeChar, h, Option.getD_some, hsplit]
    exact List.mem_append_right _ List.mem_cons_self

/-! ### Replacing one entity -/

theorem replaceAll_of_not_prefix (h : ¬pattern <+: c :: cs) (replacement : List Char) :
    replaceAll pattern replacement (c :: cs) = c :: replaceAll pattern replacement cs := by
  rw [replaceAll, if_neg (mt List.isPrefixOf_iff_prefix.1 h)]

theorem replaceAll_append (h : pattern ≠ []) (replacement rest : List Char) :
    replaceAll pattern replacement (pattern ++ rest) =
      replacement ++ replaceAll pattern replacement rest := by
  cases pattern with
  | nil => exact absurd rfl h
  | cons c word =>
    have hprefix : (c :: word).isPrefixOf (c :: (word ++ rest)) = true :=
      List.isPrefixOf_iff_prefix.2 (List.prefix_append (c :: word) rest)
    rw [List.cons_append, replaceAll, if_pos hprefix, List.length_cons, Nat.add_sub_cancel,
      List.drop_left]

/-- Where no ampersand stands there is nothing to replace. -/
theorem replaceAll_word (hentity : (x, entity) ∈ predefined) (h : '&' ∉ word)
    (replacement rest : List Char) : replaceAll entity replacement (word ++ rest) =
      word ++ replaceAll entity replacement rest := by
  obtain ⟨inner, rfl, -⟩ := predefined_word hentity
  induction word with
  | nil => rfl
  | cons c word ih =>
    rw [List.mem_cons, not_or] at h
    rw [List.cons_append, replaceAll_of_not_prefix, ih h.2, List.cons_append]
    exact fun hstart => h.1 (List.cons_prefix_cons.1 hstart).1

/-- A character as it is written while those in `done` have no entity any more. -/
def escapeBut (done : List Char) (c : Char) : List Char := if c ∈ done then [c] else escapeChar c

/-- A character that is written in another way than by the entity stays as it is. -/
theorem replaceAll_escapeBut {done : List Char} (hentity : (x, entity) ∈ predefined)
    (hdone : '&' ∉ done) (hne : c ≠ x) (rest : List Char) :
    replaceAll entity [x] (escapeBut done c ++ rest) =
      escapeBut done c ++ replaceAll entity [x] rest := by
  have hself (hc : c ≠ '&') := replaceAll_word hentity (mt List.mem_singleton.1 hc.symm) [x] rest
  rw [escapeBut]
  split_ifs with hmem
  · exact hself (ne_of_mem_of_not_mem hmem hdone)
  rcases escapeChar_cases c with hother | ⟨hplain, hc⟩
  · -- its ampersand starts another entity, and there is none after that
    have hapart : ¬entity <+: escapeChar c ++ rest := predefined_apart hentity hother hne
    obtain ⟨word, hword, hamp⟩ := predefined_word hother
    rw [hword, List.cons_append] at hapart
    rw [hword, List.cons_append, replaceAll_of_not_prefix hapart, replaceAll_word hentity hamp,
      List.cons_append]
  · rw [hplain]
    refine hself ?_
    rintro rfl
    exact hc (by decide)

/-- **One entity is replaced**, everywhere and nothing else. -/
theorem replaceAll_flatMap {done : List Char} (hentity : (x, entity) ∈ predefined)
    (hdone : '&' ∉ done) (hx : x ∉ done) (cs : List Char) :
    replaceAll entity [x] (cs.flatMap (escapeBut done)) = cs.flatMap (escapeBut (x :: done)) := by
  induction cs with
  | nil => rw [List.flatMap_nil, List.flatMap_nil, replaceAll]
  | cons c cs ih =>
    rw [List.flatMap_cons, List.flatMap_cons]
    by_cases hc : c = x
    · subst hc
      have hnil : entity ≠ [] := by
        obtain ⟨word, rfl, -⟩ := predefined_word hentity
        exact List.cons_ne_nil _ _
      rw [escapeBut, if_neg hx, escapeChar_predefined hentity, replaceAll_append hnil, ih,
        escapeBut, if_pos List.mem_cons_self]
    · have hsame : escapeBut (x :: done) c = escapeBut done c := by
        simp only [escapeBut, List.mem_cons, hc, false_or]
      rw [replaceAll_escapeBut hentity hdone hc, ih, hsame]

/-! ### Replacing all of them -/

/-- **Nothing is lost** when a value is escaped. -/
theorem unescape_escape (cs : List Char) : unescape (escape cs) = cs := by
  have hnone : escapeBut [] = escapeChar := funext fun c => if_neg List.not_mem_nil
  have hall : escapeBut ['&', '\'', '"', '>', '<'] = ([·]) := by
    funext c
    rw [escapeBut]
    split_ifs with hdone
    · rfl
    · rcases escapeChar_cases c with hentity | ⟨hplain, -⟩
      · have hmem : c ∈ predefined.map Prod.fst := List.mem_map.2 ⟨_, hentity, rfl⟩
        exact absurd (List.mem_reverse.2 hmem) hdone
      · exact hplain
  rw [unescape, escape, ← hnone, replaceAll_flatMap (by decide) (by decide) (by decide),
    replaceAll_flatMap (by decide) (by decide) (by decide),
    replaceAll_flatMap (by decide) (by decide) (by decide),
    replaceAll_flatMap (by decide) (by decide) (by decide),
    replaceAll_flatMap (by decide) (by decide) (by decide), hall, List.flatMap_singleton']

/-- What is left is free of the other characters of markup, so that it can stand between quotes of
either kind. -/
theorem not_mem_escape (hx : x ≠ '&') (hmarkup : x ∈ predefined.map Prod.fst) (cs : List Char) :
    x ∉ escape cs := by
  intro hmem
  obtain ⟨c, -, hc⟩ := List.mem_flatMap.1 hmem
  rcases escapeChar_cases c with hentity | ⟨hplain, hnone⟩
  · have hall : ∀ p ∈ predefined, ∀ q ∈ predefined, q.1 ≠ '&' → q.1 ∉ p.2 := by decide
    obtain ⟨q, hq, rfl⟩ := List.mem_map.1 hmarkup
    exact hall _ hentity q hq hx hc
  · rw [hplain, List.mem_singleton] at hc
    exact hnone (hc ▸ hmarkup)

theorem escape_ne_nil (h : cs ≠ []) : escape cs ≠ [] := by
  obtain ⟨c, rest, rfl⟩ := List.exists_cons_of_ne_nil h
  rw [escape, List.flatMap_cons]
  refine List.append_ne_nil_of_left_ne_nil ?_ _
  rcases escapeChar_cases c with hentity | ⟨hplain, -⟩
  · obtain ⟨word, hword, -⟩ := predefined_word hentity
    rw [hword]
    exact List.cons_ne_nil _ _
  · rw [hplain]
    exact List.cons_ne_nil _ _

end Stylesheet

end StyleHost
