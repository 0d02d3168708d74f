import Mathlib.Data.List.Induction
import StyleHost.Proofs.Stylesheet.Unescape

/-!
# Entities replaced all at once

A value is unescaped in five rounds, one for each entity. The outcome is that of a single pass from
left to right that looks for all entities at every place, and that goes on behind an entity it has
met. So no character that stands for an entity is ever read as a part of another one.

* `replaceEach` : the single pass, for the entities of any table.
* `InOrder` : the tables that can be replaced one entity after the other.
* `foldl_replaceAll` : the rounds of such a table are one pass.
* `unescape_atOnce` : this holds of the predefined entities.
-/

namespace StyleHost

namespace Stylesheet

variable {c : Char} {cs word before rest : List Char} {p : Char × List Char}
  {table : List (Char × List Char)}

/-- A text with the entities of a table replaced in one pass from left to right. Where an entity
starts, its character takes its place, and the pass goes on behind it; every other character is
copied. -/
def replaceEach (table : List (Char × List Char)) : List Char → List Char
  | [] => []
  | c :: cs =>
    match table.find? fun p => p.2.isPrefixOf (c :: cs) with
    | some (x, entity) => x :: replaceEach table (cs.drop (entity.length - 1))
    | none => c :: replaceEach table cs
termination_by cs => cs.length
decreasing_by all_goals simp +arith

/-- A table that can be replaced one entity after the other: each stands for another character, and
that does not occur in a later entity. -/
def InOrder (table : List (Char × List Char)) : Prop :=
  table.Pairwise fun p q => p.1 ≠ q.1 ∧ p.1 ∉ q.2

/-! ### Entities in a text -/

/-- An entity starts at an ampersand. -/
theorem eq_ampersand_of_entity (hp : p ∈ predefined) (h : p.2 <+: c :: cs) : c = '&' := by
  obtain ⟨word, hword, -⟩ := predefined_word hp
  rw [hword, List.cons_prefix_cons] at h
  exact h.1.symm

theorem ampersand_mem (hp : p ∈ predefined) : '&' ∈ p.2 := by
  obtain ⟨word, hword, -⟩ := predefined_word hp
  exact hword ▸ List.mem_cons_self

/-- An entity ends before the next ampersand. -/
theorem prefix_of_append_ampersand (hp : p ∈ predefined)
    (h : p.2 <+: (c :: before) ++ '&' :: rest) : p.2 <+: c :: before := by
  obtain ⟨word, hword, hamp⟩ := predefined_word hp
  rcases List.prefix_or_prefix_of_prefix h (List.prefix_append (c :: before) _) with hle | hle
  · exact hle
  obtain ⟨tail, htail⟩ := hle
  rw [← htail, List.prefix_append_right_inj] at h
  cases tail with
  | nil => simp [← htail]
  | cons d tail =>
    rw [hword, List.cons_append, List.cons.injEq, (List.cons_prefix_cons.1 h).1] at htail
    exact absurd (htail.2 ▸ List.mem_append_right before List.mem_cons_self) hamp

/-! ### One place of the pass -/

/-- At most one entity starts at a place. -/
theorem find?_entity (hsub : table ⊆ predefined) (hp : p ∈ table) (rest : List Char) :
    (table.find? fun q => q.2.isPrefixOf (p.2 ++ rest)) = some p := by
  cases hfound : table.find? fun q => q.2.isPrefixOf (p.2 ++ rest) with
  | none =>
    have hnone := List.find?_eq_none.1 hfound p hp
    exact absurd (List.isPrefixOf_iff_prefix.2 (List.prefix_append p.2 rest)) hnone
  | some q =>
    have hq := hsub (List.mem_of_find?_eq_some hfound)
    have hstart := List.find?_some hfound
    rw [List.isPrefixOf_iff_prefix] at hstart
    by_cases hsame : p.1 = q.1
    · have hentity := lookup_predefined (hsub hp)
      rw [hsame, lookup_predefined hq] at hentity
      rw [Prod.ext hsame (Option.some.inj hentity).symm]
    · exact absurd hstart (predefined_apart hq (hsub hp) hsame)

theorem replaceEach_entity (hsub : table ⊆ predefined) (hp : p ∈ table) (rest : List Char) :
    replaceEach table (p.2 ++ rest) = p.1 :: replaceEach table rest := by
  obtain ⟨word, hword, -⟩ := predefined_word (hsub hp)
  have hfound := find?_entity hsub hp rest
  rw [hword, List.cons_append] at hfound ⊢
  rw [replaceEach, hfound]
  simp [hword]

theorem replaceEach_plain (h : ∀ p ∈ table, ¬p.2 <+: c :: cs) :
    replaceEach table (c :: cs) = c :: replaceEach table cs := by
  have hnone : (table.find? fun p => p.2.isPrefixOf (c :: cs)) = none :=
    List.find?_eq_none.2 fun p hp => mt List.isPrefixOf_iff_prefix.1 (h p hp)
  rw [replaceEach, hnone]

/-- A text is empty, or starts with an entity, or with a character where none starts. -/
theorem entity_induction {motive : List Char → Prop} (hsub : table ⊆ predefined)
    (nil : motive []) (entity : ∀ p ∈ table, ∀ rest, motive rest → motive (p.2 ++ rest))
    (plain : ∀ c cs, (∀ p ∈ table, ¬p.2 <+: c :: cs) → motive cs → motive (c :: cs))
    (cs : List Char) : motive cs := by
  induction cs using replaceEach.induct table with
  | case1 => exact nil
  | case2 c cs x found hfound ih =>
    have hp := List.mem_of_find?_eq_some hfound
    have hstart := List.find?_some hfound
    rw [List.isPrefixOf_iff_prefix] at hstart
    obtain ⟨rest, hrest⟩ := hstart
    obtain ⟨word, hword, -⟩ := predefined_word (hsub hp)
    have hdrop : cs.drop (found.length - 1) = rest := by
      simp only [hword, List.cons_append, List.cons.injEq] at hrest ⊢
      simp [← hrest.2]
    rw [← hrest]
    exact entity _ hp rest (hdrop ▸ ih)
  | case3 c cs hnone ih =>
    refine plain c cs (fun p hp hstart => ?_) ih
    exact List.find?_eq_none.1 hnone p hp (List.isPrefixOf_iff_prefix.2 hstart)

/-! ### What the pass leaves as it is -/

/-- Where no ampersand stands nothing is replaced. -/
theorem replaceEach_word (hsub : table ⊆ predefined) (h : '&' ∉ word) (rest : List Char) :
    replaceEach table (word ++ rest) = word ++ replaceEach table rest := by
  induction word with
  | nil => rfl
  | cons c word ih =>
    rw [List.mem_cons, not_or] at h
    have hplain : ∀ p ∈ table, ¬p.2 <+: c :: (word ++ rest) := fun p hp hstart =>
      h.1 (eq_ampersand_of_entity (hsub hp) hstart).symm
    rw [List.cons_append, replaceEach_plain hplain, ih h.2, List.cons_append]

/-- An entity outside of the table is copied. -/
theorem replaceEach_other (hsub : table ⊆ predefined) (hp : p ∈ predefined)
    (hother : ∀ q ∈ table, q.1 ≠ p.1) (rest : List Char) :
    replaceEach table (p.2 ++ rest) = p.2 ++ replaceEach table rest := by
  obtain ⟨word, hword, hamp⟩ := predefined_word hp
  have hplain : ∀ q ∈ table, ¬q.2 <+: p.2 ++ rest := fun q hq =>
    predefined_apart (hsub hq) hp (hother q hq).symm
  rw [hword, List.cons_append] at hplain ⊢
  rw [replaceEach_plain hplain, replaceEach_word hsub hamp, List.cons_append]

/-- A word without the characters that are put in stands at the start of the outcome only where it
stood before. -/
theorem prefix_of_replaceEach (hsub : table ⊆ predefined) (hnew : ∀ p ∈ table, p.1 ∉ word)
    (h : word <+: replaceEach table cs) : word <+: cs := by
  induction word generalizing cs with
  | nil => exact List.nil_prefix
  | cons d word ih =>
    cases cs with
    | nil => exact absurd h (by simp [replaceEach])
    | cons c cs =>
      by_cases hstart : ∃ p ∈ table, p.2 <+: c :: cs
      · obtain ⟨p, hp, rest, hrest⟩ := hstart
        rw [← hrest, replaceEach_entity hsub hp, List.cons_prefix_cons] at h
        exact absurd (List.mem_cons.2 (.inl h.1.symm)) (hnew p hp)
      · rw [replaceEach_plain (fun p hp hp' => hstart ⟨p, hp, hp'⟩), List.cons_prefix_cons] at h
        rw [List.cons_prefix_cons]
        exact ⟨h.1, ih (fun p hp hmem => hnew p hp (List.mem_cons_of_mem d hmem)) h.2⟩

/-- Without entities every character is copied. -/
theorem replaceEach_nil (cs : List Char) : replaceEach [] cs = cs := by
  induction cs with
  | nil => rw [replaceEach]
  | cons c cs ih =>
    have hplain : ∀ p ∈ ([] : List (Char × List Char)), ¬p.2 <+: c :: cs := by simp
    rw [replaceEach_plain hplain, ih]

/-- A pass over a text can be stopped in front of an ampersand and taken up there. -/
theorem replaceEach_append_ampersand (hsub : table ⊆ predefined) (before rest : List Char) :
    replaceEach table (before ++ '&' :: rest) =
      replaceEach table before ++ replaceEach table ('&' :: rest) := by
  induction before using entity_induction hsub with
  | nil => simp [replaceEach]
  | entity p hp before ih =>
    rw [List.append_assoc, replaceEach_entity hsub hp, ih, replaceEach_entity hsub hp,
      List.cons_append]
  | plain c before hplain ih =>
    have hnone : ∀ p ∈ table, ¬p.2 <+: (c :: before) ++ '&' :: rest := fun p hp hstart =>
      hplain p hp (prefix_of_append_ampersand (hsub hp) hstart)
    rw [List.cons_append] at hnone ⊢
    rw [replaceEach_plain hnone, ih, replaceEach_plain hplain, List.cons_append]

/-! ### Round after round -/

/-- **One round more**: an entity can be replaced after those of a table, if no character that they
stand for occurs in it. -/
theorem replaceAll_replaceEach (hsub : table ++ [p] ⊆ predefined)
    (hnew : ∀ q ∈ table, q.1 ≠ p.1 ∧ q.1 ∉ p.2) (cs : List Char) :
    replaceAll p.2 [p.1] (replaceEach table cs) = replaceEach (table ++ [p]) cs := by
  have hlast : p ∈ table ++ [p] := List.mem_append_right _ List.mem_cons_self
  have hleft {q : Char × List Char} (hq : q ∈ table) : q ∈ table ++ [p] := List.mem_append_left _ hq
  have hbefore : table ⊆ predefined := fun q hq => hsub (hleft hq)
  have hp := hsub hlast
  induction cs using entity_induction hsub with
  | nil => simp [replaceEach, replaceAll]
  | entity q hq rest ih =>
    rw [replaceEach_entity hsub hq, ← ih]
    rcases List.mem_append.1 hq with hq | hq
    · -- no entity starts at a character that an earlier one has left behind
      have hnone : ¬p.2 <+: q.1 :: replaceEach table rest := fun hstart =>
        (hnew q hq).2 (eq_ampersand_of_entity hp hstart ▸ ampersand_mem hp)
      rw [replaceEach_entity hbefore hq, replaceAll_of_not_prefix hnone]
    · have hother : ∀ q ∈ table, q.1 ≠ p.1 := fun q hq => (hnew q hq).1
      rw [List.mem_singleton.1 hq, replaceEach_other hbefore hp hother,
        replaceAll_append (List.ne_nil_of_mem (ampersand_mem hp)), List.singleton_append]
  | plain c cs hplain ih =>
    have hcopied := replaceEach_plain fun q hq => hplain q (hleft hq)
    have hnone : ¬p.2 <+: c :: replaceEach table cs := by
      rw [← hcopied]
      intro hstart
      exact hplain p hlast (prefix_of_replaceEach hbefore (fun q hq => (hnew q hq).2) hstart)
    rw [hcopied, replaceAll_of_not_prefix hnone, ih, replaceEach_plain hplain]

/-- **The rounds of a table are one pass.** -/
theorem foldl_replaceAll (hsub : table ⊆ predefined) (horder : InOrder table) (cs : List Char) :
    table.foldl (fun text p => replaceAll p.2 [p.1] text) cs = replaceEach table cs := by
  induction table using List.reverseRecOn with
  | nil => exact (replaceEach_nil cs).symm
  | append_singleton table p ih =>
    rw [InOrder, List.pairwise_append] at horder
    have hbefore : table ⊆ predefined := fun q hq => hsub (List.mem_append_left _ hq)
    have hnew : ∀ q ∈ table, q.1 ≠ p.1 ∧ q.1 ∉ p.2 := fun q hq =>
      horder.2.2 q hq p List.mem_cons_self
    rw [List.foldl_append, ih hbefore horder.1]
    exact replaceAll_replaceEach hsub hnew cs

/-- With the ampersand first, an entity that has just been made up would be replaced. -/
example : predefined.reverse.foldl (fun text p => replaceAll p.2 [p.1] text) "&amp;lt;".toList ≠
    replaceEach predefined "&amp;lt;".toList := by decide +kernel

/-- The ampersand, of which all entities are made, comes last. -/
theorem inOrder_predefined : InOrder predefined := by
  unfold InOrder
  decide

theorem unescape_eq (cs : List Char) : unescape cs = replaceEach predefined cs :=
  foldl_replaceAll (List.Subset.refl predefined) inOrder_predefined cs

/-- **Entities are replaced all at once.** The five rounds come to one pass from left to right, so
that nothing is lost when a value is escaped, and that every entity becomes its character whatever
stands before and after it. -/
theorem unescape_atOnce :
    (∀ cs, unescape cs = replaceEach predefined cs) ∧ (∀ cs, unescape (escape cs) = cs) ∧
      ∀ p ∈ predefined, ∀ before after,
        unescape (before ++ p.2 ++ after) = unescape before ++ p.1 :: unescape after := by
  refine ⟨unescape_eq, unescape_escape, fun p hp before after => ?_⟩
  have hsub := List.Subset.refl predefined
  obtain ⟨word, hword, -⟩ := predefined_word hp
  rw [unescape_eq, unescape_eq, unescape_eq, ← replaceEach_entity hsub hp, hword,
    List.append_assoc, List.cons_append]
  exact replaceEach_append_ampersand hsub before _

theorem unescape_atOnce_nested : ('&', "&amp;".toList) ∈ predefined ∧
    unescape ("&l".toList ++ "&amp;".toList ++ "lt;&amp".toList) = "&l&lt;&amp".toList := by
  have hp : ('&', "&amp;".toList) ∈ predefined := by decide
  exact ⟨hp, (unescape_atOnce.2.2 _ hp "&l".toList "lt;&amp".toList).trans (by decide +kernel)⟩

end Stylesheet

end StyleHost
