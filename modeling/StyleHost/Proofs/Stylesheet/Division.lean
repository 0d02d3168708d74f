import StyleHost.Proofs.Stylesheet.Attributes
import StyleHost.Proofs.Text.Trim

/-!
# How far pseudo-attributes go

A text can be divided into blanks, entries with the blanks after them, and a tail. It is read entry
by entry, for as long as what is left starts with one.

* `Attributes.Entry` : an entry as it stands in a text, with the blanks after it.
* `Attributes.Division` : a way to divide a text.
* `Attributes.attribute?_eq_some_iff` : one entry is read just where one stands.
* `Attributes.Division.parse_eq` : the entries of a division are read, and then its tail.
* `Attributes.parse_divided` : what is read is the longest list of entries that a text starts with.

A division may leave blanks to its tail that could as well go with the entry in front of them. Such
blanks are passed over where it is asked whether an entry follows.
-/

namespace StyleHost

namespace Stylesheet

open Text

namespace Attributes

variable {c : Char} {cs before name value rest tail gap content : List Char} {a : Attribute}

/-- An entry as it stands in a text, with the blanks after it. -/
structure Entry extends Attribute where
  spelling : Spelling
  gap : List Char
  isName : IsName name
  quote_not_mem : spelling.quote ∉ value
  gap_blank : ∀ c ∈ gap, isBlank c = true

/-- The text of an entry and of the blanks after it. -/
def Entry.text (e : Entry) : List Char := e.spelling.write e.toAttribute ++ e.gap

/-- An entry stands at the start of a text. -/
def StartsWithEntry (cs : List Char) : Prop := ∃ e : Entry, e.text <+: cs

/-- A way to divide a text: blanks, entries, and a tail of any kind. -/
structure Division (content : List Char) where
  leading : List Char
  entries : List Entry
  tail : List Char
  leading_blank : ∀ c ∈ leading, isBlank c = true
  content_eq : content = leading ++ (entries.flatMap Entry.text ++ tail)

/-- The names and values of the entries. -/
def Division.attributes (d : Division content) : List Attribute := d.entries.map Entry.toAttribute

/-- A text that starts with no blank. -/
def StartsPlain (cs : List Char) : Prop := ∀ c ∈ cs.head?, isBlank c = false

/-! ### Blanks at the start -/

theorem StartsPlain.dropWhile_eq (h : StartsPlain cs) : cs.dropWhile isBlank = cs := by
  cases cs with
  | nil => rfl
  | cons c cs => exact dropWhile_cons (h c rfl)

theorem startsPlain_dropWhile (cs : List Char) : StartsPlain (cs.dropWhile isBlank) := by
  intro c hc
  have hfirst := List.head?_dropWhile_not isBlank cs
  rw [Option.mem_def.1 hc] at hfirst
  exact hfirst

/-- Only blanks can come before a text that starts with none. -/
theorem StartsPlain.eq_nil_of_append (h : StartsPlain (gap ++ rest))
    (hgap : ∀ c ∈ gap, isBlank c = true) : gap = [] := by
  cases gap with
  | nil => rfl
  | cons c gap =>
    have hplain := h c rfl
    rw [hgap c List.mem_cons_self] at hplain
    cases hplain

/-! ### The parts of an entry -/

/-- A text is cut at the first of some character. -/
theorem eq_upTo {d : Char} (h : cs.dropWhile (· != c) = d :: rest) :
    cs = cs.takeWhile (· != c) ++ c :: rest ∧ c ∉ cs.takeWhile (· != c) := by
  have hfirst := List.head?_dropWhile_not (· != c) cs
  have hd : d = c := by simpa [h] using hfirst
  refine ⟨?_, fun hmem => by simpa using List.mem_takeWhile_imp hmem⟩
  rw [← hd, ← h, hd, List.takeWhile_append_dropWhile]

/-- A value is read only from between two quotes of one kind. -/
theorem exists_quote_of_value? (h : value? cs = some (value, rest)) :
    ∃ q, isQuote q = true ∧ q ∉ value ∧ cs = q :: (value ++ q :: rest) := by
  cases cs with
  | nil => cases h
  | cons q body =>
    rw [value?] at h
    split at h
    · rename_i hq
      split at h
      · cases h
      · rename_i hbody
        obtain ⟨hcut, hnot⟩ := eq_upTo hbody
        cases h
        exact ⟨q, hq, hnot, congrArg (q :: ·) hcut⟩
    · cases h

/-- A name is read only where a word stands among blanks. -/
theorem isName_of_name? (h : name? before = some name) (hequals : '=' ∉ before) :
    IsName name ∧ ∃ leading gap, before = leading ++ (name ++ gap) ∧
      (∀ c ∈ leading, isBlank c = true) ∧ ∀ c ∈ gap, isBlank c = true := by
  obtain ⟨leading, gap, hbefore, hleading, hgap⟩ := exists_append_trimList isBlank before
  rw [name?] at h
  split_ifs at h with hword
  rw [Option.some.inj h] at hbefore hword
  rw [Bool.or_eq_true, not_or, List.isEmpty_iff, List.any_eq_true] at hword
  refine ⟨⟨hword.1, fun c hc => ?_, fun hmem => hequals ?_⟩, leading, gap, hbefore, hleading, hgap⟩
  · exact Bool.not_eq_true _ |>.mp fun hblank => hword.2 ⟨c, hc, hblank⟩
  · rw [hbefore]
    simp [hmem]

/-! ### One entry -/

theorem attribute?_text (e : Entry) (rest : List Char) :
    attribute? (e.text ++ rest) = some (e.toAttribute, rest.dropWhile isBlank) := by
  rw [Entry.text, List.append_assoc, attribute?_write e.spelling e.isName e.quote_not_mem,
    dropWhile_blanks e.gap_blank]

/-- **One entry is read just where one stands**, with the blanks after it. -/
theorem attribute?_eq_some_iff (hstart : StartsPlain cs) : attribute? cs = some (a, rest) ↔
    ∃ e : Entry, e.toAttribute = a ∧ cs = e.text ++ rest ∧ StartsPlain rest := by
  constructor
  · intro h
    rw [attribute?] at h
    split at h
    · cases h
    rename_i after hafter
    simp only [Option.bind_eq_bind, Option.pure_def, Option.bind_eq_some_iff, Prod.exists] at h
    obtain ⟨name, hname, value, close, hvalue, hread⟩ := h
    cases hread
    obtain ⟨hcut, hequals⟩ := eq_upTo hafter
    obtain ⟨hname, leading, before, hbefore, hleading, hblank⟩ := isName_of_name? hname hequals
    obtain ⟨q, hq, hvalue, hbody⟩ := exists_quote_of_value? hvalue
    -- the text starts with no blank, so that its name is the first thing in it
    have hnil : leading = [] := by
      rw [hcut, hbefore, List.append_assoc] at hstart
      exact hstart.eq_nil_of_append hleading
    let e : Entry := ⟨⟨name, value⟩, ⟨before, after.takeWhile isBlank, q, hblank,
      fun c => List.mem_takeWhile_imp, hq⟩, close.takeWhile isBlank, hname, hvalue,
      fun c => List.mem_takeWhile_imp⟩
    refine ⟨e, rfl, ?_, startsPlain_dropWhile close⟩
    calc cs = name ++ before ++ '=' :: after := by rw [hcut, hbefore, hnil, List.nil_append]
      _ = name ++ before ++ '=' :: (after.takeWhile isBlank ++ q :: (value ++ q :: close)) := by
        rw [← hbody, List.takeWhile_append_dropWhile]
      _ = e.spelling.write e.toAttribute ++ close := by simp [e, Spelling.write]
      _ = e.text ++ close.dropWhile isBlank := by
        rw [Entry.text, List.append_assoc, List.takeWhile_append_dropWhile]
  · rintro ⟨e, rfl, rfl, hrest⟩
    rw [attribute?_text, hrest.dropWhile_eq]

theorem attribute?_eq_none_iff (hstart : StartsPlain cs) :
    attribute? cs = none ↔ ¬StartsWithEntry cs := by
  constructor
  · rintro h ⟨e, rest, rfl⟩
    rw [attribute?_text] at h
    cases h
  · intro h
    cases hread : attribute? cs with
    | none => rfl
    | some read =>
      obtain ⟨e, -, hcs, -⟩ := (attribute?_eq_some_iff hstart).1 hread
      exact absurd ⟨e, read.2, hcs.symm⟩ h

/-! ### All entries -/

/-- Nothing is read just if there is no entry, blanks at the start aside. -/
theorem parse_eq_nil_iff : parse tail = [] ↔ ¬StartsWithEntry (tail.dropWhile isBlank) := by
  rw [← attribute?_eq_none_iff (startsPlain_dropWhile tail), parse]
  cases hread : attribute? (tail.dropWhile isBlank) with
  | none => simp [entries_eq_nil hread]
  | some read => simp [entries_eq_cons hread]

/-- However a text is divided, its entries are read first, and then the tail by itself. -/
theorem Division.parse_eq (d : Division content) :
    parse content = d.attributes ++ parse d.tail := by
  obtain ⟨leading, es, tail, hleading, rfl⟩ := d
  change parse (leading ++ (es.flatMap Entry.text ++ tail)) = es.map Entry.toAttribute ++ parse tail
  induction es generalizing leading with
  | nil => simp [parse, dropWhile_blanks hleading]
  | cons e es ih =>
    have hassoc : leading ++ ((e :: es).flatMap Entry.text ++ tail) =
        leading ++ e.spelling.write e.toAttribute ++
          (e.gap ++ (es.flatMap Entry.text ++ tail)) := by
      simp [Entry.text]
    rw [hassoc, parse_write hleading e.spelling e.isName e.quote_not_mem, ih e.gap e.gap_blank,
      List.map_cons, List.cons_append]

/-- A text that starts with no blank is a row of entries and a tail that starts with neither a blank
nor an entry. -/
theorem exists_entries (hstart : StartsPlain cs) : ∃ (es : List Entry) (tail : List Char),
    cs = es.flatMap Entry.text ++ tail ∧ StartsPlain tail ∧ ¬StartsWithEntry tail := by
  induction cs using entries.induct with
  | case1 cs a rest hread ih =>
    obtain ⟨e, -, hcs, hrest⟩ := (attribute?_eq_some_iff hstart).1 hread
    obtain ⟨es, tail, htail, hend⟩ := ih hrest
    refine ⟨e :: es, tail, ?_, hend⟩
    rw [hcs, htail, List.flatMap_cons, List.append_assoc]
  | case2 cs hread =>
    exact ⟨[], cs, rfl, hstart, (attribute?_eq_none_iff hstart).1 hread⟩

/-- Every text can be divided up to a tail that starts with neither a blank nor an entry. -/
theorem exists_division (content : List Char) :
    ∃ d : Division content, StartsPlain d.tail ∧ ¬StartsWithEntry d.tail := by
  obtain ⟨es, tail, htail, hend⟩ := exists_entries (startsPlain_dropWhile content)
  refine ⟨⟨content.takeWhile isBlank, es, tail, fun c => List.mem_takeWhile_imp, ?_⟩, hend⟩
  rw [← htail, List.takeWhile_append_dropWhile]

/-- **What is read is the longest list of entries that a text starts with.** The entries of every
division are the first that are read, and they are all of them just if no entry follows. The blanks
in front of a tail do not count, as they could belong to the entry before it. Every text has a
division of which the tail starts with neither a blank nor an entry. -/
theorem parse_divided (content : List Char) :
    (∀ d : Division content, d.attributes <+: parse content ∧
      (parse content = d.attributes ↔ ¬StartsWithEntry (d.tail.dropWhile isBlank))) ∧
    ∃ d : Division content, parse content = d.attributes ∧ StartsPlain d.tail ∧
      ¬StartsWithEntry d.tail := by
  have hall (d : Division content) : parse content = d.attributes ↔
      ¬StartsWithEntry (d.tail.dropWhile isBlank) := by
    rw [d.parse_eq, List.append_right_eq_self, parse_eq_nil_iff]
  refine ⟨fun d => ⟨⟨parse d.tail, d.parse_eq.symm⟩, hall d⟩, ?_⟩
  obtain ⟨d, hplain, hend⟩ := exists_division content
  refine ⟨d, (hall d).2 ?_, hplain, hend⟩
  rwa [hplain.dropWhile_eq]

/-- Two entries with no blank between them, each with the other's quote in its value, and a third
one that is not closed. -/
theorem parse_divided_unclosed :
    ∃ d : Division "\t a='=\"é'\u00E9\u2003= \"'\"\u00A0b='c=\"d\"".toList,
      ¬StartsWithEntry (d.tail.dropWhile isBlank) ∧
      d.attributes = [⟨['a'], ['=', '"', 'é']⟩, ⟨['é'], ['\'']⟩] ∧
      parse "\t a='=\"é'\u00E9\u2003= \"'\"\u00A0b='c=\"d\"".toList = d.attributes := by
  have hend : ¬StartsWithEntry ("b='c=\"d\"".toList.dropWhile isBlank) :=
    parse_eq_nil_iff.1 (by decide +kernel)
  refine ⟨⟨['\t', ' '],
    [⟨⟨['a'], ['=', '"', 'é']⟩, ⟨[], [], '\'', nofun, nofun, by decide⟩, [],
      .of_all (by decide) (by decide), by decide, nofun⟩,
    ⟨⟨['é'], ['\'']⟩, ⟨['\u2003'], [' '], '"', List.all_eq_true.1 (by decide),
      List.all_eq_true.1 (by decide), by decide⟩, ['\u00A0'], .of_all (by decide) (by decide),
      by decide, List.all_eq_true.1 (by decide)⟩],
    "b='c=\"d\"".toList, List.all_eq_true.1 (by decide), by decide⟩, hend, rfl, ?_⟩
  exact ((parse_divided _).1 _).2.2 hend

end Attributes

end Stylesheet

end StyleHost
