import StyleHost.Stylesheet.Attributes

/-!
# Pseudo-attributes read back as they were written

An entry can be spelled in many ways: any blanks may stand around its equals sign, before it and
after it, and its value is between quotes of one of two kinds. It is read back whatever the
spelling, and what follows it is read as if it stood alone.

* `Attributes.Spelling` : a way to spell an entry.
* `Attributes.parse_write` : the first of several entries.
* `Attributes.parse_two` : two entries.
-/

namespace StyleHost

namespace Stylesheet

open Text

namespace Attributes

variable {c : Char} {cs name rest gap : List Char} {a : Attribute}

/-- A way to spell an entry: the blanks around its equals sign, and the quotes of its value. -/
structure Spelling where
  before : List Char
  after : List Char
  quote : Char
  before_blank : ∀ c ∈ before, isBlank c = true
  after_blank : ∀ c ∈ after, isBlank c = true
  quote_isQuote : isQuote quote = true

/-- The text of an entry. -/
def Spelling.write (s : Spelling) (a : Attribute) : List Char :=
  a.name ++ s.before ++ '=' :: (s.after ++ s.quote :: (a.value ++ [s.quote]))

/-- A word that can name an entry. -/
structure IsName (name : List Char) : Prop where
  ne_nil : name ≠ []
  not_blank : ∀ c ∈ name, isBlank c = false
  not_equals : '=' ∉ name

theorem IsName.of_all (hne : name ≠ []) (h : name.all fun c => !isBlank c && c != '=') :
    IsName name := by
  rw [List.all_eq_true] at h
  refine ⟨hne, fun c hc => ?_, fun hequals => absurd (h _ hequals) (by decide)⟩
  have hplain := h c hc
  rw [Bool.and_eq_true, Bool.not_eq_true'] at hplain
  exact hplain.1

/-! ### Up to a character -/

theorem takeWhile_upTo (h : c ∉ cs) : (cs ++ c :: rest).takeWhile (· != c) = cs := by
  rw [List.takeWhile_append_of_pos]
  · simp
  · intro d hd
    rw [bne_iff_ne]
    rintro rfl
    exact h hd

theorem dropWhile_upTo (h : c ∉ cs) : (cs ++ c :: rest).dropWhile (· != c) = c :: rest := by
  rw [List.dropWhile_append_of_pos]
  · simp
  · intro d hd
    rw [bne_iff_ne]
    rintro rfl
    exact h hd

theorem dropWhile_blanks (h : ∀ c ∈ gap, isBlank c = true) (rest : List Char) :
    (gap ++ rest).dropWhile isBlank = rest.dropWhile isBlank :=
  List.dropWhile_append_of_pos h

theorem dropWhile_cons (h : isBlank c = false) : (c :: rest).dropWhile isBlank = c :: rest :=
  List.dropWhile_cons_of_neg (Bool.not_eq_true _ |>.mpr h)

/-! ### One entry -/

theorem IsName.dropWhile_eq (h : IsName name) (rest : List Char) :
    (name ++ rest).dropWhile isBlank = name ++ rest := by
  cases name with
  | nil => exact absurd rfl h.ne_nil
  | cons c name => exact dropWhile_cons (h.not_blank c List.mem_cons_self)

theorem IsName.reverse (h : IsName name) : IsName name.reverse where
  ne_nil := mt List.reverse_eq_nil_iff.1 h.ne_nil
  not_blank c hc := h.not_blank c (List.mem_reverse.1 hc)
  not_equals := mt List.mem_reverse.1 h.not_equals

theorem name?_eq (h : IsName name) (hgap : ∀ c ∈ gap, isBlank c = true) :
    name? (name ++ gap) = some name := by
  have htrim : trimList isBlank (name ++ gap) = name := by
    have hgap' : ∀ c ∈ gap.reverse, isBlank c = true := fun c hc => hgap c (List.mem_reverse.1 hc)
    have hend := h.reverse.dropWhile_eq []
    rw [List.append_nil] at hend
    rw [trimList, h.dropWhile_eq, List.reverse_append, dropWhile_blanks hgap', hend,
      List.reverse_reverse]
  have hplain : (name.isEmpty || name.any isBlank) = false := by
    rw [Bool.or_eq_false_iff, List.isEmpty_eq_false_iff, List.any_eq_false]
    exact ⟨h.ne_nil, fun c hc => Bool.not_eq_true _ |>.mpr (h.not_blank c hc)⟩
  rw [name?, htrim]
  exact if_neg (by rw [hplain]; exact Bool.false_ne_true)

theorem value?_eq {q : Char} {value : List Char} (hq : isQuote q = true) (h : q ∉ value) :
    value? (q :: (value ++ q :: rest)) = some (value, rest) := by
  rw [value?, if_pos hq, dropWhile_upTo h, takeWhile_upTo h]

theorem isBlank_quote {q : Char} (h : isQuote q = true) : isBlank q = false := by
  rw [isQuote, Bool.or_eq_true, beq_iff_eq, beq_iff_eq] at h
  rcases h with rfl | rfl <;> decide

/-- **An entry is read back**, and the blanks after it are left out. -/
theorem attribute?_write (s : Spelling) (hname : IsName a.name) (hvalue : s.quote ∉ a.value) :
    attribute? (s.write a ++ rest) = some (a, rest.dropWhile isBlank) := by
  have hequals : '=' ∉ a.name ++ s.before := by
    rw [List.mem_append, not_or]
    exact ⟨hname.not_equals, fun h => absurd (s.before_blank _ h) (by decide)⟩
  have hquote : (s.quote :: (a.value ++ s.quote :: rest)).dropWhile isBlank = _ :=
    dropWhile_cons (isBlank_quote s.quote_isQuote)
  have hsplit : s.write a ++ rest = (a.name ++ s.before) ++
      '=' :: (s.after ++ s.quote :: (a.value ++ s.quote :: rest)) := by
    simp only [Spelling.write, List.append_assoc, List.cons_append, List.nil_append]
  rw [hsplit, attribute?, dropWhile_upTo hequals, takeWhile_upTo hequals]
  dsimp only
  rw [name?_eq hname s.before_blank, dropWhile_blanks s.after_blank, hquote, Option.bind_eq_bind,
    Option.bind_some, value?_eq s.quote_isQuote hvalue]
  rfl

/-! ### All entries -/

theorem entries_eq_cons (h : attribute? cs = some (a, rest)) : entries cs = a :: entries rest := by
  rw [entries]
  split
  · rename_i a' rest' h'
    rw [h, Option.some_inj, Prod.mk.injEq] at h'
    rw [h'.1, h'.2]
  · rename_i h'
    rw [h] at h'
    cases h'

theorem entries_eq_nil (h : attribute? cs = none) : entries cs = [] := by
  rw [entries]
  split
  · rename_i h'
    rw [h] at h'
    cases h'
  · rfl

/-- **Reading several entries**: the first is read back, and the others are read from the rest. -/
theorem parse_write (hgap : ∀ c ∈ gap, isBlank c = true) (s : Spelling) (hname : IsName a.name)
    (hvalue : s.quote ∉ a.value) : parse (gap ++ s.write a ++ rest) = a :: parse rest := by
  have hstart : (s.write a ++ rest).dropWhile isBlank = s.write a ++ rest := by
    rw [Spelling.write, List.append_assoc, List.append_assoc]
    exact hname.dropWhile_eq _
  rw [parse, List.append_assoc, dropWhile_blanks hgap, hstart,
    entries_eq_cons (attribute?_write s hname hvalue), parse]

/-- There is no entry among blanks. -/
theorem parse_blank (hgap : ∀ c ∈ gap, isBlank c = true) : parse gap = [] := by
  have hnil := dropWhile_blanks hgap []
  rw [List.append_nil, List.dropWhile_nil] at hnil
  rw [parse, hnil]
  exact entries_eq_nil rfl

/-- Two entries and nothing else. -/
theorem parse_two {leading between trailing : List Char} {a₁ a₂ : Attribute} {s₁ s₂ : Spelling}
    (hleading : ∀ c ∈ leading, isBlank c = true) (hbetween : ∀ c ∈ between, isBlank c = true)
    (htrailing : ∀ c ∈ trailing, isBlank c = true) (h₁ : IsName a₁.name ∧ s₁.quote ∉ a₁.value)
    (h₂ : IsName a₂.name ∧ s₂.quote ∉ a₂.value) :
    parse (leading ++ (s₁.write a₁ ++ (between ++ s₂.write a₂)) ++ trailing) = [a₁, a₂] := by
  have hassoc : leading ++ (s₁.write a₁ ++ (between ++ s₂.write a₂)) ++ trailing =
      leading ++ s₁.write a₁ ++ (between ++ s₂.write a₂ ++ trailing) := by
    simp only [List.append_assoc]
  rw [hassoc, parse_write hleading s₁ h₁.1 h₁.2, parse_write hbetween s₂ h₂.1 h₂.2,
    parse_blank htrailing]

end Attributes

end Stylesheet

end StyleHost
