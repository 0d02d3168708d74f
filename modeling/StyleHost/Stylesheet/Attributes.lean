import StyleHost.Text.Space

/-!
# Pseudo-attributes

The content of an instruction may look like the attributes of a tag: entries `name="value"` or
`name='value'` with any blanks between the parts. Reading stops at the first thing that is no entry.

* `Attributes.attribute?` : the entry at the start of a text.
* `Attributes.parse` : the entries at the start of a text.
* `unescape` : a value with the five predefined entities replaced.
-/

namespace StyleHost

namespace Stylesheet

open Text

/-- A name with a value. -/
structure Attribute where
  name : List Char
  value : List Char
deriving DecidableEq

namespace Attributes

/-- A quote that may enclose a value. -/
def isQuote (c : Char) : Bool := c == '"' || c == '\''

/-- The value at the start of a text, between quotes, and the text after it. -/
def value? : List Char → Option (List Char × List Char)
  | [] => none
  | q :: body =>
    if isQuote q then
      match body.dropWhile (· != q) with
      | [] => none
      | _ :: rest => some (body.takeWhile (· != q), rest)
    else none

/-- The name of an entry, which stands before its equals sign. -/
def name? (before : List Char) : Option (List Char) :=
  let name := trimList isBlank before
  if name.isEmpty || name.any isBlank then none else some name

/-- The entry at the start of a text, with the text after it and its blanks. -/
def attribute? (cs : List Char) : Option (Attribute × List Char) :=
  match cs.dropWhile (· != '=') with
  | [] => none
  | _ :: after => do
    let name ← name? (cs.takeWhile (· != '='))
    let (value, rest) ← value? (after.dropWhile isBlank)
    return (⟨name, value⟩, rest.dropWhile isBlank)

theorem length_dropWhile_le {α : Type} (p : α → Bool) (l : List α) :
    (l.dropWhile p).length ≤ l.length := (List.dropWhile_sublist p).length_le

theorem length_of_value? {cs value rest : List Char} (h : value? cs = some (value, rest)) :
    rest.length < cs.length := by
  cases cs with
  | nil => simp [value?] at h
  | cons q body =>
    simp only [value?] at h
    split at h
    · split at h
      · simp at h
      · rename_i x r hr
        have hle := length_dropWhile_le (· != q) body
        rw [hr] at hle
        simp only [Option.some.injEq, Prod.mk.injEq] at h
        obtain ⟨_, rfl⟩ := h
        simp only [List.length_cons] at hle ⊢
        omega
    · simp at h

/-- An entry takes up part of the text. -/
theorem length_of_attribute? {cs rest : List Char} {a : Attribute}
    (h : attribute? cs = some (a, rest)) : rest.length < cs.length := by
  simp only [attribute?] at h
  split at h
  · simp at h
  · rename_i x after hd
    have h1 := length_dropWhile_le (· != '=') cs
    rw [hd] at h1
    simp only [Option.bind_eq_bind, Option.pure_def, Option.bind_eq_some_iff, Option.some.injEq,
      Prod.mk.injEq, Prod.exists] at h
    obtain ⟨_, _, value, r, hv, _, rfl⟩ := h
    have h2 := length_of_value? hv
    have h3 := length_dropWhile_le isBlank after
    have h4 := length_dropWhile_le isBlank r
    simp only [List.length_cons] at h1
    omega

/-- The entries from the start of a text on. -/
def entries (cs : List Char) : List Attribute :=
  match _h : attribute? cs with
  | some (a, rest) => a :: entries rest
  | none => []
termination_by cs.length
decreasing_by exact length_of_attribute? _h

/-- The entries at the start of a text, after any blanks. -/
def parse (cs : List Char) : List Attribute := entries (cs.dropWhile isBlank)

/-- The value of the first entry with a name. -/
def find? (attributes : List Attribute) (name : String) : Option (List Char) :=
  (attributes.find? (·.name == name.toList)).map (·.value)

end Attributes

/-- A text with every occurrence of a pattern replaced, from left to right; the pattern is not
empty. -/
def replaceAll (pattern replacement : List Char) : List Char → List Char
  | [] => []
  | c :: cs =>
    if pattern.isPrefixOf (c :: cs) then
      replacement ++ replaceAll pattern replacement (cs.drop (pattern.length - 1))
    else c :: replaceAll pattern replacement cs
termination_by cs => cs.length
decreasing_by all_goals simp +arith

/-- A value with the predefined entities replaced, the ampersand last. -/
def unescape (cs : List Char) : List Char :=
  replaceAll "&amp;".toList ['&']
    (replaceAll "&apos;".toList ['\'']
      (replaceAll "&quot;".toList ['"']
        (replaceAll "&gt;".toList ['>']
          (replaceAll "&lt;".toList ['<'] cs))))

end Stylesheet

end StyleHost
