import StyleHost.LanguageTag.Basic
import StyleHost.Text.Ascii

/-!
# Reading language tags

A tag is a text of subtags with hyphens or underscores between them, in any case. The identifier
comes first, extensions follow; each is introduced by a letter and may occur once. An extension
ends before the first subtag that does not belong to it, and of that subtag only the first letter
counts: it introduces the next extension.

* `LanguageTag.parse` : the tag that a text denotes.

Lengths count bytes, so a letter outside ASCII is never a subtag of length one. Of two equal keys
of an extension the first counts. A variant may be repeated only where the place of a script or a
region was left open.
-/

namespace StyleHost

namespace LanguageTag

/-- A part of a tag between separators, as written. -/
abbrev Subtag := List Char

/-- The parts of a tag between its separators. -/
def split : List Char → List Subtag
  | [] => [[]]
  | c :: cs =>
    if c = '-' ∨ c = '_' then [] :: split cs
    else match split cs with
      | [] => [[c]]
      | part :: parts => (c :: part) :: parts

/-- The number of bytes of a subtag. -/
def size (s : Subtag) : Nat := (String.ofList s).utf8ByteSize

/-- The text of a subtag in lower case. -/
def lowered (s : Subtag) : String := String.ofList (s.map Text.lowerAscii)

/-- The text of a subtag with a capital first letter. -/
def titled : Subtag → String
  | [] => ""
  | c :: cs => String.ofList (c.toUpper :: cs.map Text.lowerAscii)

/-- Whether all characters are ASCII letters or digits, `least` to `most` of them. -/
def isWord (least most : Nat) (s : Subtag) : Bool :=
  s.all Char.isAlphanum && decide (least ≤ s.length) && decide (s.length ≤ most)

/-- The language of an identifier: two or three letters. -/
def isLanguage (s : Subtag) : Bool := s.all Char.isAlpha && (s.length == 2 || s.length == 3)

/-- A script: four letters. -/
def isScript (s : Subtag) : Bool := s.all Char.isAlpha && s.length == 4

/-- A region: two letters or three digits. -/
def isRegion (s : Subtag) : Bool :=
  (s.all Char.isAlpha && s.length == 2) || (s.all Char.isDigit && s.length == 3)

/-- A variant: five to eight letters or digits, or four of which the first is a digit. -/
def isVariant (s : Subtag) : Bool :=
  isWord 5 8 s || (isWord 4 4 s && (s.head?.map Char.isDigit).getD false)

/-- A key of the `u` extension: a letter or digit, then a letter. -/
def isKeyword : Subtag → Bool
  | [a, b] => a.isAlphanum && b.isAlpha
  | _ => false

/-- A key of the `t` extension: a letter, then a digit. -/
def isFieldKey : Subtag → Bool
  | [a, b] => a.isAlpha && b.isDigit
  | _ => false

/-- A value or an attribute: three to eight letters or digits. -/
def isValue (s : Subtag) : Bool := isWord 3 8 s

/-- A text put into its place in an ascending list, unless it is there. -/
def insertSorted (s : String) : List String → List String
  | [] => [s]
  | t :: ts => if s = t then t :: ts else if s < t then s :: t :: ts else t :: insertSorted s ts

/-- A field put into its place in a list ordered by keys; a key that is there keeps its values. -/
def insertField (f : TagField) : List TagField → List TagField
  | [] => [f]
  | g :: gs =>
    if f.key = g.key then g :: gs
    else if f.key < g.key then f :: g :: gs
    else g :: insertField f gs

/-- An extension put into its place in a list ordered by letters. -/
def insertOther (o : OtherExtension) : List OtherExtension → List OtherExtension
  | [] => [o]
  | p :: ps => if o.singleton < p.singleton then o :: p :: ps else p :: insertOther o ps

/-- The next subtag of an identifier that may still come. -/
inductive Place where
  | script
  | region
  | variant
deriving DecidableEq

/-- Reads the subtags after the language. An identifier `inside` an extension ends before the
first subtag that does not belong to it; any other ends before a subtag of length one. -/
def readPlaces (inside : Bool) :
    Place → LanguageId → List Subtag → Except TagError (LanguageId × List Subtag)
  | _, id, [] => .ok (id, [])
  | place, id, s :: rest =>
    if !inside && size s == 1 then .ok (id, s :: rest)
    else if place = .script ∧ isScript s then
      readPlaces inside .region { id with script := some (titled s) } rest
    else if place ≠ .variant ∧ isRegion s then
      let region := String.ofList (s.map Char.toUpper)
      readPlaces inside .variant { id with region := some region } rest
    else if isVariant s then
      if place = .variant ∧ lowered s ∈ id.variants then .error .invalidSubtag
      else readPlaces inside .variant
        { id with variants := insertSorted (lowered s) id.variants } rest
    else if inside then .ok (id, s :: rest)
    else .error .invalidSubtag

/-- Reads an identifier, which starts with a language. -/
def readIdentifier (inside : Bool) : List Subtag → Except TagError (LanguageId × List Subtag)
  | [] => .error .invalidLanguage
  | s :: rest =>
    if isLanguage s then
      readPlaces inside .script ⟨lowered s, none, none, []⟩ rest
    else .error .invalidLanguage

/-- Reads the attributes of the `u` extension. -/
def readAttributes : List String → List Subtag → List String × List Subtag
  | found, [] => (found, [])
  | found, s :: rest =>
    if isValue s then readAttributes (insertSorted (lowered s) found) rest
    else (found, s :: rest)

/-- The keywords found so far with the open one closed. -/
def closeField (open? : Option TagField) (found : List TagField) : List TagField :=
  match open? with
  | some f => insertField f found
  | none => found

/-- A field with one more value; the value `true` goes without saying. -/
def TagField.push (f : TagField) (s : Subtag) : TagField :=
  if lowered s = "true" then f else { f with values := f.values ++ [lowered s] }

/-- Reads the keywords of the `u` extension. -/
def readKeywords :
    Option TagField → List TagField → List Subtag → Except TagError (List TagField × List Subtag)
  | open?, found, [] => .ok (closeField open? found, [])
  | open?, found, s :: rest =>
    if size s = 2 then
      if isKeyword s then readKeywords (some ⟨lowered s, []⟩) (closeField open? found) rest
      else .error .invalidExtension
    else match open? with
      | some f =>
        if isValue s then readKeywords (some (TagField.push f s)) found rest
        else .ok (closeField open? found, s :: rest)
      | none => .ok (found, s :: rest)

/-- Reads the `u` extension, which must not be empty. -/
def readLocale (subtags : List Subtag) : Except TagError (LocaleExtension × List Subtag) := do
  let (attributes, rest) := readAttributes [] subtags
  let (keywords, rest) ← readKeywords none [] rest
  if attributes.isEmpty && keywords.isEmpty then .error .invalidExtension
  else .ok (⟨attributes, keywords⟩, rest)

/-- A field of the `t` extension while its values are read. -/
structure OpenField where
  field : TagField
  /-- Whether a value has been read, were it only `true`. -/
  hasValue : Bool

/-- The fields found so far with the open one closed, which must have a value. -/
def OpenField.close (o : OpenField) (found : List TagField) : Except TagError (List TagField) :=
  if o.hasValue then .ok (insertField o.field found) else .error .invalidExtension

/-- Reads the fields of the `t` extension. -/
def readFields :
    Option OpenField → List TagField → List Subtag → Except TagError (List TagField × List Subtag)
  | none, found, [] => .ok (found, [])
  | some o, found, [] => do .ok (← o.close found, [])
  | none, found, s :: rest =>
    if isFieldKey s then readFields (some ⟨⟨lowered s, []⟩, false⟩) found rest
    else .ok (found, s :: rest)
  | some o, found, s :: rest =>
    if isValue s then readFields (some ⟨TagField.push o.field s, true⟩) found rest
    else do
      let found ← o.close found
      if isFieldKey s then readFields (some ⟨⟨lowered s, []⟩, false⟩) found rest
      else .ok (found, s :: rest)

/-- Reads the `t` extension, which may be empty. -/
def readTransform (subtags : List Subtag) :
    Except TagError (TransformExtension × List Subtag) := do
  let (source, rest) ←
    if (subtags.head?.map isLanguage).getD false then
      (readIdentifier true subtags).map fun r => (some r.1, r.2)
    else .ok (none, subtags)
  let (fields, rest) ← readFields none [] rest
  .ok (⟨source, fields⟩, rest)

/-- Reads the subtags of private use, which extend to the end of the tag. -/
def readPrivateUse (subtags : List Subtag) : Except TagError (List String) :=
  if subtags.all (isWord 1 8) then .ok (subtags.map lowered) else .error .invalidExtension

/-- Reads the subtags of an extension without a meaning of its own: those of two to eight bytes,
of which only the words are kept; there may be none. -/
def readOther : List Subtag → List Subtag × List Subtag
  | [] => ([], [])
  | s :: rest =>
    if 2 ≤ size s ∧ size s ≤ 8 then
      let (found, rest') := readOther rest
      (if isWord 2 8 s then s :: found else found, rest')
    else ([], s :: rest)

/-- The extensions read so far. -/
structure Extensions where
  locale : Option LocaleExtension := none
  transform : Option TransformExtension := none
  others : List OtherExtension := []
  privateUse : List String := []

/-- Reads one extension; the first letter of the subtag `s` introduces it. -/
def readExtension (found : Extensions) (s : Subtag) (rest : List Subtag) :
    Except TagError (Extensions × List Subtag) :=
  match s with
  | [] => .error .invalidExtension
  | c :: _ =>
    let letter := Text.lowerAscii c
    if !letter.isAlpha then .error .invalidExtension
    else if letter = 'u' then
      if found.locale.isSome then .error .duplicatedExtension
      else (readLocale rest).map fun r => ({ found with locale := some r.1 }, r.2)
    else if letter = 't' then
      if found.transform.isSome then .error .duplicatedExtension
      else (readTransform rest).map fun r => ({ found with transform := some r.1 }, r.2)
    else if letter = 'x' then
      (readPrivateUse rest).map fun r => ({ found with privateUse := r }, [])
    else if found.others.any (·.singleton == letter) then .error .duplicatedExtension
    else
      let (words, rest') := readOther rest
      let other : OtherExtension := ⟨letter, words.map lowered⟩
      .ok ({ found with others := insertOther other found.others }, rest')

/-- Reads extensions up to the end of the tag, at most `fuel` of them. -/
def readExtensions : Nat → Extensions → List Subtag → Except TagError Extensions
  | _, found, [] => .ok found
  | 0, _, _ :: _ => .error .invalidExtension
  | fuel + 1, found, s :: rest => do
    let (found, rest) ← readExtension found s rest
    readExtensions fuel found rest

/-- The tag that a text denotes. -/
def parse (text : String) : Except TagError LanguageTag := do
  let subtags := split text.toList
  let (id, rest) ← readIdentifier false subtags
  let e ← readExtensions rest.length {} rest
  .ok ⟨id, e.locale, e.transform, e.others, e.privateUse⟩

end LanguageTag

end StyleHost
