/-!
# Language tags

A language tag names a language and, where that matters, a script, a region and variants; its
extensions carry further settings. A tag is kept in canonical form: letters in the case that is
customary for the subtag, variants and keywords in alphabetical order.

* `LanguageTag.toString` : the canonical text of a tag.
* `LanguageTag.keyword?` : the values of a key of the `u` extension.
* `TagError` : why a text is no language tag.
-/

namespace StyleHost

/-- The subtags that identify a language. -/
structure LanguageId where
  /-- Two or three letters in lower case. -/
  language : String
  /-- Four letters, the first a capital. -/
  script : Option String := none
  /-- Two capitals or three digits. -/
  region : Option String := none
  /-- Variants in alphabetical order. -/
  variants : List String := []
deriving DecidableEq

/-- The subtags of an identifier in canonical order. -/
def LanguageId.subtags (id : LanguageId) : List String :=
  id.language :: (id.script.toList ++ id.region.toList ++ id.variants)

/-- A key of an extension with its values. -/
structure TagField where
  key : String
  values : List String
deriving DecidableEq

/-- A field with its values spelled out: without any it has the value `true`. -/
def TagField.explicit (f : TagField) : TagField :=
  if f.values.isEmpty then { f with values := ["true"] } else f

/-- The subtags of a list of fields. -/
def TagField.subtags (fields : List TagField) : List String :=
  fields.flatMap fun f => f.key :: f.values

/-- The `u` extension: attributes and keywords of a locale. -/
structure LocaleExtension where
  attributes : List String := []
  keywords : List TagField := []
deriving DecidableEq

/-- The `t` extension: the language that a text was transformed from, and how. -/
structure TransformExtension where
  source : Option LanguageId := none
  fields : List TagField := []
deriving DecidableEq

/-- Any other extension that a letter introduces. -/
structure OtherExtension where
  singleton : Char
  subtags : List String
deriving DecidableEq

/-- A language tag in canonical form. -/
structure LanguageTag where
  id : LanguageId
  locale : Option LocaleExtension := none
  transform : Option TransformExtension := none
  /-- Other extensions in the order of their letters. -/
  others : List OtherExtension := []
  /-- The subtags that `x` introduces. -/
  privateUse : List String := []
deriving DecidableEq

/-- Why a text is no language tag. -/
inductive TagError where
  | invalidLanguage
  | invalidSubtag
  | invalidExtension
  | duplicatedExtension
deriving DecidableEq

/-- The wording of a tag error. -/
def TagError.message : TagError → String
  | .invalidLanguage => "The given language subtag is invalid"
  | .invalidSubtag => "Invalid subtag"
  | .invalidExtension => "Invalid extension"
  | .duplicatedExtension => "Duplicated extension"

namespace LanguageTag

/-- The tag that names no language. -/
def undetermined : LanguageTag := ⟨⟨"und", none, none, []⟩, none, none, [], []⟩

/-- The subtags of the `t` extension; the language that it names is in lower case throughout. An
extension that says nothing is left out. -/
def transformSubtags (t : TransformExtension) : List String :=
  match (t.source.map fun id => id.subtags.map String.toLower).getD [] ++
    TagField.subtags (t.fields.map TagField.explicit) with
  | [] => []
  | subtags => "t" :: subtags

/-- The subtags of the `u` extension. -/
def localeSubtags (u : LocaleExtension) : List String :=
  "u" :: (u.attributes ++ TagField.subtags u.keywords)

/-- The subtags of any other extension. -/
def otherSubtags (o : OtherExtension) : List String := String.singleton o.singleton :: o.subtags

/-- All subtags in canonical order: extensions by their letters, private use last. -/
def subtags (tag : LanguageTag) : List String :=
  tag.id.subtags ++
    (tag.others.filter (·.singleton < 't')).flatMap otherSubtags ++
    (tag.transform.map transformSubtags).getD [] ++
    (tag.locale.map localeSubtags).getD [] ++
    (tag.others.filter ('t' < ·.singleton)).flatMap otherSubtags ++
    (if tag.privateUse.isEmpty then [] else "x" :: tag.privateUse)

/-- The canonical text of a tag. -/
def toString (tag : LanguageTag) : String := "-".intercalate tag.subtags

/-- The values of a key of the `u` extension. -/
def keyword? (tag : LanguageTag) (key : String) : Option (List String) :=
  match tag.locale with
  | some u => (u.keywords.find? (·.key == key)).map (·.values)
  | none => none

end LanguageTag

end StyleHost
