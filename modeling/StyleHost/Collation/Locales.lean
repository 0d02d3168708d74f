import StyleHost.Collation.Collator
import StyleHost.Collation.Comparator
import StyleHost.Collation.Orders.Asian
import StyleHost.Collation.Orders.Chinese
import StyleHost.Collation.Orders.Cyrillic
import StyleHost.Collation.Orders.Indic
import StyleHost.Collation.Orders.Japanese
import StyleHost.Collation.Orders.Korean
import StyleHost.Collation.Orders.Latin
import StyleHost.Collation.Orders.Semitic

/-!
# Collations of languages

Which order a language tag stands for. A tag that has no order of its own falls back to tags with
fewer subtags, until at last the root order is left.

* `orders` : the orders that have a name.
* `candidates` : the names that a tag may mean, the nearest first.
* `data` : the collation data of all tags.
-/

namespace StyleHost

namespace Collation

/-- The order of the ASCII characters by code point, as letters. -/
def codePointRules : List Rule :=
  .reset ['A'] :: (List.range 0x60).map fun i => .relation .primary [] [Char.ofNat (0x20 + i)] []

/-- The collators of the orders that have a name, each built when it is first asked for. -/
def orders : List (String × Thunk Collator) :=
  ("en-US-posix", Thunk.mk fun _ => .ofRules codePointRules) ::
    (latinOrders ++ cyrillicOrders ++ semiticOrders ++ indicOrders ++ asianOrders ++
      chineseOrders ++ japaneseOrders ++ koreanOrders).map fun (name, rules) =>
        (name, Thunk.mk fun _ => .ofRules (Rule.parse rules))

/-- The collator of the root order. -/
def rootCollator : Collator := .ofRules []

/-- The usual scripts of the languages with several orders; that of all others is Latin. -/
def usualScripts : List (String × String) := [("fa", "Arab"), ("sr", "Cyrl")]

/-- The script that a language is usually written in. -/
def usualScript (language : String) : String := (usualScripts.lookup language).getD "Latn"

/-- The regions where a language is not written in its usual script. -/
def regionalScript (language region : String) : Option String :=
  if language == "sr" && ["ME", "RO", "TR"].contains region then some "Latn" else none

/-- The script subtag that tells an order apart; none for the usual script. -/
def tellingScript (id : LanguageId) : Option String :=
  id.script.filter (· != usualScript id.language)

/-- The language whose order a language shares. -/
def sharedLanguage (language : String) : String :=
  if language == "nb" || language == "nn" then "no" else language

/-- A tag without variants, with fewer and fewer subtags: the region is left out first, then the
script. Before the region goes, the script that is usual there is put in. -/
def stems (id : LanguageId) : List String :=
  let stem (subtags : List String) := "-".intercalate (sharedLanguage id.language :: subtags)
  let script := (tellingScript id).toList
  let whole := stem (script ++ id.region.toList)
  match script, id.region.bind (regionalScript id.language) with
  | [], some usual => [whole, stem (usual :: id.region.toList), stem [usual], stem []]
  | _, _ => [whole, stem script, stem []]

/-- The names that a tag may mean, the nearest first. The keyword is left out before the variants
are, and both come back for each stem. -/
def candidates (tag : LanguageTag) : List String :=
  let special := ((tag.keyword? "co").map fun values => "@" ++ "-".intercalate values).toList
  let endings := match tag.id.variants with
    | [] => special ++ [""]
    | variants =>
      let joined := "-" ++ "-".intercalate variants
      special.map (joined ++ ·) ++ [joined, ""]
  (stems tag.id).flatMap fun stem => endings.map (stem ++ ·)

/-- The collator that a tag stands for. -/
def collatorFor (tag : LanguageTag) : Collator :=
  match (candidates tag).findSome? fun name => orders.lookup name with
  | some collator => collator.get
  | none => rootCollator

/-- The case that comes first under a case order; without one the language decides. -/
def caseFirstOf (c : Collator) : CaseOrder → Option CaseFirst
  | .lowerFirst => some .lower
  | .upperFirst => some .upper
  | .unspecified => c.caseFirst

/-- What happens when the search for data goes beyond a tag without a language. -/
def noLanguage : Panic := ⟨"assertion failed: !locale.language().is_empty()"⟩

/-- The collation data of all tags. A tag with subtags of private use has none. A script of its own
without a language leads nowhere. -/
def data : Collations := fun tag caseOrder =>
  if tag.id.language == "und" && (tellingScript tag.id).isSome then .error noLanguage
  else if tag.privateUse.isEmpty then
    let c := collatorFor tag
    let collator := { c with caseFirst := caseFirstOf c caseOrder }
    .ok (some collator.compare)
  else .ok none

end Collation

end StyleHost
