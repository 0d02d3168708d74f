import StyleHost.LanguageTag.Parser
import StyleHost.Notice
import StyleHost.Panic

/-!
# Comparing texts by language

A comparator is built once for a sort key and compares texts as the language of the key demands.
If the tag is no language tag, or no data exist for it, all texts are equal, so that a sort leaves
them in input order. The collation data may break down over a tag; that ends the request.

* `Collations` : the collation data, as a function of tag and case order.
* `Comparator.create` : the comparator for a language, with the notices that building it causes.
-/

namespace StyleHost

/-- Collation data: how texts compare under a language tag and a case order; `none` if there are
no data for the tag. -/
abbrev Collations :=
  LanguageTag → CaseOrder → Except Panic (Option (String → String → Ordering))

/-- A text comparison configured for one sort key. -/
structure Comparator where
  /-- The language asked for, without surrounding blanks. -/
  locale : Option String
  caseOrder : CaseOrder
  /-- The comparison, if one could be built. -/
  collate? : Option (String → String → Ordering)

namespace Comparator

/-- Whether a comparison could be built. -/
def isUsable (c : Comparator) : Bool := c.collate?.isSome

/-- The order of two texts. -/
def compare (c : Comparator) (a b : String) : Ordering :=
  match c.collate? with
  | some collate => collate a b
  | none => .eq

/-- A language setting without surrounding blanks; an empty one is none. -/
def trimmedLocale (locale : Option String) : Option String :=
  (locale.map Text.trim).filter (· != "")

/-- The tag of a language setting; no setting means the root of all languages. -/
def tagOf : Option String → Except CollationError LanguageTag
  | some tag => (LanguageTag.parse tag).mapError (.invalidTag tag)
  | none => .ok .undetermined

/-- The comparator of a language that has none. -/
def unusable (locale : Option String) (caseOrder : CaseOrder) (cause : CollationError) :
    Comparator × List Notice :=
  (⟨locale, caseOrder, none⟩, [.collationUnavailable locale cause])

/-- The comparator for a language and a case order, with the notices that building it causes. -/
def create (data : Collations) (locale : Option String) (caseOrder : CaseOrder) :
    Except Panic Comparator × List Notice :=
  let locale := trimmedLocale locale
  match tagOf locale with
  | .error e =>
    let (c, notices) := unusable locale caseOrder e
    (.ok c, notices)
  | .ok tag =>
    let notice := Notice.buildingCollator tag caseOrder
    match data tag caseOrder with
    | .error cause => (.error cause, [notice])
    | .ok (some collate) => (.ok ⟨locale, caseOrder, some collate⟩, [notice])
    | .ok none =>
      let (c, notices) := unusable locale caseOrder .missingData
      (.ok c, notice :: notices)

/-- A description of a comparator for messages. -/
def describe (c : Comparator) : String :=
  "CollationComparator \x7b locale: " ++ Text.quoteOption c.locale ++ ", case_order: " ++
    c.caseOrder.name ++ ", usable: " ++ (if c.isUsable then "true" else "false") ++ " \x7d"

end Comparator

end StyleHost
