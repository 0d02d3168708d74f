import StyleHost.Text.Space

/-!
# Sort specifications

One key of a sort: the expression that selects its value, and how the values compare. The values
of the attributes that describe it come from a stylesheet, so nothing is an error: a value that is
not known means the default.

* `SortSpec.ofAttributes` : a specification from attribute values.
* `SortSpec.maxKeys` : the number of keys from which on a sort is not carried out.
-/

namespace StyleHost

/-- How the values of a key are compared. -/
inductive DataType where
  | text
  | number
deriving DecidableEq

/-- The direction of a key. -/
inductive SortOrder where
  | ascending
  | descending
deriving DecidableEq

/-- Which case comes first among texts that differ in nothing else. The default is left to the
collation of the language. -/
inductive CaseOrder where
  | lowerFirst
  | upperFirst
  | unspecified
deriving DecidableEq

/-- The data type that an attribute value names. -/
def DataType.ofAttribute (value : String) : DataType :=
  if value == "number" then .number else .text

/-- The direction that an attribute value names. -/
def SortOrder.ofAttribute (value : String) : SortOrder :=
  if value == "descending" then .descending else .ascending

/-- The case order that an attribute value names. -/
def CaseOrder.ofAttribute (value : String) : CaseOrder :=
  if value == "lower-first" then .lowerFirst
  else if value == "upper-first" then .upperFirst
  else .unspecified

/-- The name of a case order in messages. -/
def CaseOrder.name : CaseOrder → String
  | .lowerFirst => "LowerFirst"
  | .upperFirst => "UpperFirst"
  | .unspecified => "Unspecified"

/-- One key of a sort, selected by an expression of type `X`. -/
structure SortSpec (X : Type) where
  /-- The expression whose value is the key. -/
  select : X
  dataType : DataType := .text
  order : SortOrder := .ascending
  /-- The language tag of the key; without one, the default of the sorter holds. -/
  lang : Option String := none
  caseOrder : CaseOrder := .unspecified
deriving DecidableEq

namespace SortSpec

variable {X : Type}

/-- A list of this many keys, or of more, is never sorted by. -/
def maxKeys : Nat := 15

/-- The value of an attribute without surrounding blanks; empty if it is missing. -/
def attributeValue (value : Option String) : String := Text.trim (value.getD "")

/-- The specification that the attributes of a sort element describe. An empty language counts as
missing. -/
def ofAttributes (select : X) (dataType order lang caseOrder : Option String) : SortSpec X where
  select := select
  dataType := .ofAttribute (attributeValue dataType)
  order := .ofAttribute (attributeValue order)
  lang := (lang.map Text.trim).filter (· != "")
  caseOrder := .ofAttribute (attributeValue caseOrder)

/-- Whether the key is compared as a number. -/
def isNumeric (s : SortSpec X) : Bool := s.dataType == .number

/-- Whether the direction is reversed. -/
def isDescending (s : SortSpec X) : Bool := s.order == .descending

end SortSpec

end StyleHost
