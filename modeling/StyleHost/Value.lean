import StyleHost.Number.Text

/-!
# Values of expressions

The four kinds of value of an XPath 1.0 expression, and their string-value. A node-set is carried
as the string-values of its nodes in document order.
-/

namespace StyleHost

/-- The value of an expression. -/
inductive Value where
  | nodes (stringValues : List String)
  | text (s : String)
  | number (x : Double)
  | boolean (b : Bool)
deriving DecidableEq

namespace Value

/-- The string-value: that of the first node, the text itself, the text of the number, or the
spelling of the boolean. -/
def stringValue : Value → String
  | .nodes ns => ns.headD ""
  | .text s => s
  | .number x => Number.format x
  | .boolean b => if b then "true" else "false"

end Value

end StyleHost
