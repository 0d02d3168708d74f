import StyleHost.Collation.Element

/-!
# Tailoring rules

A language states its own order as changes to the root order, written as a text of rules. A reset
`&x` sets the place to that of `x`, and `&[before 1]x` to just before `x`. Each relation that
follows puts a text at the next place: `<` makes a different letter, `<<` a different accent,
`<<<` a variant, `=` and `<<<<` none of these. After a star, each character of the text takes a
place of its own. A text may be preceded by characters that have to stand before it and a bar, and
be followed by a slash and a text that is appended to its elements. What stands in single quotes is
text, and two of them are an apostrophe. Brackets hold settings.

* `Rule` : one reset, relation or setting.
* `Rule.parse` : the rules that a text states.
-/

namespace StyleHost

namespace Collation

/-- A place that no text has. -/
inductive Position where
  /-- Behind all letters that are not ideographs. -/
  | lastRegular
  /-- Behind all accents. -/
  | lastPrimaryIgnorable
  /-- Behind all characters that are ignored but for their variants. -/
  | lastSecondaryIgnorable
  /-- Among the characters that are ignored. -/
  | lastTertiaryIgnorable
deriving DecidableEq

/-- A change to an order. -/
inductive Rule where
  /-- The place of a text. -/
  | reset (anchor : List Char)
  /-- The place just before a text, which differs from it by a strength. -/
  | resetBefore (strength : Strength) (anchor : List Char)
  | resetTo (position : Position)
  /-- A text put at the next place, for where it stands after certain characters. -/
  | relation (strength : Strength) (before text extension : List Char)
  /-- Characters that start no longer sequence. -/
  | suppress (characters : List Char)
  /-- Scripts, by their codes, whose letters precede those of all others. -/
  | reorder (scripts : List String)
  /-- Upper case comes first. -/
  | upperFirst
  /-- Accents count from the end of a text. -/
  | backwards
  /-- Spaces and punctuation are ignored. -/
  | ignorePunctuation
deriving DecidableEq

namespace Rule

/-- A character that ends the texts of rules. -/
def isOperator (c : Char) : Bool := "&<=/|[".toList.contains c

/-- A character without a meaning of its own between the parts of rules. -/
def isBlank (c : Char) : Bool := c == ' ' || c == '\n'

/-- The text at the start of some rules, up to an operator, and what follows it. -/
def text (isQuoted : Bool) : List Char → List Char × List Char
  | [] => ([], [])
  | '\'' :: '\'' :: cs =>
    let (found, rest) := text isQuoted cs
    ('\'' :: found, rest)
  | '\'' :: cs => text (!isQuoted) cs
  | c :: cs =>
    if !isQuoted && isOperator c then ([], c :: cs)
    else
      let (found, rest) := text isQuoted cs
      (if !isQuoted && isBlank c then found else c :: found, rest)

/-- The text after a sign, if the sign is next. -/
def textAfter (sign : Char) : List Char → List Char × List Char
  | [] => ([], [])
  | c :: cs => if c = sign then text false cs else ([], c :: cs)

/-- The strength that so many signs denote. -/
def strengthOf : Nat → Strength
  | 1 => .primary
  | 2 => .secondary
  | 3 => .tertiary
  | _ => .identical

/-- The words of a text between blanks. -/
def wordsOf (cs : List Char) : List String :=
  ((String.ofList cs).splitOn " ").filter (· != "")

/-- The setting that the words in brackets state; what is no setting states none. -/
def ofWords : List String → List Rule
  | "reorder" :: scripts => [reorder scripts]
  | ["caseFirst", "upper"] => [upperFirst]
  | ["backwards", "2"] => [backwards]
  | ["alternate", "shifted"] => [ignorePunctuation]
  | ["suppress", characters] => [suppress characters.toList]
  | _ => []

/-- The reset that the words in brackets and the text after them state. -/
def ofPlace (words : List String) (anchor : List Char) : List Rule :=
  match words with
  | ["before", "1"] => [resetBefore .primary anchor]
  | ["before", "2"] => [resetBefore .secondary anchor]
  | ["before", "3"] => [resetBefore .tertiary anchor]
  | ["last", "regular"] => [resetTo .lastRegular]
  | ["last", "primary", "ignorable"] => [resetTo .lastPrimaryIgnorable]
  | ["last", "secondary", "ignorable"] => [resetTo .lastSecondaryIgnorable]
  | ["last", "tertiary", "ignorable"] => [resetTo .lastTertiaryIgnorable]
  | _ => []

/-- What stands in brackets, after the first of them, and what follows them. -/
def bracketed (cs : List Char) : List String × List Char :=
  (wordsOf (cs.takeWhile (· != ']')), (cs.dropWhile (· != ']')).drop 1)

/-- The reset after its sign, and what follows it. -/
def parseReset : List Char → List Rule × List Char
  | '[' :: cs =>
    let (words, rest) := bracketed cs
    let (anchor, rest) := text false rest
    (ofPlace words anchor, rest)
  | cs =>
    let (anchor, rest) := text false cs
    ([reset anchor], rest)

/-- The relation of a strength after its signs, and what follows it. -/
def parseRelation (strength : Strength) : List Char → List Rule × List Char
  | '*' :: cs =>
    let (found, rest) := text false cs
    (found.map fun c => relation strength [] [c] [], rest)
  | cs =>
    let (first, rest) := text false cs
    let (second, rest) := textAfter '|' rest
    let (extension, rest) := textAfter '/' rest
    (if second.isEmpty then [relation strength [] first extension]
      else [relation strength first second extension], rest)

/-- Reads rules, at most `fuel` of them; what is no rule is left out. -/
def parseUpTo : Nat → List Char → List Rule
  | 0, _ => []
  | _, [] => []
  | fuel + 1, c :: cs =>
    if c = '&' then
      let (rules, rest) := parseReset (cs.dropWhile isBlank)
      rules ++ parseUpTo fuel rest
    else if c = '[' then
      let (words, rest) := bracketed cs
      ofWords words ++ parseUpTo fuel rest
    else if c = '<' then
      let signs := cs.takeWhile (· == '<')
      let (rules, rest) :=
        parseRelation (strengthOf (signs.length + 1)) (cs.dropWhile (· == '<'))
      rules ++ parseUpTo fuel rest
    else if c = '=' then
      let (rules, rest) := parseRelation .identical cs
      rules ++ parseUpTo fuel rest
    else parseUpTo fuel cs

/-- The rules that a text states. -/
def parse (rules : String) : List Rule :=
  let cs := rules.toList
  parseUpTo cs.length cs

end Rule

end Collation

end StyleHost
