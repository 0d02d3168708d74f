/-!
# String literals of XPath

A parameter reaches the engine as an expression, so a plain text has to be quoted. A literal of
XPath 1.0 has no escapes: it may hold any character but its own delimiter. A text with both kinds
of quote is put together by `concat`.

* `XPath.literal` : an expression whose value is the given text.
-/

namespace StyleHost

namespace XPath

/-- A text between two single quotes. -/
def singleQuoted (cs : List Char) : List Char := '\'' :: (cs ++ ['\''])

/-- A text between two double quotes. -/
def doubleQuoted (cs : List Char) : List Char := '"' :: (cs ++ ['"'])

/-- The parts of a text between its single quotes, one more than there are quotes. -/
def splitAtSingle : List Char → List (List Char)
  | [] => [[]]
  | c :: cs =>
    if c = '\'' then [] :: splitAtSingle cs
    else match splitAtSingle cs with
      | [] => [[c]]
      | part :: parts => (c :: part) :: parts

/-- The arguments of `concat` that yield the parts joined by single quotes. -/
def joinParts : List (List Char) → List Char
  | [] => []
  | [part] => singleQuoted part
  | part :: parts => singleQuoted part ++ ", \"'\", ".toList ++ joinParts parts

/-- The characters of `literal`. -/
def literalChars (cs : List Char) : List Char :=
  if '\'' ∉ cs then singleQuoted cs
  else if '"' ∉ cs then doubleQuoted cs
  else "concat(".toList ++ joinParts (splitAtSingle cs) ++ [')']

/-- An expression whose value is the text `s`. -/
def literal (s : String) : String := String.ofList (literalChars s.toList)

end XPath

end StyleHost
