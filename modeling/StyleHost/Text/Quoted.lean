import StyleHost.Text.Unprintable

/-!
# Quoted texts

Messages quote the texts they speak of: double quotes around the text, a backslash before a quote
or a backslash, short escapes for the usual controls, and the code point in hexadecimal for every
other character that cannot be shown.

* `Text.quote` : a text in quotes.
* `Text.quoteOption` : a text that may be missing.
-/

namespace StyleHost

namespace Text

/-- The hexadecimal digits of a number in lower case, without leading zeros. -/
def hexDigits (n : Nat) : List Char := Nat.toDigits 16 n

/-- A character as it stands inside a quoted text. -/
def escapeChar (c : Char) : List Char :=
  if c == '\x00' then ['\\', '0']
  else if c == '\t' then ['\\', 't']
  else if c == '\r' then ['\\', 'r']
  else if c == '\n' then ['\\', 'n']
  else if c == '"' then ['\\', '"']
  else if c == '\\' then ['\\', '\\']
  else if isUnprintable c then '\\' :: 'u' :: '\x7b' :: (hexDigits c.toNat ++ ['\x7d'])
  else [c]

/-- A text in double quotes. -/
def quote (s : String) : String :=
  String.ofList ('"' :: (s.toList.flatMap escapeChar ++ ['"']))

/-- A text that may be missing: its quoted form in `Some(…)`, or `None`. -/
def quoteOption : Option String → String
  | some s => "Some(" ++ quote s ++ ")"
  | none => "None"

end Text

end StyleHost
