import StyleHost.Config.Basic
import StyleHost.Json.Text

/-!
# Writing configurations

A configuration is written as a compact JSON object with its fields in order. Settings that are
absent are left out.

* `Policy.toJson`, `Config.toJson` : the text of a record.
-/

namespace StyleHost

open Json

/-- An object of members that are written already. -/
def Json.writeObject (members : List (String × List Char)) : List Char :=
  let texts := members.map fun m => writeText m.1.toList ++ ':' :: m.2
  '\x7b' :: ((texts.intersperse [',']).flatten ++ ['\x7d'])

/-- A boolean in JSON. -/
def Json.writeFlag (b : Bool) : List Char := (if b then "true" else "false").toList

/-- A word in JSON. -/
def Json.writeWord (n : UInt64) : List Char := Number.digitChars n.toNat

/-- The name of a decision in JSON. -/
def Access.write : Access → List Char
  | .allow => writeText "allow".toList
  | .forbid => writeText "forbid".toList

/-- The characters of a policy in JSON. -/
def Policy.write (p : Policy) : List Char :=
  writeObject [("read_file", p.readFile.write), ("write_file", p.writeFile.write),
    ("create_directory", p.createDirectory.write), ("read_network", p.readNetwork.write),
    ("write_network", p.writeNetwork.write)]

/-- The characters of a configuration in JSON. -/
def Config.write (c : Config) : List Char :=
  writeObject ([("omitXmlDeclaration", writeFlag c.omitXmlDeclaration),
    ("maxVariables", writeWord c.maxVariables), ("exslt", writeFlag c.exslt),
    ("security", c.security.write)] ++
    (c.fetchTimeoutMs.map fun n => ("fetchTimeoutMs", writeWord n)).toList ++
    (c.defaultLocale.map fun s => ("defaultLocale", writeText s.toList)).toList)

/-- The text of a policy. -/
def Policy.toJson (p : Policy) : String := String.ofList p.write

/-- The text of a configuration. -/
def Config.toJson (c : Config) : String := String.ofList c.write

end StyleHost
