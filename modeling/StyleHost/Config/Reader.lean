import StyleHost.Config.Basic
import StyleHost.Json.Record

/-!
# Reading configurations

A configuration and a policy are records in JSON. What is not given keeps its default; in a policy
inside a configuration that is the default of the policy.

* `Policy.parse`, `Config.parse` : the record that a text denotes.
-/

namespace StyleHost

open Json

/-- The names of decisions. -/
def Access.names : List (String × Access) := [("allow", .allow), ("forbid", .forbid)]

/-- The field of a policy for one capability. -/
def Policy.field (key : String) (capability : Capability) : Member Policy where
  key := key
  read policy c := (readChoice Access.names c).map fun r => (policy.set capability r.1, r.2)

/-- The fields of a policy in order. -/
def Policy.fields : List (Member Policy) :=
  [Policy.field "read_file" .readFile,
    Policy.field "write_file" .writeFile,
    Policy.field "create_directory" .createDirectory,
    Policy.field "read_network" .readNetwork,
    Policy.field "write_network" .writeNetwork]

/-- The policy at the cursor. -/
def Policy.read (c : Cursor) : Except Json.Error (Policy × Cursor) :=
  readRecord "struct SecurityPolicy" Policy.fields .standard c

/-- The policy that a text denotes. -/
def Policy.parse (text : String) : Except Json.Error Policy := readAll Policy.read text

/-- A field of a configuration: the reader of its value and the replacement. -/
def Config.field {α : Type} (key : String) (read : Cursor → Except Json.Error (α × Cursor))
    (put : Config → α → Config) : Member Config where
  key := key
  read config c := (read c).map fun r => (put config r.1, r.2)

/-- The fields of a configuration in order. -/
def Config.fields : List (Member Config) :=
  [Config.field "omitXmlDeclaration" readFlag fun c x => { c with omitXmlDeclaration := x },
    Config.field "maxVariables" (readWord "usize") fun c x => { c with maxVariables := x },
    Config.field "exslt" readFlag fun c x => { c with exslt := x },
    Config.field "security" Policy.read fun c x => { c with security := x },
    Config.field "fetchTimeoutMs" (readOptional (readWord "u64"))
      fun c x => { c with fetchTimeoutMs := x },
    Config.field "defaultLocale" (readOptional (readString "a string"))
      fun c x => { c with defaultLocale := x }]

/-- The configuration at the cursor. -/
def Config.read (c : Cursor) : Except Json.Error (Config × Cursor) :=
  readRecord "struct TransformConfig" Config.fields {} c

/-- The configuration that a text denotes. -/
def Config.parse (text : String) : Except Json.Error Config := readAll Config.read text

end StyleHost
