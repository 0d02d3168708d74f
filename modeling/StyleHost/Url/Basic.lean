import StyleHost.Url.Host

/-!
# URLs

A URL in its normal form: the scheme in lower case, all parts encoded, no dot segments in the path,
and no port that the scheme implies.

* `Url` : the parts of a URL.
* `Url.toString` : the URL as a text.
-/

namespace StyleHost

namespace Url

/-- The schemes with rules of their own, and the ports that they imply. -/
def specialSchemes : List (String × Option Nat) :=
  [("http", some 80), ("https", some 443), ("ws", some 80), ("wss", some 443), ("ftp", some 21),
    ("file", none)]

/-- Whether a scheme has rules of its own. -/
def isSpecial (scheme : String) : Bool := specialSchemes.any (·.1 == scheme)

/-- The port that a scheme implies. -/
def defaultPort? (scheme : String) : Option Nat := (specialSchemes.lookup scheme).join

/-- Where the resource of a URL is served. -/
structure Authority where
  username : String := ""
  password : String := ""
  host : Host
  port : Option Nat := none
deriving DecidableEq

/-- The path of a URL. -/
inductive Path where
  /-- Segments, each after a slash; there may be none. -/
  | segments (names : List String)
  /-- A text without any structure. -/
  | flat (text : String)
deriving DecidableEq

end Url

/-- A URL in its normal form. -/
structure Url where
  scheme : String
  authority : Option Url.Authority := none
  path : Url.Path
  query : Option String := none
  fragment : Option String := none
deriving DecidableEq

namespace Url

/-- The credentials as a text. -/
def Authority.credentials (a : Authority) : String :=
  if a.username.isEmpty ∧ a.password.isEmpty then ""
  else a.username ++ (if a.password.isEmpty then "" else ":" ++ a.password) ++ "@"

/-- The authority as a text. -/
def Authority.toString (a : Authority) : String :=
  a.credentials ++ a.host.toString ++
    match a.port with
    | some port => ":" ++ ToString.toString port
    | none => ""

/-- The path as a text. -/
def Path.toString : Path → String
  | segments names => String.join (names.map ("/" ++ ·))
  | flat text => text

/-- What stands between the scheme and the path. Without an authority, a path that starts with two
slashes is kept apart from the scheme, lest it look like an authority. -/
def authorityText (u : Url) : String :=
  match u.authority, u.path with
  | some a, _ => "//" ++ a.toString
  | none, .segments ("" :: _ :: _) => "/."
  | none, _ => ""

/-- The URL as a text. -/
def toString (u : Url) : String :=
  let query := match u.query with
    | some query => "?" ++ query
    | none => ""
  let fragment := match u.fragment with
    | some fragment => "#" ++ fragment
    | none => ""
  u.scheme ++ ":" ++ u.authorityText ++ u.path.toString ++ query ++ fragment

end Url

end StyleHost
