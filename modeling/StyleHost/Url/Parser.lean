import StyleHost.Panic
import StyleHost.Text.Ascii
import StyleHost.Text.Space
import StyleHost.Url.Authority

/-!
# Reading URLs

A text is read as a URL of its own, or as a reference that is resolved against a base: what the
reference leaves out is taken from the base. Controls and spaces around the text, and tabs and line
breaks within, do not count. Under special schemes a backslash is a slash.

* `Url.parse` : a URL of its own.
* `Url.join` : a reference resolved against a base.
-/

namespace StyleHost

namespace Url

/-- A character that does not count at either end of a text. -/
def isPadding (c : Char) : Bool := c.toNat ≤ 0x20

/-- A reference cut at its query and its fragment. -/
structure Reference where
  /-- What stands before the query, with the characters that do not count. -/
  head : List Char
  query : Option (List Char)
  fragment : Option (List Char)
deriving DecidableEq

/-- The reference that a text is. -/
def Reference.ofText (s : String) : Reference :=
  let (body, fragment) := cutAt (· == '#') (Text.trimList isPadding s.toList)
  let (head, query) := cutAt (· == '?') body
  ⟨head, query.map counted, fragment.map counted⟩

/-- Whether nothing follows the head. -/
def Reference.endsWithHead (r : Reference) : Bool := r.query.isNone && r.fragment.isNone

/-- A character that may stand in a scheme. -/
def isSchemeChar (c : Char) : Bool := c.isAlphanum || c == '+' || c == '-' || c == '.'

/-- The scheme at the start of a text, and the text after its colon. -/
def scheme? (cs : List Char) : Option (String × List Char) :=
  let (name, rest?) := cutAt (· == ':') cs
  let name := counted name
  match rest?, name with
  | some rest, first :: _ =>
    if first.isAlpha && name.all isSchemeChar then
      some (String.ofList (name.map Text.lowerAscii), rest)
    else none
  | _, _ => none

/-- A URL with the query and the fragment of a reference. -/
def withTail (u : Url) (r : Reference) : Url :=
  { u with
    query := r.query.map fun q => String.ofList (percentEncode (inQuerySet (isSpecial u.scheme)) q)
    fragment := r.fragment.map fun f => String.ofList (percentEncode inFragmentSet f) }

/-- A URL of which a reference replaces the fragment, and the query if it has one. -/
def replaceTail (base : Url) (r : Reference) : Url :=
  let u := base.withTail r
  if r.query.isSome then u else { u with query := base.query }

/-- The URL of an authority at the start of a text. -/
def ofAuthority (scheme : String) (r : Reference) (cs : List Char) : Except UrlError Url := do
  let (authority, rest) ← parseAuthority scheme r.endsWithHead cs
  return Url.withTail ⟨scheme, some authority, pathAfterAuthority scheme rest, none, none⟩ r

/-- A `file` URL that takes nothing from a base. -/
def ofFilePath (r : Reference) (cs : List Char) : Url :=
  Url.withTail ⟨"file", some noHost, pathFrom "file" [] cs, none, none⟩ r

/-- The URL of a path from the root, given after its slash. The host and the drive of a base are
kept, unless the path names a drive itself. -/
def ofFileRoot (base : Option Url) (r : Reference) (cs : List Char) : Url :=
  match base with
  | none => ofFilePath r cs
  | some base =>
    if startsWithDrive (counted cs) then ofFilePath r cs
    else
      match base.path with
      | .segments (first :: _) =>
        if isPlainDrive first.toList then
          Url.withTail ⟨"file", some noHost, pathFrom "file" [first] cs, none, none⟩ r
        else Url.withTail ⟨"file", base.authority, pathFrom "file" [] cs, none, none⟩ r
      | _ => ofFilePath r cs

/-- The URL of a path from the directory of a base. -/
def ofRelativePath (base : Url) (r : Reference) (cs : List Char) : Url :=
  let segments := splitPath (isSpecial base.scheme) cs
  let trail := (base.path.start (base.scheme == "file")).followAll segments
  Url.withTail { base with path := trail.path } r

/-- The text behind a slash at the start of a text, if there is one. -/
def afterSlash? (cs : List Char) : Option (List Char) :=
  match cs.dropWhile isIgnored with
  | c :: rest => if isAnySlash c then some rest else none
  | [] => none

/-- A reference under the `file` scheme. -/
def resolveFile (base : Option Url) (r : Reference) (cs : List Char) : Except UrlError Url :=
  match afterSlash? cs with
  | some rest =>
    match afterSlash? rest with
    | some rest => do
      let (authority, path) ← parseFileAuthority rest
      return Url.withTail ⟨"file", some authority, path, none, none⟩ r
    | none => .ok (ofFileRoot base r rest)
  | none =>
    match base with
    | some base =>
      .ok (if (counted cs).isEmpty then base.replaceTail r
        else if startsWithDrive (counted cs) then ofFilePath r cs
        else ofRelativePath base r cs)
    | none => .ok (ofFilePath r cs)

/-- A reference to be resolved against a base of any scheme but `file`. -/
def resolveRelative (base : Url) (r : Reference) (cs : List Char) : Except UrlError Url :=
  match cs with
  | [] => .ok (base.replaceTail r)
  | '/' :: '/' :: rest => ofAuthority base.scheme r rest
  | first :: rest =>
    if isAnySlash first then
      match rest with
      | second :: _ =>
        if isAnySlash second then ofAuthority base.scheme r (rest.dropWhile isAnySlash)
        else .ok (Url.withTail { base with path := pathFrom base.scheme [] rest } r)
      | [] => .ok (Url.withTail { base with path := pathFrom base.scheme [] rest } r)
    else .ok (ofRelativePath base r cs)

/-- A reference with a scheme. -/
def resolveAbsolute (base : Option Url) (scheme : String) (r : Reference) (rest : List Char) :
    Except UrlError Url :=
  let cs := counted rest
  if scheme = "file" then resolveFile (base.filter (·.scheme == "file")) r rest
  else if isSpecial scheme then
    let slashes := cs.takeWhile isAnySlash
    match base with
    | some base =>
      if slashes.length < 2 ∧ base.scheme = scheme then resolveRelative base r cs
      else ofAuthority scheme r (cs.drop slashes.length)
    | none => ofAuthority scheme r (cs.drop slashes.length)
  else
    match cs with
    | '/' :: '/' :: rest => ofAuthority scheme r rest
    | '/' :: rest => .ok (Url.withTail ⟨scheme, none, pathFrom scheme [] rest, none, none⟩ r)
    | _ =>
      let path := .flat (String.ofList (percentEncode isControl cs))
      .ok (Url.withTail ⟨scheme, none, path, none, none⟩ r)

/-- A reference without a scheme. -/
def resolveBare (base : Url) (r : Reference) : Except UrlError Url :=
  let cs := counted r.head
  match base.path with
  | .flat _ =>
    if cs.isEmpty ∧ r.query.isNone ∧ r.fragment.isSome then .ok (base.replaceTail r)
    else .error .relativeWithFlatBase
  | .segments _ =>
    if base.scheme = "file" then resolveFile (some base) r r.head
    else resolveRelative base r cs

/-- The URL that a reference makes, resolved against a base if there is one. -/
def resolve (base : Option Url) (r : Reference) : Except UrlError Url :=
  match scheme? r.head, base with
  | some (scheme, rest), base => resolveAbsolute base scheme r rest
  | none, some base => resolveBare base r
  | none, none => .error .relativeWithoutBase

/-- The URL that a text is. -/
def parse (s : String) : Except UrlError Url := resolve none (.ofText s)

/-- The path of a reference to a place relative to a `file` URL. -/
def Reference.relativeFile? (base : Url) (r : Reference) : Option (List Char) :=
  if base.scheme != "file" then none
  else
    match scheme? r.head with
    | some (scheme, rest) => if scheme = "file" then some (counted rest) else none
    | none => some (counted r.head)

/-- Whether a reference leads above an inner drive that ends the path of its base. There is no such
place. -/
def leadsAboveDrive (base : Url) (r : Reference) : Bool :=
  !(base.path.start (base.scheme == "file")).stub.isEmpty &&
    (r.relativeFile? base).any fun cs => isDotDot (cs.takeWhile (!isAnySlash ·))

/-- The breakdown over a reference above a drive. -/
def aboveDrive : Panic :=
  ⟨"assertion failed: self.serialization.as_bytes()[segment_start - 1] == b'/'"⟩

/-- The URL that a text makes as a reference from a base. -/
def join (base : Url) (s : String) : Except Panic (Except UrlError Url) :=
  let r := Reference.ofText s
  if leadsAboveDrive base r then .error aboveDrive else .ok (resolve (some base) r)

end Url

end StyleHost
