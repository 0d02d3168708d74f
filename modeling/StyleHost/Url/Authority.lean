import StyleHost.Url.Path

/-!
# Authorities of URLs

An authority consists of credentials before the last `@`, of a host and of a port. It ends at the
first slash.

* `Url.parseAuthority` : the authority at the start of a text, and the path after it.
* `Url.parseFileAuthority` : the same in a `file` URL, which has no credentials and no port.
-/

namespace StyleHost

namespace Url

/-- The texts around the first character of a kind; the second is none if there is no such
character. -/
def cutAt (p : Char → Bool) (cs : List Char) : List Char × Option (List Char) :=
  (cs.takeWhile (!p ·), (cs.dropWhile (!p ·)).tail?)

/-- The texts around the last `@`; the first is none if there is no such character. -/
def cutCredentials (cs : List Char) : Option (List Char) × List Char :=
  match cutAt (· == '@') cs.reverse with
  | (host, some credentials) => (some credentials.reverse, host.reverse)
  | (_, none) => (none, cs)

/-- The length of the host at the start of a text: up to the first colon that is not in
brackets. -/
def hostLength (inBrackets : Bool) : List Char → Nat
  | [] => 0
  | c :: cs =>
    if c = ':' ∧ !inBrackets then 0
    else hostLength (c = '[' ∨ (inBrackets ∧ c ≠ ']')) cs + 1

/-- The port that digits spell; none if it is the one that the scheme implies. -/
def parsePort (scheme : String) (cs : List Char) : Except UrlError (Option Nat) :=
  if cs.isEmpty then .ok none
  else
    match Ipv4.digits? 10 cs with
    | none => .error .invalidPort
    | some port =>
      if 65535 < port then .error .invalidPort
      else .ok (if defaultPort? scheme = some port then none else some port)

/-- The host and the port that a text spells, and what follows them. -/
def parseHostAndPort (scheme : String) (cs : List Char) :
    Except UrlError (Host × Option Nat × List Char) := do
  let host := cs.take (hostLength false cs)
  let rest := cs.drop host.length
  let host ←
    if isSpecial scheme then (if host.isEmpty then .error .emptyHost else Host.parse host)
    else Host.parseVerbatim host
  match rest with
  | [] => return (host, none, [])
  | _ :: rest =>
    if host = .empty then .error .emptyHost
    else
      let port ← parsePort scheme (rest.takeWhile (· != '\\'))
      return (host, port, rest.dropWhile (· != '\\'))

/-- The authority at the start of a text, and the text after it. Credentials must be followed by a
host; `isLast` says that the text is the end of the URL. -/
def parseAuthority (scheme : String) (isLast : Bool) (cs : List Char) :
    Except UrlError (Authority × List Char) := do
  let isEnd := isSlash (isSpecial scheme)
  let text := cs.takeWhile (!isEnd ·)
  let after := cs.drop text.length
  let (credentials, text) := cutCredentials text
  if credentials = some [] ∧ text = [] ∧ ¬(after = [] ∧ isLast) then .error .emptyHost
  else
    let (username, password) := cutAt (· == ':') (credentials.getD [])
    let (host, port, rest) ← parseHostAndPort scheme text
    let encode := fun cs => String.ofList (percentEncode inUserinfoSet cs)
    let authority : Authority := ⟨encode username, encode (password.getD []), host, port⟩
    if host = .empty ∧ authority.credentials ≠ "" then .error .emptyHost
    else return (authority, rest ++ after)

/-- The authority of a `file` URL without a host. -/
def noHost : Authority := { host := .empty }

/-- The authority and the path of a `file` URL, after the two slashes. A drive is no host, and a
path that starts with a drive has none. Where there is no host, the slash of the path counts as one
of those at its start. -/
def parseFileAuthority (cs : List Char) : Except UrlError (Authority × Path) := do
  let text := counted (cs.takeWhile (!isAnySlash ·))
  let after := cs.dropWhile (!isAnySlash ·)
  if text.isEmpty then return (noHost, pathFrom "file" [] after)
  else if isDrive text then return (noHost, pathFrom "file" [] cs)
  else
    let host ← Host.parse text
    if host = .domain "localhost" then return (noHost, pathFrom "file" [] after)
    else
      let trail := trailOf "file" [] (after.drop 1)
      return ({ host := if trail.namesDrive then .empty else host }, trail.path)

end Url

end StyleHost
