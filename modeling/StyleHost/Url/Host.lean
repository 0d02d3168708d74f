import StyleHost.Url.Domain
import StyleHost.Url.Error
import StyleHost.Url.Ipv6
import StyleHost.Url.Percent

/-!
# Hosts of URLs

A host is a domain name or an address. Under the special schemes a name is decoded and folded, and
one that ends in a number is an IPv4 address. Under other schemes a name is only
encoded. An IPv6 address stands in brackets under all of them.

* `Url.Host.parse` : a host under a special scheme.
* `Url.Host.parseVerbatim` : a host under any other scheme.
-/

namespace StyleHost

namespace Url

/-- The host of a URL. -/
inductive Host where
  /-- No host, as in `file:///a`. -/
  | empty
  | domain (name : String)
  | ipv4 (address : UInt32)
  | ipv6 (address : Ipv6)
deriving DecidableEq

namespace Host

/-- The host as a text. -/
def toString : Host → String
  | empty => ""
  | domain name => name
  | ipv4 address => Ipv4.toString address
  | ipv6 address => "[" ++ Ipv6.toString address ++ "]"

/-- A character that no host may hold. -/
def isForbidden (c : Char) : Bool := "\x00\t\n\r #/:<>?@[\\]^|".toList.contains c

/-- An address in brackets, after the first of them. -/
def parseBracketed (cs : List Char) : Except UrlError Host :=
  if cs.getLast? = some ']' then
    match Ipv6.parse? cs.dropLast with
    | some address => .ok (ipv6 address)
    | none => .error .invalidIpv6
  else .error .invalidIpv6

/-- The host that a domain name on the wire names. -/
def ofName (name : List Char) : Except UrlError Host :=
  if name.isEmpty then .error .emptyHost
  else if Ipv4.endsInNumber name then
    match Ipv4.parse? name with
    | some address => .ok (ipv4 address)
    | none => .error .invalidIpv4
  else .ok (domain (String.ofList name))

/-- A host under a special scheme. -/
def parse (cs : List Char) : Except UrlError Host :=
  match cs with
  | '[' :: rest => parseBracketed rest
  | _ =>
    match Utf8.decodeChars (percentDecode (Utf8.encode (String.ofList cs))) with
    | .ok name =>
      match Domain.toAscii? name with
      | some name => ofName name
      | none => .error .invalidDomain
    | .error _ => .error .invalidDomain

/-- A host under a scheme that is not special. -/
def parseVerbatim (cs : List Char) : Except UrlError Host :=
  match cs with
  | [] => .ok empty
  | '[' :: rest => parseBracketed rest
  | _ =>
    if cs.any isForbidden then .error .forbiddenHostCharacter
    else .ok (domain (String.ofList (percentEncode isControl cs)))

end Host

end Url

end StyleHost
