/-!
# IPv4 addresses

An address is written as up to four numbers between dots, of which the last fills the bytes that
the others leave. A number may be decimal, octal after a zero, or hexadecimal after `0x`.

* `Ipv4.parse?` : the address that a host name spells.
* `Ipv4.endsInNumber` : whether a host name claims to be an address.
* `Ipv4.toString` : an address as four decimal numbers.
-/

namespace StyleHost

namespace Ipv4

/-- The value of a digit in a base up to 16. -/
def digit? (base : Nat) (c : Char) : Option Nat :=
  let value := if c.isDigit then c.toNat - '0'.toNat else c.toLower.toNat - 'a'.toNat + 10
  if (c.isDigit || ('a' ≤ c.toLower && c.toLower ≤ 'f')) && value < base then some value else none

/-- The number that digits spell. -/
def digits? (base : Nat) (cs : List Char) : Option Nat :=
  cs.foldlM (fun n c => (digit? base c).map (base * n + ·)) 0

/-- The number that a part of an address spells. -/
def number? : List Char → Option Nat
  | [] => none
  | '0' :: 'x' :: cs => digits? 16 cs
  | '0' :: 'X' :: cs => digits? 16 cs
  | '0' :: c :: cs => digits? 8 (c :: cs)
  | cs => digits? 10 cs

/-- The parts between the dots. -/
def split : List Char → List (List Char)
  | [] => [[]]
  | '.' :: cs => [] :: split cs
  | c :: cs =>
    match split cs with
    | part :: parts => (c :: part) :: parts
    | [] => [[c]]

/-- The parts of a host name, without an empty one at the end. -/
def parts (cs : List Char) : List (List Char) :=
  let all := split cs
  if 1 < all.length ∧ all.getLast? = some [] then all.dropLast else all

/-- Whether a host name claims to be an address: its last part is a number. -/
def endsInNumber (cs : List Char) : Bool :=
  match (parts cs).getLast? with
  | some part => (!part.isEmpty && part.all Char.isDigit) || (number? part).isSome
  | none => false

/-- The address that numbers make up. -/
def combine? (numbers : List Nat) : Option UInt32 :=
  match numbers.reverse with
  | [] => none
  | last :: others =>
    if numbers.length ≤ 4 ∧ last < Nat.pow 256 (4 - others.length) ∧ others.all (· < 256) then
      let high := others.reverse.foldl (fun n b => 256 * n + b) 0
      some (UInt32.ofNat (high * Nat.pow 256 (4 - others.length) + last))
    else none

/-- The address that a host name spells. -/
def parse? (cs : List Char) : Option UInt32 := do
  combine? (← (parts cs).mapM number?)

/-- An address as four decimal numbers. -/
def toString (address : UInt32) : String :=
  let n := address.toNat
  let bytes := [n >>> 24, (n >>> 16) % 256, (n >>> 8) % 256, n % 256]
  ".".intercalate (bytes.map fun b => s!"{b}")

end Ipv4

end StyleHost
