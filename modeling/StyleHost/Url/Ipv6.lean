import StyleHost.Url.Ipv4

/-!
# IPv6 addresses

An address is written as eight hexadecimal pieces between colons. Once, two colons may stand for
any number of zero pieces, and the last two pieces may be written like an IPv4 address.

* `Ipv6.parse?` : the address that a text spells.
* `Ipv6.toString` : an address, with the first longest run of two or more zero pieces left out.
-/

namespace StyleHost

/-- An IPv6 address. -/
abbrev Ipv6 := Vector UInt16 8

namespace Ipv6

/-- The pieces read so far, and the number of them before the place of the colons. -/
structure Read where
  pieces : List Nat := []
  gap : Option Nat := none
deriving DecidableEq

/-- The digits at the start of a text, at most four, and the rest. -/
def takeDigits (cs : List Char) : List Char × List Char :=
  let digits := (cs.take 4).takeWhile fun c => (Ipv4.digit? 16 c).isSome
  (digits, cs.drop digits.length)

/-- A decimal number below 256 without leading zeros. -/
def decimalByte? (cs : List Char) : Option Nat := do
  let n ← if cs.isEmpty then none else Ipv4.digits? 10 cs
  if n < 256 ∧ (cs.length = 1 ∨ cs.head? ≠ some '0') then some n else none

/-- The two pieces of an IPv4 address. -/
def lastPieces? (cs : List Char) : Option (List Nat) := do
  match ← (Ipv4.split cs).mapM decimalByte? with
  | [a, b, c, d] => some [256 * a + b, 256 * c + d]
  | _ => none

/-- Reads pieces, each step taking up a part of the text. -/
def readUpTo : Nat → Read → List Char → Option Read
  | _, r, [] => some r
  | 0, _, _ :: _ => none
  | fuel + 1, r, c :: cs =>
    if r.pieces.length = 8 then none
    else if c = ':' then
      if r.gap.isSome then none
      else readUpTo fuel ⟨r.pieces ++ [0], some (r.pieces.length + 1)⟩ cs
    else
      let (digits, rest) := takeDigits (c :: cs)
      let next := { r with pieces := r.pieces ++ [(Ipv4.digits? 16 digits).getD 0] }
      match rest with
      | [] => some next
      | '.' :: _ =>
        if digits.isEmpty ∨ 6 < r.pieces.length then none
        else (lastPieces? (c :: cs)).map fun last => { r with pieces := r.pieces ++ last }
      | ':' :: rest => if rest.isEmpty then none else readUpTo fuel next rest
      | _ => none

/-- All eight pieces. -/
def expand? (r : Read) : Option (List Nat) :=
  match r.gap with
  | some gap =>
    some (r.pieces.take gap ++ List.replicate (8 - r.pieces.length) 0 ++ r.pieces.drop gap)
  | none => if r.pieces.length = 8 then some r.pieces else none

/-- The address that a text spells. -/
def parse? (cs : List Char) : Option Ipv6 := do
  let r ← match cs with
    | ':' :: ':' :: rest => readUpTo rest.length ⟨[0], some 1⟩ rest
    | ':' :: _ => none
    | _ => if cs.length < 2 then none else readUpTo cs.length {} cs
  let pieces ← expand? r
  return Vector.ofFn fun i => UInt16.ofNat (pieces.getD i 0)

/-- The length of the run of zeros at the start of some pieces. -/
def zeros (pieces : List Nat) : Nat := (pieces.takeWhile (· == 0)).length

/-- The start and the length of the first longest run of zeros. -/
def longestRun (pieces : List Nat) : Nat × Nat :=
  (List.range pieces.length).foldl (fun best i =>
    let run := zeros (pieces.drop i)
    if best.2 < run then (i, run) else best) (0, 0)

/-- Pieces between colons. -/
def join (pieces : List Nat) : String :=
  ":".intercalate (pieces.map fun p => String.ofList (Nat.toDigits 16 p))

/-- An address as a text. -/
def toString (address : Ipv6) : String :=
  let pieces := address.toList.map UInt16.toNat
  let (start, run) := longestRun pieces
  if run < 2 then join pieces
  else join (pieces.take start) ++ "::" ++ join (pieces.drop (start + run))

end Ipv6

end StyleHost
