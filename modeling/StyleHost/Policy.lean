import StyleHost.Text.Ascii

/-!
# Security policies

A policy decides, capability by capability, which side effects a stylesheet may have. Reading is
judged by the form of the reference: a reference with a URI scheme other than `file` needs the
network, any other reference is a local path.

* `Policy.allows`, `Policy.set` : the decision for one capability and its replacement.
* `Capability.toRead` : the capability that reading a reference needs.
-/

namespace StyleHost

/-- A decision on one capability. -/
inductive Access where
  | allow
  | forbid
deriving DecidableEq

/-- A side effect that a stylesheet can ask for. -/
inductive Capability where
  | readFile
  | writeFile
  | createDirectory
  | readNetwork
  | writeNetwork
deriving DecidableEq

namespace Capability

/-- All capabilities. -/
def all : List Capability := [readFile, writeFile, createDirectory, readNetwork, writeNetwork]

/-- The name that messages use. -/
def name : Capability → String
  | readFile => "ReadFile"
  | writeFile => "WriteFile"
  | createDirectory => "CreateDirectory"
  | readNetwork => "ReadNetwork"
  | writeNetwork => "WriteNetwork"

/-- A character that may stand in a URI scheme. -/
def isSchemeChar (c : Char) : Bool :=
  c.isAlphanum || c == '+' || c == '-' || c == '.'

/-- The scheme of a reference: what precedes its first colon, if that is a word of at least two
scheme characters. A single letter before a colon names a drive. -/
def scheme? (uri : List Char) : Option (List Char) :=
  let before := uri.takeWhile (· != ':')
  if before.length < uri.length ∧ 1 < before.length ∧ before.all isSchemeChar then some before
  else none

/-- The capability that reading the reference `uri` needs. -/
def toRead (uri : String) : Capability :=
  match scheme? uri.toList with
  | some scheme => if Text.eqIgnoreCase (String.ofList scheme) "file" then readFile else readNetwork
  | none => readFile

end Capability

/-- A decision for every capability. -/
structure Policy where
  readFile : Access
  writeFile : Access
  createDirectory : Access
  readNetwork : Access
  writeNetwork : Access
deriving DecidableEq

namespace Policy

/-- Reading is allowed, since fetches pass through the host; writing is not. -/
def standard : Policy := ⟨.allow, .forbid, .forbid, .allow, .forbid⟩

/-- Nothing is allowed. -/
def lockedDown : Policy := ⟨.forbid, .forbid, .forbid, .forbid, .forbid⟩

/-- The decision for a capability. -/
def access (p : Policy) : Capability → Access
  | .readFile => p.readFile
  | .writeFile => p.writeFile
  | .createDirectory => p.createDirectory
  | .readNetwork => p.readNetwork
  | .writeNetwork => p.writeNetwork

/-- Whether a capability is allowed. -/
def allows (p : Policy) (c : Capability) : Bool := p.access c == .allow

/-- The policy with the decision for one capability replaced. -/
def set (p : Policy) (c : Capability) (a : Access) : Policy :=
  match c with
  | .readFile => { p with readFile := a }
  | .writeFile => { p with writeFile := a }
  | .createDirectory => { p with createDirectory := a }
  | .readNetwork => { p with readNetwork := a }
  | .writeNetwork => { p with writeNetwork := a }

/-- Whether the policy admits reading the reference `uri`. -/
def admits (p : Policy) (uri : String) : Bool := p.allows (Capability.toRead uri)

theorem access_set (p : Policy) (c d : Capability) (a : Access) :
    (p.set c a).access d = if d = c then a else p.access d := by
  cases c <;> cases d <;> rfl

end Policy

end StyleHost
