import StyleHost.Panic
import StyleHost.Policy

/-!
# Configuration

The settings that hold for every run of a host.

* `Config` : the settings with their defaults.
* `Config.withFetchTimeout` : the settings with a time limit.
* `Duration.milliseconds?` : a span given in seconds and nanoseconds.
* `Duration.describe` : a number of milliseconds as messages give it.
-/

namespace StyleHost

/-- The settings of a host. -/
structure Config where
  /-- Leave out the XML declaration of XML results. -/
  omitXmlDeclaration : Bool := true
  /-- The number of variables that the engine may bind in one run. -/
  maxVariables : UInt64 := 20000
  /-- Make the extension functions available. -/
  exslt : Bool := true
  security : Policy := .standard
  /-- Give up a fetch after this many milliseconds. -/
  fetchTimeoutMs : Option UInt64 := none
  /-- The language of sort keys that name none. -/
  defaultLocale : Option String := none
deriving DecidableEq

namespace Duration

/-- The digits of a fraction of a second, without trailing zeros. -/
def fraction (milliseconds : Nat) : String :=
  let digits := [milliseconds / 100, milliseconds / 10 % 10, milliseconds % 10]
  let kept := (digits.reverse.dropWhile (· == 0)).reverse
  if kept.isEmpty then "" else "." ++ String.join (kept.map toString)

/-- A number of milliseconds in the largest unit of which there is one. -/
def describe (milliseconds : Nat) : String :=
  if milliseconds = 0 then "0ns"
  else if milliseconds < 1000 then toString milliseconds ++ "ms"
  else toString (milliseconds / 1000) ++ fraction (milliseconds % 1000) ++ "s"

/-- The nanoseconds of a second. -/
def nanosecondsPerSecond : Nat := 1000000000

/-- The whole milliseconds of a span given in seconds and nanoseconds. A span whose whole seconds
exceed 64 bits is none. -/
def milliseconds? (seconds nanoseconds : Nat) : Except Panic Nat :=
  if UInt64.size ≤ seconds + nanoseconds / nanosecondsPerSecond then
    .error ⟨"overflow in Duration::new"⟩
  else .ok (seconds * 1000 + nanoseconds / 1000000)

end Duration

/-- The settings with a limit for each fetch; its milliseconds are cut to 64 bits. -/
def Config.withFetchTimeout (c : Config) (milliseconds : Nat) : Config :=
  { c with fetchTimeoutMs := some (UInt64.ofNat (min milliseconds (UInt64.size - 1))) }

end StyleHost
