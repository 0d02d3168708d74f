import StyleHost.Url.Parser

/-!
# Local paths of URLs

* `Url.toFilePath?` : the path of a local file that a URL names. The segments are decoded, so they
  may hold slashes of their own, and need not be texts.
-/

namespace StyleHost

namespace Url

/-- The byte of a slash. -/
def slash : UInt8 := 0x2F

/-- A path with a slash added if it ends in a drive. -/
def closeDrive (path : Bytes) : Bytes :=
  match path.reverse with
  | mark :: letter :: _ :: _ =>
    if (Char.ofNat letter.toNat).isAlpha ∧ (mark = 0x3A ∨ mark = 0x7C) then path ++ [slash]
    else path
  | _ => path

/-- The path of the local file that a URL names, if it names one: it must have no other host than
`localhost`. -/
def toFilePath? (u : Url) : Option Bytes :=
  let host := (u.authority.map (·.host)).getD .empty
  match u.path with
  | .segments (name :: names) =>
    if host = .empty ∨ host = .domain "localhost" then
      let segment := fun (name : String) => slash :: percentDecode (Utf8.encode name)
      some (closeDrive ((name :: names).flatMap segment))
    else none
  | _ => none

end Url

end StyleHost
