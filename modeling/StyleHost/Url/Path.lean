import StyleHost.Url.Basic

/-!
# Paths of URLs

A path is read segment by segment. A segment `.` adds nothing and `..` takes back the segment
before, except that nothing takes back a drive letter. In a `file` URL the bar after a drive letter
at the start becomes a colon, and slashes at the start count once. Tabs and line breaks do not
count, save one: right after a drive letter at the start they end the segment.

* `Url.splitPath` : the segments of a text.
* `Url.Trail` : how far a path has been read.
* `Url.Trail.followAll` : the path that segments lead to.
-/

namespace StyleHost

namespace Url

/-- A character that does not count anywhere in a text. -/
def isIgnored (c : Char) : Bool := c == '\t' || c == '\n' || c == '\r'

/-- The characters of a text that count. -/
def counted (cs : List Char) : List Char := cs.filter (!isIgnored ·)

/-- A character that separates segments; a backslash does so under special schemes. -/
def isSlash (special : Bool) (c : Char) : Bool := c == '/' || (special && c == '\\')

/-- A character that separates segments under special schemes. -/
def isAnySlash (c : Char) : Bool := isSlash true c

/-- The segments of a text, which are one more than the slashes. -/
def splitPath (special : Bool) : List Char → List (List Char)
  | [] => [[]]
  | c :: cs =>
    if isSlash special c then [] :: splitPath special cs
    else
      match splitPath special cs with
      | segment :: segments => (c :: segment) :: segments
      | [] => [[c]]

/-- Whether a segment is a letter with a colon or a bar, which names a drive. -/
def isDrive : List Char → Bool
  | [letter, mark] => letter.isAlpha && (mark == ':' || mark == '|')
  | _ => false

/-- Whether a segment is a letter with a colon. -/
def isPlainDrive (segment : List Char) : Bool := isDrive segment && segment.getLast? == some ':'

/-- Whether a text starts with a drive as its first segment. -/
def startsWithDrive (cs : List Char) : Bool := isDrive (cs.takeWhile (!isAnySlash ·))

/-- The text with every encoded dot decoded. -/
def decodeDots : List Char → List Char
  | '%' :: '2' :: 'e' :: cs => '.' :: decodeDots cs
  | '%' :: '2' :: 'E' :: cs => '.' :: decodeDots cs
  | c :: cs => c :: decodeDots cs
  | [] => []

/-- Whether a segment stands for the directory itself. -/
def isDot (segment : List Char) : Bool := decodeDots segment == ['.']

/-- Whether a segment stands for the directory above. -/
def isDotDot (segment : List Char) : Bool := decodeDots segment == ['.', '.']

/-- The directory above a directory. -/
def parent (directory : List String) : List String :=
  if directory.getLast?.any (startsWithDrive ·.toList) then directory else directory.dropLast

/-- A segment with the characters that no path may hold encoded. -/
def encodeSegment (segment : List Char) : String := String.ofList (percentEncode inPathSet segment)

/-- The parts of a segment around a break that follows a drive letter at its start; there must be
something after the break. -/
def cutAfterDrive? (segment : List Char) : Option (List Char × List Char) :=
  let (drive, rest) := segment.span (· != ':')
  match rest with
  | mark :: ignored :: rest =>
    let drive := counted drive ++ [mark]
    if isIgnored ignored && isDrive drive && !(counted rest).isEmpty then
      some (drive, counted rest)
    else none
  | _ => none

/-- How far a path has been read. -/
structure Trail where
  isFile : Bool
  /-- The segments that a slash has closed. -/
  directory : List String := []
  /-- A text that the next segment goes on from. -/
  stub : String := ""
  /-- Whether a segment has named a drive. -/
  namesDrive : Bool := false

namespace Trail

/-- The segments read so far. -/
def settled (t : Trail) : List String :=
  if t.stub.isEmpty then t.directory else t.directory ++ [t.stub]

/-- The trail after other segments have been closed. -/
def close (t : Trail) (directory : List String) : Trail :=
  { t with directory := directory, stub := "" }

/-- The trail after a segment that stands for itself. -/
def name (t : Trail) (segment : List Char) : Trail :=
  let text := counted segment
  if t.isFile && t.settled.isEmpty then
    if isDrive text then
      { t.close [String.ofList (text.take 1 ++ [':'])] with namesDrive := true }
    else
      match cutAfterDrive? segment with
      | some (drive, rest) => t.close [String.ofList drive, encodeSegment rest]
      | none => t.close [encodeSegment text]
  else t.close (t.directory ++ [t.stub ++ encodeSegment text])

/-- The trail after a segment. A segment without a slash after it is the last; one of dots then
leads to a directory, whose path ends in a slash. -/
def follow (t : Trail) (segment : List Char) (isLast : Bool) : Trail :=
  let text := counted segment
  let ending := if isLast then [""] else []
  if isDotDot text then t.close (parent t.settled ++ ending)
  else if isDot text then t.close (t.settled ++ ending)
  else t.name segment

/-- The trail after all segments. -/
def followAll (t : Trail) : List (List Char) → Trail
  | [] => t
  | segment :: segments => (t.follow segment segments.isEmpty).followAll segments

/-- The path that a trail has led along. In a `file` URL empty segments at its start are left
out. -/
def path (t : Trail) : Path :=
  if t.isFile then
    match t.settled.dropWhile String.isEmpty with
    | [] => .segments [""]
    | names => .segments names
  else .segments t.settled

end Trail

/-- The trail of a text without its leading slash. -/
def trailOf (scheme : String) (directory : List String) (cs : List Char) : Trail :=
  ({ isFile := scheme == "file", directory } : Trail).followAll (splitPath (isSpecial scheme) cs)

/-- The path that a text without its leading slash leads to from a directory. -/
def pathFrom (scheme : String) (directory : List String) (cs : List Char) : Path :=
  (trailOf scheme directory cs).path

/-- The path that follows an authority. -/
def pathAfterAuthority (scheme : String) (cs : List Char) : Path :=
  match cs with
  | [] => if isSpecial scheme then .segments [""] else .segments []
  | c :: rest =>
    if isSlash (isSpecial scheme) c then pathFrom scheme [] rest else pathFrom scheme [] cs

/-- The trail on which a relative reference starts from a path: its last segment is left out. In a
`file` URL a drive is never left out, and what follows an inner one becomes part of it. -/
def Path.start (isFile : Bool) : Path → Trail
  | segments names =>
    match names.getLast? with
    | some last =>
      if isFile && isPlainDrive last.toList then
        if names.length = 1 then { isFile, directory := names }
        else { isFile, directory := names.dropLast, stub := last }
      else { isFile, directory := names.dropLast }
    | none => { isFile }
  | flat _ => { isFile }

end Url

end StyleHost
