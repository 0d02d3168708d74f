import StyleHost.Text.Composition
import StyleHost.Text.Direction
import StyleHost.Text.Joining
import StyleHost.Text.Mark
import StyleHost.Url.Domain.Folding
import StyleHost.Url.Ipv4
import StyleHost.Url.Punycode

/-!
# Domain names

A domain name is a row of labels with dots between them. On the wire a label is an ASCII text, and
one that starts with `xn--` spells a label that is not. A name is folded first, and then every
label that is not plain ASCII has to keep certain rules, so that no two names look alike.

* `Url.Domain.Label.read?` : a label of a folded name, if it spells what it may spell.
* `Url.Domain.isLaidOut` : the rule on labels that are written from right to left.
* `Url.Domain.toAscii?` : the folded name on the wire.
-/

namespace StyleHost

namespace Url

namespace Domain

/-- A character of ASCII that no domain name may hold. -/
def isForbidden (c : Char) : Bool :=
  c.toNat ≤ 0x20 || c.toNat = 0x7F || "#%/:<>?@[\\]^|".toList.contains c

/-- The characters that keep letters apart (`U+200C`) or join them (`U+200D`) stand only where that
can be seen: after a mark that silences the vowel of a letter, and the first also between letters
that would join. The text before is given from its end on. -/
def areJoinersPlaced (before : List Char) : List Char → Bool
  | [] => true
  | c :: cs =>
    (!(c == '\u200C' || c == '\u200D')
      || (before.head?.any fun d => Text.combiningClass d = 9)
      || (c == '\u200C' && Text.Joining.isParted before cs))
    && areJoinersPlaced (c :: before) cs

/-- A label of a domain name. -/
structure Label where
  /-- The label on the wire. -/
  ascii : List Char
  /-- The label as it reads. -/
  text : List Char

namespace Label

/-- Whether a label that is not plain ASCII may read so. -/
def isValid (text : List Char) : Bool :=
  !(text.head?.any Text.isMark) && areJoinersPlaced [] text

/-- A label of a folded name. -/
def read? (label : List Char) : Option Label :=
  match label with
  | 'x' :: 'n' :: '-' :: '-' :: digits => do
    let text := (← Punycode.decode? digits).map Char.ofNat
    if label.all (·.toNat < 128) ∧ digits.getLast? ≠ some '-' ∧ text.any (128 ≤ ·.toNat) ∧
        text.all (!isForbidden ·) ∧ text.all isFolded ∧ Text.normalize text = text ∧
        isValid text then
      some ⟨label, text⟩
    else none
  | _ =>
    if label.all (·.toNat < 128) then some ⟨label, label⟩
    else if isValid label then some ⟨"xn--".toList ++ Punycode.encode label, label⟩
    else none

end Label

open Text.Direction in
/-- Whether a label can stand in a name with labels that are written from right to left. It is
written in one direction from its first character on, and ends in a character that shows it. -/
def isLaidOut (text : List Char) : Bool :=
  let runs := text.map Text.Direction.of
  let last := (runs.reverse.dropWhile (· = mark)).head?
  match runs.head? with
  | none => true
  | some leftToRight =>
    runs.all (fun d => d ≠ rightToLeft && d ≠ arabicNumber)
      && (last = some leftToRight || last = some europeanNumber)
  | some rightToLeft =>
    runs.all (· ≠ leftToRight) && last ≠ some neutral
      && !(runs.contains europeanNumber && runs.contains arabicNumber)
  | some _ => false

/-- Whether a text holds characters that are written from right to left. -/
def isBidirectional (text : List Char) : Bool :=
  text.any fun c =>
    0x590 ≤ c.toNat &&
      (Text.Direction.of c = .rightToLeft || Text.Direction.of c = .arabicNumber)

/-- A name with its characters folded. -/
def folding? (name : List Char) : Option (List Char) := do
  let parts ← name.mapM fold?
  some (Text.normalize parts.flatten)

/-- The folded name on the wire. -/
def toAscii? (name : List Char) : Option (List Char) := do
  let name ← folding? name
  let labels ← (Ipv4.split name).mapM Label.read?
  if name.any isForbidden then none
  else if labels.any (isBidirectional ·.text) && !labels.all (isLaidOut ·.text) then none
  else some (['.'].intercalate (labels.map (·.ascii)))

end Domain

end Url

end StyleHost
