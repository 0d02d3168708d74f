import StyleHost.Text.CodePoints

/-!
# Groups of letters in the root order

The primary weights of the root table are numbered in its order: spaces and punctuation first, then
symbols and digits, then the letters script by script, and ideographs last.

* `firstSpace`, `lastPunctuation`, `lastDigit`, `firstIdeographic` : where the groups begin or end.
* `scripts` : the scripts that a language may move before all others.
-/

namespace StyleHost

namespace Collation

open CodePoints

/-- The primary weight in front of all spaces and punctuation. -/
def firstSpace : Int := 0x2

/-- The primary weight of the last punctuation. -/
def lastPunctuation : Int := 0x2E3

/-- The primary weight of the digit nine, behind which the letters follow. -/
def lastDigit : Int := 0x1EBF

/-- The primary weight that heads those of all ideographs of the first block. -/
def firstIdeographic : Int := 0x7911

/-- A script whose letters a language may move before those of all others. -/
structure Script where
  /-- The code of the script, of four letters. -/
  code : String
  /-- The least primary weight of its letters. -/
  first : Int
  /-- The greatest primary weight of its letters. -/
  last : Int

/-- The codes of scripts with the primary weights of their letters. -/
def scriptTable : String :=
"Arab=229B-2387 Armn=2228-2251 Beng=26A0-26E2 Bopo=4140-4178 Cher=35D3-3629 Cyrl=20DB-2178
Deva=2639-269F Ethi=2457-2638 Geor=21D1-2227 Grek=2070-209D Gujr=271D-2762 Guru=26E3-271C
Hang=3E87-3FEC Hani=7910-7912 Hebr=2252-2268 Kana=3FED-413F Khmr=3324-336A Knda=2825-286F
Laoo=2EEE-2F2D Latn=1EC0-206F Mlym=2870-28BA Mong=3529-35AD Mymr=3218-32C7 Orya=2763-27A6
Sinh=28BB-2908 Taml=27A7-27D9 Telu=27DA-2824 Thai=2EAD-2EED"

/-- The scripts that languages move. -/
def scripts : Thunk (List Script) := Thunk.mk fun _ =>
  (words scriptTable).map fun word =>
    let (code, weights) := sides word
    let range := rangeOf weights
    ⟨String.ofList code, (range.1 : Int), (range.2 : Int)⟩

end Collation

end StyleHost
