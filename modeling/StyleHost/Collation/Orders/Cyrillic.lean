/-!
# Orders of languages in Cyrillic and Greek script

The rules of languages that are written in Cyrillic, Greek, Armenian and Georgian script, by the
names of their orders.

* `cyrillicOrders` : the rules by name.
-/

namespace StyleHost

namespace Collation

/-- The rules of languages in Cyrillic script and its neighbours. -/
def cyrillicOrders : List (String × String) :=
  [("be", "[reorder Cyrl]&Е<ё<<<Ё&у<ў<<<Ў"),
    ("bg", "[reorder Cyrl]"),
    ("bs-Cyrl", "[reorder Cyrl][suppress Ии]"),
    ("el", "[reorder Grek]"),
    ("hy", "[reorder Armn]&եվ<<<և"),
    ("ka", "[reorder Geor]"),
    ("kk", "[reorder Cyrl]&Е<ё<<<Ё&Ұ<ү<<<Ү&[before 1]ь<і<<<І"),
    ("ky", "[reorder Cyrl]&е<ё<<<Ё"),
    ("mk", "[reorder Cyrl][suppress Ии]&ԃ<ѓ<<<Ѓ&ћ<ќ<<<Ќ"),
    ("mn", "[reorder Cyrl Mong]"),
    ("ru", "[reorder Cyrl]"),
    ("sr", "[reorder Cyrl][suppress Ии]"),
    ("uk", "[reorder Cyrl]&Г<ґ<<<Ґ&ꙇ<ї<<<\ua676<<<Ї")]

end Collation

end StyleHost
