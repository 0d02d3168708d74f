import StyleHost.Collation.Orders.Pinyin
import StyleHost.Collation.Orders.Stroke
import StyleHost.Collation.Orders.Zhuyin

/-!
# Orders of Chinese

Chinese has several orders of ideographs. In all of them a Latin letter with a tone mark precedes
the letter without one.

* `chineseOrders` : the rules by name.
-/

namespace StyleHost

namespace Collation

/-- Letters with tone marks. -/
def toneRules : String :=
"&[before 2]a<<ā<<<Ā<<á<<<Á<<ǎ<<<Ǎ<<à<<<À&[before 2]e<<ē<<<Ē<<é<<<É<<ě<<<Ě<<è<<<È
&e<<ê\u0304<<<Ê\u0304<<ế<<<Ế<<ê\u030c<<<Ê\u030c<<ề<<<Ề&[before 2]i<<ī<<<Ī<<í<<<Í<<ǐ<<<Ǐ<<ì<<<Ì
&[before 2]m<<m\u0304<<<M\u0304<<ḿ<<<Ḿ<<m\u030c<<<M\u030c<<m\u0300<<<M\u0300
&[before 2]n<<n\u0304<<<N\u0304<<ń<<<Ń<<ň<<<Ň<<ǹ<<<Ǹ&[before 2]o<<ō<<<Ō<<ó<<<Ó<<ǒ<<<Ǒ<<ò<<<Ò
&[before 2]u<<ū<<<Ū<<ú<<<Ú<<ǔ<<<Ǔ<<ù<<<Ù&U<<ǖ<<<Ǖ<<ǘ<<<Ǘ<<ǚ<<<Ǚ<<ǜ<<<Ǜ<<ü<<<Ü"

/-- The rules of Chinese. -/
def chineseOrders : List (String × String) :=
  [("zh", toneRules ++ pinyinRules), ("zh@stroke", toneRules ++ strokeRules),
    ("zh@zhuyin", toneRules ++ zhuyinRules), ("zh@unihan", toneRules ++ "[reorder Hani Bopo]")]

end Collation

end StyleHost
