/-!
# Orders of languages of Southeast Asia and America

The rules of Khmer, Lao, Burmese and Thai, and of Cherokee, by the names of their orders.

* `asianOrders` : the rules by name.
-/

namespace StyleHost

namespace Collation

/-- The rules of languages in the scripts of Southeast Asia, and of Cherokee. -/
def asianOrders : List (String × String) :=
  [("chr", "[reorder Cher]"),
    ("km",
      "[reorder Khmr]&[last tertiary ignorable]=\u17b4=\u17b5&។ល។<<<៘&\u17c8<<\u17ce<<\u17cf
<<\u17d1<<\u17d0<<\u17c8<<\u17dd<<\u17cb<<\u17c9<<\u17ca<<\u17cd&រ<ឫ<ឬ&ល<ឭ<ឮ
&រ\u17d2ក<<ក\u17cc&រ\u17d2ខ<<ខ\u17cc&រ\u17d2គ<<គ\u17cc&រ\u17d2ឃ<<ឃ\u17cc&រ\u17d2ង<<ង\u17cc
&រ\u17d2ច<<ច\u17cc&រ\u17d2ឆ<<ឆ\u17cc&រ\u17d2ជ<<ជ\u17cc&រ\u17d2ឈ<<ឈ\u17cc&រ\u17d2ញ<<ញ\u17cc
&រ\u17d2ដ<<ដ\u17cc&រ\u17d2ឋ<<ឋ\u17cc&រ\u17d2ឌ<<ឌ\u17cc&រ\u17d2ឍ<<ឍ\u17cc&រ\u17d2ណ<<ណ\u17cc
&រ\u17d2ត<<ត\u17cc&រ\u17d2ថ<<ថ\u17cc&រ\u17d2ទ<<ទ\u17cc&រ\u17d2ធ<<ធ\u17cc&រ\u17d2ន<<ន\u17cc
&រ\u17d2ប<<ប\u17cc&រ\u17d2ផ<<ផ\u17cc&រ\u17d2ព<<ព\u17cc&រ\u17d2ភ<<ភ\u17cc&រ\u17d2ម<<ម\u17cc
&រ\u17d2យ<<យ\u17cc&រ\u17d2រ<<រ\u17cc&រ\u17d2ឫ<<ឫ\u17cc&រ\u17d2ឬ<<ឬ\u17cc&រ\u17d2ល<<ល\u17cc
&រ\u17d2ឭ<<ឭ\u17cc&រ\u17d2ឮ<<ឮ\u17cc&រ\u17d2វ<<វ\u17cc&រ\u17d2ឝ<<ឝ\u17cc&រ\u17d2ឞ<<ឞ\u17cc
&រ\u17d2ស<<ស\u17cc&រ\u17d2ហ<<ហ\u17cc&រ\u17d2ឡ<<ឡ\u17cc&រ\u17d2អ<<អ\u17cc=ឣ\u17cc&អ=ឣ
&អ\u17b6=ឤ&អ\u17b7<<ឥ&អ\u17b8<<ឦ&អ\u17bb<<ឧ&អ\u17bc<<ឩ&អ\u17c2<<ឯ&អ\u17c3<<ឰ&អ\u17c4<<ឱ
&អ\u17c5<<ឳ&ឧក<<<ឨ&ឩវ<<<ឪ&ឱ<<<ឲ&\u17c5<\u17bb\u17c6<\u17c6<\u17b6\u17c6<\u17c7<\u17b7\u17c7
<\u17bb\u17c7<\u17c1\u17c7<\u17c4\u17c7"),
    ("lo", "[reorder Laoo]"),
    ("my",
      "[reorder Mymr]&\u108c<\u1037<\u1038<\u1037\u1038&\u102c<<\u102b&\u1032<\u1031\u102c
<<\u1031\u102b<\u1031\u102c\u103a<<\u1031\u102b\u103a&\u1034<\u1036<\u102d\u102f<က\u1039
<<က\u103a<\u102cက\u1039<<\u102cက\u103a<<\u102bက\u1039<<\u102bက\u103a<\u102dက\u1039
<<\u102dက\u103a<\u102fက\u1039<<\u102fက\u103a<\u1031က\u1039<<\u1031က\u103a
<\u1031\u102cက\u1039<<\u1031\u102cက\u103a<<\u1031\u102bက\u1039<<\u1031\u102bက\u103a
<\u102d\u102fက\u1039<<\u102d\u102fက\u103a<ခ\u1039<<ခ\u103a<\u102cခ\u1039<<\u102cခ\u103a
<<\u102bခ\u1039<<\u102bခ\u103a<\u102dခ\u1039<<\u102dခ\u103a<\u102fခ\u1039<<\u102fခ\u103a
<\u1031ခ\u1039<<\u1031ခ\u103a<\u1031\u102cခ\u1039<<\u1031\u102cခ\u103a<<\u1031\u102bခ\u1039
<<\u1031\u102bခ\u103a<\u102d\u102fခ\u1039<<\u102d\u102fခ\u103a<ဂ\u1039<<ဂ\u103a
<\u102cဂ\u1039<<\u102cဂ\u103a<<\u102bဂ\u1039<<\u102bဂ\u103a<\u102dဂ\u1039<<\u102dဂ\u103a
<\u102fဂ\u1039<<\u102fဂ\u103a<\u1031ဂ\u1039<<\u1031ဂ\u103a<\u1031\u102cဂ\u1039
<<\u1031\u102cဂ\u103a<<\u1031\u102bဂ\u1039<<\u1031\u102bဂ\u103a<\u102d\u102fဂ\u1039
<<\u102d\u102fဂ\u103a<ဃ\u1039<<ဃ\u103a<\u102cဃ\u1039<<\u102cဃ\u103a<<\u102bဃ\u1039
<<\u102bဃ\u103a<\u102dဃ\u1039<<\u102dဃ\u103a<\u102fဃ\u1039<<\u102fဃ\u103a<\u1031ဃ\u1039
<<\u1031ဃ\u103a<\u1031\u102cဃ\u1039<<\u1031\u102cဃ\u103a<<\u1031\u102bဃ\u1039
<<\u1031\u102bဃ\u103a<\u102d\u102fဃ\u1039<<\u102d\u102fဃ\u103a<င\u103a\u1039<<င\u103a
<\u102cင\u103a\u1039<<\u102cင\u103a<<\u102bင\u103a\u1039<<\u102bင\u103a<\u102dင\u103a\u1039
<<\u102dင\u103a<\u102fင\u103a\u1039<<\u102fင\u103a<\u1031င\u103a\u1039<<\u1031င\u103a
<\u1031\u102cင\u103a\u1039<<\u1031\u102cင\u103a<<\u1031\u102bင\u103a\u1039
<<\u1031\u102bင\u103a<\u102d\u102fင\u103a\u1039<<\u102d\u102fင\u103a<စ\u1039<<စ\u103a
<\u102cစ\u1039<<\u102cစ\u103a<<\u102bစ\u1039<<\u102bစ\u103a<\u102dစ\u1039<<\u102dစ\u103a
<\u102fစ\u1039<<\u102fစ\u103a<\u1031စ\u1039<<\u1031စ\u103a<\u1031\u102cစ\u1039
<<\u1031\u102cစ\u103a<<\u1031\u102bစ\u1039<<\u1031\u102bစ\u103a<\u102d\u102fစ\u1039
<<\u102d\u102fစ\u103a<ဆ\u1039<<ဆ\u103a<\u102cဆ\u1039<<\u102cဆ\u103a<<\u102bဆ\u1039
<<\u102bဆ\u103a<\u102dဆ\u1039<<\u102dဆ\u103a<\u102fဆ\u1039<<\u102fဆ\u103a<\u1031ဆ\u1039
<<\u1031ဆ\u103a<\u1031\u102cဆ\u1039<<\u1031\u102cဆ\u103a<<\u1031\u102bဆ\u1039
<<\u1031\u102bဆ\u103a<\u102d\u102fဆ\u1039<<\u102d\u102fဆ\u103a<ဇ\u1039<<ဇ\u103a
<\u102cဇ\u1039<<\u102cဇ\u103a<<\u102bဇ\u1039<<\u102bဇ\u103a<\u102dဇ\u1039<<\u102dဇ\u103a
<\u102fဇ\u1039<<\u102fဇ\u103a<\u1031ဇ\u1039<<\u1031ဇ\u103a<\u1031\u102cဇ\u1039
<<\u1031\u102cဇ\u103a<<\u1031\u102bဇ\u1039<<\u1031\u102bဇ\u103a<\u102d\u102fဇ\u1039
<<\u102d\u102fဇ\u103a<ဈ\u103a<\u102cဈ\u103a<<\u102bဈ\u103a<\u102dဈ\u103a<\u102fဈ\u103a
<\u1031ဈ\u103a<\u1031\u102cဈ\u103a<<\u1031\u102bဈ\u103a<\u102d\u102fဈ\u103a<ဉ\u1039<<ဉ\u103a
<\u102cဉ\u1039<<\u102cဉ\u103a<<\u102bဉ\u1039<<\u102bဉ\u103a<\u102dဉ\u1039<<\u102dဉ\u103a
<\u102fဉ\u1039<<\u102fဉ\u103a<\u1031ဉ\u1039<<\u1031ဉ\u103a<\u1031\u102cဉ\u1039
<<\u1031\u102cဉ\u103a<<\u1031\u102bဉ\u1039<<\u1031\u102bဉ\u103a<\u102d\u102fဉ\u1039
<<\u102d\u102fဉ\u103a<ည\u1039<<ည\u103a<\u102cည\u1039<<\u102cည\u103a<<\u102bည\u1039
<<\u102bည\u103a<\u102dည\u1039<<\u102dည\u103a<\u102fည\u1039<<\u102fည\u103a<\u1031ည\u1039
<<\u1031ည\u103a<\u1031\u102cည\u1039<<\u1031\u102cည\u103a<<\u1031\u102bည\u1039
<<\u1031\u102bည\u103a<\u102d\u102fည\u1039<<\u102d\u102fည\u103a<ဋ\u1039<<ဋ\u103a
<\u102cဋ\u1039<<\u102cဋ\u103a<<\u102bဋ\u1039<<\u102bဋ\u103a<\u102dဋ\u1039<<\u102dဋ\u103a
<\u102fဋ\u1039<<\u102fဋ\u103a<\u1031ဋ\u1039<<\u1031ဋ\u103a<\u1031\u102cဋ\u1039
<<\u1031\u102cဋ\u103a<<\u1031\u102bဋ\u1039<<\u1031\u102bဋ\u103a<\u102d\u102fဋ\u1039
<<\u102d\u102fဋ\u103a<ဌ\u1039<<ဌ\u103a<\u102cဌ\u1039<<\u102cဌ\u103a<<\u102bဌ\u1039
<<\u102bဌ\u103a<\u102dဌ\u1039<<\u102dဌ\u103a<\u102fဌ\u1039<<\u102fဌ\u103a<\u1031ဌ\u1039
<<\u1031ဌ\u103a<\u1031\u102cဌ\u1039<<\u1031\u102cဌ\u103a<<\u1031\u102bဌ\u1039
<<\u1031\u102bဌ\u103a<\u102d\u102fဌ\u1039<<\u102d\u102fဌ\u103a<ဍ\u1039<<ဍ\u103a
<\u102cဍ\u1039<<\u102cဍ\u103a<<\u102bဍ\u1039<<\u102bဍ\u103a<\u102dဍ\u1039<<\u102dဍ\u103a
<\u102fဍ\u1039<<\u102fဍ\u103a<\u1031ဍ\u1039<<\u1031ဍ\u103a<\u1031\u102cဍ\u1039
<<\u1031\u102cဍ\u103a<<\u1031\u102bဍ\u1039<<\u1031\u102bဍ\u103a<\u102d\u102fဍ\u1039
<<\u102d\u102fဍ\u103a<ဎ\u1039<<ဎ\u103a<\u102cဎ\u1039<<\u102cဎ\u103a<<\u102bဎ\u1039
<<\u102bဎ\u103a<\u102dဎ\u1039<<\u102dဎ\u103a<\u102fဎ\u1039<<\u102fဎ\u103a<\u1031ဎ\u1039
<<\u1031ဎ\u103a<\u1031\u102cဎ\u1039<<\u1031\u102cဎ\u103a<<\u1031\u102bဎ\u1039
<<\u1031\u102bဎ\u103a<\u102d\u102fဎ\u1039<<\u102d\u102fဎ\u103a<ဏ\u1039<<ဏ\u103a
<\u102cဏ\u1039<<\u102cဏ\u103a<<\u102bဏ\u1039<<\u102bဏ\u103a<\u102dဏ\u1039<<\u102dဏ\u103a
<\u102fဏ\u1039<<\u102fဏ\u103a<\u1031ဏ\u1039<<\u1031ဏ\u103a<\u1031\u102cဏ\u1039
<<\u1031\u102cဏ\u103a<<\u1031\u102bဏ\u1039<<\u1031\u102bဏ\u103a<\u102d\u102fဏ\u1039
<<\u102d\u102fဏ\u103a<တ\u1039<<တ\u103a<\u102cတ\u1039<<\u102cတ\u103a<<\u102bတ\u1039
<<\u102bတ\u103a<\u102dတ\u1039<<\u102dတ\u103a<\u102fတ\u1039<<\u102fတ\u103a<\u1031တ\u1039
<<\u1031တ\u103a<\u1031\u102cတ\u1039<<\u1031\u102cတ\u103a<<\u1031\u102bတ\u1039
<<\u1031\u102bတ\u103a<\u102d\u102fတ\u1039<<\u102d\u102fတ\u103a<ထ\u1039<<ထ\u103a
<\u102cထ\u1039<<\u102cထ\u103a<<\u102bထ\u1039<<\u102bထ\u103a<\u102dထ\u1039<<\u102dထ\u103a
<\u102fထ\u1039<<\u102fထ\u103a<\u1031ထ\u1039<<\u1031ထ\u103a<\u1031\u102cထ\u1039
<<\u1031\u102cထ\u103a<<\u1031\u102bထ\u1039<<\u1031\u102bထ\u103a<\u102d\u102fထ\u1039
<<\u102d\u102fထ\u103a<ဒ\u1039<<ဒ\u103a<\u102cဒ\u1039<<\u102cဒ\u103a<<\u102bဒ\u1039
<<\u102bဒ\u103a<\u102dဒ\u1039<<\u102dဒ\u103a<\u102fဒ\u1039<<\u102fဒ\u103a<\u1031ဒ\u1039
<<\u1031ဒ\u103a<\u1031\u102cဒ\u1039<<\u1031\u102cဒ\u103a<<\u1031\u102bဒ\u1039
<<\u1031\u102bဒ\u103a<\u102d\u102fဒ\u1039<<\u102d\u102fဒ\u103a<ဓ\u1039<<ဓ\u103a
<\u102cဓ\u1039<<\u102cဓ\u103a<<\u102bဓ\u1039<<\u102bဓ\u103a<\u102dဓ\u1039<<\u102dဓ\u103a
<\u102fဓ\u1039<<\u102fဓ\u103a<\u1031ဓ\u1039<<\u1031ဓ\u103a<\u1031\u102cဓ\u1039
<<\u1031\u102cဓ\u103a<<\u1031\u102bဓ\u1039<<\u1031\u102bဓ\u103a<\u102d\u102fဓ\u1039
<<\u102d\u102fဓ\u103a<န\u1039<<န\u103a<\u102cန\u1039<<\u102cန\u103a<<\u102bန\u1039
<<\u102bန\u103a<\u102dန\u1039<<\u102dန\u103a<\u102fန\u1039<<\u102fန\u103a<\u1031န\u1039
<<\u1031န\u103a<\u1031\u102cန\u1039<<\u1031\u102cန\u103a<<\u1031\u102bန\u1039
<<\u1031\u102bန\u103a<\u102d\u102fန\u1039<<\u102d\u102fန\u103a<ပ\u1039<<ပ\u103a
<\u102cပ\u1039<<\u102cပ\u103a<<\u102bပ\u1039<<\u102bပ\u103a<\u102dပ\u1039<<\u102dပ\u103a
<\u102fပ\u1039<<\u102fပ\u103a<\u1031ပ\u1039<<\u1031ပ\u103a<\u1031\u102cပ\u1039
<<\u1031\u102cပ\u103a<<\u1031\u102bပ\u1039<<\u1031\u102bပ\u103a<\u102d\u102fပ\u1039
<<\u102d\u102fပ\u103a<ဖ\u1039<<ဖ\u103a<\u102cဖ\u1039<<\u102cဖ\u103a<<\u102bဖ\u1039
<<\u102bဖ\u103a<\u102dဖ\u1039<<\u102dဖ\u103a<\u102fဖ\u1039<<\u102fဖ\u103a<\u1031ဖ\u1039
<<\u1031ဖ\u103a<\u1031\u102cဖ\u1039<<\u1031\u102cဖ\u103a<<\u1031\u102bဖ\u1039
<<\u1031\u102bဖ\u103a<\u102d\u102fဖ\u1039<<\u102d\u102fဖ\u103a<ဗ\u1039<<ဗ\u103a
<\u102cဗ\u1039<<\u102cဗ\u103a<<\u102bဗ\u1039<<\u102bဗ\u103a<\u102dဗ\u1039<<\u102dဗ\u103a
<\u102fဗ\u1039<<\u102fဗ\u103a<\u1031ဗ\u1039<<\u1031ဗ\u103a<\u1031\u102cဗ\u1039
<<\u1031\u102cဗ\u103a<<\u1031\u102bဗ\u1039<<\u1031\u102bဗ\u103a<\u102d\u102fဗ\u1039
<<\u102d\u102fဗ\u103a<ဘ\u1039<<ဘ\u103a<\u102cဘ\u1039<<\u102cဘ\u103a<<\u102bဘ\u1039
<<\u102bဘ\u103a<\u102dဘ\u1039<<\u102dဘ\u103a<\u102fဘ\u1039<<\u102fဘ\u103a<\u1031ဘ\u1039
<<\u1031ဘ\u103a<\u1031\u102cဘ\u1039<<\u1031\u102cဘ\u103a<<\u1031\u102bဘ\u1039
<<\u1031\u102bဘ\u103a<\u102d\u102fဘ\u1039<<\u102d\u102fဘ\u103a<မ\u1039<<မ\u103a
<\u102cမ\u1039<<\u102cမ\u103a<<\u102bမ\u1039<<\u102bမ\u103a<\u102dမ\u1039<<\u102dမ\u103a
<\u102fမ\u1039<<\u102fမ\u103a<\u1031မ\u1039<<\u1031မ\u103a<\u1031\u102cမ\u1039
<<\u1031\u102cမ\u103a<<\u1031\u102bမ\u1039<<\u1031\u102bမ\u103a<\u102d\u102fမ\u1039
<<\u102d\u102fမ\u103a<ယ\u1039<<ယ\u103a<\u102cယ\u1039<<\u102cယ\u103a<<\u102bယ\u1039
<<\u102bယ\u103a<\u102dယ\u1039<<\u102dယ\u103a<\u102fယ\u1039<<\u102fယ\u103a<\u1031ယ\u1039
<<\u1031ယ\u103a<\u1031\u102cယ\u1039<<\u1031\u102cယ\u103a<<\u1031\u102bယ\u1039
<<\u1031\u102bယ\u103a<\u102d\u102fယ\u1039<<\u102d\u102fယ\u103a<ရ\u1039<<ရ\u103a
<\u102cရ\u1039<<\u102cရ\u103a<<\u102bရ\u1039<<\u102bရ\u103a<\u102dရ\u1039<<\u102dရ\u103a
<\u102fရ\u1039<<\u102fရ\u103a<\u1031ရ\u1039<<\u1031ရ\u103a<\u1031\u102cရ\u1039
<<\u1031\u102cရ\u103a<<\u1031\u102bရ\u1039<<\u1031\u102bရ\u103a<\u102d\u102fရ\u1039
<<\u102d\u102fရ\u103a<လ\u1039<<လ\u103a<\u102cလ\u1039<<\u102cလ\u103a<<\u102bလ\u1039
<<\u102bလ\u103a<\u102dလ\u1039<<\u102dလ\u103a<\u102fလ\u1039<<\u102fလ\u103a<\u1031လ\u1039
<<\u1031လ\u103a<\u1031\u102cလ\u1039<<\u1031\u102cလ\u103a<<\u1031\u102bလ\u1039
<<\u1031\u102bလ\u103a<\u102d\u102fလ\u1039<<\u102d\u102fလ\u103a<ဝ\u103a<\u102cဝ\u103a
<<\u102bဝ\u103a<\u102dဝ\u103a<\u102fဝ\u103a<\u1031ဝ\u103a<\u1031\u102cဝ\u103a
<<\u1031\u102bဝ\u103a<\u102d\u102fဝ\u103a<သ\u1039<<သ\u103a<\u102cသ\u1039<<\u102cသ\u103a
<<\u102bသ\u1039<<\u102bသ\u103a<\u102dသ\u1039<<\u102dသ\u103a<\u102fသ\u1039<<\u102fသ\u103a
<\u1031သ\u1039<<\u1031သ\u103a<\u1031\u102cသ\u1039<<\u1031\u102cသ\u103a<<\u1031\u102bသ\u1039
<<\u1031\u102bသ\u103a<\u102d\u102fသ\u1039<<\u102d\u102fသ\u103a<ဟ\u1039<<ဟ\u103a
<\u102cဟ\u1039<<\u102cဟ\u103a<<\u102bဟ\u1039<<\u102bဟ\u103a<\u102dဟ\u1039<<\u102dဟ\u103a
<\u102fဟ\u1039<<\u102fဟ\u103a<\u1031ဟ\u1039<<\u1031ဟ\u103a<\u1031\u102cဟ\u1039
<<\u1031\u102cဟ\u103a<<\u1031\u102bဟ\u1039<<\u1031\u102bဟ\u103a<\u102d\u102fဟ\u1039
<<\u102d\u102fဟ\u103a<ဠ\u103a<\u102cဠ\u103a<<\u102bဠ\u103a<\u102dဠ\u103a<\u102fဠ\u103a
<\u1031ဠ\u103a<\u1031\u102cဠ\u103a<<\u1031\u102bဠ\u103a<\u102d\u102fဠ\u103a<အ\u103a
<\u102cအ\u103a<<\u102bအ\u103a<\u102dအ\u103a<\u102fအ\u103a<\u1031အ\u103a<\u1031\u102cအ\u103a
<<\u1031\u102bအ\u103a<\u102d\u102fအ\u103a<\u105e<\u105f<\u103b<\u103c<\u1060<\u103d<\u1082
<\u103e<\u103b\u103d<\u103c\u103d<\u103b\u103e<\u103c\u103e<\u103d\u103e<\u103b\u103d\u103e
<\u103c\u103d\u103e&အ\u102d<<<ဣ&အ\u102e<<<ဤ&အ\u102f<<<ဥ&အ\u1030<<<ဦ&အ\u1031<<<ဧ<<<ဨ
&အ\u1031\u102c<<<ဩ&အ\u1031\u102c\u103a<<<ဪ&\u102dမ\u103a<\u102d\u1036<\u102dမ\u1037\u103a
<\u102d\u1036\u1037<\u102dမ\u103a\u1038<\u102d\u1036\u1038&\u102fမ\u103a<\u102f\u1036
<\u102fမ\u1037\u103a<\u102f\u1036\u1037<\u102fမ\u103a\u1038<\u102f\u1036\u1038
&အ\u102f\u1036<<<ဥ\u102f\u1036&အ\u102dက\u1039<<<ဣက\u1039&အ\u102dက\u103a<<<ဣက\u103a
&အ\u102fက\u1039<<<ဥက\u1039&အ\u102fက\u103a<<<ဥက\u103a&အ\u1031က\u1039<<<ဧက\u1039
&အ\u1031က\u103a<<<ဧက\u103a&အ\u1031\u102cက\u1039<<<ဩက\u1039&အ\u1031\u102cက\u103a<<<ဩက\u103a
&အ\u1031\u102cက\u1039<<<ဩ\u1031\u102cက\u1039&အ\u1031\u102cက\u103a<<<ဩ\u1031\u102cက\u103a
&အ\u102dခ\u1039<<<ဣခ\u1039&အ\u102dခ\u103a<<<ဣခ\u103a&အ\u102fခ\u1039<<<ဥခ\u1039
&အ\u102fခ\u103a<<<ဥခ\u103a&အ\u1031ခ\u1039<<<ဧခ\u1039&အ\u1031ခ\u103a<<<ဧခ\u103a
&အ\u1031\u102cခ\u1039<<<ဩခ\u1039&အ\u1031\u102cခ\u103a<<<ဩခ\u103a
&အ\u1031\u102cခ\u1039<<<ဩ\u1031\u102cခ\u1039&အ\u1031\u102cခ\u103a<<<ဩ\u1031\u102cခ\u103a
&အ\u102dဂ\u1039<<<ဣဂ\u1039&အ\u102dဂ\u103a<<<ဣဂ\u103a&အ\u102fဂ\u1039<<<ဥဂ\u1039
&အ\u102fဂ\u103a<<<ဥဂ\u103a&အ\u1031ဂ\u1039<<<ဧဂ\u1039&အ\u1031ဂ\u103a<<<ဧဂ\u103a
&အ\u1031\u102cဂ\u1039<<<ဩဂ\u1039&အ\u1031\u102cဂ\u103a<<<ဩဂ\u103a
&အ\u1031\u102cဂ\u1039<<<ဩ\u1031\u102cဂ\u1039&အ\u1031\u102cဂ\u103a<<<ဩ\u1031\u102cဂ\u103a
&အ\u102dဃ\u1039<<<ဣဃ\u1039&အ\u102dဃ\u103a<<<ဣဃ\u103a&အ\u102fဃ\u1039<<<ဥဃ\u1039
&အ\u102fဃ\u103a<<<ဥဃ\u103a&အ\u1031ဃ\u1039<<<ဧဃ\u1039&အ\u1031ဃ\u103a<<<ဧဃ\u103a
&အ\u1031\u102cဃ\u1039<<<ဩဃ\u1039&အ\u1031\u102cဃ\u103a<<<ဩဃ\u103a
&အ\u1031\u102cဃ\u1039<<<ဩ\u1031\u102cဃ\u1039&အ\u1031\u102cဃ\u103a<<<ဩ\u1031\u102cဃ\u103a
&အ\u102dင\u1039<<<ဣင\u1039&အ\u102dင\u103a<<<ဣင\u103a&အ\u102fင\u1039<<<ဥင\u1039
&အ\u102fင\u103a<<<ဥင\u103a&အ\u1031င\u1039<<<ဧင\u1039&အ\u1031င\u103a<<<ဧင\u103a
&အ\u1031\u102cင\u1039<<<ဩင\u1039&အ\u1031\u102cင\u103a<<<ဩင\u103a
&အ\u1031\u102cင\u1039<<<ဩ\u1031\u102cင\u1039&အ\u1031\u102cင\u103a<<<ဩ\u1031\u102cင\u103a
&အ\u102dစ\u1039<<<ဣစ\u1039&အ\u102dစ\u103a<<<ဣစ\u103a&အ\u102fစ\u1039<<<ဥစ\u1039
&အ\u102fစ\u103a<<<ဥစ\u103a&အ\u1031စ\u1039<<<ဧစ\u1039&အ\u1031စ\u103a<<<ဧစ\u103a
&အ\u1031\u102cစ\u1039<<<ဩစ\u1039&အ\u1031\u102cစ\u103a<<<ဩစ\u103a
&အ\u1031\u102cစ\u1039<<<ဩ\u1031\u102cစ\u1039&အ\u1031\u102cစ\u103a<<<ဩ\u1031\u102cစ\u103a
&အ\u102dဆ\u1039<<<ဣဆ\u1039&အ\u102dဆ\u103a<<<ဣဆ\u103a&အ\u102fဆ\u1039<<<ဥဆ\u1039
&အ\u102fဆ\u103a<<<ဥဆ\u103a&အ\u1031ဆ\u1039<<<ဧဆ\u1039&အ\u1031ဆ\u103a<<<ဧဆ\u103a
&အ\u1031\u102cဆ\u1039<<<ဩဆ\u1039&အ\u1031\u102cဆ\u103a<<<ဩဆ\u103a
&အ\u1031\u102cဆ\u1039<<<ဩ\u1031\u102cဆ\u1039&အ\u1031\u102cဆ\u103a<<<ဩ\u1031\u102cဆ\u103a
&အ\u102dဇ\u1039<<<ဣဇ\u1039&အ\u102dဇ\u103a<<<ဣဇ\u103a&အ\u102fဇ\u1039<<<ဥဇ\u1039
&အ\u102fဇ\u103a<<<ဥဇ\u103a&အ\u1031ဇ\u1039<<<ဧဇ\u1039&အ\u1031ဇ\u103a<<<ဧဇ\u103a
&အ\u1031\u102cဇ\u1039<<<ဩဇ\u1039&အ\u1031\u102cဇ\u103a<<<ဩဇ\u103a
&အ\u1031\u102cဇ\u1039<<<ဩ\u1031\u102cဇ\u1039&အ\u1031\u102cဇ\u103a<<<ဩ\u1031\u102cဇ\u103a
&အ\u102dဉ\u1039<<<ဣဉ\u1039&အ\u102dဉ\u103a<<<ဣဉ\u103a&အ\u102fဉ\u1039<<<ဥဉ\u1039
&အ\u102fဉ\u103a<<<ဥဉ\u103a&အ\u1031ဉ\u1039<<<ဧဉ\u1039&အ\u1031ဉ\u103a<<<ဧဉ\u103a
&အ\u1031\u102cဉ\u1039<<<ဩဉ\u1039&အ\u1031\u102cဉ\u103a<<<ဩဉ\u103a
&အ\u1031\u102cဉ\u1039<<<ဩ\u1031\u102cဉ\u1039&အ\u1031\u102cဉ\u103a<<<ဩ\u1031\u102cဉ\u103a
&အ\u102dည\u1039<<<ဣည\u1039&အ\u102dည\u103a<<<ဣည\u103a&အ\u102fည\u1039<<<ဥည\u1039
&အ\u102fည\u103a<<<ဥည\u103a&အ\u1031ည\u1039<<<ဧည\u1039&အ\u1031ည\u103a<<<ဧည\u103a
&အ\u1031\u102cည\u1039<<<ဩည\u1039&အ\u1031\u102cည\u103a<<<ဩည\u103a
&အ\u1031\u102cည\u1039<<<ဩ\u1031\u102cည\u1039&အ\u1031\u102cည\u103a<<<ဩ\u1031\u102cည\u103a
&အ\u102dဋ\u1039<<<ဣဋ\u1039&အ\u102dဋ\u103a<<<ဣဋ\u103a&အ\u102fဋ\u1039<<<ဥဋ\u1039
&အ\u102fဋ\u103a<<<ဥဋ\u103a&အ\u1031ဋ\u1039<<<ဧဋ\u1039&အ\u1031ဋ\u103a<<<ဧဋ\u103a
&အ\u1031\u102cဋ\u1039<<<ဩဋ\u1039&အ\u1031\u102cဋ\u103a<<<ဩဋ\u103a
&အ\u1031\u102cဋ\u1039<<<ဩ\u1031\u102cဋ\u1039&အ\u1031\u102cဋ\u103a<<<ဩ\u1031\u102cဋ\u103a
&အ\u102dဌ\u1039<<<ဣဌ\u1039&အ\u102dဌ\u103a<<<ဣဌ\u103a&အ\u102fဌ\u1039<<<ဥဌ\u1039
&အ\u102fဌ\u103a<<<ဥဌ\u103a&အ\u1031ဌ\u1039<<<ဧဌ\u1039&အ\u1031ဌ\u103a<<<ဧဌ\u103a
&အ\u1031\u102cဌ\u1039<<<ဩဌ\u1039&အ\u1031\u102cဌ\u103a<<<ဩဌ\u103a
&အ\u1031\u102cဌ\u1039<<<ဩ\u1031\u102cဌ\u1039&အ\u1031\u102cဌ\u103a<<<ဩ\u1031\u102cဌ\u103a
&အ\u102dဍ\u1039<<<ဣဍ\u1039&အ\u102dဍ\u103a<<<ဣဍ\u103a&အ\u102fဍ\u1039<<<ဥဍ\u1039
&အ\u102fဍ\u103a<<<ဥဍ\u103a&အ\u1031ဍ\u1039<<<ဧဍ\u1039&အ\u1031ဍ\u103a<<<ဧဍ\u103a
&အ\u1031\u102cဍ\u1039<<<ဩဍ\u1039&အ\u1031\u102cဍ\u103a<<<ဩဍ\u103a
&အ\u1031\u102cဍ\u1039<<<ဩ\u1031\u102cဍ\u1039&အ\u1031\u102cဍ\u103a<<<ဩ\u1031\u102cဍ\u103a
&အ\u102dဎ\u1039<<<ဣဎ\u1039&အ\u102dဎ\u103a<<<ဣဎ\u103a&အ\u102fဎ\u1039<<<ဥဎ\u1039
&အ\u102fဎ\u103a<<<ဥဎ\u103a&အ\u1031ဎ\u1039<<<ဧဎ\u1039&အ\u1031ဎ\u103a<<<ဧဎ\u103a
&အ\u1031\u102cဎ\u1039<<<ဩဎ\u1039&အ\u1031\u102cဎ\u103a<<<ဩဎ\u103a
&အ\u1031\u102cဎ\u1039<<<ဩ\u1031\u102cဎ\u1039&အ\u1031\u102cဎ\u103a<<<ဩ\u1031\u102cဎ\u103a
&အ\u102dဏ\u1039<<<ဣဏ\u1039&အ\u102dဏ\u103a<<<ဣဏ\u103a&အ\u102fဏ\u1039<<<ဥဏ\u1039
&အ\u102fဏ\u103a<<<ဥဏ\u103a&အ\u1031ဏ\u1039<<<ဧဏ\u1039&အ\u1031ဏ\u103a<<<ဧဏ\u103a
&အ\u1031\u102cဏ\u1039<<<ဩဏ\u1039&အ\u1031\u102cဏ\u103a<<<ဩဏ\u103a
&အ\u1031\u102cဏ\u1039<<<ဩ\u1031\u102cဏ\u1039&အ\u1031\u102cဏ\u103a<<<ဩ\u1031\u102cဏ\u103a
&အ\u102dတ\u1039<<<ဣတ\u1039&အ\u102dတ\u103a<<<ဣတ\u103a&အ\u102fတ\u1039<<<ဥတ\u1039
&အ\u102fတ\u103a<<<ဥတ\u103a&အ\u1031တ\u1039<<<ဧတ\u1039&အ\u1031တ\u103a<<<ဧတ\u103a
&အ\u1031\u102cတ\u1039<<<ဩတ\u1039&အ\u1031\u102cတ\u103a<<<ဩတ\u103a
&အ\u1031\u102cတ\u1039<<<ဩ\u1031\u102cတ\u1039&အ\u1031\u102cတ\u103a<<<ဩ\u1031\u102cတ\u103a
&အ\u102dထ\u1039<<<ဣထ\u1039&အ\u102dထ\u103a<<<ဣထ\u103a&အ\u102fထ\u1039<<<ဥထ\u1039
&အ\u102fထ\u103a<<<ဥထ\u103a&အ\u1031ထ\u1039<<<ဧထ\u1039&အ\u1031ထ\u103a<<<ဧထ\u103a
&အ\u1031\u102cထ\u1039<<<ဩထ\u1039&အ\u1031\u102cထ\u103a<<<ဩထ\u103a
&အ\u1031\u102cထ\u1039<<<ဩ\u1031\u102cထ\u1039&အ\u1031\u102cထ\u103a<<<ဩ\u1031\u102cထ\u103a
&အ\u102dဒ\u1039<<<ဣဒ\u1039&အ\u102dဒ\u103a<<<ဣဒ\u103a&အ\u102fဒ\u1039<<<ဥဒ\u1039
&အ\u102fဒ\u103a<<<ဥဒ\u103a&အ\u1031ဒ\u1039<<<ဧဒ\u1039&အ\u1031ဒ\u103a<<<ဧဒ\u103a
&အ\u1031\u102cဒ\u1039<<<ဩဒ\u1039&အ\u1031\u102cဒ\u103a<<<ဩဒ\u103a
&အ\u1031\u102cဒ\u1039<<<ဩ\u1031\u102cဒ\u1039&အ\u1031\u102cဒ\u103a<<<ဩ\u1031\u102cဒ\u103a
&အ\u102dဓ\u1039<<<ဣဓ\u1039&အ\u102dဓ\u103a<<<ဣဓ\u103a&အ\u102fဓ\u1039<<<ဥဓ\u1039
&အ\u102fဓ\u103a<<<ဥဓ\u103a&အ\u1031ဓ\u1039<<<ဧဓ\u1039&အ\u1031ဓ\u103a<<<ဧဓ\u103a
&အ\u1031\u102cဓ\u1039<<<ဩဓ\u1039&အ\u1031\u102cဓ\u103a<<<ဩဓ\u103a
&အ\u1031\u102cဓ\u1039<<<ဩ\u1031\u102cဓ\u1039&အ\u1031\u102cဓ\u103a<<<ဩ\u1031\u102cဓ\u103a
&အ\u102dန\u1039<<<ဣန\u1039&အ\u102dန\u103a<<<ဣန\u103a&အ\u102fန\u1039<<<ဥန\u1039
&အ\u102fန\u103a<<<ဥန\u103a&အ\u1031န\u1039<<<ဧန\u1039&အ\u1031န\u103a<<<ဧန\u103a
&အ\u1031\u102cန\u1039<<<ဩန\u1039&အ\u1031\u102cန\u103a<<<ဩန\u103a
&အ\u1031\u102cန\u1039<<<ဩ\u1031\u102cန\u1039&အ\u1031\u102cန\u103a<<<ဩ\u1031\u102cန\u103a
&အ\u102dပ\u1039<<<ဣပ\u1039&အ\u102dပ\u103a<<<ဣပ\u103a&အ\u102fပ\u1039<<<ဥပ\u1039
&အ\u102fပ\u103a<<<ဥပ\u103a&အ\u1031ပ\u1039<<<ဧပ\u1039&အ\u1031ပ\u103a<<<ဧပ\u103a
&အ\u1031\u102cပ\u1039<<<ဩပ\u1039&အ\u1031\u102cပ\u103a<<<ဩပ\u103a
&အ\u1031\u102cပ\u1039<<<ဩ\u1031\u102cပ\u1039&အ\u1031\u102cပ\u103a<<<ဩ\u1031\u102cပ\u103a
&အ\u102dဖ\u1039<<<ဣဖ\u1039&အ\u102dဖ\u103a<<<ဣဖ\u103a&အ\u102fဖ\u1039<<<ဥဖ\u1039
&အ\u102fဖ\u103a<<<ဥဖ\u103a&အ\u1031ဖ\u1039<<<ဧဖ\u1039&အ\u1031ဖ\u103a<<<ဧဖ\u103a
&အ\u1031\u102cဖ\u1039<<<ဩဖ\u1039&အ\u1031\u102cဖ\u103a<<<ဩဖ\u103a
&အ\u1031\u102cဖ\u1039<<<ဩ\u1031\u102cဖ\u1039&အ\u1031\u102cဖ\u103a<<<ဩ\u1031\u102cဖ\u103a
&အ\u102dဗ\u1039<<<ဣဗ\u1039&အ\u102dဗ\u103a<<<ဣဗ\u103a&အ\u102fဗ\u1039<<<ဥဗ\u1039
&အ\u102fဗ\u103a<<<ဥဗ\u103a&အ\u1031ဗ\u1039<<<ဧဗ\u1039&အ\u1031ဗ\u103a<<<ဧဗ\u103a
&အ\u1031\u102cဗ\u1039<<<ဩဗ\u1039&အ\u1031\u102cဗ\u103a<<<ဩဗ\u103a
&အ\u1031\u102cဗ\u1039<<<ဩ\u1031\u102cဗ\u1039&အ\u1031\u102cဗ\u103a<<<ဩ\u1031\u102cဗ\u103a
&အ\u102dဘ\u1039<<<ဣဘ\u1039&အ\u102dဘ\u103a<<<ဣဘ\u103a&အ\u102fဘ\u1039<<<ဥဘ\u1039
&အ\u102fဘ\u103a<<<ဥဘ\u103a&အ\u1031ဘ\u1039<<<ဧဘ\u1039&အ\u1031ဘ\u103a<<<ဧဘ\u103a
&အ\u1031\u102cဘ\u1039<<<ဩဘ\u1039&အ\u1031\u102cဘ\u103a<<<ဩဘ\u103a
&အ\u1031\u102cဘ\u1039<<<ဩ\u1031\u102cဘ\u1039&အ\u1031\u102cဘ\u103a<<<ဩ\u1031\u102cဘ\u103a
&အ\u102dမ\u1039<<<ဣမ\u1039&အ\u102dမ\u103a<<<ဣမ\u103a&အ\u102fမ\u1039<<<ဥမ\u1039
&အ\u102fမ\u103a<<<ဥမ\u103a&အ\u1031မ\u1039<<<ဧမ\u1039&အ\u1031မ\u103a<<<ဧမ\u103a
&အ\u1031\u102cမ\u1039<<<ဩမ\u1039&အ\u1031\u102cမ\u103a<<<ဩမ\u103a
&အ\u1031\u102cမ\u1039<<<ဩ\u1031\u102cမ\u1039&အ\u1031\u102cမ\u103a<<<ဩ\u1031\u102cမ\u103a
&အ\u102dယ\u1039<<<ဣယ\u1039&အ\u102dယ\u103a<<<ဣယ\u103a&အ\u102fယ\u1039<<<ဥယ\u1039
&အ\u102fယ\u103a<<<ဥယ\u103a&အ\u1031ယ\u1039<<<ဧယ\u1039&အ\u1031ယ\u103a<<<ဧယ\u103a
&အ\u1031\u102cယ\u1039<<<ဩယ\u1039&အ\u1031\u102cယ\u103a<<<ဩယ\u103a
&အ\u1031\u102cယ\u1039<<<ဩ\u1031\u102cယ\u1039&အ\u1031\u102cယ\u103a<<<ဩ\u1031\u102cယ\u103a
&အ\u102dရ\u1039<<<ဣရ\u1039&အ\u102dရ\u103a<<<ဣရ\u103a&အ\u102fရ\u1039<<<ဥရ\u1039
&အ\u102fရ\u103a<<<ဥရ\u103a&အ\u1031ရ\u1039<<<ဧရ\u1039&အ\u1031ရ\u103a<<<ဧရ\u103a
&အ\u1031\u102cရ\u1039<<<ဩရ\u1039&အ\u1031\u102cရ\u103a<<<ဩရ\u103a
&အ\u1031\u102cရ\u1039<<<ဩ\u1031\u102cရ\u1039&အ\u1031\u102cရ\u103a<<<ဩ\u1031\u102cရ\u103a
&အ\u102dလ\u1039<<<ဣလ\u1039&အ\u102dလ\u103a<<<ဣလ\u103a&အ\u102fလ\u1039<<<ဥလ\u1039
&အ\u102fလ\u103a<<<ဥလ\u103a&အ\u1031လ\u1039<<<ဧလ\u1039&အ\u1031လ\u103a<<<ဧလ\u103a
&အ\u1031\u102cလ\u1039<<<ဩလ\u1039&အ\u1031\u102cလ\u103a<<<ဩလ\u103a
&အ\u1031\u102cလ\u1039<<<ဩ\u1031\u102cလ\u1039&အ\u1031\u102cလ\u103a<<<ဩ\u1031\u102cလ\u103a
&အ\u102dသ\u1039<<<ဣသ\u1039&အ\u102dသ\u103a<<<ဣသ\u103a&အ\u102fသ\u1039<<<ဥသ\u1039
&အ\u102fသ\u103a<<<ဥသ\u103a&အ\u1031သ\u1039<<<ဧသ\u1039&အ\u1031သ\u103a<<<ဧသ\u103a
&အ\u1031\u102cသ\u1039<<<ဩသ\u1039&အ\u1031\u102cသ\u103a<<<ဩသ\u103a
&အ\u1031\u102cသ\u1039<<<ဩ\u1031\u102cသ\u1039&အ\u1031\u102cသ\u103a<<<ဩ\u1031\u102cသ\u103a
&အ\u102dဟ\u1039<<<ဣဟ\u1039&အ\u102dဟ\u103a<<<ဣဟ\u103a&အ\u102fဟ\u1039<<<ဥဟ\u1039
&အ\u102fဟ\u103a<<<ဥဟ\u103a&အ\u1031ဟ\u1039<<<ဧဟ\u1039&အ\u1031ဟ\u103a<<<ဧဟ\u103a
&အ\u1031\u102cဟ\u1039<<<ဩဟ\u1039&အ\u1031\u102cဟ\u103a<<<ဩဟ\u103a
&အ\u1031\u102cဟ\u1039<<<ဩ\u1031\u102cဟ\u1039&အ\u1031\u102cဟ\u103a<<<ဩ\u1031\u102cဟ\u103a
&\u1031\u102cက\u103aက\u103b=\u1031\u102cက\u103a\u103b
&န\u103aန\u102fပ\u103a=န\u103a\u102fပ\u103a&\u1031သ\u1039သ=\u1031ဿ&\u102dသ\u1039သ=\u102dဿ
&\u102fသ\u1039သ=\u102fဿ&အ\u102dသ\u1039သ<<<ဣဿ&အ\u102fသ\u1039သ<<<ဥဿ&သ\u1039သ=ဿ
&န\u103e\u102d\u102fက\u103a<<၌&ရ\u103d\u1031\u1037<<၍
&လည\u103a\u1038က\u1031\u102cင\u103a\u1038<<၎င\u103a\u1038&အ\u102d<<၏
&လက\u103aယ\u102c=လက\u103a\u103b\u102c&သမ\u102e=သ\u1039မ\u102e
&ထမင\u103a\u1038=ထ\u1039မင\u103a\u1038&လက\u103aဘက\u103a=လ\u1039ဘက\u103a"),
    ("th",
      "[alternate shifted][reorder Thai]&[before 1]๚<ฯ&๛<ๆ&\u0e4e<<\u0e4c&[before 1]ะ<\u0e4d&า<<<ๅ
&า\u0e4d<<<\u0e4dา<<<ำ&ๅ\u0e4d<<<\u0e4dๅ&ไ<\u0e3a")]

end Collation

end StyleHost
