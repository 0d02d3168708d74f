/-!
# Orders of languages in Arabic and Hebrew script

The rules of languages that are written in Arabic, Hebrew, Ethiopic and Adlam script, by the names
of their orders.

* `semiticOrders` : the rules by name.
-/

namespace StyleHost

namespace Collation

/-- The rules of languages in Arabic script and its neighbours. -/
def semiticOrders : List (String × String) :=
  [("am", "[reorder Ethi]"),
    ("ar",
      "[reorder Arab]&[before 2]ت<<ة&[before 2]ي<<ی<<ى&ء<<أ<<ؤ<<إ<<ئ<<ى\u0655<<ا&ءا<<آ
&[last secondary ignorable]<<<\u064b<<<\u08f0<<<\u08e7<<<\u064c<<<\u08f1<<<\u08e8<<<\u064d
<<<\u08f2<<<\u08e9<<<\u064e<<<\u08e4<<<\u08f4<<<\u08f5<<<\u064f<<<\u08e5<<<\u08fe<<<\u0650
<<<\u08e6<<<\u08f6<<<\u0651<<<\u0652<<<\u0653<<<\u06df<<<\u06e1<<<\u065f<<<\u0656<<<\u0657
<<<\u0658<<<\u08ff<<<\u0659<<<\u065a<<<\u065b<<<\u065c<<<\u065d<<<\u065e<<<\u08f7<<<\u08f8
<<<\u08fd<<<\u08fb<<<\u08fc<<<\u08f9<<<\u08fa<<<\u0670&بسم' 'الله' 'الرحمن' 'الرحيم<<<﷽&ء=ﺀ
&ا=ﺍ=ﺎ&اكبر<<<ﷳ&الله<<<ﷲ&ا\u064b=ﴼ=ﴽ&آ=ﺁ=ﺂ&أ=ﺃ=ﺄ&إ=ﺇ=ﺈ&ب=ﺏ=ﺐ=ﺑ=ﺒ&بج=ﰅ=ﲜ&بح=ﰆ=ﲝ&بحي=ﷂ&بخ=ﰇ=ﲞ
&بخي=ﶞ&بر=ﱪ&بز=ﱫ&بم=ﰈ=ﱬ=ﲟ=ﳡ&بن=ﱭ&به=ﲠ=ﳢ&بى=ﰉ=ﱮ&بي=ﰊ=ﱯ&ة=ﺓ=ﺔ&ت=ﺕ=ﺖ=ﺗ=ﺘ&تج=ﰋ=ﲡ&تجم=ﵐ&تجى=ﶠ
&تجي=ﶟ&تح=ﰌ=ﲢ&تحج=ﵑ=ﵒ&تحم=ﵓ&تخ=ﰍ=ﲣ&تخم=ﵔ&تخى=ﶢ&تخي=ﶡ&تر=ﱰ&تز=ﱱ&تم=ﰎ=ﱲ=ﲤ=ﳣ&تمج=ﵕ&تمح=ﵖ&تمخ=ﵗ
&تمى=ﶤ&تمي=ﶣ&تن=ﱳ&ته=ﲥ=ﳤ&تى=ﰏ=ﱴ&تي=ﰐ=ﱵ&ث=ﺙ=ﺚ=ﺛ=ﺜ&ثج=ﰑ&ثر=ﱶ&ثز=ﱷ&ثم=ﰒ=ﱸ=ﲦ=ﳥ&ثن=ﱹ&ثه=ﳦ&ثى=ﰓ=ﱺ
&ثي=ﰔ=ﱻ&ج=ﺝ=ﺞ=ﺟ=ﺠ&جح=ﰕ=ﲧ&جحى=ﶦ&جحي=ﶾ&جل' 'جلاله<<<ﷻ&جم=ﰖ=ﲨ&جمح=ﵘ=ﵙ&جمى=ﶧ&جمي=ﶥ&جى=ﴁ=ﴝ&جي=ﴂ=ﴞ
&ح=ﺡ=ﺢ=ﺣ=ﺤ&حج=ﰗ=ﲩ&حجي=ﶿ&حم=ﰘ=ﲪ&حمى=ﵛ&حمي=ﵚ&حى=ﳿ=ﴛ&حي=ﴀ=ﴜ&خ=ﺥ=ﺦ=ﺧ=ﺨ&خج=ﰙ=ﲫ&خح=ﰚ&خم=ﰛ=ﲬ&خى=ﴃ=ﴟ
&خي=ﴄ=ﴠ&د=ﺩ=ﺪ&ذ=ﺫ=ﺬ&ذ\u0670=ﱛ&ر=ﺭ=ﺮ&رسول<<<ﷶ&ر\u0670=ﱜ&ریال<<<﷼&ز=ﺯ=ﺰ&س=ﺱ=ﺲ=ﺳ=ﺴ&سج=ﰜ=ﲭ=ﴴ
&سجح=ﵝ&سجى=ﵞ&سح=ﰝ=ﲮ=ﴵ&سحج=ﵜ&سخ=ﰞ=ﲯ=ﴶ&سخى=ﶨ&سخي=ﷆ&سر=ﴎ=ﴪ&سم=ﰟ=ﲰ=ﳧ&سمج=ﵡ&سمح=ﵟ=ﵠ&سمم=ﵢ=ﵣ
&سه=ﳨ=ﴱ&سى=ﳻ=ﴗ&سي=ﳼ=ﴘ&ش=ﺵ=ﺶ=ﺷ=ﺸ&شج=ﴉ=ﴥ=ﴭ=ﴷ&شجي=ﵩ&شح=ﴊ=ﴦ=ﴮ=ﴸ&شحم=ﵧ=ﵨ&شحي=ﶪ&شخ=ﴋ=ﴧ=ﴯ=ﴹ&شر=ﴍ=ﴩ
&شم=ﳩ=ﴌ=ﴨ=ﴰ&شمخ=ﵪ=ﵫ&شمم=ﵬ=ﵭ&شه=ﳪ=ﴲ&شى=ﳽ=ﴙ&شي=ﳾ=ﴚ&ص=ﺹ=ﺺ=ﺻ=ﺼ&صح=ﰠ=ﲱ&صحح=ﵤ=ﵥ&صحي=ﶩ&صخ=ﲲ&صر=ﴏ=ﴫ
&صلعم<<<ﷵ&صلى<<<ﷹ&صلى' 'الله' 'عليه' 'وسلم<<<ﷺ&صلے<<<ﷰ&صم=ﰡ=ﲳ&صمم=ﵦ=ﷅ&صى=ﴅ=ﴡ&صي=ﴆ=ﴢ
&ض=ﺽ=ﺾ=ﺿ=ﻀ&ضج=ﰢ=ﲴ&ضح=ﰣ=ﲵ&ضحى=ﵮ&ضحي=ﶫ&ضخ=ﰤ=ﲶ&ضخم=ﵯ=ﵰ&ضر=ﴐ=ﴬ&ضم=ﰥ=ﲷ&ضى=ﴇ=ﴣ&ضي=ﴈ=ﴤ&ط=ﻁ=ﻂ=ﻃ=ﻄ
&طح=ﰦ=ﲸ&طم=ﰧ=ﴳ=ﴺ&طمح=ﵱ=ﵲ&طمم=ﵳ&طمي=ﵴ&طى=ﳵ=ﴑ&طي=ﳶ=ﴒ&ظ=ﻅ=ﻆ=ﻇ=ﻈ&ظم=ﰨ=ﲹ=ﴻ&ع=ﻉ=ﻊ=ﻋ=ﻌ&عج=ﰩ=ﲺ
&عجم=ﵵ=ﷄ&عليه<<<ﷷ&عم=ﰪ=ﲻ&عمم=ﵶ=ﵷ&عمى=ﵸ&عمي=ﶶ&عى=ﳷ=ﴓ&عي=ﳸ=ﴔ&غ=ﻍ=ﻎ=ﻏ=ﻐ&غج=ﰫ=ﲼ&غم=ﰬ=ﲽ&غمم=ﵹ
&غمى=ﵻ&غمي=ﵺ&غى=ﳹ=ﴕ&غي=ﳺ=ﴖ&ـ\u064b=ﹱ&ـ\u064e=ﹷ&ـ\u064e\u0651=ﳲ&ـ\u064f=ﹹ&ـ\u064f\u0651=ﳳ
&ـ\u0650=ﹻ&ـ\u0650\u0651=ﳴ&ـ\u0651=ﹽ&ـ\u0652=ﹿ&ف=ﻑ=ﻒ=ﻓ=ﻔ&فج=ﰭ=ﲾ&فح=ﰮ=ﲿ&فخ=ﰯ=ﳀ&فخم=ﵼ=ﵽ&فم=ﰰ=ﳁ
&فمي=ﷁ&فى=ﰱ=ﱼ&في=ﰲ=ﱽ&ق=ﻕ=ﻖ=ﻗ=ﻘ&قح=ﰳ=ﳂ&قلے<<<ﷱ&قم=ﰴ=ﳃ&قمح=ﵾ=ﶴ&قمم=ﵿ&قمي=ﶲ&قى=ﰵ=ﱾ&قي=ﰶ=ﱿ
&ك=ﻙ=ﻚ=ﻛ=ﻜ&كا=ﰷ=ﲀ&كج=ﰸ=ﳄ&كح=ﰹ=ﳅ&كخ=ﰺ=ﳆ&كل=ﰻ=ﲁ=ﳇ=ﳫ&كم=ﰼ=ﲂ=ﳈ=ﳬ&كمم=ﶻ=ﷃ&كمي=ﶷ&كى=ﰽ=ﲃ&كي=ﰾ=ﲄ
&ل=ﻝ=ﻞ=ﻟ=ﻠ&لا=ﻻ=ﻼ&لآ=ﻵ=ﻶ&لأ=ﻷ=ﻸ&لإ=ﻹ=ﻺ&لج=ﰿ=ﳉ&لجج=ﶃ=ﶄ&لجم=ﶺ=ﶼ&لجي=ﶬ&لح=ﱀ=ﳊ&لحم=ﶀ=ﶵ&لحى=ﶂ
&لحي=ﶁ&لخ=ﱁ=ﳋ&لخم=ﶅ=ﶆ&لم=ﱂ=ﲅ=ﳌ=ﳭ&لمح=ﶇ=ﶈ&لمي=ﶭ&له=ﳍ&لى=ﱃ=ﲆ&لي=ﱄ=ﲇ&م=ﻡ=ﻢ=ﻣ=ﻤ&ما=ﲈ&مج=ﱅ=ﳎ
&مجح=ﶌ&مجخ=ﶒ&مجم=ﶍ&مجي=ﷀ&مح=ﱆ=ﳏ&محج=ﶉ&محم=ﶊ&محمد<<<ﷴ&محي=ﶋ&مخ=ﱇ=ﳐ&مخج=ﶎ&مخم=ﶏ&مخي=ﶹ&مم=ﱈ=ﲉ=ﳑ
&ممي=ﶱ&مى=ﱉ&مي=ﱊ&ن=ﻥ=ﻦ=ﻧ=ﻨ&نج=ﱋ=ﳒ&نجح=ﶸ=ﶽ&نجم=ﶗ=ﶘ&نجى=ﶙ&نجي=ﷇ&نح=ﱌ=ﳓ&نحم=ﶕ&نحى=ﶖ&نحي=ﶳ
&نخ=ﱍ=ﳔ&نر=ﲊ&نز=ﲋ&نم=ﱎ=ﲌ=ﳕ=ﳮ&نمى=ﶛ&نمي=ﶚ&نن=ﲍ&نه=ﳖ=ﳯ&نى=ﱏ=ﲎ&ني=ﱐ=ﲏ&ه=ﻩ=ﻪ=ﻫ=ﻬ&هج=ﱑ=ﳗ&هم=ﱒ=ﳘ
&همج=ﶓ&همم=ﶔ&هى=ﱓ&هي=ﱔ&ه\u0670=ﳙ&و=ﻭ=ﻮ&وسلم<<<ﷸ&ؤ=ﺅ=ﺆ&ى=ﯨ=ﯩ=ﻯ=ﻰ&ى\u0670=ﱝ=ﲐ&ي=ﻱ=ﻲ=ﻳ=ﻴ&يج=ﱕ=ﳚ
&يجي=ﶯ&يح=ﱖ=ﳛ&يحي=ﶮ&يخ=ﱗ=ﳜ&ير=ﲑ&يز=ﲒ&يم=ﱘ=ﲓ=ﳝ=ﳰ&يمم=ﶜ=ﶝ&يمي=ﶰ&ين=ﲔ&يه=ﳞ=ﳱ&يى=ﱙ=ﲕ&يي=ﱚ=ﲖ
&ئ=ﺉ=ﺊ=ﺋ=ﺌ&ئا=ﯪ=ﯫ&ئج=ﰀ=ﲗ&ئح=ﰁ=ﲘ&ئخ=ﲙ&ئر=ﱤ&ئز=ﱥ&ئم=ﰂ=ﱦ=ﲚ=ﳟ&ئن=ﱧ&ئه=ﲛ=ﳠ&ئو=ﯮ=ﯯ&ئى=ﯹ=ﯺ=ﯻ=ﰃ=ﱨ
&ئي=ﰄ=ﱩ&ئۆ=ﯲ=ﯳ&ئۇ=ﯰ=ﯱ&ئۈ=ﯴ=ﯵ&ئې=ﯶ=ﯷ=ﯸ&ئە=ﯬ=ﯭ&\u064b=ﹰ&\u064c=ﹲ&\u064c\u0651=ﱞ&\u064d=ﹴ
&\u064d\u0651=ﱟ&\u064e=ﹶ&\u064e\u0651=ﱠ&\u064f=ﹸ&\u064f\u0651=ﱡ&\u0650=ﹺ&\u0650\u0651=ﱢ
&\u0651=ﹼ&\u0651\u0670=ﱣ&\u0652=ﹾ&ٱ=ﭐ=ﭑ&ٹ=ﭦ=ﭧ=ﭨ=ﭩ&ٺ=ﭞ=ﭟ=ﭠ=ﭡ&ٻ=ﭒ=ﭓ=ﭔ=ﭕ&پ=ﭖ=ﭗ=ﭘ=ﭙ&ٿ=ﭢ=ﭣ=ﭤ=ﭥ
&ڀ=ﭚ=ﭛ=ﭜ=ﭝ&ڃ=ﭶ=ﭷ=ﭸ=ﭹ&ڄ=ﭲ=ﭳ=ﭴ=ﭵ&چ=ﭺ=ﭻ=ﭼ=ﭽ&ڇ=ﭾ=ﭿ=ﮀ=ﮁ&ڈ=ﮈ=ﮉ&ڌ=ﮄ=ﮅ&ڍ=ﮂ=ﮃ&ڎ=ﮆ=ﮇ&ڑ=ﮌ=ﮍ&ژ=ﮊ=ﮋ
&ڤ=ﭪ=ﭫ=ﭬ=ﭭ&ڦ=ﭮ=ﭯ=ﭰ=ﭱ&ک=ﮎ=ﮏ=ﮐ=ﮑ&ڭ=ﯓ=ﯔ=ﯕ=ﯖ&گ=ﮒ=ﮓ=ﮔ=ﮕ&ڱ=ﮚ=ﮛ=ﮜ=ﮝ&ڳ=ﮖ=ﮗ=ﮘ=ﮙ&ں=ﮞ=ﮟ&ڻ=ﮠ=ﮡ=ﮢ=ﮣ
&ھ=ﮪ=ﮫ=ﮬ=ﮭ&ہ=ﮦ=ﮧ=ﮨ=ﮩ&ۅ=ﯠ=ﯡ&ۆ=ﯙ=ﯚ&ۇ=ﯗ=ﯘ&ۇٴ=ﯝ&ۈ=ﯛ=ﯜ&ۉ=ﯢ=ﯣ&ۋ=ﯞ=ﯟ&ی=ﯼ=ﯽ=ﯾ=ﯿ&ې=ﯤ=ﯥ=ﯦ=ﯧ&ے=ﮮ=ﮯ
&ۓ=ﮰ=ﮱ&ۀ=ﮤ=ﮥ"),
    ("ar@compat", "[reorder Arab]&ت<<ة<<<ﺔ<<<ﺓ&ي<<ى<<<ﯨ<<<ﯩ<<<ﻰ<<<ﻯ<<<ﲐ<<<ﱝ"),
    ("fa",
      "[reorder Arab]&\u064e<<\u0650<<\u064f<<\u064b<<\u064d<<\u064c&[before 1]ا<آ
&ا<<ٱ<ء<<أ<<ٲ<<إ<<ٳ<<ؤ<<ی\u0654<<<ى\u0654<<<ئ&ک<<*ڪګكڬڭڮ&ۏ<ه<<ە<<ہ<<ة<<ۃ<<ۀ<<ھ&ی<<*ىےيېۑۍێ"),
    ("fa-AF",
      "[reorder Arab]&\u064e<<\u0650<<\u064f<<\u064b<<\u064d<<\u064c&[before 1]ا<آ
&ا<<أ<<ٲ<<ٱ<<إ<<ٳ<ء&ت<ټ<<ٹ&ج<ځ<<ح\u0654&چ<څ&د<ډ<<ڈ&ر<ړ<<ڑ&ژ<ږ&ک<<*ڪك&ګ<<گ&ڼ<<ڻ&و<<ؤ<<ۇ<<ۉ
&ه<<<ۀ<<<ه\u0654<<*ەہھةۃ&ی<<*ىےيېۍ<<ی\u0654<<<ى\u0654<<<ئ&\u00a0<<\u200c<<\u200d"),
    ("ff-Adlm",
      "&𞤀<𞤀𞥄&𞤀𞥄=𞤀𞤀&𞤢<𞤢𞥄&𞤢𞥄=𞤢𞤢&𞤁<𞤁𞥆&𞤁𞥆=𞤁𞤁&𞤣<𞤣𞥆&𞤣𞥆=𞤣𞤣&𞤂<𞤂𞥆&𞤂𞥆=𞤂𞤂&𞤤<𞤤𞥆&𞤤𞥆=𞤤𞤤&𞤃<𞤃𞥆&𞤃𞥆=𞤃𞤃&𞤥<𞤥𞥆&𞤥𞥆=𞤥𞤥
&𞤄<𞤄𞥆&𞤄𞥆=𞤄𞤄&𞤦<𞤦𞥆&𞤦𞥆=𞤦𞤦&𞤅<𞤅𞥆&𞤅𞥆=𞤅𞤅&𞤧<𞤧𞥆&𞤧𞥆=𞤧𞤧&𞤆<𞤆𞥆&𞤆𞥆=𞤆𞤆&𞤨<𞤨𞥆&𞤨𞥆=𞤨𞤨&𞤇<𞤇𞥆&𞤇𞥆=𞤇𞤇&𞤩<𞤩𞥆&𞤩𞥆=𞤩𞤩
&𞤈<𞤈𞥆&𞤈𞥆=𞤈𞤈&𞤪<𞤪𞥆&𞤪𞥆=𞤪𞤪&𞤊<𞤊𞥆&𞤊𞥆=𞤊𞤊&𞤬<𞤬𞥆&𞤬𞥆=𞤬𞤬&𞤍<𞤍𞥆&𞤍𞥆=𞤍𞤍&𞤯<𞤯𞥆&𞤯𞥆=𞤯𞤯&𞤎<𞤎𞥆&𞤎𞥆=𞤎𞤎&𞤰<𞤰𞥆&𞤰𞥆=𞤰𞤰
&𞤏<𞤏𞥆&𞤏𞥆=𞤏𞤏&𞤱<𞤱𞥆&𞤱𞥆=𞤱𞤱&𞤐<𞤐𞥆&𞤐𞥆=𞤐𞤐&𞤲<𞤲𞥆&𞤲𞥆=𞤲𞤲&𞤑<𞤑𞥆&𞤑𞥆=𞤑𞤑&𞤳<𞤳𞥆&𞤳𞥆=𞤳𞤳&𞤒<𞤒𞥆&𞤒𞥆=𞤒𞤒&𞤴<𞤴𞥆&𞤴𞥆=𞤴𞤴
&𞤔<𞤔𞥆&𞤔𞥆=𞤔𞤔&𞤶<𞤶𞥆&𞤶𞥆=𞤶𞤶&𞤕<𞤕𞥆&𞤕𞥆=𞤕𞤕&𞤷<𞤷𞥆&𞤷𞥆=𞤷𞤷&𞤖<𞤖𞥆&𞤖𞥆=𞤖𞤖&𞤸<𞤸𞥆&𞤸𞥆=𞤸𞤸&𞤗<𞤗𞥆&𞤗𞥆=𞤗𞤗&𞤹<𞤹𞥆&𞤹𞥆=𞤹𞤹
&𞤘<𞤘𞥆&𞤘𞥆=𞤘𞤘&𞤺<𞤺𞥆&𞤺𞥆=𞤺𞤺&𞤙<𞤙𞥆&𞤙𞥆=𞤙𞤙&𞤻<𞤻𞥆&𞤻𞥆=𞤻𞤻&𞤚<𞤚𞥆&𞤚𞥆=𞤚𞤚&𞤼<𞤼𞥆&𞤼𞥆=𞤼𞤼&𞤛<𞤛𞥆&𞤛𞥆=𞤛𞤛&𞤽<𞤽𞥆&𞤽𞥆=𞤽𞤽
&𞤜<𞤜𞥆&𞤜𞥆=𞤜𞤜&𞤾<𞤾𞥆&𞤾𞥆=𞤾𞤾&𞤝<𞤝𞥆&𞤝𞥆=𞤝𞤝&𞤿<𞤿𞥆&𞤿𞥆=𞤿𞤿&𞤞<𞤞𞥆&𞤞𞥆=𞤞𞤞&𞥀<𞥀𞥆&𞥀𞥆=𞥀𞥀&𞤟<𞤟𞥆&𞤟𞥆=𞤟𞤟&𞥁<𞥁𞥆&𞥁𞥆=𞥁𞥁
&𞤠<𞤠𞥆&𞤠𞥆=𞤠𞤠&𞥂<𞥂𞥆&𞥂𞥆=𞥂𞥂&𞤡<𞤡𞥆&𞤡𞥆=𞤡𞤡&𞥃<𞥃𞥆&𞥃𞥆=𞥃𞥃&𞤉<𞤉𞥅&𞤉𞥅<<𞤉𞤉&𞤫<𞤫𞥅&𞤫𞥅<<𞤫𞤫&𞤋<𞤋𞥅&𞤋𞥅<<𞤋𞤋&𞤭<𞤭𞥅&𞤭𞥅<<𞤭𞤭
&𞤌<𞤌𞥅&𞤌𞥅<<𞤌𞤌&𞤮<𞤮𞥅&𞤮𞥅<<𞤮𞤮&𞤓<𞤓𞥅&𞤓𞥅<<𞤓𞤓&𞤵<𞤵𞥅&𞤵𞥅<<𞤵𞤵"),
    ("he", "[reorder Hebr]"),
    ("ps",
      "[reorder Arab]&\u064e<<\u0650<<\u064f<<\u064b<<\u064d<<\u064c&[before 1]ا<آ
&ا<<أ<<ٲ<<ٱ<<إ<<ٳ<ء&ت<ټ<<ٹ&ج<ځ<<ح\u0654&چ<څ&د<ډ<<ڈ&ر<ړ<<ڑ&ژ<ږ&ک<<*ڪك&ګ<<گ&ڼ<<ڻ&و<<ؤ<<ۇ<<ۉ
&ه<<<ۀ<<<ه\u0654<<*ەہھةۃ&ی<<*ىےيېۍ<<ی\u0654<<<ى\u0654<<<ئ&\u00a0<<\u200c<<\u200d"),
    ("ug", "[reorder Arab]&ا<ە<ب&ك<گ<ڭ<ل&ھ<و<ۇ<ۆ<ۈ<ۋ<ې<ى<ي"),
    ("ur",
      "[reorder Arab]&ا<<أ<آ<ب<بھ<پ<پھ<ت<تھ<ٹ<ٹھ<ث<ج<جھ<چ<چھ<ح<خ<د<دھ<ڈ<ڈھ<ذ<ر<رھ<ڑ<ڑھ<ز<ژ<س<ش<ص<ض
<ط<ظ<ع<غ<ف<ق<ک<کھ<گ<گھ<ل<لھ<م<مھ<ن<نھ<ں<ںھ<و<<ؤ<وھ<ہ<<ۂ<ھ<ۃ<ء<ی<<ئ<یھ<ے<<ۓ&\u0652<<\u064e
<<\u0650<<\u064f<<\u0670<<\u0656<<\u0657<<\u064b<<\u064d<<\u064c<<\u0654<<\u0651<<\u0658
<<\u0653&[last tertiary ignorable]<<<\u0610<<<\u0611<<<\u0613<<<\u0612<<<\u0614")]

end Collation

end StyleHost
