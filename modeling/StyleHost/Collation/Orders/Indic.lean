/-!
# Orders of languages in Indic scripts

The rules of languages that are written in the scripts of India and Sri Lanka, by the names of their
orders.

* `indicOrders` : the rules by name.
-/

namespace StyleHost

namespace Collation

/-- The rules of languages in Indic scripts. -/
def indicOrders : List (String × String) :=
  [("as",
      "[reorder Beng Deva Guru Gujr Orya Taml Telu Knda Mlym Sinh]&ঔ<\u0982<\u0981<\u0983
&[before 1]ত<ৎ=ত\u09cd\u200d&হ<ক\u09cdষ"),
    ("bn", "[reorder Beng Deva Guru Gujr Orya Taml Telu Knda Mlym Sinh]&ঔ<\u0982<\u0983<\u0981"),
    ("bn@trad",
      "[reorder Beng Deva Guru Gujr Orya Taml Telu Knda Mlym Sinh]&ঔ<\u0982<\u0983<\u0981<ক\u09cd
<খ\u09cd<গ\u09cd<ঘ\u09cd<ঙ\u09cd<চ\u09cd<ছ\u09cd<জ\u09cd<ঝ\u09cd<ঞ\u09cd<ট\u09cd<ঠ\u09cd
<ড\u09cd<ঢ\u09cd<ণ\u09cd<ৎ=ত\u09cd\u200d<<ত\u09cd<থ\u09cd<দ\u09cd<ধ\u09cd<ন\u09cd<প\u09cd
<ফ\u09cd<ব\u09cd<ভ\u09cd<ম\u09cd<য\u09cd<র\u09cd<ৰ\u09cd<ল\u09cd<ৱ\u09cd<শ\u09cd<ষ\u09cd
<স\u09cd<হ\u09cd&ক\u09cdঅ=ক&ক\u09cdআ=ক\u09be&ক\u09cdই=ক\u09bf&ক\u09cdঈ=ক\u09c0
&ক\u09cdউ=ক\u09c1&ক\u09cdঊ=ক\u09c2&ক\u09cdঋ=ক\u09c3&ক\u09cdৠ=ক\u09c4&ক\u09cdঌ=ক\u09e2
&ক\u09cdৡ=ক\u09e3&ক\u09cdএ=ক\u09c7&ক\u09cdঐ=ক\u09c8&ক\u09cdও=ক\u09cb&ক\u09cdঔ=ক\u09cc
&খ\u09cdঅ=খ&খ\u09cdআ=খ\u09be&খ\u09cdই=খ\u09bf&খ\u09cdঈ=খ\u09c0&খ\u09cdউ=খ\u09c1
&খ\u09cdঊ=খ\u09c2&খ\u09cdঋ=খ\u09c3&খ\u09cdৠ=খ\u09c4&খ\u09cdঌ=খ\u09e2&খ\u09cdৡ=খ\u09e3
&খ\u09cdএ=খ\u09c7&খ\u09cdঐ=খ\u09c8&খ\u09cdও=খ\u09cb&খ\u09cdঔ=খ\u09cc&গ\u09cdঅ=গ
&গ\u09cdআ=গ\u09be&গ\u09cdই=গ\u09bf&গ\u09cdঈ=গ\u09c0&গ\u09cdউ=গ\u09c1&গ\u09cdঊ=গ\u09c2
&গ\u09cdঋ=গ\u09c3&গ\u09cdৠ=গ\u09c4&গ\u09cdঌ=গ\u09e2&গ\u09cdৡ=গ\u09e3&গ\u09cdএ=গ\u09c7
&গ\u09cdঐ=গ\u09c8&গ\u09cdও=গ\u09cb&গ\u09cdঔ=গ\u09cc&ঘ\u09cdঅ=ঘ&ঘ\u09cdআ=ঘ\u09be
&ঘ\u09cdই=ঘ\u09bf&ঘ\u09cdঈ=ঘ\u09c0&ঘ\u09cdউ=ঘ\u09c1&ঘ\u09cdঊ=ঘ\u09c2&ঘ\u09cdঋ=ঘ\u09c3
&ঘ\u09cdৠ=ঘ\u09c4&ঘ\u09cdঌ=ঘ\u09e2&ঘ\u09cdৡ=ঘ\u09e3&ঘ\u09cdএ=ঘ\u09c7&ঘ\u09cdঐ=ঘ\u09c8
&ঘ\u09cdও=ঘ\u09cb&ঘ\u09cdঔ=ঘ\u09cc&ঙ\u09cdঅ=ঙ&ঙ\u09cdআ=ঙ\u09be&ঙ\u09cdই=ঙ\u09bf
&ঙ\u09cdঈ=ঙ\u09c0&ঙ\u09cdউ=ঙ\u09c1&ঙ\u09cdঊ=ঙ\u09c2&ঙ\u09cdঋ=ঙ\u09c3&ঙ\u09cdৠ=ঙ\u09c4
&ঙ\u09cdঌ=ঙ\u09e2&ঙ\u09cdৡ=ঙ\u09e3&ঙ\u09cdএ=ঙ\u09c7&ঙ\u09cdঐ=ঙ\u09c8&ঙ\u09cdও=ঙ\u09cb
&ঙ\u09cdঔ=ঙ\u09cc&চ\u09cdঅ=চ&চ\u09cdআ=চ\u09be&চ\u09cdই=চ\u09bf&চ\u09cdঈ=চ\u09c0
&চ\u09cdউ=চ\u09c1&চ\u09cdঊ=চ\u09c2&চ\u09cdঋ=চ\u09c3&চ\u09cdৠ=চ\u09c4&চ\u09cdঌ=চ\u09e2
&চ\u09cdৡ=চ\u09e3&চ\u09cdএ=চ\u09c7&চ\u09cdঐ=চ\u09c8&চ\u09cdও=চ\u09cb&চ\u09cdঔ=চ\u09cc
&ছ\u09cdঅ=ছ&ছ\u09cdআ=ছ\u09be&ছ\u09cdই=ছ\u09bf&ছ\u09cdঈ=ছ\u09c0&ছ\u09cdউ=ছ\u09c1
&ছ\u09cdঊ=ছ\u09c2&ছ\u09cdঋ=ছ\u09c3&ছ\u09cdৠ=ছ\u09c4&ছ\u09cdঌ=ছ\u09e2&ছ\u09cdৡ=ছ\u09e3
&ছ\u09cdএ=ছ\u09c7&ছ\u09cdঐ=ছ\u09c8&ছ\u09cdও=ছ\u09cb&ছ\u09cdঔ=ছ\u09cc&জ\u09cdঅ=জ
&জ\u09cdআ=জ\u09be&জ\u09cdই=জ\u09bf&জ\u09cdঈ=জ\u09c0&জ\u09cdউ=জ\u09c1&জ\u09cdঊ=জ\u09c2
&জ\u09cdঋ=জ\u09c3&জ\u09cdৠ=জ\u09c4&জ\u09cdঌ=জ\u09e2&জ\u09cdৡ=জ\u09e3&জ\u09cdএ=জ\u09c7
&জ\u09cdঐ=জ\u09c8&জ\u09cdও=জ\u09cb&জ\u09cdঔ=জ\u09cc&ঝ\u09cdঅ=ঝ&ঝ\u09cdআ=ঝ\u09be
&ঝ\u09cdই=ঝ\u09bf&ঝ\u09cdঈ=ঝ\u09c0&ঝ\u09cdউ=ঝ\u09c1&ঝ\u09cdঊ=ঝ\u09c2&ঝ\u09cdঋ=ঝ\u09c3
&ঝ\u09cdৠ=ঝ\u09c4&ঝ\u09cdঌ=ঝ\u09e2&ঝ\u09cdৡ=ঝ\u09e3&ঝ\u09cdএ=ঝ\u09c7&ঝ\u09cdঐ=ঝ\u09c8
&ঝ\u09cdও=ঝ\u09cb&ঝ\u09cdঔ=ঝ\u09cc&ঞ\u09cdঅ=ঞ&ঞ\u09cdআ=ঞ\u09be&ঞ\u09cdই=ঞ\u09bf
&ঞ\u09cdঈ=ঞ\u09c0&ঞ\u09cdউ=ঞ\u09c1&ঞ\u09cdঊ=ঞ\u09c2&ঞ\u09cdঋ=ঞ\u09c3&ঞ\u09cdৠ=ঞ\u09c4
&ঞ\u09cdঌ=ঞ\u09e2&ঞ\u09cdৡ=ঞ\u09e3&ঞ\u09cdএ=ঞ\u09c7&ঞ\u09cdঐ=ঞ\u09c8&ঞ\u09cdও=ঞ\u09cb
&ঞ\u09cdঔ=ঞ\u09cc&ট\u09cdঅ=ট&ট\u09cdআ=ট\u09be&ট\u09cdই=ট\u09bf&ট\u09cdঈ=ট\u09c0
&ট\u09cdউ=ট\u09c1&ট\u09cdঊ=ট\u09c2&ট\u09cdঋ=ট\u09c3&ট\u09cdৠ=ট\u09c4&ট\u09cdঌ=ট\u09e2
&ট\u09cdৡ=ট\u09e3&ট\u09cdএ=ট\u09c7&ট\u09cdঐ=ট\u09c8&ট\u09cdও=ট\u09cb&ট\u09cdঔ=ট\u09cc
&ঠ\u09cdঅ=ঠ&ঠ\u09cdআ=ঠ\u09be&ঠ\u09cdই=ঠ\u09bf&ঠ\u09cdঈ=ঠ\u09c0&ঠ\u09cdউ=ঠ\u09c1
&ঠ\u09cdঊ=ঠ\u09c2&ঠ\u09cdঋ=ঠ\u09c3&ঠ\u09cdৠ=ঠ\u09c4&ঠ\u09cdঌ=ঠ\u09e2&ঠ\u09cdৡ=ঠ\u09e3
&ঠ\u09cdএ=ঠ\u09c7&ঠ\u09cdঐ=ঠ\u09c8&ঠ\u09cdও=ঠ\u09cb&ঠ\u09cdঔ=ঠ\u09cc&ড\u09cdঅ=ড
&ড\u09cdআ=ড\u09be&ড\u09cdই=ড\u09bf&ড\u09cdঈ=ড\u09c0&ড\u09cdউ=ড\u09c1&ড\u09cdঊ=ড\u09c2
&ড\u09cdঋ=ড\u09c3&ড\u09cdৠ=ড\u09c4&ড\u09cdঌ=ড\u09e2&ড\u09cdৡ=ড\u09e3&ড\u09cdএ=ড\u09c7
&ড\u09cdঐ=ড\u09c8&ড\u09cdও=ড\u09cb&ড\u09cdঔ=ড\u09cc&ঢ\u09cdঅ=ঢ&ঢ\u09cdআ=ঢ\u09be
&ঢ\u09cdই=ঢ\u09bf&ঢ\u09cdঈ=ঢ\u09c0&ঢ\u09cdউ=ঢ\u09c1&ঢ\u09cdঊ=ঢ\u09c2&ঢ\u09cdঋ=ঢ\u09c3
&ঢ\u09cdৠ=ঢ\u09c4&ঢ\u09cdঌ=ঢ\u09e2&ঢ\u09cdৡ=ঢ\u09e3&ঢ\u09cdএ=ঢ\u09c7&ঢ\u09cdঐ=ঢ\u09c8
&ঢ\u09cdও=ঢ\u09cb&ঢ\u09cdঔ=ঢ\u09cc&ণ\u09cdঅ=ণ&ণ\u09cdআ=ণ\u09be&ণ\u09cdই=ণ\u09bf
&ণ\u09cdঈ=ণ\u09c0&ণ\u09cdউ=ণ\u09c1&ণ\u09cdঊ=ণ\u09c2&ণ\u09cdঋ=ণ\u09c3&ণ\u09cdৠ=ণ\u09c4
&ণ\u09cdঌ=ণ\u09e2&ণ\u09cdৡ=ণ\u09e3&ণ\u09cdএ=ণ\u09c7&ণ\u09cdঐ=ণ\u09c8&ণ\u09cdও=ণ\u09cb
&ণ\u09cdঔ=ণ\u09cc&ত\u09cdঅ=ত&ত\u09cdআ=ত\u09be&ত\u09cdই=ত\u09bf&ত\u09cdঈ=ত\u09c0
&ত\u09cdউ=ত\u09c1&ত\u09cdঊ=ত\u09c2&ত\u09cdঋ=ত\u09c3&ত\u09cdৠ=ত\u09c4&ত\u09cdঌ=ত\u09e2
&ত\u09cdৡ=ত\u09e3&ত\u09cdএ=ত\u09c7&ত\u09cdঐ=ত\u09c8&ত\u09cdও=ত\u09cb&ত\u09cdঔ=ত\u09cc
&থ\u09cdঅ=থ&থ\u09cdআ=থ\u09be&থ\u09cdই=থ\u09bf&থ\u09cdঈ=থ\u09c0&থ\u09cdউ=থ\u09c1
&থ\u09cdঊ=থ\u09c2&থ\u09cdঋ=থ\u09c3&থ\u09cdৠ=থ\u09c4&থ\u09cdঌ=থ\u09e2&থ\u09cdৡ=থ\u09e3
&থ\u09cdএ=থ\u09c7&থ\u09cdঐ=থ\u09c8&থ\u09cdও=থ\u09cb&থ\u09cdঔ=থ\u09cc&দ\u09cdঅ=দ
&দ\u09cdআ=দ\u09be&দ\u09cdই=দ\u09bf&দ\u09cdঈ=দ\u09c0&দ\u09cdউ=দ\u09c1&দ\u09cdঊ=দ\u09c2
&দ\u09cdঋ=দ\u09c3&দ\u09cdৠ=দ\u09c4&দ\u09cdঌ=দ\u09e2&দ\u09cdৡ=দ\u09e3&দ\u09cdএ=দ\u09c7
&দ\u09cdঐ=দ\u09c8&দ\u09cdও=দ\u09cb&দ\u09cdঔ=দ\u09cc&ধ\u09cdঅ=ধ&ধ\u09cdআ=ধ\u09be
&ধ\u09cdই=ধ\u09bf&ধ\u09cdঈ=ধ\u09c0&ধ\u09cdউ=ধ\u09c1&ধ\u09cdঊ=ধ\u09c2&ধ\u09cdঋ=ধ\u09c3
&ধ\u09cdৠ=ধ\u09c4&ধ\u09cdঌ=ধ\u09e2&ধ\u09cdৡ=ধ\u09e3&ধ\u09cdএ=ধ\u09c7&ধ\u09cdঐ=ধ\u09c8
&ধ\u09cdও=ধ\u09cb&ধ\u09cdঔ=ধ\u09cc&ন\u09cdঅ=ন&ন\u09cdআ=ন\u09be&ন\u09cdই=ন\u09bf
&ন\u09cdঈ=ন\u09c0&ন\u09cdউ=ন\u09c1&ন\u09cdঊ=ন\u09c2&ন\u09cdঋ=ন\u09c3&ন\u09cdৠ=ন\u09c4
&ন\u09cdঌ=ন\u09e2&ন\u09cdৡ=ন\u09e3&ন\u09cdএ=ন\u09c7&ন\u09cdঐ=ন\u09c8&ন\u09cdও=ন\u09cb
&ন\u09cdঔ=ন\u09cc&প\u09cdঅ=প&প\u09cdআ=প\u09be&প\u09cdই=প\u09bf&প\u09cdঈ=প\u09c0
&প\u09cdউ=প\u09c1&প\u09cdঊ=প\u09c2&প\u09cdঋ=প\u09c3&প\u09cdৠ=প\u09c4&প\u09cdঌ=প\u09e2
&প\u09cdৡ=প\u09e3&প\u09cdএ=প\u09c7&প\u09cdঐ=প\u09c8&প\u09cdও=প\u09cb&প\u09cdঔ=প\u09cc
&ফ\u09cdঅ=ফ&ফ\u09cdআ=ফ\u09be&ফ\u09cdই=ফ\u09bf&ফ\u09cdঈ=ফ\u09c0&ফ\u09cdউ=ফ\u09c1
&ফ\u09cdঊ=ফ\u09c2&ফ\u09cdঋ=ফ\u09c3&ফ\u09cdৠ=ফ\u09c4&ফ\u09cdঌ=ফ\u09e2&ফ\u09cdৡ=ফ\u09e3
&ফ\u09cdএ=ফ\u09c7&ফ\u09cdঐ=ফ\u09c8&ফ\u09cdও=ফ\u09cb&ফ\u09cdঔ=ফ\u09cc&ব\u09cdঅ=ব
&ব\u09cdআ=ব\u09be&ব\u09cdই=ব\u09bf&ব\u09cdঈ=ব\u09c0&ব\u09cdউ=ব\u09c1&ব\u09cdঊ=ব\u09c2
&ব\u09cdঋ=ব\u09c3&ব\u09cdৠ=ব\u09c4&ব\u09cdঌ=ব\u09e2&ব\u09cdৡ=ব\u09e3&ব\u09cdএ=ব\u09c7
&ব\u09cdঐ=ব\u09c8&ব\u09cdও=ব\u09cb&ব\u09cdঔ=ব\u09cc&ভ\u09cdঅ=ভ&ভ\u09cdআ=ভ\u09be
&ভ\u09cdই=ভ\u09bf&ভ\u09cdঈ=ভ\u09c0&ভ\u09cdউ=ভ\u09c1&ভ\u09cdঊ=ভ\u09c2&ভ\u09cdঋ=ভ\u09c3
&ভ\u09cdৠ=ভ\u09c4&ভ\u09cdঌ=ভ\u09e2&ভ\u09cdৡ=ভ\u09e3&ভ\u09cdএ=ভ\u09c7&ভ\u09cdঐ=ভ\u09c8
&ভ\u09cdও=ভ\u09cb&ভ\u09cdঔ=ভ\u09cc&ম\u09cdঅ=ম&ম\u09cdআ=ম\u09be&ম\u09cdই=ম\u09bf
&ম\u09cdঈ=ম\u09c0&ম\u09cdউ=ম\u09c1&ম\u09cdঊ=ম\u09c2&ম\u09cdঋ=ম\u09c3&ম\u09cdৠ=ম\u09c4
&ম\u09cdঌ=ম\u09e2&ম\u09cdৡ=ম\u09e3&ম\u09cdএ=ম\u09c7&ম\u09cdঐ=ম\u09c8&ম\u09cdও=ম\u09cb
&ম\u09cdঔ=ম\u09cc&য\u09cdঅ=য&য\u09cdআ=য\u09be&য\u09cdই=য\u09bf&য\u09cdঈ=য\u09c0
&য\u09cdউ=য\u09c1&য\u09cdঊ=য\u09c2&য\u09cdঋ=য\u09c3&য\u09cdৠ=য\u09c4&য\u09cdঌ=য\u09e2
&য\u09cdৡ=য\u09e3&য\u09cdএ=য\u09c7&য\u09cdঐ=য\u09c8&য\u09cdও=য\u09cb&য\u09cdঔ=য\u09cc
&র\u09cdঅ=র&র\u09cdআ=র\u09be&র\u09cdই=র\u09bf&র\u09cdঈ=র\u09c0&র\u09cdউ=র\u09c1
&র\u09cdঊ=র\u09c2&র\u09cdঋ=র\u09c3&র\u09cdৠ=র\u09c4&র\u09cdঌ=র\u09e2&র\u09cdৡ=র\u09e3
&র\u09cdএ=র\u09c7&র\u09cdঐ=র\u09c8&র\u09cdও=র\u09cb&র\u09cdঔ=র\u09cc&ৰ\u09cdঅ=ৰ
&ৰ\u09cdআ=ৰ\u09be&ৰ\u09cdই=ৰ\u09bf&ৰ\u09cdঈ=ৰ\u09c0&ৰ\u09cdউ=ৰ\u09c1&ৰ\u09cdঊ=ৰ\u09c2
&ৰ\u09cdঋ=ৰ\u09c3&ৰ\u09cdৠ=ৰ\u09c4&ৰ\u09cdঌ=ৰ\u09e2&ৰ\u09cdৡ=ৰ\u09e3&ৰ\u09cdএ=ৰ\u09c7
&ৰ\u09cdঐ=ৰ\u09c8&ৰ\u09cdও=ৰ\u09cb&ৰ\u09cdঔ=ৰ\u09cc&ল\u09cdঅ=ল&ল\u09cdআ=ল\u09be
&ল\u09cdই=ল\u09bf&ল\u09cdঈ=ল\u09c0&ল\u09cdউ=ল\u09c1&ল\u09cdঊ=ল\u09c2&ল\u09cdঋ=ল\u09c3
&ল\u09cdৠ=ল\u09c4&ল\u09cdঌ=ল\u09e2&ল\u09cdৡ=ল\u09e3&ল\u09cdএ=ল\u09c7&ল\u09cdঐ=ল\u09c8
&ল\u09cdও=ল\u09cb&ল\u09cdঔ=ল\u09cc&ৱ\u09cdঅ=ৱ&ৱ\u09cdআ=ৱ\u09be&ৱ\u09cdই=ৱ\u09bf
&ৱ\u09cdঈ=ৱ\u09c0&ৱ\u09cdউ=ৱ\u09c1&ৱ\u09cdঊ=ৱ\u09c2&ৱ\u09cdঋ=ৱ\u09c3&ৱ\u09cdৠ=ৱ\u09c4
&ৱ\u09cdঌ=ৱ\u09e2&ৱ\u09cdৡ=ৱ\u09e3&ৱ\u09cdএ=ৱ\u09c7&ৱ\u09cdঐ=ৱ\u09c8&ৱ\u09cdও=ৱ\u09cb
&ৱ\u09cdঔ=ৱ\u09cc&শ\u09cdঅ=শ&শ\u09cdআ=শ\u09be&শ\u09cdই=শ\u09bf&শ\u09cdঈ=শ\u09c0
&শ\u09cdউ=শ\u09c1&শ\u09cdঊ=শ\u09c2&শ\u09cdঋ=শ\u09c3&শ\u09cdৠ=শ\u09c4&শ\u09cdঌ=শ\u09e2
&শ\u09cdৡ=শ\u09e3&শ\u09cdএ=শ\u09c7&শ\u09cdঐ=শ\u09c8&শ\u09cdও=শ\u09cb&শ\u09cdঔ=শ\u09cc
&ষ\u09cdঅ=ষ&ষ\u09cdআ=ষ\u09be&ষ\u09cdই=ষ\u09bf&ষ\u09cdঈ=ষ\u09c0&ষ\u09cdউ=ষ\u09c1
&ষ\u09cdঊ=ষ\u09c2&ষ\u09cdঋ=ষ\u09c3&ষ\u09cdৠ=ষ\u09c4&ষ\u09cdঌ=ষ\u09e2&ষ\u09cdৡ=ষ\u09e3
&ষ\u09cdএ=ষ\u09c7&ষ\u09cdঐ=ষ\u09c8&ষ\u09cdও=ষ\u09cb&ষ\u09cdঔ=ষ\u09cc&স\u09cdঅ=স
&স\u09cdআ=স\u09be&স\u09cdই=স\u09bf&স\u09cdঈ=স\u09c0&স\u09cdউ=স\u09c1&স\u09cdঊ=স\u09c2
&স\u09cdঋ=স\u09c3&স\u09cdৠ=স\u09c4&স\u09cdঌ=স\u09e2&স\u09cdৡ=স\u09e3&স\u09cdএ=স\u09c7
&স\u09cdঐ=স\u09c8&স\u09cdও=স\u09cb&স\u09cdঔ=স\u09cc&হ\u09cdঅ=হ&হ\u09cdআ=হ\u09be
&হ\u09cdই=হ\u09bf&হ\u09cdঈ=হ\u09c0&হ\u09cdউ=হ\u09c1&হ\u09cdঊ=হ\u09c2&হ\u09cdঋ=হ\u09c3
&হ\u09cdৠ=হ\u09c4&হ\u09cdঌ=হ\u09e2&হ\u09cdৡ=হ\u09e3&হ\u09cdএ=হ\u09c7&হ\u09cdঐ=হ\u09c8
&হ\u09cdও=হ\u09cb&হ\u09cdঔ=হ\u09cc&ক<<<ক\u09bc&ক\u09be<<<ক\u09bc\u09be
&ক\u09bf<<<ক\u09bc\u09bf&ক\u09c0<<<ক\u09bc\u09c0&ক\u09c1<<<ক\u09bc\u09c1
&ক\u09c2<<<ক\u09bc\u09c2&ক\u09c3<<<ক\u09bc\u09c3&ক\u09c4<<<ক\u09bc\u09c4
&ক\u09e2<<<ক\u09bc\u09e2&ক\u09e3<<<ক\u09bc\u09e3&ক\u09c7<<<ক\u09bc\u09c7
&ক\u09c8<<<ক\u09bc\u09c8&ক\u09cb<<<ক\u09bc\u09cb&ক\u09cc<<<ক\u09bc\u09cc
&ক\u09cd<<<ক\u09bc\u09cd&খ<<<খ\u09bc&খ\u09be<<<খ\u09bc\u09be&খ\u09bf<<<খ\u09bc\u09bf
&খ\u09c0<<<খ\u09bc\u09c0&খ\u09c1<<<খ\u09bc\u09c1&খ\u09c2<<<খ\u09bc\u09c2
&খ\u09c3<<<খ\u09bc\u09c3&খ\u09c4<<<খ\u09bc\u09c4&খ\u09e2<<<খ\u09bc\u09e2
&খ\u09e3<<<খ\u09bc\u09e3&খ\u09c7<<<খ\u09bc\u09c7&খ\u09c8<<<খ\u09bc\u09c8
&খ\u09cb<<<খ\u09bc\u09cb&খ\u09cc<<<খ\u09bc\u09cc&খ\u09cd<<<খ\u09bc\u09cd&গ<<<গ\u09bc
&গ\u09be<<<গ\u09bc\u09be&গ\u09bf<<<গ\u09bc\u09bf&গ\u09c0<<<গ\u09bc\u09c0
&গ\u09c1<<<গ\u09bc\u09c1&গ\u09c2<<<গ\u09bc\u09c2&গ\u09c3<<<গ\u09bc\u09c3
&গ\u09c4<<<গ\u09bc\u09c4&গ\u09e2<<<গ\u09bc\u09e2&গ\u09e3<<<গ\u09bc\u09e3
&গ\u09c7<<<গ\u09bc\u09c7&গ\u09c8<<<গ\u09bc\u09c8&গ\u09cb<<<গ\u09bc\u09cb
&গ\u09cc<<<গ\u09bc\u09cc&গ\u09cd<<<গ\u09bc\u09cd&জ<<<জ\u09bc&জ\u09be<<<জ\u09bc\u09be
&জ\u09bf<<<জ\u09bc\u09bf&জ\u09c0<<<জ\u09bc\u09c0&জ\u09c1<<<জ\u09bc\u09c1
&জ\u09c2<<<জ\u09bc\u09c2&জ\u09c3<<<জ\u09bc\u09c3&জ\u09c4<<<জ\u09bc\u09c4
&জ\u09e2<<<জ\u09bc\u09e2&জ\u09e3<<<জ\u09bc\u09e3&জ\u09c7<<<জ\u09bc\u09c7
&জ\u09c8<<<জ\u09bc\u09c8&জ\u09cb<<<জ\u09bc\u09cb&জ\u09cc<<<জ\u09bc\u09cc
&জ\u09cd<<<জ\u09bc\u09cd&ড<<<ড\u09bc&ড\u09be<<<ড\u09bc\u09be&ড\u09bf<<<ড\u09bc\u09bf
&ড\u09c0<<<ড\u09bc\u09c0&ড\u09c1<<<ড\u09bc\u09c1&ড\u09c2<<<ড\u09bc\u09c2
&ড\u09c3<<<ড\u09bc\u09c3&ড\u09c4<<<ড\u09bc\u09c4&ড\u09e2<<<ড\u09bc\u09e2
&ড\u09e3<<<ড\u09bc\u09e3&ড\u09c7<<<ড\u09bc\u09c7&ড\u09c8<<<ড\u09bc\u09c8
&ড\u09cb<<<ড\u09bc\u09cb&ড\u09cc<<<ড\u09bc\u09cc&ড\u09cd<<<ড\u09bc\u09cd&ঢ<<<ঢ\u09bc
&ঢ\u09be<<<ঢ\u09bc\u09be&ঢ\u09bf<<<ঢ\u09bc\u09bf&ঢ\u09c0<<<ঢ\u09bc\u09c0
&ঢ\u09c1<<<ঢ\u09bc\u09c1&ঢ\u09c2<<<ঢ\u09bc\u09c2&ঢ\u09c3<<<ঢ\u09bc\u09c3
&ঢ\u09c4<<<ঢ\u09bc\u09c4&ঢ\u09e2<<<ঢ\u09bc\u09e2&ঢ\u09e3<<<ঢ\u09bc\u09e3
&ঢ\u09c7<<<ঢ\u09bc\u09c7&ঢ\u09c8<<<ঢ\u09bc\u09c8&ঢ\u09cb<<<ঢ\u09bc\u09cb
&ঢ\u09cc<<<ঢ\u09bc\u09cc&ঢ\u09cd<<<ঢ\u09bc\u09cd&ফ<<<ফ\u09bc&ফ\u09be<<<ফ\u09bc\u09be
&ফ\u09bf<<<ফ\u09bc\u09bf&ফ\u09c0<<<ফ\u09bc\u09c0&ফ\u09c1<<<ফ\u09bc\u09c1
&ফ\u09c2<<<ফ\u09bc\u09c2&ফ\u09c3<<<ফ\u09bc\u09c3&ফ\u09c4<<<ফ\u09bc\u09c4
&ফ\u09e2<<<ফ\u09bc\u09e2&ফ\u09e3<<<ফ\u09bc\u09e3&ফ\u09c7<<<ফ\u09bc\u09c7
&ফ\u09c8<<<ফ\u09bc\u09c8&ফ\u09cb<<<ফ\u09bc\u09cb&ফ\u09cc<<<ফ\u09bc\u09cc
&ফ\u09cd<<<ফ\u09bc\u09cd&ব<<<ব\u09bc&ব\u09be<<<ব\u09bc\u09be&ব\u09bf<<<ব\u09bc\u09bf
&ব\u09c0<<<ব\u09bc\u09c0&ব\u09c1<<<ব\u09bc\u09c1&ব\u09c2<<<ব\u09bc\u09c2
&ব\u09c3<<<ব\u09bc\u09c3&ব\u09c4<<<ব\u09bc\u09c4&ব\u09e2<<<ব\u09bc\u09e2
&ব\u09e3<<<ব\u09bc\u09e3&ব\u09c7<<<ব\u09bc\u09c7&ব\u09c8<<<ব\u09bc\u09c8
&ব\u09cb<<<ব\u09bc\u09cb&ব\u09cc<<<ব\u09bc\u09cc&ব\u09cd<<<ব\u09bc\u09cd&য<<<য\u09bc
&য\u09be<<<য\u09bc\u09be&য\u09bf<<<য\u09bc\u09bf&য\u09c0<<<য\u09bc\u09c0
&য\u09c1<<<য\u09bc\u09c1&য\u09c2<<<য\u09bc\u09c2&য\u09c3<<<য\u09bc\u09c3
&য\u09c4<<<য\u09bc\u09c4&য\u09e2<<<য\u09bc\u09e2&য\u09e3<<<য\u09bc\u09e3
&য\u09c7<<<য\u09bc\u09c7&য\u09c8<<<য\u09bc\u09c8&য\u09cb<<<য\u09bc\u09cb
&য\u09cc<<<য\u09bc\u09cc&য\u09cd<<<য\u09bc\u09cd"),
    ("gu",
      "[reorder Gujr Deva Beng Guru Orya Taml Telu Knda Mlym Sinh]&ૐ<\u0a82<<\u0a81<\u0a83"),
    ("hi",
      "[reorder Deva Beng Guru Gujr Orya Taml Telu Knda Mlym Sinh]&ॐ<\u0902<<\u0901<\u0903"),
    ("kn", "[reorder Knda Deva Beng Guru Gujr Orya Taml Telu Mlym Sinh]&ಔ<\u0c82<\u0c83<ೱ<ೲ"),
    ("kn@trad",
      "[reorder Knda Deva Beng Guru Gujr Orya Taml Telu Mlym Sinh]&ಔ<\u0c82<\u0c83<ೱ<ೲ<ಕ\u0ccd
<ಖ\u0ccd<ಗ\u0ccd<ಘ\u0ccd<ಙ\u0ccd<ಚ\u0ccd<ಛ\u0ccd<ಜ\u0ccd<ಝ\u0ccd<ಞ\u0ccd<ಟ\u0ccd<ಠ\u0ccd
<ಡ\u0ccd<ಢ\u0ccd<ಣ\u0ccd<ತ\u0ccd<ಥ\u0ccd<ದ\u0ccd<ಧ\u0ccd<ನ\u0ccd<ಪ\u0ccd<ಫ\u0ccd<ಬ\u0ccd
<ಭ\u0ccd<ಮ\u0ccd<ಯ\u0ccd<ರ\u0ccd<ಱ\u0ccd<ಲ\u0ccd<ವ\u0ccd<ಶ\u0ccd<ಷ\u0ccd<ಸ\u0ccd<ಹ\u0ccd
<ಳ\u0ccd<ೞ\u0ccd&ಕ\u0ccdಅ=ಕ&ಕ\u0ccdಆ=ಕ\u0cbe&ಕ\u0ccdಇ=ಕ\u0cbf&ಕ\u0ccdಈ=ಕ\u0cc0
&ಕ\u0ccdಉ=ಕ\u0cc1&ಕ\u0ccdಊ=ಕ\u0cc2&ಕ\u0ccdಋ=ಕ\u0cc3&ಕ\u0ccdೠ=ಕ\u0cc4&ಕ\u0ccdಌ=ಕ\u0ce2
&ಕ\u0ccdೡ=ಕ\u0ce3&ಕ\u0ccdಎ=ಕ\u0cc6&ಕ\u0ccdಏ=ಕ\u0cc7&ಕ\u0ccdಐ=ಕ\u0cc8&ಕ\u0ccdಒ=ಕ\u0cca
&ಕ\u0ccdಓ=ಕ\u0ccb&ಕ\u0ccdಔ=ಕ\u0ccc&ಖ\u0ccdಅ=ಖ&ಖ\u0ccdಆ=ಖ\u0cbe&ಖ\u0ccdಇ=ಖ\u0cbf
&ಖ\u0ccdಈ=ಖ\u0cc0&ಖ\u0ccdಉ=ಖ\u0cc1&ಖ\u0ccdಊ=ಖ\u0cc2&ಖ\u0ccdಋ=ಖ\u0cc3&ಖ\u0ccdೠ=ಖ\u0cc4
&ಖ\u0ccdಌ=ಖ\u0ce2&ಖ\u0ccdೡ=ಖ\u0ce3&ಖ\u0ccdಎ=ಖ\u0cc6&ಖ\u0ccdಏ=ಖ\u0cc7&ಖ\u0ccdಐ=ಖ\u0cc8
&ಖ\u0ccdಒ=ಖ\u0cca&ಖ\u0ccdಓ=ಖ\u0ccb&ಖ\u0ccdಔ=ಖ\u0ccc&ಗ\u0ccdಅ=ಗ&ಗ\u0ccdಆ=ಗ\u0cbe
&ಗ\u0ccdಇ=ಗ\u0cbf&ಗ\u0ccdಈ=ಗ\u0cc0&ಗ\u0ccdಉ=ಗ\u0cc1&ಗ\u0ccdಊ=ಗ\u0cc2&ಗ\u0ccdಋ=ಗ\u0cc3
&ಗ\u0ccdೠ=ಗ\u0cc4&ಗ\u0ccdಌ=ಗ\u0ce2&ಗ\u0ccdೡ=ಗ\u0ce3&ಗ\u0ccdಎ=ಗ\u0cc6&ಗ\u0ccdಏ=ಗ\u0cc7
&ಗ\u0ccdಐ=ಗ\u0cc8&ಗ\u0ccdಒ=ಗ\u0cca&ಗ\u0ccdಓ=ಗ\u0ccb&ಗ\u0ccdಔ=ಗ\u0ccc&ಘ\u0ccdಅ=ಘ
&ಘ\u0ccdಆ=ಘ\u0cbe&ಘ\u0ccdಇ=ಘ\u0cbf&ಘ\u0ccdಈ=ಘ\u0cc0&ಘ\u0ccdಉ=ಘ\u0cc1&ಘ\u0ccdಊ=ಘ\u0cc2
&ಘ\u0ccdಋ=ಘ\u0cc3&ಘ\u0ccdೠ=ಘ\u0cc4&ಘ\u0ccdಌ=ಘ\u0ce2&ಘ\u0ccdೡ=ಘ\u0ce3&ಘ\u0ccdಎ=ಘ\u0cc6
&ಘ\u0ccdಏ=ಘ\u0cc7&ಘ\u0ccdಐ=ಘ\u0cc8&ಘ\u0ccdಒ=ಘ\u0cca&ಘ\u0ccdಓ=ಘ\u0ccb&ಘ\u0ccdಔ=ಘ\u0ccc
&ಙ\u0ccdಅ=ಙ&ಙ\u0ccdಆ=ಙ\u0cbe&ಙ\u0ccdಇ=ಙ\u0cbf&ಙ\u0ccdಈ=ಙ\u0cc0&ಙ\u0ccdಉ=ಙ\u0cc1
&ಙ\u0ccdಊ=ಙ\u0cc2&ಙ\u0ccdಋ=ಙ\u0cc3&ಙ\u0ccdೠ=ಙ\u0cc4&ಙ\u0ccdಌ=ಙ\u0ce2&ಙ\u0ccdೡ=ಙ\u0ce3
&ಙ\u0ccdಎ=ಙ\u0cc6&ಙ\u0ccdಏ=ಙ\u0cc7&ಙ\u0ccdಐ=ಙ\u0cc8&ಙ\u0ccdಒ=ಙ\u0cca&ಙ\u0ccdಓ=ಙ\u0ccb
&ಙ\u0ccdಔ=ಙ\u0ccc&ಚ\u0ccdಅ=ಚ&ಚ\u0ccdಆ=ಚ\u0cbe&ಚ\u0ccdಇ=ಚ\u0cbf&ಚ\u0ccdಈ=ಚ\u0cc0
&ಚ\u0ccdಉ=ಚ\u0cc1&ಚ\u0ccdಊ=ಚ\u0cc2&ಚ\u0ccdಋ=ಚ\u0cc3&ಚ\u0ccdೠ=ಚ\u0cc4&ಚ\u0ccdಌ=ಚ\u0ce2
&ಚ\u0ccdೡ=ಚ\u0ce3&ಚ\u0ccdಎ=ಚ\u0cc6&ಚ\u0ccdಏ=ಚ\u0cc7&ಚ\u0ccdಐ=ಚ\u0cc8&ಚ\u0ccdಒ=ಚ\u0cca
&ಚ\u0ccdಓ=ಚ\u0ccb&ಚ\u0ccdಔ=ಚ\u0ccc&ಛ\u0ccdಅ=ಛ&ಛ\u0ccdಆ=ಛ\u0cbe&ಛ\u0ccdಇ=ಛ\u0cbf
&ಛ\u0ccdಈ=ಛ\u0cc0&ಛ\u0ccdಉ=ಛ\u0cc1&ಛ\u0ccdಊ=ಛ\u0cc2&ಛ\u0ccdಋ=ಛ\u0cc3&ಛ\u0ccdೠ=ಛ\u0cc4
&ಛ\u0ccdಌ=ಛ\u0ce2&ಛ\u0ccdೡ=ಛ\u0ce3&ಛ\u0ccdಎ=ಛ\u0cc6&ಛ\u0ccdಏ=ಛ\u0cc7&ಛ\u0ccdಐ=ಛ\u0cc8
&ಛ\u0ccdಒ=ಛ\u0cca&ಛ\u0ccdಓ=ಛ\u0ccb&ಛ\u0ccdಔ=ಛ\u0ccc&ಜ\u0ccdಅ=ಜ&ಜ\u0ccdಆ=ಜ\u0cbe
&ಜ\u0ccdಇ=ಜ\u0cbf&ಜ\u0ccdಈ=ಜ\u0cc0&ಜ\u0ccdಉ=ಜ\u0cc1&ಜ\u0ccdಊ=ಜ\u0cc2&ಜ\u0ccdಋ=ಜ\u0cc3
&ಜ\u0ccdೠ=ಜ\u0cc4&ಜ\u0ccdಌ=ಜ\u0ce2&ಜ\u0ccdೡ=ಜ\u0ce3&ಜ\u0ccdಎ=ಜ\u0cc6&ಜ\u0ccdಏ=ಜ\u0cc7
&ಜ\u0ccdಐ=ಜ\u0cc8&ಜ\u0ccdಒ=ಜ\u0cca&ಜ\u0ccdಓ=ಜ\u0ccb&ಜ\u0ccdಔ=ಜ\u0ccc&ಝ\u0ccdಅ=ಝ
&ಝ\u0ccdಆ=ಝ\u0cbe&ಝ\u0ccdಇ=ಝ\u0cbf&ಝ\u0ccdಈ=ಝ\u0cc0&ಝ\u0ccdಉ=ಝ\u0cc1&ಝ\u0ccdಊ=ಝ\u0cc2
&ಝ\u0ccdಋ=ಝ\u0cc3&ಝ\u0ccdೠ=ಝ\u0cc4&ಝ\u0ccdಌ=ಝ\u0ce2&ಝ\u0ccdೡ=ಝ\u0ce3&ಝ\u0ccdಎ=ಝ\u0cc6
&ಝ\u0ccdಏ=ಝ\u0cc7&ಝ\u0ccdಐ=ಝ\u0cc8&ಝ\u0ccdಒ=ಝ\u0cca&ಝ\u0ccdಓ=ಝ\u0ccb&ಝ\u0ccdಔ=ಝ\u0ccc
&ಞ\u0ccdಅ=ಞ&ಞ\u0ccdಆ=ಞ\u0cbe&ಞ\u0ccdಇ=ಞ\u0cbf&ಞ\u0ccdಈ=ಞ\u0cc0&ಞ\u0ccdಉ=ಞ\u0cc1
&ಞ\u0ccdಊ=ಞ\u0cc2&ಞ\u0ccdಋ=ಞ\u0cc3&ಞ\u0ccdೠ=ಞ\u0cc4&ಞ\u0ccdಌ=ಞ\u0ce2&ಞ\u0ccdೡ=ಞ\u0ce3
&ಞ\u0ccdಎ=ಞ\u0cc6&ಞ\u0ccdಏ=ಞ\u0cc7&ಞ\u0ccdಐ=ಞ\u0cc8&ಞ\u0ccdಒ=ಞ\u0cca&ಞ\u0ccdಓ=ಞ\u0ccb
&ಞ\u0ccdಔ=ಞ\u0ccc&ಟ\u0ccdಅ=ಟ&ಟ\u0ccdಆ=ಟ\u0cbe&ಟ\u0ccdಇ=ಟ\u0cbf&ಟ\u0ccdಈ=ಟ\u0cc0
&ಟ\u0ccdಉ=ಟ\u0cc1&ಟ\u0ccdಊ=ಟ\u0cc2&ಟ\u0ccdಋ=ಟ\u0cc3&ಟ\u0ccdೠ=ಟ\u0cc4&ಟ\u0ccdಌ=ಟ\u0ce2
&ಟ\u0ccdೡ=ಟ\u0ce3&ಟ\u0ccdಎ=ಟ\u0cc6&ಟ\u0ccdಏ=ಟ\u0cc7&ಟ\u0ccdಐ=ಟ\u0cc8&ಟ\u0ccdಒ=ಟ\u0cca
&ಟ\u0ccdಓ=ಟ\u0ccb&ಟ\u0ccdಔ=ಟ\u0ccc&ಠ\u0ccdಅ=ಠ&ಠ\u0ccdಆ=ಠ\u0cbe&ಠ\u0ccdಇ=ಠ\u0cbf
&ಠ\u0ccdಈ=ಠ\u0cc0&ಠ\u0ccdಉ=ಠ\u0cc1&ಠ\u0ccdಊ=ಠ\u0cc2&ಠ\u0ccdಋ=ಠ\u0cc3&ಠ\u0ccdೠ=ಠ\u0cc4
&ಠ\u0ccdಌ=ಠ\u0ce2&ಠ\u0ccdೡ=ಠ\u0ce3&ಠ\u0ccdಎ=ಠ\u0cc6&ಠ\u0ccdಏ=ಠ\u0cc7&ಠ\u0ccdಐ=ಠ\u0cc8
&ಠ\u0ccdಒ=ಠ\u0cca&ಠ\u0ccdಓ=ಠ\u0ccb&ಠ\u0ccdಔ=ಠ\u0ccc&ಡ\u0ccdಅ=ಡ&ಡ\u0ccdಆ=ಡ\u0cbe
&ಡ\u0ccdಇ=ಡ\u0cbf&ಡ\u0ccdಈ=ಡ\u0cc0&ಡ\u0ccdಉ=ಡ\u0cc1&ಡ\u0ccdಊ=ಡ\u0cc2&ಡ\u0ccdಋ=ಡ\u0cc3
&ಡ\u0ccdೠ=ಡ\u0cc4&ಡ\u0ccdಌ=ಡ\u0ce2&ಡ\u0ccdೡ=ಡ\u0ce3&ಡ\u0ccdಎ=ಡ\u0cc6&ಡ\u0ccdಏ=ಡ\u0cc7
&ಡ\u0ccdಐ=ಡ\u0cc8&ಡ\u0ccdಒ=ಡ\u0cca&ಡ\u0ccdಓ=ಡ\u0ccb&ಡ\u0ccdಔ=ಡ\u0ccc&ಢ\u0ccdಅ=ಢ
&ಢ\u0ccdಆ=ಢ\u0cbe&ಢ\u0ccdಇ=ಢ\u0cbf&ಢ\u0ccdಈ=ಢ\u0cc0&ಢ\u0ccdಉ=ಢ\u0cc1&ಢ\u0ccdಊ=ಢ\u0cc2
&ಢ\u0ccdಋ=ಢ\u0cc3&ಢ\u0ccdೠ=ಢ\u0cc4&ಢ\u0ccdಌ=ಢ\u0ce2&ಢ\u0ccdೡ=ಢ\u0ce3&ಢ\u0ccdಎ=ಢ\u0cc6
&ಢ\u0ccdಏ=ಢ\u0cc7&ಢ\u0ccdಐ=ಢ\u0cc8&ಢ\u0ccdಒ=ಢ\u0cca&ಢ\u0ccdಓ=ಢ\u0ccb&ಢ\u0ccdಔ=ಢ\u0ccc
&ಣ\u0ccdಅ=ಣ&ಣ\u0ccdಆ=ಣ\u0cbe&ಣ\u0ccdಇ=ಣ\u0cbf&ಣ\u0ccdಈ=ಣ\u0cc0&ಣ\u0ccdಉ=ಣ\u0cc1
&ಣ\u0ccdಊ=ಣ\u0cc2&ಣ\u0ccdಋ=ಣ\u0cc3&ಣ\u0ccdೠ=ಣ\u0cc4&ಣ\u0ccdಌ=ಣ\u0ce2&ಣ\u0ccdೡ=ಣ\u0ce3
&ಣ\u0ccdಎ=ಣ\u0cc6&ಣ\u0ccdಏ=ಣ\u0cc7&ಣ\u0ccdಐ=ಣ\u0cc8&ಣ\u0ccdಒ=ಣ\u0cca&ಣ\u0ccdಓ=ಣ\u0ccb
&ಣ\u0ccdಔ=ಣ\u0ccc&ತ\u0ccdಅ=ತ&ತ\u0ccdಆ=ತ\u0cbe&ತ\u0ccdಇ=ತ\u0cbf&ತ\u0ccdಈ=ತ\u0cc0
&ತ\u0ccdಉ=ತ\u0cc1&ತ\u0ccdಊ=ತ\u0cc2&ತ\u0ccdಋ=ತ\u0cc3&ತ\u0ccdೠ=ತ\u0cc4&ತ\u0ccdಌ=ತ\u0ce2
&ತ\u0ccdೡ=ತ\u0ce3&ತ\u0ccdಎ=ತ\u0cc6&ತ\u0ccdಏ=ತ\u0cc7&ತ\u0ccdಐ=ತ\u0cc8&ತ\u0ccdಒ=ತ\u0cca
&ತ\u0ccdಓ=ತ\u0ccb&ತ\u0ccdಔ=ತ\u0ccc&ಥ\u0ccdಅ=ಥ&ಥ\u0ccdಆ=ಥ\u0cbe&ಥ\u0ccdಇ=ಥ\u0cbf
&ಥ\u0ccdಈ=ಥ\u0cc0&ಥ\u0ccdಉ=ಥ\u0cc1&ಥ\u0ccdಊ=ಥ\u0cc2&ಥ\u0ccdಋ=ಥ\u0cc3&ಥ\u0ccdೠ=ಥ\u0cc4
&ಥ\u0ccdಌ=ಥ\u0ce2&ಥ\u0ccdೡ=ಥ\u0ce3&ಥ\u0ccdಎ=ಥ\u0cc6&ಥ\u0ccdಏ=ಥ\u0cc7&ಥ\u0ccdಐ=ಥ\u0cc8
&ಥ\u0ccdಒ=ಥ\u0cca&ಥ\u0ccdಓ=ಥ\u0ccb&ಥ\u0ccdಔ=ಥ\u0ccc&ದ\u0ccdಅ=ದ&ದ\u0ccdಆ=ದ\u0cbe
&ದ\u0ccdಇ=ದ\u0cbf&ದ\u0ccdಈ=ದ\u0cc0&ದ\u0ccdಉ=ದ\u0cc1&ದ\u0ccdಊ=ದ\u0cc2&ದ\u0ccdಋ=ದ\u0cc3
&ದ\u0ccdೠ=ದ\u0cc4&ದ\u0ccdಌ=ದ\u0ce2&ದ\u0ccdೡ=ದ\u0ce3&ದ\u0ccdಎ=ದ\u0cc6&ದ\u0ccdಏ=ದ\u0cc7
&ದ\u0ccdಐ=ದ\u0cc8&ದ\u0ccdಒ=ದ\u0cca&ದ\u0ccdಓ=ದ\u0ccb&ದ\u0ccdಔ=ದ\u0ccc&ಧ\u0ccdಅ=ಧ
&ಧ\u0ccdಆ=ಧ\u0cbe&ಧ\u0ccdಇ=ಧ\u0cbf&ಧ\u0ccdಈ=ಧ\u0cc0&ಧ\u0ccdಉ=ಧ\u0cc1&ಧ\u0ccdಊ=ಧ\u0cc2
&ಧ\u0ccdಋ=ಧ\u0cc3&ಧ\u0ccdೠ=ಧ\u0cc4&ಧ\u0ccdಌ=ಧ\u0ce2&ಧ\u0ccdೡ=ಧ\u0ce3&ಧ\u0ccdಎ=ಧ\u0cc6
&ಧ\u0ccdಏ=ಧ\u0cc7&ಧ\u0ccdಐ=ಧ\u0cc8&ಧ\u0ccdಒ=ಧ\u0cca&ಧ\u0ccdಓ=ಧ\u0ccb&ಧ\u0ccdಔ=ಧ\u0ccc
&ನ\u0ccdಅ=ನ&ನ\u0ccdಆ=ನ\u0cbe&ನ\u0ccdಇ=ನ\u0cbf&ನ\u0ccdಈ=ನ\u0cc0&ನ\u0ccdಉ=ನ\u0cc1
&ನ\u0ccdಊ=ನ\u0cc2&ನ\u0ccdಋ=ನ\u0cc3&ನ\u0ccdೠ=ನ\u0cc4&ನ\u0ccdಌ=ನ\u0ce2&ನ\u0ccdೡ=ನ\u0ce3
&ನ\u0ccdಎ=ನ\u0cc6&ನ\u0ccdಏ=ನ\u0cc7&ನ\u0ccdಐ=ನ\u0cc8&ನ\u0ccdಒ=ನ\u0cca&ನ\u0ccdಓ=ನ\u0ccb
&ನ\u0ccdಔ=ನ\u0ccc&ಪ\u0ccdಅ=ಪ&ಪ\u0ccdಆ=ಪ\u0cbe&ಪ\u0ccdಇ=ಪ\u0cbf&ಪ\u0ccdಈ=ಪ\u0cc0
&ಪ\u0ccdಉ=ಪ\u0cc1&ಪ\u0ccdಊ=ಪ\u0cc2&ಪ\u0ccdಋ=ಪ\u0cc3&ಪ\u0ccdೠ=ಪ\u0cc4&ಪ\u0ccdಌ=ಪ\u0ce2
&ಪ\u0ccdೡ=ಪ\u0ce3&ಪ\u0ccdಎ=ಪ\u0cc6&ಪ\u0ccdಏ=ಪ\u0cc7&ಪ\u0ccdಐ=ಪ\u0cc8&ಪ\u0ccdಒ=ಪ\u0cca
&ಪ\u0ccdಓ=ಪ\u0ccb&ಪ\u0ccdಔ=ಪ\u0ccc&ಫ\u0ccdಅ=ಫ&ಫ\u0ccdಆ=ಫ\u0cbe&ಫ\u0ccdಇ=ಫ\u0cbf
&ಫ\u0ccdಈ=ಫ\u0cc0&ಫ\u0ccdಉ=ಫ\u0cc1&ಫ\u0ccdಊ=ಫ\u0cc2&ಫ\u0ccdಋ=ಫ\u0cc3&ಫ\u0ccdೠ=ಫ\u0cc4
&ಫ\u0ccdಌ=ಫ\u0ce2&ಫ\u0ccdೡ=ಫ\u0ce3&ಫ\u0ccdಎ=ಫ\u0cc6&ಫ\u0ccdಏ=ಫ\u0cc7&ಫ\u0ccdಐ=ಫ\u0cc8
&ಫ\u0ccdಒ=ಫ\u0cca&ಫ\u0ccdಓ=ಫ\u0ccb&ಫ\u0ccdಔ=ಫ\u0ccc&ಬ\u0ccdಅ=ಬ&ಬ\u0ccdಆ=ಬ\u0cbe
&ಬ\u0ccdಇ=ಬ\u0cbf&ಬ\u0ccdಈ=ಬ\u0cc0&ಬ\u0ccdಉ=ಬ\u0cc1&ಬ\u0ccdಊ=ಬ\u0cc2&ಬ\u0ccdಋ=ಬ\u0cc3
&ಬ\u0ccdೠ=ಬ\u0cc4&ಬ\u0ccdಌ=ಬ\u0ce2&ಬ\u0ccdೡ=ಬ\u0ce3&ಬ\u0ccdಎ=ಬ\u0cc6&ಬ\u0ccdಏ=ಬ\u0cc7
&ಬ\u0ccdಐ=ಬ\u0cc8&ಬ\u0ccdಒ=ಬ\u0cca&ಬ\u0ccdಓ=ಬ\u0ccb&ಬ\u0ccdಔ=ಬ\u0ccc&ಭ\u0ccdಅ=ಭ
&ಭ\u0ccdಆ=ಭ\u0cbe&ಭ\u0ccdಇ=ಭ\u0cbf&ಭ\u0ccdಈ=ಭ\u0cc0&ಭ\u0ccdಉ=ಭ\u0cc1&ಭ\u0ccdಊ=ಭ\u0cc2
&ಭ\u0ccdಋ=ಭ\u0cc3&ಭ\u0ccdೠ=ಭ\u0cc4&ಭ\u0ccdಌ=ಭ\u0ce2&ಭ\u0ccdೡ=ಭ\u0ce3&ಭ\u0ccdಎ=ಭ\u0cc6
&ಭ\u0ccdಏ=ಭ\u0cc7&ಭ\u0ccdಐ=ಭ\u0cc8&ಭ\u0ccdಒ=ಭ\u0cca&ಭ\u0ccdಓ=ಭ\u0ccb&ಭ\u0ccdಔ=ಭ\u0ccc
&ಮ\u0ccdಅ=ಮ&ಮ\u0ccdಆ=ಮ\u0cbe&ಮ\u0ccdಇ=ಮ\u0cbf&ಮ\u0ccdಈ=ಮ\u0cc0&ಮ\u0ccdಉ=ಮ\u0cc1
&ಮ\u0ccdಊ=ಮ\u0cc2&ಮ\u0ccdಋ=ಮ\u0cc3&ಮ\u0ccdೠ=ಮ\u0cc4&ಮ\u0ccdಌ=ಮ\u0ce2&ಮ\u0ccdೡ=ಮ\u0ce3
&ಮ\u0ccdಎ=ಮ\u0cc6&ಮ\u0ccdಏ=ಮ\u0cc7&ಮ\u0ccdಐ=ಮ\u0cc8&ಮ\u0ccdಒ=ಮ\u0cca&ಮ\u0ccdಓ=ಮ\u0ccb
&ಮ\u0ccdಔ=ಮ\u0ccc&ಯ\u0ccdಅ=ಯ&ಯ\u0ccdಆ=ಯ\u0cbe&ಯ\u0ccdಇ=ಯ\u0cbf&ಯ\u0ccdಈ=ಯ\u0cc0
&ಯ\u0ccdಉ=ಯ\u0cc1&ಯ\u0ccdಊ=ಯ\u0cc2&ಯ\u0ccdಋ=ಯ\u0cc3&ಯ\u0ccdೠ=ಯ\u0cc4&ಯ\u0ccdಌ=ಯ\u0ce2
&ಯ\u0ccdೡ=ಯ\u0ce3&ಯ\u0ccdಎ=ಯ\u0cc6&ಯ\u0ccdಏ=ಯ\u0cc7&ಯ\u0ccdಐ=ಯ\u0cc8&ಯ\u0ccdಒ=ಯ\u0cca
&ಯ\u0ccdಓ=ಯ\u0ccb&ಯ\u0ccdಔ=ಯ\u0ccc&ರ\u0ccdಅ=ರ&ರ\u0ccdಆ=ರ\u0cbe&ರ\u0ccdಇ=ರ\u0cbf
&ರ\u0ccdಈ=ರ\u0cc0&ರ\u0ccdಉ=ರ\u0cc1&ರ\u0ccdಊ=ರ\u0cc2&ರ\u0ccdಋ=ರ\u0cc3&ರ\u0ccdೠ=ರ\u0cc4
&ರ\u0ccdಌ=ರ\u0ce2&ರ\u0ccdೡ=ರ\u0ce3&ರ\u0ccdಎ=ರ\u0cc6&ರ\u0ccdಏ=ರ\u0cc7&ರ\u0ccdಐ=ರ\u0cc8
&ರ\u0ccdಒ=ರ\u0cca&ರ\u0ccdಓ=ರ\u0ccb&ರ\u0ccdಔ=ರ\u0ccc&ಱ\u0ccdಅ=ಱ&ಱ\u0ccdಆ=ಱ\u0cbe
&ಱ\u0ccdಇ=ಱ\u0cbf&ಱ\u0ccdಈ=ಱ\u0cc0&ಱ\u0ccdಉ=ಱ\u0cc1&ಱ\u0ccdಊ=ಱ\u0cc2&ಱ\u0ccdಋ=ಱ\u0cc3
&ಱ\u0ccdೠ=ಱ\u0cc4&ಱ\u0ccdಌ=ಱ\u0ce2&ಱ\u0ccdೡ=ಱ\u0ce3&ಱ\u0ccdಎ=ಱ\u0cc6&ಱ\u0ccdಏ=ಱ\u0cc7
&ಱ\u0ccdಐ=ಱ\u0cc8&ಱ\u0ccdಒ=ಱ\u0cca&ಱ\u0ccdಓ=ಱ\u0ccb&ಱ\u0ccdಔ=ಱ\u0ccc&ಲ\u0ccdಅ=ಲ
&ಲ\u0ccdಆ=ಲ\u0cbe&ಲ\u0ccdಇ=ಲ\u0cbf&ಲ\u0ccdಈ=ಲ\u0cc0&ಲ\u0ccdಉ=ಲ\u0cc1&ಲ\u0ccdಊ=ಲ\u0cc2
&ಲ\u0ccdಋ=ಲ\u0cc3&ಲ\u0ccdೠ=ಲ\u0cc4&ಲ\u0ccdಌ=ಲ\u0ce2&ಲ\u0ccdೡ=ಲ\u0ce3&ಲ\u0ccdಎ=ಲ\u0cc6
&ಲ\u0ccdಏ=ಲ\u0cc7&ಲ\u0ccdಐ=ಲ\u0cc8&ಲ\u0ccdಒ=ಲ\u0cca&ಲ\u0ccdಓ=ಲ\u0ccb&ಲ\u0ccdಔ=ಲ\u0ccc
&ವ\u0ccdಅ=ವ&ವ\u0ccdಆ=ವ\u0cbe&ವ\u0ccdಇ=ವ\u0cbf&ವ\u0ccdಈ=ವ\u0cc0&ವ\u0ccdಉ=ವ\u0cc1
&ವ\u0ccdಊ=ವ\u0cc2&ವ\u0ccdಋ=ವ\u0cc3&ವ\u0ccdೠ=ವ\u0cc4&ವ\u0ccdಌ=ವ\u0ce2&ವ\u0ccdೡ=ವ\u0ce3
&ವ\u0ccdಎ=ವ\u0cc6&ವ\u0ccdಏ=ವ\u0cc7&ವ\u0ccdಐ=ವ\u0cc8&ವ\u0ccdಒ=ವ\u0cca&ವ\u0ccdಓ=ವ\u0ccb
&ವ\u0ccdಔ=ವ\u0ccc&ಶ\u0ccdಅ=ಶ&ಶ\u0ccdಆ=ಶ\u0cbe&ಶ\u0ccdಇ=ಶ\u0cbf&ಶ\u0ccdಈ=ಶ\u0cc0
&ಶ\u0ccdಉ=ಶ\u0cc1&ಶ\u0ccdಊ=ಶ\u0cc2&ಶ\u0ccdಋ=ಶ\u0cc3&ಶ\u0ccdೠ=ಶ\u0cc4&ಶ\u0ccdಌ=ಶ\u0ce2
&ಶ\u0ccdೡ=ಶ\u0ce3&ಶ\u0ccdಎ=ಶ\u0cc6&ಶ\u0ccdಏ=ಶ\u0cc7&ಶ\u0ccdಐ=ಶ\u0cc8&ಶ\u0ccdಒ=ಶ\u0cca
&ಶ\u0ccdಓ=ಶ\u0ccb&ಶ\u0ccdಔ=ಶ\u0ccc&ಷ\u0ccdಅ=ಷ&ಷ\u0ccdಆ=ಷ\u0cbe&ಷ\u0ccdಇ=ಷ\u0cbf
&ಷ\u0ccdಈ=ಷ\u0cc0&ಷ\u0ccdಉ=ಷ\u0cc1&ಷ\u0ccdಊ=ಷ\u0cc2&ಷ\u0ccdಋ=ಷ\u0cc3&ಷ\u0ccdೠ=ಷ\u0cc4
&ಷ\u0ccdಌ=ಷ\u0ce2&ಷ\u0ccdೡ=ಷ\u0ce3&ಷ\u0ccdಎ=ಷ\u0cc6&ಷ\u0ccdಏ=ಷ\u0cc7&ಷ\u0ccdಐ=ಷ\u0cc8
&ಷ\u0ccdಒ=ಷ\u0cca&ಷ\u0ccdಓ=ಷ\u0ccb&ಷ\u0ccdಔ=ಷ\u0ccc&ಸ\u0ccdಅ=ಸ&ಸ\u0ccdಆ=ಸ\u0cbe
&ಸ\u0ccdಇ=ಸ\u0cbf&ಸ\u0ccdಈ=ಸ\u0cc0&ಸ\u0ccdಉ=ಸ\u0cc1&ಸ\u0ccdಊ=ಸ\u0cc2&ಸ\u0ccdಋ=ಸ\u0cc3
&ಸ\u0ccdೠ=ಸ\u0cc4&ಸ\u0ccdಌ=ಸ\u0ce2&ಸ\u0ccdೡ=ಸ\u0ce3&ಸ\u0ccdಎ=ಸ\u0cc6&ಸ\u0ccdಏ=ಸ\u0cc7
&ಸ\u0ccdಐ=ಸ\u0cc8&ಸ\u0ccdಒ=ಸ\u0cca&ಸ\u0ccdಓ=ಸ\u0ccb&ಸ\u0ccdಔ=ಸ\u0ccc&ಹ\u0ccdಅ=ಹ
&ಹ\u0ccdಆ=ಹ\u0cbe&ಹ\u0ccdಇ=ಹ\u0cbf&ಹ\u0ccdಈ=ಹ\u0cc0&ಹ\u0ccdಉ=ಹ\u0cc1&ಹ\u0ccdಊ=ಹ\u0cc2
&ಹ\u0ccdಋ=ಹ\u0cc3&ಹ\u0ccdೠ=ಹ\u0cc4&ಹ\u0ccdಌ=ಹ\u0ce2&ಹ\u0ccdೡ=ಹ\u0ce3&ಹ\u0ccdಎ=ಹ\u0cc6
&ಹ\u0ccdಏ=ಹ\u0cc7&ಹ\u0ccdಐ=ಹ\u0cc8&ಹ\u0ccdಒ=ಹ\u0cca&ಹ\u0ccdಓ=ಹ\u0ccb&ಹ\u0ccdಔ=ಹ\u0ccc
&ಳ\u0ccdಅ=ಳ&ಳ\u0ccdಆ=ಳ\u0cbe&ಳ\u0ccdಇ=ಳ\u0cbf&ಳ\u0ccdಈ=ಳ\u0cc0&ಳ\u0ccdಉ=ಳ\u0cc1
&ಳ\u0ccdಊ=ಳ\u0cc2&ಳ\u0ccdಋ=ಳ\u0cc3&ಳ\u0ccdೠ=ಳ\u0cc4&ಳ\u0ccdಌ=ಳ\u0ce2&ಳ\u0ccdೡ=ಳ\u0ce3
&ಳ\u0ccdಎ=ಳ\u0cc6&ಳ\u0ccdಏ=ಳ\u0cc7&ಳ\u0ccdಐ=ಳ\u0cc8&ಳ\u0ccdಒ=ಳ\u0cca&ಳ\u0ccdಓ=ಳ\u0ccb
&ಳ\u0ccdಔ=ಳ\u0ccc&ೞ\u0ccdಅ=ೞ&ೞ\u0ccdಆ=ೞ\u0cbe&ೞ\u0ccdಇ=ೞ\u0cbf&ೞ\u0ccdಈ=ೞ\u0cc0
&ೞ\u0ccdಉ=ೞ\u0cc1&ೞ\u0ccdಊ=ೞ\u0cc2&ೞ\u0ccdಋ=ೞ\u0cc3&ೞ\u0ccdೠ=ೞ\u0cc4&ೞ\u0ccdಌ=ೞ\u0ce2
&ೞ\u0ccdೡ=ೞ\u0ce3&ೞ\u0ccdಎ=ೞ\u0cc6&ೞ\u0ccdಏ=ೞ\u0cc7&ೞ\u0ccdಐ=ೞ\u0cc8&ೞ\u0ccdಒ=ೞ\u0cca
&ೞ\u0ccdಓ=ೞ\u0ccb&ೞ\u0ccdಔ=ೞ\u0ccc&ಙ\u0ccdಕ<<<\u0c82ಕ&ಙ\u0ccdಖ<<<\u0c82ಖ&ಙ\u0ccdಗ<<<\u0c82ಗ
&ಙ\u0ccdಘ<<<\u0c82ಘ&ಙ\u0ccdಙ<<<\u0c82ಙ&ಞ\u0ccdಚ<<<\u0c82ಚ&ಞ\u0ccdಛ<<<\u0c82ಛ
&ಞ\u0ccdಜ<<<\u0c82ಜ&ಞ\u0ccdಝ<<<\u0c82ಝ&ಞ\u0ccdಞ<<<\u0c82ಞ&ಣ\u0ccdಟ<<<\u0c82ಟ
&ಣ\u0ccdಠ<<<\u0c82ಠ&ಣ\u0ccdಡ<<<\u0c82ಡ&ಣ\u0ccdಢ<<<\u0c82ಢ&ಣ\u0ccdಣ<<<\u0c82ಣ
&ನ\u0ccdತ<<<\u0c82ತ&ನ\u0ccdಥ<<<\u0c82ಥ&ನ\u0ccdದ<<<\u0c82ದ&ನ\u0ccdಧ<<<\u0c82ಧ
&ನ\u0ccdನ<<<\u0c82ನ&ಮ\u0ccdಪ<<<\u0c82ಪ&ಮ\u0ccdಫ<<<\u0c82ಫ&ಮ\u0ccdಬ<<<\u0c82ಬ
&ಮ\u0ccdಭ<<<\u0c82ಭ&ಮ\u0ccdಮ<<<\u0c82ಮ&ಜ<<<ಜ\u0cbc&ಜ\u0cbe<<<ಜ\u0cbc\u0cbe
&ಜ\u0cbf<<<ಜ\u0cbc\u0cbf&ಜ\u0cc0<<<ಜ\u0cbc\u0cc0&ಜ\u0cc1<<<ಜ\u0cbc\u0cc1
&ಜ\u0cc2<<<ಜ\u0cbc\u0cc2&ಜ\u0cc3<<<ಜ\u0cbc\u0cc3&ಜ\u0cc4<<<ಜ\u0cbc\u0cc4
&ಜ\u0ce2<<<ಜ\u0cbc\u0ce2&ಜ\u0ce3<<<ಜ\u0cbc\u0ce3&ಜ\u0cc6<<<ಜ\u0cbc\u0cc6
&ಜ\u0cc7<<<ಜ\u0cbc\u0cc7&ಜ\u0cc8<<<ಜ\u0cbc\u0cc8&ಜ\u0cca<<<ಜ\u0cbc\u0cca
&ಜ\u0ccb<<<ಜ\u0cbc\u0ccb&ಜ\u0ccc<<<ಜ\u0cbc\u0ccc&ಫ<<<ಫ\u0cbc&ಫ\u0cbe<<<ಫ\u0cbc\u0cbe
&ಫ\u0cbf<<<ಫ\u0cbc\u0cbf&ಫ\u0cc0<<<ಫ\u0cbc\u0cc0&ಫ\u0cc1<<<ಫ\u0cbc\u0cc1
&ಫ\u0cc2<<<ಫ\u0cbc\u0cc2&ಫ\u0cc3<<<ಫ\u0cbc\u0cc3&ಫ\u0cc4<<<ಫ\u0cbc\u0cc4
&ಫ\u0ce2<<<ಫ\u0cbc\u0ce2&ಫ\u0ce3<<<ಫ\u0cbc\u0ce3&ಫ\u0cc6<<<ಫ\u0cbc\u0cc6
&ಫ\u0cc7<<<ಫ\u0cbc\u0cc7&ಫ\u0cc8<<<ಫ\u0cbc\u0cc8&ಫ\u0cca<<<ಫ\u0cbc\u0cca
&ಫ\u0ccb<<<ಫ\u0cbc\u0ccb&ಫ\u0ccc<<<ಫ\u0cbc\u0ccc"),
    ("kok",
      "[reorder Deva Beng Guru Gujr Orya Taml Telu Knda Mlym Sinh]&ॐ<\u0902<<\u0901<\u0903
&ह<ळ<क\u094dष"),
    ("ml",
      "[reorder Mlym Latn Deva Arab Taml Knda Telu Beng Guru Gujr Orya Sinh]&\u0d03<<ഽ
&\u0d4c<<\u0d57&ക\u0d4d<<ക\u0d4d\u200d<<<ൿ&ണ\u0d4d<<ണ\u0d4d\u200d<<<ൺ
&ന\u0d4d<<ന\u0d4d\u200d<<<ൻ&ര\u0d4d<<ര\u0d4d\u200d<<<ർ&ല\u0d4d<<ല\u0d4d\u200d<<<ൽ
&ള\u0d4d<<ള\u0d4d\u200d<<<ൾ&മ\u0d4d<<\u0d02&ന\u0d4d<<<ൻ\u0d4d"),
    ("mr",
      "[reorder Deva Beng Guru Gujr Orya Taml Telu Knda Mlym Sinh]&ॐ<\u0902<<\u0901<\u0903
&ह<ळ<क\u094dष<ज\u094dञ"),
    ("ne", "[reorder Deva]"),
    ("or",
      "[reorder Orya Deva Beng Guru Gujr Taml Telu Knda Mlym Sinh]&ଔ<\u0b01<\u0b02<\u0b03
&ହ<କ\u0b4dଷ&ଯ<<ୟ"),
    ("pa",
      "[reorder Guru Deva Beng Gujr Orya Taml Telu Knda Mlym Sinh Arab]
&\u0a71<<\u0a70<<\u0a02<<\u0a01<<\u0a3c&ੜ<\u0a4d"),
    ("si", "[reorder Sinh Deva Beng Guru Gujr Orya Taml Telu Knda Mlym]&ඖ<\u0d82<\u0d83&ඥ<ඤ"),
    ("si@dict",
      "[reorder Sinh Deva Beng Guru Gujr Orya Taml Telu Knda Mlym]&ඖ<\u0d82<\u0d83&ජ\u0dcaඤ<<ඥ"),
    ("ta",
      "[reorder Taml Deva Beng Guru Gujr Orya Telu Knda Mlym Sinh]&ஔ<\u0b82<ஃ&ஹ<க\u0bcdஷ
&[before 1]க<க\u0bcd&[before 1]ங<ங\u0bcd&[before 1]ச<ச\u0bcd&[before 1]ஞ<ஞ\u0bcd
&[before 1]ட<ட\u0bcd&[before 1]ண<ண\u0bcd&[before 1]த<த\u0bcd&[before 1]ந<ந\u0bcd
&[before 1]ப<ப\u0bcd&[before 1]ம<ம\u0bcd&[before 1]ய<ய\u0bcd&[before 1]ர<ர\u0bcd
&[before 1]ல<ல\u0bcd&[before 1]வ<வ\u0bcd&[before 1]ழ<ழ\u0bcd&[before 1]ள<ள\u0bcd
&[before 1]ற<ற\u0bcd&[before 1]ன<ன\u0bcd&[before 1]ஜ<ஜ\u0bcd&[before 1]ஶ<ஶ\u0bcd
&[before 1]ஷ<ஷ\u0bcd&[before 1]ஸ<ஸ\u0bcd&[before 1]ஹ<ஹ\u0bcd
&[before 1]க\u0bcdஷ<க\u0bcdஷ\u0bcd"),
    ("te", "[reorder Telu Deva Beng Guru Gujr Orya Taml Knda Mlym Sinh]&ఔ<\u0c01<\u0c02<\u0c03")]

end Collation

end StyleHost
