/-!
# Orders of languages in Latin script

The rules of languages that are written in Latin script, by the names of their orders. A name is a
language tag, and after `@` the special order that it asks for.

* `latinOrders` : the rules by name.
-/

namespace StyleHost

namespace Collation

/-- The rules of languages in Latin script. -/
def latinOrders : List (String × String) :=
  [("af", "&N<<<ŉ"),
    ("az",
      "[reorder Latn Cyrl]&C<ç<<<Ç&G<ğ<<<Ğ&[before 1]i<ı<<<I&i<<<İ&O<ö<<<Ö&S<ş<<<Ş&U<ü<<<Ü&K<q<<<Q
&E<ə<<<Ə&H<x<<<X&Z<w<<<W"),
    ("blo",
      "&a<ǝ<<<Ǝ&g<gb<<<Gb<<<GB&k<kp<<<Kp<<<KP&n<ny<<<Ny<<<NY&ŋ<ŋm<<<Ŋm<<<ŊM&s<sh<<<Sh<<<SH"),
    ("br", "&C<ch<<<Ch<<<CH<c''h=cʼh=c’h<<<C''h=Cʼh=C’h<<<C''H=CʼH=C’H"),
    ("bs",
      "[reorder Latn Cyrl]&C<č<<<Č<ć<<<Ć&D<dž<<<ǆ<<<Dž<<<ǅ<<<DŽ<<<Ǆ<đ<<<Đ
&L<lj<<<ǉ<<<Lj<<<ǈ<<<LJ<<<Ǉ&N<nj<<<ǌ<<<Nj<<<ǋ<<<NJ<<<Ǌ&S<š<<<Š&Z<ž<<<Ž"),
    ("ceb", "&N<ñ<<<Ñ<ng<<<Ng<<<NG"),
    ("cs", "&C<č<<<Č&H<ch<<<cH<<<Ch<<<CH&R<ř<<<Ř&S<š<<<Š&Z<ž<<<Ž"),
    ("cy",
      "&C<ch<<<Ch<<<CH&D<dd<<<Dd<<<DD&F<ff<<<Ff<<<FF&G<ng<<<Ng<<<NG&L<ll<<<Ll<<<LL&P<ph<<<Ph<<<PH
&R<rh<<<Rh<<<RH&T<th<<<Th<<<TH"),
    ("da",
      "[caseFirst upper]&D<<đ<<<Đ<<ð<<<Ð&th<<<þ&TH<<<Þ&Y<<ü<<<Ü<<ű<<<Ű&[before 1]ǀ<æ<<<Æ<<ä<<<Ä<ø
<<<Ø<<ö<<<Ö<<ő<<<Ő<å<<<Å<<<aa<<<Aa<<<AA&oe<<œ<<<Œ"),
    ("de@phonebk", "&AE<<ä<<<Ä&OE<<ö<<<Ö&UE<<ü<<<Ü"),
    ("de-AT@phonebk", "&a<ä<<<Ä&o<ö<<<Ö&u<ü<<<Ü&ss<ß<<<ẞ"),
    ("dsb",
      "&C<č<<<Č<ć<<<Ć&E<ě<<<Ě&H<ch<<<cH<<<Ch<<<CH&[before 1]L<ł<<<Ł&N<ń<<<Ń&R<ŕ<<<Ŕ&S<š<<<Š<ś<<<Ś
&Z<ž<<<Ž<ź<<<Ź"),
    ("eo", "&C<ĉ<<<Ĉ&G<ĝ<<<Ĝ&H<ĥ<<<Ĥ&J<ĵ<<<Ĵ&S<ŝ<<<Ŝ&U<ŭ<<<Ŭ"),
    ("es", "&N<ñ<<<Ñ"),
    ("es@trad", "&N<ñ<<<Ñ&C<ch<<<Ch<<<CH&l<ll<<<Ll<<<LL"),
    ("et", "&[before 1]T<š<<<Š<z<<<Z<ž<<<Ž&[before 1]X<õ<<<Õ<ä<<<Ä<ö<<<Ö<ü<<<Ü"),
    ("fi",
      "&D\u0335<<đ<<<Đ&G\u0335<<ǥ<<<Ǥ&N\u0335<<ŋ<<<Ŋ&T\u0335<<ŧ<<<Ŧ&Y<<ü<<<Ü&Z\u0335<<ʒ<<<Ʒ
&[before 1]ǀ<å<<<Å<ä<<<Ä<<æ<<<Æ<ö<<<Ö<<ø<<<Ø"),
    ("fi@trad",
      "&D<<ð<<<Ð<<đ<<<Đ&N<<ŋ<<<Ŋ&T<<þ/h<<<Þ/h&V<<w<<<W&Y<<ü<<<Ü<<ű<<<Ű
&[before 1]ǀ<å<<<Å<ä<<<Ä<<æ<<<Æ<ö<<<Ö<<ø<<<Ø<<ő<<<Ő<<õ<<<Õ<<œ<<<Œ"),
    ("fil", "&N<ñ<<<Ñ<ng<<<Ng<<<NG"),
    ("fo",
      "&D<<đ<<<Đ<<ð<<<Ð&t<<<þ/h&T<<<Þ/H&Y<<ü<<<Ü<<ű<<<Ű&[before 1]ǀ<æ<<<Æ<<ä<<<Ä<<ę<<<Ę<ø<<<Ø<<ö
<<<Ö<<ő<<<Ő<<œ<<<Œ<å<<<Å<<<aa<<<Aa<<<AA"),
    ("fr-CA", "[backwards 2]"),
    ("fy", "&I<<y<<<Y"),
    ("gl", "&N<ñ<<<Ñ"),
    ("ha",
      "&B<ɓ<<<Ɓ&D<ɗ<<<Ɗ&K<ƙ<<<Ƙ&S<sh<<<Sh<<<SH&T<ts<<<Ts<<<TS&Y<ƴ<<<ʼy<<<''y<<<Ƴ<<<ʼY<<<''Y"),
    ("hr",
      "[reorder Latn Cyrl]&C<č<<<Č<ć<<<Ć&D<dž<<<ǆ<<<Dž<<<ǅ<<<DŽ<<<Ǆ<đ<<<Đ
&L<lj<<<ǉ<<<Lj<<<ǈ<<<LJ<<<Ǉ&N<nj<<<ǌ<<<Nj<<<ǋ<<<NJ<<<Ǌ&S<š<<<Š&Z<ž<<<Ž"),
    ("hsb",
      "&C<č<<<Č<ć<<<Ć&E<ě<<<Ě&H<ch<<<cH<<<Ch<<<CH&[before 1]L<ł<<<Ł&R<ř<<<Ř&S<š<<<Š&Z<ž<<<Ž<ź<<<Ź"),
    ("hu",
      "&C<cs<<<Cs<<<CS&D<dz<<<Dz<<<DZ&DZ<dzs<<<Dzs<<<DZS&G<gy<<<Gy<<<GY&L<ly<<<Ly<<<LY
&N<ny<<<Ny<<<NY&S<sz<<<Sz<<<SZ&T<ty<<<Ty<<<TY&Z<zs<<<Zs<<<ZS&O<ö<<<Ö<<ő<<<Ő&U<ü<<<Ü<<ű<<<Ű
&cs<<<ccs/cs&Cs<<<Ccs/cs&CS<<<CCS/CS&dz<<<ddz/dz&Dz<<<Ddz/dz&DZ<<<DDZ/DZ&dzs<<<ddzs/dzs
&Dzs<<<Ddzs/dzs&DZS<<<DDZS/DZS&gy<<<ggy/gy&Gy<<<Ggy/gy&GY<<<GGY/GY&ly<<<lly/ly&Ly<<<Lly/ly
&LY<<<LLY/LY&ny<<<nny/ny&Ny<<<Nny/ny&NY<<<NNY/NY&sz<<<ssz/sz&Sz<<<Ssz/sz&SZ<<<SSZ/SZ
&ty<<<tty/ty&Ty<<<Tty/ty&TY<<<TTY/TY&zs<<<zzs/zs&Zs<<<Zzs/zs&ZS<<<ZZS/ZS"),
    ("ig",
      "&B<ch<<<Ch<<<CH&G<gb<<<Gb<<<GB<gh<<<Gh<<<GH<gw<<<Gw<<<GW&I<ị<<<Ị&K<kp<<<Kp<<<KP<kw<<<Kw<<<KW
&N<ṅ<<<Ṅ<nw<<<Nw<<<NW<ny<<<Ny<<<NY&O<ọ<<<Ọ&S<sh<<<Sh<<<SH&U<ụ<<<Ụ"),
    ("is",
      "&[before 1]b<á<<<Á&d<<đ<<<Đ<ð<<<Ð&[before 1]f<é<<<É&[before 1]j<í<<<Í&[before 1]p<ó<<<Ó
&[before 1]v<ú<<<Ú&[before 1]z<ý<<<Ý&[before 1]ǀ<æ<<<Æ<<ä<<<Ä<ö<<<Ö<<ø<<<Ø<å<<<Å"),
    ("ku",
      "[reorder Latn Arab]&c<ç<<<Ç&e<ê<<<Ê&i<î<<<Î&s<ş<<<Ş&u<û<<<Û&ê<<é<<<É&î<<í<<<Í&û<<ú<<<Ú
&ú<<ù<<<Ù"),
    ("lt",
      "&\u0300=\u0307\u0300&\u0301=\u0307\u0301&\u0303=\u0307\u0303&A<<ą<<<Ą&C<č<<<Č
&E<<ę<<<Ę<<ė<<<Ė&I<<į<<<Į<<y<<<Y&S<š<<<Š&U<<ų<<<Ų<<ū<<<Ū&Z<ž<<<Ž"),
    ("lv",
      "&A<ā<<<Ā&C<č<<<Č&E<ē<<<Ē&G<ģ<<<Ģ&I<y<<<Y<ī<<<Ī&K<ķ<<<Ķ&L<ļ<<<Ļ&N<ņ<<<Ņ&O<ō<<<Ō&R<ŗ<<<Ŗ
&S<š<<<Š&U<ū<<<Ū&Z<ž<<<Ž"),
    ("mt",
      "[caseFirst upper]&[before 1]c<ċ<<<Ċ&[before 1]g<ġ<<<Ġ&[before 1]h<għ<<<gĦ<<<Għ<<<GĦ
&[before 1]i<ħ<<<Ħ&[before 1]z<ż<<<Ż"),
    ("no",
      "&D<<đ<<<Đ<<ð<<<Ð&t<<<þ/h&T<<<Þ/H&Y<<ü<<<Ü<<ű<<<Ű&[before 1]ǀ<æ<<<Æ<<ä<<<Ä<<ę<<<Ę<ø<<<Ø<<ö
<<<Ö<<ő<<<Ő<<œ<<<Œ<å<<<Å<<aa<<<Aa<<<AA"),
    ("pl", "&A<ą<<<Ą&C<ć<<<Ć&E<ę<<<Ę&L<ł<<<Ł&N<ń<<<Ń&O<ó<<<Ó&S<ś<<<Ś&Z<ź<<<Ź<ż<<<Ż"),
    ("ro", "&A<ă<<<Ă<â<<<Â&I<î<<<Î&S<ş=ș<<<Ş=Ș&T<ţ=ț<<<Ţ=Ț"),
    ("sk", "&A<ä<<<Ä&C<č<<<Č&H<ch<<<cH<<<Ch<<<CH&O<ô<<<Ô&R<ř<<<Ř&S<š<<<Š&Z<ž<<<Ž"),
    ("sl", "&C<č<<<Č<ć<<<Ć&D<đ<<<Đ&S<š<<<Š&Z<ž<<<Ž"),
    ("sq",
      "&[before 1]D<ç<<<Ç&[before 1]E<dh<<<Dh<<<DH&[before 1]F<ë<<<Ë&[before 1]H<gj<<<Gj<<<GJ
&[before 1]M<ll<<<Ll<<<LL&[before 1]O<nj<<<Nj<<<NJ&[before 1]S<rr<<<Rr<<<RR
&[before 1]T<sh<<<Sh<<<SH&[before 1]U<th<<<Th<<<TH&[before 1]Y<xh<<<Xh<<<XH
&[before 1]Ʒ<zh<<<Zh<<<ZH"),
    ("sr-Latn",
      "[reorder Latn Cyrl]&C<č<<<Č<ć<<<Ć&D<dž<<<ǆ<<<Dž<<<ǅ<<<DŽ<<<Ǆ<đ<<<Đ
&L<lj<<<ǉ<<<Lj<<<ǈ<<<LJ<<<Ǉ&N<nj<<<ǌ<<<Nj<<<ǋ<<<NJ<<<Ǌ&S<š<<<Š&Z<ž<<<Ž"),
    ("sv",
      "&D<<đ<<<Đ<<ð<<<Ð&t<<<þ/h&T<<<Þ/H&Y<<ü<<<Ü<<ű<<<Ű&[before 1]ǀ<å<<<Å<ä<<<Ä<<æ<<<Æ<<ę<<<Ę<ö<<<Ö
<<ø<<<Ø<<ő<<<Ő<<œ<<<Œ<<ô<<<Ô"),
    ("sv@trad",
      "&D<<đ<<<Đ<<ð<<<Ð&t<<<þ/h&T<<<Þ/H&v<<<V<<w<<<W&Y<<ü<<<Ü<<ű<<<Ű&[before 1]ǀ<å<<<Å<ä<<<Ä<<æ<<<Æ
<<ę<<<Ę<ö<<<Ö<<ø<<<Ø<<ő<<<Ő<<œ<<<Œ<<ô<<<Ô"),
    ("tk", "&C<ç<<<Ç&E<ä<<<Ä&J<ž<<<Ž&N<ň<<<Ň&O<ö<<<Ö&S<ş<<<Ş&U<ü<<<Ü&Y<ý<<<Ý"),
    ("to",
      "&n<ng<<<Ng<<<NG<<<ŋ<<<Ŋ&z<ʻ<<<ʽ&a<<á<<<Á<<ā<<<Ā&e<<é<<<É<<ē<<<Ē&i<<í<<<Í<<ī<<<Ī
&o<<ó<<<Ó<<ō<<<Ō&u<<ú<<<Ú<<ū<<<Ū"),
    ("tr", "&C<ç<<<Ç&G<ğ<<<Ğ&[before 1]i<ı<<<I&i<<<İ&O<ö<<<Ö&S<ş<<<Ş&U<ü<<<Ü"),
    ("uz", "&[before 1]ʒ<oʻ=o‘=o''<<<Oʻ=O‘=O''<gʻ=g‘=g''<<<Gʻ=G‘=G''<sh<<<Sh<<<SH<ch<<<Ch<<<CH"),
    ("vi",
      "&\u0300<<\u0309<<\u0303<<\u0301<<\u0323&a<ă<<<Ă<â<<<Â&d<đ<<<Đ&e<ê<<<Ê
&o<ô<<<Ô<ơ<<<Ơ&u<ư<<<Ư"),
    ("vi@trad",
      "&\u0300<<\u0309<<\u0303<<\u0301<<\u0323&a<ă<<<Ă<â<<<Â&C<ch<<<Ch<<<CH&d<đ<<<Đ&e<ê<<<Ê
&G<gh<<<Gh<<<GH<gi<<<Gi<<<GI&K<kh<<<Kh<<<KH
&N<nh<<<Nh<<<NH<ng<<<Ng<<<NG<ngh<<<Ngh<<<NGh<<<NGH&o<ô<<<Ô<ơ<<<Ơ&P<ph<<<Ph<<<PH
&Q<qu<<<Qu<<<QU&T<th<<<Th<<<TH<tr<<<Tr<<<TR&u<ư<<<Ư"),
    ("wo", "&A<à<<<À&E<é<<<É<ë<<<Ë&N<ñ<<<Ñ<ŋ<<<Ŋ&O<ó<<<Ó"),
    ("yo", "&E<ẹ<<<Ẹ&G<gb<<<Gb<<<GB&O<ọ<<<Ọ&S<ṣ<<<Ṣ")]

end Collation

end StyleHost
