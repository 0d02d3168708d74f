/-!
# Root order of the characters from U+10000 on

* `supplementaryCharacters` : the words of this part of the root table for `Collation.root`.
-/

namespace StyleHost

namespace Collation

/-- The elements of historic scripts, musical signs, pictures and the like. -/
def supplementaryCharacters : String :=
"10000-1000B=4ADA 1000D-10026=4AE6 10028-1003A=4B00 1003C-1003D=4B13 1003F-1004D=4B15
10050-1005D=4B24 10080-100FA=4B32 10100-10102=125 10107-1010F=1EB7 10110-10133=1D25 10137-1013F=F17
10140-10141=1D49 10142=1EB7 10143=1EBB 10144-10147=1D4B 10148=1EBB 10149-1014E=1D4F 1014F=1EBB
10150-10157=1D55 10158=1EB7 10159=1EB7 1015A-1015B=1EB7 1015C=1EB8 1015D=1EB8 1015E=1EB8 1015F=1EBB
10160-10172=1D5D 10173=1EBB 10174-10178=1D70 10179-10189=F20 1018A=1EB6 1018B=1D75 1018C-1018E=F31
10190-1019C=F34 101A0=F41 101D0-101FC=F42 101FD=.1E 10280-1029C=481E 102A0-102D0=483C 102E0=
102E1-102E9=1EB7 102EA-102FB=1D76 10300-1030E=4889 1030F-1031E=4899 1031F=4898 10320=1EB7
10321=1EBB 10322-10323=1D1F 1032D-1032F=48A9 10330-1034A=48AD 10350-10375=21AB 10376=21AB,20
10377=21AE,20 10378=21B2,20 10379=21B8,20 1037A=21BC,20 10380-1039D=4F65 1039F=128 103A0-103C3=4F84
103C8-103CF=4FA8 103D0=129 103D1-103D2=1EB7 103D3-103D5=1D88 10400=48C9,20u 10401=48CA,20u
10402=48CB,20u 10403=48CC,20u 10404=48CD,20u 10405=48CE,20u 10406=48CF,20u 10407=48D0,20u
10408=48D1,20u 10409=48D2,20u 1040A=48D3,20u 1040B=48D4,20u 1040C=48D5,20u 1040D=48D6,20u
1040E=48D7,20u 1040F=48D8,20u 10410=48D9,20u 10411=48DA,20u 10412=48DB,20u 10413=48DC,20u
10414=48DD,20u 10415=48DE,20u 10416=48DF,20u 10417=48E0,20u 10418=48E1,20u 10419=48E2,20u
1041A=48E3,20u 1041B=48E4,20u 1041C=48E5,20u 1041D=48E6,20u 1041E=48E7,20u 1041F=48E8,20u
10420=48E9,20u 10421=48EA,20u 10422=48EB,20u 10423=48EC,20u 10424=48ED,20u 10425=48EE,20u
10426=48EF,20u 10427=48F0,20u 10428-1044F=48C9 10450-1047F=48F2 10480-1049D=49AF 104A0-104A9=1EB6
104B0=362B,20u 104B1=362C,20u 104B2=362D,20u 104B3=362E,20u 104B4=362F,20u 104B5=3630,20u
104B6=3631,20u 104B7=3632,20u 104B8=3633,20u 104B9=3634,20u 104BA=3635,20u 104BB=3636,20u
104BC=3637,20u 104BD=3638,20u 104BE=3639,20u 104BF=363A,20u 104C0=363B,20u 104C1=363C,20u
104C2=363D,20u 104C3=363E,20u 104C4=363F,20u 104C5=3640,20u 104C6=3641,20u 104C7=3642,20u
104C8=3643,20u 104C9=3644,20u 104CA=3645,20u 104CB=3646,20u 104CC=3647,20u 104CD=3648,20u
104CE=3649,20u 104CF=364A,20u 104D0=364B,20u 104D1=364C,20u 104D2=364D,20u 104D3=364E,20u
104D8-104FB=362B 10500-10527=49CE 10530-10563=49F7 1056F=28C 10570=4A2C,20u 10571=4A2D,20u
10572=4A2E,20u 10573=4A2F,20u 10574=4A30,20u 10575=4A31,20u 10576=4A32,20u 10577=4A33,20u
10578=4A34,20u 10579=4A35,20u 1057A=4A36,20u 1057C=4A37,20u 1057D=4A38,20u 1057E=4A39,20u
1057F=4A3A,20u 10580=4A3B,20u 10581=4A3C,20u 10582=4A3D,20u 10583=4A3E,20u 10584=4A3F,20u
10585=4A40,20u 10586=4A41,20u 10587=4A42,20u 10588=4A43,20u 10589=4A44,20u 1058A=4A45,20u
1058C=4A46,20u 1058D=4A47,20u 1058E=4A48,20u 1058F=4A49,20u 10590=4A4A,20u 10591=4A4B,20u
10592=4A4C,20u 10594=4A4D,20u 10595=4A4E,20u 10597-105A1=4A2C 105A3-105B1=4A37 105B3-105B9=4A46
105BB-105BC=4A4D 10600-10736=4BAE 10740-10755=4CE5 10760-10767=4CFB 10780=1EC1,2B;1EC1,2B
10781=1C66,20 10782=1C67,20 10783=1EC1.2,2E;1EF2,2B 10784=1ED0,20 10785=1ED7,2E
10787=1EE4,2B;202C,2B 10788=1EE4,2B;2032,2E 10789=1EE4,2B;2033,2E 1078A=1EE4,2B;2037,2C
1078B=1EEA,2E 1078C=1EEB,2E 1078D=1EED,20 1078E=1F00,20 1078F=1F06,20 10790=1F09,2B;1F7E,2C
10791=1F08,2E 10792=1F17,2E 10793=1F1A,2E 10794=1F1B,20 10795=1F21,2B;.23,20 10796=1F22,20
10797=1F2A,20 10798=1F40,20 10799=1F4C,2B;1FD4,2B 1079A=1F4C,2B;202C,2B 1079B=1F56,2E 1079C=1F57,20
1079D=1F5D,20 1079E=1F61,20 1079F=1F62,20 107A0=1F65,20 107A1=1F66,20 107A2=1F82,2B;.19,20
107A3=1F86,20 107A4=1F9C,20 107A5=1FAC,2B 107A6=1FBC,20 107A7=1FBD,20 107A8=1FC2,2E 107A9=1FC5,20
107AA=1FB5,2C 107AB=1FE9,2B;1EE1,2E 107AC=1FE9,2B;1FD4,2B 107AD=1FE9,2B;1FD9,2C
107AE=1FE9,2B;1FE0,2C 107AF=1FF0,2E 107B0=2014,20 107B2=2026,20 107B3=2062,20 107B4=2063,20
107B5=206D,20 107B6=2066,20 107B7=2067,20 107B8=2068,20 107B9=206A,20 107BA=1FDB,20
10800-10805=4D04 10808=4D0A 1080A-10835=4D0B 10837-10838=4D37 1083C=4D39 1083F=4D3A
10840-10855=4E54 10857=ED 10858-1085A=1EB7 1085B-1085F=1D99 10860-1086C=4E10 1086D=4E1D,20
1086E-10876=4E1D 10877-10878=F6F 10879-1087D=1EB7 1087E-1087F=1D8B 10880=4E27,20 10881=4E27
10882=4E28,20 10883-10885=4E28 10886=4E2B,20 10887-1088B=4E2B 1088C=4E30,20 1088D=4E30
1088E=4E31,20 1088F=4E31 10890=4E32,20 10891=4E32 10892=4E33,20 10893=4E33 10894=4E34,20
10895-1089B=4E34 1089C=4E3B,20 1089D-1089E=4E3B 108A7-108AA=1EB7 108AB-108AC=1EBA 108AD-108AF=1D8D
108E0-108F2=4E3E 108F4-108F5=4E51 108FB=1EB7 108FC=1EBB 108FD-108FF=1D90 10900-10915=226A
10916=1EB7 10917-10919=1D96 1091A-1091B=1EB8 1091F=12A 10920-10939=486E 1093F=124 10980=5847.2
10981=5848.2 10982=5849.2 10983=584A.2 10984=584B.2 10985=584C.2 10986=584D.2 10987=584D.7
10988=584E.2 10989=584F.2 1098A=5850.2 1098B=5850.7 1098C=5851.2 1098D=5851.7 1098E=5852.2
1098F=5852.7 10990=5853.2 10991=5854.2 10992=5855.2 10993=5856.5 10994=5856.9 10995=5857.2
10996=5858.2 10997=5859.2 10998=585A.2 10999=585A.7 1099A=585B.2 1099B=585B.7 1099C=585C.2
1099D=585D.2 1099E-1099F=5860 109A0-109AF=5847 109B0=5856.2 109B1-109B7=5857 109BC=1E9B 109BD=1E90
109BE-109BF=585E 109C0-109C8=1EB7 109C9-109CF=1E65 109D2-109F5=1E6C 109F6-109FF=1E91
10A00-10A03=2E44 10A05-10A06=2E48 10A0C=2E4A 10A0D=.1E 10A0E=.AE 10A0F=.AF 10A10=2E4B
10A11-10A13=2E4D 10A15-10A17=2E50 10A19-10A1A=2E53 10A1B=2E56 10A1C-10A2C=2E58 10A2D-10A31=2E6A
10A32=2E4C 10A33=2E57 10A34=2E55 10A35=2E69 10A38=.B7 10A39=.B8 10A3A=.B9 10A3F=2E6F
10A40-10A43=1EB7 10A44-10A48=1DC4 10A50-10A55=292 10A56-10A57=B8 10A58=298 10A60-10A7C=4D9E
10A7D=1EB7 10A7E=1D93 10A7F=29D 10A80-10A9C=4DBC 10A9D=1EB7 10A9E-10A9F=1D94 10AC0-10AC7=4EC0
10AC8=4EC7.2 10AC9-10AE4=4EC8 10AE5=.1D 10AE6=.1E 10AEB=1EB7 10AEC=1EBB 10AED-10AEF=1D9E
10AF0-10AF6=29E 10B00-10B2D=4DDA 10B2E=4E07.2 10B2F-10B35=4E08 10B39=29C 10B3A-10B3F=EE
10B40-10B55=4E6B 10B58-10B5B=1EB7 10B5C-10B5F=1DA1 10B60-10B72=4E82 10B78-10B7B=1EB7
10B7C-10B7F=1DA5 10B80-10B91=4E96 10B99-10B9C=2A5 10BA9-10BAC=1EB7 10BAD-10BAF=1DA9 10C00=3998
10C01=3998.2 10C02-10C03=3999 10C04=399A.2 10C05-10C07=399B 10C08=399D.2 10C09=399E 10C0A=399E.2
10C0B=399F 10C0C=399F.2 10C0D=39A0 10C0E=39A0.2 10C0F=39A1 10C10=39A1.2 10C11=39A2 10C12=39A2.2
10C13-10C14=39A3 10C15=39A4.2 10C16=39A5 10C17=39A5.2 10C18=39A6 10C19=39A6.2 10C1A=39A7
10C1B=39A7.2 10C1C=39A8 10C1D=39A8.2 10C1E=39A9 10C1F=39A9.2 10C20-10C24=39AA 10C25=39AE.2
10C26=39AF 10C27=39AF.2 10C28=39B0 10C29=39B0.2 10C2A=39B1 10C2B=39B1.2 10C2C-10C2D=39B2
10C2E=39B3.2 10C2F-10C32=39B4 10C33=39B7.2 10C34=39B8 10C35=39B8.2 10C36=39B9 10C37=39B9.2
10C38=39BA 10C39=39BA.2 10C3A=39BB 10C3B=39BB.2 10C3C-10C3F=39BC 10C40=39BF.2 10C41=39C0
10C42=39C0.2 10C43=39C1 10C44=39C1.2 10C45=39C2 10C46=39C2.2 10C47-10C48=39C3 10C80=396E,20u
10C81=396E.2,20u 10C82=396F,20u 10C83=3970,20u 10C84=3971,20u 10C85=3972,20u 10C86=3973,20u
10C87=3974,20u 10C88=3975,20u 10C89=3976,20u 10C8A=3976.2,20u 10C8B=3976.7,20u 10C8C=3977,20u
10C8D=3978,20u 10C8E=3979,20u 10C8F=397A,20u 10C90=397B,20u 10C91=397B.2,20u 10C92=397C,20u
10C93=397D,20u 10C94=397E,20u 10C95=397F,20u 10C96=3980,20u 10C97=3981,20u 10C98=3982,20u
10C99=3983,20u 10C9A=3984,20u 10C9B=3985,20u 10C9C=3985.2,20u 10C9D=3986,20u 10C9E=3986.2,20u
10C9F=3986.7,20u 10CA0=3987,20u 10CA1=3988,20u 10CA2=3989,20u 10CA3=3989.2,20u 10CA4=398A,20u
10CA5=398B,20u 10CA6=398C,20u 10CA7=398D,20u 10CA8=398E,20u 10CA9=398F,20u 10CAA=3990,20u
10CAB=3990.2,20u 10CAC=3991,20u 10CAD=3991.2,20u 10CAE=3992,20u 10CAF=3993,20u 10CB0=3994,20u
10CB1=3995,20u 10CB2=3996,20u 10CC0=396E 10CC1=396E.2 10CC2-10CC9=396F 10CCA=3976.2 10CCB=3976.7
10CCC-10CD0=3977 10CD1=397B.2 10CD2-10CDB=397C 10CDC=3985.2 10CDD=3986 10CDE=3986.2 10CDF=3986.7
10CE0-10CE2=3987 10CE3=3989.2 10CE4-10CEA=398A 10CEB=3990.2 10CEC=3991 10CED=3991.2
10CEE-10CF2=3992 10CFA=1EB7 10CFB=1EBB 10CFC-10CFF=1D21 10D00=32C9 10D01-10D1C=32CF
10D1D-10D21=32CA 10D22-10D23=32EB 10D24~10D27=.1D 10D30-10D39=1EB6 10E60-10E68=1EB7
10E69-10E7E=1D08 10E80-10EA0=4F22 10EA1-10EA8=4F44 10EA9=4F4D 10EAB=.6D 10EAC=.6C 10EAD=26
10EB0=4F43 10EB1=4F4C 10EFD~10EFF= 10F00=4EE5 10F01=4EE5,20 10F02=4EE6 10F03=4EE6,20
10F04-10F05=4EE7 10F06=4EE8,20 10F07-10F0E=4EE9 10F0F=4EF0,20 10F10=4EF0.2 10F11-10F12=4EF1
10F13=4EF2.2 10F14-10F15=4EF3 10F16=4EF4,20 10F17=4EF4.2 10F18-10F1A=4EF5 10F1B=4EF7,20
10F1C=4EF7.2 10F1D-10F21=1EB7 10F22-10F26=1DAC 10F27=4EF2,20;4EF5,20 10F30-10F44=4EF9 10F45=4F0A.2
10F46~10F47=.1E 10F48~10F4A=.1D 10F4B=.1E 10F4C=.1D 10F4D~10F50=.1E 10F51=1EB7 10F52-10F54=1DB1
10F55-10F59=F4 10F70-10F81=4F0F 10F82=.1D 10F83=.1E 10F84=.1D 10F85=.1E 10F86-10F89=F9
10FB0-10FC4=4F4F 10FC5-10FC8=1EB7 10FC9-10FCB=1DB4 10FE0-10FF5=4EA9 10FF6=4EAF,20;4EB2,20 11000=.AD
11001=.AE 11002=.AF 11003-11004=2E29 11005-1100E=2DF8 1100F-11010=2E03 11011-11033=2E06
11034-11035=2E2B 11036-11041=2E2E 11042-11043=2E3B 11044-11046=2E3E 11047-11048=BA 11049-1104D=28D
11052-1105A=1EB7 1105B-11065=1DB9 11066-1106F=1EB6 11070=2E42 11071=2E02 11072=2E05 11073=2E3A
11074=2E3D 11075=2E2D 1107F=2E41 11080=.AD 11081=.AE 11082=.AF 11083-11099=29B7 1109B=29CE
1109D-110AA=29CF 110AC-110B4=29DD 110B5-110B9=29E7 110BA=.AC 110BB-110BC=2A9 110BD= 110BE-110BF=FD
110C0-110C1=BC 110C2=29E6 110CD= 110D0-110E8=4A50 110F0-110F9=1EB6 11100=.AD 11101=.AE 11102=.AF
11103-11123=32EE 11124-11126=3310 11127-1112D=3314 11130-11132=331D 11133-11134=3322
11136-1113F=1EB6 11140=FF 11141-11142=BE 11143=80 11144=3313 11145-11146=3320 11147=330F
11150-1116F=29ED 11170-11172=2A0E 11173=.AC 11174-11175=2AB 11176=2A0D 11180=.AD 11181=.AE
11182=.AF 11183-111B2=2A14 111B3-111BC=2A48 111BD-111C0=2A53 111C1-111C3=2A44 111C4=2A12
111C5-111C6=C0 111C7=2AE 111C8=100 111C9=.B0 111CA=.AC 111CB=.BA 111CC=.BB 111CD=2AD 111CE=2A52
111CF=.AD 111D0-111D9=1EB6 111DA=2A13 111DB=2AF 111DC=2A47 111DD=2B0 111DE-111DF=101
111E1-111E9=1EB7 111EA-111F4=1DD3 11200-11201=2A58 11202-11208=2A5B 11209-11211=2A63
11213-1122F=2A6C 11230-11233=2A8A 11234=.AE 11235=2A8E 11236=.AC 11237=.6A 11238-11239=C2
1123A-1123D=2B1 1123E=.6B 1123F=2A62 11240=2A5A 11241=2A89 11280-11283=2ACA 11284-11286=2AD0
11288=2AD3 1128A-1128D=2AD4 1128F-1129D=2AD8 1129F-112A4=2AE7 112A5-112A6=2ACE 112A7-112A8=2AED
112A9=103 112B0-112DE=2A90 112DF=.AE 112E0-112E8=2ABF 112E9=.AC 112EA=2AC8 112F0-112F9=1EB6
11300=.AE 11301=.AD 11302=.AE 11303=.AF 11305-1130B=2AF1 1130C=2AF9 1130F-11310=2AFB
11313-11328=2AFD 1132A-11330=2B13 11332-11333=2B1A 11335-11339=2B1C 1133B~1133C=.AC 1133D=2B21
1133E-11344=2B24 11347-11348=2B2D 1134D=2B31 11350=2AF0 11357=2B32 1135D=2B33 1135E-1135F=2B22
11360=2AF8 11361=2AFA 11362-11363=2B2B 11366~1136C= 11370~11374= 11400-11434=2B37 11435-11442=2B71
11443=.AD 11444=.AE 11445=.AF 11446=.AC 11447=2B6C 11448=2B6F 11449-1144A=2B35 1144B-1144C=C4
1144D=2B5 1144E-1144F=2B7 11450-11459=1EB6 1145A=2B6 1145B=2B9 1145D=2BA 1145E=.B0 1145F=2B70
11460-11461=2B6D 11480-114AF=2B81 114B0-114BA=2BB3 114BD=2BC0 114BF=.AD 114C0=.AE 114C1=.AF
114C2=2BC2 114C3=.AC 114C4-114C5=2BB1 114C6=2BB 114C7=2B80 114D0-114D9=1EB6 11580-115B5=2BC4
115B8-115B9=2BFA 115BC=.AD 115BD=.AE 115BE=.AF 115BF=2BFE 115C0=.AC 115C1=2BC 115C2-115C3=C6
115C4-115D7=2BD 115D8=2BC6.2 115D9=2BC6.7 115DA=2BC7.2 115DB=2BC8.2 115DC=2BF6.2 115DD=2BF7.2
11600-1163C=2C00 1163D=.AE 1163E=.AF 1163F=2C3D 11640=.AD 11641-11642=C8 11643=2D1 11644=2C3E
11650-11659=1EB6 11660-1166C=217 11680-11689=2C40 1168A-1168B=2C4D 1168C-116A6=2C50 116A7=2C4B
116A8=2C4A 116A9=2C4C 116AA=2C6B 116AB=.AE 116AC=.AF 116AD-116B6=2C6C 116B7=.AC 116B8=2C4F
116B9=2D2 116C0-116C9=1EB6 11700-11704=2D28 11705=2D2C.2 11706-11715=2D2D 11716=2D3C.2
11717-11719=2D3D 1171A=2D2F.2 1171D-1171F=2D53 11720-1172B=2D47 11730-11739=1EB6 1173A-1173B=1DB7
1173C-1173D=CA 1173E=104 1173F=3F1 11740-11746=2D40 11800-11836=2CEF 11837=.AE 11838=.AF 11839=2D26
1183A=.AC 1183B=2D3 118A0=46CB,20u 118A1=46CC,20u 118A2=46CD,20u 118A3=46CE,20u 118A4=46CF,20u
118A5=46D0,20u 118A6=46D1,20u 118A7=46D2,20u 118A8=46D3,20u 118A9=46D4,20u 118AA=46D5,20u
118AB=46D6,20u 118AC=46D7,20u 118AD=46D8,20u 118AE=46D9,20u 118AF=46DA,20u 118B0=46DB,20u
118B1=46DC,20u 118B2=46DD,20u 118B3=46DE,20u 118B4=46DF,20u 118B5=46E0,20u 118B6=46E1,20u
118B7=46E2,20u 118B8=46E3,20u 118B9=46E4,20u 118BA=46E5,20u 118BB=46E6,20u 118BC=46E7,20u
118BD=46E8,20u 118BE=46E9,20u 118BF=46EA,20u 118C0-118DF=46CB 118E0-118E9=1EB6 118EA-118F2=1DDE
118FF=46CA 11900-11906=2C77 11909=2C7E 1190C-11910=2C7F 11911-11913=2C85 11915-11916=2C88
11918-11925=2C8A 11926=2C99 11927=2C9B 11928-11935=2C9D 11937=2CAB 1193B=.AE 1193C=.AD
1193D-1193E=2CAD 1193F=2C84 11940=2C98 11941=2C9A 11942=2C9C 11943=.AC 11944=CC 11945=2D4 11946=105
11950-11959=1EB6 119A0-119A7=2CB0 119AA-119D0=2CB8 119D1-119D7=2CE1 119DA=2CE8 119DB-119DD=2CEA
119DE=.AE 119DF=.AF 119E0=2CED 119E1=2CDF 119E2=2D5 119E3=2CE0 119E4=2CE9 11A00-11A0A=2FFC
11A0B=2FD4 11A0C-11A31=2FD6 11A32=2FD5 11A33=.AC 11A34=3007 11A35~11A37=.AD 11A38=.AE 11A39=.AF
11A3A=2FF5,20 11A3B=2FF4,20 11A3C=2FF5,2E 11A3D=2FF6,20 11A3E=2FF7,20 11A3F-11A46=254 11A47=3008
11A50-11A53=300A 11A54=3010 11A55=3012 11A56=3011 11A57-11A58=3013 11A59-11A5A=300E
11A5B-11A5C=3015 11A5D-11A82=3018 11A83=3017 11A84-11A85=303E 11A86=3037,20 11A87=3038,20
11A88=303A,20 11A89=303C,20 11A8A=3016,20 11A8B=3018,20 11A8C=301B,20 11A8D=3026,20 11A8E=302A,20
11A8F=302B,20 11A90=302F,20 11A91=3037,2E 11A92=3038,2E 11A93=303A,2E 11A94=303C,2E 11A95=3035,20
11A96=.AE 11A97=.AF 11A98=.BC 11A99=3040 11A9A-11A9C=25C 11A9D=3041 11A9E-11AA2=25F
11AB0-11ABF=3913 11AC0-11AD4=46F3 11AD5-11ADB=46EC 11ADC-11ADD=4708 11ADE=470F 11ADF-11AE3=470A
11AE4=4710 11AE5=4716 11AE6=4714 11AE7=4722 11AE8=4717 11AE9=4715 11AEA=4723 11AEB=471E 11AEC=471C
11AED=471F 11AEE=471D 11AEF=4711 11AF0=4724 11AF1=4713 11AF2=4712 11AF3=471A 11AF4=4718 11AF5=4720
11AF6=471B 11AF7=4719 11AF8=4721 11B00-11B09=229 11C00-11C08=2E71 11C0A-11C2E=2E7A 11C2F-11C36=2EA0
11C38-11C3B=2EA8 11C3C=.AD 11C3D=.AE 11C3E=.AF 11C3F=2EAC 11C40=2E9F 11C41-11C42=CD 11C43-11C45=299
11C50-11C59=1EB6 11C5A-11C62=1EB7 11C63-11C6C=1DC9 11C70-11C71=264 11C72=3043 11C73=3045 11C74=3047
11C75=3049 11C76=304B 11C77=304D 11C78=304F 11C79=3051 11C7A=3053 11C7B=3055 11C7C=3057 11C7D=3059
11C7E=305B 11C7F=305D 11C80=305F 11C81=3061 11C82=3063 11C83=3065 11C84=3067 11C85=3069 11C86=306B
11C87=306D 11C88-11C89=306F 11C8A=3072 11C8B=3074 11C8C=3076 11C8D=3078 11C8E=307A 11C8F=307C
11C92=3044 11C93=3046 11C94=3048 11C95=304A 11C96=304C 11C97=304E 11C98=3050 11C99=3052 11C9A=3054
11C9B=3056 11C9C=3058 11C9D=305A 11C9E=305C 11C9F=305E 11CA0=3060 11CA1=3062 11CA2=3064 11CA3=3066
11CA4=3068 11CA5=306A 11CA6=306C 11CA7=306E 11CA9=3071 11CAA=3073 11CAB=3075 11CAC=3077 11CAD=3079
11CAE=307B 11CAF-11CB4=307D 11CB5=.AE 11CB6=.AD 11D00-11D06=2D57 11D08-11D09=2D5E 11D0B-11D36=2D60
11D3A=2D8C 11D3C-11D3D=2D8D 11D3F=2D8F 11D40=.AE 11D41=.AF 11D42=.AC 11D43=.AD 11D44-11D45=2D90
11D46=2D7B,20 11D47=2D7B,2E 11D50-11D59=1EB6 11D60-11D65=2D94 11D67-11D68=2D9A 11D6A-11D8E=2D9C
11D90-11D91=2DC1 11D93-11D94=2DC3 11D95=.AE 11D96=.AF 11D97=2DC5 11D98=2D93 11DA0-11DA9=1EB6
11EE0-11EF6=319A 11EF7-11EF8=106 11F00=.AD 11F01=.AE 11F02=3515 11F03=.AF 11F04-11F10=34ED
11F12-11F2C=34FA 11F2D-11F3A=3516 11F3E-11F42=3524 11F43-11F44=CF 11F45-11F4F=108 11F50-11F59=1EB6
11FB0=462C 11FC0-11FD4=1CD2 11FD5-11FDC=3A3 11FDD-11FE0=1C92 11FE1-11FF1=3AB 11FFF=2D6
12000-12262=4FB1 12263-122D3=5216 122D4-122D5=5214 122D6-12399=5287 12400-12407=1EB8
12408-1240E=1EB9 1240F-12414=1EBA 12415-1241D=1EB7 1241E-12422=1EB7 12423-12424=1EB8
12425-1242B=1EB9 1242C-1242E=1EB7 1242F-12431=1EB9 12432-12433=1E9C 12434-12436=1EB7
12437-12439=1EB9 1243A=1EB9 1243B-1243C=1EB9 1243D=1EBA 1243E=1EBA 1243F=1EBA 12440-12441=1EBC
12442=1EBD 12443-12444=1EBD 12445-12446=1EBE 12447=1EBF 12448=1EBF 12449=1EBF 1244A-1244E=1EB8
1244F-12452=1EB7 12453-12454=1EBA 12455=1EBB 12456-12457=1EB8 12458-12459=1EB7 1245A-12468=1E9E
12469-1246E=1EBA 12470-12474=12B 12480-12543=534B 12F90-12FF0=4D3C 12FF1-12FF2=130 13000-1342F=5410
13430~13440= 13441-13446=5840 13447~13455= 14400-14646=5863 16800-16A38=3B24 16A40-16A5E=4A6A
16A60-16A69=1EB6 16A6E-16A6F=D1 16A70-16ABE=4A8A 16AC0-16AC9=1EB6 16AD0-16AED=3D5E 16AF0=.A2
16AF1=.A3 16AF2=.A4 16AF3=.A5 16AF4=.A6 16AF5=95 16B00-16B2F=4726 16B30=.E1 16B31=.E2 16B32=.E3
16B33=.E4 16B34=.E5 16B35=.E6 16B36=.E7 16B37-16B3B=2D7 16B3C-16B3F=F71 16B40-16B41=4756
16B42-16B43=1C73 16B44=2DC 16B45=F75 16B50-16B59=1EB6 16B5B-16B61=1DE7 16B63-16B77=4758
16B7D-16B8F=476D 16E40=3E43,20u 16E41=3E44,20u 16E42=3E45,20u 16E43=3E46,20u 16E44=3E47,20u
16E45=3E48,20u 16E46=3E49,20u 16E47=3E4A,20u 16E48=3E4B,20u 16E49=3E4C,20u 16E4A=3E4D,20u
16E4B=3E4E,20u 16E4C=3E4F,20u 16E4D=3E50,20u 16E4E=3E51,20u 16E4F=3E52,20u 16E50=3E53,20u
16E51=3E54,20u 16E52=3E55,20u 16E53=3E56,20u 16E54=3E57,20u 16E55=3E58,20u 16E56=3E59,20u
16E57=3E5A,20u 16E58=3E5B,20u 16E59=3E5C,20u 16E5A=3E5D,20u 16E5B=3E5E,20u 16E5C=3E5F,20u
16E5D=3E60,20u 16E5E=3E61,20u 16E5F=3E62,20u 16E60-16E7F=3E43 16E80-16E89=1EB6 16E8A-16E93=1DEE
16E94=1EB7.2 16E95=1EB8.2 16E96=1EB9.2 16E97=39 16E98=96 16E99-16E9A=2DD 16F00-16F03=4638
16F04-16F05=463D 16F06=463D,20 16F07-16F0D=463F 16F0E-16F0F=4647 16F10-16F12=464A 16F13=464A,20
16F14-16F24=464D 16F25=465C,20 16F26-16F32=465E 16F33=466C 16F34-16F39=466E 16F3A-16F3E=4675
16F3F=4678,20 16F40-16F44=467A 16F45=463C 16F46=466D 16F47=466B 16F48=4646 16F49=4674 16F4A=4649
16F4F=4683 16F50-16F53=467F 16F54-16F58=4684 16F59-16F5C=468A 16F5D-16F60=468F 16F61-16F65=4694
16F66-16F6D=469A 16F6E-16F72=46A4 16F73-16F74=46AA 16F75-16F7E=46AE 16F7F=46A2 16F80=46A9
16F81=4689 16F82=46AD 16F83=468E 16F84=4693 16F85=46AC 16F86=4699 16F87=46A3 16F8F-16F9F=46B8
16FE0-16FE1=1C79 16FE2=3D 16FE3=1C7B 16FE4= 16FF0=.F6 16FF1=.F7 17000-187F7=5AAB 18800-18AFF=72AC
18B00-18CD5=773A 18D00-18D08=72A3 1AFF0-1AFF3=35B 1AFF5-1AFFB=35F 1AFFD-1AFFE=366 1B000=3FF1u
1B001=402F 1B002-1B00E=4022 1B00F-1B11E=4030 1B11F=401Eu 1B120=4013u 1B121=4015u 1B122=401E,20u
1B132=3FF8,3 1B150=401D,3 1B151=401F,3 1B152=4020,3 1B155=3FF8,10 1B164=401D,10 1B165=401F,10
1B166=4020,10 1B167=4021,10 1B170-1B2FB=75AD 1BC00-1BC6A=4923 1BC70-1BC7C=498E 1BC80-1BC88=499B
1BC90-1BC99=49A4 1BC9C=11DD 1BC9D=.1D 1BC9E=.1F 1BC9F=97 1BCA0~1BCA3= 1CF00~1CF2D= 1CF30~1CF46=
1CF50-1CFC3=F77 1D000-1D0F5=FEB 1D100-1D126=10E1 1D129=111B 1D12A-1D139=110B 1D13A-1D15D=111C
1D165~1D169= 1D16A-1D16C=1140 1D16D~1D182= 1D183-1D184=1143 1D185~1D18B= 1D18C-1D1A9=1145
1D1AA~1D1AD= 1D1AE-1D1BA=1163 1D1C1-1D1EA=1170 1D200-1D241=119A 1D242~1D244= 1D245=11DC
1D2C0-1D2C9=1EB6 1D2CA-1D2D3=1DF8 1D2E0-1D2E9=1EB6 1D2EA-1D2F3=1E02 1D300-1D356=E89
1D360-1D368=1EB7 1D369-1D371=1EAD 1D372-1D376=1EB7 1D377=1EB7 1D378=1EBB 1D400=1EC1,25u
1D401=1ECF,25u 1D402=1EDA,25u 1D403=1EE4,25u 1D404=1EF2,25u 1D405=1F09,25u 1D406=1F12,25u
1D407=1F21,25u 1D408=1F2D,25u 1D409=1F3A,25u 1D40A=1F41,25u 1D40B=1F4C,25u 1D40C=1F67,25u
1D40D=1F70,25u 1D40E=1F82,25u 1D40F=1FA0,25u 1D410=1FAC,25u 1D411=1FB3,25u 1D412=1FD4,25u
1D413=1FE9,25u 1D414=1FF7,25u 1D415=200F,25u 1D416=2018,2Cu 1D417=201C,25u 1D418=2025,25u
1D419=202C,25u 1D41A=1EC1,16 1D41B=1ECF,16 1D41C=1EDA,16 1D41D=1EE4,16 1D41E=1EF2,16 1D41F=1F09,16
1D420=1F12,16 1D421=1F21,16 1D422=1F2D,16 1D423=1F3A,16 1D424=1F41,16 1D425=1F4C,16 1D426=1F67,16
1D427=1F70,16 1D428=1F82,16 1D429=1FA0,16 1D42A=1FAC,16 1D42B=1FB3,16 1D42C=1FD4,16 1D42D=1FE9,16
1D42E=1FF7,16 1D42F=200F,16 1D430=2018,18 1D431=201C,16 1D432=2025,16 1D433=202C,16 1D434=1EC1,25u
1D435=1ECF,25u 1D436=1EDA,25u 1D437=1EE4,25u 1D438=1EF2,25u 1D439=1F09,25u 1D43A=1F12,25u
1D43B=1F21,25u 1D43C=1F2D,25u 1D43D=1F3A,25u 1D43E=1F41,25u 1D43F=1F4C,25u 1D440=1F67,25u
1D441=1F70,25u 1D442=1F82,25u 1D443=1FA0,25u 1D444=1FAC,25u 1D445=1FB3,25u 1D446=1FD4,25u
1D447=1FE9,25u 1D448=1FF7,25u 1D449=200F,25u 1D44A=2018,2Cu 1D44B=201C,25u 1D44C=2025,25u
1D44D=202C,25u 1D44E=1EC1,16 1D44F=1ECF,16 1D450=1EDA,16 1D451=1EE4,16 1D452=1EF2,16 1D453=1F09,16
1D454=1F12,16 1D456=1F2D,16 1D457=1F3A,16 1D458=1F41,16 1D459=1F4C,16 1D45A=1F67,16 1D45B=1F70,16
1D45C=1F82,16 1D45D=1FA0,16 1D45E=1FAC,16 1D45F=1FB3,16 1D460=1FD4,16 1D461=1FE9,16 1D462=1FF7,16
1D463=200F,16 1D464=2018,18 1D465=201C,16 1D466=2025,16 1D467=202C,16 1D468=1EC1,25u 1D469=1ECF,25u
1D46A=1EDA,25u 1D46B=1EE4,25u 1D46C=1EF2,25u 1D46D=1F09,25u 1D46E=1F12,25u 1D46F=1F21,25u
1D470=1F2D,25u 1D471=1F3A,25u 1D472=1F41,25u 1D473=1F4C,25u 1D474=1F67,25u 1D475=1F70,25u
1D476=1F82,25u 1D477=1FA0,25u 1D478=1FAC,25u 1D479=1FB3,25u 1D47A=1FD4,25u 1D47B=1FE9,25u
1D47C=1FF7,25u 1D47D=200F,25u 1D47E=2018,2Cu 1D47F=201C,25u 1D480=2025,25u 1D481=202C,25u
1D482=1EC1,16 1D483=1ECF,16 1D484=1EDA,16 1D485=1EE4,16 1D486=1EF2,16 1D487=1F09,16 1D488=1F12,16
1D489=1F21,16 1D48A=1F2D,16 1D48B=1F3A,16 1D48C=1F41,16 1D48D=1F4C,16 1D48E=1F67,16 1D48F=1F70,16
1D490=1F82,16 1D491=1FA0,16 1D492=1FAC,16 1D493=1FB3,16 1D494=1FD4,16 1D495=1FE9,16 1D496=1FF7,16
1D497=200F,16 1D498=2018,18 1D499=201C,16 1D49A=2025,16 1D49B=202C,16 1D49C=1EC1,25u 1D49E=1EDA,25u
1D49F=1EE4,25u 1D4A2=1F12,25u 1D4A5=1F3A,25u 1D4A6=1F41,25u 1D4A9=1F70,25u 1D4AA=1F82,25u
1D4AB=1FA0,25u 1D4AC=1FAC,25u 1D4AE=1FD4,25u 1D4AF=1FE9,25u 1D4B0=1FF7,25u 1D4B1=200F,25u
1D4B2=2018,2Cu 1D4B3=201C,25u 1D4B4=2025,25u 1D4B5=202C,25u 1D4B6=1EC1,16 1D4B7=1ECF,16
1D4B8=1EDA,16 1D4B9=1EE4,16 1D4BB=1F09,16 1D4BD=1F21,16 1D4BE=1F2D,16 1D4BF=1F3A,16 1D4C0=1F41,16
1D4C1=1F4C,16 1D4C2=1F67,16 1D4C3=1F70,16 1D4C5=1FA0,16 1D4C6=1FAC,16 1D4C7=1FB3,16 1D4C8=1FD4,16
1D4C9=1FE9,16 1D4CA=1FF7,16 1D4CB=200F,16 1D4CC=2018,18 1D4CD=201C,16 1D4CE=2025,16 1D4CF=202C,16
1D4D0=1EC1,25u 1D4D1=1ECF,25u 1D4D2=1EDA,25u 1D4D3=1EE4,25u 1D4D4=1EF2,25u 1D4D5=1F09,25u
1D4D6=1F12,25u 1D4D7=1F21,25u 1D4D8=1F2D,25u 1D4D9=1F3A,25u 1D4DA=1F41,25u 1D4DB=1F4C,25u
1D4DC=1F67,25u 1D4DD=1F70,25u 1D4DE=1F82,25u 1D4DF=1FA0,25u 1D4E0=1FAC,25u 1D4E1=1FB3,25u
1D4E2=1FD4,25u 1D4E3=1FE9,25u 1D4E4=1FF7,25u 1D4E5=200F,25u 1D4E6=2018,2Cu 1D4E7=201C,25u
1D4E8=2025,25u 1D4E9=202C,25u 1D4EA=1EC1,16 1D4EB=1ECF,16 1D4EC=1EDA,16 1D4ED=1EE4,16 1D4EE=1EF2,16
1D4EF=1F09,16 1D4F0=1F12,16 1D4F1=1F21,16 1D4F2=1F2D,16 1D4F3=1F3A,16 1D4F4=1F41,16 1D4F5=1F4C,16
1D4F6=1F67,16 1D4F7=1F70,16 1D4F8=1F82,16 1D4F9=1FA0,16 1D4FA=1FAC,16 1D4FB=1FB3,16 1D4FC=1FD4,16
1D4FD=1FE9,16 1D4FE=1FF7,16 1D4FF=200F,16 1D500=2018,18 1D501=201C,16 1D502=2025,16 1D503=202C,16
1D504=1EC1,25u 1D505=1ECF,25u 1D507=1EE4,25u 1D508=1EF2,25u 1D509=1F09,25u 1D50A=1F12,25u
1D50D=1F3A,25u 1D50E=1F41,25u 1D50F=1F4C,25u 1D510=1F67,25u 1D511=1F70,25u 1D512=1F82,25u
1D513=1FA0,25u 1D514=1FAC,25u 1D516=1FD4,25u 1D517=1FE9,25u 1D518=1FF7,25u 1D519=200F,25u
1D51A=2018,2Cu 1D51B=201C,25u 1D51C=2025,25u 1D51E=1EC1,16 1D51F=1ECF,16 1D520=1EDA,16
1D521=1EE4,16 1D522=1EF2,16 1D523=1F09,16 1D524=1F12,16 1D525=1F21,16 1D526=1F2D,16 1D527=1F3A,16
1D528=1F41,16 1D529=1F4C,16 1D52A=1F67,16 1D52B=1F70,16 1D52C=1F82,16 1D52D=1FA0,16 1D52E=1FAC,16
1D52F=1FB3,16 1D530=1FD4,16 1D531=1FE9,16 1D532=1FF7,16 1D533=200F,16 1D534=2018,18 1D535=201C,16
1D536=2025,16 1D537=202C,16 1D538=1EC1,25u 1D539=1ECF,25u 1D53B=1EE4,25u 1D53C=1EF2,25u
1D53D=1F09,25u 1D53E=1F12,25u 1D540=1F2D,25u 1D541=1F3A,25u 1D542=1F41,25u 1D543=1F4C,25u
1D544=1F67,25u 1D546=1F82,25u 1D54A=1FD4,25u 1D54B=1FE9,25u 1D54C=1FF7,25u 1D54D=200F,25u
1D54E=2018,2Cu 1D54F=201C,25u 1D550=2025,25u 1D552=1EC1,16 1D553=1ECF,16 1D554=1EDA,16
1D555=1EE4,16 1D556=1EF2,16 1D557=1F09,16 1D558=1F12,16 1D559=1F21,16 1D55A=1F2D,16 1D55B=1F3A,16
1D55C=1F41,16 1D55D=1F4C,16 1D55E=1F67,16 1D55F=1F70,16 1D560=1F82,16 1D561=1FA0,16 1D562=1FAC,16
1D563=1FB3,16 1D564=1FD4,16 1D565=1FE9,16 1D566=1FF7,16 1D567=200F,16 1D568=2018,18 1D569=201C,16
1D56A=2025,16 1D56B=202C,16 1D56C=1EC1,25u 1D56D=1ECF,25u 1D56E=1EDA,25u 1D56F=1EE4,25u
1D570=1EF2,25u 1D571=1F09,25u 1D572=1F12,25u 1D573=1F21,25u 1D574=1F2D,25u 1D575=1F3A,25u
1D576=1F41,25u 1D577=1F4C,25u 1D578=1F67,25u 1D579=1F70,25u 1D57A=1F82,25u 1D57B=1FA0,25u
1D57C=1FAC,25u 1D57D=1FB3,25u 1D57E=1FD4,25u 1D57F=1FE9,25u 1D580=1FF7,25u 1D581=200F,25u
1D582=2018,2Cu 1D583=201C,25u 1D584=2025,25u 1D585=202C,25u 1D586=1EC1,16 1D587=1ECF,16
1D588=1EDA,16 1D589=1EE4,16 1D58A=1EF2,16 1D58B=1F09,16 1D58C=1F12,16 1D58D=1F21,16 1D58E=1F2D,16
1D58F=1F3A,16 1D590=1F41,16 1D591=1F4C,16 1D592=1F67,16 1D593=1F70,16 1D594=1F82,16 1D595=1FA0,16
1D596=1FAC,16 1D597=1FB3,16 1D598=1FD4,16 1D599=1FE9,16 1D59A=1FF7,16 1D59B=200F,16 1D59C=2018,18
1D59D=201C,16 1D59E=2025,16 1D59F=202C,16 1D5A0=1EC1,25u 1D5A1=1ECF,25u 1D5A2=1EDA,25u
1D5A3=1EE4,25u 1D5A4=1EF2,25u 1D5A5=1F09,25u 1D5A6=1F12,25u 1D5A7=1F21,25u 1D5A8=1F2D,25u
1D5A9=1F3A,25u 1D5AA=1F41,25u 1D5AB=1F4C,25u 1D5AC=1F67,25u 1D5AD=1F70,25u 1D5AE=1F82,25u
1D5AF=1FA0,25u 1D5B0=1FAC,25u 1D5B1=1FB3,25u 1D5B2=1FD4,25u 1D5B3=1FE9,25u 1D5B4=1FF7,25u
1D5B5=200F,25u 1D5B6=2018,2Cu 1D5B7=201C,25u 1D5B8=2025,25u 1D5B9=202C,25u 1D5BA=1EC1,16
1D5BB=1ECF,16 1D5BC=1EDA,16 1D5BD=1EE4,16 1D5BE=1EF2,16 1D5BF=1F09,16 1D5C0=1F12,16 1D5C1=1F21,16
1D5C2=1F2D,16 1D5C3=1F3A,16 1D5C4=1F41,16 1D5C5=1F4C,16 1D5C6=1F67,16 1D5C7=1F70,16 1D5C8=1F82,16
1D5C9=1FA0,16 1D5CA=1FAC,16 1D5CB=1FB3,16 1D5CC=1FD4,16 1D5CD=1FE9,16 1D5CE=1FF7,16 1D5CF=200F,16
1D5D0=2018,18 1D5D1=201C,16 1D5D2=2025,16 1D5D3=202C,16 1D5D4=1EC1,25u 1D5D5=1ECF,25u
1D5D6=1EDA,25u 1D5D7=1EE4,25u 1D5D8=1EF2,25u 1D5D9=1F09,25u 1D5DA=1F12,25u 1D5DB=1F21,25u
1D5DC=1F2D,25u 1D5DD=1F3A,25u 1D5DE=1F41,25u 1D5DF=1F4C,25u 1D5E0=1F67,25u 1D5E1=1F70,25u
1D5E2=1F82,25u 1D5E3=1FA0,25u 1D5E4=1FAC,25u 1D5E5=1FB3,25u 1D5E6=1FD4,25u 1D5E7=1FE9,25u
1D5E8=1FF7,25u 1D5E9=200F,25u 1D5EA=2018,2Cu 1D5EB=201C,25u 1D5EC=2025,25u 1D5ED=202C,25u
1D5EE=1EC1,16 1D5EF=1ECF,16 1D5F0=1EDA,16 1D5F1=1EE4,16 1D5F2=1EF2,16 1D5F3=1F09,16 1D5F4=1F12,16
1D5F5=1F21,16 1D5F6=1F2D,16 1D5F7=1F3A,16 1D5F8=1F41,16 1D5F9=1F4C,16 1D5FA=1F67,16 1D5FB=1F70,16
1D5FC=1F82,16 1D5FD=1FA0,16 1D5FE=1FAC,16 1D5FF=1FB3,16 1D600=1FD4,16 1D601=1FE9,16 1D602=1FF7,16
1D603=200F,16 1D604=2018,18 1D605=201C,16 1D606=2025,16 1D607=202C,16 1D608=1EC1,25u 1D609=1ECF,25u
1D60A=1EDA,25u 1D60B=1EE4,25u 1D60C=1EF2,25u 1D60D=1F09,25u 1D60E=1F12,25u 1D60F=1F21,25u
1D610=1F2D,25u 1D611=1F3A,25u 1D612=1F41,25u 1D613=1F4C,25u 1D614=1F67,25u 1D615=1F70,25u
1D616=1F82,25u 1D617=1FA0,25u 1D618=1FAC,25u 1D619=1FB3,25u 1D61A=1FD4,25u 1D61B=1FE9,25u
1D61C=1FF7,25u 1D61D=200F,25u 1D61E=2018,2Cu 1D61F=201C,25u 1D620=2025,25u 1D621=202C,25u
1D622=1EC1,16 1D623=1ECF,16 1D624=1EDA,16 1D625=1EE4,16 1D626=1EF2,16 1D627=1F09,16 1D628=1F12,16
1D629=1F21,16 1D62A=1F2D,16 1D62B=1F3A,16 1D62C=1F41,16 1D62D=1F4C,16 1D62E=1F67,16 1D62F=1F70,16
1D630=1F82,16 1D631=1FA0,16 1D632=1FAC,16 1D633=1FB3,16 1D634=1FD4,16 1D635=1FE9,16 1D636=1FF7,16
1D637=200F,16 1D638=2018,18 1D639=201C,16 1D63A=2025,16 1D63B=202C,16 1D63C=1EC1,25u 1D63D=1ECF,25u
1D63E=1EDA,25u 1D63F=1EE4,25u 1D640=1EF2,25u 1D641=1F09,25u 1D642=1F12,25u 1D643=1F21,25u
1D644=1F2D,25u 1D645=1F3A,25u 1D646=1F41,25u 1D647=1F4C,25u 1D648=1F67,25u 1D649=1F70,25u
1D64A=1F82,25u 1D64B=1FA0,25u 1D64C=1FAC,25u 1D64D=1FB3,25u 1D64E=1FD4,25u 1D64F=1FE9,25u
1D650=1FF7,25u 1D651=200F,25u 1D652=2018,2Cu 1D653=201C,25u 1D654=2025,25u 1D655=202C,25u
1D656=1EC1,16 1D657=1ECF,16 1D658=1EDA,16 1D659=1EE4,16 1D65A=1EF2,16 1D65B=1F09,16 1D65C=1F12,16
1D65D=1F21,16 1D65E=1F2D,16 1D65F=1F3A,16 1D660=1F41,16 1D661=1F4C,16 1D662=1F67,16 1D663=1F70,16
1D664=1F82,16 1D665=1FA0,16 1D666=1FAC,16 1D667=1FB3,16 1D668=1FD4,16 1D669=1FE9,16 1D66A=1FF7,16
1D66B=200F,16 1D66C=2018,18 1D66D=201C,16 1D66E=2025,16 1D66F=202C,16 1D670=1EC1,25u 1D671=1ECF,25u
1D672=1EDA,25u 1D673=1EE4,25u 1D674=1EF2,25u 1D675=1F09,25u 1D676=1F12,25u 1D677=1F21,25u
1D678=1F2D,25u 1D679=1F3A,25u 1D67A=1F41,25u 1D67B=1F4C,25u 1D67C=1F67,25u 1D67D=1F70,25u
1D67E=1F82,25u 1D67F=1FA0,25u 1D680=1FAC,25u 1D681=1FB3,25u 1D682=1FD4,25u 1D683=1FE9,25u
1D684=1FF7,25u 1D685=200F,25u 1D686=2018,2Cu 1D687=201C,25u 1D688=2025,25u 1D689=202C,25u
1D68A=1EC1,16 1D68B=1ECF,16 1D68C=1EDA,16 1D68D=1EE4,16 1D68E=1EF2,16 1D68F=1F09,16 1D690=1F12,16
1D691=1F21,16 1D692=1F2D,16 1D693=1F3A,16 1D694=1F41,16 1D695=1F4C,16 1D696=1F67,16 1D697=1F70,16
1D698=1F82,16 1D699=1FA0,16 1D69A=1FAC,16 1D69B=1FB3,16 1D69C=1FD4,16 1D69D=1FE9,16 1D69E=1FF7,16
1D69F=200F,16 1D6A0=2018,18 1D6A1=201C,16 1D6A2=2025,16 1D6A3=202C,16 1D6A4=1F2E,20 1D6A5=1F3B,20
1D6A8=2071,31u 1D6A9=2072,25u 1D6AA=2073,20u 1D6AB=2075,26u 1D6AC=2076,31u 1D6AD=207A,2Cu
1D6AE=207C,2Cu 1D6AF=207D,2Cu 1D6B0=207E,31u 1D6B1=2080,30u 1D6B2=2081,2Cu 1D6B3=2083,28u
1D6B4=2084,2Cu 1D6B5=2085,2Cu 1D6B6=2086,2Cu 1D6B7=2087,31u 1D6B8=208C,28u 1D6B9=207D,2Cu
1D6BA=208F,2Cu 1D6BB=2093,2Cu 1D6BC=2094,31u 1D6BD=2095,25u 1D6BE=2096,20u 1D6BF=2097,2Cu
1D6C0=2099,26u 1D6C1=4AF,20 1D6C2=2071,1B 1D6C3=2072,17 1D6C4=2073,10 1D6C5=2075,10 1D6C6=2076,1B
1D6C7=207A,10 1D6C8=207C,10 1D6C9=207D,17 1D6CA=207E,1B 1D6CB=2080,18 1D6CC=2081,10 1D6CD=2083,18
1D6CE=2084,10 1D6CF=2085,10 1D6D0=2086,10 1D6D1=2087,1B 1D6D2=208C,18 1D6D3~1D6D4=208F,17
1D6D5=2093,10 1D6D6=2094,10 1D6D7=2095,17 1D6D8=2096,10 1D6D9=2097,10 1D6DA=2099,10 1D6DB=4AB,20
1D6DC=2076,1B 1D6DD=207D,17 1D6DE=2080,18 1D6DF=2095,17 1D6E0=208C,18 1D6E1=2087,1B 1D6E2=2071,31u
1D6E3=2072,25u 1D6E4=2073,20u 1D6E5=2075,26u 1D6E6=2076,31u 1D6E7=207A,2Cu 1D6E8=207C,2Cu
1D6E9=207D,2Cu 1D6EA=207E,31u 1D6EB=2080,30u 1D6EC=2081,2Cu 1D6ED=2083,28u 1D6EE=2084,2Cu
1D6EF=2085,2Cu 1D6F0=2086,2Cu 1D6F1=2087,31u 1D6F2=208C,28u 1D6F3=207D,2Cu 1D6F4=208F,2Cu
1D6F5=2093,2Cu 1D6F6=2094,31u 1D6F7=2095,25u 1D6F8=2096,20u 1D6F9=2097,2Cu 1D6FA=2099,26u
1D6FB=4AF,20 1D6FC=2071,1B 1D6FD=2072,17 1D6FE=2073,10 1D6FF=2075,10 1D700=2076,1B 1D701=207A,10
1D702=207C,10 1D703=207D,17 1D704=207E,1B 1D705=2080,18 1D706=2081,10 1D707=2083,18 1D708=2084,10
1D709=2085,10 1D70A=2086,10 1D70B=2087,1B 1D70C=208C,18 1D70D~1D70E=208F,17 1D70F=2093,10
1D710=2094,10 1D711=2095,17 1D712=2096,10 1D713=2097,10 1D714=2099,10 1D715=4AB,20 1D716=2076,1B
1D717=207D,17 1D718=2080,18 1D719=2095,17 1D71A=208C,18 1D71B=2087,1B 1D71C=2071,31u 1D71D=2072,25u
1D71E=2073,20u 1D71F=2075,26u 1D720=2076,31u 1D721=207A,2Cu 1D722=207C,2Cu 1D723=207D,2Cu
1D724=207E,31u 1D725=2080,30u 1D726=2081,2Cu 1D727=2083,28u 1D728=2084,2Cu 1D729=2085,2Cu
1D72A=2086,2Cu 1D72B=2087,31u 1D72C=208C,28u 1D72D=207D,2Cu 1D72E=208F,2Cu 1D72F=2093,2Cu
1D730=2094,31u 1D731=2095,25u 1D732=2096,20u 1D733=2097,2Cu 1D734=2099,26u 1D735=4AF,20
1D736=2071,1B 1D737=2072,17 1D738=2073,10 1D739=2075,10 1D73A=2076,1B 1D73B=207A,10 1D73C=207C,10
1D73D=207D,17 1D73E=207E,1B 1D73F=2080,18 1D740=2081,10 1D741=2083,18 1D742=2084,10 1D743=2085,10
1D744=2086,10 1D745=2087,1B 1D746=208C,18 1D747~1D748=208F,17 1D749=2093,10 1D74A=2094,10
1D74B=2095,17 1D74C=2096,10 1D74D=2097,10 1D74E=2099,10 1D74F=4AB,20 1D750=2076,1B 1D751=207D,17
1D752=2080,18 1D753=2095,17 1D754=208C,18 1D755=2087,1B 1D756=2071,31u 1D757=2072,25u
1D758=2073,20u 1D759=2075,26u 1D75A=2076,31u 1D75B=207A,2Cu 1D75C=207C,2Cu 1D75D=207D,2Cu
1D75E=207E,31u 1D75F=2080,30u 1D760=2081,2Cu 1D761=2083,28u 1D762=2084,2Cu 1D763=2085,2Cu
1D764=2086,2Cu 1D765=2087,31u 1D766=208C,28u 1D767=207D,2Cu 1D768=208F,2Cu 1D769=2093,2Cu
1D76A=2094,31u 1D76B=2095,25u 1D76C=2096,20u 1D76D=2097,2Cu 1D76E=2099,26u 1D76F=4AF,20
1D770=2071,1B 1D771=2072,17 1D772=2073,10 1D773=2075,10 1D774=2076,1B 1D775=207A,10 1D776=207C,10
1D777=207D,17 1D778=207E,1B 1D779=2080,18 1D77A=2081,10 1D77B=2083,18 1D77C=2084,10 1D77D=2085,10
1D77E=2086,10 1D77F=2087,1B 1D780=208C,18 1D781~1D782=208F,17 1D783=2093,10 1D784=2094,10
1D785=2095,17 1D786=2096,10 1D787=2097,10 1D788=2099,10 1D789=4AB,20 1D78A=2076,1B 1D78B=207D,17
1D78C=2080,18 1D78D=2095,17 1D78E=208C,18 1D78F=2087,1B 1D790=2071,31u 1D791=2072,25u
1D792=2073,20u 1D793=2075,26u 1D794=2076,31u 1D795=207A,2Cu 1D796=207C,2Cu 1D797=207D,2Cu
1D798=207E,31u 1D799=2080,30u 1D79A=2081,2Cu 1D79B=2083,28u 1D79C=2084,2Cu 1D79D=2085,2Cu
1D79E=2086,2Cu 1D79F=2087,31u 1D7A0=208C,28u 1D7A1=207D,2Cu 1D7A2=208F,2Cu 1D7A3=2093,2Cu
1D7A4=2094,31u 1D7A5=2095,25u 1D7A6=2096,20u 1D7A7=2097,2Cu 1D7A8=2099,26u 1D7A9=4AF,20
1D7AA=2071,1B 1D7AB=2072,17 1D7AC=2073,10 1D7AD=2075,10 1D7AE=2076,1B 1D7AF=207A,10 1D7B0=207C,10
1D7B1=207D,17 1D7B2=207E,1B 1D7B3=2080,18 1D7B4=2081,10 1D7B5=2083,18 1D7B6=2084,10 1D7B7=2085,10
1D7B8=2086,10 1D7B9=2087,1B 1D7BA=208C,18 1D7BB~1D7BC=208F,17 1D7BD=2093,10 1D7BE=2094,10
1D7BF=2095,17 1D7C0=2096,10 1D7C1=2097,10 1D7C2=2099,10 1D7C3=4AB,20 1D7C4=2076,1B 1D7C5=207D,17
1D7C6=2080,18 1D7C7=2095,17 1D7C8=208C,18 1D7C9=2087,1B 1D7CA=2077,2Cu 1D7CB=2077,10 1D7CE=1EB6,1A
1D7CF=1EB7,1A 1D7D0=1EB8,1A 1D7D1=1EB9,1A 1D7D2=1EBA,1A 1D7D3=1EBB,1A 1D7D4=1EBC,1A 1D7D5=1EBD,1A
1D7D6=1EBE,1A 1D7D7=1EBF,1C 1D7D8=1EB6,1A 1D7D9=1EB7,1A 1D7DA=1EB8,1A 1D7DB=1EB9,1A 1D7DC=1EBA,1A
1D7DD=1EBB,1A 1D7DE=1EBC,1A 1D7DF=1EBD,1A 1D7E0=1EBE,1A 1D7E1=1EBF,1C 1D7E2=1EB6,1A 1D7E3=1EB7,1A
1D7E4=1EB8,1A 1D7E5=1EB9,1A 1D7E6=1EBA,1A 1D7E7=1EBB,1A 1D7E8=1EBC,1A 1D7E9=1EBD,1A 1D7EA=1EBE,1A
1D7EB=1EBF,1C 1D7EC=1EB6,1A 1D7ED=1EB7,1A 1D7EE=1EB8,1A 1D7EF=1EB9,1A 1D7F0=1EBA,1A 1D7F1=1EBB,1A
1D7F2=1EBC,1A 1D7F3=1EBD,1A 1D7F4=1EBE,1A 1D7F5=1EBF,1C 1D7F6=1EB6,1A 1D7F7=1EB7,1A 1D7F8=1EB8,1A
1D7F9=1EB9,1A 1D7FA=1EBA,1A 1D7FB=1EBB,1A 1D7FC=1EBC,1A 1D7FD=1EBD,1A 1D7FE=1EBE,1A 1D7FF=1EBF,1C
1D800-1D9FF=1A0A 1DA00~1DA36= 1DA37-1DA3A=1C0A 1DA3B~1DA6C= 1DA6D-1DA74=1C0E 1DA75=
1DA76-1DA83=1C16 1DA84= 1DA85-1DA86=1C24 1DA87-1DA8B=2DF 1DA9B~1DA9F= 1DAA1~1DAAF=
1DF00=1F09.7;1F7E,10 1DF01=1F15 1DF02=1F1D 1DF03=1F49 1DF04=1F57 1DF05=1F62 1DF06=1F66 1DF07=1F81
1DF08=1FBD 1DF09=1FF2 1DF0A=206A 1DF0B-1DF0C=1FE7 1DF0D=1FF6 1DF0E=2065 1DF0F=206C 1DF10=1F4B
1DF11=1F5E 1DF12=1EE4,13;203A,20 1DF13=1F58 1DF14=1F80 1DF15=1FD0 1DF16=1FC7 1DF17=1FE9,13;1FE2,20
1DF18=203A 1DF19=1EE4,13;203B,20 1DF1A=1F35 1DF1B=1F8F 1DF1C=1FE9,13;1FE3,20 1DF1D=1EDF 1DF1E=1FDB
1DF25=1EEC 1DF26=1F5C 1DF27=1F7A 1DF28=1FC3 1DF29=1FDA 1DF2A=1FF1 1E000=217A,20 1E001=217B,20
1E002=217C,20 1E003=217D,20 1E004=217E,20 1E005=217F,20 1E006=2180,20 1E008=2182,20 1E009=2183,20
1E00A=2184,20 1E00B=2185,20 1E00C=2186,20 1E00D=2187,20 1E00E=2188,20 1E00F=2189,20 1E010=218A,20
1E011=218B,20 1E012=218C,20 1E013=218D,20 1E014=218E,20 1E015=218F,20 1E016=2190,20 1E017=2191,20
1E018=2192,20 1E01B=2195,20 1E01C=2196,20 1E01D=2197,20 1E01E=2198,20 1E01F=2199,20 1E020=219A,20
1E021=219B,20 1E023=219D,20 1E024=219E,20 1E026=21A0,20 1E027=21A1,20 1E028=21A2,20 1E029=21A3,20
1E02A=21A4,20 1E030=20DC,26 1E031=20DF,26 1E032=20E0,26 1E033=20E1,26 1E034=20E6,26 1E035=20ED,26
1E036=20EF,26 1E037=20F3,26 1E038=20FE,26 1E039=2105,26 1E03A=210D,26 1E03B=2117,2C 1E03C=2123,28
1E03D=2125,26 1E03E=2129,2C 1E03F=212C,26 1E040=212F,2C 1E041=2135,26 1E042=213A,26 1E043=213B,26
1E044=2147,26 1E045=214C,26 1E046=2156,26 1E047=215E,26 1E048=2163,2E 1E049=2164,2C 1E04A=20FB,2E
1E04B=20DD,2E 1E04C=2100,26 1E04D=2103,2E 1E04E=2124,2E 1E04F=2136,2E 1E050=2178,2E 1E051=20DC,31
1E052=20DF,31 1E053=20E0,31 1E054=20E1,31 1E055=20E6,31 1E056=20ED,31 1E057=20EF,31 1E058=20F3,31
1E059=20FE,31 1E05A=2105,31 1E05B=210D,31 1E05C=2123,30 1E05D=2125,31 1E05E=212C,31 1E05F=2135,31
1E060=213A,31 1E061=213B,31 1E062=2147,31 1E063=214C,31 1E064=2156,31 1E065=215C,31 1E066=215E,31
1E067=20E1.2 1E068=2100,31 1E069=20F8,2E 1E06A=2155,2E 1E06B=212E,2E 1E06C=215D,2E 1E06D=2137,2E
1E08F=2100,10 1E100-1E12C=4781 1E130=.E5 1E131=.E1 1E132=.E3 1E133=.E4 1E134=.E6 1E135=.E7
1E136=.E2 1E137-1E13B=47AE 1E13C-1E13D=1C75 1E140-1E149=1EB6 1E14E=47B3 1E14F=F76 1E290-1E2AD=47B5
1E2AE=.1D 1E2C0-1E2EB=47D4 1E2EC=.E8 1E2ED=.E9 1E2EE=.EA 1E2EF=.EB 1E2F0-1E2F9=1EB6 1E2FF=1C98
1E4D0-1E4EB=4801 1E4EC=.EC 1E4ED=.ED 1E4EE=.EE 1E4EF=.EF 1E4F0-1E4F9=1EB6 1E7E0=2624 1E7E1=2626
1E7E2=2628 1E7E3=262A 1E7E4=262C 1E7E5=262E 1E7E6=2630 1E7E8=252D 1E7E9=252F 1E7EA=2532 1E7EB=2534
1E7ED=247A 1E7EE=247C 1E7F0=24B2 1E7F1=24B5 1E7F2=24B7 1E7F3=24CE 1E7F4=24D0 1E7F5=251F 1E7F6=2522
1E7F7=2524 1E7F8=258E 1E7F9=2591 1E7FA=2593 1E7FB=25E3 1E7FC=25E5 1E7FD=25F1 1E7FE=25F3
1E800-1E8C4=3D7D 1E8C7-1E8CF=1EB7 1E8D0~1E8D6= 1E900=3E64,20u 1E901=3E65,20u 1E902=3E66,20u
1E903=3E67,20u 1E904=3E68,20u 1E905=3E69,20u 1E906=3E6A,20u 1E907=3E6B,20u 1E908=3E6C,20u
1E909=3E6D,20u 1E90A=3E6E,20u 1E90B=3E6F,20u 1E90C=3E70,20u 1E90D=3E71,20u 1E90E=3E72,20u
1E90F=3E73,20u 1E910=3E74,20u 1E911=3E75,20u 1E912=3E76,20u 1E913=3E77,20u 1E914=3E78,20u
1E915=3E79,20u 1E916=3E7A,20u 1E917=3E7B,20u 1E918=3E7C,20u 1E919=3E7D,20u 1E91A=3E7E,20u
1E91B=3E7F,20u 1E91C=3E80,20u 1E91D=3E81,20u 1E91E=3E82,20u 1E91F=3E83,20u 1E920=3E84,20u
1E921=3E85,20u 1E922-1E943=3E64 1E944~1E946=.A7 1E947=.A9 1E948=.AA 1E949=.AB 1E94A=.A8 1E94B=3E86
1E950-1E959=1EB6 1E95E=71 1E95F=81 1EC71-1EC79=1EB7 1EC7A-1ECA2=1E0C 1ECA3-1ECAB=1EB7 1ECAC=11DE
1ECAD-1ECAF=1E35 1ECB0=1CB1 1ECB1=1EB7.2 1ECB2=1EB8.2 1ECB3-1ECB4=1E38 1ED01-1ED09=1EB7
1ED0A-1ED2D=1E3A 1ED2E=11DF 1ED2F=1EB8.2 1ED30=1EB9.2,20 1ED31=1EBA.2 1ED32=1EBB.2 1ED33=1EBC.2
1ED34=1EBD.2 1ED35=1EBE.2 1ED36=1EBF.2 1ED37-1ED3D=1E5E 1EE00=22AA,1B 1EE01=22AC,10 1EE02=22C7,10
1EE03=22DD,10 1EE05=2367,1B 1EE06=22ED,10 1EE07=22D2,10 1EE08=2310,10 1EE09=2376,17 1EE0A=2332,10
1EE0B=234A,10 1EE0C=2352,10 1EE0D=2356,10 1EE0E=22FF,10 1EE0F=2316,10 1EE10=231F,10 1EE11=230A,10
1EE12=232B,10 1EE13=22EC,10 1EE14=2300,10 1EE15=22BD,10 1EE16=22BE,10 1EE17=22D3,10 1EE18=22DE,10
1EE19=230B,10 1EE1A=2311,10 1EE1B=2317,10 1EE1C=22AB,20 1EE1D=2357,10 1EE1E=2320,20 1EE1F=232A,20
1EE21=22AC,10 1EE22=22C7,10 1EE24=2361,10 1EE27=22D2,10 1EE29=2376,17 1EE2A=2332,10 1EE2B=234A,10
1EE2C=2352,10 1EE2D=2356,10 1EE2E=22FF,10 1EE2F=2316,10 1EE30=231F,10 1EE31=230A,10 1EE32=232B,10
1EE34=2300,10 1EE35=22BD,10 1EE36=22BE,10 1EE37=22D3,10 1EE39=230B,10 1EE3B=2317,10 1EE42=22C7,10
1EE47=22D2,10 1EE49=2376,17 1EE4B=234A,10 1EE4D=2356,10 1EE4E=22FF,10 1EE4F=2316,10 1EE51=230A,10
1EE52=232B,10 1EE54=2300,10 1EE57=22D3,10 1EE59=230B,10 1EE5B=2317,10 1EE5D=2357,10 1EE5F=232A,20
1EE61=22AC,10 1EE62=22C7,10 1EE64=2361,10 1EE67=22D2,10 1EE68=2310,10 1EE69=2376,17 1EE6A=2332,10
1EE6C=2352,10 1EE6D=2356,10 1EE6E=22FF,10 1EE6F=2316,10 1EE70=231F,10 1EE71=230A,10 1EE72=232B,10
1EE74=2300,10 1EE75=22BD,10 1EE76=22BE,10 1EE77=22D3,10 1EE79=230B,10 1EE7A=2311,10 1EE7B=2317,10
1EE7C=22AB,20 1EE7E=2320,20 1EE80=22AA,1B 1EE81=22AC,10 1EE82=22C7,10 1EE83=22DD,10 1EE84=2361,10
1EE85=2367,1B 1EE86=22ED,10 1EE87=22D2,10 1EE88=2310,10 1EE89=2376,17 1EE8B=234A,10 1EE8C=2352,10
1EE8D=2356,10 1EE8E=22FF,10 1EE8F=2316,10 1EE90=231F,10 1EE91=230A,10 1EE92=232B,10 1EE93=22EC,10
1EE94=2300,10 1EE95=22BD,10 1EE96=22BE,10 1EE97=22D3,10 1EE98=22DE,10 1EE99=230B,10 1EE9A=2311,10
1EE9B=2317,10 1EEA1=22AC,10 1EEA2=22C7,10 1EEA3=22DD,10 1EEA5=2367,1B 1EEA6=22ED,10 1EEA7=22D2,10
1EEA8=2310,10 1EEA9=2376,17 1EEAB=234A,10 1EEAC=2352,10 1EEAD=2356,10 1EEAE=22FF,10 1EEAF=2316,10
1EEB0=231F,10 1EEB1=230A,10 1EEB2=232B,10 1EEB3=22EC,10 1EEB4=2300,10 1EEB5=22BD,10 1EEB6=22BE,10
1EEB7=22D3,10 1EEB8=22DE,10 1EEB9=230B,10 1EEBA=2311,10 1EEBB=2317,10 1EEF0-1EEF1=36D
1F000-1F02B=11E0 1F030-1F093=120C 1F0A0-1F0AE=1270 1F0B1-1F0BF=127F 1F0C1-1F0CF=128E
1F0D1-1F0F5=129D 1F100=1EB6,15;84,18 1F101=1EB6,15;27,1B 1F102=1EB7,15;27,1B 1F103=1EB8,15;27,1B
1F104=1EB9,15;27,1B 1F105=1EBA,15;27,1B 1F106=1EBB,15;27,1B 1F107=1EBC,15;27,1B 1F108=1EBD,15;27,1B
1F109=1EBE,15;27,1B 1F10A=1EBF,16;27,1B 1F10B~1F10C=1EB6,1F 1F10D-1F10F=1324
1F110=144,17;1EC1,22u;145,17 1F111=144,17;1ECF,22u;145,17 1F112=144,17;1EDA,22u;145,17
1F113=144,17;1EE4,22u;145,17 1F114=144,17;1EF2,22u;145,17 1F115=144,17;1F09,22u;145,17
1F116=144,17;1F12,22u;145,17 1F117=144,17;1F21,22u;145,17 1F118=144,17;1F2D,22u;145,17
1F119=144,17;1F3A,22u;145,17 1F11A=144,17;1F41,22u;145,17 1F11B=144,17;1F4C,22u;145,17
1F11C=144,17;1F67,22u;145,17 1F11D=144,17;1F70,22u;145,17 1F11E=144,17;1F82,22u;145,17
1F11F=144,17;1FA0,22u;145,17 1F120=144,17;1FAC,22u;145,17 1F121=144,17;1FB3,22u;145,17
1F122=144,17;1FD4,22u;145,17 1F123=144,17;1FE9,22u;145,17 1F124=144,17;1FF7,22u;145,17
1F125=144,17;200F,22u;145,17 1F126=144,17;2018,28u;145,17 1F127=144,17;201C,22u;145,17
1F128=144,17;2025,22u;145,17 1F129=144,17;202C,22u;145,17 1F12A=1AE,10;1FD4,22u;1AF,10
1F12B=1EDA,28u 1F12C=1FB3,28u 1F12D=1EDA,28u;1EE4,28u 1F12E=2018,30u;202C,28u 1F12F=426
1F130=1EC1,34u 1F131=1ECF,31u 1F132=1EDA,31u 1F133=1EE4,31u 1F134=1EF2,34u 1F135=1F09,31u
1F136=1F12,31u 1F137=1F21,34u 1F138=1F2D,34u 1F139=1F3A,31u 1F13A=1F41,34u 1F13B=1F4C,34u
1F13C=1F67,34u 1F13D=1F70,34u 1F13E=1F82,34u 1F13F=1FA0,34u 1F140=1FAC,31u 1F141=1FB3,34u
1F142=1FD4,34u 1F143=1FE9,34u 1F144=1FF7,31u 1F145=200F,34u 1F146=2018,38u 1F147=201C,34u
1F148=2025,31u 1F149=202C,31u 1F14A=1F21,34u;200F,34u 1F14B=1F67,34u;200F,34u
1F14C=1FD4,34u;1EE4,31u 1F14D=1FD4,34u;1FD4,34u 1F14E=1FA0,34u;1FA0,34u;200F,34u
1F14F=2018,38u;1EDA,31u 1F150=1EC1,28u 1F151=1ECF,28u 1F152=1EDA,28u 1F153=1EE4,28u 1F154=1EF2,28u
1F155=1F09,28u 1F156=1F12,28u 1F157=1F21,28u 1F158=1F2D,28u 1F159=1F3A,28u 1F15A=1F41,28u
1F15B=1F4C,28u 1F15C=1F67,28u 1F15D=1F70,28u 1F15E=1F82,28u 1F15F=1FA0,28u 1F160=1FAC,28u
1F161=1FB3,28u 1F162=1FD4,28u 1F163=1FE9,28u 1F164=1FF7,28u 1F165=200F,28u 1F166=2018,30u
1F167=201C,28u 1F168=2025,28u 1F169=202C,28u 1F16A=1F67,2B;1EDA,2B 1F16B=1F67,2B;1EE4,2B
1F16C=1F67,2B;1FB3,2B 1F16D-1F16F=1327 1F170=1EC1,34u 1F171=1ECF,31u 1F172=1EDA,31u 1F173=1EE4,31u
1F174=1EF2,34u 1F175=1F09,31u 1F176=1F12,31u 1F177=1F21,34u 1F178=1F2D,34u 1F179=1F3A,31u
1F17A=1F41,34u 1F17B=1F4C,34u 1F17C=1F67,34u 1F17D=1F70,34u 1F17E=1F82,34u 1F17F=1FA0,34u
1F180=1FAC,31u 1F181=1FB3,34u 1F182=1FD4,34u 1F183=1FE9,34u 1F184=1FF7,31u 1F185=200F,34u
1F186=2018,38u 1F187=201C,34u 1F188=2025,31u 1F189=202C,31u 1F18A=1FA0,34u 1F18B=1F2D,34u;1EDA,31u
1F18C=1FA0,34u;1EC1,34u 1F18D=1FD4,34u;1EC1,34u 1F18E=1EC1,34u;1ECF,31u 1F18F=2018,38u;1EDA,31u
1F190=1EE4,31u;1F3A,31u 1F191=1EDA,31u;1F4C,34u 1F192=1EDA,31u;1F82,34u;1F82,34u;1F4C,34u
1F193=1F09,31u;1FB3,34u;1EF2,34u;1EF2,34u 1F194=1F2D,34u;1EE4,31u 1F195=1F70,34u;1EF2,34u;2018,38u
1F196=1F70,34u;1F12,31u 1F197=1F82,34u;1F41,34u 1F198=1FD4,34u;1F82,34u;1FD4,34u
1F199=1FF7,31u;1FA0,34u;6B,30 1F19A=200F,34u;1FD4,34u 1F19B=1EB9,2E;1EE4,31u
1F19C=1EB8,2E;1F70,31;1EE4,2E;B,30;1FD4,34u;1EDA,2E;1FB3,31 1F19D=1EB8,2E;1F41,34u
1F19E=1EBA,2E;1F41,34u 1F19F=1EBE,2E;1F41,34u 1F1A0=1EBB,2E;84,30;1EB7,2E
1F1A1=1EBD,2E;84,30;1EB7,2E 1F1A2=1EB8,2E;1EB8,2E;84,30;1EB8,2E 1F1A3=1EBC,2E;1EB6,2E;1FA0,34u
1F1A4=1EB7,2E;1EB8,2E;1EB6,2E;1FA0,34u 1F1A5=1EE4,2E 1F1A6=1F21,34u;1EDA,2E
1F1A7=1F21,34u;1EE4,2E;1FB3,34u 1F1A8=1F21,34u;1F2D,31;B,30;1FB3,34u;1EF2,31;1FD4,31
1F1A9=1F4C,34u;1F82,31;1FD4,31;1FD4,31;1F4C,31;1EF2,31;1FD4,31;1FD4,31
1F1AA=1FD4,34u;1F21,34u;200F,34u 1F1AB=1FF7,31u;1F21,34u;1EE4,31u 1F1AC=200F,34u;1F82,34u;1EE4,31u
1F1AD=428 1F1E6-1F1FF=975 1F200=400C,30;3FF4,30 1F201=3FF8,33;3FF8,33 1F202=3FF9,31 1F210=@624B,31
1F211=@5B57,31 1F212=@53CC,31 1F213=4001,31;.21,2E 1F214=@4E8C,31 1F215=@591A,31 1F216=@89E3,31
1F217=@5929,31 1F218=@4EA4,31 1F219=@6620,31 1F21A=@7121,31 1F21B=@6599,31 1F21C=@524D,31
1F21D=@5F8C,31 1F21E=@518D,31 1F21F=@65B0,31 1F220=@521D,31 1F221=@7D42,31 1F222=@751F,31
1F223=@8CA9,31 1F224=@58F0,31 1F225=@5439,31 1F226=@6F14,31 1F227=@6295,31 1F228=@6355,31
1F229=@4E00,31 1F22A=@4E09,31 1F22B=@904A,31 1F22C=@5DE6,31 1F22D=@4E2D,31 1F22E=@53F3,31
1F22F=@6307,31 1F230=@8D70,31 1F231=@6253,31 1F232=@7981,31 1F233=@7A7A,31 1F234=@5408,31
1F235=@6E80,31 1F236=@6709,31 1F237=@6708,31 1F238=@7533,31 1F239=@5272,31 1F23A=@55B6,31
1F23B=@914D,31 1F240=1AE,10;@672C,10;1AF,10 1F241=1AE,10;@4E09,10;1AF,10
1F242=1AE,10;@4E8C,10;1AF,10 1F243=1AE,10;@5B89,10;1AF,10 1F244=1AE,10;@70B9,10;1AF,10
1F245=1AE,10;@6253,10;1AF,10 1F246=1AE,10;@76D7,10;1AF,10 1F247=1AE,10;@52DD,10;1AF,10
1F248=1AE,10;@6557,10;1AF,10 1F250=@5F97,1B 1F251=@53EF,1B 1F260-1F265=132A 1F300-1F5FF=1330
1F600-1F6D7=179B 1F6DC-1F6EC=1873 1F6F0-1F6FC=1884 1F700-1F776=1891 1F77B-1F7D9=1908
1F7E0-1F7EB=1967 1F7F0=1973 1F800-1F80B=1974 1F810-1F847=1980 1F850-1F859=19B8 1F860-1F887=19C2
1F890-1F8AD=19EA 1F8B0-1F8B1=1A08 1F900-1F9FF=1630 1FA00-1FA53=12C2 1FA60-1FA6D=1316
1FA70-1FA7C=1730 1FA80-1FA88=173D 1FA90-1FABD=1746 1FABF-1FAC5=1774 1FACE-1FADB=177B
1FAE0-1FAE8=1789 1FAF0-1FAF8=1792 1FB00-1FB92=7BC 1FB94-1FBCA=84F 1FBF0=1EB6,1A 1FBF1=1EB7,1A
1FBF2=1EB8,1A 1FBF3=1EB9,1A 1FBF4=1EBA,1A 1FBF5=1EBB,1A 1FBF6=1EBC,1A 1FBF7=1EBD,1A 1FBF8=1EBE,1A
1FBF9=1EBF,1C E0001= E0020~E007F= E0100~E01EF="

end Collation

end StyleHost
