/-!
# Root order of the characters up to U+1FFF

* `lowerCharacters` : the words of this part of the root table for `Collation.root`.
-/

namespace StyleHost

namespace Collation

/-- The elements of the alphabets, of digits, punctuation and marks. -/
def lowerCharacters : String :=
"0~8= 9-D=3 E~1F= 20=B 21=6B 22=139 23=1D0 24=1C85 25=1D1 26=1CD 27=132 28-29=144 2A=1C5 2B=4B9
2C=27 2D=10 2E=84 2F=1CA 30-39=1EB6 3A=44 3B=3E 3C-3E=4BD 3F=72 40=1C4 41=1EC1,1Cu 42=1ECF,1Cu
43=1EDA,1Cu 44=1EE4,1Cu 45=1EF2,1Cu 46=1F09,1Cu 47=1F12,1Cu 48=1F21,1Cu 49=1F2D,1Cu 4A=1F3A,1Cu
4B=1F41,1Cu 4C=1F4C,1Cu 4D=1F67,1Cu 4E=1F70,1Cu 4F=1F82,1Cu 50=1FA0,1Cu 51=1FAC,1Cu 52=1FB3,1Cu
53=1FD4,1Cu 54=1FE9,1Cu 55=1FF7,1Cu 56=200F,1Cu 57=2018,20u 58=201C,1Cu 59=2025,1Cu 5A=202C,1Cu
5B=146 5C=1CB 5D=147 5E=2E8 5F=E 60=2E5 61=1EC1 62=1ECF 63=1EDA 64=1EE4 65=1EF2 66=1F09 67=1F12
68=1F21 69=1F2D 6A=1F3A 6B=1F41 6C=1F4C 6D=1F67 6E=1F70 6F=1F82 70=1FA0 71=1FAC 72=1FB3 73=1FD4
74=1FE9 75=1FF7 76=200F 77=2018 78=201C 79=2025 7A=202C 7B=148 7C=4C1 7D=149 7E=4C3 7F~84= 85=8
86~9F= A0=B,28 A1=6C A2=1C84 A3=1C86 A4=1C83 A5=1C87 A6=4C2 A7=1BE A8=2EC A9=425 AA=1EC1,2B AB=142
AC=4C0 AD= AE=427 AF=2E9 B0=368 B1=4BA B2=1EB8,24 B3=1EB9,24 B4=2E6 B5=2083,10 B6=1C0 B7=99 B8=2EF
B9=1EB7,24 BA=1F82,2B BB=143 BC=1EB7,33;4C9,20;1EBA,33 BD=1EB7,33;4C9,20;1EB8,33
BE=1EB9,33;4C9,20;1EBA,33 BF=73 C6=1EC1.2,20u;1EF2,22u D0=1EE4.2,20u D7=4BC D8=1F82,1Cu;.19
DE=203E,20u DF=1FD4.2;1FD4,13 E6=1EC1.2;1EF2,13 F0=1EE4.2 F7=4BB F8=1F82;.19 FE=203E
110=1EE4,1Cu;.23 111=1EE4;.23 126=1F21,1Cu;.23 127=1F21;.23 131=1F2E 132=1F2D,22u;1F3A,22u
133=1F2D,13;1F3A,13 138=1FB2 13F=1F4C,1Cu;.106 140=1F4C;.106 141=1F4C,1Cu;.23 142=1F4C;.23
149=2056,20;1F70,13 14A=1F7E,1Eu 14B=1F7E 152=1F82.2,20u;1EF2,22u 153=1F82.2;1EF2,13 166=1FEB,20u
167=1FEB 17F=1FD4.4 180=1ED1 181=1ED7,20u 182=1ED8,20u 183=1ED8 184=2052,20u 185=2052 186=1F90,20u
187=1EE0,20u 188=1EE0 189=1EEA,20u 18A=1EEB,20u 18B=1EEE,20u 18C=1EEE 18D=202C,13;2018,14
18E=1EFA,20u 18F=1EFC,1Bu 190=1EFE,10u 191=1F0F,20u 192=1F0F 193=1F1A,20u 194=1F1F,20u 195=1F23
196=1F38,20u 197=1F33,20u 198=1F44,20u 199=1F44 19A=1F51 19B=1F64 19C=2009,20u 19D=1F75,20u
19E=1F76 19F=1F9A,20u 1A2=1F20,20u 1A3=1F20 1A4=1FA6,20u 1A5=1FA6 1A6=1FB5,1Eu 1A7=2050,20u
1A8=2050 1A9=1FE0,1Eu 1AA=1FE4 1AB=1FEE 1AC=1FEF,20u 1AD=1FEF 1AE=1FF0,20u 1B1=200D,20u
1B2=2013,20u 1B3=2028,20u 1B4=2028 1B5=202E,20u 1B6=202E 1B7=2037,1Eu 1B8=2039,20u 1B9=2039
1BA=203C 1BB=204C 1BC=2051,20u 1BD=2051 1BE=1FE9,13;1FD4,13 1BF=2042 1C0-1C3=2066
1C4=1EE4,22u;202C,22u;.12,20 1C5=1EE4,22u;202C,13;.12,20 1C6=1EE4,13;202C,13;.12,20
1C7=1F4C,22u;1F3A,22u 1C8=1F4C,22u;1F3A,13 1C9=1F4C,13;1F3A,13 1CA=1F70,22u;1F3A,22u
1CB=1F70,22u;1F3A,13 1CC=1F70,13;1F3A,13 1DD=1EFA 1E4=1F18,20u 1E5=1F18 1F1=1EE4,22u;202C,22u
1F2=1EE4,22u;202C,13 1F3=1EE4,13;202C,13 1F6=1F23,20u 1F7=2042,20u 21C=202B,20u 21D=202B
220=1F76,20u 221=1EEF 222=1F9E,20u 223=1F9E 224=2031,20u 225=2031 234=1F5F 235=1F7B 236=1FF3
237=1F3B 238=1EE4,13;1ECF,13 239=1FAC,13;1FA0,13 23A=1EC3,20u 23B=1EDC,20u 23C=1EDC 23D=1F51,20u
23E=1FEC,20u 23F=1FDC 240=2034 241=2054,20u 242=2054 243=1ED1,20u 244=1FFF,20u 245=2017,20u
246=1EF6,20u 247=1EF6 248=1F3D,20u 249=1F3D 24A=1FB1,20u 24B=1FB1 24C=1FB8,20u 24D=1FB8
24E=2027,20u 24F=2027 250-251=1EC9 252=1ECD 253=1ED7 254=1F90 255=1EE1 256-257=1EEA 258=1F00
259=1EFC 25A=1F01 25B=1EFE 25C=1F02 25D-25E=1F05 25F=1F3F 260=1F1A 261=1F14 262=1F17 263=1F1F
264=1F08 265=2006 266=1F25 267=1F2A 268=1F33 269=1F38 26A=1F2F 26B=1F53 26C=1F56 26D=1F5B 26E=1F61
26F=2009 270=200C 271=1F6B 272=1F75 273=1F79 274=1F71 275=1F9A 276=1F86 277=1F9C 278=1FAA 279=1FBA
27A=1FBC 27B=1FBE 27C-27D=1FC1 27E=1FC5 27F=1FC8 280=1FB5 281=1FCE 282=1FD9 283=1FE0 284=1F40
285-286=1FE5 287=1FF5 288=1FF0 289=1FFF 28A=200D 28B=2013 28C=2017 28D=201B 28E=1F65 28F=2026
290-291=2032 292=2037 293=203D 294=2053 295=205C 296=2064 297=206B 298=206D 299=1ED0 29A=1F07
29B=1F1B 29C=1F22 29D=1F3E 29E=1F4A 29F=1F4D 2A0=1FB0 2A1-2A2=2062 2A3=1EE4,13;202C,13
2A4=1EE4,13;2037,10 2A5=1EE4,13;2033,20 2A6=1FE9,13;1FD4,13 2A7=1FE9,13;1FE0,10 2A8=1FE9,13;1EE1,20
2A9=1F09,13;1F7E,10 2AA=1F4C,13;1FD4,13 2AB=1F4C,13;202C,13 2AC-2AD=206E 2AE-2AF=2007 2B0=1F21,2B
2B1=1F25,2E 2B2=1F3A,2B 2B3=1FB3,2B 2B4=1FBA,20 2B5=1FBE,20 2B6=1FCE,20 2B7=2018,34 2B8=2025,2B
2B9=2F6 2BA=2F8 2BB=1F2B 2BC=2056 2BD=1F2C 2BE=2058 2BF=205D 2C0=2055 2C1=205E 2C2-2CF=2F9
2D0-2D1=1C66 2D2-2D5=307 2D6-2D7=30D 2D8-2D9=2EA 2DA=2ED 2DB=2F0 2DC=2E7 2DD=2EE 2DE-2DF=30F
2E0=1F1F,2E 2E1=1F4C,2B 2E2=1FD4,2B 2E3=201C,2B 2E4=205C,20 2E5-2ED=311 2EE=2057 2EF-2FF=31A 300=.F
301=.E 302=.11 303=.17 304=.1C 305=.24 306=.10 307=.18 308=.15 309=.25 30A=.13 30B=.16 30C=.12
30D~30E=.1D 30F=.26 310=.27 311=.28 312=.1D 313=.C 314=.D 315=.1D 316~319=.1E 31A=.1D 31B=.29
31C~320=.1E 321=.2A 322=.2B 323=.2C 324=.2D 325=.2E 326=.2F 327=.1A 328=.1B 329~32C=.1E 32D=.30
32E=.31 32F=.1E 330=.32 331=.33 332=.B 333=.1E 334=.34 335=.23 336~337=.1F 338=.19 339=.35
33A~33C=.1E 33D~33F=.1D 342=.14 345=.36 346=.1D 347~349=.1E 34A~34C=.1D 34D~34E=.1E 34F=
350~352=.1D 353~356=.1E 357=.1D 358=.37 359~35A=.1E 35B=.1D 35C=.1E 35D~35E=.1D 35F=.1E 360=.38
361=.39 362=.1E 363=1EC1,13 364=1EF2,13 365=1F2D,13 366=1F82,13 367=1FF7,13 368=1EDA,13 369=1EE4,13
36A=1F21,13 36B=1F67,13 36C=1FB3,13 36D=1FE9,13 36E=200F,13 36F=201C,13 370=207B,20u 371=207B
372=209C,20u 373=209C 375=2F7 376=2078,20u 377=2078 37A=207E,10 37B=2091 37C=2090 37D=2092
37F=207F,20u 384=2E6 391=2071,26u 392=2072,1Eu 393=2073,18u 394=2075,1Bu 395=2076,26u 396=207A,1Eu
397=207C,1Eu 398=207D,1Eu 399=207E,26u 39A=2080,20u 39B=2081,1Eu 39C=2083,20u 39D=2084,1Eu
39E=2085,1Eu 39F=2086,1Eu 3A0=2087,26u 3A1=208C,20u 3A3=208F,1Eu 3A4=2093,1Eu 3A5=2094,1Bu
3A6=2095,1Eu 3A7=2096,18u 3A8=2097,1Eu 3A9=2099,1Bu 3B1-3B3=2071 3B4-3B5=2075 3B6=207A 3B7-3B9=207C
3BA-3BB=2080 3BC-3C0=2083 3C1=208C 3C2=208F,33 3C3=208F 3C4-3C8=2093 3C9=2099
3CF=2080,28u;2071,10;207E,10 3D0=2072,10 3D1=207D,10 3D2=2094,26u 3D5=2095,10 3D6=2087,10
3D7=2080,10;2071,10;207E,10 3D8=208B,20u 3D9=208B 3DA=2079,20u 3DB=2079 3DC=2077,1Eu 3DD=2077
3DE=208A,20u 3DF=208A 3E0=209B,20u 3E1=209B 3E2=20BE,20u 3E3=20BE 3E4=20C3,20u 3E5=20C3
3E6=20C4,20u 3E7=20C4 3E8=20C7,20u 3E9=20C7 3EA=20CE,20u 3EB=20CE 3EC=20D1,20u 3ED=20D1
3EE=20D5,20u 3EF=20D5 3F0=2080,10 3F1=208C,10 3F2=208F,10 3F3=207F 3F4=207D,25u 3F5=2076,10 3F6=4B4
3F7=209D,20u 3F8=209D 3F9=208F,25u 3FA=2089,20u 3FB=2089 3FC=208E 3FD=2091,20u 3FE=2090,20u
3FF=2092,20u 402=20E9,20u 404=20EE,2Eu 405=20F8,20u 406=2100,1Bu 408=2103,20u 409=2113,20u
40A=2121,20u 40B=2134,20u 40F=2155,20u 410=20DC,1Bu 411=20DF,1Bu 412=20E0,1Bu 413=20E1,1Bu
414=20E6,1Bu 415=20ED,1Bu 416=20EF,1Bu 417=20F3,1Bu 418=20FE,1Bu 41A=2105,1Bu 41B=210D,1Bu
41C=2117,1Eu 41D=211A,1Eu 41E=2123,18u 41F=2125,1Bu 420=2129,1Eu 421=212C,1Bu 422=212F,1Eu
423=2135,1Bu 424=213A,1Bu 425=213B,1Bu 426=2147,1Bu 427=214C,1Bu 428=2156,1Bu 429=2158,2Eu
42A=215C,1Bu 42B=215E,1Bu 42C=215F,1Eu 42D=2163,20u 42E=2164,1Eu 42F=2167,20u 430=20DC 431-433=20DF
434=20E6 435=20ED 436=20EF 437=20F3 438=20FE 43A=2105 43B=210D 43C=2117 43D=211A 43E=2123 43F=2125
440=2129 441=212C 442=212F 443=2135 444-445=213A 446=2147 447=214C 448=2156 449=2158 44A=215C
44B-44C=215E 44D-44E=2163 44F=2167 452=20E9 454=20EE 455=20F8 456=2100 458=2103 459=2113 45A=2121
45B=2134 45F=2155 460=2142,2Eu 461=2142 462=2161,2Eu 463=2161 464=2169,2Eu 465=2169 466=216A,2Eu
467=216A 468=216E,20u 469=216E 46A=216C,2Eu 46B=216C 46C=2170,2Eu 46D=2170 46E=2171,20u 46F=2171
470=2172,20u 471=2172 472=2173,2Eu 473=2173 474=2174,20u 475=2174 478=2139,20u 479=2139
47A=2146,20u 47B=2146 47C=2145,20u 47D=2145 47E=2143,20u 47F=2143 480=2128,20u 481=2128 482=369
483=.3A 484=.1D 485=.D 486=.C 487=.1D 488~489= 48A=20FF,20u 48B=20FF 48C=2160,20u 48D=2160
48E=212A,20u 48F=212A 490=20E1.2,2Eu 491=20E1.2,20 492=20E2,20u 493=20E2 494=20E4,20u 495=20E4
496=20F2,20u 497=20F2 498=20EC,20u 499=20EC 49A=2106,20u 49B=2106 49C=210A,20u 49D=210A
49E=2109,20u 49F=2109 4A0=2108,20u 4A1=2108 4A2=211D,20u 4A3=211D 4A4=2120,20u 4A5=2120
4A6=2127,20u 4A7=2127 4A8=2176,20u 4A9=2176 4AA=212E,20u 4AB=212E 4AC=2132,20u 4AD=2132
4AE=2136,20u 4AF=2136 4B0=2137,20u 4B1=2137 4B2=213E,20u 4B3=213E 4B4=214A,20u 4B5=214A
4B6=214F,20u 4B7=214F 4B8=2151,20u 4B9=2151 4BA=213F,20u 4BB=213F 4BC=2153,20u 4BD=2153
4BE=2154,20u 4BF=2154 4C0=2178,20u 4C3=2107,20u 4C4=2107 4C5=210F,20u 4C6=210F 4C7=211E,20u
4C8=211E 4C9=211C,20u 4CA=211C 4CB=2150,20u 4CC=2150 4CD=2118,20u 4CE=2118 4CF=2178 4D4=20DE,20u
4D5=20DE 4D8=20DD,20u 4D9=20DD 4E0=20FA,20u 4E1=20FA 4E8=2124,20u 4E9=2124 4F6=20E5,20u 4F7=20E5
4FA=20E3,20u 4FB=20E3 4FC=213C,20u 4FD=213C 4FE=213D,20u 4FF=213D 500=20E7,20u 501=20E7
502=20EB,20u 503=20EB 504=20F5,20u 505=20F5 506=20FC,20u 507=20FC 508=2115,20u 509=2115
50A=2122,20u 50B=2122 50C=212D,20u 50D=212D 50E=2131,20u 50F=2131 510=20F6,20u 511=20F6
512=2111,20u 513=2111 514=2116,20u 515=2116 516=212B,20u 517=212B 518=2168,20u 519=2168
51A=210C,20u 51B=210C 51C=2177,20u 51D=2177 51E=210B,20u 51F=210B 520=2112,20u 521=2112
522=211F,20u 523=211F 524=2126,20u 525=2126 526=2140,20u 527=2140 528=211B,20u 529=211B
52A=20F0,20u 52B=20F0 52C=214D,20u 52D=214D 52E=2110,20u 52F=2110 531=2229,20u 532=222B,20u
533=222C,20u 534=222D,20u 535=222E,2Eu 536=222F,20u 537=2230,20u 538=2231,20u 539=2232,20u
53A=2233,20u 53B=2234,2Eu 53C=2235,20u 53D=2236,2Eu 53E=2237,20u 53F=2238,20u 540=2239,20u
541=223A,20u 542=223B,20u 543=223C,20u 544=223D,2Eu 545=223E,20u 546=2240,2Eu 547=2241,20u
548=2242,20u 549=2243,20u 54A=2244,20u 54B=2245,20u 54C=2246,20u 54D=2247,20u 54E=2248,2Eu
54F=2249,20u 550=224A,20u 551=224B,20u 552=224C,2Eu 553=224D,20u 554=224E,20u 555=224F,20u
556=2250,20u 559=2251 55A-55B=208 55C=6E 55D=2E 55E=76 55F=20A 560=222A 561=2229 562-575=222B
576-586=2240 587=222E,20;224C,20 588=223F 589=45 58A=11 58D-58E=36A 58F=1C88 591~5AF= 5B0=.3C
5B1=.3D 5B2=.3E 5B3=.3F 5B4=.40 5B5=.41 5B6=.42 5B7=.43 5B8=.44 5B9~5BA=.45 5BB=.46 5BC=.49 5BD=
5BE=20B 5BF=.4A 5C0=20C 5C1=.48 5C2=.47 5C3=20D 5C4~5C5= 5C6=20E 5C7=.44 5D0-5D9=2253 5DA=225D,2E
5DB-5DC=225D 5DD=225F,2E 5DE=225F 5DF=2260,20 5E0-5E2=2260 5E3=2263,20 5E4=2263 5E5=2264,20
5E6-5EA=2264 5EF=225C,20;2257,20;2258,20;2257,20 5F0=2258,20;2258,20 5F1=2258,20;225C,20
5F2=225C,20;225C,20 5F3-5F4=20F 600~605= 606=4D0 607=4D2 608=36C 609=1D4 60A=1D6 60B=1C89
60C-60D=2F 60E-60F=36F 610~61A= 61B=3F 61C= 61D=D5 61E=46 61F=77 620=237F 621=229C 627=22AA
628=22AC 629-62B=22BC 62C=22C7 62D-62E=22D2 62F-630=22DD 631-632=22EC 633-634=22FF 635-636=230A
637-638=2310 639-63A=2316 63B=2344 63C=2346 63D-63F=237C 640= 641=231F 642=232B 643=2332 644=234A
645=2352 646=2356 647=2361 648=2367 649-64A=2375 64B=.57 64C=.5A 64D=.5D 64E=.60 64F=.64 650=.67
651=.6A 652=.6B 653=.6C 654=.6D 655=.6E 656=.70 657=.71 658=.72 659=.74 65A=.75 65B=.76 65C=.77
65D=.78 65E=.79 65F=.6F 660-669=1EB6 66A=1D2 66B-66C=31 66D=1C8 66E=22AB 66F=232A 670=.82 671=22A0
672=229F 673=22A3 674=229C,20 675=229C,20;22AA,10 676=229C,20;2367,10 677=229C,20;236B,10
678=229C,20;2376,10 679-67A=22BF 67B=22AD 67C-67D=22C1 67E=22AE 67F=22C3 680=22AF 681-682=22D4
683-684=22C8 685=22D6 686=22CB 687=22CD 688-68D=22DF 68E-690=22E6 691-699=22EE 69A-69C=2301
69D=230C 69E=230E 69F=2312 6A0=2318 6A1-6A2=2320 6A3-6A4=2323 6A5-6A6=2326 6A7=232C 6A8=232E
6A9-6AC=2333 6AD-6AE=2338 6AF=233B 6B0-6B4=233E 6B5-6B8=234B 6B9=235C 6BA=2357 6BB-6BD=2359
6BE=2362 6BF=22CC 6C1=2363 6C3=2364 6C4-6CB=2368 6CC-6CE=2377 6CF=2371 6D0-6D1=237A 6D2=2384 6D4=86
6D5=2366 6D6~6DD= 6DE=371 6DF~6E4= 6E5=2367,10 6E6=2376,10 6E7~6E8= 6E9=372 6EA~6ED= 6EE=22E9
6EF=22F7 6F0-6F9=1EB6 6FA=2304 6FB=230F 6FC=231A 6FD=229C.2 6FE=2352.2 6FF=2365 700=D6 701-702=87
703-708=47 709=78 70A-70D=211 70F= 710=2389 711=.83 712-713=238A 714=238B.2 715=238D 716=238C
717-719=238E 71A-71B=2392 71C=2393.2 71D-71F=2394 720-723=2398 724=239B,20 725-726=239C 727=239D.2
728-72C=239F 72D=238A.2 72E=238B.7 72F=238D.2 730=.84 731=.85 732=.86 733=.87 734=.88 735=.89
736=.8A 737=.8B 738=.8C 739=.8D 73A=.8E 73B=.8F 73C=.90 73D=.91 73E=.92 73F=.93 740= 741=.1D
742=.1E 743~744= 745=.1D 746=.1E 747~74A= 74D=2391 74E=2397 74F=239E 750-755=22B0 756=22B7
757-758=22D7 759-75A=22EA 75B=22F8 75C=2305 75D-75F=231B 760-761=2328 762=2343 763-764=2347
765-766=2353 767-769=235D 76A=234F 76B-76C=22F9 76D=2306 76E-76F=22D9 770=2307 771=22FB 772=22DB
773-774=22A4 775-777=2380 778-779=2372 77A-77B=2385 77C=22DC 77D-77E=2308 77F=2337 780=23CA
781-783=23CD 784-787=23D1 788=23D7 789-78B=23D9 78C=23DD 78D-78E=23E1 78F-790=23E4 791-797=23E9
798=23DE 799-79A=23CB 79B=23DC 79C=23D0 79D-79F=23E6 7A0-7A1=23DF 7A2-7A3=23D5 7A4=23E3 7A5=23D8
7A6-7B0=23F1 7B1=23F0 7C0-7C9=1EB6 7CA-7E7=23FD 7E8=2409.2 7E9=240A.2 7EA=240C.2 7EB=.94 7EC=.95
7ED=.96 7EE=.97 7EF=.98 7F0=.99 7F1=.9A 7F2=.9B 7F3=.9C 7F4-7F5=241B 7F6=399 7F7=D7 7F8=33 7F9=6F
7FA= 7FD=.1E 7FE-7FF=1C8A 800-817=2281 818=.54 819=.55 81A-81B=2299 81C~81D=.4C 81E~820=.4D
821~823=.4E 824~825=.4F 826~827=.50 828~82A=.51 82B=.52 82C=.53 82D=.56 830-83E=4D 840-858=23B0
859~85B=.1E 85E=215 860-86A=23A4 870~882=22AA,10 883=229C,20 884=2367,10 885~886=2376,10
887=229C,20 888=387 889=2360 88A=22CA 88B-88C=2314 88D=2345 88E=2387 890~891= 898~89D= 89E~89F=.6C
8A0=22B6 8A1=22B9 8A2=22CE 8A3=2313 8A4=2325 8A5=2330 8A6=2350 8A7=2355 8A8-8A9=22A7 8AA=22FC
8AB=2374 8AC=22A9 8AD=22AA,10 8AE=22E5 8AF=230D 8B0=233C 8B1=2370 8B2=22FD 8B3=231E 8B4=233A
8B5=2331 8B6-8B7=22BA 8B8=22C4 8B9=22FE 8BA=2383 8BB=2322 8BC=232D 8BD=2358 8BE=22B8 8BF-8C0=22C5
8C1=22CF 8C2=2349 8C3=2319 8C4=232F 8C5-8C6=22D0 8C7=2351 8C8=233D 8C9=2377,10 8CA~8E2= 8E3=.7A
8E4=.61 8E5=.65 8E6=.68 8E7=.59 8E8=.5C 8E9=.5F 8EA~8EF= 8F0=.58 8F1=.5B 8F2=.5E 8F3= 8F4=.62
8F5=.63 8F6=.69 8F7=.7B 8F8=.7C 8F9=.80 8FA=.81 8FB=.7E 8FC=.7F 8FD=.7D 8FE=.66 8FF=.73 900~901=.AD
902=.AE 903=.AF 904-906=263D 907-90B=2645 90C=264B 90D-910=264D 911-917=2652 918-91C=265A
91D-920=2661 921=2666 922-928=2668 92A-92C=266F 92D-92F=2673 930=2677 932-933=2678 935-939=267A
93A-93B=2687 93C=.AC 93D=267F 93E=2686 93F-944=268C 945=2694 946-947=2696 948=2699 949-94D=269B
94E=2698 94F=2689 950=263A 951~952= 953=.F 954=.E 955=2695 956-957=268A 960=264A 961=264C
962-963=2692 964-965=9C 966-96F=1EB6 970=224 971=1C68 972=263C 973-977=2640 978=2665 979=265F
97A=2676 97B=2659 97C=2660 97D=2680 97E=2667 97F=2672 980=26A1 981=.AD 982=.AE 983=.AF 985-98B=26A2
98C=26AA 98F-990=26AC 993-9A8=26AE 9AA-9B0=26C4 9B2=26CC 9B6-9B9=26CE 9BC=.AC 9BD-9C4=26D2
9C7-9C8=26DC 9CD=26E0 9CE=26BF,20;26E0,20 9D7=26E1 9E0=26A9 9E1=26AB 9E2-9E3=26DA 9E6-9EF=1EB6
9F0=26CB 9F1=26CD 9F2-9F3=1C8C 9F4-9F9=1CBD 9FA=39A 9FB=1C8E 9FC=26E2 9FD=233 9FE=.B0 A01=.AD
A02=.AE A03=.AF A05-A06=26E9 A07-A08=26EE A09-A0A=26E6 A0F=26F0 A10=26EB A13=26E8 A14=26EC
A15-A28=26F4 A2A-A2F=2708 A30=270F A32=2710 A35=2711 A38-A39=26F1 A3C=.AC A3E-A42=2713 A47-A48=2718
A4B-A4D=271A A51=26F3 A5C=2712 A66-A6F=1EB6 A70=.B1 A71=.B2 A72=26ED A73=26E5 A74=26E4 A75=270E
A76=234 A81=.AD A82=.AE A83=.AF A85-A8B=271F A8C=2727 A8D=2729 A8F-A91=272A A93-A9C=272D
A9D-AA8=2738 AAA-AB0=2744 AB2=274B AB3=2751 AB5-AB9=274C ABC=.AC ABD-AC4=2752 AC5=275C AC7-AC9=275D
ACB-ACD=2760 AD0=271E AE0=2726 AE1=2728 AE2-AE3=275A AE6-AEF=1EB6 AF0=235 AF1=1C8F AF9=2737 AFA=.6B
AFB=.6A AFC=.6C AFD~AFF=.AC B01=.AD B02=.AE B03=.AF B05-B0B=2764 B0C=276C B0F-B10=276E B13-B28=2770
B2A-B2F=2786 B30=278D B32-B33=278E B35=2790 B36-B39=2792 B3C=.AC B3D-B44=2796 B47=27A0 B4D=27A4
B55=.1D B56-B57=27A5 B5F=278C B60=276B B61=276D B62-B63=279E B66-B6F=1EB6 B70=39B B71=2791
B72-B77=1CC3 B82=.AE B83=27B5 B85-B8A=27A9 B8E-B90=27AF B92-B93=27B2 B95=27B6 B99-B9A=27B7 B9C=27C8
B9E-B9F=27B9 BA3-BA4=27BB BA8=27BD BA9=27C7 BAA=27BE BAE-BB0=27BF BB1=27C6 BB2=27C2 BB3=27C5
BB4=27C4 BB5=27C3 BB6-BB9=27C9 BBE-BC2=27CD BC6-BC8=27D2 BCD=27D8 BD0=27A8 BD7=27D9 BE6-BEF=1EB6
BF0-BF2=1CCF BF3-BF8=39C BF9=1C91 BFA=3A2 C00~C01=.AD C02=.AE C03=.AF C04=.AE C05-C0B=27DB C0C=27E3
C0E-C10=27E5 C12-C1A=27E8 C1B-C1C=27F2 C1D-C28=27F5 C2A-C32=2801 C33-C34=280F C35-C39=280A C3C=.AC
C3D-C44=2812 C46-C47=281C C4A-C4D=281F C55-C56=2823 C58=27F1 C59=27F4 C5A=2811 C5D=2800,20;2822,20
C60=27E2 C61=27E4 C62-C63=281A C66-C6F=1EB6 C77=236 C78-C7B=1EB6 C7C-C7E=1EB7 C7F=3BC C80=285D
C81=.AD C82=.AE C83=.AF C84=237 C85-C8B=2826 C8C=282E C8E-C90=2830 C92-CA8=2833 CAA-CB2=284A
CB3=2858 CB5-CB9=2853 CBC=.AC CBD=285A CBE-CBF=285E CC1-CC4=2861 CC6=2867 CCC-CCD=286C CD5-CD6=286E
CDD=2849,20;286D,20 CDE=2859 CE0=282D CE1=282F CE2-CE3=2865 CE6-CEF=1EB6 CF1-CF2=285B CF3=.AE
D00=.AE D01=.AD D02=.AE D03=.AF D04=28A9 D05-D08=2871 D09-D0B=2876 D0C=287A D0E-D10=287C
D12-D30=287F D31=28A6 D32=289E D33-D34=28A4 D35-D39=289F D3A=28A7 D3B~D3C=28BA,20 D3D=28A8
D3E-D44=28AA D46-D48=28B3 D4D=28BA D4E=289D,20;28BA,20 D4F=3BD D54=289B,20;28BA,20
D55=289C,20;28BA,20 D56=28A5,20;28BA,20 D57=28B9 D58-D5E=1CE7 D5F=2875 D60=2879 D61=287B
D62-D63=28B1 D66-D6F=1EB6 D70-D78=1CEE D79=3BE D7A=2890,20;28BA,20 D7B=2895,20;28BA,20
D7C=289D,20;28BA,20 D7D=289E,20;28BA,20 D7E=28A4,20;28BA,20 D7F=2882,20;28BA,20 D81=.AD D82=.AE
D83=.AF D85-D96=28BC D9A-DB1=28CE DB3-DBB=28E6 DBD=28EF DC0-DC6=28F0 DCA=2908 DCF-DD4=28F7 DD6=28FD
DD8=28FE DD9=2902 DDB=2904 DDF=2900 DE6-DEF=1EB6 DF2=28FF DF3=2901 DF4=238 E01-E3A=2EAE E3F=1C96
E40-E45=2EE8 E46=1C69 E47=.BE E48=.BF E49=.C0 E4A=.C1 E4B=.C2 E4C=.C3 E4D=.C4 E4E=.BD E4F=239
E50-E59=1EB6 E5A-E5B=23A E81-E82=2EF0 E84=2EF2 E86-E89=2EF3 E8A=2EF8 E8C=2EF9 E8D=2EFC E8E=2EFA
E8F-EA3=2EFD EA5=2F12 EA7-EA9=2F13 EAA=2EF7 EAB-EBD=2F16 EC0-EC4=2F29 EC6=1C6A EC8=.C6 EC9=.C7
ECA=.C8 ECB=.C9 ECC=.CA ECD=.CB ECE=.C5 ED0-ED9=1EB6 EDC=2F16,20;2F07,20 EDD=2F16,20;2F0F,20
EDE=2EEF EDF=2EFB F00=2FB9,20;2FD0,20;.AE,20 F01-F03=3C6 F04-F0A=23E F0B=247 F0C=247,20 F0D-F12=248
F13=3C9 F14=63 F15-F17=3CA F18~F19= F1A-F1F=3CD F20-F29=1EB6 F2A=1EB7,15 F2B=1EB8,15 F2C=1EB9,15
F2D=1EBA,15 F2E=1EBB,15 F2F=1EBC,15 F30=1EBD,15 F31=1EBE,15 F32=1EBF,16 F33=1EB6,15 F34=3D3 F35=
F36=3D4 F37= F38=3D5 F39=.CE F3A-F3D=14A F3E~F3F= F40=2F73 F41=2F76 F42=2F78 F44=2F7A F45=2F7C
F46=2F7E F47=2F80 F49=2F82 F4A=2F84 F4B=2F86 F4C=2F88 F4E=2F8A F4F=2F8C F50=2F8E F51=2F90 F53=2F92
F54=2F94 F55=2F96 F56=2F98 F58=2F9A F59=2F9C F5A=2F9E F5B=2FA0 F5D=2FA2 F5E=2FA4 F5F=2FA6 F60=2FA8
F61=2FAA F62=2FAC F63=2FAF F64=2FB1 F65=2FB3 F66=2FB5 F67=2FB7 F68=2FB9 F6A=2FAC.2 F6B=2F75
F6C=2FAE F71-F72=2FC3 F74=2FC8 F77=2FCB F79-F7D=2FCD F7E=.AE F7F=.AF F80=2FC6 F82~F83=.AD F84=2FD2
F85=24E F86~F87= F88=2FBB F89=2FBD F8A-F8B=2FC1 F8C=2FBF F8D=2FBC F8E=2FBE F8F=2FC0 F90=2F74
F91=2F77 F92=2F79 F94=2F7B F95=2F7D F96=2F7F F97=2F81 F99=2F83 F9A=2F85 F9B=2F87 F9C=2F89 F9E=2F8B
F9F=2F8D FA0=2F8F FA1=2F91 FA3=2F93 FA4=2F95 FA5=2F97 FA6=2F99 FA8=2F9B FA9=2F9D FAA=2F9F FAB=2FA1
FAD=2FA3 FAE=2FA5 FAF=2FA7 FB0=2FA9 FB1=2FAB FB2=2FAD FB3=2FB0 FB4=2FB2 FB5=2FB4 FB6=2FB6 FB7=2FB8
FB8=2FBA FBA=2FA3.2 FBB=2FAB.2 FBC=2FAD.2 FBE-FC5=3D6 FC6= FC7-FCC=3DE FCE-FCF=3E4 FD0-FD1=245
FD2-FD4=24F FD5-FD8=3E6 FD9-FDA=252 1000=3219 1001=321B 1002=321D 1003=3221 1004=3224 1005=3226
1006=3229 1007=322D 1008=3232 1009=3239 100A-100B=323D 100C=3240 100D=3242 100E=3245 100F=3248
1010-1012=324C 1013=3251 1014=3254 1015-1016=3258 1017=325F 1018=3262 1019=3265 101A=3267 101B=3269
101C=326D 101D=326F 101E=3276 101F=3278 1020=327E 1021-1025=3285 1027-102A=328F 102B=3293,20
102C=3293 102D=3297 102E=3299 102F=329B 1030=329E 1031=32A3 1032=32A7 1033=329A 1034=32AA 1035=32A5
1036=.AE 1037=.D2 1038=.AF 1039-103A=32AF 103B=3268 103C=326C 103D=3270 103E=327B
103F=3276,20;32AF,20;3276,20 1040-1049=1EB6 104A-104B=A7 104C-104F=269 1050-1051=3273
1052-1055=328B 1056-1059=329F 105A=3225 105B=3233 105C-105D=3280 105E=3257 105F=3266 1060=326E
1061=3237 1062=32AB 1063-1064=32B1 1065=3275 1066=3284 1067-1068=32AC 1069-106D=32B3 106E=3249
106F-1070=3282 1071=3298 1072=3295 1073-1074=329C 1075=321A 1076=321C 1077=321E 1078=3227 1079=3230
107A=323A 107B=324F 107C=3255 107D-107E=325A 107F=3260 1080=3272 1081=3279 1082=3271 1083=3294
1084=32A4 1085=32A6 1086=32A9 1087=32B8 1088=32BA 1089-108A=32BD 108B=32B9 108C-108D=32BB 108E=325D
108F=32BF 1090-1099=1EB6 109A-109B=32C0 109C=3296 109D=32A8 109E-109F=3EC 10A0=21D3,20u
10A1=21D5,20u 10A2=21D7,20u 10A3=21D9,20u 10A4=21DB,20u 10A5=21DD,20u 10A6=21DF,20u 10A7=21E3,20u
10A8=21E5,20u 10A9=21E7,20u 10AA=21E9,20u 10AB=21EB,20u 10AC=21ED,20u 10AD=21F1,20u 10AE=21F3,20u
10AF=21F5,20u 10B0=21F7,20u 10B1=21F9,20u 10B2=21FB,20u 10B3=21FF,20u 10B4=2201,20u 10B5=2203,20u
10B6=2205,20u 10B7=2207,20u 10B8=2209,20u 10B9=220B,20u 10BA=220D,20u 10BB=220F,20u 10BC=2211,20u
10BD=2213,20u 10BE=2215,20u 10BF=2219,20u 10C0=221B,20u 10C1=21E1,20u 10C2=21EF,20u 10C3=21FD,20u
10C4=2217,20u 10C5=221D,20u 10C7=2220,20u 10CD=2225,20u 10D0=21D2 10D1=21D4 10D2=21D6 10D3=21D8
10D4=21DA 10D5=21DC 10D6=21DE 10D7=21E2 10D8=21E4 10D9=21E6 10DA=21E8 10DB=21EA 10DC=21EC 10DD=21F0
10DE=21F2 10DF=21F4 10E0=21F6 10E1=21F8 10E2=21FA 10E3=21FE 10E4=2200 10E5=2202 10E6=2204 10E7=2206
10E8=2208 10E9=220A 10EA=220C 10EB=220E 10EC=2210 10ED=2212 10EE=2214 10EF=2218 10F0=221A 10F1=21E0
10F2=21EE 10F3=21FC 10F4=2216 10F5=221C 10F6-10F7=221E 10F8-10FA=2221 10FB=D8 10FC=21EC,2E
10FD=2224 10FE-10FF=2226 1100-115E=3E88 115F-11A7=3F04 11A8-11FF=3F64 1200-120F=2458 1210-121F=2469
1220-122F=2480 1230-1237=2491 1238-123F=24A0 1240-1248=24A9 124A-124B=24B3 124C=24B6 124D=24B8
1250-1256=24B9 1258=24C0 125A-125D=24C1 1260-1267=24C5 1268-1277=24D4 1278-127F=24E5 1280-1288=24EE
128A-128D=24F7 1290-1297=24FB 1298-129F=2504 12A0-12A7=250D 12A8-12B0=2516 12B2-12B3=2520 12B4=2523
12B5=2525 12B8-12BE=2526 12C0=252E 12C2-12C3=2530 12C4=2533 12C5=2535 12C8-12D6=2536 12D8-12DF=2545
12E0-12F7=2554 12F8-12FF=2573 1300-1307=257C 1308-1310=2585 1312-1313=258F 1314=2592 1315=2594
1318-131F=2595 1320-1327=25A1 1328-132F=25AA 1330-1337=25BA 1338-133F=25C3 1340-134F=25D2
1350-1357=25E8 1358-135A=25F7 135D=.9F 135E=.9E 135F=.9D 1360=D9 1361=5C 1362=89 1363-1366=5D
1367=79 1368=DA 1369-1371=1EB7 1372-137C=1CF7 1380=2479 1381=247B 1382-1383=247D 1384=24CD
1385=24CF 1386-1387=24D1 1388=25E2 1389=25E4 138A-138B=25E6 138C=25F0 138D=25F2 138E-138F=25F4
1390-1399=32B 13A0=35D4,20u 13A1=35D5,20u 13A2=35D6,20u 13A3=35D7,20u 13A4=35D8,20u 13A5=35D9,20u
13A6=35DA,20u 13A7=35DB,20u 13A8=35DC,20u 13A9=35DD,20u 13AA=35DE,20u 13AB=35DF,20u 13AC=35E0,20u
13AD=35E1,20u 13AE=35E2,20u 13AF=35E3,20u 13B0=35E4,20u 13B1=35E5,20u 13B2=35E6,20u 13B3=35E7,20u
13B4=35E8,20u 13B5=35E9,20u 13B6=35EA,20u 13B7=35EB,20u 13B8=35EC,20u 13B9=35ED,20u 13BA=35EE,20u
13BB=35EF,20u 13BC=35F0,20u 13BD=35F1,20u 13BE=35F2,20u 13BF=35F3,20u 13C0=35F4,20u 13C1=35F5,20u
13C2=35F6,20u 13C3=35F7,20u 13C4=35F8,20u 13C5=35F9,20u 13C6=35FA,20u 13C7=35FB,20u 13C8=35FC,20u
13C9=35FD,20u 13CA=35FE,20u 13CB=35FF,20u 13CC=3600,20u 13CD=3601,20u 13CE=3602,20u 13CF=3603,20u
13D0=3604,20u 13D1=3605,20u 13D2=3606,20u 13D3=3607,20u 13D4=3608,20u 13D5=3609,20u 13D6=360A,20u
13D7=360B,20u 13D8=360C,20u 13D9=360D,20u 13DA=360E,20u 13DB=360F,20u 13DC=3610,20u 13DD=3611,20u
13DE=3612,20u 13DF=3613,20u 13E0=3614,20u 13E1=3615,20u 13E2=3616,20u 13E3=3617,20u 13E4=3618,20u
13E5=3619,20u 13E6=361A,20u 13E7=361B,20u 13E8=361C,20u 13E9=361D,20u 13EA=361E,20u 13EB=361F,20u
13EC=3620,20u 13ED=3621,20u 13EE=3622,20u 13EF=3623,20u 13F0=3624,20u 13F1=3625,20u 13F2=3626,20u
13F3=3627,20u 13F4=3628,20u 13F5=3629,20u 13F8-13FD=3624 1400=12 1401-157B=3650 157C=37FD 157D=37CB
157E-158D=37CD 158E-1595=37DE 1596-15A6=37EC 15A7-166C=37FE 166D=3EA 166E=8C 166F=37CC 1670=37DD
1671-1676=37E6 1677-167F=38C4 1680=B,18 1681-169A=3924 169B-169C=14E 16A0=393F 16A1=393F.2
16A2=3940 16A3=3964 16A4=3940.2 16A5=3940.7 16A6=3941 16A7=3941.2 16A8=3942 16A9=3942.2 16AA=3960
16AB=3962 16AC=3942.4 16AD=3942.7 16AE=3942.A 16AF-16B2=3944 16B3=3947.2 16B4=3947.4 16B5=3947.7
16B6=3947.A 16B7=3949 16B8=3967 16B9-16BA=394A 16BB=394B.2 16BC=394B.5 16BD=394B.9 16BE=394C
16BF=394C.2 16C0=394C.7 16C1=394D 16C2=394D.2 16C3=394F 16C4=394F.2 16C5=3950 16C6=3950.2
16C7-16CA=3951 16CB=3954.2 16CC=3954.6 16CD=3954.8 16CE=3954.A 16CF=3956 16D0=3956.2 16D1=3956.7
16D2=3957 16D3=3957.2 16D4=3957.7 16D5=3952.2 16D6=3958 16D7=395A 16D8=395A.2 16D9=395A.7 16DA=395B
16DB=395B.2 16DC=395C 16DD=395C.2 16DE-16DF=395D 16E0=3965 16E1-16E2=3969 16E3=3966 16E4=3968
16E5-16E6=396B 16E7=396C.2 16E8=396C.7 16E9=394A.2 16EA=3954.3 16EB-16ED=67 16EE=3950,20;395B,20
16EF=395A.2;395A.2 16F0=3941,20;3941,20 16F1=3948 16F2=3955 16F3=395F 16F4=3943 16F5=394E 16F6=3959
16F7=3961 16F8=3963 1700-170D=3127 170E-1715=3136 171F=3135 1720-1734=313F 1735-1736=A4
1740-1753=3155 1760-176C=316A 176E-1770=3177 1772-1773=317A 1780-17A2=3325 17A3-17B3=3349
17B4~17B5= 17B6-17C5=335A 17C6=.AE 17C7=.AF 17C8=.D3 17C9=.D4 17CA=.D5 17CB~17D1=.1D 17D2=336A
17D3= 17D4-17D5=A9 17D6=64 17D7=1C6B 17D8-17DA=26D 17DB=1C97 17DC=3348 17DD=.1D 17E0-17E9=1EB6
17F0-17F9=1EB6 1800=216 1801=85 1802=34 1803=8A 1804-1805=61 1806-1807=14 1808=35 1809=8B
180A~180F= 1810-1819=1EB6 1820=3532 1821=3534 1822=3537 1823=353D 1824=353F 1825=3542 1826=3544
1827-1829=3547 182A=354E 182B=3550 182C=3553 182D=3555 182E=355A 182F-1831=355C 1832=3565 1833=3568
1834=356B 1835=3571 1836=3575 1837=3578 1838=357A 1839=357C 183A=357F 183B-183C=3584 183D=3588
183E=358C 183F-1842=358F 1843=3531 1844=3535 1845=3538 1846=353E 1847=3540 1848=3543 1849=3545
184A=354A 184B=354F 184C=3551 184D=3554 184E=3556 184F=355B 1850=3566 1851=3569 1852=356C 1853=3572
1854=3586 1855=3576 1856=357B 1857=3580 1858=358A 1859=358D 185A-185B=3593 185C=356F 185D=3536
185E=3539 185F=353C 1860=3546 1861=3541 1862=354B 1863=3581 1864=3557 1865=3559 1866=3552 1867=355F
1868=3567 1869=356A 186A=3573 186B=357D 186C=358B 186D=358E 186E=3587 186F=3589 1870=3595 1871=356D
1872=3577 1873=353A 1874=3582 1875=3579 1876=357E 1877=3574 1878=356E 1880-1886=352A 1887=3533
1888=353B 1889=3583 188A=354C 188B=3570 188C=3596 188D-188E=3598 188F-1890=359B 1891=359F
1892-1893=35A1 1894=35A4 1895=35A6 1896-1897=35A8 1898=359D 1899=35A7 189A=3558 189B=354D
189C-189D=3560 189E=3597 189F=359A 18A0=359E 18A1=35A0 18A2=3562 18A3=35A5 18A4-18A5=3563
18A6-18A7=35AA 18A8=35A3 18A9=35AD 18AA=35AC 18B0-18F5=38CD 1900-191C=30F4 191D=30FC,20;311A,20
191E=30FF,20;311B,20 1920-192B=3111 1930-1938=311D 1939=.DE 193A=.DF 193B=.E0 1940=3EB 1944=70
1945=7A 1946-194F=1EB6 1950-196D=336C 1970-1974=338A 1980-19AB=3390 19B0-19C9=33BC 19D0-19D9=1EB6
19DA=1EB7 19DE=33AC,20;33C2,20 19DF=33AC,20;33C2,20;33CD,20 19E0-19FF=3F2 1A00-1A1B=317D
1A1E-1A1F=DB 1A20-1A4C=33D7 1A4D-1A52=340C 1A53=3404 1A54=33FD,20;3423,20;33FD,20 1A55-1A57=3406
1A58~1A59=33DD,20 1A5A~1A5B=33F2,20 1A5C-1A5E=3409 1A60=3423 1A61=3412 1A62-1A63=3414 1A64=3415,20
1A65-1A6A=3416 1A6B=3405 1A6C=3413 1A6D=3422 1A6E-1A6F=341C 1A70-1A72=341F 1A73=341E 1A74=.AE
1A75=.D6 1A76=.D7 1A77=.D8 1A78=.D9 1A79=.DA 1A7A=.DB 1A7B=.DC 1A7C=.DD 1A7F= 1A80-1A89=1EB6
1A90-1A99=1EB6 1AA0-1AA6=270 1AA7=1C6C 1AA8-1AAB=AB 1AAC-1AAD=277 1AB0~1AB4=.1D 1AB5~1ABA=.1E
1ABB~1ABC=.1D 1ABD=.1E 1ABE=.20 1ABF=2018,14 1AC0=201B,20 1AC1~1AC2=.1D 1AC3~1AC4=.1E 1AC5~1AC9=.1D
1ACA=.1E 1ACB=.1D 1ACC=1F12.2 1ACD=1FB3.2 1ACE=1FE9.7 1B00~1B01=.AD 1B02=.AE 1B03=.B3 1B04=.AF
1B05=346B 1B07=346D 1B09=346F 1B0B=3471 1B0D=3473 1B0F-1B11=3475 1B13=3479 1B14-1B22=347C
1B23-1B27=348C 1B28-1B2F=3492 1B30-1B32=349B 1B33=34A0 1B34=.AC 1B35-1B3A=34A1 1B3C=34A8
1B3E-1B3F=34AA 1B42=34AE 1B44=34B0 1B45-1B46=347A 1B47=348B 1B48=3491 1B49=349A 1B4A-1B4B=349E
1B4C=3482,20;34B0,20;3484,20 1B50-1B59=1EB6 1B5A-1B5B=DD 1B5C=8D 1B5D=65 1B5E-1B5F=AF 1B60=13
1B61-1B6A=412 1B6B~1B73= 1B74-1B7C=41C 1B7D-1B7E=DF 1B80=.AE 1B81=.B5 1B82=.AF 1B83-1B8A=2DC7
1B8B-1B98=2DD0 1B99=2DDF 1B9A=2DE1 1B9B=2DE3 1B9C=2DE6 1B9D=2DE9 1B9E-1B9F=2DEB 1BA0=2DEE 1BA1=2DE2
1BA2=2DE4 1BA3=2DE7 1BA4-1BAB=2DEF 1BAC=2DE0 1BAD=2DEA 1BAE=2DCF 1BAF=2DED 1BB0-1BB9=1EB6
1BBA=2DC7,20 1BBB=2DE5 1BBC=2DE8 1BBD=2DDE 1BBE=2DCE,20 1BBF=2DDF,20 1BC0=31B2 1BC1=31B2,20
1BC2=31B3 1BC3~1BC4=31B3,20 1BC5=31B4 1BC6=31B4,20 1BC7=31B5 1BC8=31B5,20 1BC9=31B6 1BCA=31B6,20
1BCB=31B7 1BCC~1BCD=31B7,20 1BCE=31B8 1BCF=31B8,20 1BD0-1BD2=31B9 1BD3=31BB,20 1BD4=31BC
1BD5=31BC,20 1BD6=31BD 1BD7=31BD,20 1BD8=31BE 1BD9~1BDA=31BE,20 1BDB=31BF 1BDC=31BF,20
1BDD-1BDE=31C0 1BDF=31C1,20 1BE0-1BE5=31C2 1BE6=.AC 1BE7=31C8 1BE8=31C8,20 1BE9-1BEA=31C9
1BEB=31CA,20 1BEC=31CB 1BED=31CB,20 1BEE=31CC 1BEF=31CC,20 1BF0-1BF3=31CD 1BFC-1BFF=284
1C00-1C09=3084 1C0A-1C1A=3091 1C1B=30A3 1C1C-1C23=30A5 1C24=30A2 1C25=30A4 1C26-1C35=30AE 1C36=30AD
1C37=.AC 1C3B-1C3C=A0 1C3D-1C3F=266 1C40-1C49=1EB6 1C4D-1C4F=308E 1C50-1C59=1EB6 1C5A-1C7D=35AF
1C7E-1C7F=D3 1C80=20E0,10 1C81=20E6,10 1C82=2123,10 1C83=212C,10 1C84~1C85=212F,10 1C86=215C,10
1C87=2161,20 1C88=2138,20 1C90=21D2,20u 1C91=21D4,20u 1C92=21D6,20u 1C93=21D8,20u 1C94=21DA,20u
1C95=21DC,20u 1C96=21DE,20u 1C97=21E2,20u 1C98=21E4,20u 1C99=21E6,20u 1C9A=21E8,20u 1C9B=21EA,20u
1C9C=21EC,20u 1C9D=21F0,20u 1C9E=21F2,20u 1C9F=21F4,20u 1CA0=21F6,20u 1CA1=21F8,20u 1CA2=21FA,20u
1CA3=21FE,20u 1CA4=2200,20u 1CA5=2202,20u 1CA6=2204,20u 1CA7=2206,20u 1CA8=2208,20u 1CA9=220A,20u
1CAA=220C,20u 1CAB=220E,20u 1CAC=2210,20u 1CAD=2212,20u 1CAE=2214,20u 1CAF=2218,20u 1CB0=221A,20u
1CB1=21E0,20u 1CB2=21EE,20u 1CB3=21FC,20u 1CB4=2216,20u 1CB5=221C,20u 1CB6=221E,20u 1CB7=221F,20u
1CB8=2221,20u 1CB9=2222,20u 1CBA=2223,20u 1CBD=2224,20u 1CBE=2226,20u 1CBF=2227,20u 1CC0-1CC7=279
1CD0~1CE8= 1CE9=2681 1CEA~1CEC=2681,20 1CED=.AE 1CEE~1CF1=2681,20 1CF2~1CF3=.AF 1CF4=
1CF5-1CF6=2682 1CF7~1CF9= 1CFA=2681,20 1D00=1EC2 1D01-1D02=1EC6 1D03=1ED3 1D04=1EDB 1D05-1D06=1EE5
1D07=1EF3 1D08=1F04 1D09=1F32 1D0A=1F3C 1D0B=1F42 1D0C=1F4F 1D0D=1F68 1D0E=1F73 1D0F=1F83 1D10=1F91
1D11=1F84 1D12=1F92 1D13=1F8D 1D14=1F87 1D15=1F9F 1D16-1D17=1F97 1D18=1FA1 1D19=1FB7 1D1A=1FBB
1D1B=1FEA 1D1C=1FF8 1D1D-1D1E=1FFA 1D1F=200B 1D20=2010 1D21=2019 1D22=202D 1D23=2038 1D24-1D25=205F
1D26=2074 1D27=2082 1D28=2088 1D29=208D 1D2A=2098 1D2B=210E 1D2C=1EC1,34u 1D2D=1EC1.2,2E;1EF2,2B
1D2E=1ECF,31u 1D2F=1ED2 1D30=1EE4,31u 1D31=1EF2,34u 1D32=1EFA,2Eu 1D33=1F12,31u 1D34=1F21,34u
1D35=1F2D,34u 1D36=1F3A,31u 1D37=1F41,34u 1D38=1F4C,34u 1D39=1F67,34u 1D3A=1F70,34u 1D3B=1F72
1D3C=1F82,34u 1D3D=1F9E,2Eu 1D3E=1FA0,34u 1D3F=1FB3,34u 1D40=1FE9,34u 1D41=1FF7,31u 1D42=2018,38u
1D43=1EC1,2B 1D44=1EC9,2E 1D45=1ECA,2C 1D46=1EC7,20 1D47=1ECF,2B 1D48=1EE4,2B 1D49=1EF2,2B
1D4A=1EFC,26 1D4B=1EFE,2C 1D4C=1F04,20 1D4D=1F12,2B 1D4E=1F32,20 1D4F=1F41,2B 1D50=1F67,2B
1D51=1F7E,2C 1D52=1F82,2B 1D53=1F90,2E 1D54=1F97,20 1D55=1F98,20 1D56=1FA0,2B 1D57=1FE9,2B
1D58=1FF7,2B 1D59=1FFA,20 1D5A=2009,2E 1D5B=200F,2B 1D5C=2060,20 1D5D=2072,2C 1D5E=2073,28
1D5F=2075,31 1D60=2095,2C 1D61=2096,28 1D62=1F2D,2E 1D63=1FB3,2E 1D64=1FF7,2E 1D65=200F,2E
1D66=2072,33 1D67=2073,30 1D68=208C,30 1D69=2095,33 1D6A=2096,30 1D6B=1FFC 1D6C=1ED4 1D6D=1EE8
1D6E=1F0D 1D6F=1F69 1D70=1F74 1D71=1FA4 1D72=1FB9 1D73=1FC6 1D74=1FD7 1D75=1FED 1D76=202F 1D77=1F1C
1D78=211A,2C 1D79=1F12.2 1D7A=1FE9.2;1F21,13 1D7B=1F34 1D7C=1F39 1D7D=1FA2 1D7E=2002 1D7F=200E
1D80=1ED6 1D81=1EE9 1D82=1F0E 1D83=1F19 1D84=1F43 1D85=1F5A 1D86=1F6A 1D87=1F78 1D88=1FA5 1D89=1FC0
1D8A=1FD8 1D8B=1FE2 1D8C=2012 1D8D=201D 1D8E=2030 1D8F=1EC4 1D90=1ECC 1D91=1EED 1D92=1EF7 1D93=1EFF
1D94=1F03 1D95=1EFD 1D96=1F36 1D97=1F94 1D98=1FE3 1D99=2003 1D9A=203B 1D9B=1ECD,2E 1D9C=1EDA,2B
1D9D=1EE1,2E 1D9E=1EE4.2,2E 1D9F=1F02,2E 1DA0=1F09,2B 1DA1=1F3F,20 1DA2=1F14,2E 1DA3=2006,2E
1DA4=1F33,2E 1DA5=1F38,2E 1DA6=1F2F,2E 1DA7=1F34,20 1DA8=1F3E,2E 1DA9=1F5B,20 1DAA=1F5A,20
1DAB=1F4D,2E 1DAC=1F6B,2E 1DAD=200C,20 1DAE=1F75,2E 1DAF=1F79,20 1DB0=1F71,2E 1DB1=1F9A,2E
1DB2=1FAA,20 1DB3=1FD9,2C 1DB4=1FE0,2C 1DB5=1FEE,20 1DB6=1FFF,2E 1DB7=200D,2E 1DB8=1FF8,20
1DB9=2013,2E 1DBA=2017,2E 1DBB=202C,2B 1DBC=2032,2E 1DBD=2033,2E 1DBE=2037,2C 1DBF=207D,33
1DC0~1DC1=.1D 1DC2=.1E 1DC3~1DC9=.1D 1DCA=1FB3,13 1DCB~1DCE=.1D 1DCF~1DD0=.1E 1DD1=.1D 1DD2=204A,10
1DD3=1EC1.2 1DD4=1EC1.2;1EF2,13 1DD5=1EC1,13;1F82,13 1DD6=1EC1,13;200F,13 1DD7=1EDA,13;.1A,20
1DD8=1EE4.7 1DD9=1EE4.2 1DDA=1F12,13 1DDB=1F17,20 1DDC=1F41,13 1DDD=1F4C,13 1DDE=1F4D,20
1DDF=1F68,20 1DE0=1F70,13 1DE1=1F71,20 1DE2=1FB5,10 1DE3=1FB3.7 1DE4=1FD4,13 1DE5=1FD4.4
1DE6=202C,13 1DE7=1ECA,10 1DE8=1ECF,13 1DE9=1ED9,20 1DEA=1EFC,10 1DEB=1F09,13 1DEC=1F54,20
1DED=1F82,13;.1E,20 1DEE=1FA0,13 1DEF=1FE0,10 1DF0=1FF7,13;.1E,20 1DF1=2018,14 1DF2=1EC1,13;.15,20
1DF3=1F82,13;.15,20 1DF4=1FF7,13;.15,20 1DF5~1DF8=.1D 1DF9~1DFA=.1E 1DFB=.1D 1DFC~1DFD=.1E 1DFE=.1D
1DFF=.1E 1E9A=1EC1,13;2058,20 1E9C-1E9D=1FDE 1E9E=1FD4.2,20u;1FD4,22u 1E9F=1EF1
1EFA=1F4C,22u;1F4C,22u 1EFB=1F4C,13;1F4C,13 1EFC=2016,20u 1EFD=2016 1EFE=2029,20u 1EFF=2029
1FBD=2F1 1FBF=2F1 1FC0=2F3 1FFE=2F2"

end Collation

end StyleHost
