/-!
# Root order of the characters from U+2000 to U+FFFF

* `upperCharacters` : the words of this part of the root table for `Collation.root`.
-/

namespace StyleHost

namespace Collation

/-- The elements of symbols and of the scripts of East Asia. -/
def upperCharacters : String :=
"2002~2006=B,18 2007=B,28 2008~200A=B,18 200B~200F= 2010=16 2011=16,20 2012-2015=17 2016=1B8 2017=F
2018-201B=133 201C-201F=13A 2020-2021=1D7 2022-2023=1DD 2024=84,18 2025=84,18;84,18
2026=84,18;84,18;84,18 2027=1DF 2028-2029=9 202A~202E= 202F=B,28 2030=1D3 2031=1D5 2032=1E3
2033=1E3,20;1E3,20 2034=1E3,20;1E3,20;1E3,20 2035=1E4 2036=1E4,20;1E4,20 2037=1E4,20;1E4,20;1E4,20
2038=1E7 2039-203A=137 203B=1E8 203C=6B,18;6B,18 203D=82 203E=D 203F=1E9 2040=1EB 2041-2042=1ED
2043=1E0 2044=4C9 2045-2046=150 2047=72,1B;72,1B 2048=72,1B;6B,18 2049=6B,18;72,1B 204A=1CE
204B=1C1 204C-204D=1E1 204E=1C6 204F=40 2050=1EC 2051=1C7 2052=4C5 2053=1D 2054=1EA 2055-2056=113
2057=1E3,20;1E3,20;1E3,20;1E3,20 2058-205E=115 205F=B,18 2060~2064= 2066~206F= 2070=1EB6,24
2071=1F2D,2B 2074=1EBA,24 2075=1EBB,24 2076=1EBC,24 2077=1EBD,24 2078=1EBE,24 2079=1EBF,28
207A=4B9,28 207B=4C4,20 207C=4BE,28 207D=144,25 207E=145,25 207F=1F70,2B 2080=1EB6,29 2081=1EB7,29
2082=1EB8,29 2083=1EB9,29 2084=1EBA,29 2085=1EBB,29 2086=1EBC,29 2087=1EBD,29 2088=1EBE,29
2089=1EBF,2E 208A=4B9,30 208B=4C4,2E 208C=4BE,30 208D=144,2C 208E=145,2C 2090=1EC1,2E 2091=1EF2,2E
2092=1F82,2E 2093=201C,2E 2094=1EFC,31 2095=1F21,2E 2096=1F41,2E 2097=1F4C,2E 2098=1F67,2E
2099=1F70,2E 209A=1FA0,2E 209B=1FD4,2E 209C=1FE9,2E 20A0-20A6=1C99 20A7-20A8=1CBA 20A9-20B9=1CA0
20BA-20C0=1CB2 20D0=.F8 20D1=.F9 20D2~20D3=.FA 20D4=.FB 20D5=.FC 20D6=.FD 20D7=.FE 20D8~20DA=.1F
20DB=.FF 20DC=.100 20DD~20E0=.20 20E1=.101 20E2~20E4=.20 20E5=.1F 20E6=.102 20E7=.103 20E8=.104
20E9=.105 20EA~20EB=.1F 20EC~20EF=.1E 20F0=.1D 2100=1EC1,13;1CA,2E;1EDA,13
2101=1EC1,13;1CA,2E;1FD4,13 2102=1EDA,25u 2103=368,20;1EDA,22u 2104=429 2105=1EDA,13;1CA,2E;1F82,13
2106=1EDA,13;1CA,2E;1FF7,13 2107=1EFE,1Eu 2108=42A 2109=368,20;1F09,22u 210A=1F12,16
210B~210D=1F21,25u 210E=1F21,16 210F=1F21;.23 2110~2111=1F2D,25u 2112=1F4C,25u 2113=1F4C,16
2114=42B 2115=1F70,25u 2116=1F70,22u;1F82,13 2117-2118=42C 2119=1FA0,25u 211A=1FAC,25u
211B~211D=1FB3,25u 211E-211F=42E 2120=1FD4,2B;1F67,2B 2121=1FE9,22u;1EF2,22u;1F4C,22u
2122=1FE9,2B;1F67,2B 2123=430 2124=202C,25u 2125=431 2127=432 2128=202C,25u 2129=433 212C=1ECF,25u
212D=1EDA,25u 212E=434 212F=1EF2,16 2130=1EF2,25u 2131=1F09,25u 2132=1F10,20u 2133=1F67,25u
2134=1F82,16 2135=2253,20 2136=2254,20 2137=2255,20 2138=2256,20 2139=1F2D,16 213A=435
213B=1F09,22u;1EC1,22u;201C,22u 213C=2087,1B 213D=2073,10 213E=2073,20u 213F=2087,31u 2140=4B8,20
2141-2144=436 2145=1EE4,25u 2146=1EE4,16 2147=1EF2,16 2148=1F2D,16 2149=1F3A,16 214A=43A 214B=554
214C=43B 214D=1EC1,22u;1CA,2E;1FD4,22u 214E=1F10 214F=43C 2150=1EB7,33;4C9,20;1EBD,33
2151=1EB7,33;4C9,20;1EBF,34 2152=1EB7,33;4C9,20;1EB7,33;1EB6,33 2153=1EB7,33;4C9,20;1EB9,33
2154=1EB8,33;4C9,20;1EB9,33 2155=1EB7,33;4C9,20;1EBB,33 2156=1EB8,33;4C9,20;1EBB,33
2157=1EB9,33;4C9,20;1EBB,33 2158=1EBA,33;4C9,20;1EBB,33 2159=1EB7,33;4C9,20;1EBC,33
215A=1EBB,33;4C9,20;1EBC,33 215B=1EB7,33;4C9,20;1EBE,33 215C=1EB9,33;4C9,20;1EBE,33
215D=1EBB,33;4C9,20;1EBE,33 215E=1EBD,33;4C9,20;1EBE,33 215F=1EB7,33;4C9,20 2160=1F2D,22u
2161=1F2D,22u;1F2D,22u 2162=1F2D,22u;1F2D,22u;1F2D,22u 2163=1F2D,22u;200F,22u 2164=200F,22u
2165=200F,22u;1F2D,22u 2166=200F,22u;1F2D,22u;1F2D,22u 2167=200F,22u;1F2D,22u;1F2D,22u;1F2D,22u
2168=1F2D,22u;201C,22u 2169=201C,22u 216A=201C,22u;1F2D,22u 216B=201C,22u;1F2D,22u;1F2D,22u
216C=1F4C,22u 216D=1EDA,22u 216E=1EE4,22u 216F=1F67,22u 2170=1F2D,13 2171=1F2D,13;1F2D,13
2172=1F2D,13;1F2D,13;1F2D,13 2173=1F2D,13;200F,13 2174=200F,13 2175=200F,13;1F2D,13
2176=200F,13;1F2D,13;1F2D,13 2177=200F,13;1F2D,13;1F2D,13;1F2D,13 2178=1F2D,13;201C,13 2179=201C,13
217A=201C,13;1F2D,13 217B=201C,13;1F2D,13;1F2D,13 217C=1F4C,13 217D=1EDA,13 217E=1EE4,13
217F=1F67,13 2180-2182=1D02 2183=1EE2,20u 2184=1EE2 2185=1EBC 2186-2188=1D05
2189=1EB6,33;4C9,20;1EB9,33 218A-218B=43D 2190=43F 2191=441 2192=440 2193-2199=442 219C-21AD=449
21AF-21CC=45B 21D0-2203=479 2205-2208=4AD 220A-220B=4B1 220D=4B3 220E-2211=4B5 2212=4C4
2213-2215=4C6 2216-221B=4CA 221C=4D1 221D-2223=4D3 2225=4DA 2227-222B=4DB 222C=4DF,20;4DF,20
222D=4DF,20;4DF,20;4DF,20 222E=4E0 222F=4E0,20;4E0,20 2230=4E0,20;4E0,20;4E0,20 2231-2240=4E1
2242-2243=4F1 2245-2246=4F3 2248=4F5 224A-225F=4F6 2261=50C 2263-226C=50D 2272-2273=517
2276-2277=519 227A-227F=51B 2282-2283=521 2286-2287=523 228A-22AB=525 22B0-22BC=547 22BD-22DF=555
22E4-22E9=578 22EE-2307=57E 2308-230B=152 230C-2328=598 232B-2426=5B5 2440-244A=6B1 2460=1EB7,1F
2461=1EB8,1F 2462=1EB9,1F 2463=1EBA,1F 2464=1EBB,1F 2465=1EBC,1F 2466=1EBD,1F 2467=1EBE,1F
2468=1EBF,22 2469=1EB7,1F;1EB6,1F 246A=1EB7,1F;1EB7,1F 246B=1EB7,1F;1EB8,1F 246C=1EB7,1F;1EB9,1F
246D=1EB7,1F;1EBA,1F 246E=1EB7,1F;1EBB,1F 246F=1EB7,1F;1EBC,1F 2470=1EB7,1F;1EBD,1F
2471=1EB7,1F;1EBE,1F 2472=1EB7,1F;1EBF,22 2473=1EB8,1F;1EB6,1F 2474=144,17;1EB7,15;145,17
2475=144,17;1EB8,15;145,17 2476=144,17;1EB9,15;145,17 2477=144,17;1EBA,15;145,17
2478=144,17;1EBB,15;145,17 2479=144,17;1EBC,15;145,17 247A=144,17;1EBD,15;145,17
247B=144,17;1EBE,15;145,17 247C=144,17;1EBF,16;145,17 247D=144,17;1EB7,15;1EB6,15;145,17
247E=144,17;1EB7,15;1EB7,15;145,17 247F=144,17;1EB7,15;1EB8,15;145,17
2480=144,17;1EB7,15;1EB9,15;145,17 2481=144,17;1EB7,15;1EBA,15;145,17
2482=144,17;1EB7,15;1EBB,15;145,17 2483=144,17;1EB7,15;1EBC,15;145,17
2484=144,17;1EB7,15;1EBD,15;145,17 2485=144,17;1EB7,15;1EBE,15;145,17
2486=144,17;1EB7,15;1EBF,16;145,17 2487=144,17;1EB8,15;1EB6,15;145,17 2488=1EB7,15;84,18
2489=1EB8,15;84,18 248A=1EB9,15;84,18 248B=1EBA,15;84,18 248C=1EBB,15;84,18 248D=1EBC,15;84,18
248E=1EBD,15;84,18 248F=1EBE,15;84,18 2490=1EBF,16;84,18 2491=1EB7,15;1EB6,15;84,18
2492=1EB7,15;1EB7,15;84,18 2493=1EB7,15;1EB8,15;84,18 2494=1EB7,15;1EB9,15;84,18
2495=1EB7,15;1EBA,15;84,18 2496=1EB7,15;1EBB,15;84,18 2497=1EB7,15;1EBC,15;84,18
2498=1EB7,15;1EBD,15;84,18 2499=1EB7,15;1EBE,15;84,18 249A=1EB7,15;1EBF,16;84,18
249B=1EB8,15;1EB6,15;84,18 249C=144,17;1EC1,13;145,17 249D=144,17;1ECF,13;145,17
249E=144,17;1EDA,13;145,17 249F=144,17;1EE4,13;145,17 24A0=144,17;1EF2,13;145,17
24A1=144,17;1F09,13;145,17 24A2=144,17;1F12,13;145,17 24A3=144,17;1F21,13;145,17
24A4=144,17;1F2D,13;145,17 24A5=144,17;1F3A,13;145,17 24A6=144,17;1F41,13;145,17
24A7=144,17;1F4C,13;145,17 24A8=144,17;1F67,13;145,17 24A9=144,17;1F70,13;145,17
24AA=144,17;1F82,13;145,17 24AB=144,17;1FA0,13;145,17 24AC=144,17;1FAC,13;145,17
24AD=144,17;1FB3,13;145,17 24AE=144,17;1FD4,13;145,17 24AF=144,17;1FE9,13;145,17
24B0=144,17;1FF7,13;145,17 24B1=144,17;200F,13;145,17 24B2=144,17;2018,14;145,17
24B3=144,17;201C,13;145,17 24B4=144,17;2025,13;145,17 24B5=144,17;202C,13;145,17 24B6=1EC1,28u
24B7=1ECF,28u 24B8=1EDA,28u 24B9=1EE4,28u 24BA=1EF2,28u 24BB=1F09,28u 24BC=1F12,28u 24BD=1F21,28u
24BE=1F2D,28u 24BF=1F3A,28u 24C0=1F41,28u 24C1=1F4C,28u 24C2=1F67,28u 24C3=1F70,28u 24C4=1F82,28u
24C5=1FA0,28u 24C6=1FAC,28u 24C7=1FB3,28u 24C8=1FD4,28u 24C9=1FE9,28u 24CA=1FF7,28u 24CB=200F,28u
24CC=2018,30u 24CD=201C,28u 24CE=2025,28u 24CF=202C,28u 24D0=1EC1,19 24D1=1ECF,19 24D2=1EDA,19
24D3=1EE4,19 24D4=1EF2,19 24D5=1F09,19 24D6=1F12,19 24D7=1F21,19 24D8=1F2D,19 24D9=1F3A,19
24DA=1F41,19 24DB=1F4C,19 24DC=1F67,19 24DD=1F70,19 24DE=1F82,19 24DF=1FA0,19 24E0=1FAC,19
24E1=1FB3,19 24E2=1FD4,19 24E3=1FE9,19 24E4=1FF7,19 24E5=200F,19 24E6=2018,1C 24E7=201C,19
24E8=2025,19 24E9=202C,19 24EA=1EB6,1F 24EB=1EB7,1F;1EB7,1F 24EC=1EB7,1F;1EB8,1F
24ED=1EB7,1F;1EB9,1F 24EE=1EB7,1F;1EBA,1F 24EF=1EB7,1F;1EBB,1F 24F0=1EB7,1F;1EBC,1F
24F1=1EB7,1F;1EBD,1F 24F2=1EB7,1F;1EBE,1F 24F3=1EB7,1F;1EBF,22 24F4=1EB8,1F;1EB6,1F 24F5=1EB7,1F
24F6=1EB8,1F 24F7=1EB9,1F 24F8=1EBA,1F 24F9=1EBB,1F 24FA=1EBC,1F 24FB=1EBD,1F 24FC=1EBE,1F
24FD=1EBF,22 24FE=1EB7,1F;1EB6,1F 24FF=1EB6,1F 2500-25FF=6BC 2600-262F=886 2630-2637=E41
2638-266C=8B6 266D-266F=1108 2670-2689=8EB 268A-268F=E3B 2690-26FF=905 2700-2720=98F 2721-2767=9B2
2768-2775=17A 2776=1EB7,1F 2777=1EB8,1F 2778=1EB9,1F 2779=1EBA,1F 277A=1EBB,1F 277B=1EBC,1F
277C=1EBD,1F 277D=1EBE,1F 277E=1EBF,22 277F=1EB7,1F;1EB6,1F 2780=1EB7,1F 2781=1EB8,1F 2782=1EB9,1F
2783=1EBA,1F 2784=1EBB,1F 2785=1EBC,1F 2786=1EBD,1F 2787=1EBE,1F 2788=1EBF,22 2789=1EB7,1F;1EB6,1F
278A=1EB7,1F 278B=1EB8,1F 278C=1EB9,1F 278D=1EBA,1F 278E=1EBB,1F 278F=1EBC,1F 2790=1EBD,1F
2791=1EBE,1F 2792=1EBF,22 2793=1EB7,1F;1EB6,1F 2794-27C4=9F9 27C5-27C6=16E 27C7-27E5=A2A
27E6-27EF=170 27F0-27FF=A49 2800-28FF=D3B 2900-2982=A59 2983-2998=158 2999-29D7=ADC 29D8-29DB=1BA
29DC-29FB=B1B 29FC-29FD=156 29FE-2A0B=B3B 2A0C=4DF,20;4DF,20;4DF,20;4DF,20 2A0D-2A73=B49
2A74=44,1B;44,1B;4BE,18 2A75=4BE,18;4BE,18 2A76=4BE,18;4BE,18;4BE,18 2A77-2ADB=BB0 2ADD-2B73=C15
2B76-2B95=CAC 2B97-2BFF=CCC 2C00=217A,2Eu 2C01=217B,2Eu 2C02=217C,2Eu 2C03=217D,2Eu 2C04=217E,2Eu
2C05=217F,2Eu 2C06=2180,2Eu 2C07=2181,20u 2C08=2182,2Eu 2C09=2183,2Eu 2C0A=2184,2Eu 2C0B=2185,2Eu
2C0C=2186,2Eu 2C0D=2187,2Eu 2C0E=2188,2Eu 2C0F=2189,2Eu 2C10=218A,2Eu 2C11=218B,2Eu 2C12=218C,2Eu
2C13=218D,2Eu 2C14=218E,2Eu 2C15=218F,2Eu 2C16=2190,2Eu 2C17=2191,2Eu 2C18=2192,2Eu 2C19=2193,20u
2C1A=2194,20u 2C1B=2195,2Eu 2C1C=2196,2Eu 2C1D=2197,2Eu 2C1E=2198,2Eu 2C1F=2199,2Eu 2C20=219A,2Eu
2C21=219B,2Eu 2C22=219C,20u 2C23=219D,2Eu 2C24=219E,2Eu 2C25=219F,20u 2C26=21A0,2Eu 2C27=21A1,2Eu
2C28=21A2,2Eu 2C29=21A3,2Eu 2C2A=21A4,2Eu 2C2B=21A5,20u 2C2C=21A6,20u 2C2D=21A7,20u 2C2E=21A8,20u
2C2F=21A9,20u 2C30-2C5F=217A 2C60=1F52,20u 2C61=1F52 2C62=1F53,20u 2C63=1FA2,20u 2C64=1FC2,20u
2C65=1EC3 2C66=1FEC 2C67=1F26,20u 2C68=1F26 2C69=1F45,20u 2C6A=1F45 2C6B=2035,20u 2C6C=2035
2C6D=1ECA,1Eu 2C6E=1F6B,20u 2C6F=1EC9,20u 2C70=1ECD,20u 2C71=2014 2C72=201A,20u 2C73=201A 2C74=2015
2C75=1F27,20u 2C76=1F27 2C77=1FAB 2C78=1EF9 2C79=1FBF 2C7A=1F99 2C7B=1EFB 2C7C=1F3A,2E
2C7D=200F,34u 2C7E=1FDC,20u 2C7F=2034,20u 2C80=209F,2Eu 2C81=209F 2C82=20A0,20u 2C83=20A0
2C84=20A1,20u 2C85=20A1 2C86=20A2,20u 2C87=20A2 2C88=20A3,20u 2C89=20A3 2C8A=20A5,20u 2C8B=20A5
2C8C=20A6,20u 2C8D=20A6 2C8E=20A7,20u 2C8F=20A7 2C90=20A8,20u 2C91=20A8 2C92=20A9,2Eu 2C93=20A9
2C94=20AA,2Eu 2C95=20AA 2C96=20AC,20u 2C97=20AC 2C98=20AD,20u 2C99=20AD 2C9A=20AE,20u 2C9B=20AE
2C9C=20B1,20u 2C9D=20B1 2C9E=20B2,20u 2C9F=20B2 2CA0=20B3,20u 2CA1=20B3 2CA2=20B4,20u 2CA3=20B4
2CA4=20B5,20u 2CA5=20B5 2CA6=20B6,20u 2CA7=20B6 2CA8=20B7,20u 2CA9=20B7 2CAA=20B8,20u 2CAB=20B8
2CAC=20B9,20u 2CAD=20B9 2CAE=20BA,20u 2CAF=20BA 2CB0=20BB,20u 2CB1=20BB 2CB2=20D6,20u 2CB3=20D6
2CB4=20D7,20u 2CB5=20D7 2CB6=20A4,20u 2CB7=20A4 2CB8=20AB,20u 2CB9=20AB 2CBA=20AF,20u 2CBB=20AF
2CBC=20B0,20u 2CBD=20B0 2CBE=20BC,20u 2CBF=20BC 2CC0=20BD,20u 2CC1=20BD 2CC2=20C0,20u 2CC3=20C0
2CC4=20C1,20u 2CC5=20C1 2CC6=20C2,20u 2CC7=20C2 2CC8=20C6,20u 2CC9=20C6 2CCA=20C8,20u 2CCB=20C8
2CCC=20C9,20u 2CCD=20C9 2CCE=20CA,20u 2CCF=20CA 2CD0=20CB,20u 2CD1=20CB 2CD2=20CC,20u 2CD3=20CC
2CD4=20CD,20u 2CD5=20CD 2CD6=20D0,20u 2CD7=20D0 2CD8=20D2,20u 2CD9=20D2 2CDA=20D3,20u 2CDB=20D3
2CDC=20D4,20u 2CDD=20D4 2CDE=20D8,20u 2CDF=20D8 2CE0=20D9,20u 2CE1=20D9 2CE2=20DA,20u 2CE3=20DA
2CE4=20AA,20;209F,20;20A9,20 2CE5-2CEA=D35 2CEB=20BF,20u 2CEC=20BF 2CED=20CF,20u 2CEE=20CF 2CEF=.1D
2CF0=.D 2CF1=.C 2CF2=20C5,20u 2CF3=20C5 2CF9=8E 2CFA-2CFB=7B 2CFC=121 2CFD=1D1E 2CFE=8F 2CFF=122
2D00=21D3 2D01=21D5 2D02=21D7 2D03=21D9 2D04=21DB 2D05=21DD 2D06=21DF 2D07=21E3 2D08=21E5 2D09=21E7
2D0A=21E9 2D0B=21EB 2D0C=21ED 2D0D=21F1 2D0E=21F3 2D0F=21F5 2D10=21F7 2D11=21F9 2D12=21FB 2D13=21FF
2D14=2201 2D15=2203 2D16=2205 2D17=2207 2D18=2209 2D19=220B 2D1A=220D 2D1B=220F 2D1C=2211 2D1D=2213
2D1E=2215 2D1F=2219 2D20=221B 2D21=21E1 2D22=21EF 2D23=21FD 2D24=2217 2D25=221D 2D27=2220 2D2D=2225
2D30-2D3B=241E 2D3C-2D53=242B 2D54-2D65=2444 2D66=242A 2D67=2443 2D6F=2456 2D70=281 2D7F= 2D80=2468
2D81=247F 2D82=2490 2D83=2499 2D84=24A8 2D85=24D3 2D86=24E4 2D87=24ED 2D88=2503 2D89=250C 2D8A=2515
2D8B=254D 2D8C=256C 2D8D=257B 2D8E=2584 2D8F=25A9 2D90=25B2 2D91=25C2 2D92=25F6 2D93-2D96=259D
2DA0-2DA6=25FA 2DA8-2DAE=2601 2DB0-2DB6=2608 2DB8-2DBE=260F 2DC0-2DC6=2616 2DC8-2DCE=261D 2DD0=2625
2DD1=2627 2DD2=2629 2DD3=262B 2DD4=262D 2DD5=262F 2DD6=2631 2DD8-2DDE=2632 2DE0=20DF,10
2DE1=20E0,10 2DE2=20E1,10 2DE3=20E6,10 2DE4=20EF,10 2DE5=20F3,10 2DE6=2105,10 2DE7=210D,10
2DE8=2117,10 2DE9=211A,10 2DEA=2123,10 2DEB=2125,10 2DEC=2129,10 2DED=212C,10 2DEE=212F,10
2DEF=213B,10 2DF0=2147,10 2DF1=214C,10 2DF2=2156,10 2DF3=2158,20 2DF4=2173,20 2DF5=212C,10;212F,10
2DF6=20DC,10 2DF7=20ED,10 2DF8=2104,20 2DF9=2138,20 2DFA=2161,20 2DFB=2164,10 2DFC=2166,20
2DFD=216A,20 2DFE=216C,20 2DFF=2170,20 2E00-2E01=1EF 2E02-2E05=188 2E06-2E08=1F1 2E09-2E0A=18C
2E0B=1F4 2E0C-2E0D=18E 2E0E-2E16=1F5 2E17=1F 2E18=83 2E19=123 2E1A-2E1B=1FE 2E1C-2E1D=190
2E1E-2E1F=200 2E20-2E29=192 2E2A-2E2D=11C 2E2E=74 2E2F=215A 2E30=90 2E31=9A 2E32=29 2E33=9B 2E34=28
2E35=41 2E36-2E38=1D9 2E39=1BF 2E3A-2E3B=1B 2E3C=91 2E3D=120 2E3E=1B9 2E3F=1C3 2E40=20 2E41=2A
2E42=13E 2E43=1E 2E44-2E48=202 2E49=43 2E4A=1CC 2E4B=1DC 2E4C=2B 2E4D=1C2 2E4E-2E4F=2C
2E50-2E51=9B0 2E52=1CF 2E53=6D 2E54=75 2E55-2E5C=19C 2E5D=21 2E80=@4E36.2 2E81=@5382.2
2E82=@4E5B,10 2E83=@4E5A,10 2E84=@4E59.2 2E85=@4EBB,10 2E86=@5182.2 2E87=@51E0.2 2E88=@5200.2
2E89=@5202,10 2E8A=@535C.2 2E8B=@5369.2 2E8C=@5C0F.2 2E8D=@5C0F.7 2E8E=@5C22.2 2E8F=@5C23,10
2E90=@5C22,10 2E91=@5C23.2 2E92=@5DF3,10 2E93=@5E7A,10 2E94=@5F51,10 2E95=@5F50.2 2E96=@5FC4,10
2E97=@5FC3.2 2E98=@624C,10 2E99=@6535,10 2E9B=@65E1,10 2E9C=@65E5.2 2E9D=@6708.2 2E9E=@6B7A.2
2E9F=@6BCD,10 2EA0=@6C11,10 2EA1=@6C35,10 2EA2=@6C3A,10 2EA3=@706C,10 2EA4=@722B,10 2EA5=@722B.2
2EA6=@4E2C,10 2EA7=@725B.2 2EA8=@72AD,10 2EA9=@738B.2 2EAA=@758B.2 2EAB=@76EE.2 2EAC=@793A.2
2EAD=@793B,10 2EAE=@7AF9.2 2EAF=@7CF9,10 2EB0=@7E9F,10 2EB1=@7F53,10 2EB2=@7F52,10 2EB3=@7F53.2
2EB4=@7F53.7 2EB5=@7F52.2 2EB6=@7F8A.2 2EB7=@7F8A.7 2EB8=@7F8B,10 2EB9=@8002,10 2EBA=@8080,10
2EBB=@807F.2 2EBC=@8089.2 2EBD=@81FC.2 2EBE=@8279,10 2EBF=@8279.2 2EC0=@8279.7 2EC1=@864E,10
2EC2=@8864,10 2EC3=@8980,10 2EC4=@897F,10 2EC5=@89C1,10 2EC6=@89D2,10 2EC7=@89D2.2 2EC8=@8BA0,10
2EC9=@8D1D,10 2ECA=@8DB3.2 2ECB=@8F66,10 2ECC=@8FB6,10 2ECD=@8FB6.2 2ECE=@8FB6.7 2ECF=@9091.2
2ED0=@9485,10 2ED1=@9577,10 2ED2=@9578,10 2ED3=@957F,10 2ED4=@95E8,10 2ED5=@961C.2 2ED6=@961D,10
2ED7=@96E8.2 2ED8=@9752,10 2ED9=@97E6,10 2EDA=@9875,10 2EDB=@98CE,10 2EDC=@98DE,10 2EDD=@98DF,10
2EDE=@98E0.2 2EDF=@98E0,10 2EE0=@9963,10 2EE1=@9996.2 2EE2=@9A6C,10 2EE3=@9AA8.2 2EE4=@9B3C.2
2EE5=@9C7C,10 2EE6=@9E1F,10 2EE7=@9E75.2 2EE8=@9EA6,10 2EE9=@9EC4,10 2EEA=@9EFE,10 2EEB=@9F4A.2
2EEC=@9F50,10 2EED=@9F52.2 2EEE=@9F7F,10 2EEF=@9F8D.2 2EF0=@9F99,10 2EF1=@9F9C.2 2EF2=@9F9C.7
2EF3=@9F9F,10 2F00=@4E00,10 2F01=@4E28,10 2F02=@4E36,10 2F03=@4E3F,10 2F04=@4E59,10 2F05=@4E85,10
2F06=@4E8C,10 2F07=@4EA0,10 2F08=@4EBA,10 2F09=@513F,10 2F0A=@5165,10 2F0B=@516B,10 2F0C=@5182,10
2F0D=@5196,10 2F0E=@51AB,10 2F0F=@51E0,10 2F10=@51F5,10 2F11=@5200,10 2F12=@529B,10 2F13=@52F9,10
2F14=@5315,10 2F15=@531A,10 2F16=@5338,10 2F17=@5341,10 2F18=@535C,10 2F19=@5369,10 2F1A=@5382,10
2F1B=@53B6,10 2F1C=@53C8,10 2F1D=@53E3,10 2F1E=@56D7,10 2F1F=@571F,10 2F20=@58EB,10 2F21=@5902,10
2F22=@590A,10 2F23=@5915,10 2F24=@5927,10 2F25=@5973,10 2F26=@5B50,10 2F27=@5B80,10 2F28=@5BF8,10
2F29=@5C0F,10 2F2A=@5C22,10 2F2B=@5C38,10 2F2C=@5C6E,10 2F2D=@5C71,10 2F2E=@5DDB,10 2F2F=@5DE5,10
2F30=@5DF1,10 2F31=@5DFE,10 2F32=@5E72,10 2F33=@5E7A,10 2F34=@5E7F,10 2F35=@5EF4,10 2F36=@5EFE,10
2F37=@5F0B,10 2F38=@5F13,10 2F39=@5F50,10 2F3A=@5F61,10 2F3B=@5F73,10 2F3C=@5FC3,10 2F3D=@6208,10
2F3E=@6236,10 2F3F=@624B,10 2F40=@652F,10 2F41=@6534,10 2F42=@6587,10 2F43=@6597,10 2F44=@65A4,10
2F45=@65B9,10 2F46=@65E0,10 2F47=@65E5,10 2F48=@66F0,10 2F49=@6708,10 2F4A=@6728,10 2F4B=@6B20,10
2F4C=@6B62,10 2F4D=@6B79,10 2F4E=@6BB3,10 2F4F=@6BCB,10 2F50=@6BD4,10 2F51=@6BDB,10 2F52=@6C0F,10
2F53=@6C14,10 2F54=@6C34,10 2F55=@706B,10 2F56=@722A,10 2F57=@7236,10 2F58=@723B,10 2F59=@723F,10
2F5A=@7247,10 2F5B=@7259,10 2F5C=@725B,10 2F5D=@72AC,10 2F5E=@7384,10 2F5F=@7389,10 2F60=@74DC,10
2F61=@74E6,10 2F62=@7518,10 2F63=@751F,10 2F64=@7528,10 2F65=@7530,10 2F66=@758B,10 2F67=@7592,10
2F68=@7676,10 2F69=@767D,10 2F6A=@76AE,10 2F6B=@76BF,10 2F6C=@76EE,10 2F6D=@77DB,10 2F6E=@77E2,10
2F6F=@77F3,10 2F70=@793A,10 2F71=@79B8,10 2F72=@79BE,10 2F73=@7A74,10 2F74=@7ACB,10 2F75=@7AF9,10
2F76=@7C73,10 2F77=@7CF8,10 2F78=@7F36,10 2F79=@7F51,10 2F7A=@7F8A,10 2F7B=@7FBD,10 2F7C=@8001,10
2F7D=@800C,10 2F7E=@8012,10 2F7F=@8033,10 2F80=@807F,10 2F81=@8089,10 2F82=@81E3,10 2F83=@81EA,10
2F84=@81F3,10 2F85=@81FC,10 2F86=@820C,10 2F87=@821B,10 2F88=@821F,10 2F89=@826E,10 2F8A=@8272,10
2F8B=@8278,10 2F8C=@864D,10 2F8D=@866B,10 2F8E=@8840,10 2F8F=@884C,10 2F90=@8863,10 2F91=@897E,10
2F92=@898B,10 2F93=@89D2,10 2F94=@8A00,10 2F95=@8C37,10 2F96=@8C46,10 2F97=@8C55,10 2F98=@8C78,10
2F99=@8C9D,10 2F9A=@8D64,10 2F9B=@8D70,10 2F9C=@8DB3,10 2F9D=@8EAB,10 2F9E=@8ECA,10 2F9F=@8F9B,10
2FA0=@8FB0,10 2FA1=@8FB5,10 2FA2=@9091,10 2FA3=@9149,10 2FA4=@91C6,10 2FA5=@91CC,10 2FA6=@91D1,10
2FA7=@9577,10 2FA8=@9580,10 2FA9=@961C,10 2FAA=@96B6,10 2FAB=@96B9,10 2FAC=@96E8,10 2FAD=@9751,10
2FAE=@975E,10 2FAF=@9762,10 2FB0=@9769,10 2FB1=@97CB,10 2FB2=@97ED,10 2FB3=@97F3,10 2FB4=@9801,10
2FB5=@98A8,10 2FB6=@98DB,10 2FB7=@98DF,10 2FB8=@9996,10 2FB9=@9999,10 2FBA=@99AC,10 2FBB=@9AA8,10
2FBC=@9AD8,10 2FBD=@9ADF,10 2FBE=@9B25,10 2FBF=@9B2F,10 2FC0=@9B32,10 2FC1=@9B3C,10 2FC2=@9B5A,10
2FC3=@9CE5,10 2FC4=@9E75,10 2FC5=@9E7F,10 2FC6=@9EA5,10 2FC7=@9EBB,10 2FC8=@9EC3,10 2FC9=@9ECD,10
2FCA=@9ED1,10 2FCB=@9EF9,10 2FCC=@9EFD,10 2FCD=@9F0E,10 2FCE=@9F13,10 2FCF=@9F20,10 2FD0=@9F3B,10
2FD1=@9F4A,10 2FD2=@9F52,10 2FD3=@9F8D,10 2FD4=@9F9C,10 2FD5=@9FA0,10 2FF0-2FFF=1C26 3000=B,10
3001=3A 3002=98 3003=1E5 3004=1C5B 3005=1C77 3006=3FFA,3;4010,3 3007=1EB6 3008-3011=1A4
3012-3013=1C5C 3014-301B=1AE 301C=22 301D-301F=13F 3020=1C5E 3021-3029=1EB7 302A=.F0 302B=.F1
302C=.F2 302D=.F3 302E=.F4 302F=.F5 3030=23 3031=1C7C 3032=1C7C;.21 3033=1C7D 3034=1C7D;.21
3035=1C7E 3036=1C5C,20 3037=1C5F 3038=@5341,10 3039=@5344,10 303A=@5345,10 303B=1C78
303C=400D,3;3FFB,3 303D=1E6 303E-303F=1C60 3041=3FEE,3 3042=3FEEu 3043=3FEF,3 3044=3FEFu
3045=3FF0,3 3046=3FF0u 3047=3FF2,3 3048=3FF2u 3049=3FF3,3 304A=3FF3u 304B=3FF4u 304D=3FF5u
304F=3FF6u 3051=3FF7u 3053=3FF8u 3055=3FF9u 3057=3FFAu 3059=3FFBu 305B=3FFCu 305D=3FFDu 305F=3FFEu
3061=3FFFu 3063=4000,3 3064=4000u 3066=4001u 3068=4002u 306A=4003u 306B=4004u 306C=4005u 306D=4006u
306E=4007u 306F=4008u 3072=4009u 3075=400Au 3078=400Bu 307B=400Cu 307E=400Du 307F=400Eu 3080=400Fu
3081=4010u 3082=4011u 3083=4012,3 3084=4012u 3085=4014,3 3086=4014u 3087=4016,3 3088=4016u
3089=4017u 308A=4018u 308B=4019u 308C=401Au 308D=401Bu 308E=401C,3 308F=401Cu 3090=401Du 3091=401Fu
3092=4020u 3093=4021u 3095=3FF4,3 3096=3FF7,3 3099=.21 309A=.22 309B-309C=2F4 309D=1C7F
309F=4016,2E;4018,2C 30A0=24 30A1=3FEE,10 30A2=3FEE,1Eu 30A3=3FEF,10 30A4=3FEF,1Eu 30A5=3FF0,10
30A6=3FF0,1Eu 30A7=3FF2,10 30A8=3FF2,1Eu 30A9=3FF3,10 30AA=3FF3,1Eu 30AB=3FF4,18u 30AD=3FF5,10u
30AF=3FF6,18u 30B1=3FF7,18u 30B3=3FF8,17u 30B5=3FF9,10u 30B7=3FFA,18u 30B9=3FFB,18u 30BB=3FFC,10u
30BD=3FFD,10u 30BF=3FFE,10u 30C1=3FFF,10u 30C3=4000,10 30C4=4000,1Eu 30C6=4001,10u 30C8=4002,17u
30CA=4003,10u 30CB=4004,10u 30CC=4005,1Bu 30CD=4006,10u 30CE=4007,10u 30CF=4008,18u 30D2=4009,18u
30D5=400A,18u 30D8=400B,18u 30DB=400C,18u 30DE=400D,10u 30DF=400E,10u 30E0=400F,18u 30E1=4010,10u
30E2=4011,10u 30E3=4012,10 30E4=4012,1Eu 30E5=4014,10 30E6=4014,1Eu 30E7=4016,10 30E8=4016,1Cu
30E9=4017,18u 30EA=4018,17u 30EB=4019,18u 30EC=401A,18u 30ED=401B,18u 30EE=401C,10 30EF=401C,18u
30F0=401D,1Eu 30F1=401F,1Eu 30F2=4020,1Bu 30F3=4021,1Bu 30F5=3FF4,10 30F6=3FF7,10 30FB=25
30FC-30FD=1C80 30FF=3FF8,2C;4002,2C 3105-3107=4141 3108=4145 3109-310B=4147 310C-310E=414B
310F-3111=4150 3112=4154 3113-3119=4157 311A-311B=4161 311C-311D=4164 311E-3124=4167 3125=416F
3126-3129=4172 312A=4146 312B=414E 312C=4153 312D=4176 312E=4164,20 312F=414A 3131=3E88,10
3132=3E89,20 3133=3F66,20 3134=3E8A,10 3135=3F68,20 3136=3F69,20 3137=3E8B,10 3138=3E8C,20
3139=3E8D,10 313A=3F6C,20 313B=3F6D,20 313C=3F6E,20 313D=3F6F,20 313E=3F70,20 313F=3F71,20
3140=3EA2,20 3141=3E8E,10 3142=3E8F,10 3143=3E90,20 3144=3EA9,20 3145=3E91,10 3146=3E92,20
3147=3E93,10 3148=3E94,10 3149=3E95,20 314A=3E96,10 314B=3E97,10 314C=3E98,10 314D=3E99,10
314E=3E9A,10 314F=3F06,10 3150=3F07,20 3151=3F08,20 3152=3F09,20 3153=3F0A,20 3154=3F0B,20
3155=3F0C,20 3156=3F0D,20 3157=3F0E,10 3158=3F0F,20 3159=3F10,20 315A=3F11,20 315B=3F12,20
315C=3F13,10 315D=3F14,20 315E=3F15,20 315F=3F16,20 3160=3F17,20 3161=3F18,20 3162=3F19,10
3163=3F1A,20 3164=3F05,20 3165=3E9C,20 3166=3E9D,20 3167=3F83,20 3168=3F84,20 3169=3F88,20
316A=3F8A,20 316B=3F8F,20 316C=3F93,20 316D=3F95,20 316E=3EA4,20 316F=3F99,20 3170=3F9B,20
3171=3EA5,20 3172=3EA6,20 3173=3EA8,20 3174=3EAA,20 3175=3EAB,20 3176=3EAF,20 3177=3EB1,20
3178=3EB3,20 3179=3EB4,20 317A=3EB5,20 317B=3EB6,20 317C=3EB7,20 317D=3EBA,20 317E=3EBE,20
317F=3EC8,20 3180=3ECF,20 3181=3ED4,20 3182=3FAD,20 3183=3FAE,20 3184=3EDF,20 3185=3EE0,20
3186=3EE1,20 3187=3F29,20 3188=3F2A,20 3189=3F2D,20 318A=3F36,20 318B=3F37,20 318C=3F39,20
318D=3F43,20 318E=3F46,20 3190-3191=1C62 3192=@4E00,26 3193=@4E8C,26 3194=@4E09,26 3195=@56DB,26
3196=@4E0A,26 3197=@4E2D,26 3198=@4E0B,26 3199=@7532,26 319A=@4E59,26 319B=@4E19,26 319C=@4E01,26
319D=@5929,26 319E=@5730,26 319F=@4EBA,26 31A0=4141.2 31A1=415B.2 31A2=4151.2 31A3=414C.2 31A4=4166
31A5=4166.2 31A6=4163 31A7=4162.2 31A8=4174.7 31A9=4161.2 31AA=4173.2 31AB=4174.2 31AC=4144
31AD=414F 31AE=4167.2 31AF=4169.2 31B0-31B1=4170 31B2=416E 31B3=4173.2,20 31B4=4142,20 31B5=4148,20
31B6=414D,20 31B7=4150,20 31B8-31BA=415E 31BB=414C,20 31BC-31BD=4155 31BE-31BF=4177 31C0-31E3=1C37
31EF=1C36 31F0=3FF6,10 31F1=3FFA,10 31F2=3FFB,10 31F3=4002,10 31F4=4005,10 31F5=4008,10
31F6=4009,10 31F7=400A,10 31F8=400B,10 31F9=400C,10 31FA=400F,10 31FB=4017,10 31FC=4018,10
31FD=4019,10 31FE=401A,10 31FF=401B,10 3200=144,17;3E88,10;145,17 3201=144,17;3E8A,10;145,17
3202=144,17;3E8B,10;145,17 3203=144,17;3E8D,10;145,17 3204=144,17;3E8E,10;145,17
3205=144,17;3E8F,10;145,17 3206=144,17;3E91,10;145,17 3207=144,17;3E93,10;145,17
3208=144,17;3E94,10;145,17 3209=144,17;3E96,10;145,17 320A=144,17;3E97,10;145,17
320B=144,17;3E98,10;145,17 320C=144,17;3E99,10;145,17 320D=144,17;3E9A,10;145,17
320E=144,17;3E88,10;3F06,10;145,17 320F=144,17;3E8A,10;3F06,10;145,17
3210=144,17;3E8B,10;3F06,10;145,17 3211=144,17;3E8D,10;3F06,10;145,17
3212=144,17;3E8E,10;3F06,10;145,17 3213=144,17;3E8F,10;3F06,10;145,17
3214=144,17;3E91,10;3F06,10;145,17 3215=144,17;3E93,10;3F06,10;145,17
3216=144,17;3E94,10;3F06,10;145,17 3217=144,17;3E96,10;3F06,10;145,17
3218=144,17;3E97,10;3F06,10;145,17 3219=144,17;3E98,10;3F06,10;145,17
321A=144,17;3E99,10;3F06,10;145,17 321B=144,17;3E9A,10;3F06,10;145,17
321C=144,17;3E94,10;3F13,10;145,17 321D=144,17;3E93,10;3F0E,10;3E94,10;3F0A,20;3F67,20;145,17
321E=144,17;3E93,10;3F0E,10;3E9A,10;3F13,10;145,17 3220=144,17;@4E00,10;145,17
3221=144,17;@4E8C,10;145,17 3222=144,17;@4E09,10;145,17 3223=144,17;@56DB,10;145,17
3224=144,17;@4E94,10;145,17 3225=144,17;@516D,10;145,17 3226=144,17;@4E03,10;145,17
3227=144,17;@516B,10;145,17 3228=144,17;@4E5D,10;145,17 3229=144,17;@5341,10;145,17
322A=144,17;@6708,10;145,17 322B=144,17;@706B,10;145,17 322C=144,17;@6C34,10;145,17
322D=144,17;@6728,10;145,17 322E=144,17;@91D1,10;145,17 322F=144,17;@571F,10;145,17
3230=144,17;@65E5,10;145,17 3231=144,17;@682A,10;145,17 3232=144,17;@6709,10;145,17
3233=144,17;@793E,10;145,17 3234=144,17;@540D,10;145,17 3235=144,17;@7279,10;145,17
3236=144,17;@8CA1,10;145,17 3237=144,17;@795D,10;145,17 3238=144,17;@52B4,10;145,17
3239=144,17;@4EE3,10;145,17 323A=144,17;@547C,10;145,17 323B=144,17;@5B66,10;145,17
323C=144,17;@76E3,10;145,17 323D=144,17;@4F01,10;145,17 323E=144,17;@8CC7,10;145,17
323F=144,17;@5354,10;145,17 3240=144,17;@796D,10;145,17 3241=144,17;@4F11,10;145,17
3242=144,17;@81EA,10;145,17 3243=144,17;@81F3,10;145,17 3244=@554F,1B 3245=@5E7C,1B 3246=@6587,1B
3247=@7B8F,1B 3248=1EB7,1F;1EB6,1F 3249=1EB8,1F;1EB6,1F 324A=1EB9,1F;1EB6,1F 324B=1EBA,1F;1EB6,1F
324C=1EBB,1F;1EB6,1F 324D=1EBC,1F;1EB6,1F 324E=1EBD,1F;1EB6,1F 324F=1EBE,1F;1EB6,1F
3250=1FA0,34u;1FE9,34u;1EF2,34u 3251=1EB8,1F;1EB7,1F 3252=1EB8,1F;1EB8,1F 3253=1EB8,1F;1EB9,1F
3254=1EB8,1F;1EBA,1F 3255=1EB8,1F;1EBB,1F 3256=1EB8,1F;1EBC,1F 3257=1EB8,1F;1EBD,1F
3258=1EB8,1F;1EBE,1F 3259=1EB8,1F;1EBF,22 325A=1EB9,1F;1EB6,1F 325B=1EB9,1F;1EB7,1F
325C=1EB9,1F;1EB8,1F 325D=1EB9,1F;1EB9,1F 325E=1EB9,1F;1EBA,1F 325F=1EB9,1F;1EBB,1F 3260=3E88,1E
3261=3E8A,1E 3262=3E8B,1E 3263=3E8D,1E 3264=3E8E,1E 3265=3E8F,1E 3266=3E91,1E 3267=3E93,1E
3268=3E94,1E 3269=3E96,1E 326A=3E97,1E 326B=3E98,1E 326C=3E99,1E 326D=3E9A,1E 326E=3E88,1E;3F06,1E
326F=3E8A,1E;3F06,1E 3270=3E8B,1E;3F06,1E 3271=3E8D,1E;3F06,1E 3272=3E8E,1E;3F06,1E
3273=3E8F,1E;3F06,1E 3274=3E91,1E;3F06,1E 3275=3E93,1E;3F06,1E 3276=3E94,1E;3F06,1E
3277=3E96,1E;3F06,1E 3278=3E97,1E;3F06,1E 3279=3E98,1E;3F06,1E 327A=3E99,1E;3F06,1E
327B=3E9A,1E;3F06,1E 327C=3E96,1E;3F06,1E;3F73,20;3E88,1E;3F0E,1E
327D=3E94,1E;3F13,1E;3E93,1E;3F19,1E 327E=3E93,1E;3F13,1E 327F=1C64 3280=@4E00,1B 3281=@4E8C,1B
3282=@4E09,1B 3283=@56DB,1B 3284=@4E94,1B 3285=@516D,1B 3286=@4E03,1B 3287=@516B,1B 3288=@4E5D,1B
3289=@5341,1B 328A=@6708,1B 328B=@706B,1B 328C=@6C34,1B 328D=@6728,1B 328E=@91D1,1B 328F=@571F,1B
3290=@65E5,1B 3291=@682A,1B 3292=@6709,1B 3293=@793E,1B 3294=@540D,1B 3295=@7279,1B 3296=@8CA1,1B
3297=@795D,1B 3298=@52B4,1B 3299=@79D8,1B 329A=@7537,1B 329B=@5973,1B 329C=@9069,1B 329D=@512A,1B
329E=@5370,1B 329F=@6CE8,1B 32A0=@9805,1B 32A1=@4F11,1B 32A2=@5199,1B 32A3=@6B63,1B 32A4=@4E0A,1B
32A5=@4E2D,1B 32A6=@4E0B,1B 32A7=@5DE6,1B 32A8=@53F3,1B 32A9=@533B,1B 32AA=@5B97,1B 32AB=@5B66,1B
32AC=@76E3,1B 32AD=@4F01,1B 32AE=@8CC7,1B 32AF=@5354,1B 32B0=@591C,1B 32B1=1EB9,1F;1EBC,1F
32B2=1EB9,1F;1EBD,1F 32B3=1EB9,1F;1EBE,1F 32B4=1EB9,1F;1EBF,22 32B5=1EBA,1F;1EB6,1F
32B6=1EBA,1F;1EB7,1F 32B7=1EBA,1F;1EB8,1F 32B8=1EBA,1F;1EB9,1F 32B9=1EBA,1F;1EBA,1F
32BA=1EBA,1F;1EBB,1F 32BB=1EBA,1F;1EBC,1F 32BC=1EBA,1F;1EBD,1F 32BD=1EBA,1F;1EBE,1F
32BE=1EBA,1F;1EBF,22 32BF=1EBB,1F;1EB6,1F 32C0=1EB7,15;@6708,10 32C1=1EB8,15;@6708,10
32C2=1EB9,15;@6708,10 32C3=1EBA,15;@6708,10 32C4=1EBB,15;@6708,10 32C5=1EBC,15;@6708,10
32C6=1EBD,15;@6708,10 32C7=1EBE,15;@6708,10 32C8=1EBF,16;@6708,10 32C9=1EB7,15;1EB6,15;@6708,10
32CA=1EB7,15;1EB7,15;@6708,10 32CB=1EB7,15;1EB8,15;@6708,10 32CC=1F21,34u;1F12,2E
32CD=1EF2,31;1FB3,31;1F12,2E 32CE=1EF2,31;200F,34u 32CF=1F4C,34u;1FE9,34u;1EE4,31u 32D0=3FEE,2C
32D1=3FEF,2C 32D2=3FF0,2C 32D3=3FF2,2C 32D4=3FF3,2C 32D5=3FF4,28 32D6=3FF5,26 32D7=3FF6,28
32D8=3FF7,28 32D9=3FF8,25 32DA=3FF9,26 32DB=3FFA,28 32DC=3FFB,28 32DD=3FFC,26 32DE=3FFD,26
32DF=3FFE,26 32E0=3FFF,26 32E1=4000,2C 32E2=4001,26 32E3=4002,25 32E4=4003,26 32E5=4004,26
32E6=4005,31 32E7=4006,26 32E8=4007,26 32E9=4008,28 32EA=4009,28 32EB=400A,28 32EC=400B,28
32ED=400C,28 32EE=400D,26 32EF=400E,26 32F0=400F,28 32F1=4010,26 32F2=4011,2C 32F3=4012,2C
32F4=4014,2C 32F5=4016,28 32F6=4017,28 32F7=4018,25 32F8=4019,28 32F9=401A,28 32FA=401B,28
32FB=401C,28 32FC=401D,2C 32FD=401F,2C 32FE=4020,31 32FF=@4EE4,31;@548C,31
3300=3FEE,33;4008,30;.22,2E;1C80,2E;4002,33 3301=3FEE,33;4019,30;400A,30;3FEE,33
3302=3FEE,33;4021,31;400B,30;.22,2E;3FEE,33 3303=3FEE,33;1C80,2E;4019,30
3304=3FEF,33;4004,31;4021,31;3FF6,30;.21,2E 3305=3FEF,33;4021,31;3FFF,31
3306=3FF0,33;3FF3,33;4021,31 3307=3FF2,33;3FFB,30;3FF6,30;1C80,2E;4002,33;.21,2E
3308=3FF2,33;1C80,2E;3FF4,30;1C80,2E 3309=3FF3,33;4021,31;3FFB,30 330A=3FF3,33;1C80,2E;400F,30
330B=3FF4,30;3FEF,33;4018,33 330C=3FF4,30;4017,30;4000,33;4002,33
330D=3FF4,30;401B,30;4018,33;1C80,2E 330E=3FF4,30;.21,2E;401B,30;4021,31
330F=3FF4,30;.21,2E;4021,31;400D,31 3310=3FF5,31;.21,2E;3FF4,30;.21,2E
3311=3FF5,31;.21,2E;4004,31;1C80,2E 3312=3FF5,31;4014,33;4018,33;1C80,2E
3313=3FF5,31;.21,2E;4019,30;3FFE,31;.21,2E;1C80,2E 3314=3FF5,31;401B,30
3315=3FF5,31;401B,30;3FF6,30;.21,2E;4017,30;400F,30
3316=3FF5,31;401B,30;4010,31;1C80,2E;4002,33;4019,30 3317=3FF5,31;401B,30;401C,30;4000,33;4002,33
3318=3FF6,30;.21,2E;4017,30;400F,30 3319=3FF6,30;.21,2E;4017,30;400F,30;4002,33;4021,31
331A=3FF6,30;4019,30;3FFC,31;.21,2E;3FEF,33;401B,30 331B=3FF6,30;401B,30;1C80,2E;4006,31
331C=3FF7,30;1C80,2E;3FFB,30 331D=3FF8,33;4019,30;4003,31 331E=3FF8,33;1C80,2E;400C,30;.22,2E
331F=3FF9,31;3FEF,33;3FF6,30;4019,30 3320=3FF9,31;4021,31;3FFF,31;1C80,2E;400F,30
3321=3FFA,30;4018,33;4021,31;3FF6,30;.21,2E 3322=3FFC,31;4021,31;3FFF,31
3323=3FFC,31;4021,31;4002,33 3324=3FFE,31;.21,2E;1C80,2E;3FFB,30 3325=4001,31;.21,2E;3FFA,30
3326=4002,33;.21,2E;4019,30 3327=4002,33;4021,31 3328=4003,31;4007,31 3329=4007,31;4000,33;4002,33
332A=4008,30;3FEF,33;4000,33 332B=4008,30;.22,2E;1C80,2E;3FFC,31;4021,31;4002,33
332C=4008,30;.22,2E;1C80,2E;4000,33 332D=4008,30;.21,2E;1C80,2E;401A,30;4019,30
332E=4009,30;.22,2E;3FEE,33;3FFB,30;4002,33;4019,30 332F=4009,30;.22,2E;3FF6,30;4019,30
3330=4009,30;.22,2E;3FF8,33 3331=4009,30;.21,2E;4019,30
3332=400A,30;3FEE,33;4017,30;4000,33;4002,33;.21,2E 3333=400A,30;3FEF,33;1C80,2E;4002,33
3334=400A,30;.21,2E;4000,33;3FFA,30;3FF2,33;4019,30 3335=400A,30;4017,30;4021,31
3336=400B,30;3FF6,30;3FFE,31;1C80,2E;4019,30 3337=400B,30;.22,2E;3FFD,31
3338=400B,30;.22,2E;4004,31;4009,30 3339=400B,30;4019,30;4000,33
333A=400B,30;.22,2E;4021,31;3FFB,30 333B=400B,30;.22,2E;1C80,2E;3FFA,30;.21,2E
333C=400B,30;.21,2E;1C80,2E;3FFE,31 333D=400C,30;.22,2E;3FEF,33;4021,31;4002,33
333E=400C,30;.21,2E;4019,30;4002,33 333F=400C,30;4021,31 3340=400C,30;.22,2E;4021,31;4002,33;.21,2E
3341=400C,30;1C80,2E;4019,30 3342=400C,30;1C80,2E;4021,31 3343=400D,31;3FEF,33;3FF6,30;401B,30
3344=400D,31;3FEF,33;4019,30 3345=400D,31;4000,33;4008,30 3346=400D,31;4019,30;3FF6,30
3347=400D,31;4021,31;3FFA,30;4016,34;4021,31 3348=400E,31;3FF6,30;401B,30;4021,31
3349=400E,31;4018,33 334A=400E,31;4018,33;4008,30;.21,2E;1C80,2E;4019,30
334B=4010,31;3FF4,30;.21,2E 334C=4010,31;3FF4,30;.21,2E;4002,33;4021,31
334D=4010,31;1C80,2E;4002,33;4019,30 334E=4012,33;1C80,2E;4002,33;.21,2E
334F=4012,33;1C80,2E;4019,30 3350=4014,33;3FEE,33;4021,31 3351=4018,33;4000,33;4002,33;4019,30
3352=4018,33;4017,30 3353=4019,30;4009,30;.22,2E;1C80,2E
3354=4019,30;1C80,2E;400A,30;.21,2E;4019,30 3355=401A,30;400F,30
3356=401A,30;4021,31;4002,33;3FF7,30;.21,2E;4021,31 3357=401C,30;4000,33;4002,33
3358=1EB6,15;@70B9,10 3359=1EB7,15;@70B9,10 335A=1EB8,15;@70B9,10 335B=1EB9,15;@70B9,10
335C=1EBA,15;@70B9,10 335D=1EBB,15;@70B9,10 335E=1EBC,15;@70B9,10 335F=1EBD,15;@70B9,10
3360=1EBE,15;@70B9,10 3361=1EBF,16;@70B9,10 3362=1EB7,15;1EB6,15;@70B9,10
3363=1EB7,15;1EB7,15;@70B9,10 3364=1EB7,15;1EB8,15;@70B9,10 3365=1EB7,15;1EB9,15;@70B9,10
3366=1EB7,15;1EBA,15;@70B9,10 3367=1EB7,15;1EBB,15;@70B9,10 3368=1EB7,15;1EBC,15;@70B9,10
3369=1EB7,15;1EBD,15;@70B9,10 336A=1EB7,15;1EBE,15;@70B9,10 336B=1EB7,15;1EBF,16;@70B9,10
336C=1EB8,15;1EB6,15;@70B9,10 336D=1EB8,15;1EB7,15;@70B9,10 336E=1EB8,15;1EB8,15;@70B9,10
336F=1EB8,15;1EB9,15;@70B9,10 3370=1EB8,15;1EBA,15;@70B9,10 3371=1F21,31;1FA0,34u;1EC1,31
3372=1EE4,2E;1EC1,31 3373=1EC1,34u;1FF7,31u 3374=1ECF,2E;1EC1,31;1FB3,31 3375=1F82,31;200F,34u
3376=1FA0,31;1EDA,2E 3377=1EE4,2E;1F67,31 3378=1EE4,2E;1F67,31;1EB8,2E 3379=1EE4,2E;1F67,31;1EB9,2E
337A=1F2D,34u;1FF7,31u 337B=@5E73,31;@6210,31 337C=@662D,31;@548C,31 337D=@5927,31;@6B63,31
337E=@660E,31;@6CBB,31 337F=@682A,31;@5F0F,31;@4F1A,31;@793E,31 3380=1FA0,31;1EC1,34u
3381=1F70,31;1EC1,34u 3382=2083,30;1EC1,34u 3383=1F67,31;1EC1,34u 3384=1F41,31;1EC1,34u
3385=1F41,34u;1ECF,31u 3386=1F67,34u;1ECF,31u 3387=1F12,31u;1ECF,31u 3388=1EDA,2E;1EC1,31;1F4C,31
3389=1F41,31;1EDA,2E;1EC1,31;1F4C,31 338A=1FA0,31;1F09,31u 338B=1F70,31;1F09,31u
338C=2083,30;1F09,31u 338D=2083,30;1F12,2E 338E=1F67,31;1F12,2E 338F=1F41,31;1F12,2E
3390=1F21,34u;202C,2E 3391=1F41,31;1F21,34u;202C,2E 3392=1F67,34u;1F21,34u;202C,2E
3393=1F12,31u;1F21,34u;202C,2E 3394=1FE9,34u;1F21,34u;202C,2E 3395=2083,30;1F4C,31
3396=1F67,31;1F4C,31 3397=1EE4,2E;1F4C,31 3398=1F41,31;1F4C,31 3399=1F09,2E;1F67,31
339A=1F70,31;1F67,31 339B=2083,30;1F67,31 339C=1F67,31;1F67,31 339D=1EDA,2E;1F67,31
339E=1F41,31;1F67,31 339F=1F67,31;1F67,31;1EB8,2E 33A0=1EDA,2E;1F67,31;1EB8,2E 33A1=1F67,31;1EB8,2E
33A2=1F41,31;1F67,31;1EB8,2E 33A3=1F67,31;1F67,31;1EB9,2E 33A4=1EDA,2E;1F67,31;1EB9,2E
33A5=1F67,31;1EB9,2E 33A6=1F41,31;1F67,31;1EB9,2E 33A7=1F67,31;4C8,20;1FD4,31
33A8=1F67,31;4C8,20;1FD4,31;1EB8,2E 33A9=1FA0,34u;1EC1,31 33AA=1F41,31;1FA0,34u;1EC1,31
33AB=1F67,34u;1FA0,34u;1EC1,31 33AC=1F12,31u;1FA0,34u;1EC1,31 33AD=1FB3,31;1EC1,31;1EE4,2E
33AE=1FB3,31;1EC1,31;1EE4,2E;4C8,20;1FD4,31 33AF=1FB3,31;1EC1,31;1EE4,2E;4C8,20;1FD4,31;1EB8,2E
33B0=1FA0,31;1FD4,31 33B1=1F70,31;1FD4,31 33B2=2083,30;1FD4,31 33B3=1F67,31;1FD4,31
33B4=1FA0,31;200F,34u 33B5=1F70,31;200F,34u 33B6=2083,30;200F,34u 33B7=1F67,31;200F,34u
33B8=1F41,31;200F,34u 33B9=1F67,34u;200F,34u 33BA=1FA0,31;2018,38u 33BB=1F70,31;2018,38u
33BC=2083,30;2018,38u 33BD=1F67,31;2018,38u 33BE=1F41,31;2018,38u 33BF=1F67,34u;2018,38u
33C0=1F41,31;2099,31u 33C1=1F67,34u;2099,31u 33C2=1EC1,31;84,30;1F67,31;84,30 33C3=1ECF,31u;1FAC,2E
33C4=1EDA,2E;1EDA,2E 33C5=1EDA,2E;1EE4,2E 33C6=1EDA,31u;4C8,20;1F41,31;1F12,2E
33C7=1EDA,31u;1F82,31;84,30 33C8=1EE4,2E;1ECF,31u 33C9=1F12,31u;2025,2E 33CA=1F21,31;1EC1,31
33CB=1F21,34u;1FA0,34u 33CC=1F2D,31;1F70,31 33CD=1F41,34u;1F41,34u 33CE=1F41,34u;1F67,34u
33CF=1F41,31;1FE9,31 33D0=1F4C,31;1F67,31 33D1=1F4C,31;1F70,31 33D2=1F4C,31;1F82,31;1F12,2E
33D3=1F4C,31;201C,31 33D4=1F67,31;1ECF,2E 33D5=1F67,31;1F2D,31;1F4C,31 33D6=1F67,31;1F82,31;1F4C,31
33D7=1FA0,34u;1F21,34u 33D8=1FA0,31;84,30;1F67,31;84,30 33D9=1FA0,34u;1FA0,34u;1F67,34u
33DA=1FA0,34u;1FB3,34u 33DB=1FD4,31;1FB3,31 33DC=1FD4,34u;200F,31 33DD=2018,38u;1ECF,2E
33DE=200F,34u;4C8,20;1F67,31 33DF=1EC1,34u;4C8,20;1F67,31 33E0=1EB7,15;@65E5,10
33E1=1EB8,15;@65E5,10 33E2=1EB9,15;@65E5,10 33E3=1EBA,15;@65E5,10 33E4=1EBB,15;@65E5,10
33E5=1EBC,15;@65E5,10 33E6=1EBD,15;@65E5,10 33E7=1EBE,15;@65E5,10 33E8=1EBF,16;@65E5,10
33E9=1EB7,15;1EB6,15;@65E5,10 33EA=1EB7,15;1EB7,15;@65E5,10 33EB=1EB7,15;1EB8,15;@65E5,10
33EC=1EB7,15;1EB9,15;@65E5,10 33ED=1EB7,15;1EBA,15;@65E5,10 33EE=1EB7,15;1EBB,15;@65E5,10
33EF=1EB7,15;1EBC,15;@65E5,10 33F0=1EB7,15;1EBD,15;@65E5,10 33F1=1EB7,15;1EBE,15;@65E5,10
33F2=1EB7,15;1EBF,16;@65E5,10 33F3=1EB8,15;1EB6,15;@65E5,10 33F4=1EB8,15;1EB7,15;@65E5,10
33F5=1EB8,15;1EB8,15;@65E5,10 33F6=1EB8,15;1EB9,15;@65E5,10 33F7=1EB8,15;1EBA,15;@65E5,10
33F8=1EB8,15;1EBB,15;@65E5,10 33F9=1EB8,15;1EBC,15;@65E5,10 33FA=1EB8,15;1EBD,15;@65E5,10
33FB=1EB8,15;1EBE,15;@65E5,10 33FC=1EB8,15;1EBF,16;@65E5,10 33FD=1EB9,15;1EB6,15;@65E5,10
33FE=1EB9,15;1EB7,15;@65E5,10 33FF=1F12,2E;1EC1,31;1F4C,31 4DC0-4DFF=E49 A000-A48C=417A
A490-A4C6=EE0 A4D0-A4E9=460E A4EA=462A A4EB=4628 A4EC=462B A4ED=4629 A4EE-A4F7=462D A4F8-A4FB=4608
A4FC=460D A4FD=460C A4FE=36 A4FF=92 A500-A60C=39C6 A60D=37 A60E=93 A60F=7D A610=3A1E,20
A611=3A30,20 A612=3A4D,20 A613=39D2,20;3AD1,20 A614=39E4,20;3AD1,20 A615=39F9,20;3AD1,20
A616=3A0D,20;3AD2,20 A617=3A18,20;3AD1,20 A618=3A1E,20;3AD2,20 A619=3A20,20;3AD2,20
A61A=3A26,20;3AD1,20 A61B=3A4B,20;3AD1,20 A61C=3A7A,20;3AD1,20 A61D=3A91,20;3AD1,20
A61E=3A97,20;3AD2,20 A61F=3A9E,20;3AD1,20 A620-A629=1EB6 A62A=3A34,20 A62B=3A97,20 A640=20F4,20u
A641=20F4 A642=20F7,20u A643=20F7 A644=20F9,20u A645=20F9 A646=2101,20u A647=2101 A648=2104,2Eu
A649=2104 A64A=2138,2Eu A64B=2138 A64C=2144,20u A64D=2144 A64E=2159,20u A64F=2159 A650=215D,20u
A651=215D A652=2162,20u A653=2162 A654=2165,20u A655=2165 A656=2166,2Eu A657=2166 A658=216B,20u
A659=216B A65A=216D,20u A65B=216D A65C=216F,20u A65D=216F A65E=2175,20u A65F=2175 A660=2148,20u
A661=2148 A662=20EA,20u A663=20EA A664=2114,20u A665=2114 A666=2119,20u A667=2119 A668=2123,20u
A669=2123,10 A66A=2123,20u A66B=2123,10 A66C=2123,20u A66D~A66E=2123,10 A66F=.3B A670~A672=
A673=1C9 A674=20EE,20 A675=20FE,10 A676=2100,10;.15,20 A677=2135,10 A678=215C,10 A679=215E,10
A67A=215F,10 A67B=2142,20 A67C~A67D=.1D A67E=207 A67F=215B A680=20E8,20u A681=20E8 A682=20FD,20u
A683=20FD A684=20F1,20u A685=20F1 A686=2152,20u A687=2152 A688=20FB,20u A689=20FB A68A=2133,20u
A68B=2133 A68C=2130,20u A68D=2130 A68E=2149,20u A68F=2149 A690=214B,20u A691=214B A692=214E,20u
A693=214E A694=2141,20u A695=2141 A696=2157,20u A697=2157 A698=2123,20u A699=2123,10 A69A=2123,20u
A69B=2123,10 A69C=215C,26 A69D=215F,2C A69E=213A,10 A69F=2169,20 A6A0-A6EF=3AD4 A6F0=.A0 A6F1=.A1
A6F2=EB A6F3=94 A6F4=6A A6F5=38 A6F6=42 A6F7=7E A700-A721=335 A722=2059,20u A723=2059 A724=2061,20u
A725=2061 A726=1F29,20u A727=1F29 A728=1FE9,22u;202C,13 A729=1FE9,13;202C,13 A72A=204D,20u
A72B=204D A72C=204E,20u A72D=204E A72E=204F,20u A72F=204F A730=1F0A A731=1FD5
A732=1EC1,22u;1EC1,22u A733=1EC1,13;1EC1,13 A734=1EC1,22u;1F82,22u A735=1EC1,13;1F82,13
A736=1EC1,22u;1FF7,22u A737=1EC1,13;1FF7,13 A738=1EC1,22u;200F,22u A739=1EC1,13;200F,13
A73A=1EC1.2,20u;200F,22u A73B=1EC1.2;200F,13 A73C=1EC1,22u;2025,22u A73D=1EC1,13;2025,13
A73E=1EE3,20u A73F=1EE3 A740=1F46,20u A741=1F46 A742=1F47,20u A743=1F47 A744=1F48,20u A745=1F48
A746=1F4E,20u A747=1F4E A748=1F50,20u A749=1F50 A74A=1F9B,20u A74B=1F9B A74C=1F96,20u A74D=1F96
A74E=1F82,22u;1F82,22u A74F=1F82,13;1F82,13 A750=1FA3,20u A751=1FA3 A752=1FA7,20u A753=1FA7
A754=1FA8,20u A755=1FA8 A756=1FAE,20u A757=1FAE A758=1FAF,20u A759=1FAF A75A=1FB3.7,20u A75B=1FB3.7
A75C=1FD3,20u A75D=1FD3 A75E=2011,20u A75F=2011 A760=200F,22u;2025,22u A761=200F,13;2025,13
A762=2036,20u A763=2036 A764=2040,20u A765=2040 A766=2041,20u A767=2041 A768=2044,20u A769=2044
A76A=2048,20u A76B=2048 A76C=2049,20u A76D=2049 A76E=204A,1Eu A76F=204A A770=204A,2C A771=1EF0
A772=1F60 A773=1F6F A774=1F7D A775-A776=1FD1 A777=1FF4 A778=204B A779=1EE4.7,20u A77A=1EE4.7
A77B=1F09.2,20u A77C=1F09.2 A77D=1F12.2,20u A77E=1F1E,20u A77F=1F1E A780=1F63,20u A781=1F63
A782=1FB3.2,20u A783=1FB3.2 A784=1FD4.7,20u A785=1FD4.7 A786=1FE9.7,20u A787=1FE9.7 A788-A78A=357
A78B=205A,20u A78C=205A A78D=2006,20u A78E=1F5D A78F=205B A790=1F77,20u A791=1F77 A792=1EDD,20u
A793-A794=1EDD A795=1F24 A796=1ED5,20u A797=1ED5 A798=1F0C,20u A799=1F0C A79A=1EC1,22u;.15,20
A79B=1EC1,13;.15,20 A79C=1F82,22u;.15,20 A79D=1F82,13;.15,20 A79E=1FF7,22u;.15,20
A79F=1FF7,13;.15,20 A7A0=1F12,22u;.1F,20 A7A1=1F12,13;.1F,20 A7A2=1F41,22u;.1F,20
A7A3=1F41,13;.1F,20 A7A4=1F70,22u;.1F,20 A7A5=1F70,13;.1F,20 A7A6=1FB3,22u;.1F,20
A7A7=1FB3,13;.1F,20 A7A8=1FD4,22u;.1F,20 A7A9=1FD4,13;.1F,20 A7AA=1F25,20u A7AB=1F02,20u
A7AC=1F14,20u A7AD=1F56,20u A7AE=1F2F,20u A7AF=1FAD A7B0=1F4A,20u A7B1=1FF5,20u A7B2=1F3E,20u
A7B3=2022,20u A7B4=1ED9,2Eu A7B5=1ED9 A7B6=1F9D,20u A7B7=1F9D A7B8=2001,20u A7B9=2001 A7BA=1EC5,20u
A7BB=1EC5 A7BC=1F37,20u A7BD=1F37 A7BE=2005,20u A7BF=2005 A7C0=1EC1,22u;.1B,20 A7C1=1EC1,13;.1B,20
A7C2=2018.2,20u A7C3=2018.2 A7C4=1EDE,20u A7C5=1FD9,1Eu A7C6=2030,20u A7C7=1EE7,20u A7C8=1EE7
A7C9=1FD6,20u A7CA=1FD6 A7D0=1F13,20u A7D1=1F13 A7D3=203F A7D5=2043 A7D6=1FDD,20u A7D7=1FDD
A7D8=1FD4.A,20u A7D9=1FD4.A A7F2=1EDA,31u A7F3=1F09,31u A7F4=1FAC,31u A7F5=1F28,20u A7F6=1F28
A7F7=1F31 A7F8=1F21,2B;.23,20 A7F9=1F82.2,2E;1EF2,2B A7FA=200A A7FB=1F11 A7FC=1FA9 A7FD=1F6D
A7FE=1F30 A7FF=1F6E A800-A806=294A A807-A80A=2952 A80B=.AE A80C-A827=2956 A828-A82B=3BF A82C=2951
A830-A835=1CC9 A836-A837=3C3 A838=1C90 A839=3C5 A840-A847=30BF A848-A853=30CB A854-A857=30D8
A858=30DE A859-A85A=30E1 A85B-A85C=30E4 A85D=30E8 A85E-A861=30ED A862-A865=30E9 A866=30F1 A867=30D7
A868=30DC A869-A86C=30C7 A86D=30DD A86E=30E3 A86F-A870=30E6 A871-A872=30DF A873=30F2 A874-A875=282
A876-A877=A2 A880=.AE A881=.AF A882-A8C4=2973 A8C5=.AD A8CE-A8CF=9E A8D0-A8D9=1EB6 A8E0~A8F1=
A8F2=2684 A8F3~A8F7=2684,20 A8F8-A8FA=225 A8FB=2685 A8FC=228 A8FD=263B A8FE=2651 A8FF=269A
A900-A909=1EB6 A90A-A92A=31F7 A92B=.CF A92C=.D0 A92D=.D1 A92E=288 A92F=A6 A930-A953=31D2 A95F=EC
A960-A97C=3EE7 A980=.AD A981=.AE A982=.B4 A983=.AF A984-A9AA=34B2 A9AB=34DA A9AC=34DA,20
A9AD-A9B2=34DC A9B3=.AC A9B4=34E2 A9B5=34E2,20 A9B6-A9B9=34E4 A9BA-A9BB=34E9 A9BC=34E3 A9BD=34E8
A9BE=34D9 A9BF=34DB A9C0=34EB A9C1-A9C6=E1 A9C7=66 A9C8-A9C9=B1 A9CA-A9CD=E7 A9CF=1C6D
A9D0-A9D9=1EB6 A9DE-A9DF=289 A9E0=3222 A9E1=322A A9E2=3234 A9E3=324A A9E4=3263 A9E5=32AE A9E6=1C6E
A9E7=323C A9E8=325E A9E9=3220 A9EA=3223 A9EB=322F A9EC=3236 A9ED=3244 A9EE=3247 A9EF=324B
A9F0-A9F9=1EB6 A9FA=327F A9FB=3250 A9FC=3253 A9FD=3261 A9FE=3264 AA00-AA28=3425 AA29-AA32=3452
AA33-AA36=344E AA40-AA4D=345C AA50-AA59=1EB6 AA5C=28B AA5D-AA5F=B3 AA60=321F AA61=3228 AA62=322B
AA63=322E AA64=3235 AA65=323B AA66=323F AA67=3241 AA68=3243 AA69=3246 AA6A=3252 AA6B=3256 AA6C=3277
AA6D=327A AA6E=327C AA6F=325C AA70=1C6F AA71=327D AA72=3231 AA73=326A AA74-AA76=32C5 AA77-AA79=3EE
AA7A=326B AA7B-AA7D=32C2 AA7E=322C AA7F=3238 AA80-AABE=2F2F AABF=.CC AAC0=2F6E AAC1=.CD AAC2=2F6F
AADB-AADC=2F70 AADD=1C70 AADE-AADF=23C AAE0-AAEA=2926 AAEB-AAEF=2939 AAF0=B6 AAF1=7F AAF2=290A
AAF3-AAF4=1C71 AAF5=293E AAF6=2948 AB01-AB06=249A AB09-AB0E=256D AB11-AB16=254E AB20-AB26=25B3
AB28-AB2E=25CB AB30=1ECB AB31=1EC8 AB32-AB33=1EF4 AB34=1EF8 AB35=1F0B AB36=1F16 AB37=1F59
AB38-AB39=1F54 AB3A=1F6C AB3B=1F7C AB3C=1F7F AB3D=1F85 AB3E=1F8E AB3F=1F93 AB40=1F8A AB41-AB42=1F88
AB43-AB44=1F8B AB45=1FB4 AB46=1FB6 AB47-AB48=1FC9 AB49=1FC4 AB4A-AB4C=1FCB AB4D=1FE1 AB4E=1FF9
AB4F=2000 AB50-AB51=1FFD AB52=2004 AB53-AB55=2022 AB56-AB59=201E AB5A=202A AB5B=35A AB5C=1F29,2E
AB5D=1F59,20 AB5E=1F53,2E AB5F=2004,20 AB60-AB61=2045 AB62=1F95 AB63=2047 AB64=1ECE AB65=209A
AB66=1EE4,13;2032,20 AB67=1FE9,13;1FD9,10 AB68=1FCF AB69=201B,2E AB6A-AB6B=30B AB70-ABBF=35D4
ABC0-ABDA=290B ABDB-ABE2=293F ABE3-ABEA=2931 ABEB=B7 ABEC=.B6 ABED=2947 ABF0-ABF9=1EB6
D7B0-D7C6=3F4D D7CB-D7FB=3FBC FB00=1F09,13;1F09,13 FB01=1F09,13;1F2D,13 FB02=1F09,13;1F4C,13
FB03=1F09,13;1F09,13;1F2D,13 FB04=1F09,13;1F09,13;1F4C,13 FB05=1FD4.4;1FE9,13 FB06=1FD4,13;1FE9,13
FB13=223D,20;2240,20 FB14=223D,20;222E,20 FB15=223D,20;2234,20 FB16=2248,20;2240,20
FB17=223D,20;2236,20 FB1E=.4B FB20=2262,20 FB21=2253,2E FB22=2256,2E FB23=2257,2E FB24=225D,20
FB25=225E,2E FB26=225F,20 FB27=2266,20 FB28=2268,20 FB29=4B9,18 FB4F=2253,20;225E,20 FB50=22A0,2E
FB51=22A0,20 FB52=22AD,31 FB53=22AD,26 FB54=22AD,10 FB55=22AD,1B FB56=22AE,31 FB57=22AE,26
FB58=22AE,10 FB59=22AE,1B FB5A=22AF,31 FB5B=22AF,26 FB5C=22AF,10 FB5D=22AF,1B FB5E=22C0,31
FB5F=22C0,26 FB60=22C0,10 FB61=22C0,1B FB62=22C3,31 FB63=22C3,26 FB64=22C3,10 FB65=22C3,1B
FB66=22BF,31 FB67=22BF,26 FB68=22BF,10 FB69=22BF,1B FB6A=2324,31 FB6B=2324,26 FB6C=2324,10
FB6D=2324,1B FB6E=2327,31 FB6F=2327,26 FB70=2327,10 FB71=2327,1B FB72=22C9,31 FB73=22C9,26
FB74=22C9,10 FB75=22C9,1B FB76=22C8,31 FB77=22C8,26 FB78=22C8,10 FB79=22C8,1B FB7A=22CB,31
FB7B=22CB,26 FB7C=22CB,10 FB7D=22CB,1B FB7E=22CD,31 FB7F=22CD,26 FB80=22CD,10 FB81=22CD,1B
FB82=22E4,2E FB83=22E4,20 FB84=22E3,2E FB85=22E3,20 FB86=22E6,2E FB87=22E6,20 FB88=22DF,2E
FB89=22DF,20 FB8A=22F5,2E FB8B=22F5,20 FB8C=22EE,2E FB8D=22EE,20 FB8E=2333,31 FB8F=2333,26
FB90=2333,10 FB91=2333,1B FB92=233B,31 FB93=233B,26 FB94=233B,10 FB95=233B,1B FB96=2341,31
FB97=2341,26 FB98=2341,10 FB99=2341,1B FB9A=233F,31 FB9B=233F,26 FB9C=233F,10 FB9D=233F,1B
FB9E=2357,2C FB9F=2357,1E FBA0=2359,31 FBA1=2359,26 FBA2=2359,10 FBA3=2359,1B FBA4=2366,2E;.6D,2E
FBA5=2366,20;.6D,20 FBA6=2363,31 FBA7=2363,26 FBA8=2363,10 FBA9=2363,1B FBAA=2362,31 FBAB=2362,26
FBAC=2362,10 FBAD=2362,1B FBAE=2384,2E FBAF=2384,20 FBB0=2384,2E;.6D,2E FBB1=2384,20;.6D,20
FBB2-FBC2=388 FBD3=2338,31 FBD4=2338,26 FBD5=2338,10 FBD6=2338,1B FBD7=236B,2C FBD8=236B,1E
FBD9=236A,2E FBDA=236A,20 FBDB=236C,2E FBDC=236C,20 FBDD=229C,2E;236B,2C FBDE=236F,2E FBDF=236F,20
FBE0=2369,2E FBE1=2369,20 FBE2=236D,2E FBE3=236D,20 FBE4=237A,31 FBE5=237A,26 FBE6=237A,10
FBE7=237A,1B FBE8=2375,10 FBE9=2375,1B FBEA=22A6,31;22AA,31 FBEB=22A6,26;22AA,26
FBEC=22A6,31;2366,2E FBED=22A6,26;2366,20 FBEE=22A6,31;2367,31 FBEF=22A6,26;2367,26
FBF0=22A6,31;236B,2C FBF1=22A6,26;236B,1E FBF2=22A6,31;236A,2E FBF3=22A6,26;236A,20
FBF4=22A6,31;236C,2E FBF5=22A6,26;236C,20 FBF6=22A6,31;237A,31 FBF7=22A6,26;237A,26
FBF8=22A6,10;237A,10 FBF9=22A6,31;2375,31 FBFA=22A6,26;2375,26 FBFB=22A6,10;2375,10 FBFC=2377,30
FBFD=2377,28 FBFE=2377,18 FBFF=2377,20 FC00=22A6,31;22C7,30 FC01=22A6,31;22D2,30
FC02=22A6,31;2352,30 FC03=22A6,31;2375,31 FC04=22A6,31;2376,33 FC05=22AC,30;22C7,30
FC06=22AC,30;22D2,30 FC07=22AC,30;22D3,30 FC08=22AC,30;2352,30 FC09=22AC,30;2375,31
FC0A=22AC,30;2376,33 FC0B=22BD,30;22C7,30 FC0C=22BD,30;22D2,30 FC0D=22BD,30;22D3,30
FC0E=22BD,30;2352,30 FC0F=22BD,30;2375,31 FC10=22BD,30;2376,33 FC11=22BE,30;22C7,30
FC12=22BE,30;2352,30 FC13=22BE,30;2375,31 FC14=22BE,30;2376,33 FC15=22C7,30;22D2,30
FC16=22C7,30;2352,30 FC17=22D2,30;22C7,30 FC18=22D2,30;2352,30 FC19=22D3,30;22C7,30
FC1A=22D3,30;22D2,30 FC1B=22D3,30;2352,30 FC1C=22FF,30;22C7,30 FC1D=22FF,30;22D2,30
FC1E=22FF,30;22D3,30 FC1F=22FF,30;2352,30 FC20=230A,30;22D2,30 FC21=230A,30;2352,30
FC22=230B,30;22C7,30 FC23=230B,30;22D2,30 FC24=230B,30;22D3,30 FC25=230B,30;2352,30
FC26=2310,30;22D2,30 FC27=2310,30;2352,30 FC28=2311,30;2352,30 FC29=2316,30;22C7,30
FC2A=2316,30;2352,30 FC2B=2317,30;22C7,30 FC2C=2317,30;2352,30 FC2D=231F,30;22C7,30
FC2E=231F,30;22D2,30 FC2F=231F,30;22D3,30 FC30=231F,30;2352,30 FC31=231F,30;2375,31
FC32=231F,30;2376,33 FC33=232B,30;22D2,30 FC34=232B,30;2352,30 FC35=232B,30;2375,31
FC36=232B,30;2376,33 FC37=2332,30;22AA,31 FC38=2332,30;22C7,30 FC39=2332,30;22D2,30
FC3A=2332,30;22D3,30 FC3B=2332,30;234A,30 FC3C=2332,30;2352,30 FC3D=2332,30;2375,31
FC3E=2332,30;2376,33 FC3F=234A,30;22C7,30 FC40=234A,30;22D2,30 FC41=234A,30;22D3,30
FC42=234A,30;2352,30 FC43=234A,30;2375,31 FC44=234A,30;2376,33 FC45=2352,30;22C7,30
FC46=2352,30;22D2,30 FC47=2352,30;22D3,30 FC48=2352,30;2352,30 FC49=2352,30;2375,31
FC4A=2352,30;2376,33 FC4B=2356,30;22C7,30 FC4C=2356,30;22D2,30 FC4D=2356,30;22D3,30
FC4E=2356,30;2352,30 FC4F=2356,30;2375,31 FC50=2356,30;2376,33 FC51=2361,30;22C7,30
FC52=2361,30;2352,30 FC53=2361,30;2375,31 FC54=2361,30;2376,33 FC55=2376,33;22C7,30
FC56=2376,33;22D2,30 FC57=2376,33;22D3,30 FC58=2376,33;2352,30 FC59=2376,33;2375,31
FC5A=2376,33;2376,33 FC5B=22DE,2C;.82,2C FC5C=22EC,2C;.82,2C FC5D=2375,31;.82,2C FC5E=.5A,20;.6A,2E
FC5F=.5D,20;.6A,2E FC60=.60,2E;.6A,2E FC61=.64,2E;.6A,2E FC62=.67,2E;.6A,2E FC63=.6A,2E;.82,2C
FC64=22A6,26;22EC,1E FC65=22A6,26;22ED,1E FC66=22A6,26;2352,28 FC67=22A6,26;2356,28
FC68=22A6,26;2375,26 FC69=22A6,26;2376,2C FC6A=22AC,28;22EC,1E FC6B=22AC,28;22ED,1E
FC6C=22AC,28;2352,28 FC6D=22AC,28;2356,28 FC6E=22AC,28;2375,26 FC6F=22AC,28;2376,2C
FC70=22BD,28;22EC,1E FC71=22BD,28;22ED,1E FC72=22BD,28;2352,28 FC73=22BD,28;2356,28
FC74=22BD,28;2375,26 FC75=22BD,28;2376,2C FC76=22BE,28;22EC,1E FC77=22BE,28;22ED,1E
FC78=22BE,28;2352,28 FC79=22BE,28;2356,28 FC7A=22BE,28;2375,26 FC7B=22BE,28;2376,2C
FC7C=231F,28;2375,26 FC7D=231F,28;2376,2C FC7E=232B,28;2375,26 FC7F=232B,28;2376,2C
FC80=2332,28;22AA,26 FC81=2332,28;234A,28 FC82=2332,28;2352,28 FC83=2332,28;2375,26
FC84=2332,28;2376,2C FC85=234A,28;2352,28 FC86=234A,28;2375,26 FC87=234A,28;2376,2C
FC88=2352,28;22AA,26 FC89=2352,28;2352,28 FC8A=2356,28;22EC,1E FC8B=2356,28;22ED,1E
FC8C=2356,28;2352,28 FC8D=2356,28;2356,28 FC8E=2356,28;2375,26 FC8F=2356,28;2376,2C
FC90=2375,26;.82,1E FC91=2376,2C;22EC,1E FC92=2376,2C;22ED,1E FC93=2376,2C;2352,28
FC94=2376,2C;2356,28 FC95=2376,2C;2375,26 FC96=2376,2C;2376,2C FC97=22A6,10;22C7,18
FC98=22A6,10;22D2,18 FC99=22A6,10;22D3,18 FC9A=22A6,10;2352,18 FC9B=22A6,10;2361,18
FC9C=22AC,18;22C7,18 FC9D=22AC,18;22D2,18 FC9E=22AC,18;22D3,18 FC9F=22AC,18;2352,18
FCA0=22AC,18;2361,18 FCA1=22BD,18;22C7,18 FCA2=22BD,18;22D2,18 FCA3=22BD,18;22D3,18
FCA4=22BD,18;2352,18 FCA5=22BD,18;2361,18 FCA6=22BE,18;2352,18 FCA7=22C7,18;22D2,18
FCA8=22C7,18;2352,18 FCA9=22D2,18;22C7,18 FCAA=22D2,18;2352,18 FCAB=22D3,18;22C7,18
FCAC=22D3,18;2352,18 FCAD=22FF,18;22C7,18 FCAE=22FF,18;22D2,18 FCAF=22FF,18;22D3,18
FCB0=22FF,18;2352,18 FCB1=230A,18;22D2,18 FCB2=230A,18;22D3,18 FCB3=230A,18;2352,18
FCB4=230B,18;22C7,18 FCB5=230B,18;22D2,18 FCB6=230B,18;22D3,18 FCB7=230B,18;2352,18
FCB8=2310,18;22D2,18 FCB9=2311,18;2352,18 FCBA=2316,18;22C7,18 FCBB=2316,18;2352,18
FCBC=2317,18;22C7,18 FCBD=2317,18;2352,18 FCBE=231F,18;22C7,18 FCBF=231F,18;22D2,18
FCC0=231F,18;22D3,18 FCC1=231F,18;2352,18 FCC2=232B,18;22D2,18 FCC3=232B,18;2352,18
FCC4=2332,18;22C7,18 FCC5=2332,18;22D2,18 FCC6=2332,18;22D3,18 FCC7=2332,18;234A,18
FCC8=2332,18;2352,18 FCC9=234A,18;22C7,18 FCCA=234A,18;22D2,18 FCCB=234A,18;22D3,18
FCCC=234A,18;2352,18 FCCD=234A,18;2361,18 FCCE=2352,18;22C7,18 FCCF=2352,18;22D2,18
FCD0=2352,18;22D3,18 FCD1=2352,18;2352,18 FCD2=2356,18;22C7,18 FCD3=2356,18;22D2,18
FCD4=2356,18;22D3,18 FCD5=2356,18;2352,18 FCD6=2356,18;2361,18 FCD7=2361,18;22C7,18
FCD8=2361,18;2352,18 FCD9=2361,18;.82,10 FCDA=2376,1E;22C7,18 FCDB=2376,1E;22D2,18
FCDC=2376,1E;22D3,18 FCDD=2376,1E;2352,18 FCDE=2376,1E;2361,18 FCDF=22A6,1B;2352,20
FCE0=22A6,1B;2361,20 FCE1=22AC,20;2352,20 FCE2=22AC,20;2361,20 FCE3=22BD,20;2352,20
FCE4=22BD,20;2361,20 FCE5=22BE,20;2352,20 FCE6=22BE,20;2361,20 FCE7=22FF,20;2352,20
FCE8=22FF,20;2361,20 FCE9=2300,20;2352,20 FCEA=2300,20;2361,20 FCEB=2332,20;234A,20
FCEC=2332,20;2352,20 FCED=234A,20;2352,20 FCEE=2356,20;2352,20 FCEF=2356,20;2361,20
FCF0=2376,25;2352,20 FCF1=2376,25;2361,20 FCF2=.60,20;.6A,20 FCF3=.64,20;.6A,20 FCF4=.67,20;.6A,20
FCF5=2310,30;2375,31 FCF6=2310,30;2376,33 FCF7=2316,30;2375,31 FCF8=2316,30;2376,33
FCF9=2317,30;2375,31 FCFA=2317,30;2376,33 FCFB=22FF,30;2375,31 FCFC=22FF,30;2376,33
FCFD=2300,30;2375,31 FCFE=2300,30;2376,33 FCFF=22D2,30;2375,31 FD00=22D2,30;2376,33
FD01=22C7,30;2375,31 FD02=22C7,30;2376,33 FD03=22D3,30;2375,31 FD04=22D3,30;2376,33
FD05=230A,30;2375,31 FD06=230A,30;2376,33 FD07=230B,30;2375,31 FD08=230B,30;2376,33
FD09=2300,30;22C7,30 FD0A=2300,30;22D2,30 FD0B=2300,30;22D3,30 FD0C=2300,30;2352,30
FD0D=2300,30;22EC,2C FD0E=22FF,30;22EC,2C FD0F=230A,30;22EC,2C FD10=230B,30;22EC,2C
FD11=2310,28;2375,26 FD12=2310,28;2376,2C FD13=2316,28;2375,26 FD14=2316,28;2376,2C
FD15=2317,28;2375,26 FD16=2317,28;2376,2C FD17=22FF,28;2375,26 FD18=22FF,28;2376,2C
FD19=2300,28;2375,26 FD1A=2300,28;2376,2C FD1B=22D2,28;2375,26 FD1C=22D2,28;2376,2C
FD1D=22C7,28;2375,26 FD1E=22C7,28;2376,2C FD1F=22D3,28;2375,26 FD20=22D3,28;2376,2C
FD21=230A,28;2375,26 FD22=230A,28;2376,2C FD23=230B,28;2375,26 FD24=230B,28;2376,2C
FD25=2300,28;22C7,28 FD26=2300,28;22D2,28 FD27=2300,28;22D3,28 FD28=2300,28;2352,28
FD29=2300,28;22EC,1E FD2A=22FF,28;22EC,1E FD2B=230A,28;22EC,1E FD2C=230B,28;22EC,1E
FD2D=2300,18;22C7,18 FD2E=2300,18;22D2,18 FD2F=2300,18;22D3,18 FD30=2300,18;2352,18
FD31=22FF,18;2361,18 FD32=2300,18;2361,18 FD33=2310,18;2352,18 FD34=22FF,20;22C7,20
FD35=22FF,20;22D2,20 FD36=22FF,20;22D3,20 FD37=2300,20;22C7,20 FD38=2300,20;22D2,20
FD39=2300,20;22D3,20 FD3A=2310,20;2352,20 FD3B=2311,20;2352,20 FD3C=22AA,26;.57,1E
FD3D=22AA,31;.57,2C FD3E-FD3F=1B6 FD40-FD4F=373 FD50=22BD,18;22C7,18;2352,18
FD51=22BD,28;22D2,28;22C7,28 FD52=22BD,18;22D2,18;22C7,18 FD53=22BD,18;22D2,18;2352,18
FD54=22BD,18;22D3,18;2352,18 FD55=22BD,18;2352,18;22C7,18 FD56=22BD,18;2352,18;22D2,18
FD57=22BD,18;2352,18;22D3,18 FD58=22C7,28;2352,28;22D2,28 FD59=22C7,18;2352,18;22D2,18
FD5A=22D2,28;2352,28;2376,2C FD5B=22D2,28;2352,28;2375,26 FD5C=22FF,18;22D2,18;22C7,18
FD5D=22FF,18;22C7,18;22D2,18 FD5E=22FF,28;22C7,28;2375,26 FD5F=22FF,28;2352,28;22D2,28
FD60=22FF,18;2352,18;22D2,18 FD61=22FF,18;2352,18;22C7,18 FD62=22FF,28;2352,28;2352,28
FD63=22FF,18;2352,18;2352,18 FD64=230A,28;22D2,28;22D2,28 FD65=230A,18;22D2,18;22D2,18
FD66=230A,28;2352,28;2352,28 FD67=2300,28;22D2,28;2352,28 FD68=2300,18;22D2,18;2352,18
FD69=2300,28;22C7,28;2376,2C FD6A=2300,28;2352,28;22D3,28 FD6B=2300,18;2352,18;22D3,18
FD6C=2300,28;2352,28;2352,28 FD6D=2300,18;2352,18;2352,18 FD6E=230B,28;22D2,28;2375,26
FD6F=230B,28;22D3,28;2352,28 FD70=230B,18;22D3,18;2352,18 FD71=2310,28;2352,28;22D2,28
FD72=2310,18;2352,18;22D2,18 FD73=2310,18;2352,18;2352,18 FD74=2310,28;2352,28;2376,2C
FD75=2316,28;22C7,28;2352,28 FD76=2316,28;2352,28;2352,28 FD77=2316,18;2352,18;2352,18
FD78=2316,28;2352,28;2375,26 FD79=2317,28;2352,28;2352,28 FD7A=2317,28;2352,28;2376,2C
FD7B=2317,28;2352,28;2375,26 FD7C=231F,28;22D3,28;2352,28 FD7D=231F,18;22D3,18;2352,18
FD7E=232B,28;2352,28;22D2,28 FD7F=232B,28;2352,28;2352,28 FD80=234A,28;22D2,28;2352,28
FD81=234A,28;22D2,28;2376,2C FD82=234A,28;22D2,28;2375,26 FD83=234A,18;22C7,18;22C7,18
FD84=234A,28;22C7,28;22C7,28 FD85=234A,28;22D3,28;2352,28 FD86=234A,18;22D3,18;2352,18
FD87=234A,28;2352,28;22D2,28 FD88=234A,18;2352,18;22D2,18 FD89=2352,18;22D2,18;22C7,18
FD8A=2352,18;22D2,18;2352,18 FD8B=2352,28;22D2,28;2376,2C FD8C=2352,18;22C7,18;22D2,18
FD8D=2352,18;22C7,18;2352,18 FD8E=2352,18;22D3,18;22C7,18 FD8F=2352,18;22D3,18;2352,18
FD92=2352,18;22C7,18;22D3,18 FD93=2361,18;2352,18;22C7,18 FD94=2361,18;2352,18;2352,18
FD95=2356,18;22D2,18;2352,18 FD96=2356,28;22D2,28;2375,26 FD97=2356,28;22C7,28;2352,28
FD98=2356,18;22C7,18;2352,18 FD99=2356,28;22C7,28;2375,26 FD9A=2356,28;2352,28;2376,2C
FD9B=2356,28;2352,28;2375,26 FD9C=2376,2C;2352,28;2352,28 FD9D=2376,1E;2352,18;2352,18
FD9E=22AC,28;22D3,28;2376,2C FD9F=22BD,28;22C7,28;2376,2C FDA0=22BD,28;22C7,28;2375,26
FDA1=22BD,28;22D3,28;2376,2C FDA2=22BD,28;22D3,28;2375,26 FDA3=22BD,28;2352,28;2376,2C
FDA4=22BD,28;2352,28;2375,26 FDA5=22C7,28;2352,28;2376,2C FDA6=22C7,28;22D2,28;2375,26
FDA7=22C7,28;2352,28;2375,26 FDA8=22FF,28;22D3,28;2375,26 FDA9=230A,28;22D2,28;2376,2C
FDAA=2300,28;22D2,28;2376,2C FDAB=230B,28;22D2,28;2376,2C FDAC=234A,28;22C7,28;2376,2C
FDAD=234A,28;2352,28;2376,2C FDAE=2376,2C;22D2,28;2376,2C FDAF=2376,2C;22C7,28;2376,2C
FDB0=2376,2C;2352,28;2376,2C FDB1=2352,28;2352,28;2376,2C FDB2=232B,28;2352,28;2376,2C
FDB3=2356,28;22D2,28;2376,2C FDB4=232B,18;2352,18;22D2,18 FDB5=234A,18;22D2,18;2352,18
FDB6=2316,28;2352,28;2376,2C FDB7=2332,28;2352,28;2376,2C FDB8=2356,18;22C7,18;22D2,18
FDB9=2352,28;22D3,28;2376,2C FDBA=234A,18;22C7,18;2352,18 FDBB=2332,28;2352,28;2352,28
FDBC=234A,28;22C7,28;2352,28 FDBD=2356,28;22C7,28;22D2,28 FDBE=22C7,28;22D2,28;2376,2C
FDBF=22D2,28;22C7,28;2376,2C FDC0=2352,28;22C7,28;2376,2C FDC1=231F,28;2352,28;2376,2C
FDC2=22AC,28;22D2,28;2376,2C FDC3=2332,18;2352,18;2352,18 FDC4=2316,18;22C7,18;2352,18
FDC5=230A,18;2352,18;2352,18 FDC6=22FF,28;22D3,28;2376,2C FDC7=2356,28;22C7,28;2376,2C FDCF=383
FDF0=230A,30;234A,30;2384,2E FDF1=232B,30;234A,30;2384,2E FDF2=22AA,31;234A,30;234A,30;2361,30
FDF3=22AA,31;2332,30;22AC,30;22EC,2C FDF4=2352,30;22D2,30;2352,30;22DD,2C
FDF5=230A,30;234A,30;2316,30;2352,30 FDF6=22EC,2C;22FF,30;2367,31;234A,30
FDF7=2316,30;234A,30;2376,33;2361,30 FDF8=2367,31;22FF,30;234A,30;2352,30
FDF9=230A,30;234A,30;2375,31
FDFA=230A,30;234A,30;2375,31;B,20;22AA,31;234A,30;234A,30;2361,30;B,20;2316,30;234A,30;2376,33;2361,30;B,20;2367,31;22FF,30;234A,30;2352,30
FDFB=22C7,30;234A,30;B,20;22C7,30;234A,30;22AA,31;234A,30;2361,30 FDFC=1CBC FDFD-FDFF=384
FE00~FE0F= FE10=27,31 FE11=3A,2C FE12=98,2E FE13=44,31 FE14=3E,2C FE15=6B,28 FE16=72,31 FE17=1B0,20
FE18=1B1,20 FE19=84,28;84,28;84,28 FE20=.39 FE21= FE22=.38 FE23~FE26= FE27=.1E FE28= FE29=.38
FE2A~FE2D= FE2E=.3A FE2F= FE30=84,28;84,28 FE31=19,2E FE32=18,20 FE33~FE34=E,2C FE35=144,33
FE36=145,33 FE37=148,2C FE38=149,2C FE39=1AE,2C FE3A=1AF,2C FE3B=1AC,20 FE3C=1AD,20 FE3D=1A6,20
FE3E=1A7,20 FE3F=1A4,20 FE40=1A5,20 FE41=1A8,2E FE42=1A9,2E FE43=1AA,20 FE44=1AB,20 FE45-FE46=3B
FE47=146,2E FE48=147,2E FE49~FE4C=D,20 FE4D~FE4F=E,1E FE50=27,26 FE51=3A,10 FE52=84,20 FE54=3E,1E
FE55=44,26 FE56=72,26 FE57=6B,20 FE58=19,20 FE59=144,1E FE5A=145,1E FE5B=148,1E FE5C=149,1E
FE5D=1AE,1E FE5E=1AF,1E FE5F=1D0,2E FE60=1CD,2E FE61=1C5,2E FE62=4B9,20 FE63=10,2E FE64=4BD,2E
FE65=4BF,2E FE66=4BE,20 FE68=1CB,2E FE69=1C85,2E FE6A=1D1,2E FE6B=1C4,2E FE70=.57,2C FE71=.57,10
FE72=.5A,20 FE73= FE74=.5D,20 FE76=.60,2E FE77=.60,20 FE78=.64,2E FE79=.64,20 FE7A=.67,2E
FE7B=.67,20 FE7C=.6A,2E FE7D=.6A,20 FE7E=.6B,2E FE7F=.6B,20 FE80=229C,2E FE81=229D,2E FE82=229D,20
FE83=229E,2E FE84=229E,20 FE85=22A1,2E FE86=22A1,20 FE87=22A2,2E FE88=22A2,20 FE89=22A6,31
FE8A=22A6,26 FE8B=22A6,10 FE8C=22A6,1B FE8D=22AA,31 FE8E=22AA,26 FE8F=22AC,30 FE90=22AC,28
FE91=22AC,18 FE92=22AC,20 FE93=22BC,2E FE94=22BC,20 FE95=22BD,30 FE96=22BD,28 FE97=22BD,18
FE98=22BD,20 FE99=22BE,30 FE9A=22BE,28 FE9B=22BE,18 FE9C=22BE,20 FE9D=22C7,30 FE9E=22C7,28
FE9F=22C7,18 FEA0=22C7,20 FEA1=22D2,30 FEA2=22D2,28 FEA3=22D2,18 FEA4=22D2,20 FEA5=22D3,30
FEA6=22D3,28 FEA7=22D3,18 FEA8=22D3,20 FEA9=22DD,2C FEAA=22DD,1E FEAB=22DE,2C FEAC=22DE,1E
FEAD=22EC,2C FEAE=22EC,1E FEAF=22ED,2C FEB0=22ED,1E FEB1=22FF,30 FEB2=22FF,28 FEB3=22FF,18
FEB4=22FF,20 FEB5=2300,30 FEB6=2300,28 FEB7=2300,18 FEB8=2300,20 FEB9=230A,30 FEBA=230A,28
FEBB=230A,18 FEBC=230A,20 FEBD=230B,30 FEBE=230B,28 FEBF=230B,18 FEC0=230B,20 FEC1=2310,30
FEC2=2310,28 FEC3=2310,18 FEC4=2310,20 FEC5=2311,30 FEC6=2311,28 FEC7=2311,18 FEC8=2311,20
FEC9=2316,30 FECA=2316,28 FECB=2316,18 FECC=2316,20 FECD=2317,30 FECE=2317,28 FECF=2317,18
FED0=2317,20 FED1=231F,30 FED2=231F,28 FED3=231F,18 FED4=231F,20 FED5=232B,30 FED6=232B,28
FED7=232B,18 FED8=232B,20 FED9=2332,30 FEDA=2332,28 FEDB=2332,18 FEDC=2332,20 FEDD=234A,30
FEDE=234A,28 FEDF=234A,18 FEE0=234A,20 FEE1=2352,30 FEE2=2352,28 FEE3=2352,18 FEE4=2352,20
FEE5=2356,30 FEE6=2356,28 FEE7=2356,18 FEE8=2356,20 FEE9=2361,30 FEEA=2361,28 FEEB=2361,18
FEEC=2361,20 FEED=2367,31 FEEE=2367,26 FEEF=2375,31 FEF0=2375,26 FEF1=2376,33 FEF2=2376,2C
FEF3=2376,1E FEF4=2376,25 FEF5=234A,30;229D,2E FEF6=234A,28;229D,20 FEF7=234A,30;229E,2E
FEF8=234A,28;229E,20 FEF9=234A,30;22A2,2E FEFA=234A,28;22A2,20 FEFB=234A,30;22AA,31
FEFC=234A,28;22AA,26 FEFF= FF01=6B,10 FF02=139,20 FF03=1D0,20 FF04=1C85,20 FF05=1D1,20 FF06=1CD,20
FF07=132,20 FF08=144,10 FF09=145,10 FF0A=1C5,20 FF0B=4B9,10 FF0C=27,10 FF0D=10,20 FF0E=84,10
FF0F=1CA,20 FF10=1EB6,10 FF11=1EB7,10 FF12=1EB8,10 FF13=1EB9,10 FF14=1EBA,10 FF15=1EBB,10
FF16=1EBC,10 FF17=1EBD,10 FF18=1EBE,10 FF19=1EBF,10 FF1A=44,10 FF1B=3E,10 FF1C=4BD,20 FF1D=4BE,10
FF1E=4BF,20 FF1F=72,10 FF20=1C4,20 FF21=1EC1,1Fu FF22=1ECF,1Fu FF23=1EDA,1Fu FF24=1EE4,1Fu
FF25=1EF2,1Fu FF26=1F09,1Fu FF27=1F12,1Fu FF28=1F21,1Fu FF29=1F2D,1Fu FF2A=1F3A,1Fu FF2B=1F41,1Fu
FF2C=1F4C,1Fu FF2D=1F67,1Fu FF2E=1F70,1Fu FF2F=1F82,1Fu FF30=1FA0,1Fu FF31=1FAC,1Fu FF32=1FB3,1Fu
FF33=1FD4,1Fu FF34=1FE9,1Fu FF35=1FF7,1Fu FF36=200F,1Fu FF37=2018,24u FF38=201C,1Fu FF39=2025,1Fu
FF3A=202C,1Fu FF3B=146,20 FF3C=1CB,20 FF3D=147,20 FF3E=2E8,20 FF3F=E,10 FF40=2E5,20 FF41=1EC1,10
FF42=1ECF,10 FF43=1EDA,10 FF44=1EE4,10 FF45=1EF2,10 FF46=1F09,10 FF47=1F12,10 FF48=1F21,10
FF49=1F2D,10 FF4A=1F3A,10 FF4B=1F41,10 FF4C=1F4C,10 FF4D=1F67,10 FF4E=1F70,10 FF4F=1F82,10
FF50=1FA0,10 FF51=1FAC,10 FF52=1FB3,10 FF53=1FD4,10 FF54=1FE9,10 FF55=1FF7,10 FF56=200F,10
FF57=2018,10 FF58=201C,10 FF59=2025,10 FF5A=202C,10 FF5B=148,10 FF5C=4C1,20 FF5D=149,10 FF5E=4C3,20
FF5F=15A,20 FF60=15B,20 FF61=98,20u FF62=1A8,20u FF63=1A9,20u FF64=3A,1Eu FF65=25,20u FF66=4020,26u
FF67=3FEE,17 FF68=3FEF,17 FF69=3FF0,17 FF6A=3FF2,17 FF6B=3FF3,17 FF6C=4012,17 FF6D=4014,17
FF6E=4016,16 FF6F=4000,17 FF70=1C80,20u FF71=3FEE,25u FF72=3FEF,25u FF73=3FF0,25u FF74=3FF2,25u
FF75=3FF3,25u FF76=3FF4,20u FF77=3FF5,1Bu FF78=3FF6,20u FF79=3FF7,20u FF7A=3FF8,1Eu FF7B=3FF9,1Bu
FF7C=3FFA,20u FF7D=3FFB,20u FF7E=3FFC,1Bu FF7F=3FFD,1Bu FF80=3FFE,1Bu FF81=3FFF,1Bu FF82=4000,25u
FF83=4001,1Bu FF84=4002,1Eu FF85=4003,1Bu FF86=4004,1Bu FF87=4005,26u FF88=4006,1Bu FF89=4007,1Bu
FF8A=4008,20u FF8B=4009,20u FF8C=400A,20u FF8D=400B,20u FF8E=400C,20u FF8F=400D,1Bu FF90=400E,1Bu
FF91=400F,20u FF92=4010,1Bu FF93=4011,1Eu FF94=4012,25u FF95=4014,25u FF96=4016,22u FF97=4017,20u
FF98=4018,1Eu FF99=4019,20u FF9A=401A,20u FF9B=401B,20u FF9C=401C,20u FF9D=4021,26u FF9E=.21,20u
FF9F=.22,20u FFA0=3F05,2Eu FFA1=3E88,2Cu FFA2=3E89,2Eu FFA3=3F66,2Eu FFA4=3E8A,2Cu FFA5=3F68,2Eu
FFA6=3F69,2Eu FFA7=3E8B,2Cu FFA8=3E8C,2Eu FFA9=3E8D,2Cu FFAA=3F6C,2Eu FFAB=3F6D,2Eu FFAC=3F6E,2Eu
FFAD=3F6F,2Eu FFAE=3F70,2Eu FFAF=3F71,2Eu FFB0=3EA2,2Eu FFB1=3E8E,2Cu FFB2=3E8F,2Cu FFB3=3E90,2Eu
FFB4=3EA9,2Eu FFB5=3E91,2Cu FFB6=3E92,2Eu FFB7=3E93,2Cu FFB8=3E94,2Cu FFB9=3E95,2Eu FFBA=3E96,2Cu
FFBB=3E97,2Cu FFBC=3E98,2Cu FFBD=3E99,2Cu FFBE=3E9A,2Cu FFC2=3F06,2Cu FFC3=3F07,2Eu FFC4=3F08,2Eu
FFC5=3F09,2Eu FFC6=3F0A,2Eu FFC7=3F0B,2Eu FFCA=3F0C,2Eu FFCB=3F0D,2Eu FFCC=3F0E,2Cu FFCD=3F0F,2Eu
FFCE=3F10,2Eu FFCF=3F11,2Eu FFD2=3F12,2Eu FFD3=3F13,2Cu FFD4=3F14,2Eu FFD5=3F15,2Eu FFD6=3F16,2Eu
FFD7=3F17,2Eu FFDA=3F18,2Eu FFDB=3F19,2Cu FFDC=3F1A,2Eu FFE0=1C84,20 FFE1=1C86,20 FFE2=4C0,20
FFE3=2E9,20 FFE4=4C2,20 FFE5=1C87,20 FFE6=1CA0,20 FFE8=6BE,20u FFE9=43F,20u FFEA=441,20u
FFEB=440,20u FFEC=442,20u FFED=75C,20u FFEE=787,20u FFF9~FFFB= FFFC=1C65 FFFD=7914 FFFE=1 FFFF=7915"

end Collation

end StyleHost
