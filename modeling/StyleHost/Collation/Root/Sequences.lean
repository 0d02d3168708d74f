/-!
# Root order of sequences of characters

* `characterSequences` : the words of this part of the root table for `Collation.root`.
-/

namespace StyleHost

namespace Collation

/-- The elements of sequences that sort as a unit. -/
def characterSequences : String :=
"418+306=2102,20u 438+306=2102 627+653=229D 627+654=229E 627+655=22A2 648+654=22A1 64A+654=22A6
9C7+9BE=26DE 9C7+9D7=26DF B47+B3E=27A2 B47+B56=27A1 B47+B57=27A3 B92+BD7=27B4 BC6+BBE=27D5
BC6+BD7=27D7 BC7+BBE=27D6 C46+C56=281E CBF+CD5=2860 CC6+CC2=286A CC6+CC2+CD5=286B CC6+CD5=2868
CC6+CD6=2869 D46+D3E=28B6 D46+D57=28B8 D47+D3E=28B7 DD9+DCA=2903 DD9+DCF=2905 DD9+DCF+DCA=2906
DD9+DDF=2907 E40+E01=2EAE;2EE8 E40+E02=2EAF;2EE8 E40+E03=2EB0;2EE8 E40+E04=2EB1;2EE8
E40+E05=2EB2;2EE8 E40+E06=2EB3;2EE8 E40+E07=2EB4;2EE8 E40+E08=2EB5;2EE8 E40+E09=2EB6;2EE8
E40+E0A=2EB7;2EE8 E40+E0B=2EB8;2EE8 E40+E0C=2EB9;2EE8 E40+E0D=2EBA;2EE8 E40+E0E=2EBB;2EE8
E40+E0F=2EBC;2EE8 E40+E10=2EBD;2EE8 E40+E11=2EBE;2EE8 E40+E12=2EBF;2EE8 E40+E13=2EC0;2EE8
E40+E14=2EC1;2EE8 E40+E15=2EC2;2EE8 E40+E16=2EC3;2EE8 E40+E17=2EC4;2EE8 E40+E18=2EC5;2EE8
E40+E19=2EC6;2EE8 E40+E1A=2EC7;2EE8 E40+E1B=2EC8;2EE8 E40+E1C=2EC9;2EE8 E40+E1D=2ECA;2EE8
E40+E1E=2ECB;2EE8 E40+E1F=2ECC;2EE8 E40+E20=2ECD;2EE8 E40+E21=2ECE;2EE8 E40+E22=2ECF;2EE8
E40+E23=2ED0;2EE8 E40+E24=2ED1;2EE8 E40+E25=2ED2;2EE8 E40+E26=2ED3;2EE8 E40+E27=2ED4;2EE8
E40+E28=2ED5;2EE8 E40+E29=2ED6;2EE8 E40+E2A=2ED7;2EE8 E40+E2B=2ED8;2EE8 E40+E2C=2ED9;2EE8
E40+E2D=2EDA;2EE8 E40+E2E=2EDB;2EE8 E41+E01=2EAE;2EE9 E41+E02=2EAF;2EE9 E41+E03=2EB0;2EE9
E41+E04=2EB1;2EE9 E41+E05=2EB2;2EE9 E41+E06=2EB3;2EE9 E41+E07=2EB4;2EE9 E41+E08=2EB5;2EE9
E41+E09=2EB6;2EE9 E41+E0A=2EB7;2EE9 E41+E0B=2EB8;2EE9 E41+E0C=2EB9;2EE9 E41+E0D=2EBA;2EE9
E41+E0E=2EBB;2EE9 E41+E0F=2EBC;2EE9 E41+E10=2EBD;2EE9 E41+E11=2EBE;2EE9 E41+E12=2EBF;2EE9
E41+E13=2EC0;2EE9 E41+E14=2EC1;2EE9 E41+E15=2EC2;2EE9 E41+E16=2EC3;2EE9 E41+E17=2EC4;2EE9
E41+E18=2EC5;2EE9 E41+E19=2EC6;2EE9 E41+E1A=2EC7;2EE9 E41+E1B=2EC8;2EE9 E41+E1C=2EC9;2EE9
E41+E1D=2ECA;2EE9 E41+E1E=2ECB;2EE9 E41+E1F=2ECC;2EE9 E41+E20=2ECD;2EE9 E41+E21=2ECE;2EE9
E41+E22=2ECF;2EE9 E41+E23=2ED0;2EE9 E41+E24=2ED1;2EE9 E41+E25=2ED2;2EE9 E41+E26=2ED3;2EE9
E41+E27=2ED4;2EE9 E41+E28=2ED5;2EE9 E41+E29=2ED6;2EE9 E41+E2A=2ED7;2EE9 E41+E2B=2ED8;2EE9
E41+E2C=2ED9;2EE9 E41+E2D=2EDA;2EE9 E41+E2E=2EDB;2EE9 E42+E01=2EAE;2EEA E42+E02=2EAF;2EEA
E42+E03=2EB0;2EEA E42+E04=2EB1;2EEA E42+E05=2EB2;2EEA E42+E06=2EB3;2EEA E42+E07=2EB4;2EEA
E42+E08=2EB5;2EEA E42+E09=2EB6;2EEA E42+E0A=2EB7;2EEA E42+E0B=2EB8;2EEA E42+E0C=2EB9;2EEA
E42+E0D=2EBA;2EEA E42+E0E=2EBB;2EEA E42+E0F=2EBC;2EEA E42+E10=2EBD;2EEA E42+E11=2EBE;2EEA
E42+E12=2EBF;2EEA E42+E13=2EC0;2EEA E42+E14=2EC1;2EEA E42+E15=2EC2;2EEA E42+E16=2EC3;2EEA
E42+E17=2EC4;2EEA E42+E18=2EC5;2EEA E42+E19=2EC6;2EEA E42+E1A=2EC7;2EEA E42+E1B=2EC8;2EEA
E42+E1C=2EC9;2EEA E42+E1D=2ECA;2EEA E42+E1E=2ECB;2EEA E42+E1F=2ECC;2EEA E42+E20=2ECD;2EEA
E42+E21=2ECE;2EEA E42+E22=2ECF;2EEA E42+E23=2ED0;2EEA E42+E24=2ED1;2EEA E42+E25=2ED2;2EEA
E42+E26=2ED3;2EEA E42+E27=2ED4;2EEA E42+E28=2ED5;2EEA E42+E29=2ED6;2EEA E42+E2A=2ED7;2EEA
E42+E2B=2ED8;2EEA E42+E2C=2ED9;2EEA E42+E2D=2EDA;2EEA E42+E2E=2EDB;2EEA E43+E01=2EAE;2EEB
E43+E02=2EAF;2EEB E43+E03=2EB0;2EEB E43+E04=2EB1;2EEB E43+E05=2EB2;2EEB E43+E06=2EB3;2EEB
E43+E07=2EB4;2EEB E43+E08=2EB5;2EEB E43+E09=2EB6;2EEB E43+E0A=2EB7;2EEB E43+E0B=2EB8;2EEB
E43+E0C=2EB9;2EEB E43+E0D=2EBA;2EEB E43+E0E=2EBB;2EEB E43+E0F=2EBC;2EEB E43+E10=2EBD;2EEB
E43+E11=2EBE;2EEB E43+E12=2EBF;2EEB E43+E13=2EC0;2EEB E43+E14=2EC1;2EEB E43+E15=2EC2;2EEB
E43+E16=2EC3;2EEB E43+E17=2EC4;2EEB E43+E18=2EC5;2EEB E43+E19=2EC6;2EEB E43+E1A=2EC7;2EEB
E43+E1B=2EC8;2EEB E43+E1C=2EC9;2EEB E43+E1D=2ECA;2EEB E43+E1E=2ECB;2EEB E43+E1F=2ECC;2EEB
E43+E20=2ECD;2EEB E43+E21=2ECE;2EEB E43+E22=2ECF;2EEB E43+E23=2ED0;2EEB E43+E24=2ED1;2EEB
E43+E25=2ED2;2EEB E43+E26=2ED3;2EEB E43+E27=2ED4;2EEB E43+E28=2ED5;2EEB E43+E29=2ED6;2EEB
E43+E2A=2ED7;2EEB E43+E2B=2ED8;2EEB E43+E2C=2ED9;2EEB E43+E2D=2EDA;2EEB E43+E2E=2EDB;2EEB
E44+E01=2EAE;2EEC E44+E02=2EAF;2EEC E44+E03=2EB0;2EEC E44+E04=2EB1;2EEC E44+E05=2EB2;2EEC
E44+E06=2EB3;2EEC E44+E07=2EB4;2EEC E44+E08=2EB5;2EEC E44+E09=2EB6;2EEC E44+E0A=2EB7;2EEC
E44+E0B=2EB8;2EEC E44+E0C=2EB9;2EEC E44+E0D=2EBA;2EEC E44+E0E=2EBB;2EEC E44+E0F=2EBC;2EEC
E44+E10=2EBD;2EEC E44+E11=2EBE;2EEC E44+E12=2EBF;2EEC E44+E13=2EC0;2EEC E44+E14=2EC1;2EEC
E44+E15=2EC2;2EEC E44+E16=2EC3;2EEC E44+E17=2EC4;2EEC E44+E18=2EC5;2EEC E44+E19=2EC6;2EEC
E44+E1A=2EC7;2EEC E44+E1B=2EC8;2EEC E44+E1C=2EC9;2EEC E44+E1D=2ECA;2EEC E44+E1E=2ECB;2EEC
E44+E1F=2ECC;2EEC E44+E20=2ECD;2EEC E44+E21=2ECE;2EEC E44+E22=2ECF;2EEC E44+E23=2ED0;2EEC
E44+E24=2ED1;2EEC E44+E25=2ED2;2EEC E44+E26=2ED3;2EEC E44+E27=2ED4;2EEC E44+E28=2ED5;2EEC
E44+E29=2ED6;2EEC E44+E2A=2ED7;2EEC E44+E2B=2ED8;2EEC E44+E2C=2ED9;2EEC E44+E2D=2EDA;2EEC
E44+E2E=2EDB;2EEC E4D+E32=2EE0 EC0+E81=2EF0;2F29 EC0+E82=2EF1;2F29 EC0+E84=2EF2;2F29
EC0+E86=2EF3;2F29 EC0+E87=2EF4;2F29 EC0+E88=2EF5;2F29 EC0+E89=2EF6;2F29 EC0+E8A=2EF8;2F29
EC0+E8C=2EF9;2F29 EC0+E8D=2EFC;2F29 EC0+E8E=2EFA;2F29 EC0+E8F=2EFD;2F29 EC0+E90=2EFE;2F29
EC0+E91=2EFF;2F29 EC0+E92=2F00;2F29 EC0+E93=2F01;2F29 EC0+E94=2F02;2F29 EC0+E95=2F03;2F29
EC0+E96=2F04;2F29 EC0+E97=2F05;2F29 EC0+E98=2F06;2F29 EC0+E99=2F07;2F29 EC0+E9A=2F08;2F29
EC0+E9B=2F09;2F29 EC0+E9C=2F0A;2F29 EC0+E9D=2F0B;2F29 EC0+E9E=2F0C;2F29 EC0+E9F=2F0D;2F29
EC0+EA0=2F0E;2F29 EC0+EA1=2F0F;2F29 EC0+EA2=2F10;2F29 EC0+EA3=2F11;2F29 EC0+EA5=2F12;2F29
EC0+EA7=2F13;2F29 EC0+EA8=2F14;2F29 EC0+EA9=2F15;2F29 EC0+EAA=2EF7;2F29 EC0+EAB=2F16;2F29
EC0+EAC=2F17;2F29 EC0+EAD=2F18;2F29 EC0+EAE=2F19;2F29 EC0+EDC=2F16,20;2F07,20;2F29
EC0+EDD=2F16,20;2F0F,20;2F29 EC0+EDE=2EEF;2F29 EC0+EDF=2EFB;2F29 EC1+E81=2EF0;2F2A
EC1+E82=2EF1;2F2A EC1+E84=2EF2;2F2A EC1+E86=2EF3;2F2A EC1+E87=2EF4;2F2A EC1+E88=2EF5;2F2A
EC1+E89=2EF6;2F2A EC1+E8A=2EF8;2F2A EC1+E8C=2EF9;2F2A EC1+E8D=2EFC;2F2A EC1+E8E=2EFA;2F2A
EC1+E8F=2EFD;2F2A EC1+E90=2EFE;2F2A EC1+E91=2EFF;2F2A EC1+E92=2F00;2F2A EC1+E93=2F01;2F2A
EC1+E94=2F02;2F2A EC1+E95=2F03;2F2A EC1+E96=2F04;2F2A EC1+E97=2F05;2F2A EC1+E98=2F06;2F2A
EC1+E99=2F07;2F2A EC1+E9A=2F08;2F2A EC1+E9B=2F09;2F2A EC1+E9C=2F0A;2F2A EC1+E9D=2F0B;2F2A
EC1+E9E=2F0C;2F2A EC1+E9F=2F0D;2F2A EC1+EA0=2F0E;2F2A EC1+EA1=2F0F;2F2A EC1+EA2=2F10;2F2A
EC1+EA3=2F11;2F2A EC1+EA5=2F12;2F2A EC1+EA7=2F13;2F2A EC1+EA8=2F14;2F2A EC1+EA9=2F15;2F2A
EC1+EAA=2EF7;2F2A EC1+EAB=2F16;2F2A EC1+EAC=2F17;2F2A EC1+EAD=2F18;2F2A EC1+EAE=2F19;2F2A
EC1+EDC=2F16,20;2F07,20;2F2A EC1+EDD=2F16,20;2F0F,20;2F2A EC1+EDE=2EEF;2F2A EC1+EDF=2EFB;2F2A
EC2+E81=2EF0;2F2B EC2+E82=2EF1;2F2B EC2+E84=2EF2;2F2B EC2+E86=2EF3;2F2B EC2+E87=2EF4;2F2B
EC2+E88=2EF5;2F2B EC2+E89=2EF6;2F2B EC2+E8A=2EF8;2F2B EC2+E8C=2EF9;2F2B EC2+E8D=2EFC;2F2B
EC2+E8E=2EFA;2F2B EC2+E8F=2EFD;2F2B EC2+E90=2EFE;2F2B EC2+E91=2EFF;2F2B EC2+E92=2F00;2F2B
EC2+E93=2F01;2F2B EC2+E94=2F02;2F2B EC2+E95=2F03;2F2B EC2+E96=2F04;2F2B EC2+E97=2F05;2F2B
EC2+E98=2F06;2F2B EC2+E99=2F07;2F2B EC2+E9A=2F08;2F2B EC2+E9B=2F09;2F2B EC2+E9C=2F0A;2F2B
EC2+E9D=2F0B;2F2B EC2+E9E=2F0C;2F2B EC2+E9F=2F0D;2F2B EC2+EA0=2F0E;2F2B EC2+EA1=2F0F;2F2B
EC2+EA2=2F10;2F2B EC2+EA3=2F11;2F2B EC2+EA5=2F12;2F2B EC2+EA7=2F13;2F2B EC2+EA8=2F14;2F2B
EC2+EA9=2F15;2F2B EC2+EAA=2EF7;2F2B EC2+EAB=2F16;2F2B EC2+EAC=2F17;2F2B EC2+EAD=2F18;2F2B
EC2+EAE=2F19;2F2B EC2+EDC=2F16,20;2F07,20;2F2B EC2+EDD=2F16,20;2F0F,20;2F2B EC2+EDE=2EEF;2F2B
EC2+EDF=2EFB;2F2B EC3+E81=2EF0;2F2C EC3+E82=2EF1;2F2C EC3+E84=2EF2;2F2C EC3+E86=2EF3;2F2C
EC3+E87=2EF4;2F2C EC3+E88=2EF5;2F2C EC3+E89=2EF6;2F2C EC3+E8A=2EF8;2F2C EC3+E8C=2EF9;2F2C
EC3+E8D=2EFC;2F2C EC3+E8E=2EFA;2F2C EC3+E8F=2EFD;2F2C EC3+E90=2EFE;2F2C EC3+E91=2EFF;2F2C
EC3+E92=2F00;2F2C EC3+E93=2F01;2F2C EC3+E94=2F02;2F2C EC3+E95=2F03;2F2C EC3+E96=2F04;2F2C
EC3+E97=2F05;2F2C EC3+E98=2F06;2F2C EC3+E99=2F07;2F2C EC3+E9A=2F08;2F2C EC3+E9B=2F09;2F2C
EC3+E9C=2F0A;2F2C EC3+E9D=2F0B;2F2C EC3+E9E=2F0C;2F2C EC3+E9F=2F0D;2F2C EC3+EA0=2F0E;2F2C
EC3+EA1=2F0F;2F2C EC3+EA2=2F10;2F2C EC3+EA3=2F11;2F2C EC3+EA5=2F12;2F2C EC3+EA7=2F13;2F2C
EC3+EA8=2F14;2F2C EC3+EA9=2F15;2F2C EC3+EAA=2EF7;2F2C EC3+EAB=2F16;2F2C EC3+EAC=2F17;2F2C
EC3+EAD=2F18;2F2C EC3+EAE=2F19;2F2C EC3+EDC=2F16,20;2F07,20;2F2C EC3+EDD=2F16,20;2F0F,20;2F2C
EC3+EDE=2EEF;2F2C EC3+EDF=2EFB;2F2C EC4+E81=2EF0;2F2D EC4+E82=2EF1;2F2D EC4+E84=2EF2;2F2D
EC4+E86=2EF3;2F2D EC4+E87=2EF4;2F2D EC4+E88=2EF5;2F2D EC4+E89=2EF6;2F2D EC4+E8A=2EF8;2F2D
EC4+E8C=2EF9;2F2D EC4+E8D=2EFC;2F2D EC4+E8E=2EFA;2F2D EC4+E8F=2EFD;2F2D EC4+E90=2EFE;2F2D
EC4+E91=2EFF;2F2D EC4+E92=2F00;2F2D EC4+E93=2F01;2F2D EC4+E94=2F02;2F2D EC4+E95=2F03;2F2D
EC4+E96=2F04;2F2D EC4+E97=2F05;2F2D EC4+E98=2F06;2F2D EC4+E99=2F07;2F2D EC4+E9A=2F08;2F2D
EC4+E9B=2F09;2F2D EC4+E9C=2F0A;2F2D EC4+E9D=2F0B;2F2D EC4+E9E=2F0C;2F2D EC4+E9F=2F0D;2F2D
EC4+EA0=2F0E;2F2D EC4+EA1=2F0F;2F2D EC4+EA2=2F10;2F2D EC4+EA3=2F11;2F2D EC4+EA5=2F12;2F2D
EC4+EA7=2F13;2F2D EC4+EA8=2F14;2F2D EC4+EA9=2F15;2F2D EC4+EAA=2EF7;2F2D EC4+EAB=2F16;2F2D
EC4+EAC=2F17;2F2D EC4+EAD=2F18;2F2D EC4+EAE=2F19;2F2D EC4+EDC=2F16,20;2F07,20;2F2D
EC4+EDD=2F16,20;2F0F,20;2F2D EC4+EDE=2EEF;2F2D EC4+EDF=2EFB;2F2D ECD+EB2=2F1E F71+F72=2FC5
F71+F74=2FC9 F71+F80=2FC7 FB2+F71=2FAD;2FC3 FB2+F71+F72=2FAD;2FC5 FB2+F71+F74=2FAD;2FC9
FB2+F71+F80=2FCB FB2+F80=2FCA FB3+F71=2FB0;2FC3 FB3+F71+F72=2FB0;2FC5 FB3+F71+F74=2FB0;2FC9
FB3+F71+F80=2FCD FB3+F80=2FCC 1025+102E=328A 19B5+1980=3390;33C1 19B5+1981=3391;33C1
19B5+1982=3392;33C1 19B5+1983=3393;33C1 19B5+1984=3394;33C1 19B5+1985=3395;33C1 19B5+1986=3396;33C1
19B5+1987=3397;33C1 19B5+1988=3398;33C1 19B5+1989=3399;33C1 19B5+198A=339A;33C1 19B5+198B=339B;33C1
19B5+198C=339C;33C1 19B5+198D=339D;33C1 19B5+198E=339E;33C1 19B5+198F=339F;33C1 19B5+1990=33A0;33C1
19B5+1991=33A1;33C1 19B5+1992=33A2;33C1 19B5+1993=33A3;33C1 19B5+1994=33A4;33C1 19B5+1995=33A5;33C1
19B5+1996=33A6;33C1 19B5+1997=33A7;33C1 19B5+1998=33A8;33C1 19B5+1999=33A9;33C1 19B5+199A=33AA;33C1
19B5+199B=33AB;33C1 19B5+199C=33AC;33C1 19B5+199D=33AD;33C1 19B5+199E=33AE;33C1 19B5+199F=33AF;33C1
19B5+19A0=33B0;33C1 19B5+19A1=33B1;33C1 19B5+19A2=33B2;33C1 19B5+19A3=33B3;33C1 19B5+19A4=33B4;33C1
19B5+19A5=33B5;33C1 19B5+19A6=33B6;33C1 19B5+19A7=33B7;33C1 19B5+19A8=33B8;33C1 19B5+19A9=33B9;33C1
19B5+19AA=33BA;33C1 19B5+19AB=33BB;33C1 19B6+1980=3390;33C2 19B6+1981=3391;33C2 19B6+1982=3392;33C2
19B6+1983=3393;33C2 19B6+1984=3394;33C2 19B6+1985=3395;33C2 19B6+1986=3396;33C2 19B6+1987=3397;33C2
19B6+1988=3398;33C2 19B6+1989=3399;33C2 19B6+198A=339A;33C2 19B6+198B=339B;33C2 19B6+198C=339C;33C2
19B6+198D=339D;33C2 19B6+198E=339E;33C2 19B6+198F=339F;33C2 19B6+1990=33A0;33C2 19B6+1991=33A1;33C2
19B6+1992=33A2;33C2 19B6+1993=33A3;33C2 19B6+1994=33A4;33C2 19B6+1995=33A5;33C2 19B6+1996=33A6;33C2
19B6+1997=33A7;33C2 19B6+1998=33A8;33C2 19B6+1999=33A9;33C2 19B6+199A=33AA;33C2 19B6+199B=33AB;33C2
19B6+199C=33AC;33C2 19B6+199D=33AD;33C2 19B6+199E=33AE;33C2 19B6+199F=33AF;33C2 19B6+19A0=33B0;33C2
19B6+19A1=33B1;33C2 19B6+19A2=33B2;33C2 19B6+19A3=33B3;33C2 19B6+19A4=33B4;33C2 19B6+19A5=33B5;33C2
19B6+19A6=33B6;33C2 19B6+19A7=33B7;33C2 19B6+19A8=33B8;33C2 19B6+19A9=33B9;33C2 19B6+19AA=33BA;33C2
19B6+19AB=33BB;33C2 19B7+1980=3390;33C3 19B7+1981=3391;33C3 19B7+1982=3392;33C3 19B7+1983=3393;33C3
19B7+1984=3394;33C3 19B7+1985=3395;33C3 19B7+1986=3396;33C3 19B7+1987=3397;33C3 19B7+1988=3398;33C3
19B7+1989=3399;33C3 19B7+198A=339A;33C3 19B7+198B=339B;33C3 19B7+198C=339C;33C3 19B7+198D=339D;33C3
19B7+198E=339E;33C3 19B7+198F=339F;33C3 19B7+1990=33A0;33C3 19B7+1991=33A1;33C3 19B7+1992=33A2;33C3
19B7+1993=33A3;33C3 19B7+1994=33A4;33C3 19B7+1995=33A5;33C3 19B7+1996=33A6;33C3 19B7+1997=33A7;33C3
19B7+1998=33A8;33C3 19B7+1999=33A9;33C3 19B7+199A=33AA;33C3 19B7+199B=33AB;33C3 19B7+199C=33AC;33C3
19B7+199D=33AD;33C3 19B7+199E=33AE;33C3 19B7+199F=33AF;33C3 19B7+19A0=33B0;33C3 19B7+19A1=33B1;33C3
19B7+19A2=33B2;33C3 19B7+19A3=33B3;33C3 19B7+19A4=33B4;33C3 19B7+19A5=33B5;33C3 19B7+19A6=33B6;33C3
19B7+19A7=33B7;33C3 19B7+19A8=33B8;33C3 19B7+19A9=33B9;33C3 19B7+19AA=33BA;33C3 19B7+19AB=33BB;33C3
19BA+1980=3390;33C6 19BA+1981=3391;33C6 19BA+1982=3392;33C6 19BA+1983=3393;33C6 19BA+1984=3394;33C6
19BA+1985=3395;33C6 19BA+1986=3396;33C6 19BA+1987=3397;33C6 19BA+1988=3398;33C6 19BA+1989=3399;33C6
19BA+198A=339A;33C6 19BA+198B=339B;33C6 19BA+198C=339C;33C6 19BA+198D=339D;33C6 19BA+198E=339E;33C6
19BA+198F=339F;33C6 19BA+1990=33A0;33C6 19BA+1991=33A1;33C6 19BA+1992=33A2;33C6 19BA+1993=33A3;33C6
19BA+1994=33A4;33C6 19BA+1995=33A5;33C6 19BA+1996=33A6;33C6 19BA+1997=33A7;33C6 19BA+1998=33A8;33C6
19BA+1999=33A9;33C6 19BA+199A=33AA;33C6 19BA+199B=33AB;33C6 19BA+199C=33AC;33C6 19BA+199D=33AD;33C6
19BA+199E=33AE;33C6 19BA+199F=33AF;33C6 19BA+19A0=33B0;33C6 19BA+19A1=33B1;33C6 19BA+19A2=33B2;33C6
19BA+19A3=33B3;33C6 19BA+19A4=33B4;33C6 19BA+19A5=33B5;33C6 19BA+19A6=33B6;33C6 19BA+19A7=33B7;33C6
19BA+19A8=33B8;33C6 19BA+19A9=33B9;33C6 19BA+19AA=33BA;33C6 19BA+19AB=33BB;33C6 1B05+1B35=346C
1B07+1B35=346E 1B09+1B35=3470 1B0B+1B35=3472 1B0D+1B35=3474 1B11+1B35=3478 1B3A+1B35=34A7
1B3C+1B35=34A9 1B3E+1B35=34AC 1B3F+1B35=34AD 1B42+1B35=34AF AAB5+AA80=2F2F;2F64 AAB5+AA81=2F30;2F64
AAB5+AA82=2F31;2F64 AAB5+AA83=2F32;2F64 AAB5+AA84=2F33;2F64 AAB5+AA85=2F34;2F64 AAB5+AA86=2F35;2F64
AAB5+AA87=2F36;2F64 AAB5+AA88=2F37;2F64 AAB5+AA89=2F38;2F64 AAB5+AA8A=2F39;2F64 AAB5+AA8B=2F3A;2F64
AAB5+AA8C=2F3B;2F64 AAB5+AA8D=2F3C;2F64 AAB5+AA8E=2F3D;2F64 AAB5+AA8F=2F3E;2F64 AAB5+AA90=2F3F;2F64
AAB5+AA91=2F40;2F64 AAB5+AA92=2F41;2F64 AAB5+AA93=2F42;2F64 AAB5+AA94=2F43;2F64 AAB5+AA95=2F44;2F64
AAB5+AA96=2F45;2F64 AAB5+AA97=2F46;2F64 AAB5+AA98=2F47;2F64 AAB5+AA99=2F48;2F64 AAB5+AA9A=2F49;2F64
AAB5+AA9B=2F4A;2F64 AAB5+AA9C=2F4B;2F64 AAB5+AA9D=2F4C;2F64 AAB5+AA9E=2F4D;2F64 AAB5+AA9F=2F4E;2F64
AAB5+AAA0=2F4F;2F64 AAB5+AAA1=2F50;2F64 AAB5+AAA2=2F51;2F64 AAB5+AAA3=2F52;2F64 AAB5+AAA4=2F53;2F64
AAB5+AAA5=2F54;2F64 AAB5+AAA6=2F55;2F64 AAB5+AAA7=2F56;2F64 AAB5+AAA8=2F57;2F64 AAB5+AAA9=2F58;2F64
AAB5+AAAA=2F59;2F64 AAB5+AAAB=2F5A;2F64 AAB5+AAAC=2F5B;2F64 AAB5+AAAD=2F5C;2F64 AAB5+AAAE=2F5D;2F64
AAB5+AAAF=2F5E;2F64 AAB6+AA80=2F2F;2F65 AAB6+AA81=2F30;2F65 AAB6+AA82=2F31;2F65 AAB6+AA83=2F32;2F65
AAB6+AA84=2F33;2F65 AAB6+AA85=2F34;2F65 AAB6+AA86=2F35;2F65 AAB6+AA87=2F36;2F65 AAB6+AA88=2F37;2F65
AAB6+AA89=2F38;2F65 AAB6+AA8A=2F39;2F65 AAB6+AA8B=2F3A;2F65 AAB6+AA8C=2F3B;2F65 AAB6+AA8D=2F3C;2F65
AAB6+AA8E=2F3D;2F65 AAB6+AA8F=2F3E;2F65 AAB6+AA90=2F3F;2F65 AAB6+AA91=2F40;2F65 AAB6+AA92=2F41;2F65
AAB6+AA93=2F42;2F65 AAB6+AA94=2F43;2F65 AAB6+AA95=2F44;2F65 AAB6+AA96=2F45;2F65 AAB6+AA97=2F46;2F65
AAB6+AA98=2F47;2F65 AAB6+AA99=2F48;2F65 AAB6+AA9A=2F49;2F65 AAB6+AA9B=2F4A;2F65 AAB6+AA9C=2F4B;2F65
AAB6+AA9D=2F4C;2F65 AAB6+AA9E=2F4D;2F65 AAB6+AA9F=2F4E;2F65 AAB6+AAA0=2F4F;2F65 AAB6+AAA1=2F50;2F65
AAB6+AAA2=2F51;2F65 AAB6+AAA3=2F52;2F65 AAB6+AAA4=2F53;2F65 AAB6+AAA5=2F54;2F65 AAB6+AAA6=2F55;2F65
AAB6+AAA7=2F56;2F65 AAB6+AAA8=2F57;2F65 AAB6+AAA9=2F58;2F65 AAB6+AAAA=2F59;2F65 AAB6+AAAB=2F5A;2F65
AAB6+AAAC=2F5B;2F65 AAB6+AAAD=2F5C;2F65 AAB6+AAAE=2F5D;2F65 AAB6+AAAF=2F5E;2F65 AAB9+AA80=2F2F;2F68
AAB9+AA81=2F30;2F68 AAB9+AA82=2F31;2F68 AAB9+AA83=2F32;2F68 AAB9+AA84=2F33;2F68 AAB9+AA85=2F34;2F68
AAB9+AA86=2F35;2F68 AAB9+AA87=2F36;2F68 AAB9+AA88=2F37;2F68 AAB9+AA89=2F38;2F68 AAB9+AA8A=2F39;2F68
AAB9+AA8B=2F3A;2F68 AAB9+AA8C=2F3B;2F68 AAB9+AA8D=2F3C;2F68 AAB9+AA8E=2F3D;2F68 AAB9+AA8F=2F3E;2F68
AAB9+AA90=2F3F;2F68 AAB9+AA91=2F40;2F68 AAB9+AA92=2F41;2F68 AAB9+AA93=2F42;2F68 AAB9+AA94=2F43;2F68
AAB9+AA95=2F44;2F68 AAB9+AA96=2F45;2F68 AAB9+AA97=2F46;2F68 AAB9+AA98=2F47;2F68 AAB9+AA99=2F48;2F68
AAB9+AA9A=2F49;2F68 AAB9+AA9B=2F4A;2F68 AAB9+AA9C=2F4B;2F68 AAB9+AA9D=2F4C;2F68 AAB9+AA9E=2F4D;2F68
AAB9+AA9F=2F4E;2F68 AAB9+AAA0=2F4F;2F68 AAB9+AAA1=2F50;2F68 AAB9+AAA2=2F51;2F68 AAB9+AAA3=2F52;2F68
AAB9+AAA4=2F53;2F68 AAB9+AAA5=2F54;2F68 AAB9+AAA6=2F55;2F68 AAB9+AAA7=2F56;2F68 AAB9+AAA8=2F57;2F68
AAB9+AAA9=2F58;2F68 AAB9+AAAA=2F59;2F68 AAB9+AAAB=2F5A;2F68 AAB9+AAAC=2F5B;2F68 AAB9+AAAD=2F5C;2F68
AAB9+AAAE=2F5D;2F68 AAB9+AAAF=2F5E;2F68 AABB+AA80=2F2F;2F6A AABB+AA81=2F30;2F6A AABB+AA82=2F31;2F6A
AABB+AA83=2F32;2F6A AABB+AA84=2F33;2F6A AABB+AA85=2F34;2F6A AABB+AA86=2F35;2F6A AABB+AA87=2F36;2F6A
AABB+AA88=2F37;2F6A AABB+AA89=2F38;2F6A AABB+AA8A=2F39;2F6A AABB+AA8B=2F3A;2F6A AABB+AA8C=2F3B;2F6A
AABB+AA8D=2F3C;2F6A AABB+AA8E=2F3D;2F6A AABB+AA8F=2F3E;2F6A AABB+AA90=2F3F;2F6A AABB+AA91=2F40;2F6A
AABB+AA92=2F41;2F6A AABB+AA93=2F42;2F6A AABB+AA94=2F43;2F6A AABB+AA95=2F44;2F6A AABB+AA96=2F45;2F6A
AABB+AA97=2F46;2F6A AABB+AA98=2F47;2F6A AABB+AA99=2F48;2F6A AABB+AA9A=2F49;2F6A AABB+AA9B=2F4A;2F6A
AABB+AA9C=2F4B;2F6A AABB+AA9D=2F4C;2F6A AABB+AA9E=2F4D;2F6A AABB+AA9F=2F4E;2F6A AABB+AAA0=2F4F;2F6A
AABB+AAA1=2F50;2F6A AABB+AAA2=2F51;2F6A AABB+AAA3=2F52;2F6A AABB+AAA4=2F53;2F6A AABB+AAA5=2F54;2F6A
AABB+AAA6=2F55;2F6A AABB+AAA7=2F56;2F6A AABB+AAA8=2F57;2F6A AABB+AAA9=2F58;2F6A AABB+AAAA=2F59;2F6A
AABB+AAAB=2F5A;2F6A AABB+AAAC=2F5B;2F6A AABB+AAAD=2F5C;2F6A AABB+AAAE=2F5D;2F6A AABB+AAAF=2F5E;2F6A
AABC+AA80=2F2F;2F6B AABC+AA81=2F30;2F6B AABC+AA82=2F31;2F6B AABC+AA83=2F32;2F6B AABC+AA84=2F33;2F6B
AABC+AA85=2F34;2F6B AABC+AA86=2F35;2F6B AABC+AA87=2F36;2F6B AABC+AA88=2F37;2F6B AABC+AA89=2F38;2F6B
AABC+AA8A=2F39;2F6B AABC+AA8B=2F3A;2F6B AABC+AA8C=2F3B;2F6B AABC+AA8D=2F3C;2F6B AABC+AA8E=2F3D;2F6B
AABC+AA8F=2F3E;2F6B AABC+AA90=2F3F;2F6B AABC+AA91=2F40;2F6B AABC+AA92=2F41;2F6B AABC+AA93=2F42;2F6B
AABC+AA94=2F43;2F6B AABC+AA95=2F44;2F6B AABC+AA96=2F45;2F6B AABC+AA97=2F46;2F6B AABC+AA98=2F47;2F6B
AABC+AA99=2F48;2F6B AABC+AA9A=2F49;2F6B AABC+AA9B=2F4A;2F6B AABC+AA9C=2F4B;2F6B AABC+AA9D=2F4C;2F6B
AABC+AA9E=2F4D;2F6B AABC+AA9F=2F4E;2F6B AABC+AAA0=2F4F;2F6B AABC+AAA1=2F50;2F6B AABC+AAA2=2F51;2F6B
AABC+AAA3=2F52;2F6B AABC+AAA4=2F53;2F6B AABC+AAA5=2F54;2F6B AABC+AAA6=2F55;2F6B AABC+AAA7=2F56;2F6B
AABC+AAA8=2F57;2F6B AABC+AAA9=2F58;2F6B AABC+AAAA=2F59;2F6B AABC+AAAB=2F5A;2F6B AABC+AAAC=2F5B;2F6B
AABC+AAAD=2F5C;2F6B AABC+AAAE=2F5D;2F6B AABC+AAAF=2F5E;2F6B FDD1+34=1CB9 FDD1+4C=1EC0 FDD1+A0=2
FDD1+3A9=2070 FDD1+3E2=209E FDD1+42F=20DB FDD1+531=2228 FDD1+5D0=2252 FDD1+628=229B FDD1+710=2388
FDD1+78C=23C9 FDD1+7CA=23FC FDD1+800=2280 FDD1+840=23AF FDD1+905=2639 FDD1+995=26A0 FDD1+A15=26E3
FDD1+A95=271D FDD1+B15=2763 FDD1+B95=27A7 FDD1+C15=27DA FDD1+C95=2825 FDD1+D15=2870 FDD1+D85=28BB
FDD1+E17=2EAD FDD1+EA5=2EEE FDD1+F40=2F72 FDD1+1000=3218 FDD1+10D3=21D1 FDD1+12A0=2457
FDD1+13C4=35D3 FDD1+14C0=364F FDD1+168F=3923 FDD1+16A0=393E FDD1+1703=3126 FDD1+1723=313E
FDD1+1743=3154 FDD1+1763=3169 FDD1+1780=3324 FDD1+1826=3529 FDD1+1900=30F3 FDD1+1950=336B
FDD1+1980=338F FDD1+1A00=317C FDD1+1A20=33D6 FDD1+1B05=346A FDD1+1B83=2DC6 FDD1+1BC0=31B1
FDD1+1C00=3083 FDD1+1C5A=35AE FDD1+201C=C FDD1+20AC=1C82 FDD1+263A=2E4 FDD1+2C00=2179
FDD1+2D30=241D FDD1+304B=3FED FDD1+30AB=3FED FDD1+3105=4140 FDD1+5B57=7910 FDD1+A288=4179
FDD1+A4D0=4607 FDD1+A549=39C5 FDD1+A6A0=3AD3 FDD1+A800=2949 FDD1+A840=30BE FDD1+A882=2972
FDD1+A90A=31F6 FDD1+A930=31D1 FDD1+A984=34B1 FDD1+AA00=3424 FDD1+AA80=2F2E FDD1+ABC0=2909
FDD1+AC00=3E87 FDD1+10000=4AD9 FDD1+10280=481D FDD1+102A0=483B FDD1+10300=4888 FDD1+10330=48AC
FDD1+1036B=21AA FDD1+10380=4F64 FDD1+103A0=4F83 FDD1+10414=48C8 FDD1+10450=48F1 FDD1+10480=49AE
FDD1+104B5=362A FDD1+10500=49CD FDD1+10537=49F6 FDD1+10582=4A2B FDD1+10647=4BAD FDD1+10800=4D03
FDD1+10840=4E53 FDD1+10873=4E0F FDD1+10896=4E26 FDD1+108F4=4E3D FDD1+10900=2269 FDD1+10920=486D
FDD1+10980=5846 FDD1+109A0=5846 FDD1+10A00=2E43 FDD1+10A60=4D9D FDD1+10A95=4DBB FDD1+10AD8=4EBF
FDD1+10B00=4DD9 FDD1+10B40=4E6A FDD1+10B60=4E81 FDD1+10B8F=4E95 FDD1+10C00=3997 FDD1+10CA1=396D
FDD1+10D12=32C8 FDD1+10E88=4F21 FDD1+10F19=4EE4 FDD1+10F42=4EF8 FDD1+10F7C=4F0E FDD1+10FBF=4F4E
FDD1+10FF1=4EA8 FDD1+11005=2DF7 FDD1+11083=29B6 FDD1+110D0=4A4F FDD1+11103=32ED FDD1+11152=29EC
FDD1+11183=2A11 FDD1+11208=2A57 FDD1+1128F=2AC9 FDD1+112BE=2A8F FDD1+11315=2AEF FDD1+11412=2B34
FDD1+11484=2B7F FDD1+1158E=2BC3 FDD1+1160E=2BFF FDD1+11680=2C3F FDD1+11717=2D27 FDD1+1180B=2CEE
FDD1+118B4=46C9 FDD1+1190C=2C76 FDD1+119CE=2CAF FDD1+11A0B=2FD3 FDD1+11A5C=3009 FDD1+11AC0=46EB
FDD1+11C0E=2E70 FDD1+11C72=3042 FDD1+11D10=2D56 FDD1+11D71=2D92 FDD1+11EE5=3199 FDD1+11F1B=34EC
FDD1+12000=4FB0 FDD1+12FE5=4D3B FDD1+13153=540F FDD1+14400=5862 FDD1+16A4F=4A69 FDD1+16ABC=4A89
FDD1+16AE6=3D5D FDD1+16B1C=4725 FDD1+16E40=3E42 FDD1+16F00=4637 FDD1+18229=5AAA FDD1+18C65=7739
FDD1+1B1C4=75AC FDD1+1BC20=4922 FDD1+1E108=4780 FDD1+1E290=47B4 FDD1+1E2E1=47D3 FDD1+1E4E6=4800
FDD1+1E802=3D7C FDD1+1E909=3E63 11131+11127=331B 11132+11127=331C 11347+1133E=2B2F 11347+11357=2B30
114B9+114B0=2BBF 114B9+114BA=2BBE 114B9+114BD=2BC1 115B8+115AF=2BFC 115B9+115AF=2BFD
11935+11930=2CAC 4C|B7=.106 6C|B7=.106"

end Collation

end StyleHost
