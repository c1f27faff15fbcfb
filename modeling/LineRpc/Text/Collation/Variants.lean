import LineRpc.Text.CodePoints

/-!
# Variants — characters that are forms of others

Many characters are others in another form: capital letters, letters in a circle or in another font,
several letters in one, letters of a syllabary in its other style. They stand at the place of the
others, and only their form tells them apart.

- `Form`                      : the forms of characters
- `Form.apply`                : the rank of a character in a form
- `Collation.variantTable`    : the characters that are forms of others
- `Collation.pairTable`       : pairs of characters that count as one
-/

namespace LineRpc

inductive Form
  /-- The same characters in another spelling. -/
  | plain
  | wide
  | alternative
  | font
  | circled
  | capital
  | smallHiragana
  | small
  | narrowSmall
  | katakana
  | narrow
  | circledKatakana
  | raised
  | lowered
  | vertical
  | initial
  | medial
  | final
  | isolated
  | unbroken
  | squared
  | fraction
  deriving DecidableEq, Repr

namespace Form

/-- The rank of a letter that has no other form. -/
def usual : Nat :=
  2

/-- The rank of a letter of a syllabary that has no other form. -/
def usualSyllable : Nat :=
  14

/-- The rank of a form, for all but capital letters. A plain form keeps the rank that it has. -/
def rank : Form → Nat
  | .plain => 0
  | .wide => 3
  | .alternative => 4
  | .font => 5
  | .circled => 6
  | .capital => 8
  | .smallHiragana => 13
  | .small => 15
  | .narrowSmall => 16
  | .katakana => 17
  | .narrow => 18
  | .circledKatakana => 19
  | .raised => 20
  | .lowered => 21
  | .vertical => 22
  | .initial => 23
  | .medial => 24
  | .final => 25
  | .isolated => 26
  | .unbroken => 27
  | .squared => 28
  | .fraction => 30

def capitalRank : Form → Nat
  | .wide => 9
  | .alternative => 10
  | .font => 11
  | .circled => 12
  | .raised => 29
  | .lowered => 29
  | .squared => 29
  | f => f.rank

def isCapitalRank (rank : Nat) : Bool :=
  (8 ≤ rank && rank ≤ 12) || rank == 29

/-- The rank of a character in a form, given the rank that it has without it. -/
def apply (f : Form) (rank : Nat) : Nat :=
  if f = .plain then rank else if isCapitalRank rank then f.capitalRank else f.rank

end Form

namespace Collation

def firstVariantMark : Nat :=
  0x110000

/-- Characters by the form they have, with the characters that they are forms of. -/
def variants : List (Form × String) :=
  [ (.plain, "
    D8=4F+338 F8=6F+338 110=44+335 111=64+335 126=48+335 127=68+335 13F=4C+110000 140=6C+110000
    141=4C+335 142=6C+335 384=B4 5F3=27+110004 5F4=22+110008 660-669=30 6F0-6F9=30 7C0-7C9=30
    966-96F=30 9E6-9EF=30 A66-A6F=30 AE6-AEF=30 B66-B6F=30 BE6-BEF=30 C66-C6F=30 C78-C7B=30
    C7C-C7E=31 CE6-CEF=30 D66-D6F=30 DE6-DEF=30 E50-E59=30 ED0-ED9=30 F20-F29=30 1040-1049=30
    1090-1099=30 1369-1371=31 17E0-17E9=30 17F0-17F9=30 1810-1819=30 1946-194F=30 19D0-19D9=30
    19DA=31 1A80-1A89=30 1A90-1A99=30 1B50-1B59=30 1BB0-1BB9=30 1C40-1C49=30 1C50-1C59=30 1DE3=A75B
    1FBF=1FBD 2018=27+110000 2019=27+110001 201A=27+110002 201B=27+110003 201C=22+110000
    201D=22+110001 201E=22+110002 201F=22+110003 210F=68+335 2185=36 2E42=22+110004 3007=30
    301D=22+110005 301E=22+110006 301F=22+110007 3021-3029=31 3032=3031+3099 3034=3033+3099
    A620-A629=30 A75B=72+110001 A7C3=77+110000 A7D9=73+110003 A8D0-A8D9=30 A900-A909=30
    A9D0-A9D9=30 A9F0-A9F9=30 AA50-AA59=30 ABF0-ABF9=30 10107-1010F=31 10142=31 10143=35 10148=35
    1014F=35 10158=31 10159=31 1015A-1015B=31 1015C=32 1015D=32 1015E=32 1015F=35 10173=35 1018A=30
    102E1-102E9=31 10320=31 10321=35 103D1-103D2=31 104A0-104A9=30 10858-1085A=31 10879-1087D=31
    108A7-108AA=31 108AB-108AC=34 108FB=31 108FC=35 10916=31 1091A-1091B=32 109C0-109C8=31
    10A40-10A43=31 10A7D=31 10A9D=31 10AEB=31 10AEC=35 10B58-10B5B=31 10B78-10B7B=31 10BA9-10BAC=31
    10CFA=31 10CFB=35 10D30-10D39=30 10D40-10D49=30 10E60-10E68=31 10EC6=646+110000 10F1D-10F21=31
    10F51=31 10FC5-10FC8=31 11052-1105A=31 11066-1106F=30 110F0-110F9=30 11136-1113F=30
    111D0-111D9=30 111E1-111E9=31 112F0-112F9=30 11450-11459=30 114D0-114D9=30 11650-11659=30
    116C0-116C9=30 116D0-116D9=30 116DA-116E3=30 11730-11739=30 118E0-118E9=30 11950-11959=30
    11BF0-11BF9=30 11C50-11C59=30 11C5A-11C62=31 11D50-11D59=30 11DA0-11DA9=30 11DE0-11DE9=30
    11F50-11F59=30 12400-12407=32 12408-1240E=33 1240F-12414=34 12415-1241D=31 1241E-12422=31
    12423-12424=32 12425-1242B=33 1242C-1242E=31 1242F-12431=33 12434-12436=31 12437-12439=33
    1243A=33 1243B-1243C=33 1243D=34 1243E=34 1243F=34 12440-12441=36 12442=37 12443-12444=37
    12445-12446=38 12447=39 12448=39 12449=39 1244A-1244E=32 1244F-12452=31 12453-12454=34 12455=35
    12456-12457=32 12458-12459=31 12469-1246E=34 16130-16139=30 16A60-16A69=30 16AC0-16AC9=30
    16B50-16B59=30 16D70-16D79=30 16E80-16E89=30 16E96=33+110000 1D2C0-1D2C9=30 1D2E0-1D2E9=30
    1D360-1D368=31 1D372-1D376=31 1D377=31 1D378=35 1E067=433+110000 1E140-1E149=30 1E2F0-1E2F9=30
    1E4F0-1E4F9=30 1E5F1-1E5FA=30 1E8C7-1E8CF=31 1E950-1E959=30 1EC71-1EC79=31 1ECA3-1ECAB=31
    1ED01-1ED09=31"),
    (.wide, "
    3000=20 FF01-FF5E=21 FF5F-FF60=2985 FFE0-FFE1=A2 FFE2=AC FFE3=AF FFE4=A6 FFE5=A5 FFE6=20A9"),
    (.alternative, "
    B5=3BC C6=41+110000+45 D0=44+110000 DF=73+110000+73 E6=61+110000+65 F0=64+110000 132=49+4A
    133=69+6A 149=2BC+6E 152=4F+110000+45 153=6F+110000+65 17F=73+110001 18D=7A+77 1BE=74+73
    1C4=44+5A+30C 1C5=44+7A+30C 1C6=64+7A+30C 1C7=4C+4A 1C8=4C+6A 1C9=6C+6A 1CA=4E+4A 1CB=4E+6A
    1CC=6E+6A 1F1=44+5A 1F2=44+7A 1F3=64+7A 238=64+62 239=71+70 2A3=64+7A 2A4=64+292 2A5=64+291
    2A6=74+73 2A7=74+283 2A8=74+255 2A9=66+14B 2AA=6C+73 2AB=6C+7A 363=61 364=65 365=69 366=6F
    367=75 368-369=63 36A=68 36B=6D 36C=72 36D=74 36E=76 36F=78 37A=3B9 3CF=39A+3B1+3B9 3D0=3B2
    3D1=3B8 3D2=3A5 3D5=3C6 3D6=3C0 3D7=3BA+3B1+3B9 3F0=3BA 3F1=3C1 3F2=3C3 3F4=398 3F5=3B5 3F9=3A3
    490=413+110000 491=433+110000 587=565+582 5EF=5D9+5D4+5D5+5D4 5F0=5D5+5D5 5F1=5D5+5D9
    5F2=5D9+5D9 674=621 675=621+627 676=621+648 677=621+6C7 678=621+64A 6E5=648 6E6=64A
    6FD=621+110000 6FE=645+110000 714=713+110000 71C=71B+110000 727=726+110000 72D=712+110000
    72E=713+110001 72F=715+110000 7E8-7E9=7D6+110000 7EA=7D9+110000 870=627 871=627 872=627 873=627
    874=627 875=627 876=627 877=627 878=627 879=627 87A=627 87B=627 87C=627 87D=627 87E=627 87F=627
    880=627 881=627 882=627 883=621 884=648 885=64A 886=64A 887=621 897=653 8AD=627 8C9=6CC
    9CE=9A4+9CD C5C=C36+C4D+C30+C40 C5D=C28+C4D CDC=CB6+CCD+CB0+CC0 CDD=CA8+CCD D3B=D4D D3C=D4D
    D4E=D30+D4D D54-D55=D2E+D4D D56=D34+D4D D7A=D23+D4D D7B=D28+D4D D7C=D30+D4D D7D-D7E=D32+D4D
    D7F=D15+D4D EDC=EAB+E99 EDD=EAB+EA1 F00=F68+F7C+902 F2A-F32=31 F33=30 F6A=F62+110000
    FBA=FAD+110000 FBB-FBC=FB1+110000 102B=102C 103F=101E+1039+101E 1680=20 16A1=16A0+110000
    16A4=16A2+110000 16A5=16A2+110001 16A7=16A6+110000 16A9=16A8+110000 16AC=16A8+110001
    16AD=16A8+110002 16AE=16A8+110003 16B3=16B2+110000 16B4=16B2+110001 16B5=16B2+110002
    16B6=16B2+110003 16BB=16BA+110000 16BC=16BA+110001 16BD=16BA+110002 16BF=16BE+110000
    16C0=16BE+110001 16C2=16C1+110000 16C4=16C3+110000 16C6=16C5+110000 16CB=16CA+110000
    16CC=16CA+110002 16CD=16CA+110003 16CE=16CA+110004 16D0=16CF+110000 16D1=16CF+110001
    16D3=16D2+110000 16D4=16D2+110001 16D5=16C8+110000 16D8=16D7+110000 16D9=16D7+110001
    16DB=16DA+110000 16DD=16DC+110000 16E7=16E6+110000 16E8=16E6+110001 16E9=16B9+110000
    16EA=16CA+110001 16EE=16C5+16DA 16EF=16D7+110000+16D7+110000 16F0=16A6+16A6 191D=1908+1929
    191E=190B+192A 19DE=199C+19B6 19DF=199C+19B6+19C1 1A54=1A46+1A60+1A46 1A58=1A26 1A59=1A26
    1A5A=1A3B 1A5B=1A3B 1A64=1A63 1ABF=77 1AC0=28D 1ACC=67+110000 1ACD=72+110000 1ACE=74+110001
    1B4C=1B1A+1B44+1B1C 1BBA=1B83 1BC1=1BC0 1BC3=1BC2 1BC4=1BC2 1BC6=1BC5 1BC8=1BC7 1BCA=1BC9
    1BCC=1BCB 1BCD=1BCB 1BCF=1BCE 1BD3=1BD2 1BD5=1BD4 1BD7=1BD6 1BD9=1BD8 1BDA=1BD8 1BDC=1BDB
    1BDF=1BDE 1BE8=1BE7 1BEB=1BEA 1BED=1BEC 1BEF=1BEE 1C80=432 1C81=434 1C82=43E 1C83-1C84=441
    1C85=442 1C86=44A 1C87=463 1C88=A64B 1CEA=1CE9 1CEB=1CE9 1CEC=1CE9 1CEE=1CE9 1CEF=1CE9
    1CF0=1CE9 1CF1=1CE9 1CFA=1CE9 1D79=67+110000 1D7A=74+110000+68 1DCA=72 1DD2=A76F 1DD3=61+110000
    1DD4=61+110000+65 1DD5=61+6F 1DD6=61+76 1DD7=63+327 1DD8=64+110001 1DD9=64+110000 1DDA=67
    1DDB=262 1DDC-1DDD=6B 1DDE=29F 1DDF=1D0D 1DE0=6E 1DE1=274 1DE2=280 1DE4=73 1DE5=73+110001
    1DE6=7A 1DE7=251 1DE8=62 1DE9=A7B5 1DEA=259 1DEB=66 1DEC=AB38 1DED=6F+316 1DEE=70 1DEF=283
    1DF0=75+316 1DF1=77 1DF2=61+308 1DF3=6F+308 1DF4=75+308 1E9A=61+2BE 1E9E=53+110000+53
    1EFA=4C+4C 1EFB=6C+6C 2002=20 2003=20 2004=20 2005=20 2006=20 2008=20 2009=20 200A=20 2024=2E
    2025=2E+2E 2026=2E+2E+2E 2033=2032+2032 2034=2032+2032+2032 2036=2035+2035 2037=2035+2035+2035
    203C=21+21 2047=3F+3F 2048=3F+21 2049=21+3F 2057=2032+2032+2032+2032 205F=20 20A7=50+74+73
    20A8=52+73 2100=61+2F+63 2101=61+2F+73 2103=B0+43 2105=63+2F+6F 2106=63+2F+75 2107=190
    2109=B0+46 2116=4E+6F 2121=54+45+4C 2135-2138=5D0 213B=46+41+58 214D=41+2F+53 2160=49
    2161=49+49 2162=49+49+49 2163=49+56 2164=56 2165=56+49 2166=56+49+49 2167=56+49+49+49
    2168=49+58 2169=58 216A=58+49 216B=58+49+49 216C=4C 216D-216E=43 216F=4D 2170=69 2171=69+69
    2172=69+69+69 2173=69+76 2174=76 2175=76+69 2176=76+69+69 2177=76+69+69+69 2178=69+78 2179=78
    217A=78+69 217B=78+69+69 217C=6C 217D-217E=63 217F=6D 222C=222B+222B 222D=222B+222B+222B
    222F=222E+222E 2230=222E+222E+222E 2474=28+31+29 2475=28+32+29 2476=28+33+29 2477=28+34+29
    2478=28+35+29 2479=28+36+29 247A=28+37+29 247B=28+38+29 247C=28+39+29 247D=28+31+30+29
    247E=28+31+31+29 247F=28+31+32+29 2480=28+31+33+29 2481=28+31+34+29 2482=28+31+35+29
    2483=28+31+36+29 2484=28+31+37+29 2485=28+31+38+29 2486=28+31+39+29 2487=28+32+30+29
    2488-2490=31+2E 2491=31+30+2E 2492=31+31+2E 2493=31+32+2E 2494=31+33+2E 2495=31+34+2E
    2496=31+35+2E 2497=31+36+2E 2498=31+37+2E 2499=31+38+2E 249A=31+39+2E 249B=32+30+2E
    249C=28+61+29 249D=28+62+29 249E=28+63+29 249F=28+64+29 24A0=28+65+29 24A1=28+66+29
    24A2=28+67+29 24A3=28+68+29 24A4=28+69+29 24A5=28+6A+29 24A6=28+6B+29 24A7=28+6C+29
    24A8=28+6D+29 24A9=28+6E+29 24AA=28+6F+29 24AB=28+70+29 24AC=28+71+29 24AD=28+72+29
    24AE=28+73+29 24AF=28+74+29 24B0=28+75+29 24B1=28+76+29 24B2=28+77+29 24B3=28+78+29
    24B4=28+79+29 24B5=28+7A+29 2A0C=222B+222B+222B+222B 2A74=3A+3A+3D 2A75=3D+3D 2A76=3D+3D+3D
    2CE4=2C95+2C81+2C93 2DE0-2DE3=431 2DE4-2DE5=436 2DE6-2DEE=43A 2DEF-2DF3=445 2DF4=473
    2DF5=441+442 2DF6=430 2DF7=435 2DF8=A649 2DF9=A64B 2DFA=463 2DFB=44E 2DFC=A657 2DFD=467
    2DFE=46B 2DFF=46D 2E80=4E36+110000 2E81=5382+110000 2E82=4E5B 2E83=4E5A 2E84=4E59+110000
    2E85=4EBB 2E86=5182+110000 2E87=51E0+110000 2E88=5200+110000 2E89=5202 2E8A=535C+110000
    2E8B=5369+110000 2E8C=5C0F+110000 2E8D=5C0F+110001 2E8E=5C22+110000 2E8F=5C23 2E90=5C22
    2E91=5C23+110000 2E92=5DF3 2E93=5E7A 2E94=5F51 2E95=5F50+110000 2E96=5FC4 2E97=5FC3+110000
    2E98=624C 2E99=6535 2E9B=65E1 2E9C=65E5+110000 2E9D=6708+110000 2E9E=6B7A+110000 2E9F=6BCD
    2EA0=6C11 2EA1=6C35 2EA2=6C3A 2EA3=706C 2EA4=722B 2EA5=722B+110000 2EA6=4E2C 2EA7=725B+110000
    2EA8=72AD 2EA9=738B+110000 2EAA=758B+110000 2EAB=76EE+110000 2EAC=793A+110000 2EAD=793B
    2EAE=7AF9+110000 2EAF=7CF9 2EB0=7E9F 2EB1=7F53 2EB2=7F52 2EB3=7F53+110000 2EB4=7F53+110001
    2EB5=7F52+110000 2EB6=7F8A+110000 2EB7=7F8A+110001 2EB8=7F8B 2EB9=8002 2EBA=8080
    2EBB=807F+110000 2EBC=8089+110000 2EBD=81FC+110000 2EBE=8279 2EBF=8279+110000 2EC0=8279+110001
    2EC1=864E 2EC2=8864 2EC3=8980 2EC4=897F 2EC5=89C1 2EC6=89D2 2EC7=89D2+110000 2EC8=8BA0
    2EC9=8D1D 2ECA=8DB3+110000 2ECB=8F66 2ECC=8FB6 2ECD=8FB6+110000 2ECE=8FB6+110001
    2ECF=9091+110000 2ED0=9485 2ED1-2ED2=9577 2ED3=957F 2ED4=95E8 2ED5=961C+110000 2ED6=961D
    2ED7=96E8+110000 2ED8=9752 2ED9=97E6 2EDA=9875 2EDB=98CE 2EDC-2EDD=98DE 2EDE=98E0+110000
    2EDF=98E0 2EE0=9963 2EE1=9996+110000 2EE2=9A6C 2EE3=9AA8+110000 2EE4=9B3C+110000 2EE5=9C7C
    2EE6=9E1F 2EE7=9E75+110000 2EE8=9EA6 2EE9=9EC4 2EEA=9EFE 2EEB=9F4A+110000 2EEC=9F50
    2EED=9F52+110000 2EEE=9F7F 2EEF=9F8D+110000 2EF0=9F99 2EF1=9F9C+110000 2EF2=9F9C+110001
    2EF3=9F9F 2F00=4E00 2F01=4E28 2F02=4E36 2F03=4E3F 2F04=4E59 2F05=4E85 2F06=4E8C 2F07=4EA0
    2F08=4EBA 2F09=513F 2F0A=5165 2F0B=516B 2F0C=5182 2F0D=5196 2F0E=51AB 2F0F=51E0 2F10=51F5
    2F11=5200 2F12=529B 2F13=52F9 2F14=5315 2F15=531A 2F16=5338 2F17=5341 2F18=535C 2F19=5369
    2F1A=5382 2F1B=53B6 2F1C=53C8 2F1D=53E3 2F1E=56D7 2F1F=571F 2F20=58EB 2F21=5902 2F22=590A
    2F23=5915 2F24=5927 2F25=5973 2F26=5B50 2F27=5B80 2F28=5BF8 2F29=5C0F 2F2A=5C22 2F2B=5C38
    2F2C=5C6E 2F2D=5C71 2F2E=5DDB 2F2F=5DE5 2F30=5DF1 2F31=5DFE 2F32=5E72 2F33=5E7A 2F34=5E7F
    2F35=5EF4 2F36=5EFE 2F37=5F0B 2F38=5F13 2F39=5F50 2F3A=5F61 2F3B=5F73 2F3C=5FC3 2F3D=6208
    2F3E=6236 2F3F=624B 2F40=652F 2F41=6534 2F42=6587 2F43=6597 2F44=65A4 2F45=65B9 2F46=65E0
    2F47=65E5 2F48=66F0 2F49=6708 2F4A=6728 2F4B=6B20 2F4C=6B62 2F4D=6B79 2F4E=6BB3 2F4F=6BCB
    2F50=6BD4 2F51=6BDB 2F52=6C0F 2F53=6C14 2F54=6C34 2F55=706B 2F56=722A 2F57=7236 2F58=723B
    2F59=723F 2F5A=7247 2F5B=7259 2F5C=725B 2F5D=72AC 2F5E=7384 2F5F=7389 2F60=74DC 2F61=74E6
    2F62=7518 2F63=751F 2F64=7528 2F65=7530 2F66=758B 2F67=7592 2F68=7676 2F69=767D 2F6A=76AE
    2F6B=76BF 2F6C=76EE 2F6D=77DB 2F6E=77E2 2F6F=77F3 2F70=793A 2F71=79B8 2F72=79BE 2F73=7A74
    2F74=7ACB 2F75=7AF9 2F76=7C73 2F77=7CF8 2F78=7F36 2F79=7F51 2F7A=7F8A 2F7B=7FBD 2F7C=8001
    2F7D=800C 2F7E=8012 2F7F=8033 2F80=807F 2F81=8089 2F82=81E3 2F83=81EA 2F84=81F3 2F85=81FC
    2F86=820C 2F87=821B 2F88=821F 2F89=826E 2F8A=8272 2F8B=8278 2F8C=864D 2F8D=866B 2F8E=8840
    2F8F=884C 2F90=8863 2F91=897E 2F92=898B 2F93=89D2 2F94=8A00 2F95=8C37 2F96=8C46 2F97=8C55
    2F98=8C78 2F99=8C9D 2F9A=8D64 2F9B=8D70 2F9C=8DB3 2F9D=8EAB 2F9E=8ECA 2F9F=8F9B 2FA0=8FB0
    2FA1=8FB5 2FA2=9091 2FA3=9149 2FA4=91C6 2FA5=91CC 2FA6=91D1 2FA7=9577 2FA8=9580 2FA9=961C
    2FAA=96B6 2FAB=96B9 2FAC=96E8 2FAD=9751 2FAE=975E 2FAF=9762 2FB0=9769 2FB1=97CB 2FB2=97ED
    2FB3=97F3 2FB4=9801 2FB5=98A8 2FB6=98DB 2FB7=98DF 2FB8=9996 2FB9=9999 2FBA=99AC 2FBB=9AA8
    2FBC=9AD8 2FBD=9ADF 2FBE=9B25 2FBF=9B2F 2FC0=9B32 2FC1=9B3C 2FC2=9B5A 2FC3=9CE5 2FC4=9E75
    2FC5=9E7F 2FC6=9EA5 2FC7=9EBB 2FC8=9EC3 2FC9=9ECD 2FCA=9ED1 2FCB=9EF9 2FCC=9EFD 2FCD=9F0E
    2FCE=9F13 2FCF=9F20 2FD0=9F3B 2FD1=9F4A 2FD2=9F52 2FD3=9F8D 2FD4=9F9C 2FD5=9FA0 3006=3057+3081
    3036=3012 3038=5341 3039-303A=5344 303C=307E+3059 312E=311C 3131-3132=1100 3133=11AA 3134=1102
    3135-3136=11AC 3137-3139=1103 313A-313F=11B0 3140=111A 3141-3143=1106 3144=1121 3145-314E=1109
    314F-3163=1161 3164=1160 3165-3166=1114 3167-3168=11C7 3169=11CC 316A=11CE 316B=11D3 316C=11D7
    316D=11D9 316E=111C 316F=11DD 3170=11DF 3171-3172=111D 3173=1120 3174-3175=1122 3176=1127
    3177=1129 3178-317C=112B 317D=1132 317E=1136 317F=1140 3180=1147 3181=114C 3182-3183=11F1
    3184-3186=1157 3187-3188=1184 3189=1188 318A-318B=1191 318C=1194 318D=119E 318E=11A1
    31A0=3105+110000 31A1=3117+110000 31A2=3110+110000 31A3=310D+110000 31A5=31A4+110000
    31A7=311B+110000 31A8=3128+110001 31A9=311A+110000 31AA-31AB=3127+110000 31AE=311E+110000
    31AF=3120+110000 3200=28+1100+29 3201=28+1102+29 3202=28+1103+29 3203=28+1105+29
    3204=28+1106+29 3205=28+1107+29 3206=28+1109+29 3207=28+110B+29 3208=28+110C+29 3209=28+110E+29
    320A=28+110F+29 320B=28+1110+29 320C=28+1111+29 320D=28+1112+29 320E=28+1100+1161+29
    320F=28+1102+1161+29 3210=28+1103+1161+29 3211=28+1105+1161+29 3212=28+1106+1161+29
    3213=28+1107+1161+29 3214=28+1109+1161+29 3215=28+110B+1161+29 3216=28+110C+1161+29
    3217=28+110E+1161+29 3218=28+110F+1161+29 3219=28+1110+1161+29 321A=28+1111+1161+29
    321B=28+1112+1161+29 321C=28+110C+116E+29 321D=28+110B+1169+110C+1165+11AB+29
    321E=28+110B+1169+1112+116E+29 3220=28+4E00+29 3221=28+4E8C+29 3222=28+4E09+29 3223=28+56DB+29
    3224=28+4E94+29 3225=28+516D+29 3226=28+4E03+29 3227=28+516B+29 3228=28+4E5D+29 3229=28+5341+29
    322A=28+6708+29 322B=28+706B+29 322C=28+6C34+29 322D=28+6728+29 322E=28+91D1+29 322F=28+571F+29
    3230=28+65E5+29 3231=28+682A+29 3232=28+6709+29 3233=28+793E+29 3234=28+540D+29 3235=28+7279+29
    3236=28+8CA1+29 3237=28+795D+29 3238=28+52B4+29 3239=28+4EE3+29 323A=28+547C+29 323B=28+5B66+29
    323C=28+76E3+29 323D=28+4F01+29 323E=28+8CC7+29 323F=28+5354+29 3240=28+796D+29 3241=28+4F11+29
    3242=28+81EA+29 3243=28+81F3+29 32C0-32C8=31+6708 32C9=31+30+6708 32CA=31+31+6708
    32CB=31+32+6708 3358-3361=30+70B9 3362=31+30+70B9 3363=31+31+70B9 3364=31+32+70B9
    3365=31+33+70B9 3366=31+34+70B9 3367=31+35+70B9 3368=31+36+70B9 3369=31+37+70B9 336A=31+38+70B9
    336B=31+39+70B9 336C=32+30+70B9 336D=32+31+70B9 336E=32+32+70B9 336F=32+33+70B9 3370=32+34+70B9
    33E0-33E8=31+65E5 33E9=31+30+65E5 33EA=31+31+65E5 33EB=31+32+65E5 33EC=31+33+65E5
    33ED=31+34+65E5 33EE=31+35+65E5 33EF=31+36+65E5 33F0=31+37+65E5 33F1=31+38+65E5 33F2=31+39+65E5
    33F3=32+30+65E5 33F4=32+31+65E5 33F5=32+32+65E5 33F6=32+33+65E5 33F7=32+34+65E5 33F8=32+35+65E5
    33F9=32+36+65E5 33FA=32+37+65E5 33FB=32+38+65E5 33FC=32+39+65E5 33FD=33+30+65E5 33FE=33+31+65E5
    A610=A558 A611=A56A A612=A587 A613=A50C+A60B A614=A51E+A60B A615=A533+A60B A616=A547+A60C
    A617=A552+A60B A618=A558+A60C A619=A55A+A60C A61A=A560+A60B A61B=A585+A60B A61C=A5B4+A60B
    A61D=A5CB+A60B A61E=A5D1+A60C A61F=A5D8+A60B A62A=A56E A62B=A5D1 A668=41E A669=43E A66A=41E
    A66B=43E A66C=41E A66D=43E A66E=43E A674=454 A675=438 A676=456+308 A677=443 A678-A67A=44A
    A67B=461 A698=41E A699=43E A69A=41E A69B=43E A69E=444 A69F=465 A728=54+7A A729=74+7A A732=41+41
    A733=61+61 A734=41+4F A735=61+6F A736=41+55 A737=61+75 A738=41+56 A739=61+76 A73A=41+110000+56
    A73B=61+110000+76 A73C=41+59 A73D=61+79 A74E=4F+4F A74F=6F+6F A760=56+59 A761=76+79
    A779=44+110001 A77A=64+110001 A77B=46+110000 A77C=66+110000 A77D=47+110000 A782=52+110000
    A783=72+110000 A784=53+110002 A785=73+110002 A786=54+110001 A787=74+110001 A79A=41+308
    A79B=61+308 A79C=4F+308 A79D=6F+308 A79E=55+308 A79F=75+308 A7A0=47+336 A7A1=67+336 A7A2=4B+336
    A7A3=6B+336 A7A4=4E+336 A7A5=6E+336 A7A6=52+336 A7A7=72+336 A7A8=53+336 A7A9=73+336 A7C0=41+328
    A7C1=61+328 A8F3=A8F2 A8F4=A8F2 A8F5=A8F2 A8F6=A8F2 A8F7=A8F2 A9AC=A9AB A9B5=A9B4 AB66=64+290
    AB67=74+282 FB00=66+66 FB01=66+69 FB02=66+6C FB03=66+66+69 FB04=66+66+6C FB05=73+110001+74
    FB06=73+74 FB13=574+576 FB14=574+565 FB15=574+56B FB16=57E+576 FB17=574+56D FB4F=5D0+5DC
    FE49=203E FE4A=203E FE4B=203E FE4C=203E FE4D=5F FE4E=5F FE4F=5F 10376=10350 10377=10353
    10378=10357 10379=1035D 1037A=10361 10980-10986=109A0+110000 10987=109A6+110001
    10988-1098A=109A7+110000 1098B=109A9+110001 1098C=109AA+110000 1098D=109AA+110001
    1098E=109AB+110000 1098F=109AB+110001 10990-10992=109AC+110000 10993=109AF+110001
    10994=109AF+110002 10995-10998=109B1+110000 10999=109B4+110001 1099A=109B5+110000
    1099B=109B5+110001 1099C-1099D=109B6+110000 109B0=109AF+110000 10AC8=10AC7+110000
    10B2E=10B2D+110000 10C01=10C00+110000 10C04=10C03+110000 10C08=10C07+110000 10C0A=10C09+110000
    10C0C=10C0B+110000 10C0E=10C0D+110000 10C10=10C0F+110000 10C12=10C11+110000 10C15=10C14+110000
    10C17=10C16+110000 10C19=10C18+110000 10C1B=10C1A+110000 10C1D=10C1C+110000 10C1F=10C1E+110000
    10C25=10C24+110000 10C27=10C26+110000 10C29=10C28+110000 10C2B=10C2A+110000 10C2E=10C2D+110000
    10C33=10C32+110000 10C35=10C34+110000 10C37=10C36+110000 10C39=10C38+110000 10C3B=10C3A+110000
    10C40=10C3F+110000 10C42=10C41+110000 10C44=10C43+110000 10C46=10C45+110000 10C81=10C80+110000
    10C8A=10C89+110000 10C8B=10C89+110001 10C91=10C90+110000 10C9C=10C9B+110000 10C9E=10C9D+110000
    10C9F=10C9D+110001 10CA3=10CA2+110000 10CAB=10CAA+110000 10CAD=10CAC+110000 10CC1=10CC0+110000
    10CCA=10CC9+110000 10CCB=10CC9+110001 10CD1=10CD0+110000 10CDC=10CDB+110000 10CDE=10CDD+110000
    10CDF=10CDD+110001 10CE3=10CE2+110000 10CEB=10CEA+110000 10CED=10CEC+110000 10D64=10D53
    10D65=10D61 10D84=10D73 10D85=10D81 10EC5=64A 10F10=10F0E+110000 10F13=10F12+110000
    10F17=10F15+110000 10F1C=10F1A+110000 10F27=10F12+10F18 10F45=10F41+110000 10FF6=10FE6+10FE9
    113CF=113CE 115D8=11582+110000 115D9=11582+110001 115DA-115DB=11583+110000
    115DC-115DD=115B2+110000 11705=11704+110000 11716=11715+110000 1171A=11708+110000
    16E94-16E95=31+110000 16F06=16F04 16F13=16F10 16F25=16F23 16F3F=16F3D 16FF2=513F 16FF3=5152
    1DF00=66+110001+14B 1DF12=64+1DF18 1DF17=74+1D8B 1DF19=64+1D9A 1DF1C=74+1D98 1E000-1E006=2C30
    1E008-1E018=2C38 1E01B-1E021=2C4B 1E023-1E024=2C53 1E026-1E02A=2C56 1E08F=456
    1ECB1-1ECB2=31+110000 1ED2F-1ED36=32+110000 1F100=30+2E 1F101-1F10A=30+2C 1F110=28+41+29
    1F111=28+42+29 1F112=28+43+29 1F113=28+44+29 1F114=28+45+29 1F115=28+46+29 1F116=28+47+29
    1F117=28+48+29 1F118=28+49+29 1F119=28+4A+29 1F11A=28+4B+29 1F11B=28+4C+29 1F11C=28+4D+29
    1F11D=28+4E+29 1F11E=28+4F+29 1F11F=28+50+29 1F120=28+51+29 1F121=28+52+29 1F122=28+53+29
    1F123=28+54+29 1F124=28+55+29 1F125=28+56+29 1F126=28+57+29 1F127=28+58+29 1F128=28+59+29
    1F129=28+5A+29 1F12A=3014+53+3015 1F240=3014+672C+3015 1F241=3014+4E09+3015
    1F242=3014+4E8C+3015 1F243=3014+5B89+3015 1F244=3014+70B9+3015 1F245=3014+6253+3015
    1F246=3014+76D7+3015 1F247=3014+52DD+3015 1F248=3014+6557+3015"),
    (.font, "
    2102=43 210A=67 210B=48 210C=48 210D=48 210E=68 2110=49 2111=49 2112=4C 2113=6C 2115=4E
    2119-211B=50 211C=52 211D=52 2124=5A 2128=5A 212C-212D=42 212F=65 2130-2131=45 2133=4D 2134=6F
    2139=69 213C=3C0 213D=3B3 213E=393 213F=3A0 2140=2211 2145=44 2146-2147=64 2148-2149=69
    FB20=5E2 FB21=5D0 FB22-FB23=5D3 FB24-FB25=5DB FB26=5DE FB27=5E8 FB28=5EA FB29=2B 1CCD6-1CCEF=41
    1CCF0-1CCF9=30 1D400-1D419=41 1D41A-1D433=61 1D434-1D44D=41 1D44E-1D454=61 1D456-1D467=69
    1D468-1D481=41 1D482-1D49B=61 1D49C=41 1D49E-1D49F=43 1D4A2=47 1D4A5-1D4A6=4A 1D4A9-1D4AC=4E
    1D4AE-1D4B5=53 1D4B6-1D4B9=61 1D4BB=66 1D4BD-1D4C3=68 1D4C5-1D4CF=70 1D4D0-1D4E9=41
    1D4EA-1D503=61 1D504-1D505=41 1D507-1D50A=44 1D50D-1D514=4A 1D516-1D51C=53 1D51E-1D537=61
    1D538-1D539=41 1D53B-1D53E=44 1D540-1D544=49 1D546=4F 1D54A-1D550=53 1D552-1D56B=61
    1D56C-1D585=41 1D586-1D59F=61 1D5A0-1D5B9=41 1D5BA-1D5D3=61 1D5D4-1D5ED=41 1D5EE-1D607=61
    1D608-1D621=41 1D622-1D63B=61 1D63C-1D655=41 1D656-1D66F=61 1D670-1D689=41 1D68A-1D6A3=61
    1D6A4=131 1D6A5=237 1D6A8-1D6B8=391 1D6B9=398 1D6BA-1D6C0=3A3 1D6C1=2207 1D6C2-1D6D2=3B1
    1D6D3=3C3 1D6D4-1D6DA=3C3 1D6DB=2202 1D6DC=3B5 1D6DD=3B8 1D6DE=3BA 1D6DF=3C6 1D6E0=3C1
    1D6E1=3C0 1D6E2-1D6F2=391 1D6F3=398 1D6F4-1D6FA=3A3 1D6FB=2207 1D6FC-1D70C=3B1 1D70D=3C3
    1D70E-1D714=3C3 1D715=2202 1D716=3B5 1D717=3B8 1D718=3BA 1D719=3C6 1D71A=3C1 1D71B=3C0
    1D71C-1D72C=391 1D72D=398 1D72E-1D734=3A3 1D735=2207 1D736-1D746=3B1 1D747=3C3 1D748-1D74E=3C3
    1D74F=2202 1D750=3B5 1D751=3B8 1D752=3BA 1D753=3C6 1D754=3C1 1D755=3C0 1D756-1D766=391
    1D767=398 1D768-1D76E=3A3 1D76F=2207 1D770-1D780=3B1 1D781=3C3 1D782-1D788=3C3 1D789=2202
    1D78A=3B5 1D78B=3B8 1D78C=3BA 1D78D=3C6 1D78E=3C1 1D78F=3C0 1D790-1D7A0=391 1D7A1=398
    1D7A2-1D7A8=3A3 1D7A9=2207 1D7AA-1D7BA=3B1 1D7BB=3C3 1D7BC-1D7C2=3C3 1D7C3=2202 1D7C4=3B5
    1D7C5=3B8 1D7C6=3BA 1D7C7=3C6 1D7C8=3C1 1D7C9=3C0 1D7CA-1D7CB=3DC 1D7CE-1D7D7=30 1D7D8-1D7E1=30
    1D7E2-1D7EB=30 1D7EC-1D7F5=30 1D7F6-1D7FF=30 1EE00-1EE01=627 1EE02=62C 1EE03=62F 1EE05=648
    1EE06=632 1EE07=62D 1EE08=637 1EE09=64A 1EE0A-1EE0D=643 1EE0E=633 1EE0F=639 1EE10=641 1EE11=635
    1EE12=642 1EE13=631 1EE14=634 1EE15-1EE16=62A 1EE17=62E 1EE18=630 1EE19=636 1EE1A=638 1EE1B=63A
    1EE1C=66E 1EE1D=6BA 1EE1E=6A1 1EE1F=66F 1EE21=628 1EE22=62C 1EE24=647 1EE27=62D 1EE29=64A
    1EE2A-1EE2D=643 1EE2E=633 1EE2F=639 1EE30=641 1EE31=635 1EE32=642 1EE34=634 1EE35-1EE36=62A
    1EE37=62E 1EE39=636 1EE3B=63A 1EE42=62C 1EE47=62D 1EE49=64A 1EE4B=644 1EE4D=646 1EE4E=633
    1EE4F=639 1EE51=635 1EE52=642 1EE54=634 1EE57=62E 1EE59=636 1EE5B=63A 1EE5D=6BA 1EE5F=66F
    1EE61=628 1EE62=62C 1EE64=647 1EE67=62D 1EE68=637 1EE69=64A 1EE6A=643 1EE6C-1EE6D=645 1EE6E=633
    1EE6F=639 1EE70=641 1EE71=635 1EE72=642 1EE74=634 1EE75-1EE76=62A 1EE77=62E 1EE79=636 1EE7A=638
    1EE7B=63A 1EE7C=66E 1EE7E=6A1 1EE80-1EE81=627 1EE82=62C 1EE83=62F 1EE84-1EE85=647 1EE86=632
    1EE87=62D 1EE88=637 1EE89=64A 1EE8B-1EE8D=644 1EE8E=633 1EE8F=639 1EE90=641 1EE91=635 1EE92=642
    1EE93=631 1EE94=634 1EE95-1EE96=62A 1EE97=62E 1EE98=630 1EE99=636 1EE9A=638 1EE9B=63A 1EEA1=628
    1EEA2=62C 1EEA3=62F 1EEA5=648 1EEA6=632 1EEA7=62D 1EEA8=637 1EEA9=64A 1EEAB-1EEAD=644 1EEAE=633
    1EEAF=639 1EEB0=641 1EEB1=635 1EEB2=642 1EEB3=631 1EEB4=634 1EEB5-1EEB6=62A 1EEB7=62E 1EEB8=630
    1EEB9=636 1EEBA=638 1EEBB=63A 1FBF0-1FBF9=30"),
    (.circled, "
    2460-2468=31 2469=31+30 246A=31+31 246B=31+32 246C=31+33 246D=31+34 246E=31+35 246F=31+36
    2470=31+37 2471=31+38 2472=31+39 2473=32+30 24B6-24CF=41 24D0-24E9=61 24EA=30 24EB=31+31
    24EC=31+32 24ED=31+33 24EE=31+34 24EF=31+35 24F0=31+36 24F1=31+37 24F2=31+38 24F3=31+39
    24F4=32+30 24F5-24FD=31 24FE=31+30 24FF=30 2776-277E=31 277F=31+30 2780-2788=31 2789=31+30
    278A-2792=31 2793=31+30 3244=554F 3245=5E7C 3246=6587 3247=7B8F 3248-324F=31+30 3251=32+31
    3252=32+32 3253=32+33 3254=32+34 3255=32+35 3256=32+36 3257=32+37 3258=32+38 3259=32+39
    325A=33+30 325B=33+31 325C=33+32 325D=33+33 325E=33+34 325F=33+35 3260=1100 3261-3262=1102
    3263-3265=1105 3266=1109 3267-3268=110B 3269-326D=110E 326E=1100+1161 326F-3270=1102+1161
    3271-3273=1105+1161 3274=1109+1161 3275-3276=110B+1161 3277-327B=110E+1161
    327C=110E+1161+11B7+1100+1169 327D=110C+116E+110B+1174 327E=110B+116E 3280=4E00 3281=4E8C
    3282=4E09 3283=56DB 3284=4E94 3285=516D 3286=4E03 3287=516B 3288=4E5D 3289=5341 328A=6708
    328B=706B 328C=6C34 328D=6728 328E=91D1 328F=571F 3290=65E5 3291=682A 3292=6709 3293=793E
    3294=540D 3295=7279 3296=8CA1 3297=795D 3298=52B4 3299=79D8 329A=7537 329B=5973 329C=9069
    329D=512A 329E=5370 329F=6CE8 32A0=9805 32A1=4F11 32A2=5199 32A3=6B63 32A4=4E0A 32A5=4E2D
    32A6=4E0B 32A7=5DE6 32A8=53F3 32A9=533B 32AA=5B97 32AB=5B66 32AC=76E3 32AD=4F01 32AE=8CC7
    32AF=5354 32B0=591C 32B1=33+36 32B2=33+37 32B3=33+38 32B4=33+39 32B5=34+30 32B6=34+31
    32B7=34+32 32B8=34+33 32B9=34+34 32BA=34+35 32BB=34+36 32BC=34+37 32BD=34+38 32BE=34+39
    32BF=35+30 1F10B=30 1F10C=30 1F12B=43 1F12C=52 1F12D=43+44 1F12E=57+5A 1F150-1F169=41
    1F250=5F97 1F251=53EF"),
    (.capital, "
    DE=FE 14A=14B 166=167 181=253 182=183 184=185 186=254 187=188 189-18A=256 18B=18C 18E=1DD
    18F=259 190=25B 191=192 193=260 194=263 196=269 197=268 198=199 19C=26F 19D=272 19F=275 1A2=1A3
    1A4=1A5 1A6=280 1A7=1A8 1A9=283 1AC=1AD 1AE=288 1B1-1B2=28A 1B3=1B4 1B5=1B6 1B7=292 1B8=1B9
    1BC=1BD 1E4=1E5 1F6=195 1F7=1BF 21C=21D 220=19E 222=223 224=225 23A=2C65 23B=23C 23D=19A
    23E=2C66 241=242 243=180 244=289 245=28C 246=247 248=249 24A=24B 24C=24D 24E=24F 370=371
    372=373 376=377 37F=3F3 391-3A1=3B1 3A3-3A9=3C3 3D8=3D9 3DA=3DB 3DC=3DD 3DE=3DF 3E0=3E1 3E2=3E3
    3E4=3E5 3E6=3E7 3E8=3E9 3EA=3EB 3EC=3ED 3EE=3EF 3F7=3F8 3FA=3FB 3FD-3FF=37B 402=452 404-406=454
    408-40B=458 40F=45F 410-42F=430 460=461 462=463 464=465 466=467 468=469 46A=46B 46C=46D 46E=46F
    470=471 472=473 474=475 478=479 47A=47B 47C=47D 47E=47F 480=481 48A=48B 48C=48D 48E=48F 492=493
    494=495 496=497 498=499 49A=49B 49C=49D 49E=49F 4A0=4A1 4A2=4A3 4A4=4A5 4A6=4A7 4A8=4A9 4AA=4AB
    4AC=4AD 4AE=4AF 4B0=4B1 4B2=4B3 4B4=4B5 4B6=4B7 4B8=4B9 4BA=4BB 4BC=4BD 4BE=4BF 4C0=4CF 4C3=4C4
    4C5=4C6 4C7=4C8 4C9=4CA 4CB=4CC 4CD=4CE 4D4=4D5 4D8=4D9 4E0=4E1 4E8=4E9 4F6=4F7 4FA=4FB 4FC=4FD
    4FE=4FF 500=501 502=503 504=505 506=507 508=509 50A=50B 50C=50D 50E=50F 510=511 512=513 514=515
    516=517 518=519 51A=51B 51C=51D 51E=51F 520=521 522=523 524=525 526=527 528=529 52A=52B 52C=52D
    52E=52F 531-556=561 10A0-10C5=2D00 10C7=2D27 10CD=2D2D 13A0-13EF=AB70 13F0-13F5=13F8 1C89=1C8A
    1C90-1CBA=10D0 1CBD-1CBF=10FD 1EFC=1EFD 1EFE=1EFF 2132=214E 2183=2184 2C00-2C2F=2C30 2C60=2C61
    2C62=26B 2C63=1D7D 2C64=27D 2C67=2C68 2C69=2C6A 2C6B=2C6C 2C6D=251 2C6E=271 2C6F=250 2C70=252
    2C72=2C73 2C75=2C76 2C7E-2C7F=23F 2C80=2C81 2C82=2C83 2C84=2C85 2C86=2C87 2C88=2C89 2C8A=2C8B
    2C8C=2C8D 2C8E=2C8F 2C90=2C91 2C92=2C93 2C94=2C95 2C96=2C97 2C98=2C99 2C9A=2C9B 2C9C=2C9D
    2C9E=2C9F 2CA0=2CA1 2CA2=2CA3 2CA4=2CA5 2CA6=2CA7 2CA8=2CA9 2CAA=2CAB 2CAC=2CAD 2CAE=2CAF
    2CB0=2CB1 2CB2=2CB3 2CB4=2CB5 2CB6=2CB7 2CB8=2CB9 2CBA=2CBB 2CBC=2CBD 2CBE=2CBF 2CC0=2CC1
    2CC2=2CC3 2CC4=2CC5 2CC6=2CC7 2CC8=2CC9 2CCA=2CCB 2CCC=2CCD 2CCE=2CCF 2CD0=2CD1 2CD2=2CD3
    2CD4=2CD5 2CD6=2CD7 2CD8=2CD9 2CDA=2CDB 2CDC=2CDD 2CDE=2CDF 2CE0=2CE1 2CE2=2CE3 2CEB=2CEC
    2CED=2CEE 2CF2=2CF3 A640=A641 A642=A643 A644=A645 A646=A647 A648=A649 A64A=A64B A64C=A64D
    A64E=A64F A650=A651 A652=A653 A654=A655 A656=A657 A658=A659 A65A=A65B A65C=A65D A65E=A65F
    A660=A661 A662=A663 A664=A665 A666=A667 A680=A681 A682=A683 A684=A685 A686=A687 A688=A689
    A68A=A68B A68C=A68D A68E=A68F A690=A691 A692=A693 A694=A695 A696=A697 A722=A723 A724=A725
    A726=A727 A72A=A72B A72C=A72D A72E=A72F A73E=A73F A740=A741 A742=A743 A744=A745 A746=A747
    A748=A749 A74A=A74B A74C=A74D A750=A751 A752=A753 A754=A755 A756=A757 A758=A759 A75A=A75B
    A75C=A75D A75E=A75F A762=A763 A764=A765 A766=A767 A768=A769 A76A=A76B A76C=A76D A76E=A76F
    A77E=A77F A780=A781 A78B=A78C A78D=265 A790=A791 A792=A793 A796=A797 A798=A799 A7AA=266
    A7AB=25C A7AC=261 A7AD=26C A7AE=26A A7B0=29E A7B1=287 A7B2=29D A7B3=AB53 A7B4=A7B5 A7B6=A7B7
    A7B8=A7B9 A7BA=A7BB A7BC=A7BD A7BE=A7BF A7C2=A7C3 A7C4=A794 A7C5=282 A7C6=1D8E A7C7=A7C8
    A7C9=A7CA A7CB=264 A7CC=A7CD A7CE=A7CF A7D0=A7D1 A7D2=A7D3 A7D4=A7D5 A7D6=A7D7 A7D8=73+110003
    A7DA=A7DB A7DC=19B A7F5=A7F6 10400-10427=10428 104B0-104D3=104D8 10570-1057A=10597
    1057C-1058A=105A3 1058C-10592=105B3 10594-10595=105BB 10C80=10CC0 10C82-10C89=10CC2
    10C8C-10C90=10CCC 10C92-10C9B=10CD2 10C9D=10CDD 10CA0-10CA2=10CE0 10CA4-10CAA=10CE4 10CAC=10CEC
    10CAE-10CB2=10CEE 10D50-10D63=10D70 118A0-118BF=118C0 16E40-16E5F=16E60 16EA0-16EB8=16EBB
    1E900-1E921=1E922"),
    (.smallHiragana, "
    3041=3042 3043=3044 3045=3046 3047=3048 3049=304A 3063=3064 3083=3084 3085=3086 3087=3088
    308E=308F 3095=304B 3096=3051 1B132=3053 1B150-1B152=3090"),
    (.small, "
    30A1=3042 30A3=3044 30A5=3046 30A7=3048 30A9=304A 30C3=3064 30E3=3084 30E5=3086 30E7=3088
    30EE=308F 30F5=304B 30F6=3051 31F0=304F 31F1=3057 31F2=3059 31F3=3068 31F4=306C 31F5=306F
    31F6=3072 31F7=3075 31F8=3078 31F9=307B 31FA=3080 31FB-31FF=3089 FE50=2C FE51=3001 FE52=2E
    FE54=3B FE55=3A FE56=3F FE57=21 FE58=2014 FE59-FE5A=28 FE5B=7B FE5C=7D FE5D-FE5E=3014 FE5F=23
    FE60=26 FE61-FE62=2A FE63=2D FE64=3C FE65=3E FE66=3D FE68=5C FE69-FE6A=24 FE6B=40 1B155=3053
    1B164-1B167=3090"),
    (.narrowSmall, "
    FF67=3042 FF68=3044 FF69=3046 FF6A=3048 FF6B=304A FF6C=3084 FF6D=3086 FF6E=3088 FF6F=3064"),
    (.katakana, "
    30A2=3042 30A4=3044 30A6=3046 30A8=3048 30AA-30AB=304A 30AD=304D 30AF=304F 30B1=3051 30B3=3053
    30B5=3055 30B7=3057 30B9=3059 30BB=305B 30BD=305D 30BF=305F 30C1=3061 30C4=3064 30C6=3066
    30C8=3068 30CA-30CF=306A 30D2=3072 30D5=3075 30D8=3078 30DB=307B 30DE-30E2=307E 30E4=3084
    30E6=3086 30E8-30ED=3088 30EF-30F3=308F 1B122=1B11F"),
    (.narrow, "
    FF61=3002 FF62-FF63=300C FF64=3001 FF65=30FB FF66=3092 FF70=30FC FF71=3042 FF72=3044 FF73=3046
    FF74=3048 FF75-FF76=304A FF77=304D FF78=304F FF79=3051 FF7A=3053 FF7B=3055 FF7C=3057 FF7D=3059
    FF7E=305B FF7F=305D FF80=305F FF81=3061 FF82=3064 FF83=3066 FF84=3068 FF85-FF8A=306A FF8B=3072
    FF8C=3075 FF8D=3078 FF8E=307B FF8F-FF93=307E FF94=3084 FF95=3086 FF96-FF9B=3088 FF9C=308F
    FF9D=3093 FF9E-FF9F=3099 FFA0=1160 FFA1-FFA2=1100 FFA3=11AA FFA4=1102 FFA5-FFA6=11AC
    FFA7-FFA9=1103 FFAA-FFAF=11B0 FFB0=111A FFB1-FFB3=1106 FFB4=1121 FFB5-FFBE=1109 FFC2-FFC7=1161
    FFCA-FFCF=1167 FFD2-FFD7=116D FFDA-FFDC=1173 FFE8=2502 FFE9-FFEC=2190 FFED=25A0 FFEE=25CB"),
    (.circledKatakana, "
    32D0=30A2 32D1=30A4 32D2=30A6 32D3=30A8 32D4-32D5=30AA 32D6=30AD 32D7=30AF 32D8=30B1 32D9=30B3
    32DA=30B5 32DB=30B7 32DC=30B9 32DD=30BB 32DE=30BD 32DF=30BF 32E0=30C1 32E1=30C4 32E2=30C6
    32E3=30C8 32E4-32E9=30CA 32EA=30D2 32EB=30D5 32EC=30D8 32ED=30DB 32EE-32F2=30DE 32F3=30E4
    32F4=30E6 32F5-32FA=30E8 32FB-32FE=30EF"),
    (.raised, "
    AA=61 B2-B3=32 B9=31 BA=6F 2B0=68 2B1=266 2B2=6A 2B3=72 2B4=279 2B5=27B 2B6=281 2B7=77 2B8=79
    2E0=263 2E1=6C 2E2=73 2E3=78 2E4=295 10FC=10DC 1D2C=41 1D2D=61+110000+65 1D2E=42 1D30-1D31=44
    1D32=18E 1D33-1D3A=47 1D3C=4F 1D3D=222 1D3E=50 1D3F=52 1D40-1D41=54 1D42=57 1D43=61
    1D44-1D45=250 1D46=1D02 1D47=62 1D48-1D49=64 1D4A=259 1D4B=25B 1D4C=1D08 1D4D=67 1D4E=1D09
    1D4F=6B 1D50=6D 1D51=14B 1D52=6F 1D53=254 1D54-1D55=1D16 1D56=70 1D57-1D58=74 1D59=1D1D
    1D5A=26F 1D5B=76 1D5C=1D25 1D5D-1D5F=3B2 1D60-1D61=3C6 1D78=43D 1D9B=252 1D9C=63 1D9D=255
    1D9E=64+110000 1D9F=25C 1DA0=66 1DA1=25F 1DA2=261 1DA3=265 1DA4-1DA6=268 1DA7=1D7B 1DA8=29D
    1DA9=26D 1DAA=1D85 1DAB=29F 1DAC=271 1DAD=270 1DAE-1DB1=272 1DB2=278 1DB3-1DB4=282 1DB5=1AB
    1DB6-1DB7=289 1DB8=1D1C 1DB9-1DBA=28B 1DBB=7A 1DBC-1DBE=290 1DBF=3B8 2070=30 2071=69
    2074-2079=34 207A=2B 207B=2212 207C=3D 207D-207E=28 207F=6E 2120=73+6D 2122=74+6D 2C7D=56
    3192=4E00 3193=4E8C 3194=4E09 3195=56DB 3196=4E0A 3197=4E2D 3198=4E0B 3199=7532 319A=4E59
    319B=4E19 319C=4E01 319D=5929 319E=5730 319F=4EBA A69C=44A A69D=44C A770=A76F A7F1=53 A7F2=43
    A7F3=46 A7F4=51 A7F8=68+335 A7F9=6F+110000+65 AB5C=A727 AB5D=AB37 AB5E=26B AB5F=AB52 AB69=28D
    10780=61+61 10781-10782=2D0 10783=E6 10784=299 10785=253 10787=2A3 10788=AB66 10789=2A5
    1078A=2A4 1078B-1078C=256 1078D=1D91 1078E=258 1078F=25E 10790=2A9 10791=264 10792=262
    10793=260 10794=29B 10795=127 10796=29C 10797=267 10798=284 10799-1079A=2AA 1079B=26C
    1079C=1DF04 1079D=A78E 1079E=26E 1079F=1DF05 107A0=28E 107A1=1DF06 107A2=F8 107A3-107A4=276
    107A5=71 107A6=27A 107A7=1DF08 107A8-107A9=27D 107AA=280 107AB=2A8 107AC=2A6 107AD=AB67
    107AE=2A7 107AF=288 107B0=2C71 107B2=28F 107B3-107B4=2A1 107B5=298 107B6-107B8=1C0 107B9=1DF0A
    107BA=1DF1E 1E030-1E038=430 1E039-1E03B=43A 1E03C-1E046=43E 1E047=44B 1E048-1E049=44D
    1E04A=A689 1E04B=4D9 1E04C=456 1E04D=458 1E04E=4E9 1E04F=4AF 1E050=4CF 1E06B=4AB 1E06C=A651
    1E06D=4B1 1F16A=6D+63 1F16B=6D+64 1F16C=6D+72 1F170-1F189=41 1F18A=50 1F18B=49+43 1F18C=50+41
    1F18D=53+41 1F18E=41+42 1F18F=57+43 1F191=43+4C 1F192=43+4F+4F+4C 1F193=46+52+45+45 1F194=49+44
    1F195=4E+45+57 1F196=4E+47 1F197=4F+4B 1F198=53+4F+53 1F19A=56+53 1F1AA=53+48+56 1F1AB=55+48+44
    1F1AC=56+4F+44"),
    (.lowered, "
    1D62=69 1D63=72 1D64-1D65=75 1D66-1D67=3B2 1D68=3C1 1D69-1D6A=3C6 2080-2089=30 208A=2B
    208B=2212 208C=3D 208D-208E=28 2090=61 2091=65 2092=6F 2093=78 2094=259 2095=68 2096-2099=6B
    209A=70 209B-209C=73 2C7C=6A 1E051-1E059=430 1E05A-1E05B=43A 1E05C-1E05D=43E 1E05E=441
    1E05F-1E064=443 1E065-1E066=44A 1E068=456 1E069=455 1E06A=45F"),
    (.vertical, "
    309F=3088+308A 30FF=3053+3068 31B3=3127+110000 FE10=2C FE11-FE12=3001 FE13-FE14=3A FE15=21
    FE16=3F FE17-FE18=3016 FE19=2E+2E+2E FE30=2E+2E FE31=2014 FE32=2013 FE33=5F FE34=5F
    FE35-FE36=28 FE37=7B FE38=7D FE39-FE3A=3014 FE3B-FE3C=3010 FE3D-FE3E=300A FE3F-FE40=3008
    FE41-FE44=300C FE47=5B FE48=5D"),
    (.initial, "
    FB54=67B FB58=67E FB5C=680 FB60=67A FB64=67F FB68=679 FB6C=6A4 FB70=6A6 FB74=684 FB78=683
    FB7C=686 FB80=687 FB90=6A9 FB94=6AF FB98=6B3 FB9C=6B1 FBA2=6BB FBA8=6C1 FBAC=6BE FBD5=6AD
    FBE6=6D0 FBE8=649 FBF8=626+6D0 FBFB=626+649 FBFE=6CC FC97=626+62C FC98=626+62D FC99=626+62E
    FC9A=626+645 FC9B=626+647 FC9C=628+62C FC9D=628+62D FC9E=628+62E FC9F=628+645 FCA0=628+647
    FCA1=62A+62C FCA2=62A+62D FCA3=62A+62E FCA4=62A+645 FCA5=62A+647 FCA6=62B+645 FCA7=62C+62D
    FCA8=62C+645 FCA9=62D+62C FCAA=62D+645 FCAB=62E+62C FCAC=62E+645 FCAD=633+62C FCAE=633+62D
    FCAF=633+62E FCB0=633+645 FCB1=635+62D FCB2=635+62E FCB3=635+645 FCB4=636+62C FCB5=636+62D
    FCB6=636+62E FCB7=636+645 FCB8=637+62D FCB9=638+645 FCBA=639+62C FCBB=639+645 FCBC=63A+62C
    FCBD=63A+645 FCBE=641+62C FCBF=641+62D FCC0=641+62E FCC1=641+645 FCC2=642+62D FCC3=642+645
    FCC4=643+62C FCC5=643+62D FCC6=643+62E FCC7=643+644 FCC8=643+645 FCC9=644+62C FCCA=644+62D
    FCCB=644+62E FCCC=644+645 FCCD=644+647 FCCE=645+62C FCCF=645+62D FCD0=645+62E FCD1=645+645
    FCD2=646+62C FCD3=646+62D FCD4=646+62E FCD5=646+645 FCD6=646+647 FCD7=647+62C FCD8=647+645
    FCD9=647+670 FCDA=64A+62C FCDB=64A+62D FCDC=64A+62E FCDD=64A+645 FCDE=64A+647 FD2D=634+62C
    FD2E=634+62D FD2F=634+62E FD30=634+645 FD31-FD32=633+647 FD33=637+645 FD50=62A+62C+645
    FD52=62A+62D+62C FD53=62A+62D+645 FD54=62A+62E+645 FD55=62A+645+62C FD56=62A+645+62D
    FD57=62A+645+62E FD59=62C+645+62D FD5C=633+62D+62C FD5D=633+62C+62D FD60=633+645+62D
    FD61=633+645+62C FD63=633+645+645 FD65=635+62D+62D FD68=634+62D+645 FD6B=634+645+62E
    FD6D=634+645+645 FD70=636+62E+645 FD72=637+645+62D FD73=637+645+645 FD77=639+645+645
    FD7D=641+62E+645 FD83=644+62C+62C FD86=644+62E+645 FD88=644+645+62D FD89=645+62D+62C
    FD8A=645+62D+645 FD8C=645+62C+62D FD8D=645+62C+645 FD8E=645+62E+62C FD8F=645+62E+645
    FD92=645+62C+62E FD93=647+645+62C FD94=647+645+645 FD95=646+62D+645 FD98=646+62C+645
    FD9D=64A+645+645 FDB4=642+645+62D FDB5=644+62D+645 FDB8=646+62C+62D FDBA=644+62C+645
    FDC3=643+645+645 FDC4=639+62C+645 FDC5=635+645+645 FE8B=626 FE91=628 FE97=62A FE9B=62B FE9F=62C
    FEA3=62D FEA7=62E FEB3=633 FEB7=634 FEBB=635 FEBF=636 FEC3=637 FEC7=638 FECB=639 FECF=63A
    FED3=641 FED7=642 FEDB=643 FEDF=644 FEE3=645 FEE7=646 FEEB=647 FEF3=64A 11A3A=11A2B
    11A86-11A87=11A7C 11A88=11A7F 11A89=11A81 11D46=11D26"),
    (.medial, "
    FB55=67B FB59=67E FB5D=680 FB61=67A FB65=67F FB69=679 FB6D=6A4 FB71=6A6 FB75=684 FB79=683
    FB7D=686 FB81=687 FB91=6A9 FB95=6AF FB99=6B3 FB9D=6B1 FBA3=6BB FBA9=6C1 FBAD=6BE FBD6=6AD
    FBE7=6D0 FBE9=649 FBFF=6CC FCDF=626+645 FCE0=626+647 FCE1=628+645 FCE2=628+647 FCE3=62A+645
    FCE4=62A+647 FCE5=62B+645 FCE6=62B+647 FCE7=633+645 FCE8=633+647 FCE9=634+645 FCEA=634+647
    FCEB=643+644 FCEC-FCED=643+645 FCEE=646+645 FCEF=646+647 FCF0=64A+645 FCF1=64A+647
    FCF2=640+64E+651 FCF3=640+64F+651 FCF4=640+650+651 FD34=633+62C FD35=633+62D FD36=633+62E
    FD37=634+62C FD38=634+62D FD39=634+62E FD3A-FD3B=637+645 FE71=640+64B FE77=640+64E FE79=640+64F
    FE7B=640+650 FE7D=640+651 FE7F=640+652 FE8C=626 FE92=628 FE98=62A FE9C=62B FEA0=62C FEA4=62D
    FEA8=62E FEB4=633 FEB8=634 FEBC=635 FEC0=636 FEC4=637 FEC8=638 FECC=639 FED0=63A FED4=641
    FED8=642 FEDC=643 FEE0=644 FEE4=645 FEE8=646 FEEC=647 FEF4=64A"),
    (.final, "
    3C2=3C3 5DA=5DB 5DD=5DE 5DF=5E0 5E3=5E4 5E5=5E6 724=723 1BBE=1B8A 1BBF=1B99 31B4=3106 31B5=310A
    31B6-31B7=310E 31BB=310D FB51=671 FB53=67B FB57=67E FB5B=680 FB5F=67A FB63=67F FB67=679
    FB6B=6A4 FB6F=6A6 FB73=684 FB77=683 FB7B=686 FB7F=687 FB83=68D FB85=68C FB87=68E FB89=688
    FB8B=698 FB8D=691 FB8F=6A9 FB93=6AF FB97=6B3 FB9B=6B1 FB9F=6BA FBA1=6BB FBA5=6D5+654 FBA7=6C1
    FBAB=6BE FBAF=6D2 FBB1=6D2+654 FBD4=6AD FBD8=6C7 FBDA=6C6 FBDC=6C8 FBDF=6CB FBE1=6C5 FBE3=6C9
    FBE5=6D0 FBEB=626+627 FBED=626+6D5 FBEF=626+648 FBF1=626+6C7 FBF3=626+6C6 FBF5=626+6C8
    FBF7=626+6D0 FBFA=626+649 FBFD=6CC FC64=626+631 FC65=626+632 FC66=626+645 FC67=626+646
    FC68=626+649 FC69=626+64A FC6A=628+631 FC6B=628+632 FC6C=628+645 FC6D=628+646 FC6E=628+649
    FC6F=628+64A FC70=62A+631 FC71=62A+632 FC72=62A+645 FC73=62A+646 FC74=62A+649 FC75=62A+64A
    FC76=62B+631 FC77=62B+632 FC78=62B+645 FC79=62B+646 FC7A=62B+649 FC7B=62B+64A FC7C=641+649
    FC7D=641+64A FC7E=642+649 FC7F=642+64A FC80=643+627 FC81=643+644 FC82=643+645 FC83=643+649
    FC84=643+64A FC85=644+645 FC86=644+649 FC87=644+64A FC88=645+627 FC89=645+645 FC8A=646+631
    FC8B=646+632 FC8C=646+645 FC8D=646+646 FC8E=646+649 FC8F=646+64A FC90=649+670 FC91=64A+631
    FC92=64A+632 FC93=64A+645 FC94=64A+646 FC95=64A+649 FC96=64A+64A FD11=637+649 FD12=637+64A
    FD13=639+649 FD14=639+64A FD15=63A+649 FD16=63A+64A FD17=633+649 FD18=633+64A FD19=634+649
    FD1A=634+64A FD1B=62D+649 FD1C=62D+64A FD1D=62C+649 FD1E=62C+64A FD1F=62E+649 FD20=62E+64A
    FD21=635+649 FD22=635+64A FD23=636+649 FD24=636+64A FD25=634+62C FD26=634+62D FD27=634+62E
    FD28=634+645 FD29=634+631 FD2A=633+631 FD2B-FD2C=635+631 FD3C=627+64B FD51=62A+62D+62C
    FD58=62C+645+62D FD5A=62D+645+64A FD5B=62D+645+649 FD5E=633+62C+649 FD5F=633+645+62D
    FD62=633+645+645 FD64=635+62D+62D FD66=635+645+645 FD67=634+62D+645 FD69=634+62C+64A
    FD6A=634+645+62E FD6C=634+645+645 FD6E=636+62D+649 FD6F=636+62E+645 FD71=637+645+62D
    FD74=637+645+64A FD75=639+62C+645 FD76=639+645+645 FD78=639+645+649 FD79=63A+645+645
    FD7A=63A+645+64A FD7B=63A+645+649 FD7C=641+62E+645 FD7E=642+645+62D FD7F=642+645+645
    FD80=644+62D+645 FD81=644+62D+64A FD82=644+62D+649 FD84=644+62C+62C FD85=644+62E+645
    FD87=644+645+62D FD8B=645+62D+64A FD96=646+62D+649 FD97=646+62C+645 FD99=646+62C+649
    FD9A=646+645+64A FD9B=646+645+649 FD9C=64A+645+645 FD9E=628+62E+64A FD9F=62A+62C+64A
    FDA0=62A+62C+649 FDA1=62A+62E+64A FDA2=62A+62E+649 FDA3=62A+645+64A FDA4=62A+645+649
    FDA5=62C+645+64A FDA6=62C+62D+649 FDA7=62C+645+649 FDA8=633+62E+649 FDA9=635+62D+64A
    FDAA=634+62D+64A FDAB=636+62D+64A FDAC=644+62C+64A FDAD=644+645+64A FDAE=64A+62D+64A
    FDAF=64A+62C+64A FDB0=64A+645+64A FDB1=645+645+64A FDB2=642+645+64A FDB3=646+62D+64A
    FDB6=639+645+64A FDB7=643+645+64A FDB9=645+62E+64A FDBB=643+645+645 FDBC=644+62C+645
    FDBD=646+62C+62D FDBE=62C+62D+64A FDBF=62D+62C+64A FDC0=645+62C+64A FDC1=641+645+64A
    FDC2=628+62D+64A FDC6=633+62E+64A FDC7=646+62C+64A FE82=622 FE84=623 FE86=624 FE88=625 FE8A=626
    FE8E=627 FE90=628 FE94=629 FE96=62A FE9A=62B FE9E=62C FEA2=62D FEA6=62E FEAA=62F FEAC=630
    FEAE=631 FEB0=632 FEB2=633 FEB6=634 FEBA=635 FEBE=636 FEC2=637 FEC6=638 FECA=639 FECE=63A
    FED2=641 FED6=642 FEDA=643 FEDE=644 FEE2=645 FEE6=646 FEEA=647 FEEE=648 FEF0=649 FEF2=64A
    FEF6=644+622 FEF8=644+623 FEFA=644+625 FEFC=644+627 1086D=1086E 10880=10881 10882=10883
    10886=10887 1088C=1088D 1088E=1088F 10890=10891 10892=10893 10894=10895 1089C=1089D 10F01=10F00
    10F03=10F02 10F06=10F05 10F0F=10F0E 10F16=10F15 10F1B=10F1A 11A3B-11A3E=11A2A 11A8A-11A8B=11A5C
    11A8C=11A60 11A8D=11A6B 11A8E-11A8F=11A6F 11A90=11A74 11A91-11A92=11A7C 11A93=11A7F 11A94=11A81
    11A95=11A7A 11D47=11D26"),
    (.isolated, "
    FB50=671 FB52=67B FB56=67E FB5A=680 FB5E=67A FB62=67F FB66=679 FB6A=6A4 FB6E=6A6 FB72=684
    FB76=683 FB7A=686 FB7E=687 FB82=68D FB84=68C FB86=68E FB88=688 FB8A=698 FB8C=691 FB8E=6A9
    FB92=6AF FB96=6B3 FB9A=6B1 FB9E=6BA FBA0=6BB FBA4=6D5+654 FBA6=6C1 FBAA=6BE FBAE=6D2
    FBB0=6D2+654 FBD3=6AD FBD7=6C7 FBD9=6C6 FBDB=6C8 FBDD=677 FBDE=6CB FBE0=6C5 FBE2=6C9 FBE4=6D0
    FBEA=626+627 FBEC=626+6D5 FBEE=626+648 FBF0=626+6C7 FBF2=626+6C6 FBF4=626+6C8 FBF6=626+6D0
    FBF9=626+649 FBFC=6CC FC00=626+62C FC01=626+62D FC02=626+645 FC03=626+649 FC04=626+64A
    FC05=628+62C FC06=628+62D FC07=628+62E FC08=628+645 FC09=628+649 FC0A=628+64A FC0B=62A+62C
    FC0C=62A+62D FC0D=62A+62E FC0E=62A+645 FC0F=62A+649 FC10=62A+64A FC11=62B+62C FC12=62B+645
    FC13=62B+649 FC14=62B+64A FC15=62C+62D FC16=62C+645 FC17=62D+62C FC18=62D+645 FC19=62E+62C
    FC1A=62E+62D FC1B=62E+645 FC1C=633+62C FC1D=633+62D FC1E=633+62E FC1F=633+645 FC20=635+62D
    FC21=635+645 FC22=636+62C FC23=636+62D FC24=636+62E FC25=636+645 FC26=637+62D FC27-FC28=637+645
    FC29=639+62C FC2A=639+645 FC2B=63A+62C FC2C=63A+645 FC2D=641+62C FC2E=641+62D FC2F=641+62E
    FC30=641+645 FC31=641+649 FC32=641+64A FC33=642+62D FC34=642+645 FC35=642+649 FC36=642+64A
    FC37=643+627 FC38=643+62C FC39=643+62D FC3A=643+62E FC3B=643+644 FC3C=643+645 FC3D=643+649
    FC3E=643+64A FC3F=644+62C FC40=644+62D FC41=644+62E FC42=644+645 FC43=644+649 FC44=644+64A
    FC45=645+62C FC46=645+62D FC47=645+62E FC48=645+645 FC49=645+649 FC4A=645+64A FC4B=646+62C
    FC4C=646+62D FC4D=646+62E FC4E=646+645 FC4F=646+649 FC50=646+64A FC51=647+62C FC52=647+645
    FC53=647+649 FC54=647+64A FC55=64A+62C FC56=64A+62D FC57=64A+62E FC58=64A+645 FC59=64A+649
    FC5A=64A+64A FC5B-FC5C=630+670 FC5D=649+670 FC5E-FC62=64C+651 FC63=651+670 FCF5=637+649
    FCF6=637+64A FCF7=639+649 FCF8=639+64A FCF9=63A+649 FCFA=63A+64A FCFB=633+649 FCFC=633+64A
    FCFD=634+649 FCFE=634+64A FCFF=62D+649 FD00=62D+64A FD01=62C+649 FD02=62C+64A FD03=62E+649
    FD04=62E+64A FD05=635+649 FD06=635+64A FD07=636+649 FD08=636+64A FD09=634+62C FD0A=634+62D
    FD0B=634+62E FD0C=634+645 FD0D=634+631 FD0E=633+631 FD0F-FD10=635+631 FD3D=627+64B
    FDF0=635+644+6D2 FDF1=642+644+6D2 FDF2=627+644+644+647 FDF3=627+643+628+631
    FDF4=645+62D+645+62F FDF5=635+644+639+645 FDF6=631+633+648+644 FDF7=639+644+64A+647
    FDF8=648+633+644+645 FDF9=635+644+649
    FDFA=635+644+649+20+627+644+644+647+20+639+644+64A+647+20+648+633+644+645
    FDFB=62C+644+20+62C+644+627+644+647 FDFC=631+6CC+627+644 FE70=64B FE72=64C FE74=64D FE76=64E
    FE78=64F FE7A=650 FE7C=651 FE7E=652 FE80-FE81=621 FE83=623 FE85=624 FE87=625 FE89=626 FE8D=627
    FE8F=628 FE93=629 FE95=62A FE99=62B FE9D=62C FEA1=62D FEA5=62E FEA9=62F FEAB=630 FEAD=631
    FEAF=632 FEB1=633 FEB5=634 FEB9=635 FEBD=636 FEC1=637 FEC5=638 FEC9=639 FECD=63A FED1=641
    FED5=642 FED9=643 FEDD=644 FEE1=645 FEE5=646 FEE9=647 FEED=648 FEEF=649 FEF1=64A FEF5=644+622
    FEF7=644+623 FEF9=644+625 FEFB=644+627"),
    (.unbroken, "
    A0=20 F0C=F0B 2007=20 2011=2010 202F=20"),
    (.squared, "
    3250=50+54+45 32CC=48+67 32CD=65+72+67 32CE=65+56 32CF=4C+54+44 32FF=4EE4+548C
    3300=30A2+30CF+309A+30FC+30C8 3301=30A2+30EB+30D5+30A1 3302=30A2+30F3+30D8+309A+30A2
    3303=30A2+30FC+30EB 3304=30A4+30CB+30F3+30AF+3099 3305=30A4+30F3+30C1 3306=30A6+30A9+30F3
    3307=30A8+30B9+30AF+30FC+30C8+3099 3308=30A8+30FC+30AB+30FC 3309=30AA+30F3+30B9
    330A=30AA+30FC+30E0 330B=30AB+30A4+30EA 330C=30AB+30E9+30C3+30C8 330D=30AB+30ED+30EA+30FC
    330E=30AB+3099+30ED+30F3 330F=30AB+3099+30F3+30DE 3310=30AD+3099+30AB+3099
    3311=30AD+3099+30CB+30FC 3312=30AD+30E5+30EA+30FC 3313=30AD+3099+30EB+30BF+3099+30FC
    3314=30AD+30ED 3315=30AD+30ED+30AF+3099+30E9+30E0 3316=30AD+30ED+30E1+30FC+30C8+30EB
    3317=30AD+30ED+30EF+30C3+30C8 3318=30AF+3099+30E9+30E0 3319=30AF+3099+30E9+30E0+30C8+30F3
    331A=30AF+30EB+30BB+3099+30A4+30ED 331B=30AF+30ED+30FC+30CD 331C=30B1+30FC+30B9
    331D=30B3+30EB+30CA 331E=30B3+30FC+30DB+309A 331F=30B5+30A4+30AF+30EB
    3320=30B5+30F3+30C1+30FC+30E0 3321=30B7+30EA+30F3+30AF+3099 3322=30BB+30F3+30C1
    3323=30BB+30F3+30C8 3324=30BF+3099+30FC+30B9 3325=30C6+3099+30B7 3326=30C8+3099+30EB
    3327=30C8+30F3 3328=30CA+30CE 3329=30CE+30C3+30C8 332A=30CF+30A4+30C4
    332B=30CF+309A+30FC+30BB+30F3+30C8 332C=30CF+309A+30FC+30C4 332D=30CF+3099+30FC+30EC+30EB
    332E=30D2+309A+30A2+30B9+30C8+30EB 332F=30D2+309A+30AF+30EB 3330=30D2+309A+30B3
    3331=30D2+3099+30EB 3332=30D5+30A1+30E9+30C3+30C8+3099 3333=30D5+30A3+30FC+30C8
    3334=30D5+3099+30C3+30B7+30A7+30EB 3335=30D5+30E9+30F3 3336=30D8+30AF+30BF+30FC+30EB
    3337=30D8+309A+30BD 3338=30D8+309A+30CB+30D2 3339=30D8+30EB+30C4 333A=30D8+309A+30F3+30B9
    333B=30D8+309A+30FC+30B7+3099 333C=30D8+3099+30FC+30BF 333D=30DB+309A+30A4+30F3+30C8
    333E=30DB+3099+30EB+30C8 333F=30DB+30F3 3340=30DB+309A+30F3+30C8+3099 3341=30DB+30FC+30EB
    3342=30DB+30FC+30F3 3343=30DE+30A4+30AF+30ED 3344=30DE+30A4+30EB 3345=30DE+30C3+30CF
    3346=30DE+30EB+30AF 3347=30DE+30F3+30B7+30E7+30F3 3348=30DF+30AF+30ED+30F3 3349=30DF+30EA
    334A=30DF+30EA+30CF+3099+30FC+30EB 334B=30E1+30AB+3099 334C=30E1+30AB+3099+30C8+30F3
    334D=30E1+30FC+30C8+30EB 334E=30E4+30FC+30C8+3099 334F=30E4+30FC+30EB 3350=30E6+30A2+30F3
    3351=30EA+30C3+30C8+30EB 3352=30EA+30E9 3353=30EB+30D2+309A+30FC 3354=30EB+30FC+30D5+3099+30EB
    3355=30EC+30E0 3356=30EC+30F3+30C8+30B1+3099+30F3 3357=30EF+30C3+30C8 3371=68+50+61 3372=64+61
    3373=41+55 3374=62+61+72 3375=6F+56 3376=70+63 3377=64+6D 3378=64+6D+B2 3379=64+6D+B3
    337A=49+55 337B=5E73+6210 337C=662D+548C 337D=5927+6B63 337E=660E+6CBB 337F=682A+5F0F+4F1A+793E
    3380=70+41 3381=6E+41 3382=3BC+41 3383=6D+41 3384=6B+41 3385=4B+42 3386=4D+42 3387=47+42
    3388=63+61+6C 3389=6B+63+61+6C 338A=70+46 338B=6E+46 338C=3BC+46 338D=3BC+67 338E=6D+67
    338F=6B+67 3390=48+7A 3391=6B+48+7A 3392=4D+48+7A 3393=47+48+7A 3394=54+48+7A 3395=3BC+6C
    3396=6D+6C 3397=64+6C 3398=6B+6C 3399=66+6D 339A=6E+6D 339B=3BC+6D 339C=6D+6D 339D=63+6D
    339E=6B+6D 339F=6D+6D+32 33A0=63+6D+32 33A1=6D+32 33A2=6B+6D+32 33A3=6D+6D+33 33A4=63+6D+33
    33A5=6D+33 33A6=6B+6D+33 33A7=6D+2215+73 33A8=6D+2215+73+32 33A9=50+61 33AA=6B+50+61
    33AB=4D+50+61 33AC=47+50+61 33AD=72+61+64 33AE=72+61+64+2215+73 33AF=72+61+64+2215+73+32
    33B0=70+73 33B1=6E+73 33B2=3BC+73 33B3=6D+73 33B4=70+56 33B5=6E+56 33B6=3BC+56 33B7=6D+56
    33B8=6B+56 33B9=4D+56 33BA=70+57 33BB=6E+57 33BC=3BC+57 33BD=6D+57 33BE=6B+57 33BF=4D+57
    33C0=6B+3A9 33C1=4D+3A9 33C2=61+2E+6D+2E 33C3=42+71 33C4=63+63 33C5=63+64 33C6=43+2215+6B+67
    33C7=43+6F+2E 33C8=64+42 33C9=47+79 33CA=68+61 33CB=48+50 33CC=69+6E 33CD=4B+4B 33CE=4B+4D
    33CF=6B+74 33D0=6C+6D 33D1=6C+6E 33D2=6C+6F+67 33D3=6C+78 33D4=6D+62 33D5=6D+69+6C
    33D6=6D+6F+6C 33D7=50+48 33D8=70+2E+6D+2E 33D9=50+50+4D 33DA=50+52 33DB=73+72 33DC=53+76
    33DD=57+62 33DE=56+2215+6D 33DF=41+2215+6D 33FF=67+61+6C 1F130-1F149=41 1F14A=48+56 1F14B=4D+56
    1F14C=53+44 1F14D=53+53 1F14E=50+50+56 1F14F=57+43 1F190=44+4A 1F199=55+50+21 1F19B=33+44
    1F19C=32+6E+64+20+53+63+72 1F19D=32+4B 1F19E=34+4B 1F19F=38+4B 1F1A0=35+2E+31 1F1A1=37+2E+31
    1F1A2=32+32+2E+32 1F1A3=36+30+50 1F1A4=31+32+30+50 1F1A5=64 1F1A6=48+63 1F1A7=48+64+52
    1F1A8=48+69+20+52+65+73 1F1A9=4C+6F+73+73+6C+65+73+73 1F200=307B+304B 1F201=3053+3053
    1F202=3055 1F210=624B 1F211=5B57 1F212=53CC 1F213=3066+3099 1F214=4E8C 1F215=591A 1F216=89E3
    1F217=5929 1F218=4EA4 1F219=6620 1F21A=7121 1F21B=6599 1F21C=524D 1F21D=5F8C 1F21E=518D
    1F21F=65B0 1F220=521D 1F221=7D42 1F222=751F 1F223=8CA9 1F224=58F0 1F225=5439 1F226=6F14
    1F227=6295 1F228=6355 1F229=4E00 1F22A=4E09 1F22B=904A 1F22C=5DE6 1F22D=4E2D 1F22E=53F3
    1F22F=6307 1F230=8D70 1F231=6253 1F232=7981 1F233=7A7A 1F234=5408 1F235=6E80 1F236=6709
    1F237=6708 1F238=7533 1F239=5272 1F23A=55B6 1F23B=914D"),
    (.fraction, "
    BC=31+2044+34 BD=31+2044+32 BE=33+2044+34 2150=31+2044+37 2151=31+2044+39 2152=31+2044+31+30
    2153-2154=31+2044+33 2155-2158=31+2044+35 2159=31+2044+36 215A=35+2044+36 215B=31+2044+38
    215C=33+2044+38 215D=35+2044+38 215E=37+2044+38 215F=31+2044 2189=30+2044+33") ]

/-- Characters that count for two others, one after the other. -/
def pairs : String :=
  "
    13F=4C+B7 140=6C+B7 419=418+306 439=438+306 622=627+653 623=627+654 624=648+654 625=627+655
    626=64A+654 9CB=9C7+9BE 9CC=9C7+9D7 B48=B47+B56 B4B=B47+B3E B4C=B47+B57 B94=B92+BD7 BCA=BC6+BBE
    BCB=BC7+BBE BCC=BC6+BD7 C48=C46+C56 CC0=CBF+CD5 CC7=CC6+CD5 CC8=CC6+CD6 CCA=CC6+CC2 CCB=CCA+CD5
    D4A=D46+D3E D4B=D47+D3E D4C=D46+D57 DDA=DD9+DCA DDC=DD9+DCF DDD=DDC+DCA DDE=DD9+DDF E33=E4D+E32
    EB3=ECD+EB2 F73=F71+F72 F75=F71+F74 F76=FB2+F80 F77=F76+F71 F78=FB3+F80 F79=F78+F71 F81=F71+F80
    1026=1025+102E 1B06=1B05+1B35 1B08=1B07+1B35 1B0A=1B09+1B35 1B0C=1B0B+1B35 1B0E=1B0D+1B35
    1B12=1B11+1B35 1B3B=1B3A+1B35 1B3D=1B3C+1B35 1B40=1B3E+1B35 1B41=1B3F+1B35 1B43=1B42+1B35
    105C9=105D2+307 105E4=105DA+307 1112E=11131+11127 1112F=11132+11127 1134B=11347+1133E
    1134C=11347+11357 11383=11382+113C9 11385=11384+113BB 1138E=1138B+113C2 11391=11390+113C9
    113C5=113C2+113C2 113C7=113C2+113B8 113C8=113C2+113C9 114BB=114B9+114BA 114BC=114B9+114B0
    114BE=114B9+114BD 115BA=115B8+115AF 115BB=115B9+115AF 11938=11935+11930 16121=1611E+1611E
    16122=1611E+16129 16123=1611E+1611F 16124=16129+1611F 16125=1611E+16120 16126=16121+1611F
    16127=16122+1611F 16128=16121+16120 16D68=16D67+16D67 16D69=16D63+16D67 16D6A=16D69+16D67"

def variantTable : CharTable (Form × List Nat) :=
  .ofSpans <| variants.flatMap fun (form, text) =>
    CharTable.equationSpans (fun image => (form, image)) text

/-- The pairs of characters that count as one, by their second character. -/
def pairTable : List (Nat × Nat × Nat) :=
  (CharTable.equationSpans id pairs).filterMap fun s =>
    match s.value with
    | [a, b] => some (a, b, s.first)
    | _ => none

/-- The character that counts for two others. -/
def pair? (a b : Nat) : Option Nat :=
  (pairTable.find? fun (x, y, _) => x = a && y = b).map fun (_, _, c) => c

end Collation
end LineRpc
