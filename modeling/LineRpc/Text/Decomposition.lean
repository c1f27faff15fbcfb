import LineRpc.Text.Duplicates

/-!
# Decomposition — letters and the marks on them

A letter with marks on it can be one character or several. Taken apart, it is always the letter and
then its marks, and marks at different places of the letter stand in a fixed order. Two spellings of
the same letters are then the same characters.

- `Decomposition.step?`    : what a character is made of
- `Decomposition.parts`    : the same for all of its parts
- `Decomposition.classOf`  : the place of a mark, or zero for what is no mark
- `Decomposition.apart`    : characters taken apart, with their marks in order
-/

namespace LineRpc
namespace Decomposition

/-! ## Tables -/

/-- Characters that are another one with a mark on it, by the mark. -/
def byMark : List (Nat × String) :=
  [ (0x300, "
    C0=41 C8=45 CC=49 D2=4F D9=55 E0=61 E8=65 EC=69 F2=6F F9=75 1DB=DC 1DC=FC 1F8=4E 1F9=6E
    400=415 40D=418 450=435 45D=438 1E14-1E15=112 1E50-1E51=14C 1E80=57 1E81=77 1EA6=C2 1EA7=E2
    1EB0-1EB1=102 1EC0=CA 1EC1=EA 1ED2=D4 1ED3=F4 1EDC-1EDD=1A0 1EEA-1EEB=1AF 1EF2=59 1EF3=79
    1F02-1F03=1F00 1F0A-1F0B=1F08 1F12-1F13=1F10 1F1A-1F1B=1F18 1F22-1F23=1F20 1F2A-1F2B=1F28
    1F32-1F33=1F30 1F3A-1F3B=1F38 1F42-1F43=1F40 1F4A-1F4B=1F48 1F52-1F53=1F50 1F5B=1F59
    1F62-1F63=1F60 1F6A-1F6B=1F68 1F70=3B1 1F72=3B5 1F74=3B7 1F76=3B9 1F78=3BF 1F7A=3C5 1F7C=3C9
    1FBA=391 1FC8=395 1FCA=397 1FCD=1FBF 1FD2=3CA 1FDA=399 1FDD=1FFE 1FE2=3CB 1FEA=3A5 1FED=A8
    1FF8=39F 1FFA=3A9"),
    (0x301, "
    C1=41 C9=45 CD=49 D3=4F DA=55 DD=59 E1=61 E9=65 ED=69 F3=6F FA=75 FD=79 106=43 107=63 139=4C
    13A=6C 143=4E 144=6E 154=52 155=72 15A=53 15B=73 179=5A 17A=7A 1D7=DC 1D8=FC 1F4=47 1F5=67
    1FA=C5 1FB=E5 1FC=C6 1FD=E6 1FE=D8 1FF=F8 344=308 385=A8 386=391 388=395 389=397 38A=399
    38C=39F 38E=3A5 38F=3A9 390=3CA 3AC=3B1 3AD=3B5 3AE=3B7 3AF=3B9 3B0=3CB 3CC=3BF 3CD=3C5
    3CE=3C9 3D3=3D2 403=413 40C=41A 453=433 45C=43A 1E08=C7 1E09=E7 1E16-1E17=112 1E2E=CF
    1E2F=EF 1E30=4B 1E31=6B 1E3E=4D 1E3F=6D 1E4C=D5 1E4D=F5 1E52-1E53=14C 1E54=50 1E55=70
    1E78-1E79=168 1E82=57 1E83=77 1EA4=C2 1EA5=E2 1EAE-1EAF=102 1EBE=CA 1EBF=EA 1ED0=D4 1ED1=F4
    1EDA-1EDB=1A0 1EE8-1EE9=1AF 1F04-1F05=1F00 1F0C-1F0D=1F08 1F14-1F15=1F10 1F1C-1F1D=1F18
    1F24-1F25=1F20 1F2C-1F2D=1F28 1F34-1F35=1F30 1F3C-1F3D=1F38 1F44-1F45=1F40 1F4C-1F4D=1F48
    1F54-1F55=1F50 1F5D=1F59 1F64-1F65=1F60 1F6C-1F6D=1F68 1FCE=1FBF 1FDE=1FFE"),
    (0x302, "
    C2=41 CA=45 CE=49 D4=4F DB=55 E2=61 EA=65 EE=69 F4=6F FB=75 108=43 109=63 11C=47 11D=67
    124=48 125=68 134=4A 135=6A 15C=53 15D=73 174=57 175=77 176=59 177=79 1E90=5A 1E91=7A
    1EAC-1EAD=1EA0 1EC6-1EC7=1EB8 1ED8-1ED9=1ECC"),
    (0x303, "
    C3=41 D1=4E D5=4F E3=61 F1=6E F5=6F 128=49 129=69 168=55 169=75 1E7C=56 1E7D=76 1EAA=C2
    1EAB=E2 1EB4-1EB5=102 1EBC=45 1EBD=65 1EC4=CA 1EC5=EA 1ED6=D4 1ED7=F4 1EE0-1EE1=1A0
    1EEE-1EEF=1AF 1EF8=59 1EF9=79"),
    (0x304, "
    100=41 101=61 112=45 113=65 12A=49 12B=69 14C=4F 14D=6F 16A=55 16B=75 1D5=DC 1D6=FC 1DE=C4
    1DF=E4 1E0-1E1=226 1E2=C6 1E3=E6 1EC-1ED=1EA 22A=D6 22B=F6 22C=D5 22D=F5 230-231=22E 232=59
    233=79 4E2=418 4E3=438 4EE=423 4EF=443 1E20=47 1E21=67 1E38-1E39=1E36 1E5C-1E5D=1E5A
    1FB1=3B1 1FB9=391 1FD1=3B9 1FD9=399 1FE1=3C5 1FE9=3A5"),
    (0x306, "
    102=41 103=61 114=45 115=65 11E=47 11F=67 12C=49 12D=69 14E=4F 14F=6F 16C=55 16D=75 40E=423
    419=418 439=438 45E=443 4C1=416 4C2=436 4D0=410 4D1=430 4D6=415 4D7=435 1E1C-1E1D=228
    1EB6-1EB7=1EA0 1FB0=3B1 1FB8=391 1FD0=3B9 1FD8=399 1FE0=3C5 1FE8=3A5"),
    (0x307, "
    10A=43 10B=63 116=45 117=65 120=47 121=67 130=49 17B=5A 17C=7A 226=41 227=61 22E=4F 22F=6F
    1E02=42 1E03=62 1E0A=44 1E0B=64 1E1E=46 1E1F=66 1E22=48 1E23=68 1E40=4D 1E41=6D 1E44=4E
    1E45=6E 1E56=50 1E57=70 1E58=52 1E59=72 1E60=53 1E61=73 1E64-1E65=15A 1E66-1E67=160
    1E68-1E69=1E62 1E6A=54 1E6B=74 1E86=57 1E87=77 1E8A=58 1E8B=78 1E8E=59 1E8F=79 1E9B=17F"),
    (0x308, "
    C4=41 CB=45 CF=49 D6=4F DC=55 E4=61 EB=65 EF=69 F6=6F FC=75 FF=79 178=59 3AA=399 3AB=3A5
    3CA=3B9 3CB=3C5 3D4=3D2 401=415 407=406 451=435 457=456 4D2=410 4D3=430 4DA-4DB=4D8 4DC=416
    4DD=436 4DE=417 4DF=437 4E4=418 4E5=438 4E6=41E 4E7=43E 4EA-4EB=4E8 4EC=42D 4ED=44D 4F0=423
    4F1=443 4F4=427 4F5=447 4F8=42B 4F9=44B 1E26=48 1E27=68 1E4E=D5 1E4F=F5 1E7A-1E7B=16A
    1E84=57 1E85=77 1E8C=58 1E8D=78 1E97=74"),
    (0x309, "
    1EA2=41 1EA3=61 1EA8=C2 1EA9=E2 1EB2-1EB3=102 1EBA=45 1EBB=65 1EC2=CA 1EC3=EA 1EC8=49
    1EC9=69 1ECE=4F 1ECF=6F 1ED4=D4 1ED5=F4 1EDE-1EDF=1A0 1EE6=55 1EE7=75 1EEC-1EED=1AF 1EF6=59
    1EF7=79"),
    (0x30A, "
    C5=41 E5=61 16E=55 16F=75 1E98=77 1E99=79"),
    (0x30B, "
    150=4F 151=6F 170=55 171=75 4F2=423 4F3=443"),
    (0x30C, "
    10C=43 10D=63 10E=44 10F=64 11A=45 11B=65 13D=4C 13E=6C 147=4E 148=6E 158=52 159=72 160=53
    161=73 164=54 165=74 17D=5A 17E=7A 1CD=41 1CE=61 1CF=49 1D0=69 1D1=4F 1D2=6F 1D3=55 1D4=75
    1D9=DC 1DA=FC 1E6=47 1E7=67 1E8=4B 1E9=6B 1EE=1B7 1EF=292 1F0=6A 21E=48 21F=68"),
    (0x30F, "
    200=41 201=61 204=45 205=65 208=49 209=69 20C=4F 20D=6F 210=52 211=72 214=55 215=75
    476-477=474"),
    (0x311, "
    202=41 203=61 206=45 207=65 20A=49 20B=69 20E=4F 20F=6F 212=52 213=72 216=55 217=75"),
    (0x313, "
    1F00=3B1 1F08=391 1F10=3B5 1F18=395 1F20=3B7 1F28=397 1F30=3B9 1F38=399 1F40=3BF 1F48=39F
    1F50=3C5 1F60=3C9 1F68=3A9 1FE4=3C1"),
    (0x314, "
    1F01=3B1 1F09=391 1F11=3B5 1F19=395 1F21=3B7 1F29=397 1F31=3B9 1F39=399 1F41=3BF 1F49=39F
    1F51=3C5 1F59=3A5 1F61=3C9 1F69=3A9 1FE5=3C1 1FEC=3A1"),
    (0x323, "
    1E04=42 1E05=62 1E0C=44 1E0D=64 1E24=48 1E25=68 1E32=4B 1E33=6B 1E36=4C 1E37=6C 1E42=4D
    1E43=6D 1E46=4E 1E47=6E 1E5A=52 1E5B=72 1E62=53 1E63=73 1E6C=54 1E6D=74 1E7E=56 1E7F=76
    1E88=57 1E89=77 1E92=5A 1E93=7A 1EA0=41 1EA1=61 1EB8=45 1EB9=65 1ECA=49 1ECB=69 1ECC=4F
    1ECD=6F 1EE2-1EE3=1A0 1EE4=55 1EE5=75 1EF0-1EF1=1AF 1EF4=59 1EF5=79"),
    (0x327, "
    C7=43 E7=63 122=47 123=67 136=4B 137=6B 13B=4C 13C=6C 145=4E 146=6E 156=52 157=72 15E=53
    15F=73 162=54 163=74 228=45 229=65 1E10=44 1E11=64 1E28=48 1E29=68"),
    (0x328, "
    104=41 105=61 118=45 119=65 12E=49 12F=69 172=55 173=75 1EA=4F 1EB=6F"),
    (0x32D, "
    1E12=44 1E13=64 1E18=45 1E19=65 1E3C=4C 1E3D=6C 1E4A=4E 1E4B=6E 1E70=54 1E71=74 1E76=55
    1E77=75"),
    (0x330, "
    1E1A=45 1E1B=65 1E2C=49 1E2D=69 1E74=55 1E75=75"),
    (0x331, "
    1E06=42 1E07=62 1E0E=44 1E0F=64 1E34=4B 1E35=6B 1E3A=4C 1E3B=6C 1E48=4E 1E49=6E 1E5E=52
    1E5F=72 1E6E=54 1E6F=74 1E94=5A 1E95=7A 1E96=68"),
    (0x338, "
    219A=2190 219B=2192 21AE=2194 21CD=21D0 21CE=21D4 21CF=21D2 2204=2203 2209=2208 220C=220B
    2224=2223 2226=2225 2241=223C 2244=2243 2247=2245 2249=2248 2260=3D 2262=2261 226D=224D
    226E=3C 226F=3E 2270-2271=2264 2274-2275=2272 2278-2279=2276 2280-2281=227A 2284-2285=2282
    2288-2289=2286 22AC=22A2 22AD-22AE=22A8 22AF=22AB 22E0-22E1=227C 22E2-22E3=2291
    22EA-22ED=22B2 2ADC=2ADD"),
    (0x342, "
    1F06-1F07=1F00 1F0E-1F0F=1F08 1F26-1F27=1F20 1F2E-1F2F=1F28 1F36-1F37=1F30 1F3E-1F3F=1F38
    1F56-1F57=1F50 1F5F=1F59 1F66-1F67=1F60 1F6E-1F6F=1F68 1FB6=3B1 1FC1=A8 1FC6=3B7 1FCF=1FBF
    1FD6=3B9 1FD7=3CA 1FDF=1FFE 1FE6=3C5 1FE7=3CB 1FF6=3C9"),
    (0x345, "
    1F80-1F8F=1F00 1F90-1F9F=1F20 1FA0-1FAF=1F60 1FB2=1F70 1FB3=3B1 1FB4=3AC 1FB7=1FB6 1FBC=391
    1FC2=1F74 1FC3=3B7 1FC4=3AE 1FC7=1FC6 1FCC=397 1FF2=1F7C 1FF3=3C9 1FF4=3CE 1FF7=1FF6
    1FFC=3A9"),
    (0x5BC, "
    FB30-FB36=5D0 FB38-FB3C=5D8 FB3E=5DE FB40-FB41=5E0 FB43-FB44=5E3 FB46-FB4A=5E6"),
    (0x654, "
    623=627 624=648 626=64A 6C0=6D5 6C2=6C1 6D3=6D2"),
    (0x93C, "
    929=928 931=930 934=933 958-95A=915 95B=91C 95C-95D=921 95E=92B 95F=92F"),
    (0xA3C, "
    A33=A32 A36=A38 A59-A5A=A16 A5B=A1C A5E=A2B"),
    (0xFB7, "
    F43=F42 F4D=F4C F52=F51 F57=F56 F5C=F5B F93=F92 F9D=F9C FA2=FA1 FA7=FA6 FAC=FAB"),
    (0x1B35, "
    1B06=1B05 1B08=1B07 1B0A=1B09 1B0C=1B0B 1B0E=1B0D 1B12=1B11 1B3B=1B3A 1B3D=1B3C
    1B40-1B41=1B3E 1B43=1B42"),
    (0x3099, "
    304C=304B 304E=304D 3050=304F 3052=3051 3054=3053 3056=3055 3058=3057 305A=3059 305C=305B
    305E=305D 3060=305F 3062=3061 3065=3064 3067=3066 3069=3068 3070=306F 3073=3072 3076=3075
    3079=3078 307C=307B 3094=3046 309E=309D 30AC=30AB 30AE=30AD 30B0=30AF 30B2=30B1 30B4=30B3
    30B6=30B5 30B8=30B7 30BA=30B9 30BC=30BB 30BE=30BD 30C0=30BF 30C2=30C1 30C5=30C4 30C7=30C6
    30C9=30C8 30D0=30CF 30D3=30D2 30D6=30D5 30D9=30D8 30DC=30DB 30F4=30A6 30F7-30FA=30EF
    30FE=30FD"),
    (0x309A, "
    3071=306F 3074=3072 3077=3075 307A=3078 307D=307B 30D1=30CF 30D4=30D2 30D7=30D5 30DA=30D8
    30DD=30DB") ]

/-- Characters that are made of others in another way, or are another spelling of one. -/
def others : String :=
  "
    1A0=4F+31B 1A1=6F+31B 1AF=55+31B 1B0=75+31B 218=53+326 219=73+326 21A=54+326 21B=74+326
    340-341=300 343=313 374=2B9 37E=3B 387=B7 622=627+653 625=627+655 9CB=9C7+9BE 9CC=9C7+9D7
    9DC=9A1+9BC 9DD=9A2+9BC 9DF=9AF+9BC B48=B47+B56 B4B=B47+B3E B4C=B47+B57 B5C=B21+B3C B5D=B22+B3C
    B94=B92+BD7 BCA=BC6+BBE BCB=BC7+BBE BCC=BC6+BD7 C48=C46+C56 CC0=CBF+CD5 CC7=CC6+CD5 CC8=CC6+CD6
    CCA=CC6+CC2 CCB=CCA+CD5 D4A=D46+D3E D4B=D47+D3E D4C=D46+D57 DDA=DD9+DCA DDC=DD9+DCF DDD=DDC+DCA
    DDE=DD9+DDF F69=F40+FB5 F73=F71+F72 F75=F71+F74 F76=FB2+F80 F78=FB3+F80 F81=F71+F80 FB9=F90+FB5
    1026=1025+102E 1E00=41+325 1E01=61+325 1E2A=48+32E 1E2B=68+32E 1E72=55+324 1E73=75+324 1F71=3AC
    1F73=3AD 1F75=3AE 1F77=3AF 1F79=3CC 1F7B=3CD 1F7D=3CE 1FBB=386 1FBE=3B9 1FC9=388 1FCB=389
    1FD3=390 1FDB=38A 1FE3=3B0 1FEB=38E 1FEE=385 1FEF=60 1FF9=38C 1FFB=38F 1FFD=B4 2000-2001=2002
    2126=3A9 212A=4B 212B=C5 2329-232A=3008 FB1D=5D9+5B4 FB1F=5F2+5B7 FB2A=5E9+5C1 FB2B=5E9+5C2
    FB2C=FB49+5C1 FB2D=FB49+5C2 FB2E=5D0+5B7 FB2F=5D0+5B8 FB4B=5D5+5B9 FB4C=5D1+5BF FB4D=5DB+5BF
    FB4E=5E4+5BF 105C9=105D2+307 105E4=105DA+307 1109A=11099+110BA 1109C=1109B+110BA
    110AB=110A5+110BA 1112E-1112F=11131+11127 1134B=11347+1133E 1134C=11347+11357 11383=11382+113C9
    11385=11384+113BB 1138E=1138B+113C2 11391=11390+113C9 113C5=113C2+113C2 113C7=113C2+113B8
    113C8=113C2+113C9 114BB=114B9+114BA 114BC=114B9+114B0 114BE=114B9+114BD 115BA-115BB=115B8+115AF
    11938=11935+11930 16121=1611E+1611E 16122=1611E+16129 16123=1611E+1611F 16124=16129+1611F
    16125=1611E+16120 16126-16127=16121+1611F 16128=16121+16120 16D68=16D67+16D67 16D69=16D63+16D67
    16D6A=16D69+16D67 1D15E-1D15F=1D157+1D165 1D160=1D15F+1D16E 1D161=1D15F+1D16F 1D162=1D15F+1D170
    1D163=1D15F+1D171 1D164=1D15F+1D172 1D1BB-1D1BC=1D1B9+1D165 1D1BD-1D1BE=1D1BB+1D16E
    1D1BF-1D1C0=1D1BB+1D16F"

/-- Marks by the place they have. -/
def classes : List (Nat × String) :=
  [ (1, "
    334-338 1CD4 1CE2-1CE8 20D2-20D3 20D8-20DA 20E5-20E6 20EA-20EB 10A39 16AF0-16AF4 1BC9E
    1D167-1D169"),
    (6, "
    16FF0-16FF1"),
    (7, "
    93C 9BC A3C ABC B3C C3C CBC 1037 1B34 1BE6 1C37 A9B3 110BA 11173 111CA 11236 112E9 1133B-1133C
    11446 114C3 115C0 116B7 1183A 11943 11D42 1E94A"),
    (8, "
    3099-309A"),
    (9, "
    94D 9CD A4D ACD B4D BCD C4D CCD D3B-D3C D4D DCA E3A EBA F84 1039-103A 1714-1715 1734 17D2 1A60
    1B44 1BAA-1BAB 1BF2-1BF3 2D7F A806 A82C A8C4 A953 A9C0 AAF6 ABED 10A3F 11046 11070 1107F 110B9
    11133-11134 111C0 11235 112EA 1134D 113CE-113D0 11442 114C2 115BF 1163F 116B6 1172B 11839
    1193D-1193E 119E0 11A34 11A47 11A99 11C3F 11D44-11D45 11D97 11F41-11F42 1612F"),
    (10, "
    5B0"),
    (11, "
    5B1"),
    (12, "
    5B2"),
    (13, "
    5B3"),
    (14, "
    5B4"),
    (15, "
    5B5"),
    (16, "
    5B6"),
    (17, "
    5B7"),
    (18, "
    5B8 5C7"),
    (19, "
    5B9-5BA"),
    (20, "
    5BB"),
    (21, "
    5BC"),
    (22, "
    5BD"),
    (23, "
    5BF"),
    (24, "
    5C1"),
    (25, "
    5C2"),
    (26, "
    FB1E"),
    (27, "
    64B 8F0"),
    (28, "
    64C 8F1"),
    (29, "
    64D 8F2"),
    (30, "
    618 64E"),
    (31, "
    619 64F"),
    (32, "
    61A 650"),
    (33, "
    651"),
    (34, "
    652"),
    (35, "
    670"),
    (36, "
    711"),
    (84, "
    C55"),
    (91, "
    C56"),
    (103, "
    E38-E39"),
    (107, "
    E48-E4B"),
    (118, "
    EB8-EB9"),
    (122, "
    EC8-ECB"),
    (129, "
    F71"),
    (130, "
    F72 F7A-F7D F80"),
    (132, "
    F74"),
    (202, "
    321-322 327-328 1DD0"),
    (214, "
    1DCE"),
    (216, "
    31B F39 1D165-1D166 1D16E-1D172"),
    (218, "
    1DFA 302A"),
    (220, "
    316-319 31C-320 323-326 329-333 339-33C 347-349 34D-34E 353-356 359-35A 591 596 59B 5A2-5A7 5AA
    5C5 655-656 65C 65F 6E3 6EA 6ED 731 734 737-739 73B-73C 73E 742 744 746 748 7F2 7FD 859-85B
    899-89B 8CF-8D3 8E3 8E6 8E9 8ED-8EF 8F6 8F9-8FA 952 F18-F19 F35 F37 FC6 108D 193B 1A18 1A7F
    1AB5-1ABA 1ABD 1ABF-1AC0 1AC3-1AC4 1ACA 1ADD 1AE6 1B6C 1CD5-1CD9 1CDC-1CDF 1CED 1DC2 1DCA 1DCF
    1DF9 1DFD 1DFF 20E8 20EC-20EF A92B-A92D AAB4 FE27-FE2D 101FD 102E0 10A0D 10A3A 10AE6
    10EFA-10EFB 10EFD-10EFF 10F46-10F47 10F4B 10F4D-10F50 10F83 10F85 1D17B-1D182 1D18A-1D18B 1E4EE
    1E5EF 1E8D0-1E8D6"),
    (222, "
    59A 5AD 1939 302D"),
    (224, "
    302E-302F"),
    (226, "
    1D16D"),
    (228, "
    5AE 18A9 1DF7-1DF8 302B"),
    (230, "
    300-314 33D-33F 342 346 34A-34C 350-352 357 35B 363-36F 483-487 592-595 597-599 59C-5A1 5A8-5A9
    5AB-5AC 5AF 5C4 610-617 653-654 657-65B 65D-65E 6D6-6DC 6DF-6E2 6E4 6E7-6E8 6EB-6EC 730 732-733
    735-736 73A 73D 73F-741 743 745 747 749-74A 7EB-7F1 7F3 816-819 81B-823 825-827 829-82D 897-898
    89C-89F 8CA-8CE 8D4-8E1 8E4-8E5 8E7-8E8 8EA-8EC 8F3-8F5 8F7-8F8 8FB-8FF 951 953-954 9FE F82-F83
    F86-F87 135D-135F 17DD 193A 1A17 1A75-1A7C 1AB0-1AB4 1ABB-1ABC 1AC1-1AC2 1AC5-1AC9 1ACB-1ADC
    1AE0-1AE5 1AE7-1AEA 1B6B 1B6D-1B73 1CD0-1CD2 1CDA-1CDB 1CE0 1CF4 1CF8-1CF9 1DC0-1DC1 1DC3-1DC9
    1DCB-1DCC 1DD1-1DF5 1DFB 1DFE 20D0-20D1 20D4-20D7 20DB-20DC 20E1 20E7 20E9 20F0 2CEF-2CF1
    2DE0-2DFF A66F A674-A67D A69E-A69F A6F0-A6F1 A8E0-A8F1 AAB0 AAB2-AAB3 AAB7-AAB8 AABE-AABF AAC1
    FE20-FE26 FE2E-FE2F 10376-1037A 10A0F 10A38 10AE5 10D24-10D27 10D69-10D6D 10EAB-10EAC
    10F48-10F4A 10F4C 10F82 10F84 11100-11102 11366-1136C 11370-11374 1145E 16B30-16B36 1D185-1D189
    1D1AA-1D1AD 1D242-1D244 1E000-1E006 1E008-1E018 1E01B-1E021 1E023-1E024 1E026-1E02A 1E08F
    1E130-1E136 1E2AE 1E2EC-1E2EF 1E4EF 1E5EE 1E6E3 1E6E6 1E6EE-1E6EF 1E6F5 1E944-1E949"),
    (232, "
    315 31A 358 1DF6 302C 1E4EC-1E4ED"),
    (233, "
    35C 35F 362 1DFC"),
    (234, "
    35D-35E 360-361 1AEB 1DCD"),
    (240, "
    345") ]

def table : CharTable (List Nat) :=
  .ofSpans <|
    (byMark.flatMap fun (mark, text) => CharTable.equationSpans (· ++ [mark]) text) ++
      CharTable.equationSpans id others ++ CharTable.equationSpans id duplicates

def classTable : CharTable Nat :=
  .ofSpans (classes.flatMap fun (place, text) => CharTable.rangeSpans place (Text.wordsOf text))

/-! ## Syllable blocks -/

/-- The first of the blocks that write a whole syllable. -/
def firstBlock : Nat :=
  0xAC00

/-- The consonant, the vowel and, if there is one, the final consonant of a syllable block. -/
def block? (c : Nat) : Option (List Nat) :=
  let i := c - firstBlock
  if c < firstBlock ∨ 19 * 21 * 28 ≤ i then none
  else
    let final := if i % 28 = 0 then [] else [0x11A7 + i % 28]
    some ([0x1100 + i / (21 * 28), 0x1161 + i / 28 % 21] ++ final)

/-! ## Taking apart -/

/-- What a character is made of, if it is made of others. -/
def step? (c : Nat) : Option (List Nat) :=
  if c < 0xC0 then none
  else (block? c).or ((table.find? c).map fun s => s.image c)

/-- How often a part can have parts itself. -/
def maxDepth : Nat :=
  4

/-- The parts of a character that have no parts themselves. -/
def parts : (depth : Nat) → Nat → List Nat
  | 0, c => [c]
  | depth + 1, c =>
      match step? c with
      | none => [c]
      | some cs => cs.flatMap (parts depth)

/-- The place of a mark, or zero for what is no mark. -/
def classOf (c : Nat) : Nat :=
  if c < 0x300 then 0 else ((classTable.find? c).map Span.value).getD 0

/-- Put a character in front of others; a mark goes past the marks that come before it. -/
def place (c : Nat) : List Nat → List Nat
  | [] => [c]
  | d :: ds =>
      if 0 < classOf d ∧ classOf d < classOf c then d :: place c ds else c :: d :: ds

/-- Characters taken apart, with their marks in order. -/
def apart (cs : List Nat) : List Nat :=
  (cs.flatMap (parts maxDepth)).foldr place []

end Decomposition
end LineRpc
