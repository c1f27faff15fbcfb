import LineRpc.Text.Collation.Order

/-!
# Ideographs — the order of ideographs

Ideographs are ordered as in a dictionary: by the radical that they are written with, and under a
radical by the number of strokes that come to it. Their numbers do not show this, because later
additions have numbers of their own for every radical.

- `Collation.ideographs`     : ideographs in order, radical by radical
- `Collation.ideographTable` : the places of ideographs
-/

namespace LineRpc
namespace Collation

/-- Ideographs in order. Each text starts with a radical. -/
def ideographs : List String :=
  [ "
    4E00 2A6D9 4E01-4E06 20000-20002 2CEB0 30000 4E07-4E0C 4E90 5344 20003-20006 2A6DA 2A700-2A701
    2B740 2CEA2 2CEB1-2CEB4 30001-30004 323B0-323B1 4E0D-4E13 4E17 20007-2000C 2A702 2B821 2CEA3
    2CEB5-2CEB9 30005-30007 2EBF0 323B2 4E14-4E16 4E18-4E1D 3400 2000D-20017 2B822-2B823
    2CEBA-2CEBE 30008-3000A 31350 4E1E-4E22 3401-3402 20018-2001A 2001C 2001E-20020 2B741
    2B824-2B825 2CEBF-2CEC9 3000B 31351 4E23-4E25 4E3D 9FD6 20021-20024 20026-20028 2002A-2002B
    2B742 2B826-2B829 2CECA-2CED2 3000C 31352 4E26-4E27 2002C-2002E 20030-20034 2A703 2B82A-2B82D
    2CED3-2CED8 3000D 31353-31357 9FD7 20035-20036 20038 2003A-2003B 2A704 2B82E 2CED9-2CEDD
    3000E-30011 323B3 2003D-20040 20922 2A705 2B82F-2B832 2CEDE-2CEE0 30012-30015 31358-3135D 323B4
    20041-20045 2A706 2B833-2B835 2CEE1-2CEE5 3135E-3135F 323B5-323B6 20046-20048 2004A-2004B 2B836
    2CEE6-2CEE8 30016-30018 31360-31361 323B7 2004C-2004D 2B837-2B83C 2CEE9-2CEEE 30019-3001A
    31362-31364 323B8 2004E-20052 2B743 2B83D 2CEEF 3001B-3001C 31365 4DB6 20053-20054 2B83E-2B83F
    2CEF0 3001D 31366-31367 20055 20057-2005B 2005D 24CCF 2A707 2B840 31368 20056 3001E 31369 2005F
    2B841-2B842 323B9 20060 3001F 2CEF1 3136A",
    "
    4E28-4E29 20061-20062 4E2A-4E2B 3403-3404 2B843-2B844 30020 3136B 4E2D-4E30 20063 2A708 2B845
    30021 4E31 20065 30022 323BA 20066 2CEF2-2CEF3 30023 3136C 4E32 20067-20068 2B846 4E33
    20069-2006C 2B847 30024 3136D-31370 4E34 2006D-2006F 23D92 2A709 2CEF4 30025 323BB 4E35
    20070-20071 2B848-2B849 2CEF5-2CEF7 30026-30027 31371-31373 20073 31374 323BC 20074-20075 31375
    323BD 2CEF8-2CEF9 20076 2B84A 20078 2B84B-2B84C 31376 20079 30028 323BE 2007A 2B84D 2007B 2B84E",
    "
    4E36-4E37 2A70A 4E38 4E49 2007C-2007D 2CEFA 4E39-4E3A 2007F 31377 4E3B-4E3C 20080-20081 2EBF1
    20082 2CEFB 2A70B 4E3E 2CEFC 20083 30029 2CEFD 20084 2CEFE 20085",
    "
    4E3F-4E44 3405 20086-2008A 2CEFF-2CF02 3002A-3002B 4E45-4E48 4E4A 2008B-2008E 2B744 2B84F
    2CF03-2CF04 31378-31379 4E4B-4E4C 5C39 2008F-20093 2B735 2CF05-2CF06 2EBF2 4E4D-4E50
    20094-200A1 2B850 2CF07-2CF08 3002C 3137A 323BF 4E51-4E54 3406 200A2-200A7 200A9-200AB 200AD
    2A70C 2B851-2B853 2CF09 3137B 323C0-323C1 4E55 200AF 2B854 2CF0A 3137C 323C2 4E56 200B2-200B3
    200B6 2B855-2B858 2CF0B 4E57 200B4 200B7 2A70D 2B859-2B85A 4E58 200B9-200BE 2A70E-2A70F
    2B85B-2B85C 2CF0C-2CF0F 3137D 200BF-200C2 2B85D 2CF10 323C3 200C3-200C4 2B85E 3002D-3002F
    323C4-323C5 200C6 3137E 200C5 2CF11 3137F 200C7 2B85F-2B860 2CF12-2CF15 200C8 2B861",
    "
    4E59-4E5B 200C9-200CE 200D1 4E5C-4E5D 9FB4 200CF-200D0 323C6 4E5E-4E60 3407-3409 200D2-200D4
    2CF16 30030 323C7 4E63-4E66 340A-340B 2007E 200D5-200DD 2B862 2CF17-2CF18 30031 31380
    323C8-323CA 4E67 340C-340F 200DE-200E3 2A710 2B863 2CF19-2CF1C 30032-30035 31381 323CB-323D2
    4E68-4E70 3410-3415 200E4-200E8 2A711 2B864 2CF1D-2CF22 30036-3003C 31382-31383 323D3-323DB
    4E71-4E72 3416-3418 200E9-200EA 200EC 209DD 2A712-2A713 2B865-2B867 2CF23-2CF24 3003D-30040
    31384-31385 323DC-323E1 4E73-4E78 3419-341B 200ED-200EF 2A714 2B868 2CF25-2CF27 30041-30043
    31386 323E2-323E6 4E79-4E7C 341C-3420 200B8 200F2-200F7 2A715 2B869 2CF28-2CF2B 30044-30048
    31387 323E7-323EA 4E7D 200F8-200FB 24C61 2A716-2A717 2B86A-2B86C 2CF2C-2CF2D 30049-3004B
    31388-3138B 323EB-323EF 4E7E-4E80 3421-3423 200FC-20102 2A718 2B86D-2B86E 2CF2E-2CF31 3004C
    323F0-323F5 4E81 3424 25740 2A719-2A71A 2CF32-2CF34 3004D 3138C-3138D 323F6-323F8 4E82-4E84
    20103-20104 2A71B 2B86F-2B870 2CF35 3138E 323F9-323FB 20105-20108 221A1 3004E 3138F 323FC-323FE
    3004F 3425 30050 323FF-32400 20109 30051 31390 3426 2010A-2010B",
    "
    4E85 2010C 4E86 2010D-20110 4E87 20111 2CF36-2CF38 4E88 3427 20112-20114 30052 4E89 20029 20115
    2CF39 4E8A 20116-20118 2A71C 4E8B 3428 20119 2CF3A 32401 2011A 30053-30054 2011B 2A71D 2CF3B
    2011C 31391 2011D 2CF3C",
    "
    4E8C 2011E-20120 4E8D-4E8F 2CF3D 4E91-4E96 20121 30055 4E97 30056 32402 4E98-4E9A 20122-20127
    2B871 30057 4E9B-4E9C 20025 20128-2012A 2B872 4E9D-4E9F 3429 2012B-2012F 2B873 2CF3E 31392
    32403-32405 20130-20133 2CF3F-2CF40 30058 20135-20138 2CF41 31393-31394 32406 20139-2013A 2B874
    32407 2013B 2CF42 32408 2013C-2013E 2B875-2B876 30059 31395-31396 32409 2013F 2A71E 2B877 3005A
    31397 3240A 20140 2A71F 3005B 3240B 2B878-2B879",
    "
    4EA0-4EA3 20141-20142 2A720-2A721 2CF43 4EA4-4EA7 342A-342B 20143-20147 2B745 2CEA4 2CF44 3005C
    3240C 4EA8-4EAA 342C 20148-2014B 2A722 2B87A 2CF45-2CF47 4EAB-4EAC 342D 2014C-20152 2CEA5
    2CF48-2CF49 4EAD-4EB2 20153-20155 2CF4A-2CF4C 4EB3 20156 20158-2015D 2B87B 2CF4D 31398
    2015E-20167 2A723 2CEA6 2CF4E-2CF52 3005D 3240D-3240E 4EB4-4EB5 20168-2016F 20172 2A724 2B87C
    2CF53-2CF54 3005E-3005F 3240F-32410 4EB6-4EB7 342E 20173-20178 2017A-2017C 20180 2B87D-2B87E
    2CF55-2CF58 32411 2017E-2017F 2B87F-2B880 2EBF3 20181-20189 2A725 2CF59-2CF5A 30060 31399 4EB8
    2018B-20192 20194 20196-20198 2CF5B-2CF5C 32412 342F 2B881-2B882 2CF5D-2CF5E 32413 2019A 32414
    2019D 2A726 2B883 4EB9 2019E 2CF5F 2B884 2CF60 2019F-201A1",
    "
    4EBA-4EBB 201A2 4EBC-4EBF 201A3-201A5 2B885 4EC0-4ED3 201A6-201A8 2A727 2B886-2B888 2CF61-2CF62
    30061 3139A 2EBF4 32415-32416 4ED4-4EED 3430-3437 201A9-201AD 201AF-201B0 201B3 2B746
    2B889-2B88A 2CF63-2CF68 30062-30063 3139B-3139F 2EBF5-2EBF7 32417 4EEE-4F2C 3438-3440
    201B4-201D1 201D3-201D5 2A728-2A72B 2B88B-2B890 2CF69-2CF6D 30064-3006A 313A0-313A7 2EBF8-2EBF9
    32418-32419 4F2D-4F68 3441-3448 201D6-20201 2A72C-2A734 2B891-2B898 2CF6E-2CF7A 3006B-30070
    313A8-313AA 2EBFA-2EBFB 3241A-3241F 4F69-4FAD 9FC7 3449-3456 20203-20223 20225-2022C
    2A735-2A73A 2B747-2B748 2B899-2B89D 2CF7B-2CF84 30071-30084 313AB-313AD 32420-32422 4FAE-4FED
    3457-3462 2022D-20262 2A73B-2A742 2B89E-2B8A9 2CF85-2CF99 30085-3008E 313AE-313B2 32423-3242B
    4FEE-503A 503C-503F 3463 3465-346D 20263-202A6 202DF 2A743-2A74A 2B749 2B8AA-2B8BC 2CF9A-2CFA9
    3008F-30096 313B3-313BA 2EBFC-2EBFE 3242C-32433 503B 5040-507F 3464 346E-3472 202A7-202D0
    202D2-202DE 202E0-202EC 2A74B-2A755 2B74A 2B8BD-2B8C3 2CFAA-2CFBC 30097-300A1 313BB-313BE
    2EBFF-2EC01 32434-32440 5080-50A9 9FD8 3473-347A 202ED-20305 20307-2031D 20320-20329
    2A756-2A75F 2B8C4-2B8D0 2CFBD-2CFCF 300A2-300A9 313BF-313C4 32441-32446 50AA-50CD 9FD9
    347B-3481 2032B-20361 20363-20364 20366-2036C 203B5 2A760-2A764 2B74B 2B8D1-2B8D6 2B8DE
    2CFD0-2CFE0 300AA-300AC 313C5-313CB 32447-3244D 50CE-50F1 50F3-50F4 3482-3490 20365 2036D-20397
    20399-2039A 2039D-203B4 203D0 2A765-2A76A 2B8D7-2B8D8 2B8DB-2B8DD 2B8DF-2B8E2 2CFE1-2CFEE
    300AD-300B2 313CC-313D3 2EC02 3244E-32452 50F2 50F5-510F 3491-3498 203B7-203CF 203D1
    203D4-203E6 2A76B-2A76F 2B8E3-2B8EC 2CFEF-2CFFA 300B3-300B9 313D4-313D7 32453-32457 5110-511E
    512B 9FDA 3499-349C 203D2 203E8-20407 2A770-2A773 2B8ED-2B8F1 2CFFB-2D000 300BA-300BD
    313D8-313DA 32458-3245B 511F-512A 512C 349D-349E 20408-2041B 2041D-20422 2A774-2A776
    2B8F2-2B8F8 2D001-2D005 300BE-300C1 313DB 3245C-32461 512D-5132 349F-34A0 20423-2043A
    2A777-2A779 2B8F9-2B903 2D006-2D00C 300C2-300C6 313DC-313DD 32462-32465 5133-5135 34A1-34A3
    2043B-20441 20443-2044C 2A77A-2A77C 2B904-2B908 2D00D-2D00F 300C7-300C8 313DE 32466-32467 5136
    34A4-34A6 2044D-20456 2045E 2A77D 2B909-2B90B 2D010-2D011 313DF-313E0 32468 5137-513A 34A7-34A8
    20457-2045D 2045F-20463 2A77E 2B90C-2B911 313E1 513B-513C 20464-20469 2D012 32469 513D 34A9
    2046A-2046F 2B912-2B914 2D013-2D014 300C9 313E2 513E 20470 2B915 2D015 2B916 34AA 20472-20473
    3246A 313E3 3246B 20475",
    "
    513F-5143 20476 2D016-2D018 5144 20477-20478 2D019-2D01D 300CA 5145-514A 34AB 20479-2047C 2B917
    514B-5151 2047D-20482 2D01E-2D020 300CB 5152-5156 34AC 20483-2048B 2A77F 2B918 2D021-2D024
    300CC 3246C 5157-5159 2048C-2048F 2A780 2B74C 2B919 2D025 515A-515B 34AD 20490-20496 2A781
    2D026-2D027 313E4-313E5 3246D-3246E 515C-515E 34AE 20497-2049D 2B91A-2B91B 2D028 300CD
    313E6-313E8 3246F 515F-5160 2049E-204A3 2B91C-2B91D 2D029-2D02D 300CE 313E9 32470 5161
    204A4-204A6 2A782 2B91E 2D02E-2D02F 300CF-300D0 32471 5162 204A7-204AF 2B91F-2B920 2D030-2D033
    300D1-300D2 313EA-313EC 32472-32473 204B0-204B2 204B4-204B7 2A783-2A785 2D034 313ED 32474 5163
    204B3 204B8-204BE 2D035 300D3-300D4 313EE 32475 204BF-204C5 204C7 2B921-2B922 2D036-2D038 313EF
    34AF 204C6 204C8-204CA 2B923-2B926 2D039-2D03A 32476-32478 204CB 204CE 2A786 2B927 300D5 313F0
    204CD 204CF-204D0 32479 5164 204D1-204D4 2B928 204D5-204DA",
    "
    5165-5166 204DB 5167 204DC-204DE 34B0-34B1 204DF 2D03B 313F1 5168 6C3D 34B2 201D2 204E0-204E3
    300D6 34B3-34B4 204E4-204E8 2D03C-2D03E 5169 204E9 2D03F 300D7-300D9 2EC03 516A 204EA-204EC
    2D040 300DA-300DB 313F2 3247A 204ED-204F0 2A787 2B929 204F1 300DC 20306 204F2-204F3 2B92A
    204F4-204FB 3247B-3247C 204FC 2D041 3247D 204FD 2D042 204FE-204FF 2D043",
    "
    516B 20500 516C-516F 20501-20504 3247E 5170 20505-20506 2CEA7 2D044 5171-5174 9FB9 20508-20509
    2A788 2B92B-2B92C 2D045-2D046 300DD-300DF 313F3 5175 34B5-34B7 2050A-2050F 2D047 3247F
    5176-5178 20510-20511 20A56 2B92D 2D048-2D04B 300E0 5179 517B 34B8 20512-20517 2D04C-2D04E
    300E1 313F4 517A 517C 20519-2051B 2B92E-2B92F 2D04F-2D050 300E2-300E3 517D 2051C-2051D 2B930
    2D051-2D053 300E4 2051E-20527 2A789 2B931 2D054-2D056 517E-517F 20528-2052E 2A78A 2B932
    2D057-2D058 300E5 313F5-313F6 32480-32481 2052F-20531 20B7B 2A78B 2D059 2A78C 2D05A-2D05C 32482
    5180 20533-20535 2A78D 2005C 5181 20536-20537 2B933 313F7-313F8 20538-2053A 2B934-2B935 2D05D
    34B9 2D05E 32483 2B936",
    "
    5182 2053C 300E6 5183-5188 2053D-20540 2D05F 5189-518C 56D8 20541-2054A 2D060 313F9 518D-518E
    2054B-2054F 2D061-2D062 300E7-300E8 313FA-313FB 518F 20550-20555 2A78E 5190 34BA 20556-2055A
    2D063-2D069 32484-32485 5191-5192 2055B-2055C 2B74D 2D06A-2D06B 5193-5194 2055D-2055F
    2D06C-2D06F 300E9-300EA 5195 34BB-34BC 20560-20562 6700 34BD 20563-20565 2D070-2D071 300EB
    32486 34BE 20566-20567 2B937 20568-20569 313FC 2056A 2056C 300EC-300ED 2056D-20570 2D072 20571
    34BF 20572",
    "
    5196-5198 34C0-34C1 20573-20574 32487 5199-519A 20575-20578 2D073 300EE 519B-519C 20579-2057F
    32488-32489 519D 20580-20583 2A78F-2A790 2B938 300EF-300F0 2EC04 519E 20584-20586 2A791 2D074
    519F-51A0 34C2 20587-2058B 2B939-2B93A 51A1-51A7 2058C-20592 2A792 2D075-2D07B 300F1 313FD 51A8
    20593 2A793 2D07C-2D07F 3248A 34C3 20594-20599 2A794 2D080 2EC05 2059A-2059B 2D081-2D082 300F2
    51A9 2059C-2059E 2A795 313FE 34C4 2B93B 2D083-2D085 51AA 205A0-205A5 2B93C 205A6-205A8 2B93D
    205A9-205AB 300F3-300F4",
    "
    51AB 205AC 2B93E 34C5 205AD 2D086-2D087 300F5 51AC-51AF 205AE-205B0 2A796 2B93F 2D088 313FF
    2EC06 3248B 51B0-51B4 34C6-34C7 205B1-205B6 2A797-2A79A 2B940-2B943 300F6-300F8 31400-31401
    51B5-51BB 9FD1 34C8 205B7-205BF 205C1 2A79B-2A79D 2B944-2B948 2D089-2D08A 300F9-300FA 31402
    3248C 51BC-51C0 34C9-34CD 205C0 205C2-205C7 2A79E 2B949-2B94B 2D08B-2D08E 300FB-300FD 31403
    3248D 51C1-51C3 34CE-34CF 205C8-205D7 2A79F-2A7A1 2B74E 2B94C-2B94E 2D08F-2D090 300FE
    31404-31406 3248E-32491 51C4-51CE 34D0-34D2 205D8-205E4 2A7A2-2A7A5 2B94F-2B950 2D091-2D095
    300FF-30101 32492-32493 51CF-51D1 34D3 205E5-205F0 2A7A6-2A7A8 2B74F 2B951-2B954 2D096-2D098
    30102-30104 31407 32494-32495 51D2-51D6 34D4-34D5 205F1-205F9 2A7A9-2A7AA 2B955-2B956
    2D099-2D09B 30105-30107 31408-3140A 32496 51D7 34D6 205FA-20603 2A7AB-2A7AC 2B957-2B958
    2D09C-2D09E 30108-3010A 3140B 2EC07 32497-32498 51D8 34D7 20604-20609 20613 2A7AD 2B959
    2D09F-2D0A1 3010B-3010C 3140C 2EC08 51D9-51DC 2060A-20611 2A7AE 2B95A-2B95C 2D0A2-2D0A4 3010D
    32499 51DD-51DE 20612 20614-20615 2A7AF 2D0A5 51DF 20616-2061C 250B3 2D0A6 3010E-3010F 3249A
    2061D-20621 2B95D 2D0A7 3249B 20622-20623 3249C 2A7B0 2D0A8 20624 3249D 20625 9FDB 20626",
    "
    51E0 20627-20628 51E1-51E3 2A6DD 3249E 51E4 20629-20630 2D0A9-2D0AC 51E5-51E7 20631-20634
    51E8-51EB 20635-2063B 2A7B1 2B95E-2B95F 2D0AD-2D0AF 51EC 2063C-20645 2A7B2 2D0B0 2EC09
    51ED-51EF 20646-2064E 20AEE 2D0B1-2D0B2 2064F-20651 2D0B3-2D0B4 2EC0A 20652-20656 2A7B3 2B960
    30110 51F0 34D8 20658-20659 2065B-2065E 2A7B4 2B961 2D0B5-2D0B6 51F1-51F2 20049 2065F-20663
    2B962 2D0B7 20664-20667 2A7B5 2B963 2D0B8-2D0B9 2EC0B 51F3-51F4 20668-2066B 2066D-20670 2D0BA
    20671-20672 3249F 20673",
    "
    51F5 20674-20675 51F6 20676-20678 30111 51F7-51FB 20679-2067B 2067D 2A7B6 51FC 34D9 2067E-2068A
    2D0BB 51FD 2068B-2068D 2A7B7 30112 3140D 51FE 2068E-20690 3140E-3140F 324A0 20692-20693 2A7B8
    2B964 2D0BC 30113-30114 20694-20697 2D0BD 30115 324A1 51FF 20698 2A7B9 2B965-2B966 2D0BE 31410
    2A7BA-2A7BB 2B967-2B969 31411 20699-2069A 2236D 2B96A-2B96B 2D0BF 30116 2069C 2B96C 2D0C0
    30117-30118 2069D-2069E 2D0C1 221D5 2A7BC 2069F 2A7BD 2B96D-2B96F 324A2 206A0-206A2 324A3",
    "
    5200-5202 206A3 5203-5204 206A4 5205-5208 206A5-206AC 2D0C2-2D0C4 30119-3011A 5209-520D
    34DA-34DC 206AD-206B4 206B6 206BB 2B970-2B971 2D0C5-2D0C7 3011B-3011D 520E-521B 34DD-34DE 206B5
    206B7-206BA 206BC-206CD 2A7BE-2A7C0 2B972-2B974 2CEA8 2D0C8-2D0CC 3011E-30122 31412-31415 324A4
    521C-522D 34DF-34E0 206CE-206E6 2A7C1-2A7C2 2B975-2B97B 2D0CD-2D0D4 30123-30126 31416-31417
    324A5 522E-5242 34E1-34E6 206E7-2070F 2A7C3-2A7C5 2B97C-2B97F 2D0D5-2D0E1 30127-3012B
    31418-31419 2EC0C 324A6-324A7 5243-5251 34E7-34EB 20710-20730 2A7C6-2A7C7 2B750 2B980-2B981
    2D0E2-2D0E8 3012C-30132 3141A-3141B 324A8-324AB 5252-5267 34EC-34F0 20731-2075C 20776
    2A7C8-2A7C9 2B982-2B985 2D0E9-2D0F3 30133-30136 3141C-31420 324AC-324AE 5268 526A-5271 5276
    34F1-34F6 2075D-20775 20777-2077E 2A7CA-2A7CD 2B986-2B98C 2D0F4-2D0FE 30137-3013A 324AF-324B1
    5269 5272-5275 34F7-34FB 2077F-2079B 2079D-207A4 2A7CE-2A7D0 2B98D-2B991 2D0FF-2D105 31421
    324B2 5277-527F 34FC-34FD 207A5-207C1 2A7D1-2A7D3 2B992-2B994 2D106-2D10F 3013B-3013D
    31422-31423 324B3 5280-5284 34FE-3509 207C2-207DF 207E1-207E5 2B995-2B999 2D110-2D111
    3013E-30142 31424 324B4 5285-528F 350A 207E0 207E6-207F9 2A7D4 2B99A 2D112 30143 324B5-324B9
    5290-5294 350B-350D 207FA-2080A 2A7D5-2A7D6 2D113-2D117 30144 31425 324BA-324BC 5295 350E-350F
    2080C-2081A 2B99B 2D118-2D119 30145-30147 324BD-324BF 3510 2081B-20820 2B99C-2B99E 2D11A-2D11B
    31426 324C0 5296 3511 20821-20823 2B99F-2B9A0 2D11C 3512 20824 20826-20829 31427-31428 324C1
    5297-5298 20825 2082A-2082D 5299-529A 2082E 2B9A1 30148 2082F 2D11D 2B9A2 20830-20831 2B9A3",
    "
    529B-529C 20832 2B9A4 529D-529E 20833-20835 2D11E 31429 529F-52A2 3513 361E 201AE 20836-20838
    2D11F-2D120 3142A 52A3-52A8 3514-3516 20839-20841 2B9A5 30149 52A9-52B2 52B4 3517-3518
    20842-20850 2A7D7-2A7D9 2B9A6-2B9A7 3014A-3014C 3142B-3142F 52B3 52B5-52BF 3519-351B
    20851-2085D 2A7DA-2A7DB 2B9A8 2D121-2D125 3014D-3014E 2EC0D 324C2-324C3 52C0-52CB 351C
    2085E-2086A 2087A 2A7DC 2B9A9-2B9AD 2D126-2D12B 31430 324C4 52CC-52D1 351D-351F 2086B-20879
    2A7DD-2A7DF 2B9AE-2B9B2 2D12C-2D132 3014F-30150 31431-31433 2EC0E 324C5 52D2-52D6 52D8-52DA
    3520 2087B-20884 2A7E0 2B9B3 2D133-2D136 30151-30153 31434 324C6 52DB-52DE 3521 20885-20892
    2A7E1-2A7E2 2B9B4-2B9B5 2D137-2D139 30154 324C7-324C8 52DF-52E7 20893-2089F 2A7E3 2B751
    2B9B6-2B9B7 2D13A-2D13E 30155 324C9-324CB 52E8-52ED 3522 208A0-208AF 2A7E4-2A7E5 2B9B8
    2D13F-2D143 30156-30157 52EE-52F2 208B0-208B5 2A7E6 2B9B9-2B9BA 30158 31435-31436 52F3
    208B6-208B8 2B9BB-2B9BC 31437 52F4-52F6 3523-3526 208B9-208BF 324CC 3527 208C0-208C3
    2B9BD-2B9BE 30159 324CD-324CE 52F7 208C4-208C5 52F8 208C6-208C7 2A7E7 324CF 3015A 208C8-208C9
    324D0 208CA 2B9BF 208CB",
    "
    52F9-5302 208CC 2D144 3015B 5303-5307 208CD-208D0 2B9C0-2B9C1 2D145 5308 208D1-208D3 2D146 5309
    208D4-208D7 2D147-2D148 530A-530C 208D8-208DD 2D149-2D14A 324D1 530D 208DE-208E3 2D14B
    3015C-3015D 31438 324D2 530E 208E4-208ED 2B9C2-2B9C3 31439 530F-5310 3528 208EE-208F4 2D14C
    3015E-3015F 3143A-3143B 324D3 5311-5312 3529 208F5-208F7 2B9C4 2D14D 5313 352A 208F8-208FC
    2D14E-2D14F 3143C 208FD-20902 30160 3143D-31440 5314 20903 2B9C5 20904-20907 2B9C6 31441 324D4
    20908-2090A 31442 324D5-324D8 31443 324D9 2090B-2090D",
    "
    5315 2090E 2A7E8 5316 352B 2090F 2B9C7 5317 20910 30161 2A7E9 2D150 20911-20915 352C 20916
    2D151 30162 31444 20917-2091D 2A7EA 2D152 2091E-20921 2D153 5318-5319 352D 2B9C8-2B9C9
    20923-20924 30163 20925 2A7EB 20926-20928 31445 20929-2092A 2B9CA",
    "
    531A 2092C-2092D 2B9CB 2D154 531B-531E 2B9CC 2D155-2D156 324DA 531F-5322 2092E-20931 2A7EC
    2B9CD-2B9CF 5323-5325 352F-3530 20933-20937 2A7ED-2A7EE 2B9D0 2B9D2 2D157-2D158 30164 5326
    20938-2093B 2B9D1 2D159-2D15A 5327-5329 2093C-20942 20944-20948 2A7EF 2B9D3 532A-532B 9FA8
    20949-2094D 2A7F0 2B9D4 2D15B 30165-30166 532C-532E 3531 2094E-2094F 2D15C-2D15D 30167 31446
    20950-20955 2B9D5 31447 532F 3532-3534 20956-20958 2B9D6 30168 5330-5332 3535 20959-2095B 2A7F1
    2B9D7 2D15E 324DB 5333 2095C-20961 2B9D8-2B9D9 5334 20962-20963 2B9DA 5335 2B9DB-2B9DC
    20964-20965 30169 5336 20966-20967 5337 20968-20969 2A7F2 31448 2096A 2B9DD 31449 3536
    2096B-2096C",
    "
    5338-533A 2096D 20932 2096E-2096F 3016A 533B 3537 20970-20972 3016B 533C 20973 533D 20943
    20974-20975 2D15F 3144A 20976 3016C 533E-5340 3538 3144B 20977 3144C 20978-2097A 3144D",
    "
    5341-5343 5345-5348 3539 2097B-2097C 2097F 2D160 3016D-3016E 324DC-324DE 5349-534A 534C 201B1
    2097D-2097E 20980-20981 3016F 534B 534D-5350 353A-353B 20982-20990 30170-30171 324DF-324E0
    20991-20997 2A7F3 2B752 2B9DE 30172-30174 324E1-324E2 5351-5356 9FBA 20998-209A2 23965 2B753
    2B9DF-2B9E0 30175 3144E 324E3-324E4 5357-5358 2B754 2B9E1-2B9E2 2D161-2D162 30176-30177
    324E5-324E6 209A3-209A9 2A7F4 2D163 30178-30179 2EC0F 324E7-324E8 5359 209AA-209AF 2A7F5 2D164
    3017A-3017B 3144F 535A 209B0-209B3 2B9E3 2D165-2D166 324E9 353C 209B4-209BC 2A7F6 2B9E4-2B9E5
    2D167 3017C 324EA 209BD-209BF 2A7F7 2B9E6 3017D-3017E 209C0-209C4 2A7F8-2A7F9 2B9E7-2B9E8
    2D168-2D169 31450-31451 2D16A 31452-31453 2EC10 209C5-209C8 2A7FA 2B9E9-2B9EB 3017F 31454
    209C9-209CD 2A7FB 2D16B-2D16C 30180-30181 209CE 2B9EC 31455 2A7FC 2D16D 535B 209CF 2B9ED 324EB
    209D0 2D16E 209D1 30182",
    "
    535C 209D2 535D-535E 2A7FD 535F-5362 209D3 2001D 209D4-209D8 2CEA9 2D16F 5363-5364 209D9-209DC
    2194B 2A7FE 2D170 5365-5367 353D 209DE-209E8 2B9EE 30183 324EC 209E9-209F2 20B49 2B9EF
    30184-30186 31456 209F3-209F7 209F9 2A7FF 2B9F0 324ED-324EE 5368 209FA-209FF 2D171 20A00-20A02
    20A04 2B9F1-2B9F2 30187-30188 31457 20A05 2B9F3-2B9F4 20A06-20A07 2A800 2B9F5 20A08-20A0A 30189
    2B9F6 324EF-324F0 2B9F7-2B9F8 20A0B-20A0C",
    "
    5369 3018A 536A-536B 353E-353F 2D172 536C 20A0D-20A10 2B9F9 2D173 3018B 324F1 536D-536F 20A11
    2D174 31458 5370-5371 20A12-20A17 2B9FA 2D175 3018C-3018D 324F2-324F3 5372-5375 3540 20A18
    3018E 324F4-324F6 5376-537A 3541 2A801 2D176-2D17A 3018F 324F7 537B-537D 20A19-20A1D 2A802
    30190 537F 20A1E 2D17B-2D17C 324F8 537E 2B9FB 30191-30192 31459 324F9 20A1F-20A21 2B9FC 3145A
    5380-5381 20A22-20A24 2B9FD 2D17D-2D17E 20A25 2B9FE 3145B 2B9FF 2D17F 30193 2BA00 30194
    20A26-20A2A 2BA01 20A2B",
    "
    5382-5386 20A2C 5387-5389 20A2D-20A33 2A803 2BA02 2D180 30195 538A-538D 3542-3544 200AC 200AE
    20A34-20A3F 2D181 30196-30197 3145C 538E-5391 3545-3547 200B0 20A40-20A49 2A804 2B755
    2BA03-2BA04 2D182-2D183 30198 5392-5395 3548-3549 20A4A-20A55 2A805-2A806 2BA05-2BA08 2D184
    3145D 2EC11 324FA 5396-539B 354A 20A57-20A66 2A807-2A80A 2BA09-2BA0A 2D185 30199-3019A
    324FB-324FC 539C-539F 8652 354B-354D 20A67-20A77 2A80B-2A80E 2B756-2B757 2BA0B 2D186-2D188
    3019B-3019F 53A0-53A3 53A9 20A78-20A7E 20A80-20A86 2A80F-2A810 2BA0C-2BA10 2D189-2D18B
    3145E-31460 324FD 53A4-53A8 354E 20A87-20A90 2A811-2A812 2BA11-2BA17 2D18C-2D190 301A0-301A6
    324FE 53AA-53AB 53AF 354F 20A7F 20A91-20A98 2A813-2A815 2BA18-2BA1B 2D191-2D192 301A7 53AC-53AE
    53B0 3550-3551 20A99-20AAC 2A816-2A817 2BA1C-2BA1D 2D193-2D195 301A8-301A9 324FF 53B1-53B2 3552
    20AAD-20AB8 2A818-2A819 2BA1E-2BA1F 2D196 2EC12 20ABA-20ABE 2BA20-2BA22 2D197 31461 53B3 3553
    20ABF 2A81A 2BA23 301AA-301AB 32500 20AC0-20AC6 53B4 20AC7 2A81B 2BA24 301AC 20AC9-20ACE 3554
    20ACF 2BA25 2D198 20AD0 53B5 20AD1-20AD2 32501",
    "
    53B6 20AD3-20AD6 31462 53B7-53B9 3555 20AD7-20AD8 2BA26 53BA-53BC 20AD9-20ADD 301AD 53BD-53BE
    20ADE-20AE5 2D199-2D19A 53BF 20AE6-20AE8 2BA27 53C0-53C2 20AE9-20AED 20AEF 31463 20AF0-20AF2
    20AF4-20AF8 2A81C 2BA28-2BA29 2D19B-2D19D 301AE 31464-31465 3556 20AF9-20AFC 2A81D 2BA2A
    2D19E-2D1A2 32502 53C3-53C4 3557-3558 20AFD-20AFE 2A81E 2BA2B 2D1A3 31466-31467 53C5
    20AFF-20B05 26385 2A81F 301AF 31468-3146A 20B06-20B0C 2A820 2BA2C-2BA2E 2D1A4 53C6 20532
    20B0D-20B10 3146B 53C7 3559 20B11-20B12 2A821 20B13 3146C 32503 20B15-20B17 2BA2F-2BA30
    3146D-3146F 32504 20B14 20B18-20B19 2A822 31470 2BA31",
    "
    53C8-53C9 2D1A5 53CA-53CE 355A-355B 20B1A-20B20 2A823-2A824 2BA32 53CF-53D1 20B21-20B28 2D1A6
    301B0 31471 53D2 355C 20B29-20B30 2A825 2BA33 2D1A7-2D1A8 301B1-301B6 2EC13 53D3 355D
    20B31-20B38 2A826 2BA34-2BA38 301B7-301BA 31472-31473 53D4-53D8 355E 20B39-20B3E 2A827-2A828
    2BA39 2D1A9-2D1AB 301BB-301BD 31474-31476 32505-32506 53D9-53DD 355F 20AF3 20B3F-20B48
    2A829-2A82A 2BA3A-2BA3B 2D1AC-2D1AE 301BE-301BF 31477 53DE-53DF 20B4A-20B54 2A82B-2A82C
    2BA3C-2BA3F 2D1AF-2D1B0 31478-3147A 20B55-20B64 2BA40-2BA43 2D1B1-2D1B2 301C0-301C1 3147B 32507
    3560 20B65-20B6E 2A82D-2A82E 2BA44-2BA45 2D1B3-2D1B4 301C2-301C3 3147C 32508-3250A 53E0
    20B6F-20B75 20B77-20B7A 2A82F 2B73C 2BA46-2BA47 301C4 3147D 3250B FA0E 3561 20B7C-20B82 21A9E
    2A830 2BA48-2BA49 2D1B5-2D1B6 301C5 20B83-20B86 2BA4A 2D1B7 53E1 20B87-20B8C 2A831 2BA4B-2BA4C
    3250C 20B8D-20B8F 2BA4D-2BA4E 53E2 20B90 58E1 20B91-20B92 301C6 20B93-20B98 3147E",
    "
    53E3 20B99-20B9E 2BA4F 53E4-53FE 3563-3565 4DB7 2067C 20B9F-20BAA 2A832 2B738 2BA50-2BA51
    2D1B8-2D1B9 301C7 3147F 3250D 53FF-5417 3566-3568 4DB8 20BAB-20BCA 2A6D7 2B758 2BA52-2BA57
    2D1BA-2D1C2 301C8-301C9 31480-31485 3250E-3250F 5418-545C 3569-3576 20202 20BCB-20C07
    2A833-2A835 2BA58-2BA5E 2D1C3-2D1CD 301CA-301CD 31486-3148E 2EC14 32510-32516 545D-549D
    3577-357F 20C08-20C4F 2A836-2A839 2BA5F-2BA6A 2D1CE-2D1DD 301CE-301D3 3148F-31493 32517-3251E
    549E-54DF 3580-358E 20037 20039 20C50-20CAB 2A83A-2A843 2B759 2BA6B-2BA7C 2D1DE-2D1F4
    301D4-301E3 31494-314A5 3251F-3252A 54E0-5527 358F-359E 20CAC-20CE4 20CE6-20CEA 20CEC-20D25
    2A844-2A84E 2BA7D-2BA91 2D1F5-2D20B 301E4-301F0 314A6-314BC 3252B-3253A 5528-5558 555A-555E
    5560-556A 556C-5579 359F-35B5 20CE5 20D27-20DB6 2A84F-2A85B 2BA92-2BAB0 2D20C-2D22E 301F1-301FE
    314BD-314D5 2EC15 3253B-32556 5559 556B 557A-558C 558E-55BE 35B6-35D1 20DB7-20DE1 20DE3-20E35
    20E3B-20E3E 2A85C-2A869 2BAB1-2BAC2 2D22F-2D259 301FF-30210 314D6-314E9 2EC16 32557-3256F 558D
    55BF-55F5 9FFD 35D2-35E1 20DE2 20E36-20E3A 20E3F-20E6F 20E73-20ED3 2A86A-2A877 2BAC3-2BAD2
    2D25A-2D27D 30211-3021E 314EA-31503 32570-3257E 55F6-561E 5621-5627 5651 5653 35E2-35F0 20077
    20ED4-20F60 2A878-2A884 2B75A 2BAD3-2BAE7 2D27E-2D2A0 3021F-30228 31504-31516 3257F-32598
    561F-5620 5628-5650 5652 5654 5656-565D 5674 35F1-35FA 2018A 203D3 203E7 20E70-20E72
    20F61-20FA6 20FA8-20FC6 21026 2A885-2A88D 2B75B 2BAE8-2BAF5 2D2A1-2D2C1 30229-3022E 31517-31532
    32599-325AF 565E-5673 5675-567C 35FB-3604 20FC7-21025 21027-2103C 22A10 285D3 2A88E-2A894
    2BAF6-2BB06 2D2C2-2D2DB 3022F-30236 31533-31544 325B0-325C6 567D-5693 56BA 3605-3608
    2103D-2108E 2A895-2A898 2B75C 2BB07-2BB11 2D2DC-2D2EF 30237-3023D 31545-31552 325C7-325D6
    5694-56A4 3609-360F 2108F-210DF 210F0 2A899-2A89E 2B75D 2BB12-2BB1B 2D2F0-2D309 3023E-30242
    31553-3155C 325D7-325E7 56A5-56B0 3610-3612 210E0-210EF 210F1-21108 2110A-21110 2A89F-2A8A1
    2BB1C-2BB2B 2D30A-2D321 30243-30245 3155D-31564 325E8-325FC 56B1-56B9 3613-3614 21111-21130
    2A8A2-2A8A4 2BB2C-2BB35 2D322-2D32F 30246-30249 31565-31569 325FD-32608 56BB-56C4 56CD
    3615-3617 21131-21154 21163 2BB36-2BB38 2D330-2D333 3024A-3024B 3156A-3156C 2EC17 32609-3260C
    56C5-56CB 56CE 3618 21157-21162 21164-2116F 2A8A5 2B75E 2BB39 2D334-2D33D 3024C 3156D-31570
    3260D-32611 56CC 56CF-56D0 3619-361A 21170-21178 2BB3A-2BB3C 2D33E-2D345 31571-31573
    32612-32614 56D1-56D3 21179-21185 2A8A6-2A8A7 2BB3D-2BB3F 2D346-2D34B 31574-31577 32615-32617
    56D4-56D5 361B 21186-2118E 2BB40 2D34C-2D34F 32618 361C 2118F-21198 2D350-2D352 32619-3261A
    21199-2119A 2119E 2BB41 2D353-2D354 3261B 56D6 2119B-2119D 27BA5 2D355-2D357 3261C 2D358 3261D
    2119F 2D359",
    "
    56D7 211A0-211A2 3261E 56D9-56DC 9FB1 361D 20064 211A3-211A6 2A6D8 2BB42 2D35A 56DD-56E3 361F
    211A7-211B3 3261F 56E4-56F5 211B4-211C7 2A8A8 2BB43-2BB44 2D35B-2D35C 3024D-3024E 31578 32620
    56F6-56FE 3620-3621 2002F 211C8-211CC 211CE-211D1 2A8A9 2BB45-2BB46 2D35D 3024F-30250 31579
    32621 56FF-5700 3622 211D2-211DF 2A8AA 2BB47-2BB48 2D35E-2D35F 3157A-3157D 2EC18 32622-32623
    5701-5706 3623 211E0-211EF 2A8AB 2BB49-2BB4A 2D360-2D364 3157E-3157F 32624-32625 5707-570B 570F
    211F0-211FB 21200 2A8AC-2A8AD 2BB4B-2BB4C 2D365-2D368 30251 31580-31582 32626-32627 570C-570E
    5710 211FC-211FF 21201-21209 24517 2BB4D-2BB4F 2D369-2D36A 31583-31584 32628 5711-5715
    2120A-21214 2A8AE 2BB50 2D36B 30252 32629-3262A 5716-5719 3624 21215-21221 2A8AF 2BB51
    2D36C-2D370 30253 31585 571A 21222-21224 21226-21229 2BB52 2D371-2D373 30254 3262B 571B-571C
    21225 2122A-2122C 2A8B0 2BB53 2D374 2122D-21231 2BB54 2D375 3262C 21232 2D376 3262D 21233-21234
    2D377 3625 21235-2123A 2BB55 2D378 3262E-3262F 571D-571E 2123B 2D379",
    "
    571F-5721 9FB6 2123C-2123E 2BB56 30255 2EC19 5722-5727 3626 2123F-21247 2A8B1-2A8B2 2BB57-2BB58
    2D37A 30256-30257 31586 32630 5728-573A 21248-21256 2A8B3-2A8B7 2BB59-2BB5A 2D37B-2D37D
    31587-31589 2EC1A 32631-32633 573B-5760 3627-3630 21258-21283 2A8B8-2A8C2 2BB5B-2BB64
    2D37E-2D384 30258-3025E 3158A-31590 2EC1B-2EC1C 32634-32637 5761-578A 3631-3635 21284-212B6
    2A8C3-2A8CA 2BB65-2BB68 2D385-2D38E 3025F-30264 31591-3159C 32638-32641 578B-57B5 57CE 9FCD
    3636-363E 212B7-212DB 212DD-212EC 2A8CB-2A8D3 2BB69-2BB6F 2D38F-2D39B 30265-3026D 3159D-315A9
    2EC1D-2EC21 32642-32646 57B6-57CD 57CF-57DB 363F-3646 212ED-21325 23467 2A8D4-2A8E3 2BB70-2BB7B
    2D39C-2D3A8 3026E-30276 315AA-315B7 2EC22-2EC23 32647-3264E FA0F 57DC-57E9 57EB-5814 3647-364D
    21326-21363 2A8E4-2A8F1 2BB7C-2BB85 2D3A9-2D3B5 30277-30280 315B8-315CA 2EC24 3264F-3265E 57EA
    5815-583C 583E-5842 5844-5848 9FFE 364E-3658 21364-213AD 2A8F2-2A8FD 2B75F 2BB86-2BB91
    2D3B6-2D3CB 30281-3028C 315CB-315DA 2EC25-2EC27 3265F-3266A 583D 5843 5849-5871 3659-365F
    213AE-213EC 27BE7 2A8FE-2A90D 2BB92-2BB9A 2D3CC-2D3DC 3028D-30298 315DB-315E9 2EC28 3266B-32671
    5872-589B 3660-3666 213ED-2141D 26948 2A90E-2A918 2B760 2BB9B-2BBA2 2D3DD-2D3E9 30299-302A5
    315EA-315F3 2EC29-2EC2C 32672-32681 589C-58A7 58A9-58B9 3667-366F 2069B 2141E-2145D 2A919-2A91E
    2BBA3-2BBAC 2D3EA-2D3F5 302A6-302B1 315F4-31603 2EC2D 32682-32689 58BA-58CC 9FB3 3670-3676
    2145E-21479 2147B-21488 2A91F-2A925 2B761 2BBAD-2BBAF 2D3F6-2D3FD 302B2-302B8 31604-3160A 2EC2E
    3268A-32694 58CD-58D7 9FBC 3677-367A 21489-214A0 214A2-214AF 2A926-2A92B 2BBB0-2BBB5
    2D3FE-2D400 302B9-302BA 3160B-31612 2EC2F 32695-3269B 58D8-58D9 367B-367D 214B0-214BF
    214C1-214CB 214CD-214CF 2A92C-2A92F 2BBB6-2BBB8 2D401-2D404 302BB-302C0 31613-31614 3269C-3269E
    58DA-58E0 58E2 367E-367F 214C0 214CC 214D0-214DA 214DC-214E5 2A930 2BBB9-2BBBC 2D405-2D409
    302C1-302C2 31615-31617 3269F-326A4 58E3-58E5 3680 214E6-214F0 2A931 2BBBD-2BBBF 2D40A-2D40B
    302C3-302C4 31618-31619 326A5-326A7 58E6 214F1-214F6 214F8-214F9 214FB-21501 2BBC0 2D40C-2D40E
    3161A 326A8 214FA 21502-21509 2D40F 302C5 3161B 326A9-326AA 58E7-58E8 2150A-2150E 302C6 3161C
    326AB 58E9 3681 2150F-21515 2D410 3161D 58EA 3682 21516 2D411 302C7 3161E-3161F 21517-2151A",
    "
    58EB-58ED 2151B 58EE 2151C 2EC30 58EF-58F3 2151D-2151E 302C8 2151F 2D412 58F4-58F5 21520-21522
    2BBC1-2BBC2 2EC31-2EC32 58F6 21523-21529 2A932 302C9 58F7-58F8 2152A-2152D 326AC 58F9-58FB 3683
    2152E-2152F 2D413-2D415 58FC 21530 21532-21535 2A933 2D416 302CA 58FD-58FE 21536 21538-2153B
    2BBC3-2BBC4 2D417 302CB-302CC 58FF-5900 3684 2153C-2153D 2BBC5 2D418 31620 5901 2153E-21544
    2D419 31621 21545 21547-2154C 2D41A 2154D 2BBC6-2BBC7 302CD 21155 31622 2154F-21551 2A934 2BBC8
    2D41B 2BBC9 2D41C 326AD",
    "
    5902 21552 5903-5904 21553-21554 2D41D 5905 21555-21556 5906 21557-21559 5907 31623 5908 3685
    2155A 2D41E 302CE 2065A 2155B-2155C 2A31B 2155D 2BBCA 2EC33 2A935",
    "
    590A 2D41F 2155E-2155F 590B 21560-21561 590C 21562-21565 2D420-2D421 5909 590D 3686-3687
    2D422-2D424 590E-590F 2003C 21566 2BBCB-2BBCC 2D425-2D426 21567-2156C 2D427 31624 2031E 2156D
    302CF 20B76 2156E-21571 2A936 2D428-2D429 31625 5910 21572-21575 2D42A-2D42B 21576-21577 2D42C
    326AE 21578-2157A 2D42D-2D42E 2157B 2D42F 5911 5913 2157C-2157F 2D430 5912 21580 2D431 21581
    5914 2D432 21582-21583",
    "
    5915-5918 3688 21584-21586 31626 326AF 5919-591B 21587-21589 2A937 2B762 2D433-2D434
    326B0-326B1 2158A-2158C 2B763 2D435 326B2 591C-591D 3689 2158D-2158F 2A938 2BBCD 2D436 302D0
    326B3 21590-21591 2A939 326B4 591E 20157 21592-2159C 22EC8 2A93A 2BBCE 326B5 591F-5920
    2159D-215A5 2A93B 2BBCF-2BBD0 2D437-2D438 326B6 5921 368A 20171 20A03 215A6-215AE 215B0 2A93C
    2BBD1-2BBD2 2D439-2D43B 302D1-302D2 326B7 215AF 215B1-215B5 302D3 31627 5922-5925 368B-368C
    215B6-215BE 221A3 2A93D 2BBD3-2BBD4 2D43C-2D43D 302D4-302D5 31628 5926 215BF-215C1 2A93E 2BBD5
    2D43E-2D43F 302D6 326B8-326B9 20193 20195 215C2-215C5 2A93F 2BBD6-2BBD7 302D7 31629 20199
    215C6-215C8 2BBD8 2D440 302D8 3162A 368D 215C9-215CA 2D441 215CB-215CC 215D0 326BA 3162B
    215CD-215CE 2A940 2BBD9 326BB 215CF 23873 2BBDA 3162C 215D1",
    "
    5927-592D 215D2-215D4 2A941 2BBDB 592E-5934 368E 215D5-215DB 2A942 2D442 302D9 326BC 5935-593C
    368F-3691 2001B 215DD-215E4 2A943 2BBDC 2D443 302DA 593D-5942 3692-3693 215E5-215F6 2A944-2A946
    2BBDD-2BBDF 2D444-2D445 302DB-302DC 3162D-3162E 2EC34 326BD 5943-5949 594B-594D 5954 3694-3699
    215F7-2160C 2A947-2A94C 2BBE0-2BBE2 2D446-2D44B 302DD-302DF 3162F 326BE 594E-5953 5955-5956
    369A-369B 2160D-2161C 2A94D-2A94F 2BBE3-2BBE5 2D44C-2D44E 302E0-302E1 31630 2EC35 326BF-326C0
    594A 5957-595A 2161D-21633 2A950-2A952 2B764 2BBE6-2BBE7 2D44F-2D452 302E2-302E3 31631-31635
    326C1 595B-595F 369C-369E 21634-21646 2A953-2A955 2BBE8 2D453-2D456 302E4-302E7 2EC36
    326C2-326C3 5960-5965 369F 21531 21647-2165A 2A956-2A958 2BBE9-2BBEF 2D457-2D45B 302E8-302EC
    31636-31638 326C4 5966-5968 36A0 2165B-2166B 2A959-2A95B 2BBF0-2BBF4 2D45C-2D45F 302ED-302EE
    326C5-326C6 5969-596C 2166C-21676 2A95C-2A95E 2BBF5-2BBF7 2D460 302EF-302F0 31639-3163B 326C7
    596D 21677-21685 2A95F-2A961 2BBF8-2BBFC 302F1 596E-596F 36A1 21686-2168E 243E0 2B765
    2BBFD-2BC00 2D461-2D463 302F2-302F3 3163C 326C8-326C9 2168F-21696 2BC01 2D464 3163D 5970 21697
    21F97 2A962 2D465 21698-2169A 2BC02 2D466 3163E 2169B 2A963 2BC03-2BC04 302F4 2169C-2169D 5971
    2169E-2169F 3163F-31640 216A0-216A2 2BC05 5972 216A3-216A5",
    "
    5973 216A6 2BC06 302F5 31641 5974-5976 36A2 216A7-216AD 2BC07 2D467-2D46B 302F6 31642-31643
    2EC37 5977-5988 36A3-36A8 216AE-216BB 2A964-2A965 2BC08-2BC0A 2D46C-2D46D 302F7-302F8
    31644-31646 2EC38 5989-598C 598E-59AB 36A9-36AF 36E0 216BC-216D8 2A966-2A96C 2B766 2BC0B-2BC16
    2D46E-2D46F 302F9-302FB 31647-3164A 2EC39-2EC3C 59AC-59D7 36B0-36C1 216D9-21701 2A96D-2A970
    2BC17-2BC1B 2D470-2D475 302FC 3164B-3164D 2EC3D-2EC3E 326CA-326CD 598D 59D8-59EB 59ED-5A03
    5A05-5A08 36C2-36CC 21702-2172D 2A971-2A975 2B767-2B768 2BC1C-2BC29 2D476-2D479 302FD-30303
    3164E-31653 2EC3F-2EC43 59EC 5A09-5A2B 5A2D-5A34 5A3D 36CD-36DF 36E1-36E4 2172E-2175D
    2A976-2A97A 2B769-2B76B 2BC2A-2BC2D 2BC2F-2BC36 2D47A-2D47F 30304-30305 31654-31659 2EC44-2EC46
    326CE-326D1 5A2C 5A35-5A3C 5A3E-5A76 36E5-36ED 2175E-2179B 2A97B-2A985 2BC2E 2BC37-2BC42
    2D480-2D484 30306-3030B 3165A-3165C 2EC47-2EC4C 326D2-326DB 5A77-5A8F 5A91-5AAF 5ACF 36EE-3704
    2179C-217E7 21823 2A986-2A990 2B76C 2BC43-2BC50 2D485-2D48C 3030C-3030E 3165D-3165F 2EC4D-2EC50
    326DC-326E1 5A90 5AB0-5ACE 5AD0-5AD4 3705-3714 217E8-21815 2A991-2A996 2BC51-2BC5E 2D48D-2D491
    3030F-30314 31660-31666 2EC51-2EC52 326E2-326E7 5AD5-5AF2 3715-3722 21817 21819-21822
    21824-2184E 2A997-2A99F 2B76D 2BC5F-2BC6B 2D492-2D49D 30315 31667-3166C 2EC53-2EC57 326E8-326ED
    5AF3-5B0F 3723-3728 21816 21818 2184F-2188D 21890 2A9A0-2A9A5 2B76E 2BC6C-2BC77 2D49E-2D4A1
    30316-30317 3166D-3166E 2EC58 326EE-326F0 5B10-5B22 5B34 3729-372D 2188E 21891-218C4
    2A9A6-2A9AA 2BC78-2BC84 2D4A2-2D4A5 30318-3031A 326F1-326F5 5B23-5B33 5B35-5B37 372E-372F
    218C5-218E1 218E3-218E9 2A9AB 2BC85-2BC8C 2D4A6-2D4A8 3166F-31670 326F6 5B38 5B3A-5B3D
    3730-3731 218EA-218FC 2A9AC-2A9AF 2BC8D-2BC93 2D4A9-2D4AD 5B39 5B3E-5B3F 3732-3735 218FD-2190D
    2191E 2A9B0-2A9B1 2BC94-2BC99 2D4AE 2EC59-2EC5A 326F7-326FA 5B40-5B46 3736-3738 2190E-21917
    2A9B2 2BC9A-2BC9B 2D4AF-2D4B3 31671-31672 5B47-5B49 3739 21918-2191D 2191F-21920 2A9B3-2A9B4
    2BC9C-2BC9D 31673 5B4A-5B4C 373A 21921-2192A 2BC9E-2BC9F 3031B 5B4D 2192B-2192D 2A9B5 2BCA0
    5B4E-5B4F 2192E-21933 2D4B4 2EC5B 326FB 21934-21936 2D4B5 31674 373B-373C 21937-2193B",
    "
    5B50-5B53 2193C 5B54 2193D 5B55 2193E-21942 2BCA1 2D4B6-2D4B9 326FC 5B56-5B59 373D 21257
    21943-21945 2D4BA-2D4BC 3031C-3031D 31675 5B5A-5B5E 373E-373F 21946-2194A 2194C-2194D
    2A9B6-2A9B9 3031E-30322 31676-31678 326FD 5B5F-5B67 3740 200F1 2194E-2195A 2A9BA 2BCA2-2BCA4
    2D4BD-2D4C0 30323-30325 31679 2EC5C 5B68-5B6A 3741 2195B-21967 2A9BB 2BCA5 2D4C1-2D4C2
    30326-30327 3167A 326FE 5B6B-5B6D 3742-3743 21968-2196D 22232 28E74 2BCA6 2D4C3-2D4C7 30328
    3167B 326FF 5B6E-5B70 5B72 2196E-21975 2A9BC-2A9BE 2BCA7-2BCA8 2D4C8-2D4CE 30329-3032B
    3167C-3167D 32700 5B71 3744 21976-21982 2A9BF 2BCA9-2BCAA 2D4CF-2D4D4 3032C-3032D 3167E 32701
    5B73-5B74 3745 21983-21990 2BCAB-2BCAC 2D4D5-2D4D6 3032E 3167F 2EC5D 5B75-5B77 21991-21996
    2A9C0 2BCAD-2BCAE 2D4D7-2D4D8 3032F 32702-32703 3746 21997-2199D 2B76F 2BCAF-2BCB0 32704-32705
    5B78-5B79 3747 2199E-219A8 2A9C1 2BCB1-2BCB2 2D4D9-2D4DA 30330 31680-31681 32706-32707
    5B7A-5B7B 219A9 2A9C2-2A9C3 2D4DB 32708 219AA-219AC 30331 31682 5B7C 219AD-219B0 2BCB3 2D4DC
    5B7D-5B7E 219B1-219B6 30332 2A9C4 5B7F 219B7 2BCB4 3748 219B8 2D4DD",
    "
    5B80 3749 219B9 5B81-5B84 374A-374B 219BA-219BC 30333 5B85-5B89 374C-374D 219BD-219CA
    2BCB5-2BCB6 2D4DE 30334-30335 31683 2EC5E 32709-3270A 5B8A-5B92 374E-3751 219CB-219D5
    2A9C5-2A9C7 2BCB7-2BCBD 2D4DF-2D4E1 30336-30338 31684 2EC5F 3270B 5B93-5BA1 3752 219D6-219E8
    2A9C8-2A9C9 2BCBE-2BCC0 2D4E2-2D4E9 30339-3033A 31685 3270C 5BA2-5BA6 5BA8-5BAB 3753-3756
    219E9-219FF 2A9CA-2A9CC 2BCC1-2BCC6 2D4EA-2D4EF 3033B-3033D 31686 3270D 5BA7 5BAC-5BBE
    3757-375A 21A00-21A21 2A9CD-2A9D0 2BCC7-2BCCF 2D4F0-2D4F3 3033E-30340 31687-31688 3270E
    5BBF-5BC9 375B-3761 21A22-21A3C 2A9D1-2A9D3 2BCD0-2BCD9 2D4F4-2D4FF 30341-30345 31689-3168C
    3270F 5BCA-5BD5 5BEA 3762-3763 21A3D-21A5E 2A9D4-2A9DA 2BCDA-2BCE3 2D500-2D505 30346-3034D
    3168D-3168E 32710-32714 5BD6-5BDD 3764-3768 21A5F-21A7A 2A9DB-2A9E0 2BCE4-2BCEE 2D506-2D50C
    3034E-30357 3168F-31690 32715 5BDE-5BE8 3769-376C 21A7B-21A9D 2A9E1-2A9E5 2B770 2BCEF-2BCFC
    2D50D-2D510 30358-3035A 31691 32716-32718 5BE9 5BEB-5BEE 376D-376F 21A9F-21ABD 2A9E6-2A9EA
    2B771 2BCFD-2BD01 2D511-2D516 3035B-3035C 31692-31693 5BEF-5BF0 21ABE-21AD0 2A9EB-2A9EE
    2BD02-2BD0F 2D517-2D519 3035D-3035F 31694-31695 32719-3271A 5BF1-5BF2 21AD1-21ADD 2A9EF
    2BD10-2BD17 2D51A-2D51E 30360 31696-3169A 3271B 3770 21ADE-21AEB 2A9F0-2A9F2 2BD18-2BD1B
    2D51F-2D521 30361 2EC60 5BF3-5BF5 21AEC-21AF6 2BD1C-2BD1F 2D522-2D524 3271C 5BF6 21AF7-21AFB
    2A9F3-2A9F4 2BD20 2D525-2D526 30362 5BF7 3771 21AFC-21B03 2A9F5 2BD21-2BD23 2D527 21B04-21B0B
    2BD24-2BD25 2D528 3169B 3271D-3271E 21B0C 2BD26-2BD27 30363 21B0D 21B0F-21B10 2A9F6 2BD28-2BD2A
    30364 21B11 21B13-21B15 3169C 3271F 3772 21B16-21B18 21B0E 21B19-21B1A 21B12 21B1B 2BD2B 21B1C",
    "
    5BF8 21B1D 5BF9 3773 5BFA-5BFC 21B1E 2A9F7 2D529 5BFD-5BFF 3774 2D52A 3169D 5C00 3775
    21B1F-21B26 2D52B-2D52C 3169E-3169F 32720 5C01-5C02 5C06 21B27-21B2C 2BD2C 2D52D-2D52F 316A0
    5C03-5C05 3776 21B2D 2BD2D 2D530-2D532 32721 5C07-5C09 21B2E-21B32 2A9F8-2A9F9 2D533-2D535
    5C0A-5C0C 3777 21B33-21B38 2A9FA 2BD2E-2BD2F 2D536-2D538 32722-32723 21B39-21B3C 2BD30-2BD33
    2D539-2D53C 5C0D 21B3D-21B42 2D53D-2D53F 30365 32724 5C0E 21B43-21B49 23292 2A9FB-2A9FC
    2BD34-2BD35 2D540-2D541 30366 316A1-316A2 21B4A-21B4C 2A9FD 2D542 21B4D-21B4F 2A9FE 32725-32726
    21B50 32727 21B51 2D543 21B52-21B53 2BD36-2BD37",
    "
    5C0F 21B54 2D544 30367-30368 5C10-5C11 21B55-21B56 5C12-5C15 9FB8 21B57-21B58 30369 5C16-5C18
    21B59-21B5C 2D545 2EC61 21B5D-21B64 2A9FF 2BD38-2BD39 2D546-2D547 3036A 316A3 5C19-5C1A 20224
    21B65-21B69 2AA00 2BD3A-2BD3B 2D548-2D549 316A4 2EC62 32728 5C1B-5C1D 21B6A-21B73 2BD3C-2BD3D
    2D54A 3036B 316A5 3778 21B74-21B7C 2AA01-2AA02 32729-3272A 21B7D-21B8D 2BD3E-2BD43 3272B 5C1E
    3779 21B8E-21B97 2BD44-2BD45 316A6-316A7 3272C-3272F 5C1F-5C20 2017D 21B98-21B9D 2D54B 5C21
    377A 21B9E-21BA5 2AA03 2BD46-2BD47 316A8 32730 377B 21BA6-21BAF 2AA04 2BD48-2BD49 316A9
    21BB0-21BB3 2AA05 2BD4A-2BD4C 2D54C 21BB4-21BB6 221D4 2AA06 3036C 316AA-316AB 32731 21BB7-21BBB
    24BCF 21BBC-21BBE 2BD4D 21BBF 316AC 21BC0",
    "
    5C22-5C23 21BC1-21BC2 5C24 21BC3-21BCA 2BD4E 5C25-5C27 377C 21BCB-21BCE 2D54D 5C28-5C2C 377D
    21BCF-21BD9 2BD4F 5C2D 377E-377F 21BDA-21BE1 2BD50 2D54E 3036D 5C2E-5C2F 3780-3781 21BE2-21BE4
    21BE6-21BE7 3036E 3782 21BE8-21BF2 3036F 3783-3786 21BF3-21BF8 2BD51 2D54F-2D550 5C30-5C31
    3787-3788 21BF9-21C02 2AA07 5C32-5C34 3789-378A 21C03-21C0A 2AA08 2D551-2D552 316AD 21C0B-21C0F
    2D553 5C35 21C10-21C15 2BD52 2EC63 21C16-21C1A 5C36-5C37 21C1B-21C1C 316AE-316AF 21C1D-21C22",
    "
    5C38 21C23 5C3A 2A6DB 30370 32732 5C3B-5C3C 378B 21C24-21C28 21C34 2D554 316B0 5C3D 378C-378D
    21C29-21C33 2B772 316B1-316B2 5C3E-5C43 378E 21C35-21C3D 2AA09-2AA0B 2BD53-2BD55 30371-30372
    316B3-316B4 32733-32734 5C44-5C4A 378F-3791 21C3E-21C4B 2AA0C 2BD56-2BD58 2D555-2D558
    30373-30374 316B5-316B6 32735-32736 5C4B-5C4F 3792-3796 21C4C-21C61 221C0 2AA0D-2AA0E
    2BD59-2BD5D 2D559-2D55D 30375-30377 316B7-316B9 32737 5C50-5C58 3797 21C62-21C79 2AA0F-2AA10
    2BD5E-2BD5F 2D55E-2D55F 30378-3037B 316BA 5C59-5C5D 3798-3799 21C7A-21C93 2AA11 2BD60
    2D560-2D563 3037C-3037E 316BB 32738-32739 5C5E-5C61 379A-379B 21C94-21CAB 2AA15-2AA18 2BD61
    2D564 3037F-30380 316BC 3273A-3273B 21CAC-21CC3 2AA12-2AA14 2D565-2D56D 30381 316BD 3273C
    5C62-5C63 379C-379E 21CC4-21CCF 2AA19-2AA1A 2BD62-2BD65 2D56E-2D56F 30382 316BE 3273D-3273F
    5C64-5C67 379F-37A0 21CD0-21CDE 2AA1B-2AA1C 2D570-2D575 30383-30385 316BF-316C0 21CDF-21CE7
    2AA1D 2BD66-2BD67 30386 32740 5C68 21CE8-21CE9 2AA1E 2BD68 2D576 5C69-5C6A 21CEA-21CEB 2BD69
    2D577-2D578 316C1-316C2 32741 5C6B 37A1 21CEC-21CF0 2AA1F-2AA20 2BD6A-2BD6B 2D579-2D57A 30387
    32742 21CF1-21CF4 5C6C 21CF5-21CF7 2BD6C-2BD6D 2D57B 21CF8-21CFA 2AA21 2D57C 5C6D 21CFB 2D57D
    21CFC-21CFD 316C3",
    "
    5C6E 4DB9 21CFE 5C6F 37A2 21CFF 2D57E 5C70 21D00-21D05 2D57F 37A3 37B7 21D06-21D1A 2BD6E 316C4
    21D1B-21D23 30388 21D24-21D25 2BD6F-2BD70 21D26-21D2C",
    "
    5C71 4E62 5C72 21D2D-21D2F 5C73-5C77 37A4-37A7 21D30-21D3D 2BD71-2BD74 2D580 316C5-316C6 32743
    5C78-5C83 37A8-37AF 21D3E-21D52 2AA22-2AA25 2B773 2BD75 2D581-2D584 30389 316C7 32744 5C84-5C8C
    5C8E-5C9C 37B0-37B6 37B8 21D53-21D82 2AA26-2AA28 2BD76-2BD77 2D585-2D58A 3038A-3038D
    316C8-316D2 2EC64-2EC66 32745-32749 5C9D-5CC5 37B9-37C3 21D83-21DA3 21DA5-21DAA 2AA29-2AA2E
    2B73A 2BD78-2BD79 2D58B-2D594 3038E-30393 316D3-316DB 2EC67 3274A-32750 5C8D 5CC6-5CE7
    37C4-37C6 21DAB-21DD4 2AA2F-2AA34 2B774 2BD7A-2BD7B 2D595-2D59E 30394-3039E 316DC-316E7
    2EC68-2EC69 32751-3275A 5CE8-5D05 37C7-37D6 21DD5-21E10 262A4 2AA35-2AA3A 2B775 2BD7C-2BD80
    2D59F-2D5A8 3039F-303A4 316E8-316F0 2EC6A-2EC6C 3275B-3275E 5D06-5D30 37D7-37E5 21E11-21E69
    2AA3B-2AA41 2BD81-2BD85 2D5A9-2D5B1 303A5-303A8 316F1-316F6 2EC6D-2EC6F 3275F-3276C 5D31-5D49
    5D4B-5D5D 37E6-37EF 21E6A-21EA9 2AA42-2AA47 2BD86-2BD89 2D5B2-2D5BF 303A9-303AD 316F7-31700
    3276D-32772 FA11 5D4A 5D5E-5D76 37F0-37F8 21EAA-21ED7 2AA48-2AA4B 2BD8A-2BD90 2D5C0-2D5C6
    303AE-303B0 31701-31704 32773-32775 5D77-5D8E 37F9-3804 21ED8-21F09 2AA4C-2AA52 2BD91-2BD94
    2D5C7-2D5D3 303B1-303B4 31705-3170C 32776-32780 5D8F-5DA5 3805-3810 21F0A-21F3C 2AA53-2AA56
    2BD95-2BD96 2D5D4-2D5DE 303B5-303B8 3170D-3170F 32781-32786 5DA6-5DB6 3811-3817 21F3D-21F48
    21F4A-21F5B 2AA57-2AA5A 2BD97-2BD9C 2D5DF-2D5E0 303B9-303BA 31710-31712 2EC70 32787-3278B
    5DB7-5DBA 5DBC-5DBF 3818-381C 21F49 21F5C-21F81 21FBB 2AA5B-2AA5D 2BD9D 2D5E1-2D5E4 303BB
    2EC71-2EC72 3278C-3278F 5DC0-5DC2 381D-381F 21F82-21F96 21FA0 2BD9E 2D5E5-2D5EB 303BC-303BE
    31713 32790-32796 5DBB 5DC3-5DC5 3820-3823 21F98-21F9F 21FA1-21FAD 239AD 2AA5E 2BD9F-2BDA3
    2D5EC-2D5F1 303BF-303C1 32797-32799 5DC6-5DCC 3824 21FAE-21FBA 2CEAB 2D5F2-2D5F4 5DCD 5DCF-5DD0
    3825-3826 21FBC-21FC6 2AA5F 2BDA4 2D5F5-2D5F6 31714 5DCE 5DD1-5DD5 5DD7 3827 21FC7-21FD1 2AA60
    2D5F7 3279A 5DD6 5DD8-5DDA 21FD2-21FD3 2D5F8 21FD4-21FDC 2BDA5 2D5F9 21FDD-21FDF 2BDA6 303C2
    21FE0-21FE1 21FE3-21FE4 3828 21FE2 31715 21FE5",
    "
    5DDB-5DDD 21FE6 21FE8 2BDA7 21FE7 2D5FA 5DDE-5DDF 3829 21FE9-21FED 2D5FB-2D5FC 5DE0 21FEE-21FF0
    2AA61 2D5FD-2D5FE 21FF1-21FF6 2D5FF 21FF7-21FFB 2AA62 2D600 303C3-303C4 20657 21FFC-21FFD 2BDA8
    2D601 3279B 5DE2-5DE3 21FFE-22000 2BDA9 22001 3279C 22002 303C5 5DE4 22003 303C6 22004-22008
    31716 22009-2200B 2BDAA 2200C-22010",
    "
    5DE5 2A6DC 382A 22011-22015 2D602 5DE6-5DE8 22016-22019 5DE9-5DEA 2201A-2201B 2AA63 2D603-2D605
    303C7 5DEB 2201C-2201E 2BDAB 303C8-303CA 3279D 2201F 2BDAC 2D606 303CB 3279E-3279F 5DEC-5DED
    22020 2BDAD 2D607-2D608 5DEE 382B-382C 22021-22023 2AA64 2BDAE 303CC 327A0 5DEF 382D
    22024-22025 2AA65 31717 327A1 5DF0 22026-22027 2AA66 2BDAF 2D609 31718-31719 327A2-327A3 2AA67
    2BDB0 3171A 327A4-327A5 382E 22028-2202B 2BDB1 2202C 22470 24022 2BDB2-2BDB3 303CD 3171B 327A6
    2202D 2AA68 2BDB4 327A7 2202E 2AA69 303CE 2202F 3171C 22030-22032 2AA6A 3171D",
    "
    5DF1-5DF4 22033 382F 22034-22036 2BDB5 5DF5 2AA6C 2D60A 5DF6 3830 22037-22038 2AA6B 2D60B-2D60C
    5DF7-5DFB 22039-2203B 2D60D 5DFC 2203C-2203F 2BDB6 303CF 3831 22040-22044 2BDB7 303D0 327A8
    5DFD 22045-22049 2AA6D-2AA6E 2BDB8-2BDB9 2D60E-2D60F 3171E 327A9 2204A 2AA6F 3171F 2204B-2204C
    31720 2204D 2204F 2AA70-2AA71 2BDBA 327AA 2204E 22050 2BDBB-2BDBC 2D610 327AB-327AC 22051",
    "
    5DFE-5E05 3832-3833 22052-22054 2AA72 2BDBD-2BDBE 303D1 5E06-5E08 3834-3836 22055-22064
    2D611-2D612 303D2 31721-31722 5E09-5E10 3837-383C 22065-2207A 2BDBF-2BDC2 2D613-2D614
    303D3-303D4 2EC73 327AD 5E11-5E1C 383D-3840 2207B-2208F 2BDC3-2BDC4 2D615-2D61A 303D5-303D6
    31723 5E1D-5E27 3841-3846 22090-220B0 2BDC5 2D61B-2D61E 303D7-303D8 31724-31725 327AE 5E28-5E31
    3847-3848 220B1-220CC 2AA73 2D61F-2D623 303D9 31726-31729 5E32-5E3C 3849-384E 220CD-220EA
    2AA74-2AA77 2BDC6-2BDC7 2D624-2D626 3172A-3172D 327AF-327B0 5E3D-5E47 5E49 384F-3856
    220EB-22109 2AA78-2AA7A 2BDC8-2BDC9 2D627-2D62E 303DA-303DC 3172E-31731 327B1-327B3 5E4A-5E4F
    3857-385B 2210A-2211E 2BDCA-2BDCF 2D62F-2D631 303DD 31732 327B4 5E48 5E51-5E59 5E5B 385C-385F
    2211F-22132 2AA7B 2D632-2D634 303DE 31733-31734 327B5-327B6 5E5A 5E5C-5E65 3860-3861
    22133-2214C 2AA7C 2D635 303DF 31735-31737 327B7-327B8 5E66-5E69 3862-3864 2214D-2215E 2AA7D
    2BDD0-2BDD1 2D636-2D638 303E0 5E6A-5E6C 3865-3866 2215F-22168 2AA7E 31738 5E6D-5E6F 22169-2216C
    2D639-2D63B 31739-3173B 5E70 2216D-22177 2AA7F 2BDD2-2BDD3 2D63C 3173C 5E71 3867-3868
    22178-2217A 2AA80 2217B-2217D 303E1 3869-386A 2217E-22182 2D63D 22183-22188",
    "
    5E72-5E73 22189 5E74-5E75 2BDD4 2D63E 303E2 327B9 2218A-2218C 2AA81 2BDD5-2BDD6 303E3 327BA
    5E76-5E78 2218D-22190 2D63F-2D640 303E4 22191-22195 2D641 327BB 22196-22199 2D642-2D643
    303E5-303E6 3173D 2219A 2AA82-2AA83 2BDD7 303E7-303E8 2219B-2219D 2AA84 303E9-303EB 3173E 5E79
    2219E-221A0 2AA85-2AA86 2BDD8-2BDDA 327BC-327BD 221A2 221A4 2BDDB 2D644-2D646 303EC-303ED 221A5
    2AA87 2BDDC-2BDDD 221A6-221A9 303EE 3173F-31740 221AA 2AA88 2BDDE 2D647 31741-31742 221AB 2AA89
    221AC-221AE 4E61",
    "
    5E7A-5E7B 221AF-221B1 2D648-2D649 5E7C 221B2-221B5 2D64A 303EF-303F0 221B6 2AA8A 221B7-221BA
    2D64B 221BB-221BE 5E7D 221BF 221C2 2AA8B 2BDDF 2D64C 303F1 221C1 221C3-221C9 5E7E 386B-386C
    221CA 2BDE0-2BDE1 327BE 20179 221CB 2BDE2-2BDE3 386D 221CC-221D3 2BDE4 386E 327BF 221D6",
    "
    5E7F-5E83 201B2 2BDE5 2D64D-2D64F 5E84-5E86 386F-3871 221D7-221E2 2BDE6 2D650-2D652 303F2
    5E87-5E94 5E98 3872-3873 221E3-221F1 2AA8C-2AA8D 2BDE7 2D653-2D657 327C0-327C2 5E95-5E97
    5E99-5E9F 3874-387B 221F2-22206 2AA8E-2AA8F 2D658-2D659 303F3-303F4 327C3-327C4 5EA0-5EA6
    387C-3882 22207-22218 2AA90-2AA91 2BDE8-2BDE9 2D65A-2D65B 303F5-303F6 31743-31744 5EA7-5EAF
    3883-3887 22219-22231 2AA92-2AA97 2BDEA-2BDEF 2D65C-2D661 303F7-303F8 31745 327C5-327C6
    5EB0-5EBC 3888-388C 22233-22255 22257-2225A 2AA98-2AA99 2B776-2B777 2BDF0-2BDF5 2D662-2D663
    303F9-303FB 327C7 5EBD-5EC3 5ECA 388D-3890 2225B-2227E 2AA9A-2AA9B 2BDF6-2BDF9 2D664-2D667
    303FC-303FD 31746 327C8 5EC5-5EC9 5ECB-5ECC 9FEE 3891 2227F-22294 2AA9C-2AA9D 2BDFA-2BDFB
    2D668-2D66D 303FE 5EC4 5ECD-5ED8 3892-3895 22295-222AC 2AA9E-2AAA0 2BDFC-2BDFF 2D66E-2D673
    303FF-30401 31747-31749 327C9-327CB 5ED9-5EE4 3896-3898 222AD-222C1 2AAA1-2AAA3 2BE00
    2D674-2D67B 30402-30403 3174A-3174D 327CC-327CD 5EE5-5EEA 3899-389C 222C2-222D0 2AAA4-2AAA5
    2BE01-2BE02 2D67C-2D683 327CE 222D1-222DB 222DD-222E0 2AAA6-2AAA8 2BE03-2BE06 2D684 30404 327CF
    5EEB 222E1-222ED 2AAA9 2BE07 2D685-2D688 30405 3174E 5EEC-5EED 9F90 389D 204CC 222EE-222FA
    2AAAA 2BE08 2D689-2D68B 3174F 327D0 5EEE-5EF0 389E 222FB-22303 2BE09 2D68C 5EF1 22304-22306
    2AAAB 2BE0A 2D68D-2D68E 5EF2 22308-2230C 2BE0B-2BE0C 2D68F-2D690 30406 2230D-22311 2BE0D-2BE0E
    31750 327D1 22312 2D691 5EF3 2BE0F 22313 2BE10 22314-22316 327D2",
    "
    5EF4 22317 5EF5 389F 22318-2231A 2AAAC 2BE11 31751 5EF6-5EF7 2231C 2D692-2D694 327D3 5EF8-5EF9
    38A0 2231B 2231D-2231E 2AAAD-2AAAE 2D695 5EFA-5EFC 2231F 31752 5EFD 22320-22325 2AAAF
    22326-22327 2AAB0 2BE12-2BE13 22328-2232A 2AAB1 31753 2232B 23261 327D4 262EA 2AAB2 327D5 2BE14
    327D6 2BE15",
    "
    5EFE 2232C 5EFF-5F00 2232D 5F01 2232E-2232F 5F02 22330-22332 2BE16 30407-30408 5F03-5F05 22333
    22335-2233A 2AAB3 30409 5F06 2233B 2233D-22341 2AAB4 2BE17-2BE19 31754 5F07-5F08 22334 2233C
    22342-2234C 2D696 5F09 2234D-22353 2AAB5 2BE1A-2BE1B 2D697-2D698 3040A-3040B 22354-22359
    2BE1C-2BE1D 327D7 2235A-22361 2AAB6 2BE1E 22362-22365 2AAB7 2BE1F 2D699 38A1 22366-2236B 2D69A
    5F0A 38A2 2236C 3040C 31755 38A3 2236E-22371 2BE20-2BE21 2D69B-2D69D 31756 22372-22374 2AAB8
    2BE22 31757 2BE23 22375 31758 2BE24 22376 2AAB9 2D69E 22377-22379",
    "
    5F0B 2237A 2B820 5F0C 2237B-2237C 5F0D 2D69F-2D6A1 5F0E-5F10 2237D-2237E 38A4 2237F-22385 3040D
    38A5 22386-2238C 3040E-30410 2238D 2D6A2 5F11 2238E 5F12 38A6 2238F-22390 2398F 2D6A3-2D6A4
    30411 22391-22392 30412 22393-22396",
    "
    5F13 22397-22398 5F14-5F16 38A7 22399-223A1 2D6A5 5F17-5F18 223A2-223AA 5F19-5F1C 38A8-38AB
    223AB-223B6 2AABA 2BE25-2BE27 2D6A6 327D8 5F1D-5F20 38AC-38AD 223B7-223C5 2BE28-2BE2A
    2D6A7-2D6A8 31759-3175B 2EC74 5F21-5F2A 38AE-38B1 223C6-223D3 2AABB 2BE2B-2BE2D 2D6A9-2D6AB
    30413-30414 3175C 5F2B-5F2F 38B2-38B7 20134 20518 223D4-223E3 2AABC-2AABD 2BE2E-2BE32
    2D6AC-2D6B0 30415-30416 2EC75-2EC77 5F30-5F33 38B8-38B9 223E4-223ED 2AABE 2BE33-2BE36
    2D6B1-2D6B5 30417-30418 3175D 2EC78 5F34-5F39 38BA-38BC 223EE-223FF 2AABF 2BE37-2BE38
    2D6B6-2D6B9 30419-3041B 3175E 5F3A-5F3E 38BD-38BF 22400-22409 2AAC0-2AAC1 2BE39-2BE3A
    2D6BA-2D6C1 3041C-3041E 5F3F-5F42 38C0-38C2 2240A-22411 2D6C2-2D6C3 5F43-5F45 38C3 22412-2241D
    2AAC2 2BE3B 2D6C4 3041F 327D9 5F46-5F49 38C4-38C5 2241E-22424 2BE3C-2BE3D 2D6C5-2D6C7 30420
    5F4A-5F4B 22425-2242A 2BE3E-2BE3F 2D6C8-2D6C9 5F4C 2242C-22431 2AAC3 2BE40 2D6CA-2D6CB 327DA
    5F4D 22432-22437 2BE41 2D6CC 22438-2243E 24BFD 2243F-22445 2BE42 30421 38C6 22446-22449 2AAC4
    2BE43 30422 5F4E 2244A 5F4F 2244B-2244C 2AAC5 2244D-2244E",
    "
    5F50-5F51 2B739 5F52-5F53 2244F-22452 2AAC6 22453 5F54-5F55 38C7 22454-22455 2BE44 2D6CD-2D6CE
    3175F 5F56 22457-2245A 2D6CF 31760 2245B-2245D 5F57 2245E-22461 2D6D0 30423 327DB 5F58
    22462-22464 2BE45-2BE46 2D6D1-2D6D2 5F59-5F5A 22465-22467 30424-30425 31761 22468-2246E 23F19
    2BE47-2BE48 327DC 5F5B-5F5C 38C8 2246F 22471-22472 5F5D-5F5E 22473-22476 2AAC7 5F5F 22477-2247E
    5F60 2247F",
    "
    5F61 22480-22482 38C9 22483-22486 327DD 5F62-5F64 38CA 22487-22488 30426 38CB-38CD 22489-2248D
    2D6D3 30427 2EC79 5F65-5F66 2248E 2B778 30428 5F67-5F68 2248F-22493 23972 2AAC8 2BE49
    30429-3042A 5F69 5F6B-5F6C 38CE 22494-2249D 31762-31763 5F6D 38CF-38D0 2249E-224A3 3042B 5F6E
    224A4-224A8 2D6D4-2D6D5 31764 5F6F-5F70 38D1 224A9-224AA 2D6D6-2D6D8 31765-31766 5F71 38D2
    224AB-224AF 2AAC9 2D6D9-2D6DB 327DE 38D3 224B0-224B4 2AACA 224B5 2BE4A 31767 327DF 224B7 224B6
    31768-31769 5F72 224B8-224BB",
    "
    5F73 224BC-224BD 3176A 38D4 224BE-224BF 2BE4B 5F74-5F75 38D5 224C0-224C3 2BE4C 2D6DC-2D6DD
    3042C 3176B-3176C 327E0 5F76-5F7B 9FC8-9FC9 38D6-38D7 224C4-224D1 2AACB 2BE4D-2BE50 2D6DE
    3176D-3176E 327E1 5F7C-5F84 38D8-38D9 224D2-224DB 2AACC 2BE51 2D6DF-2D6E6 3042D 2EC7A-2EC7B
    327E2 5F85-5F8D 5F94 38DA-38E1 224DC-224E9 2BE52-2BE53 2D6E7-2D6E9 3176F 2EC7C 327E3 5F8E-5F93
    5F95 38E2-38E3 224EA-22500 2AACD-2AACE 2BE54-2BE55 2D6EA-2D6EE 3042E-3042F 5F96-5F99 5F9B-5FA3
    38E4-38E9 22501-2251E 2AACF-2AAD0 2BE56-2BE58 2D6EF-2D6F6 30430-30433 31770-31773 327E4 5F9A
    5FA4-5FAB 38EA-38EE 2251F-2252B 2252D-22531 2AAD1-2AAD3 2BE59-2BE5D 2D6F7-2D6FC 30434-30435
    31774-31776 2EC7D 327E5 5FAC-5FB0 38EF 22532-2254E 22567 2AAD4-2AAD5 2BE5E-2BE60 2D6FD 30436
    31777 327E6 5FB1 5FB3-5FB4 38F0-38F2 2254F-22566 22568-22569 2AAD6-2AAD8 2BE61-2BE62
    2D6FE-2D700 30437 327E7 5FB2 5FB5-5FBA 38F3-38F4 2256A-22578 2BE63-2BE65 2D701-2D705 2EC7E
    327E8-327E9 5FBB-5FBC 38F5-38F6 22579-22584 22586-22587 2AAD9 2D706-2D708 30438 31778-31779
    327EA-327EC 5FBD-5FBE 38F7 22588-2258A 2258C-2258E 2AADA 2BE66 327ED 2258F-22597 2AADB-2AADC
    2BE67-2BE68 2D709 30439 327EE 5FBF 38F8 22598-2259A 2259C 2D70A 5FC0-5FC1 38F9 2259D-225A0
    225A2 327EF 5FC2 225A3-225A4 2BE69 3177A-3177B 327F0 225A5-225A6 2BE6A 225A7-225A8",
    "
    5FC3-5FC4 225A9 5FC5-5FC6 38FA 225AA 3043A 5FC7-5FCA 38FB 225AB-225B1 2AADD 2BE6B-2BE6D
    3043B-3043C 3177C-3177D 5FCB-5FDC 38FC-3900 225B2-225C8 2AADE 2BE6E-2BE71 2D70B-2D70E
    3043D-30440 3177E-31781 2EC7F 5FDD-6006 3901-390B 225C9-225FE 2AADF-2AAE5 2B779 2BE72-2BE79
    2D70F-2D718 30441-30449 31782-31787 2EC80-2EC82 327F1-327F4 6007-603F 390C-3919 225FF-22633
    2AAE6-2AAEC 2BE7A-2BE7F 2D719-2D727 3044A-30453 31788-31790 2EC83 327F5-327F7 6040-607D
    391A-392D 393A 22634-22670 2AAED-2AAF4 2BE80-2BE8B 2D728-2D735 30454-3045B 31791-31796
    2EC84-2EC85 327F8-32800 607E-60AF 392E-3939 393B-393D 22671-226BF 2AAF5-2AAFE 2BE8C-2BE95
    2D736-2D74B 3045C-30466 31797-3179C 2EC86 32801-32805 60B0-60EF 393E-3959 226C0-22727
    2AAFF-2AB06 2BE96-2BE9F 2D74C-2D760 30467-3046F 3179D-317A9 2EC87 32806-3280D 60F0-6126 6168
    395A-396B 22728-2278C 2AB07-2AB12 2B73F 2BEA0-2BEAD 2D761-2D776 30470-3047B 317AA-317BB
    2EC88-2EC89 3280E-32814 6127-6151 396C-397B 2278D-227DF 2AB13-2AB1E 2BEAE-2BEB7 2D777-2D78C
    3047C-30484 317BC-317C0 2EC8A-2EC8B 32815-3281B 6152-6167 6169-6188 397C-3988 2056B 227E0-22830
    26451 2AB1F-2AB27 2BEB8-2BEC2 2D78D-2D7A5 30485-3048A 317C1-317C5 3281C-32821 6189-61B3
    3989-3996 22831-22891 2AB28-2AB2D 2BEC3-2BEC9 2D7A6-2D7B9 3048B-30493 317C6-317D1 32822-3282B
    61B4-61BA 61BC-61D4 3997-3999 22892-228CD 26857 2AB2E-2AB36 2BECA-2BECF 2D7BA-2D7C4 30494-30496
    317D2-317D5 3282C-32839 61BB 61D5-61E8 399A-39A0 228CE-228FA 26EC7 2AB37-2AB39 2BED0-2BED2
    2D7C5-2D7CC 30497-3049A 317D6-317D7 3283A-3283C 61E9-61F4 39A1-39A2 228FB-22925 2AB3A-2AB3E
    2BED3-2BED9 2D7CD-2D7D7 3049B-3049E 317D8 3283D-32842 61F5-61F8 39A3-39A7 22926-2294A
    2AB3F-2AB40 2BEDA-2BEDC 2D7D8-2D7DE 3049F-304A0 317D9 32843-32845 61F9-61FB 39A8-39AA
    2294B-22956 2AB41-2AB42 2BEDD-2BEE1 2D7DF-2D7E2 304A1-304A3 32846-32848 61FC-61FF 22957-22964
    2AB43-2AB44 2BEE2-2BEE4 2D7E3-2D7E6 32849-3284A 6200-6202 39AB-39AC 22965-2296E 2AB45-2AB46
    2D7E7 3284B 6203-6204 2296F-2297A 2AB47 3284C-3284D 6205-6206 2297B-22982 2D7E8-2D7EA 2AB48
    2D7EB-2D7EC 22983-22984 2D7ED 317DA 6207 39AD 22985-22987 2BEE5 22988-2298B 317DB",
    "
    6208-620B 2298C-2298D 2AB49 2D7EE 620C-6210 2298E-22991 2AB4A 2BEE6-2BEE7 6211-6213 39AE-39AF
    22992-22999 2BEE8 2D7EF 6214-6217 39B0-39B2 2299A-229A5 2BEE9-2BEEA 2D7F0-2D7F2 304A4-304A5
    6218 39B3 229A6-229B6 2AB4B-2AB4C 2BEEB-2BEEC 2D7F3 304A6-304A8 6219 39B4-39B6 229B7-229BE
    2AB4D-2AB4E 2BEED-2BEF1 304A9 621A-621D 39B7 229BF-229C7 2AB4F-2AB50 2BEF2-2BEF6 2D7F4-2D7F5
    304AA 3284E 621E-621F 6226 39B8 229C8-229D3 2AB51 2BEF7-2BEFE 2D7F6 304AB 317DC 3284F 6220-6225
    39B9 229D4-229E1 2AB52 2BEFF-2BF00 2D7F7 304AC-304AE 2EC8C-2EC8D 32850-32851 6227-622C 39BA
    203B6 229E2-229E7 229E9-229F1 2AB53 2BF01 2D7F8-2D7F9 304AF 317DD-317DE 2EC8E 32852 622D-622F
    6231 39BB-39BC 229E8 229F2-22A06 2BF02-2BF03 2D7FA-2D7FC 304B0-304B1 317DF-317E0 32853 6230
    22A07-22A0F 22A11-22A12 2AB54-2AB56 2BF04-2BF08 2D7FD 304B2-304B3 6232 6234 39BD 22A13-22A17
    2D7FE 6233 22A18-22A1D 32854 22A1E-22A20 317E1 22A21-22A23 32855 6235 2AB57",
    "
    6236-6239 22A24-22A25 2D7FF 22A26-22A29 623A-623C 39BE 22A2A-22A2E 2D800 623D-6240 39BF-39C0
    22A2F-22A35 2BF09 2D801-2D802 6241-6243 39C1-39C2 22A36-22A44 2AB58 2BF0A 2D803-2D806 6244-6247
    22A45-22A4C 2BF0B-2BF0C 6248 22A4D-22A50 2AB59 2BF0D-2BF0E 6249-624A 22A51-22A55 2BF0F-2BF10
    2D807-2D809 304B4 317E2 22A56-22A57 247F5 2BF11 22A58-22A5B 317E3 22A5C-22A5E 2AB5A 2D80A 304B5
    32856 22A5F 2D80B 304B6 317E4-317E5 32857 22A60 32858 22A61 28433 317E6-317E7 22A62 2AB5B
    22A63-22A64 317E8 2D80C 2BF12",
    "
    624B-624D 9FB5 2D80D 624E 22A65-22A67 2BF13 6250-6256 39C3-39C5 22A68-22A6C 2BF14 2D80E
    304B7-304BB 624F 6257-625E 6260-626C 39C6-39C8 22A6D-22A82 2AB5C 2BF15-2BF17 2D80F-2D810
    304BC-304BD 317E9-317EC 32859 625F 626D-6277 6279-62A5 39C9-39D1 22A83-22AB3 2AB5D-2AB62
    2BF18-2BF1B 2D811-2D816 304BE-304CB 2EC8F 3285A-3285F 6278 62A6-62E9 39D2-39E0 22AB4-22AE3
    2AB63-2AB6A 2B77A 2BF1C-2BF21 2D817-2D821 304CC-304D6 317ED-317F5 32860-32867 62EA-6327
    39E1-39F1 22AE4-22B2E 2AB6B-2AB73 2B77B 2BF22-2BF30 2D822-2D832 304D7-304EA 317F6-317F8
    32868-3286E 6328-6364 39F2-39F8 22B2F-22B80 2AB74-2AB80 2BF31-2BF40 2D833-2D848 304EB-304F9
    317F9-31806 2EC90 3286F-32878 6365-63B1 63B3-63BD 39F9-3A08 22B81-22BE8 2AB81-2AB8B 2BF41-2BF56
    2D849-2D85D 304FA-30504 31807-31814 32879-3287B 63B2 63BE-63C4 63C6-6405 641C 3A09-3A15
    3A17-3A18 22BE9-22C3E 22C40-22C5E 2AB8C-2AB96 2B77C 2BF57-2BF68 2D85E-2D871 30505-30511
    31815-3181F 3287C-32886 6406-641B 641D-6430 6432-644A 3A16 3A19-3A2C 22C5F-22CB2 2AB97-2ABA2
    2B77D 2BF69-2BF76 2D872-2D886 30512-3051E 31820-31828 2EC91 32887-32894 63C5 644B-6455
    6457-6484 6487 3A2D-3A42 22CB3-22D14 22D16-22D1F 2ABA3-2ABAA 2B77E 2BF77-2BF81 2D887-2D896
    3051F-30525 31829-31830 2EC92 32895-328A4 6431 6456 6485-6486 6488-64BA 64C6 3A43-3A51 22D15
    22D20-22D7E 22DC5 2ABAB-2ABB4 2BF82-2BF89 2D897-2D8A2 30526-30529 31831-31838 328A5-328B6
    64BB-64C5 64C7-64DE 3A52-3A59 22D7F-22DC4 22DC6-22DCA 2ABB5-2ABB7 2BF8A-2BF8F 2D8A3-2D8B1
    3052A-30532 31839-3183D 328B7-328C5 64DF-64E4 64E6-64F1 3A5A-3A5F 22DCB-22DF5 2ABB8-2ABBA
    2BF90-2BF92 2D8B2-2D8BD 30533-30537 3183E-31843 328C6-328CE 64E5 64F2-6506 3A60-3A6B
    22DF6-22E22 2ABBB-2ABC0 2B77F 2BF93-2BF98 2D8BE-2D8C3 30538-30539 31844-3184B 328CF-328DA
    6507-6510 6512 3A6C-3A6D 22E23-22E4C 2ABC1 2BF99-2BF9A 2D8C4-2D8CB 3053A 3184C-3184D
    328DB-328DF 6511 6513-651A 3A6E-3A70 22E4D-22E61 22E63-22E6B 2ABC2 2BF9B 2D8CC-2D8D0
    3053B-3053C 3184E 328E0-328E4 651B-651D 3A71-3A74 22E62 22E6C-22E81 2BF9C 2BF9E 2D8D1-2D8D2
    3053D-3053E 3184F-31851 328E5 651E-6524 6526-6527 9FDC 22E82-22E95 2ABC3 2BF9D 2BF9F-2BFA0
    3053F 31852-31853 328E6 6525 6528-652B 3A75-3A77 22E96-22E9D 2ABC4 2BFA1 31854 652C-652D
    22E9E-22EAB 2BFA2 328E7 652E 3A78-3A79 22EAC-22EAF 31855-31856 22EB0-22EB2 328E8 22EB3 328E9
    2D8D3 22EB4",
    "
    652F 2D8D4 6530 22EB5 2D8D5 22EB6 2D8D6 30540 3A7A 22EB7-22EBD 2ABC6 6531 22EBE-22EC0
    2D8D7-2D8D8 328EA-328EB 3A7B-3A7C 22EC1-22EC7 22EC9 30541 31857 328EC 3A7D 22ECA-22ECD 2ABC5
    6532 3A7E 22ECE-22ED9 2D8D9-2D8DA 30542 22EDA-22EDC 2BFA3 22EDD-22EDF 2ABC7 2D8DB 328ED 6533
    22EE0-22EE4 2BFA4 2D8DC-2D8DD 22EE5-22EE9 2D8DE 2BFA5 2D8DF 22EEA 2D8E0",
    "
    6534-6537 2BFA6 2D8E1 30543 6538-653C 3A7F-3A80 22EEB-22EF2 2BFA7 2D8E2-2D8E3 653D-653F
    3A81-3A82 22EF3-22F08 2ABC8 2BFA8 2D8E4 30544-30546 6540-6545 3A83-3A86 22F09-22F1A 2ABC9-2ABCA
    2BFA9 2D8E5-2D8E9 30547 2EC93 6546-654C 3A87-3A89 22F1B-22F38 2304B 2ABCB-2ABCC 2BFAA-2BFB0
    2D8EA-2D8F1 30548 2EC94 555F 654D-655B 3A8A-3A8E 22F39-22F59 22F5C 22F77 2ABCD 2AD4A
    2BFB1-2BFB8 2D8F2-2D8F5 30549-3054A 31858 2EC95 655C-656A 656D 3A8F-3A9A 22F5A-22F5B
    22F5D-22F76 22F78-22F7E 22FA3 2ABCE-2ABCF 2BFB9-2BFC0 2D8F6-2D8FB 3054B-3054E 31859-3185D
    656B-656C 656E-6570 3A9B-3A9F 22F7F-22FA2 22FA4 2ABD0 2BFC1-2BFC7 2D8FC-2D902 3054F-30550
    3185E-3185F 6571-6573 3AA0-3AA3 22FA6-22FC5 2ABD1-2ABD2 2BFC8-2BFCC 2D903-2D907 30551 328EE
    6574-657B 3AA4-3AA6 22FC7-22FDD 2305B 2ABD3-2ABD6 2BFCD-2BFD0 2D908-2D90B 30552-30553 31860
    328EF 657C-657F 3AA7-3AAA 22FDE-22FFD 2ABD7-2ABD9 2BFD1-2BFD7 30554-30555 6580-6582 22FFE-23003
    23005-2300F 2ABDA 2BFD8-2BFDA 2D90C-2D90D 30556-30557 328F0 6583 8D01 3AAB-3AAC 23004
    23010-2301A 2ABDB-2ABDC 2BFDB-2BFDD 2D90E-2D90F 6584 2301B-23022 2982E 2BFDE-2BFE2 30558 328F1
    6585-6586 3AAD 23023-2302D 29830 2BFE3-2BFE6 30559 31861 328F2 3AAE 2302E-23032 2ABDD-2ABDE
    2BFE7-2BFE8 2D910-2D911 23033-23034 2BFE9 2D912 23035-2303A 2ABDF 2BFEA-2BFEC 2303B-2303C 2D913
    2303D-23040",
    "
    6587 23041 2BFED 6588 3AAF 23042 2ABE0 2D914 31862 6589 23043-23045 2ABE1-2ABE2 328F3
    23046-23049 2ABE3 2BFEE-2BFEF 2D915-2D919 3055A 2EC96 658A-658B 3AB0 2304A 2304C-2304D 2ABE4
    2BFF0 328F4-328F6 658C-658F 2304E-23053 2305A 31863 328F7 6590-6591 23054-23056 2ABE5-2ABE7
    2BFF1 31864-31866 2EC97 328F8 6592 3AB1 23057-23059 295B0 2ABE8-2ABEA 3055B 2305C-23061 6593
    23062-23063 328F9-328FA 23064 2D91A-2D91B 23065-23066 3055C 328FB 6594 23067-23068 2BFF2 6595
    23069-2306A 6596 2306B 328FC 31867",
    "
    6597 2306C 3AB3 3AB2 6598 2306D 3AB4 2306E-23070 3AB5 23071-23072 2ABEB 328FD 6599-659A 3AB6
    23073-23076 2ABEC 2BFF3 659B-659C 3AB7 23077-2307B 2BFF4 328FE 659D 3AB8 2307C-23080 2BFF5
    659E-659F 23081 23083-23085 65A0-65A1 23082 23086-23088 2ABED 3AB9 23089-2308B 2ABEE 2BFF6
    2D91C 328FF 65A2 2BFF7 2D91D 31868 65A3 3ABA 2308C-2308D 2ABEF 2BFF8 2308E-23090 2ABF0 3ABB
    2D91E",
    "
    65A4 23091 65A5 2D91F 23092-23093 65A6-65A9 23094-23098 2ABF1 2D920 3055D-3055E 65AA-65AB
    3ABC-3ABD 23099-2309A 2D921-2D922 3ABE-3ABF 2309B-2309D 65AC-65AD 2309E-230A0 2BFF9-2BFFA
    31869-3186A 65AE-65AF 3AC0 230A1-230AA 230AC-230AD 2BFFB-2BFFC 3055F 3186B 65B0-65B1
    230AE-230B5 251F4 2D923-2D924 30560 3186C 65B2 3AC1 230B6-230BA 2D925 30561 3186D 32900 65B3
    3AC2 230BB-230BF 30562 32901 65B4 230C0-230C6 2BFFD 30563-30564 3186E 32902 65B5-65B6
    230C7-230CB 2D926 65B7 230CC-230D0 30565 230D1-230D3 2BFFE 3186F 230D4-230D5 2BFFF 31870 230D6
    65B8 30566",
    "
    65B9 2D927 3AC3 230D7 2D928-2D92A 230D8-230D9 65BA-65BC 3AC4 230DA-230DC 2ABF2-2ABF3 2C000
    2D92B-2D92C 31871 65BD-65C0 3AC6 3AC8 230DD-230E5 2ABF4 2D92D-2D934 30567 65C1-65C6 65CA 3AC5
    3AC7 3AC9 230E6-230F2 2ABF5-2ABF7 2C001-2C006 2D935-2D939 30568 31872-31873 32903 65C7-65C9
    65CB-65CF 3ACA-3ACC 230F3-230FB 2ABF8 2B780 2C007-2C008 2D93A 30569-3056B 65D0-65D1 3ACD
    230FC-23107 2ABF9-2ABFC 2C009-2C00A 2D93B-2D93E 3056C-3056D 31874-31876 2EC98-2EC99 65D2-65D5
    23108-2310D 2ABFD 2B781 2C00B-2C00D 2D93F-2D940 3056E 32904-32905 65D6-65D7 2310E-23113 2ABFE
    2C00E-2C010 2D941 3056F 32906 3ACE-3ACF 23114-23116 2ABFF-2AC00 2C011-2C012 2D942-2D944
    65D8-65D9 23117-2311C 2AC01-2AC02 2C013-2C016 2D945 31877 32907-32908 65DA 2311D 2C017 2D946
    31878 32909 65DB 2311E-23123 2C018-2C01B 2D947-2D948 3290A 65DC-65DE 23124 2AC03-2AC04
    2C01C-2C01D 2D949 65DF 23125 2AC05 2C01E-2C020 23126 2C021 23127-23128 2C022 23129 2C023 2312A
    3290B 2312B-2312C 2C024",
    "
    65E0-65E1 2312D 30570 2312E-2312F 3290C-3290D 65E2 23130-23133 65E3 2C025 23134-23135 65E4
    23136-23138 3290E 23139-2313A 2D94A",
    "
    65E5-65E7 2313B-2313D 2D94B 65E8-65EF 3AD0-3AD1 2313E-23143 23145 2C026 2D94C-2D94E 30571-30572
    31879 65F0-65F8 3AD2-3AD7 23144 23146-23159 2AC06-2AC07 2C027-2C028 2D94F-2D951 30573
    2EC9A-2EC9B 3290F 65F9-6619 3AD8-3ADA 2315A-23176 2AC08-2AC0E 2C029-2C02B 2D952-2D960
    30574-30577 3187A-3187C 2EC9C-2EC9D 32910-32911 661A-663F 3ADB-3AE4 23177-23188 2318A-23191
    2AC0F-2AC18 2B782-2B783 2C02C-2C02E 2D961-2D96D 30578-3057E 3187D-3187E 2EC9E 32912-32917
    6640-6656 3AE5-3AEE 23192-231B1 23230 2AC19-2AC24 2B784 2C02F-2C034 2D96E-2D983 3057F-30586
    3187F-31882 2EC9F-2ECA2 32918 52D7 6657-6669 66FD 3AEF-3AF4 231B2-231E1 2AC25-2AC28 2C035-2C03A
    2D984-2D998 30587-3058C 31883-31888 2ECA3 32919-3291D 666A-6683 6691 3AF5-3B00 231E2-23223
    2AC29-2AC2E 2C03B-2C041 2D999-2D9A7 3058D-30595 31889-3188E 2ECA4 3291E-32923 6684-6690
    6692-6699 3B01-3B0C 23224-2322F 23231-23251 2AC2F-2AC37 2C042-2C049 2D9A8-2D9C1 30596-3059A
    3188F-31898 2ECA5 32924-3292A 669A-66A8 3B0D-3B10 23252-23260 23262-2327A 2AC38-2AC3D
    2C04A-2C04B 2C04D-2C04F 2D9C2-2D9D1 3059B-305A0 31899-318A0 2ECA6-2ECA8 3292B-32932 66A9-66B7
    3B11-3B16 2327B-23288 2328A-23291 23293-2329D 232C7 2AC3E-2AC45 2C04C 2C050-2C052 2D9D2-2D9E1
    305A1-305AA 318A1-318A4 2ECA9 32933-32939 66B8-66CD 9FA7 3B17-3B1F 23289 2329E-232C6 232C8
    2AC47-2AC4C 2C053-2C058 2D9E2-2D9F4 305AB-305AE 318A5-318AC 3293A-32940 66CE-66D7 66DA
    3B20-3B22 2005E 232C9-232DD 2AC46 2AC4D 2C059-2C05B 2D9F5-2D9FE 305AF-305B2 318AD-318AF
    32941-32947 66D8-66D9 66DB-66DC 3B23-3B28 2019B 232DE-232EF 232F1 25AC2 2AC4E-2AC50 2C05C
    2D9FF-2DA09 305B3-305B5 318B0-318B1 32948-3294A 66DD-66E2 3B29-3B2A 232F2-232FE 2DA0A-2DA0C
    305B6-305B8 3294B-3294D 66E3-66E8 3B2B 232FF-23307 2C05D-2C05E 2DA0D-2DA10 318B2-318B3 3294E
    66E9 23308-2330C 2AC51-2AC53 2DA11 305B9-305BB 3B2C-3B2D 2330D-23315 305BC 66EA-66EC 3B2E 23316
    2DA12 305BD 318B4 66ED-66EE 23317-23319 2331B 2AC54 2DA13-2DA14 3294F 66EF 3B2F 2331C-2331D
    2DA15-2DA16 305BE 32950 2DA17 2331F-23320",
    "
    66F0-66F3 3B30 2DA18 66F4-66F5 23321-23322 2C05F-2C060 32951 66F6 23323-23326 2C061 66F7 23189
    23327-2332C 2DA19-2DA1A 32952 66F8 66FA 2332D-23336 2C062 2DA1B-2DA1C 66F9 66FB-66FC
    23337-2333A 2C063-2C064 66FE-66FF 6701-6702 2333B-2333D 2C065-2C067 2DA1D 305BF-305C0 6703
    2333E-23342 6704-6705 23343-23345 2C068-2C06A 2DA1E 305C1 318B5 23346-2334A 2AC55 2C06B
    2DA1F-2DA22 32953 6706 3B31 2334B-2334E 2AC56-2AC57 318B6 3B32 2334F-23350 2C06C 23351-23355
    305C2 318B7 32954 23356-23357 2AC58 32955 23358-23359 2C06D-2C06F 6707 2DA23 2335A 20471 305C3
    32956 2335B-2335C",
    "
    6708 2335D 6709 2335E 2AC59 2C070 2DA24-2DA25 32957 2335F-23363 2AC5A 2C071-2C073 2DA26-2DA27
    670A-670D 3B33 4DBA-4DBB 23364 26657 2AC5B 2C074-2C078 2DA28-2DA2D 305C4 32958 670E-6710
    23365-23367 23369-2336C 2AC5C-2AC5D 2C079 2DA2E-2DA31 305C5 318B8 2ECAA 32959 6712-6715
    3B34-3B35 2336D-2336E 266B9 2AC5E 2B785 2C07A-2C07C 2DA32-2DA33 305C6-305C7 318B9 3295A-3295B
    6716-671B 3B36-3B37 23371-23376 2AC60-2AC62 2C07D-2C081 2C099 2DA34-2DA38 3295C 671C-671F 3B38
    4DBC 23377-23383 26733 2AC63 2B786-2B787 2C082-2C085 2DA39-2DA3D 305C8-305C9 318BA 3295D-32960
    6720 3B3A 4DBD 23384-2338C 2AC64-2AC67 2C086 2DA3E-2DA40 305CA 6722 3B3B 2338D-23391 2AC5F
    2AC68-2AC6A 2C087-2C08C 2DA41-2DA43 305CB 32961-32962 81A4 3B3C-3B3E 23392-23399 2AC6B-2AC6C
    2C08D-2C08E 2DA44-2DA45 305CC-305CD 32963 6723-6724 3B3F 2339A-2339B 2339D-233A2 2AC6D
    2C08F-2C090 2DA46-2DA49 305CE 32964 3B40 2339C 233A3-233A8 26856 2C091-2C094 2DA4A-2DA4E 318BB
    32965-32967 6726 233A9-233AD 2C095-2C096 2DA4F-2DA51 305CF 32968 2C097-2C098 2DA52-2DA55
    32969-3296A 6727 233AE-233AF 3296B-3296C 2AC6E-2AC6F 233B0-233B1 2B1C3 2DA56 233B2 2AC70 2DA57
    318BC-318BD 3296D 2C09A",
    "
    6728-6729 233B3-233B4 2C09B 672A-6730 233B5-233B7 2C09C 2DA58 6731-6743 3B41 233B8-233C0
    305D0-305D2 318BE 3296E 6744-6769 6781 3B42-3B46 233C1-233D3 2AC71-2AC75 2C09D-2C09F
    2DA59-2DA5B 305D3 318BF 3296F-32970 676A-6780 6782-67AD 3B47-3B50 233D4-23407 2AC76-2AC79 2B788
    2C0A0-2C0A4 2DA5C-2DA61 305D4-305D7 318C0-318C5 2ECAC-2ECAE 32971 67AE-6811 3B51-3B57
    23408-23434 2AC7A-2AC82 2C0A5-2C0A6 2DA62-2DA72 305D8-305DB 318C6-318CC 2ECAF 32972-32976
    6812-686A 9FC4 3B58-3B67 23435-23466 23468-2347E 2AC83-2AC8F 2B789-2B78A 2C0A7-2C0B1
    2DA73-2DA82 305DC-305E6 318CD-318D8 2ECB0-2ECB2 32977-3297C 686B-68C2 3B68-3B75 3B77
    2347F-234C0 2AC90-2AC9E 2C0B2-2C0B7 2C0B9-2C0BC 2DA83-2DA97 305E7-305F0 318D9-318E4 2ECB3
    3297D-32984 68C3-692E 3B76 3B78-3B8A 234C1-23530 2AC9F-2ACAF 2C0B8 2C0BD-2C0D0 2C0D2-2C0D3
    2DA98-2DAB5 305F1-305F9 318E5-318F3 2ECB4-2ECB5 32985-3298C 692F-6989 698B-698C 6994 6998
    3B8B-3BA0 3BA2-3BA3 23531-23563 23565-235A9 2ACB0-2ACC7 2B8D9-2B8DA 2C0D1 2C0D4-2C0EE
    2DAB6-2DACE 305FA-30606 318F4-318FC 2ECB6-2ECB8 3298D-3299A FA13 698A 698D-6993 6995-6997
    6999-69E1 69E9 6A2E 3BA4-3BBD 23564 235AA-23614 2ACC8-2ACDC 2B78B-2B78C 2C0EF-2C106 2DACF-2DADF
    30607-30615 318FD-31907 3299B-329A2 FA14 69E2-69E8 69EA-6A2D 6A2F-6A31 6A65 6A74 3BBE-3BCF
    3BD1-3BD2 3BE0 23615-23651 23653-2367A 236EF 2ACDD-2ACEC 2B78D-2B78F 2C107-2C118 2DAE0-2DAFA
    30616-30624 31908-3190E 2ECB9 329A3-329AC 6A32-6A64 6A66-6A73 6A75-6A7C 3BD0 3BD3-3BDF
    3BE1-3BE9 23652 2367B-236EE 2ACED-2ACFC 2B790 2C119-2C12B 2DAFB-2DB09 30625-30632 3190F-3191B
    2ECBA-2ECBB 329AD-329BA 6A7D-6AAA 3BEA-3BF6 236F0-23721 23723-23740 2ACFD-2AD08 2B791
    2C12C-2C136 2DB0A-2DB11 30633-3063A 3191C-31925 329BB-329C6 6AAB-6ACA 3BF7-3BFD 23741-23758
    2375A-2378E 2AD09-2AD0F 2B792 2C137-2C140 2DB12-2DB1D 3063B-3063D 31926-3192B 329C7-329D3
    6ACB-6AE6 6AEB 6AED 3BFE-3C08 23759 23790-237C3 237D1 2AD10-2AD15 2C141 2C143-2C148 2DB1E-2DB28
    3063E-30644 3192C-31930 2ECBC 329D4-329D7 6AE7-6AEA 6AEC 6AEE-6AF6 3C09-3C13 3C16 237C4-237D0
    237D2-237EE 2AD16-2AD1A 2C142 2C149-2C14A 2DB29-2DB33 31931-31932 329D8-329D9 6AF8-6B05 6B0C
    3C14-3C15 237EF-23801 23803-23818 2AD1B-2AD1E 2C14B-2C14F 2DB34-2DB37 30645-30648 31933-31934
    2ECBD 329DA-329E1 6AF7 6B06-6B0B 6B0D-6B0E 3C17-3C18 23802 23819-23836 2AD1F-2AD21 2C150-2C153
    2DB38-2DB3A 329E2 6B0F-6B12 3C19-3C1C 23837-2384A 2AD22-2AD23 2C154 2DB3B-2DB40 329E3-329E4
    6B13-6B15 2384B-2385D 25914 2AD24-2AD25 2C155-2C158 329E5 6B16-6B1B 2385E-23868 2386E 2AD26
    329E6 6B1C-6B1D 23869-2386D 2386F-23871 2AD28 2C159-2C15A 2DB41 31935 329E7 9FDD 23872
    23874-23875 2AD27 2C15B 329E8-329E9 6B1E-6B1F 23876-23878 30649 23879 2DB42 2387A-2387C 2C15C
    2DB43 31936 329EA 2387D-2387F",
    "
    6B20-6B22 23880 2DB44 6B24 3C1D-3C1E 23881-23888 2C15D-2C15E 6B23 6B25-6B27 3C1F-3C22
    23889-23896 2AD29 2C15F 2DB45-2DB46 3064A-3064B 6B28-6B2A 3C23-3C28 23897-238A6 2AD2A-2AD2B
    2C160-2C161 3064C 329EB 6B2B-6B31 3C29-3C2D 4DBE 238A7-238B9 2C162-2C163 2DB47-2DB4B 6B32-6B38
    3C2E-3C31 238BA-238C7 2AD2C-2AD2D 2C164-2C168 2DB4C 3064D-3064E 329EC 6B39-6B3F 3C32-3C36 3C38
    238C8-238DC 2AD2E 2C169-2C16A 2DB4D-2DB4F 3064F-30651 329ED 6B40-6B48 3C39-3C3E 238DD-238EB
    238ED-238F1 2AD2F-2AD30 2C16B-2C16C 2DB50-2DB51 30652-30655 31937-31938 6B49-6B4D 3C3F-3C41
    238F2-23907 2AD31 2C16D-2C16F 2DB52 30656-30657 31939 329EE 6B4E-6B53 3C42-3C43 23908-23917
    2AD32 2DB53-2DB54 30658 2ECBE 6B54-6B5A 3C44-3C45 23918-2391F 2C170-2C171 2DB55-2DB56 6B5B-6B5D
    3C46-3C49 23920-23927 2C172 30659 329EF 6B5E-6B5F 23928-2392B 2C173 3193A 6B60 3C4A 2392C-23930
    3C4B 23931-23933 2AD33 2DB57 329F0 23934-23935 23937-23938 2C174 6B61 3C4C 23936 23939-2393C
    3C4D 2393D 2C175 2393E 2AD34 3C4E 2393F-23941",
    "
    6B62 9FB0 23942 3193B 6B63 23943-23944 6B64 3C4F 23945-23946 2C176-2C177 2DB58-2DB5A 3065A
    3193C-3193D 6B65 3C50-3C51 23947-23948 2394A-2394C 2C178 3065B-3065C 3193E 329F1 6B66-6B69
    23949 2394D-23961 2AD35 2C179 2DB5B-2DB5D 3065D-3065F 3193F 6B6A-6B6B 3C52-3C54 23962-23964
    2C17A-2C17B 2DB5E-2DB60 30660-30663 31940-31941 329F2 6B6C-6B6D 23966-23971 2AD36 2C17C-2C17D
    2DB61 30664-30669 31942 23973-23978 2AD37 2C17E-2C180 2DB62-2DB65 3066A 6B6E-6B6F 3C55-3C56
    23979-23986 2AD38 2C181-2C183 2DB66-2DB69 3066B-3066E 31943 6B70-6B73 23987-2398A 2398C-2398E
    2469C 2AD39-2AD3A 2B793 2C184-2C185 2DB6A-2DB6B 3066F-30673 31944-31945 6B74 3C57 23990-23993
    2AD3B 2C186-2C187 2DB6C-2DB6D 30674-30675 329F3 6B75-6B76 23994-2399B 2AD3C 2C188-2C189
    2DB6E-2DB71 30676-30677 31946 2ECBF 329F4 6B77 2399C-239A0 2AD3D-2AD3E 2C18A-2C18B 2DB72-2DB74
    30678-30679 31947 239A1-239A5 2AD3F 2C18C-2C18D 2DB75-2DB76 31948 6B78 3C58 239A6-239AB 2C18E
    2DB77 239AC 2C18F-2C190 3067A 31949-3194A 329F5-329F6 239AE 2DB78-2DB7B 3067B 239AF-239B4 329F7
    2DB7C",
    "
    6B79 239B5-239B6 6B7A 239B7 6B7B 3C59 239B8-239BE 2DB7D-2DB7F 6B7C 239BF-239C8 2DB80-2DB81
    3067C 3194B 6B7D-6B81 3C5A-3C5D 239C9-239DC 2DB82-2DB85 3194C 6B82-6B87 3C5E-3C60 239DD-239F1
    2AD40-2AD41 2C191-2C192 2DB86-2DB88 3194D 329F8-329F9 6B88-6B8B 3C37 3C61 239F2-23A04
    2AD42-2AD43 2C193-2C195 2DB89-2DB91 3067D-3067E 6B8C-6B93 3C62-3C63 23A05-23A15 2AD44
    2C196-2C197 2DB92-2DB96 3067F-30680 3194E 6B94-6B9A 3C64-3C69 23A16-23A30 2AD45 2C198-2C19A
    2DB97-2DB98 3194F-31951 329FA-329FC 6B9B-6B9C 3C6A-3C6E 23A31-23A43 2C19B 2DB99-2DB9B
    31952-31953 6B9D-6BA1 3C6F-3C72 23A44-23A4C 2AD46 2DB9C 6BA2-6BA6 3C73-3C74 23A4D-23A5C 2B794
    2DB9D-2DB9E 30681 6BA7-6BAB 3C75-3C77 23A5D-23A67 2DB9F-2DBA3 6BAC-6BAE 3C78 23A68-23A6E 2AD47
    31954-31955 6BAF 23A6F-23A76 2DBA4-2DBA7 6BB0-6BB1 23A77-23A78 2C19C 329FD 9FDE 3C79-3C7A
    23A79-23A7B 2C19D 30682 6BB2 23A7C-23A7E 3C7B 23A7F-23A81 329FE-329FF",
    "
    6BB3 3C7C 2C19E 6BB4 3C7D 23A82-23A84 2C19F-2C1A0 2DBA8 2ECC0 6BB5-6BB6 23A85-23A87 2C1A1-2C1A2
    31956 6BB7 3C7E-3C7F 23A88-23A8A 2AD48-2AD49 2C1A3-2C1A4 2DBA9-2DBAD 6BB8-6BBB 3C80 23A8B-23A98
    2AD4B 2C1A5-2C1A7 2DBAE-2DBB1 31957 32A00-32A01 6BBC-6BBD 3C81-3C83 23A99-23A9F 2AD4C-2AD4E
    2C1A8 2DBB2-2DBB6 6BBE-6BC2 3C84 23AA0-23AAC 2AD4F 2C1A9-2C1AC 2DBB7-2DBB8 30683-30685
    6BC3-6BC4 3C85 23AAE-23AB5 2C1AD 2DBB9-2DBBB 32A02 6BC5-6BC6 23AB6-23ABA 246D7 2AD50
    2C1AE-2C1B0 2DBBC-2DBBD 30686-30687 6BC7-6BC8 3C86-3C88 23ABB-23ACB 2C1B1 2DBBE-2DBC1 30688
    3C89 23ACC-23ACF 2AD51-2AD52 2C1B2-2C1B3 30689 31958 3C8A 23AD0-23AD7 2DBC2 6BC9 23AD8-23ADD
    2DBC3 3068A 23ADE-23ADF 2DBC4 23AE0-23AE1 2C1B4 31959 6BCA 23AE2-23AE8 2DBC5 23AE9 2AD53 2DBC6
    23AEA-23AEB 3195A 2C1B5",
    "
    6BCB-6BCC 23AEC 6BCD-6BCE 23AED 2DBC7 6BCF-6BD0 23AEE 6BD1-6BD2 23AEF-23AF2 2C1B6 2DBC8
    23AF3-23AF4 3195B 23AF5-23AF8 2C1B7 6BD3 23AF9 3195C 23AFA-23AFC 2AD54 2DBC9 23AFD-23AFF 2C1B8
    23B00 3195D 23B01",
    "
    6BD4-6BD5 200B1 23B02-23B07 6BD6-6BD8 3C8B 2DBCA 6BD9 23B08-23B0A 2DBCB-2DBCE 32A03 23B0B-23B0C
    2DBCF 3068B 2C1B9 2DBD0-2DBD1 23B0D 2C1BA 3068C 23B0E-23B11 2AD55 23B12-23B14 6BDA 23B15-23B16
    2C1BB 23B17-23B1A",
    "
    6BDB 23B1B 2AD56 3C8C 23B1C-23B20 32A04-32A05 6BDC-6BDD 23B21-23B28 2C1BC 3068D 32A06 6BDE-6BDF
    3C8D-3C91 23B29-23B37 2AD57-2AD58 2C1BD-2C1BF 2DBD2 3068E-30691 32A07-32A08 6BE0-6BE1 3C92
    23B38-23B5B 2AD59-2AD5A 2C1C0 2DBD3-2DBD7 30692-30695 3195E-3195F 32A09 6BE2-6BEA 3C93
    23B5C-23B70 2AD5B-2AD5C 2DBD8 30696-30697 31960-31961 2ECC1 32A0A 6BEB-6BEE 3C94-3C9A
    23B71-23B87 2C1C1 2DBD9-2DBDA 30698-3069D 2ECC2 32A0B-32A0E 6BEF-6BF6 3C9B-3C9E 23B88-23BA7
    2AD5D-2AD5E 2DBDB-2DBDD 3069E-306A3 32A0F 6BF7-6BFD 3C9F-3CA3 23BA8-23BC4 2AD5F 2C1C2
    2DBDE-2DBDF 306A4-306A6 31962-31963 32A10 6BFE 3CA4-3CA9 23BC5-23BE2 2AD60 2C1C3-2C1C4
    2DBE0-2DBE2 306A7-306AE 31964 32A11-32A12 6BFF-6C02 23BE3-23BF7 2AD61 2C1C5 306AF-306B1 31965
    32A13 6C03-6C07 3CAA-3CAE 23BF8-23C09 2C1C6 2DBE3-2DBE5 306B2 6C08-6C0A 23C0A-23C19 2C1C7
    2DBE6-2DBE9 31966-31967 6C0B 3CAF-3CB0 23C1A-23C2A 2AD62 2C1C8 2DBEA 306B3-306B4 6C0C 3CB1
    23C2B-23C30 2DBEB 306B5 20AC8 23C31-23C35 2DBEC 23C36-23C3A 6C0D 23C3B-23C3E 2DBED 306B6
    23C3F-23C41 2DBEE 6C0E 3CB2 23C42-23C43 2DBEF 23C44",
    "
    6C0F-6C11 2B795 6C12 2B796 306B7 2C1C9 6C13 23C45-23C46 2C1CA-2C1CB 2DBF0 31968-31969
    23C47-23C4A 2C1CC 306B8 3CB3 2C1CD 306B9 23C4B-23C4E 2DBF1 23C4F-23C50 2C1CE 23C51-23C52 306BA
    23C53-23C54",
    "
    6C14-6C18 23C55-23C56 306BB 6C19-6C1A 23C57-23C58 32A14 6C1B-6C1D 3CB4 23C59-23C5B 2AD63 2C1CF
    2DBF2 306BC-306BD 32A15-32A18 6C1E-6C22 23C5C-23C60 2AD64 2C1D0 306BE-306BF 32A19 6C23-6C29
    23C61 2C1D1 306C0-306C1 32A1A-32A1C 6C2A-6C2B 3CB5 23C63 2AD65 306C2 3196A 32A1D 6C2C-6C30
    23C62 23C64-23C65 306C3 3196B 32A1E-32A22 6C31 23C66-23C68 2AD66 32A23-32A25 6C32-6C33 23C69
    2AD67 2C1D2 32A26-32A27 3CB6 23C6A-23C6B 2DBF3 32A28 3CB7 2DBF4 3196C 32A29-32A2A 9FEB
    23C6C-23C6D 2C1D3 23C6E 2DBF5 3196D 32A2B-32A2D 23C6F-23C70 32A2E-32A2F",
    "
    6C34-6C35 6C3A 23C71 306C4-306C5 6C36-6C39 3CB8 23C72-23C74 306C6 32A30-32A31 6C3B-6C3C
    6C3E-6C49 3CB9-3CBC 23C75-23C7F 2AD68 3196E-3196F 32A32-32A34 6C4A-6C64 6C77 3CBD-3CBF
    23C80-23C8D 2AD69-2AD6C 2C1D4-2C1D7 2DBF6-2DBF7 306C7-306CB 31970-31971 2ECC3 32A35-32A37
    6C65-6C76 6C78-6CAA 3CC0-3CCA 23C8E-23CB1 2AD6D-2AD70 2C1D8-2C1DA 2DBF8-2DBFC 306CC-306D1
    31972-3197B 2ECC4 32A38-32A3D 6CAB-6CD9 6CDB-6CF4 6CF6-6CFE 3CCB-3CD5 23CB2-23CE3 2AD71-2AD76
    2C1DB-2C1DF 2DBFD-2DC0B 306D2-306DD 3197C-31984 32A3E-32A3F 6CDA 6CFF-6D0C 6D0E-6D15 6D17-6D55
    3CD6-3CE3 23CE4-23D1D 2AD77-2AD7D 2C1E0-2C1E6 2DC0C-2DC16 306DE-306EA 31985-31998 2ECC5-2ECC6
    32A40-32A4B 6D0D 6D16 6D56-6D98 6D9A-6DA9 3CE4-3CF3 23D1E-23D76 23DDA 2AD7E-2AD8B 2B797
    2C1E7-2C1F4 2DC17-2DC27 306EB-306FC 31999-319AF 2ECC7 32A4C-32A53 6D99 6DAA-6E02 6E04-6E17 6E1A
    6E74 3CF4-3D0E 23D77-23D91 23D93-23DD9 23DDB-23DFB 23E0A 2AD8C-2AD96 2B798 2C1F5-2C204
    2DC28-2DC42 306FD-3070B 319B0-319C7 2ECC8-2ECCA 32A54-32A5E 6E03 6E18-6E19 6E1B-6E73 6E75-6E80
    6E82-6E8C 6ECB 6EDE 9FCC 9FFF 3D0F-3D24 23DFC-23E09 23E0B-23E5C 2AD97-2ADA9 2C205-2C215
    2DC43-2DC61 3070C-30724 319C8-319ED 2ECCB-2ECCF 32A5F-32A6D 6E81 6E8D-6ECA 6ECD-6ED9 6EDB-6EDD
    6EDF-6EEA 6F13 3D25-3D3B 23E5D-23ECC 26D36 2ADAA-2ADBE 2B799-2B79B 2C216-2C224 2DC62-2DC75
    30725-30730 319EE-31A0A 32A6E-32A76 6ECC 6EDA 6EEB-6F0A 6F0C-6F12 6F14-6F3C 6F3E-6F4D 3D3C-3D49
    23ECD-23EF3 23EF5-23F18 23F1A-23F42 2ADBF-2ADCA 2C225-2C231 2DC76-2DC91 30731-30742 31A0B-31A25
    2ECD0-2ECD3 32A77-32A83 6F0B 6F3D 6F4E-6F7F 6F81-6F98 6F9A-6F9D 6FD0 9FF0 3D4A-3D5C 23EF4
    23F43-23FA8 23FAA-23FBF 23FC1-23FC4 2ADCB-2ADDC 2B79C 2C232-2C247 2DC92-2DCAB 30743-30750
    31A26-31A41 2ECD4-2ECD5 32A84-32A8B 6F99 6F9E-6FCF 6FD1-6FD3 6FD6 3D5D-3D6E 23FA9 23FC5-24021
    2ADDD-2ADE7 2B79D 2C248-2C252 2DCAC-2DCBB 30751-30758 31A42-31A5F 2ECD6-2ECD8 32A8C-32A94 6F80
    6FD4-6FD5 6FD7-6FF2 6FF4-6FF8 3D6F-3D7C 23FC0 24023-2405D 2405F-24060 2ADE8-2ADF2 2C253-2C25A
    2DCBC-2DCCF 30759-30761 31A60-31A6F 32A95-32A9F 6FF9-7014 3D7D-3D83 2405E 24061-2409C
    2409E-240A0 240A2-240B2 2ADF3-2ADF9 2C25B-2C25E 2DCD0-2DCDB 30762-3076B 31A70-31A7A 2ECD9
    32AA0-32AA5 6FF3 7015-702E 3D84-3D8B 2409D 240A1 240B3-240E7 2ADFA-2ADFF 2B79E 2C25F-2C264
    2DCDC-2DCEB 3076C-3076F 31A7B-31A87 32AA6-32AAC 702F-7041 3D8C-3D91 240E8-2410D 2AE00-2AE02
    2C265-2C26A 2DCEC-2DCEF 30770-30771 31A88-31A8E 32AAD-32AB7 7042-704D 704F-7050 3D92-3D98 22307
    2410E-24135 2AE03-2AE07 2C26B-2C26D 2DCF0-2DCF6 30772 31A8F-31A92 32AB8-32ABE 7051-7058
    3D99-3D9A 24136-24149 2AE08-2AE09 2C26E-2C26F 2DCF7-2DCF9 30773-30774 31A93-31A95 32ABF-32AC1
    7059-705C 3D9B-3D9D 2414A-2415F 2AE0A-2AE0B 31A96-31A99 32AC2-32AC5 705D-7061 3D9E-3D9F
    24160-24168 2AE0C 2C270-2C271 2DCFA-2DCFD 31A9A-31A9D 7062-7063 24169-2416F 31A9E 32AC6-32AC7
    704E 7064-7066 3DA0 24170-24176 32AC8-32AC9 7067-7068 24177-2417B 31A9F-31AA0 32ACA-32ACB
    2417C-2417F 2C272 7069 30775 32ACC 706A 2DCFE 24180 2C273 24181",
    "
    706B-706D 24182 2AE0D 2DCFF 706E-7073 7087 3DA1-3DA2 24183-2418C 2DD00-2DD02 30776 31AA1-31AA3
    32ACD-32ACE 7074-7080 3DA3-3DA5 2418D-2419C 2AE0E-2AE10 2C274-2C27A 2DD03-2DD07 30777-3077C
    31AA4-31AA8 2ECDA-2ECDC 32ACF 7081-7086 7088-709E 3DA6-3DAA 2419D-241BB 2AE11-2AE17 2C27B-2C280
    2DD08-2DD11 3077D-30780 31AA9-31AB0 2ECDD-2ECE2 32AD0-32AD2 709F-70C3 3DAB-3DB2 241BC-241EE
    2AE18-2AE22 2C281-2C282 2DD12-2DD1A 30781-30787 31AB1-31ABC 2ECE3-2ECE4 32AD3-32AD6 70C4-70EE
    3DB3-3DB8 241EF-24224 2AE23-2AE2A 2B79F 2C283-2C288 2DD1B-2DD25 30788-3079E 31ABD-31AC5
    2ECE5-2ECE8 32AD7-32ADB 70EF-7113 7115-7118 3DB9-3DC1 24225-24261 2AE2B-2AE32 2B7A0 2C289-2C296
    2DD26-2DD37 3079F-307AC 31AC6-31AD0 2ECE9-2ECEA 32ADC-32AE5 7114 7119-7140 716E 3DC2-3DCD
    24262-242B1 2AE33-2AE43 2C297-2C2A8 2DD38-2DD48 307AD-307B9 31AD1-31ADF 2ECEB-2ECEE 32AE6-32AEF
    7141-715A 715C-716D 716F-7178 717A 3BA1 3DCE-3DDE 242B2-242F2 242F4-24306 2434F 2AE44-2AE51
    2C2A9-2C2B1 2DD49-2DD61 307BA-307C6 31AE0-31AEE 2ECEF-2ECF3 32AF0-32AF8 715B 7179 717B-7199
    71A6 84B8 3DDF-3DEA 24307-24331 24333-2434E 2AE52-2AE60 2B7A1 2C2B2-2C2BE 2DD62-2DD72
    307C7-307CF 31AEF-31AFC 2ECF4-2ECF5 32AF9-32AFE 719A-71A5 71A7-71B5 9ED9 9FA6 9FBD 3DEB-3DF2
    24332 24350-24368 2436A-2437F 24381 24383-2439C 2AE61-2AE69 2C2BF-2C2C4 2DD73-2DD7C 307D0-307D8
    31AFD-31B0E 2ECF6-2ECF7 32AFF-32B03 71B6-71DE 3DF3-3DFD 24369 2439D-243DF 243E1-243F4
    2AE6A-2AE73 2C2C5-2C2CC 2DD7D-2DD8B 307D9-307E2 31B0F-31B16 32B04-32B0D 71DF-71F7 9FEA
    3DFE-3E03 243F5-24423 2AE74-2AE7B 2C2CD-2C2D0 2DD8C-2DD99 307E3-307E9 31B17-31B1C 2ECF8-2ECF9
    32B0E-32B1E 71F8-7203 3E04-3E05 24424-24442 24444-24451 269A8 2AE7C-2AE80 2C2D1-2C2D3
    2DD9A-2DDA1 307EA-307EF 31B1D-31B23 32B1F-32B25 7204-720A 720C-720E 7215 3E06-3E07 3E09
    24452-24472 2AE81-2AE82 2C2D4-2C2D8 2DDA2-2DDA3 307F0-307F3 31B24-31B27 32B26-32B2B 720B
    720F-7214 7216-7218 3E08 3E0A-3E0C 24473-244A0 244A8 2AE83-2AE85 2C2D9-2C2DD 2DDA4-2DDA6
    307F4-307F9 31B28-31B2A 32B2C-32B30 7219-721B 3E0D 244A1-244A7 244AA-244B9 307FA 31B2B-31B2C
    32B31-32B33 721C-7220 3E0E 244A9 244BA-244BB 244BD-244C7 2AE86-2AE87 2DDA7 31B2D 7221-7222
    3E0F-3E10 244BC 244C8-244CE 244D0-244D6 2AE88 2C2DE 31B2E-31B2F 32B34 7223 244D7-244DB 2AE89
    2DDA8-2DDA9 307FB 32B35-32B36 7224-7226 244DC-244DE 244E0-244E3 2AE8A-2AE8B 2C2DF-2C2E0
    31B30-31B31 32B37 3E11 244E4-244E5 31B32 32B38 244E6-244E9 2AE8C 32B39 7227 244EA 244EC
    2C2E1-2C2E2 7228 244EB 244ED 7229 244EE 31B33 32B3A 2C2E3",
    "
    722A-722B 244EF-244F1 31B34 244F2-244F5 2AE8D 31B35-31B36 722C-722D 3E12-3E13 244F6-244FC
    2C2E4-2C2E5 2DDAA 307FC 31B37 722E-7230 244FD-2450B 2AE8E 2C2E6 2DDAB 307FD 31B38-31B39 7231
    2450C-2450F 2C2E7-2C2E8 2DDAC-2DDAF 307FE-307FF 32B3B 3E14 24510-24513 2AE8F 2C2E9-2C2EA 2DDB0
    30800 31B3A-31B3D 7232 24514-24516 24518-2451B 2AE90-2AE93 2C2EB-2C2EC 2DDB1 30801-30804
    31B3E-31B3F 32B3C-32B3D 2451C-24521 2AE94-2AE95 2C2ED-2C2EE 2DDB2-2DDB3 30805-30806 31B40-31B44
    7233 3E15 24522-24526 2C2EF-2C2F0 2DDB4-2DDB5 5655 7234 24527-2452D 2AE96-2AE97 2C2F1-2C2F2
    2DDB6 30807 31B45 2452E-24531 2C2F3-2C2F4 2DDB7-2DDB8 30808 31B46 24532-24538 2453C 2AE98-2AE99
    2C2F5-2C2F6 31B47 7235 24539 2453B 2453D-2453E 2DDB9 31B48 32B3E 2453A 2453F-24540 2C2F7 31B49
    24542-24547 2C2F8-2C2F9 24548-2454B 30809-3080A 2454C-2454D 32B3F 2C2FA 2AE9A",
    "
    7236-7237 2DDBA 32B40-32B41 2454E-2454F 2C2FB 2DDBB 7238 24550-24551 32B42 3E16 24552
    3080B-3080C 32B43 7239 3E17 24553-24554 2AE9B 3E18 24555 2AE9C 2DDBC 31B4A 24556-24557 3080D
    32B44 723A 3E19 24558-2455A 2C2FC 2455B 2DDBD",
    "
    723B 2455C 3E1A 2455D 2AE9D 723C 2455E-24561 723D 24562-24565 723E 2039B 24566-24569 2C2FD
    31B4B 20442 21109 2C2FE 31B4C 4E2C",
    "
    723F 2456A-2456D 32B45 2456E 2DDBE-2DDBF 30817 7240 2456F-24571 2DDC0-2DDC1 3080E-30810
    31B4D-31B4E 32B46 7241 3E1B 24572-24575 2C2FF-2C301 2DDC2-2DDC3 30811 31B4F 32B47 7242
    24576-2457A 2DDC4-2DDC5 30812 2457B-24583 2AE9E 2C302 2DDC6 30813-30814 31B50 31B57 3E1C
    24584-2458B 2AE9F 2C303-2C308 30815 31B51-31B53 31B58 7243 2458C-2458E 32B48 30818 7244
    2458F-24592 2C309 32B49-32B4A 7245 24593-24595 2AEA0 2C30A 30816 31B54 2C312 24596-2459B
    2C30B-2C30D 7246 2459C-2459F 2DDC7 31B55 2AEA1 2C30E 2DDC8 245A0-245A1 2C30F 31B56 245A2
    2C310-2C311 245A3-245A7",
    "
    7247 245A8-245AB 31B59 7248 3E1D-3E1E 245AC-245B0 2C313-2C314 2DDC9 30819-3081A 32B4B 7249-724A
    245B1-245B9 2DDCA-2DDCB 3081B-3081D 31B5A 32B4C 3E1F-3E21 245BA-245BF 2AEA2 31B5B 245C0-245C6
    2AEA3-2AEA4 2C315 2DDCC 3081E 724B-724D 245C7-245D7 2AEA5 3081F 31B5C-31B5E 724E-7252
    245D8-245E1 32B4D-32B4E 7253-7254 3E22 245E2-245E7 31B5F 32B4F 7255-7257 245E8-245F2 31B60
    245F3-245F9 2AEA6 31B61 3E23 245FA-245FE 2DDCD 32B50 3E24 245FF-24602 2DDCE 32B51 7258 24603
    3E25 24604 2C316",
    "
    7259 3E26 31B62 24605 30820 24606 2AEA7 2DDCF 31B63 32B52-32B53 24607 2DDD0 30821 32B54 3E27
    24608-24609 2C317 2DDD1 30822-30823 31B64-31B65 2460A-2460B 30824 31B66 32B55-32B56 725A
    2460C-2460F 2AEA8 2DDD2 32B57-32B58 24610-24611 2C318 24612 31B67 32B59 24613 31B68 30825",
    "
    725B-725C 24614 2DDD3 725D-725F 3E28 24615-24617 2C319 2DDD4 30826 7260-7264 3E29-3E2A
    24618-2461B 2AEA9 2C31A 30827-30828 2ECFA 32B5A 7265-726C 3E2B-3E2F 2461C-24637 2C31B-2C31C
    2DDD5-2DDD9 30829-3082C 31B69 2ECFB 32B5B-32B5D 726D-7275 3E30-3E34 24638-24650 2AEAA-2AEAB
    2B7A2 2C31D 2DDDA-2DDDD 3082D-30833 31B6A-31B6C 32B5E 7276-727A 3E35-3E38 24651-2465A
    2AEAC-2AEAE 2C31E-2C31F 2DDDE-2DDDF 30834 31B6D-31B6E 32B5F 727B-727F 7281 3E39-3E40
    2465B-2466E 2C320 2DDE0-2DDE3 30835 7280 7282-728B 3E41-3E43 2466F-2468C 2AEAF 2C321-2C322
    2DDE4-2DDEC 30836-30837 2ECFC 32B60-32B62 728C-7291 3E45-3E48 2468D-2469B 2469D-246A8 246BF
    2AEB0 2C323-2C325 2DDED 30838 32B63-32B64 7292-7297 3E44 3E49-3E4B 246A9-246BE 246C0-246C9
    2AEB1-2AEB3 2C326-2C327 2DDEE-2DDEF 30839-3083A 32B65 7298-729B 3E4C-3E50 246CA-246D6
    246D8-246E0 2AEB4 2C328 2DDF0-2DDF3 3083B 32B66-32B68 729C-729F 3E51-3E53 246E1-246EE 2AEB5
    2DDF4-2DDF5 3083C 31B6F 72A0 3E54-3E56 246EF-246F8 31B70 32B69 3E57-3E58 246F9-246FA 31B71
    72A1-72A6 3E59 246FB-24701 2DDF6 31B72 72A7-72A8 24702-24706 3E5A 24707-2470B 2AEB6 32B6A 72A9
    3E5B 2470C-24713 2DDF7 72AA 24714-24718 72AB 24719",
    "
    72AC-72AE 215DC 2471A 2C329 72AF-72B0 2471B-24720 2DDF8 32B6B-32B6C 72B1-72B8 24721-2472E
    2C32A-2C32B 2DDF9 3083D-3083E 32B6D 72B9-72C8 3E5C-3E60 2472F-2474E 2476E 2AEB7 2DDFA-2DDFE
    3083F-30841 31B73-31B74 32B6E-32B71 72C9-72DE 3E61-3E6A 2474F-2476D 2AEB8-2AEB9 2B7A3
    2C32C-2C32D 2DDFF-2DE03 30842-30848 31B75-31B78 32B72-32B7A 72DF-72F2 3E6B-3E70 2476F-24774
    24776-24798 247A3 2AEBA-2AEBB 2C32E-2C331 2DE04-2DE09 30849-3084D 31B79-31B7B 2ECFD 32B7B-32B7F
    72F3-7303 3E71-3E78 24775 24799-247A2 247A4-247C2 2AEBC-2AEBD 2C332-2C334 2DE0A-2DE11
    3084E-30852 31B7C-31B7E 2ECFE 32B80-32B8A 7304-7321 732A 3E79-3E80 247C3-247DB 2AEBE-2AEC1
    2B7A4 2C335-2C337 2DE12-2DE16 30853-3085D 31B7F-31B87 32B8B-32B95 7322-7329 732B-7339 7341
    3E81-3E86 247DC-247F4 247F6-2480C 24822 2AEC2-2AEC5 2C338-2C33C 2DE17-2DE20 3085E-30860
    31B88-31B91 32B96-32BA1 733A-7340 7342-7343 7345-734A 3E87-3E8D 2480D-24821 24823-24838
    2AEC6-2AEC7 2C33D-2C340 2CEAA 2DE21 30861 31B92-31B98 32BA2-32BAF 7344 734C-7355 3E8E-3E93
    24839-24862 2AEC8 2C341-2C345 2DE22-2DE27 30862-30865 31B99-31BA1 32BB0-32BB3 734B 7356-7364
    3E94-3E99 24863-2488B 2AEC9 2C346-2C347 2DE28-2DE2C 30866-30867 31BA2-31BA5 2ECFF 32BB4-32BBD
    7365-736D 3E9A-3E9C 2488C-248A5 2C348-2C34A 2DE2D 31BA6-31BA9 32BBE-32BC0 736E-7374 3E9D-3E9F
    248A6-248B3 2AECA 2C34B 2DE2E-2DE2F 31BAA-31BAB 32BC1-32BC8 7375-7378 3EA0 248B4-248C4 2AECB
    2C34C 2DE30-2DE31 30868 31BAC-31BAD 32BC9-32BCE 7379-737B 3EA1-3EA2 248C5-248CC 2AECC
    30869-3086B 32BCF-32BD1 737C-737D 3EA3-3EA6 248CD-248D0 2C34D 2DE32 31BAE 32BD2 737E-737F
    248D1-248D6 2DE33 3086C 31BAF 32BD3 7380 248D7-248DA 32BD4-32BD5 7381-7383 248DB-248DE 32BD6
    3EA7 248DF-248E2 2C34E 31BB0-31BB1 248E3 32BD7-32BD9 248E4 2DE34",
    "
    7384 248E5 31BB2 7385 248E6 32BDA 7386-7388 248E7-248E8 2C34F",
    "
    7389 738B 248E9 738A 738C-7391 3EA8-3EAB 248EA-248EC 2AECD 2DE35 3086D-3086E 7392-739B
    3EAC-3EAF 248ED-248F8 2C350-2C351 2ED00-2ED03 739C-73B1 9FF1 3EB0-3EB6 248F9-2490E 2AECE-2AED4
    2B7A5 2C352-2C356 2DE36-2DE3B 3086F-30873 31BB3-31BB6 2ED04-2ED08 32BDB-32BDC 73B2-73D1
    3EB7-3EBE 2490F-24934 2AED5-2AED6 2C357-2C35D 2DE3C-2DE43 30874-30876 31BB7-31BB9 2ED09-2ED0E
    32BDD 73D2-73F2 7409 3EBF-3EC8 20D26 24935-24955 2AED7-2AEDF 2B73B 2B7A6 2C35E-2C364
    2DE44-2DE4B 30877-3087C 31BBA-31BBD 2ED0F-2ED17 73F3-73F6 73F8-7408 740A-7413 3EC9-3ED0
    24956-2497A 2AEE0-2AEE5 2C365-2C369 2DE4C-2DE54 3087D-30880 31BBE-31BC1 2ED18-2ED1E 32BDE-32BDF
    73F7 7414-741D 741F-743C 3ED1-3EDC 2497B-249AE 2AEE6-2AEF2 2B7A7 2C36A-2C373 2DE55-2DE62
    30881-30884 31BC2-31BC9 2ED1F-2ED25 32BE0-32BE4 741E 743D-745F 3EDD-3EE6 249AF-249E9
    2AEF3-2AF02 2C374-2C37A 2DE63-2DE6A 30885-30888 31BCA-31BCC 2ED26-2ED28 32BE5-32BEA 7460-7478
    3EE7-3EEA 249EA-24A13 2A6DE 2AF03-2AF0F 2B7A8 2C37B-2C384 2DE6B-2DE6E 30889-3088A 31BCD-31BDB
    2ED29-2ED2B 32BEB-32BEF 7479-748C 748E 7493 3EEB-3EF4 24A14-24A3F 24A41 2AF10-2AF16 2B7A9
    2C385-2C38A 2DE6F-2DE75 3088B-3088D 31BDC-31BE2 2ED2C-2ED30 32BF0-32BF5 748D 748F-7492
    7494-74A1 74A3-74A4 3EF5-3EFC 24A40 24A42-24A6A 2AF17-2AF20 2C38B-2C392 2DE76-2DE7F 3088E-30892
    31BE3-31BE8 2ED31-2ED35 32BF6-32BFF 74A2 74A5-74B4 3EFD-3F02 24A6B-24A8A 2AF21-2AF26
    2C393-2C396 2DE80-2DE88 30893-30894 31BE9-31BF3 2ED36 32C00-32C07 74B5-74C2 24A8B-24AA8 24AB4
    2AF27-2AF28 2C397-2C399 2DE89-2DE8C 31BF4-31BFB 2ED37 32C08-32C0B 74C3-74CB 3F03-3F06
    24AA9-24AB3 24AB5-24ABD 2AF29-2AF2B 2C39A 2DE8D-2DE90 30895-30896 31BFC-31BFF 2ED38 32C0C-32C0D
    74CC-74D2 3F07 24ABE-24AC8 2AF2C-2AF2F 2C39B-2C39D 2DE91 30897-30898 31C00-31C02 2ED39-2ED3A
    32C0E-32C0F 74D3-74D6 24AC9-24AD3 2AF30 2DE92-2DE93 30899 31C03 32C10-32C13 74D7-74D9
    24AD4-24AD8 2DE94-2DE96 3089A 31C04 74DA 3F08 24AD9-24ADF 2AF31 74DB 24AE0 2AF32 2C39E 32C14
    24AE2-24AE7 2C39F-2C3A0 24AE8 2C3A1 24AE9 32C15",
    "
    74DC 3089B 74DD 24AEA 2AF33 3F09-3F0A 24AEB-24AEF 2AF34 2DE97 74DE-74DF 3F0B-3F0C 24AF0-24AF4
    2C3A2-2C3A3 2DE98 3089C 2ED3B 32C16 74E0 3F0D-3F0E 24AF5-24AF9 3F0F 24AFA-24B00 3089D 31C05
    74E1 24B01-24B06 2AF35 3089E-3089F 3F10-3F12 24B08-24B0C 31C06 3F13-3F14 24B07 24B0D
    24B10-24B15 32C17 74E2 24B0E-24B0F 24B16 2DE99 24B17 32C18 3F15 24B18-24B1A 2DE9A 308A0 74E3
    24B1B-24B1D 74E4 24B1E-24B1F 308A1 24B20-24B21 74E5 24B22 3F16 24B23-24B24 2CEAC 31C07 24B25",
    "
    74E6 2DE9B-2DE9C 74E7 3F17 24B26-24B27 2C3A4 74E8-74E9 3F18-3F19 24B28-24B2B 2AF36 2C3A5 32C19
    74EA-74F2 3F1A-3F1B 24B2C-24B32 2AF37-2AF38 2C3A6-2C3A7 2DE9D 308A2 32C1A 74F3-74F5 3F1C-3F20
    24B33-24B3D 2AF39 31C08 74F6-74F8 3F21-3F26 24B3E-24B4B 2C3A8-2C3AB 2DE9E-2DEA1 31C09-31C0B
    32C1B-32C1C 74F9-74FC 3F27-3F2A 24B4C-24B5A 2DEA2 31C0C 32C1D-32C1E 74FD-7501 3F2B-3F31
    24B5B-24B66 24B72 24B96 2AF3A-2AF3B 2C3AC-2C3AD 2DEA3 308A3-308A4 32C1F-32C20 7502-7506
    3F32-3F37 24B67-24B71 24B73-24B78 2AF3C 2C3AE 308A5-308A6 2ED3C 7507-7509 3F38-3F3A 20AB9
    24B79-24B84 2AF3D-2AF3E 2C3AF 2DEA4 31C0D 750A-750E 3F3B-3F3E 24B85-24B8D 31C0E-31C0F
    32C21-32C22 750F-7512 3F3F-3F45 24B8E-24B95 24B97 31C10 32C23 7513-7515 3F46-3F47 24B98-24B9F
    2DEA5-2DEA6 31C11-31C12 32C24 7516 3F48-3F49 24BA0-24BA1 2C3B0 24BA2-24BA5 2DEA7-2DEA8 7517
    24BA6-24BAC 3F4A 24BAD-24BAF 2AF3F 2DEA9 31C13 24BB0-24BB5 31C14 3F4B 24BB6 3F4C 24BB7 31C15
    24BB8-24BB9",
    "
    7518 24BBA 2DEAA-2DEAB 7519 24BBB-24BC0 751A 24BC1-24BC4 2B7AA 308A7-308A8 3F4D 24BC5 751B-751C
    2DEAC 308A9 31C16 24BC6 2AF40 308AA 751D-751E 3F4E 24BC7 2C3B1 2DEAD 3F4F 24BC8 2C3B2
    2DEAE-2DEAF 3F50 24BC9-24BCA 2DEB0 24BCB-24BCC 3F51 24BCD-24BCE 24BD0-24BD1 32C25-32C26 24BD2",
    "
    751F 24BD3-24BD4 2AF41 32C27 24BD5-24BD7 2DEB1-2DEB3 7520 24BD8-24BDE 2C3B3 308AB 7521 24BDF
    2DEB4 308AC 31C17 32C28-32C2A 7522-7523 24BE0-24BE5 2AF42 2C3B4-2C3B5 308AD 32C2B-32C2E
    7524-7526 3F52 24BE6-24BEB 2C3B6 2DEB5 308AE 31C18 32C2F-32C30 24BEC-24BF1 2AF43-2AF45
    2C3B7-2C3B9 31C19-31C1A 32C31-32C33 7527 24BF2-24BF4 2C3BA-2C3BC 308AF 3F53 24BF5 3F54
    24BF6-24BFA 2DEB6-2DEB7 24BFB-24BFC 24BFE-24BFF 31C1B 24C00-24C02 32C34",
    "
    7528-7529 31C1C 752A 24C03 2AF46 752B-752C 24C04 200B5 200F0 21DA4 24C05-24C06 2C3BD-2C3BE
    2DEB8 752D-752E 2DEB9 308B0 20CEB 24C07 308B1-308B2 32C35 24C08 2DEBA 308B3 31C1D-31C1E 752F
    24C09 2DEBB 31C1F 24C0A-24C0C 31C20-31C21 2DEBC 31C22 24C0D-24C0E 31C23 24C0F 24C11 24C10",
    "
    7530-7535 24C12 7536 24C13-24C14 2DEBD 308B4 31C24 2ED3D 32C36 7537-753A 753C 3F55-3F57 200EB
    24C15-24C1C 2AF47 2C3BF 308B5-308B7 31C25 32C37-32C38 753B 753D-7545 211CD 22456 24C1D-24C28
    2AF48 2C3C0 308B8 7546-7553 3F58-3F5A 24C29-24C4B 2AF49-2AF4C 2C3C1 2DEBE-2DEC6 308B9-308BE
    31C26-31C2D 32C39-32C3A 7554-755F 3F5B-3F5C 24C4C-24C60 24C62-24C64 2AF4D-2AF50 2C3C2-2C3C3
    2DEC7-2DECB 308BF-308C5 31C2E-31C2F 2ED3E-2ED3F 32C3B-32C3C 7561-7567 7569 7570 3F5D-3F5E
    24C65-24C7A 2AF51-2AF52 2B7AB 2C3C4-2C3C6 2DECC-2DED3 308C6-308CA 31C30-31C35 2ED40-2ED41 32C3D
    756A-756F 7572-7574 3F5F-3F60 24C7B-24C90 2AF53-2AF57 2C3C7-2C3CA 2DED4-2DEDA 308CB 31C36-31C37
    2ED42 32C3E-32C40 7575-757A 3F61-3F64 24C91-24CAA 2AF58-2AF5A 2C3CB 2DEDB-2DEDF 308CC
    31C38-31C39 32C41-32C43 7571 757B-757D 3F65 24CAB-24CB6 2AF5B-2AF5C 2DEE0-2DEE4 308CD-308CE
    31C3A-31C3C 32C44-32C45 757E-757F 3F66-3F68 24CB7-24CC7 2AF5D-2AF5E 2C3CC-2C3D2 2DEE5-2DEE6
    308CF-308D1 31C3D-31C3E 7580-7582 3F69 24CC8-24CCE 24CD0-24CD1 2AF5F-2AF61 2C3D3-2C3D4
    2DEE7-2DEEE 308D2-308D3 31C3F 32C46-32C48 7583-7584 3F6A 24CD2-24CDA 24CDC-24CE3 2AF62 2C3D5
    2DEEF-2DEF1 308D4-308DA 31C40 2ED43 7585 3F6B-3F6C 24CE4-24CE8 28434 2AF63 2C3D6-2C3D7
    2DEF2-2DEF3 32C49-32C4C 7586-7587 3F6D 24CE9-24CF0 24CF2 2DEF4-2DEF5 308DB 31C41-31C43 7588
    3F6E 24CF1 24CF3-24CF8 2AF64 2DEF6-2DEF7 308DC 31C44 24CF9-24CFE 2AF65-2AF66 2DEF8 308DD 32C4D
    7589-758A 24CFF-24D01 2DEF9 32C4E 3F6F 24D02-24D04 2C3D8 2DEFA 31C45 24D05-24D06 2DEFB
    24D07-24D0D 2DEFC 32C4F 24D0E 2DEFD 308DE 24D0F 308DF 24D10-24D12 31C46",
    "
    758B 24D13-24D15 2DEFE 758C 24D16 24D18 2DEFF 758D 24D17 2DF00-2DF01 308E0 31C47 758E-758F
    24D19-24D1B 3F70 24D1C-24D1D 2C3D9 2DF02 308E1 31C48 7590-7591 2DF03-2DF04 24D1E 2DF05
    24D1F-24D22 32C50-32C51 2AF67 24D23-24D24",
    "
    7592 24D25 2C3DA 7593-7597 3F71-3F72 24D26-24D2E 7598-75A0 3F73-3F76 24D2F-24D36 2C3DB-2C3DC
    31C49-31C4A 75A1-75AF 75BA 3F77-3F7C 24D37-24D56 2AF68-2AF6B 2C3DD-2C3E0 2DF06-2DF07
    308E2-308E8 31C4B-31C4C 32C52 75B0-75B9 75BB-75C9 3F7D-3F89 24D57-24D76 2AF6C-2AF6E 2B7AC
    2C3E1-2C3E6 2DF08-2DF09 308E9-308EA 31C4D-31C51 32C53-32C54 75CA-75D6 3F8A-3F92 24D77-24D94
    2AF6F 2C3E7-2C3EC 2DF0A-2DF0D 308EB-308EC 31C52-31C54 32C55-32C59 75D7-75EB 3F93-3FA1
    24D95-24DC1 2AF70-2AF71 2C3ED-2C3F1 2DF0E-2DF12 308ED-308EF 31C55-31C56 32C5A-32C5F 75EC-7606
    3FA2-3FA9 24DC2-24DFA 2AF72 2C3F2-2C3F5 2DF13-2DF16 308F0-308F4 31C57 32C60-32C61 7607-7618
    761F 7627 3FAA-3FB5 24DFB-24E29 2AF73-2AF75 2C3F6-2C3F8 2DF17-2DF1D 308F5-308F9 31C58-31C5C
    32C62-32C66 7619-761E 7620-7626 7628-762B 3FB6-3FC1 24E2A-24E5C 2AF76-2AF77 2B7AD 2C3F9 2DF1E
    308FA-308FD 31C5D-31C60 32C67-32C69 762C-763F 764A 3FC2-3FC8 24E5D-24E82 24E9E 2C3FA-2C3FB
    2DF1F-2DF27 308FE-30900 31C61-31C62 32C6A-32C6D 7640-7649 764B-764E 3FC9-3FCA 24E83-24E9D
    24E9F-24EB9 2AF78-2AF79 2C3FC-2C3FD 2DF28-2DF2D 30901-30904 31C63-31C66 32C6E-32C72 764F-765E
    3FCB-3FD0 24EBA-24ED4 2C3FE 2DF2E-2DF2F 30905-30907 31C67-31C6A 32C73-32C76 765F-7661 7663
    3FD1-3FD3 24ED5-24EEF 2AF7A 2DF30-2DF34 30908 31C6B-31C6C 32C77-32C78 7662 7664-7666 3FD4
    24EF0-24EFF 2DF35-2DF37 30909 31C6D-31C6F 32C79-32C7A 7667-766B 3FD5-3FD7 24F00-24F0A
    2C3FF-2C400 2DF38 766C-766E 3FD8 24F0B-24F0F 2C401 3090A 31C70-31C71 766F-7670 3FD9 24F10-24F17
    31C72 7671-7672 3FDA-3FDB 24F18-24F1B 2DF39-2DF3A 32C7B 24F1C-24F1E 32C7C 7673 24F1F-24F21
    31C73 24F22 2DF3B 32C7D 7674 3FDC 24F23 2DF3C 24F24 7675 3090B",
    "
    7676 2DF3D 24F25-24F26 31C74 32C7E 7677 3090C-3090D 7678-767A 24F27-24F28 2DF3E-2DF3F 3090E
    31C75-31C76 24F29-24F2B 3090F 24F2C-24F2E 2DF40 767B-767C 24F2F-24F32 2C402 2DF41 30910
    31C77-31C78 24F33-24F35 2DF42 30911 24F36 2DF43 24F37-24F38 2DF44 31C79 24F39-24F3A 24F3C 2DF45
    32C7F 24F3B",
    "
    767D-767F 24F3D-24F3E 2C403 30912 7680-7683 3FDD 24F3F-24F41 2DF46 31C7A 7684 24F42-24F47
    2DF47-2DF4A 30913-30914 31C7B 7685-7688 3FDE 24F48-24F57 2AF7B-2AF7C 2C404-2C405 2DF4B-2DF4D
    2ED44 7560 7689-768D 3FDF 24F58-24F64 2AF7D 2B7AE 2C406-2C407 2DF4E-2DF53 30915 768E-7691
    3FE0-3FE1 24F65-24F6B 2C408-2C409 2DF54-2DF57 30916-30918 32C80 7692-7696 2031F 24F6C-24F78
    2AF7E-2AF7F 2C40A 2DF58 30919 32C81 7697-7699 3FE2 24F79-24F87 2AF80-2AF81 2C40B-2C40E
    2DF59-2DF5C 3091A-3091C 32C82 3FE3-3FE4 24F88-24F93 2AF82-2AF83 2C40F-2C410 2DF5D-2DF5E 32C83
    769A-769E 3FE5 24F94-24F9A 2AF84 2DF5F 31C7C-31C7D 32C84 769F-76A1 3FE6 24F9B-24F9F 2DF60
    76A2-76A5 24FA0-24FA6 3091D 76A6-76A8 24FA7-24FAA 2DF61-2DF62 76A9 3FE7 24FAB-24FB3 76AA-76AB
    24FB4-24FB7 31C7E 76AC 3FE8 24FB8-24FBA 2AF85 24FBB-24FBD 76AD 24FBE-24FBF 2C411 24FC0-24FC3
    3FE9 24FC4-24FC5",
    "
    76AE 24FC6-24FC7 3091E 31C7F 76AF 3FEA 24FC8-24FCD 2AF86 31C80 3FEB-3FEC 24FCE-24FD4 2AF87
    2C412 76B0-76B1 3FED-3FEE 24FD5-24FDE 2C413-2C414 2DF63-2DF64 3091F-30922 31C81-31C82
    32C85-32C86 76B2 3FEF-3FF0 24FDF-24FE6 2DF65-2DF6A 30923-30927 31C83-31C84 32C87 76B3-76B4 3FF1
    24FE7-24FEE 24FF0-24FF2 2C415 2DF6B 30928-3092A 32C88 76B5 9FBE 3FF2-3FF3 24FEF 24FF3-24FFF
    2DF6C-2DF6E 3092B-3092E 32C89 76B6-76B9 3FF4-3FF5 25000-2500C 2AF88-2AF89 2C416 2DF6F-2DF70
    3092F 31C85 32C8A 76BA 3FF6-3FF7 2500D-25013 2DF71-2DF73 30930-30931 76BB 3FF8 25014-2501E
    2DF74-2DF75 31C86 32C8B 76BC 2501F-25021 2DF76 32C8C 76BD 3FF9 25022-2502A 2DF77 31C87
    32C8D-32C8E 2502B-2502E 2DF78-2DF79 76BE 3FFA 2502F-25033 31C88 25034-25038 2DF7A 31C89
    25039-2503A 2DF7B 31C8A",
    "
    76BF-76C1 2503F-25040 30932-30934 76C2 3FFB 25041-25045 2B7AF 2C417 30935 76C3-76C8 3FFC-3FFD
    25046-2504D 2AF8A-2AF8B 2B7B0 2C418-2C419 2DF7C 31C8B-31C8D 32C8F 76C9-76D1 3FFE-4000
    2504E-2505D 2506B 2AF8C-2AF8D 2C41A-2C41B 2DF7D-2DF7F 30936-30939 31C8E-31C8F 32C90 76D2-76D8
    76DB 4001-4002 2505E-2506A 2AF8E 2C41C-2C41E 2DF80-2DF81 31C90-31C92 76D9-76DA 76DC 4003
    2506C-25076 2AF8F-2AF90 2C41F-2C421 2DF82 3093A-3093B 32C91 76DD-76DF 4004-4005 25077-25082
    2AF91-2AF92 2B7B1 2C422-2C427 2DF83-2DF86 3093C 76E0-76E3 4006 25083-25086 2AF93-2AF94
    2C428-2C42F 2DF87-2DF8B 3093D-3093F 32C92 76E4 25087-25092 2AF95 2C430 2DF8C-2DF8F 30940-30942
    32C93 76E5-76E7 4007-4008 25093-250A4 2AF96 2C431 2DF90 30943-30945 31C93-31C97 32C94-32C95
    76E8-76EA 4009 250A5-250B2 250B4-250B7 2AF97-2AF98 2C432-2C435 2DF91 31C98-31C99 76EB-76EC
    250B8-250BA 250BC-250C0 2AF99 2C436-2C437 2DF92 30946 31C9A-31C9D 32C96-32C97 400A 250BB
    250C1-250C6 2AF9A 2C438-2C43C 2DF93-2DF94 30947 76ED 250C7-250D1 2C43D-2C43E 400B 250D2 26AB9
    2AF9B 2C43F-2C440 2DF95 30948 31C9E-31C9F 400C 250D3-250D7 2AF9C 2C441-2C442 30949 250D8-250D9
    250DE 2DF96 31CA0 32C98 250DA-250DD 2AF9D 31CA1-31CA2 250DF-250E0 2C443-2C444 32C99 250E1 3094A
    400D 2AF9E 250E2-250E3",
    "
    76EE 250E4-250E5 76EF 400E-400F 250E6-250F1 2DF97-2DF99 3094B 31CA3-31CA4 32C9A 76F0-76F5
    4010-4014 250F2-25102 2AF9F-2AFA0 2C445 2DF9A-2DF9D 3094C-30950 31CA5 2ED45 76F6-770D 4015-401E
    25103-25130 2A6DF 2AFA1-2AFA3 2C446-2C447 2DF9E-2DFA5 30951-30954 31CA6-31CAB 2ED46 32C9B-32C9E
    770E-772C 773F 401F-4026 25131-25159 2AFA4-2AFA7 2B7B2 2C448-2C44F 2DFA6-2DFAA 30955-3095C
    31CAC-31CB0 32C9F-32CA0 772D-773E 7741 4027-402E 2032A 2515A-25189 2AFA8-2AFAA 2B7B3
    2C450-2C455 2DFAB-2DFB2 3095D-30961 31CB1-31CB6 32CA1 7740 7742-7751 9FC3 402F-4040 2518A-251C4
    251C6-251C8 251EB 2AFAB-2AFAC 2C456-2C457 2DFB3-2DFB8 30962-30969 31CB7-31CBC 32CA2-32CA5
    7752-7760 7762-776D 4041-4049 22C3F 22FA5 23AAD 251C5 251C9-251EA 251EC-251F3 251F5-25201
    2AFAD-2AFB0 2C458-2C45B 2DFB9-2DFC2 3096A-30974 31CBD-31CC2 2ED47-2ED48 32CA6-32CAA 7761
    776E-7786 404A-4056 25202-2523B 2AFB1-2AFB4 2C45C-2C45D 2DFC3-2DFCF 30975-30977 31CC3-31CC4
    32CAB 7787-7793 4057-4061 2523C-25273 25287 2AFB5-2AFB8 2C45E-2C463 2DFD0-2DFD4 30978-3097D
    31CC5-31CC6 7794-77A3 4062-406A 25274-25286 25288-252A9 252D5-252D6 2AFB9-2AFBB 2C464-2C467
    2DFD5-2DFDC 3097E-30981 31CC7-31CC8 32CAC-32CAE 77A4-77B7 406B-4073 252AA-252D4 252D7
    2AFBC-2AFC0 2C468-2C469 2DFDD-2DFE1 30982-30983 31CC9 32CAF-32CB0 77B8-77C2 4074-407A
    252D8-252FE 2DFE2-2DFE8 30984-30986 31CCA-31CCF 32CB1-32CB5 77C3-77CA 252FF-25314 25316-25319
    2AFC1 2C46A 2DFE9-2DFED 30987-30988 31CD0-31CD5 77CB-77CF 407B-407E 2531A-2532C 2AFC2 30989
    31CD6-31CD7 32CB6-32CB9 77D0-77D3 407F-4080 2532D-25339 25342 2AFC3-2AFC4 2C46B 2DFEE-2DFF1
    3098A 31CD8-31CD9 32CBA-32CBB 4081 2533A-25341 25343 25345-25347 2DFF2 3098B 77D4 4082-4083
    25348-2534E 31CDA 77D5 77D7 2534F-25352 2DFF3-2DFF4 32CBC 77D8-77D9 4084 25353 2C46C 77D6 77DA
    25354-2535C 2AFC5 32CBD 4085 3098C",
    "
    77DB 2DFF5 2535D 2DFF6 3098D 4086 2535E 2C46D 77DC 4087 2535F-25360 2AFC6 3098E 77DD
    25361-25366 2DFF7-2DFF8 3098F 31CDB 4088 25367-25369 2DFF9-2DFFA 30990 77DE-77DF 2536A-25371
    2AFC7 31CDC 77E0 20362 25372-25375 2C46E 30991 4089 25376-25381 2C46F 25382-25389 2DFFB
    2538A-2538D 2DFFC 32CBE 408A-408C 2538F-25392 2538E 25393-25395 32CBF 25396-2539C 408D
    2539E-253A0 2539D 253A1-253A3 408E 77E1 32CC0 253A4-253A5",
    "
    77E2 30992 77E3 253A6-253A7 2DFFD 30993 77E4-77E5 253A8 77E6-77E8 253A9-253AF 2AFC8-2AFC9
    2DFFE-2DFFF 30994-30995 77E9 408F-4090 253B0-253B8 2C470-2C471 2E000 30996 77EA-77EB 4091-4092
    253B9-253CD 2AFCA 2E001-2E002 31CDD-31CDE 32CC1 77EC-77ED 4093 20170 253CE-253D7 2C472-2C473
    30997 31CDF-31CE0 77EE 4094 253D8-253E9 2AFCB 2C474 2E003-2E004 30998-30999 31CE1 32CC2 4095
    253EA-253F1 2AFCC 2E005 3099A 31CE2 253F2-253FA 2AFCD-2AFCE 2E006-2E008 3099B-3099D 31CE3 32CC3
    253FB-253FF 2E009 3099E-309A2 77EF-77F0 25400-25406 2C475 31CE4-31CE6 32CC4 25407-2540B 2C476
    309A3 31CE7 77F1 2540C-2540F 2C477 77F2 2AFCF 2E00A 32CC5 2AFD0 2C478 25411-25412 25410
    25413-25414 32CC6-32CC7",
    "
    77F3 4096 25415-25416 32CC8 77F4-77F6 4097 25417-2541C 2C479 32CC9-32CCA 77F7-7801 4098-4099
    2541D-25428 2C47A-2C47C 2E00B-2E00C 309A4 31CE8 2ED49 6CF5 7802-781C 409A-409E 25429-25445
    2AFD1-2AFD3 2C47D-2C482 2E00D-2E00E 309A5-309AC 31CE9-31CF3 2ED4A-2ED4C 32CCB-32CD2 781D-7841
    9FEC 409F-40A8 25446-25472 2AFD4-2AFD8 2C483-2C488 2E00F-2E014 309AD-309B2 31CF4-31CF8
    32CD3-32CD8 7842-785B 9FCE 40A9-40AF 25473-254A9 2AFD9-2AFDD 2C489-2C48C 2E015-2E018
    309B3-309BB 31CF9-31D00 2ED4D-2ED52 32CD9-32CDD 785C-7877 40B0-40B6 254AA-254C9 2AFDE-2AFE3
    2C48D-2C491 2E019-2E021 309BC-309C5 31D01-31D0B 32CDE-32CE4 7878-787D 787F-789C 78B0 40B7-40C7
    254CA-254F9 2AFE4-2AFE9 2C492-2C495 2E022-2E02B 309C6-309CA 31D0C-31D17 2ED53 32CE5-32CEC 787E
    789D-78AF 78B1-78B9 78C1 40C8-40D0 254FA-2552C 2AFEA-2AFEB 2C496-2C49A 2E02C-2E035 309CB-309D0
    31D18-31D23 2ED54-2ED57 32CED-32CF6 78BA-78C0 78C2-78D9 78DC 78E4 40D1-40D7 2552D-2554B
    2AFEC-2AFEE 2C49B 2E036-2E03A 309D1-309D8 31D24-31D2C 32CF7-32CFE 78DA-78DB 78DD-78E3 78E5-78EE
    40D8-40DE 40E0 2554C-2556F 2AFEF-2AFF4 2C49C-2C49E 2E03B-2E043 309D9-309E0 31D2D-31D30
    32CFF-32D02 78EF-7905 40DF 40E1-40E8 25570-25596 2AFF5-2AFF7 2C49F-2C4A3 2E044-2E049
    309E1-309E8 31D31-31D36 32D03-32D0C 7906-7916 40E9-40EF 2378F 25597-255A9 2AFF8-2AFFA
    2C4A4-2C4A5 2E04A-2E04F 31D37-31D38 32D0D-32D10 7917-7921 40F0 255AA-255BA 2AFFB-2AFFD
    2C4A6-2C4A7 2E050-2E053 309E9 31D39-31D3E 32D11-32D15 7922-792C 40F1-40F3 2154E 255BB-255D1
    2C4A8 2E054 309EA 31D3F-31D41 32D16-32D17 792D-7934 40F4-40F7 255D2-255DC 2AFFE 2E055
    31D42-31D43 32D18-32D1B 7935 40F8-40F9 255DD-255EA 2C4A9-2C4AA 309EB-309EC 7936-7937
    255EB-255F3 2AFFF 2E056-2E058 7938 40FA 255F4-255F5 255F7-255F8 2C4AB 2E059-2E05A 32D1C-32D1D
    7939 255F9 31D44 32D1E 40FB 255FA-255FD 2E05B 31D45 32D1F-32D20 255FE-25600 32D21 25601-25602
    32D22 25603-25604",
    "
    793A-793B 25605 793C 25606 793D 40FC 25607-2560C 2E05C-2E05D 793E-7943 2560D-25614 2B000-2B001
    2C4AC 2E05E 309ED-309F0 7944-794E 89C6 9FC6 40FD-4100 25615-2562A 2B002-2B003 2C4AD-2C4B0
    2E05F-2E061 309F1-309F2 31D46 2ED58-2ED59 32D23 794F-7962 4101-4103 2562B-2564D 2B004-2B006
    2C4B1-2C4B3 2E062-2E06C 309F3-309F5 31D47 2ED5A 7963-7965 7967-796F 4104-4106 2564E-2566A
    2B007-2B00A 2B7B4 2C4B4-2C4B5 2E06D-2E077 309F6-309FF 31D48-31D4C 2ED5B-2ED5C 32D24-32D25 7966
    7970-7978 7984 8996 4107-410A 230AB 2566B-25687 2B00B-2B00F 2B7B5 2C4B6-2C4BD 2E078-2E07E
    30A00-30A03 31D4D-31D54 32D26 7979-7983 7985-7986 410B-4112 25688-256A5 2B010-2B019 2C4BE-2C4C8
    2E07F-2E083 30A04-30A09 31D55-31D5B 32D27-32D2D 7987-7999 4113-4117 22FC6 256A6-256C4
    2B01A-2B01B 2C4C9-2C4CD 2E084-2E089 30A0A-30A0D 31D5C-31D60 2ED5D-2ED5E 32D2E-32D31 799A-79A3
    4118-4119 2059F 256C5-256D7 2B01C-2B01F 2C4CE-2C4D0 2E08A-2E08E 30A0E-30A10 31D61-31D66 32D32
    79A4-79A6 411A-411E 256D8-256ED 2B020-2B021 2C4D1-2C4D7 2E08F-2E096 30A11-30A12 31D67-31D68
    32D33-32D36 79A7-79AB 411F 256EE-25702 2B7B6 2C4D8-2C4DA 2E097-2E09B 30A13 31D69-31D6B
    32D37-32D38 79AC-79AF 9FC5 4120-4121 25703-25711 2B022 2C4DB 2E09C-2E09D 30A14 31D6C-31D70
    2ED5F 32D39-32D3C 79B0-79B1 4122 25712-25719 2B023 2C4DC 2E09E-2E09F 31D71-31D73 32D3D-32D3F
    79B2 4123 2571A-2571F 2E0A0-2E0A2 30A15-30A16 31D74-31D76 32D40 4124 25720-25724 30A17 31D77
    32D41 79B3-79B4 25725-25729 2C4DD 2E0A3-2E0A7 30A18 79B5 2572A-2572F 2E0A8 31D78 79B6-79B7
    25730-25733 2E0A9-2E0AB 25734-25735 2B024 25736-25738 27186 30A19 25739-2573A 4125 32D42",
    "
    79B8 2573B 79B9-79BA 2573C 31D79 79BB 2573D 79BC 2573E 2E0AC 30A1A 79BD 842C 2573F 25741-25743
    32D43 20398 20FA7 25744-25747 26994 2C4DE 23722 25748-25749 31D7A 2B025 2E0AD 31D7B 2574A 2C4DF
    2E0AE 32D44 2574B",
    "
    79BE 2574C-2574F 2B026 79BF-79C3 4126-4127 25750-25753 2C4E0 2E0AF 30A1B 79C4-79CA 4128-412D
    25754-25762 2B027 2E0B0 30A1C 31D7C 79CB-79D7 412E-4135 25763-2577D 2B028-2B029 2C4E1-2C4E4
    2E0B1-2E0B9 30A1D-30A1E 31D7D-31D7E 2ED60 79D8-79F0 4136-4139 2577E-25797 2B02A-2B02D
    2C4E5-2C4E6 2E0BA-2E0C0 30A1F-30A24 31D7F-31D81 79F1-79FE 7A06 413A-414A 25798-257B1 257C5
    2B02E-2B031 2B7B7 2C4E7-2C4E9 2E0C1-2E0C4 30A25-30A28 31D82-31D86 2ED61 32D45-32D48 79FF-7A05
    7A07-7A0E 9FDF 414B-4153 2079C 257B2-257C4 257C6-257CB 2B032-2B038 2C4EA-2C4EC 2E0C5-2E0C6
    30A29-30A2C 31D87-31D8B 2ED62 32D49-32D4B 7A0F-7A25 4154-415F 257CC-257FC 2B039-2B03B 2B7B8
    2C4ED-2C4F0 2E0C7-2E0D2 30A2D-30A2F 31D8C-31D92 2ED63 32D4C-32D50 7A26-7A33 7A4A 4160-416B
    257FD-25830 2B03C-2B040 2C4F1-2C4F4 2E0D3-2E0DA 30A30 31D93-31D9A 2ED64 7A34-7A43 416C-4176
    25831-2585B 2B041-2B044 2C4F5-2C4F7 2C4F9 2E0DB-2E0E2 30A31-30A34 31D9B-31D9E 7A44-7A48
    7A4B-7A52 4177-417D 2585C-25889 2B045 2C4FA-2C4FD 2E0E3-2E0EB 30A35-30A37 31D9F-31DA0
    32D51-32D52 7A49 7A53-7A5E 417E-4180 2588A-258B3 2B046 2C4FE-2C500 2E0EC-2E0F1 30A38-30A3B
    31DA1-31DA5 32D53-32D55 7A5F-7A63 4181-4187 258B4-258C9 258CB-258D4 2B047-2B048 2C501 2E0F2
    30A3C-30A3D 31DA6-31DA8 32D56-32D57 7A64-7A6B 258CA 258D5-258E1 258E3-258E7 2C502 2E0F3
    31DA9-31DAB 32D58 7A6C-7A6F 4188-4189 258E2 258E8-258F6 258F8-258FF 2B049 2C503 30A3E-30A3F
    31DAC 32D59-32D5A 9FE0 418A-418D 25900-25905 2C504 2E0F4-2E0F5 30A40-30A41 32D5B-32D5C 7A70
    7A73 418E-418F 25906-25909 30A42 32D5D 7A71 2590A-25912 30A43 31DAD 7A72 25913 25915-25916
    2E0F6-2E0F7 25917-2591A 31DAE 2591B-2591D 31DAF 2591E-2591F 4190 25920-25921",
    "
    7A74 25922 7A75-7A77 4191 25923-25926 2B7B9 2C505 7A78-7A7B 4192 25927-25933 2E0F8 31DB0 32D5E
    7A7C-7A83 4193-4196 25934-25946 2B04A 2C506-2C507 2E0F9 30A44 31DB1-31DB2 7A84-7A8E 4197-4199
    25947-2595F 2B04B 2C508 2E0FA-2E0FB 30A45-30A49 31DB3-31DB5 7A8F-7A95 419A-41A0 25960-25975
    2B04C-2B04D 2C509-2C50A 2E0FC 30A4A 31DB6-31DBC 7A96-7A9D 41A1-41A5 25976-2599A 2B04E-2B050
    2C50B-2C50C 2E0FD-2E100 30A4B-30A4F 31DBD-31DC2 32D5F 7A9E-7AA7 41A6-41A9 2599B-259B7
    2B051-2B053 2C50D 2E101-2E107 30A50-30A52 31DC3-31DCA 32D60-32D61 7AA8-7AAD 41AA-41AB
    259B8-259CF 2B054-2B055 2E108-2E10B 30A53-30A55 31DCB-31DCE 7AAE-7AB4 41AC-41AE 259D0-259E1
    259E3-259EB 2B056 2C50E-2C50F 2E10C-2E10E 30A56-30A57 31DCF-31DD2 32D62-32D63 7AB5-7ABD
    41AF-41B4 259EC-259FB 259FD-25A0B 2B057-2B05A 2C510-2C513 2E10F-2E115 30A58-30A59 31DD3-31DD6
    32D64 7ABE-7AC3 41B5-41BB 259FC 25A0C-25A1F 25A29 2B05B 2E116-2E11A 30A5A-30A5B 7AC4-7AC5
    41BC-41BD 25A20-25A28 2B05C 2C514 2E11B-2E11D 30A5C-30A5E 31DD7-31DD8 7AC6 41BE-41BF
    25A2A-25A2F 25A32 2E11E-2E121 31DD9 7AC7 41C0 25A30-25A31 25A33-25A34 25A36-25A3A 31DDA-31DDB
    7AC8-7AC9 25A35 25A3B-25A48 2C515 2E122 30A5F 31DDC-31DDE 7ACA 41C1 25A49 2B7BA 2E123
    31DDF-31DE0 25A4A-25A4B 2B05D 2E124-2E125 25A4C-25A4D 25A4F-25A51 2E126 31DE1 25A4E 25A52 31DE2
    25A53-25A54",
    "
    7ACB 41C2 2C516 7ACC-7ACD 25A55-25A56 2B7BB 32D65 7ACE-7ACF 41C3-41C4 25A57-25A58 2B05E 2C517
    2E127 7AD0-7AD7 41C5-41C6 25A59 25A5B-25A5F 2B05F 2C518-2C51A 2E128 30A60-30A61 31DE3 2ED65
    32D66 7AD8-7ADE 41C7-41CA 25A5A 25A60-25A70 2B060-2B061 2C51B-2C51C 2E129-2E12C 30A62 31DE4
    2ED66 32D67-32D68 7AE1 41CB 25A71-25A7D 2B062 2B7BC 2C51D 2E12D-2E12E 30A63-30A64 31DE5-31DE6
    32D69-32D6A 7AE2-7AE7 41CC-41CD 25A7E-25A89 2B063-2B064 2C51E-2C520 2E12F-2E130 31DE7-31DE8
    2ED67 7AE8-7AEB 41CE-41D1 25A8A-25A97 2B065-2B066 2C521-2C523 2E131-2E133 31DE9-31DEB 2ED68
    32D6B-32D6C 7AEC-7AED 7AEF-7AF0 25A98-25AA4 2B067-2B068 2C524-2C526 2E134-2E136 30A65-30A68
    31DEC 32D6D-32D6E 25AA5-25AAC 2B069-2B06B 2C527 2E137 7AEE 7AF1 41D2 25AAD-25AAE 25AB0-25AB1
    2B06C 2C528-2C529 2E138-2E13A 30A69-30A6A 2ED69-2ED6A 32D6F 7AF2-7AF4 41D3 25AAF 25AB2-25AB9
    25ABB 2B06D 2C52A 2E13B-2E13C 31DED 7AF5 41D4 25ABC-25AC1 25AC3-25AC4 32D70 41D5 25ABA
    25AC5-25AC7 2B06E 2E13D 7AF6-7AF7 25AC8-25ACD 2E13E 32D71 25ACE-25ACF 2C52B 7AF8 25AD0-25AD1
    2B06F 25AD3-25AD4 30A6B 32D72 25AD2 25AD5-25AD6 2E13F",
    "
    7AF9 25AD7-25AD8 7AFA-7AFB 25AD9-25ADC 2B070 2C52C 31DEE 2ED6B 7AFC-7B03 41D6 25ADD-25AEE 2B071
    2C52D 30A6C-30A6D 31DEF 7B05-7B15 41D7-41DD 25AEF-25B0B 2B072-2B077 2C52E-2C532 2E140-2E143
    30A6E-30A71 31DF0-31DF4 2ED6C-2ED6D 32D73-32D74 7B16-7B3E 41DE-41E6 25B0C-25B29 25B3F
    2B078-2B07B 2C533-2C539 2E144-2E146 30A72-30A77 31DF5 2ED6E-2ED6F 32D75-32D76 7B04 7B3F-7B5D
    41E7-41F4 25B2A-25B3E 25B40-25B4F 2B07C-2B07D 2C53A-2C541 2E147-2E150 30A78-30A7A 31DF6-31DFD
    2ED70 32D77-32D79 7B5E-7B80 7BC0 41F5-4200 25B50-25B87 25B89-25B8C 2B07E-2B083 2C542-2C54D
    2E151-2E154 30A7B-30A7E 31DFE-31DFF 2ED71-2ED73 32D7A-32D7B 7B81-7BAB 4201-420D 25B88
    25B8D-25BD0 2B084-2B089 2C54E-2C559 2E155-2E160 30A7F-30A84 31E00-31E0C 2ED74-2ED76 32D7C-32D80
    7BAC-7BBF 7BC1-7BC8 7BCA-7BD3 420E-4229 25BD1-25C17 2B08A-2B08F 2B7BD-2B7BF 2C55A-2C561
    2E161-2E16E 30A85-30A8E 31E0D-31E15 2ED77 32D81-32D85 7BC9 7BD4-7BEF 7C11 7C15 422A-4237
    25C18-25C74 2B090-2B097 2C562-2C568 2E16F-2E175 30A8F-30A93 31E16-31E1B 32D86-32D8A 7BF0-7C10
    7C12-7C14 7C16-7C17 4238-4247 25C75-25CC0 25CC2-25CC5 25D0E 2B098-2B09F 2C569-2C56C 2E176-2E186
    30A94-30A96 31E1C-31E24 32D8B-32D96 7C18-7C32 4248-424E 4250-425A 4263 25CC1 25CC6-25D0D
    25D0F-25D20 2B0A0-2B0A4 2C56D-2C572 2E187-2E193 30A97-30A99 31E25-31E28 2ED78 32D97-32D9C
    7C33-7C42 424F 425B-4262 4264 25D21-25D5B 2B0A5-2B0A6 2C573-2C57A 2E194-2E19E 30A9A-30A9B
    31E29-31E2A 32D9D-32DA2 7C43-7C4F 7C55-7C56 4265 25D5C-25D84 2B0A7 2E19F-2E1A7 30A9C-30A9D
    31E2B-31E2E 32DA3-32DA4 7C50-7C54 4266-426D 25D85-25DB4 2B0A8-2B0AB 2C57B-2C57F 2E1A8-2E1B5
    30A9E-30AA2 31E2F 32DA5-32DA6 7C57-7C61 426E-4271 25DB5-25DD3 2B0AC 2C580-2C585 2E1B6-2E1BD
    31E30 32DA7-32DAC 7C62-7C68 4272-4274 25DD4-25DE7 2B0AD 2C586 30AA3 32DAD-32DAF 7C6A 4276
    25DE8-25DFB 2B0AE 2C587 31E31 2ED79 7C69 7C6B-7C6E 25DFC-25E07 2B0AF 2E1BE-2E1BF 31E32 32DB0
    7C6F-7C70 4277 25E08-25E0F 2E1C0 30AA4 32DB1 4278 25E10-25E16 2C588-2C58A 2E1C1 30AA5 25E17
    25E1A-25E1D 2B0B0 32DB2 25E18-25E19 25E1E-25E20 2E1C2 7C71 4279 25E21-25E22 32DB3 25E23 7C72
    25E24 32DB4",
    "
    7C73 25E25-25E26 2C58B 7C74-7C76 25E27-25E2A 2B0B1-2B0B2 2C58C-2C58E 2E1C3-2E1C4 30AA6 31E33
    32DB5 5A04 7C77-7C82 427A 25E2B-25E32 2B0B3-2B0B4 2C58F 2E1C5 30AA7-30AAA 31E34 32DB6-32DB9
    7C83-7C91 427B-427C 25E33-25E40 2B0B5-2B0B7 2C590-2C592 2E1C6-2E1CA 30AAB-30AB0 31E35-31E36
    32DBA-32DBF 7568 7C92-7C9D 7CA3 427D-4280 25E41-25E56 25E58-25E59 25E71 2B0B8-2B0BC 2C593-2C598
    2E1CB-2E1D2 30AB1-30AB5 31E37-31E3A 32DC0-32DC2 7C9E-7CA2 7CA4-7CAD 4281-4286 25E57 25E5A-25E70
    2B0BD-2B0C0 2C599-2C59C 2E1D3-2E1DD 30AB6-30ABC 31E3B-31E43 32DC3-32DC5 7CAE-7CB5 7CC0
    4287-428C 25E72-25E97 2B0C1 2C59D-2C5A0 2E1DE-2E1E4 30ABD 31E44-31E49 32DC6-32DC9 7CB6-7CBF
    7CC1 428D-4292 25E98-25EC0 2B0C2-2B0C5 2C5A1-2C5A5 2E1E5-2E1EB 30ABE-30AC1 31E4A-31E4C
    2ED7A-2ED7B 32DCA-32DCC 7CC2-7CCE 4293-4299 2188F 25EC1-25EE3 2B0C6-2B0C8 2C5A6-2C5AA
    2E1EC-2E1F2 30AC2-30AC5 31E4D-31E53 32DCD-32DD0 7CCF-7CD8 9FEF 429A-429B 4A00 2242B 25EE4-25EFE
    2B0C9-2B0CC 2C5AB-2C5B2 2E1F3-2E1F9 30AC6-30ACA 31E54-31E59 32DD1-32DD6 7CD9-7CE2 7CE8
    429C-42A2 25EFF-25F16 2B0CD-2B0CE 2B7C0 2C5B3-2C5B5 2E1FA 30ACB-30AD0 31E5A-31E5D 2ED7C-2ED7D
    32DD7 7CE3-7CE7 42A3-42A9 25F17-25F35 2B0CF-2B0D1 2C5B6-2C5BA 2E1FB-2E1FC 30AD1-30AD3
    31E5E-31E61 32DD8-32DD9 7CE9-7CED 42AA-42AC 25F36-25F4E 2B0D2-2B0D5 2C5BB 2E1FD-2E1FE
    31E62-31E64 32DDA-32DDF 7CEE-7CF0 42AD-42AE 25F4F-25F56 2B0D6 2C5BC-2C5BE 30AD4-30AD5
    31E65-31E67 32DE0 7CF2 42AF 25F57-25F60 25F62-25F63 2C5BF 2E1FF 31E68 32DE1-32DE3 7CF1
    7CF3-7CF4 42B0 25F61 25F64-25F6B 2B0D7-2B0D9 2C5C0-2C5C1 30AD6 32DE4 7CF5 42B1-42B2 25F6C-25F70
    32DE5-32DE6 25F71-25F75 2C5C2 32DE7 7CF6 42B3-42B4 25F76-25F7A 2E200 25F7B-25F7F 31E69 7CF7
    25F80-25F81 32DE8 25F82-25F84",
    "
    7CF8-7CF9 7E9F 7CFA-7CFB 31E6A 2B119 7CFC-7CFF 42B5 25F85-25F8B 2B0DA-2B0DB 30AD7 31E6B 7EA0
    2E260 30AFC 31E8F-31E91 7D00-7D09 42B6-42B9 25F8C-25F98 2B0DC-2B0DD 2C5C3-2C5C4 2E201-2E202
    30AD8-30AD9 32DE9-32DEA 7EA1-7EAB 7EB6 4336 2C613 31E92 2ED7F 7D0A-7D27 42BA-42C7 25F99-25FC2
    2B0DE 2C5C5-2C5C6 2E203-2E205 30ADA-30ADD 31E6C-31E6D 32DEB 7EAC-7EB5 7EB7-7EBE 4338
    2B11A-2B11D 2C614-2C618 30AFD-30B01 31E93 32E2F-32E30 7D28-7D4C 42C8-42D4 25FC3-25FE5
    2B0DF-2B0E1 2C5C7-2C5CA 2E206-2E20A 30ADE-30AE1 31E6E-31E6F 32DEC-32DED 7EBF-7ED0 4337 4339
    26208 2B11E-2B11F 2C619-2C61E 2E261-2E263 30B02-30B0B 31E94-31E99 2ED80-2ED81 7D4D-7D5A
    7D5C-7D77 42D5-42DE 25FE6-26011 2B0E2-2B0E4 2C5CB-2C5D4 2E20B-2E210 30AE2-30AE4 31E70-31E73
    32DEE-32DF6 7ED1-7EDF 433A-433B 26209 2B120-2B123 2B7C3 2C61F-2C627 2E264-2E266 30B0C-30B15
    31E9A-31E9B 7D5B 7D78-7D9B 42DF-42E6 26012-26045 2B0E5-2B0E9 2C5D5-2C5DE 2E211-2E215
    30AE5-30AE8 31E74-31E75 32DF7-32DFD 7EE0-7EE8 433C 2620A-2620C 2B124-2B129 2B7C4 2C628-2C62B
    2E267-2E269 30B16-30B1E 31E9C-31EA2 2ED82 7D9C-7DD2 7DD4-7DD5 42E7-42F2 26046-2607F 2B0EA-2B0F2
    2C5DF-2C5E7 2E216-2E222 30AE9-30AED 31E76-31E79 32DFE-32E04 7EE9-7F01 433D 2620D-26210
    2B12A-2B12B 2B7C5 2C62C-2C62F 2E26A-2E26C 30B1F-30B2A 31EA3-31EA5 32E31 7DD3 7DD6-7E07
    42F3-4304 26080-260A6 260A8-260C1 2B0F3-2B0F7 2B7C1 2C5E8-2C5EE 2E223-2E230 30AEE-30AEF
    31E7A-31E7C 32E05-32E06 7F02-7F18 433E-433F 26211-26215 2B12C-2B12E 2B7C6 2C630-2C638 2E26D
    30B2B-30B30 31EA6-31EA9 7E08-7E28 4305-430B 260A7 260C2-26101 26103-26108 2B0F8-2B0FC
    2C5EF-2C5F2 2E231-2E238 30AF0 31E7D-31E7E 2ED7E 32E07-32E0D 7F19-7F24 4340 26216-26219
    2B12F-2B130 2C639-2C63D 30B31-30B34 2ED83-2ED86 7E29-7E47 7E49-7E4A 7E4C-7E4D 430C-4315 26102
    26109-2613B 2B0FD-2B100 2C5F3-2C5FA 2E239-2E243 30AF1-30AF2 31E7F-31E85 32E0E-32E13 7F25-7F2B
    2621A 2B131-2B134 2C63E-2C642 2E26E-2E26F 30B35-30B36 31EAA-31EAB 7E48 7E4E-7E65 7E67 7E71
    4316-431B 2613C-26174 2B101-2B104 2B7C2 2C5FB-2C601 2E244-2E249 30AF3-30AF4 31E86-31E88
    32E14-32E19 7F2C-7F2F 2621B-2621D 2B135-2B136 2C643-2C648 30B37-30B3B 31EAC 7E4B 7E66 7E68-7E70
    7E72-7E7A 431C-4322 26175-2619B 261A5 2B105-2B10B 2C602 2E24A-2E24F 31E89-31E8A 32E1A-32E20
    7F30-7F34 4341 2621E-2621F 2B137 2C649 30B3C-30B3E 31EAD 7E7B-7E83 4323-4327 2619C-261A3
    261A6-261A7 261A9-261AA 261AC-261BA 2B10C-2B10E 2C603-2C608 2E250-2E252 31E8B-31E8C 32E21-32E23
    26220-26221 2B138 2B7C7 30B3F 31EAE 7E84-7E90 4328-4329 261A4 261A8 261AB 261BB-261C1
    261C3-261D3 2B10F-2B111 2C609-2C60C 2E253-2E256 30AF5-30AF7 31E8D 32E24-32E28 2C64A 30B40-30B41
    31EAF 7E91-7E92 432A-432D 261C2 261D4-261E6 2B112-2B114 2C60D-2C60F 2E257-2E259 30AF8-30AF9
    31E8E 32E29 7F35 7E93-7E96 432E 261E7-261EF 2B115 2C610-2C611 2E25A 30AFA 32E2A-32E2B 2C64B
    7E97 432F-4332 261F0-261F7 261F9 2C612 2E25B-2E25C 2B139 7E98-7E9B 4333-4334 261F8 261FA-261FB
    2B116 2E25D-2E25E 32E2C-32E2D 261FC-261FD 2B117 32E2E 7E9C-7E9D 4335 261FE-26202 2B118 2E25F
    26203-26204 30AFB 31EB0 7E9E 26205-26207",
    "
    7F36 26222 7F37 30B42-30B43 7F38 4342 26223-26225 2E270 7F39-7F3A 7F3C 4343 26226-26228
    2C64C-2C64D 2E271 31EB1 32E32 7F3B 7F3D 4344-4349 26229-2622E 2C64E 2E272 32E33-32E34 7F3E-7F40
    434A 2622F-26233 2C64F 26234-26237 2B13A 2E273-2E274 7F41-7F42 434B-434C 26238-26240 2B13B
    2C650 2E275 30B44 31EB2 32E35-32E36 26241-26247 2B13C-2B13D 2C651-2C652 2E276 7F43 434D
    26248-2624E 2B13E 2C653 2E277 31EB3 32E37 7F44-7F46 2624F-26254 2E278 30B45 32E38-32E39
    7F47-7F49 26255-26258 2E279-2E27B 30B46 32E3A-32E3B 7F4A-7F4B 24541 26259-2625C 2B13F 2C654
    32E3C 7F4C 2625D-2625E 7F4D 2625F-26260 30B47 7F4E-7F4F 26261 434E 26262-26264 7F50 24AE1
    26265-26269",
    "
    7F51-7F53 434F 2626A-2626B 2626D 26270 2626F 2E27C 2626C 2626E 26271-26276 2C655 7F54-7F57
    4350-4351 26277-26280 2B140 2C656-2C658 2E27D 31EB4-31EB6 2ED87 7F58-7F5A 4352-4354 26281-2628D
    2B141 2C659 2E27E-2E280 30B48 31EB7-31EBB 32E3D 7F5B-7F62 4355-4357 2628E-262A3 262A5-262A9
    262B3 2B142 2C65A-2C65C 2E281-2E284 30B49 7F63 4358 262AA-262B2 262B4-262BB 2B143-2B145 2C65D
    2E285 30B4A-30B4C 31EBC-31EBE 32E3E 7F64-7F66 4359-435A 262BC-262C4 262D1 2C65E-2C65F 2E286
    30B4D-30B4E 31EBF-31EC1 7F67-7F6E 7F72 435B-435E 262C5-262D0 262D2-262DC 2B146-2B147
    2C660-2C663 2E287-2E289 30B4F-30B51 31EC2-31EC6 32E3F 7F6F-7F71 7F73-7F74 435F 262DD-262E9
    262EB-262EE 2B148 2E28A-2E28C 32E40 7F75-7F78 262EF-262FC 2B149 2C664-2C666 2E28D-2E293
    30B52-30B54 31EC7 7F79-7F7C 4360-4361 262FD-26311 2B14A 2E294-2E299 30B55 7F7D-7F81 4362
    26312-2631E 27DC5 2C667-2C668 2E29A-2E29B 32E41 7F82 4363 2631F-26328 27430 2B14B 2C669 2E29C
    32E42 7F83-7F86 4364 2632A-26334 2B14C 2E29D-2E29E 31EC8 26335-2633A 4365 2633B-2633C 2B14D
    2C66A 2E29F 32E43 7F87 2633D 2C66B 2E2A0 7F88-7F89 4366 2633E-26345 30B56 2E2A1 26346-2634A
    9FE1",
    "
    7F8A 2634B-2634D 7F8B-7F8C 2634E-26350 2B14E 30B57 31EC9-31ECA 7F8D-7F91 26351-26356 2B7C8
    2C66C 2E2A2-2E2A4 7F92-7F94 7F96-7F99 4367-4369 26357-26364 2636E 2C66D-2C66F 30B58 31ECB 7F95
    7F9A-7F9F 436A-436D 26365-2636D 2636F-26378 2B14F-2B152 2C670 2E2A5-2E2A6 7FA0-7FA2 436E-4370
    26379-26384 2B153-2B154 2C671-2C673 2E2A7-2E2A8 30B59 32E44 7FA3-7FAA 4371 26386-26396 2B155
    2C674 2E2A9 31ECC-31ECE 32E45-32E46 7FAB 4372-4376 26397-263A1 2C675-2C676 2E2AA-2E2AD
    31ECF-31ED0 32E47-32E4B 7FAC-7FB0 4377 263A2-263AE 2B156-2B158 2C677-2C678 2E2AE-2E2AF 30B5A
    32E4C 7FB1-7FB2 4378-4379 263AF-263B6 2B159 2C679-2C67B 2E2B0-2E2B2 30B5B-30B5C 31ED1
    32E4D-32E4E 437A 263B7-263C4 2B15A-2B15C 2C67C-2C67D 32E4F 7FB3-7FB5 437B-437C 26329
    263C5-263D4 2B15D-2B15E 2C67E 2E2B3 31ED2-31ED3 7FB6-7FB9 263D5-263DB 2C67F 2E2B4 7FBA
    263DC-263E1 2B15F 7FBB-7FBC 21156 263E2-263E7 2C680 2E2B5-2E2B6 437D 263E8-263E9 2B160-2B161
    2C681 2E2B7 31ED4 263EA-263EB 31ED5 263EC 31ED6 32E50 263ED-263EE 2C682 2331E 263EF-263F1",
    "
    7FBD 263F3 30B5D 263F2 2ED88 32E51 7FBE-7FBF 263F4-26401 2B162 32E52-32E53 7FC0-7FC6 437E-437F
    26402-26414 2B163 2E2B8-2E2BB 30B5E-30B60 32E54 7FC7-7FD2 4380-4386 26415-26422 2B164 2E2BC
    30B61 31ED7-31ED8 2ED89-2ED8A 7FD3-7FDA 4387-438A 26423-26437 2B165-2B167 2E2BD-2E2C2 30B62
    31ED9 2ED8B-2ED8D 32E55 7FDB-7FDD 438B-438E 26438-26444 26446 2B168-2B169 2C683 2E2C3-2E2C4
    30B63 31EDA 32E56 7FDE-7FE4 438F-4393 26445 26447-26450 26452-26457 2B16A 2C684 2E2C5-2E2C8
    30B64 31EDB-31EDC 32E57 7FE5-7FED 26458-2646F 2647B 2B16B-2B16C 2E2C9-2E2CC 31EDD-31EE0
    32E58-32E5B 7FEE-7FF1 4394-4395 26470-2647A 2647C-26482 2649E 2B16D-2B16E 2C685-2C686
    2E2CD-2E2D1 30B65 31EE1-31EE2 7FF2-7FF6 7FFC 26483-2648C 2B16F 2C687-2C688 2E2D2-2E2D3 31EE3
    32E5C 7FF7-7FFB 4396-4398 2648D-2649B 2649F 2B170-2B171 31EE4 2ED8E 32E5D 7FFD-7FFE 2649C-2649D
    264A0-264A1 2E2D4-2E2D5 32E5E-32E5F 7FFF-8000 4399 264A2-264A5 264AA-264AB 2E2D6-2E2D7 439A
    264A6 264A8-264A9 264AC 2E2D8-2E2D9 264A7 264AD-264AF 2B172 31EE5 32E60 30B66 31EE6 264B0 2E2DA",
    "
    8001-8003 30B67 264B1-264B2 2C689-2C68A 31EE7-31EE8 439B 264B3-264B5 30B68-30B69 8004-8006
    264B6-264B9 31EE9-31EEA 8007-8009 264BA-264BF 2B173-2B174 2C68B 2E2DB 30B6A 800A-800B 439C-439E
    264C0 2E2DC 31EEB 2E2DD 264C1 2B175 2C68C 2E2DE 31EEC 32E61 264C2 2B176 30B6B 31EED-31EEE
    264C4-264C5 2B177 264C6-264C7 264C3 264C8-264C9 2C68D 264CA 2B178 2C68E 31EEF 264CB-264CD",
    "
    800C 264D0 264CE-264CF 264D1 31EF0 32E62 800D-8011 439F-43A0 30B6C 43A1 264D2-264D3 31EF1 32E63
    264D4-264D7 2E2DF 30B6D-30B6E 264D8-264DC 2C68F 264DD-264DE 2E2E0-2E2E1 264DF-264E1 30B6F 264E2
    2E2E2 264E3",
    "
    8012 264E4 8013 264E5-264E7 2E2E3 8014 43A2 264E8-264EA 31EF2 8015-8019 264EB 2E2E4 30B70-30B71
    32E64 801A-801F 43A3 264EC-264EE 2B179 2E2E5-2E2E7 8020 264EF-264F3 2B17A-2B17B 2C690
    2E2E8-2E2E9 8021-8022 43A4-43A5 264F4-264F6 2B17C 2E2EA 31EF3 32E65 8023-8025 43A6-43AA
    264F7-26501 31EF4 32E66 8026-8027 43AB-43AC 26502-2650A 2B17D 32E67 8028-802A 2650B-26512 2B17E
    802B-802C 43AD-43AF 26513-2651A 31EF5 802D-802E 43B0 2651B-2651E 26520-26524 2B17F 2E2EB 31EF6
    2651F 26525-26528 2C691 30B72 802F-8030 43B1 26529-2652A 8031-8032 2652B-2652D",
    "
    8033-8034 43B2 2652E 32E68 8035 2652F-26536 2B180 2B7C9 8036-8037 26537-2653B 2C692-2C693
    2E2EC-2E2ED 30B73 31EF7 32E69 8038-8042 43B3-43B4 2653C-2654F 2B181 2E2EE 30B74-30B77 31EF8
    2ED8F 8043-804D 43B5-43B6 26550-2655F 2C694-2C696 2E2EF 30B78-30B7A 2ED90-2ED91 32E6A-32E6B
    804E-8054 8060 43B7 26560-26562 26564-26574 2B182-2B183 2B73D 2C697-2C699 31EF9-31EFA
    2ED92-2ED93 32E6C 8055-8058 43B8-43B9 26563 26575-26587 26597 2B184-2B186 2C69A-2C69D
    2E2F0-2E2F2 32E6D-32E6E 8059-805F 8061-8063 9FE2 43BA-43BE 26588-26596 26598-265A1 2B187-2B188
    2C69E-2C6A0 2E2F3-2E2F5 31EFB-31EFC 32E6F-32E72 8064-806B 9FE3 43BF-43C0 259E2 265A2-265BB
    265C7 2B189 2C6A1-2C6A2 2E2F6-2E2F8 31EFD-31EFE 32E73-32E74 806C-806D 43C1-43C3 265BC-265C6
    265C8-265CF 2B18A-2B18D 2C6A3-2C6A5 2E2F9 32E75 806F-8073 43C4-43C7 265D0-265DE 2B18E-2B18F
    2E2FA 32E76-32E79 806E 8074-8077 9FE4 43C8 265DF-265F2 2B190-2B191 2C6A6-2C6A7 2E2FB 30B7B
    32E7A-32E7B 8078 265F3-265FD 2B192 32E7C-32E7E 8079-807C 43C9 265FE-26604 2C6A8 2E2FC-2E2FD
    32E7F 26605-26609 2E2FE-2E2FF 32E80-32E82 807D-807E 43CA 2660A-2660C 32E83 2660D-2660F 2E300
    26610-26611 2B193 2C6A9",
    "
    807F-8080 26612 2E301 30B7C 26613 2C6AA 2E302 26614 2E303 8081-8083 26615-26617 30B7D
    26618-2661A 32E84 8084-8086 43CB 2661B-2661C 2B194 2C6AB 2E304 31EFF 8087-8088 2661D-2661F
    2B195 26620-26622 2C6AC 2E305-2E306 26623 2C6AD-2C6AE 26624-26628",
    "
    8089 2E307 31F00 808A 30B7E 808B-808F 43CC-43CD 26629-26633 30B7F-30B82 31F01 8090-80A0
    43CE-43CF 26634-2663E 2B73E 2C6AF 2E308-2E30A 30B83-30B86 31F02 32E85-32E86 80A1-80C1 43D0-43DD
    2663F-26656 26658-26669 2B196-2B198 2C6B0-2C6B3 2E30B 30B87-30B91 31F03 2ED94-2ED95 32E87-32E89
    6711 80C2-80EC 8109 43DE-43E5 212DC 23368 2666A-2669C 2B199-2B19C 2C6B4-2C6B6 2E30C-2E30F
    30B92-30B9C 31F04 32E8A-32E8C 80ED-8108 810A-8114 43E6-43EE 2336F-23370 2669D-266B8 266BA-266D3
    2B19D-2B19E 2C6B7-2C6BA 2E310-2E313 30B9D-30BA4 31F05-31F08 2ECAB 32E8D-32E94 8115-8138
    43EF-43FB 266D4-26705 2B19F-2B1A1 2C6BB-2C6C1 2E314-2E319 30BA5-30BAA 31F09-31F0C 32E95-32E97
    8139-815A 3B39 43FC-440C 26706-26732 26734-26759 2B1A2-2B1A5 2C6C2-2C6C7 2E31A-2E320
    30BAB-30BB4 32E98-32E9E 5E50 6721 815B-817E 440D-441B 2675A-26798 267D3-267D4 2B1A6-2B1A8
    2C6C8-2C6CB 2E321-2E325 30BB5-30BC0 31F0D-31F12 32E9F-32EA4 817F-8191 441C-442A 26799-267D2
    267D5-267D7 2B1A9-2B1AE 2B7CA 2C6CC-2C6CE 2E326-2E330 30BC1-30BCB 31F13 32EA5-32EAC 8192-81A3
    442B-4434 267D8-26802 2B1AF-2B1B4 2C6CF-2C6D3 2E331-2E339 30BCC-30BD3 31F14-31F19 32EAD-32EB2
    6725 81A5-81B6 4435-443D 26803-2683D 26844 2686E 2B1B5-2B1B8 2B736 2C6D4-2C6D8 2E33A-2E33F
    30BD4-30BDD 31F1A-31F1C 32EB3-32EB9 81B7-81CC 443E-4441 2683E-26843 26845-2684D 2684F-26855
    26858-2686D 2686F 2B1B9-2B1BB 2C6D9-2C6DB 2E340-2E341 30BDE-30BE0 31F1D-31F1F 32EBA-32EBB
    81CD-81D3 4442-4445 24443 2684E 26870-26889 2B1BC-2B1BD 2C6DC-2C6DD 2E342-2E346 30BE1-30BE3
    31F20-31F21 32EBC 81D4-81D5 81D7-81D8 4446-4448 2688A-268A4 2B1BE-2B1BF 2E347-2E349 30BE4-30BE7
    31F22-31F23 32EBD 81D6 81D9-81DC 4449-444A 268A5-268B7 2B1C0 2C6DE 2E34A 30BE8-30BEA 31F24 81DD
    352E 444B-444E 268B8-268BE 2B1C1 2C6DF 31F25 81DE-81DF 444F 268BF-268C5 2B1C2 30BEB 32EBE-32EC1
    81E0-81E2 244CF 268C6-268D0 2C6E0 32EC2-32EC3 268D1-268D5 2C6E1 2E34B 31F26 268D6-268D7 268D9
    30BEC 268D8 268DA-268DC 30BED 2B1C4",
    "
    81E3 268DE 2E34C 268DD 31F27 81E4-81E5 2E34D 268DF 30BEE 268E0-268E3 2B1C5 2C6E2-2C6E3 30BEF
    4450 268E4-268E5 2C6E4 2E34E-2E34F 30BF0 81E6 268E6-268E9 2B1C6 2C6E5 30BF1 2B1C7 2C6E6 81E7
    268EB-268EC 268EE 2B1C8 2E350-2E352 30BF2-30BF3 268ED 268EF 2C6E7-2C6E8 32EC4 268EA 2E353
    81E8-81E9 268F0-268F1 2C6E9 32EC5 4451 268F2-268F3 2B1C9 268F4-268F5 2C6EA 268F6 2C6EB
    268F7-268F8",
    "
    81EA 268F9 81EB 268FA-26900 30BF4 32EC6 81EC-81ED 26901-2690B 2E354-2E355 2ED96 2690C-2690F
    2C6EC 2E356-2E358 30BF5 81EE-81F0 26910-26913 2B1CA 2E359 30BF6 26914 2E35A-2E35B 32EC7
    26915-26917 2C6ED 2E35C 31F28 81F1 26918-2691D 2B1CB 81F2 2691E-26924 2C6EE 26925 2B1CC
    26926-2692A 2C6EF 30BF7 2692B-2692E 2C6F0 2E35D-2E35E 2692F-26931 2E35F 2B1CD 26932",
    "
    81F3 26933-26934 31F29 26935 2C6F1 81F4 4452 26936-2693A 2C6F2 2E360-2E361 2693B-2693E 31F2A
    81F5-81F8 2693F-26940 2C6F3 2E362 31F2B 81F9 4453 26941 2B1CE 31F2C 81FA 26942-26944
    2B1CF-2B1D0 2E363 32EC8 26945-26947 81FB 26949-2694D 2C6F4-2C6F5 2694E-26950 32EC9-32ECA 2B1D1
    2C6F6 2E364 2C6F7",
    "
    81FC 26951-26954 81FD-81FE 26955-26956 26959 2E365 81FF 26957-26958 2695A-2695C 2C6F8-2C6F9
    31F2D 32ECB 8200-8201 4454 2695D-26964 26967 2E366-2E367 8202 4455 26965-26966 26968-2696C
    8203-8204 2696D-26972 2B7CB 2E368-2E36C 31F2E-31F2F 32ECC 8205 26973-2697A 2C6FA 2E36D-2E36E
    8207 4456 2697B-26984 2E36F 30BF8-30BF9 31F30 8208 4457 26985-2698E 2C6FB 2E370-2E371 30BFA
    8206 8209 4458 2698F-26993 26995-26997 2C6FC 26998-269A0 2C6FD 820A 269A1-269A7 2B1D2 2C6FE
    30BFB 32ECD 820B 2092B 269A9-269AC 269AF 2C6FF-2C700 32ECE 269AD-269AE 269B0-269B9 30BFC 32ECF
    269BA-269BB 2C701 31F31 244DF 269BC 2C702 269BD-269BF 2E372 269C0 2B1D3 2C703 269C1-269C2 2E373
    2C704 269C3 31F32 269C4-269C5 2053B",
    "
    820C 269C6 820D-820F 2B1D4 269C7 2E374-2E375 8210 4459-445A 269C8-269D0 32ED0-32ED1 8211 445B
    269D1-269D4 2C705-2C706 2E376-2E377 30BFD-30BFF 32ED2 8212 269D5-269DC 30C00 269DD-269DE
    2B1D5-2B1D6 2C707 2E378 30C01-30C05 31F33 32ED3 8213-8215 269DF-269E6 2C708 2E379 30C06
    32ED4-32ED5 8216-8217 445C 269E7-269EC 2C709-2C70C 2E37A-2E37E 30C07 32ED6 8218 269ED-269F0
    2B1D7 2E37F 269F1-269F3 2C70D 30C08 32ED7 8219 269F4-269F6 2C70E 30C09 821A 269F7 2B1D8
    2C70F-2C710 32ED8 269F8-269F9 31F34 269FA 2B1D9 269FB-269FC 2E380 269FD",
    "
    821B 2E381 32ED9 30C0A 821C-821E 445D 269FE-269FF 445E 26A00-26A01 445F 26A03 26A02 31F35
    26A04-26A05 2E382 26A06",
    "
    821F 200A8 26A07 8220 4460 26A08-26A0D 2C711 8221-8224 4461-4463 26A0E-26A14 2B1DA 2C712 31F36
    2ED97 8225-8231 4464-4465 26A15-26A20 2E383-2E384 30C0B 31F37-31F38 2ED98 32EDA 8232-823B
    4466-4469 26A21-26A2E 2E385-2E38A 30C0C 32EDB-32EDD 823C-823F 446A-446E 26A2F-26A32 26A34-26A3C
    2C713 2E38B-2E38C 31F39-31F3A 32EDE 8240-8249 446F-4470 26A33 26A3D-26A49 2C714 2E38D-2E391
    30C0D 824A-824D 4471-4478 26A4A-26A5C 2899E 2B1DB 2C715-2C716 2E392-2E393 30C0E 31F3B
    32EDF-32EE0 824E-8254 4479-447B 26A5D-26A73 26A7F 2B1DC-2B1DD 2C717 30C0F-30C11 32EE1-32EE3
    8255-8259 447C-447E 26A74-26A7E 26A80-26A85 2C718-2C71A 30C12 31F3C-31F3E 2ED99 825A-825D
    447F-4485 26A86-26A90 2B1DE 2C71B 2E394 31F3F-31F41 32EE4-32EE7 825E-8260 4486-4488 26A91-26AA7
    2B1DF 30C13 31F42 2ED9A 32EE8-32EE9 8261-8265 26AA8-26AB0 31F43 8266-8269 4489 26AB1-26AB5
    2B1E0 31F44 826A 26AB6-26AB8 26ABA-26ABC 2C71C 2E395 826B 26ABD-26AC2 2B1E1-2B1E3 2E396-2E397
    826C 26AC3-26AC4 31F45 826D 31F46 32EEA 26AC5-26AC7 26AC9 26AC8 26ACA",
    "
    826E-8270 26ACB 30C14 31F47-31F48 26ACC-26ACF 2E398-2E399 26AD0 8271 26AD1 2E39A 26AD2 9FE5",
    "
    8272 2E39B-2E39C 30C15 448A 26AD3 8273-8274 448B 26AD4-26AD9 30C16-30C17 32EEB 26ADA 2C71D
    31F49 26ADB-26ADD 30C18 8275 26ADE-26AE3 2C71E 30C19 26AE4-26AE9 2E39D 448C-448D 26AEA-26AEE
    2B1E4 30C1A 32EEC-32EED 448E-448F 30C1B 32EEE 8276 26AEF-26AF1 2E39E 4490 8277 26AF2 2C71F
    31F4A",
    "
    8278-8279 4491 827A 9FB7 26AF3-26AF5 827B-8282 4492-4494 26AF6-26B00 2B1E5-2B1E6 2C720
    30C1C-30C1F 2ED9B 8283-8297 4495-4499 26B01-26B12 2B1E7-2B1E8 2C721-2C722 30C20-30C22 31F4B
    2ED9C-2ED9E 32EEF-32EF0 8298-82BE 82C0-82CF 833E 449A-44A5 26B13-26B36 2B1E9-2B1ED 2C723-2C725
    2E39F-2E3A3 30C23-30C2A 31F4C-31F50 32EF1-32EF3 82BF 82D0-8311 8313-8315 44A6-44AF 26B37-26B6C
    2B1EE-2B1F5 2B7CC-2B7CD 2C726-2C727 2E3A4-2E3A6 30C2B-30C31 31F51-31F5A 2ED9F-2EDA1 32EF4 8312
    8316-831C 831E-8322 8324-833D 833F-8352 8354-836A 836C-836F 9FD2 44B0-44C1 26B6D-26BB5
    2B1F6-2B1FE 2B7CE 2C728-2C72E 2E3A7-2E3B8 30C32-30C3D 31F5B-31F67 32EF5-32EFF 831D 8323 836B
    8370-83AC 83AE-83BD 9FCA 44C2-44D4 44D6 26BB6-26BF0 26BF2-26C15 26C17-26C29 2B1FF-2B20F
    2B7CF-2B7D1 2C72F-2C73A 2E3B9-2E3CF 30C3E-30C4E 31F68-31F6C 2EDA2-2EDA5 32F00-32F06 8353
    83BE-8428 8457 9FBF 44D5 44D7-44ED 26BF1 26C16 26C2A-26CC0 2B210-2B220 2C73B-2C74B 2E3D0-2E3E2
    30C4F-30C5C 31F6D-31F72 2EDA6-2EDA8 32F07-32F15 83AD 8429-842B 842D-8456 8458-848F 9FD3
    44EE-44F0 44F2-44FB 26CC1-26D35 26D37-26D46 26D48-26D60 2B221-2B235 2B7D2-2B7D3 2C74C-2C759
    2E3E3-2E402 30C5D-30C6A 31F73-31F7F 2EDA9-2EDAB 32F16-32F1C 8490-84B7 84B9-84E6 44F1 44FC-450D
    24380 26D47 26D61-26DFE 2B236-2B247 2B7D4 2C75A-2C773 2E403-2E420 30C6B-30C71 31F80-31F8D
    2EDAC-2EDAD 32F1D-32F26 84E7-853C 450E-451C 451E-452C 4544 26DFF-26E3C 26E3E-26E84 2B248-2B25C
    2B7D5 2C774-2C78D 2E421-2E438 30C72-30C75 31F8E-31F9A 2EDAE-2EDB3 32F27-32F30 853D-8575 451D
    452D-453B 453D-4541 4543 4545 26E3D 26E86-26EC6 26EC8-26EFD 26EFF-26F27 26F6D 2B25D-2B264 2B7D6
    2C78E-2C799 2E439-2E459 30C76-30C7C 31F9B-31FA3 2EDB4-2EDB5 32F31-32F42 8576-85A8 85AA-85AC
    85AE 9FA9 4542 4546-4551 26EFE 26F28-26F6C 26F6E-26FA9 26FE1 26FF8 2B265-2B274 2C79A-2C7AC
    2E45A-2E47B 30C7D-30C87 31FA4-31FAB 2EDB6 32F43-32F50 FA1F 85A9 85AD 85AF-85D3 8624 453C
    4552-455D 26FAA-26FD3 26FD6-26FDC 26FDE-26FE0 26FE2-26FF7 26FF9-2701F 2B275-2B284 2C7AD-2C7BE
    2C7C3 2E47C-2E496 30C88-30C89 31FAC-31FB2 2EDB7 32F51-32F5F 85D4-85ED 85EF-85F5 455E-455F
    4561-4565 26FD4-26FD5 26FDD 27020-2707A 270CC 2B285-2B28B 2C7BF-2C7C2 2C7C4-2C7CD 2E497-2E4A8
    30C8A-30C90 31FB3-31FB9 2EDB8-2EDB9 32F60-32F67 85EE 85F6-8611 8613-8614 8622 4560 4566-4572
    2707B-270CB 270CE 2B28C-2B28F 2C7CE-2C7D5 2E4A9-2E4B7 30C91-30C93 31FBA-31FBC 32F68-32F6D 8612
    8615-8621 8623 8625-8630 4573-4577 270CD 270CF-2710C 2B290-2B293 2C7D6-2C7DB 2E4B8-2E4C3
    30C94-30C95 31FBD-31FC1 32F6E-32F77 8632-8637 9FC0 9FE6 4578-457A 2710D-27135 2B294-2B296
    2C7DC-2C7DF 2E4C4-2E4CD 30C96 31FC2-31FC6 32F78-32F79 8631 8638-8641 457B-457C 27136-27155
    2B297 2C7E0-2C7E4 2E4CE-2E4D2 31FC7-31FC8 32F7A-32F7C 8642-8645 457D-457E 27156-2716D
    2B298-2B29A 2C7E5 2E4D3 8646-8649 4580 2716E-27174 27176-27179 2C7E6 2E4D4-2E4D5 31FC9-31FCA
    32F7D-32F7F 457F 4581 2717A-27185 2B29B-2B29C 2E4D6 30C97 31FCB-31FCC 864A 4582-4584
    27187-2718E 4585-4586 27175 2718F-27192 31FCD 864B-864C 27194-27195 26E85 27196 2719A 27197
    32F80 4587 27199 27193 27198",
    "
    864D 2E4D7 864E-864F 4588 2719B 2E4D8-2E4DA 32F81 8650 4589 2719C-2719E 2B29D-2B29E 2C7E7
    2E4DB-2E4DC 8651 8653-8654 458A-458D 2719F-271A2 2B29F 2C7E8-2C7E9 2E4DD-2E4E0 30C98-30C9A
    31FCE 5F6A 8655-865A 458E-458F 271A3-271B0 2E4E1 30C9B-30C9D 2EDBA 32F82 865B-865D 4590-4591
    271B1-271B9 2B2A0-2B2A1 2C7EA 2E4E2-2E4E4 30C9E-30C9F 31FCF-31FD0 865E-865F 4592-4596
    271BA-271C0 2C7EB-2C7ED 2E4E5-2E4E6 30CA0-30CA3 8660-8661 271C1-271CE 2B2A2 30CA4-30CA6
    8662-8663 4597 271CF-271DB 2E4E7-2E4E8 30CA7 31FD1-31FD3 32F83-32F84 8664-8666 4598 271DC-271F0
    2C7EE-2C7F0 2E4E9-2E4EA 31FD4 8667-8668 4599 271F1-271FA 2B2A3 2E4EB-2E4EC 32F85-32F86 8669
    459A-459B 271FB-27201 27203-27204 2C7F1 2E4ED 31FD5 32F87 459C 27202 27205-2720A 2C7F2 2E4EE
    2720B-2720F 2E4EF 32F88 27211-27217 30CA8 31FD6 27218-2721B 2C7F3 31FD7 866A 2721C 32F89",
    "
    866B 2E4F0 866C 459D 2721D-2721E 2E4F1 866D-8672 2721F-27227 2B2A4 2E4F2 30CA9 31FD8 32F8A
    8673-8683 459E-45A0 21BE5 27228-2723A 2B2A5-2B2A6 2C7F4-2C7F5 2E4F3-2E4F7 30CAA 31FD9 2EDBB
    32F8B-32F8D 8684-8687 8689-86AA 86AC 45A1-45A3 2723B-2725D 2B2A7-2B2AB 2C7F6-2C7FB 2E4F8-2E4FC
    30CAB-30CB2 31FDA-31FDC 32F8E-32F90 86AB 86AD-86CF 45A4-45AC 2725E-2728E 2B2AC-2B2B2
    2C7FC-2C801 2E4FD-2E500 30CB3-30CB7 31FDD-31FDE 2EDBC-2EDBD 32F91-32F94 FA21 8688 86D0-86D5
    86D7-86F4 45AD-45B5 2728F-272AA 272AC-272AD 272AF-272C7 2B2B3-2B2BC 2C802-2C807 2E501-2E508
    30CB8-30CB9 31FDF-31FE1 32F95-32FA0 86D6 86F5-8717 872B 8746 45B6-45BE 272AB 272AE 272C8-272DD
    272DF-27302 2731E 2B2BD-2B2C1 2C808-2C80D 2E509-2E516 30CBA-30CBE 31FE2-31FE7 2EDBE 32FA1-32FAA
    8718-872A 872C-8745 8747-874B 45BF-45CA 45D5 272DE 27303-2731D 2731F-2732F 27331-2734F 27351
    2B2C2-2B2C9 2C80E-2C81A 2E517-2E51D 30CBF-30CC9 31FE8-31FEE 32FAB-32FBB 874C-8778 877A-8780
    87E1 45CB-45D4 45D6 27330 27352-273A0 273C7 2B2CA-2B2CE 2C81B-2C81E 2E51E-2E527 30CCA-30CCD
    31FEF-31FFB 32FBC-32FC5 8779 8781-87A9 45D7-45DE 27350 273A1-273C6 273C8-273F7 2B2CF-2B2D5
    2C81F-2C824 2E528-2E532 30CCE-30CD5 31FFC-32000 32FC6-32FD3 87AA-87D2 45DF-45EE 222DC
    273F8-2742F 27431-27443 2B2D6-2B2D9 2C825-2C828 2E533-2E53A 30CD6-30CDA 32001-32007 32FD4-32FE7
    87D3-87E0 87E2-87F5 8801 880E 45EF-45F3 27444-2748D 2B2DA-2B2DE 2C829-2C82E 2E53B-2E541
    30CDB-30CDC 32008-3200B 32FE8-32FF8 87F6-8800 8802-880D 880F 45F4-45FB 2748E-274C8 2B2DF-2B2E2
    2C82F-2C831 2E542-2E547 30CDD-30CE0 3200C 32FF9-33001 8810-8819 45FC-4601 274C9-274F0
    2B2E3-2B2E5 2B7D7 2C832-2C837 2E548-2E54B 30CE1-30CE3 3200D-3200E 33002-33005 881A-8824 8834
    4602-4604 274F1-2751C 2B2E6-2B2E7 2C838 2E54C-2E551 30CE4 3200F-32010 33006-3300A 8825-882C
    4605-4609 2751D-27542 2B2E8 2C839 2E552 30CE5 32011 3300B-3300E 882D-8833 460A-460C 27543-27552
    27554-2755A 2E553-2E556 32012 3300F 8835-883A 27553 2755B-2756E 2C83A 2E557 30CE6 32013-32014
    33010 883B 460D 2756F-2757C 2C83B 2E558-2E559 32015 33011-33012 883C 2757D-27583 2758A 2E55A
    32016 33013 883D-883E 27584-27589 2758B-27590 883F 460E 27591-27597 2E55B 20474 27598-2759B
    2B2E9 2759C-2759F 275A1-275A6",
    "
    8840 2E55C 275A7-275A9 2E55D 8841-8842 460F 275AA 8843-8844 4610 275AB-275AF 2B2EA 33014-33015
    8845 4611 275B0-275B2 2B2EB 2E55E-2E55F 30CE7 32017 8846-8849 275B3-275B4 2C83C 2E560 30CE8
    4612 275B5-275B9 32018 4613 275BA-275BF 275C4 4614 275C0-275C3 275C5 32019-3201A 33016
    275C6-275CD 2B2EC 30CE9 275CE-275D5 33017 275D6-275D7 884A 275D8 2E561 275D9-275DB 884B 275DC",
    "
    884C 2C83D 275DD-275E0 884D-884E 275E1-275E5 2E562 3201B-3201C 884F 4615 275E6-275E9
    2C83E-2C83F 3201D 33018-33019 8850-8854 275EA 2B2ED 3301A-3301B 8855-8858 4616 2252C
    275EB-275F1 2B2EE 30CEA 3201E 3301C-3301E 8859 275F2-275F7 2E563 30CEB-30CED 275F8 275FA-275FB
    2CEAD 30CEE 3201F-32020 885A-885D 275F9 275FC-275FD 2B2EF 2B7D8 2C840 3301F-33021 885E-8861
    4617-4618 22585 275FE 32021 33022 2258B 275FF-27601 2B7D9 33023-33024 27602-27603 2B2F0 30CEF
    32022-32023 33025-33028 27604 33029 4619 225A1 27605 2C841 3302A 27606 2B2F1 8862 3302B-3302C",
    "
    8863-8864 27607 2E564 8865 461A-461B 27608-2760C 2C842 2E565-2E567 30CF0 32024-32025 3302D
    8866-886C 461C-461E 2760D-2761C 2C843-2C847 2E568 32026 886D-8887 461F-4621 2761D-2763C
    2B2F2-2B2F4 2C848-2C84A 2E569-2E56F 30CF1 32027 2EDBF 3302E-33030 8888-88AE 88B0 4622-4627
    2763D 2763F-2765D 2B2F5-2B2F7 2C84B-2C850 2E570-2E578 30CF2-30CF8 32028-32029 2EDC0 33031 88AF
    88B1-88C9 4628-462E 2763E 2765E-2767F 2B2F8-2B2FC 2C851-2C858 2E579-2E580 30CF9-30CFA
    3202A-3202E 33032 88CA-88E5 462F-4632 27680-276A3 2B2FD 2B7DA 2C859-2C85D 2E581-2E58E
    30CFB-30D00 3202F-32033 2EDC1 33033-33037 88E7-8904 4633-4642 276A4-276BA 276BC-276CE
    2B2FE-2B304 2C85E-2C864 2E58F-2E593 30D01-30D02 32034-32037 33038-3303D 88E6 8905-891D
    4643-464D 276BB 276CF-276F7 2B305-2B306 2C865-2C866 2E594-2E5A0 32038-3203A 2EDC2 3303E-33043
    891E-8932 8934 464E-4653 276F8-2771C 27728 2B307-2B309 2C867-2C869 2E5A1-2E5A9 30D03-30D05
    3203B-3203E 33044-33045 8933 8935-8945 8954 4654-465D 2771D-27727 27729-2772C 2772E-27741
    2B30A-2B30F 2C86A-2C86D 2E5AA-2E5AE 30D06-30D08 3203F-32042 33046-3304A 8946-8953 8955 9FCB
    465E-4663 2772D 27742-27770 2B310-2B312 2C86E-2C86F 2E5AF-2E5B6 32043-32044 8956-8962 4664-4665
    27771-2778C 2B313-2B314 2C870-2C871 2E5B7-2E5BA 32045-32046 3304B 8963-8968 4666-4669
    2778D-27796 27798-277A6 2B315 2C872-2C874 2E5BB-2E5BC 3304C 8969-896E 466A 27797 277A7-277B1
    277B3-277B5 2B316 2C875-2C876 2E5BD-2E5BE 3304D 896F-8972 466B 277B2 277B6-277C2 2C877 30D09
    3304E 8973-8974 897D 466C-466D 277C3-277C7 2B317 32047-32048 2EDC3 8975-8977 466E-466F
    277C8-277CB 2B318-2B319 8978-897C 4670 277CC-277CF 30D0A 277D0-277D4 4671 277D5-277D8 3304F
    277D9-277DF",
    "
    897E-8980 277E0-277E3 8981 4672 277E4-277E6 4673 277E7-277E9 2C878 32049 8982 4674 277EA-277EC
    2B31A 2E5BF-2E5C0 8983-8984 4675-4676 277ED-277EE 2B7DB 2E5C1-2E5C3 3204A 8985 277EF-277F0
    2C879 3204B 277F1-277F8 2C87A 2E5C4 30D0B 33050-33051 277F9-277FB 2E5C5-2E5C6 277FC-277FE 2B31B
    30D0C 3204C 277FF 3204D 8986 27800-27801 2C87B 8987-8988 27802 2E5C7 33052 27803 2E5C8 27804
    2E5C9-2E5CA 30D0D 8989 2E5CB 898A 27805 2E5CC",
    "
    898B 89C1 27806-27807 898C 8999 27808 33053 89C2 2C887 898D-898E 4677-4678 27809-2780D 2B31C
    89C3 898F-8994 4679-467B 2780E-2781B 2C87C 2E5CD 33054 89C4-89C5 32051-32053 8995 8997-8998
    899A 467C-467F 2781C-27827 2B31D 2C87D 2E5CE 30D0E-30D10 33055-33056 89C7-89C9 2B328-2B329
    2C888-2C88A 30D15-30D16 32054 899B-899C 4680-4681 27828-2783A 2B31E 2E5CF-2E5D1 3204E 89CA
    2B32A 2C88B 2C88D 32055-32056 2EDC4 899D-89A1 4682-4683 2783B-2784A 2B31F-2B320 2E5D2-2E5D4
    30D11 89CB 2C88C 30D17-30D19 89A2-89A5 4684-4685 2784B-27860 2B321 2C87E-2C880 2E5D5-2E5D7
    30D12 89CC-89CD 2C88E 89A6-89AA 4686-4689 27861-27876 2B322-2B323 2E5D8 33057 89CE 2B32B
    2C88F-2C891 30D1A 32057-32058 89AB-89AF 468A-468C 27877-27881 2C881 2E5D9 30D13 33058 89CF
    2C892 30D1B 32059 89B0-89B3 468D-468E 27882-2788B 2B324 2C882 3204F 89D0-89D1 2B32C 2C893 30D1C
    89B4-89B8 468F-4693 2788C-27891 2C883-2C884 2E5DA-2E5DD 2C894 30D1D 89B9-89BB 27892-27897 2B325
    2E5DE 30D14 2B32D 30D1E 89BC-89BD 4694 27898-2789B 2C885 33059-3305A 89BE-89BF 25344
    2789C-278A1 2B7DC 2C886 278A2-278A5 89C0 278A6-278AB 2B326-2B327 4695 278AC 32050 278AD-278AE
    4696 278AF-278B1",
    "
    89D2 278B2 30D1F 278B3 2E5DF-2E5E0 89D3-89D4 278B4-278B6 30D20 278B7-278BA 2E5E1-2E5E2 30D21
    3305B-3305C 89D5-89D9 4697 278BB-278D0 2E5E3-2E5E8 3305D 89DA-89DB 89DD-89DE 278D1-278E0 2C895
    2E5E9-2E5EA 30D22-30D23 3205A-3205B 3305E 89DC 89DF-89E7 4698-469A 278E1-278E7 2B32E-2B32F
    2C896 2E5EB-2E5EF 89E8-89EB 469B 278E8-278F3 2C897 2E5F0-2E5F2 30D24-30D25 3205C-3205D
    89EC-89EF 469C-46A0 278F4-2790A 2C898 2E5F3 89F0-89F1 46A1-46A4 2790B-2791A 27922 2B330-2B331
    3305F-33060 89F2-89F3 46A5-46A6 2791B-27921 27923-2792E 2E5F4-2E5F5 33061-33062 89F4 9D64 46A7
    2792F-27939 89F5-89F6 46A8-46A9 46AC 2793A-27943 2E5F6 30D26 3205E 33063-33064 89F7-89F9
    46AA-46AB 27944-27947 2C899 33065-33066 89FA 27948-2794B 89FB-89FC 2794C-27950 89FD-89FE
    27951-27952 3205F 27953-27954 89FF 46AD 27955-27958 32060 27959-2795A",
    "
    8A00-8A01 2795B-2795C 8BA0 2795D-2795F 30D27 8A02-8A08 46AE-46B0 27960 2C89A-2C89B 2E5F7-2E5F8
    30D28-30D29 33067 8BA1-8BA5 30D4A 8A09-8A1A 46B1-46B2 27961-2796D 2B332-2B333 2C89C-2C89E
    2E5F9-2E5FA 32061-32064 33068-33069 8BA6-8BB1 2B359 2C8D9-2C8DA 30D4B-30D4C 32082-32083
    8A1B-8A33 46B3-46C3 2796E-2799B 2B334-2B335 2C89F-2C8A0 2E5FB-2E5FE 30D2A 32065-32066
    3306A-3306C 8BB2-8BC0 4723 2B35A-2B35B 2B7DE 2C8DB-2C8DF 30D4D-30D52 32084-32085 8A34-8A60
    46C4-46D3 2799C-279C2 2B336-2B339 2C8A1-2C8A2 2E5FF-2E607 30D2B-30D2C 3306D 8BC1-8BD2 27BAA
    2B35C-2B361 2B7DF 2C8E0-2C8E7 30D53-30D61 32086-32087 2EDC5-2EDC7 3307C 8A61-8A8A 8AA0 9FC1
    46D4-46DC 279C3-279F3 27A1C 2B33A-2B33B 2C8A3-2C8A9 2E608-2E60E 30D2D-30D38 32067-32069
    8BD3-8BE9 4724 2B362-2B366 2C8E8-2C8F3 30D62-30D66 32088-3208A 3307D 8A8B-8A9F 8AA1-8AAE
    46DD-46E8 279F4-27A1B 27A1D-27A25 2B33C-2B33E 2C8AA-2C8AD 2E60F-2E616 30D39-30D3B 3306E
    8BEA-8BF6 2B367-2B36A 2C8F4-2C8FC 2E649 30D67-30D6F 3208B-3208D 8AAF-8ADA 8AE9 46E9-46F8
    27A26-27A62 2B33F-2B340 2C8AE-2C8B3 2E617-2E620 30D3C-30D3D 3206A-3206D 3306F-33073 8BF7-8C0A
    4725 2B36B-2B36E 2B7E0-2B7E1 2C8FD-2C906 30D70-30D78 3208E-3208F 2EDC8-2EDC9 8ADB-8AE8
    8AEA-8B03 46F9-46FD 27A63-27A97 2B341-2B345 2C8B4-2C8B9 2E621-2E62A 30D3E-30D42 3206E-32071
    33074-33075 8C0B-8C1E 2B36F-2B374 2C907-2C90F 32090-32092 8B04-8B22 46FE-4702 2041C 27A98-27AD1
    2B346-2B348 2C8BA-2C8C4 2E62B-2E62F 30D43-30D44 32072-32073 33076-33077 8C1F-8C27 4726-4727
    2B375-2B378 2B7E2 2C910-2C917 30D79-30D7F 8B23-8B3E 4703-470A 27AD2-27AFD 2B349-2B34C 2C8C5
    2E630-2E638 30D45 32074-32075 33078 8C28-8C2C 4728 2B379-2B37A 2C918-2C91C 30D80-30D83
    32093-32094 8B3F-8B4C 8B4E-8B5C 9FBB 470B-4711 27AFE-27B26 2B34D-2B34F 2C8C6-2C8C9 2E639-2E63D
    30D46-30D48 32076-32079 33079 8C2D-8C32 2B37B-2B37C 2C91D-2C925 2E64A 30D84-30D88 2EDCA 8B4D
    8B5D-8B72 4712-4718 27B27-27B41 2B350-2B351 2C8CA-2C8CB 2E63E-2E642 3207A 3307A 8C33-8C35 2B37D
    2C926-2C928 30D89-30D8B 32095-32096 8B73-8B7D 4719-471E 27B42-27B50 27B52-27B5B 2B352
    2C8CC-2C8D1 2E643-2E644 30D49 3207B-3207D 2B37E 2C929-2C92C 30D8C-30D8E 8B7E-8B85 471F-4721
    27B51 27B5C-27B77 2B7DD 2C8D2-2C8D4 2E645-2E646 3207E 2B37F 2C92D 2E64B 32097 8B86-8B90 4722
    27B78-27B84 2B353 2C8D5 2E647 3207F 4729 2C92E 8B91-8B96 2331A 27B85-27B90 2B354-2B356 2C8D6
    3307B 8C36 2C92F 30D8F 8B97-8B99 27B91-27B98 2E648 2C930-2C931 8B9A-8B9B 27B99-27B9D 2B357
    32080-32081 8B9C-8B9E 27B9E-27BA4 27BA6-27BA7 2B358 8B9F 27BA8 2C8D7-2C8D8 27BA9",
    "
    8C37 27BAB 472A 2B380 30D90 8C38 472B 27BAC-27BAE 8C39-8C3B 27BAF-27BB2 2B381 2E64C 472C-472D
    27BB3-27BB4 2C932 30D91-30D92 3307E 8C3C 27BB5-27BB7 2E64D 30D93 8C3D 472E 27BB8-27BB9 2E64E
    32098-32099 8C3E 472F 27BBA-27BBF 2B382 2C933 2E64F 30D94 27BC0-27BC5 2C934 2E650 30D95-30D96
    8C3F-8C41 4730 27BC6-27BC9 2C935 3307F 8C42 4731 27BCA 8C43 214DB 27BCB-27BD2 2E651 3209A-3209B
    27BD3-27BD4 3209C 27BD5-27BD6 8C44 4732 33080 8C45 33081-33082 27BD7-27BD9",
    "
    8C46 4733 30D97 27BDA 2EDCB 8C47-8C48 27BDB-27BDD 8C49 4734 27BDE-27BDF 2C936 30D98 33083 4735
    27BE0-27BE4 2E652 30D99-30D9A 3209D 8C4A-8C4B 4736 27BE5-27BE6 27BE8 2C937 30D9B 9FF2 4737-4739
    27BE9-27BEC 2E653-2E654 30D9C 8C4C-8C4E 473A 27BED-27BF6 2B383 30D9D 473B-473F 27BF7-27BFB
    2E655 3209E 33084-33085 8C4F 4740-4742 27BFC-27C02 27C08 30D9E 8C50 21546 27C03-27C07 2B384
    2E656 30D9F 27C09-27C10 2C938 2E657 30DA0-30DA1 3209F 8C51 27C11-27C16 2C939 30DA2 320A0 4743
    27C17-27C18 2E658 27C19-27C1C 2E659 27C1D-27C1F 2C93A 30DA3 27C20 8C52 4744 27C21-27C22 33086
    8C53 27C23-27C24 8C54 27C25",
    "
    8C55 27C27-27C28 8C56 27C26 2B385 27C29 2C93B 2E65A 30DA4-30DA5 8C57 4745 27C2A-27C2D 8C58-8C5D
    4746-4748 27C2E-27C34 2B386 2C93C-2C93D 2E65B 8C5E-8C61 27C35-27C3E 2E65C-2E65E 30DA6 8C62-8C66
    4749 27C3F-27C4C 2E65F-2E660 33087 8C67-8C6A 27C4D-27C57 2B387-2B388 2C93E-2C940 474A-474C
    27C58-27C67 2C941-2C943 30DA7-30DA9 33088 8C6B-8C6E 474D-474E 27C68-27C71 2B389 2E661-2E663
    30DAA-30DAD 8C6F-8C73 27C72-27C7A 2C944-2C945 30DAE 320A1 8C74-8C75 474F 27C7B-27C81 2E664 8C77
    4750-4751 27C82-27C86 8C76 27C87-27C8B 2C946 30DAF 4752 27C8C-27C8F 2C947 320A2 4753
    27C90-27C93 27C97 27C94-27C96 320A3 27C98-27C99 4754-4755 27C9A-27C9E 30DB0 27C9F",
    "
    8C78 27CA0-27CA1 2E665 8C79-8C7B 27CA2-27CA3 2B38A 8C7C-8C7D 4756-4759 27CA4-27CAB 2E666-2E667
    33089 8C7E-8C83 475A-475B 27CAC-27CBD 2E668-2E669 320A4-320A5 3308A 8C84-8C8A 27CBE-27CC9 2B38B
    2C948 8C8B-8C8D 475C 27CCA-27CD8 2E66A 3308B 8C8E-8C8F 475D-475E 27CD9-27CE5 27CF1 2C949 320A6
    8C90-8C93 475F 27CE6-27CF0 27CF2-27CF4 2B38C 2E66B 3308C-3308D 8C94-8C96 4760 27CF5-27D00 2B38D
    8C97-8C99 4761-4762 27D01-27D05 27D07-27D0B 2C94A-2C94B 3308E-3308F 8C9A 4763-4766 27D06
    27D0C-27D0F 27D11-27D15 2C94C 2E66C 33090 27D10 27D16-27D1F 2C94D 320A7 27D20-27D22 8C9B-8C9C
    27D23",
    "
    8C9D 8D1D 2EDCC 8C9E-8CA0 27D24-27D29 2B38E 2C94E 2E66D 30DB1 33091 8D1E-8D20 8CA1-8CA4
    27D2A-27D32 2B38F-2B391 2E66E-2E671 30DB2 8D21-8D22 30DDE-30DE0 320BA 8CA5-8CAE 4767-4768
    27D33-27D48 2B392-2B393 2C94F-2C952 2E672-2E678 30DB3-30DBB 320A8-320A9 33092-33093 8D23-8D2F
    27E51 2C973 30DE1 320BB-320BD 330AB 8CAF-8CC1 4769-476F 27D49-27D62 2B394-2B395 2C953
    2E679-2E680 30DBC-30DBF 320AA-320AC 33094 8D30-8D3B 27E52 2B3A6-2B3A7 2C974-2C976 30DE2
    320BE-320C1 2EDCD 8CC2-8CCE 4770-4772 238EC 27D63-27D84 2B396 2C954-2C955 2E681-2E684
    30DC0-30DC4 320AD-320AF 33095-33098 8D3C-8D46 478C 2C977 8CCF-8CD8 3562 4773-4775 27D85-27D9A
    2B397-2B399 2C956-2C95A 2E685-2E68A 30DC5 33099 8D47-8D4A 27E53 2B3A8 2C978 2EDCE-2EDCF
    8CD9-8CEC 4776-477F 27D9B-27DB0 2B39A-2B39B 2C95B-2C95F 2E68B-2E694 30DC6-30DC8 320B0-320B1
    3309A-3309B 8D4B-8D55 478D-478E 27E54-27E56 2B3A9 2C979 30DE3-30DE5 320C2-320C3 8CED-8CF5
    4780-4784 2080B 27DB1-27DC4 27DC6-27DCB 2B39C-2B39E 2C960-2C962 2E695-2E699 30DC9 320B2-320B3
    3309C 8D56-8D57 478F-4790 2B3AA 2C97A-2C97D 30DE6-30DE7 320C4-320C5 330AC 8CF6-8CFD 4785-4786
    27DCC-27DDD 2B39F-2B3A0 2C963-2C965 2E69A-2E69D 30DCA-30DCC 320B4-320B5 3309D-3309F 8D58-8D5B
    2C97E 30DE8-30DEA 320C6 2EDD0 8CFE-8D00 8D02-8D05 4787 27DDE-27DFB 2B3A1 2C966-2C967
    2E69E-2E6A0 30DCD-30DD0 330A0-330A1 8D5C 27E57 8D06-8D0C 4788 27DFC-27E15 2B3A2 2C968
    2E6A1-2E6A6 30DD1-30DD7 330A2-330A4 8D5D-8D60 2B3AB 30DEB 8D0D-8D0F 4789 27E16-27E25 2C969
    2E6A7-2E6A8 8D61-8D62 30DEC 8D10-8D14 27E26-27E30 2C96A-2C96B 2C96D 2E6A9-2E6AB 30DD8-30DDA
    2B3AC 2C97F 30DED 8D15-8D18 478A 27E31-27E3C 27E3F 2B3A3-2B3A4 2C96E-2C970 2E6AC 30DDB 320B6
    330A5-330A6 8D19-8D1A 478B 27E3D-27E3E 27E40-27E47 2B3A5 2C96C 2C971 2E6AD 320B7 330A7-330A8
    30DEE 8D1B 27E48-27E4B 320B8 330A9 8D63 8D1C 27E4C-27E4D 30DDC-30DDD 330AA 27E4E-27E50
    2E6AE-2E6B0 2C972 2C980 320B9",
    "
    8D64 27E58-27E5A 4791 8D65-8D66 27E5B-27E5C 2C981 330AD 8D67 27E5D-27E5F 2B3AD 330AE-330AF
    8D68-8D6A 4792 27E60-27E62 2B3AE 2C982 30DEF 8D6B 4793-4794 27E63-27E66 2EDD1 27E67-27E6B 2B3AF
    320C7 8D6C-8D6E 27E6C-27E71 2C983 2E6B1 330B0 8D6F 27E72-27E77 2B3B0 27E78-27E7C 330B1-330B2
    320C8 4795 27E7D-27E81 2C984 27E82-27E85 30DF0",
    "
    8D70-8D71 27E86-27E87 2E6B2 330B3 8D72-8D75 9FAA 27E88-27E8E 330B4 8D76-8D78 4796-4798
    27E8F-27E9C 2C985 2E6B3 30DF1 320C9 330B5 8D79-8D7F 4799-479C 27E9D-27EB5 2B3B1 2C986-2C988
    2E6B4-2E6B5 30DF2 320CA 330B6-330B7 FA23 8D80-8D8B 479D-47A4 27EB6-27ECF 2B3B2 2C989-2C98B
    2E6B6-2E6B7 30DF3-30DF4 320CB 330B8-330B9 8D8C-8D94 47A5-47AA 27ED0-27EEE 2B3B3-2B3B4
    2C98C-2C98D 2E6B8-2E6B9 30DF5-30DF7 320CC 330BA 8D95-8D9A 47AB-47B2 27EEF-27F0D 27F1D
    2B3B5-2B3B7 2C98E-2C991 2E6BA-2E6BB 320CD-320CE 330BB-330BC 8D9B-8DA4 47B3-47B8 27F0E-27F1C
    27F1E 27F20-27F27 2B3B8-2B3BA 2C992-2C993 30DF8-30DF9 320CF 8DA5-8DA7 47B9-47BC 27F1F
    27F28-27F48 2B3BB-2B3BC 2C994-2C997 2E6BC 30DFA 320D0 330BD-330C0 8DA8 47BD-47C0 27F49-27F5D
    2B3BD 2C998-2C99C 2E6BD-2E6BE 30DFB-30DFD 320D1 330C1 47C1-47C6 27F5E-27F75 2B3BE-2B3BF
    2C99D-2C99E 30DFE 320D2 330C2-330C3 8DA9-8DAD 47C7 27F76-27F8C 2C99F 2E6BF 30DFF 320D3 330C4
    8DAE 47C8-47CB 27F8D-27F98 30E00 330C5-330C6 8DAF-8DB0 47CC 27F99-27FA0 47CD-47CF 27FA1-27FA7
    2E6C0 8DB1 47D0 27FA8-27FAD 47D1 27FAE-27FAF 47D2 27FB0-27FB4 8DB2 27FB5-27FB6",
    "
    8DB3 27FB7-27FB9 2E6C1 8DB4 47D3-47D4 27FBA-27FC0 2C9A0 2E6C2 30E01 320D4 8DB5-8DB8 47D5-47D6
    27FC1-27FD1 2B3C0 2C9A1-2C9A2 2E6C3-2E6C8 30E02-30E04 320D5-320D6 8DB9-8DBB 8DBD-8DC4 47D7-47DE
    27FD2-27FF1 2B3C1-2B3C3 2C9A3-2C9A7 2E6C9-2E6CE 30E05-30E07 320D7-320D9 330C7-330CA 8DC5-8DDE
    8DF5 47DF-47ED 27FF2-28014 2B3C4-2B3C6 2C9A8-2C9AB 2E6CF-2E6D6 320DA-320DC 330CB-330CF 8DBC
    8DDF-8DF4 8DF6-8DFB 47EE-47F3 28015-2803F 280CB 2B3C7-2B3CB 2C9AC-2C9B1 2E6D7-2E6D8 30E08-30E0F
    320DD-320E6 2EDD2 330D0-330D2 8DFC-8E0E 47F4-47FB 47FD 28040-28074 2B3CC-2B3CE 2C9B2-2C9B5
    2E6D9-2E6DF 30E10-30E13 320E7-320EA 330D3-330D5 8E0F-8E2A 8E2C-8E2F 8E3A 47FC 47FE-480C
    28075-2809C 2809F 2B3CF-2B3D3 2C9B6-2C9BB 2E6E0-2E6EE 30E14-30E19 320EB-320EF 330D6 8E2B
    8E30-8E39 8E3B-8E45 480D-4816 2809D-2809E 280A0-280CA 280CC-280D2 2B3D4-2B3D8 2C9BC-2C9C3
    2E6EF-2E6FF 30E1A-30E27 320F0-320FA 330D7-330D9 8E46-8E53 4817-481D 280D3-28102 28104
    2B3D9-2B3DB 2C9C4-2C9C9 2E700-2E708 30E28-30E29 320FB-32100 330DA-330DD 8E54-8E67 8E6E 8E80
    481E-4822 28103 28105-28149 2815A 2B3DC-2B3DF 2C9CA-2C9D0 2E709-2E713 30E2A 32101-32105
    330DE-330E0 8E68-8E6D 8E6F-8E7F 4823-4827 2814A-28159 2815B-28180 2B3E0-2B3E2 2B7E3 2C9D1-2C9D4
    2E714-2E718 30E2B-30E2F 32106-32107 330E1-330E4 8E81-8E89 4828-4829 28181-281A9 2B3E3-2B3E6
    2C9D5-2C9D7 2E719-2E71B 30E30-30E32 32108-32109 330E5-330E8 8E8A-8E8F 482A-482B 281AA-281C0
    2B3E7-2B3E8 2C9D8 2E71C-2E720 30E33-30E35 3210A-3210D 330E9-330EA 8E90-8E96 482C 281C1-281D5
    2C9D9 2E721-2E725 30E36-30E37 3210E-32110 330EB-330EC 8E97-8E9C 482D-482E 281D6-281E3 2B3E9
    2C9DA-2C9DB 2E726-2E72A 330ED-330EE 8E9D-8EA0 482F 281E4-281ED 2C9DC 2E72B-2E72C 32111-32113
    330EF-330F0 8EA1-8EA5 4830 281EE-281FA 30E38 32114 8EA6-8EA7 281FB-28200 2E72D 32115 8EA9-8EAA
    28201-28203 2C9DD 30E39 32116 8EA8 4831 28204-28207 2C9DE 28208-2820A 2C9DF 2820B-2820E",
    "
    8EAB 2820F-28211 2C9E0 32117 28212 8EAC 28213-28217 2E72E 330F1 8EAD-8EAF 28218-28228 2C9E1
    2E72F 30E3A 32118-3211B 2EDD3 330F2-330F4 8EB0 4832-4836 28229-28237 2C9E2 2E730 30E3B-30E3D
    3211C 2EDD4-2EDD5 8EB1-8EB2 4837-483A 28238-28247 2B3EA-2B3EB 2C9E3 2E731-2E735 3211D-3211F
    330F5-330F7 8EB3-8EB5 28248-28253 2B3EC 2E736-2E739 32120-32122 330F8-330F9 8EB6-8EBC 483B
    28254-28261 2C9E4-2C9EA 30E3E-30E40 32123-32126 330FA-330FD 8EBD-8EBE 483C 28262-28265
    28267-2826D 2C9EB 30E41-30E45 32127-32128 330FE 8EBF 483D-483E 28266 2826E-28278 2B3ED-2B3EE
    2C9EC-2C9EE 30E46 32129-3212B 330FF-33100 8EC0-8EC1 28279-2827E 2B3EF 2C9EF 33101 8EC2-8EC5
    483F 2827F-2828C 2B3F0 2C9F0 30E47 3212C 8EC6 4840 2828D-28292 2B3F1 2E73A-2E73C 3212D-3212F
    8EC7 28293-28297 32130 28298-2829A 4841 2829B-2829C 2E73D 8EC8 32131 2829D-2829E 2E73E 33102
    2829F 8EC9 32132",
    "
    8ECA 8F66 8ECB 30E48-30E49 8F67 30E6F 8ECC-8ECD 4842-4844 282A0-282A6 8F68 30E70-30E71 2EDD6
    8ECE-8ED5 4845 282A7-282B2 2B3F2 2E73F 30E4A-30E4B 8F69-8F6B 4880 2B404-2B405 30E72-30E75
    8ED6-8EE3 4846-484E 282B3-282CD 2B3F3 2C9F1 2E740-2E745 30E4C 32133 8F6C-8F70 4881 28405-28406
    2B406-2B407 2CA01-2CA03 2E773 30E76-30E7B 32140-32141 2EDD7-2EDD8 33113 8EE4-8EEC 8EEE-8EFD
    9FAB 484F-4852 282CE-282E7 2B3F4-2B3F5 2C9F2-2C9F4 2E746-2E74C 30E4D-30E50 32134 33103-33105
    8F71-8F7B 4882 28407 2B408-2B40A 2B7E4 2CA04-2CA05 2E774 30E7C-30E83 2EDD9 8EED 8EFE-8F0C
    4853-4857 282E8-28301 2C9F5 2E74D-2E751 30E51 32135-32136 33106 8F7C-8F83 28408 2B40B-2B40C
    2CA06-2CA07 2E775 30E84-30E86 2EDDA 8F0D-8F15 4858-485B 28302-2831F 2B3F6-2B3F8 2E752-2E753
    30E52 33107 8F84-8F86 2B40D 2CA08-2CA0B 2E776 30E87-30E88 32142 8F16-8F2C 485C-485F 28320-28346
    2B3F9 2C9F6-2C9F7 2E754-2E75C 30E53-30E5A 32137-32139 33108-33109 8F87-8F8E 2B40E-2B411 2CA0C
    30E89-30E91 2EDDB 8F2D-8F3C 4860-4864 28347-28368 2B3FA-2B3FB 2C9F8-2C9F9 2E75D-2E75F
    30E5B-30E5E 3213A 3310A-3310B 8F8F-8F94 2B412-2B413 2CA0D-2CA0F 2E777-2E778 30E92-30E95 2EDDC
    8F3D-8F45 4865-486A 28369-28389 2B3FC-2B3FD 2C9FA 2E760-2E762 30E5F-30E62 8F95-8F97 2B414 2B7E5
    2CA10-2CA11 30E96-30E97 2EDDD 8F46-8F4C 9FC2 486B-4871 2838A-283A3 2B3FE-2B3FF 2C9FB-2C9FD
    2E763-2E765 30E63 3213B-3213D 3310C-3310E 8F98 2B415-2B416 2CA12-2CA13 30E98-30E99 8F4D-8F54
    4872-4875 283A4-283B1 2B400 2E766-2E768 30E64-30E67 3310F-33111 8F99-8F9A 28409 2B417
    30E9A-30E9E 8F55-8F5A 4876 283B2-283C7 2863C 2B401 2C9FE 2E769-2E76B 30E68 2B418 2B7E6 2CA14
    2E779-2E77A 30E9F-30EA0 8F5B-8F5F 4877-4879 283C8-283D0 2B402 2E76C-2E76F 30E69 3213E 2CA15
    30EA1 8F60-8F62 487A-487B 283D1-283DD 2C9FF-2CA00 2E770-2E772 30E6A-30E6B 2B419 30EA2-30EA4
    8F63-8F64 283DE-283E8 3213F 2840A 487C 283E9-283F4 30E6C 487D 283F5-283F8 283FD 30E6D 8F65 487E
    283F9 283FB 283FE 283FA 283FC 283FF-28400 33112 28401-28402 487F 28403 30E6E 32143 2B403 28404",
    "
    8F9B 2840B-2840C 2CA16 32144 2840D-2840E 30EA5 2840F-28411 30EA6 8F9C-8F9D 28412-28413 2B41A
    2CA17-2CA19 8F9E-8FA0 28414-28417 2B41B-2B41C 30EA7 32145-32146 33114 8FA1-8FA3 28418-2841B
    2CA1A 2E77B 8FA4 4883 2841C-2841F 2E77C 30EA8 32147 8FA5-8FAA 28420-28427 30EA9 8FAB
    28428-2842F 8FAC 28430-28432 2E77D 30EAA 32148 8FAD 28435-28439 30EAB 33115 8FAE 4884
    2843A-2843C 2B41D 8FAF 2843D 30EAC 2843E-2843F 2CA1B 28440-28441 32149 28442",
    "
    8FB0 28443-28444 2E77E 33116 8FB1-8FB2 4885 28445-28447 30EAD 4886 3214A 8FB3 4887 28448-28449
    2E77F-2E780 8FB4 2844A 4888-4889 2844B-2844C",
    "
    8FB5-8FB6 20507 8FB7 2B41E 8FB8-8FBD 2844D-28450 2B7E7 2CA1C 30EAE 3214B 5DE1 8FBE-8FC9
    488A-488B 28451-28461 2B41F 2E781-2E783 30EAF-30EB3 3214C-3214F 33117 8FCA-8FDF 8FEC 488C-488F
    28462-28481 2B420-2B421 2CA1D-2CA20 2E784-2E785 30EB4-30EB5 32150-32152 2EDDE 33118-33119 FA24
    8FE0-8FEB 8FED-8FF3 4890-4891 28482-284A4 2B422-2B424 2CA21-2CA23 2E786-2E78E 30EB6 32153-32156
    2EDDF-2EDE0 3311A-3311C 8FF4-900A 4892-4898 284A5-284C4 2B425 2CA24-2CA25 2E78F-2E791
    30EB7-30EBA 32157-32159 3311D-3311E 900B-9027 4899-489B 284C5-284EA 2B426-2B42A 2CA26-2CA2C
    2E792-2E795 30EBB-30EBD 3215A-3215E 2EDE1 3311F-33121 9028-903B 489C-48A0 284EB-2850D
    2850F-2851C 28520 2B42B-2B432 2CA2D-2CA32 2E796-2E7A8 30EBE-30EC5 3215F-32165 2EDE2-2EDE3
    33122-33123 903C-9057 48A1 2850E 2851D-2851F 28521-2855C 2B433-2B439 2B7E8-2B7E9 2CA33-2CA39
    2E7A9-2E7B5 30EC6-30EC8 32166-3216B 2EDE4 33124-33126 9058-9065 48A2-48A5 2855D-28585
    2B43A-2B43D 2CA3A-2CA3F 2E7B6-2E7BC 30EC9-30ECD 3216C-3216D 2EDE5-2EDE6 33127 9066-9071 9073
    48A6-48A9 28586-285B3 2B43E-2B443 2CA40-2CA48 2E7BD-2E7C8 30ECE-30ED1 3216E-32173 2EDE7
    33128-3312C 9072 9074-907C 9086 48AA-48AD 285B4-285D2 285D4-285E4 2B444-2B44A 2CA49-2CA50
    2E7C9-2E7CF 30ED2-30ED5 32174-3217F 3312D-33132 907D-9085 9089 48AE 285E5-28606 2B44B 2B7EA
    2CA51-2CA5B 2E7D0-2E7D7 30ED6-30EDA 32180-32184 33133-33135 9087-9088 48AF-48B0 28607-28620
    2912E 2B44C-2B44F 2CA5C-2CA63 2E7D8-2E7DC 33136-33139 908A-908C 48B1 28621-28636 2B450-2B451
    2CA64-2CA6A 2E7DD-2E7E1 32185-32186 3313A 908D 28637-2863B 2863D-28641 2CA6B-2CA6E 2E7E2-2E7E3
    30EDB 32187 3313B 908E 28642-28651 2B452-2B455 2E7E4-2E7E6 32188 3313C 28652-28658 2B456
    2CA6F-2CA72 2E7E7 30EDC 32189-3218A 3313D 908F-9090 28659-2865E 3218B-3218D 48B2 2865F-28663
    3313E 28664-28665 2E7E8 3218E 3313F 28666 2E7E9 28667 33140-33143 30EDD-30EDE",
    "
    9091 28668 9092-9093 48B3 28669-2866A 2CA73-2CA74 9094-909D 48B4 2866B-28675 2B457 2E7EA-2E7EB
    30EDF-30EE0 3218F 33144 909E-90AC 48B5-48B7 28676-28692 2B458-2B459 2CA75-2CA76 2E7EC-2E7EE
    30EE1-30EE6 2EDE8-2EDE9 90AD-90BB 48B8-48BA 28693-286AE 2B45A-2B45B 2B7EB 2CA77-2CA79
    2E7EF-2E7F6 30EE7-30EE8 90BC-90D1 90D3 48BB-48C2 286AF-286CA 2B45C 2CA7A-2CA7D 2E7F7-2E7FA
    30EE9 32190-32191 33145 90D2 90D4-90E7 48C3-48C9 286CB-286EA 2B45D-2B45F 2B737 2CA7E-2CA84
    2E7FB-2E7FC 30EEA-30EEC 32192-32194 2EDEA 33146-33147 90E8-90F8 48CA-48CF 286EB-2870E
    2B460-2B462 2B7EC 2CA85-2CA8A 2E7FD-2E7FF 30EED-30EF1 32195-32196 2EDEB 90F9-910A 48D0-48D2
    2870F-28716 28718-28731 2B463-2B464 2B7ED 2CA8B-2CA90 2E800-2E802 30EF2-30EF3 32197-32198
    2EDEC-2EDED 33148 910B-9117 48D3-48D7 28717 28732-2874A 2B465-2B466 2E803-2E805 30EF4-30EF8
    32199 33149 9118-9125 48D8-48DC 2874B-2876A 28779 2B467-2B469 2CA91-2CA94 2E806 30EF9-30EFB
    3219A 3314A 9126-9132 48DD-48E0 2876B-28778 2877A-28790 2CA95-2CA96 2E807-2E809 30EFC
    3219B-3219D 3314B-3314C 9133-9137 48E1 28791-287A6 2B46A-2B46B 2CA97-2CA9B 2E80A-2E80E 30EFD
    3219E 3314D-3314E 9138-9139 48E2 287A7-287B9 2B46C 2CA9C 2E80F-2E810 30EFE 3219F-321A0 3314F
    913A-913E 287BA-287CC 2B46D 2CA9D-2CA9F 2E811-2E812 30EFF 321A1-321A3 913F-9140 9142
    287CD-287D8 2B46E-2B470 2CAA0-2CAA2 30F00-30F01 9141 9143 287D9-287DF 2CAA3-2CAA4 2E813
    9144-9146 287E0-287E3 2B471 2E814 9147-9148 287E4-287E7 321A4 48E3-48E4 287E8-287EE 2CAA5 287EF
    2B472 30F02",
    "
    9149 2E815 914A-914B 48E5-48E6 2E816-2E817 914C-9152 48E7-48E8 287F0-287F3 2B473 2E818-2E81A
    30F03 321A5-321A7 9153-915E 48E9-48ED 287F4-2880A 2CAA6-2CAA7 2E81B-2E820 30F04 321A8-321A9
    915F-9165 48EE-48F3 2880B-28823 2CAA8 2E821-2E824 30F05-30F06 33150-33151 9166-9171 48F4-48F9
    28824-28836 2B474-2B475 2B7EE 2CAA9 2E825-2E82A 321AA-321AC 33152-33155 9172-917F 48FA-48FB
    28837-2884B 2B476-2B478 2CAAA-2CAAC 2E82B-2E82D 30F07-30F09 321AD-321AF 33156-33157 9180-918C
    48FC-48FF 2884C-28868 2B479 2E82E-2E834 30F0A-30F0C 321B0-321B1 33158-33159 918D-9197 4900-4908
    28869-28884 2CAAD-2CAB1 2E835-2E83B 30F0D-30F0E 321B2-321B4 9198-91A4 4909-490C 28885-288A0
    2B47A 2CAB2-2CAB5 2E83C 30F0F 321B5-321B9 3315A-3315B 91A5-91AC 490D 288A1-288BC 2B47B 2CAB6
    2E83D-2E840 30F10-30F12 321BA 3315C-3315F 91AD-91B1 490E-4912 288BD-288D5 2B47C-2B47D
    2E841-2E844 30F13-30F14 321BB 91B2-91B8 288D6-288E5 2CAB7-2CAB9 2E845-2E846 321BC-321BE
    33160-33161 91B9-91BB 4913-4914 288E6-288ED 2B47E 2E847-2E84A 30F15 321BF 4915-4916 288EE-288F5
    2E84B-2E84C 30F16 33162 91BC 288F6-288FD 2B47F 33163 91BD-91C0 4917-4918 288FE-28902 2E84D
    91C1-91C2 28903-28904 91C3-91C4 28905-28906 91C5 28907-28909 4919 2890A-2890C 33164 2890D-2890E",
    "
    91C6-91C7 2890F 2CABA 2E84E 33165 91C8 28910-28911 2E84F 30F17 91C9-91CA 2B480 2CABB
    28912-28914 321C0 28915-28917 33166 28918-28919 2E850 24CDB 2891A-2891D 2E851 33167 91CB 2891E
    33168 2891F-28921",
    "
    91CC 30F18 91CD 2B7EF 28923-28924 91CE 491A 28922 28925 2B481 2E852 30F19 91CF 28926-28929
    2B482 2CABC-2CABD 2E853 321C1 2892A-2892B 2CABE 2E854-2E856 2892C 2B483 2E857-2E858 321C2 33169
    2892D-2892F 2E859 28930-28931 2E85A 30F1A-30F1D 2EDEE 3316A 218E2 28932-28933 2B484 2CABF-2CAC0
    30F1E 3316B 91D0 28934-28937 2E85B 3316C 2B485 2E85C-2E85D 3316D 258F7 28938 2CAC1 2E85E-2E862
    321C3 3316E 28939-2893A 321C4 2E863 2893B-2893C",
    "
    91D1-91D2 9485 91D3-91D4 9486-9487 91D5-91E2 491B 2893D-28941 3316F 9488-948C 2B4E5 2B7F2
    30F55-30F56 91E3-91FC 491C 28942-28949 2B486-2B489 2E864-2E866 30F1F-30F20 948D-9497
    28C3E-28C3F 2B4E6 2B7F3 2CB27-2CB2A 2E8F2 30F57-30F5B 321ED-321F0 2EDF5-2EDF6 91FD-922C
    491D-4920 2894A-28964 2B48A-2B48E 2CAC2-2CAC5 2E867-2E86D 30F21-30F23 321C5-321C7 33170-33172
    9498-94AF 497A-497C 28C40-28C42 2B4E7-2B4EB 2B7F4-2B7F5 2CB2B-2CB36 2E8F3 30F5C-30F64
    321F1-321F6 2EDF7-2EDFD 331E9 922D-9274 928F 9FAF 4921-4923 28965-28981 2B48F-2B494 2CAC6-2CACC
    2E86E-2E870 30F24-30F26 321C8-321C9 2EDEF 33173-33178 94B0-94CE 9FED 497D-497F 28C43-28C46
    2B4EC-2B4EE 2B7F6-2B7F7 2CB37-2CB42 30F65-30F71 321F7-321F8 2EDFE-2EE03 331EA 9275-927B
    927D-928E 9290-92B1 4924-492A 28982-2899D 2899F-289AB 2B495-2B49C 2B7F0 2CACD-2CAD3 2E871-2E877
    30F27-30F2C 321CA-321CD 33179-3317B 94CF-94F7 4980 2B4EF-2B4F4 2B7F8-2B7FB 2CB43-2CB49
    30F72-30F7D 321F9-321FC 2EE04-2EE08 92B2-92F6 492B-4932 289AC-289E5 2B49D-2B4A5 2CAD4-2CAE0
    2E878-2E881 30F2D-30F34 321CE-321CF 2EDF0 3317C-33180 FA27 94F8-9515 9FCF 4981 28C47-28C48
    2B4F5-2B4F7 2B7FC 2CB4A-2CB50 2E8F4 30F7E-30F8B 321FD-32200 2EE09-2EE0F 331EB 927C 92F7-9327
    9329-9346 9348 9FAC 4933-4936 289E6-28A2E 2B4A6-2B4AF 2CAE1-2CAEC 2E882-2E898 30F35-30F3A
    321D0-321D1 2EDF1-2EDF3 33181-3318C FA28 9516-9531 28C49-28C4C 2B4F8-2B4FF 2B7FD 2CB51-2CB5D
    2E8F5 30F8C-30F93 32201-3220A 2EE10-2EE13 331EC-331ED 9328 9347 9349-9387 4937-493C 28A2F-28A86
    2B4B0-2B4B7 2CAED-2CAF2 2E899-2E8A7 30F3B-30F41 321D2-321D3 3318D-33199 9532-9545 28C4E
    2B500-2B504 2B7FE-2B7FF 2CB5E-2CB65 30F94-30FA6 3220B-32211 2EE14-2EE18 331EE 9388-93A8
    93AA-93BF 9FB2 493D-4947 28A87-28ACE 2B4B8-2B4BE 2B7F1 2CAF3-2CAFE 2E8A8-2E8B3 30F42-30F43
    321D4-321DC 3319A-331A6 9546-9555 9FD4 4982 28C4D 28C4F 2B505-2B508 2B800 2CB66-2CB6B 2E8F6
    30FA7-30FAF 32212-32214 2EE19-2EE1C 331EF 93A9 93C0-93F2 93F9 4948-4953 28ACF-28B0C 2B4BF-2B4C3
    2CAFF-2CB04 2E8B4-2E8BD 30F44-30F45 321DD-321E0 331A7-331B6 9556-9560 28C50 28C52 2B509-2B50A
    2CB6C-2CB72 30FB0-30FB2 32215-32218 2EE1D-2EE20 331F0-331F1 93F3 93F5-93F8 93FA-9428 4954-495C
    28B0D-28B14 28B16-28B54 2B4C4-2B4CE 2CB05-2CB0A 2E8BE-2E8CE 30F46-30F4C 321E1-321E5 2EDF4
    331B7-331C8 9561-956B 4983-4985 28C51 28C53-28C54 2B50B-2B50F 2CB73-2CB79 30FB3-30FBD
    32219-3221C 2EE21-2EE22 331F2 93F4 9429-9441 495D-4966 28B15 28B55-28B91 2B4CF-2B4D5
    2CB0B-2CB11 2E8CF-2E8D8 30F4D 321E6-321E7 331C9-331CE 956C-9571 28C55-28C56 2B510-2B511
    2CB7A-2CB7D 2E8F7 30FBE-30FC1 3221D-3221E 331F3-331F4 9442-9454 9467 4967-496E 28B92-28BB7
    2B4D6-2B4DA 2CB12-2CB17 2E8D9-2E8DD 30F4E-30F51 331CF-331D4 9572 2B512 2B801 2CB7E 30FC2
    9455-9466 496F-4974 28BB8-28BDC 2B4DB-2B4DC 2CB18-2CB1B 2E8DE-2E8E4 30F52 321E8-321EB
    331D5-331D7 9573-9574 2CB7F 30FC3-30FC5 2EE23 9468-946C 4975-4977 28BDD-28BF9 2B4DD-2B4DF
    2CB1C-2CB1E 2E8E5-2E8E9 321EC 331D8-331DE 2B513 2CB80 30FC6-30FC7 3221F-32220 946D-9473 4978
    28BFA-28C08 28C31 2B4E0-2B4E2 2CB1F-2CB20 2E8EA-2E8EB 331DF 9575-9576 2CB81 30FC8 9474-947A
    28C09-28C1D 2B4E3 2CB21-2CB22 2E8EC-2E8ED 331E0-331E2 2B514 30FC9 32221 947B-947F 28C1E-28C28
    2B4E4 2E8EE 331E3 2B515 2CB82 30FCA 9480-9482 28C29-28C30 2CB23 2E8EF 331E4 4986 2CB83
    9483-9484 4979 28C32-28C36 2CB24 28C37-28C39 2CB25 30F53 331E5 28C3A 2CB26 28C3B 2E8F0 331E6
    28C3C 331E7-331E8 28C3D 2E8F1 30F54",
    "
    9577-9578 28C57-28C58 957F 28C59 9579 4987 2E8F8 30FCB 32224 957A 28C5A-28C65 2E8F9-2E8FA 30FCC
    2EE24 30FD6 957B 4988-4989 28C66-28C71 2E8FB 498A 28C72-28C7F 2B516 2CB84 2E8FC-2E8FD 30FCD
    32225 28C80-28C86 2E8FE-2E8FF 30FCE-30FD0 957C 28C87-28C92 2B517 2E900-2E901 30FD1 331F5 2147A
    28C93-28C9D 30FD2 331F6 28C9E-28CA4 2E902 30FD3 498B 28CA5-28CAC 2E903-2E904 30FD4-30FD5 957D
    28CAD-28CB2 32222 28CB3-28CB7 2E905-2E906 32223 957E 28CB8-28CC6",
    "
    9580 28CC7-28CC8 95E8 9581-9582 28CC9 2B518 95E9 30FE5 9583-9585 28CCA-28CCF 2CB85 30FD7 95EA
    2CB98 2E92B 30FE6 9586-958A 498C-498D 28CD0-28CD6 2B519 2CB86 2E907 30FD8-30FDB 32226 331F7
    95EB-95EF 28DFF-28E01 2B52C 2CB99-2CB9B 2E92C-2E92D 30FE7 958B-9597 498E-4991 28CD7-28CF2
    2B51A-2B51B 2CB87-2CB88 2E908-2E909 30FDC-30FDD 32227 331F8 95F0-95F7 28E02-28E03 2B52D-2B52F
    2CB9C-2CB9F 2E92E-2E930 30FE8-30FEB 32235-32238 33211-33212 9598-95A0 4992-4994 28CF3-28D0C
    2B51C-2B520 2CB89 2E90A-2E90D 30FDE 32228-32229 331F9 95F8-95F9 2B530 2B802 2CBA0-2CBA1
    2E931-2E932 30FEC-30FED 33213 95A1-95AA 4995-499B 28D0D-28D26 2E90E-2E90F 30FDF 3222A
    331FA-331FB 95FA-9602 49B6 28E04-28E05 2B531 2CBA2-2CBA7 2E933 30FEE 32239-3223C 2EE25 33214
    95AB-95B4 499C-499F 28D27-28D47 2B521-2B524 2CB8A-2CB8C 3222B 331FC-33200 9603-9606 49B7
    2B532-2B533 2CBA8-2CBAA 30FEF-30FF0 3223D-3223F 33215-33216 95B5-95B6 95B8-95C2 49A0-49A8
    28D48-28D64 2B525-2B527 2E910-2E916 30FE0-30FE2 3222C-3222D 33201 9607-9610 2B534 2CBAB-2CBB0
    2E934-2E936 30FF1-30FF3 32240 2EE26 95B7 95C3-95CF 49A9-49AF 28D65-28D7F 2B528 2CB8D-2CB8E
    2E917-2E91B 30FE3 3222E 33202-33203 9611-9615 49B8 28E06-28E08 2CBB1-2CBB5 2E937 30FF4-30FF6
    32241-32243 95D0-95D8 28D80-28D9B 2CB8F-2CB91 2E91C-2E91E 3222F-32230 33204-33206 9616-9619
    28E09-28E0A 2B535-2B536 30FF7-30FF8 32244-32245 2EE27 33217 95D9-95DD 49B0 28D9C-28DAB 2B529
    2CB92 2E91F-2E921 32231-32234 33207-3320B 961A 2B537-2B538 2CBB6-2CBB7 30FF9-30FFA 32246 33218
    95DE-95E1 49B1 28DAC-28DC2 2CB93 2E922-2E925 3320C 28E0B-28E0C 2CBB8-2CBB9 2E938 30FFB-30FFC
    95E2-95E6 49B2-49B4 28DC3-28DD3 28DD5-28DD7 2B52A 2CB94-2CB95 2E926-2E927 961B 30FFD-30FFE
    32247 95E7 49B5 28DD4 28DD8-28DDE 2CB96 2E928 30FE4 3320D-3320F 28E0D 2B539 30FFF-31000 32248
    33219 28DDF-28DE5 2CB97 28DE6-28DEE 28DF6 2E929 28DEF-28DF5 28DF8 2B52B 2E92A 28E0E 28DF7
    28DF9-28DFB 33210 28DFC-28DFE",
    "
    961C-961D 28E0F 3321A 961E-961F 49B9-49BA 28E10-28E15 9620-9624 49BB 28E16-28E19 2B53A 2CBBA
    2E939 31001-31002 3321B 9625-9636 49BC-49C0 20072 28E1A-28E29 2B53B 2CBBB-2CBBD 2E93A-2E93B
    31003-31005 32249-3224A 3321C 9637-9649 49C1-49C3 28E2A-28E40 2B53C-2B53D 2CBBE 2E93C-2E93F
    31006-3100A 3224B-3224D 3321D-3321E 964A-9655 49C4-49C8 28E41-28E57 2B53E-2B540 2CBBF-2CBC0
    2E940-2E945 3100B-31010 3224E-3224F 9656-9659 965B-9669 49C9-49CF 28E58-28E73 2B541-2B543
    2CBC1-2CBC3 2E946-2E94B 31011-31016 32250-32252 3321F-33221 965A 966A-967A 49D0-49D6
    28E75-28E9D 2B544-2B545 2CBC4-2CBCA 2E94C-2E951 31017-31020 32253-32255 2EE28 33222-33225
    967B-968E 9690 49D7-49D9 28E9E-28EBF 2B546-2B54D 2B803 2CBCB-2CBCF 2E952 31021-31029
    32256-3225B 2EE29 33226 968F 9691-9699 49DA-49DF 28EC0-28EED 2B54E-2B54F 2CBD0-2CBD3
    2E953-2E95A 3102A-3102B 3225C-3225D 33227-33228 FA29 969A-96A1 49E0-49E3 28EEE-28F09
    2B550-2B553 2CBD4-2CBD8 2E95B-2E95F 3102C-31030 3225E-32261 2EE2A 33229-3322D 96A2-96A5
    49E4-49E6 49E9 28F0A-28F29 2B554-2B557 2CBD9-2CBDB 2E960-2E964 31031-31036 3322E-33230
    96A6-96AB 49E7-49E8 49EA 28F2A-28F3E 2CBDC-2CBDF 2E965-2E969 31037-3103A 33231-33232 96AC-96B2
    49EB-49ED 28F3F-28F4C 2CBE0 2E96A-2E96E 3103B 32262 33233-33234 96B3 28F4D-28F55 2CBE1 2E96F
    3103C-3103F 32263 33235 96B4 49EE 28F56-28F61 2B558 2E970 31040-31042 96B5 49EF 28F62-28F65
    2CBE2-2CBE4 2E971 32264 33236 49F0 28F66-28F6B 2CBE5-2CBE7 31043-31044 33237 28F6C-28F6D 2CBE8
    32265 33238-33239 28F6E-28F6F 2E972 32266 28F70-28F71 2CBE9 2E973 9FE7 28F72-28F75",
    "
    96B6 2E974 28F76-28F7B 2B559 96B7 28F7C-28F7E 96B8 28F7F 2E975 28F80-28F84",
    "
    96B9-96BE 49F1 28F85-28F87 31045 32267 96BF-96C0 49F2-49F3 28F88-28F91 2E976 31046-31048 32268
    3323A 96C1-96C8 49F4-49F6 28F92-28F9F 2B55A 2CBEA 2E977-2E97A 31049 32269 96C9-96CF 49F7-49FA
    28FA0-28FB1 2CBEB 2E97B 3226A 96D0-96D2 49FB 28FB2-28FCA 2B55B 2CBEC-2CBED 3226B 96D3 49FC-49FD
    28FCB-28FDF 2CBEE 2E97C 3323B 96D4-96D5 49FE-49FF 28FE0-28FFE 2CBEF-2CBF0 2E97D-2E97F
    3226C-3226D 96D6 4A01-4A02 28FFF-29016 2CBF1 2E980 3104A 3226E 3323C-3323D 96D7-96E0 4A03
    29017-29023 2B55C 2E981 3104B 3323E 96E1-96E3 4A04 29024-29033 3104C 4A05-4A07 29034-29046
    2CBF2-2CBF4 3104D 3323F 96E4 29047-29052 3226F 4A08 29053-2905B 2CBF5-2CBF6 3104E-3104F
    2905C-29066 2CBF7 96E5-96E6 29067-2906B 2E982 33240 4A09 2906C-29071 2E983 31050 96E7
    29072-29073 4A0A 29074-29075",
    "
    96E8 2E984 29076-29078 2B55D 31051 32270 96E9-96EB 4A0B 29079-29081 2B55E 2CBF8 2E985 2EE2B
    33241 96EC-96F3 4A0C-4A0D 29082-29091 2B55F-2B560 2CBF9-2CBFA 2E986-2E989 32271-32272
    33242-33243 96F4-96FE 4A0E 29092-290A1 2B561-2B562 2CBFB 2E98A-2E98D 31052-31053 32273-32274
    2EE2C 33244-3324B 96FF-9701 4A0F-4A16 290A2-290B6 2B563-2B564 2E98E-2E98F 32275-32277
    3324C-3324D 9702-970A 4A17-4A19 290B7-290D1 2B565-2B566 2CBFC-2CBFD 2E990-2E993 31054-3105A
    32278 3324E-33254 970B-9717 4A1A-4A1D 290D2-290F4 2B567-2B568 2CBFE-2CC03 2E994-2E99B
    3105B-3105F 32279-32281 33255-3325A 9718-9720 4A1E-4A24 290F5-290FD 290FF-29116 2B569-2B56A
    2CC04-2CC07 2E99C-2E9A3 31060-31062 3325B-3325C 9721-9725 4A25-4A2A 290FE 29117-2912D
    2912F-2913A 2B56B 2CC08 2E9A4-2E9AB 32282-32283 3325D-33264 9726-972D 4A2B-4A2F 2913B-2915C
    2B56C-2B56D 2CC09-2CC0A 2E9AC 31063 32284-32287 33265-3326C 972E-9734 4A30-4A31 2915D-2917B
    2B56E-2B571 2CC0B-2CC0D 2E9AD-2E9B2 32288-32289 3326D-33275 9735-973B 2917C-29190 2B572
    2CC0E-2CC10 2E9B3-2E9B6 3228A 33276-33277 973C-9740 4A32-4A34 29191-291A3 291AC 2B573-2B574
    2CC11-2CC14 2E9B7-2E9BB 31064 3228B-3228C 33278-3327B 9741 4A35-4A36 291A4-291AB 2E9BC
    31065-31068 3228D-32290 3327C-3327E 9742-9748 4A37 291AD-291B4 2B575-2B576 2E9BD 31069
    3327F-33281 9749 4A38 291B5-291BE 2E9BE 33282-33284 974A 291BF-291C7 2E9BF 32291-32292
    33285-33287 974B-974E 9FE8 4A39 2CC15 2E9C0-2E9C1 32293 33288-33289 291C8-291C9 32294
    3328A-3328C 974F 291CA-291CE 2B577 2CC16 2E9C2 3328D-3328F 291CF 3106A 33290 291D0-291D1 3106B
    33291-33292 4A3A 33293 291D2 9750 33294 291D3-291D4 4A3B 3106C",
    "
    9751-9752 291D5 2B578 32295 9753-9754 291D6-291D7 9755-9756 291D8-291DB 2B579-2B57A 2CC17-2CC18
    2E9C3 9757-9759 291DC 32296 2EE2D 33295 975A 3106D-3106E 32297 33296-33297 975B-975C
    291DD-291DE 2B57B 291DF 975D 291E0 32298 291E1 2B57C 291E2-291E3 4A3C 291E4-291E5",
    "
    975E 291E6-291E8 4A3D-4A3E 291E9-291EC 2CC19 33298 975F 4A3F 291ED-291F4 2E9C4 291F5-291F6
    2CC1A-2CC1B 2E9C5-2E9C6 33299 291F7 2B57D 2E9C7 9760 4A40 291F8-291FB 2CC1C 291FC-291FD 2CC1D
    32299 9761 2CC1E 4A41 291FE-29201 3106F 3329A 2B57E 2CC1F 2E9C8 2B57F 29202",
    "
    9762-9763 20691 29203-29205 2E9C9 4A42-4A44 29206-2920C 9764 4A45-4A47 2920D-29218 2B580 2CC20
    2E9CA-2E9CB 9765 24382 29219-29220 2B581 2E9CC 9766 4A48-4A49 29221-2922A 2B582 2E9CD 4A4A
    2922B-29231 2CC21 2E9CE 3329B 29232-29237 2B583 2E9CF 3229A 29238-2923A 31070 4A4B 2923B-29240
    2B584 2CC22-2CC23 2E9D0 9767 4A4C-4A4D 29241-29249 2E9D1-2E9D2 4A4E 2924A-2924B 9768
    2924C-29250 4A4F 29251-2925A",
    "
    9769 2E9D3 976A 2925B-2925C 976B-9771 4A50-4A52 2925D-29260 31071 9772-9779 4A53-4A58
    29261-29277 2E9D4 31072 3229B 2EE2E 977A-9786 4A59-4A5E 29278-2928F 2B585-2B586 2E9D5-2E9D7
    31073 3229C 9787-9792 4A5F 29290-292A8 2B587-2B588 2CC24 2E9D8-2E9D9 31074-31075 3229D
    3329C-3329D 9793-9799 4A60-4A67 292A9-292BE 2CC25 2E9DA-2E9DD 31076 3229E 3329E 979A-97A1
    4A68-4A6E 292BF-292DE 2CC26 2E9DE 31077 3329F 97A2-97B0 4A6F-4A75 292DF-29302 2CC27 2E9DF-2E9E2
    31078-3107A 332A0-332A2 97B1-97B7 4A76-4A7B 25315 29303-29325 2E9E3-2E9E5 3107B-3107C 3229F
    332A3-332A5 97B8-97BB 4A7C-4A7E 29326-29342 2B589 2E9E6-2E9E9 97BC-97BF 4A7F-4A84 29343-29352
    2B58A 2CC28-2CC29 2E9EA-2E9EB 3107D 97C0-97C3 4A85-4A86 29353-29364 2B58B 2E9EC-2E9ED
    332A6-332A7 97C4-97C5 4A87-4A88 29365-29371 322A0 332A8 97C6-97C8 4A89 29372-29377 332A9
    4A8A-4A8B 29378-2937A 2937C-2937E 3107E 322A1 97C9 4A8C-4A8D 2937F-29386 4A8E 29387-2938A 97CA
    2938B-29391",
    "
    97CB 2E9EE-2E9F0 97E6 2B58C 97CC 29392 3107F 97E7 2CC31 4A8F 29393-29397 2B58D 2CC2A 31080
    322A2 293FC 2B591 2CC32 2E9F4 31083 97CD-97CE 4A90-4A93 29398-293A3 31081 97E8 293FD-293FE
    2CC33-2CC34 31084-31085 322A5 97CF-97D1 293A4-293AE 2B804 2CC2B-2CC2D 2E9F1 2B592 2E9F5
    31086-31088 2EE2F 97D2 4A94 293AF-293B7 31082 31089 97D3-97D5 4A95 293B8-293C4 2B58E 97E9 2B593
    97D6-97DA 4A96-4A98 293C5-293CE 2CC2E 2E9F2 322A3-322A4 97EA-97EB 293FF-29400 2B805 2CC35 3108A
    2EE30 97DC-97DF 4A99-4A9A 293CF-293D7 332AA 97EC 2B594-2B595 97DB 97E0 293D8-293DF 2B58F
    97E1-97E2 4A9B 293E0-293E7 2E9F3 2B596 2CC36 97E3 4A9C 293E8-293ED 2CC37 3108B 4A9D 293EE-293F1
    2CC2F 3108C 97E4-97E5 293F2-293F3 2B590 293F4 2CC38 293F5 2CC30 293F6-293FB",
    "
    97ED-97EE 4A9E 29401-29402 322A6 3108D 97EF 4A9F 29403 97F0 29404 97F1 4AA0 29405-29408 97F2
    4AA1-4AA2 29409-2940A 4AA3 2940B 2940D-2940E 3108E 4AA4 2940C 2940F-29413 4AA5 29414-29416",
    "
    97F3 7ADF-7AE0 4AA6-4AA8 29417 2E9F6-2E9F7 3108F 2EE31 97F4-97F5 4AA9 29418-29419 2B597
    2EE32-2EE33 332AB 97F6-97F7 4AAA 2941A-2941D 2B598 2CC39-2CC3B 2E9F8 332AC-332AD 2941E-29426
    2CC3C 2E9F9-2E9FA 322A7 332AE-332AF 97F8 4AAB-4AAC 29427-2942C 2CC3D 2E9FB 31090-31091
    2942D-29430 322A8 332B0 97F9-97FA 4AAD 29431-29434 2B599 2E9FC 31092-31093 322A9 332B1
    97FB-97FC 4AAE-4AAF 29435-29438 2E9FD 97FD-97FF 29439-2943E 2B59A 2943F-29441 2B59B 2E9FE 332B2
    4AB0 29442-29446 2E9FF 9800 29447-29448 2B59C 2CC3E 29449-2944A",
    "
    9801 2944B 9875 9802-9804 2944C-2944F 2CC3F 9876-9877 2CC53 9805-9809 4AB1-4AB2 29450-29458
    2CC40 9878-987B 2B5AA 310A0 322B9 2EE34 980A-9813 4AB3-4AB5 29459-2946F 2B59D 2EA00-2EA02
    31094-31095 987C-9884 2B5AB 2B806 2CC54-2CC55 310A1 9814-981A 4AB6-4ABE 29470-2948E 2B59E
    2CC41-2CC42 2EA03-2EA06 322AA-322AC 9885-9888 2B5AC-2B5AD 2CC56-2CC5A 310A2 322BA-322BB
    981B-9823 9826-982C 4ABF-4AC2 2948F-294AD 2CC43 2EA07-2EA0A 31096-31097 322AD-322AE 332B3
    9889-988F 2B5AE-2B5B1 2CC5B-2CC62 310A3-310A8 9824-9825 982D-983D 4AC3-4ACA 294AE-294DC
    2B59F-2B5A0 2CC44-2CC47 2EA0B-2EA0C 31098-31099 322AF 332B4 9890-9896 2B5B2-2B5B3 2CC63-2CC65
    310A9-310AC 322BC-322BD 983F-984A 4ACB-4AD3 294DD-294FF 2B5A1 2CC48-2CC49 2EA0D-2EA14
    322B0-322B2 332B5 9897 29595-29596 2B5B4-2B5B6 2CC66-2CC6C 310AD-310B0 2EE35 332BF 983E
    984B-9855 4AD4-4ADD 29500-29518 2B5A2-2B5A3 2CC4A-2CC4B 2EA15-2EA16 322B3-322B4 9898-989D 2B5B7
    2CC6D-2CC6F 310B1-310B3 322BE-322C0 2EE36-2EE38 9856-985E 4ADE-4AE7 29519-29532 2B5A4
    2EA17-2EA1B 3109A-3109C 322B5-322B6 332B6-332B9 989E-98A1 2B5B8 2CC70 310B4-310B9 322C1
    985F-9863 4AE8-4AEB 29533-29548 2B5A5-2B5A6 2CC4C-2CC4D 2EA1C-2EA1D 322B7 332BA 2B5B9 310BA
    9864-9868 4AEC-4AF1 29549-2955E 2B5A7 2CC4E 2EA1E-2EA1F 3109D 322B8 98A2-98A3 2CC71 310BB 322C2
    2EE39-2EE3A 9869-986B 4AF2-4AF4 2955F-2956B 2B5A8 2CC4F 2EA20-2EA21 332BB-332BD 98A4 29597
    322C3 986C-986F 2956C-2957D 3109E 332BE 98A5 2CC72 9870 4AF5-4AF6 2957E-29585 2B5A9 2CC50
    2EA22-2EA23 98A6 2B5BA 9871-9872 4AF7 29586-29588 2EA24-2EA25 29589-2958E 2CC51 3109F 98A7
    2CC73 9873-9874 2958F-29593 2CC52",
    "
    98A8 98CE 322C4 4AF8 29598-29599 2EA26 98A9-98AA 4AF9 2959A-295A1 332C0-332C1 98CF 310D4
    98AB-98AC 4AFA-4AFD 295A2-295AF 295B1-295B3 2B5BB 2EA27 310BC 2B5C7 2B807 2CC75 2CC77 310D5
    322CE-322CF 2CC76 98AD-98B1 4AFE-4B03 295B4-295C3 2EA28 310BD-310BF 332C2 98D0-98D2 29665-29666
    2B808 2CC78 2CC7A 310D6-310D7 322D0 2B5BC 2CC79 2CC7B 98B2-98B3 4B04-4B05 2066C 295C4-295D2
    2EA29-2EA2B 332C3 2CC7C 310D8-310DA 98B4-98B5 4B06-4B0A 295D3-295E7 2EA2C 310C0-310C2 322C5
    332C4 29667 2B5C8 2CC7D 310DB 98B6-98B7 4B0B-4B10 295E8-29604 2EA2D-2EA2F 310C3-310C6 332C5
    98D3 29668-2966A 2B5C9 2CC7E-2CC80 2EA34 310DC-310DD 322D1 2EE3B 332CD 2B5BD 98B8-98BA
    4B11-4B17 29605-2960D 2960F-2961B 2CC74 310C7-310C9 322C6 332C6-332CA 98D4 98D6 2966B-2966C
    2B5CA 310DE 332CE 2B5BE-2B5BF 2CC81-2CC82 322C7-322C8 98BB-98C0 4B18-4B1A 2960E 2961C-2962C
    2EA30 310CA 98D5 98D7 2966D-2966E 2B5C0-2B5C2 2CC83-2CC84 98C1-98C4 4B1B-4B1C 2962D-29637 2EA31
    310CB-310CD 98D8 2EA35 310DF 98C5-98CA 4B1D 29638-29647 98D9-98DA 2966F 2CC85-2CC86 310E0 2EE3C
    98CB 29648-2964B 2964D 2EA32 310CE-310CF 322C9-322CA 332CB-332CC 29670 2B5CB 2964C 2B5C3-2B5C4
    2CC87 322CB 332CF 4B1E 2964E-29650 2B5C5 322CC 4B1F 29651-29655 2B5C6 310D0 322CD 232F0 332D0
    29656-2965A 2CC88 2965B-2965C 310D1 98CC-98CD 2965D-2965E 310D2-310D3 2965F 2EA33 29660-29664",
    "
    98DB 29671 98DE 29672-29673 2CC89 2EA36 29674 2EE3D 4B20 2B5CC 4B21 29675-29678 322D3 29679
    98DC 2967A-2967B 322D2 332D1 2967C-2967D 2CC8A 98DD 2967E",
    "
    98DF-98E0 202D1 2967F-29681 29683 9963 29682 98E1-98E4 4B22 4DBF 29684-29686 9964-9965
    2CCA5-2CCA6 98E5-98E8 4B23-4B25 29687-29694 2EA37-2EA38 310E1-310E3 322D4 9966-9967 2B5DE
    2CCA7-2CCA8 310F1 98E9-98F2 4B26-4B2A 29695-296A7 2B5CD 2CC8B-2CC8E 310E4 2EE3E 9968-996E
    297FE-29800 2B5DF-2B5E0 2CCA9-2CCAA 310F2-310F4 322E2 332E8-332E9 98F3-98F9 98FB-98FF 4B2B-4B34
    296A8-296C8 2B5CE 2EA39-2EA3B 322D5-322D6 996F-9974 29801-29802 2B5E1-2B5E3 2CCAB-2CCB3
    310F5-310F7 322E3-322E4 98FA 9900-990F 4B35-4B3B 296C9-296DC 2B5CF-2B5D2 2CC8F-2CC91 2EA3C
    310E5-310E7 322D7-322D8 332D2-332D4 9975-997C 29803 2B5E4-2B5E5 2CCB4-2CCB7 2EA5B-2EA5C
    310F8-310FB 322E5 9910-9919 991D 4B3C-4B42 296DD-296F9 2B5D3 2CC92-2CC94 310E8-310E9 322D9
    332D5-332D7 997D-9982 29804-29805 29807 2B5E6-2B5E8 2CCB8-2CCBB 2EE3F 332EA-332EC 991A-991C
    991E-9929 4B43-4B47 296FA-29722 29724-2972C 2CC95-2CC96 2EA3D-2EA40 310EA-310EB 322DA
    332D8-332DD 9983-9986 29806 29808-29809 2B5E9-2B5EA 2CCBC-2CCC2 310FC-310FF 322E6-322E7
    992A-9935 9937 4B48-4B4F 29723 2972D-29758 2B5D4-2B5D7 2CC97-2CC99 2EA41-2EA47 322DB-322DD
    332DE 9987-9988 998A-998B 2980A-2980B 2B5EB-2B5EF 2CCC3-2CCC7 2EA5D 31100-31104 322E8 9936
    9938-9942 4B50-4B54 29759-29773 29775-2977C 2B5D8 2EA48-2EA4B 310EC-310EE 322DE 332DF-332E2
    9989 998C-9990 2980C 2B5F0-2B5F1 2CCC8-2CCCD 31105 322E9-322EB 332ED-332EF 9943-9949 4B55-4B57
    27210 29774 2977D-297A0 2B5D9-2B5DA 2CC9A 2EA4C-2EA4F 310EF 322DF 332E3 9991-9992 2980D-2980E
    2CCCE-2CCD0 322EC 332F0 994A-9953 4B58-4B5C 214F7 297A1-297B5 297B7-297BD 2B5DB 2CC9B-2CC9E
    2EA50 310F0 332E4-332E5 9993-9994 4B6A 2980F 2B5F2-2B5F3 2CCD1-2CCD2 2EA5E 31106-31107 332F1
    9954-9959 4B5D-4B60 297B6 297BE-297D2 2CC9F-2CCA0 2EA51-2EA55 322E0 332E6 2B5F4 2CCD3 995A-995C
    4275 4B61-4B64 297D3-297E3 2B5DC-2B5DD 2CCD4 31108-31109 332F2 4B65 297E4-297EC 2CCA1
    2EA56-2EA57 332E7 332F3 995D 297ED-297F5 2EA58 322E1 3110A 995E-995F 4B66-4B67 297F6
    2EA59-2EA5A 2B5F5 4B68 297F7-297FA 2CCA2-2CCA3 9960-9961 4B69 2CCA4 297FB 9962 297FC 9995 297FD",
    "
    9996 29810 9997 29811-29813 2EA5F 29814 3110B 29815-29819 2B5F6 2EA60 3110C 4B6B-4B6C
    2981A-29820 2CCD5-2CCD6 2EA61 29821-29827 2B5F7 2CCD7-2CCD8 2EA62-2EA63 332F4 9998 29828-29829
    2B5F8 2CCD9 2EA64 3110D 332F5-332F6 4B6D 2982A-2982D 2EA65-2EA66 322ED 4B6E 2982F 29831 2B5F9
    2CCDA 29832 2B5FA 332F7 29833 332F8-332F9 29834 2CCDB 332FA 29835-29837 2B5FB 29838-29839",
    "
    9999 2983A 332FB 999A 2983B-2983D 2CCDC 3110E 999B-999D 4B6F 2983E-29841 29843-29844 332FC
    29842 29845-29846 2B5FC-2B5FD 2EA67-2EA68 999E-99A0 29847-29848 3110F 322EE 99A1-99A3 4B70-4B72
    29849-2984B 2B5FE 2CCDD-2CCDE 2EA69-2EA6A 322EF-322F0 99A4-99A5 2984C-29852 2B5FF 2CCDF-2CCE0
    332FD-332FE 99A6-99A7 29853-29858 2CCE1-2CCE3 2EA6B-2EA6C 322F1 2EE40 99A8 29859-2985C
    2B600-2B601 2CCE4-2CCE6 2EA6D 31110 332FF 99A9 2985D-29861 2B602 2CCE7 2EA6E 33300 29862-29863
    2B603 2EA6F-2EA70 99AA 29864 2EA71 322F2 255F6 33301 29865 99AB 4B73 29866 33302 2B604",
    "
    99AC 2B809 9A6C 29867-29868 99AD-99AE 4B74 29869-2986F 2EA72 31111 9A6D 32304 33315 99AF-99B5
    4B75-4B76 29870-29876 2B605 2CCE8 2EA73-2EA76 9A6E-9A70 2B61B 3113C-3113F 2EE42 99B6-99C7
    4B77-4B7E 29877-2987E 29880-29885 29887-2988C 2B606-2B609 2CCE9-2CCEA 2EA77-2EA79 31112
    322F3-322F4 2EE41 33303 9A71-9A74 299E6 2B61C-2B61D 2CCF3 31140-31142 2EE43-2EE44 33316-33317
    99C8-99E0 4B7F-4B85 2987F 29886 2988D-298AD 2EA7A-2EA7D 31113-31117 322F5-322F6 33304 9A75-9A80
    299E7-299ED 299EF 2B61E-2B61F 2B80A 2CCF4-2CCF8 31143-31148 32305 2EE45 99E1-99F2 4B86-4B8D
    298AE-298D5 2B60A 2CCEB 2EA7E-2EA84 31118-3111C 322F7 33305-33307 9A81-9A89 4BC3 299EE
    299F0-299F6 2B620-2B621 2CCF9-2CCFE 31149-31152 2EE46 99F4-9A03 4B8E-4B92 298D6-298EC 29937
    2CCEC 2EA85-2EA87 3111D-31122 322F8-322F9 33308-3330A 9A8A-9A8F 4BC4 299F7-299FA 2B622-2B624
    2CCFF-2CD00 2EAA1-2EAA2 31153-31159 32306 2EE47-2EE48 99F3 9A04-9A13 4B93-4B9B 298ED-29916
    2991E 2B60B-2B60E 2CCED-2CCEF 2EA88-2EA8C 31123 3330B-3330D 9A90-9A96 299FB-299FD 2B625-2B627
    2CD01-2CD02 3115A-3115B 32307-32309 2EE49-2EE4B 9A14-9A28 4B9C-4BA2 29917-2991D 2991F-29936
    29938-2993C 2B60F-2B611 2EA8D-2EA94 31124-31128 322FA-322FC 3330E 9A97-9A9B 299FE-29A03
    29A05-29A0A 2B628-2B629 2CD03-2CD04 2EAA3 3115C-3115F 9A29-9A38 4BA3-4BA9 2993D-2996A
    2B612-2B616 2EA95 31129-3112D 322FD-322FE 9A9C-9A9F 4BC5 29A04 29A0B-29A0D 2B62A-2B62C 2CD05
    2EAA4 31160-31165 2EE4C-2EE4D 9A39-9A47 9FAD 4BAA-4BB1 2996B-29981 2CCF0 2EA96-2EA99
    3112E-31131 322FF-32300 3330F 9AA0-9AA2 2B62D-2B62E 2B80B 2CD06-2CD08 31166-31169 2EE4E
    9A48-9A55 4BB2-4BB6 29982-2999D 2B617 2CCF1 31132-31134 32301-32302 33310 9AA3 29A0E-29A0F
    2B62F 2CD09-2CD0A 2EAA5 3116A-3116B 3230A-3230B 2EE4F-2EE50 9A56-9A5C 4BB7-4BB9 2999E-299B5
    2B618 2EA9A 31135-31136 32303 33311 2B630 2B80C 2CD0B 33318 9A5D-9A5F 4BBA-4BBC 299B6-299C1
    2B619 2EA9B 31137-31138 9AA4 2CD0C 4BBD 299C2-299CE 2EA9C 31139-3113B 33312 29A10 2CD0D
    9A60-9A63 4BBE 299CF-299D3 2EA9D-2EA9E 9AA5 2CD0E 3116C 9A64-9A67 9FAE 4BBF 299D4-299D7 2B61A
    2EA9F 9AA6-9AA7 2CD0F 9A68-9A69 4BC0 299D8-299DE 2EAA0 2B631 2CD10 9A6A 4BC1 299DF-299E0 33313
    9A6B 299E1-299E2 33314 299E3-299E4 2CCF2 4BC2 299E5",
    "
    9AA8 4BC6 9AA9 4BC7 29A11-29A13 2EAA6 9AAA-9AAE 29A14-29A1B 9AAF-9AB1 4BC8-4BC9 29A1C-29A2B
    3230C 33319 9AB2-9AB7 4BCA-4BCE 29A2C-29A3C 2EAA7-2EAA8 3230D 9AB8-9ABC 4BCF-4BD4 29A3D-29A48
    2B632 2EAA9 3116D-3116F 3230E 9ABD-9ABE 4BD5-4BDA 29A49-29A56 2CD11-2CD12 2EAAA-2EAAC 9ABF-9AC1
    4BDB-4BDC 29A57-29A6C 2EAAD-2EAAF 31170-31172 3230F 3331A-3331B 9AC2-9AC5 4BDD-4BE0 29A6D-29A7F
    2B633-2B634 2EAB0-2EAB1 32310 9AC6-9ACC 4BE1 29A80-29A88 2EAB2 9ACD-9ACF 4BE2 29A89-29A96
    2EAB3-2EAB4 32311 9AD0 4BE3 29A97-29A9F 31173 3331C-3331D 9AD1-9AD4 4BE4 29AA0-29AAB 2EAB5
    32312-32314 9AD5 4BE5 29AAC-29AB1 9AD6 4BE6 29AB2-29AB6 2EAB6 9AD7 29AB7-29ABA 2CD13 2EAB7
    32315 29ABB-29ABE",
    "
    9AD8-9AD9 4BE7 2B635 2CD14 31174-31176 32316 4BE8 29ABF-29AC0 31177 9ADA 4BE9 29AC1-29AC9 2CD15
    2EAB8 3331E 9ADB 29ACA-29ACD 2B636 2EAB9 31178-3117A 29ACE-29AD4 2B637 2CD16-2CD17 3117B-3117C
    32317 29AD5-29AD9 2CD18 3331F 9ADC 29ADA-29ADD 2CD19-2CD1A 2EABA 4BEA 29ADE-29AE4 2CD1B
    2EABB-2EABC 33320-33321 29AE5-29AE6 2CD1C 9ADD 4BEB 29AE7 2CD1D-2CD1F 9ADE 29AE8-29AEA 2CD20
    3117D-3117E 32318-32319 29AEB-29AEC 2CD21 4BEC 29AED 2CD22 29AEE-29AEF 2CD23 29AF0-29AF2
    2CD24-2CD26 29AF3",
    "
    9ADF 2B638 9AE0 4BED-4BEE 29AF4-29AF8 9AE1-9AE2 29AF9-29AFE 2B639-2B63A 3231A 9AE3-9AEA
    4BEF-4BF4 29AFF-29B10 2B63B 2CD27 2EABD-2EABF 9AEB-9AF4 4BF5-4BF6 29B11-29B2F 2B63C 2EAC0-2EAC2
    3117F 33322 9AF5-9AFB 9B07 4BF7-4BF8 29B30-29B46 2B63D 2CD28-2CD29 2EAC3-2EAC5 3231B 9AFC-9B02
    4BF9-4BFC 29B47-29B5D 2B63E-2B63F 2CD2A 2EAC6-2EAC8 31180-31181 3231C-3231E 9B03-9B06 9B08
    4BFD-4C03 29B5E-29B79 2B640-2B641 2CD2B-2CD2C 2EAC9-2EACC 3231F-32320 33323-33324 9B09-9B0F
    4C04-4C07 29B7A-29B95 2B642 2CD2D-2CD2E 2EACD-2EACE 31182-31184 33325-33327 9B10-9B13 4C08-4C0B
    29B96-29BAE 2EACF 31185 9B14-9B18 9B1D 4C0C-4C0D 29BAF-29BC2 2B643 31186 32321 9B19-9B1C 4C0E
    29BC3-29BDA 2EAD0-2EAD1 31187 32322 33328 9B1E-9B20 29BDB-29BE5 2CD2F 2EAD2 33329-3332B
    9B21-9B22 4C0F-4C12 29BE6-29BEF 9B23 4C13-4C14 29BF0-29BF9 4C15 29BFA-29C00 2EAD3 31188 32323
    3332C 9B24 29C01-29C04 3332D 29C05-29C07 4C16 29C08-29C09",
    "
    9B25 29C0A-29C0C 9B26 29C0D-29C0F 9B27 29C10 9B28 29C11-29C12 9B29 29C13-29C14 2CD30 2EAD4 9B2A
    4C17 29C15 2EAD5 4C18 29C16-29C18 9B2B 29C19-29C1B 9B2C-9B2D 29C1C-29C1E 31189 2CD31 9B2E 29C1F",
    "
    9B2F 2EAD6 3118A 29C20-29C23 32324 29C24-29C26 2EAD7 29C27 32325 29C28 32326 2EAD8 3332E 9B30
    29C29-29C2A 9B31",
    "
    9B32 2EAD9 2CD32 29C2B-29C2C 2CD33 4C19-4C1A 29C2D-29C2E 2B644 4C1B 29C2F-29C30 2B645 2CD34
    3118B-3118D 9B33 4C1C 29C31-29C38 2CD35 2EE51 9B34 29C39-29C3D 2CD36 3118E 9B35-9B36
    29C3E-29C42 9B37 29C43-29C46 2CD37 9B38 29C47-29C4B 9B39-9B3A 29C4C-29C51 2B646 3118F-31190
    9B3B 4C1D 29C52-29C55 2CD38 29C56-29C63 2CD39 31191 4C1E 2937B 29C64-29C65 2CD3A 2EADA 31192
    29C66-29C6A 31193-31194 29C6B-29C6C 2EADB 29C6D-29C6E 2B647 29C6F-29C73 2CD3B-2CD3C 29C74-29C76
    31195 29C77-29C78",
    "
    9B3C 29C79-29C7C 2B648 2CD3D 31196 9B3D 29C7D-29C89 2CD3E 2EE52 9B3E-9B42 4C1F 29C8A-29CA0
    2B649 2EADC-2EADD 31197-31198 3332F-33334 9B43-9B46 4C20-4C21 29CA1-29CB9 32327-32328 33335
    9B47 4C22-4C23 29CBA-29CCB 2B64A 2CD3F 2EADE-2EADF 31199-3119A 33336-33337 9B48-9B49
    29CCC-29CE1 2B64B 2CD40 2EAE0 3119B 32329 33338-3333A 9B4A-9B4F 4C24-4C27 29CE2-29CF4
    2B64C-2B64D 2EAE1-2EAE3 3119C-3119D 3232A-3232E 3333B 4C28-4C29 29CF5-29D05 2EAE4 3119E-3119F
    3333C-3333E 9B50 4C2A 29D06-29D0F 2EAE5-2EAE6 3232F 3333F 9B51-9B54 29D10-29D1B 2EAE7 33340
    9B55-9B56 4C2B-4C2D 29D1C-29D2D 2B64E 33341-33343 4C2E 29D2E-29D30 2EAE8 9B57-9B59 4C2F-4C30
    29D31-29D39 311A0-311A1 32330 33344 29D3A-29D3F 2EAE9 29D40-29D43 2EAEA 29D44-29D48 2EAEB
    29D49-29D4A 4C31 311A2",
    "
    9B5A 242F3 29D4B 2EAEC-2EAEF 9C7C 4C32 311CD 9B5B-9B5E 4C33 29D4C-29D53 2B64F 2CD41-2CD42 311A3
    9C7D 2CD80-2CD81 311CE 32346 33391 9B5F-9B62 4C34-4C36 29D54-29D5F 29DB7 2B650 2CD43-2CD44
    2EAF0 311A4 9C7E 2B688-2B68A 2CD82-2CD84 311CF 32347-32348 9B63-9B79 4C37-4C3E 29D60-29D80
    2B651-2B652 2CD45-2CD46 2EAF1-2EAF2 311A5-311A8 32331-32332 33345-33346 9C7F-9C83 9FD5 4C9D
    29F79-29F7B 2B68B-2B68D 2B80F 2CD85-2CD89 2EB1B 311D0-311D9 32349-3234B 2EE53 33392-33394
    9B7A-9B98 9BA3 4C3F-4C49 29D81-29DA0 29F80 2B653-2B657 2CD47-2CD4C 2EAF3-2EAF4 311A9-311AB
    32333 33347-3334A 9C84-9C90 9FF4 4C9E-4C9F 2B68E-2B692 2B810 2CD8A-2CD8D 311DA-311E4
    3234C-3234D 33395 9B99-9BA2 9BA4-9BB4 9BBA 4C4A-4C4E 29DA1-29DB6 29DB8-29DCC 2B658-2B65F
    2CD4D-2CD51 2EAF5-2EAF8 311AC 32334 3334B-3334E 9C91-9C9F 29F7C-29F7F 2B693-2B698 2CD8E-2CD90
    2EB1C-2EB1D 311E5-311EB 3234E-32351 33396 9BB5-9BB9 9BBB-9BD3 9BFD 4C4F-4C58 29DCD-29DF6 29F89
    2B660-2B663 2CD52-2CD56 2EAF9-2EAFD 311AD-311B2 32335-32337 3334F-33357 9CA0-9CAC 9FF5-9FF6
    29F81-29F84 2B699-2B69B 2CD91-2CD95 2EB1E 311EC-311F4 32352-32354 33397-33399 9BD4-9BF5 9BFB
    4C59-4C6A 29DF7-29E3D 2B664-2B667 2CD57-2CD5B 2EAFE-2EAFF 311B3-311B4 32338-3233A 33358-3335D
    9CAD-9CBB 29F85-29F88 2B69C-2B6A1 2CD96-2CD97 2CD99-2CD9D 2EB1F-2EB20 311F5-31201 32355
    3339A-3339C 9BF6-9BFA 9BFC 9BFE-9C1B 9C20 4C6B-4C74 29E3E-29E70 2B668-2B66A 2CD5C-2CD5F
    2EB00-2EB05 311B5-311B9 3233B-3233C 3335E-33368 9CBC-9CBD 9CBF-9CCB 9FF7 4CA0-4CA1 29F8A-29F8B
    2B6A2-2B6A5 2B811 2CD98 2CD9E-2CDA8 31202-31208 32356-32357 3339D-3339E 9C1C-9C1F 9C21-9C30
    9FD0 4C75-4C7D 29E71-29EAC 2B66B-2B66F 2B80D 2CD60-2CD63 2EB06-2EB0A 311BA-311BC 33369-33370
    9CBE 9CCC-9CD2 4CA2-4CA4 2B6A6 2CDA9-2CDAA 2EB21-2EB22 31209-3120E 3339F-333A1 9C31-9C48 9DE0
    9FF3 4C7E-4C88 29EAD-29ED7 2B670-2B676 2CD64-2CD69 2EB0B-2EB0D 311BD-311BE 3233D-32340
    33371-3337B 9CD3-9CDB 9FF8-9FF9 29F8C 2B6A7-2B6A8 2B812 2CDAB-2CDAD 2EB23 3120F-31211 32358
    333A2-333A3 9C49-9C5B 4C89-4C8F 29ED8-29F01 2B677-2B67C 2CD6A-2CD6D 2EB0E-2EB12 311BF-311C1
    3337C-3337F 9CDC-9CDF 2B6A9-2B6AA 2CDAE-2CDB4 31212-31215 32359 9C5C-9C67 9C69-9C6B 4C90-4C95
    29F02-29F24 29F8D 2B67D-2B681 2B80E 2CD6E-2CD71 2EB13-2EB14 311C2 32341-32342 33380-33383
    9CE0-9CE3 2B6AB 2CDB5-2CDB6 31216 9C68 9C6C-9C70 4C96-4C98 29F25-29F3A 2B682-2B683 2CD72-2CD75
    2EB15 311C3 33384-33386 9CE4 2B6AC 2CDB7 31217-31218 9C71-9C76 4C99 29F3B-29F4C 2B684 2CD76
    2EB16 311C4-311C7 32343 33387-3338B 29F8E 2B6AD 2CDB8 2EB24 31219 9C77-9C78 4C9A-4C9B
    29F4D-29F59 2CD77-2CD79 2EB17-2EB18 311C8 3338C-3338D 2CDB9 3121A-3121C 333A4 29F5A-29F66 2B685
    2CD7A 2EB19-2EB1A 311C9 32344 3338E-33390 333A5 9C79 9FE9 29F67-29F6F 2CD7B-2CD7C 2CDBA 9C7A
    29F70-29F72 2B686 2CD7D-2CD7E 311CA 32345 29F73-29F78 2B687 2CD7F 2CDBB 9C7B 311CB-311CC 4C9C",
    "
    9CE5 2B813 9E1F 9CE6 29F8F-29F91 2B6AE 2CDFB 31247 9CE7-9CF0 4CA5 29F92-29F9C 2CDBC 2EB25 3121D
    9E20-9E21 2CDFC-2CDFD 31248-31249 33400 9CF1-9CF6 4CA6-4CAB 29F9D-29FAF 2CDBD-2CDBF 2EB26-2EB2A
    3235A 9E22-9E24 2CDFE 3124A-3124C 3236B-3236C 33401 9CF7-9D09 9D0B-9D0E 4CAC-4CB8 29FB0-29FDB
    2B6AF-2B6B2 2CDC0-2CDC4 2EB2B-2EB2F 3121E-3121F 3235B-3235C 333A6-333AA 9E25-9E29 4D13
    2A241-2A243 2B6DA-2B6DE 2B816 2CDFF-2CE00 2EB61-2EB63 3124D-31254 3236D-3236E 2EE54 33402-33404
    9D0A 9D0F-9D2C 4CB9-4CCA 29FDC-2A011 2B6B3-2B6B7 2B814 2CDC5-2CDCC 2EB30-2EB32 31220-31225
    3235D-3235E 333AB-333AF 9E2A-9E36 2A244 2B6DF-2B6E4 2CE01-2CE07 2EB64 31255-31262 3236F-32372
    2EE55 33405-33406 9D2D-9D49 4CCB-4CD4 2A012-2A049 2B6B8-2B6BB 2CDCD-2CDD2 2EB33-2EB38
    31226-31227 333B0-333B7 9E37-9E3F 4D14-4D15 2A245-2A24B 2B6E5-2B6EA 2CE08-2CE0C 2EB65
    31263-31273 32373-32376 33407-33409 9D4A-9D63 9D65 4CD5-4CDC 2A04A-2A076 2B6BC-2B6C0
    2CDD3-2CDD4 2CDD6-2CDDB 2EB39-2EB3B 31228-3122C 3235F-32362 333B8-333BB 9E40-9E48 9FFA
    2A24C-2A24D 2B6EB-2B6EF 2CDD5 2CE0D-2CE11 2EB66-2EB67 31274-3127F 32377-3237C 3340A-3340B
    9D66-9D8F 9D91 4CDD-4CE5 2A077-2A0B5 2B6C1-2B6C8 2CDDC-2CDE1 2EB3C-2EB43 3122D-31230
    333BC-333CB 9E49-9E54 4D16 2A24E 2B6F0-2B6F5 2CE12-2CE17 31280-3128E 3237D-3237F 2EE56-2EE57
    3340C-3340D 9D90 9D92-9DAB 4CE6-4CF0 2A0B6-2A0F9 2B6C9-2B6CB 2CDE2-2CDE7 2EB44-2EB47
    31231-31233 32363 333CC-333D6 9E55-9E57 9E59-9E5C 4D17 2A24F-2A250 2B6F6-2B6FC 2CE18-2CE1F
    3128F-31298 32380 3340E-33410 9DAC-9DCA 9DCC-9DCF 4CF1-4CF6 2A0FA-2A12C 2B6CC-2B6CF 2CDE8-2CDED
    2EB48-2EB4F 31234-31238 32364 333D7-333DE 9E58 9E5D-9E64 4D18 2A251-2A254 2B6FD-2B6FE
    2CE20-2CE23 2EB68-2EB69 31299-3129F 32381-32382 2EE58 33411 9DCB 9DD0-9DDF 4CF7-4CFD
    2A12D-2A16E 2B6D0 2B815 2CDEE-2CDF0 2EB50-2EB55 31239 32365 333DF-333E4 9E65-9E68 2B6FF-2B702
    2CE24-2CE26 2EB6A 312A0-312A5 32383-32384 2EE59-2EE5A 9DE1-9DF8 9DFA-9DFC 4CFE-4D06 2A16F-2A1AB
    2A1AD 2B6D1-2B6D5 2CDF1-2CDF3 2EB56 3123A-3123D 32366 333E5-333EE 9E69-9E6C 2B703-2B704
    2CE27-2CE2B 312A6-312A9 32385-32386 33412-33415 9DF9 9DFD-9E0A 4D07-4D0B 2A1AC 2A1AE-2A1D0
    2B6D6 2CDF4-2CDF6 2EB57-2EB58 3123E-31242 32367 333EF-333F6 9E6D-9E70 4D19 2B705 2CE2C-2CE2F
    312AA-312B0 32387 33416 9E0B-9E12 4D0C-4D0D 2A1D1-2A1DD 2A1DF-2A1EC 2B6D7 2CDF7 2EB59-2EB5A
    31243 333F7-333FA 9E71-9E72 2B706 312B1 32388 9E13-9E14 4D0E 2A1ED-2A202 2B6D8 2CDF8
    2EB5B-2EB5C 31244 32368-32369 333FB-333FC 2A255 312B2-312B3 2EE5B 9E15-9E17 4D0F 2A203-2A217
    2CDF9 2EB5D-2EB5E 31245-31246 2CE30 312B4 32389 2EE5C 9E18-9E1A 2A218-2A224 333FD-333FF
    9E73-9E74 312B5 9E1B-9E1C 2A225-2A22D 2EB5F 3236A 2CE31 9E1D-9E1E 275A0 2A22E-2A233 2B6D9 4D10
    29594 2A234-2A237 2CDFA 2A238-2A23D 2EB60 4D11-4D12 2A23E-2A240",
    "
    9E75 209F8 2A256-2A257 312BA 9E76 4D1A 2A258-2A25B 2CE32 312B6 33417 2EB70 9E77 2A25C-2A261
    2EB6B 312B7 2CE35 2A262 2B707 312B8 3238A 4D1B 2A263-2A265 2B708 2CE33 2EB6C 312B9 33418 312BB
    3341C 9E78 2A266-2A26C 2EB6D-2EB6E 33419 2B817 2CE36 9E79 2A26D-2A274 2B709 2EB6F 9E7E 2B70A
    2CE37-2CE38 3341D 9E7A-9E7B 4D1C 2A275-2A27E 3341A 2CE39 3341E 4D1D 2A27F-2A282 312BC 9E7C-9E7D
    2A283-2A285 2CE34 3341B 4D1E 2A286-2A289 312BD 2A28A",
    "
    9E7F 22256 2EB71 2CE3A 9E80-9E82 2A28B-2A28C 2B70B 4D1F 2A28D-2A28E 2EB72 9E83-9E84 4D20-4D22
    2A28F-2A29A 2B70C 2CE3B 3238B 3341F-33421 9E85-9E88 4D23-4D25 2A29B-2A2A4 2CE3C 2EB73
    33422-33424 9E89-9E8B 2A2A5-2A2B3 2B70D 2CE3D-2CE3E 2EB74 33425-3342A 9E8C-9E90 4D26
    2A2B4-2A2C3 2B70E 2EB75 312BE-312BF 3342B-33431 9E91-9E97 4D27 2A2C4-2A2CD 2CE3F 2EB76-2EB77
    3238C 33432-33436 9E98-9E9B 2A2CE-2A2D6 2EB78 33437-3343A 9E9C-9E9D 4D28 2A2D7-2A2DB 2CE40
    2EB79-2EB7A 3343B-3343E 9E9E 4D29 2A2DC-2A2E0 2CE41 312C0-312C1 3238D 3343F-33443 9E9F
    2A2E1-2A2E9 2B70F 9EA0 4D2A-4D2B 2A2EA-2A2ED 9EA1 2A2EE-2A2F5 3238E 9EA2 2A2F6-2A2F7 312C2
    2A2F8 9EA3 2A2F9 9EA4 2A2FA 33444 2A2FB",
    "
    9EA5 3238F 9EA6 2A2FC-2A300 2A38D 2EB83 312C4-312C5 9EA7 4D2C-4D2E 2A301-2A304 2A388 2CE45
    312C6-312C8 9EA8-9EAB 4D2F-4D30 2A305-2A313 9EB8 2A389-2A38A 2B711 2EB84-2EB85 312C9 9EAC-9EAE
    4D31-4D34 2A314-2A31A 2A31C-2A321 2EB7B 33445 2A38B 2B712 2EB86 312CA-312CF 9EAF-9EB0 4D35
    2A322-2A32C 2CE42 2CE46 2EB87 312D0-312D5 9EB1-9EB2 4D36-4D38 2A32D-2A33B 2A38C 2B713
    2CE47-2CE49 312D6-312D8 9EB3-9EB4 4D39-4D3D 2A33C-2A34B 2B710 2CE43 2EB7C-2EB7D 312C3 33446
    9EB9 2A38E-2A38F 2B714 2CE4A-2CE4C 312D9-312DD 32391-32392 9EB5 2A34C-2A35A 2EB7E 9EBA
    312DE-312E5 4D3E-4D40 2A35B-2A362 2EB7F-2EB80 2B715 312E6-312E7 9EB6 4D41-4D42 4D45 2A363-2A371
    2EB81 32390 2A390 2CE4D 312E8-312EA 32393 4D43 2A372-2A377 2CE44 2CE4E 312EB-312EC 33447 4D44
    2A378-2A37E 4D46 312ED-312EE 2A37F-2A385 2EB82 9EB7 2A386-2A387",
    "
    9EBB 2A391 9EBC-9EBD 2A392-2A394 9EBE 4D47 2A395-2A39A 2EB88-2EB8A 2A39B-2A3A2 2B716 9EBF
    2A3A3-2A3A4 2CE4F 2EB8B 312EF 32394 9EC0 2A3A5-2A3A7 2B717 312F0 9EC1 4D48-4D49 2A3A8-2A3A9
    312F1 2A3AA-2A3AF 2EB8C 9EC2 2A3B0-2A3B1 2EB8D 2A3B2 2EB8E",
    "
    9EC3-9EC4 2A3B3 32395 2A3B4 2CE50 9EC5-9EC6 4D4A 2A3B5-2A3B9 2B718 9EC7-9EC9 2A3BA 2EB8F 312F2
    9ECA-9ECB 4D4B 2A3BB-2A3C1 4D4C 2A3C2-2A3C5 2CE51 312F3 4D4D 2A3C6-2A3D2 312F4 4D4E 2A3D3-2A3DE
    2CE52 4D4F 2A3DF-2A3E3 2CE53 4D50 2A3E4-2A3E6 9ECC 2A3E7-2A3EC",
    "
    9ECD 2EB90-2EB91 2A3ED 9ECE 4D51 2A3EE-2A3EF 2C4F8 4D52-4D53 2A3F0-2A3F5 2CE54 33448 9ECF
    2A3F6-2A400 2EB92 2A401 4D54-4D56 2A402-2A406 312F5 33449 4D57-4D59 2A407-2A40A 9ED0 4D5A 2A40B
    4D5B 2A40C-2A40F 3344A 2A410 4D5C 2A412 2EB93 2A411 2A413-2A416",
    "
    9ED1-9ED2 2A417 4D5D 2A418 4D5E 2A419-2A41B 58A8 9ED3 4D5F-4D60 2A41C-2A423 9ED4-9ED8 4D61
    2A424-2A431 2EB94-2EB95 9EDA-9EDE 4D62-4D63 2A432-2A43E 2EB96 312F6 3344B-3344D 9EDF-9EE1
    4D64-4D67 2A43F-2A447 2CE55-2CE56 2EB97-2EB98 9EE2-9EE3 4D68-4D69 2259B 2A448-2A451 2CE57
    312F7-312F8 9EE4-9EEA 4D6A-4D6C 2A452-2A462 2A464 2B719-2B71A 2EB99-2EB9B 32396 9EEB-9EEF
    4D6D-4D6F 2A463 2A465-2A47D 2B71B 2CE58 2EB9C 9EF0-9EF1 2A47E-2A48E 2CE59-2CE5A 3344E 9EF2-9EF4
    4D70 2A48F-2A497 2EB9D 312F9 4D71 2A498-2A4A8 312FA 9EF5 4D72-4D74 2A4A9-2A4B3 3344F-33450 9EF6
    4D75 2A4B4-2A4B8 2EB9E 9EF7 2A4B9-2A4BE 2CE5B 2EB9F 9EF8 2A4BF-2A4C6 32397-32398 2A4C7-2A4CA",
    "
    9EF9 2EBA0 9EFA 2B71C 9EFB 33451 2A4CB 9EFC 2A4CC-2A4D0 2CE5C",
    "
    9EFD-9EFE 2A4D1-2A4D3 2CE5D 2EBA1 2CE5E 9EFF 2A4D4-2A4D9 2EBA2 9F0B 9F00-9F02 4D76 2A4DA-2A4E0
    2CE5F 9F0C 312FE-31302 33452 9F03-9F04 4D77 2A4E1-2A4E6 2B71D 2EBA3 2CE63 31303 2A4E7-2A4EB
    2CE60-2CE61 2EBA4 312FB-312FC 9F05 2A4EC-2A4ED 2CE62 2CE64 31304-31305 4D78 2A4EE-2A4F6 312FD
    2B71F 9F06-9F07 2A4F7-2A4F8 31306 4D79 2A4F9 31307-31308 9F08-9F09 2A4FA 2A4FD 2B71E 9F0D 9F0A
    2A4FC 2A4FE 31309 2A4FF-2A501",
    "
    9F0E 2A502 9F0F-9F11 2A503 9F12 4D7A 2A504-2A506 2B720 2CE65 2EBA5 2A507 2CE66-2CE68 32399
    2A508 2CE69 2A509 2B721 2CE6A 4D7B-4D7C 2CE6B 33453 2A50A 2CE6C",
    "
    9F13-9F14 21537 2EBA6 2A50B-2A50C 214A1 2A50D-2A50F 3130A 9F15-9F16 4D7D-4D7F 2A510-2A513 2EBA7
    3130B 9F17 4D80 2A514-2A51B 2EBA8 2A51C-2A521 2EBA9 3239A-3239B 33454 9F18-9F1B 4D81
    2A522-2A525 3239C 2A526-2A52D 9F1C 2A52E 9F1D-9F1E 2A52F-2A532 3130C 9F1F 2503B 2A1DE
    2A533-2A534 2EBAA-2EBAB 2503C 2A535-2A536 2503D 2A537 2503E",
    "
    9F20-9F21 2B722 2A538-2A539 4D82 2A53A-2A53C 3130D 9F22-9F24 4D83 2A53D-2A548 2EBAC 3239D 33455
    9F25-9F2C 9FFB-9FFC 4D84 2A549-2A551 2CE6D 2EBAD 33456 2B818 9F2D 4D85 2A552-2A559 2A55F
    3130E-3130F 33457-3345A 9F2E-9F30 2A55A-2A55E 2A560-2A567 3239E 3345B-3345C 9F31 4D86
    2A568-2A56A 2CE6E 2EBAE 3345D-3345E 9F32-9F35 4D87 2A56B-2A574 3239F 3345F-33464 9F36-9F39
    4D88-4D89 2A575-2A57E 323A0 2A580-2A584 33465 2A585-2A589 2B723 2EBAF 31310 2A58A-2A58B 9F3A
    2A58C-2A58F",
    "
    9F3B 2EBB0-2EBB5 2A590 9F3C-9F3D 2A591-2A592 31311-31312 9F3E-9F3F 2A593-2A594 2EBB6 4D8A-4D8B
    2A595-2A599 2B724 31313 9F40-9F41 4D8C 2A59A-2A5A0 31314 4D8D-4D8E 2A5A1-2A5A4 2CE6F 2EBB7
    31315-31316 4D8F 2A5A5-2A5AC 9F42 2A5AD-2A5AE 2CE70 33466 9F43-9F44 2A5AF-2A5B2 9F45-9F46 2A57F
    2A5B3-2A5B5 323A1 33467 9F47 2A5B6-2A5BD 2EBB8 9F48 4D90 2A5BE-2A5C0 4D91 2A5C1-2A5C2 2EBB9
    2A5C3 9F49",
    "
    9F4A 2A5C4 2CE71 2EBBA-2EBBC 9F50 2A5C5 9F4B 4D92-4D93 2A5C6 9F4C 2019C 2A5C7-2A5C8 2CE73 31317
    9F4D 2A5C9-2A5CA 2CE72 31318 2A5CB-2A5CC 31319 9F4E 2A5CE 2A5CD 33468 9F4F 9F51 2A5CF-2A5D3",
    "
    9F52 2398B 2EBBD 9F7F 9F53-9F54 2A5D4-2A5D7 9F80 2EBBE 9F55 4D94 2A5D8-2A5DA 2EBBF 9F81 31329
    3346E 9F56-9F58 4D95-4D96 2A5DB-2A5E4 2B819 2EBC0-2EBC1 3131A-3131C 9F82 2B728 2CE7A-2CE7D
    3132A 323A7 9F59-9F61 9F63 4D97-4D99 2039C 2A5E5-2A5F0 2A5F2-2A5F6 2EBC2 3131D 33469 9F83-9F86
    2CE7E-2CE80 2EBD9 3132B-3132F 9F62 2A5F1 2B81A 2CE74 2EBC3 9F64-9F69 4D9A-4D9B 2A5F7-2A601
    2A603-2A60D 2B725 2CE75-2CE77 2EBC4 2EBC6 3346A 9F87-9F88 2A68F 2B729-2B72A 2CE81-2CE85
    31330-31333 323A8 3346F 2A602 2EBC5 9F6A-9F6C 4D9C-4D9D 2A60E-2A619 2A61B-2A624 2B726 3131E
    323A2 3346B-3346C 9F89-9F8A 2B72B 2CE86-2CE87 31334-31335 33470 2A61A 2EBC7 9F6D-9F71 4D9E-4D9F
    2A625-2A638 2EBC9-2EBCA 323A3 2A690 2B72C-2B72D 2B81C 2CE88-2CE8C 31336-31338 323A9 2EBC8 33472
    9F72-9F77 4DA0-4DA2 2A639-2A648 2B81B 2EBCD 3131F-31321 9F8B-9F8C 2B72E 2CE8D-2CE8E 31339
    2EBCB-2EBCC 2EBCE 9F78-9F7B 4DA3-4DA4 2A649-2A659 2EBCF-2EBD0 31322-31323 2B72F 2CE8F-2CE91
    3133A-3133D 33471 4DA5-4DA6 2A65A-2A662 2EBD1-2EBD3 31324 323A4-323A6 2CE92 4DA7 2A663-2A66F
    2B727 2CE78 2EBD4-2EBD6 31325 3346D 323AA 9F7C-9F7D 4DA8 2A670-2A675 2EBD7 31326 2B730
    2CE93-2CE94 4DA9-4DAA 2A676 31327 2CE95 2A677-2A680 2CE79 31328 323AB 2A681-2A684 2EBD8 2CE96
    2A685-2A689 9F7E 4DAB 2A68A-2A68E",
    "
    9F8D 33473 9F99 9F8E-9F8F 2A691-2A694 2CE9B 31341 2CE97-2CE98 9F91 2A695-2A698 2A69A-2A69B
    33474 4DAD-4DAE 2CE9C 33479 9F92 2A699 3133E 31342 323AC 9F93-9F95 4DAC 2A69C-2A69F 2EBDA 3133F
    9F9A-9F9B 2B732 2A6A0-2A6A1 2B731 2CE99 33475 2CE9A 33477 2A6A2 31340 323AD 33478 2EE5D
    2A6A3-2A6A4 33476 2CE9D 9F96-9F98 2A6A5",
    "
    9F9C 2A6A6 2A6C9 2EBDB-2EBDF 9F9F 2CE9E 2A6A8 4DAF 2A6A9-2A6AA 31343 4DB0 2A6AB-2A6B1
    2A6B3-2A6B5 31344-31346 323AE 2A6B2 9F9D 4DB1-4DB2 2A6A7 2A6B6-2A6BD 2B733 31347 2A6BE-2A6C0
    2A4FB 2A6C1-2A6C4 31348 9F9E 2A6C5-2A6C6 2B81D 2A6C7-2A6C8",
    "
    9FA0-9FA1 4DB3 2A6CA 2CE9F 9FA2 31349 9FA3 4DB4 2A6CB-2A6CD 2CEA0 2EBE0 3134A 9FA4-9FA5
    2A6CE-2A6D1 323AF 4DB5 2A6D2-2A6D3 2B734 2CEA1 2A6D4-2A6D6" ]

/-! ## Places -/

def firstIdeograph : Nat :=
  (posts.length + 1) * roomBehind

/-- The room of a radical. -/
def roomOfRadical : Nat :=
  0x2000

def ideographTable : CharTable Nat :=
  .ofSpans <| ideographs.zipIdx.flatMap fun (text, radical) =>
    spread (firstIdeograph + radical * roomOfRadical) ((Text.wordsOf text).map Text.rangeOf)

def afterIdeographs : Nat :=
  firstIdeograph + ideographs.length * roomOfRadical

end Collation
end LineRpc
