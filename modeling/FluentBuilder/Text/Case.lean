import FluentBuilder.Text.CharTable

/-!
# Upper and lower case

The full case mappings of the Unicode standard: a character may have several images, and the Greek
capital sigma has a form of its own at the end of a word. `lowerText` is the only mapping that looks
beyond a single character.
-/

namespace FluentBuilder.Text

/-! ### Tables beyond ASCII -/

/-- The lower-case characters. -/
def lowerTable : RangeTable := RangeTable.ofLines [
  "AA B5 BA DF-F6 F8-FF 101 103 105 107 109 10B 10D 10F 111 113 115 117 119 11B 11D 11F 121 123",
  "125 127 129 12B 12D 12F 131 133 135 137-138 13A 13C 13E 140 142 144 146 148-149 14B 14D 14F",
  "151 153 155 157 159 15B 15D 15F 161 163 165 167 169 16B 16D 16F 171 173 175 177 17A 17C",
  "17E-180 183 185 188 18C-18D 192 195 199-19B 19E 1A1 1A3 1A5 1A8 1AA-1AB 1AD 1B0 1B4 1B6",
  "1B9-1BA 1BD-1BF 1C6 1C9 1CC 1CE 1D0 1D2 1D4 1D6 1D8 1DA 1DC-1DD 1DF 1E1 1E3 1E5 1E7 1E9 1EB",
  "1ED 1EF-1F0 1F3 1F5 1F9 1FB 1FD 1FF 201 203 205 207 209 20B 20D 20F 211 213 215 217 219 21B",
  "21D 21F 221 223 225 227 229 22B 22D 22F 231 233-239 23C 23F-240 242 247 249 24B 24D 24F-293",
  "295-2B8 2C0-2C1 2E0-2E4 345 371 373 377 37A-37D 390 3AC-3CE 3D0-3D1 3D5-3D7 3D9 3DB 3DD 3DF",
  "3E1 3E3 3E5 3E7 3E9 3EB 3ED 3EF-3F3 3F5 3F8 3FB-3FC 430-45F 461 463 465 467 469 46B 46D 46F",
  "471 473 475 477 479 47B 47D 47F 481 48B 48D 48F 491 493 495 497 499 49B 49D 49F 4A1 4A3 4A5",
  "4A7 4A9 4AB 4AD 4AF 4B1 4B3 4B5 4B7 4B9 4BB 4BD 4BF 4C2 4C4 4C6 4C8 4CA 4CC 4CE-4CF 4D1 4D3",
  "4D5 4D7 4D9 4DB 4DD 4DF 4E1 4E3 4E5 4E7 4E9 4EB 4ED 4EF 4F1 4F3 4F5 4F7 4F9 4FB 4FD 4FF 501",
  "503 505 507 509 50B 50D 50F 511 513 515 517 519 51B 51D 51F 521 523 525 527 529 52B 52D 52F",
  "560-588 10D0-10FA 10FD-10FF 13F8-13FD 1C80-1C88 1D00-1DBF 1E01 1E03 1E05 1E07 1E09 1E0B 1E0D",
  "1E0F 1E11 1E13 1E15 1E17 1E19 1E1B 1E1D 1E1F 1E21 1E23 1E25 1E27 1E29 1E2B 1E2D 1E2F 1E31",
  "1E33 1E35 1E37 1E39 1E3B 1E3D 1E3F 1E41 1E43 1E45 1E47 1E49 1E4B 1E4D 1E4F 1E51 1E53 1E55",
  "1E57 1E59 1E5B 1E5D 1E5F 1E61 1E63 1E65 1E67 1E69 1E6B 1E6D 1E6F 1E71 1E73 1E75 1E77 1E79",
  "1E7B 1E7D 1E7F 1E81 1E83 1E85 1E87 1E89 1E8B 1E8D 1E8F 1E91 1E93 1E95-1E9D 1E9F 1EA1 1EA3",
  "1EA5 1EA7 1EA9 1EAB 1EAD 1EAF 1EB1 1EB3 1EB5 1EB7 1EB9 1EBB 1EBD 1EBF 1EC1 1EC3 1EC5 1EC7",
  "1EC9 1ECB 1ECD 1ECF 1ED1 1ED3 1ED5 1ED7 1ED9 1EDB 1EDD 1EDF 1EE1 1EE3 1EE5 1EE7 1EE9 1EEB",
  "1EED 1EEF 1EF1 1EF3 1EF5 1EF7 1EF9 1EFB 1EFD 1EFF-1F07 1F10-1F15 1F20-1F27 1F30-1F37",
  "1F40-1F45 1F50-1F57 1F60-1F67 1F70-1F7D 1F80-1F87 1F90-1F97 1FA0-1FA7 1FB0-1FB4 1FB6-1FB7",
  "1FBE 1FC2-1FC4 1FC6-1FC7 1FD0-1FD3 1FD6-1FD7 1FE0-1FE7 1FF2-1FF4 1FF6-1FF7 2071 207F",
  "2090-209C 210A 210E-210F 2113 212F 2134 2139 213C-213D 2146-2149 214E 2170-217F 2184",
  "24D0-24E9 2C30-2C5F 2C61 2C65-2C66 2C68 2C6A 2C6C 2C71 2C73-2C74 2C76-2C7D 2C81 2C83 2C85",
  "2C87 2C89 2C8B 2C8D 2C8F 2C91 2C93 2C95 2C97 2C99 2C9B 2C9D 2C9F 2CA1 2CA3 2CA5 2CA7 2CA9",
  "2CAB 2CAD 2CAF 2CB1 2CB3 2CB5 2CB7 2CB9 2CBB 2CBD 2CBF 2CC1 2CC3 2CC5 2CC7 2CC9 2CCB 2CCD",
  "2CCF 2CD1 2CD3 2CD5 2CD7 2CD9 2CDB 2CDD 2CDF 2CE1 2CE3-2CE4 2CEC 2CEE 2CF3 2D00-2D25 2D27",
  "2D2D A641 A643 A645 A647 A649 A64B A64D A64F A651 A653 A655 A657 A659 A65B A65D A65F A661",
  "A663 A665 A667 A669 A66B A66D A681 A683 A685 A687 A689 A68B A68D A68F A691 A693 A695 A697",
  "A699 A69B-A69D A723 A725 A727 A729 A72B A72D A72F-A731 A733 A735 A737 A739 A73B A73D A73F",
  "A741 A743 A745 A747 A749 A74B A74D A74F A751 A753 A755 A757 A759 A75B A75D A75F A761 A763",
  "A765 A767 A769 A76B A76D A76F-A778 A77A A77C A77F A781 A783 A785 A787 A78C A78E A791",
  "A793-A795 A797 A799 A79B A79D A79F A7A1 A7A3 A7A5 A7A7 A7A9 A7AF A7B5 A7B7 A7B9 A7BB A7BD",
  "A7BF A7C1 A7C3 A7C8 A7CA A7D1 A7D3 A7D5 A7D7 A7D9 A7F6 A7F8-A7FA AB30-AB5A AB5C-AB68",
  "AB70-ABBF FB00-FB06 FB13-FB17 FF41-FF5A 10428-1044F 104D8-104FB 10597-105A1 105A3-105B1",
  "105B3-105B9 105BB-105BC 10780 10783-10785 10787-107B0 107B2-107BA 10CC0-10CF2 118C0-118DF",
  "16E60-16E7F 1D41A-1D433 1D44E-1D454 1D456-1D467 1D482-1D49B 1D4B6-1D4B9 1D4BB 1D4BD-1D4C3",
  "1D4C5-1D4CF 1D4EA-1D503 1D51E-1D537 1D552-1D56B 1D586-1D59F 1D5BA-1D5D3 1D5EE-1D607",
  "1D622-1D63B 1D656-1D66F 1D68A-1D6A5 1D6C2-1D6DA 1D6DC-1D6E1 1D6FC-1D714 1D716-1D71B",
  "1D736-1D74E 1D750-1D755 1D770-1D788 1D78A-1D78F 1D7AA-1D7C2 1D7C4-1D7C9 1D7CB 1DF00-1DF09",
  "1DF0B-1DF1E 1E922-1E943"]

/-- The upper-case characters. -/
def upperTable : RangeTable := RangeTable.ofLines [
  "C0-D6 D8-DE 100 102 104 106 108 10A 10C 10E 110 112 114 116 118 11A 11C 11E 120 122 124 126",
  "128 12A 12C 12E 130 132 134 136 139 13B 13D 13F 141 143 145 147 14A 14C 14E 150 152 154 156",
  "158 15A 15C 15E 160 162 164 166 168 16A 16C 16E 170 172 174 176 178-179 17B 17D 181-182 184",
  "186-187 189-18B 18E-191 193-194 196-198 19C-19D 19F-1A0 1A2 1A4 1A6-1A7 1A9 1AC 1AE-1AF",
  "1B1-1B3 1B5 1B7-1B8 1BC 1C4 1C7 1CA 1CD 1CF 1D1 1D3 1D5 1D7 1D9 1DB 1DE 1E0 1E2 1E4 1E6 1E8",
  "1EA 1EC 1EE 1F1 1F4 1F6-1F8 1FA 1FC 1FE 200 202 204 206 208 20A 20C 20E 210 212 214 216 218",
  "21A 21C 21E 220 222 224 226 228 22A 22C 22E 230 232 23A-23B 23D-23E 241 243-246 248 24A 24C",
  "24E 370 372 376 37F 386 388-38A 38C 38E-38F 391-3A1 3A3-3AB 3CF 3D2-3D4 3D8 3DA 3DC 3DE 3E0",
  "3E2 3E4 3E6 3E8 3EA 3EC 3EE 3F4 3F7 3F9-3FA 3FD-42F 460 462 464 466 468 46A 46C 46E 470 472",
  "474 476 478 47A 47C 47E 480 48A 48C 48E 490 492 494 496 498 49A 49C 49E 4A0 4A2 4A4 4A6 4A8",
  "4AA 4AC 4AE 4B0 4B2 4B4 4B6 4B8 4BA 4BC 4BE 4C0-4C1 4C3 4C5 4C7 4C9 4CB 4CD 4D0 4D2 4D4 4D6",
  "4D8 4DA 4DC 4DE 4E0 4E2 4E4 4E6 4E8 4EA 4EC 4EE 4F0 4F2 4F4 4F6 4F8 4FA 4FC 4FE 500 502 504",
  "506 508 50A 50C 50E 510 512 514 516 518 51A 51C 51E 520 522 524 526 528 52A 52C 52E 531-556",
  "10A0-10C5 10C7 10CD 13A0-13F5 1C90-1CBA 1CBD-1CBF 1E00 1E02 1E04 1E06 1E08 1E0A 1E0C 1E0E",
  "1E10 1E12 1E14 1E16 1E18 1E1A 1E1C 1E1E 1E20 1E22 1E24 1E26 1E28 1E2A 1E2C 1E2E 1E30 1E32",
  "1E34 1E36 1E38 1E3A 1E3C 1E3E 1E40 1E42 1E44 1E46 1E48 1E4A 1E4C 1E4E 1E50 1E52 1E54 1E56",
  "1E58 1E5A 1E5C 1E5E 1E60 1E62 1E64 1E66 1E68 1E6A 1E6C 1E6E 1E70 1E72 1E74 1E76 1E78 1E7A",
  "1E7C 1E7E 1E80 1E82 1E84 1E86 1E88 1E8A 1E8C 1E8E 1E90 1E92 1E94 1E9E 1EA0 1EA2 1EA4 1EA6",
  "1EA8 1EAA 1EAC 1EAE 1EB0 1EB2 1EB4 1EB6 1EB8 1EBA 1EBC 1EBE 1EC0 1EC2 1EC4 1EC6 1EC8 1ECA",
  "1ECC 1ECE 1ED0 1ED2 1ED4 1ED6 1ED8 1EDA 1EDC 1EDE 1EE0 1EE2 1EE4 1EE6 1EE8 1EEA 1EEC 1EEE",
  "1EF0 1EF2 1EF4 1EF6 1EF8 1EFA 1EFC 1EFE 1F08-1F0F 1F18-1F1D 1F28-1F2F 1F38-1F3F 1F48-1F4D",
  "1F59 1F5B 1F5D 1F5F 1F68-1F6F 1FB8-1FBB 1FC8-1FCB 1FD8-1FDB 1FE8-1FEC 1FF8-1FFB 2102 2107",
  "210B-210D 2110-2112 2115 2119-211D 2124 2126 2128 212A-212D 2130-2133 213E-213F 2145",
  "2160-216F 2183 24B6-24CF 2C00-2C2F 2C60 2C62-2C64 2C67 2C69 2C6B 2C6D-2C70 2C72 2C75",
  "2C7E-2C80 2C82 2C84 2C86 2C88 2C8A 2C8C 2C8E 2C90 2C92 2C94 2C96 2C98 2C9A 2C9C 2C9E 2CA0",
  "2CA2 2CA4 2CA6 2CA8 2CAA 2CAC 2CAE 2CB0 2CB2 2CB4 2CB6 2CB8 2CBA 2CBC 2CBE 2CC0 2CC2 2CC4",
  "2CC6 2CC8 2CCA 2CCC 2CCE 2CD0 2CD2 2CD4 2CD6 2CD8 2CDA 2CDC 2CDE 2CE0 2CE2 2CEB 2CED 2CF2",
  "A640 A642 A644 A646 A648 A64A A64C A64E A650 A652 A654 A656 A658 A65A A65C A65E A660 A662",
  "A664 A666 A668 A66A A66C A680 A682 A684 A686 A688 A68A A68C A68E A690 A692 A694 A696 A698",
  "A69A A722 A724 A726 A728 A72A A72C A72E A732 A734 A736 A738 A73A A73C A73E A740 A742 A744",
  "A746 A748 A74A A74C A74E A750 A752 A754 A756 A758 A75A A75C A75E A760 A762 A764 A766 A768",
  "A76A A76C A76E A779 A77B A77D-A77E A780 A782 A784 A786 A78B A78D A790 A792 A796 A798 A79A",
  "A79C A79E A7A0 A7A2 A7A4 A7A6 A7A8 A7AA-A7AE A7B0-A7B4 A7B6 A7B8 A7BA A7BC A7BE A7C0 A7C2",
  "A7C4-A7C7 A7C9 A7D0 A7D6 A7D8 A7F5 FF21-FF3A 10400-10427 104B0-104D3 10570-1057A 1057C-1058A",
  "1058C-10592 10594-10595 10C80-10CB2 118A0-118BF 16E40-16E5F 1D400-1D419 1D434-1D44D",
  "1D468-1D481 1D49C 1D49E-1D49F 1D4A2 1D4A5-1D4A6 1D4A9-1D4AC 1D4AE-1D4B5 1D4D0-1D4E9",
  "1D504-1D505 1D507-1D50A 1D50D-1D514 1D516-1D51C 1D538-1D539 1D53B-1D53E 1D540-1D544 1D546",
  "1D54A-1D550 1D56C-1D585 1D5A0-1D5B9 1D5D4-1D5ED 1D608-1D621 1D63C-1D655 1D670-1D689",
  "1D6A8-1D6C0 1D6E2-1D6FA 1D71C-1D734 1D756-1D76E 1D790-1D7A8 1D7CA 1E900-1E921 1F130-1F149",
  "1F150-1F169 1F170-1F189"]

/-- The characters that have case: lower, upper or title case. -/
def casedTable : RangeTable := RangeTable.ofLines [
  "AA B5 BA C0-D6 D8-F6 F8-1BA 1BC-1BF 1C4-293 295-2B8 2C0-2C1 2E0-2E4 345 370-373 376-377",
  "37A-37D 37F 386 388-38A 38C 38E-3A1 3A3-3F5 3F7-481 48A-52F 531-556 560-588 10A0-10C5 10C7",
  "10CD 10D0-10FA 10FD-10FF 13A0-13F5 13F8-13FD 1C80-1C88 1C90-1CBA 1CBD-1CBF 1D00-1DBF",
  "1E00-1F15 1F18-1F1D 1F20-1F45 1F48-1F4D 1F50-1F57 1F59 1F5B 1F5D 1F5F-1F7D 1F80-1FB4",
  "1FB6-1FBC 1FBE 1FC2-1FC4 1FC6-1FCC 1FD0-1FD3 1FD6-1FDB 1FE0-1FEC 1FF2-1FF4 1FF6-1FFC 2071",
  "207F 2090-209C 2102 2107 210A-2113 2115 2119-211D 2124 2126 2128 212A-212D 212F-2134 2139",
  "213C-213F 2145-2149 214E 2160-217F 2183-2184 24B6-24E9 2C00-2CE4 2CEB-2CEE 2CF2-2CF3",
  "2D00-2D25 2D27 2D2D A640-A66D A680-A69D A722-A787 A78B-A78E A790-A7CA A7D0-A7D1 A7D3",
  "A7D5-A7D9 A7F5-A7F6 A7F8-A7FA AB30-AB5A AB5C-AB68 AB70-ABBF FB00-FB06 FB13-FB17 FF21-FF3A",
  "FF41-FF5A 10400-1044F 104B0-104D3 104D8-104FB 10570-1057A 1057C-1058A 1058C-10592",
  "10594-10595 10597-105A1 105A3-105B1 105B3-105B9 105BB-105BC 10780 10783-10785 10787-107B0",
  "107B2-107BA 10C80-10CB2 10CC0-10CF2 118A0-118DF 16E40-16E7F 1D400-1D454 1D456-1D49C",
  "1D49E-1D49F 1D4A2 1D4A5-1D4A6 1D4A9-1D4AC 1D4AE-1D4B9 1D4BB 1D4BD-1D4C3 1D4C5-1D505",
  "1D507-1D50A 1D50D-1D514 1D516-1D51C 1D51E-1D539 1D53B-1D53E 1D540-1D544 1D546 1D54A-1D550",
  "1D552-1D6A5 1D6A8-1D6C0 1D6C2-1D6DA 1D6DC-1D6FA 1D6FC-1D714 1D716-1D734 1D736-1D74E",
  "1D750-1D76E 1D770-1D788 1D78A-1D7A8 1D7AA-1D7C2 1D7C4-1D7CB 1DF00-1DF09 1DF0B-1DF1E",
  "1E900-1E943 1F130-1F149 1F150-1F169 1F170-1F189"]

/-- The characters that case looks through, such as marks and apostrophes. -/
def caseIgnorableTable : RangeTable := RangeTable.ofLines [
  "27 2E 3A 5E 60 A8 AD AF B4 B7-B8 2B0-36F 374-375 37A 384-385 387 483-489 559 55F 591-5BD 5BF",
  "5C1-5C2 5C4-5C5 5C7 5F4 600-605 610-61A 61C 640 64B-65F 670 6D6-6DD 6DF-6E8 6EA-6ED 70F 711",
  "730-74A 7A6-7B0 7EB-7F5 7FA 7FD 816-82D 859-85B 888 890-891 898-89F 8C9-902 93A 93C 941-948",
  "94D 951-957 962-963 971 981 9BC 9C1-9C4 9CD 9E2-9E3 9FE A01-A02 A3C A41-A42 A47-A48 A4B-A4D",
  "A51 A70-A71 A75 A81-A82 ABC AC1-AC5 AC7-AC8 ACD AE2-AE3 AFA-AFF B01 B3C B3F B41-B44 B4D",
  "B55-B56 B62-B63 B82 BC0 BCD C00 C04 C3C C3E-C40 C46-C48 C4A-C4D C55-C56 C62-C63 C81 CBC CBF",
  "CC6 CCC-CCD CE2-CE3 D00-D01 D3B-D3C D41-D44 D4D D62-D63 D81 DCA DD2-DD4 DD6 E31 E34-E3A",
  "E46-E4E EB1 EB4-EBC EC6 EC8-ECD F18-F19 F35 F37 F39 F71-F7E F80-F84 F86-F87 F8D-F97 F99-FBC",
  "FC6 102D-1030 1032-1037 1039-103A 103D-103E 1058-1059 105E-1060 1071-1074 1082 1085-1086",
  "108D 109D 10FC 135D-135F 1712-1714 1732-1733 1752-1753 1772-1773 17B4-17B5 17B7-17BD 17C6",
  "17C9-17D3 17D7 17DD 180B-180F 1843 1885-1886 18A9 1920-1922 1927-1928 1932 1939-193B",
  "1A17-1A18 1A1B 1A56 1A58-1A5E 1A60 1A62 1A65-1A6C 1A73-1A7C 1A7F 1AA7 1AB0-1ACE 1B00-1B03",
  "1B34 1B36-1B3A 1B3C 1B42 1B6B-1B73 1B80-1B81 1BA2-1BA5 1BA8-1BA9 1BAB-1BAD 1BE6 1BE8-1BE9",
  "1BED 1BEF-1BF1 1C2C-1C33 1C36-1C37 1C78-1C7D 1CD0-1CD2 1CD4-1CE0 1CE2-1CE8 1CED 1CF4",
  "1CF8-1CF9 1D2C-1D6A 1D78 1D9B-1DFF 1FBD 1FBF-1FC1 1FCD-1FCF 1FDD-1FDF 1FED-1FEF 1FFD-1FFE",
  "200B-200F 2018-2019 2024 2027 202A-202E 2060-2064 2066-206F 2071 207F 2090-209C 20D0-20F0",
  "2C7C-2C7D 2CEF-2CF1 2D6F 2D7F 2DE0-2DFF 2E2F 3005 302A-302D 3031-3035 303B 3099-309E",
  "30FC-30FE A015 A4F8-A4FD A60C A66F-A672 A674-A67D A67F A69C-A69F A6F0-A6F1 A700-A721 A770",
  "A788-A78A A7F2-A7F4 A7F8-A7F9 A802 A806 A80B A825-A826 A82C A8C4-A8C5 A8E0-A8F1 A8FF",
  "A926-A92D A947-A951 A980-A982 A9B3 A9B6-A9B9 A9BC-A9BD A9CF A9E5-A9E6 AA29-AA2E AA31-AA32",
  "AA35-AA36 AA43 AA4C AA70 AA7C AAB0 AAB2-AAB4 AAB7-AAB8 AABE-AABF AAC1 AADD AAEC-AAED",
  "AAF3-AAF4 AAF6 AB5B-AB5F AB69-AB6B ABE5 ABE8 ABED FB1E FBB2-FBC2 FE00-FE0F FE13 FE20-FE2F",
  "FE52 FE55 FEFF FF07 FF0E FF1A FF3E FF40 FF70 FF9E-FF9F FFE3 FFF9-FFFB 101FD 102E0",
  "10376-1037A 10780-10785 10787-107B0 107B2-107BA 10A01-10A03 10A05-10A06 10A0C-10A0F",
  "10A38-10A3A 10A3F 10AE5-10AE6 10D24-10D27 10EAB-10EAC 10F46-10F50 10F82-10F85 11001",
  "11038-11046 11070 11073-11074 1107F-11081 110B3-110B6 110B9-110BA 110BD 110C2 110CD",
  "11100-11102 11127-1112B 1112D-11134 11173 11180-11181 111B6-111BE 111C9-111CC 111CF",
  "1122F-11231 11234 11236-11237 1123E 112DF 112E3-112EA 11300-11301 1133B-1133C 11340",
  "11366-1136C 11370-11374 11438-1143F 11442-11444 11446 1145E 114B3-114B8 114BA 114BF-114C0",
  "114C2-114C3 115B2-115B5 115BC-115BD 115BF-115C0 115DC-115DD 11633-1163A 1163D 1163F-11640",
  "116AB 116AD 116B0-116B5 116B7 1171D-1171F 11722-11725 11727-1172B 1182F-11837 11839-1183A",
  "1193B-1193C 1193E 11943 119D4-119D7 119DA-119DB 119E0 11A01-11A0A 11A33-11A38 11A3B-11A3E",
  "11A47 11A51-11A56 11A59-11A5B 11A8A-11A96 11A98-11A99 11C30-11C36 11C38-11C3D 11C3F",
  "11C92-11CA7 11CAA-11CB0 11CB2-11CB3 11CB5-11CB6 11D31-11D36 11D3A 11D3C-11D3D 11D3F-11D45",
  "11D47 11D90-11D91 11D95 11D97 11EF3-11EF4 13430-13438 16AF0-16AF4 16B30-16B36 16B40-16B43",
  "16F4F 16F8F-16F9F 16FE0-16FE1 16FE3-16FE4 1AFF0-1AFF3 1AFF5-1AFFB 1AFFD-1AFFE 1BC9D-1BC9E",
  "1BCA0-1BCA3 1CF00-1CF2D 1CF30-1CF46 1D167-1D169 1D173-1D182 1D185-1D18B 1D1AA-1D1AD",
  "1D242-1D244 1DA00-1DA36 1DA3B-1DA6C 1DA75 1DA84 1DA9B-1DA9F 1DAA1-1DAAF 1E000-1E006",
  "1E008-1E018 1E01B-1E021 1E023-1E024 1E026-1E02A 1E130-1E13D 1E2AE 1E2EC-1E2EF 1E8D0-1E8D6",
  "1E944-1E94B 1F3FB-1F3FF E0001 E0020-E007F E0100-E01EF"]

/-- The lower-case images. -/
def toLowerTable : MapTable := MapTable.ofLines [
  "C0-D6:E0 D8-DE:F8 100:101 102:103 104:105 106:107 108:109 10A:10B 10C:10D 10E:10F 110:111",
  "112:113 114:115 116:117 118:119 11A:11B 11C:11D 11E:11F 120:121 122:123 124:125 126:127",
  "128:129 12A:12B 12C:12D 12E:12F 130:69,307 132:133 134:135 136:137 139:13A 13B:13C 13D:13E",
  "13F:140 141:142 143:144 145:146 147:148 14A:14B 14C:14D 14E:14F 150:151 152:153 154:155",
  "156:157 158:159 15A:15B 15C:15D 15E:15F 160:161 162:163 164:165 166:167 168:169 16A:16B",
  "16C:16D 16E:16F 170:171 172:173 174:175 176:177 178:FF 179:17A 17B:17C 17D:17E 181:253",
  "182:183 184:185 186:254 187:188 189-18A:256 18B:18C 18E:1DD 18F:259 190:25B 191:192 193:260",
  "194:263 196:269 197:268 198:199 19C:26F 19D:272 19F:275 1A0:1A1 1A2:1A3 1A4:1A5 1A6:280",
  "1A7:1A8 1A9:283 1AC:1AD 1AE:288 1AF:1B0 1B1-1B2:28A 1B3:1B4 1B5:1B6 1B7:292 1B8:1B9 1BC:1BD",
  "1C4:1C6 1C5:1C6 1C7:1C9 1C8:1C9 1CA:1CC 1CB:1CC 1CD:1CE 1CF:1D0 1D1:1D2 1D3:1D4 1D5:1D6",
  "1D7:1D8 1D9:1DA 1DB:1DC 1DE:1DF 1E0:1E1 1E2:1E3 1E4:1E5 1E6:1E7 1E8:1E9 1EA:1EB 1EC:1ED",
  "1EE:1EF 1F1:1F3 1F2:1F3 1F4:1F5 1F6:195 1F7:1BF 1F8:1F9 1FA:1FB 1FC:1FD 1FE:1FF 200:201",
  "202:203 204:205 206:207 208:209 20A:20B 20C:20D 20E:20F 210:211 212:213 214:215 216:217",
  "218:219 21A:21B 21C:21D 21E:21F 220:19E 222:223 224:225 226:227 228:229 22A:22B 22C:22D",
  "22E:22F 230:231 232:233 23A:2C65 23B:23C 23D:19A 23E:2C66 241:242 243:180 244:289 245:28C",
  "246:247 248:249 24A:24B 24C:24D 24E:24F 370:371 372:373 376:377 37F:3F3 386:3AC 388-38A:3AD",
  "38C:3CC 38E-38F:3CD 391-3A1:3B1 3A3-3AB:3C3 3CF:3D7 3D8:3D9 3DA:3DB 3DC:3DD 3DE:3DF 3E0:3E1",
  "3E2:3E3 3E4:3E5 3E6:3E7 3E8:3E9 3EA:3EB 3EC:3ED 3EE:3EF 3F4:3B8 3F7:3F8 3F9:3F2 3FA:3FB",
  "3FD-3FF:37B 400-40F:450 410-42F:430 460:461 462:463 464:465 466:467 468:469 46A:46B 46C:46D",
  "46E:46F 470:471 472:473 474:475 476:477 478:479 47A:47B 47C:47D 47E:47F 480:481 48A:48B",
  "48C:48D 48E:48F 490:491 492:493 494:495 496:497 498:499 49A:49B 49C:49D 49E:49F 4A0:4A1",
  "4A2:4A3 4A4:4A5 4A6:4A7 4A8:4A9 4AA:4AB 4AC:4AD 4AE:4AF 4B0:4B1 4B2:4B3 4B4:4B5 4B6:4B7",
  "4B8:4B9 4BA:4BB 4BC:4BD 4BE:4BF 4C0:4CF 4C1:4C2 4C3:4C4 4C5:4C6 4C7:4C8 4C9:4CA 4CB:4CC",
  "4CD:4CE 4D0:4D1 4D2:4D3 4D4:4D5 4D6:4D7 4D8:4D9 4DA:4DB 4DC:4DD 4DE:4DF 4E0:4E1 4E2:4E3",
  "4E4:4E5 4E6:4E7 4E8:4E9 4EA:4EB 4EC:4ED 4EE:4EF 4F0:4F1 4F2:4F3 4F4:4F5 4F6:4F7 4F8:4F9",
  "4FA:4FB 4FC:4FD 4FE:4FF 500:501 502:503 504:505 506:507 508:509 50A:50B 50C:50D 50E:50F",
  "510:511 512:513 514:515 516:517 518:519 51A:51B 51C:51D 51E:51F 520:521 522:523 524:525",
  "526:527 528:529 52A:52B 52C:52D 52E:52F 531-556:561 10A0-10C5:2D00 10C7:2D27 10CD:2D2D",
  "13A0-13EF:AB70 13F0-13F5:13F8 1C90-1CBA:10D0 1CBD-1CBF:10FD 1E00:1E01 1E02:1E03 1E04:1E05",
  "1E06:1E07 1E08:1E09 1E0A:1E0B 1E0C:1E0D 1E0E:1E0F 1E10:1E11 1E12:1E13 1E14:1E15 1E16:1E17",
  "1E18:1E19 1E1A:1E1B 1E1C:1E1D 1E1E:1E1F 1E20:1E21 1E22:1E23 1E24:1E25 1E26:1E27 1E28:1E29",
  "1E2A:1E2B 1E2C:1E2D 1E2E:1E2F 1E30:1E31 1E32:1E33 1E34:1E35 1E36:1E37 1E38:1E39 1E3A:1E3B",
  "1E3C:1E3D 1E3E:1E3F 1E40:1E41 1E42:1E43 1E44:1E45 1E46:1E47 1E48:1E49 1E4A:1E4B 1E4C:1E4D",
  "1E4E:1E4F 1E50:1E51 1E52:1E53 1E54:1E55 1E56:1E57 1E58:1E59 1E5A:1E5B 1E5C:1E5D 1E5E:1E5F",
  "1E60:1E61 1E62:1E63 1E64:1E65 1E66:1E67 1E68:1E69 1E6A:1E6B 1E6C:1E6D 1E6E:1E6F 1E70:1E71",
  "1E72:1E73 1E74:1E75 1E76:1E77 1E78:1E79 1E7A:1E7B 1E7C:1E7D 1E7E:1E7F 1E80:1E81 1E82:1E83",
  "1E84:1E85 1E86:1E87 1E88:1E89 1E8A:1E8B 1E8C:1E8D 1E8E:1E8F 1E90:1E91 1E92:1E93 1E94:1E95",
  "1E9E:DF 1EA0:1EA1 1EA2:1EA3 1EA4:1EA5 1EA6:1EA7 1EA8:1EA9 1EAA:1EAB 1EAC:1EAD 1EAE:1EAF",
  "1EB0:1EB1 1EB2:1EB3 1EB4:1EB5 1EB6:1EB7 1EB8:1EB9 1EBA:1EBB 1EBC:1EBD 1EBE:1EBF 1EC0:1EC1",
  "1EC2:1EC3 1EC4:1EC5 1EC6:1EC7 1EC8:1EC9 1ECA:1ECB 1ECC:1ECD 1ECE:1ECF 1ED0:1ED1 1ED2:1ED3",
  "1ED4:1ED5 1ED6:1ED7 1ED8:1ED9 1EDA:1EDB 1EDC:1EDD 1EDE:1EDF 1EE0:1EE1 1EE2:1EE3 1EE4:1EE5",
  "1EE6:1EE7 1EE8:1EE9 1EEA:1EEB 1EEC:1EED 1EEE:1EEF 1EF0:1EF1 1EF2:1EF3 1EF4:1EF5 1EF6:1EF7",
  "1EF8:1EF9 1EFA:1EFB 1EFC:1EFD 1EFE:1EFF 1F08-1F0F:1F00 1F18-1F1D:1F10 1F28-1F2F:1F20",
  "1F38-1F3F:1F30 1F48-1F4D:1F40 1F59:1F51 1F5B:1F53 1F5D:1F55 1F5F:1F57 1F68-1F6F:1F60",
  "1F88-1F8F:1F80 1F98-1F9F:1F90 1FA8-1FAF:1FA0 1FB8-1FB9:1FB0 1FBA-1FBB:1F70 1FBC:1FB3",
  "1FC8-1FCB:1F72 1FCC:1FC3 1FD8-1FD9:1FD0 1FDA-1FDB:1F76 1FE8-1FE9:1FE0 1FEA-1FEB:1F7A",
  "1FEC:1FE5 1FF8-1FF9:1F78 1FFA-1FFB:1F7C 1FFC:1FF3 2126:3C9 212A:6B 212B:E5 2132:214E",
  "2160-216F:2170 2183:2184 24B6-24CF:24D0 2C00-2C2F:2C30 2C60:2C61 2C62:26B 2C63:1D7D 2C64:27D",
  "2C67:2C68 2C69:2C6A 2C6B:2C6C 2C6D:251 2C6E:271 2C6F:250 2C70:252 2C72:2C73 2C75:2C76",
  "2C7E-2C7F:23F 2C80:2C81 2C82:2C83 2C84:2C85 2C86:2C87 2C88:2C89 2C8A:2C8B 2C8C:2C8D",
  "2C8E:2C8F 2C90:2C91 2C92:2C93 2C94:2C95 2C96:2C97 2C98:2C99 2C9A:2C9B 2C9C:2C9D 2C9E:2C9F",
  "2CA0:2CA1 2CA2:2CA3 2CA4:2CA5 2CA6:2CA7 2CA8:2CA9 2CAA:2CAB 2CAC:2CAD 2CAE:2CAF 2CB0:2CB1",
  "2CB2:2CB3 2CB4:2CB5 2CB6:2CB7 2CB8:2CB9 2CBA:2CBB 2CBC:2CBD 2CBE:2CBF 2CC0:2CC1 2CC2:2CC3",
  "2CC4:2CC5 2CC6:2CC7 2CC8:2CC9 2CCA:2CCB 2CCC:2CCD 2CCE:2CCF 2CD0:2CD1 2CD2:2CD3 2CD4:2CD5",
  "2CD6:2CD7 2CD8:2CD9 2CDA:2CDB 2CDC:2CDD 2CDE:2CDF 2CE0:2CE1 2CE2:2CE3 2CEB:2CEC 2CED:2CEE",
  "2CF2:2CF3 A640:A641 A642:A643 A644:A645 A646:A647 A648:A649 A64A:A64B A64C:A64D A64E:A64F",
  "A650:A651 A652:A653 A654:A655 A656:A657 A658:A659 A65A:A65B A65C:A65D A65E:A65F A660:A661",
  "A662:A663 A664:A665 A666:A667 A668:A669 A66A:A66B A66C:A66D A680:A681 A682:A683 A684:A685",
  "A686:A687 A688:A689 A68A:A68B A68C:A68D A68E:A68F A690:A691 A692:A693 A694:A695 A696:A697",
  "A698:A699 A69A:A69B A722:A723 A724:A725 A726:A727 A728:A729 A72A:A72B A72C:A72D A72E:A72F",
  "A732:A733 A734:A735 A736:A737 A738:A739 A73A:A73B A73C:A73D A73E:A73F A740:A741 A742:A743",
  "A744:A745 A746:A747 A748:A749 A74A:A74B A74C:A74D A74E:A74F A750:A751 A752:A753 A754:A755",
  "A756:A757 A758:A759 A75A:A75B A75C:A75D A75E:A75F A760:A761 A762:A763 A764:A765 A766:A767",
  "A768:A769 A76A:A76B A76C:A76D A76E:A76F A779:A77A A77B:A77C A77D:1D79 A77E:A77F A780:A781",
  "A782:A783 A784:A785 A786:A787 A78B:A78C A78D:265 A790:A791 A792:A793 A796:A797 A798:A799",
  "A79A:A79B A79C:A79D A79E:A79F A7A0:A7A1 A7A2:A7A3 A7A4:A7A5 A7A6:A7A7 A7A8:A7A9 A7AA:266",
  "A7AB:25C A7AC:261 A7AD:26C A7AE:26A A7B0:29E A7B1:287 A7B2:29D A7B3:AB53 A7B4:A7B5 A7B6:A7B7",
  "A7B8:A7B9 A7BA:A7BB A7BC:A7BD A7BE:A7BF A7C0:A7C1 A7C2:A7C3 A7C4:A794 A7C5:282 A7C6:1D8E",
  "A7C7:A7C8 A7C9:A7CA A7D0:A7D1 A7D6:A7D7 A7D8:A7D9 A7F5:A7F6 FF21-FF3A:FF41 10400-10427:10428",
  "104B0-104D3:104D8 10570-1057A:10597 1057C-1058A:105A3 1058C-10592:105B3 10594-10595:105BB",
  "10C80-10CB2:10CC0 118A0-118BF:118C0 16E40-16E5F:16E60 1E900-1E921:1E922"]

/-- The upper-case images. -/
def toUpperTable : MapTable := MapTable.ofLines [
  "B5:39C DF:53,53 E0-F6:C0 F8-FE:D8 FF:178 101:100 103:102 105:104 107:106 109:108 10B:10A",
  "10D:10C 10F:10E 111:110 113:112 115:114 117:116 119:118 11B:11A 11D:11C 11F:11E 121:120",
  "123:122 125:124 127:126 129:128 12B:12A 12D:12C 12F:12E 131:49 133:132 135:134 137:136",
  "13A:139 13C:13B 13E:13D 140:13F 142:141 144:143 146:145 148:147 149:2BC,4E 14B:14A 14D:14C",
  "14F:14E 151:150 153:152 155:154 157:156 159:158 15B:15A 15D:15C 15F:15E 161:160 163:162",
  "165:164 167:166 169:168 16B:16A 16D:16C 16F:16E 171:170 173:172 175:174 177:176 17A:179",
  "17C:17B 17E:17D 17F:53 180:243 183:182 185:184 188:187 18C:18B 192:191 195:1F6 199:198",
  "19A:23D 19E:220 1A1:1A0 1A3:1A2 1A5:1A4 1A8:1A7 1AD:1AC 1B0:1AF 1B4:1B3 1B6:1B5 1B9:1B8",
  "1BD:1BC 1BF:1F7 1C5:1C4 1C6:1C4 1C8:1C7 1C9:1C7 1CB:1CA 1CC:1CA 1CE:1CD 1D0:1CF 1D2:1D1",
  "1D4:1D3 1D6:1D5 1D8:1D7 1DA:1D9 1DC:1DB 1DD:18E 1DF:1DE 1E1:1E0 1E3:1E2 1E5:1E4 1E7:1E6",
  "1E9:1E8 1EB:1EA 1ED:1EC 1EF:1EE 1F0:4A,30C 1F2:1F1 1F3:1F1 1F5:1F4 1F9:1F8 1FB:1FA 1FD:1FC",
  "1FF:1FE 201:200 203:202 205:204 207:206 209:208 20B:20A 20D:20C 20F:20E 211:210 213:212",
  "215:214 217:216 219:218 21B:21A 21D:21C 21F:21E 223:222 225:224 227:226 229:228 22B:22A",
  "22D:22C 22F:22E 231:230 233:232 23C:23B 23F-240:2C7E 242:241 247:246 249:248 24B:24A 24D:24C",
  "24F:24E 250:2C6F 251:2C6D 252:2C70 253:181 254:186 256-257:189 259:18F 25B:190 25C:A7AB",
  "260:193 261:A7AC 263:194 265:A78D 266:A7AA 268:197 269:196 26A:A7AE 26B:2C62 26C:A7AD",
  "26F:19C 271:2C6E 272:19D 275:19F 27D:2C64 280:1A6 282:A7C5 283:1A9 287:A7B1 288:1AE 289:244",
  "28A-28B:1B1 28C:245 292:1B7 29D:A7B2 29E:A7B0 345:399 371:370 373:372 377:376 37B-37D:3FD",
  "390:399,308,301 3AC:386 3AD-3AF:388 3B0:3A5,308,301 3B1-3C1:391 3C2:3A3 3C3-3CB:3A3 3CC:38C",
  "3CD-3CE:38E 3D0:392 3D1:398 3D5:3A6 3D6:3A0 3D7:3CF 3D9:3D8 3DB:3DA 3DD:3DC 3DF:3DE 3E1:3E0",
  "3E3:3E2 3E5:3E4 3E7:3E6 3E9:3E8 3EB:3EA 3ED:3EC 3EF:3EE 3F0:39A 3F1:3A1 3F2:3F9 3F3:37F",
  "3F5:395 3F8:3F7 3FB:3FA 430-44F:410 450-45F:400 461:460 463:462 465:464 467:466 469:468",
  "46B:46A 46D:46C 46F:46E 471:470 473:472 475:474 477:476 479:478 47B:47A 47D:47C 47F:47E",
  "481:480 48B:48A 48D:48C 48F:48E 491:490 493:492 495:494 497:496 499:498 49B:49A 49D:49C",
  "49F:49E 4A1:4A0 4A3:4A2 4A5:4A4 4A7:4A6 4A9:4A8 4AB:4AA 4AD:4AC 4AF:4AE 4B1:4B0 4B3:4B2",
  "4B5:4B4 4B7:4B6 4B9:4B8 4BB:4BA 4BD:4BC 4BF:4BE 4C2:4C1 4C4:4C3 4C6:4C5 4C8:4C7 4CA:4C9",
  "4CC:4CB 4CE:4CD 4CF:4C0 4D1:4D0 4D3:4D2 4D5:4D4 4D7:4D6 4D9:4D8 4DB:4DA 4DD:4DC 4DF:4DE",
  "4E1:4E0 4E3:4E2 4E5:4E4 4E7:4E6 4E9:4E8 4EB:4EA 4ED:4EC 4EF:4EE 4F1:4F0 4F3:4F2 4F5:4F4",
  "4F7:4F6 4F9:4F8 4FB:4FA 4FD:4FC 4FF:4FE 501:500 503:502 505:504 507:506 509:508 50B:50A",
  "50D:50C 50F:50E 511:510 513:512 515:514 517:516 519:518 51B:51A 51D:51C 51F:51E 521:520",
  "523:522 525:524 527:526 529:528 52B:52A 52D:52C 52F:52E 561-586:531 587:535,552",
  "10D0-10FA:1C90 10FD-10FF:1CBD 13F8-13FD:13F0 1C80:412 1C81:414 1C82:41E 1C83-1C84:421",
  "1C85:422 1C86:42A 1C87:462 1C88:A64A 1D79:A77D 1D7D:2C63 1D8E:A7C6 1E01:1E00 1E03:1E02",
  "1E05:1E04 1E07:1E06 1E09:1E08 1E0B:1E0A 1E0D:1E0C 1E0F:1E0E 1E11:1E10 1E13:1E12 1E15:1E14",
  "1E17:1E16 1E19:1E18 1E1B:1E1A 1E1D:1E1C 1E1F:1E1E 1E21:1E20 1E23:1E22 1E25:1E24 1E27:1E26",
  "1E29:1E28 1E2B:1E2A 1E2D:1E2C 1E2F:1E2E 1E31:1E30 1E33:1E32 1E35:1E34 1E37:1E36 1E39:1E38",
  "1E3B:1E3A 1E3D:1E3C 1E3F:1E3E 1E41:1E40 1E43:1E42 1E45:1E44 1E47:1E46 1E49:1E48 1E4B:1E4A",
  "1E4D:1E4C 1E4F:1E4E 1E51:1E50 1E53:1E52 1E55:1E54 1E57:1E56 1E59:1E58 1E5B:1E5A 1E5D:1E5C",
  "1E5F:1E5E 1E61:1E60 1E63:1E62 1E65:1E64 1E67:1E66 1E69:1E68 1E6B:1E6A 1E6D:1E6C 1E6F:1E6E",
  "1E71:1E70 1E73:1E72 1E75:1E74 1E77:1E76 1E79:1E78 1E7B:1E7A 1E7D:1E7C 1E7F:1E7E 1E81:1E80",
  "1E83:1E82 1E85:1E84 1E87:1E86 1E89:1E88 1E8B:1E8A 1E8D:1E8C 1E8F:1E8E 1E91:1E90 1E93:1E92",
  "1E95:1E94 1E96:48,331 1E97:54,308 1E98:57,30A 1E99:59,30A 1E9A:41,2BE 1E9B:1E60 1EA1:1EA0",
  "1EA3:1EA2 1EA5:1EA4 1EA7:1EA6 1EA9:1EA8 1EAB:1EAA 1EAD:1EAC 1EAF:1EAE 1EB1:1EB0 1EB3:1EB2",
  "1EB5:1EB4 1EB7:1EB6 1EB9:1EB8 1EBB:1EBA 1EBD:1EBC 1EBF:1EBE 1EC1:1EC0 1EC3:1EC2 1EC5:1EC4",
  "1EC7:1EC6 1EC9:1EC8 1ECB:1ECA 1ECD:1ECC 1ECF:1ECE 1ED1:1ED0 1ED3:1ED2 1ED5:1ED4 1ED7:1ED6",
  "1ED9:1ED8 1EDB:1EDA 1EDD:1EDC 1EDF:1EDE 1EE1:1EE0 1EE3:1EE2 1EE5:1EE4 1EE7:1EE6 1EE9:1EE8",
  "1EEB:1EEA 1EED:1EEC 1EEF:1EEE 1EF1:1EF0 1EF3:1EF2 1EF5:1EF4 1EF7:1EF6 1EF9:1EF8 1EFB:1EFA",
  "1EFD:1EFC 1EFF:1EFE 1F00-1F07:1F08 1F10-1F15:1F18 1F20-1F27:1F28 1F30-1F37:1F38",
  "1F40-1F45:1F48 1F50:3A5,313 1F51:1F59 1F52:3A5,313,300 1F53:1F5B 1F54:3A5,313,301 1F55:1F5D",
  "1F56:3A5,313,342 1F57:1F5F 1F60-1F67:1F68 1F70-1F71:1FBA 1F72-1F75:1FC8 1F76-1F77:1FDA",
  "1F78-1F79:1FF8 1F7A-1F7B:1FEA 1F7C-1F7D:1FFA 1F80:1F08,399 1F81:1F09,399 1F82:1F0A,399",
  "1F83:1F0B,399 1F84:1F0C,399 1F85:1F0D,399 1F86:1F0E,399 1F87:1F0F,399 1F88:1F08,399",
  "1F89:1F09,399 1F8A:1F0A,399 1F8B:1F0B,399 1F8C:1F0C,399 1F8D:1F0D,399 1F8E:1F0E,399",
  "1F8F:1F0F,399 1F90:1F28,399 1F91:1F29,399 1F92:1F2A,399 1F93:1F2B,399 1F94:1F2C,399",
  "1F95:1F2D,399 1F96:1F2E,399 1F97:1F2F,399 1F98:1F28,399 1F99:1F29,399 1F9A:1F2A,399",
  "1F9B:1F2B,399 1F9C:1F2C,399 1F9D:1F2D,399 1F9E:1F2E,399 1F9F:1F2F,399 1FA0:1F68,399",
  "1FA1:1F69,399 1FA2:1F6A,399 1FA3:1F6B,399 1FA4:1F6C,399 1FA5:1F6D,399 1FA6:1F6E,399",
  "1FA7:1F6F,399 1FA8:1F68,399 1FA9:1F69,399 1FAA:1F6A,399 1FAB:1F6B,399 1FAC:1F6C,399",
  "1FAD:1F6D,399 1FAE:1F6E,399 1FAF:1F6F,399 1FB0-1FB1:1FB8 1FB2:1FBA,399 1FB3:391,399",
  "1FB4:386,399 1FB6:391,342 1FB7:391,342,399 1FBC:391,399 1FBE:399 1FC2:1FCA,399 1FC3:397,399",
  "1FC4:389,399 1FC6:397,342 1FC7:397,342,399 1FCC:397,399 1FD0-1FD1:1FD8 1FD2:399,308,300",
  "1FD3:399,308,301 1FD6:399,342 1FD7:399,308,342 1FE0-1FE1:1FE8 1FE2:3A5,308,300",
  "1FE3:3A5,308,301 1FE4:3A1,313 1FE5:1FEC 1FE6:3A5,342 1FE7:3A5,308,342 1FF2:1FFA,399",
  "1FF3:3A9,399 1FF4:38F,399 1FF6:3A9,342 1FF7:3A9,342,399 1FFC:3A9,399 214E:2132",
  "2170-217F:2160 2184:2183 24D0-24E9:24B6 2C30-2C5F:2C00 2C61:2C60 2C65:23A 2C66:23E 2C68:2C67",
  "2C6A:2C69 2C6C:2C6B 2C73:2C72 2C76:2C75 2C81:2C80 2C83:2C82 2C85:2C84 2C87:2C86 2C89:2C88",
  "2C8B:2C8A 2C8D:2C8C 2C8F:2C8E 2C91:2C90 2C93:2C92 2C95:2C94 2C97:2C96 2C99:2C98 2C9B:2C9A",
  "2C9D:2C9C 2C9F:2C9E 2CA1:2CA0 2CA3:2CA2 2CA5:2CA4 2CA7:2CA6 2CA9:2CA8 2CAB:2CAA 2CAD:2CAC",
  "2CAF:2CAE 2CB1:2CB0 2CB3:2CB2 2CB5:2CB4 2CB7:2CB6 2CB9:2CB8 2CBB:2CBA 2CBD:2CBC 2CBF:2CBE",
  "2CC1:2CC0 2CC3:2CC2 2CC5:2CC4 2CC7:2CC6 2CC9:2CC8 2CCB:2CCA 2CCD:2CCC 2CCF:2CCE 2CD1:2CD0",
  "2CD3:2CD2 2CD5:2CD4 2CD7:2CD6 2CD9:2CD8 2CDB:2CDA 2CDD:2CDC 2CDF:2CDE 2CE1:2CE0 2CE3:2CE2",
  "2CEC:2CEB 2CEE:2CED 2CF3:2CF2 2D00-2D25:10A0 2D27:10C7 2D2D:10CD A641:A640 A643:A642",
  "A645:A644 A647:A646 A649:A648 A64B:A64A A64D:A64C A64F:A64E A651:A650 A653:A652 A655:A654",
  "A657:A656 A659:A658 A65B:A65A A65D:A65C A65F:A65E A661:A660 A663:A662 A665:A664 A667:A666",
  "A669:A668 A66B:A66A A66D:A66C A681:A680 A683:A682 A685:A684 A687:A686 A689:A688 A68B:A68A",
  "A68D:A68C A68F:A68E A691:A690 A693:A692 A695:A694 A697:A696 A699:A698 A69B:A69A A723:A722",
  "A725:A724 A727:A726 A729:A728 A72B:A72A A72D:A72C A72F:A72E A733:A732 A735:A734 A737:A736",
  "A739:A738 A73B:A73A A73D:A73C A73F:A73E A741:A740 A743:A742 A745:A744 A747:A746 A749:A748",
  "A74B:A74A A74D:A74C A74F:A74E A751:A750 A753:A752 A755:A754 A757:A756 A759:A758 A75B:A75A",
  "A75D:A75C A75F:A75E A761:A760 A763:A762 A765:A764 A767:A766 A769:A768 A76B:A76A A76D:A76C",
  "A76F:A76E A77A:A779 A77C:A77B A77F:A77E A781:A780 A783:A782 A785:A784 A787:A786 A78C:A78B",
  "A791:A790 A793:A792 A794:A7C4 A797:A796 A799:A798 A79B:A79A A79D:A79C A79F:A79E A7A1:A7A0",
  "A7A3:A7A2 A7A5:A7A4 A7A7:A7A6 A7A9:A7A8 A7B5:A7B4 A7B7:A7B6 A7B9:A7B8 A7BB:A7BA A7BD:A7BC",
  "A7BF:A7BE A7C1:A7C0 A7C3:A7C2 A7C8:A7C7 A7CA:A7C9 A7D1:A7D0 A7D7:A7D6 A7D9:A7D8 A7F6:A7F5",
  "AB53:A7B3 AB70-ABBF:13A0 FB00:46,46 FB01:46,49 FB02:46,4C FB03:46,46,49 FB04:46,46,4C",
  "FB05:53,54 FB06:53,54 FB13:544,546 FB14:544,535 FB15:544,53B FB16:54E,546 FB17:544,53D",
  "FF41-FF5A:FF21 10428-1044F:10400 104D8-104FB:104B0 10597-105A1:10570 105A3-105B1:1057C",
  "105B3-105B9:1058C 105BB-105BC:10594 10CC0-10CF2:10C80 118C0-118DF:118A0 16E60-16E7F:16E40",
  "1E922-1E943:1E900"]

/-! ### Properties and mappings of one character -/

/-- Is the character a lower-case one? -/
def isLower (c : Char) : Bool :=
  if c.toNat < 128 then c.isLower else lowerTable.contains c.toNat

/-- Is the character an upper-case one? -/
def isUpper (c : Char) : Bool :=
  if c.toNat < 128 then c.isUpper else upperTable.contains c.toNat

/-- Has the character case? -/
def isCased (c : Char) : Bool :=
  if c.toNat < 128 then c.isAlpha else casedTable.contains c.toNat

/-- Does case look through the character? -/
def isCaseIgnorable (c : Char) : Bool :=
  if c.toNat < 128 && c.isAlphanum then false else caseIgnorableTable.contains c.toNat

/-- The upper-case form of one character. -/
def upper (c : Char) : List Char :=
  if c.toNat < 128 then [c.toUpper] else toUpperTable.apply c

/-- The lower-case form of one character that is not a capital sigma at the end of a word. -/
def lower (c : Char) : List Char :=
  if c.toNat < 128 then [c.toLower] else toLowerTable.apply c

/-! ### Lower case of a text -/

/-- Is the next character that case does not look through a cased one? -/
def casedAhead (cs : List Char) : Bool :=
  match cs.dropWhile isCaseIgnorable with
  | c :: _ => isCased c
  | [] => false

/-- The lower-case form of the characters that follow `before`, which is kept in reverse. A capital
sigma is final after a cased character with no cased one to follow. -/
def lowerFrom (before : List Char) : List Char → List Char
  | [] => []
  | c :: rest =>
    let image :=
      if c.toNat == 0x3A3 then
        if casedAhead before && !casedAhead rest then [Char.ofNat 0x3C2] else [Char.ofNat 0x3C3]
      else lower c
    image ++ lowerFrom (c :: before) rest

/-- The lower-case form of a text. -/
def lowerText (s : String) : String :=
  String.ofList (lowerFrom [] s.toList)

end FluentBuilder.Text
