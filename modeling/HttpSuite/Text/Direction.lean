/-
HttpSuite/Text/Direction.lean

The direction that characters are written in. `Direction.fits` is the rule for a label: it starts
with a letter, holds only what can stand among letters of that direction, and ends with a letter or
a digit, so that it is shown the same way whatever stands around it.
-/
import HttpSuite.Text.Runs

namespace HttpSuite.Text

/-- How a character is directed. -/
inductive Direction where
  | left
  /-- Written from right to left. -/
  | right
  /-- A digit among letters that are written from right to left. -/
  | rightDigit
  | digit
  /-- Takes the direction of what is around it. -/
  | neutral
  /-- A mark on the character before. -/
  | mark
  | separator
deriving DecidableEq, Repr

namespace Direction

/-- The characters that are not written from left to right, with the place of their direction in
`listed`. -/
def runs : List Run := Run.table
  ["0-8:4 9-D:6 E-1B:4 1C-20:6 21-2F:4 30-39:3 3A-40:4 5B-60:4 7B-A9:4 AB-B1:4 B2-B3:3 B4:4",
    "B6-B8:4 B9:3 BB-BF:4 D7:4 F7:4 2B9-2BA:4 2C2-2CF:4 2D2-2DF:4 2E5-2ED:4 2EF-2FF:4 300-36F:5",
    "374-375:4 37E:4 384-385:4 387:4 3F6:4 483-489:5 58A-58F:4 591-5BD:5 5BE:1 5BF:5 5C0:1",
    "5C1-5C2:5 5C3:1 5C4-5C5:5 5C6:1 5C7:5 5D0-5F4:1 606-607:4 608:1 609-60A:4 60B:1 60C:4 60D:1",
    "60E-60F:4 610-61A:5 61B-64A:1 64B-65F:5 660-669:2 66A:4 66B-66C:2 66D-66F:1 670:5 671-6D5:1",
    "6D6-6DC:5 6DE:4 6DF-6E4:5 6E5-6E6:1 6E7-6E8:5 6E9:4 6EA-6ED:5 6EE-6EF:1 6F0-6F9:3 6FA-710:1",
    "711:5 712-72F:1 730-74A:5 74D-7A5:1 7A6-7B0:5 7B1-7EA:1 7EB-7F3:5 7F4-7F5:1 7F6-7F9:4 7FA:1",
    "7FD:5 7FE-815:1 816-819:5 81A:1 81B-823:5 824:1 825-827:5 828:1 829-82D:5 830-858:1",
    "859-85B:5 85E-88E:1 898-89F:5 8A0-8C9:1 8CA-902:5 93A:5 93C:5 941-948:5 94D:5 951-957:5",
    "962-963:5 981:5 9BC:5 9C1-9C4:5 9CD:5 9E2-9E3:5 9F2-9F3:4 9FB:4 9FE-A02:5 A3C:5 A41-A51:5",
    "A70-A71:5 A75:5 A81-A82:5 ABC:5 AC1-AC8:5 ACD:5 AE2-AE3:5 AF1:4 AFA-B01:5 B3C:5 B3F:5",
    "B41-B44:5 B4D-B56:5 B62-B63:5 B82:5 BC0:5 BCD:5 BF3-BFA:4 C00:5 C04:5 C3C:5 C3E-C40:5",
    "C46-C56:5 C62-C63:5 C78-C7E:4 C81:5 CBC:5 CCC-CCD:5 CE2-CE3:5 D00-D01:5 D3B-D3C:5 D41-D44:5",
    "D4D:5 D62-D63:5 D81:5 DCA:5 DD2-DD6:5 E31:5 E34-E3A:5 E3F:4 E47-E4E:5 EB1:5 EB4-EBC:5",
    "EC8-ECD:5 F18-F19:5 F35:5 F37:5 F39:5 F3A-F3D:4 F71-F7E:5 F80-F84:5 F86-F87:5 F8D-FBC:5",
    "FC6:5 102D-1030:5 1032-1037:5 1039-103A:5 103D-103E:5 1058-1059:5 105E-1060:5 1071-1074:5",
    "1082:5 1085-1086:5 108D:5 109D:5 135D-135F:5 1390-1399:4 1400:4 169B-169C:4 1712-1714:5",
    "1732-1733:5 1752-1753:5 1772-1773:5 17B4-17B5:5 17B7-17BD:5 17C6:5 17C9-17D3:5 17DB:4",
    "17DD:5 17F0-180A:4 180B-180D:5 180E:4 180F:5 1885-1886:5 18A9:5 1920-1922:5 1927-1928:5",
    "1932:5 1939-193B:5 1940-1945:4 19DE-19FF:4 1A17-1A18:5 1A1B:5 1A56:5 1A58-1A60:5 1A62:5",
    "1A65-1A6C:5 1A73-1A7F:5 1AB0-1ACE:5 1B00-1B03:5 1B34:5 1B36-1B3A:5 1B3C:5 1B42:5",
    "1B6B-1B73:5 1B80-1B81:5 1BA2-1BA5:5 1BA8-1BA9:5 1BAB-1BAD:5 1BE6:5 1BE8-1BE9:5 1BED:5",
    "1BEF-1BF1:5 1C2C-1C33:5 1C36-1C37:5 1CD0-1CD2:5 1CD4-1CE0:5 1CE2-1CE8:5 1CED:5 1CF4:5",
    "1CF8-1CF9:5 1DC0-1DFF:5 1FBD:4 1FBF-1FC1:4 1FCD-1FCF:4 1FDD-1FDF:4 1FED-1FEF:4 1FFD-1FFE:4",
    "2000-200A:6 200B-205E:4 205F:6 2060-206F:4 2070:3 2074-2079:3 207A-207E:4 2080-2089:3",
    "208A-208E:4 20A0-20C0:4 20D0-20F0:5 2100-2101:4 2103-2106:4 2108-2109:4 2114:4 2116-2118:4",
    "211E-2123:4 2125:4 2127:4 2129:4 212E:4 213A-213B:4 2140-2144:4 214A-214D:4 2150-215F:4",
    "2189-2335:4 237B-2394:4 2396-2426:4 2440-2487:4 24EA-26AB:4 26AD-27FF:4 2900-2B95:4",
    "2B97-2BFF:4 2CE5-2CEA:4 2CEF-2CF1:5 2CF9-2CFF:4 2D7F:5 2DE0-2DFF:5 2E00-2FD5:4 3000:6",
    "3001-3004:4 3008-3020:4 302A-302D:5 3030:4 3036-3037:4 303D-303F:4 3099-309A:5 309B-309C:4",
    "30A0:4 30FB:4 31C0-31E3:4 321D-321E:4 3250-325F:4 327C-327E:4 32B1-32BF:4 32CC-32CF:4",
    "3377-337A:4 33DE-33DF:4 33FF:4 4DC0-4DFF:4 A490-A4C6:4 A60D-A60F:4 A66F-A672:5 A673:4",
    "A674-A67D:5 A67E-A67F:4 A69E-A69F:5 A6F0-A6F1:5 A700-A721:4 A788:4 A802:5 A806:5 A80B:5",
    "A825-A826:5 A828-A82B:4 A82C:5 A838-A839:4 A874-A877:4 A8C4-A8C5:5 A8E0-A8F1:5 A8FF:5",
    "A926-A92D:5 A947-A951:5 A980-A982:5 A9B3:5 A9B6-A9B9:5 A9BC-A9BD:5 A9E5:5 AA29-AA2E:5",
    "AA31-AA32:5 AA35-AA36:5 AA43:5 AA4C:5 AA7C:5 AAB0:5 AAB2-AAB4:5 AAB7-AAB8:5 AABE-AABF:5",
    "AAC1:5 AAEC-AAED:5 AAF6:5 AB6A-AB6B:4 ABE5:5 ABE8:5 ABED:5 FB1D:1 FB1E:5 FB1F-FB28:1 FB29:4",
    "FB2A-FBC2:1 FBD3-FD3D:1 FD3E-FD4F:4 FD50-FD8F:1 FD92-FDC7:1 FDCF:4 FDF0-FDFC:1 FDFD-FDFF:4",
    "FE00-FE0F:5 FE10-FE18:4 FE20-FE2F:5 FE31-FE6B:4 FE70-FEFC:1 FEFF-FF0F:4 FF10-FF19:3",
    "FF1A-FF20:4 FF3B-FF40:4 FF5B-FF65:4 FFE0-FFEE:4 10101:4 10140-1018C:4 10190-101A0:4 101FD:5",
    "102E0:5 102E1-102FB:3 10376-1037A:5 10800-1091B:1 1091F:4 10920-1093F:1 10980-10A00:1",
    "10A01-10A0F:5 10A10-10A35:1 10A38-10A3F:5 10A40-10AE4:1 10AE5-10AE6:5 10AEB-10B35:1",
    "10B39-10B3F:4 10B40-10D23:1 10D24-10D27:5 10D30-10D39:2 10E60-10E7E:2 10E80-10EA9:1",
    "10EAB-10EAC:5 10EAD-10EB1:1 10F00-10F45:1 10F46-10F50:5 10F51-10F81:1 10F82-10F85:5",
    "10F86-10FF6:1 11001:5 11038-11046:5 11052-11065:4 11070:5 11073-11074:5 1107F-11081:5",
    "110B3-110B6:5 110B9-110BA:5 110C2:5 11100-11102:5 11127-1112B:5 1112D-11134:5 11173:5",
    "11180-11181:5 111B6-111BE:5 111C9-111CC:5 111CF:5 1122F-11231:5 11234:5 11236-11237:5",
    "1123E:5 112DF:5 112E3-112EA:5 11300-11301:5 1133B-1133C:5 11340:5 11366-11374:5",
    "11438-1143F:5 11442-11444:5 11446:5 1145E:5 114B3-114B8:5 114BA:5 114BF-114C0:5",
    "114C2-114C3:5 115B2-115B5:5 115BC-115BD:5 115BF-115C0:5 115DC-115DD:5 11633-1163A:5 1163D:5",
    "1163F-11640:5 11660-1166C:4 116AB:5 116AD:5 116B0-116B5:5 116B7:5 1171D-1171F:5",
    "11722-11725:5 11727-1172B:5 1182F-11837:5 11839-1183A:5 1193B-1193C:5 1193E:5 11943:5",
    "119D4-119DB:5 119E0:5 11A01-11A06:5 11A09-11A0A:5 11A33-11A38:5 11A3B-11A3E:5 11A47:5",
    "11A51-11A56:5 11A59-11A5B:5 11A8A-11A96:5 11A98-11A99:5 11C30-11C3D:5 11C92-11CA7:5",
    "11CAA-11CB0:5 11CB2-11CB3:5 11CB5-11CB6:5 11D31-11D45:5 11D47:5 11D90-11D91:5 11D95:5",
    "11D97:5 11EF3-11EF4:5 11FD5-11FF1:4 16AF0-16AF4:5 16B30-16B36:5 16F4F:5 16F8F-16F92:5",
    "16FE2:4 16FE4:5 1BC9D-1BC9E:5 1BCA0-1BCA3:4 1CF00-1CF46:5 1D167-1D169:5 1D173-1D17A:4",
    "1D17B-1D182:5 1D185-1D18B:5 1D1AA-1D1AD:5 1D1E9-1D241:4 1D242-1D244:5 1D245:4 1D300-1D356:4",
    "1D6DB:4 1D715:4 1D74F:4 1D789:4 1D7C3:4 1D7CE-1D7FF:3 1DA00-1DA36:5 1DA3B-1DA6C:5 1DA75:5",
    "1DA84:5 1DA9B-1DAAF:5 1E000-1E02A:5 1E130-1E136:5 1E2AE:5 1E2EC-1E2EF:5 1E2FF:4",
    "1E800-1E8CF:1 1E8D0-1E8D6:5 1E900-1E943:1 1E944-1E94A:5 1E94B-1EEBB:1 1EEF0-1F0F5:4",
    "1F101-1F10A:3 1F10B-1F10F:4 1F12F:4 1F16A-1F16F:4 1F1AD:4 1F260-1F6D7:4 1F6DD-1F773:4",
    "1F780-1F7D8:4 1F7E0-1F8B1:4 1F900-1FA53:4 1FA60-1FA74:4 1FA78-1FA86:4 1FA90-1FAAC:4",
    "1FAB0-1FABA:4 1FAC0-1FAC5:4 1FAD0-1FAD9:4 1FAE0-1FAE7:4 1FAF0-1FAF6:4 1FB00-1FBCA:4",
    "1FBF0-1FBF9:3 E0100-E01EF:5"]

/-- The directions in the order of their numbers in the table. -/
def listed : List Direction := [left, right, rightDigit, digit, neutral, mark, separator]

/-- The direction of a character. -/
def ofChar (c : Char) : Direction := listed.getD ((Run.number? runs c).getD 0) left

/-- Whether a text has to be read from right to left somewhere. -/
def turns (s : List Char) : Bool := s.any fun c => ofChar c == right || ofChar c == rightDigit

/-- What may stand in a label from right to left. -/
def amongRight (d : Direction) : Bool := d != left && d != separator

/-- What may stand in a label from left to right. -/
def amongLeft (d : Direction) : Bool := d == left || d == digit || d == neutral || d == mark

/-- Whether a label can stand in a name that is read from right to left somewhere. -/
def fits (label : List Char) : Bool :=
  let l := label.map ofChar
  let last := (l.filter (· != mark)).getLast?
  match l with
  | [] => true
  | right :: _ =>
    l.all amongRight && !(l.contains digit && l.contains rightDigit) &&
      (last == some right || last == some digit || last == some rightDigit)
  | left :: _ => l.all amongLeft && (last == some left || last == some digit)
  | _ => false

end Direction

end HttpSuite.Text
