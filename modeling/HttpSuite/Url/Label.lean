/-
HttpSuite/Url/Label.lean

Which labels may stand in names, whatever their alphabet: a label does not start with a mark, and an
invisible joiner stands only where it changes how the letters around it are shown.
-/
import HttpSuite.Text.Composition
import HttpSuite.Text.Direction

namespace HttpSuite.Url.Label

/-- The marks that take room of their own. -/
def widthMarks : List Text.Run := Text.Run.table
  ["903 93B 93E-940 949-94C 94E-94F 982-983 9BE-9C0 9C7-9CC 9D7 A03 A3E-A40 A83 ABE-AC0 AC9-ACC",
    "B02-B03 B3E B40 B47-B4C B57 BBE-BBF BC1-BCC BD7 C01-C03 C41-C44 C82-C83 CBE-CCB CD5-CD6",
    "D02-D03 D3E-D40 D46-D4C D57 D82-D83 DCF-DD1 DD8-DDF DF2-DF3 F3E-F3F F7F 102B-102C 1031 1038",
    "103B-103C 1056-1057 1062-1064 1067-106D 1083-1084 1087-108C 108F 109A-109C 1715 1734 17B6",
    "17BE-17C5 17C7-17C8 1923-1926 1929-1931 1933-1938 1A19-1A1A 1A55 1A57 1A61 1A63-1A64",
    "1A6D-1A72 1B04 1B35 1B3B 1B3D-1B41 1B43-1B44 1B82 1BA1 1BA6-1BA7 1BAA 1BE7 1BEA-1BEC 1BEE",
    "1BF2-1BF3 1C24-1C2B 1C34-1C35 1CE1 1CF7 302E-302F A823-A824 A827 A880-A881 A8B4-A8C3",
    "A952-A953 A983 A9B4-A9B5 A9BA-A9BB A9BE-A9C0 AA2F-AA30 AA33-AA34 AA4D AA7B AA7D AAEB",
    "AAEE-AAEF AAF5 ABE3-ABE4 ABE6-ABE7 ABE9-ABEA ABEC 11000 11002 11082 110B0-110B2 110B7-110B8",
    "1112C 11145-11146 11182 111B3-111B5 111BF-111C0 111CE 1122C-1122E 11232-11233 11235",
    "112E0-112E2 11302-11303 1133E-1133F 11341-1134D 11357 11362-11363 11435-11437 11440-11441",
    "11445 114B0-114B2 114B9 114BB-114BE 114C1 115AF-115B1 115B8-115BB 115BE 11630-11632",
    "1163B-1163C 1163E 116AC 116AE-116AF 116B6 11720-11721 11726 1182C-1182E 11838 11930-11938",
    "1193D 11940 11942 119D1-119D3 119DC-119DF 119E4 11A07-11A08 11A39 11A57-11A58 11A97 11C2F",
    "11C3E-11C3F 11CA9 11CB1 11CB4 11D8A-11D8E 11D93-11D94 11D96 11EF5-11EF6 16F51-16F87",
    "16FF0-16FF1 1D165-1D166 1D16D-1D172"]

/-- Whether a character is a mark. -/
def isMark (c : Char) : Bool :=
  Text.Direction.ofChar c == .mark || Text.Run.contains widthMarks c

/-- The letters that join others, with a number for the sides on which they do: 1 for both sides, 2
for the side behind, 3 for the side in front. -/
def joining : List Text.Run := Text.Run.table
  ["620:1 622-625:3 626:1 627:3 628:1 629:3 62A-62E:1 62F-632:3 633-63F:1 641-647:1 648:3",
    "649-64A:1 66E-66F:1 671-673:3 675-677:3 678-687:1 688-699:3 69A-6BF:1 6C0:3 6C1-6C2:1",
    "6C3-6CB:3 6CC:1 6CD:3 6CE:1 6CF:3 6D0-6D1:1 6D2-6D3:3 6D5:3 6EE-6EF:3 6FA-6FC:1 6FF:1 710:3",
    "712-714:1 715-719:3 71A-71D:1 71E:3 71F-727:1 728:3 729:1 72A:3 72B:1 72C:3 72D-72E:1 72F:3",
    "74D:3 74E-758:1 759-75B:3 75C-76A:1 76B-76C:3 76D-770:1 771:3 772:1 773-774:3 775-777:1",
    "778-779:3 77A-77F:1 7CA-7EA:1 840:3 841-845:1 846-847:3 848:1 849:3 84A-853:1 854:3 855:1",
    "856-858:3 860:1 862-865:1 867:3 868:1 869-882:3 886:1 889-88D:1 88E:3 88F:1 8A0-8A9:1",
    "8AA-8AC:3 8AE:3 8AF-8B0:1 8B1-8B2:3 8B3-8B8:1 8B9:3 8BA-8C8:1 1807:1 1820-1878:1",
    "1887-18A8:1 18AA:1 A840-A871:1 A872:2 10AC0-10AC4:1 10AC5:3 10AC7:3 10AC9-10ACA:3 10ACD:2",
    "10ACE-10AD2:3 10AD3-10AD6:1 10AD7:2 10AD8-10ADC:1 10ADD:3 10ADE-10AE0:1 10AE1:3 10AE4:3",
    "10AEB-10AEE:1 10AEF:3 10B80:1 10B81:3 10B82:1 10B83-10B85:3 10B86-10B88:1 10B89:3",
    "10B8A-10B8B:1 10B8C:3 10B8D:1 10B8E-10B8F:3 10B90:1 10B91:3 10BA9-10BAC:3 10BAD-10BAE:1",
    "10D00:2 10D01-10D21:1 10D22:3 10D23:1 10EC2:3 10EC3-10EC4:1 10EC6-10EC7:1 10F30-10F32:1",
    "10F33:3 10F34-10F44:1 10F51-10F53:1 10F54:3 10F70-10F73:1 10F74-10F75:3 10F76-10F81:1",
    "10FB0:1 10FB2-10FB3:1 10FB4-10FB6:3 10FB8:1 10FB9-10FBA:3 10FBB-10FBC:1 10FBD:3",
    "10FBE-10FBF:1 10FC1:1 10FC2-10FC3:3 10FC4:1 10FC9:3 10FCA:1 10FCB:2 1E900-1E943:1"]

/-- The number for the sides on which the first letter of a text joins, marks passed over. -/
def joiningSide? (s : List Char) : Option Nat :=
  (s.dropWhile (Text.Direction.ofChar · == .mark)).head?.bind (Text.Run.number? joining)

/-- The character that keeps letters apart. -/
def nonJoiner : Char := Char.ofNat 0x200C

/-- The character that joins letters. -/
def joiner : Char := Char.ofNat 0x200D

/-- The class of the mark that leaves a letter without its vowel. -/
def vowelless : Nat := 9

/-- Whether the joiners of a text change something, given what stands before it, last character
first. -/
def joinersFit (before : List Char) : List Char → Bool
  | [] => true
  | c :: rest =>
    let afterVowelless := before.head?.any (Text.markClass · = vowelless)
    let separates :=
      (joiningSide? before == some 1 || joiningSide? before == some 2) &&
        (joiningSide? rest == some 1 || joiningSide? rest == some 3)
    (if c = joiner then afterVowelless
      else if c = nonJoiner then afterVowelless || separates
      else true) && joinersFit (c :: before) rest

/-- Whether a label may stand in a name. -/
def isValid (label : List Char) : Bool := !(label.head?.any isMark) && joinersFit [] label

end HttpSuite.Url.Label
