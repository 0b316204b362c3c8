/-
**Directions of writing in domain names.**

If any label of a name is written from right to left, each label must be readable: it begins with a
letter, which decides its direction, holds only characters that go with that direction, and ends
with a letter or a digit and perhaps marks.

Main definitions:

* `Domain.Direction` — how a character behaves;
* `Domain.isReadable` — whether a label is readable in such a name.
-/

import WebDriverClient.Text.Table

set_option autoImplicit false

namespace WebDriverClient.Url.Domain

/-- Ranges of characters with the number of how they behave; the others are left-to-right
letters. -/
def directions : List (List Nat) :=
  Table.entries "0 8 9;9 D B;E 1B 9;1C 20 B;21 22 8;23 25 7;26 2A 8;2B 5;2C 6;2D 5;2E 2F 6;30 39 4;3A 6
    3B 60 8;7B 7E 8;7F 9;A1 8;A2 A5 7;A6 AE 8;B0 B1 7;B6 D7 8;F7 8;2B9 2BA 8;2C2 2CF 8
    2D2 2ED 8;2EF 2FF 8;300 36F A;375 8;3F6 8;483 489 A;58A 58E 8;58F 7;591 5BD A;5BE 1;5BF A
    5C0 1;5C1 5C2 A;5C3 1;5C4 5C5 A;5C6 1;5C7 A;5D0 5F4 1;606 607 8;608 2;609 60A 7;60B 2;60C 6
    60D 2;60E 60F 8;610 61A A;61B 64A 2;64B 65F A;660 669 3;66A 7;66B 66C 3;66D 66F 2;670 A
    671 6D5 2;6D6 6DC A;6DE 8;6DF 6E4 A;6E5 6E6 2;6E7 6E8 A;6E9 8;6EA 6ED A;6EE 6EF 2;6F0 6F9 4
    6FA 710 2;711 A;712 72F 2;730 74A A;74D 7A5 2;7A6 7B0 A;7B1 2;7C0 7EA 1;7EB 7F3 A;7F4 7F5 1
    7F6 7F9 8;7FA 1;7FD A;7FE 815 1;816 819 A;81A 1;81B 823 A;824 1;825 827 A;828 1;829 82D A
    830 858 1;859 85B A;85E 1;860 88E 2;898 89F A;8A0 8C9 2;8CA 902 A;93A A;93C A;941 948 A
    94D A;951 957 A;962 963 A;981 A;9BC A;9C1 9C4 A;9CD A;9E2 9E3 A;9F2 9F3 7;9FB 7;9FE A02 A
    A3C A;A41 A51 A;A70 A71 A;A75 A;A81 A82 A;ABC A;AC1 AC8 A;ACD A;AE2 AE3 A;AF1 7;AFA B01 A
    B3C A;B3F A;B41 B44 A;B4D B56 A;B62 B63 A;B82 A;BC0 A;BCD A;BF3 BF8 8;BF9 7;BFA 8;C00 A
    C04 A;C3C A;C3E C40 A;C46 C56 A;C62 C63 A;C78 C7E 8;C81 A;CBC A;CCC CCD A;CE2 CE3 A
    D00 D01 A;D3B D3C A;D41 D44 A;D4D A;D62 D63 A;D81 A;DCA A;DD2 DD6 A;E31 A;E34 E3A A;E3F 7
    E47 E4E A;EB1 A;EB4 EBC A;EC8 ECE A;F18 F19 A;F35 A;F37 A;F39 A;F3A F3D 8;F71 F7E A
    F80 F84 A;F86 F87 A;F8D FBC A;FC6 A;102D 1030 A;1032 1037 A;1039 103A A;103D 103E A
    1058 1059 A;105E 1060 A;1071 1074 A;1082 A;1085 1086 A;108D A;109D A;135D 135F A
    1390 1399 8;1400 8;169B 169C 8;1712 1714 A;1732 1733 A;1752 1753 A;1772 1773 A;17B7 17BD A
    17C6 A;17C9 17D3 A;17DB 7;17DD A;17F0 180A 8;1885 1886 A;18A9 A;1920 1922 A;1927 1928 A
    1932 A;1939 193B A;1940 1945 8;19DE 19FF 8;1A17 1A18 A;1A1B A;1A56 A;1A58 1A60 A;1A62 A
    1A65 1A6C A;1A73 1A7F A;1AB0 1ACE A;1B00 1B03 A;1B34 A;1B36 1B3A A;1B3C A;1B42 A
    1B6B 1B73 A;1B80 1B81 A;1BA2 1BA5 A;1BA8 1BA9 A;1BAB 1BAD A;1BE6 A;1BE8 1BE9 A;1BED A
    1BEF 1BF1 A;1C2C 1C33 A;1C36 1C37 A;1CD0 1CD2 A;1CD4 1CE0 A;1CE2 1CE8 A;1CED A;1CF4 A
    1CF8 1CF9 A;1DC0 1DFF A;200C 200D 9;2010 2027 8;2030 2032 7;2035 2043 8;2044 6;2045 205E 8
    20A0 20C0 7;20D0 20F0 A;2104 2129 8;212E 7;213A 214D 8;218A 2211 8;2212 5;2213 7
    2214 2335 8;237B 2394 8;2396 2426 8;2440 26AB 8;26AD 27FF 8;2900 2B95 8;2B97 2BFF 8
    2CE5 2CEA 8;2CEF 2CF1 A;2CF9 2CFF 8;2D7F A;2DE0 2DFF A;2E00 3004 8;3008 3020 8;302A 302D A
    3030 8;3037 8;303D 303F 8;3099 309A A;30A0 8;30FB 8;31C0 31E3 8;4DC0 4DFF 8;A490 A4C6 8
    A60D A60F 8;A66F A672 A;A673 8;A674 A67D A;A67E A67F 8;A69E A69F A;A6F0 A6F1 A;A700 A721 8
    A788 8;A802 A;A806 A;A80B A;A825 A826 A;A828 A82B 8;A82C A;A838 A839 7;A874 A877 8
    A8C4 A8C5 A;A8E0 A8F1 A;A8FF A;A926 A92D A;A947 A951 A;A980 A982 A;A9B3 A;A9B6 A9B9 A
    A9BC A9BD A;A9E5 A;AA29 AA2E A;AA31 AA32 A;AA35 AA36 A;AA43 A;AA4C A;AA7C A;AAB0 A
    AAB2 AAB4 A;AAB7 AAB8 A;AABE AABF A;AAC1 A;AAEC AAED A;AAF6 A;AB6A AB6B 8;ABE5 A;ABE8 A
    ABED A;FB1E A;FBB2 FBC2 2;FD3E FD4F 8;FDCF FDFF 8;FE20 FE2F A;FE45 FE46 8;FE73 2;10101 8
    10140 1018C 8;10190 101A0 8;101FD A;102E0 A;102E1 102FB 4;10376 1037A A;10800 1091B 1
    1091F 8;10920 1093F 1;10980 10A00 1;10A01 10A0F A;10A10 10A35 1;10A38 10A3F A;10A40 10AE4 1
    10AE5 10AE6 A;10AEB 10B35 1;10B39 10B3F 8;10B40 10CFF 1;10D00 10D23 2;10D24 10D27 A
    10D30 10D39 3;10E60 10E7E 3;10E80 10EA9 1;10EAB 10EAC A;10EAD 10EB1 1;10EFD 10EFF A
    10F00 10F27 1;10F30 10F45 2;10F46 10F50 A;10F51 10F59 2;10F70 10F81 1;10F82 10F85 A
    10F86 10FF6 1;11001 A;11038 11046 A;11052 11065 8;11070 A;11073 11074 A;1107F 11081 A
    110B3 110B6 A;110B9 110BA A;110C2 A;11100 11102 A;11127 1112B A;1112D 11134 A;11173 A
    11180 11181 A;111B6 111BE A;111C9 111CC A;111CF A;1122F 11231 A;11234 A;11236 11237 A
    1123E A;11241 A;112DF A;112E3 112EA A;11300 11301 A;1133B 1133C A;11340 A;11366 11374 A
    11438 1143F A;11442 11444 A;11446 A;1145E A;114B3 114B8 A;114BA A;114BF 114C0 A
    114C2 114C3 A;115B2 115B5 A;115BC 115BD A;115BF 115C0 A;115DC 115DD A;11633 1163A A;1163D A
    1163F 11640 A;11660 1166C 8;116AB A;116AD A;116B0 116B5 A;116B7 A;1171D 1171F A
    11722 11725 A;11727 1172B A;1182F 11837 A;11839 1183A A;1193B 1193C A;1193E A;11943 A
    119D4 119DB A;119E0 A;11A01 11A06 A;11A09 11A0A A;11A33 11A38 A;11A3B 11A3E A;11A47 A
    11A51 11A56 A;11A59 11A5B A;11A8A 11A96 A;11A98 11A99 A;11C30 11C3D A;11C92 11CA7 A
    11CAA 11CB0 A;11CB2 11CB3 A;11CB5 11CB6 A;11D31 11D45 A;11D47 A;11D90 11D91 A;11D95 A
    11D97 A;11EF3 11EF4 A;11F00 11F01 A;11F36 11F3A A;11F40 A;11F42 A;11FD5 11FDC 8
    11FDD 11FE0 7;11FE1 11FF1 8;13440 A;13447 13455 A;16AF0 16AF4 A;16B30 16B36 A;16F4F A
    16F8F 16F92 A;16FE2 8;16FE4 A;1BC9D 1BC9E A;1CF00 1CF46 A;1D167 1D169 A;1D17B 1D182 A
    1D185 1D18B A;1D1AA 1D1AD A;1D1E9 1D241 8;1D242 1D244 A;1D245 8;1D300 1D356 8;1DA00 1DA36 A
    1DA3B 1DA6C A;1DA75 A;1DA84 A;1DA9B 1DAAF A;1E000 1E08F A;1E130 1E136 A;1E2AE A
    1E2EC 1E2EF A;1E2FF 7;1E4EC 1E4EF A;1E800 1E8CF 1;1E8D0 1E8D6 A;1E922 1E943 1;1E944 1E94A A
    1E94B 1E95F 1;1EC71 1ED3D 2;1EEF0 1F12F 8;1F16D 1F16F 8;1F1AD 8;1F260 1F6D7 8;1F6DC 1F776 8
    1F77B 1F8B1 8;1F900 1FA53 8;1FA60 1FA88 8;1FA90 1FABD 8;1FABF 1FAC5 8;1FACE 1FADB 8
    1FAE0 1FAE8 8;1FAF0 1FBCA 8"

/-- How a character behaves where writing goes in two directions. -/
inductive Direction where
  | left
  | right
  | arabicLetter
  | arabicNumber
  | europeanNumber
  /-- A mark that takes the direction of the letter before. -/
  | mark
  /-- A sign that goes with any direction. -/
  | neutral
  /-- A sign that does not belong into a label. -/
  | other
deriving DecidableEq, Repr

/-- How characters of some number in the table behave. -/
def Direction.ofNumber : Option Nat → Direction
  | none => .left
  | some 1 => .right
  | some 2 => .arabicLetter
  | some 3 => .arabicNumber
  | some 4 => .europeanNumber
  | some 10 => .mark
  | some 11 => .other
  | some _ => .neutral

/-- How a character behaves. -/
def Direction.ofChar (c : Char) : Direction := ofNumber (Table.find? directions c.toNat)

namespace Direction

/-- The character makes its label one that is written from right to left. -/
def isRightToLeft (d : Direction) : Bool := d = right || d = arabicLetter || d = arabicNumber

/-- The character may stand in a label that is written from left to right. -/
def isLeftLabel (d : Direction) : Bool := !d.isRightToLeft && d ≠ other

/-- The character may stand in a label that is written from right to left. -/
def isRightLabel (d : Direction) : Bool := d ≠ left && d ≠ other

end Direction

open Direction in
/-- A label with characters of these kinds is readable. -/
def isReadableAs (label : List Direction) : Bool :=
  let last := (label.reverse.dropWhile (· = mark)).head?
  match label.head? with
  | some left =>
    label.all isLeftLabel && (last = some left || last = some europeanNumber)
  | some right | some arabicLetter =>
    label.all isRightLabel && last.any (fun d => d.isRightToLeft || d = europeanNumber)
      && !(label.contains europeanNumber && label.contains arabicNumber)
  | _ => false

/-- A label is readable in a name of which some label is written from right to left. -/
def isReadable (label : List Char) : Bool :=
  label.isEmpty || isReadableAs (label.map Direction.ofChar)

/-- A label is written from right to left. -/
def isRightToLeft (label : List Char) : Bool :=
  label.any fun c => (Direction.ofChar c).isRightToLeft

end WebDriverClient.Url.Domain
