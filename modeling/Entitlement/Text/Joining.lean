import Entitlement.Text.CharTable

/-!
How letters of cursive scripts join their neighbours (Unicode 17, property Joining_Type).
-/

namespace Entitlement.Text

/-- Which neighbours a letter joins, in the order of the text. -/
inductive Joining where
  | both
  | before
  | after
  | transparent
  | alone
  deriving DecidableEq, Repr

namespace Joining

def joinBoth : CharSet := .ofLines [
  "620 621 626 627 628 629 62A 62F 633 640 641 648 649 64B 66E 670 678 688 69A 6C0 6C1 6C3 6CC",
  "6CD 6CE 6CF 6D0 6D2 6FA 6FD 6FF 700 712 715 71A 71E 71F 728 729 72A 72B 72C 72D 72F 74E 759",
  "75C 76B 76D 771 772 773 775 778 77A 780 7CA 7EB 841 846 848 849 84A 854 855 856 860 861 862",
  "866 868 869 886 887 889 88E 88F 890 8A0 8AA 8AF 8B1 8B3 8B9 8BA 8C9 1807 1808 1820 1879 1887",
  "18A9 18AA 18AB A840 A872 10AC0 10AC5 10AD3 10AD7 10AD8 10ADD 10ADE 10AE1 10AEB 10AEF 10B80",
  "10B81 10B82 10B83 10B86 10B89 10B8A 10B8C 10B8D 10B8E 10B90 10B91 10BAD 10BAF 10D01 10D22",
  "10D23 10D24 10EC3 10EC5 10EC6 10EC8 10F30 10F33 10F34 10F45 10F51 10F54 10F70 10F74 10F76",
  "10F82 10FB0 10FB1 10FB2 10FB4 10FB8 10FB9 10FBB 10FBD 10FBE 10FC0 10FC1 10FC2 10FC4 10FC5",
  "10FCA 10FCB 1E900 1E944"]

def joinBefore : CharSet := .ofLines [
  "622 626 627 628 629 62A 62F 633 648 649 671 674 675 678 688 69A 6C0 6C1 6C3 6CC 6CD 6CE 6CF",
  "6D0 6D2 6D4 6D5 6D6 6EE 6F0 710 711 715 71A 71E 71F 728 729 72A 72B 72C 72D 72F 730 74D 74E",
  "759 75C 76B 76D 771 772 773 775 778 77A 840 841 846 848 849 84A 854 855 856 859 867 868 869",
  "86B 870 883 88E 88F 8AA 8AD 8AE 8AF 8B1 8B3 8B9 8BA 10AC5 10AC6 10AC7 10AC8 10AC9 10ACB 10ACE",
  "10AD3 10ADD 10ADE 10AE1 10AE2 10AE4 10AE5 10AEF 10AF0 10B81 10B82 10B83 10B86 10B89 10B8A",
  "10B8C 10B8D 10B8E 10B90 10B91 10B92 10BA9 10BAD 10D22 10D23 10EC2 10EC3 10F33 10F34 10F54",
  "10F55 10F74 10F76 10FB4 10FB7 10FB9 10FBB 10FBD 10FBE 10FC2 10FC4 10FC9 10FCA"]

def joinAfter : CharSet := .ofLines [
  "A872 A873 10ACD 10ACE 10AD7 10AD8 10D00 10D01 10FCB 10FCC"]

-- Marks and the like, which letters join across.
def passed : CharSet := .ofLines [
  "AD AE 300 370 483 48A 591 5BE 5BF 5C0 5C1 5C3 5C4 5C6 5C7 5C8 610 61B 61C 61D 64B 660 670 671",
  "6D6 6DD 6DF 6E5 6E7 6E9 6EA 6EE 70F 710 711 712 730 74B 7A6 7B1 7EB 7F4 7FD 7FE 816 81A 81B",
  "824 825 828 829 82E 859 85C 897 8A0 8CA 8E2 8E3 903 93A 93B 93C 93D 941 949 94D 94E 951 958",
  "962 964 981 982 9BC 9BD 9C1 9C5 9CD 9CE 9E2 9E4 9FE 9FF A01 A03 A3C A3D A41 A43 A47 A49 A4B",
  "A4E A51 A52 A70 A72 A75 A76 A81 A83 ABC ABD AC1 AC6 AC7 AC9 ACD ACE AE2 AE4 AFA B00 B01 B02",
  "B3C B3D B3F B40 B41 B45 B4D B4E B55 B57 B62 B64 B82 B83 BC0 BC1 BCD BCE C00 C01 C04 C05 C3C",
  "C3D C3E C41 C46 C49 C4A C4E C55 C57 C62 C64 C81 C82 CBC CBD CBF CC0 CC6 CC7 CCC CCE CE2 CE4",
  "D00 D02 D3B D3D D41 D45 D4D D4E D62 D64 D81 D82 DCA DCB DD2 DD5 DD6 DD7 E31 E32 E34 E3B E47",
  "E4F EB1 EB2 EB4 EBD EC8 ECF F18 F1A F35 F36 F37 F38 F39 F3A F71 F7F F80 F85 F86 F88 F8D F98",
  "F99 FBD FC6 FC7 102D 1031 1032 1038 1039 103B 103D 103F 1058 105A 105E 1061 1071 1075 1082",
  "1083 1085 1087 108D 108E 109D 109E 135D 1360 1712 1715 1732 1734 1752 1754 1772 1774 17B4 17B6",
  "17B7 17BE 17C6 17C7 17C9 17D4 17DD 17DE 180B 180E 180F 1810 1885 1887 18A9 18AA 1920 1923 1927",
  "1929 1932 1933 1939 193C 1A17 1A19 1A1B 1A1C 1A56 1A57 1A58 1A5F 1A60 1A61 1A62 1A63 1A65 1A6D",
  "1A73 1A7D 1A7F 1A80 1AB0 1ADE 1AE0 1AEC 1B00 1B04 1B34 1B35 1B36 1B3B 1B3C 1B3D 1B42 1B43 1B6B",
  "1B74 1B80 1B82 1BA2 1BA6 1BA8 1BAA 1BAB 1BAE 1BE6 1BE7 1BE8 1BEA 1BED 1BEE 1BEF 1BF2 1C2C 1C34",
  "1C36 1C38 1CD0 1CD3 1CD4 1CE1 1CE2 1CE9 1CED 1CEE 1CF4 1CF5 1CF8 1CFA 1DC0 1E00 200B 200C 200E",
  "2010 202A 202F 2060 2065 206A 2070 20D0 20F1 2CEF 2CF2 2D7F 2D80 2DE0 2E00 302A 302E 3099 309B",
  "A66F A673 A674 A67E A69E A6A0 A6F0 A6F2 A802 A803 A806 A807 A80B A80C A825 A827 A82C A82D A8C4",
  "A8C6 A8E0 A8F2 A8FF A900 A926 A92E A947 A952 A980 A983 A9B3 A9B4 A9B6 A9BA A9BC A9BE A9E5 A9E6",
  "AA29 AA2F AA31 AA33 AA35 AA37 AA43 AA44 AA4C AA4D AA7C AA7D AAB0 AAB1 AAB2 AAB5 AAB7 AAB9 AABE",
  "AAC0 AAC1 AAC2 AAEC AAEE AAF6 AAF7 ABE5 ABE6 ABE8 ABE9 ABED ABEE FB1E FB1F FE00 FE10 FE20 FE30",
  "FEFF FF00 FFF9 FFFC 101FD 101FE 102E0 102E1 10376 1037B 10A01 10A04 10A05 10A07 10A0C 10A10",
  "10A38 10A3B 10A3F 10A40 10AE5 10AE7 10D24 10D28 10D69 10D6E 10EAB 10EAD 10EFA 10F00 10F46",
  "10F51 10F82 10F86 11001 11002 11038 11047 11070 11071 11073 11075 1107F 11082 110B3 110B7",
  "110B9 110BB 110C2 110C3 11100 11103 11127 1112C 1112D 11135 11173 11174 11180 11182 111B6",
  "111BF 111C9 111CD 111CF 111D0 1122F 11232 11234 11235 11236 11238 1123E 1123F 11241 11242",
  "112DF 112E0 112E3 112EB 11300 11302 1133B 1133D 11340 11341 11366 1136D 11370 11375 113BB",
  "113C1 113CE 113CF 113D0 113D1 113D2 113D3 113E1 113E3 11438 11440 11442 11445 11446 11447",
  "1145E 1145F 114B3 114B9 114BA 114BB 114BF 114C1 114C2 114C4 115B2 115B6 115BC 115BE 115BF",
  "115C1 115DC 115DE 11633 1163B 1163D 1163E 1163F 11641 116AB 116AC 116AD 116AE 116B0 116B6",
  "116B7 116B8 1171D 1171E 1171F 11720 11722 11726 11727 1172C 1182F 11838 11839 1183B 1193B",
  "1193D 1193E 1193F 11943 11944 119D4 119D8 119DA 119DC 119E0 119E1 11A01 11A0B 11A33 11A39",
  "11A3B 11A3F 11A47 11A48 11A51 11A57 11A59 11A5C 11A8A 11A97 11A98 11A9A 11B60 11B61 11B62",
  "11B65 11B66 11B67 11C30 11C37 11C38 11C3E 11C3F 11C40 11C92 11CA8 11CAA 11CB1 11CB2 11CB4",
  "11CB5 11CB7 11D31 11D37 11D3A 11D3B 11D3C 11D3E 11D3F 11D46 11D47 11D48 11D90 11D92 11D95",
  "11D96 11D97 11D98 11EF3 11EF5 11F00 11F02 11F36 11F3B 11F40 11F41 11F42 11F43 11F5A 11F5B",
  "13430 13441 13447 13456 1611E 1612A 1612D 16130 16AF0 16AF5 16B30 16B37 16F4F 16F50 16F8F",
  "16F93 16FE4 16FE5 1BC9D 1BC9F 1BCA0 1BCA4 1CF00 1CF2E 1CF30 1CF47 1D167 1D16A 1D173 1D183",
  "1D185 1D18C 1D1AA 1D1AE 1D242 1D245 1DA00 1DA37 1DA3B 1DA6D 1DA75 1DA76 1DA84 1DA85 1DA9B",
  "1DAA0 1DAA1 1DAB0 1E000 1E007 1E008 1E019 1E01B 1E022 1E023 1E025 1E026 1E02B 1E08F 1E090",
  "1E130 1E137 1E2AE 1E2AF 1E2EC 1E2F0 1E4EC 1E4F0 1E5EE 1E5F0 1E6E3 1E6E4 1E6E6 1E6E7 1E6EE",
  "1E6F0 1E6F5 1E6F6 1E8D0 1E8D7 1E944 1E94C E0001 E0002 E0020 E0080 E0100 E01F0"]

def of (c : Char) : Joining :=
  if joinBoth.contains c then .both
  else if joinBefore.contains c then .before
  else if joinAfter.contains c then .after
  else if passed.contains c then .transparent
  else .alone

end Joining

end Entitlement.Text
