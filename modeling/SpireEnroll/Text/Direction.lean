import SpireEnroll.Text.CodeSet

/-!
# Bidirectional classes

The bidirectional class of a character (Unicode 14.0), for the characters a host
name label may hold. The class says how a character orders text around it: left
to right, right to left, a digit, a separator, a mark that takes the direction
of what it follows, or a neutral. A character that the tables know nothing about
has class `unknown`.
-/

namespace SpireEnroll
namespace Text

/-- A bidirectional class. -/
inductive BidiClass where
  | leftToRight
  | rightToLeft
  | arabicLetter
  | europeanNumber
  | europeanSeparator
  | europeanTerminator
  | arabicNumber
  | commonSeparator
  | nonspacingMark
  | boundaryNeutral
  | otherNeutral
  | unknown
deriving DecidableEq, Repr

namespace BidiClass

def ofFields : List String → Option BidiClass
  | ["L"] => some .leftToRight
  | ["R"] => some .rightToLeft
  | ["AL"] => some .arabicLetter
  | ["EN"] => some .europeanNumber
  | ["ES"] => some .europeanSeparator
  | ["ET"] => some .europeanTerminator
  | ["AN"] => some .arabicNumber
  | ["CS"] => some .commonSeparator
  | ["NSM"] => some .nonspacingMark
  | ["BN"] => some .boundaryNeutral
  | ["ON"] => some .otherNeutral
  | ["?"] => some .unknown
  | _ => none

end BidiClass

def bidiRuns : CodeMap BidiClass :=
  CodeMap.ofLines BidiClass.ofFields [
    "2d:ES 30-39:EN b7:ON 2b9-2ba:ON 2c6-2cf:ON 2ec:ON 300-36f:NSM 375:ON 483-487:NSM 591-5c7:NSM",
    "5d0-5f4:R 610-61a:NSM 620-64a:AL 64b-65f:NSM 660-669:AN 66e-66f:AL 670:NSM 671-6d5:AL",
    "6d6-6e4:NSM 6e5-6e6:AL 6e7-6ed:NSM 6ee-6ef:AL 6f0-6f9:EN 6fa-710:AL 711:NSM 712-72f:AL",
    "730-74a:NSM 74d-7a5:AL 7a6-7b0:NSM 7b1:AL 7c0-7ea:R 7eb-7f3:NSM 7f4-7f5:R 7fd:NSM 800-815:R",
    "816-819:NSM 81a:R 81b-823:NSM 824:R 825-827:NSM 828:R 829-82d:NSM 840-858:R 859-85b:NSM",
    "860-88e:AL 88f-897:? 898-89f:NSM 8a0-8c9:AL 8ca-902:NSM 93a:NSM 93c:NSM 941-948:NSM 94d:NSM",
    "951-957:NSM 962-963:NSM 981:NSM 9bc:NSM 9c1-9c4:NSM 9cd:NSM 9e2-9e3:NSM 9fe-a02:NSM a3c:NSM",
    "a41-a51:NSM a70-a71:NSM a75-a82:NSM abc:NSM ac1-ac8:NSM acd:NSM ae2-ae3:NSM afa-b01:NSM b3c:NSM",
    "b3f:NSM b41-b44:NSM b4d-b56:NSM b62-b63:NSM b82:NSM bc0:NSM bcd:NSM c00:NSM c04:NSM c3c:NSM",
    "c3e-c40:NSM c46-c56:NSM c5c:? c62-c63:NSM c81:NSM cbc:NSM ccc-ccd:NSM cdc:? ce2-ce3:NSM cf3:?",
    "d00-d01:NSM d3b-d3c:NSM d41-d44:NSM d4d:NSM d62-d63:NSM d81:NSM dca:NSM dd2-dd6:NSM e31:NSM",
    "e34-e3a:NSM e47-e4e:NSM eb1:NSM eb4-ebc:NSM ec8-ecd:NSM ece:? f18-f19:NSM f35-f39:NSM",
    "f71-f7e:NSM f80-f87:NSM f8d-fc6:NSM 102d-1030:NSM 1032-1037:NSM 1039-103a:NSM 103d-103e:NSM",
    "1058-1059:NSM 105e-1060:NSM 1071-1074:NSM 1082:NSM 1085-1086:NSM 108d:NSM 109d:NSM 135d-135f:NSM",
    "1712-1714:NSM 1732-1733:NSM 1752-1753:NSM 1772-1773:NSM 17b7-17bd:NSM 17c6:NSM 17c9-17d3:NSM",
    "17dd:NSM 1885-1886:NSM 18a9:NSM 1920-1922:NSM 1927-1928:NSM 1932:NSM 1939-193b:NSM 1a17-1a18:NSM",
    "1a1b:NSM 1a56:NSM 1a58-1a60:NSM 1a62:NSM 1a65-1a6c:NSM 1a73-1a7f:NSM 1ab0-1ace:NSM 1acf-1aeb:?",
    "1b00-1b03:NSM 1b34:NSM 1b36-1b3a:NSM 1b3c:NSM 1b42:NSM 1b6b-1b81:NSM 1ba2-1ba5:NSM 1ba8-1ba9:NSM",
    "1bab-1bad:NSM 1be6:NSM 1be8-1be9:NSM 1bed:NSM 1bef-1bf1:NSM 1c2c-1c33:NSM 1c36-1c37:NSM 1c8a:?",
    "1cd0-1ce0:NSM 1ce2-1ce8:NSM 1ced:NSM 1cf4:NSM 1cf8-1cf9:NSM 1dc0-1dff:NSM 200c-200d:BN",
    "2cef-2cf1:NSM 2d7f:NSM 2de0-2dff:NSM 2e2f:ON 302a-302d:NSM 3099-309a:NSM 30fb:ON a66f-a67d:NSM",
    "a67f:ON a69e-a69f:NSM a6f0-a6f1:NSM a717-a71f:ON a788:ON a7cd-a7cf:? a7db:? a802:NSM a806:NSM",
    "a80b:NSM a825-a826:NSM a82c:NSM a8c4-a8c5:NSM a8e0-a8f1:NSM a8ff:NSM a926-a92d:NSM a947-a951:NSM",
    "a980-a982:NSM a9b3:NSM a9b6-a9b9:NSM a9bc-a9bd:NSM a9e5:NSM aa29-aa2e:NSM aa31-aa32:NSM",
    "aa35-aa36:NSM aa43:NSM aa4c:NSM aa7c:NSM aab0:NSM aab2-aab4:NSM aab7-aab8:NSM aabe-aabf:NSM",
    "aac1:NSM aaec-aaed:NSM aaf6:NSM abe5:NSM abe8:NSM abed:NSM fb1e-fe2f:NSM fe73:AL 101fd:NSM",
    "102e0:NSM 10376-1037a:NSM 105c0-105f3:? 10800-10939:R 10940-10959:? 10980-10a00:R",
    "10a01-10a0f:NSM 10a10-10a35:R 10a38-10a3f:NSM 10a60-10ae4:R 10ae5-10ae6:NSM 10b00-10cf2:R",
    "10d00-10d23:AL 10d24-10d27:NSM 10d30-10d39:AN 10d40-10d85:? 10e80-10ea9:R 10eab-10eac:NSM",
    "10eb0-10eb1:R 10ec2-10eff:? 10f00-10f27:R 10f30-10f45:AL 10f46-10f50:NSM 10f70-10f81:R",
    "10f82-10f85:NSM 10fb0-10ff6:R 11001:NSM 11038-11046:NSM 11070:NSM 11073-11074:NSM",
    "1107f-11081:NSM 110b3-110b6:NSM 110b9-110c2:NSM 11100-11102:NSM 11127-1112b:NSM 1112d-11134:NSM",
    "11173:NSM 11180-11181:NSM 111b6-111be:NSM 111c9-111cc:NSM 111cf:NSM 1122f-11231:NSM 11234:NSM",
    "11236-1123e:NSM 1123f-11241:? 112df:NSM 112e3-112ea:NSM 11300-11301:NSM 1133b-1133c:NSM",
    "11340:NSM 11366-11374:NSM 11380-113e2:? 11438-1143f:NSM 11442-11444:NSM 11446:NSM 1145e:NSM",
    "114b3-114b8:NSM 114ba:NSM 114bf-114c0:NSM 114c2-114c3:NSM 115b2-115b5:NSM 115bc-115bd:NSM",
    "115bf-115c0:NSM 115dc-115dd:NSM 11633-1163a:NSM 1163d:NSM 1163f-11640:NSM 116ab:NSM 116ad:NSM",
    "116b0-116b5:NSM 116b7:NSM 116d0-116e3:? 1171d-1171f:NSM 11722-11725:NSM 11727-1172b:NSM",
    "1182f-11837:NSM 11839-1183a:NSM 1193b-1193c:NSM 1193e:NSM 11943:NSM 119d4-119db:NSM 119e0:NSM",
    "11a01-11a06:NSM 11a09-11a0a:NSM 11a33-11a38:NSM 11a3b-11a47:NSM 11a51-11a56:NSM 11a59-11a5b:NSM",
    "11a8a-11a96:NSM 11a98-11a99:NSM 11b60-11bf9:? 11c30-11c3d:NSM 11c92-11ca7:NSM 11caa-11cb0:NSM",
    "11cb2-11cb3:NSM 11cb5-11cb6:NSM 11d31-11d45:NSM 11d47:NSM 11d90-11d91:NSM 11d95:NSM 11d97:NSM",
    "11db0-11de9:? 11ef3-11ef4:NSM 11f00-11f5a:? 1342f-143fa:? 16100-16139:? 16af0-16af4:NSM",
    "16b30-16b36:NSM 16d40-16d79:? 16ebb-16ed3:? 16f4f:NSM 16f8f-16f92:NSM 16fe4:NSM 16ff2-16ff3:?",
    "187f8-187ff:? 18cff:? 18d09-18df2:? 1b132:? 1b155:? 1bc9d-1daaf:NSM 1df25-1df2a:?",
    "1e000-1e02a:NSM 1e08f:? 1e130-1e136:NSM 1e2ae:NSM 1e2ec-1e2ef:NSM 1e4d0-1e6ff:? 1e800-1e8c4:R",
    "1e8d0-1e8d6:NSM 1e922-1e943:R 1e944-1e94a:NSM 1e94b-1e959:R 2b739-2b73f:? 2cea2-2cead:?",
    "2ebf0-2ee5d:? 31350-33479:?"]

def bidiClass (c : Nat) : BidiClass :=
  (bidiRuns.find? c).getD .leftToRight

end Text
end SpireEnroll
