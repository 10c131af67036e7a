import SpireEnroll.Text.CodeSet

/-!
# Lower case

The lower case of a text, character by character, by the Unicode case mapping
(Unicode 14.0). Each character takes its simple lowercase mapping, with two
exceptions:

* capital I with dot above becomes `i` followed by a combining dot above;
* capital sigma becomes the final form `ς` at the end of a word, and `σ`
  elsewhere. It ends a word when the nearest character before it is cased and
  the nearest after it is not (or there is none), case-ignorable characters
  (marks, modifier letters and a few marks of punctuation such as the apostrophe,
  the full stop and the colon) being skipped both ways.
-/

namespace SpireEnroll
namespace Text

def lowercaseRuns : CodeMap (Nat × Int) :=
  CodeMap.ofLines (fun fields => match fields with
    | [s, d] => do pure ((← s.toNat?), (← d.toInt?))
    | _ => none) [
    "41-5a:1:32 c0-d6:1:32 d8-de:1:32 100-12e:2:1 132-136:2:1 139-147:2:1 14a-176:2:1 178:1:-121",
    "179-17d:2:1 181:1:210 182-184:2:1 186:1:206 187:1:1 189-18a:1:205 18b:1:1 18e:1:79 18f:1:202",
    "190:1:203 191:1:1 193:1:205 194:1:207 196:1:211 197:1:209 198:1:1 19c:1:211 19d:1:213 19f:1:214",
    "1a0-1a4:2:1 1a6:1:218 1a7:1:1 1a9:1:218 1ac:1:1 1ae:1:218 1af:1:1 1b1-1b2:1:217 1b3-1b5:2:1",
    "1b7:1:219 1b8:1:1 1bc:1:1 1c4:1:2 1c5:1:1 1c7:1:2 1c8:1:1 1ca:1:2 1cb-1db:2:1 1de-1ee:2:1",
    "1f1:1:2 1f2-1f4:2:1 1f6:1:-97 1f7:1:-56 1f8-21e:2:1 220:1:-130 222-232:2:1 23a:1:10795 23b:1:1",
    "23d:1:-163 23e:1:10792 241:1:1 243:1:-195 244:1:69 245:1:71 246-24e:2:1 370-372:2:1 376:1:1",
    "37f:1:116 386:1:38 388-38a:1:37 38c:1:64 38e-38f:1:63 391-3a1:1:32 3a3-3ab:1:32 3cf:1:8",
    "3d8-3ee:2:1 3f4:1:-60 3f7:1:1 3f9:1:-7 3fa:1:1 3fd-3ff:1:-130 400-40f:1:80 410-42f:1:32",
    "460-480:2:1 48a-4be:2:1 4c0:1:15 4c1-4cd:2:1 4d0-52e:2:1 531-556:1:48 10a0-10c5:1:7264",
    "10c7:1:7264 10cd:1:7264 13a0-13ef:1:38864 13f0-13f5:1:8 1c90-1cba:1:-3008 1cbd-1cbf:1:-3008",
    "1e00-1e94:2:1 1e9e:1:-7615 1ea0-1efe:2:1 1f08-1f0f:1:-8 1f18-1f1d:1:-8 1f28-1f2f:1:-8",
    "1f38-1f3f:1:-8 1f48-1f4d:1:-8 1f59-1f5f:2:-8 1f68-1f6f:1:-8 1f88-1f8f:1:-8 1f98-1f9f:1:-8",
    "1fa8-1faf:1:-8 1fb8-1fb9:1:-8 1fba-1fbb:1:-74 1fbc:1:-9 1fc8-1fcb:1:-86 1fcc:1:-9 1fd8-1fd9:1:-8",
    "1fda-1fdb:1:-100 1fe8-1fe9:1:-8 1fea-1feb:1:-112 1fec:1:-7 1ff8-1ff9:1:-128 1ffa-1ffb:1:-126",
    "1ffc:1:-9 2126:1:-7517 212a:1:-8383 212b:1:-8262 2132:1:28 2160-216f:1:16 2183:1:1",
    "24b6-24cf:1:26 2c00-2c2f:1:48 2c60:1:1 2c62:1:-10743 2c63:1:-3814 2c64:1:-10727 2c67-2c6b:2:1",
    "2c6d:1:-10780 2c6e:1:-10749 2c6f:1:-10783 2c70:1:-10782 2c72:1:1 2c75:1:1 2c7e-2c7f:1:-10815",
    "2c80-2ce2:2:1 2ceb-2ced:2:1 2cf2:1:1 a640-a66c:2:1 a680-a69a:2:1 a722-a72e:2:1 a732-a76e:2:1",
    "a779-a77b:2:1 a77d:1:-35332 a77e-a786:2:1 a78b:1:1 a78d:1:-42280 a790-a792:2:1 a796-a7a8:2:1",
    "a7aa:1:-42308 a7ab:1:-42319 a7ac:1:-42315 a7ad:1:-42305 a7ae:1:-42308 a7b0:1:-42258",
    "a7b1:1:-42282 a7b2:1:-42261 a7b3:1:928 a7b4-a7c2:2:1 a7c4:1:-48 a7c5:1:-42307 a7c6:1:-35384",
    "a7c7-a7c9:2:1 a7d0:1:1 a7d6-a7d8:2:1 a7f5:1:1 ff21-ff3a:1:32 10400-10427:1:40 104b0-104d3:1:40",
    "10570-1057a:1:39 1057c-1058a:1:39 1058c-10592:1:39 10594-10595:1:39 10c80-10cb2:1:64",
    "118a0-118bf:1:32 16e40-16e5f:1:32 1e900-1e921:1:34"]

def lowerCode (c : Nat) : Nat :=
  match lowercaseRuns.run? c with
  | some r => if (c - r.lo) % r.value.1 == 0 then (c + r.value.2).toNat else c
  | none => c

/-- The part a character plays in telling the end of a word. -/
inductive CaseRole where
  /-- A character with case: a capital, small or title-case letter. -/
  | cased
  /-- A character passed over when looking for the nearest cased one. -/
  | ignorable
deriving DecidableEq, Repr

namespace CaseRole

def ofFields : List String → Option CaseRole
  | ["C"] => some .cased
  | ["I"] => some .ignorable
  | _ => none

end CaseRole

def caseRoles : CodeMap CaseRole :=
  CodeMap.ofLines CaseRole.ofFields [
    "2e:I 41-7a:C b7:I c0-1ba:C 1bc-1bf:C 1cd-293:C 295-2af:C 2b9-36f:I 370-373:C 375:I 376-481:C",
    "483-487:I 48a-556:C 559:I 560-588:C 591-5c7:I 5f4-61a:I 64b-65f:I 670:I 6d6-6ed:I 711:I",
    "730-74a:I 7a6-7b0:I 7eb-7fd:I 816-82d:I 859-85b:I 898-89f:I 8c9-902:I 93a:I 93c:I 941-948:I",
    "94d:I 951-957:I 962-963:I 971:I 981:I 9bc:I 9c1-9c4:I 9cd:I 9e2-9e3:I 9fe-a02:I a3c:I a41-a51:I",
    "a70-a71:I a75-a82:I abc:I ac1-ac8:I acd:I ae2-ae3:I afa-b01:I b3c:I b3f:I b41-b44:I b4d-b56:I",
    "b62-b63:I b82:I bc0:I bcd:I c00:I c04:I c3c:I c3e-c40:I c46-c56:I c62-c63:I c81:I cbc:I cbf:I",
    "cc6:I ccc-ccd:I ce2-ce3:I d00-d01:I d3b-d3c:I d41-d44:I d4d:I d62-d63:I d81:I dca:I dd2-dd6:I",
    "e31:I e34-e3a:I e46-e4e:I eb1:I eb4-ebc:I ec6-ecd:I f18-f19:I f35-f39:I f71-f7e:I f80-f87:I",
    "f8d-fc6:I 102d-1030:I 1032-1037:I 1039-103a:I 103d-103e:I 1058-1059:I 105e-1060:I 1071-1074:I",
    "1082:I 1085-1086:I 108d:I 109d:I 10a0-10ff:C 135d-135f:I 1712-1714:I 1732-1733:I 1752-1753:I",
    "1772-1773:I 17b7-17bd:I 17c6:I 17c9-17d7:I 17dd:I 1843:I 1885-1886:I 18a9:I 1920-1922:I",
    "1927-1928:I 1932:I 1939-193b:I 1a17-1a18:I 1a1b:I 1a56:I 1a58-1a60:I 1a62:I 1a65-1a6c:I",
    "1a73-1a7f:I 1aa7-1ace:I 1b00-1b03:I 1b34:I 1b36-1b3a:I 1b3c:I 1b42:I 1b6b-1b81:I 1ba2-1ba5:I",
    "1ba8-1ba9:I 1bab-1bad:I 1be6:I 1be8-1be9:I 1bed:I 1bef-1bf1:I 1c2c-1c33:I 1c36-1c37:I",
    "1c78-1c7d:I 1c90-1cbf:C 1cd0-1ce0:I 1ce2-1ce8:I 1ced:I 1cf4:I 1cf8-1cf9:I 1d00-1d2b:C",
    "1d2f-1d4e:I 1d6b-1d9a:C 1dc0-1dff:I 1e00-1ffa:C 200c-200d:I 2126-2cee:C 2cef-2cf1:I 2cf2-2d2d:C",
    "2d7f:I 2de0-2e2f:I 3005:I 302a-302d:I 3099-309e:I 30fc-30fe:I a015:I a4f8-a4fd:I a60c:I",
    "a640-a66d:C a66f-a67f:I a680-a69b:C a69e-a69f:I a6f0-a71f:I a722-a787:C a788:I a78b-a78e:C",
    "a790-a7ca:C a7d0-a7d9:C a7f5-a7f6:C a7fa:C a802:I a806:I a80b:I a825-a826:I a82c:I a8c4-a8c5:I",
    "a8e0-a8f1:I a8ff:I a926-a92d:I a947-a951:I a980-a982:I a9b3:I a9b6-a9b9:I a9bc-a9bd:I a9cf:I",
    "a9e5-a9e6:I aa29-aa2e:I aa31-aa32:I aa35-aa36:I aa43:I aa4c:I aa70:I aa7c:I aab0:I aab2-aab4:I",
    "aab7-aab8:I aabe-aabf:I aac1:I aadd:I aaec-aaed:I aaf3-aaf4:I aaf6:I ab30-ab68:C abe5:I abe8:I",
    "abed:I fb1e-fe2f:I ff0e:I 101fd:I 102e0:I 10376-1037a:I 10400-1044f:C 104b0-104fb:C",
    "10570-105bc:C 10780:I 10a01-10a0f:I 10a38-10a3f:I 10ae5-10ae6:I 10c80-10cf2:C 10d24-10d27:I",
    "10eab-10eac:I 10f46-10f50:I 10f82-10f85:I 11001:I 11038-11046:I 11070:I 11073-11074:I",
    "1107f-11081:I 110b3-110b6:I 110b9-110c2:I 11100-11102:I 11127-1112b:I 1112d-11134:I 11173:I",
    "11180-11181:I 111b6-111be:I 111c9-111cc:I 111cf:I 1122f-11231:I 11234:I 11236-1123e:I 112df:I",
    "112e3-112ea:I 11300-11301:I 1133b-1133c:I 11340:I 11366-11374:I 11438-1143f:I 11442-11444:I",
    "11446:I 1145e:I 114b3-114b8:I 114ba:I 114bf-114c0:I 114c2-114c3:I 115b2-115b5:I 115bc-115bd:I",
    "115bf-115c0:I 115dc-115dd:I 11633-1163a:I 1163d:I 1163f-11640:I 116ab:I 116ad:I 116b0-116b5:I",
    "116b7:I 1171d-1171f:I 11722-11725:I 11727-1172b:I 1182f-11837:I 11839-1183a:I 118a0-118df:C",
    "1193b-1193c:I 1193e:I 11943:I 119d4-119db:I 119e0:I 11a01-11a0a:I 11a33-11a38:I 11a3b-11a47:I",
    "11a51-11a56:I 11a59-11a5b:I 11a8a-11a96:I 11a98-11a99:I 11c30-11c3d:I 11c3f:I 11c92-11ca7:I",
    "11caa-11cb0:I 11cb2-11cb3:I 11cb5-11cb6:I 11d31-11d45:I 11d47:I 11d90-11d91:I 11d95:I 11d97:I",
    "11ef3-11ef4:I 16af0-16af4:I 16b30-16b43:I 16e40-16e7f:C 16f4f:I 16f8f-16fe4:I 1aff0-1affe:I",
    "1bc9d-1daaf:I 1df00-1df09:C 1df0b-1df1e:C 1e000-1e02a:I 1e130-1e13d:I 1e2ae:I 1e2ec-1e2ef:I",
    "1e8d0-1e8d6:I 1e900-1e943:C 1e944-1e94b:I"]

def caseRole? (c : Char) : Option CaseRole :=
  caseRoles.find? c.toNat

def casedNearest (cs : List Char) : Bool :=
  match cs.find? (fun c => caseRole? c != some .ignorable) with
  | some c => caseRole? c == some .cased
  | none => false

def lowerSigma (before after : List Char) : Char :=
  if casedNearest before && !casedNearest after then 'ς' else 'σ'

def lowerChars (before : List Char) : List Char → List Char
  | [] => []
  | c :: after =>
    let here :=
      if c.toNat == 0x130 then ['i', '\u0307']
      else if c.toNat == 0x3A3 then [lowerSigma before after]
      else [Char.ofNat (lowerCode c.toNat)]
    here ++ lowerChars (c :: before) after

def lowerText (s : String) : String :=
  String.ofList (lowerChars [] s.toList)

end Text
end SpireEnroll
