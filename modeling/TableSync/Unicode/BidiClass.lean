import TableSync.Unicode.RangeTable

/-!
The bidirectional class of every code point, by the tables of Unicode 15.0.
-/

namespace TableSync

inductive BidiClass where
  | leftToRight
  | rightToLeft
  | arabicLetter
  | europeanNumber
  | europeanSeparator
  | europeanTerminator
  | arabicNumber
  | commonSeparator
  | nonspacingMark
  | boundaryNeutral
  | paragraphSeparator
  | segmentSeparator
  | whiteSpace
  | otherNeutral
  | leftToRightEmbedding
  | leftToRightOverride
  | rightToLeftEmbedding
  | rightToLeftOverride
  | popDirectionalFormat
  | leftToRightIsolate
  | rightToLeftIsolate
  | firstStrongIsolate
  | popDirectionalIsolate
  deriving DecidableEq, Repr

namespace BidiClass

def all : List BidiClass :=
  [.leftToRight, .rightToLeft, .arabicLetter, .europeanNumber, .europeanSeparator, .europeanTerminator, .arabicNumber, .commonSeparator, .nonspacingMark, .boundaryNeutral, .paragraphSeparator, .segmentSeparator, .whiteSpace, .otherNeutral, .leftToRightEmbedding, .leftToRightOverride, .rightToLeftEmbedding, .rightToLeftOverride, .popDirectionalFormat, .leftToRightIsolate, .rightToLeftIsolate, .firstStrongIsolate, .popDirectionalIsolate]

def ofIndex (n : Nat) : BidiClass := all.getD n .leftToRight

end BidiClass

def bidiClassText : String :=
  " ".intercalate
    ["0-8:9 9:b a:a b:b c:c d:a e-1b:9 1c-1e:a 1f:b 20:c 21-22:d 23-25:5 26-2a:d 2b:4 2c:7 2d:4",
     "2e-2f:7 30-39:3 3a:7 3b-40:d 5b-60:d 7b-7e:d 7f-84:9 85:a 86-9f:9 a0:7 a1:d a2-a5:5 a6-a9:d",
     "ab-ac:d ad:9 ae-af:d b0-b1:5 b2-b3:3 b4:d b6-b8:d b9:3 bb-bf:d d7:d f7:d 2b9-2ba:d 2c2-2cf:d",
     "2d2-2df:d 2e5-2ed:d 2ef-2ff:d 300-36f:8 374-375:d 37e:d 384-385:d 387:d 3f6:d 483-489:8 58a:d",
     "58d-58e:d 58f:5 590 591-5bd:8 5be 5bf:8 5c0 5c1-5c2:8 5c3 5c4-5c5:8 5c6 5c7:8 5c8-5ff 600-605:6",
     "606-607:d 608:2 609-60a:5 60b:2 60c:7 60d:2 60e-60f:d 610-61a:8 61b-64a:2 64b-65f:8 660-669:6",
     "66a:5 66b-66c:6 66d-66f:2 670:8 671-6d5:2 6d6-6dc:8 6dd:6 6de:d 6df-6e4:8 6e5-6e6:2 6e7-6e8:8",
     "6e9:d 6ea-6ed:8 6ee-6ef:2 6f0-6f9:3 6fa-710:2 711:8 712-72f:2 730-74a:8 74b-7a5:2 7a6-7b0:8",
     "7b1-7bf:2 7c0-7ea 7eb-7f3:8 7f4-7f5 7f6-7f9:d 7fa-7fc 7fd:8 7fe-815 816-819:8 81a 81b-823:8 824",
     "825-827:8 828 829-82d:8 82e-858 859-85b:8 85c-85f 860-88f:2 890-891:6 892-896:2 897-89f:8",
     "8a0-8c9:2 8ca-8e1:8 8e2:6 8e3-902:8 93a:8 93c:8 941-948:8 94d:8 951-957:8 962-963:8 981:8 9bc:8",
     "9c1-9c4:8 9cd:8 9e2-9e3:8 9f2-9f3:5 9fb:5 9fe:8 a01-a02:8 a3c:8 a41-a42:8 a47-a48:8 a4b-a4d:8",
     "a51:8 a70-a71:8 a75:8 a81-a82:8 abc:8 ac1-ac5:8 ac7-ac8:8 acd:8 ae2-ae3:8 af1:5 afa-aff:8 b01:8",
     "b3c:8 b3f:8 b41-b44:8 b4d:8 b55-b56:8 b62-b63:8 b82:8 bc0:8 bcd:8 bf3-bf8:d bf9:5 bfa:d c00:8",
     "c04:8 c3c:8 c3e-c40:8 c46-c48:8 c4a-c4d:8 c55-c56:8 c62-c63:8 c78-c7e:d c81:8 cbc:8 ccc-ccd:8",
     "ce2-ce3:8 d00-d01:8 d3b-d3c:8 d41-d44:8 d4d:8 d62-d63:8 d81:8 dca:8 dd2-dd4:8 dd6:8 e31:8",
     "e34-e3a:8 e3f:5 e47-e4e:8 eb1:8 eb4-ebc:8 ec8-ece:8 f18-f19:8 f35:8 f37:8 f39:8 f3a-f3d:d",
     "f71-f7e:8 f80-f84:8 f86-f87:8 f8d-f97:8 f99-fbc:8 fc6:8 102d-1030:8 1032-1037:8 1039-103a:8",
     "103d-103e:8 1058-1059:8 105e-1060:8 1071-1074:8 1082:8 1085-1086:8 108d:8 109d:8 135d-135f:8",
     "1390-1399:d 1400:d 1680:c 169b-169c:d 1712-1714:8 1732-1733:8 1752-1753:8 1772-1773:8",
     "17b4-17b5:8 17b7-17bd:8 17c6:8 17c9-17d3:8 17db:5 17dd:8 17f0-17f9:d 1800-180a:d 180b-180d:8",
     "180e:9 180f:8 1885-1886:8 18a9:8 1920-1922:8 1927-1928:8 1932:8 1939-193b:8 1940:d 1944-1945:d",
     "19de-19ff:d 1a17-1a18:8 1a1b:8 1a56:8 1a58-1a5e:8 1a60:8 1a62:8 1a65-1a6c:8 1a73-1a7c:8 1a7f:8",
     "1ab0-1add:8 1ae0-1aeb:8 1b00-1b03:8 1b34:8 1b36-1b3a:8 1b3c:8 1b42:8 1b6b-1b73:8 1b80-1b81:8",
     "1ba2-1ba5:8 1ba8-1ba9:8 1bab-1bad:8 1be6:8 1be8-1be9:8 1bed:8 1bef-1bf1:8 1c2c-1c33:8",
     "1c36-1c37:8 1cd0-1cd2:8 1cd4-1ce0:8 1ce2-1ce8:8 1ced:8 1cf4:8 1cf8-1cf9:8 1dc0-1dff:8 1fbd:d",
     "1fbf-1fc1:d 1fcd-1fcf:d 1fdd-1fdf:d 1fed-1fef:d 1ffd-1ffe:d 2000-200a:c 200b-200d:9 200f",
     "2010-2027:d 2028:c 2029:a 202a:e 202b:10 202c:12 202d:f 202e:11 202f:7 2030-2034:5 2035-2043:d",
     "2044:7 2045-205e:d 205f:c 2060-2065:9 2066:13 2067:14 2068:15 2069:16 206a-206f:9 2070:3",
     "2074-2079:3 207a-207b:4 207c-207e:d 2080-2089:3 208a-208b:4 208c-208e:d 20a0-20cf:5 20d0-20f0:8",
     "2100-2101:d 2103-2106:d 2108-2109:d 2114:d 2116-2118:d 211e-2123:d 2125:d 2127:d 2129:d 212e:5",
     "213a-213b:d 2140-2144:d 214a-214d:d 2150-215f:d 2189-218b:d 2190-2211:d 2212:4 2213:5",
     "2214-2335:d 237b-2394:d 2396-2426:d 2440-244a:d 2460-2487:d 2488-249b:3 24ea-26ab:d 26ad-27ff:d",
     "2900-2b73:d 2b76-2b95:d 2b97-2bff:d 2ce5-2cea:d 2cef-2cf1:8 2cf9-2cff:d 2d7f:8 2de0-2dff:8",
     "2e00-2e5d:d 2e80-2e99:d 2e9b-2ef3:d 2f00-2fd5:d 2ff0-2ffb:d 3000:c 3001-3004:d 3008-3020:d",
     "302a-302d:8 3030:d 3036-3037:d 303d-303f:d 3099-309a:8 309b-309c:d 30a0:d 30fb:d 31c0-31e3:d",
     "321d-321e:d 3250-325f:d 327c-327e:d 32b1-32bf:d 32cc-32cf:d 3377-337a:d 33de-33df:d 33ff:d",
     "4dc0-4dff:d a490-a4c6:d a60d-a60f:d a66f-a672:8 a673:d a674-a67d:8 a67e-a67f:d a69e-a69f:8",
     "a6f0-a6f1:8 a700-a721:d a788:d a802:8 a806:8 a80b:8 a825-a826:8 a828-a82b:d a82c:8 a838-a839:5",
     "a874-a877:d a8c4-a8c5:8 a8e0-a8f1:8 a8ff:8 a926-a92d:8 a947-a951:8 a980-a982:8 a9b3:8",
     "a9b6-a9b9:8 a9bc-a9bd:8 a9e5:8 aa29-aa2e:8 aa31-aa32:8 aa35-aa36:8 aa43:8 aa4c:8 aa7c:8 aab0:8",
     "aab2-aab4:8 aab7-aab8:8 aabe-aabf:8 aac1:8 aaec-aaed:8 aaf6:8 ab6a-ab6b:d abe5:8 abe8:8 abed:8",
     "fb1d fb1e:8 fb1f-fb28 fb29:4 fb2a-fb4f fb50-fd3d:2 fd3e-fd4f:d fd50-fdce:2 fdcf:d fdd0-fdef:9",
     "fdf0-fdfc:2 fdfd-fdff:d fe00-fe0f:8 fe10-fe19:d fe20-fe2f:8 fe30-fe4f:d fe50:7 fe51:d fe52:7",
     "fe54:d fe55:7 fe56-fe5e:d fe5f:5 fe60-fe61:d fe62-fe63:4 fe64-fe66:d fe68:d fe69-fe6a:5 fe6b:d",
     "fe70-fefe:2 feff:9 ff01-ff02:d ff03-ff05:5 ff06-ff0a:d ff0b:4 ff0c:7 ff0d:4 ff0e-ff0f:7",
     "ff10-ff19:3 ff1a:7 ff1b-ff20:d ff3b-ff40:d ff5b-ff65:d ffe0-ffe1:5 ffe2-ffe4:d ffe5-ffe6:5",
     "ffe8-ffee:d fff0-fff8:9 fff9-fffd:d fffe-ffff:9 10101:d 10140-1018c:d 10190-1019c:d 101a0:d",
     "101fd:8 102e0:8 102e1-102fb:3 10376-1037a:8 10800-1091e 1091f:d 10920-10a00 10a01-10a03:8 10a04",
     "10a05-10a06:8 10a07-10a0b 10a0c-10a0f:8 10a10-10a37 10a38-10a3a:8 10a3b-10a3e 10a3f:8",
     "10a40-10ae4 10ae5-10ae6:8 10ae7-10b38 10b39-10b3f:d 10b40-10cff 10d00-10d23:2 10d24-10d27:8",
     "10d28-10d2f:2 10d30-10d39:6 10d3a-10d3f:2 10d40-10d68 10d69-10d6d:8 10d6e-10e5f 10e60-10e7e:6",
     "10e7f-10eaa 10eab-10eac:8 10ead-10ebf 10ec0-10ef9:2 10efa-10eff:8 10f00-10f2f 10f30-10f45:2",
     "10f46-10f50:8 10f51-10f6f:2 10f70-10f81 10f82-10f85:8 10f86-10fff 11001:8 11038-11046:8",
     "11052-11065:d 11070:8 11073-11074:8 1107f-11081:8 110b3-110b6:8 110b9-110ba:8 110c2:8",
     "11100-11102:8 11127-1112b:8 1112d-11134:8 11173:8 11180-11181:8 111b6-111be:8 111c9-111cc:8",
     "111cf:8 1122f-11231:8 11234:8 11236-11237:8 1123e:8 11241:8 112df:8 112e3-112ea:8 11300-11301:8",
     "1133b-1133c:8 11340:8 11366-1136c:8 11370-11374:8 113bb-113c0:8 113ce:8 113d0:8 113d2:8",
     "113e1-113e2:8 11438-1143f:8 11442-11444:8 11446:8 1145e:8 114b3-114b8:8 114ba:8 114bf-114c0:8",
     "114c2-114c3:8 115b2-115b5:8 115bc-115bd:8 115bf-115c0:8 115dc-115dd:8 11633-1163a:8 1163d:8",
     "1163f-11640:8 11660-1166c:d 116ab:8 116ad:8 116b0-116b5:8 116b7:8 1171d-1171f:8 11722-11725:8",
     "11727-1172b:8 1182f-11837:8 11839-1183a:8 1193b-1193c:8 1193e:8 11943:8 119d4-119d7:8",
     "119da-119db:8 119e0:8 11a01-11a06:8 11a09-11a0a:8 11a33-11a38:8 11a3b-11a3e:8 11a47:8",
     "11a51-11a56:8 11a59-11a5b:8 11a8a-11a96:8 11a98-11a99:8 11b60:8 11b62-11b64:8 11b66:8",
     "11c30-11c36:8 11c38-11c3d:8 11c92-11ca7:8 11caa-11cb0:8 11cb2-11cb3:8 11cb5-11cb6:8",
     "11d31-11d36:8 11d3a:8 11d3c-11d3d:8 11d3f-11d45:8 11d47:8 11d90-11d91:8 11d95:8 11d97:8",
     "11ef3-11ef4:8 11f00-11f01:8 11f36-11f3a:8 11f40:8 11f42:8 11f5a:8 11fd5-11fdc:d 11fdd-11fe0:5",
     "11fe1-11ff1:d 13440:8 13447-13455:8 1611e-16129:8 1612d-1612f:8 16af0-16af4:8 16b30-16b36:8",
     "16f4f:8 16f8f-16f92:8 16fe2:d 16fe4:8 1bc9d-1bc9e:8 1bca0-1bca3:9 1cf00-1cf2d:8 1cf30-1cf46:8",
     "1d167-1d169:8 1d173-1d17a:9 1d17b-1d182:8 1d185-1d18b:8 1d1aa-1d1ad:8 1d1e9-1d1ea:d",
     "1d200-1d241:d 1d242-1d244:8 1d245:d 1d300-1d356:d 1d6db:d 1d715:d 1d74f:d 1d789:d 1d7c3:d",
     "1d7ce-1d7ff:3 1da00-1da36:8 1da3b-1da6c:8 1da75:8 1da84:8 1da9b-1da9f:8 1daa1-1daaf:8",
     "1e000-1e006:8 1e008-1e018:8 1e01b-1e021:8 1e023-1e024:8 1e026-1e02a:8 1e08f:8 1e130-1e136:8",
     "1e2ae:8 1e2ec-1e2ef:8 1e2ff:5 1e4ec-1e4ef:8 1e5ee-1e5ef:8 1e6e3:8 1e6e6:8 1e6ee-1e6ef:8 1e6f5:8",
     "1e800-1e8cf 1e8d0-1e8d6:8 1e8d7-1e943 1e944-1e94a:8 1e94b-1ec6f 1ec70-1ecbf:2 1ecc0-1ecff",
     "1ed00-1ed4f:2 1ed50-1edff 1ee00-1eeef:2 1eef0-1eef1:d 1eef2-1eeff:2 1ef00-1efff 1f000-1f02b:d",
     "1f030-1f093:d 1f0a0-1f0ae:d 1f0b1-1f0bf:d 1f0c1-1f0cf:d 1f0d1-1f0f5:d 1f100-1f10a:3",
     "1f10b-1f10f:d 1f12f:d 1f16a-1f16f:d 1f1ad:d 1f260-1f265:d 1f300-1f6d7:d 1f6dc-1f6ec:d",
     "1f6f0-1f6fc:d 1f700-1f776:d 1f77b-1f7d9:d 1f7e0-1f7eb:d 1f7f0:d 1f800-1f80b:d 1f810-1f847:d",
     "1f850-1f859:d 1f860-1f887:d 1f890-1f8ad:d 1f8b0-1f8b1:d 1f900-1fa53:d 1fa60-1fa6d:d",
     "1fa70-1fa7c:d 1fa80-1fa88:d 1fa90-1fabd:d 1fabf-1fac5:d 1face-1fadb:d 1fae0-1fae8:d",
     "1faf0-1faf8:d 1fb00-1fb92:d 1fb94-1fbca:d 1fbf0-1fbf9:3 1fffe-1ffff:9 2fffe-2ffff:9",
     "3fffe-3ffff:9 4fffe-4ffff:9 5fffe-5ffff:9 6fffe-6ffff:9 7fffe-7ffff:9 8fffe-8ffff:9",
     "9fffe-9ffff:9 afffe-affff:9 bfffe-bffff:9 cfffe-cffff:9 dfffe-e00ff:9 e0100-e01ef:8",
     "e01f0-e0fff:9 efffe-effff:9 ffffe-fffff:9 10fffe-10ffff:9"]

def bidiClassTable : RangeTable := RangeTable.decode bidiClassText

/-- The bidirectional class of a code point. -/
def bidiClass (cp : Nat) : BidiClass :=
  match bidiClassTable.find? cp with
  | some i => .ofIndex i
  | none => .leftToRight

end TableSync
