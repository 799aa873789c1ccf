import RecordGateway.Text.CharSet

/-!
# Writing direction

The direction in which the characters of a text are written, and the rule that a name with
characters from both directions has to follow so that it is shown in one way only.
-/

namespace RecordGateway.Text

/-- What a character does to the direction of the text around it. -/
inductive Direction where
  | leftToRight
  | rightToLeft
  | arabicLetter
  | arabicNumber
  | europeanNumber
  | europeanSeparator
  | europeanTerminator
  | commonSeparator
  | boundaryNeutral
  | mark
  | neutral
deriving DecidableEq

namespace Direction

/-- Letters written from right to left. -/
def rightToLeftSet : CharSet := .ofText "
  5be 5c0 5c3 5c6 5d0-5f4 7c0-7ea 7f4-7f5 7fa 7fe-815 81a 824 828 830-858 85e 10800-1091b
  10920-10a00 10a10-10a35 10a40-10ae4 10aeb-10b35 10b40-10cff 10e80-10ea9 10ead-10f27
  10f70-10f81 10f86-10ff6 1e800-1e8cf 1e922-1e943 1e94b-1e95f"

/-- Letters of Arabic and its relatives. -/
def arabicLetterSet : CharSet := .ofText "
  608 60b 60d 61b-64a 66d-66f 671-6d5 6e5-6e6 6ee-6ef 6fa-710 712-72f 74d-7a5 7b1 860-88e
  8a0-8c9 fbb2-fbc2 fe73 10d00-10d23 10f30-10f45 10f51-10f59 1ec71-1ed3d"

/-- Digits used with Arabic letters. -/
def arabicNumberSet : CharSet := .ofText "
  660-669 66b-66c 10d30-10e7e"

/-- Digits written from left to right in every text. -/
def europeanNumberSet : CharSet := .ofText "
  6f0-6f9 102e1-102fb"

/-- Signs of numbers. -/
def europeanSeparatorSet : CharSet := .ofText "
  2212"

/-- Signs at the end of numbers. -/
def europeanTerminatorSet : CharSet := .ofText "
  a2-a5 b0-b1 58f 609-60a 66a 9f2-9f3 9fb af1 bf9 e3f 17db 2030-2032 20a0-20c0 212e 2213
  a838-a839 11fdd-11fe0 1e2ff"

/-- Characters between the digits of numbers. -/
def commonSeparatorSet : CharSet := .ofText "
  60c 2044"

/-- Characters without a width. -/
def boundaryNeutralSet : CharSet := .ofText "
  200c-200d"

/-- Marks that follow the direction of their letter. -/
def markSet : CharSet := .ofText "
  300-36f 483-489 591-5bd 5bf 5c1-5c2 5c4-5c5 5c7 610-61a 64b-65f 670 6d6-6dc 6df-6e4 6e7-6e8
  6ea-6ed 711 730-74a 7a6-7b0 7eb-7f3 7fd 816-819 81b-823 825-827 829-82d 859-85b 898-89f
  8ca-902 93a 93c 941-948 94d 951-957 962-963 981 9bc 9c1-9c4 9cd 9e2-9e3 9fe-a02 a3c a41-a51
  a70-a71 a75 a81-a82 abc ac1-ac8 acd ae2-ae3 afa-b01 b3c b3f b41-b44 b4d-b56 b62-b63 b82 bc0
  bcd c00 c04 c3c c3e-c40 c46-c56 c62-c63 c81 cbc ccc-ccd ce2-ce3 d00-d01 d3b-d3c d41-d44 d4d
  d62-d63 d81 dca dd2-dd6 e31 e34-e3a e47-e4e eb1 eb4-ebc ec8-ecd f18-f19 f35 f37 f39 f71-f7e
  f80-f84 f86-f87 f8d-fbc fc6 102d-1030 1032-1037 1039-103a 103d-103e 1058-1059 105e-1060
  1071-1074 1082 1085-1086 108d 109d 135d-135f 1712-1714 1732-1733 1752-1753 1772-1773 17b7-17bd
  17c6 17c9-17d3 17dd 1885-1886 18a9 1920-1922 1927-1928 1932 1939-193b 1a17-1a18 1a1b 1a56
  1a58-1a60 1a62 1a65-1a6c 1a73-1a7f 1ab0-1b03 1b34 1b36-1b3a 1b3c 1b42 1b6b-1b73 1b80-1b81
  1ba2-1ba5 1ba8-1ba9 1bab-1bad 1be6 1be8-1be9 1bed 1bef-1bf1 1c2c-1c33 1c36-1c37 1cd0-1cd2
  1cd4-1ce0 1ce2-1ce8 1ced 1cf4 1cf8-1cf9 1dc0-1dff 20d0-20f0 2cef-2cf1 2d7f 2de0-2dff 302a-302d
  3099-309a a66f-a672 a674-a67d a69e-a69f a6f0-a6f1 a802 a806 a80b a825-a826 a82c a8c4-a8c5
  a8e0-a8f1 a8ff a926-a92d a947-a951 a980-a982 a9b3 a9b6-a9b9 a9bc-a9bd a9e5 aa29-aa2e aa31-aa32
  aa35-aa36 aa43 aa4c aa7c aab0 aab2-aab4 aab7-aab8 aabe-aabf aac1 aaec-aaed aaf6 abe5 abe8 abed
  fb1e fe20-fe2f 101fd 102e0 10376-1037a 10a01-10a0f 10a38-10a3f 10ae5-10ae6 10d24-10d27
  10eab-10eac 10f46-10f50 10f82-10f85 11001 11038-11046 11070 11073-11074 1107f-11081
  110b3-110b6 110b9-110ba 110c2 11100-11102 11127-1112b 1112d-11134 11173 11180-11181
  111b6-111be 111c9-111cc 111cf 1122f-11231 11234 11236-11237 1123e 112df 112e3-112ea
  11300-11301 1133b-1133c 11340 11366-11374 11438-1143f 11442-11444 11446 1145e 114b3-114b8
  114ba 114bf-114c0 114c2-114c3 115b2-115b5 115bc-115bd 115bf-115c0 115dc-115dd 11633-1163a
  1163d 1163f-11640 116ab 116ad 116b0-116b5 116b7 1171d-1171f 11722-11725 11727-1172b
  1182f-11837 11839-1183a 1193b-1193c 1193e 11943 119d4-119db 119e0 11a01-11a06 11a09-11a0a
  11a33-11a38 11a3b-11a3e 11a47 11a51-11a56 11a59-11a5b 11a8a-11a96 11a98-11a99 11c30-11c3d
  11c92-11ca7 11caa-11cb0 11cb2-11cb3 11cb5-11cb6 11d31-11d45 11d47 11d90-11d91 11d95 11d97
  11ef3-11ef4 16af0-16af4 16b30-16b36 16f4f 16f8f-16f92 16fe4 1bc9d-1bc9e 1cf00-1cf46
  1d167-1d169 1d17b-1d182 1d185-1d18b 1d1aa-1d1ad 1d242-1d244 1da00-1da36 1da3b-1da6c 1da75
  1da84 1da9b-1daaf 1e000-1e02a 1e130-1e136 1e2ae 1e2ec-1e2ef 1e8d0-1e8d6 1e944-1e94a"

/-- Characters without a direction of their own. -/
def neutralSet : CharSet := .ofText "
  a1 a6-ae b6-d7 f7 2b9-2ba 2c2-2cf 2d2-2ed 2ef-2ff 375 3f6 58a-58e 606-607 60e-60f 6de 6e9
  7f6-7f9 bf3-bf8 bfa c78-c7e f3a-f3d 1390-1399 1400 169b-169c 17f0-180a 1940-1945 19de-19ff
  2010-2027 2035-2043 2045-205e 2104-2129 213a-214d 218a-2211 2214-2335 237b-2394 2396-26ab
  26ad-27ff 2900-2bff 2ce5-2cea 2cf9-2cff 2e00-3004 3008-3020 3030 3037 303d-303f 30a0 30fb
  31c0-31e3 4dc0-4dff a490-a4c6 a60d-a60f a673 a67e-a67f a700-a721 a788 a828-a82b a874-a877
  ab6a-ab6b fd3e-fdff fe45-fe46 10101 10140-1018c 10190-101a0 1091f 10b39-10b3f 11052-11065
  11660-1166c 11fd5-11fdc 11fe1-11ff1 16fe2 1d1e9-1d241 1d245 1d300-1d356 1eef0-1f12f
  1f16d-1f16f 1f1ad 1f260-1fbca"

/-- The direction of a character of ASCII that is no control character. -/
def ofAscii (c : Char) : Direction :=
  if c.isAlpha then leftToRight
  else if isDigit c then europeanNumber
  else if c = '+' ∨ c = '-' then europeanSeparator
  else if c = '#' ∨ c = '$' ∨ c = '%' then europeanTerminator
  else if c = ',' ∨ c = '.' ∨ c = '/' ∨ c = ':' then commonSeparator
  else neutral

/-- The direction of a character; what is in none of the sets is written from left to right. -/
def ofChar (c : Char) : Direction :=
  if isAscii c then ofAscii c
  else if rightToLeftSet.contains c then rightToLeft
  else if arabicLetterSet.contains c then arabicLetter
  else if arabicNumberSet.contains c then arabicNumber
  else if europeanNumberSet.contains c then europeanNumber
  else if europeanSeparatorSet.contains c then europeanSeparator
  else if europeanTerminatorSet.contains c then europeanTerminator
  else if commonSeparatorSet.contains c then commonSeparator
  else if boundaryNeutralSet.contains c then boundaryNeutral
  else if markSet.contains c then mark
  else if neutralSet.contains c then neutral
  else leftToRight

/-- Whether a text has a character written from right to left, or a digit used with such. -/
def turns (cs : List Char) : Bool :=
  cs.any fun c => [rightToLeft, arabicLetter, arabicNumber].contains (ofChar c)

/-- The characters that may stand in a name of either direction. -/
def common : List Direction :=
  [europeanNumber, europeanSeparator, commonSeparator, europeanTerminator, neutral,
    boundaryNeutral, mark]

/-- Whether a name written from left to right follows the rule: it has no characters of the other
direction and ends, apart from marks, in a letter or digit. -/
def keepsLeftToRight (ds : List Direction) : Bool :=
  ds.all (fun d => d == leftToRight || common.contains d) &&
    (ds.reverse.dropWhile (· == mark)).head?.any fun d => d == leftToRight || d == europeanNumber

/-- Whether a name written from right to left follows the rule: it has no letters of the other
direction, ends, apart from marks, in a letter or digit, and does not mix the two kinds of
digits. -/
def keepsRightToLeft (ds : List Direction) : Bool :=
  ds.all (fun d => [rightToLeft, arabicLetter, arabicNumber].contains d || common.contains d) &&
    ((ds.reverse.dropWhile (· == mark)).head?.any fun d =>
      [rightToLeft, arabicLetter, arabicNumber, europeanNumber].contains d) &&
    !(ds.contains arabicNumber && ds.contains europeanNumber)

/-- Whether a name follows the rule of its direction, which its first character decides. -/
def consistent (cs : List Char) : Bool :=
  match cs.map ofChar with
  | [] => true
  | leftToRight :: rest => keepsLeftToRight (leftToRight :: rest)
  | rightToLeft :: rest => keepsRightToLeft (rightToLeft :: rest)
  | arabicLetter :: rest => keepsRightToLeft (arabicLetter :: rest)
  | _ => false

end Direction

end RecordGateway.Text
