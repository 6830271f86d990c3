import ApprovalWatch.Unicode.Rows

/-!
# Bidirectional classes

The direction in which a character is written, as far as domain names need it.
-/

namespace ApprovalWatch.Unicode

/-- Ranges of characters with a class other than left to right: first, last and class.
Characters that no domain name holds are counted either way. -/
def bidiText : String := "
0 8 9;9 9 b;a a a;b b b;c c c;d d a;e 1b 9;1c 1e a;1f 1f b;20 20 c;21 22 d;23 25 6;26 2a d;
2b 2b 5;2c 2c 7;2d 2d 5;2e 2f 7;30 39 4;3a 3a 7;3b 60 d;7b 7e d;7f 7f 9;a1 a1 d;a2 a5 6;a6 ae d;
b0 b1 6;b6 d7 d;f7 f7 d;2b9 2ba d;2c2 2cf d;2d2 2ed d;2ef 2ff d;300 36f 8;375 375 d;3f6 3f6 d;
483 489 8;58a 58e d;58f 58f 6;591 5bd 8;5be 5be 1;5bf 5bf 8;5c0 5c0 1;5c1 5c2 8;5c3 5c3 1;
5c4 5c5 8;5c6 5c6 1;5c7 5c7 8;5d0 5f4 1;606 607 d;608 608 2;609 60a 6;60b 60b 2;60c 60c 7;
60d 60d 2;60e 60f d;610 61a 8;61b 64a 2;64b 65f 8;660 669 3;66a 66a 6;66b 66c 3;66d 66f 2;
670 670 8;671 6d5 2;6d6 6dc 8;6de 6de d;6df 6e4 8;6e5 6e6 2;6e7 6e8 8;6e9 6e9 d;6ea 6ed 8;
6ee 6ef 2;6f0 6f9 4;6fa 710 2;711 711 8;712 72f 2;730 74a 8;74d 7a5 2;7a6 7b0 8;7b1 7b1 2;
7c0 7ea 1;7eb 7f3 8;7f4 7f5 1;7f6 7f9 d;7fa 7fa 1;7fd 7fd 8;7fe 815 1;816 819 8;81a 81a 1;
81b 823 8;824 824 1;825 827 8;828 828 1;829 82d 8;830 858 1;859 85b 8;85e 85e 1;860 88e 2;
898 89f 8;8a0 8c9 2;8ca 902 8;93a 93a 8;93c 93c 8;941 948 8;94d 94d 8;951 957 8;962 963 8;
981 981 8;9bc 9bc 8;9c1 9c4 8;9cd 9cd 8;9e2 9e3 8;9f2 9f3 6;9fb 9fb 6;9fe a02 8;a3c a3c 8;
a41 a51 8;a70 a71 8;a75 a75 8;a81 a82 8;abc abc 8;ac1 ac8 8;acd acd 8;ae2 ae3 8;af1 af1 6;
afa b01 8;b3c b3c 8;b3f b3f 8;b41 b44 8;b4d b56 8;b62 b63 8;b82 b82 8;bc0 bc0 8;bcd bcd 8;
bf3 bf8 d;bf9 bf9 6;bfa bfa d;c00 c00 8;c04 c04 8;c3c c3c 8;c3e c40 8;c46 c56 8;c62 c63 8;
c78 c7e d;c81 c81 8;cbc cbc 8;ccc ccd 8;ce2 ce3 8;d00 d01 8;d3b d3c 8;d41 d44 8;d4d d4d 8;
d62 d63 8;d81 d81 8;dca dca 8;dd2 dd6 8;e31 e31 8;e34 e3a 8;e3f e3f 6;e47 e4e 8;eb1 eb1 8;
eb4 ebc 8;ec8 ece 8;f18 f19 8;f35 f35 8;f37 f37 8;f39 f39 8;f3a f3d d;f71 f7e 8;f80 f84 8;
f86 f87 8;f8d fbc 8;fc6 fc6 8;102d 1030 8;1032 1037 8;1039 103a 8;103d 103e 8;1058 1059 8;
105e 1060 8;1071 1074 8;1082 1082 8;1085 1086 8;108d 108d 8;109d 109d 8;135d 135f 8;1390 1399 d;
1400 1400 d;169b 169c d;1712 1714 8;1732 1733 8;1752 1753 8;1772 1773 8;17b7 17bd 8;17c6 17c6 8;
17c9 17d3 8;17db 17db 6;17dd 17dd 8;17f0 180a d;1885 1886 8;18a9 18a9 8;1920 1922 8;1927 1928 8;
1932 1932 8;1939 193b 8;1940 1945 d;19de 19ff d;1a17 1a18 8;1a1b 1a1b 8;1a56 1a56 8;1a58 1a60 8;
1a62 1a62 8;1a65 1a6c 8;1a73 1a7f 8;1ab0 1ace 8;1b00 1b03 8;1b34 1b34 8;1b36 1b3a 8;1b3c 1b3c 8;
1b42 1b42 8;1b6b 1b73 8;1b80 1b81 8;1ba2 1ba5 8;1ba8 1ba9 8;1bab 1bad 8;1be6 1be6 8;1be8 1be9 8;
1bed 1bed 8;1bef 1bf1 8;1c2c 1c33 8;1c36 1c37 8;1cd0 1cd2 8;1cd4 1ce0 8;1ce2 1ce8 8;1ced 1ced 8;
1cf4 1cf4 8;1cf8 1cf9 8;1dc0 1dff 8;200c 200d 9;2010 2027 d;2030 2032 6;2035 2043 d;2044 2044 7;
2045 205e d;20a0 20c0 6;20d0 20f0 8;2104 2129 d;212e 212e 6;213a 214d d;218a 2211 d;2212 2212 5;
2213 2213 6;2214 2335 d;237b 2394 d;2396 2426 d;2440 26ab d;26ad 27ff d;2900 2b95 d;2b97 2bff d;
2ce5 2cea d;2cef 2cf1 8;2cf9 2cff d;2d7f 2d7f 8;2de0 2dff 8;2e00 3004 d;3008 3020 d;302a 302d 8;
3030 3030 d;3037 3037 d;303d 303f d;3099 309a 8;30a0 30a0 d;30fb 30fb d;31c0 31e3 d;4dc0 4dff d;
a490 a4c6 d;a60d a60f d;a66f a672 8;a673 a673 d;a674 a67d 8;a67e a67f d;a69e a69f 8;a6f0 a6f1 8;
a700 a721 d;a788 a788 d;a802 a802 8;a806 a806 8;a80b a80b 8;a825 a826 8;a828 a82b d;a82c a82c 8;
a838 a839 6;a874 a877 d;a8c4 a8c5 8;a8e0 a8f1 8;a8ff a8ff 8;a926 a92d 8;a947 a951 8;a980 a982 8;
a9b3 a9b3 8;a9b6 a9b9 8;a9bc a9bd 8;a9e5 a9e5 8;aa29 aa2e 8;aa31 aa32 8;aa35 aa36 8;aa43 aa43 8;
aa4c aa4c 8;aa7c aa7c 8;aab0 aab0 8;aab2 aab4 8;aab7 aab8 8;aabe aabf 8;aac1 aac1 8;aaec aaed 8;
aaf6 aaf6 8;ab6a ab6b d;abe5 abe5 8;abe8 abe8 8;abed abed 8;fb1e fb1e 8;fbb2 fbc2 2;fd3e fd4f d;
fdcf fdff d;fe20 fe2f 8;fe45 fe46 d;fe73 fe73 2;10101 10101 d;10140 1018c d;10190 101a0 d;
101fd 101fd 8;102e0 102e0 8;102e1 102fb 4;10376 1037a 8;10800 1091b 1;1091f 1091f d;10920 1093f 1;
10980 10a00 1;10a01 10a0f 8;10a10 10a35 1;10a38 10a3f 8;10a40 10ae4 1;10ae5 10ae6 8;10aeb 10b35 1;
10b39 10b3f d;10b40 10cff 1;10d00 10d23 2;10d24 10d27 8;10d30 10d39 3;10e60 10e7e 3;10e80 10ea9 1;
10eab 10eac 8;10ead 10eb1 1;10efd 10eff 8;10f00 10f27 1;10f30 10f45 2;10f46 10f50 8;10f51 10f59 2;
10f70 10f81 1;10f82 10f85 8;10f86 10ff6 1;11001 11001 8;11038 11046 8;11052 11065 d;11070 11070 8;
11073 11074 8;1107f 11081 8;110b3 110b6 8;110b9 110ba 8;110c2 110c2 8;11100 11102 8;11127 1112b 8;
1112d 11134 8;11173 11173 8;11180 11181 8;111b6 111be 8;111c9 111cc 8;111cf 111cf 8;1122f 11231 8;
11234 11234 8;11236 11237 8;1123e 1123e 8;11241 11241 8;112df 112df 8;112e3 112ea 8;11300 11301 8;
1133b 1133c 8;11340 11340 8;11366 11374 8;11438 1143f 8;11442 11444 8;11446 11446 8;1145e 1145e 8;
114b3 114b8 8;114ba 114ba 8;114bf 114c0 8;114c2 114c3 8;115b2 115b5 8;115bc 115bd 8;115bf 115c0 8;
115dc 115dd 8;11633 1163a 8;1163d 1163d 8;1163f 11640 8;11660 1166c d;116ab 116ab 8;116ad 116ad 8;
116b0 116b5 8;116b7 116b7 8;1171d 1171f 8;11722 11725 8;11727 1172b 8;1182f 11837 8;11839 1183a 8;
1193b 1193c 8;1193e 1193e 8;11943 11943 8;119d4 119db 8;119e0 119e0 8;11a01 11a06 8;11a09 11a0a 8;
11a33 11a38 8;11a3b 11a3e 8;11a47 11a47 8;11a51 11a56 8;11a59 11a5b 8;11a8a 11a96 8;11a98 11a99 8;
11c30 11c3d 8;11c92 11ca7 8;11caa 11cb0 8;11cb2 11cb3 8;11cb5 11cb6 8;11d31 11d45 8;11d47 11d47 8;
11d90 11d91 8;11d95 11d95 8;11d97 11d97 8;11ef3 11ef4 8;11f00 11f01 8;11f36 11f3a 8;11f40 11f40 8;
11f42 11f42 8;11fd5 11fdc d;11fdd 11fe0 6;11fe1 11ff1 d;13440 13440 8;13447 13455 8;16af0 16af4 8;
16b30 16b36 8;16f4f 16f4f 8;16f8f 16f92 8;16fe2 16fe2 d;16fe4 16fe4 8;1bc9d 1bc9e 8;1cf00 1cf46 8;
1d167 1d169 8;1d17b 1d182 8;1d185 1d18b 8;1d1aa 1d1ad 8;1d1e9 1d241 d;1d242 1d244 8;1d245 1d245 d;
1d300 1d356 d;1da00 1da36 8;1da3b 1da6c 8;1da75 1da75 8;1da84 1da84 8;1da9b 1daaf 8;1e000 1e08f 8;
1e130 1e136 8;1e2ae 1e2ae 8;1e2ec 1e2ef 8;1e2ff 1e2ff 6;1e4ec 1e4ef 8;1e800 1e8cf 1;1e8d0 1e8d6 8;
1e922 1e943 1;1e944 1e94a 8;1e94b 1e95f 1;1ec71 1ed3d 2;1eef0 1f12f d;1f16d 1f16f d;1f1ad 1f1ad d;
1f260 1f6d7 d;1f6dc 1f776 d;1f77b 1f8b1 d;1f900 1fa53 d;1fa60 1fa88 d;1fa90 1fabd d;1fabf 1fac5 d;
1face 1fadb d;1fae0 1fae8 d;1faf0 1fbca d;"

/-- The ranges of the classes. -/
def bidiRanges : Rows := Rows.ofText bidiText

/-- The bidirectional class of a character. -/
inductive BidiClass where
  | leftToRight
  | rightToLeft
  | arabicLetter
  | arabicNumber
  | europeanNumber
  | europeanSeparator
  | europeanTerminator
  | commonSeparator
  | nonspacingMark
  | boundaryNeutral
  | separator
  | neutral
  deriving DecidableEq, Repr

/-- The class with the given number in the table. -/
def BidiClass.ofCode : Nat → BidiClass
  | 0 => leftToRight
  | 1 => rightToLeft
  | 2 => arabicLetter
  | 3 => arabicNumber
  | 4 => europeanNumber
  | 5 => europeanSeparator
  | 6 => europeanTerminator
  | 7 => commonSeparator
  | 8 => nonspacingMark
  | 9 => boundaryNeutral
  | 13 => neutral
  | _ => separator

/-- The bidirectional class of a character. White space counts as a separator. -/
def bidiClass (c : Char) : BidiClass :=
  match bidiRanges.find? c.toNat with
  | some #[_, _, k] => BidiClass.ofCode k
  | _ => .leftToRight

end ApprovalWatch.Unicode
