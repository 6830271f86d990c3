import ApprovalWatch.Unicode.Rows

/-!
# Data of composition

Combining classes, and the characters that are composed of two others.
-/

namespace ApprovalWatch.Unicode

/-- Ranges of characters with a combining class other than zero: first, last and class. Characters
that no domain name holds are counted either way. -/
def combiningText : String := "
300 314 e6;315 315 e8;316 319 dc;31a 31a e8;31b 31b d8;31c 320 dc;321 322 ca;323 326 dc;
327 328 ca;329 333 dc;334 338 1;339 33c dc;33d 346 e6;347 349 dc;34a 34c e6;34d 34e dc;350 352 e6;
353 356 dc;357 357 e6;358 358 e8;359 35a dc;35b 35b e6;35c 35c e9;35d 35e ea;35f 35f e9;
360 361 ea;362 362 e9;363 36f e6;483 487 e6;591 591 dc;592 595 e6;596 596 dc;597 599 e6;
59a 59a de;59b 59b dc;59c 5a1 e6;5a2 5a7 dc;5a8 5a9 e6;5aa 5aa dc;5ab 5ac e6;5ad 5ad de;
5ae 5ae e4;5af 5af e6;5b0 5b0 a;5b1 5b1 b;5b2 5b2 c;5b3 5b3 d;5b4 5b4 e;5b5 5b5 f;5b6 5b6 10;
5b7 5b7 11;5b8 5b8 12;5b9 5ba 13;5bb 5bb 14;5bc 5bc 15;5bd 5bd 16;5bf 5bf 17;5c1 5c1 18;
5c2 5c2 19;5c4 5c4 e6;5c5 5c5 dc;5c7 5c7 12;610 617 e6;618 618 1e;619 619 1f;61a 61a 20;
64b 64b 1b;64c 64c 1c;64d 64d 1d;64e 64e 1e;64f 64f 1f;650 650 20;651 651 21;652 652 22;
653 654 e6;655 656 dc;657 65b e6;65c 65c dc;65d 65e e6;65f 65f dc;670 670 23;6d6 6dc e6;
6df 6e2 e6;6e3 6e3 dc;6e4 6e4 e6;6e7 6e8 e6;6ea 6ea dc;6eb 6ec e6;6ed 6ed dc;711 711 24;
730 730 e6;731 731 dc;732 733 e6;734 734 dc;735 736 e6;737 739 dc;73a 73a e6;73b 73c dc;
73d 73d e6;73e 73e dc;73f 741 e6;742 742 dc;743 743 e6;744 744 dc;745 745 e6;746 746 dc;
747 747 e6;748 748 dc;749 74a e6;7eb 7f1 e6;7f2 7f2 dc;7f3 7f3 e6;7fd 7fd dc;816 819 e6;
81b 823 e6;825 827 e6;829 82d e6;859 85b dc;898 898 e6;899 89b dc;89c 89f e6;8ca 8ce e6;
8cf 8d3 dc;8d4 8e1 e6;8e3 8e3 dc;8e4 8e5 e6;8e6 8e6 dc;8e7 8e8 e6;8e9 8e9 dc;8ea 8ec e6;
8ed 8ef dc;8f0 8f0 1b;8f1 8f1 1c;8f2 8f2 1d;8f3 8f5 e6;8f6 8f6 dc;8f7 8f8 e6;8f9 8fa dc;
8fb 8ff e6;93c 93c 7;94d 94d 9;951 951 e6;952 952 dc;953 954 e6;9bc 9bc 7;9cd 9cd 9;9fe 9fe e6;
a3c a3c 7;a4d a4d 9;abc abc 7;acd acd 9;b3c b3c 7;b4d b4d 9;bcd bcd 9;c3c c3c 7;c4d c4d 9;
c55 c55 54;c56 c56 5b;cbc cbc 7;ccd ccd 9;d3b d3c 9;d4d d4d 9;dca dca 9;e38 e39 67;e3a e3a 9;
e48 e4b 6b;eb8 eb9 76;eba eba 9;ec8 ecb 7a;f18 f19 dc;f35 f35 dc;f37 f37 dc;f39 f39 d8;f71 f71 81;
f72 f72 82;f74 f74 84;f7a f7d 82;f80 f80 82;f82 f83 e6;f84 f84 9;f86 f87 e6;fc6 fc6 dc;
1037 1037 7;1039 103a 9;108d 108d dc;135d 135f e6;1714 1715 9;1734 1734 9;17d2 17d2 9;
17dd 17dd e6;18a9 18a9 e4;1939 1939 de;193a 193a e6;193b 193b dc;1a17 1a17 e6;1a18 1a18 dc;
1a60 1a60 9;1a75 1a7c e6;1a7f 1a7f dc;1ab0 1ab4 e6;1ab5 1aba dc;1abb 1abc e6;1abd 1abd dc;
1abf 1ac0 dc;1ac1 1ac2 e6;1ac3 1ac4 dc;1ac5 1ac9 e6;1aca 1aca dc;1acb 1ace e6;1b34 1b34 7;
1b44 1b44 9;1b6b 1b6b e6;1b6c 1b6c dc;1b6d 1b73 e6;1baa 1bab 9;1be6 1be6 7;1bf2 1bf3 9;
1c37 1c37 7;1cd0 1cd2 e6;1cd4 1cd4 1;1cd5 1cd9 dc;1cda 1cdb e6;1cdc 1cdf dc;1ce0 1ce0 e6;
1ce2 1ce8 1;1ced 1ced dc;1cf4 1cf4 e6;1cf8 1cf9 e6;1dc0 1dc1 e6;1dc2 1dc2 dc;1dc3 1dc9 e6;
1dca 1dca dc;1dcb 1dcc e6;1dcd 1dcd ea;1dce 1dce d6;1dcf 1dcf dc;1dd0 1dd0 ca;1dd1 1df5 e6;
1df6 1df6 e8;1df7 1df8 e4;1df9 1df9 dc;1dfa 1dfa da;1dfb 1dfb e6;1dfc 1dfc e9;1dfd 1dfd dc;
1dfe 1dfe e6;1dff 1dff dc;20d0 20d1 e6;20d2 20d3 1;20d4 20d7 e6;20d8 20da 1;20db 20dc e6;
20e1 20e1 e6;20e5 20e6 1;20e7 20e7 e6;20e8 20e8 dc;20e9 20e9 e6;20ea 20eb 1;20ec 20ef dc;
20f0 20f0 e6;2cef 2cf1 e6;2d7f 2d7f 9;2de0 2dff e6;302a 302a da;302b 302b e4;302c 302c e8;
302d 302d de;302e 302f e0;3099 309a 8;a66f a66f e6;a674 a67d e6;a69e a69f e6;a6f0 a6f1 e6;
a806 a806 9;a82c a82c 9;a8c4 a8c4 9;a8e0 a8f1 e6;a92b a92d dc;a953 a953 9;a9b3 a9b3 7;a9c0 a9c0 9;
aab0 aab0 e6;aab2 aab3 e6;aab4 aab4 dc;aab7 aab8 e6;aabe aabf e6;aac1 aac1 e6;aaf6 aaf6 9;
abed abed 9;fb1e fb1e 1a;fe20 fe26 e6;fe27 fe2d dc;fe2e fe2f e6;101fd 101fd dc;102e0 102e0 dc;
10376 1037a e6;10a0d 10a0d dc;10a0f 10a0f e6;10a38 10a38 e6;10a39 10a39 1;10a3a 10a3a dc;
10a3f 10a3f 9;10ae5 10ae5 e6;10ae6 10ae6 dc;10d24 10d27 e6;10eab 10eac e6;10efd 10eff dc;
10f46 10f47 dc;10f48 10f4a e6;10f4b 10f4b dc;10f4c 10f4c e6;10f4d 10f50 dc;10f82 10f82 e6;
10f83 10f83 dc;10f84 10f84 e6;10f85 10f85 dc;11046 11046 9;11070 11070 9;1107f 1107f 9;
110b9 110b9 9;110ba 110ba 7;11100 11102 e6;11133 11134 9;11173 11173 7;111c0 111c0 9;
111ca 111ca 7;11235 11235 9;11236 11236 7;112e9 112e9 7;112ea 112ea 9;1133b 1133c 7;1134d 1134d 9;
11366 11374 e6;11442 11442 9;11446 11446 7;1145e 1145e e6;114c2 114c2 9;114c3 114c3 7;
115bf 115bf 9;115c0 115c0 7;1163f 1163f 9;116b6 116b6 9;116b7 116b7 7;1172b 1172b 9;11839 11839 9;
1183a 1183a 7;1193d 1193e 9;11943 11943 7;119e0 119e0 9;11a34 11a34 9;11a47 11a47 9;11a99 11a99 9;
11c3f 11c3f 9;11d42 11d42 7;11d44 11d45 9;11d97 11d97 9;11f41 11f42 9;16af0 16af4 1;
16b30 16b36 e6;16ff0 16ff1 6;1bc9e 1bc9e 1;1d165 1d166 d8;1d167 1d169 1;1d16d 1d16d e2;
1d16e 1d172 d8;1d17b 1d182 dc;1d185 1d189 e6;1d18a 1d18b dc;1d1aa 1d1ad e6;1d242 1d244 e6;
1e000 1e08f e6;1e130 1e136 e6;1e2ae 1e2ae e6;1e2ec 1e2ef e6;1e4ec 1e4ed e8;1e4ee 1e4ee dc;
1e4ef 1e4ef e6;1e8d0 1e8d6 dc;1e944 1e949 e6;1e94a 1e94a 7;"

/-- Composed characters: the character, twice, and the two it is composed of. -/
def compositeText : String := "
c0 c0 41 300;c1 c1 41 301;c2 c2 41 302;c3 c3 41 303;c4 c4 41 308;c5 c5 41 30a;c7 c7 43 327;
c8 c8 45 300;c9 c9 45 301;ca ca 45 302;cb cb 45 308;cc cc 49 300;cd cd 49 301;ce ce 49 302;
cf cf 49 308;d1 d1 4e 303;d2 d2 4f 300;d3 d3 4f 301;d4 d4 4f 302;d5 d5 4f 303;d6 d6 4f 308;
d9 d9 55 300;da da 55 301;db db 55 302;dc dc 55 308;dd dd 59 301;e0 e0 61 300;e1 e1 61 301;
e2 e2 61 302;e3 e3 61 303;e4 e4 61 308;e5 e5 61 30a;e7 e7 63 327;e8 e8 65 300;e9 e9 65 301;
ea ea 65 302;eb eb 65 308;ec ec 69 300;ed ed 69 301;ee ee 69 302;ef ef 69 308;f1 f1 6e 303;
f2 f2 6f 300;f3 f3 6f 301;f4 f4 6f 302;f5 f5 6f 303;f6 f6 6f 308;f9 f9 75 300;fa fa 75 301;
fb fb 75 302;fc fc 75 308;fd fd 79 301;ff ff 79 308;100 100 41 304;101 101 61 304;102 102 41 306;
103 103 61 306;104 104 41 328;105 105 61 328;106 106 43 301;107 107 63 301;108 108 43 302;
109 109 63 302;10a 10a 43 307;10b 10b 63 307;10c 10c 43 30c;10d 10d 63 30c;10e 10e 44 30c;
10f 10f 64 30c;112 112 45 304;113 113 65 304;114 114 45 306;115 115 65 306;116 116 45 307;
117 117 65 307;118 118 45 328;119 119 65 328;11a 11a 45 30c;11b 11b 65 30c;11c 11c 47 302;
11d 11d 67 302;11e 11e 47 306;11f 11f 67 306;120 120 47 307;121 121 67 307;122 122 47 327;
123 123 67 327;124 124 48 302;125 125 68 302;128 128 49 303;129 129 69 303;12a 12a 49 304;
12b 12b 69 304;12c 12c 49 306;12d 12d 69 306;12e 12e 49 328;12f 12f 69 328;130 130 49 307;
134 134 4a 302;135 135 6a 302;136 136 4b 327;137 137 6b 327;139 139 4c 301;13a 13a 6c 301;
13b 13b 4c 327;13c 13c 6c 327;13d 13d 4c 30c;13e 13e 6c 30c;143 143 4e 301;144 144 6e 301;
145 145 4e 327;146 146 6e 327;147 147 4e 30c;148 148 6e 30c;14c 14c 4f 304;14d 14d 6f 304;
14e 14e 4f 306;14f 14f 6f 306;150 150 4f 30b;151 151 6f 30b;154 154 52 301;155 155 72 301;
156 156 52 327;157 157 72 327;158 158 52 30c;159 159 72 30c;15a 15a 53 301;15b 15b 73 301;
15c 15c 53 302;15d 15d 73 302;15e 15e 53 327;15f 15f 73 327;160 160 53 30c;161 161 73 30c;
162 162 54 327;163 163 74 327;164 164 54 30c;165 165 74 30c;168 168 55 303;169 169 75 303;
16a 16a 55 304;16b 16b 75 304;16c 16c 55 306;16d 16d 75 306;16e 16e 55 30a;16f 16f 75 30a;
170 170 55 30b;171 171 75 30b;172 172 55 328;173 173 75 328;174 174 57 302;175 175 77 302;
176 176 59 302;177 177 79 302;178 178 59 308;179 179 5a 301;17a 17a 7a 301;17b 17b 5a 307;
17c 17c 7a 307;17d 17d 5a 30c;17e 17e 7a 30c;1a0 1a0 4f 31b;1a1 1a1 6f 31b;1af 1af 55 31b;
1b0 1b0 75 31b;1cd 1cd 41 30c;1ce 1ce 61 30c;1cf 1cf 49 30c;1d0 1d0 69 30c;1d1 1d1 4f 30c;
1d2 1d2 6f 30c;1d3 1d3 55 30c;1d4 1d4 75 30c;1d5 1d5 dc 304;1d6 1d6 fc 304;1d7 1d7 dc 301;
1d8 1d8 fc 301;1d9 1d9 dc 30c;1da 1da fc 30c;1db 1db dc 300;1dc 1dc fc 300;1de 1de c4 304;
1df 1df e4 304;1e0 1e0 226 304;1e1 1e1 227 304;1e2 1e2 c6 304;1e3 1e3 e6 304;1e6 1e6 47 30c;
1e7 1e7 67 30c;1e8 1e8 4b 30c;1e9 1e9 6b 30c;1ea 1ea 4f 328;1eb 1eb 6f 328;1ec 1ec 1ea 304;
1ed 1ed 1eb 304;1ee 1ee 1b7 30c;1ef 1ef 292 30c;1f0 1f0 6a 30c;1f4 1f4 47 301;1f5 1f5 67 301;
1f8 1f8 4e 300;1f9 1f9 6e 300;1fa 1fa c5 301;1fb 1fb e5 301;1fc 1fc c6 301;1fd 1fd e6 301;
1fe 1fe d8 301;1ff 1ff f8 301;200 200 41 30f;201 201 61 30f;202 202 41 311;203 203 61 311;
204 204 45 30f;205 205 65 30f;206 206 45 311;207 207 65 311;208 208 49 30f;209 209 69 30f;
20a 20a 49 311;20b 20b 69 311;20c 20c 4f 30f;20d 20d 6f 30f;20e 20e 4f 311;20f 20f 6f 311;
210 210 52 30f;211 211 72 30f;212 212 52 311;213 213 72 311;214 214 55 30f;215 215 75 30f;
216 216 55 311;217 217 75 311;218 218 53 326;219 219 73 326;21a 21a 54 326;21b 21b 74 326;
21e 21e 48 30c;21f 21f 68 30c;226 226 41 307;227 227 61 307;228 228 45 327;229 229 65 327;
22a 22a d6 304;22b 22b f6 304;22c 22c d5 304;22d 22d f5 304;22e 22e 4f 307;22f 22f 6f 307;
230 230 22e 304;231 231 22f 304;232 232 59 304;233 233 79 304;385 385 a8 301;386 386 391 301;
388 388 395 301;389 389 397 301;38a 38a 399 301;38c 38c 39f 301;38e 38e 3a5 301;38f 38f 3a9 301;
390 390 3ca 301;3aa 3aa 399 308;3ab 3ab 3a5 308;3ac 3ac 3b1 301;3ad 3ad 3b5 301;3ae 3ae 3b7 301;
3af 3af 3b9 301;3b0 3b0 3cb 301;3ca 3ca 3b9 308;3cb 3cb 3c5 308;3cc 3cc 3bf 301;3cd 3cd 3c5 301;
3ce 3ce 3c9 301;3d3 3d3 3d2 301;3d4 3d4 3d2 308;400 400 415 300;401 401 415 308;403 403 413 301;
407 407 406 308;40c 40c 41a 301;40d 40d 418 300;40e 40e 423 306;419 419 418 306;439 439 438 306;
450 450 435 300;451 451 435 308;453 453 433 301;457 457 456 308;45c 45c 43a 301;45d 45d 438 300;
45e 45e 443 306;476 476 474 30f;477 477 475 30f;4c1 4c1 416 306;4c2 4c2 436 306;4d0 4d0 410 306;
4d1 4d1 430 306;4d2 4d2 410 308;4d3 4d3 430 308;4d6 4d6 415 306;4d7 4d7 435 306;4da 4da 4d8 308;
4db 4db 4d9 308;4dc 4dc 416 308;4dd 4dd 436 308;4de 4de 417 308;4df 4df 437 308;4e2 4e2 418 304;
4e3 4e3 438 304;4e4 4e4 418 308;4e5 4e5 438 308;4e6 4e6 41e 308;4e7 4e7 43e 308;4ea 4ea 4e8 308;
4eb 4eb 4e9 308;4ec 4ec 42d 308;4ed 4ed 44d 308;4ee 4ee 423 304;4ef 4ef 443 304;4f0 4f0 423 308;
4f1 4f1 443 308;4f2 4f2 423 30b;4f3 4f3 443 30b;4f4 4f4 427 308;4f5 4f5 447 308;4f8 4f8 42b 308;
4f9 4f9 44b 308;622 622 627 653;623 623 627 654;624 624 648 654;625 625 627 655;626 626 64a 654;
6c0 6c0 6d5 654;6c2 6c2 6c1 654;6d3 6d3 6d2 654;929 929 928 93c;931 931 930 93c;934 934 933 93c;
9cb 9cb 9c7 9be;9cc 9cc 9c7 9d7;b48 b48 b47 b56;b4b b4b b47 b3e;b4c b4c b47 b57;b94 b94 b92 bd7;
bca bca bc6 bbe;bcb bcb bc7 bbe;bcc bcc bc6 bd7;c48 c48 c46 c56;cc0 cc0 cbf cd5;cc7 cc7 cc6 cd5;
cc8 cc8 cc6 cd6;cca cca cc6 cc2;ccb ccb cca cd5;d4a d4a d46 d3e;d4b d4b d47 d3e;d4c d4c d46 d57;
dda dda dd9 dca;ddc ddc dd9 dcf;ddd ddd ddc dca;dde dde dd9 ddf;1026 1026 1025 102e;
1b06 1b06 1b05 1b35;1b08 1b08 1b07 1b35;1b0a 1b0a 1b09 1b35;1b0c 1b0c 1b0b 1b35;
1b0e 1b0e 1b0d 1b35;1b12 1b12 1b11 1b35;1b3b 1b3b 1b3a 1b35;1b3d 1b3d 1b3c 1b35;
1b40 1b40 1b3e 1b35;1b41 1b41 1b3f 1b35;1b43 1b43 1b42 1b35;1e00 1e00 41 325;1e01 1e01 61 325;
1e02 1e02 42 307;1e03 1e03 62 307;1e04 1e04 42 323;1e05 1e05 62 323;1e06 1e06 42 331;
1e07 1e07 62 331;1e08 1e08 c7 301;1e09 1e09 e7 301;1e0a 1e0a 44 307;1e0b 1e0b 64 307;
1e0c 1e0c 44 323;1e0d 1e0d 64 323;1e0e 1e0e 44 331;1e0f 1e0f 64 331;1e10 1e10 44 327;
1e11 1e11 64 327;1e12 1e12 44 32d;1e13 1e13 64 32d;1e14 1e14 112 300;1e15 1e15 113 300;
1e16 1e16 112 301;1e17 1e17 113 301;1e18 1e18 45 32d;1e19 1e19 65 32d;1e1a 1e1a 45 330;
1e1b 1e1b 65 330;1e1c 1e1c 228 306;1e1d 1e1d 229 306;1e1e 1e1e 46 307;1e1f 1e1f 66 307;
1e20 1e20 47 304;1e21 1e21 67 304;1e22 1e22 48 307;1e23 1e23 68 307;1e24 1e24 48 323;
1e25 1e25 68 323;1e26 1e26 48 308;1e27 1e27 68 308;1e28 1e28 48 327;1e29 1e29 68 327;
1e2a 1e2a 48 32e;1e2b 1e2b 68 32e;1e2c 1e2c 49 330;1e2d 1e2d 69 330;1e2e 1e2e cf 301;
1e2f 1e2f ef 301;1e30 1e30 4b 301;1e31 1e31 6b 301;1e32 1e32 4b 323;1e33 1e33 6b 323;
1e34 1e34 4b 331;1e35 1e35 6b 331;1e36 1e36 4c 323;1e37 1e37 6c 323;1e38 1e38 1e36 304;
1e39 1e39 1e37 304;1e3a 1e3a 4c 331;1e3b 1e3b 6c 331;1e3c 1e3c 4c 32d;1e3d 1e3d 6c 32d;
1e3e 1e3e 4d 301;1e3f 1e3f 6d 301;1e40 1e40 4d 307;1e41 1e41 6d 307;1e42 1e42 4d 323;
1e43 1e43 6d 323;1e44 1e44 4e 307;1e45 1e45 6e 307;1e46 1e46 4e 323;1e47 1e47 6e 323;
1e48 1e48 4e 331;1e49 1e49 6e 331;1e4a 1e4a 4e 32d;1e4b 1e4b 6e 32d;1e4c 1e4c d5 301;
1e4d 1e4d f5 301;1e4e 1e4e d5 308;1e4f 1e4f f5 308;1e50 1e50 14c 300;1e51 1e51 14d 300;
1e52 1e52 14c 301;1e53 1e53 14d 301;1e54 1e54 50 301;1e55 1e55 70 301;1e56 1e56 50 307;
1e57 1e57 70 307;1e58 1e58 52 307;1e59 1e59 72 307;1e5a 1e5a 52 323;1e5b 1e5b 72 323;
1e5c 1e5c 1e5a 304;1e5d 1e5d 1e5b 304;1e5e 1e5e 52 331;1e5f 1e5f 72 331;1e60 1e60 53 307;
1e61 1e61 73 307;1e62 1e62 53 323;1e63 1e63 73 323;1e64 1e64 15a 307;1e65 1e65 15b 307;
1e66 1e66 160 307;1e67 1e67 161 307;1e68 1e68 1e62 307;1e69 1e69 1e63 307;1e6a 1e6a 54 307;
1e6b 1e6b 74 307;1e6c 1e6c 54 323;1e6d 1e6d 74 323;1e6e 1e6e 54 331;1e6f 1e6f 74 331;
1e70 1e70 54 32d;1e71 1e71 74 32d;1e72 1e72 55 324;1e73 1e73 75 324;1e74 1e74 55 330;
1e75 1e75 75 330;1e76 1e76 55 32d;1e77 1e77 75 32d;1e78 1e78 168 301;1e79 1e79 169 301;
1e7a 1e7a 16a 308;1e7b 1e7b 16b 308;1e7c 1e7c 56 303;1e7d 1e7d 76 303;1e7e 1e7e 56 323;
1e7f 1e7f 76 323;1e80 1e80 57 300;1e81 1e81 77 300;1e82 1e82 57 301;1e83 1e83 77 301;
1e84 1e84 57 308;1e85 1e85 77 308;1e86 1e86 57 307;1e87 1e87 77 307;1e88 1e88 57 323;
1e89 1e89 77 323;1e8a 1e8a 58 307;1e8b 1e8b 78 307;1e8c 1e8c 58 308;1e8d 1e8d 78 308;
1e8e 1e8e 59 307;1e8f 1e8f 79 307;1e90 1e90 5a 302;1e91 1e91 7a 302;1e92 1e92 5a 323;
1e93 1e93 7a 323;1e94 1e94 5a 331;1e95 1e95 7a 331;1e96 1e96 68 331;1e97 1e97 74 308;
1e98 1e98 77 30a;1e99 1e99 79 30a;1e9b 1e9b 17f 307;1ea0 1ea0 41 323;1ea1 1ea1 61 323;
1ea2 1ea2 41 309;1ea3 1ea3 61 309;1ea4 1ea4 c2 301;1ea5 1ea5 e2 301;1ea6 1ea6 c2 300;
1ea7 1ea7 e2 300;1ea8 1ea8 c2 309;1ea9 1ea9 e2 309;1eaa 1eaa c2 303;1eab 1eab e2 303;
1eac 1eac 1ea0 302;1ead 1ead 1ea1 302;1eae 1eae 102 301;1eaf 1eaf 103 301;1eb0 1eb0 102 300;
1eb1 1eb1 103 300;1eb2 1eb2 102 309;1eb3 1eb3 103 309;1eb4 1eb4 102 303;1eb5 1eb5 103 303;
1eb6 1eb6 1ea0 306;1eb7 1eb7 1ea1 306;1eb8 1eb8 45 323;1eb9 1eb9 65 323;1eba 1eba 45 309;
1ebb 1ebb 65 309;1ebc 1ebc 45 303;1ebd 1ebd 65 303;1ebe 1ebe ca 301;1ebf 1ebf ea 301;
1ec0 1ec0 ca 300;1ec1 1ec1 ea 300;1ec2 1ec2 ca 309;1ec3 1ec3 ea 309;1ec4 1ec4 ca 303;
1ec5 1ec5 ea 303;1ec6 1ec6 1eb8 302;1ec7 1ec7 1eb9 302;1ec8 1ec8 49 309;1ec9 1ec9 69 309;
1eca 1eca 49 323;1ecb 1ecb 69 323;1ecc 1ecc 4f 323;1ecd 1ecd 6f 323;1ece 1ece 4f 309;
1ecf 1ecf 6f 309;1ed0 1ed0 d4 301;1ed1 1ed1 f4 301;1ed2 1ed2 d4 300;1ed3 1ed3 f4 300;
1ed4 1ed4 d4 309;1ed5 1ed5 f4 309;1ed6 1ed6 d4 303;1ed7 1ed7 f4 303;1ed8 1ed8 1ecc 302;
1ed9 1ed9 1ecd 302;1eda 1eda 1a0 301;1edb 1edb 1a1 301;1edc 1edc 1a0 300;1edd 1edd 1a1 300;
1ede 1ede 1a0 309;1edf 1edf 1a1 309;1ee0 1ee0 1a0 303;1ee1 1ee1 1a1 303;1ee2 1ee2 1a0 323;
1ee3 1ee3 1a1 323;1ee4 1ee4 55 323;1ee5 1ee5 75 323;1ee6 1ee6 55 309;1ee7 1ee7 75 309;
1ee8 1ee8 1af 301;1ee9 1ee9 1b0 301;1eea 1eea 1af 300;1eeb 1eeb 1b0 300;1eec 1eec 1af 309;
1eed 1eed 1b0 309;1eee 1eee 1af 303;1eef 1eef 1b0 303;1ef0 1ef0 1af 323;1ef1 1ef1 1b0 323;
1ef2 1ef2 59 300;1ef3 1ef3 79 300;1ef4 1ef4 59 323;1ef5 1ef5 79 323;1ef6 1ef6 59 309;
1ef7 1ef7 79 309;1ef8 1ef8 59 303;1ef9 1ef9 79 303;1f00 1f00 3b1 313;1f01 1f01 3b1 314;
1f02 1f02 1f00 300;1f03 1f03 1f01 300;1f04 1f04 1f00 301;1f05 1f05 1f01 301;1f06 1f06 1f00 342;
1f07 1f07 1f01 342;1f08 1f08 391 313;1f09 1f09 391 314;1f0a 1f0a 1f08 300;1f0b 1f0b 1f09 300;
1f0c 1f0c 1f08 301;1f0d 1f0d 1f09 301;1f0e 1f0e 1f08 342;1f0f 1f0f 1f09 342;1f10 1f10 3b5 313;
1f11 1f11 3b5 314;1f12 1f12 1f10 300;1f13 1f13 1f11 300;1f14 1f14 1f10 301;1f15 1f15 1f11 301;
1f18 1f18 395 313;1f19 1f19 395 314;1f1a 1f1a 1f18 300;1f1b 1f1b 1f19 300;1f1c 1f1c 1f18 301;
1f1d 1f1d 1f19 301;1f20 1f20 3b7 313;1f21 1f21 3b7 314;1f22 1f22 1f20 300;1f23 1f23 1f21 300;
1f24 1f24 1f20 301;1f25 1f25 1f21 301;1f26 1f26 1f20 342;1f27 1f27 1f21 342;1f28 1f28 397 313;
1f29 1f29 397 314;1f2a 1f2a 1f28 300;1f2b 1f2b 1f29 300;1f2c 1f2c 1f28 301;1f2d 1f2d 1f29 301;
1f2e 1f2e 1f28 342;1f2f 1f2f 1f29 342;1f30 1f30 3b9 313;1f31 1f31 3b9 314;1f32 1f32 1f30 300;
1f33 1f33 1f31 300;1f34 1f34 1f30 301;1f35 1f35 1f31 301;1f36 1f36 1f30 342;1f37 1f37 1f31 342;
1f38 1f38 399 313;1f39 1f39 399 314;1f3a 1f3a 1f38 300;1f3b 1f3b 1f39 300;1f3c 1f3c 1f38 301;
1f3d 1f3d 1f39 301;1f3e 1f3e 1f38 342;1f3f 1f3f 1f39 342;1f40 1f40 3bf 313;1f41 1f41 3bf 314;
1f42 1f42 1f40 300;1f43 1f43 1f41 300;1f44 1f44 1f40 301;1f45 1f45 1f41 301;1f48 1f48 39f 313;
1f49 1f49 39f 314;1f4a 1f4a 1f48 300;1f4b 1f4b 1f49 300;1f4c 1f4c 1f48 301;1f4d 1f4d 1f49 301;
1f50 1f50 3c5 313;1f51 1f51 3c5 314;1f52 1f52 1f50 300;1f53 1f53 1f51 300;1f54 1f54 1f50 301;
1f55 1f55 1f51 301;1f56 1f56 1f50 342;1f57 1f57 1f51 342;1f59 1f59 3a5 314;1f5b 1f5b 1f59 300;
1f5d 1f5d 1f59 301;1f5f 1f5f 1f59 342;1f60 1f60 3c9 313;1f61 1f61 3c9 314;1f62 1f62 1f60 300;
1f63 1f63 1f61 300;1f64 1f64 1f60 301;1f65 1f65 1f61 301;1f66 1f66 1f60 342;1f67 1f67 1f61 342;
1f68 1f68 3a9 313;1f69 1f69 3a9 314;1f6a 1f6a 1f68 300;1f6b 1f6b 1f69 300;1f6c 1f6c 1f68 301;
1f6d 1f6d 1f69 301;1f6e 1f6e 1f68 342;1f6f 1f6f 1f69 342;1f70 1f70 3b1 300;1f72 1f72 3b5 300;
1f74 1f74 3b7 300;1f76 1f76 3b9 300;1f78 1f78 3bf 300;1f7a 1f7a 3c5 300;1f7c 1f7c 3c9 300;
1f80 1f80 1f00 345;1f81 1f81 1f01 345;1f82 1f82 1f02 345;1f83 1f83 1f03 345;1f84 1f84 1f04 345;
1f85 1f85 1f05 345;1f86 1f86 1f06 345;1f87 1f87 1f07 345;1f88 1f88 1f08 345;1f89 1f89 1f09 345;
1f8a 1f8a 1f0a 345;1f8b 1f8b 1f0b 345;1f8c 1f8c 1f0c 345;1f8d 1f8d 1f0d 345;1f8e 1f8e 1f0e 345;
1f8f 1f8f 1f0f 345;1f90 1f90 1f20 345;1f91 1f91 1f21 345;1f92 1f92 1f22 345;1f93 1f93 1f23 345;
1f94 1f94 1f24 345;1f95 1f95 1f25 345;1f96 1f96 1f26 345;1f97 1f97 1f27 345;1f98 1f98 1f28 345;
1f99 1f99 1f29 345;1f9a 1f9a 1f2a 345;1f9b 1f9b 1f2b 345;1f9c 1f9c 1f2c 345;1f9d 1f9d 1f2d 345;
1f9e 1f9e 1f2e 345;1f9f 1f9f 1f2f 345;1fa0 1fa0 1f60 345;1fa1 1fa1 1f61 345;1fa2 1fa2 1f62 345;
1fa3 1fa3 1f63 345;1fa4 1fa4 1f64 345;1fa5 1fa5 1f65 345;1fa6 1fa6 1f66 345;1fa7 1fa7 1f67 345;
1fa8 1fa8 1f68 345;1fa9 1fa9 1f69 345;1faa 1faa 1f6a 345;1fab 1fab 1f6b 345;1fac 1fac 1f6c 345;
1fad 1fad 1f6d 345;1fae 1fae 1f6e 345;1faf 1faf 1f6f 345;1fb0 1fb0 3b1 306;1fb1 1fb1 3b1 304;
1fb2 1fb2 1f70 345;1fb3 1fb3 3b1 345;1fb4 1fb4 3ac 345;1fb6 1fb6 3b1 342;1fb7 1fb7 1fb6 345;
1fb8 1fb8 391 306;1fb9 1fb9 391 304;1fba 1fba 391 300;1fbc 1fbc 391 345;1fc1 1fc1 a8 342;
1fc2 1fc2 1f74 345;1fc3 1fc3 3b7 345;1fc4 1fc4 3ae 345;1fc6 1fc6 3b7 342;1fc7 1fc7 1fc6 345;
1fc8 1fc8 395 300;1fca 1fca 397 300;1fcc 1fcc 397 345;1fcd 1fcd 1fbf 300;1fce 1fce 1fbf 301;
1fcf 1fcf 1fbf 342;1fd0 1fd0 3b9 306;1fd1 1fd1 3b9 304;1fd2 1fd2 3ca 300;1fd6 1fd6 3b9 342;
1fd7 1fd7 3ca 342;1fd8 1fd8 399 306;1fd9 1fd9 399 304;1fda 1fda 399 300;1fdd 1fdd 1ffe 300;
1fde 1fde 1ffe 301;1fdf 1fdf 1ffe 342;1fe0 1fe0 3c5 306;1fe1 1fe1 3c5 304;1fe2 1fe2 3cb 300;
1fe4 1fe4 3c1 313;1fe5 1fe5 3c1 314;1fe6 1fe6 3c5 342;1fe7 1fe7 3cb 342;1fe8 1fe8 3a5 306;
1fe9 1fe9 3a5 304;1fea 1fea 3a5 300;1fec 1fec 3a1 314;1fed 1fed a8 300;1ff2 1ff2 1f7c 345;
1ff3 1ff3 3c9 345;1ff4 1ff4 3ce 345;1ff6 1ff6 3c9 342;1ff7 1ff7 1ff6 345;1ff8 1ff8 39f 300;
1ffa 1ffa 3a9 300;1ffc 1ffc 3a9 345;219a 219a 2190 338;219b 219b 2192 338;21ae 21ae 2194 338;
21cd 21cd 21d0 338;21ce 21ce 21d4 338;21cf 21cf 21d2 338;2204 2204 2203 338;2209 2209 2208 338;
220c 220c 220b 338;2224 2224 2223 338;2226 2226 2225 338;2241 2241 223c 338;2244 2244 2243 338;
2247 2247 2245 338;2249 2249 2248 338;2260 2260 3d 338;2262 2262 2261 338;226d 226d 224d 338;
226e 226e 3c 338;226f 226f 3e 338;2270 2270 2264 338;2271 2271 2265 338;2274 2274 2272 338;
2275 2275 2273 338;2278 2278 2276 338;2279 2279 2277 338;2280 2280 227a 338;2281 2281 227b 338;
2284 2284 2282 338;2285 2285 2283 338;2288 2288 2286 338;2289 2289 2287 338;22ac 22ac 22a2 338;
22ad 22ad 22a8 338;22ae 22ae 22a9 338;22af 22af 22ab 338;22e0 22e0 227c 338;22e1 22e1 227d 338;
22e2 22e2 2291 338;22e3 22e3 2292 338;22ea 22ea 22b2 338;22eb 22eb 22b3 338;22ec 22ec 22b4 338;
22ed 22ed 22b5 338;304c 304c 304b 3099;304e 304e 304d 3099;3050 3050 304f 3099;
3052 3052 3051 3099;3054 3054 3053 3099;3056 3056 3055 3099;3058 3058 3057 3099;
305a 305a 3059 3099;305c 305c 305b 3099;305e 305e 305d 3099;3060 3060 305f 3099;
3062 3062 3061 3099;3065 3065 3064 3099;3067 3067 3066 3099;3069 3069 3068 3099;
3070 3070 306f 3099;3071 3071 306f 309a;3073 3073 3072 3099;3074 3074 3072 309a;
3076 3076 3075 3099;3077 3077 3075 309a;3079 3079 3078 3099;307a 307a 3078 309a;
307c 307c 307b 3099;307d 307d 307b 309a;3094 3094 3046 3099;309e 309e 309d 3099;
30ac 30ac 30ab 3099;30ae 30ae 30ad 3099;30b0 30b0 30af 3099;30b2 30b2 30b1 3099;
30b4 30b4 30b3 3099;30b6 30b6 30b5 3099;30b8 30b8 30b7 3099;30ba 30ba 30b9 3099;
30bc 30bc 30bb 3099;30be 30be 30bd 3099;30c0 30c0 30bf 3099;30c2 30c2 30c1 3099;
30c5 30c5 30c4 3099;30c7 30c7 30c6 3099;30c9 30c9 30c8 3099;30d0 30d0 30cf 3099;
30d1 30d1 30cf 309a;30d3 30d3 30d2 3099;30d4 30d4 30d2 309a;30d6 30d6 30d5 3099;
30d7 30d7 30d5 309a;30d9 30d9 30d8 3099;30da 30da 30d8 309a;30dc 30dc 30db 3099;
30dd 30dd 30db 309a;30f4 30f4 30a6 3099;30f7 30f7 30ef 3099;30f8 30f8 30f0 3099;
30f9 30f9 30f1 3099;30fa 30fa 30f2 3099;30fe 30fe 30fd 3099;1109a 1109a 11099 110ba;
1109c 1109c 1109b 110ba;110ab 110ab 110a5 110ba;1112e 1112e 11131 11127;1112f 1112f 11132 11127;
1134b 1134b 11347 1133e;1134c 1134c 11347 11357;114bb 114bb 114b9 114ba;114bc 114bc 114b9 114b0;
114be 114be 114b9 114bd;115ba 115ba 115b8 115af;115bb 115bb 115b9 115af;11938 11938 11935 11930;"

/-- The same by pairs, in the order of the pairs. A pair stands as the number `a * 0x200000 + b`,
twice, and is followed by the composed character. -/
def pairText : String := "
7800338 7800338 226e;7a00338 7a00338 2260;7c00338 7c00338 226f;8200300 8200300 c0;
8200301 8200301 c1;8200302 8200302 c2;8200303 8200303 c3;8200304 8200304 100;8200306 8200306 102;
8200307 8200307 226;8200308 8200308 c4;8200309 8200309 1ea2;820030a 820030a c5;
820030c 820030c 1cd;820030f 820030f 200;8200311 8200311 202;8200323 8200323 1ea0;
8200325 8200325 1e00;8200328 8200328 104;8400307 8400307 1e02;8400323 8400323 1e04;
8400331 8400331 1e06;8600301 8600301 106;8600302 8600302 108;8600307 8600307 10a;
860030c 860030c 10c;8600327 8600327 c7;8800307 8800307 1e0a;880030c 880030c 10e;
8800323 8800323 1e0c;8800327 8800327 1e10;880032d 880032d 1e12;8800331 8800331 1e0e;
8a00300 8a00300 c8;8a00301 8a00301 c9;8a00302 8a00302 ca;8a00303 8a00303 1ebc;8a00304 8a00304 112;
8a00306 8a00306 114;8a00307 8a00307 116;8a00308 8a00308 cb;8a00309 8a00309 1eba;
8a0030c 8a0030c 11a;8a0030f 8a0030f 204;8a00311 8a00311 206;8a00323 8a00323 1eb8;
8a00327 8a00327 228;8a00328 8a00328 118;8a0032d 8a0032d 1e18;8a00330 8a00330 1e1a;
8c00307 8c00307 1e1e;8e00301 8e00301 1f4;8e00302 8e00302 11c;8e00304 8e00304 1e20;
8e00306 8e00306 11e;8e00307 8e00307 120;8e0030c 8e0030c 1e6;8e00327 8e00327 122;
9000302 9000302 124;9000307 9000307 1e22;9000308 9000308 1e26;900030c 900030c 21e;
9000323 9000323 1e24;9000327 9000327 1e28;900032e 900032e 1e2a;9200300 9200300 cc;
9200301 9200301 cd;9200302 9200302 ce;9200303 9200303 128;9200304 9200304 12a;9200306 9200306 12c;
9200307 9200307 130;9200308 9200308 cf;9200309 9200309 1ec8;920030c 920030c 1cf;
920030f 920030f 208;9200311 9200311 20a;9200323 9200323 1eca;9200328 9200328 12e;
9200330 9200330 1e2c;9400302 9400302 134;9600301 9600301 1e30;960030c 960030c 1e8;
9600323 9600323 1e32;9600327 9600327 136;9600331 9600331 1e34;9800301 9800301 139;
980030c 980030c 13d;9800323 9800323 1e36;9800327 9800327 13b;980032d 980032d 1e3c;
9800331 9800331 1e3a;9a00301 9a00301 1e3e;9a00307 9a00307 1e40;9a00323 9a00323 1e42;
9c00300 9c00300 1f8;9c00301 9c00301 143;9c00303 9c00303 d1;9c00307 9c00307 1e44;
9c0030c 9c0030c 147;9c00323 9c00323 1e46;9c00327 9c00327 145;9c0032d 9c0032d 1e4a;
9c00331 9c00331 1e48;9e00300 9e00300 d2;9e00301 9e00301 d3;9e00302 9e00302 d4;9e00303 9e00303 d5;
9e00304 9e00304 14c;9e00306 9e00306 14e;9e00307 9e00307 22e;9e00308 9e00308 d6;
9e00309 9e00309 1ece;9e0030b 9e0030b 150;9e0030c 9e0030c 1d1;9e0030f 9e0030f 20c;
9e00311 9e00311 20e;9e0031b 9e0031b 1a0;9e00323 9e00323 1ecc;9e00328 9e00328 1ea;
a000301 a000301 1e54;a000307 a000307 1e56;a400301 a400301 154;a400307 a400307 1e58;
a40030c a40030c 158;a40030f a40030f 210;a400311 a400311 212;a400323 a400323 1e5a;
a400327 a400327 156;a400331 a400331 1e5e;a600301 a600301 15a;a600302 a600302 15c;
a600307 a600307 1e60;a60030c a60030c 160;a600323 a600323 1e62;a600326 a600326 218;
a600327 a600327 15e;a800307 a800307 1e6a;a80030c a80030c 164;a800323 a800323 1e6c;
a800326 a800326 21a;a800327 a800327 162;a80032d a80032d 1e70;a800331 a800331 1e6e;
aa00300 aa00300 d9;aa00301 aa00301 da;aa00302 aa00302 db;aa00303 aa00303 168;aa00304 aa00304 16a;
aa00306 aa00306 16c;aa00308 aa00308 dc;aa00309 aa00309 1ee6;aa0030a aa0030a 16e;
aa0030b aa0030b 170;aa0030c aa0030c 1d3;aa0030f aa0030f 214;aa00311 aa00311 216;
aa0031b aa0031b 1af;aa00323 aa00323 1ee4;aa00324 aa00324 1e72;aa00328 aa00328 172;
aa0032d aa0032d 1e76;aa00330 aa00330 1e74;ac00303 ac00303 1e7c;ac00323 ac00323 1e7e;
ae00300 ae00300 1e80;ae00301 ae00301 1e82;ae00302 ae00302 174;ae00307 ae00307 1e86;
ae00308 ae00308 1e84;ae00323 ae00323 1e88;b000307 b000307 1e8a;b000308 b000308 1e8c;
b200300 b200300 1ef2;b200301 b200301 dd;b200302 b200302 176;b200303 b200303 1ef8;
b200304 b200304 232;b200307 b200307 1e8e;b200308 b200308 178;b200309 b200309 1ef6;
b200323 b200323 1ef4;b400301 b400301 179;b400302 b400302 1e90;b400307 b400307 17b;
b40030c b40030c 17d;b400323 b400323 1e92;b400331 b400331 1e94;c200300 c200300 e0;
c200301 c200301 e1;c200302 c200302 e2;c200303 c200303 e3;c200304 c200304 101;c200306 c200306 103;
c200307 c200307 227;c200308 c200308 e4;c200309 c200309 1ea3;c20030a c20030a e5;
c20030c c20030c 1ce;c20030f c20030f 201;c200311 c200311 203;c200323 c200323 1ea1;
c200325 c200325 1e01;c200328 c200328 105;c400307 c400307 1e03;c400323 c400323 1e05;
c400331 c400331 1e07;c600301 c600301 107;c600302 c600302 109;c600307 c600307 10b;
c60030c c60030c 10d;c600327 c600327 e7;c800307 c800307 1e0b;c80030c c80030c 10f;
c800323 c800323 1e0d;c800327 c800327 1e11;c80032d c80032d 1e13;c800331 c800331 1e0f;
ca00300 ca00300 e8;ca00301 ca00301 e9;ca00302 ca00302 ea;ca00303 ca00303 1ebd;ca00304 ca00304 113;
ca00306 ca00306 115;ca00307 ca00307 117;ca00308 ca00308 eb;ca00309 ca00309 1ebb;
ca0030c ca0030c 11b;ca0030f ca0030f 205;ca00311 ca00311 207;ca00323 ca00323 1eb9;
ca00327 ca00327 229;ca00328 ca00328 119;ca0032d ca0032d 1e19;ca00330 ca00330 1e1b;
cc00307 cc00307 1e1f;ce00301 ce00301 1f5;ce00302 ce00302 11d;ce00304 ce00304 1e21;
ce00306 ce00306 11f;ce00307 ce00307 121;ce0030c ce0030c 1e7;ce00327 ce00327 123;
d000302 d000302 125;d000307 d000307 1e23;d000308 d000308 1e27;d00030c d00030c 21f;
d000323 d000323 1e25;d000327 d000327 1e29;d00032e d00032e 1e2b;d000331 d000331 1e96;
d200300 d200300 ec;d200301 d200301 ed;d200302 d200302 ee;d200303 d200303 129;d200304 d200304 12b;
d200306 d200306 12d;d200308 d200308 ef;d200309 d200309 1ec9;d20030c d20030c 1d0;
d20030f d20030f 209;d200311 d200311 20b;d200323 d200323 1ecb;d200328 d200328 12f;
d200330 d200330 1e2d;d400302 d400302 135;d40030c d40030c 1f0;d600301 d600301 1e31;
d60030c d60030c 1e9;d600323 d600323 1e33;d600327 d600327 137;d600331 d600331 1e35;
d800301 d800301 13a;d80030c d80030c 13e;d800323 d800323 1e37;d800327 d800327 13c;
d80032d d80032d 1e3d;d800331 d800331 1e3b;da00301 da00301 1e3f;da00307 da00307 1e41;
da00323 da00323 1e43;dc00300 dc00300 1f9;dc00301 dc00301 144;dc00303 dc00303 f1;
dc00307 dc00307 1e45;dc0030c dc0030c 148;dc00323 dc00323 1e47;dc00327 dc00327 146;
dc0032d dc0032d 1e4b;dc00331 dc00331 1e49;de00300 de00300 f2;de00301 de00301 f3;
de00302 de00302 f4;de00303 de00303 f5;de00304 de00304 14d;de00306 de00306 14f;de00307 de00307 22f;
de00308 de00308 f6;de00309 de00309 1ecf;de0030b de0030b 151;de0030c de0030c 1d2;
de0030f de0030f 20d;de00311 de00311 20f;de0031b de0031b 1a1;de00323 de00323 1ecd;
de00328 de00328 1eb;e000301 e000301 1e55;e000307 e000307 1e57;e400301 e400301 155;
e400307 e400307 1e59;e40030c e40030c 159;e40030f e40030f 211;e400311 e400311 213;
e400323 e400323 1e5b;e400327 e400327 157;e400331 e400331 1e5f;e600301 e600301 15b;
e600302 e600302 15d;e600307 e600307 1e61;e60030c e60030c 161;e600323 e600323 1e63;
e600326 e600326 219;e600327 e600327 15f;e800307 e800307 1e6b;e800308 e800308 1e97;
e80030c e80030c 165;e800323 e800323 1e6d;e800326 e800326 21b;e800327 e800327 163;
e80032d e80032d 1e71;e800331 e800331 1e6f;ea00300 ea00300 f9;ea00301 ea00301 fa;
ea00302 ea00302 fb;ea00303 ea00303 169;ea00304 ea00304 16b;ea00306 ea00306 16d;ea00308 ea00308 fc;
ea00309 ea00309 1ee7;ea0030a ea0030a 16f;ea0030b ea0030b 171;ea0030c ea0030c 1d4;
ea0030f ea0030f 215;ea00311 ea00311 217;ea0031b ea0031b 1b0;ea00323 ea00323 1ee5;
ea00324 ea00324 1e73;ea00328 ea00328 173;ea0032d ea0032d 1e77;ea00330 ea00330 1e75;
ec00303 ec00303 1e7d;ec00323 ec00323 1e7f;ee00300 ee00300 1e81;ee00301 ee00301 1e83;
ee00302 ee00302 175;ee00307 ee00307 1e87;ee00308 ee00308 1e85;ee0030a ee0030a 1e98;
ee00323 ee00323 1e89;f000307 f000307 1e8b;f000308 f000308 1e8d;f200300 f200300 1ef3;
f200301 f200301 fd;f200302 f200302 177;f200303 f200303 1ef9;f200304 f200304 233;
f200307 f200307 1e8f;f200308 f200308 ff;f200309 f200309 1ef7;f20030a f20030a 1e99;
f200323 f200323 1ef5;f400301 f400301 17a;f400302 f400302 1e91;f400307 f400307 17c;
f40030c f40030c 17e;f400323 f400323 1e93;f400331 f400331 1e95;15000300 15000300 1fed;
15000301 15000301 385;15000342 15000342 1fc1;18400300 18400300 1ea6;18400301 18400301 1ea4;
18400303 18400303 1eaa;18400309 18400309 1ea8;18800304 18800304 1de;18a00301 18a00301 1fa;
18c00301 18c00301 1fc;18c00304 18c00304 1e2;18e00301 18e00301 1e08;19400300 19400300 1ec0;
19400301 19400301 1ebe;19400303 19400303 1ec4;19400309 19400309 1ec2;19e00301 19e00301 1e2e;
1a800300 1a800300 1ed2;1a800301 1a800301 1ed0;1a800303 1a800303 1ed6;1a800309 1a800309 1ed4;
1aa00301 1aa00301 1e4c;1aa00304 1aa00304 22c;1aa00308 1aa00308 1e4e;1ac00304 1ac00304 22a;
1b000301 1b000301 1fe;1b800300 1b800300 1db;1b800301 1b800301 1d7;1b800304 1b800304 1d5;
1b80030c 1b80030c 1d9;1c400300 1c400300 1ea7;1c400301 1c400301 1ea5;1c400303 1c400303 1eab;
1c400309 1c400309 1ea9;1c800304 1c800304 1df;1ca00301 1ca00301 1fb;1cc00301 1cc00301 1fd;
1cc00304 1cc00304 1e3;1ce00301 1ce00301 1e09;1d400300 1d400300 1ec1;1d400301 1d400301 1ebf;
1d400303 1d400303 1ec5;1d400309 1d400309 1ec3;1de00301 1de00301 1e2f;1e800300 1e800300 1ed3;
1e800301 1e800301 1ed1;1e800303 1e800303 1ed7;1e800309 1e800309 1ed5;1ea00301 1ea00301 1e4d;
1ea00304 1ea00304 22d;1ea00308 1ea00308 1e4f;1ec00304 1ec00304 22b;1f000301 1f000301 1ff;
1f800300 1f800300 1dc;1f800301 1f800301 1d8;1f800304 1f800304 1d6;1f80030c 1f80030c 1da;
20400300 20400300 1eb0;20400301 20400301 1eae;20400303 20400303 1eb4;20400309 20400309 1eb2;
20600300 20600300 1eb1;20600301 20600301 1eaf;20600303 20600303 1eb5;20600309 20600309 1eb3;
22400300 22400300 1e14;22400301 22400301 1e16;22600300 22600300 1e15;22600301 22600301 1e17;
29800300 29800300 1e50;29800301 29800301 1e52;29a00300 29a00300 1e51;29a00301 29a00301 1e53;
2b400307 2b400307 1e64;2b600307 2b600307 1e65;2c000307 2c000307 1e66;2c200307 2c200307 1e67;
2d000301 2d000301 1e78;2d200301 2d200301 1e79;2d400308 2d400308 1e7a;2d600308 2d600308 1e7b;
2fe00307 2fe00307 1e9b;34000300 34000300 1edc;34000301 34000301 1eda;34000303 34000303 1ee0;
34000309 34000309 1ede;34000323 34000323 1ee2;34200300 34200300 1edd;34200301 34200301 1edb;
34200303 34200303 1ee1;34200309 34200309 1edf;34200323 34200323 1ee3;35e00300 35e00300 1eea;
35e00301 35e00301 1ee8;35e00303 35e00303 1eee;35e00309 35e00309 1eec;35e00323 35e00323 1ef0;
36000300 36000300 1eeb;36000301 36000301 1ee9;36000303 36000303 1eef;36000309 36000309 1eed;
36000323 36000323 1ef1;36e0030c 36e0030c 1ee;3d400304 3d400304 1ec;3d600304 3d600304 1ed;
44c00304 44c00304 1e0;44e00304 44e00304 1e1;45000306 45000306 1e1c;45200306 45200306 1e1d;
45c00304 45c00304 230;45e00304 45e00304 231;5240030c 5240030c 1ef;72200300 72200300 1fba;
72200301 72200301 386;72200304 72200304 1fb9;72200306 72200306 1fb8;72200313 72200313 1f08;
72200314 72200314 1f09;72200345 72200345 1fbc;72a00300 72a00300 1fc8;72a00301 72a00301 388;
72a00313 72a00313 1f18;72a00314 72a00314 1f19;72e00300 72e00300 1fca;72e00301 72e00301 389;
72e00313 72e00313 1f28;72e00314 72e00314 1f29;72e00345 72e00345 1fcc;73200300 73200300 1fda;
73200301 73200301 38a;73200304 73200304 1fd9;73200306 73200306 1fd8;73200308 73200308 3aa;
73200313 73200313 1f38;73200314 73200314 1f39;73e00300 73e00300 1ff8;73e00301 73e00301 38c;
73e00313 73e00313 1f48;73e00314 73e00314 1f49;74200314 74200314 1fec;74a00300 74a00300 1fea;
74a00301 74a00301 38e;74a00304 74a00304 1fe9;74a00306 74a00306 1fe8;74a00308 74a00308 3ab;
74a00314 74a00314 1f59;75200300 75200300 1ffa;75200301 75200301 38f;75200313 75200313 1f68;
75200314 75200314 1f69;75200345 75200345 1ffc;75800345 75800345 1fb4;75c00345 75c00345 1fc4;
76200300 76200300 1f70;76200301 76200301 3ac;76200304 76200304 1fb1;76200306 76200306 1fb0;
76200313 76200313 1f00;76200314 76200314 1f01;76200342 76200342 1fb6;76200345 76200345 1fb3;
76a00300 76a00300 1f72;76a00301 76a00301 3ad;76a00313 76a00313 1f10;76a00314 76a00314 1f11;
76e00300 76e00300 1f74;76e00301 76e00301 3ae;76e00313 76e00313 1f20;76e00314 76e00314 1f21;
76e00342 76e00342 1fc6;76e00345 76e00345 1fc3;77200300 77200300 1f76;77200301 77200301 3af;
77200304 77200304 1fd1;77200306 77200306 1fd0;77200308 77200308 3ca;77200313 77200313 1f30;
77200314 77200314 1f31;77200342 77200342 1fd6;77e00300 77e00300 1f78;77e00301 77e00301 3cc;
77e00313 77e00313 1f40;77e00314 77e00314 1f41;78200313 78200313 1fe4;78200314 78200314 1fe5;
78a00300 78a00300 1f7a;78a00301 78a00301 3cd;78a00304 78a00304 1fe1;78a00306 78a00306 1fe0;
78a00308 78a00308 3cb;78a00313 78a00313 1f50;78a00314 78a00314 1f51;78a00342 78a00342 1fe6;
79200300 79200300 1f7c;79200301 79200301 3ce;79200313 79200313 1f60;79200314 79200314 1f61;
79200342 79200342 1ff6;79200345 79200345 1ff3;79400300 79400300 1fd2;79400301 79400301 390;
79400342 79400342 1fd7;79600300 79600300 1fe2;79600301 79600301 3b0;79600342 79600342 1fe7;
79c00345 79c00345 1ff4;7a400301 7a400301 3d3;7a400308 7a400308 3d4;80c00308 80c00308 407;
82000306 82000306 4d0;82000308 82000308 4d2;82600301 82600301 403;82a00300 82a00300 400;
82a00306 82a00306 4d6;82a00308 82a00308 401;82c00306 82c00306 4c1;82c00308 82c00308 4dc;
82e00308 82e00308 4de;83000300 83000300 40d;83000304 83000304 4e2;83000306 83000306 419;
83000308 83000308 4e4;83400301 83400301 40c;83c00308 83c00308 4e6;84600304 84600304 4ee;
84600306 84600306 40e;84600308 84600308 4f0;8460030b 8460030b 4f2;84e00308 84e00308 4f4;
85600308 85600308 4f8;85a00308 85a00308 4ec;86000306 86000306 4d1;86000308 86000308 4d3;
86600301 86600301 453;86a00300 86a00300 450;86a00306 86a00306 4d7;86a00308 86a00308 451;
86c00306 86c00306 4c2;86c00308 86c00308 4dd;86e00308 86e00308 4df;87000300 87000300 45d;
87000304 87000304 4e3;87000306 87000306 439;87000308 87000308 4e5;87400301 87400301 45c;
87c00308 87c00308 4e7;88600304 88600304 4ef;88600306 88600306 45e;88600308 88600308 4f1;
8860030b 8860030b 4f3;88e00308 88e00308 4f5;89600308 89600308 4f9;89a00308 89a00308 4ed;
8ac00308 8ac00308 457;8e80030f 8e80030f 476;8ea0030f 8ea0030f 477;9b000308 9b000308 4da;
9b200308 9b200308 4db;9d000308 9d000308 4ea;9d200308 9d200308 4eb;c4e00653 c4e00653 622;
c4e00654 c4e00654 623;c4e00655 c4e00655 625;c9000654 c9000654 624;c9400654 c9400654 626;
d8200654 d8200654 6c2;da400654 da400654 6d3;daa00654 daa00654 6c0;12500093c 12500093c 929;
12600093c 12600093c 931;12660093c 12660093c 934;138e009be 138e009be 9cb;138e009d7 138e009d7 9cc;
168e00b3e 168e00b3e b4b;168e00b56 168e00b56 b48;168e00b57 168e00b57 b4c;172400bd7 172400bd7 b94;
178c00bbe 178c00bbe bca;178c00bd7 178c00bd7 bcc;178e00bbe 178e00bbe bcb;188c00c56 188c00c56 c48;
197e00cd5 197e00cd5 cc0;198c00cc2 198c00cc2 cca;198c00cd5 198c00cd5 cc7;198c00cd6 198c00cd6 cc8;
199400cd5 199400cd5 ccb;1a8c00d3e 1a8c00d3e d4a;1a8c00d57 1a8c00d57 d4c;1a8e00d3e 1a8e00d3e d4b;
1bb200dca 1bb200dca dda;1bb200dcf 1bb200dcf ddc;1bb200ddf 1bb200ddf dde;1bb800dca 1bb800dca ddd;
204a0102e 204a0102e 1026;360a01b35 360a01b35 1b06;360e01b35 360e01b35 1b08;
361201b35 361201b35 1b0a;361601b35 361601b35 1b0c;361a01b35 361a01b35 1b0e;
362201b35 362201b35 1b12;367401b35 367401b35 1b3b;367801b35 367801b35 1b3d;
367c01b35 367c01b35 1b40;367e01b35 367e01b35 1b41;368401b35 368401b35 1b43;
3c6c00304 3c6c00304 1e38;3c6e00304 3c6e00304 1e39;3cb400304 3cb400304 1e5c;
3cb600304 3cb600304 1e5d;3cc400307 3cc400307 1e68;3cc600307 3cc600307 1e69;
3d4000302 3d4000302 1eac;3d4000306 3d4000306 1eb6;3d4200302 3d4200302 1ead;
3d4200306 3d4200306 1eb7;3d7000302 3d7000302 1ec6;3d7200302 3d7200302 1ec7;
3d9800302 3d9800302 1ed8;3d9a00302 3d9a00302 1ed9;3e0000300 3e0000300 1f02;
3e0000301 3e0000301 1f04;3e0000342 3e0000342 1f06;3e0000345 3e0000345 1f80;
3e0200300 3e0200300 1f03;3e0200301 3e0200301 1f05;3e0200342 3e0200342 1f07;
3e0200345 3e0200345 1f81;3e0400345 3e0400345 1f82;3e0600345 3e0600345 1f83;
3e0800345 3e0800345 1f84;3e0a00345 3e0a00345 1f85;3e0c00345 3e0c00345 1f86;
3e0e00345 3e0e00345 1f87;3e1000300 3e1000300 1f0a;3e1000301 3e1000301 1f0c;
3e1000342 3e1000342 1f0e;3e1000345 3e1000345 1f88;3e1200300 3e1200300 1f0b;
3e1200301 3e1200301 1f0d;3e1200342 3e1200342 1f0f;3e1200345 3e1200345 1f89;
3e1400345 3e1400345 1f8a;3e1600345 3e1600345 1f8b;3e1800345 3e1800345 1f8c;
3e1a00345 3e1a00345 1f8d;3e1c00345 3e1c00345 1f8e;3e1e00345 3e1e00345 1f8f;
3e2000300 3e2000300 1f12;3e2000301 3e2000301 1f14;3e2200300 3e2200300 1f13;
3e2200301 3e2200301 1f15;3e3000300 3e3000300 1f1a;3e3000301 3e3000301 1f1c;
3e3200300 3e3200300 1f1b;3e3200301 3e3200301 1f1d;3e4000300 3e4000300 1f22;
3e4000301 3e4000301 1f24;3e4000342 3e4000342 1f26;3e4000345 3e4000345 1f90;
3e4200300 3e4200300 1f23;3e4200301 3e4200301 1f25;3e4200342 3e4200342 1f27;
3e4200345 3e4200345 1f91;3e4400345 3e4400345 1f92;3e4600345 3e4600345 1f93;
3e4800345 3e4800345 1f94;3e4a00345 3e4a00345 1f95;3e4c00345 3e4c00345 1f96;
3e4e00345 3e4e00345 1f97;3e5000300 3e5000300 1f2a;3e5000301 3e5000301 1f2c;
3e5000342 3e5000342 1f2e;3e5000345 3e5000345 1f98;3e5200300 3e5200300 1f2b;
3e5200301 3e5200301 1f2d;3e5200342 3e5200342 1f2f;3e5200345 3e5200345 1f99;
3e5400345 3e5400345 1f9a;3e5600345 3e5600345 1f9b;3e5800345 3e5800345 1f9c;
3e5a00345 3e5a00345 1f9d;3e5c00345 3e5c00345 1f9e;3e5e00345 3e5e00345 1f9f;
3e6000300 3e6000300 1f32;3e6000301 3e6000301 1f34;3e6000342 3e6000342 1f36;
3e6200300 3e6200300 1f33;3e6200301 3e6200301 1f35;3e6200342 3e6200342 1f37;
3e7000300 3e7000300 1f3a;3e7000301 3e7000301 1f3c;3e7000342 3e7000342 1f3e;
3e7200300 3e7200300 1f3b;3e7200301 3e7200301 1f3d;3e7200342 3e7200342 1f3f;
3e8000300 3e8000300 1f42;3e8000301 3e8000301 1f44;3e8200300 3e8200300 1f43;
3e8200301 3e8200301 1f45;3e9000300 3e9000300 1f4a;3e9000301 3e9000301 1f4c;
3e9200300 3e9200300 1f4b;3e9200301 3e9200301 1f4d;3ea000300 3ea000300 1f52;
3ea000301 3ea000301 1f54;3ea000342 3ea000342 1f56;3ea200300 3ea200300 1f53;
3ea200301 3ea200301 1f55;3ea200342 3ea200342 1f57;3eb200300 3eb200300 1f5b;
3eb200301 3eb200301 1f5d;3eb200342 3eb200342 1f5f;3ec000300 3ec000300 1f62;
3ec000301 3ec000301 1f64;3ec000342 3ec000342 1f66;3ec000345 3ec000345 1fa0;
3ec200300 3ec200300 1f63;3ec200301 3ec200301 1f65;3ec200342 3ec200342 1f67;
3ec200345 3ec200345 1fa1;3ec400345 3ec400345 1fa2;3ec600345 3ec600345 1fa3;
3ec800345 3ec800345 1fa4;3eca00345 3eca00345 1fa5;3ecc00345 3ecc00345 1fa6;
3ece00345 3ece00345 1fa7;3ed000300 3ed000300 1f6a;3ed000301 3ed000301 1f6c;
3ed000342 3ed000342 1f6e;3ed000345 3ed000345 1fa8;3ed200300 3ed200300 1f6b;
3ed200301 3ed200301 1f6d;3ed200342 3ed200342 1f6f;3ed200345 3ed200345 1fa9;
3ed400345 3ed400345 1faa;3ed600345 3ed600345 1fab;3ed800345 3ed800345 1fac;
3eda00345 3eda00345 1fad;3edc00345 3edc00345 1fae;3ede00345 3ede00345 1faf;
3ee000345 3ee000345 1fb2;3ee800345 3ee800345 1fc2;3ef800345 3ef800345 1ff2;
3f6c00345 3f6c00345 1fb7;3f7e00300 3f7e00300 1fcd;3f7e00301 3f7e00301 1fce;
3f7e00342 3f7e00342 1fcf;3f8c00345 3f8c00345 1fc7;3fec00345 3fec00345 1ff7;
3ffc00300 3ffc00300 1fdd;3ffc00301 3ffc00301 1fde;3ffc00342 3ffc00342 1fdf;
432000338 432000338 219a;432400338 432400338 219b;432800338 432800338 21ae;
43a000338 43a000338 21cd;43a400338 43a400338 21cf;43a800338 43a800338 21ce;
440600338 440600338 2204;441000338 441000338 2209;441600338 441600338 220c;
444600338 444600338 2224;444a00338 444a00338 2226;447800338 447800338 2241;
448600338 448600338 2244;448a00338 448a00338 2247;449000338 449000338 2249;
449a00338 449a00338 226d;44c200338 44c200338 2262;44c800338 44c800338 2270;
44ca00338 44ca00338 2271;44e400338 44e400338 2274;44e600338 44e600338 2275;
44ec00338 44ec00338 2278;44ee00338 44ee00338 2279;44f400338 44f400338 2280;
44f600338 44f600338 2281;44f800338 44f800338 22e0;44fa00338 44fa00338 22e1;
450400338 450400338 2284;450600338 450600338 2285;450c00338 450c00338 2288;
450e00338 450e00338 2289;452200338 452200338 22e2;452400338 452400338 22e3;
454400338 454400338 22ac;455000338 455000338 22ad;455200338 455200338 22ae;
455600338 455600338 22af;456400338 456400338 22ea;456600338 456600338 22eb;
456800338 456800338 22ec;456a00338 456a00338 22ed;608c03099 608c03099 3094;
609603099 609603099 304c;609a03099 609a03099 304e;609e03099 609e03099 3050;
60a203099 60a203099 3052;60a603099 60a603099 3054;60aa03099 60aa03099 3056;
60ae03099 60ae03099 3058;60b203099 60b203099 305a;60b603099 60b603099 305c;
60ba03099 60ba03099 305e;60be03099 60be03099 3060;60c203099 60c203099 3062;
60c803099 60c803099 3065;60cc03099 60cc03099 3067;60d003099 60d003099 3069;
60de03099 60de03099 3070;60de0309a 60de0309a 3071;60e403099 60e403099 3073;
60e40309a 60e40309a 3074;60ea03099 60ea03099 3076;60ea0309a 60ea0309a 3077;
60f003099 60f003099 3079;60f00309a 60f00309a 307a;60f603099 60f603099 307c;
60f60309a 60f60309a 307d;613a03099 613a03099 309e;614c03099 614c03099 30f4;
615603099 615603099 30ac;615a03099 615a03099 30ae;615e03099 615e03099 30b0;
616203099 616203099 30b2;616603099 616603099 30b4;616a03099 616a03099 30b6;
616e03099 616e03099 30b8;617203099 617203099 30ba;617603099 617603099 30bc;
617a03099 617a03099 30be;617e03099 617e03099 30c0;618203099 618203099 30c2;
618803099 618803099 30c5;618c03099 618c03099 30c7;619003099 619003099 30c9;
619e03099 619e03099 30d0;619e0309a 619e0309a 30d1;61a403099 61a403099 30d3;
61a40309a 61a40309a 30d4;61aa03099 61aa03099 30d6;61aa0309a 61aa0309a 30d7;
61b003099 61b003099 30d9;61b00309a 61b00309a 30da;61b603099 61b603099 30dc;
61b60309a 61b60309a 30dd;61de03099 61de03099 30f7;61e003099 61e003099 30f8;
61e203099 61e203099 30f9;61e403099 61e403099 30fa;61fa03099 61fa03099 30fe;
22132110ba 22132110ba 1109a;22136110ba 22136110ba 1109c;2214a110ba 2214a110ba 110ab;
2226211127 2226211127 1112e;2226411127 2226411127 1112f;2268e1133e 2268e1133e 1134b;
2268e11357 2268e11357 1134c;22972114b0 22972114b0 114bc;22972114ba 22972114ba 114bb;
22972114bd 22972114bd 114be;22b70115af 22b70115af 115ba;22b72115af 22b72115af 115bb;
2326a11930 2326a11930 11938;"

/-- The ranges of combining classes. -/
def combiningRanges : Rows := Rows.ofText combiningText

/-- The composed characters. -/
def composites : Rows := Rows.ofText compositeText

/-- The pairs that compose a character. -/
def compositionPairs : Rows := Rows.ofText pairText

end ApprovalWatch.Unicode
