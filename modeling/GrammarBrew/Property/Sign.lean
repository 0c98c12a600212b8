/-!
Properties of punctuation, marks and signs by Unicode 16, each as ascending disjoint runs of code
points.
-/

set_option autoImplicit false
set_option relaxedAutoImplicit false

namespace GrammarBrew.Property

def directionControlRuns : List (Nat × Nat) := [
  (0x061c, 0x061c), (0x200e, 0x200f), (0x202a, 0x202e), (0x2066, 0x2069)
]

/-- The runs of characters that are mirrored in text from right to left. -/
def mirroredRuns : List (Nat × Nat) := [
  (0x0028, 0x0029), (0x003c, 0x003c), (0x003e, 0x003e), (0x005b, 0x005b), (0x005d, 0x005d),
  (0x007b, 0x007b), (0x007d, 0x007d), (0x00ab, 0x00ab), (0x00bb, 0x00bb), (0x0f3a, 0x0f3d),
  (0x169b, 0x169c), (0x2039, 0x203a), (0x2045, 0x2046), (0x207d, 0x207e), (0x208d, 0x208e),
  (0x2140, 0x2140), (0x2201, 0x2204), (0x2208, 0x220d), (0x2211, 0x2211), (0x2215, 0x2216),
  (0x221a, 0x221d), (0x221f, 0x2222), (0x2224, 0x2224), (0x2226, 0x2226), (0x222b, 0x2233),
  (0x2239, 0x2239), (0x223b, 0x224c), (0x2252, 0x2255), (0x225f, 0x2260), (0x2262, 0x2262),
  (0x2264, 0x226b), (0x226d, 0x228c), (0x228f, 0x2292), (0x2298, 0x2298), (0x22a2, 0x22a3),
  (0x22a6, 0x22b8), (0x22be, 0x22bf), (0x22c9, 0x22cd), (0x22d0, 0x22d1), (0x22d6, 0x22ed),
  (0x22f0, 0x22ff), (0x2308, 0x230b), (0x2320, 0x2321), (0x2329, 0x232a), (0x2768, 0x2775),
  (0x27c0, 0x27c0), (0x27c3, 0x27c6), (0x27c8, 0x27c9), (0x27cb, 0x27cd), (0x27d3, 0x27d6),
  (0x27dc, 0x27de), (0x27e2, 0x27ef), (0x2983, 0x2998), (0x299b, 0x29a0), (0x29a2, 0x29af),
  (0x29b8, 0x29b8), (0x29c0, 0x29c5), (0x29c9, 0x29c9), (0x29ce, 0x29d2), (0x29d4, 0x29d5),
  (0x29d8, 0x29dc), (0x29e1, 0x29e1), (0x29e3, 0x29e5), (0x29e8, 0x29e9), (0x29f4, 0x29f9),
  (0x29fc, 0x29fd), (0x2a0a, 0x2a1c), (0x2a1e, 0x2a21), (0x2a24, 0x2a24), (0x2a26, 0x2a26),
  (0x2a29, 0x2a29), (0x2a2b, 0x2a2e), (0x2a34, 0x2a35), (0x2a3c, 0x2a3e), (0x2a57, 0x2a58),
  (0x2a64, 0x2a65), (0x2a6a, 0x2a6d), (0x2a6f, 0x2a70), (0x2a73, 0x2a74), (0x2a79, 0x2aa3),
  (0x2aa6, 0x2aad), (0x2aaf, 0x2ad6), (0x2adc, 0x2adc), (0x2ade, 0x2ade), (0x2ae2, 0x2ae6),
  (0x2aec, 0x2aee), (0x2af3, 0x2af3), (0x2af7, 0x2afb), (0x2afd, 0x2afd), (0x2bfe, 0x2bfe),
  (0x2e02, 0x2e05), (0x2e09, 0x2e0a), (0x2e0c, 0x2e0d), (0x2e1c, 0x2e1d), (0x2e20, 0x2e29),
  (0x2e55, 0x2e5c), (0x3008, 0x3011), (0x3014, 0x301b), (0xfe59, 0xfe5e), (0xfe64, 0xfe65),
  (0xff08, 0xff09), (0xff1c, 0xff1c), (0xff1e, 0xff1e), (0xff3b, 0xff3b), (0xff3d, 0xff3d),
  (0xff5b, 0xff5b), (0xff5d, 0xff5d), (0xff5f, 0xff60), (0xff62, 0xff63), (0x1d6db, 0x1d6db),
  (0x1d715, 0x1d715), (0x1d74f, 0x1d74f), (0x1d789, 0x1d789), (0x1d7c3, 0x1d7c3)
]

def dashRuns : List (Nat × Nat) := [
  (0x002d, 0x002d), (0x058a, 0x058a), (0x05be, 0x05be), (0x1400, 0x1400), (0x1806, 0x1806),
  (0x2010, 0x2015), (0x2053, 0x2053), (0x207b, 0x207b), (0x208b, 0x208b), (0x2212, 0x2212),
  (0x2e17, 0x2e17), (0x2e1a, 0x2e1a), (0x2e3a, 0x2e3b), (0x2e40, 0x2e40), (0x2e5d, 0x2e5d),
  (0x301c, 0x301c), (0x3030, 0x3030), (0x30a0, 0x30a0), (0xfe31, 0xfe32), (0xfe58, 0xfe58),
  (0xfe63, 0xfe63), (0xff0d, 0xff0d), (0x10d6e, 0x10d6e), (0x10ead, 0x10ead)
]

def hyphenRuns : List (Nat × Nat) := [
  (0x002d, 0x002d), (0x00ad, 0x00ad), (0x058a, 0x058a), (0x1806, 0x1806), (0x2010, 0x2011),
  (0x2e17, 0x2e17), (0x30fb, 0x30fb), (0xfe63, 0xfe63), (0xff0d, 0xff0d), (0xff65, 0xff65)
]

def quotationMarkRuns : List (Nat × Nat) := [
  (0x0022, 0x0022), (0x0027, 0x0027), (0x00ab, 0x00ab), (0x00bb, 0x00bb), (0x2018, 0x201f),
  (0x2039, 0x203a), (0x2e42, 0x2e42), (0x300c, 0x300f), (0x301d, 0x301f), (0xfe41, 0xfe44),
  (0xff02, 0xff02), (0xff07, 0xff07), (0xff62, 0xff63)
]

/-- The runs of punctuation that ends a part of a sentence. -/
def terminalRuns : List (Nat × Nat) := [
  (0x0021, 0x0021), (0x002c, 0x002c), (0x002e, 0x002e), (0x003a, 0x003b), (0x003f, 0x003f),
  (0x037e, 0x037e), (0x0387, 0x0387), (0x0589, 0x0589), (0x05c3, 0x05c3), (0x060c, 0x060c),
  (0x061b, 0x061b), (0x061d, 0x061f), (0x06d4, 0x06d4), (0x0700, 0x070a), (0x070c, 0x070c),
  (0x07f8, 0x07f9), (0x0830, 0x0835), (0x0837, 0x083e), (0x085e, 0x085e), (0x0964, 0x0965),
  (0x0e5a, 0x0e5b), (0x0f08, 0x0f08), (0x0f0d, 0x0f12), (0x104a, 0x104b), (0x1361, 0x1368),
  (0x166e, 0x166e), (0x16eb, 0x16ed), (0x1735, 0x1736), (0x17d4, 0x17d6), (0x17da, 0x17da),
  (0x1802, 0x1805), (0x1808, 0x1809), (0x1944, 0x1945), (0x1aa8, 0x1aab), (0x1b4e, 0x1b4f),
  (0x1b5a, 0x1b5b), (0x1b5d, 0x1b5f), (0x1b7d, 0x1b7f), (0x1c3b, 0x1c3f), (0x1c7e, 0x1c7f),
  (0x2024, 0x2024), (0x203c, 0x203d), (0x2047, 0x2049), (0x2cf9, 0x2cfb), (0x2e2e, 0x2e2e),
  (0x2e3c, 0x2e3c), (0x2e41, 0x2e41), (0x2e4c, 0x2e4c), (0x2e4e, 0x2e4f), (0x2e53, 0x2e54),
  (0x3001, 0x3002), (0xa4fe, 0xa4ff), (0xa60d, 0xa60f), (0xa6f3, 0xa6f7), (0xa876, 0xa877),
  (0xa8ce, 0xa8cf), (0xa92f, 0xa92f), (0xa9c7, 0xa9c9), (0xaa5d, 0xaa5f), (0xaadf, 0xaadf),
  (0xaaf0, 0xaaf1), (0xabeb, 0xabeb), (0xfe12, 0xfe12), (0xfe15, 0xfe16), (0xfe50, 0xfe52),
  (0xfe54, 0xfe57), (0xff01, 0xff01), (0xff0c, 0xff0c), (0xff0e, 0xff0e), (0xff1a, 0xff1b),
  (0xff1f, 0xff1f), (0xff61, 0xff61), (0xff64, 0xff64), (0x1039f, 0x1039f), (0x103d0, 0x103d0),
  (0x10857, 0x10857), (0x1091f, 0x1091f), (0x10a56, 0x10a57), (0x10af0, 0x10af5),
  (0x10b3a, 0x10b3f), (0x10b99, 0x10b9c), (0x10f55, 0x10f59), (0x10f86, 0x10f89),
  (0x11047, 0x1104d), (0x110be, 0x110c1), (0x11141, 0x11143), (0x111c5, 0x111c6),
  (0x111cd, 0x111cd), (0x111de, 0x111df), (0x11238, 0x1123c), (0x112a9, 0x112a9),
  (0x113d4, 0x113d5), (0x1144b, 0x1144d), (0x1145a, 0x1145b), (0x115c2, 0x115c5),
  (0x115c9, 0x115d7), (0x11641, 0x11642), (0x1173c, 0x1173e), (0x11944, 0x11944),
  (0x11946, 0x11946), (0x11a42, 0x11a43), (0x11a9b, 0x11a9c), (0x11aa1, 0x11aa2),
  (0x11c41, 0x11c43), (0x11c71, 0x11c71), (0x11ef7, 0x11ef8), (0x11f43, 0x11f44),
  (0x12470, 0x12474), (0x16a6e, 0x16a6f), (0x16af5, 0x16af5), (0x16b37, 0x16b39),
  (0x16b44, 0x16b44), (0x16d6e, 0x16d6f), (0x16e97, 0x16e98), (0x1bc9f, 0x1bc9f), (0x1da87, 0x1da8a)
]

def sentenceTerminalRuns : List (Nat × Nat) := [
  (0x0021, 0x0021), (0x002e, 0x002e), (0x003f, 0x003f), (0x0589, 0x0589), (0x061d, 0x061f),
  (0x06d4, 0x06d4), (0x0700, 0x0702), (0x07f9, 0x07f9), (0x0837, 0x0837), (0x0839, 0x0839),
  (0x083d, 0x083e), (0x0964, 0x0965), (0x104a, 0x104b), (0x1362, 0x1362), (0x1367, 0x1368),
  (0x166e, 0x166e), (0x1735, 0x1736), (0x17d4, 0x17d5), (0x1803, 0x1803), (0x1809, 0x1809),
  (0x1944, 0x1945), (0x1aa8, 0x1aab), (0x1b4e, 0x1b4f), (0x1b5a, 0x1b5b), (0x1b5e, 0x1b5f),
  (0x1b7d, 0x1b7f), (0x1c3b, 0x1c3c), (0x1c7e, 0x1c7f), (0x2024, 0x2024), (0x203c, 0x203d),
  (0x2047, 0x2049), (0x2cf9, 0x2cfb), (0x2e2e, 0x2e2e), (0x2e3c, 0x2e3c), (0x2e53, 0x2e54),
  (0x3002, 0x3002), (0xa4ff, 0xa4ff), (0xa60e, 0xa60f), (0xa6f3, 0xa6f3), (0xa6f7, 0xa6f7),
  (0xa876, 0xa877), (0xa8ce, 0xa8cf), (0xa92f, 0xa92f), (0xa9c8, 0xa9c9), (0xaa5d, 0xaa5f),
  (0xaaf0, 0xaaf1), (0xabeb, 0xabeb), (0xfe12, 0xfe12), (0xfe15, 0xfe16), (0xfe52, 0xfe52),
  (0xfe56, 0xfe57), (0xff01, 0xff01), (0xff0e, 0xff0e), (0xff1f, 0xff1f), (0xff61, 0xff61),
  (0x10a56, 0x10a57), (0x10f55, 0x10f59), (0x10f86, 0x10f89), (0x11047, 0x11048),
  (0x110be, 0x110c1), (0x11141, 0x11143), (0x111c5, 0x111c6), (0x111cd, 0x111cd),
  (0x111de, 0x111df), (0x11238, 0x11239), (0x1123b, 0x1123c), (0x112a9, 0x112a9),
  (0x113d4, 0x113d5), (0x1144b, 0x1144c), (0x115c2, 0x115c3), (0x115c9, 0x115d7),
  (0x11641, 0x11642), (0x1173c, 0x1173e), (0x11944, 0x11944), (0x11946, 0x11946),
  (0x11a42, 0x11a43), (0x11a9b, 0x11a9c), (0x11c41, 0x11c42), (0x11ef7, 0x11ef8),
  (0x11f43, 0x11f44), (0x16a6e, 0x16a6f), (0x16af5, 0x16af5), (0x16b37, 0x16b38),
  (0x16b44, 0x16b44), (0x16d6e, 0x16d6f), (0x16e98, 0x16e98), (0x1bc9f, 0x1bc9f), (0x1da88, 0x1da88)
]

def diacriticRuns : List (Nat × Nat) := [
  (0x005e, 0x005e), (0x0060, 0x0060), (0x00a8, 0x00a8), (0x00af, 0x00af), (0x00b4, 0x00b4),
  (0x00b7, 0x00b8), (0x02b0, 0x034e), (0x0350, 0x0357), (0x035d, 0x0362), (0x0374, 0x0375),
  (0x037a, 0x037a), (0x0384, 0x0385), (0x0483, 0x0487), (0x0559, 0x0559), (0x0591, 0x05bd),
  (0x05bf, 0x05bf), (0x05c1, 0x05c2), (0x05c4, 0x05c5), (0x05c7, 0x05c7), (0x064b, 0x0652),
  (0x0657, 0x0658), (0x06df, 0x06e0), (0x06e5, 0x06e6), (0x06ea, 0x06ec), (0x0730, 0x074a),
  (0x07a6, 0x07b0), (0x07eb, 0x07f5), (0x0818, 0x0819), (0x0898, 0x089f), (0x08c9, 0x08d2),
  (0x08e3, 0x08fe), (0x093c, 0x093c), (0x094d, 0x094d), (0x0951, 0x0954), (0x0971, 0x0971),
  (0x09bc, 0x09bc), (0x09cd, 0x09cd), (0x0a3c, 0x0a3c), (0x0a4d, 0x0a4d), (0x0abc, 0x0abc),
  (0x0acd, 0x0acd), (0x0afd, 0x0aff), (0x0b3c, 0x0b3c), (0x0b4d, 0x0b4d), (0x0b55, 0x0b55),
  (0x0bcd, 0x0bcd), (0x0c3c, 0x0c3c), (0x0c4d, 0x0c4d), (0x0cbc, 0x0cbc), (0x0ccd, 0x0ccd),
  (0x0d3b, 0x0d3c), (0x0d4d, 0x0d4d), (0x0dca, 0x0dca), (0x0e3a, 0x0e3a), (0x0e47, 0x0e4c),
  (0x0e4e, 0x0e4e), (0x0eba, 0x0eba), (0x0ec8, 0x0ecc), (0x0f18, 0x0f19), (0x0f35, 0x0f35),
  (0x0f37, 0x0f37), (0x0f39, 0x0f39), (0x0f3e, 0x0f3f), (0x0f82, 0x0f84), (0x0f86, 0x0f87),
  (0x0fc6, 0x0fc6), (0x1037, 0x1037), (0x1039, 0x103a), (0x1063, 0x1064), (0x1069, 0x106d),
  (0x1087, 0x108d), (0x108f, 0x108f), (0x109a, 0x109b), (0x135d, 0x135f), (0x1714, 0x1715),
  (0x1734, 0x1734), (0x17c9, 0x17d3), (0x17dd, 0x17dd), (0x1939, 0x193b), (0x1a60, 0x1a60),
  (0x1a75, 0x1a7c), (0x1a7f, 0x1a7f), (0x1ab0, 0x1abe), (0x1ac1, 0x1acb), (0x1b34, 0x1b34),
  (0x1b44, 0x1b44), (0x1b6b, 0x1b73), (0x1baa, 0x1bab), (0x1be6, 0x1be6), (0x1bf2, 0x1bf3),
  (0x1c36, 0x1c37), (0x1c78, 0x1c7d), (0x1cd0, 0x1ce8), (0x1ced, 0x1ced), (0x1cf4, 0x1cf4),
  (0x1cf7, 0x1cf9), (0x1d2c, 0x1d6a), (0x1d9b, 0x1dbe), (0x1dc4, 0x1dcf), (0x1df5, 0x1dff),
  (0x1fbd, 0x1fbd), (0x1fbf, 0x1fc1), (0x1fcd, 0x1fcf), (0x1fdd, 0x1fdf), (0x1fed, 0x1fef),
  (0x1ffd, 0x1ffe), (0x2cef, 0x2cf1), (0x2e2f, 0x2e2f), (0x302a, 0x302f), (0x3099, 0x309c),
  (0x30fc, 0x30fc), (0xa66f, 0xa66f), (0xa67c, 0xa67d), (0xa67f, 0xa67f), (0xa69c, 0xa69d),
  (0xa6f0, 0xa6f1), (0xa700, 0xa721), (0xa788, 0xa78a), (0xa7f8, 0xa7f9), (0xa806, 0xa806),
  (0xa82c, 0xa82c), (0xa8c4, 0xa8c4), (0xa8e0, 0xa8f1), (0xa92b, 0xa92e), (0xa953, 0xa953),
  (0xa9b3, 0xa9b3), (0xa9c0, 0xa9c0), (0xa9e5, 0xa9e5), (0xaa7b, 0xaa7d), (0xaabf, 0xaac2),
  (0xaaf6, 0xaaf6), (0xab5b, 0xab5f), (0xab69, 0xab6b), (0xabec, 0xabed), (0xfb1e, 0xfb1e),
  (0xfe20, 0xfe2f), (0xff3e, 0xff3e), (0xff40, 0xff40), (0xff70, 0xff70), (0xff9e, 0xff9f),
  (0xffe3, 0xffe3), (0x102e0, 0x102e0), (0x10780, 0x10785), (0x10787, 0x107b0), (0x107b2, 0x107ba),
  (0x10a38, 0x10a3a), (0x10a3f, 0x10a3f), (0x10ae5, 0x10ae6), (0x10d22, 0x10d27),
  (0x10d4e, 0x10d4e), (0x10d69, 0x10d6d), (0x10efd, 0x10eff), (0x10f46, 0x10f50),
  (0x10f82, 0x10f85), (0x11046, 0x11046), (0x11070, 0x11070), (0x110b9, 0x110ba),
  (0x11133, 0x11134), (0x11173, 0x11173), (0x111c0, 0x111c0), (0x111ca, 0x111cc),
  (0x11235, 0x11236), (0x112e9, 0x112ea), (0x1133b, 0x1133c), (0x1134d, 0x1134d),
  (0x11366, 0x1136c), (0x11370, 0x11374), (0x113ce, 0x113d0), (0x113d2, 0x113d3),
  (0x113e1, 0x113e2), (0x11442, 0x11442), (0x11446, 0x11446), (0x114c2, 0x114c3),
  (0x115bf, 0x115c0), (0x1163f, 0x1163f), (0x116b6, 0x116b7), (0x1172b, 0x1172b),
  (0x11839, 0x1183a), (0x1193d, 0x1193e), (0x11943, 0x11943), (0x119e0, 0x119e0),
  (0x11a34, 0x11a34), (0x11a47, 0x11a47), (0x11a99, 0x11a99), (0x11c3f, 0x11c3f),
  (0x11d42, 0x11d42), (0x11d44, 0x11d45), (0x11d97, 0x11d97), (0x11f41, 0x11f42),
  (0x11f5a, 0x11f5a), (0x13447, 0x13455), (0x1612f, 0x1612f), (0x16af0, 0x16af4),
  (0x16b30, 0x16b36), (0x16d6b, 0x16d6c), (0x16f8f, 0x16f9f), (0x16ff0, 0x16ff1),
  (0x1aff0, 0x1aff3), (0x1aff5, 0x1affb), (0x1affd, 0x1affe), (0x1cf00, 0x1cf2d),
  (0x1cf30, 0x1cf46), (0x1d167, 0x1d169), (0x1d16d, 0x1d172), (0x1d17b, 0x1d182),
  (0x1d185, 0x1d18b), (0x1d1aa, 0x1d1ad), (0x1e030, 0x1e06d), (0x1e130, 0x1e136),
  (0x1e2ae, 0x1e2ae), (0x1e2ec, 0x1e2ef), (0x1e5ee, 0x1e5ef), (0x1e8d0, 0x1e8d6),
  (0x1e944, 0x1e946), (0x1e948, 0x1e94a)
]

/-- The runs of characters that lengthen or repeat the one before them. -/
def extenderRuns : List (Nat × Nat) := [
  (0x00b7, 0x00b7), (0x02d0, 0x02d1), (0x0640, 0x0640), (0x07fa, 0x07fa), (0x0a71, 0x0a71),
  (0x0afb, 0x0afb), (0x0b55, 0x0b55), (0x0e46, 0x0e46), (0x0ec6, 0x0ec6), (0x180a, 0x180a),
  (0x1843, 0x1843), (0x1aa7, 0x1aa7), (0x1c36, 0x1c36), (0x1c7b, 0x1c7b), (0x3005, 0x3005),
  (0x3031, 0x3035), (0x309d, 0x309e), (0x30fc, 0x30fe), (0xa015, 0xa015), (0xa60c, 0xa60c),
  (0xa9cf, 0xa9cf), (0xa9e6, 0xa9e6), (0xaa70, 0xaa70), (0xaadd, 0xaadd), (0xaaf3, 0xaaf4),
  (0xff70, 0xff70), (0x10781, 0x10782), (0x10d4e, 0x10d4e), (0x10d6a, 0x10d6a), (0x10d6f, 0x10d6f),
  (0x11237, 0x11237), (0x1135d, 0x1135d), (0x113d2, 0x113d3), (0x115c6, 0x115c8),
  (0x11a98, 0x11a98), (0x16b42, 0x16b43), (0x16fe0, 0x16fe1), (0x16fe3, 0x16fe3),
  (0x1e13c, 0x1e13d), (0x1e5ef, 0x1e5ef), (0x1e944, 0x1e946)
]

/-- The runs of characters whose dot goes when an accent comes above them. -/
def softDottedRuns : List (Nat × Nat) := [
  (0x0069, 0x006a), (0x012f, 0x012f), (0x0249, 0x0249), (0x0268, 0x0268), (0x029d, 0x029d),
  (0x02b2, 0x02b2), (0x03f3, 0x03f3), (0x0456, 0x0456), (0x0458, 0x0458), (0x1d62, 0x1d62),
  (0x1d96, 0x1d96), (0x1da4, 0x1da4), (0x1da8, 0x1da8), (0x1e2d, 0x1e2d), (0x1ecb, 0x1ecb),
  (0x2071, 0x2071), (0x2148, 0x2149), (0x2c7c, 0x2c7c), (0x1d422, 0x1d423), (0x1d456, 0x1d457),
  (0x1d48a, 0x1d48b), (0x1d4be, 0x1d4bf), (0x1d4f2, 0x1d4f3), (0x1d526, 0x1d527),
  (0x1d55a, 0x1d55b), (0x1d58e, 0x1d58f), (0x1d5c2, 0x1d5c3), (0x1d5f6, 0x1d5f7),
  (0x1d62a, 0x1d62b), (0x1d65e, 0x1d65f), (0x1d692, 0x1d693), (0x1df1a, 0x1df1a),
  (0x1e04c, 0x1e04d), (0x1e068, 0x1e068)
]

/-- The runs of vowels that are written before the consonant they follow. -/
def displayOrderRuns : List (Nat × Nat) := [
  (0x0e40, 0x0e44), (0x0ec0, 0x0ec4), (0x19b5, 0x19b7), (0x19ba, 0x19ba), (0xaab5, 0xaab6),
  (0xaab9, 0xaab9), (0xaabb, 0xaabc)
]

def deprecatedRuns : List (Nat × Nat) := [
  (0x0149, 0x0149), (0x0673, 0x0673), (0x0f77, 0x0f77), (0x0f79, 0x0f79), (0x17a3, 0x17a4),
  (0x206a, 0x206f), (0x2329, 0x232a), (0xe0001, 0xe0001)
]

/-- The runs of characters kept for the syntax of patterns. -/
def patternSyntaxRuns : List (Nat × Nat) := [
  (0x0021, 0x002f), (0x003a, 0x0040), (0x005b, 0x005e), (0x0060, 0x0060), (0x007b, 0x007e),
  (0x00a1, 0x00a7), (0x00a9, 0x00a9), (0x00ab, 0x00ac), (0x00ae, 0x00ae), (0x00b0, 0x00b1),
  (0x00b6, 0x00b6), (0x00bb, 0x00bb), (0x00bf, 0x00bf), (0x00d7, 0x00d7), (0x00f7, 0x00f7),
  (0x2010, 0x2027), (0x2030, 0x203e), (0x2041, 0x2053), (0x2055, 0x205e), (0x2190, 0x245f),
  (0x2500, 0x2775), (0x2794, 0x2bff), (0x2e00, 0x2e7f), (0x3001, 0x3003), (0x3008, 0x3020),
  (0x3030, 0x3030), (0xfd3e, 0xfd3f), (0xfe45, 0xfe46)
]

def patternBlankRuns : List (Nat × Nat) := [
  (0x0009, 0x000d), (0x0020, 0x0020), (0x0085, 0x0085), (0x200e, 0x200f), (0x2028, 0x2029)
]

def variationSelectorRuns : List (Nat × Nat) := [
  (0x180b, 0x180d), (0x180f, 0x180f), (0xfe00, 0xfe0f), (0xe0100, 0xe01ef)
]

def noncharacterRuns : List (Nat × Nat) := [
  (0xfdd0, 0xfdef), (0xfffe, 0xffff), (0x1fffe, 0x1ffff), (0x2fffe, 0x2ffff), (0x3fffe, 0x3ffff),
  (0x4fffe, 0x4ffff), (0x5fffe, 0x5ffff), (0x6fffe, 0x6ffff), (0x7fffe, 0x7ffff),
  (0x8fffe, 0x8ffff), (0x9fffe, 0x9ffff), (0xafffe, 0xaffff), (0xbfffe, 0xbffff),
  (0xcfffe, 0xcffff), (0xdfffe, 0xdffff), (0xefffe, 0xeffff), (0xffffe, 0xfffff),
  (0x10fffe, 0x10ffff)
]

/-- The runs of marks that stand before the digits they span. -/
def prependedMarkRuns : List (Nat × Nat) := [
  (0x0600, 0x0605), (0x06dd, 0x06dd), (0x070f, 0x070f), (0x0890, 0x0891), (0x08e2, 0x08e2),
  (0x110bd, 0x110bd), (0x110cd, 0x110cd)
]

/-- The runs of combining marks that modify the letter and come close to it. -/
def modifierMarkRuns : List (Nat × Nat) := [
  (0x0654, 0x0655), (0x0658, 0x0658), (0x06dc, 0x06dc), (0x06e3, 0x06e3), (0x06e7, 0x06e8),
  (0x08ca, 0x08cb), (0x08cd, 0x08cf), (0x08d3, 0x08d3), (0x08f3, 0x08f3)
]

def graphemeLinkRuns : List (Nat × Nat) := [
  (0x094d, 0x094d), (0x09cd, 0x09cd), (0x0a4d, 0x0a4d), (0x0acd, 0x0acd), (0x0b4d, 0x0b4d),
  (0x0bcd, 0x0bcd), (0x0c4d, 0x0c4d), (0x0ccd, 0x0ccd), (0x0d3b, 0x0d3c), (0x0d4d, 0x0d4d),
  (0x0dca, 0x0dca), (0x0e3a, 0x0e3a), (0x0eba, 0x0eba), (0x0f84, 0x0f84), (0x1039, 0x103a),
  (0x1714, 0x1715), (0x1734, 0x1734), (0x17d2, 0x17d2), (0x1a60, 0x1a60), (0x1b44, 0x1b44),
  (0x1baa, 0x1bab), (0x1bf2, 0x1bf3), (0x2d7f, 0x2d7f), (0xa806, 0xa806), (0xa82c, 0xa82c),
  (0xa8c4, 0xa8c4), (0xa953, 0xa953), (0xa9c0, 0xa9c0), (0xaaf6, 0xaaf6), (0xabed, 0xabed),
  (0x10a3f, 0x10a3f), (0x11046, 0x11046), (0x11070, 0x11070), (0x1107f, 0x1107f),
  (0x110b9, 0x110b9), (0x11133, 0x11134), (0x111c0, 0x111c0), (0x11235, 0x11235),
  (0x112ea, 0x112ea), (0x1134d, 0x1134d), (0x113ce, 0x113d0), (0x11442, 0x11442),
  (0x114c2, 0x114c2), (0x115bf, 0x115bf), (0x1163f, 0x1163f), (0x116b6, 0x116b6),
  (0x1172b, 0x1172b), (0x11839, 0x11839), (0x1193d, 0x1193e), (0x119e0, 0x119e0),
  (0x11a34, 0x11a34), (0x11a47, 0x11a47), (0x11a99, 0x11a99), (0x11c3f, 0x11c3f),
  (0x11d44, 0x11d45), (0x11d97, 0x11d97), (0x11f41, 0x11f42), (0x1612f, 0x1612f)
]

/-- The runs of mathematical signs that identifiers may begin with. -/
def mathStartRuns : List (Nat × Nat) := [
  (0x2202, 0x2202), (0x2207, 0x2207), (0x221e, 0x221e), (0x1d6c1, 0x1d6c1), (0x1d6db, 0x1d6db),
  (0x1d6fb, 0x1d6fb), (0x1d715, 0x1d715), (0x1d735, 0x1d735), (0x1d74f, 0x1d74f),
  (0x1d76f, 0x1d76f), (0x1d789, 0x1d789), (0x1d7a9, 0x1d7a9), (0x1d7c3, 0x1d7c3)
]

/-- The runs of mathematical signs that identifiers may go on with. -/
def mathContinueRuns : List (Nat × Nat) := [
  (0x00b2, 0x00b3), (0x00b9, 0x00b9), (0x2070, 0x2070), (0x2074, 0x207e), (0x2080, 0x208e),
  (0x2202, 0x2202), (0x2207, 0x2207), (0x221e, 0x221e), (0x1d6c1, 0x1d6c1), (0x1d6db, 0x1d6db),
  (0x1d6fb, 0x1d6fb), (0x1d715, 0x1d715), (0x1d735, 0x1d735), (0x1d74f, 0x1d74f),
  (0x1d76f, 0x1d76f), (0x1d789, 0x1d789), (0x1d7a9, 0x1d7a9), (0x1d7c3, 0x1d7c3)
]

end GrammarBrew.Property
