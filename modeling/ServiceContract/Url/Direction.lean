import ServiceContract.Url.HostCharacter

/-!
# Direction and joining

Classes of characters outside ASCII that the rules for labels written from right to left, and for
invisible joiners, speak of. The tables are those of the Unicode character database.
-/

namespace ServiceContract.Url

open Text

/-- Letters written from right to left. -/
def rightToLeftRuns : List (Nat × Nat) := [
  (0x5be, 0x5be), (0x5c0, 0x5c0), (0x5c3, 0x5c3), (0x5c6, 0x5c6), (0x5d0, 0x5f4), (0x608, 0x608),
  (0x60b, 0x60b), (0x60d, 0x60d), (0x61b, 0x64a), (0x66d, 0x66f), (0x671, 0x6d5), (0x6e5, 0x6e6),
  (0x6ee, 0x6ef), (0x6fa, 0x710), (0x712, 0x72f), (0x74d, 0x7a5), (0x7b1, 0x7ea), (0x7f4, 0x7f5),
  (0x7fa, 0x7fa), (0x7fe, 0x815), (0x81a, 0x81a), (0x824, 0x824), (0x828, 0x828), (0x830, 0x858),
  (0x85e, 0x88e), (0x8a0, 0x8c9), (0x2135, 0x2138), (0xfb1d, 0xfb1d), (0xfb1f, 0xfb28),
  (0xfb2a, 0xfbc2), (0xfbd3, 0xfd3d), (0xfd50, 0xfd8f), (0xfd92, 0xfdc7), (0xfdf0, 0xfdfc),
  (0xfe71, 0xfefc), (0x10800, 0x1091b), (0x10920, 0x1093f), (0x10980, 0x10a00), (0x10a10, 0x10a35),
  (0x10a40, 0x10ae4), (0x10aeb, 0x10b35), (0x10b40, 0x10d23), (0x10e80, 0x10ea9),
  (0x10ead, 0x10eb1), (0x10f00, 0x10f45), (0x10f51, 0x10f81), (0x10f86, 0x10ff6),
  (0x1e800, 0x1e8cf), (0x1e900, 0x1e943), (0x1e94b, 0x1eebb)]

/-- Digits of scripts written from right to left. -/
def arabicNumberRuns : List (Nat × Nat) := [
  (0x660, 0x669), (0x66b, 0x66c), (0x10d30, 0x10d39), (0x10e60, 0x10e7e)]

/-- Digits that fit any direction. -/
def europeanNumberRuns : List (Nat × Nat) := [
  (0xb2, 0xb3), (0xb9, 0xb9), (0xbc, 0xbe), (0x6f0, 0x6f9), (0x2070, 0x2070), (0x2074, 0x2079),
  (0x2080, 0x2089), (0x2150, 0x215f), (0x2189, 0x2189), (0x2460, 0x2473), (0x24ea, 0x24ea),
  (0x3251, 0x325f), (0x32b1, 0x32cb), (0x3358, 0x3370), (0x33e0, 0x33fe), (0xff10, 0xff19),
  (0x102e1, 0x102fb), (0x1ccf0, 0x1ccf9), (0x1d7ce, 0x1d7ff), (0x1f101, 0x1f10a),
  (0x1fbf0, 0x1fbf9)]

/-- Symbols and punctuation without a direction. -/
def neutralRuns : List (Nat × Nat) := [
  (0xa1, 0xa9), (0xab, 0xb1), (0xb6, 0xb7), (0xbb, 0xbb), (0xbf, 0xbf), (0xd7, 0xd7), (0xf7, 0xf7),
  (0x2b9, 0x2ba), (0x2c2, 0x2cf), (0x2d2, 0x2df), (0x2e5, 0x2ed), (0x2ef, 0x2ff), (0x374, 0x375),
  (0x37e, 0x37e), (0x387, 0x387), (0x3f6, 0x3f6), (0x58a, 0x58f), (0x606, 0x607), (0x609, 0x60a),
  (0x60c, 0x60c), (0x60e, 0x60f), (0x66a, 0x66a), (0x6de, 0x6de), (0x6e9, 0x6e9), (0x7f6, 0x7f9),
  (0x9f2, 0x9f3), (0x9fb, 0x9fb), (0xaf1, 0xaf1), (0xbf3, 0xbfa), (0xc78, 0xc7e), (0xe3f, 0xe3f),
  (0xf3a, 0xf3d), (0x1390, 0x1399), (0x1400, 0x1400), (0x169b, 0x169c), (0x17db, 0x17db),
  (0x17f0, 0x180a), (0x1940, 0x1945), (0x19de, 0x19ff), (0x1fef, 0x1fef), (0x200c, 0x205e),
  (0x207a, 0x207e), (0x208a, 0x208e), (0x20a0, 0x20a7), (0x20a9, 0x20c0), (0x2103, 0x2104),
  (0x2108, 0x2109), (0x2114, 0x2114), (0x2117, 0x2118), (0x211e, 0x211f), (0x2123, 0x2123),
  (0x2125, 0x2125), (0x2127, 0x2127), (0x2129, 0x2129), (0x212e, 0x212e), (0x213a, 0x213a),
  (0x2140, 0x2144), (0x214a, 0x214d), (0x218a, 0x2335), (0x237b, 0x2394), (0x2396, 0x2426),
  (0x2440, 0x244a), (0x2474, 0x24b5), (0x24eb, 0x26ab), (0x26ad, 0x27ff), (0x2900, 0x2b95),
  (0x2b97, 0x2bff), (0x2ce5, 0x2cea), (0x2cf9, 0x2cff), (0x2e00, 0x2e9e), (0x2ea0, 0x2ef2),
  (0x3001, 0x3004), (0x3008, 0x3020), (0x3030, 0x3030), (0x3036, 0x3037), (0x303d, 0x303f),
  (0x30a0, 0x30a0), (0x30fb, 0x30fb), (0x31c0, 0x31e3), (0x3200, 0x3243), (0x4dc0, 0x4dff),
  (0xa490, 0xa4c6), (0xa60d, 0xa60f), (0xa673, 0xa673), (0xa67e, 0xa67f), (0xa700, 0xa721),
  (0xa788, 0xa788), (0xa828, 0xa82b), (0xa838, 0xa839), (0xa874, 0xa877), (0xab6a, 0xab6b),
  (0xfb29, 0xfb29), (0xfd3e, 0xfd4f), (0xfdcf, 0xfdcf), (0xfdfd, 0xfe18), (0xfe31, 0xfe69),
  (0xff01, 0xff0e), (0xff1b, 0xff1d), (0xff3f, 0xff40), (0xff5b, 0xff65), (0xffe0, 0xffee),
  (0x10101, 0x10101), (0x10140, 0x1018c), (0x10190, 0x101a0), (0x1091f, 0x1091f),
  (0x10b39, 0x10b3f), (0x11052, 0x11065), (0x11660, 0x1166c), (0x11fd5, 0x11ff1),
  (0x16fe2, 0x16fe2), (0x1d1e9, 0x1d241), (0x1d245, 0x1d245), (0x1d300, 0x1d356),
  (0x1d6c1, 0x1d6c1), (0x1d6db, 0x1d6db), (0x1d6fb, 0x1d6fb), (0x1d715, 0x1d715),
  (0x1d735, 0x1d735), (0x1d74f, 0x1d74f), (0x1d76f, 0x1d76f), (0x1d789, 0x1d789),
  (0x1d7a9, 0x1d7a9), (0x1d7c3, 0x1d7c3), (0x1e2ff, 0x1e2ff), (0x1eef0, 0x1f0f5),
  (0x1f10b, 0x1f12a), (0x1f12f, 0x1f12f), (0x1f16d, 0x1f16f), (0x1f1ad, 0x1f1ad),
  (0x1f240, 0x1f248), (0x1f260, 0x1f6d7), (0x1f6dd, 0x1f773), (0x1f780, 0x1f7d8),
  (0x1f7e0, 0x1f8b1), (0x1f900, 0x1fa53), (0x1fa60, 0x1fa74), (0x1fa78, 0x1fa86),
  (0x1fa90, 0x1faac), (0x1fab0, 0x1faba), (0x1fac0, 0x1fac5), (0x1fad0, 0x1fad9),
  (0x1fae0, 0x1fae7), (0x1faf0, 0x1faf6), (0x1fb00, 0x1fbca)]

/-- Signs that bind a consonant to the next one. -/
def bindingRuns : List (Nat × Nat) := [
  (0x94d, 0x94d), (0x9cd, 0x9cd), (0xa4d, 0xa4d), (0xacd, 0xacd), (0xb4d, 0xb4d), (0xbcd, 0xbcd),
  (0xc4d, 0xc4d), (0xccd, 0xccd), (0xd3b, 0xd3c), (0xd4d, 0xd4d), (0xdca, 0xdca), (0xe3a, 0xe3a),
  (0xeba, 0xeba), (0xf84, 0xf84), (0x1039, 0x103a), (0x1714, 0x1715), (0x1734, 0x1734),
  (0x17d2, 0x17d2), (0x1a60, 0x1a60), (0x1b44, 0x1b44), (0x1baa, 0x1bab), (0x1bf2, 0x1bf3),
  (0x2d7f, 0x2d7f), (0xa806, 0xa806), (0xa82c, 0xa82c), (0xa8c4, 0xa8c4), (0xa953, 0xa953),
  (0xa9c0, 0xa9c0), (0xaaf6, 0xaaf6), (0xabed, 0xabed), (0x10a3f, 0x10a3f), (0x11046, 0x11046),
  (0x11070, 0x11070), (0x1107f, 0x1107f), (0x110b9, 0x110b9), (0x11133, 0x11134),
  (0x111c0, 0x111c0), (0x11235, 0x11235), (0x112ea, 0x112ea), (0x1134d, 0x1134d),
  (0x11442, 0x11442), (0x114c2, 0x114c2), (0x115bf, 0x115bf), (0x1163f, 0x1163f),
  (0x116b6, 0x116b6), (0x1172b, 0x1172b), (0x11839, 0x11839), (0x1193d, 0x1193e),
  (0x119e0, 0x119e0), (0x11a34, 0x11a34), (0x11a47, 0x11a47), (0x11a99, 0x11a99),
  (0x11c3f, 0x11c3f), (0x11d44, 0x11d45), (0x11d97, 0x11d97)]

/-- Letters that join to the one after them. -/
def joinsAfterRuns : List (Nat × Nat) := [
  (0x620, 0x620), (0x626, 0x626), (0x628, 0x628), (0x62a, 0x62e), (0x633, 0x63f), (0x641, 0x647),
  (0x649, 0x64a), (0x66e, 0x66f), (0x678, 0x687), (0x69a, 0x6bf), (0x6c1, 0x6c2), (0x6cc, 0x6cc),
  (0x6ce, 0x6ce), (0x6d0, 0x6d1), (0x6fa, 0x6fc), (0x6ff, 0x6ff), (0x712, 0x714), (0x71a, 0x71d),
  (0x71f, 0x727), (0x729, 0x729), (0x72b, 0x72b), (0x72d, 0x72e), (0x74e, 0x758), (0x75c, 0x76a),
  (0x76d, 0x770), (0x772, 0x772), (0x775, 0x777), (0x77a, 0x77f), (0x7ca, 0x7ea), (0x841, 0x845),
  (0x848, 0x848), (0x84a, 0x853), (0x855, 0x855), (0x860, 0x860), (0x862, 0x865), (0x868, 0x868),
  (0x886, 0x886), (0x889, 0x88d), (0x88f, 0x88f), (0x8a0, 0x8a9), (0x8af, 0x8b0), (0x8b3, 0x8b8),
  (0x8ba, 0x8c8), (0x1807, 0x1807), (0x1820, 0x1878), (0x1887, 0x18a8), (0x18aa, 0x18aa),
  (0xa840, 0xa872), (0x10ac0, 0x10ac4), (0x10acd, 0x10acd), (0x10ad3, 0x10adc), (0x10ade, 0x10ae0),
  (0x10aeb, 0x10aee), (0x10b80, 0x10b80), (0x10b82, 0x10b82), (0x10b86, 0x10b88),
  (0x10b8a, 0x10b8b), (0x10b8d, 0x10b8d), (0x10b90, 0x10b90), (0x10bad, 0x10bae),
  (0x10d00, 0x10d21), (0x10d23, 0x10d23), (0x10ec3, 0x10ec4), (0x10ec6, 0x10ec7),
  (0x10f30, 0x10f32), (0x10f34, 0x10f44), (0x10f51, 0x10f53), (0x10f70, 0x10f73),
  (0x10f76, 0x10f81), (0x10fb0, 0x10fb0), (0x10fb2, 0x10fb3), (0x10fb8, 0x10fb8),
  (0x10fbb, 0x10fbc), (0x10fbe, 0x10fbf), (0x10fc1, 0x10fc1), (0x10fc4, 0x10fc4),
  (0x10fca, 0x10fcb), (0x1e900, 0x1e943)]

/-- Letters that join to the one before them. -/
def joinsBeforeRuns : List (Nat × Nat) := [
  (0x620, 0x620), (0x622, 0x63f), (0x641, 0x64a), (0x66e, 0x66f), (0x671, 0x673), (0x675, 0x6d3),
  (0x6d5, 0x6d5), (0x6ee, 0x6ef), (0x6fa, 0x6fc), (0x6ff, 0x6ff), (0x710, 0x710), (0x712, 0x72f),
  (0x74d, 0x77f), (0x7ca, 0x7ea), (0x840, 0x858), (0x860, 0x860), (0x862, 0x865), (0x867, 0x86a),
  (0x870, 0x882), (0x886, 0x886), (0x889, 0x88f), (0x8a0, 0x8ac), (0x8ae, 0x8c8), (0x1807, 0x1807),
  (0x1820, 0x1878), (0x1887, 0x18a8), (0x18aa, 0x18aa), (0xa840, 0xa871), (0x10ac0, 0x10ac5),
  (0x10ac7, 0x10ac7), (0x10ac9, 0x10aca), (0x10ace, 0x10ad6), (0x10ad8, 0x10ae1),
  (0x10ae4, 0x10ae4), (0x10aeb, 0x10aef), (0x10b80, 0x10b91), (0x10ba9, 0x10bae),
  (0x10d01, 0x10d23), (0x10ec2, 0x10ec4), (0x10ec6, 0x10ec7), (0x10f30, 0x10f44),
  (0x10f51, 0x10f54), (0x10f70, 0x10f81), (0x10fb0, 0x10fb0), (0x10fb2, 0x10fb6),
  (0x10fb8, 0x10fbf), (0x10fc1, 0x10fc4), (0x10fc9, 0x10fca), (0x1e900, 0x1e943)]

inductive Direction where
  | leftToRight
  | rightToLeft
  | arabicNumber
  | europeanNumber
  | neutral
  | nonspacing
deriving DecidableEq

/-- The direction of a character that a host name holds. -/
def direction (c : Char) : Direction :=
  let n := c.toNat
  if n < 128 then
    if c.isAlpha then .leftToRight else if c.isDigit then .europeanNumber else .neutral
  else if inRuns rightToLeftRuns n then .rightToLeft
  else if inRuns arabicNumberRuns n then .arabicNumber
  else if inRuns europeanNumberRuns n then .europeanNumber
  else if inRuns nonspacingRuns n then .nonspacing
  else if inRuns neutralRuns n then .neutral
  else .leftToRight

end ServiceContract.Url
