/-!
# Letters that stand for others

In a domain name a capital stands for its small letter, and a letter in another
width, style or position for the plain one. The tables give the letters above
ASCII that stand for one other letter.
-/

namespace StyleLens.Domain

/-- Ranges in which every second code point, from the first one on, stands for
    the one after it. -/
def pairedRanges : List (Nat × Nat) :=
  [(0x100, 0x12E), (0x134, 0x136), (0x139, 0x13D), (0x141, 0x147), (0x14A, 0x176), (0x179, 0x17D),
    (0x182, 0x184), (0x187, 0x187), (0x18B, 0x18B), (0x191, 0x191), (0x198, 0x198), (0x1A0, 0x1A4),
    (0x1A7, 0x1A7), (0x1AC, 0x1AC), (0x1AF, 0x1AF), (0x1B3, 0x1B5), (0x1B8, 0x1B8), (0x1BC, 0x1BC),
    (0x1CD, 0x1DB), (0x1DE, 0x1EE), (0x1F4, 0x1F4), (0x1F8, 0x21E), (0x222, 0x232), (0x23B, 0x23B),
    (0x241, 0x241), (0x246, 0x24E), (0x370, 0x372), (0x376, 0x376), (0x3D8, 0x3EE), (0x3F7, 0x3F7),
    (0x3FA, 0x3FA), (0x460, 0x480), (0x48A, 0x4BE), (0x4C1, 0x4CD), (0x4D0, 0x52E),
    (0x1C89, 0x1C89), (0x1E00, 0x1E94), (0x1EA0, 0x1EFE), (0x2183, 0x2183), (0x2C60, 0x2C60),
    (0x2C67, 0x2C6B), (0x2C72, 0x2C72), (0x2C75, 0x2C75), (0x2C80, 0x2CE2), (0x2CEB, 0x2CED),
    (0x2CF2, 0x2CF2), (0xA640, 0xA66C), (0xA680, 0xA69A), (0xA722, 0xA72E), (0xA732, 0xA76E),
    (0xA779, 0xA77B), (0xA77E, 0xA786), (0xA78B, 0xA78B), (0xA790, 0xA792), (0xA796, 0xA7A8),
    (0xA7B4, 0xA7C2), (0xA7C7, 0xA7C9), (0xA7CC, 0xA7DA), (0xA7F5, 0xA7F5)]

/-- Ranges that stand for the code points from the third one on. -/
def shiftedRanges : List (Nat × Nat × Nat) :=
  [(0xB2, 0xB3, 0x32), (0xC0, 0xD6, 0xE0), (0xD8, 0xDE, 0xF8), (0x189, 0x18A, 0x256),
    (0x1B1, 0x1B2, 0x28A), (0x340, 0x341, 0x300), (0x388, 0x38A, 0x3AD), (0x38E, 0x38F, 0x3CD),
    (0x391, 0x3A1, 0x3B1), (0x3A3, 0x3AB, 0x3C3), (0x3FD, 0x3FF, 0x37B), (0x400, 0x40F, 0x450),
    (0x410, 0x42F, 0x430), (0x531, 0x556, 0x561), (0x10A0, 0x10C5, 0x2D00),
    (0x13F8, 0x13FD, 0x13F0), (0x1C83, 0x1C84, 0x441), (0x1C90, 0x1CBA, 0x10D0),
    (0x1CBD, 0x1CBF, 0x10FD), (0x1D30, 0x1D31, 0x64), (0x1D33, 0x1D3A, 0x67),
    (0x1D40, 0x1D41, 0x74), (0x1D44, 0x1D45, 0x250), (0x1D48, 0x1D49, 0x64),
    (0x1D4B, 0x1D4C, 0x25B), (0x1D54, 0x1D55, 0x1D16), (0x1D57, 0x1D58, 0x74),
    (0x1D5D, 0x1D5F, 0x3B2), (0x1D60, 0x1D61, 0x3C6), (0x1D64, 0x1D65, 0x75),
    (0x1D66, 0x1D67, 0x3B2), (0x1D69, 0x1D6A, 0x3C6), (0x1DA4, 0x1DA6, 0x268),
    (0x1DAE, 0x1DB1, 0x272), (0x1DB3, 0x1DB4, 0x282), (0x1DB6, 0x1DB7, 0x289),
    (0x1DB9, 0x1DBA, 0x28B), (0x1DBC, 0x1DBE, 0x290), (0x1F08, 0x1F0F, 0x1F00),
    (0x1F18, 0x1F1D, 0x1F10), (0x1F28, 0x1F2F, 0x1F20), (0x1F38, 0x1F3F, 0x1F30),
    (0x1F48, 0x1F4D, 0x1F40), (0x1F68, 0x1F6F, 0x1F60), (0x1FB8, 0x1FB9, 0x1FB0),
    (0x1FD8, 0x1FD9, 0x1FD0), (0x1FE8, 0x1FE9, 0x1FE0), (0x2074, 0x2079, 0x34),
    (0x207D, 0x207E, 0x28), (0x2080, 0x2089, 0x30), (0x208D, 0x208E, 0x28), (0x2096, 0x2099, 0x6B),
    (0x209B, 0x209C, 0x73), (0x210A, 0x210B, 0x67), (0x2119, 0x211B, 0x70), (0x212C, 0x212D, 0x62),
    (0x2130, 0x2131, 0x65), (0x2135, 0x2138, 0x5D0), (0x2146, 0x2147, 0x64),
    (0x2148, 0x2149, 0x69), (0x216D, 0x216E, 0x63), (0x217D, 0x217E, 0x63),
    (0x2329, 0x232A, 0x3008), (0x2460, 0x2468, 0x31), (0x24B6, 0x24CF, 0x61),
    (0x24D0, 0x24E9, 0x61), (0x2C00, 0x2C2F, 0x2C30), (0x2C7E, 0x2C7F, 0x23F),
    (0x3039, 0x303A, 0x5344), (0x3131, 0x3132, 0x1100), (0x3135, 0x3136, 0x11AC),
    (0x3137, 0x3139, 0x1103), (0x313A, 0x313F, 0x11B0), (0x3141, 0x3143, 0x1106),
    (0x3145, 0x314E, 0x1109), (0x314F, 0x3163, 0x1161), (0x3165, 0x3166, 0x1114),
    (0x3167, 0x3168, 0x11C7), (0x3171, 0x3172, 0x111D), (0x3174, 0x3175, 0x1122),
    (0x3178, 0x317C, 0x112B), (0x3182, 0x3183, 0x11F1), (0x3184, 0x3186, 0x1157),
    (0x3187, 0x3188, 0x1184), (0x318A, 0x318B, 0x1191), (0x3261, 0x3262, 0x1102),
    (0x3263, 0x3265, 0x1105), (0x3267, 0x3268, 0x110B), (0x3269, 0x326D, 0x110E),
    (0x32D4, 0x32D5, 0x30AA), (0x32E4, 0x32E9, 0x30CA), (0x32EE, 0x32F2, 0x30DE),
    (0x32F5, 0x32FA, 0x30E8), (0x32FB, 0x32FE, 0x30EF), (0xAB70, 0xABBF, 0x13A0),
    (0xFA52, 0xFA53, 0x798D), (0xFB22, 0xFB23, 0x5D3), (0xFB24, 0xFB26, 0x5DB),
    (0xFB7D, 0xFB7E, 0x686), (0xFB9F, 0xFBA0, 0x6BA), (0xFBA5, 0xFBA6, 0x6C0),
    (0xFBAF, 0xFBB0, 0x6D2), (0xFE13, 0xFE14, 0x3A), (0xFE17, 0xFE18, 0x3016),
    (0xFE35, 0xFE36, 0x28), (0xFE39, 0xFE3A, 0x3014), (0xFE3B, 0xFE3C, 0x3010),
    (0xFE3D, 0xFE3E, 0x300A), (0xFE3F, 0xFE40, 0x3008), (0xFE41, 0xFE44, 0x300C),
    (0xFE59, 0xFE5A, 0x28), (0xFE5D, 0xFE5E, 0x3014), (0xFE61, 0xFE62, 0x2A),
    (0xFE69, 0xFE6A, 0x24), (0xFE80, 0xFE81, 0x621), (0xFE82, 0xFE83, 0x622),
    (0xFE84, 0xFE85, 0x623), (0xFE86, 0xFE87, 0x624), (0xFE88, 0xFE89, 0x625),
    (0xFE8C, 0xFE8D, 0x626), (0xFE8E, 0xFE8F, 0x627), (0xFE92, 0xFE93, 0x628),
    (0xFE94, 0xFE95, 0x629), (0xFE98, 0xFE99, 0x62A), (0xFE9C, 0xFE9D, 0x62B),
    (0xFEA0, 0xFEA1, 0x62C), (0xFEA4, 0xFEA5, 0x62D), (0xFEA8, 0xFEA9, 0x62E),
    (0xFEAA, 0xFEAB, 0x62F), (0xFEAC, 0xFEAD, 0x630), (0xFEAE, 0xFEAF, 0x631),
    (0xFEB0, 0xFEB1, 0x632), (0xFEB4, 0xFEB5, 0x633), (0xFEB8, 0xFEB9, 0x634),
    (0xFEBC, 0xFEBD, 0x635), (0xFEC0, 0xFEC1, 0x636), (0xFEC4, 0xFEC5, 0x637),
    (0xFEC8, 0xFEC9, 0x638), (0xFECC, 0xFECD, 0x639), (0xFED4, 0xFED5, 0x641),
    (0xFED8, 0xFED9, 0x642), (0xFEDC, 0xFEDD, 0x643), (0xFEE0, 0xFEE1, 0x644),
    (0xFEE4, 0xFEE5, 0x645), (0xFEE8, 0xFEE9, 0x646), (0xFEEC, 0xFEED, 0x647),
    (0xFEEE, 0xFEEF, 0x648), (0xFEF0, 0xFEF1, 0x649), (0xFF01, 0xFF20, 0x21),
    (0xFF21, 0xFF3A, 0x61), (0xFF3B, 0xFF5E, 0x5B), (0xFF5F, 0xFF60, 0x2985),
    (0xFF62, 0xFF63, 0x300C), (0xFF75, 0xFF76, 0x30AA), (0xFF85, 0xFF8A, 0x30CA),
    (0xFF8F, 0xFF93, 0x30DE), (0xFF96, 0xFF9B, 0x30E8), (0xFF9E, 0xFF9F, 0x3099),
    (0xFFA1, 0xFFA2, 0x1100), (0xFFA5, 0xFFA6, 0x11AC), (0xFFA7, 0xFFA9, 0x1103),
    (0xFFAA, 0xFFAF, 0x11B0), (0xFFB1, 0xFFB3, 0x1106), (0xFFB5, 0xFFBE, 0x1109),
    (0xFFC2, 0xFFC7, 0x1161), (0xFFCA, 0xFFCF, 0x1167), (0xFFD2, 0xFFD7, 0x116D),
    (0xFFDA, 0xFFDC, 0x1173), (0xFFE0, 0xFFE1, 0xA2), (0xFFE9, 0xFFEC, 0x2190),
    (0x10400, 0x10427, 0x10428), (0x104B0, 0x104D3, 0x104D8), (0x10570, 0x1057A, 0x10597),
    (0x1057C, 0x1058A, 0x105A3), (0x1058C, 0x10592, 0x105B3), (0x10594, 0x10595, 0x105BB),
    (0x10781, 0x10782, 0x2D0), (0x1078B, 0x1078C, 0x256), (0x10799, 0x1079A, 0x2AA),
    (0x107A3, 0x107A4, 0x276), (0x107A8, 0x107A9, 0x27D), (0x107B3, 0x107B4, 0x2A1),
    (0x107B6, 0x107B8, 0x1C0), (0x10C80, 0x10CB2, 0x10CC0), (0x10D50, 0x10D65, 0x10D70),
    (0x118A0, 0x118BF, 0x118C0), (0x16E40, 0x16E5F, 0x16E60), (0x16EA0, 0x16EB8, 0x16EBB),
    (0x1CCD6, 0x1CCEF, 0x61), (0x1CCF0, 0x1CCF9, 0x30), (0x1D400, 0x1D419, 0x61),
    (0x1D41A, 0x1D433, 0x61), (0x1D434, 0x1D44D, 0x61), (0x1D44E, 0x1D454, 0x61),
    (0x1D456, 0x1D467, 0x69), (0x1D468, 0x1D481, 0x61), (0x1D482, 0x1D49B, 0x61),
    (0x1D49E, 0x1D49F, 0x63), (0x1D4A5, 0x1D4A6, 0x6A), (0x1D4A9, 0x1D4AC, 0x6E),
    (0x1D4AE, 0x1D4B5, 0x73), (0x1D4B6, 0x1D4B9, 0x61), (0x1D4BD, 0x1D4C3, 0x68),
    (0x1D4C5, 0x1D4CF, 0x70), (0x1D4D0, 0x1D4E9, 0x61), (0x1D4EA, 0x1D503, 0x61),
    (0x1D504, 0x1D505, 0x61), (0x1D507, 0x1D50A, 0x64), (0x1D50D, 0x1D514, 0x6A),
    (0x1D516, 0x1D51C, 0x73), (0x1D51E, 0x1D537, 0x61), (0x1D538, 0x1D539, 0x61),
    (0x1D53B, 0x1D53E, 0x64), (0x1D540, 0x1D544, 0x69), (0x1D54A, 0x1D550, 0x73),
    (0x1D552, 0x1D56B, 0x61), (0x1D56C, 0x1D585, 0x61), (0x1D586, 0x1D59F, 0x61),
    (0x1D5A0, 0x1D5B9, 0x61), (0x1D5BA, 0x1D5D3, 0x61), (0x1D5D4, 0x1D5ED, 0x61),
    (0x1D5EE, 0x1D607, 0x61), (0x1D608, 0x1D621, 0x61), (0x1D622, 0x1D63B, 0x61),
    (0x1D63C, 0x1D655, 0x61), (0x1D656, 0x1D66F, 0x61), (0x1D670, 0x1D689, 0x61),
    (0x1D68A, 0x1D6A3, 0x61), (0x1D6A8, 0x1D6B8, 0x3B1), (0x1D6BA, 0x1D6C0, 0x3C3),
    (0x1D6C2, 0x1D6D2, 0x3B1), (0x1D6D4, 0x1D6DA, 0x3C3), (0x1D6E2, 0x1D6F2, 0x3B1),
    (0x1D6F4, 0x1D6FA, 0x3C3), (0x1D6FC, 0x1D70C, 0x3B1), (0x1D70E, 0x1D714, 0x3C3),
    (0x1D71C, 0x1D72C, 0x3B1), (0x1D72E, 0x1D734, 0x3C3), (0x1D736, 0x1D746, 0x3B1),
    (0x1D748, 0x1D74E, 0x3C3), (0x1D756, 0x1D766, 0x3B1), (0x1D768, 0x1D76E, 0x3C3),
    (0x1D770, 0x1D780, 0x3B1), (0x1D782, 0x1D788, 0x3C3), (0x1D790, 0x1D7A0, 0x3B1),
    (0x1D7A2, 0x1D7A8, 0x3C3), (0x1D7AA, 0x1D7BA, 0x3B1), (0x1D7BC, 0x1D7C2, 0x3C3),
    (0x1D7CE, 0x1D7D7, 0x30), (0x1D7D8, 0x1D7E1, 0x30), (0x1D7E2, 0x1D7EB, 0x30),
    (0x1D7EC, 0x1D7F5, 0x30), (0x1D7F6, 0x1D7FF, 0x30), (0x1E030, 0x1E038, 0x430),
    (0x1E039, 0x1E03B, 0x43A), (0x1E03C, 0x1E046, 0x43E), (0x1E048, 0x1E049, 0x44D),
    (0x1E051, 0x1E059, 0x430), (0x1E05A, 0x1E05B, 0x43A), (0x1E05C, 0x1E05D, 0x43E),
    (0x1E05F, 0x1E064, 0x443), (0x1E065, 0x1E066, 0x44A), (0x1E900, 0x1E921, 0x1E922),
    (0x1EE00, 0x1EE01, 0x627), (0x1EE0A, 0x1EE0D, 0x643), (0x1EE15, 0x1EE16, 0x62A),
    (0x1EE2A, 0x1EE2D, 0x643), (0x1EE35, 0x1EE36, 0x62A), (0x1EE6C, 0x1EE6D, 0x645),
    (0x1EE75, 0x1EE76, 0x62A), (0x1EE80, 0x1EE81, 0x627), (0x1EE84, 0x1EE85, 0x647),
    (0x1EE8B, 0x1EE8D, 0x644), (0x1EE95, 0x1EE96, 0x62A), (0x1EEAB, 0x1EEAD, 0x644),
    (0x1EEB5, 0x1EEB6, 0x62A), (0x1F130, 0x1F149, 0x61), (0x1FBF0, 0x1FBF9, 0x30),
    (0x2F829, 0x2F82A, 0x5305), (0x2F881, 0x2F882, 0x5DE1), (0x2F8F5, 0x2F8F6, 0x6BBA),
    (0x2F945, 0x2F946, 0x771E), (0x2F9E8, 0x2F9E9, 0x92D7)]

/-- Code points that stand for another one. -/
def loneLetters : List (Nat × Nat) :=
  [(0xA0, 0x20), (0xAA, 0x61), (0xB5, 0x3BC), (0x178, 0xFF), (0x17F, 0x73), (0x181, 0x253),
    (0x186, 0x254), (0x19F, 0x275), (0x1A6, 0x280), (0x1A9, 0x283), (0x1AE, 0x288), (0x1B7, 0x292),
    (0x220, 0x19E), (0x23A, 0x2C65), (0x343, 0x313), (0x345, 0x3B9), (0x374, 0x2B9),
    (0x38C, 0x3CC), (0x3F9, 0x3C3), (0x4C0, 0x4CF), (0xF0C, 0xF0B), (0x10C7, 0x2D27),
    (0x10CD, 0x2D2D), (0x10FC, 0x10DC), (0x1D32, 0x1DD), (0x1D4A, 0x259), (0x1D4D, 0x67),
    (0x1D56, 0x70), (0x1D68, 0x3C1), (0x1D78, 0x43D), (0x1DB2, 0x278), (0x1DB5, 0x1AB),
    (0x1DB8, 0x1D1C), (0x1DBB, 0x7A), (0x1DBF, 0x3B8), (0x1E9B, 0x1E61), (0x1E9E, 0xDF),
    (0x1F59, 0x1F51), (0x1F5B, 0x1F53), (0x1F5D, 0x1F55), (0x1F5F, 0x1F57), (0x1F71, 0x3AC),
    (0x1F73, 0x3AD), (0x1F75, 0x3AE), (0x1F77, 0x3AF), (0x1F79, 0x3CC), (0x1F7B, 0x3CD),
    (0x1F7D, 0x3CE), (0x1FBE, 0x3B9), (0x1FD3, 0x390), (0x1FE3, 0x3B0), (0x1FEF, 0x60),
    (0x2011, 0x2010), (0x202F, 0x20), (0x205F, 0x20), (0x207F, 0x6E), (0x209A, 0x70),
    (0x2102, 0x63), (0x2107, 0x25B), (0x2115, 0x6E), (0x2124, 0x7A), (0x2126, 0x3C9),
    (0x2128, 0x7A), (0x212F, 0x65), (0x2139, 0x69), (0x2145, 0x64), (0x2160, 0x69), (0x2164, 0x76),
    (0x2169, 0x78), (0x216C, 0x6C), (0x2174, 0x76), (0x2179, 0x78), (0x217C, 0x6C), (0x217F, 0x6D),
    (0x24EA, 0x30), (0x2D6F, 0x2D61), (0x2E9F, 0x6BCD), (0x2EF3, 0x9F9F), (0x3000, 0x20),
    (0x3002, 0x2E), (0x3036, 0x3012), (0x3038, 0x5341), (0x3140, 0x111A), (0x3144, 0x1121),
    (0x3173, 0x1120), (0x3189, 0x1188), (0x3260, 0x1100), (0x3266, 0x1109), (0x327E, 0xC6B0),
    (0xA770, 0xA76F), (0xA77D, 0x1D79), (0xA78D, 0x265), (0xA7CB, 0x264), (0xA7DC, 0x19B),
    (0xAB69, 0x28D), (0xFA10, 0x585A), (0xFA12, 0x6674), (0xFA20, 0x8612), (0xFA22, 0x8AF8),
    (0xFBB1, 0x6D3), (0xFE68, 0x5C), (0xFE6B, 0x40), (0xFF61, 0x2E), (0xFFB0, 0x111A),
    (0xFFB4, 0x1121), (0xFFE2, 0xAC), (0xFFE8, 0x2502), (0x107B2, 0x28F), (0x107B5, 0x298),
    (0x1D49C, 0x61), (0x1D4A2, 0x67), (0x1D4BB, 0x66), (0x1D546, 0x6F), (0x1D6B9, 0x3B8),
    (0x1D6C1, 0x2207), (0x1D6D3, 0x3C3), (0x1D6F3, 0x3B8), (0x1D6FB, 0x2207), (0x1D70D, 0x3C3),
    (0x1D72D, 0x3B8), (0x1D735, 0x2207), (0x1D747, 0x3C3), (0x1D767, 0x3B8), (0x1D76F, 0x2207),
    (0x1D781, 0x3C3), (0x1D7A1, 0x3B8), (0x1D7A9, 0x2207), (0x1D7BB, 0x3C3), (0x1E047, 0x44B),
    (0x1E05E, 0x441), (0x1EE24, 0x647), (0x1EE27, 0x62D), (0x1EE29, 0x64A), (0x1EE34, 0x634),
    (0x1EE37, 0x62E), (0x1EE39, 0x636), (0x1EE3B, 0x63A), (0x1EE42, 0x62C), (0x1EE47, 0x62D),
    (0x1EE49, 0x64A), (0x1EE4B, 0x644), (0x1EE54, 0x634), (0x1EE57, 0x62E), (0x1EE59, 0x636),
    (0x1EE5B, 0x63A), (0x1EE5D, 0x6BA), (0x1EE5F, 0x66F), (0x1EE64, 0x647), (0x1EE74, 0x634),
    (0x1EE77, 0x62E), (0x1EE7E, 0x6A1), (0x1F202, 0x30B5)]

end StyleLens.Domain
