/-!
Characters that stand for the same text. Identifiers that differ only in the
form of their letters, such as full-width or mathematical letters, are the same
identifier, and a letter followed by a combining mark is the same as the
accented letter.
-/

namespace Runbook.Text

/-- Runs of characters with the run of characters they stand for: the first
character, the first one it stands for, and the length of the run. -/
def compatibleRuns : Array (Nat × Nat × Nat) := #[
  (0xAA, 0x61, 1), (0xB5, 0x3BC, 1), (0xBA, 0x6F, 1), (0x17F, 0x73, 1), (0x2B0, 0x68, 1),
  (0x2B1, 0x266, 1), (0x2B2, 0x6A, 1), (0x2B3, 0x72, 1), (0x2B4, 0x279, 1), (0x2B5, 0x27B, 1),
  (0x2B6, 0x281, 1), (0x2B7, 0x77, 1), (0x2B8, 0x79, 1), (0x2E0, 0x263, 1), (0x2E1, 0x6C, 1),
  (0x2E2, 0x73, 1), (0x2E3, 0x78, 1), (0x2E4, 0x295, 1), (0x340, 0x300, 2), (0x343, 0x313, 1),
  (0x374, 0x2B9, 1), (0x387, 0xB7, 1), (0x3D0, 0x3B2, 1), (0x3D1, 0x3B8, 1), (0x3D2, 0x3A5, 1),
  (0x3D3, 0x38E, 1), (0x3D4, 0x3AB, 1), (0x3D5, 0x3C6, 1), (0x3D6, 0x3C0, 1), (0x3F0, 0x3BA, 1),
  (0x3F1, 0x3C1, 2), (0x3F4, 0x398, 1), (0x3F5, 0x3B5, 1), (0x3F9, 0x3A3, 1), (0x10FC, 0x10DC, 1),
  (0x1D2C, 0x41, 1), (0x1D2D, 0xC6, 1), (0x1D2E, 0x42, 1), (0x1D30, 0x44, 2), (0x1D32, 0x18E, 1),
  (0x1D33, 0x47, 8), (0x1D3C, 0x4F, 1), (0x1D3D, 0x222, 1), (0x1D3E, 0x50, 1), (0x1D3F, 0x52, 1),
  (0x1D40, 0x54, 2), (0x1D42, 0x57, 1), (0x1D43, 0x61, 1), (0x1D44, 0x250, 2),
  (0x1D46, 0x1D02, 1), (0x1D47, 0x62, 1), (0x1D48, 0x64, 2), (0x1D4A, 0x259, 1),
  (0x1D4B, 0x25B, 2), (0x1D4D, 0x67, 1), (0x1D4F, 0x6B, 1), (0x1D50, 0x6D, 1), (0x1D51, 0x14B, 1),
  (0x1D52, 0x6F, 1), (0x1D53, 0x254, 1), (0x1D54, 0x1D16, 2), (0x1D56, 0x70, 1),
  (0x1D57, 0x74, 2), (0x1D59, 0x1D1D, 1), (0x1D5A, 0x26F, 1), (0x1D5B, 0x76, 1),
  (0x1D5C, 0x1D25, 1), (0x1D5D, 0x3B2, 3), (0x1D60, 0x3C6, 2), (0x1D62, 0x69, 1),
  (0x1D63, 0x72, 1), (0x1D64, 0x75, 2), (0x1D66, 0x3B2, 2), (0x1D68, 0x3C1, 1),
  (0x1D69, 0x3C6, 2), (0x1D78, 0x43D, 1), (0x1D9B, 0x252, 1), (0x1D9C, 0x63, 1),
  (0x1D9D, 0x255, 1), (0x1D9E, 0xF0, 1), (0x1D9F, 0x25C, 1), (0x1DA0, 0x66, 1),
  (0x1DA1, 0x25F, 1), (0x1DA2, 0x261, 1), (0x1DA3, 0x265, 1), (0x1DA4, 0x268, 3),
  (0x1DA7, 0x1D7B, 1), (0x1DA8, 0x29D, 1), (0x1DA9, 0x26D, 1), (0x1DAA, 0x1D85, 1),
  (0x1DAB, 0x29F, 1), (0x1DAC, 0x271, 1), (0x1DAD, 0x270, 1), (0x1DAE, 0x272, 4),
  (0x1DB2, 0x278, 1), (0x1DB3, 0x282, 2), (0x1DB5, 0x1AB, 1), (0x1DB6, 0x289, 2),
  (0x1DB8, 0x1D1C, 1), (0x1DB9, 0x28B, 2), (0x1DBB, 0x7A, 1), (0x1DBC, 0x290, 3),
  (0x1DBF, 0x3B8, 1), (0x1E9B, 0x1E61, 1), (0x1F71, 0x3AC, 1), (0x1F73, 0x3AD, 1),
  (0x1F75, 0x3AE, 1), (0x1F77, 0x3AF, 1), (0x1F79, 0x3CC, 1), (0x1F7B, 0x3CD, 1),
  (0x1F7D, 0x3CE, 1), (0x1FBB, 0x386, 1), (0x1FBE, 0x3B9, 1), (0x1FC9, 0x388, 1),
  (0x1FCB, 0x389, 1), (0x1FD3, 0x390, 1), (0x1FDB, 0x38A, 1), (0x1FE3, 0x3B0, 1),
  (0x1FEB, 0x38E, 1), (0x1FF9, 0x38C, 1), (0x1FFB, 0x38F, 1), (0x2071, 0x69, 1),
  (0x207F, 0x6E, 1), (0x2090, 0x61, 1), (0x2091, 0x65, 1), (0x2092, 0x6F, 1), (0x2093, 0x78, 1),
  (0x2094, 0x259, 1), (0x2095, 0x68, 1), (0x2096, 0x6B, 4), (0x209A, 0x70, 1), (0x209B, 0x73, 2),
  (0x2102, 0x43, 1), (0x2107, 0x190, 1), (0x210A, 0x67, 1), (0x210B, 0x48, 1), (0x210C, 0x48, 1),
  (0x210D, 0x48, 1), (0x210E, 0x68, 1), (0x210F, 0x127, 1), (0x2110, 0x49, 1), (0x2111, 0x49, 1),
  (0x2112, 0x4C, 1), (0x2113, 0x6C, 1), (0x2115, 0x4E, 1), (0x2119, 0x50, 3), (0x211C, 0x52, 1),
  (0x211D, 0x52, 1), (0x2124, 0x5A, 1), (0x2126, 0x3A9, 1), (0x2128, 0x5A, 1), (0x212A, 0x4B, 1),
  (0x212B, 0xC5, 1), (0x212C, 0x42, 2), (0x212F, 0x65, 1), (0x2130, 0x45, 2), (0x2133, 0x4D, 1),
  (0x2134, 0x6F, 1), (0x2135, 0x5D0, 4), (0x2139, 0x69, 1), (0x213C, 0x3C0, 1),
  (0x213D, 0x3B3, 1), (0x213E, 0x393, 1), (0x213F, 0x3A0, 1), (0x2145, 0x44, 1),
  (0x2146, 0x64, 2), (0x2148, 0x69, 2), (0x2160, 0x49, 1), (0x2164, 0x56, 1), (0x2169, 0x58, 1),
  (0x216C, 0x4C, 1), (0x216D, 0x43, 2), (0x216F, 0x4D, 1), (0x2170, 0x69, 1), (0x2174, 0x76, 1),
  (0x2179, 0x78, 1), (0x217C, 0x6C, 1), (0x217D, 0x63, 2), (0x217F, 0x6D, 1), (0x2C7C, 0x6A, 1),
  (0x2C7D, 0x56, 1), (0x2D6F, 0x2D61, 1), (0x3038, 0x5341, 1), (0x3039, 0x5344, 2),
  (0x3131, 0x1100, 2), (0x3133, 0x11AA, 1), (0x3134, 0x1102, 1), (0x3135, 0x11AC, 2),
  (0x3137, 0x1103, 3), (0x313A, 0x11B0, 6), (0x3140, 0x111A, 1), (0x3141, 0x1106, 3),
  (0x3144, 0x1121, 1), (0x3145, 0x1109, 10), (0x314F, 0x1161, 21), (0x3164, 0x1160, 1),
  (0x3165, 0x1114, 2), (0x3167, 0x11C7, 2), (0x3169, 0x11CC, 1), (0x316A, 0x11CE, 1),
  (0x316B, 0x11D3, 1), (0x316C, 0x11D7, 1), (0x316D, 0x11D9, 1), (0x316E, 0x111C, 1),
  (0x316F, 0x11DD, 1), (0x3170, 0x11DF, 1), (0x3171, 0x111D, 2), (0x3173, 0x1120, 1),
  (0x3174, 0x1122, 2), (0x3176, 0x1127, 1), (0x3177, 0x1129, 1), (0x3178, 0x112B, 5),
  (0x317D, 0x1132, 1), (0x317E, 0x1136, 1), (0x317F, 0x1140, 1), (0x3180, 0x1147, 1),
  (0x3181, 0x114C, 1), (0x3182, 0x11F1, 2), (0x3184, 0x1157, 3), (0x3187, 0x1184, 2),
  (0x3189, 0x1188, 1), (0x318A, 0x1191, 2), (0x318C, 0x1194, 1), (0x318D, 0x119E, 1),
  (0x318E, 0x11A1, 1), (0xA69C, 0x44A, 1), (0xA69D, 0x44C, 1), (0xA770, 0xA76F, 1),
  (0xA7F2, 0x43, 1), (0xA7F3, 0x46, 1), (0xA7F4, 0x51, 1), (0xA7F8, 0x126, 1), (0xA7F9, 0x153, 1),
  (0xAB5C, 0xA727, 1), (0xAB5D, 0xAB37, 1), (0xAB5E, 0x26B, 1), (0xAB5F, 0xAB52, 1),
  (0xAB69, 0x28D, 1), (0xFB20, 0x5E2, 1), (0xFB21, 0x5D0, 1), (0xFB22, 0x5D3, 2),
  (0xFB24, 0x5DB, 3), (0xFB27, 0x5E8, 1), (0xFB28, 0x5EA, 1), (0xFB50, 0x671, 1),
  (0xFB51, 0x671, 1), (0xFB52, 0x67B, 1), (0xFB53, 0x67B, 1), (0xFB54, 0x67B, 1),
  (0xFB55, 0x67B, 1), (0xFB56, 0x67E, 1), (0xFB57, 0x67E, 1), (0xFB58, 0x67E, 1),
  (0xFB59, 0x67E, 1), (0xFB5A, 0x680, 1), (0xFB5B, 0x680, 1), (0xFB5C, 0x680, 1),
  (0xFB5D, 0x680, 1), (0xFB5E, 0x67A, 1), (0xFB5F, 0x67A, 1), (0xFB60, 0x67A, 1),
  (0xFB61, 0x67A, 1), (0xFB62, 0x67F, 1), (0xFB63, 0x67F, 1), (0xFB64, 0x67F, 1),
  (0xFB65, 0x67F, 1), (0xFB66, 0x679, 1), (0xFB67, 0x679, 1), (0xFB68, 0x679, 1),
  (0xFB69, 0x679, 1), (0xFB6A, 0x6A4, 1), (0xFB6B, 0x6A4, 1), (0xFB6C, 0x6A4, 1),
  (0xFB6D, 0x6A4, 1), (0xFB6E, 0x6A6, 1), (0xFB6F, 0x6A6, 1), (0xFB70, 0x6A6, 1),
  (0xFB71, 0x6A6, 1), (0xFB72, 0x684, 1), (0xFB73, 0x684, 1), (0xFB74, 0x684, 1),
  (0xFB75, 0x684, 1), (0xFB76, 0x683, 1), (0xFB77, 0x683, 1), (0xFB78, 0x683, 1),
  (0xFB79, 0x683, 1), (0xFB7A, 0x686, 1), (0xFB7B, 0x686, 1), (0xFB7C, 0x686, 1),
  (0xFB7D, 0x686, 2), (0xFB7F, 0x687, 1), (0xFB80, 0x687, 1), (0xFB81, 0x687, 1),
  (0xFB82, 0x68D, 1), (0xFB83, 0x68D, 1), (0xFB84, 0x68C, 1), (0xFB85, 0x68C, 1),
  (0xFB86, 0x68E, 1), (0xFB87, 0x68E, 1), (0xFB88, 0x688, 1), (0xFB89, 0x688, 1),
  (0xFB8A, 0x698, 1), (0xFB8B, 0x698, 1), (0xFB8C, 0x691, 1), (0xFB8D, 0x691, 1),
  (0xFB8E, 0x6A9, 1), (0xFB8F, 0x6A9, 1), (0xFB90, 0x6A9, 1), (0xFB91, 0x6A9, 1),
  (0xFB92, 0x6AF, 1), (0xFB93, 0x6AF, 1), (0xFB94, 0x6AF, 1), (0xFB95, 0x6AF, 1),
  (0xFB96, 0x6B3, 1), (0xFB97, 0x6B3, 1), (0xFB98, 0x6B3, 1), (0xFB99, 0x6B3, 1),
  (0xFB9A, 0x6B1, 1), (0xFB9B, 0x6B1, 1), (0xFB9C, 0x6B1, 1), (0xFB9D, 0x6B1, 1),
  (0xFB9E, 0x6BA, 1), (0xFB9F, 0x6BA, 2), (0xFBA1, 0x6BB, 1), (0xFBA2, 0x6BB, 1),
  (0xFBA3, 0x6BB, 1), (0xFBA4, 0x6C0, 1), (0xFBA5, 0x6C0, 2), (0xFBA7, 0x6C1, 1),
  (0xFBA8, 0x6C1, 1), (0xFBA9, 0x6C1, 1), (0xFBAA, 0x6BE, 1), (0xFBAB, 0x6BE, 1),
  (0xFBAC, 0x6BE, 1), (0xFBAD, 0x6BE, 1), (0xFBAE, 0x6D2, 1), (0xFBAF, 0x6D2, 2),
  (0xFBB1, 0x6D3, 1), (0xFBD3, 0x6AD, 1), (0xFBD4, 0x6AD, 1), (0xFBD5, 0x6AD, 1),
  (0xFBD6, 0x6AD, 1), (0xFBD7, 0x6C7, 1), (0xFBD8, 0x6C7, 1), (0xFBD9, 0x6C6, 1),
  (0xFBDA, 0x6C6, 1), (0xFBDB, 0x6C8, 1), (0xFBDC, 0x6C8, 1), (0xFBDE, 0x6CB, 1),
  (0xFBDF, 0x6CB, 1), (0xFBE0, 0x6C5, 1), (0xFBE1, 0x6C5, 1), (0xFBE2, 0x6C9, 1),
  (0xFBE3, 0x6C9, 1), (0xFBE4, 0x6D0, 1), (0xFBE5, 0x6D0, 1), (0xFBE6, 0x6D0, 1),
  (0xFBE7, 0x6D0, 1), (0xFBE8, 0x649, 1), (0xFBE9, 0x649, 1), (0xFBFC, 0x6CC, 1),
  (0xFBFD, 0x6CC, 1), (0xFBFE, 0x6CC, 1), (0xFBFF, 0x6CC, 1), (0xFE33, 0x5F, 1),
  (0xFE34, 0x5F, 1), (0xFE4D, 0x5F, 1), (0xFE4E, 0x5F, 1), (0xFE4F, 0x5F, 1), (0xFE80, 0x621, 2),
  (0xFE82, 0x622, 2), (0xFE84, 0x623, 2), (0xFE86, 0x624, 2), (0xFE88, 0x625, 2),
  (0xFE8A, 0x626, 1), (0xFE8B, 0x626, 1), (0xFE8C, 0x626, 2), (0xFE8E, 0x627, 2),
  (0xFE90, 0x628, 1), (0xFE91, 0x628, 1), (0xFE92, 0x628, 2), (0xFE94, 0x629, 2),
  (0xFE96, 0x62A, 1), (0xFE97, 0x62A, 1), (0xFE98, 0x62A, 2), (0xFE9A, 0x62B, 1),
  (0xFE9B, 0x62B, 1), (0xFE9C, 0x62B, 2), (0xFE9E, 0x62C, 1), (0xFE9F, 0x62C, 1),
  (0xFEA0, 0x62C, 2), (0xFEA2, 0x62D, 1), (0xFEA3, 0x62D, 1), (0xFEA4, 0x62D, 2),
  (0xFEA6, 0x62E, 1), (0xFEA7, 0x62E, 1), (0xFEA8, 0x62E, 2), (0xFEAA, 0x62F, 2),
  (0xFEAC, 0x630, 2), (0xFEAE, 0x631, 2), (0xFEB0, 0x632, 2), (0xFEB2, 0x633, 1),
  (0xFEB3, 0x633, 1), (0xFEB4, 0x633, 2), (0xFEB6, 0x634, 1), (0xFEB7, 0x634, 1),
  (0xFEB8, 0x634, 2), (0xFEBA, 0x635, 1), (0xFEBB, 0x635, 1), (0xFEBC, 0x635, 2),
  (0xFEBE, 0x636, 1), (0xFEBF, 0x636, 1), (0xFEC0, 0x636, 2), (0xFEC2, 0x637, 1),
  (0xFEC3, 0x637, 1), (0xFEC4, 0x637, 2), (0xFEC6, 0x638, 1), (0xFEC7, 0x638, 1),
  (0xFEC8, 0x638, 2), (0xFECA, 0x639, 1), (0xFECB, 0x639, 1), (0xFECC, 0x639, 2),
  (0xFECE, 0x63A, 1), (0xFECF, 0x63A, 1), (0xFED0, 0x63A, 1), (0xFED1, 0x641, 1),
  (0xFED2, 0x641, 1), (0xFED3, 0x641, 1), (0xFED4, 0x641, 2), (0xFED6, 0x642, 1),
  (0xFED7, 0x642, 1), (0xFED8, 0x642, 2), (0xFEDA, 0x643, 1), (0xFEDB, 0x643, 1),
  (0xFEDC, 0x643, 2), (0xFEDE, 0x644, 1), (0xFEDF, 0x644, 1), (0xFEE0, 0x644, 2),
  (0xFEE2, 0x645, 1), (0xFEE3, 0x645, 1), (0xFEE4, 0x645, 2), (0xFEE6, 0x646, 1),
  (0xFEE7, 0x646, 1), (0xFEE8, 0x646, 2), (0xFEEA, 0x647, 1), (0xFEEB, 0x647, 1),
  (0xFEEC, 0x647, 2), (0xFEEE, 0x648, 2), (0xFEF0, 0x649, 2), (0xFEF2, 0x64A, 1),
  (0xFEF3, 0x64A, 1), (0xFEF4, 0x64A, 1), (0xFF10, 0x30, 10), (0xFF21, 0x41, 26),
  (0xFF3F, 0x5F, 1), (0xFF41, 0x61, 26), (0xFF66, 0x30F2, 1), (0xFF67, 0x30A1, 1),
  (0xFF68, 0x30A3, 1), (0xFF69, 0x30A5, 1), (0xFF6A, 0x30A7, 1), (0xFF6B, 0x30A9, 1),
  (0xFF6C, 0x30E3, 1), (0xFF6D, 0x30E5, 1), (0xFF6E, 0x30E7, 1), (0xFF6F, 0x30C3, 1),
  (0xFF70, 0x30FC, 1), (0xFF71, 0x30A2, 1), (0xFF72, 0x30A4, 1), (0xFF73, 0x30A6, 1),
  (0xFF74, 0x30A8, 1), (0xFF75, 0x30AA, 2), (0xFF77, 0x30AD, 1), (0xFF78, 0x30AF, 1),
  (0xFF79, 0x30B1, 1), (0xFF7A, 0x30B3, 1), (0xFF7B, 0x30B5, 1), (0xFF7C, 0x30B7, 1),
  (0xFF7D, 0x30B9, 1), (0xFF7E, 0x30BB, 1), (0xFF7F, 0x30BD, 1), (0xFF80, 0x30BF, 1),
  (0xFF81, 0x30C1, 1), (0xFF82, 0x30C4, 1), (0xFF83, 0x30C6, 1), (0xFF84, 0x30C8, 1),
  (0xFF85, 0x30CA, 6), (0xFF8B, 0x30D2, 1), (0xFF8C, 0x30D5, 1), (0xFF8D, 0x30D8, 1),
  (0xFF8E, 0x30DB, 1), (0xFF8F, 0x30DE, 5), (0xFF94, 0x30E4, 1), (0xFF95, 0x30E6, 1),
  (0xFF96, 0x30E8, 6), (0xFF9C, 0x30EF, 1), (0xFF9D, 0x30F3, 1), (0xFF9E, 0x3099, 2),
  (0xFFA0, 0x1160, 1), (0xFFA1, 0x1100, 2), (0xFFA3, 0x11AA, 1), (0xFFA4, 0x1102, 1),
  (0xFFA5, 0x11AC, 2), (0xFFA7, 0x1103, 3), (0xFFAA, 0x11B0, 6), (0xFFB0, 0x111A, 1),
  (0xFFB1, 0x1106, 3), (0xFFB4, 0x1121, 1), (0xFFB5, 0x1109, 10), (0xFFC2, 0x1161, 6),
  (0xFFCA, 0x1167, 6), (0xFFD2, 0x116D, 6), (0xFFDA, 0x1173, 3), (0x10781, 0x2D0, 2),
  (0x10783, 0xE6, 1), (0x10784, 0x299, 1), (0x10785, 0x253, 1), (0x10787, 0x2A3, 1),
  (0x10788, 0xAB66, 1), (0x10789, 0x2A5, 1), (0x1078A, 0x2A4, 1), (0x1078B, 0x256, 2),
  (0x1078D, 0x1D91, 1), (0x1078E, 0x258, 1), (0x1078F, 0x25E, 1), (0x10790, 0x2A9, 1),
  (0x10791, 0x264, 1), (0x10792, 0x262, 1), (0x10793, 0x260, 1), (0x10794, 0x29B, 1),
  (0x10795, 0x127, 1), (0x10796, 0x29C, 1), (0x10797, 0x267, 1), (0x10798, 0x284, 1),
  (0x10799, 0x2AA, 2), (0x1079B, 0x26C, 1), (0x1079C, 0x1DF04, 1), (0x1079D, 0xA78E, 1),
  (0x1079E, 0x26E, 1), (0x1079F, 0x1DF05, 1), (0x107A0, 0x28E, 1), (0x107A1, 0x1DF06, 1),
  (0x107A2, 0xF8, 1), (0x107A3, 0x276, 2), (0x107A5, 0x71, 1), (0x107A6, 0x27A, 1),
  (0x107A7, 0x1DF08, 1), (0x107A8, 0x27D, 2), (0x107AA, 0x280, 1), (0x107AB, 0x2A8, 1),
  (0x107AC, 0x2A6, 1), (0x107AD, 0xAB67, 1), (0x107AE, 0x2A7, 1), (0x107AF, 0x288, 1),
  (0x107B0, 0x2C71, 1), (0x107B2, 0x28F, 1), (0x107B3, 0x2A1, 2), (0x107B5, 0x298, 1),
  (0x107B6, 0x1C0, 3), (0x107B9, 0x1DF0A, 1), (0x107BA, 0x1DF1E, 1), (0x1D400, 0x41, 26),
  (0x1D41A, 0x61, 26), (0x1D434, 0x41, 26), (0x1D44E, 0x61, 7), (0x1D456, 0x69, 18),
  (0x1D468, 0x41, 26), (0x1D482, 0x61, 26), (0x1D49C, 0x41, 1), (0x1D49E, 0x43, 2),
  (0x1D4A2, 0x47, 1), (0x1D4A5, 0x4A, 2), (0x1D4A9, 0x4E, 4), (0x1D4AE, 0x53, 8),
  (0x1D4B6, 0x61, 4), (0x1D4BB, 0x66, 1), (0x1D4BD, 0x68, 7), (0x1D4C5, 0x70, 11),
  (0x1D4D0, 0x41, 26), (0x1D4EA, 0x61, 26), (0x1D504, 0x41, 2), (0x1D507, 0x44, 4),
  (0x1D50D, 0x4A, 8), (0x1D516, 0x53, 7), (0x1D51E, 0x61, 26), (0x1D538, 0x41, 2),
  (0x1D53B, 0x44, 4), (0x1D540, 0x49, 5), (0x1D546, 0x4F, 1), (0x1D54A, 0x53, 7),
  (0x1D552, 0x61, 26), (0x1D56C, 0x41, 26), (0x1D586, 0x61, 26), (0x1D5A0, 0x41, 26),
  (0x1D5BA, 0x61, 26), (0x1D5D4, 0x41, 26), (0x1D5EE, 0x61, 26), (0x1D608, 0x41, 26),
  (0x1D622, 0x61, 26), (0x1D63C, 0x41, 26), (0x1D656, 0x61, 26), (0x1D670, 0x41, 26),
  (0x1D68A, 0x61, 26), (0x1D6A4, 0x131, 1), (0x1D6A5, 0x237, 1), (0x1D6A8, 0x391, 17),
  (0x1D6B9, 0x398, 1), (0x1D6BA, 0x3A3, 7), (0x1D6C2, 0x3B1, 25), (0x1D6DC, 0x3B5, 1),
  (0x1D6DD, 0x3B8, 1), (0x1D6DE, 0x3BA, 1), (0x1D6DF, 0x3C6, 1), (0x1D6E0, 0x3C1, 1),
  (0x1D6E1, 0x3C0, 1), (0x1D6E2, 0x391, 17), (0x1D6F3, 0x398, 1), (0x1D6F4, 0x3A3, 7),
  (0x1D6FC, 0x3B1, 25), (0x1D716, 0x3B5, 1), (0x1D717, 0x3B8, 1), (0x1D718, 0x3BA, 1),
  (0x1D719, 0x3C6, 1), (0x1D71A, 0x3C1, 1), (0x1D71B, 0x3C0, 1), (0x1D71C, 0x391, 17),
  (0x1D72D, 0x398, 1), (0x1D72E, 0x3A3, 7), (0x1D736, 0x3B1, 25), (0x1D750, 0x3B5, 1),
  (0x1D751, 0x3B8, 1), (0x1D752, 0x3BA, 1), (0x1D753, 0x3C6, 1), (0x1D754, 0x3C1, 1),
  (0x1D755, 0x3C0, 1), (0x1D756, 0x391, 17), (0x1D767, 0x398, 1), (0x1D768, 0x3A3, 7),
  (0x1D770, 0x3B1, 25), (0x1D78A, 0x3B5, 1), (0x1D78B, 0x3B8, 1), (0x1D78C, 0x3BA, 1),
  (0x1D78D, 0x3C6, 1), (0x1D78E, 0x3C1, 1), (0x1D78F, 0x3C0, 1), (0x1D790, 0x391, 17),
  (0x1D7A1, 0x398, 1), (0x1D7A2, 0x3A3, 7), (0x1D7AA, 0x3B1, 25), (0x1D7C4, 0x3B5, 1),
  (0x1D7C5, 0x3B8, 1), (0x1D7C6, 0x3BA, 1), (0x1D7C7, 0x3C6, 1), (0x1D7C8, 0x3C1, 1),
  (0x1D7C9, 0x3C0, 1), (0x1D7CA, 0x3DC, 2), (0x1D7CE, 0x30, 10), (0x1D7D8, 0x30, 10),
  (0x1D7E2, 0x30, 10), (0x1D7EC, 0x30, 10), (0x1D7F6, 0x30, 10), (0x1EE00, 0x627, 2),
  (0x1EE02, 0x62C, 1), (0x1EE03, 0x62F, 1), (0x1EE05, 0x648, 1), (0x1EE06, 0x632, 1),
  (0x1EE07, 0x62D, 1), (0x1EE08, 0x637, 1), (0x1EE09, 0x64A, 1), (0x1EE0A, 0x643, 4),
  (0x1EE0E, 0x633, 1), (0x1EE0F, 0x639, 1), (0x1EE10, 0x641, 1), (0x1EE11, 0x635, 1),
  (0x1EE12, 0x642, 1), (0x1EE13, 0x631, 1), (0x1EE14, 0x634, 1), (0x1EE15, 0x62A, 2),
  (0x1EE17, 0x62E, 1), (0x1EE18, 0x630, 1), (0x1EE19, 0x636, 1), (0x1EE1A, 0x638, 1),
  (0x1EE1B, 0x63A, 1), (0x1EE1C, 0x66E, 1), (0x1EE1D, 0x6BA, 1), (0x1EE1E, 0x6A1, 1),
  (0x1EE1F, 0x66F, 1), (0x1EE21, 0x628, 1), (0x1EE22, 0x62C, 1), (0x1EE24, 0x647, 1),
  (0x1EE27, 0x62D, 1), (0x1EE29, 0x64A, 1), (0x1EE2A, 0x643, 4), (0x1EE2E, 0x633, 1),
  (0x1EE2F, 0x639, 1), (0x1EE30, 0x641, 1), (0x1EE31, 0x635, 1), (0x1EE32, 0x642, 1),
  (0x1EE34, 0x634, 1), (0x1EE35, 0x62A, 2), (0x1EE37, 0x62E, 1), (0x1EE39, 0x636, 1),
  (0x1EE3B, 0x63A, 1), (0x1EE42, 0x62C, 1), (0x1EE47, 0x62D, 1), (0x1EE49, 0x64A, 1),
  (0x1EE4B, 0x644, 1), (0x1EE4D, 0x646, 1), (0x1EE4E, 0x633, 1), (0x1EE4F, 0x639, 1),
  (0x1EE51, 0x635, 1), (0x1EE52, 0x642, 1), (0x1EE54, 0x634, 1), (0x1EE57, 0x62E, 1),
  (0x1EE59, 0x636, 1), (0x1EE5B, 0x63A, 1), (0x1EE5D, 0x6BA, 1), (0x1EE5F, 0x66F, 1),
  (0x1EE61, 0x628, 1), (0x1EE62, 0x62C, 1), (0x1EE64, 0x647, 1), (0x1EE67, 0x62D, 1),
  (0x1EE68, 0x637, 1), (0x1EE69, 0x64A, 1), (0x1EE6A, 0x643, 1), (0x1EE6C, 0x645, 2),
  (0x1EE6E, 0x633, 1), (0x1EE6F, 0x639, 1), (0x1EE70, 0x641, 1), (0x1EE71, 0x635, 1),
  (0x1EE72, 0x642, 1), (0x1EE74, 0x634, 1), (0x1EE75, 0x62A, 2), (0x1EE77, 0x62E, 1),
  (0x1EE79, 0x636, 1), (0x1EE7A, 0x638, 1), (0x1EE7B, 0x63A, 1), (0x1EE7C, 0x66E, 1),
  (0x1EE7E, 0x6A1, 1), (0x1EE80, 0x627, 2), (0x1EE82, 0x62C, 1), (0x1EE83, 0x62F, 1),
  (0x1EE84, 0x647, 2), (0x1EE86, 0x632, 1), (0x1EE87, 0x62D, 1), (0x1EE88, 0x637, 1),
  (0x1EE89, 0x64A, 1), (0x1EE8B, 0x644, 3), (0x1EE8E, 0x633, 1), (0x1EE8F, 0x639, 1),
  (0x1EE90, 0x641, 1), (0x1EE91, 0x635, 1), (0x1EE92, 0x642, 1), (0x1EE93, 0x631, 1),
  (0x1EE94, 0x634, 1), (0x1EE95, 0x62A, 2), (0x1EE97, 0x62E, 1), (0x1EE98, 0x630, 1),
  (0x1EE99, 0x636, 1), (0x1EE9A, 0x638, 1), (0x1EE9B, 0x63A, 1), (0x1EEA1, 0x628, 1),
  (0x1EEA2, 0x62C, 1), (0x1EEA3, 0x62F, 1), (0x1EEA5, 0x648, 1), (0x1EEA6, 0x632, 1),
  (0x1EEA7, 0x62D, 1), (0x1EEA8, 0x637, 1), (0x1EEA9, 0x64A, 1), (0x1EEAB, 0x644, 3),
  (0x1EEAE, 0x633, 1), (0x1EEAF, 0x639, 1), (0x1EEB0, 0x641, 1), (0x1EEB1, 0x635, 1),
  (0x1EEB2, 0x642, 1), (0x1EEB3, 0x631, 1), (0x1EEB4, 0x634, 1), (0x1EEB5, 0x62A, 2),
  (0x1EEB7, 0x62E, 1), (0x1EEB8, 0x630, 1), (0x1EEB9, 0x636, 1), (0x1EEBA, 0x638, 1),
  (0x1EEBB, 0x63A, 1), (0x1FBF0, 0x30, 10)
]

/-- Characters that stand for several ASCII characters. -/
def compatibleTexts : Array (Nat × String) := #[
  (0x132, "IJ"), (0x133, "ij"), (0x1C7, "LJ"), (0x1C8, "Lj"), (0x1C9, "lj"), (0x1CA, "NJ"),
  (0x1CB, "Nj"), (0x1CC, "nj"), (0x1F1, "DZ"), (0x1F2, "Dz"), (0x1F3, "dz"), (0x2161, "II"),
  (0x2162, "III"), (0x2163, "IV"), (0x2165, "VI"), (0x2166, "VII"), (0x2167, "VIII"),
  (0x2168, "IX"), (0x216A, "XI"), (0x216B, "XII"), (0x2171, "ii"), (0x2172, "iii"),
  (0x2173, "iv"), (0x2175, "vi"), (0x2176, "vii"), (0x2177, "viii"), (0x2178, "ix"),
  (0x217A, "xi"), (0x217B, "xii"), (0xFB00, "ff"), (0xFB01, "fi"), (0xFB02, "fl"),
  (0xFB03, "ffi"), (0xFB04, "ffl"), (0xFB05, "st"), (0xFB06, "st")
]

/-- Letters with a combining mark and the accented letter that both make up. -/
def compositions : Array (Nat × Nat × Nat) := #[
  (0x41, 0x300, 0xC0), (0x41, 0x301, 0xC1), (0x41, 0x302, 0xC2), (0x41, 0x303, 0xC3),
  (0x41, 0x308, 0xC4), (0x41, 0x30A, 0xC5), (0x43, 0x327, 0xC7), (0x45, 0x300, 0xC8),
  (0x45, 0x301, 0xC9), (0x45, 0x302, 0xCA), (0x45, 0x308, 0xCB), (0x49, 0x300, 0xCC),
  (0x49, 0x301, 0xCD), (0x49, 0x302, 0xCE), (0x49, 0x308, 0xCF), (0x4E, 0x303, 0xD1),
  (0x4F, 0x300, 0xD2), (0x4F, 0x301, 0xD3), (0x4F, 0x302, 0xD4), (0x4F, 0x303, 0xD5),
  (0x4F, 0x308, 0xD6), (0x55, 0x300, 0xD9), (0x55, 0x301, 0xDA), (0x55, 0x302, 0xDB),
  (0x55, 0x308, 0xDC), (0x59, 0x301, 0xDD), (0x61, 0x300, 0xE0), (0x61, 0x301, 0xE1),
  (0x61, 0x302, 0xE2), (0x61, 0x303, 0xE3), (0x61, 0x308, 0xE4), (0x61, 0x30A, 0xE5),
  (0x63, 0x327, 0xE7), (0x65, 0x300, 0xE8), (0x65, 0x301, 0xE9), (0x65, 0x302, 0xEA),
  (0x65, 0x308, 0xEB), (0x69, 0x300, 0xEC), (0x69, 0x301, 0xED), (0x69, 0x302, 0xEE),
  (0x69, 0x308, 0xEF), (0x6E, 0x303, 0xF1), (0x6F, 0x300, 0xF2), (0x6F, 0x301, 0xF3),
  (0x6F, 0x302, 0xF4), (0x6F, 0x303, 0xF5), (0x6F, 0x308, 0xF6), (0x75, 0x300, 0xF9),
  (0x75, 0x301, 0xFA), (0x75, 0x302, 0xFB), (0x75, 0x308, 0xFC), (0x79, 0x301, 0xFD),
  (0x79, 0x308, 0xFF), (0x41, 0x304, 0x100), (0x61, 0x304, 0x101), (0x41, 0x306, 0x102),
  (0x61, 0x306, 0x103), (0x41, 0x328, 0x104), (0x61, 0x328, 0x105), (0x43, 0x301, 0x106),
  (0x63, 0x301, 0x107), (0x43, 0x302, 0x108), (0x63, 0x302, 0x109), (0x43, 0x307, 0x10A),
  (0x63, 0x307, 0x10B), (0x43, 0x30C, 0x10C), (0x63, 0x30C, 0x10D), (0x44, 0x30C, 0x10E),
  (0x64, 0x30C, 0x10F), (0x45, 0x304, 0x112), (0x65, 0x304, 0x113), (0x45, 0x306, 0x114),
  (0x65, 0x306, 0x115), (0x45, 0x307, 0x116), (0x65, 0x307, 0x117), (0x45, 0x328, 0x118),
  (0x65, 0x328, 0x119), (0x45, 0x30C, 0x11A), (0x65, 0x30C, 0x11B), (0x47, 0x302, 0x11C),
  (0x67, 0x302, 0x11D), (0x47, 0x306, 0x11E), (0x67, 0x306, 0x11F), (0x47, 0x307, 0x120),
  (0x67, 0x307, 0x121), (0x47, 0x327, 0x122), (0x67, 0x327, 0x123), (0x48, 0x302, 0x124),
  (0x68, 0x302, 0x125), (0x49, 0x303, 0x128), (0x69, 0x303, 0x129), (0x49, 0x304, 0x12A),
  (0x69, 0x304, 0x12B), (0x49, 0x306, 0x12C), (0x69, 0x306, 0x12D), (0x49, 0x328, 0x12E),
  (0x69, 0x328, 0x12F), (0x49, 0x307, 0x130), (0x4A, 0x302, 0x134), (0x6A, 0x302, 0x135),
  (0x4B, 0x327, 0x136), (0x6B, 0x327, 0x137), (0x4C, 0x301, 0x139), (0x6C, 0x301, 0x13A),
  (0x4C, 0x327, 0x13B), (0x6C, 0x327, 0x13C), (0x4C, 0x30C, 0x13D), (0x6C, 0x30C, 0x13E),
  (0x4E, 0x301, 0x143), (0x6E, 0x301, 0x144), (0x4E, 0x327, 0x145), (0x6E, 0x327, 0x146),
  (0x4E, 0x30C, 0x147), (0x6E, 0x30C, 0x148), (0x4F, 0x304, 0x14C), (0x6F, 0x304, 0x14D),
  (0x4F, 0x306, 0x14E), (0x6F, 0x306, 0x14F), (0x4F, 0x30B, 0x150), (0x6F, 0x30B, 0x151),
  (0x52, 0x301, 0x154), (0x72, 0x301, 0x155), (0x52, 0x327, 0x156), (0x72, 0x327, 0x157),
  (0x52, 0x30C, 0x158), (0x72, 0x30C, 0x159), (0x53, 0x301, 0x15A), (0x73, 0x301, 0x15B),
  (0x53, 0x302, 0x15C), (0x73, 0x302, 0x15D), (0x53, 0x327, 0x15E), (0x73, 0x327, 0x15F),
  (0x53, 0x30C, 0x160), (0x73, 0x30C, 0x161), (0x54, 0x327, 0x162), (0x74, 0x327, 0x163),
  (0x54, 0x30C, 0x164), (0x74, 0x30C, 0x165), (0x55, 0x303, 0x168), (0x75, 0x303, 0x169),
  (0x55, 0x304, 0x16A), (0x75, 0x304, 0x16B), (0x55, 0x306, 0x16C), (0x75, 0x306, 0x16D),
  (0x55, 0x30A, 0x16E), (0x75, 0x30A, 0x16F), (0x55, 0x30B, 0x170), (0x75, 0x30B, 0x171),
  (0x55, 0x328, 0x172), (0x75, 0x328, 0x173), (0x57, 0x302, 0x174), (0x77, 0x302, 0x175),
  (0x59, 0x302, 0x176), (0x79, 0x302, 0x177), (0x59, 0x308, 0x178), (0x5A, 0x301, 0x179),
  (0x7A, 0x301, 0x17A), (0x5A, 0x307, 0x17B), (0x7A, 0x307, 0x17C), (0x5A, 0x30C, 0x17D),
  (0x7A, 0x30C, 0x17E), (0x4F, 0x31B, 0x1A0), (0x6F, 0x31B, 0x1A1), (0x55, 0x31B, 0x1AF),
  (0x75, 0x31B, 0x1B0), (0x41, 0x30C, 0x1CD), (0x61, 0x30C, 0x1CE), (0x49, 0x30C, 0x1CF),
  (0x69, 0x30C, 0x1D0), (0x4F, 0x30C, 0x1D1), (0x6F, 0x30C, 0x1D2), (0x55, 0x30C, 0x1D3),
  (0x75, 0x30C, 0x1D4), (0xDC, 0x304, 0x1D5), (0xFC, 0x304, 0x1D6), (0xDC, 0x301, 0x1D7),
  (0xFC, 0x301, 0x1D8), (0xDC, 0x30C, 0x1D9), (0xFC, 0x30C, 0x1DA), (0xDC, 0x300, 0x1DB),
  (0xFC, 0x300, 0x1DC), (0xC4, 0x304, 0x1DE), (0xE4, 0x304, 0x1DF), (0x226, 0x304, 0x1E0),
  (0x227, 0x304, 0x1E1), (0xC6, 0x304, 0x1E2), (0xE6, 0x304, 0x1E3), (0x47, 0x30C, 0x1E6),
  (0x67, 0x30C, 0x1E7), (0x4B, 0x30C, 0x1E8), (0x6B, 0x30C, 0x1E9), (0x4F, 0x328, 0x1EA),
  (0x6F, 0x328, 0x1EB), (0x1EA, 0x304, 0x1EC), (0x1EB, 0x304, 0x1ED), (0x1B7, 0x30C, 0x1EE),
  (0x292, 0x30C, 0x1EF), (0x6A, 0x30C, 0x1F0), (0x47, 0x301, 0x1F4), (0x67, 0x301, 0x1F5),
  (0x4E, 0x300, 0x1F8), (0x6E, 0x300, 0x1F9), (0xC5, 0x301, 0x1FA), (0xE5, 0x301, 0x1FB),
  (0xC6, 0x301, 0x1FC), (0xE6, 0x301, 0x1FD), (0xD8, 0x301, 0x1FE), (0xF8, 0x301, 0x1FF),
  (0x41, 0x30F, 0x200), (0x61, 0x30F, 0x201), (0x41, 0x311, 0x202), (0x61, 0x311, 0x203),
  (0x45, 0x30F, 0x204), (0x65, 0x30F, 0x205), (0x45, 0x311, 0x206), (0x65, 0x311, 0x207),
  (0x49, 0x30F, 0x208), (0x69, 0x30F, 0x209), (0x49, 0x311, 0x20A), (0x69, 0x311, 0x20B),
  (0x4F, 0x30F, 0x20C), (0x6F, 0x30F, 0x20D), (0x4F, 0x311, 0x20E), (0x6F, 0x311, 0x20F),
  (0x52, 0x30F, 0x210), (0x72, 0x30F, 0x211), (0x52, 0x311, 0x212), (0x72, 0x311, 0x213),
  (0x55, 0x30F, 0x214), (0x75, 0x30F, 0x215), (0x55, 0x311, 0x216), (0x75, 0x311, 0x217),
  (0x53, 0x326, 0x218), (0x73, 0x326, 0x219), (0x54, 0x326, 0x21A), (0x74, 0x326, 0x21B),
  (0x48, 0x30C, 0x21E), (0x68, 0x30C, 0x21F), (0x41, 0x307, 0x226), (0x61, 0x307, 0x227),
  (0x45, 0x327, 0x228), (0x65, 0x327, 0x229), (0xD6, 0x304, 0x22A), (0xF6, 0x304, 0x22B),
  (0xD5, 0x304, 0x22C), (0xF5, 0x304, 0x22D), (0x4F, 0x307, 0x22E), (0x6F, 0x307, 0x22F),
  (0x22E, 0x304, 0x230), (0x22F, 0x304, 0x231), (0x59, 0x304, 0x232), (0x79, 0x304, 0x233),
  (0xA8, 0x301, 0x385), (0x391, 0x301, 0x386), (0x395, 0x301, 0x388), (0x397, 0x301, 0x389),
  (0x399, 0x301, 0x38A), (0x39F, 0x301, 0x38C), (0x3A5, 0x301, 0x38E), (0x3A9, 0x301, 0x38F),
  (0x3CA, 0x301, 0x390), (0x399, 0x308, 0x3AA), (0x3A5, 0x308, 0x3AB), (0x3B1, 0x301, 0x3AC),
  (0x3B5, 0x301, 0x3AD), (0x3B7, 0x301, 0x3AE), (0x3B9, 0x301, 0x3AF), (0x3CB, 0x301, 0x3B0),
  (0x3B9, 0x308, 0x3CA), (0x3C5, 0x308, 0x3CB), (0x3BF, 0x301, 0x3CC), (0x3C5, 0x301, 0x3CD),
  (0x3C9, 0x301, 0x3CE), (0x3D2, 0x301, 0x3D3), (0x3D2, 0x308, 0x3D4), (0x415, 0x300, 0x400),
  (0x415, 0x308, 0x401), (0x413, 0x301, 0x403), (0x406, 0x308, 0x407), (0x41A, 0x301, 0x40C),
  (0x418, 0x300, 0x40D), (0x423, 0x306, 0x40E), (0x418, 0x306, 0x419), (0x438, 0x306, 0x439),
  (0x435, 0x300, 0x450), (0x435, 0x308, 0x451), (0x433, 0x301, 0x453), (0x456, 0x308, 0x457),
  (0x43A, 0x301, 0x45C), (0x438, 0x300, 0x45D), (0x443, 0x306, 0x45E), (0x474, 0x30F, 0x476),
  (0x475, 0x30F, 0x477), (0x416, 0x306, 0x4C1), (0x436, 0x306, 0x4C2), (0x410, 0x306, 0x4D0),
  (0x430, 0x306, 0x4D1), (0x410, 0x308, 0x4D2), (0x430, 0x308, 0x4D3), (0x415, 0x306, 0x4D6),
  (0x435, 0x306, 0x4D7), (0x4D8, 0x308, 0x4DA), (0x4D9, 0x308, 0x4DB), (0x416, 0x308, 0x4DC),
  (0x436, 0x308, 0x4DD), (0x417, 0x308, 0x4DE), (0x437, 0x308, 0x4DF), (0x418, 0x304, 0x4E2),
  (0x438, 0x304, 0x4E3), (0x418, 0x308, 0x4E4), (0x438, 0x308, 0x4E5), (0x41E, 0x308, 0x4E6),
  (0x43E, 0x308, 0x4E7), (0x4E8, 0x308, 0x4EA), (0x4E9, 0x308, 0x4EB), (0x42D, 0x308, 0x4EC),
  (0x44D, 0x308, 0x4ED), (0x423, 0x304, 0x4EE), (0x443, 0x304, 0x4EF), (0x423, 0x308, 0x4F0),
  (0x443, 0x308, 0x4F1), (0x423, 0x30B, 0x4F2), (0x443, 0x30B, 0x4F3), (0x427, 0x308, 0x4F4),
  (0x447, 0x308, 0x4F5), (0x42B, 0x308, 0x4F8), (0x44B, 0x308, 0x4F9), (0x627, 0x653, 0x622),
  (0x627, 0x654, 0x623), (0x648, 0x654, 0x624), (0x627, 0x655, 0x625), (0x64A, 0x654, 0x626),
  (0x6D5, 0x654, 0x6C0), (0x6C1, 0x654, 0x6C2), (0x6D2, 0x654, 0x6D3), (0x928, 0x93C, 0x929),
  (0x930, 0x93C, 0x931), (0x933, 0x93C, 0x934), (0x9C7, 0x9BE, 0x9CB), (0x9C7, 0x9D7, 0x9CC),
  (0xB47, 0xB56, 0xB48), (0xB47, 0xB3E, 0xB4B), (0xB47, 0xB57, 0xB4C), (0xB92, 0xBD7, 0xB94),
  (0xBC6, 0xBBE, 0xBCA), (0xBC7, 0xBBE, 0xBCB), (0xBC6, 0xBD7, 0xBCC), (0xC46, 0xC56, 0xC48),
  (0xCBF, 0xCD5, 0xCC0), (0xCC6, 0xCD5, 0xCC7), (0xCC6, 0xCD6, 0xCC8), (0xCC6, 0xCC2, 0xCCA),
  (0xCCA, 0xCD5, 0xCCB), (0xD46, 0xD3E, 0xD4A), (0xD47, 0xD3E, 0xD4B), (0xD46, 0xD57, 0xD4C),
  (0xDD9, 0xDCA, 0xDDA), (0xDD9, 0xDCF, 0xDDC), (0xDDC, 0xDCA, 0xDDD), (0xDD9, 0xDDF, 0xDDE),
  (0x1025, 0x102E, 0x1026), (0x1B05, 0x1B35, 0x1B06), (0x1B07, 0x1B35, 0x1B08),
  (0x1B09, 0x1B35, 0x1B0A), (0x1B0B, 0x1B35, 0x1B0C), (0x1B0D, 0x1B35, 0x1B0E),
  (0x1B11, 0x1B35, 0x1B12), (0x1B3A, 0x1B35, 0x1B3B), (0x1B3C, 0x1B35, 0x1B3D),
  (0x1B3E, 0x1B35, 0x1B40), (0x1B3F, 0x1B35, 0x1B41), (0x1B42, 0x1B35, 0x1B43),
  (0x41, 0x325, 0x1E00), (0x61, 0x325, 0x1E01), (0x42, 0x307, 0x1E02), (0x62, 0x307, 0x1E03),
  (0x42, 0x323, 0x1E04), (0x62, 0x323, 0x1E05), (0x42, 0x331, 0x1E06), (0x62, 0x331, 0x1E07),
  (0xC7, 0x301, 0x1E08), (0xE7, 0x301, 0x1E09), (0x44, 0x307, 0x1E0A), (0x64, 0x307, 0x1E0B),
  (0x44, 0x323, 0x1E0C), (0x64, 0x323, 0x1E0D), (0x44, 0x331, 0x1E0E), (0x64, 0x331, 0x1E0F),
  (0x44, 0x327, 0x1E10), (0x64, 0x327, 0x1E11), (0x44, 0x32D, 0x1E12), (0x64, 0x32D, 0x1E13),
  (0x112, 0x300, 0x1E14), (0x113, 0x300, 0x1E15), (0x112, 0x301, 0x1E16), (0x113, 0x301, 0x1E17),
  (0x45, 0x32D, 0x1E18), (0x65, 0x32D, 0x1E19), (0x45, 0x330, 0x1E1A), (0x65, 0x330, 0x1E1B),
  (0x228, 0x306, 0x1E1C), (0x229, 0x306, 0x1E1D), (0x46, 0x307, 0x1E1E), (0x66, 0x307, 0x1E1F),
  (0x47, 0x304, 0x1E20), (0x67, 0x304, 0x1E21), (0x48, 0x307, 0x1E22), (0x68, 0x307, 0x1E23),
  (0x48, 0x323, 0x1E24), (0x68, 0x323, 0x1E25), (0x48, 0x308, 0x1E26), (0x68, 0x308, 0x1E27),
  (0x48, 0x327, 0x1E28), (0x68, 0x327, 0x1E29), (0x48, 0x32E, 0x1E2A), (0x68, 0x32E, 0x1E2B),
  (0x49, 0x330, 0x1E2C), (0x69, 0x330, 0x1E2D), (0xCF, 0x301, 0x1E2E), (0xEF, 0x301, 0x1E2F),
  (0x4B, 0x301, 0x1E30), (0x6B, 0x301, 0x1E31), (0x4B, 0x323, 0x1E32), (0x6B, 0x323, 0x1E33),
  (0x4B, 0x331, 0x1E34), (0x6B, 0x331, 0x1E35), (0x4C, 0x323, 0x1E36), (0x6C, 0x323, 0x1E37),
  (0x1E36, 0x304, 0x1E38), (0x1E37, 0x304, 0x1E39), (0x4C, 0x331, 0x1E3A), (0x6C, 0x331, 0x1E3B),
  (0x4C, 0x32D, 0x1E3C), (0x6C, 0x32D, 0x1E3D), (0x4D, 0x301, 0x1E3E), (0x6D, 0x301, 0x1E3F),
  (0x4D, 0x307, 0x1E40), (0x6D, 0x307, 0x1E41), (0x4D, 0x323, 0x1E42), (0x6D, 0x323, 0x1E43),
  (0x4E, 0x307, 0x1E44), (0x6E, 0x307, 0x1E45), (0x4E, 0x323, 0x1E46), (0x6E, 0x323, 0x1E47),
  (0x4E, 0x331, 0x1E48), (0x6E, 0x331, 0x1E49), (0x4E, 0x32D, 0x1E4A), (0x6E, 0x32D, 0x1E4B),
  (0xD5, 0x301, 0x1E4C), (0xF5, 0x301, 0x1E4D), (0xD5, 0x308, 0x1E4E), (0xF5, 0x308, 0x1E4F),
  (0x14C, 0x300, 0x1E50), (0x14D, 0x300, 0x1E51), (0x14C, 0x301, 0x1E52), (0x14D, 0x301, 0x1E53),
  (0x50, 0x301, 0x1E54), (0x70, 0x301, 0x1E55), (0x50, 0x307, 0x1E56), (0x70, 0x307, 0x1E57),
  (0x52, 0x307, 0x1E58), (0x72, 0x307, 0x1E59), (0x52, 0x323, 0x1E5A), (0x72, 0x323, 0x1E5B),
  (0x1E5A, 0x304, 0x1E5C), (0x1E5B, 0x304, 0x1E5D), (0x52, 0x331, 0x1E5E), (0x72, 0x331, 0x1E5F),
  (0x53, 0x307, 0x1E60), (0x73, 0x307, 0x1E61), (0x53, 0x323, 0x1E62), (0x73, 0x323, 0x1E63),
  (0x15A, 0x307, 0x1E64), (0x15B, 0x307, 0x1E65), (0x160, 0x307, 0x1E66), (0x161, 0x307, 0x1E67),
  (0x1E62, 0x307, 0x1E68), (0x1E63, 0x307, 0x1E69), (0x54, 0x307, 0x1E6A), (0x74, 0x307, 0x1E6B),
  (0x54, 0x323, 0x1E6C), (0x74, 0x323, 0x1E6D), (0x54, 0x331, 0x1E6E), (0x74, 0x331, 0x1E6F),
  (0x54, 0x32D, 0x1E70), (0x74, 0x32D, 0x1E71), (0x55, 0x324, 0x1E72), (0x75, 0x324, 0x1E73),
  (0x55, 0x330, 0x1E74), (0x75, 0x330, 0x1E75), (0x55, 0x32D, 0x1E76), (0x75, 0x32D, 0x1E77),
  (0x168, 0x301, 0x1E78), (0x169, 0x301, 0x1E79), (0x16A, 0x308, 0x1E7A), (0x16B, 0x308, 0x1E7B),
  (0x56, 0x303, 0x1E7C), (0x76, 0x303, 0x1E7D), (0x56, 0x323, 0x1E7E), (0x76, 0x323, 0x1E7F),
  (0x57, 0x300, 0x1E80), (0x77, 0x300, 0x1E81), (0x57, 0x301, 0x1E82), (0x77, 0x301, 0x1E83),
  (0x57, 0x308, 0x1E84), (0x77, 0x308, 0x1E85), (0x57, 0x307, 0x1E86), (0x77, 0x307, 0x1E87),
  (0x57, 0x323, 0x1E88), (0x77, 0x323, 0x1E89), (0x58, 0x307, 0x1E8A), (0x78, 0x307, 0x1E8B),
  (0x58, 0x308, 0x1E8C), (0x78, 0x308, 0x1E8D), (0x59, 0x307, 0x1E8E), (0x79, 0x307, 0x1E8F),
  (0x5A, 0x302, 0x1E90), (0x7A, 0x302, 0x1E91), (0x5A, 0x323, 0x1E92), (0x7A, 0x323, 0x1E93),
  (0x5A, 0x331, 0x1E94), (0x7A, 0x331, 0x1E95), (0x68, 0x331, 0x1E96), (0x74, 0x308, 0x1E97),
  (0x77, 0x30A, 0x1E98), (0x79, 0x30A, 0x1E99), (0x17F, 0x307, 0x1E9B), (0x41, 0x323, 0x1EA0),
  (0x61, 0x323, 0x1EA1), (0x41, 0x309, 0x1EA2), (0x61, 0x309, 0x1EA3), (0xC2, 0x301, 0x1EA4),
  (0xE2, 0x301, 0x1EA5), (0xC2, 0x300, 0x1EA6), (0xE2, 0x300, 0x1EA7), (0xC2, 0x309, 0x1EA8),
  (0xE2, 0x309, 0x1EA9), (0xC2, 0x303, 0x1EAA), (0xE2, 0x303, 0x1EAB), (0x1EA0, 0x302, 0x1EAC),
  (0x1EA1, 0x302, 0x1EAD), (0x102, 0x301, 0x1EAE), (0x103, 0x301, 0x1EAF), (0x102, 0x300, 0x1EB0),
  (0x103, 0x300, 0x1EB1), (0x102, 0x309, 0x1EB2), (0x103, 0x309, 0x1EB3), (0x102, 0x303, 0x1EB4),
  (0x103, 0x303, 0x1EB5), (0x1EA0, 0x306, 0x1EB6), (0x1EA1, 0x306, 0x1EB7), (0x45, 0x323, 0x1EB8),
  (0x65, 0x323, 0x1EB9), (0x45, 0x309, 0x1EBA), (0x65, 0x309, 0x1EBB), (0x45, 0x303, 0x1EBC),
  (0x65, 0x303, 0x1EBD), (0xCA, 0x301, 0x1EBE), (0xEA, 0x301, 0x1EBF), (0xCA, 0x300, 0x1EC0),
  (0xEA, 0x300, 0x1EC1), (0xCA, 0x309, 0x1EC2), (0xEA, 0x309, 0x1EC3), (0xCA, 0x303, 0x1EC4),
  (0xEA, 0x303, 0x1EC5), (0x1EB8, 0x302, 0x1EC6), (0x1EB9, 0x302, 0x1EC7), (0x49, 0x309, 0x1EC8),
  (0x69, 0x309, 0x1EC9), (0x49, 0x323, 0x1ECA), (0x69, 0x323, 0x1ECB), (0x4F, 0x323, 0x1ECC),
  (0x6F, 0x323, 0x1ECD), (0x4F, 0x309, 0x1ECE), (0x6F, 0x309, 0x1ECF), (0xD4, 0x301, 0x1ED0),
  (0xF4, 0x301, 0x1ED1), (0xD4, 0x300, 0x1ED2), (0xF4, 0x300, 0x1ED3), (0xD4, 0x309, 0x1ED4),
  (0xF4, 0x309, 0x1ED5), (0xD4, 0x303, 0x1ED6), (0xF4, 0x303, 0x1ED7), (0x1ECC, 0x302, 0x1ED8),
  (0x1ECD, 0x302, 0x1ED9), (0x1A0, 0x301, 0x1EDA), (0x1A1, 0x301, 0x1EDB), (0x1A0, 0x300, 0x1EDC),
  (0x1A1, 0x300, 0x1EDD), (0x1A0, 0x309, 0x1EDE), (0x1A1, 0x309, 0x1EDF), (0x1A0, 0x303, 0x1EE0),
  (0x1A1, 0x303, 0x1EE1), (0x1A0, 0x323, 0x1EE2), (0x1A1, 0x323, 0x1EE3), (0x55, 0x323, 0x1EE4),
  (0x75, 0x323, 0x1EE5), (0x55, 0x309, 0x1EE6), (0x75, 0x309, 0x1EE7), (0x1AF, 0x301, 0x1EE8),
  (0x1B0, 0x301, 0x1EE9), (0x1AF, 0x300, 0x1EEA), (0x1B0, 0x300, 0x1EEB), (0x1AF, 0x309, 0x1EEC),
  (0x1B0, 0x309, 0x1EED), (0x1AF, 0x303, 0x1EEE), (0x1B0, 0x303, 0x1EEF), (0x1AF, 0x323, 0x1EF0),
  (0x1B0, 0x323, 0x1EF1), (0x59, 0x300, 0x1EF2), (0x79, 0x300, 0x1EF3), (0x59, 0x323, 0x1EF4),
  (0x79, 0x323, 0x1EF5), (0x59, 0x309, 0x1EF6), (0x79, 0x309, 0x1EF7), (0x59, 0x303, 0x1EF8),
  (0x79, 0x303, 0x1EF9), (0x3B1, 0x313, 0x1F00), (0x3B1, 0x314, 0x1F01), (0x1F00, 0x300, 0x1F02),
  (0x1F01, 0x300, 0x1F03), (0x1F00, 0x301, 0x1F04), (0x1F01, 0x301, 0x1F05),
  (0x1F00, 0x342, 0x1F06), (0x1F01, 0x342, 0x1F07), (0x391, 0x313, 0x1F08),
  (0x391, 0x314, 0x1F09), (0x1F08, 0x300, 0x1F0A), (0x1F09, 0x300, 0x1F0B),
  (0x1F08, 0x301, 0x1F0C), (0x1F09, 0x301, 0x1F0D), (0x1F08, 0x342, 0x1F0E),
  (0x1F09, 0x342, 0x1F0F), (0x3B5, 0x313, 0x1F10), (0x3B5, 0x314, 0x1F11),
  (0x1F10, 0x300, 0x1F12), (0x1F11, 0x300, 0x1F13), (0x1F10, 0x301, 0x1F14),
  (0x1F11, 0x301, 0x1F15), (0x395, 0x313, 0x1F18), (0x395, 0x314, 0x1F19),
  (0x1F18, 0x300, 0x1F1A), (0x1F19, 0x300, 0x1F1B), (0x1F18, 0x301, 0x1F1C),
  (0x1F19, 0x301, 0x1F1D), (0x3B7, 0x313, 0x1F20), (0x3B7, 0x314, 0x1F21),
  (0x1F20, 0x300, 0x1F22), (0x1F21, 0x300, 0x1F23), (0x1F20, 0x301, 0x1F24),
  (0x1F21, 0x301, 0x1F25), (0x1F20, 0x342, 0x1F26), (0x1F21, 0x342, 0x1F27),
  (0x397, 0x313, 0x1F28), (0x397, 0x314, 0x1F29), (0x1F28, 0x300, 0x1F2A),
  (0x1F29, 0x300, 0x1F2B), (0x1F28, 0x301, 0x1F2C), (0x1F29, 0x301, 0x1F2D),
  (0x1F28, 0x342, 0x1F2E), (0x1F29, 0x342, 0x1F2F), (0x3B9, 0x313, 0x1F30),
  (0x3B9, 0x314, 0x1F31), (0x1F30, 0x300, 0x1F32), (0x1F31, 0x300, 0x1F33),
  (0x1F30, 0x301, 0x1F34), (0x1F31, 0x301, 0x1F35), (0x1F30, 0x342, 0x1F36),
  (0x1F31, 0x342, 0x1F37), (0x399, 0x313, 0x1F38), (0x399, 0x314, 0x1F39),
  (0x1F38, 0x300, 0x1F3A), (0x1F39, 0x300, 0x1F3B), (0x1F38, 0x301, 0x1F3C),
  (0x1F39, 0x301, 0x1F3D), (0x1F38, 0x342, 0x1F3E), (0x1F39, 0x342, 0x1F3F),
  (0x3BF, 0x313, 0x1F40), (0x3BF, 0x314, 0x1F41), (0x1F40, 0x300, 0x1F42),
  (0x1F41, 0x300, 0x1F43), (0x1F40, 0x301, 0x1F44), (0x1F41, 0x301, 0x1F45),
  (0x39F, 0x313, 0x1F48), (0x39F, 0x314, 0x1F49), (0x1F48, 0x300, 0x1F4A),
  (0x1F49, 0x300, 0x1F4B), (0x1F48, 0x301, 0x1F4C), (0x1F49, 0x301, 0x1F4D),
  (0x3C5, 0x313, 0x1F50), (0x3C5, 0x314, 0x1F51), (0x1F50, 0x300, 0x1F52),
  (0x1F51, 0x300, 0x1F53), (0x1F50, 0x301, 0x1F54), (0x1F51, 0x301, 0x1F55),
  (0x1F50, 0x342, 0x1F56), (0x1F51, 0x342, 0x1F57), (0x3A5, 0x314, 0x1F59),
  (0x1F59, 0x300, 0x1F5B), (0x1F59, 0x301, 0x1F5D), (0x1F59, 0x342, 0x1F5F),
  (0x3C9, 0x313, 0x1F60), (0x3C9, 0x314, 0x1F61), (0x1F60, 0x300, 0x1F62),
  (0x1F61, 0x300, 0x1F63), (0x1F60, 0x301, 0x1F64), (0x1F61, 0x301, 0x1F65),
  (0x1F60, 0x342, 0x1F66), (0x1F61, 0x342, 0x1F67), (0x3A9, 0x313, 0x1F68),
  (0x3A9, 0x314, 0x1F69), (0x1F68, 0x300, 0x1F6A), (0x1F69, 0x300, 0x1F6B),
  (0x1F68, 0x301, 0x1F6C), (0x1F69, 0x301, 0x1F6D), (0x1F68, 0x342, 0x1F6E),
  (0x1F69, 0x342, 0x1F6F), (0x3B1, 0x300, 0x1F70), (0x3B5, 0x300, 0x1F72), (0x3B7, 0x300, 0x1F74),
  (0x3B9, 0x300, 0x1F76), (0x3BF, 0x300, 0x1F78), (0x3C5, 0x300, 0x1F7A), (0x3C9, 0x300, 0x1F7C),
  (0x1F00, 0x345, 0x1F80), (0x1F01, 0x345, 0x1F81), (0x1F02, 0x345, 0x1F82),
  (0x1F03, 0x345, 0x1F83), (0x1F04, 0x345, 0x1F84), (0x1F05, 0x345, 0x1F85),
  (0x1F06, 0x345, 0x1F86), (0x1F07, 0x345, 0x1F87), (0x1F08, 0x345, 0x1F88),
  (0x1F09, 0x345, 0x1F89), (0x1F0A, 0x345, 0x1F8A), (0x1F0B, 0x345, 0x1F8B),
  (0x1F0C, 0x345, 0x1F8C), (0x1F0D, 0x345, 0x1F8D), (0x1F0E, 0x345, 0x1F8E),
  (0x1F0F, 0x345, 0x1F8F), (0x1F20, 0x345, 0x1F90), (0x1F21, 0x345, 0x1F91),
  (0x1F22, 0x345, 0x1F92), (0x1F23, 0x345, 0x1F93), (0x1F24, 0x345, 0x1F94),
  (0x1F25, 0x345, 0x1F95), (0x1F26, 0x345, 0x1F96), (0x1F27, 0x345, 0x1F97),
  (0x1F28, 0x345, 0x1F98), (0x1F29, 0x345, 0x1F99), (0x1F2A, 0x345, 0x1F9A),
  (0x1F2B, 0x345, 0x1F9B), (0x1F2C, 0x345, 0x1F9C), (0x1F2D, 0x345, 0x1F9D),
  (0x1F2E, 0x345, 0x1F9E), (0x1F2F, 0x345, 0x1F9F), (0x1F60, 0x345, 0x1FA0),
  (0x1F61, 0x345, 0x1FA1), (0x1F62, 0x345, 0x1FA2), (0x1F63, 0x345, 0x1FA3),
  (0x1F64, 0x345, 0x1FA4), (0x1F65, 0x345, 0x1FA5), (0x1F66, 0x345, 0x1FA6),
  (0x1F67, 0x345, 0x1FA7), (0x1F68, 0x345, 0x1FA8), (0x1F69, 0x345, 0x1FA9),
  (0x1F6A, 0x345, 0x1FAA), (0x1F6B, 0x345, 0x1FAB), (0x1F6C, 0x345, 0x1FAC),
  (0x1F6D, 0x345, 0x1FAD), (0x1F6E, 0x345, 0x1FAE), (0x1F6F, 0x345, 0x1FAF),
  (0x3B1, 0x306, 0x1FB0), (0x3B1, 0x304, 0x1FB1), (0x1F70, 0x345, 0x1FB2), (0x3B1, 0x345, 0x1FB3),
  (0x3AC, 0x345, 0x1FB4), (0x3B1, 0x342, 0x1FB6), (0x1FB6, 0x345, 0x1FB7), (0x391, 0x306, 0x1FB8),
  (0x391, 0x304, 0x1FB9), (0x391, 0x300, 0x1FBA), (0x391, 0x345, 0x1FBC), (0xA8, 0x342, 0x1FC1),
  (0x1F74, 0x345, 0x1FC2), (0x3B7, 0x345, 0x1FC3), (0x3AE, 0x345, 0x1FC4), (0x3B7, 0x342, 0x1FC6),
  (0x1FC6, 0x345, 0x1FC7), (0x395, 0x300, 0x1FC8), (0x397, 0x300, 0x1FCA), (0x397, 0x345, 0x1FCC),
  (0x1FBF, 0x300, 0x1FCD), (0x1FBF, 0x301, 0x1FCE), (0x1FBF, 0x342, 0x1FCF),
  (0x3B9, 0x306, 0x1FD0), (0x3B9, 0x304, 0x1FD1), (0x3CA, 0x300, 0x1FD2), (0x3B9, 0x342, 0x1FD6),
  (0x3CA, 0x342, 0x1FD7), (0x399, 0x306, 0x1FD8), (0x399, 0x304, 0x1FD9), (0x399, 0x300, 0x1FDA),
  (0x1FFE, 0x300, 0x1FDD), (0x1FFE, 0x301, 0x1FDE), (0x1FFE, 0x342, 0x1FDF),
  (0x3C5, 0x306, 0x1FE0), (0x3C5, 0x304, 0x1FE1), (0x3CB, 0x300, 0x1FE2), (0x3C1, 0x313, 0x1FE4),
  (0x3C1, 0x314, 0x1FE5), (0x3C5, 0x342, 0x1FE6), (0x3CB, 0x342, 0x1FE7), (0x3A5, 0x306, 0x1FE8),
  (0x3A5, 0x304, 0x1FE9), (0x3A5, 0x300, 0x1FEA), (0x3A1, 0x314, 0x1FEC), (0xA8, 0x300, 0x1FED),
  (0x1F7C, 0x345, 0x1FF2), (0x3C9, 0x345, 0x1FF3), (0x3CE, 0x345, 0x1FF4), (0x3C9, 0x342, 0x1FF6),
  (0x1FF6, 0x345, 0x1FF7), (0x39F, 0x300, 0x1FF8), (0x3A9, 0x300, 0x1FFA), (0x3A9, 0x345, 0x1FFC)
]

/-- What one character stands for. -/
def compatible (c : Char) : List Char :=
  let code := c.toNat
  match compatibleRuns.find? fun (start, _, length) => start ≤ code && code < start + length with
  | some (start, target, _) => [Char.ofNat (target + (code - start))]
  | none =>
      match compatibleTexts.find? fun (source, _) => source == code with
      | some (_, text) => text.toList
      | none => [c]

/-- The accented letter made up of a letter and a combining mark. -/
def composed? (letter mark : Char) : Option Char :=
  (compositions.find? fun (a, b, _) => a == letter.toNat && b == mark.toNat).map fun (_, _, c) =>
    Char.ofNat c

/-- Join each letter to the combining marks behind it where that makes a letter. -/
def compose : List Char → List Char
  | [] => []
  | c :: rest =>
      let rec join (current : Char) : List Char → List Char
        | [] => [current]
        | mark :: rest =>
            match composed? current mark with
            | some accented => join accented rest
            | none => current :: join mark rest
      join c rest

/-- The common form of texts that stand for the same identifier. -/
def normalizeIdentifier (text : List Char) : List Char :=
  if text.all (·.toNat < 128) then text else compose (text.flatMap compatible)

end Runbook.Text
