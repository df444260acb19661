import Silbo.Text.Decomposition.Block

/-! Kana, enclosed and squared forms. -/
namespace Silbo.Text

def enclosedShifts : List Shift := [
  ⟨0x313A, 0x313F, 0x11B0⟩, ⟨0x3145, 0x314E, 0x1109⟩, ⟨0x314F, 0x3163, 0x1161⟩,
  ⟨0x3178, 0x317C, 0x112B⟩, ⟨0x3269, 0x326D, 0x110E⟩, ⟨0x32E4, 0x32E9, 0x30CA⟩,
  ⟨0x32EE, 0x32F2, 0x30DE⟩, ⟨0x32F5, 0x32FA, 0x30E8⟩, ⟨0x32FB, 0x32FE, 0x30EF⟩]

private def enclosedBlocksA : List Block := [
  ⟨0x3000, [[0x20]]⟩,
  ⟨0x3036, [[0x3012]]⟩,
  ⟨0x3038, [[0x5341], [0x5344], [0x5345]]⟩,
  ⟨0x304C, [[0x304B, 0x3099]]⟩,
  ⟨0x304E, [[0x304D, 0x3099]]⟩,
  ⟨0x3050, [[0x304F, 0x3099]]⟩,
  ⟨0x3052, [[0x3051, 0x3099]]⟩,
  ⟨0x3054, [[0x3053, 0x3099]]⟩,
  ⟨0x3056, [[0x3055, 0x3099]]⟩,
  ⟨0x3058, [[0x3057, 0x3099]]⟩,
  ⟨0x305A, [[0x3059, 0x3099]]⟩,
  ⟨0x305C, [[0x305B, 0x3099]]⟩,
  ⟨0x305E, [[0x305D, 0x3099]]⟩,
  ⟨0x3060, [[0x305F, 0x3099]]⟩,
  ⟨0x3062, [[0x3061, 0x3099]]⟩,
  ⟨0x3065, [[0x3064, 0x3099]]⟩,
  ⟨0x3067, [[0x3066, 0x3099]]⟩,
  ⟨0x3069, [[0x3068, 0x3099]]⟩,
  ⟨0x3070, [[0x306F, 0x3099], [0x306F, 0x309A]]⟩,
  ⟨0x3073, [[0x3072, 0x3099], [0x3072, 0x309A]]⟩,
  ⟨0x3076, [[0x3075, 0x3099], [0x3075, 0x309A]]⟩,
  ⟨0x3079, [[0x3078, 0x3099], [0x3078, 0x309A]]⟩,
  ⟨0x307C, [[0x307B, 0x3099], [0x307B, 0x309A]]⟩,
  ⟨0x3094, [[0x3046, 0x3099]]⟩,
  ⟨0x309B, [[0x20, 0x3099], [0x20, 0x309A]]⟩,
  ⟨0x309E, [[0x309D, 0x3099], [0x3088, 0x308A]]⟩,
  ⟨0x30AC, [[0x30AB, 0x3099]]⟩,
  ⟨0x30AE, [[0x30AD, 0x3099]]⟩,
  ⟨0x30B0, [[0x30AF, 0x3099]]⟩,
  ⟨0x30B2, [[0x30B1, 0x3099]]⟩,
  ⟨0x30B4, [[0x30B3, 0x3099]]⟩,
  ⟨0x30B6, [[0x30B5, 0x3099]]⟩,
  ⟨0x30B8, [[0x30B7, 0x3099]]⟩,
  ⟨0x30BA, [[0x30B9, 0x3099]]⟩,
  ⟨0x30BC, [[0x30BB, 0x3099]]⟩,
  ⟨0x30BE, [[0x30BD, 0x3099]]⟩,
  ⟨0x30C0, [[0x30BF, 0x3099]]⟩,
  ⟨0x30C2, [[0x30C1, 0x3099]]⟩,
  ⟨0x30C5, [[0x30C4, 0x3099]]⟩,
  ⟨0x30C7, [[0x30C6, 0x3099]]⟩,
  ⟨0x30C9, [[0x30C8, 0x3099]]⟩,
  ⟨0x30D0, [[0x30CF, 0x3099], [0x30CF, 0x309A]]⟩,
  ⟨0x30D3, [[0x30D2, 0x3099], [0x30D2, 0x309A]]⟩,
  ⟨0x30D6, [[0x30D5, 0x3099], [0x30D5, 0x309A]]⟩,
  ⟨0x30D9, [[0x30D8, 0x3099], [0x30D8, 0x309A]]⟩,
  ⟨0x30DC, [[0x30DB, 0x3099], [0x30DB, 0x309A]]⟩,
  ⟨0x30F4, [[0x30A6, 0x3099]]⟩,
  ⟨0x30F7, [[0x30EF, 0x3099], [0x30F0, 0x3099], [0x30F1, 0x3099], [0x30F2, 0x3099]]⟩,
  ⟨0x30FE, [[0x30FD, 0x3099], [0x30B3, 0x30C8]]⟩,
  ⟨0x3131, [
    [0x1100], [0x1101], [0x11AA], [0x1102], [0x11AC], [0x11AD], [0x1103], [0x1104], [0x1105]]⟩,
  ⟨0x3140, [[0x111A], [0x1106], [0x1107], [0x1108], [0x1121]]⟩,
  ⟨0x3164, [
    [0x1160], [0x1114], [0x1115], [0x11C7], [0x11C8], [0x11CC], [0x11CE], [0x11D3], [0x11D7],
    [0x11D9], [0x111C], [0x11DD], [0x11DF], [0x111D], [0x111E], [0x1120], [0x1122], [0x1123],
    [0x1127], [0x1129]]⟩,
  ⟨0x317D, [
    [0x1132], [0x1136], [0x1140], [0x1147], [0x114C], [0x11F1], [0x11F2], [0x1157], [0x1158],
    [0x1159], [0x1184], [0x1185], [0x1188], [0x1191], [0x1192], [0x1194], [0x119E], [0x11A1]]⟩,
  ⟨0x3192, [
    [0x4E00], [0x4E8C], [0x4E09], [0x56DB], [0x4E0A], [0x4E2D], [0x4E0B], [0x7532], [0x4E59],
    [0x4E19], [0x4E01], [0x5929], [0x5730], [0x4EBA]]⟩,
  ⟨0x3200, [
    [0x28, 0x1100, 0x29], [0x28, 0x1102, 0x29], [0x28, 0x1103, 0x29], [0x28, 0x1105, 0x29],
    [0x28, 0x1106, 0x29], [0x28, 0x1107, 0x29], [0x28, 0x1109, 0x29], [0x28, 0x110B, 0x29],
    [0x28, 0x110C, 0x29], [0x28, 0x110E, 0x29], [0x28, 0x110F, 0x29], [0x28, 0x1110, 0x29],
    [0x28, 0x1111, 0x29], [0x28, 0x1112, 0x29], [0x28, 0x1100, 0x1161, 0x29],
    [0x28, 0x1102, 0x1161, 0x29], [0x28, 0x1103, 0x1161, 0x29], [0x28, 0x1105, 0x1161, 0x29],
    [0x28, 0x1106, 0x1161, 0x29], [0x28, 0x1107, 0x1161, 0x29], [0x28, 0x1109, 0x1161, 0x29],
    [0x28, 0x110B, 0x1161, 0x29], [0x28, 0x110C, 0x1161, 0x29], [0x28, 0x110E, 0x1161, 0x29],
    [0x28, 0x110F, 0x1161, 0x29], [0x28, 0x1110, 0x1161, 0x29], [0x28, 0x1111, 0x1161, 0x29],
    [0x28, 0x1112, 0x1161, 0x29], [0x28, 0x110C, 0x116E, 0x29],
    [0x28, 0x110B, 0x1169, 0x110C, 0x1165, 0x11AB, 0x29],
    [0x28, 0x110B, 0x1169, 0x1112, 0x116E, 0x29]]⟩]

private def enclosedBlocksB : List Block := [
  ⟨0x3220, [
    [0x28, 0x4E00, 0x29], [0x28, 0x4E8C, 0x29], [0x28, 0x4E09, 0x29], [0x28, 0x56DB, 0x29],
    [0x28, 0x4E94, 0x29], [0x28, 0x516D, 0x29], [0x28, 0x4E03, 0x29], [0x28, 0x516B, 0x29],
    [0x28, 0x4E5D, 0x29], [0x28, 0x5341, 0x29], [0x28, 0x6708, 0x29], [0x28, 0x706B, 0x29],
    [0x28, 0x6C34, 0x29], [0x28, 0x6728, 0x29], [0x28, 0x91D1, 0x29], [0x28, 0x571F, 0x29],
    [0x28, 0x65E5, 0x29], [0x28, 0x682A, 0x29], [0x28, 0x6709, 0x29], [0x28, 0x793E, 0x29],
    [0x28, 0x540D, 0x29], [0x28, 0x7279, 0x29], [0x28, 0x8CA1, 0x29], [0x28, 0x795D, 0x29],
    [0x28, 0x52B4, 0x29], [0x28, 0x4EE3, 0x29], [0x28, 0x547C, 0x29], [0x28, 0x5B66, 0x29],
    [0x28, 0x76E3, 0x29], [0x28, 0x4F01, 0x29], [0x28, 0x8CC7, 0x29], [0x28, 0x5354, 0x29],
    [0x28, 0x796D, 0x29], [0x28, 0x4F11, 0x29], [0x28, 0x81EA, 0x29], [0x28, 0x81F3, 0x29],
    [0x554F], [0x5E7C], [0x6587], [0x7B8F]]⟩,
  ⟨0x3250, [
    [0x50, 0x54, 0x45], [0x32, 0x31], [0x32, 0x32], [0x32, 0x33], [0x32, 0x34], [0x32, 0x35],
    [0x32, 0x36], [0x32, 0x37], [0x32, 0x38], [0x32, 0x39], [0x33, 0x30], [0x33, 0x31],
    [0x33, 0x32], [0x33, 0x33], [0x33, 0x34], [0x33, 0x35], [0x1100], [0x1102], [0x1103], [0x1105],
    [0x1106], [0x1107], [0x1109], [0x110B], [0x110C]]⟩,
  ⟨0x326E, [
    [0x1100, 0x1161], [0x1102, 0x1161], [0x1103, 0x1161], [0x1105, 0x1161], [0x1106, 0x1161],
    [0x1107, 0x1161], [0x1109, 0x1161], [0x110B, 0x1161], [0x110C, 0x1161], [0x110E, 0x1161],
    [0x110F, 0x1161], [0x1110, 0x1161], [0x1111, 0x1161], [0x1112, 0x1161],
    [0x110E, 0x1161, 0x11B7, 0x1100, 0x1169], [0x110C, 0x116E, 0x110B, 0x1174], [0x110B, 0x116E]]⟩,
  ⟨0x3280, [
    [0x4E00], [0x4E8C], [0x4E09], [0x56DB], [0x4E94], [0x516D], [0x4E03], [0x516B], [0x4E5D],
    [0x5341], [0x6708], [0x706B], [0x6C34], [0x6728], [0x91D1], [0x571F], [0x65E5], [0x682A],
    [0x6709], [0x793E], [0x540D], [0x7279], [0x8CA1], [0x795D], [0x52B4], [0x79D8], [0x7537],
    [0x5973], [0x9069], [0x512A], [0x5370], [0x6CE8], [0x9805], [0x4F11], [0x5199], [0x6B63],
    [0x4E0A], [0x4E2D], [0x4E0B], [0x5DE6], [0x53F3], [0x533B], [0x5B97], [0x5B66], [0x76E3],
    [0x4F01], [0x8CC7], [0x5354], [0x591C], [0x33, 0x36], [0x33, 0x37], [0x33, 0x38], [0x33, 0x39],
    [0x34, 0x30], [0x34, 0x31], [0x34, 0x32], [0x34, 0x33], [0x34, 0x34], [0x34, 0x35],
    [0x34, 0x36], [0x34, 0x37], [0x34, 0x38], [0x34, 0x39], [0x35, 0x30]]⟩,
  ⟨0x32C0, [
    [0x31, 0x6708], [0x32, 0x6708], [0x33, 0x6708], [0x34, 0x6708], [0x35, 0x6708], [0x36, 0x6708],
    [0x37, 0x6708], [0x38, 0x6708], [0x39, 0x6708], [0x31, 0x30, 0x6708], [0x31, 0x31, 0x6708],
    [0x31, 0x32, 0x6708], [0x48, 0x67], [0x65, 0x72, 0x67], [0x65, 0x56], [0x4C, 0x54, 0x44],
    [0x30A2], [0x30A4], [0x30A6], [0x30A8], [0x30AA], [0x30AB], [0x30AD], [0x30AF], [0x30B1],
    [0x30B3], [0x30B5], [0x30B7], [0x30B9], [0x30BB], [0x30BD], [0x30BF], [0x30C1], [0x30C4],
    [0x30C6], [0x30C8]]⟩,
  ⟨0x32EA, [[0x30D2], [0x30D5], [0x30D8], [0x30DB]]⟩,
  ⟨0x32F3, [[0x30E4], [0x30E6]]⟩,
  ⟨0x32FF, [
    [0x4EE4, 0x548C], [0x30A2, 0x30CF, 0x309A, 0x30FC, 0x30C8], [0x30A2, 0x30EB, 0x30D5, 0x30A1],
    [0x30A2, 0x30F3, 0x30D8, 0x309A, 0x30A2], [0x30A2, 0x30FC, 0x30EB],
    [0x30A4, 0x30CB, 0x30F3, 0x30AF, 0x3099], [0x30A4, 0x30F3, 0x30C1], [0x30A6, 0x30A9, 0x30F3],
    [0x30A8, 0x30B9, 0x30AF, 0x30FC, 0x30C8, 0x3099], [0x30A8, 0x30FC, 0x30AB, 0x30FC],
    [0x30AA, 0x30F3, 0x30B9], [0x30AA, 0x30FC, 0x30E0], [0x30AB, 0x30A4, 0x30EA],
    [0x30AB, 0x30E9, 0x30C3, 0x30C8], [0x30AB, 0x30ED, 0x30EA, 0x30FC],
    [0x30AB, 0x3099, 0x30ED, 0x30F3], [0x30AB, 0x3099, 0x30F3, 0x30DE],
    [0x30AD, 0x3099, 0x30AB, 0x3099], [0x30AD, 0x3099, 0x30CB, 0x30FC],
    [0x30AD, 0x30E5, 0x30EA, 0x30FC], [0x30AD, 0x3099, 0x30EB, 0x30BF, 0x3099, 0x30FC],
    [0x30AD, 0x30ED], [0x30AD, 0x30ED, 0x30AF, 0x3099, 0x30E9, 0x30E0],
    [0x30AD, 0x30ED, 0x30E1, 0x30FC, 0x30C8, 0x30EB], [0x30AD, 0x30ED, 0x30EF, 0x30C3, 0x30C8],
    [0x30AF, 0x3099, 0x30E9, 0x30E0], [0x30AF, 0x3099, 0x30E9, 0x30E0, 0x30C8, 0x30F3],
    [0x30AF, 0x30EB, 0x30BB, 0x3099, 0x30A4, 0x30ED], [0x30AF, 0x30ED, 0x30FC, 0x30CD],
    [0x30B1, 0x30FC, 0x30B9], [0x30B3, 0x30EB, 0x30CA], [0x30B3, 0x30FC, 0x30DB, 0x309A],
    [0x30B5, 0x30A4, 0x30AF, 0x30EB], [0x30B5, 0x30F3, 0x30C1, 0x30FC, 0x30E0],
    [0x30B7, 0x30EA, 0x30F3, 0x30AF, 0x3099], [0x30BB, 0x30F3, 0x30C1], [0x30BB, 0x30F3, 0x30C8],
    [0x30BF, 0x3099, 0x30FC, 0x30B9], [0x30C6, 0x3099, 0x30B7], [0x30C8, 0x3099, 0x30EB],
    [0x30C8, 0x30F3], [0x30CA, 0x30CE], [0x30CE, 0x30C3, 0x30C8], [0x30CF, 0x30A4, 0x30C4],
    [0x30CF, 0x309A, 0x30FC, 0x30BB, 0x30F3, 0x30C8], [0x30CF, 0x309A, 0x30FC, 0x30C4],
    [0x30CF, 0x3099, 0x30FC, 0x30EC, 0x30EB], [0x30D2, 0x309A, 0x30A2, 0x30B9, 0x30C8, 0x30EB],
    [0x30D2, 0x309A, 0x30AF, 0x30EB], [0x30D2, 0x309A, 0x30B3], [0x30D2, 0x3099, 0x30EB],
    [0x30D5, 0x30A1, 0x30E9, 0x30C3, 0x30C8, 0x3099], [0x30D5, 0x30A3, 0x30FC, 0x30C8],
    [0x30D5, 0x3099, 0x30C3, 0x30B7, 0x30A7, 0x30EB], [0x30D5, 0x30E9, 0x30F3],
    [0x30D8, 0x30AF, 0x30BF, 0x30FC, 0x30EB], [0x30D8, 0x309A, 0x30BD],
    [0x30D8, 0x309A, 0x30CB, 0x30D2], [0x30D8, 0x30EB, 0x30C4], [0x30D8, 0x309A, 0x30F3, 0x30B9],
    [0x30D8, 0x309A, 0x30FC, 0x30B7, 0x3099], [0x30D8, 0x3099, 0x30FC, 0x30BF],
    [0x30DB, 0x309A, 0x30A4, 0x30F3, 0x30C8], [0x30DB, 0x3099, 0x30EB, 0x30C8]]⟩]

private def enclosedBlocksC : List Block := [
  ⟨0x333F, [
    [0x30DB, 0x30F3], [0x30DB, 0x309A, 0x30F3, 0x30C8, 0x3099], [0x30DB, 0x30FC, 0x30EB],
    [0x30DB, 0x30FC, 0x30F3], [0x30DE, 0x30A4, 0x30AF, 0x30ED], [0x30DE, 0x30A4, 0x30EB],
    [0x30DE, 0x30C3, 0x30CF], [0x30DE, 0x30EB, 0x30AF], [0x30DE, 0x30F3, 0x30B7, 0x30E7, 0x30F3],
    [0x30DF, 0x30AF, 0x30ED, 0x30F3], [0x30DF, 0x30EA],
    [0x30DF, 0x30EA, 0x30CF, 0x3099, 0x30FC, 0x30EB], [0x30E1, 0x30AB, 0x3099],
    [0x30E1, 0x30AB, 0x3099, 0x30C8, 0x30F3], [0x30E1, 0x30FC, 0x30C8, 0x30EB],
    [0x30E4, 0x30FC, 0x30C8, 0x3099], [0x30E4, 0x30FC, 0x30EB], [0x30E6, 0x30A2, 0x30F3],
    [0x30EA, 0x30C3, 0x30C8, 0x30EB], [0x30EA, 0x30E9], [0x30EB, 0x30D2, 0x309A, 0x30FC],
    [0x30EB, 0x30FC, 0x30D5, 0x3099, 0x30EB], [0x30EC, 0x30E0],
    [0x30EC, 0x30F3, 0x30C8, 0x30B1, 0x3099, 0x30F3], [0x30EF, 0x30C3, 0x30C8], [0x30, 0x70B9],
    [0x31, 0x70B9], [0x32, 0x70B9], [0x33, 0x70B9], [0x34, 0x70B9], [0x35, 0x70B9], [0x36, 0x70B9],
    [0x37, 0x70B9], [0x38, 0x70B9], [0x39, 0x70B9], [0x31, 0x30, 0x70B9], [0x31, 0x31, 0x70B9],
    [0x31, 0x32, 0x70B9], [0x31, 0x33, 0x70B9], [0x31, 0x34, 0x70B9], [0x31, 0x35, 0x70B9],
    [0x31, 0x36, 0x70B9], [0x31, 0x37, 0x70B9], [0x31, 0x38, 0x70B9], [0x31, 0x39, 0x70B9],
    [0x32, 0x30, 0x70B9], [0x32, 0x31, 0x70B9], [0x32, 0x32, 0x70B9], [0x32, 0x33, 0x70B9],
    [0x32, 0x34, 0x70B9], [0x68, 0x50, 0x61], [0x64, 0x61], [0x41, 0x55], [0x62, 0x61, 0x72],
    [0x6F, 0x56], [0x70, 0x63], [0x64, 0x6D], [0x64, 0x6D, 0x32], [0x64, 0x6D, 0x33], [0x49, 0x55],
    [0x5E73, 0x6210], [0x662D, 0x548C], [0x5927, 0x6B63], [0x660E, 0x6CBB]]⟩,
  ⟨0x337F, [
    [0x682A, 0x5F0F, 0x4F1A, 0x793E], [0x70, 0x41], [0x6E, 0x41], [0x3BC, 0x41], [0x6D, 0x41],
    [0x6B, 0x41], [0x4B, 0x42], [0x4D, 0x42], [0x47, 0x42], [0x63, 0x61, 0x6C],
    [0x6B, 0x63, 0x61, 0x6C], [0x70, 0x46], [0x6E, 0x46], [0x3BC, 0x46], [0x3BC, 0x67],
    [0x6D, 0x67], [0x6B, 0x67], [0x48, 0x7A], [0x6B, 0x48, 0x7A], [0x4D, 0x48, 0x7A],
    [0x47, 0x48, 0x7A], [0x54, 0x48, 0x7A], [0x3BC, 0x6C], [0x6D, 0x6C], [0x64, 0x6C],
    [0x6B, 0x6C], [0x66, 0x6D], [0x6E, 0x6D], [0x3BC, 0x6D], [0x6D, 0x6D], [0x63, 0x6D],
    [0x6B, 0x6D], [0x6D, 0x6D, 0x32], [0x63, 0x6D, 0x32], [0x6D, 0x32], [0x6B, 0x6D, 0x32],
    [0x6D, 0x6D, 0x33], [0x63, 0x6D, 0x33], [0x6D, 0x33], [0x6B, 0x6D, 0x33], [0x6D, 0x2215, 0x73],
    [0x6D, 0x2215, 0x73, 0x32], [0x50, 0x61], [0x6B, 0x50, 0x61], [0x4D, 0x50, 0x61],
    [0x47, 0x50, 0x61], [0x72, 0x61, 0x64], [0x72, 0x61, 0x64, 0x2215, 0x73],
    [0x72, 0x61, 0x64, 0x2215, 0x73, 0x32], [0x70, 0x73], [0x6E, 0x73], [0x3BC, 0x73],
    [0x6D, 0x73], [0x70, 0x56], [0x6E, 0x56], [0x3BC, 0x56], [0x6D, 0x56], [0x6B, 0x56],
    [0x4D, 0x56], [0x70, 0x57], [0x6E, 0x57], [0x3BC, 0x57], [0x6D, 0x57], [0x6B, 0x57]]⟩,
  ⟨0x33BF, [
    [0x4D, 0x57], [0x6B, 0x3A9], [0x4D, 0x3A9], [0x61, 0x2E, 0x6D, 0x2E], [0x42, 0x71],
    [0x63, 0x63], [0x63, 0x64], [0x43, 0x2215, 0x6B, 0x67], [0x43, 0x6F, 0x2E], [0x64, 0x42],
    [0x47, 0x79], [0x68, 0x61], [0x48, 0x50], [0x69, 0x6E], [0x4B, 0x4B], [0x4B, 0x4D],
    [0x6B, 0x74], [0x6C, 0x6D], [0x6C, 0x6E], [0x6C, 0x6F, 0x67], [0x6C, 0x78], [0x6D, 0x62],
    [0x6D, 0x69, 0x6C], [0x6D, 0x6F, 0x6C], [0x50, 0x48], [0x70, 0x2E, 0x6D, 0x2E],
    [0x50, 0x50, 0x4D], [0x50, 0x52], [0x73, 0x72], [0x53, 0x76], [0x57, 0x62],
    [0x56, 0x2215, 0x6D], [0x41, 0x2215, 0x6D], [0x31, 0x65E5], [0x32, 0x65E5], [0x33, 0x65E5],
    [0x34, 0x65E5], [0x35, 0x65E5], [0x36, 0x65E5], [0x37, 0x65E5], [0x38, 0x65E5], [0x39, 0x65E5],
    [0x31, 0x30, 0x65E5], [0x31, 0x31, 0x65E5], [0x31, 0x32, 0x65E5], [0x31, 0x33, 0x65E5],
    [0x31, 0x34, 0x65E5], [0x31, 0x35, 0x65E5], [0x31, 0x36, 0x65E5], [0x31, 0x37, 0x65E5],
    [0x31, 0x38, 0x65E5], [0x31, 0x39, 0x65E5], [0x32, 0x30, 0x65E5], [0x32, 0x31, 0x65E5],
    [0x32, 0x32, 0x65E5], [0x32, 0x33, 0x65E5], [0x32, 0x34, 0x65E5], [0x32, 0x35, 0x65E5],
    [0x32, 0x36, 0x65E5], [0x32, 0x37, 0x65E5], [0x32, 0x38, 0x65E5], [0x32, 0x39, 0x65E5],
    [0x33, 0x30, 0x65E5], [0x33, 0x31, 0x65E5]]⟩]

private def enclosedBlocksD : List Block := [
  ⟨0x33FF, [[0x67, 0x61, 0x6C]]⟩]

def enclosedBlocks : List Block :=
  enclosedBlocksA ++ enclosedBlocksB ++ enclosedBlocksC ++ enclosedBlocksD

end Silbo.Text
