import Silbo.Text.Decomposition.Block

/-! Latin, Greek, Cyrillic, Arabic and South Asian letters. -/
namespace Silbo.Text

def latinShifts : List Shift := [
  ⟨0x1D33, 0x1D3A, 0x47⟩, ⟨0x1DAE, 0x1DB1, 0x272⟩]

private def latinBlocksA : List Block := [
  ⟨0xA0, [[0x20]]⟩,
  ⟨0xA8, [[0x20, 0x308]]⟩,
  ⟨0xAA, [[0x61]]⟩,
  ⟨0xAF, [[0x20, 0x304]]⟩,
  ⟨0xB2, [[0x32], [0x33], [0x20, 0x301], [0x3BC]]⟩,
  ⟨0xB8, [[0x20, 0x327], [0x31], [0x6F]]⟩,
  ⟨0xBC, [[0x31, 0x2044, 0x34], [0x31, 0x2044, 0x32], [0x33, 0x2044, 0x34]]⟩,
  ⟨0xC0, [
    [0x41, 0x300], [0x41, 0x301], [0x41, 0x302], [0x41, 0x303], [0x41, 0x308], [0x41, 0x30A]]⟩,
  ⟨0xC7, [
    [0x43, 0x327], [0x45, 0x300], [0x45, 0x301], [0x45, 0x302], [0x45, 0x308], [0x49, 0x300],
    [0x49, 0x301], [0x49, 0x302], [0x49, 0x308]]⟩,
  ⟨0xD1, [
    [0x4E, 0x303], [0x4F, 0x300], [0x4F, 0x301], [0x4F, 0x302], [0x4F, 0x303], [0x4F, 0x308]]⟩,
  ⟨0xD9, [[0x55, 0x300], [0x55, 0x301], [0x55, 0x302], [0x55, 0x308], [0x59, 0x301]]⟩,
  ⟨0xE0, [
    [0x61, 0x300], [0x61, 0x301], [0x61, 0x302], [0x61, 0x303], [0x61, 0x308], [0x61, 0x30A]]⟩,
  ⟨0xE7, [
    [0x63, 0x327], [0x65, 0x300], [0x65, 0x301], [0x65, 0x302], [0x65, 0x308], [0x69, 0x300],
    [0x69, 0x301], [0x69, 0x302], [0x69, 0x308]]⟩,
  ⟨0xF1, [
    [0x6E, 0x303], [0x6F, 0x300], [0x6F, 0x301], [0x6F, 0x302], [0x6F, 0x303], [0x6F, 0x308]]⟩,
  ⟨0xF9, [[0x75, 0x300], [0x75, 0x301], [0x75, 0x302], [0x75, 0x308], [0x79, 0x301]]⟩,
  ⟨0xFF, [
    [0x79, 0x308], [0x41, 0x304], [0x61, 0x304], [0x41, 0x306], [0x61, 0x306], [0x41, 0x328],
    [0x61, 0x328], [0x43, 0x301], [0x63, 0x301], [0x43, 0x302], [0x63, 0x302], [0x43, 0x307],
    [0x63, 0x307], [0x43, 0x30C], [0x63, 0x30C], [0x44, 0x30C], [0x64, 0x30C]]⟩,
  ⟨0x112, [
    [0x45, 0x304], [0x65, 0x304], [0x45, 0x306], [0x65, 0x306], [0x45, 0x307], [0x65, 0x307],
    [0x45, 0x328], [0x65, 0x328], [0x45, 0x30C], [0x65, 0x30C], [0x47, 0x302], [0x67, 0x302],
    [0x47, 0x306], [0x67, 0x306], [0x47, 0x307], [0x67, 0x307], [0x47, 0x327], [0x67, 0x327],
    [0x48, 0x302], [0x68, 0x302]]⟩,
  ⟨0x128, [
    [0x49, 0x303], [0x69, 0x303], [0x49, 0x304], [0x69, 0x304], [0x49, 0x306], [0x69, 0x306],
    [0x49, 0x328], [0x69, 0x328], [0x49, 0x307]]⟩,
  ⟨0x132, [[0x49, 0x4A], [0x69, 0x6A], [0x4A, 0x302], [0x6A, 0x302], [0x4B, 0x327], [0x6B, 0x327]]⟩,
  ⟨0x139, [
    [0x4C, 0x301], [0x6C, 0x301], [0x4C, 0x327], [0x6C, 0x327], [0x4C, 0x30C], [0x6C, 0x30C],
    [0x4C, 0xB7], [0x6C, 0xB7]]⟩,
  ⟨0x143, [
    [0x4E, 0x301], [0x6E, 0x301], [0x4E, 0x327], [0x6E, 0x327], [0x4E, 0x30C], [0x6E, 0x30C],
    [0x2BC, 0x6E]]⟩,
  ⟨0x14C, [
    [0x4F, 0x304], [0x6F, 0x304], [0x4F, 0x306], [0x6F, 0x306], [0x4F, 0x30B], [0x6F, 0x30B]]⟩,
  ⟨0x154, [
    [0x52, 0x301], [0x72, 0x301], [0x52, 0x327], [0x72, 0x327], [0x52, 0x30C], [0x72, 0x30C],
    [0x53, 0x301], [0x73, 0x301], [0x53, 0x302], [0x73, 0x302], [0x53, 0x327], [0x73, 0x327],
    [0x53, 0x30C], [0x73, 0x30C], [0x54, 0x327], [0x74, 0x327], [0x54, 0x30C], [0x74, 0x30C]]⟩,
  ⟨0x168, [
    [0x55, 0x303], [0x75, 0x303], [0x55, 0x304], [0x75, 0x304], [0x55, 0x306], [0x75, 0x306],
    [0x55, 0x30A], [0x75, 0x30A], [0x55, 0x30B], [0x75, 0x30B], [0x55, 0x328], [0x75, 0x328],
    [0x57, 0x302], [0x77, 0x302], [0x59, 0x302], [0x79, 0x302], [0x59, 0x308], [0x5A, 0x301],
    [0x7A, 0x301], [0x5A, 0x307], [0x7A, 0x307], [0x5A, 0x30C], [0x7A, 0x30C], [0x73]]⟩]

private def latinBlocksB : List Block := [
  ⟨0x1A0, [[0x4F, 0x31B], [0x6F, 0x31B]]⟩,
  ⟨0x1AF, [[0x55, 0x31B], [0x75, 0x31B]]⟩,
  ⟨0x1C4, [
    [0x44, 0x5A, 0x30C], [0x44, 0x7A, 0x30C], [0x64, 0x7A, 0x30C], [0x4C, 0x4A], [0x4C, 0x6A],
    [0x6C, 0x6A], [0x4E, 0x4A], [0x4E, 0x6A], [0x6E, 0x6A], [0x41, 0x30C], [0x61, 0x30C],
    [0x49, 0x30C], [0x69, 0x30C], [0x4F, 0x30C], [0x6F, 0x30C], [0x55, 0x30C], [0x75, 0x30C],
    [0x55, 0x308, 0x304], [0x75, 0x308, 0x304], [0x55, 0x308, 0x301], [0x75, 0x308, 0x301],
    [0x55, 0x308, 0x30C], [0x75, 0x308, 0x30C], [0x55, 0x308, 0x300], [0x75, 0x308, 0x300]]⟩,
  ⟨0x1DE, [
    [0x41, 0x308, 0x304], [0x61, 0x308, 0x304], [0x41, 0x307, 0x304], [0x61, 0x307, 0x304],
    [0xC6, 0x304], [0xE6, 0x304]]⟩,
  ⟨0x1E6, [
    [0x47, 0x30C], [0x67, 0x30C], [0x4B, 0x30C], [0x6B, 0x30C], [0x4F, 0x328], [0x6F, 0x328],
    [0x4F, 0x328, 0x304], [0x6F, 0x328, 0x304], [0x1B7, 0x30C], [0x292, 0x30C], [0x6A, 0x30C],
    [0x44, 0x5A], [0x44, 0x7A], [0x64, 0x7A], [0x47, 0x301], [0x67, 0x301]]⟩,
  ⟨0x1F8, [
    [0x4E, 0x300], [0x6E, 0x300], [0x41, 0x30A, 0x301], [0x61, 0x30A, 0x301], [0xC6, 0x301],
    [0xE6, 0x301], [0xD8, 0x301], [0xF8, 0x301], [0x41, 0x30F], [0x61, 0x30F], [0x41, 0x311],
    [0x61, 0x311], [0x45, 0x30F], [0x65, 0x30F], [0x45, 0x311], [0x65, 0x311], [0x49, 0x30F],
    [0x69, 0x30F], [0x49, 0x311], [0x69, 0x311], [0x4F, 0x30F], [0x6F, 0x30F], [0x4F, 0x311],
    [0x6F, 0x311], [0x52, 0x30F], [0x72, 0x30F], [0x52, 0x311], [0x72, 0x311], [0x55, 0x30F],
    [0x75, 0x30F], [0x55, 0x311], [0x75, 0x311], [0x53, 0x326], [0x73, 0x326], [0x54, 0x326],
    [0x74, 0x326]]⟩,
  ⟨0x21E, [[0x48, 0x30C], [0x68, 0x30C]]⟩,
  ⟨0x226, [
    [0x41, 0x307], [0x61, 0x307], [0x45, 0x327], [0x65, 0x327], [0x4F, 0x308, 0x304],
    [0x6F, 0x308, 0x304], [0x4F, 0x303, 0x304], [0x6F, 0x303, 0x304], [0x4F, 0x307], [0x6F, 0x307],
    [0x4F, 0x307, 0x304], [0x6F, 0x307, 0x304], [0x59, 0x304], [0x79, 0x304]]⟩,
  ⟨0x2B0, [[0x68], [0x266], [0x6A], [0x72], [0x279], [0x27B], [0x281], [0x77], [0x79]]⟩,
  ⟨0x2D8, [
    [0x20, 0x306], [0x20, 0x307], [0x20, 0x30A], [0x20, 0x328], [0x20, 0x303], [0x20, 0x30B]]⟩,
  ⟨0x2E0, [[0x263], [0x6C], [0x73], [0x78], [0x295]]⟩,
  ⟨0x340, [[0x300], [0x301]]⟩,
  ⟨0x343, [[0x313], [0x308, 0x301]]⟩,
  ⟨0x374, [[0x2B9]]⟩,
  ⟨0x37A, [[0x20, 0x345]]⟩,
  ⟨0x37E, [[0x3B]]⟩,
  ⟨0x384, [
    [0x20, 0x301], [0x20, 0x308, 0x301], [0x391, 0x301], [0xB7], [0x395, 0x301], [0x397, 0x301],
    [0x399, 0x301]]⟩,
  ⟨0x38C, [[0x39F, 0x301]]⟩,
  ⟨0x38E, [[0x3A5, 0x301], [0x3A9, 0x301], [0x3B9, 0x308, 0x301]]⟩,
  ⟨0x3AA, [
    [0x399, 0x308], [0x3A5, 0x308], [0x3B1, 0x301], [0x3B5, 0x301], [0x3B7, 0x301], [0x3B9, 0x301],
    [0x3C5, 0x308, 0x301]]⟩,
  ⟨0x3CA, [[0x3B9, 0x308], [0x3C5, 0x308], [0x3BF, 0x301], [0x3C5, 0x301], [0x3C9, 0x301]]⟩,
  ⟨0x3D0, [[0x3B2], [0x3B8], [0x3A5], [0x3A5, 0x301], [0x3A5, 0x308], [0x3C6], [0x3C0]]⟩,
  ⟨0x3F0, [[0x3BA], [0x3C1], [0x3C2]]⟩,
  ⟨0x3F4, [[0x398], [0x3B5]]⟩,
  ⟨0x3F9, [[0x3A3]]⟩,
  ⟨0x400, [[0x415, 0x300], [0x415, 0x308]]⟩,
  ⟨0x403, [[0x413, 0x301]]⟩,
  ⟨0x407, [[0x406, 0x308]]⟩,
  ⟨0x40C, [[0x41A, 0x301], [0x418, 0x300], [0x423, 0x306]]⟩]

private def latinBlocksC : List Block := [
  ⟨0x419, [[0x418, 0x306]]⟩,
  ⟨0x439, [[0x438, 0x306]]⟩,
  ⟨0x450, [[0x435, 0x300], [0x435, 0x308]]⟩,
  ⟨0x453, [[0x433, 0x301]]⟩,
  ⟨0x457, [[0x456, 0x308]]⟩,
  ⟨0x45C, [[0x43A, 0x301], [0x438, 0x300], [0x443, 0x306]]⟩,
  ⟨0x476, [[0x474, 0x30F], [0x475, 0x30F]]⟩,
  ⟨0x4C1, [[0x416, 0x306], [0x436, 0x306]]⟩,
  ⟨0x4D0, [[0x410, 0x306], [0x430, 0x306], [0x410, 0x308], [0x430, 0x308]]⟩,
  ⟨0x4D6, [[0x415, 0x306], [0x435, 0x306]]⟩,
  ⟨0x4DA, [
    [0x4D8, 0x308], [0x4D9, 0x308], [0x416, 0x308], [0x436, 0x308], [0x417, 0x308], [0x437, 0x308]]⟩,
  ⟨0x4E2, [
    [0x418, 0x304], [0x438, 0x304], [0x418, 0x308], [0x438, 0x308], [0x41E, 0x308], [0x43E, 0x308]]⟩,
  ⟨0x4EA, [
    [0x4E8, 0x308], [0x4E9, 0x308], [0x42D, 0x308], [0x44D, 0x308], [0x423, 0x304], [0x443, 0x304],
    [0x423, 0x308], [0x443, 0x308], [0x423, 0x30B], [0x443, 0x30B], [0x427, 0x308], [0x447, 0x308]]⟩,
  ⟨0x4F8, [[0x42B, 0x308], [0x44B, 0x308]]⟩,
  ⟨0x587, [[0x565, 0x582]]⟩,
  ⟨0x622, [[0x627, 0x653], [0x627, 0x654], [0x648, 0x654], [0x627, 0x655], [0x64A, 0x654]]⟩,
  ⟨0x675, [[0x627, 0x674], [0x648, 0x674], [0x6C7, 0x674], [0x64A, 0x674]]⟩,
  ⟨0x6C0, [[0x6D5, 0x654]]⟩,
  ⟨0x6C2, [[0x6C1, 0x654]]⟩,
  ⟨0x6D3, [[0x6D2, 0x654]]⟩,
  ⟨0x929, [[0x928, 0x93C]]⟩,
  ⟨0x931, [[0x930, 0x93C]]⟩,
  ⟨0x934, [[0x933, 0x93C]]⟩,
  ⟨0x958, [
    [0x915, 0x93C], [0x916, 0x93C], [0x917, 0x93C], [0x91C, 0x93C], [0x921, 0x93C], [0x922, 0x93C],
    [0x92B, 0x93C], [0x92F, 0x93C]]⟩,
  ⟨0x9CB, [[0x9C7, 0x9BE], [0x9C7, 0x9D7]]⟩,
  ⟨0x9DC, [[0x9A1, 0x9BC], [0x9A2, 0x9BC]]⟩,
  ⟨0x9DF, [[0x9AF, 0x9BC]]⟩,
  ⟨0xA33, [[0xA32, 0xA3C]]⟩,
  ⟨0xA36, [[0xA38, 0xA3C]]⟩,
  ⟨0xA59, [[0xA16, 0xA3C], [0xA17, 0xA3C], [0xA1C, 0xA3C]]⟩,
  ⟨0xA5E, [[0xA2B, 0xA3C]]⟩,
  ⟨0xB48, [[0xB47, 0xB56]]⟩,
  ⟨0xB4B, [[0xB47, 0xB3E], [0xB47, 0xB57]]⟩,
  ⟨0xB5C, [[0xB21, 0xB3C], [0xB22, 0xB3C]]⟩,
  ⟨0xB94, [[0xB92, 0xBD7]]⟩,
  ⟨0xBCA, [[0xBC6, 0xBBE], [0xBC7, 0xBBE], [0xBC6, 0xBD7]]⟩,
  ⟨0xC48, [[0xC46, 0xC56]]⟩,
  ⟨0xCC0, [[0xCBF, 0xCD5]]⟩,
  ⟨0xCC7, [[0xCC6, 0xCD5], [0xCC6, 0xCD6]]⟩,
  ⟨0xCCA, [[0xCC6, 0xCC2], [0xCC6, 0xCC2, 0xCD5]]⟩,
  ⟨0xD4A, [[0xD46, 0xD3E], [0xD47, 0xD3E], [0xD46, 0xD57]]⟩,
  ⟨0xDDA, [[0xDD9, 0xDCA]]⟩,
  ⟨0xDDC, [[0xDD9, 0xDCF], [0xDD9, 0xDCF, 0xDCA], [0xDD9, 0xDDF]]⟩,
  ⟨0xE33, [[0xE4D, 0xE32]]⟩,
  ⟨0xEB3, [[0xECD, 0xEB2]]⟩,
  ⟨0xEDC, [[0xEAB, 0xE99], [0xEAB, 0xEA1]]⟩,
  ⟨0xF0C, [[0xF0B]]⟩,
  ⟨0xF43, [[0xF42, 0xFB7]]⟩,
  ⟨0xF4D, [[0xF4C, 0xFB7]]⟩,
  ⟨0xF52, [[0xF51, 0xFB7]]⟩,
  ⟨0xF57, [[0xF56, 0xFB7]]⟩,
  ⟨0xF5C, [[0xF5B, 0xFB7]]⟩,
  ⟨0xF69, [[0xF40, 0xFB5]]⟩,
  ⟨0xF73, [[0xF71, 0xF72]]⟩,
  ⟨0xF75, [
    [0xF71, 0xF74], [0xFB2, 0xF80], [0xFB2, 0xF71, 0xF80], [0xFB3, 0xF80], [0xFB3, 0xF71, 0xF80]]⟩,
  ⟨0xF81, [[0xF71, 0xF80]]⟩,
  ⟨0xF93, [[0xF92, 0xFB7]]⟩,
  ⟨0xF9D, [[0xF9C, 0xFB7]]⟩,
  ⟨0xFA2, [[0xFA1, 0xFB7]]⟩,
  ⟨0xFA7, [[0xFA6, 0xFB7]]⟩,
  ⟨0xFAC, [[0xFAB, 0xFB7]]⟩,
  ⟨0xFB9, [[0xF90, 0xFB5]]⟩,
  ⟨0x1026, [[0x1025, 0x102E]]⟩,
  ⟨0x10FC, [[0x10DC]]⟩,
  ⟨0x1B06, [[0x1B05, 0x1B35]]⟩,
  ⟨0x1B08, [[0x1B07, 0x1B35]]⟩,
  ⟨0x1B0A, [[0x1B09, 0x1B35]]⟩,
  ⟨0x1B0C, [[0x1B0B, 0x1B35]]⟩]

private def latinBlocksD : List Block := [
  ⟨0x1B0E, [[0x1B0D, 0x1B35]]⟩,
  ⟨0x1B12, [[0x1B11, 0x1B35]]⟩,
  ⟨0x1B3B, [[0x1B3A, 0x1B35]]⟩,
  ⟨0x1B3D, [[0x1B3C, 0x1B35]]⟩,
  ⟨0x1B40, [[0x1B3E, 0x1B35], [0x1B3F, 0x1B35]]⟩,
  ⟨0x1B43, [[0x1B42, 0x1B35]]⟩,
  ⟨0x1D2C, [[0x41], [0xC6], [0x42]]⟩,
  ⟨0x1D30, [[0x44], [0x45], [0x18E]]⟩,
  ⟨0x1D3C, [
    [0x4F], [0x222], [0x50], [0x52], [0x54], [0x55], [0x57], [0x61], [0x250], [0x251], [0x1D02],
    [0x62], [0x64], [0x65], [0x259], [0x25B], [0x25C], [0x67]]⟩,
  ⟨0x1D4F, [
    [0x6B], [0x6D], [0x14B], [0x6F], [0x254], [0x1D16], [0x1D17], [0x70], [0x74], [0x75], [0x1D1D],
    [0x26F], [0x76], [0x1D25], [0x3B2], [0x3B3], [0x3B4], [0x3C6], [0x3C7], [0x69], [0x72], [0x75],
    [0x76], [0x3B2], [0x3B3], [0x3C1], [0x3C6], [0x3C7]]⟩,
  ⟨0x1D78, [[0x43D]]⟩,
  ⟨0x1D9B, [
    [0x252], [0x63], [0x255], [0xF0], [0x25C], [0x66], [0x25F], [0x261], [0x265], [0x268], [0x269],
    [0x26A], [0x1D7B], [0x29D], [0x26D], [0x1D85], [0x29F], [0x271], [0x270]]⟩,
  ⟨0x1DB2, [
    [0x278], [0x282], [0x283], [0x1AB], [0x289], [0x28A], [0x1D1C], [0x28B], [0x28C], [0x7A],
    [0x290], [0x291], [0x292], [0x3B8]]⟩,
  ⟨0x1E00, [
    [0x41, 0x325], [0x61, 0x325], [0x42, 0x307], [0x62, 0x307], [0x42, 0x323], [0x62, 0x323],
    [0x42, 0x331], [0x62, 0x331], [0x43, 0x327, 0x301], [0x63, 0x327, 0x301], [0x44, 0x307],
    [0x64, 0x307], [0x44, 0x323], [0x64, 0x323], [0x44, 0x331], [0x64, 0x331], [0x44, 0x327],
    [0x64, 0x327], [0x44, 0x32D], [0x64, 0x32D], [0x45, 0x304, 0x300], [0x65, 0x304, 0x300],
    [0x45, 0x304, 0x301], [0x65, 0x304, 0x301], [0x45, 0x32D], [0x65, 0x32D], [0x45, 0x330],
    [0x65, 0x330], [0x45, 0x327, 0x306], [0x65, 0x327, 0x306], [0x46, 0x307], [0x66, 0x307],
    [0x47, 0x304], [0x67, 0x304], [0x48, 0x307], [0x68, 0x307], [0x48, 0x323], [0x68, 0x323],
    [0x48, 0x308], [0x68, 0x308], [0x48, 0x327], [0x68, 0x327], [0x48, 0x32E], [0x68, 0x32E],
    [0x49, 0x330], [0x69, 0x330], [0x49, 0x308, 0x301], [0x69, 0x308, 0x301], [0x4B, 0x301],
    [0x6B, 0x301], [0x4B, 0x323], [0x6B, 0x323], [0x4B, 0x331], [0x6B, 0x331], [0x4C, 0x323],
    [0x6C, 0x323], [0x4C, 0x323, 0x304], [0x6C, 0x323, 0x304], [0x4C, 0x331], [0x6C, 0x331],
    [0x4C, 0x32D], [0x6C, 0x32D], [0x4D, 0x301], [0x6D, 0x301]]⟩,
  ⟨0x1E40, [
    [0x4D, 0x307], [0x6D, 0x307], [0x4D, 0x323], [0x6D, 0x323], [0x4E, 0x307], [0x6E, 0x307],
    [0x4E, 0x323], [0x6E, 0x323], [0x4E, 0x331], [0x6E, 0x331], [0x4E, 0x32D], [0x6E, 0x32D],
    [0x4F, 0x303, 0x301], [0x6F, 0x303, 0x301], [0x4F, 0x303, 0x308], [0x6F, 0x303, 0x308],
    [0x4F, 0x304, 0x300], [0x6F, 0x304, 0x300], [0x4F, 0x304, 0x301], [0x6F, 0x304, 0x301],
    [0x50, 0x301], [0x70, 0x301], [0x50, 0x307], [0x70, 0x307], [0x52, 0x307], [0x72, 0x307],
    [0x52, 0x323], [0x72, 0x323], [0x52, 0x323, 0x304], [0x72, 0x323, 0x304], [0x52, 0x331],
    [0x72, 0x331], [0x53, 0x307], [0x73, 0x307], [0x53, 0x323], [0x73, 0x323],
    [0x53, 0x301, 0x307], [0x73, 0x301, 0x307], [0x53, 0x30C, 0x307], [0x73, 0x30C, 0x307],
    [0x53, 0x323, 0x307], [0x73, 0x323, 0x307], [0x54, 0x307], [0x74, 0x307], [0x54, 0x323],
    [0x74, 0x323], [0x54, 0x331], [0x74, 0x331], [0x54, 0x32D], [0x74, 0x32D], [0x55, 0x324],
    [0x75, 0x324], [0x55, 0x330], [0x75, 0x330], [0x55, 0x32D], [0x75, 0x32D],
    [0x55, 0x303, 0x301], [0x75, 0x303, 0x301], [0x55, 0x304, 0x308], [0x75, 0x304, 0x308],
    [0x56, 0x303], [0x76, 0x303], [0x56, 0x323], [0x76, 0x323]]⟩]

private def latinBlocksE : List Block := [
  ⟨0x1E80, [
    [0x57, 0x300], [0x77, 0x300], [0x57, 0x301], [0x77, 0x301], [0x57, 0x308], [0x77, 0x308],
    [0x57, 0x307], [0x77, 0x307], [0x57, 0x323], [0x77, 0x323], [0x58, 0x307], [0x78, 0x307],
    [0x58, 0x308], [0x78, 0x308], [0x59, 0x307], [0x79, 0x307], [0x5A, 0x302], [0x7A, 0x302],
    [0x5A, 0x323], [0x7A, 0x323], [0x5A, 0x331], [0x7A, 0x331], [0x68, 0x331], [0x74, 0x308],
    [0x77, 0x30A], [0x79, 0x30A], [0x61, 0x2BE], [0x73, 0x307]]⟩,
  ⟨0x1EA0, [
    [0x41, 0x323], [0x61, 0x323], [0x41, 0x309], [0x61, 0x309], [0x41, 0x302, 0x301],
    [0x61, 0x302, 0x301], [0x41, 0x302, 0x300], [0x61, 0x302, 0x300], [0x41, 0x302, 0x309],
    [0x61, 0x302, 0x309], [0x41, 0x302, 0x303], [0x61, 0x302, 0x303], [0x41, 0x323, 0x302],
    [0x61, 0x323, 0x302], [0x41, 0x306, 0x301], [0x61, 0x306, 0x301], [0x41, 0x306, 0x300],
    [0x61, 0x306, 0x300], [0x41, 0x306, 0x309], [0x61, 0x306, 0x309], [0x41, 0x306, 0x303],
    [0x61, 0x306, 0x303], [0x41, 0x323, 0x306], [0x61, 0x323, 0x306], [0x45, 0x323], [0x65, 0x323],
    [0x45, 0x309], [0x65, 0x309], [0x45, 0x303], [0x65, 0x303], [0x45, 0x302, 0x301],
    [0x65, 0x302, 0x301], [0x45, 0x302, 0x300], [0x65, 0x302, 0x300], [0x45, 0x302, 0x309],
    [0x65, 0x302, 0x309], [0x45, 0x302, 0x303], [0x65, 0x302, 0x303], [0x45, 0x323, 0x302],
    [0x65, 0x323, 0x302], [0x49, 0x309], [0x69, 0x309], [0x49, 0x323], [0x69, 0x323],
    [0x4F, 0x323], [0x6F, 0x323], [0x4F, 0x309], [0x6F, 0x309], [0x4F, 0x302, 0x301],
    [0x6F, 0x302, 0x301], [0x4F, 0x302, 0x300], [0x6F, 0x302, 0x300], [0x4F, 0x302, 0x309],
    [0x6F, 0x302, 0x309], [0x4F, 0x302, 0x303], [0x6F, 0x302, 0x303], [0x4F, 0x323, 0x302],
    [0x6F, 0x323, 0x302], [0x4F, 0x31B, 0x301], [0x6F, 0x31B, 0x301], [0x4F, 0x31B, 0x300],
    [0x6F, 0x31B, 0x300], [0x4F, 0x31B, 0x309], [0x6F, 0x31B, 0x309]]⟩,
  ⟨0x1EE0, [
    [0x4F, 0x31B, 0x303], [0x6F, 0x31B, 0x303], [0x4F, 0x31B, 0x323], [0x6F, 0x31B, 0x323],
    [0x55, 0x323], [0x75, 0x323], [0x55, 0x309], [0x75, 0x309], [0x55, 0x31B, 0x301],
    [0x75, 0x31B, 0x301], [0x55, 0x31B, 0x300], [0x75, 0x31B, 0x300], [0x55, 0x31B, 0x309],
    [0x75, 0x31B, 0x309], [0x55, 0x31B, 0x303], [0x75, 0x31B, 0x303], [0x55, 0x31B, 0x323],
    [0x75, 0x31B, 0x323], [0x59, 0x300], [0x79, 0x300], [0x59, 0x323], [0x79, 0x323],
    [0x59, 0x309], [0x79, 0x309], [0x59, 0x303], [0x79, 0x303]]⟩,
  ⟨0x1F00, [
    [0x3B1, 0x313], [0x3B1, 0x314], [0x3B1, 0x313, 0x300], [0x3B1, 0x314, 0x300],
    [0x3B1, 0x313, 0x301], [0x3B1, 0x314, 0x301], [0x3B1, 0x313, 0x342], [0x3B1, 0x314, 0x342],
    [0x391, 0x313], [0x391, 0x314], [0x391, 0x313, 0x300], [0x391, 0x314, 0x300],
    [0x391, 0x313, 0x301], [0x391, 0x314, 0x301], [0x391, 0x313, 0x342], [0x391, 0x314, 0x342],
    [0x3B5, 0x313], [0x3B5, 0x314], [0x3B5, 0x313, 0x300], [0x3B5, 0x314, 0x300],
    [0x3B5, 0x313, 0x301], [0x3B5, 0x314, 0x301]]⟩,
  ⟨0x1F18, [
    [0x395, 0x313], [0x395, 0x314], [0x395, 0x313, 0x300], [0x395, 0x314, 0x300],
    [0x395, 0x313, 0x301], [0x395, 0x314, 0x301]]⟩,
  ⟨0x1F20, [
    [0x3B7, 0x313], [0x3B7, 0x314], [0x3B7, 0x313, 0x300], [0x3B7, 0x314, 0x300],
    [0x3B7, 0x313, 0x301], [0x3B7, 0x314, 0x301], [0x3B7, 0x313, 0x342], [0x3B7, 0x314, 0x342],
    [0x397, 0x313], [0x397, 0x314], [0x397, 0x313, 0x300], [0x397, 0x314, 0x300],
    [0x397, 0x313, 0x301], [0x397, 0x314, 0x301], [0x397, 0x313, 0x342], [0x397, 0x314, 0x342],
    [0x3B9, 0x313], [0x3B9, 0x314], [0x3B9, 0x313, 0x300], [0x3B9, 0x314, 0x300],
    [0x3B9, 0x313, 0x301], [0x3B9, 0x314, 0x301], [0x3B9, 0x313, 0x342], [0x3B9, 0x314, 0x342],
    [0x399, 0x313], [0x399, 0x314], [0x399, 0x313, 0x300], [0x399, 0x314, 0x300],
    [0x399, 0x313, 0x301], [0x399, 0x314, 0x301], [0x399, 0x313, 0x342], [0x399, 0x314, 0x342],
    [0x3BF, 0x313], [0x3BF, 0x314], [0x3BF, 0x313, 0x300], [0x3BF, 0x314, 0x300],
    [0x3BF, 0x313, 0x301], [0x3BF, 0x314, 0x301]]⟩]

private def latinBlocksF : List Block := [
  ⟨0x1F48, [
    [0x39F, 0x313], [0x39F, 0x314], [0x39F, 0x313, 0x300], [0x39F, 0x314, 0x300],
    [0x39F, 0x313, 0x301], [0x39F, 0x314, 0x301]]⟩,
  ⟨0x1F50, [
    [0x3C5, 0x313], [0x3C5, 0x314], [0x3C5, 0x313, 0x300], [0x3C5, 0x314, 0x300],
    [0x3C5, 0x313, 0x301], [0x3C5, 0x314, 0x301], [0x3C5, 0x313, 0x342], [0x3C5, 0x314, 0x342]]⟩,
  ⟨0x1F59, [[0x3A5, 0x314]]⟩,
  ⟨0x1F5B, [[0x3A5, 0x314, 0x300]]⟩,
  ⟨0x1F5D, [[0x3A5, 0x314, 0x301]]⟩,
  ⟨0x1F5F, [
    [0x3A5, 0x314, 0x342], [0x3C9, 0x313], [0x3C9, 0x314], [0x3C9, 0x313, 0x300],
    [0x3C9, 0x314, 0x300], [0x3C9, 0x313, 0x301], [0x3C9, 0x314, 0x301], [0x3C9, 0x313, 0x342],
    [0x3C9, 0x314, 0x342], [0x3A9, 0x313], [0x3A9, 0x314], [0x3A9, 0x313, 0x300],
    [0x3A9, 0x314, 0x300], [0x3A9, 0x313, 0x301], [0x3A9, 0x314, 0x301], [0x3A9, 0x313, 0x342],
    [0x3A9, 0x314, 0x342], [0x3B1, 0x300], [0x3B1, 0x301], [0x3B5, 0x300], [0x3B5, 0x301],
    [0x3B7, 0x300], [0x3B7, 0x301], [0x3B9, 0x300], [0x3B9, 0x301], [0x3BF, 0x300], [0x3BF, 0x301],
    [0x3C5, 0x300], [0x3C5, 0x301], [0x3C9, 0x300], [0x3C9, 0x301]]⟩,
  ⟨0x1F80, [
    [0x3B1, 0x313, 0x345], [0x3B1, 0x314, 0x345], [0x3B1, 0x313, 0x300, 0x345],
    [0x3B1, 0x314, 0x300, 0x345], [0x3B1, 0x313, 0x301, 0x345], [0x3B1, 0x314, 0x301, 0x345],
    [0x3B1, 0x313, 0x342, 0x345], [0x3B1, 0x314, 0x342, 0x345], [0x391, 0x313, 0x345],
    [0x391, 0x314, 0x345], [0x391, 0x313, 0x300, 0x345], [0x391, 0x314, 0x300, 0x345],
    [0x391, 0x313, 0x301, 0x345], [0x391, 0x314, 0x301, 0x345], [0x391, 0x313, 0x342, 0x345],
    [0x391, 0x314, 0x342, 0x345], [0x3B7, 0x313, 0x345], [0x3B7, 0x314, 0x345],
    [0x3B7, 0x313, 0x300, 0x345], [0x3B7, 0x314, 0x300, 0x345], [0x3B7, 0x313, 0x301, 0x345],
    [0x3B7, 0x314, 0x301, 0x345], [0x3B7, 0x313, 0x342, 0x345], [0x3B7, 0x314, 0x342, 0x345],
    [0x397, 0x313, 0x345], [0x397, 0x314, 0x345], [0x397, 0x313, 0x300, 0x345],
    [0x397, 0x314, 0x300, 0x345], [0x397, 0x313, 0x301, 0x345], [0x397, 0x314, 0x301, 0x345],
    [0x397, 0x313, 0x342, 0x345], [0x397, 0x314, 0x342, 0x345], [0x3C9, 0x313, 0x345],
    [0x3C9, 0x314, 0x345], [0x3C9, 0x313, 0x300, 0x345], [0x3C9, 0x314, 0x300, 0x345],
    [0x3C9, 0x313, 0x301, 0x345], [0x3C9, 0x314, 0x301, 0x345], [0x3C9, 0x313, 0x342, 0x345],
    [0x3C9, 0x314, 0x342, 0x345], [0x3A9, 0x313, 0x345], [0x3A9, 0x314, 0x345],
    [0x3A9, 0x313, 0x300, 0x345], [0x3A9, 0x314, 0x300, 0x345], [0x3A9, 0x313, 0x301, 0x345],
    [0x3A9, 0x314, 0x301, 0x345], [0x3A9, 0x313, 0x342, 0x345], [0x3A9, 0x314, 0x342, 0x345],
    [0x3B1, 0x306], [0x3B1, 0x304], [0x3B1, 0x300, 0x345], [0x3B1, 0x345], [0x3B1, 0x301, 0x345]]⟩,
  ⟨0x1FB6, [
    [0x3B1, 0x342], [0x3B1, 0x342, 0x345], [0x391, 0x306], [0x391, 0x304], [0x391, 0x300],
    [0x391, 0x301], [0x391, 0x345], [0x20, 0x313], [0x3B9], [0x20, 0x313], [0x20, 0x342],
    [0x20, 0x308, 0x342], [0x3B7, 0x300, 0x345], [0x3B7, 0x345], [0x3B7, 0x301, 0x345]]⟩,
  ⟨0x1FC6, [
    [0x3B7, 0x342], [0x3B7, 0x342, 0x345], [0x395, 0x300], [0x395, 0x301], [0x397, 0x300],
    [0x397, 0x301], [0x397, 0x345], [0x20, 0x313, 0x300], [0x20, 0x313, 0x301],
    [0x20, 0x313, 0x342], [0x3B9, 0x306], [0x3B9, 0x304], [0x3B9, 0x308, 0x300],
    [0x3B9, 0x308, 0x301]]⟩,
  ⟨0x1FD6, [
    [0x3B9, 0x342], [0x3B9, 0x308, 0x342], [0x399, 0x306], [0x399, 0x304], [0x399, 0x300],
    [0x399, 0x301]]⟩]

private def latinBlocksG : List Block := [
  ⟨0x1FDD, [
    [0x20, 0x314, 0x300], [0x20, 0x314, 0x301], [0x20, 0x314, 0x342], [0x3C5, 0x306],
    [0x3C5, 0x304], [0x3C5, 0x308, 0x300], [0x3C5, 0x308, 0x301], [0x3C1, 0x313], [0x3C1, 0x314],
    [0x3C5, 0x342], [0x3C5, 0x308, 0x342], [0x3A5, 0x306], [0x3A5, 0x304], [0x3A5, 0x300],
    [0x3A5, 0x301], [0x3A1, 0x314], [0x20, 0x308, 0x300], [0x20, 0x308, 0x301], [0x60]]⟩,
  ⟨0x1FF2, [[0x3C9, 0x300, 0x345], [0x3C9, 0x345], [0x3C9, 0x301, 0x345]]⟩,
  ⟨0x1FF6, [
    [0x3C9, 0x342], [0x3C9, 0x342, 0x345], [0x39F, 0x300], [0x39F, 0x301], [0x3A9, 0x300],
    [0x3A9, 0x301], [0x3A9, 0x345], [0x20, 0x301], [0x20, 0x314]]⟩]

def latinBlocks : List Block :=
  latinBlocksA ++ latinBlocksB ++ latinBlocksC ++ latinBlocksD ++ latinBlocksE ++ latinBlocksF ++ latinBlocksG

end Silbo.Text
