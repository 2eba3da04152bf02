/-!
# Simple case folding

The simple case folding of Unicode 16 as groups of letters that differ only in case: two letters are
in one group when they fold to the same letter.
-/

namespace SchemaSieve.Text.Unicode

/-- Runs of letters that come in pairs: `(first, count, step, distance)` stands for the pairs of
`first + k * step` with the letter `distance` code points behind it, for `k < count`. -/
def foldRuns : List (Nat × Nat × Nat × Nat) := [
  (0x41, 10, 1, 32), (0x4C, 7, 1, 32), (0x54, 7, 1, 32), (0xC0, 5, 1, 32), (0xC6, 17, 1, 32),
  (0xD8, 7, 1, 32), (0xDF, 1, 2, 7615), (0xFF, 1, 2, 121), (0x100, 24, 2, 1), (0x132, 3, 2, 1),
  (0x139, 8, 2, 1), (0x14A, 23, 2, 1), (0x179, 3, 2, 1), (0x180, 1, 2, 195), (0x181, 1, 2, 210),
  (0x182, 2, 2, 1), (0x186, 1, 2, 206), (0x187, 1, 2, 1), (0x189, 2, 1, 205), (0x18B, 1, 2, 1),
  (0x18E, 1, 2, 79), (0x18F, 1, 2, 202), (0x190, 1, 2, 203), (0x191, 1, 2, 1), (0x193, 1, 2, 205),
  (0x194, 1, 2, 207), (0x195, 1, 2, 97), (0x196, 1, 2, 211), (0x197, 1, 2, 209), (0x198, 1, 2, 1),
  (0x19A, 1, 2, 163), (0x19B, 1, 2, 42561), (0x19C, 1, 2, 211), (0x19D, 1, 2, 213),
  (0x19E, 1, 2, 130), (0x19F, 1, 2, 214), (0x1A0, 3, 2, 1), (0x1A6, 1, 2, 218), (0x1A7, 1, 2, 1),
  (0x1A9, 1, 2, 218), (0x1AC, 1, 2, 1), (0x1AE, 1, 2, 218), (0x1AF, 1, 2, 1), (0x1B1, 2, 1, 217),
  (0x1B3, 2, 2, 1), (0x1B7, 1, 2, 219), (0x1B8, 1, 2, 1), (0x1BC, 1, 2, 1), (0x1BF, 1, 2, 56),
  (0x1CD, 8, 2, 1), (0x1DE, 9, 2, 1), (0x1F4, 1, 2, 1), (0x1F8, 20, 2, 1), (0x222, 9, 2, 1),
  (0x23A, 1, 2, 10795), (0x23B, 1, 2, 1), (0x23E, 1, 2, 10792), (0x23F, 2, 1, 10815),
  (0x241, 1, 2, 1), (0x244, 1, 2, 69), (0x245, 1, 2, 71), (0x246, 5, 2, 1), (0x250, 1, 2, 10783),
  (0x251, 1, 2, 10780), (0x252, 1, 2, 10782), (0x25C, 1, 2, 42319), (0x261, 1, 2, 42315),
  (0x264, 1, 2, 42343), (0x265, 1, 2, 42280), (0x266, 1, 2, 42308), (0x26A, 1, 2, 42308),
  (0x26B, 1, 2, 10743), (0x26C, 1, 2, 42305), (0x271, 1, 2, 10749), (0x27D, 1, 2, 10727),
  (0x282, 1, 2, 42307), (0x287, 1, 2, 42282), (0x29D, 1, 2, 42261), (0x29E, 1, 2, 42258),
  (0x370, 2, 2, 1), (0x376, 1, 2, 1), (0x37B, 3, 1, 130), (0x37F, 1, 2, 116), (0x386, 1, 2, 38),
  (0x388, 3, 1, 37), (0x38C, 1, 2, 64), (0x38E, 2, 1, 63), (0x390, 1, 2, 7235), (0x391, 2, 2, 32),
  (0x394, 2, 2, 32), (0x397, 1, 2, 32), (0x39B, 3, 2, 32), (0x39E, 1, 2, 32), (0x3A4, 2, 1, 32),
  (0x3A7, 2, 1, 32), (0x3AA, 2, 1, 32), (0x3B0, 1, 2, 7219), (0x3CF, 1, 2, 8), (0x3D8, 12, 2, 1),
  (0x3F2, 1, 2, 7), (0x3F7, 1, 2, 1), (0x3FA, 1, 2, 1), (0x400, 16, 1, 80), (0x410, 2, 1, 32),
  (0x413, 7, 2, 32), (0x416, 4, 2, 32), (0x420, 1, 2, 32), (0x423, 7, 1, 32), (0x42B, 5, 1, 32),
  (0x460, 1, 2, 1), (0x464, 15, 2, 1), (0x48A, 27, 2, 1), (0x4C0, 1, 2, 15), (0x4C1, 7, 2, 1),
  (0x4D0, 48, 2, 1), (0x531, 38, 1, 48), (0x10A0, 38, 1, 7264), (0x10C7, 1, 2, 7264),
  (0x10CD, 1, 2, 7264), (0x10D0, 43, 1, 3008), (0x10FD, 3, 1, 3008), (0x13A0, 80, 1, 38864),
  (0x13F0, 6, 1, 8), (0x1C89, 1, 2, 1), (0x1D79, 1, 2, 35332), (0x1D7D, 1, 2, 3814),
  (0x1D8E, 1, 2, 35384), (0x1E00, 48, 2, 1), (0x1E62, 26, 2, 1), (0x1EA0, 48, 2, 1),
  (0x1F00, 8, 1, 8), (0x1F10, 6, 1, 8), (0x1F20, 8, 1, 8), (0x1F30, 8, 1, 8), (0x1F40, 6, 1, 8),
  (0x1F51, 4, 2, 8), (0x1F60, 8, 1, 8), (0x1F70, 2, 1, 74), (0x1F72, 4, 1, 86),
  (0x1F76, 2, 1, 100), (0x1F78, 2, 1, 128), (0x1F7A, 2, 1, 112), (0x1F7C, 2, 1, 126),
  (0x1F80, 8, 1, 8), (0x1F90, 8, 1, 8), (0x1FA0, 8, 1, 8), (0x1FB0, 2, 1, 8), (0x1FB3, 1, 2, 9),
  (0x1FC3, 1, 2, 9), (0x1FD0, 2, 1, 8), (0x1FE0, 2, 1, 8), (0x1FE5, 1, 2, 7), (0x1FF3, 1, 2, 9),
  (0x2132, 1, 2, 28), (0x2160, 16, 1, 16), (0x2183, 1, 2, 1), (0x24B6, 26, 1, 26),
  (0x2C00, 48, 1, 48), (0x2C60, 1, 2, 1), (0x2C67, 3, 2, 1), (0x2C72, 1, 2, 1), (0x2C75, 1, 2, 1),
  (0x2C80, 50, 2, 1), (0x2CEB, 2, 2, 1), (0x2CF2, 1, 2, 1), (0xA640, 5, 2, 1), (0xA64C, 17, 2, 1),
  (0xA680, 14, 2, 1), (0xA722, 7, 2, 1), (0xA732, 31, 2, 1), (0xA779, 2, 2, 1), (0xA77E, 5, 2, 1),
  (0xA78B, 1, 2, 1), (0xA790, 2, 2, 1), (0xA794, 1, 2, 48), (0xA796, 10, 2, 1),
  (0xA7B3, 1, 2, 928), (0xA7B4, 8, 2, 1), (0xA7C7, 2, 2, 1), (0xA7CC, 1, 2, 1), (0xA7D0, 1, 2, 1),
  (0xA7D6, 3, 2, 1), (0xA7F5, 1, 2, 1), (0xFB05, 1, 2, 1), (0xFF21, 26, 1, 32),
  (0x10400, 40, 1, 40), (0x104B0, 36, 1, 40), (0x10570, 11, 1, 39), (0x1057C, 15, 1, 39),
  (0x1058C, 7, 1, 39), (0x10594, 2, 1, 39), (0x10C80, 51, 1, 64), (0x10D50, 22, 1, 32),
  (0x118A0, 32, 1, 32), (0x16E40, 32, 1, 32), (0x1E900, 34, 1, 34)]

/-- Groups of more than two letters that differ only in case. -/
def foldGroups : List (List Nat) := [
  [0x4B, 0x6B, 0x212A], [0x53, 0x73, 0x17F], [0xB5, 0x39C, 0x3BC], [0xC5, 0xE5, 0x212B],
  [0x1C4, 0x1C5, 0x1C6], [0x1C7, 0x1C8, 0x1C9], [0x1CA, 0x1CB, 0x1CC], [0x1F1, 0x1F2, 0x1F3],
  [0x345, 0x399, 0x3B9, 0x1FBE], [0x392, 0x3B2, 0x3D0], [0x395, 0x3B5, 0x3F5],
  [0x398, 0x3B8, 0x3D1, 0x3F4], [0x39A, 0x3BA, 0x3F0], [0x3A0, 0x3C0, 0x3D6],
  [0x3A1, 0x3C1, 0x3F1], [0x3A3, 0x3C2, 0x3C3], [0x3A6, 0x3C6, 0x3D5], [0x3A9, 0x3C9, 0x2126],
  [0x412, 0x432, 0x1C80], [0x414, 0x434, 0x1C81], [0x41E, 0x43E, 0x1C82], [0x421, 0x441, 0x1C83],
  [0x422, 0x442, 0x1C84, 0x1C85], [0x42A, 0x44A, 0x1C86], [0x462, 0x463, 0x1C87],
  [0x1C88, 0xA64A, 0xA64B], [0x1E60, 0x1E61, 0x1E9B]]

end SchemaSieve.Text.Unicode
