import Parley.Pattern.CharClass

/-!
# Letter case

Two characters are the same letter in different case when simple case folding, which maps a
character to one character, takes them to the same one. Folding a class of characters adds
every character that is the same letter as one of its members.

Folding a second time changes nothing, so two passes over the table close a class: the first
adds what its members are folded to, the second whatever is folded to a member.
-/

namespace Parley

namespace Unicode

/-- Simple case folding, in runs: the first character of a run, how many there are, how far
apart they are, and how far each is from what it is folded to. -/
def foldingRuns : List (Nat × Nat × Nat × Int) := [
  (0x0041, 26, 1, 32), (0x00B5, 1, 1, 775), (0x00C0, 23, 1, 32), (0x00D8, 7, 1, 32),
  (0x0100, 24, 2, 1), (0x0132, 3, 2, 1), (0x0139, 8, 2, 1), (0x014A, 23, 2, 1),
  (0x0178, 1, 1, -121), (0x0179, 3, 2, 1), (0x017F, 1, 1, -268), (0x0181, 1, 1, 210),
  (0x0182, 2, 2, 1), (0x0186, 1, 1, 206), (0x0187, 1, 1, 1), (0x0189, 2, 1, 205), (0x018B, 1, 1, 1),
  (0x018E, 1, 1, 79), (0x018F, 1, 1, 202), (0x0190, 1, 1, 203), (0x0191, 1, 1, 1),
  (0x0193, 1, 1, 205), (0x0194, 1, 1, 207), (0x0196, 1, 1, 211), (0x0197, 1, 1, 209),
  (0x0198, 1, 1, 1), (0x019C, 1, 1, 211), (0x019D, 1, 1, 213), (0x019F, 1, 1, 214),
  (0x01A0, 3, 2, 1), (0x01A6, 1, 1, 218), (0x01A7, 1, 1, 1), (0x01A9, 1, 1, 218), (0x01AC, 1, 1, 1),
  (0x01AE, 1, 1, 218), (0x01AF, 1, 1, 1), (0x01B1, 2, 1, 217), (0x01B3, 2, 2, 1),
  (0x01B7, 1, 1, 219), (0x01B8, 1, 1, 1), (0x01BC, 1, 1, 1), (0x01C4, 1, 1, 2), (0x01C5, 1, 1, 1),
  (0x01C7, 1, 1, 2), (0x01C8, 1, 1, 1), (0x01CA, 1, 1, 2), (0x01CB, 9, 2, 1), (0x01DE, 9, 2, 1),
  (0x01F1, 1, 1, 2), (0x01F2, 2, 2, 1), (0x01F6, 1, 1, -97), (0x01F7, 1, 1, -56),
  (0x01F8, 20, 2, 1), (0x0220, 1, 1, -130), (0x0222, 9, 2, 1), (0x023A, 1, 1, 10795),
  (0x023B, 1, 1, 1), (0x023D, 1, 1, -163), (0x023E, 1, 1, 10792), (0x0241, 1, 1, 1),
  (0x0243, 1, 1, -195), (0x0244, 1, 1, 69), (0x0245, 1, 1, 71), (0x0246, 5, 2, 1),
  (0x0345, 1, 1, 116), (0x0370, 2, 2, 1), (0x0376, 1, 1, 1), (0x037F, 1, 1, 116),
  (0x0386, 1, 1, 38), (0x0388, 3, 1, 37), (0x038C, 1, 1, 64), (0x038E, 2, 1, 63),
  (0x0391, 17, 1, 32), (0x03A3, 9, 1, 32), (0x03C2, 1, 1, 1), (0x03CF, 1, 1, 8),
  (0x03D0, 1, 1, -30), (0x03D1, 1, 1, -25), (0x03D5, 1, 1, -15), (0x03D6, 1, 1, -22),
  (0x03D8, 12, 2, 1), (0x03F0, 1, 1, -54), (0x03F1, 1, 1, -48), (0x03F4, 1, 1, -60),
  (0x03F5, 1, 1, -64), (0x03F7, 1, 1, 1), (0x03F9, 1, 1, -7), (0x03FA, 1, 1, 1),
  (0x03FD, 3, 1, -130), (0x0400, 16, 1, 80), (0x0410, 32, 1, 32), (0x0460, 17, 2, 1),
  (0x048A, 27, 2, 1), (0x04C0, 1, 1, 15), (0x04C1, 7, 2, 1), (0x04D0, 48, 2, 1),
  (0x0531, 38, 1, 48), (0x10A0, 38, 1, 7264), (0x10C7, 1, 1, 7264), (0x10CD, 1, 1, 7264),
  (0x13F8, 6, 1, -8), (0x1C80, 1, 1, -6222), (0x1C81, 1, 1, -6221), (0x1C82, 1, 1, -6212),
  (0x1C83, 2, 1, -6210), (0x1C85, 1, 1, -6211), (0x1C86, 1, 1, -6204), (0x1C87, 1, 1, -6180),
  (0x1C88, 1, 1, 35267), (0x1C89, 1, 1, 1), (0x1C90, 43, 1, -3008), (0x1CBD, 3, 1, -3008),
  (0x1E00, 75, 2, 1), (0x1E9B, 1, 1, -58), (0x1E9E, 1, 1, -7615), (0x1EA0, 48, 2, 1),
  (0x1F08, 8, 1, -8), (0x1F18, 6, 1, -8), (0x1F28, 8, 1, -8), (0x1F38, 8, 1, -8),
  (0x1F48, 6, 1, -8), (0x1F59, 4, 2, -8), (0x1F68, 8, 1, -8), (0x1F88, 8, 1, -8),
  (0x1F98, 8, 1, -8), (0x1FA8, 8, 1, -8), (0x1FB8, 2, 1, -8), (0x1FBA, 2, 1, -74),
  (0x1FBC, 1, 1, -9), (0x1FBE, 1, 1, -7173), (0x1FC8, 4, 1, -86), (0x1FCC, 1, 1, -9),
  (0x1FD3, 1, 1, -7235), (0x1FD8, 2, 1, -8), (0x1FDA, 2, 1, -100), (0x1FE3, 1, 1, -7219),
  (0x1FE8, 2, 1, -8), (0x1FEA, 2, 1, -112), (0x1FEC, 1, 1, -7), (0x1FF8, 2, 1, -128),
  (0x1FFA, 2, 1, -126), (0x1FFC, 1, 1, -9), (0x2126, 1, 1, -7517), (0x212A, 1, 1, -8383),
  (0x212B, 1, 1, -8262), (0x2132, 1, 1, 28), (0x2160, 16, 1, 16), (0x2183, 1, 1, 1),
  (0x24B6, 26, 1, 26), (0x2C00, 48, 1, 48), (0x2C60, 1, 1, 1), (0x2C62, 1, 1, -10743),
  (0x2C63, 1, 1, -3814), (0x2C64, 1, 1, -10727), (0x2C67, 3, 2, 1), (0x2C6D, 1, 1, -10780),
  (0x2C6E, 1, 1, -10749), (0x2C6F, 1, 1, -10783), (0x2C70, 1, 1, -10782), (0x2C72, 1, 1, 1),
  (0x2C75, 1, 1, 1), (0x2C7E, 2, 1, -10815), (0x2C80, 50, 2, 1), (0x2CEB, 2, 2, 1),
  (0x2CF2, 1, 1, 1), (0xA640, 23, 2, 1), (0xA680, 14, 2, 1), (0xA722, 7, 2, 1), (0xA732, 31, 2, 1),
  (0xA779, 2, 2, 1), (0xA77D, 1, 1, -35332), (0xA77E, 5, 2, 1), (0xA78B, 1, 1, 1),
  (0xA78D, 1, 1, -42280), (0xA790, 2, 2, 1), (0xA796, 10, 2, 1), (0xA7AA, 1, 1, -42308),
  (0xA7AB, 1, 1, -42319), (0xA7AC, 1, 1, -42315), (0xA7AD, 1, 1, -42305), (0xA7AE, 1, 1, -42308),
  (0xA7B0, 1, 1, -42258), (0xA7B1, 1, 1, -42282), (0xA7B2, 1, 1, -42261), (0xA7B3, 1, 1, 928),
  (0xA7B4, 8, 2, 1), (0xA7C4, 1, 1, -48), (0xA7C5, 1, 1, -42307), (0xA7C6, 1, 1, -35384),
  (0xA7C7, 2, 2, 1), (0xA7CB, 1, 1, -42343), (0xA7CC, 1, 1, 1), (0xA7D0, 1, 1, 1),
  (0xA7D6, 3, 2, 1), (0xA7DC, 1, 1, -42561), (0xA7F5, 1, 1, 1), (0xAB70, 80, 1, -38864),
  (0xFB05, 1, 1, 1), (0xFF21, 26, 1, 32), (0x10400, 40, 1, 40), (0x104B0, 36, 1, 40),
  (0x10570, 11, 1, 39), (0x1057C, 15, 1, 39), (0x1058C, 7, 1, 39), (0x10594, 2, 1, 39),
  (0x10C80, 51, 1, 64), (0x10D50, 22, 1, 32), (0x118A0, 32, 1, 32), (0x16E40, 32, 1, 32),
  (0x1E900, 34, 1, 34)]

/-- Simple case folding as a list of pairs: a character, and what it is folded to. -/
def folding : List (Nat × Nat) :=
  foldingRuns.flatMap fun run =>
    (List.range run.2.1).map fun i =>
      let c := run.1 + i * run.2.2.1
      (c, ((c : Int) + run.2.2.2).toNat)

/-- The characters that differ from another one in case only: those that are folded, and those
that one is folded to. -/
def foldable : CharClass :=
  .ofRanges (folding.flatMap fun p => [(p.1, p.1), (p.2, p.2)])

/-- The class together with every character that differs from a member in case only. -/
def foldCase (cls : CharClass) : CharClass :=
  let folded := cls.union (.ofRanges ((folding.filter fun p => cls.contains p.1).map fun p =>
    (p.2, p.2)))
  folded.union (.ofRanges ((folding.filter fun p => folded.contains p.2).map fun p =>
    (p.1, p.1)))

end Unicode

end Parley
