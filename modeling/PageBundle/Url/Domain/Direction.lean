import PageBundle.Text.Mark

/-!
The direction of writing in a domain name. A label of a script that runs from right to left must not show its
characters in an order in which another label would show them, so each label keeps to one direction.
-/

namespace PageBundle.Url

open Text (Table)

/-- How a character behaves in a line of text. -/
inductive Direction where
  | leftToRight
  | rightToLeft
  /-- Digits that are written with scripts that run from right to left. -/
  | arabicDigit
  | europeanDigit
  /-- Goes with the character before it. -/
  | nonspacing
  | neutral
deriving DecidableEq, Repr

/-- Letters of scripts that run from right to left. Code points that no name holds may lie in a range of their
neighbours, here and in the tables below. -/
def rightToLeftSpans : List (Nat × Nat) := [
  (0x5BE, 0x5BE), (0x5C0, 0x5C0), (0x5C3, 0x5C3), (0x5C6, 0x5C6), (0x5D0, 0x5F4), (0x608, 0x608),
  (0x60B, 0x60B), (0x60D, 0x60D), (0x61B, 0x64A), (0x66D, 0x66F), (0x671, 0x6D5), (0x6E5, 0x6E6),
  (0x6EE, 0x6EF), (0x6FA, 0x710), (0x712, 0x72F), (0x74D, 0x7A5), (0x7B1, 0x7EA), (0x7F4, 0x7F5),
  (0x7FA, 0x7FA), (0x7FE, 0x815), (0x81A, 0x81A), (0x824, 0x824), (0x828, 0x828), (0x830, 0x858),
  (0x85E, 0x88F), (0x8A0, 0x8C9), (0xFBB2, 0xFBC2), (0xFE73, 0xFE73), (0x10800, 0x1091B),
  (0x10920, 0x10A00), (0x10A10, 0x10A35), (0x10A40, 0x10AE4), (0x10AEB, 0x10B35), (0x10B40, 0x10D23),
  (0x10D40, 0x10D4F), (0x10D6F, 0x10D8F), (0x10E80, 0x10EA9), (0x10EAD, 0x10EC7), (0x10F00, 0x10F45),
  (0x10F51, 0x10F81), (0x10F86, 0x10FF6), (0x1E800, 0x1E8CF), (0x1E922, 0x1E943), (0x1E94B, 0x1ED3D)]

def rightToLeftTable : Table := .ofSpans rightToLeftSpans

/-- Digits of scripts that run from right to left. -/
def arabicDigitSpans : List (Nat × Nat) := [
  (0x660, 0x669), (0x66B, 0x66C), (0x10D30, 0x10D39), (0x10E60, 0x10E7E)]

def arabicDigitTable : Table := .ofSpans arabicDigitSpans

/-- Other digits that are not bound to a direction. -/
def europeanDigitTable : Table := .ofText
  "30-39 6F0-6F9 102E1-102FB"

/-- Signs that take on the direction of what is around them. -/
def neutralTable : Table := .ofText
  "0-2F 3A-60 7B-D7 F7 2B9-2BA 2C2-2CF 2D2-2ED 2EF-2FF 375 3F6 58A-58F 606-607 609-60A 60C 60E-60F 66A 6DE
   6E9 7F6-7F9 9F2-9F3 9FB AF1 BF3-BFA C78-C7E E3F F3A-F3D 1390-1399 1400 169B-169C 17DB 17F0-180A 1940-1945
   19DE-19FF 200C-20C1 2104-214D 218A-2335 237B-2394 2396-26AB 26AD-27FF 2900-2BFF 2CE5-2CEA 2CF9-2CFF
   2E00-3004 3008-3020 3030 3037 303D-303F 30A0 30FB 31C0-31E5 4DC0-4DFF A490-A4C6 A60D-A60F A673 A67E-A67F
   A700-A721 A788 A828-A82B A838-A839 A874-A877 AB6A-AB6B FBC3-FDFF FE45-FE46 10101 10140-1018C 10190-101A0
   1091F 10B39-10B3F 10D6E 10ED0-10ED8 11052-11065 11660-1166C 11FD5-11FF1 16FE2 1CC00-1CEF0 1D1E9-1D241
   1D245 1D300-1D356 1E2FF 1EEF0-1F12F 1F16D-1F16F 1F1AD 1F260-1FBFA"

/-- Marks without room of their own that run from left to right all the same. -/
def leftToRightMarks : List Nat := [0xCBF, 0xCC6, 0x11A07, 0x11A08, 0x11C3F]

def direction (c : Char) : Direction :=
  let n := c.toNat
  if Text.isNonspacing c && !leftToRightMarks.contains n then .nonspacing
  else if rightToLeftTable.contains n then .rightToLeft
  else if arabicDigitTable.contains n then .arabicDigit
  else if europeanDigitTable.contains n then .europeanDigit
  else if neutralTable.contains n then .neutral
  else .leftToRight

/-- Whether a label has a character of a script that runs from right to left. -/
def runsRightToLeft (label : List Char) : Bool :=
  label.any fun c => direction c == .rightToLeft || direction c == .arabicDigit

/-- Whether a label keeps to the direction of its first character, which must have one. It ends in a letter
or a digit, marks aside. From right to left there are no letters of the other direction and no two kinds of
digits; from left to right nothing that runs the other way. -/
def keepsDirection : List Char → Bool
  | [] => true
  | c :: s =>
    let kinds := ((s.map direction).reverse.dropWhile (· == .nonspacing)).reverse
    match direction c with
    | .leftToRight =>
      kinds.all (fun d => d != .rightToLeft && d != .arabicDigit) &&
        kinds.getLast?.all fun d => d == .leftToRight || d == .europeanDigit
    | .rightToLeft =>
      kinds.all (· != .leftToRight) && kinds.getLast?.all (· != .neutral) &&
        !(kinds.contains .arabicDigit && kinds.contains .europeanDigit)
    | _ => false

end PageBundle.Url
