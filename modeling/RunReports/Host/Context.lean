import RunReports.Host.Direction

/-! # Context rules

Some code points may stand in a label next to certain others only: the joiners behind a mark
that takes away a vowel, or between letters that join; the middle dot between two letters; and
signs of a script next to letters of that script. -/
namespace RunReports.Host

open RunReports.Text

/-- How the letters of joined scripts join: with what follows and what stands before, or with
one of these; marks are passed over. -/
inductive Joining
  | both
  | following
  | preceding
  | passed
  | never
  deriving Repr, DecidableEq

def precedingRanges : Array (Nat × Nat) := #[
  (0x622, 0x625), (0x627, 0x627), (0x629, 0x629), (0x62f, 0x632), (0x648, 0x648), (0x671, 0x673),
  (0x675, 0x677), (0x688, 0x699), (0x6c0, 0x6c0), (0x6c3, 0x6cb), (0x6cd, 0x6cd), (0x6cf, 0x6cf),
  (0x6d2, 0x6d3), (0x6d5, 0x6d5), (0x6ee, 0x6ef), (0x710, 0x710), (0x715, 0x719), (0x71e, 0x71e),
  (0x728, 0x728), (0x72a, 0x72a), (0x72c, 0x72c), (0x72f, 0x72f), (0x74d, 0x74d), (0x759, 0x75b),
  (0x76b, 0x76c), (0x771, 0x771), (0x773, 0x774), (0x778, 0x779), (0x840, 0x840), (0x846, 0x847),
  (0x849, 0x849), (0x854, 0x854), (0x856, 0x858), (0x867, 0x867), (0x869, 0x86a), (0x870, 0x882),
  (0x88e, 0x88e), (0x8aa, 0x8ac), (0x8ae, 0x8ae), (0x8b1, 0x8b2), (0x8b9, 0x8b9),
  (0x10d22, 0x10d22)]

/-- The ranges of letters that join with what follows and what stands before. -/
def bothRanges : Array (Nat × Nat) := #[
  (0x620, 0x620), (0x626, 0x626), (0x628, 0x628), (0x62a, 0x62e), (0x633, 0x63f), (0x641, 0x647),
  (0x649, 0x64a), (0x66e, 0x66f), (0x678, 0x687), (0x69a, 0x6bf), (0x6c1, 0x6c2), (0x6cc, 0x6cc),
  (0x6ce, 0x6ce), (0x6d0, 0x6d1), (0x6fa, 0x6fc), (0x6ff, 0x6ff), (0x712, 0x714), (0x71a, 0x71d),
  (0x71f, 0x727), (0x729, 0x729), (0x72b, 0x72b), (0x72d, 0x72e), (0x74e, 0x758), (0x75c, 0x76a),
  (0x76d, 0x770), (0x772, 0x772), (0x775, 0x777), (0x77a, 0x77f), (0x7ca, 0x7ea), (0x841, 0x845),
  (0x848, 0x848), (0x84a, 0x853), (0x855, 0x855), (0x860, 0x860), (0x862, 0x865), (0x868, 0x868),
  (0x886, 0x886), (0x889, 0x88d), (0x8a0, 0x8a9), (0x8af, 0x8b0), (0x8b3, 0x8b8), (0x8ba, 0x8c8),
  (0x1820, 0x1878), (0x1887, 0x18a8), (0x18aa, 0x18aa), (0xa840, 0xa871), (0x10d01, 0x10d21),
  (0x10d23, 0x10d23), (0x1e900, 0x1e943)]

def joiningOf (n : Nat) : Joining :=
  if inRanges bothRanges n then .both
  else if inRanges precedingRanges n then .preceding
  else if n = 0xa872 ∨ n = 0x10d00 then .following
  else if isMark n && !inRanges spacingRanges n then .passed
  else .never

/-- The class of the marks that take away a vowel. -/
def viramaClass : Nat := 9

/-- Whether the code points before a place, the last one first, end in a letter that joins with
what follows. -/
def joinsOn (before : List Nat) : Bool :=
  match (before.dropWhile fun n => joiningOf n == .passed).head?.map joiningOf with
  | some .both => true
  | some .following => true
  | _ => false

/-- Whether code points begin with a letter that joins with what stands before. -/
def joinsBack (after : List Nat) : Bool :=
  match (after.dropWhile fun n => joiningOf n == .passed).head?.map joiningOf with
  | some .both => true
  | some .preceding => true
  | _ => false

def nonJoiner : Nat := 0x200c

def joiner : Nat := 0x200d

/-- Whether a joiner may stand between the code points before it, the last one first, and those
after it. -/
def mayJoin (n : Nat) (before after : List Nat) : Bool :=
  (before.head?.map markClass == some viramaClass) ||
    (n == nonJoiner && joinsOn before && joinsBack after)

def greekRanges : Array (Nat × Nat) := #[
  (0x370, 0x373), (0x375, 0x37d), (0x37f, 0x37f), (0x384, 0x384), (0x386, 0x386), (0x388, 0x3e1),
  (0x3f0, 0x3ff), (0x1d26, 0x1d2a), (0x1d5d, 0x1d61), (0x1d66, 0x1d6a), (0x1dbf, 0x1dbf),
  (0x1f00, 0x1ffe), (0x2126, 0x2126), (0xab65, 0xab65), (0x10140, 0x1018e), (0x101a0, 0x101a0),
  (0x1d200, 0x1d245)]

def hebrewRanges : Array (Nat × Nat) := #[(0x591, 0x5f4), (0xfb1d, 0xfb4f)]

/-- The ranges of the scripts of Japan: the two syllabaries and the characters from China. -/
def japaneseRanges : Array (Nat × Nat) := #[
  (0x2e80, 0x2fd5), (0x3005, 0x3005), (0x3007, 0x3007), (0x3021, 0x3029), (0x3038, 0x303b),
  (0x3041, 0x3096), (0x309d, 0x309f), (0x30a1, 0x30fa), (0x30fd, 0x30ff), (0x31f0, 0x31ff),
  (0x32d0, 0x32fe), (0x3300, 0x3357), (0x3400, 0x4dbf), (0x4e00, 0x9fff), (0xf900, 0xfad9),
  (0xff66, 0xff6f), (0xff71, 0xff9d), (0x16fe2, 0x16fe3), (0x16ff0, 0x16ff1), (0x1aff0, 0x1b167),
  (0x1f200, 0x1f200), (0x20000, 0x3134a)]

def isArabicDigit (n : Nat) : Bool := 0x660 ≤ n && n ≤ 0x669

/-- Whether a code point is an eastern digit of the Arabic script. -/
def isEasternDigit (n : Nat) : Bool := 0x6f0 ≤ n && n ≤ 0x6f9

/-- The letter on both sides of a middle dot. -/
def smallEl : Nat := 0x6c

/-- Whether a code point may stand between those before it, the last one first, and those after
it; none where there is no rule for it. -/
def mayStand? (n : Nat) (before after : List Nat) : Option Bool :=
  if n = 0xb7 then some (before.head? == some smallEl && after.head? == some smallEl)
  else if n = 0x375 then some (after.head?.any (inRanges greekRanges))
  else if n = 0x5f3 ∨ n = 0x5f4 then some (before.head?.any (inRanges hebrewRanges))
  else if n = 0x30fb then some ((before ++ after).any (inRanges japaneseRanges))
  else if isArabicDigit n then some (!before.any isEasternDigit && !after.any isEasternDigit)
  else if isEasternDigit n then some (!before.any isArabicDigit && !after.any isArabicDigit)
  else none

end RunReports.Host
