import RunReports.Host.Case

/-! # Directions of labels

A label with letters that are written from right to left keeps rules of its own: it has one
direction throughout, it ends in a letter or a digit, marks aside, and its digits are of one
kind. -/
namespace RunReports.Host

open RunReports.Text

inductive Direction
  | left
  | right
  | europeanDigit
  | arabicDigit
  | mark
  | neutral
  deriving Repr, DecidableEq

def rightToLeftRanges : Array (Nat × Nat) := #[
  (0x5d0, 0x5f4), (0x620, 0x64a), (0x66e, 0x66f), (0x671, 0x6d5), (0x6e5, 0x6e6), (0x6ee, 0x6ef),
  (0x6fa, 0x710), (0x712, 0x72f), (0x74d, 0x7a5), (0x7b1, 0x7ea), (0x7f4, 0x7f5), (0x800, 0x815),
  (0x81a, 0x81a), (0x824, 0x824), (0x828, 0x828), (0x840, 0x858), (0x860, 0x88e), (0x8a0, 0x8c9),
  (0xfe73, 0xfe73), (0x10800, 0x10a00), (0x10a10, 0x10a35), (0x10a60, 0x10ae4), (0x10b00, 0x10d23),
  (0x10e80, 0x10ea9), (0x10eb0, 0x10f45), (0x10f70, 0x10f81), (0x10fb0, 0x10ff6),
  (0x1e800, 0x1e8c4), (0x1e922, 0x1e943), (0x1e94b, 0x1e959)]

def neutralRanges : Array (Nat × Nat) := #[
  (0x2d, 0x2d), (0xb7, 0xb7), (0x2b9, 0x2ba), (0x2c6, 0x2cf), (0x2ec, 0x2ec), (0x375, 0x375),
  (0x200c, 0x200d), (0x2e2f, 0x2e2f), (0x30fb, 0x30fb), (0xa67f, 0xa67f), (0xa717, 0xa71f),
  (0xa788, 0xa788)]

/-- The direction of a code point that may stand in a label. -/
def directionOf (n : Nat) : Direction :=
  if inRanges rightToLeftRanges n then .right
  else if inRanges #[(0x660, 0x669), (0x10d30, 0x10d39)] n then .arabicDigit
  else if inRanges #[(0x30, 0x39), (0x6f0, 0x6f9)] n then .europeanDigit
  else if inRanges neutralRanges n then .neutral
  else if isMark n && !inRanges spacingRanges n then .mark
  else .left

/-- Which rule of directions a label breaks, with the position from one where it does. -/
inductive DirectionFault
  | first (label : List Nat)
  | inRightToLeft (position : Nat)
  | inLeftToRight (position : Nat)
  | digits
  | last
  deriving Repr, DecidableEq

def hasRight (label : List Nat) : Bool :=
  label.any fun n => directionOf n == .right || directionOf n == .arabicDigit

/-- Whether a label may end in a code point with a direction; none for marks, which do not
count. -/
def endsWell : Direction → Option Bool
  | .mark => none
  | .neutral => some false
  | _ => some true

/-- The fault of a label from right to left. `kind` is the kind of its digits so far, and `good`
tells whether it may end here. -/
def rightFault? (position : Nat) (kind : Option Direction) (good : Bool) :
    List Nat → Option DirectionFault
  | [] => if good then none else some .last
  | n :: rest =>
    let d := directionOf n
    if d = .left then some (.inRightToLeft position)
    else
      let good := (endsWell d).getD good
      if d = .europeanDigit ∨ d = .arabicDigit then
        match kind with
        | none => rightFault? (position + 1) (some d) good rest
        | some k => if k = d then rightFault? (position + 1) kind good rest else some .digits
      else rightFault? (position + 1) kind good rest

def leftFault? (position : Nat) (good : Bool) : List Nat → Option DirectionFault
  | [] => if good then none else some .last
  | n :: rest =>
    let d := directionOf n
    if d = .right ∨ d = .arabicDigit then some (.inLeftToRight position)
    else leftFault? (position + 1) ((endsWell d).getD good) rest

def directionFault? (label : List Nat) : Option DirectionFault :=
  if !hasRight label then none
  else
    match label.head?.map directionOf with
    | some .right => rightFault? 1 none false label
    | some .left => leftFault? 1 false label
    | _ => some (.first label)

end RunReports.Host
