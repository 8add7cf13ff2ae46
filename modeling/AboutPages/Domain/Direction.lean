import AboutPages.Domain.DirectionTable

/-!
# Labels of mixed writing direction

The bidirectional rule for domain names: in a name that holds any right-to-left character, each label starts
with a letter that fixes its direction, holds no character of the other direction, ends in a letter
or number, and does not mix two kinds of digits.
-/

namespace AboutPages.Domain

open Text

inductive Direction where
  | left
  | right
  | arabicNumber
  | europeanNumber
  | neutral
  | nonspacing
  deriving DecidableEq, Repr

def direction (c : Char) : Direction :=
  let n := c.toNat
  if CodeRanges.holds rightToLeftRanges n || CodeRanges.holds arabicLetterRanges n then .right
  else if CodeRanges.holds arabicNumberRanges n then .arabicNumber
  else if CodeRanges.holds europeanNumberRanges n then .europeanNumber
  else if CodeRanges.holds nonspacingRanges n then .nonspacing
  else if CodeRanges.holds neutralRanges n then .neutral
  else .left

/-- The character makes a whole domain name subject to the rule. -/
def isRightToLeft (c : Char) : Bool :=
  decide (direction c = .right ∨ direction c = .arabicNumber)

/-- A left-to-right label ends in a letter or European number, nonspacing marks apart. -/
def leftLabelOk (directions : List Direction) : Bool :=
  directions.all (fun d => decide (d ≠ .right ∧ d ≠ .arabicNumber)) &&
  (match directions.reverse.dropWhile (fun d => decide (d = .nonspacing)) with
    | last :: _ => decide (last = .left ∨ last = .europeanNumber)
    | [] => false)

/-- A right-to-left label ends in a letter or any number, and has one kind of number. -/
def rightLabelOk (directions : List Direction) : Bool :=
  directions.all (fun d => decide (d ≠ .left)) &&
  (match directions.reverse.dropWhile (fun d => decide (d = .nonspacing)) with
    | last :: _ => decide (last ≠ .neutral)
    | [] => false) &&
  !(decide (.arabicNumber ∈ directions) && decide (.europeanNumber ∈ directions))

def directionOk (label : List Char) : Bool :=
  let directions := label.map direction
  match directions with
  | [] => true
  | .left :: _ => leftLabelOk directions
  | .right :: _ => rightLabelOk directions
  | _ => false

/-- The labels of a domain name keep the rule, if it applies to the name at all. -/
def directionsOk (labels : List (List Char)) : Bool :=
  !labels.any (·.any isRightToLeft) || labels.all directionOk

end AboutPages.Domain
