import DirectoryAccess.Text.Blank
import DirectoryAccess.Text.DirectionTable
import DirectoryAccess.Text.ShapeTable

/-!
# Texts in one direction

Some scripts are written from left to right, others from right to left, and in a text that mixes them it
can be unclear which character comes first. `readsOneWay` says of which texts that cannot happen.
-/

namespace DirectoryAccess.Text

/-- Whether a character is a mark that takes up no space of its own. -/
def isNonspacingMark (c : Char) : Bool :=
  inRanges markRanges c.toNat && !inRanges spacingMarkRanges c.toNat

/-- Whether a character is a mark. -/
def isMark (c : Char) : Bool := inRanges markRanges c.toNat || inRanges spacingMarkRanges c.toNat

/-- How a character takes part in the direction of a text. -/
inductive Direction where
  /-- It is written from left to right. -/
  | leftToRight
  /-- It is written from right to left. -/
  | rightToLeft
  /-- It belongs to a number in any text. -/
  | europeanNumber
  /-- It belongs to a number in a text that is written from right to left. -/
  | arabicNumber
  /-- It goes with the character before it. -/
  | mark
  /-- It goes with what is around it. -/
  | neutral
  deriving DecidableEq, Repr

namespace Direction

/-- The direction of a character. -/
def ofChar (c : Char) : Direction :=
  if leftToRightMarks.contains c.toNat then .leftToRight
  else if isNonspacingMark c then .mark
  else if inRanges rightToLeftRanges c.toNat then .rightToLeft
  else if inRanges europeanNumberRanges c.toNat then .europeanNumber
  else if inRanges arabicNumberRanges c.toNat then .arabicNumber
  else if inRanges neutralRanges c.toNat then .neutral
  else .leftToRight

/-- Whether a character makes a text one that is written from right to left, at least in part. -/
def isFromRight (d : Direction) : Bool := d == .rightToLeft || d == .arabicNumber

/-- Whether characters can be read in one way only. The first one sets the direction, and what does not
fit into it is missing. Apart from marks, they end in a letter or a number, and numbers are of one
kind. -/
def readsOneWay (text : List Direction) : Bool :=
  let last? := (dropEndWhile (· == .mark) text).getLast?
  match text.head? with
  | none => true
  | some .leftToRight =>
    !text.any isFromRight && last?.any fun d => d == .leftToRight || d == .europeanNumber
  | some .rightToLeft =>
    !text.contains .leftToRight && !(text.contains .europeanNumber && text.contains .arabicNumber) &&
      last?.any fun d => isFromRight d || d == .europeanNumber
  | some _ => false

example : readsOneWay ("שלום1".toList.map ofChar) = true := by decide +kernel

example : readsOneWay ("1שלום".toList.map ofChar) = false := by decide +kernel

end Direction

end DirectoryAccess.Text
