import DirectoryAccess.Text.Composition
import DirectoryAccess.Text.Direction
import DirectoryAccess.Text.JoiningTable

/-!
# Joiners

Two characters that cannot be seen say whether their neighbours are joined in writing. Where that makes
no difference, they would tell apart texts that look the same; `joinersMatter` says that they are not
used in such a place.
-/

namespace DirectoryAccess.Text

/-- The character that keeps its neighbours apart. -/
def nonJoiner : Char := '\u200c'

/-- The character that joins its neighbours. -/
def joiner : Char := '\u200d'

/-- Whether a letter is joined to what comes after it. -/
def joinsAfter (c : Char) : Bool :=
  inRanges joiningRanges c.toNat || joiningAfter.contains c.toNat

/-- Whether a letter is joined to what comes before it. -/
def joinsBefore (c : Char) : Bool :=
  inRanges joiningRanges c.toNat || inRanges joiningBeforeRanges c.toNat

/-- Whether letters are joined across a character. -/
def isTransparent (c : Char) : Bool := isNonspacingMark c || c.toNat == 0x1E94B

/-- Whether a joiner makes a difference between two texts, the first of which is given from its end back.
After the mark that takes away the vowel of a consonant each of them does; elsewhere only letters that
would be joined can be kept apart. -/
def joinerMatters (c : Char) (before after : List Char) : Bool :=
  before.head?.any (fun mark => combiningClass mark.toNat == 9) ||
    (c == nonJoiner && (before.dropWhile isTransparent).head?.any joinsAfter &&
      (after.dropWhile isTransparent).head?.any joinsBefore)

/-- Whether every joiner makes a difference in a text that stands after another one, which is given from
its end back. -/
def joinersMatterAfter (before : List Char) : List Char → Bool
  | [] => true
  | c :: rest =>
    ((c != nonJoiner && c != joiner) || joinerMatters c before rest) &&
      joinersMatterAfter (c :: before) rest

/-- Whether every joiner makes a difference in a text. -/
def joinersMatter (s : List Char) : Bool := joinersMatterAfter [] s

example : joinersMatter ['न', '्', joiner] = true := by decide +kernel

example : joinersMatter ['a', nonJoiner, 'b'] = false := by decide +kernel

end DirectoryAccess.Text
