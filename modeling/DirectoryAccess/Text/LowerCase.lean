import DirectoryAccess.Text.Blank
import DirectoryAccess.Text.CaseTable

/-!
# Lower case of a text

`lower` puts a text into lower case by the rules for all scripts. Two characters need more than a table
from characters to characters: the dotted capital I becomes two characters, and a capital sigma has
another lower case form at the end of a word.
-/

namespace DirectoryAccess.Text

/-- The lower case of one character, the same wherever it stands. -/
def lowerChar (c : Char) : List Char :=
  if c = '\u0130' then ['i', '\u0307']
  else
    match lowerRuns.find? fun (first, last, step, _) =>
        first ≤ c.toNat && c.toNat ≤ last && (c.toNat - first) % step == 0 with
    | some (first, _, _, image) => [Char.ofNat (image + (c.toNat - first))]
    | none => [c]

/-- Whether the next character that is not passed over has case. -/
def meetsCased (s : List Char) : Bool :=
  match s.dropWhile fun c => inRanges passedOverRanges c.toNat with
  | [] => false
  | c :: _ => inRanges casedRanges c.toNat

/-- Puts the text into lower case; `before` holds the characters in front of it, nearest first. A sigma
is final where a letter comes before it in its word and none after it. -/
def lowerAfter (before : List Char) : List Char → List Char
  | [] => []
  | c :: s =>
    (if c = 'Σ' then [if meetsCased before && !meetsCased s then 'ς' else 'σ'] else lowerChar c) ++
      lowerAfter (c :: before) s

/-- The text in lower case. -/
def lower (s : List Char) : List Char := lowerAfter [] s

example : lower "ΟΔΟΣ Σ".toList = "οδος σ".toList := by decide +kernel

end DirectoryAccess.Text
