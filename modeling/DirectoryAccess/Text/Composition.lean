import DirectoryAccess.Text.Blank
import DirectoryAccess.Text.CompositionTable

/-!
# Composed texts

A letter with marks can be spelt as one character or as a letter that marks follow. A text is in composed
form if it is spelt with as few characters as the compositions allow, and the marks of each letter stand
in the order of their classes. To bring a text into this form, its characters are taken apart, marks are
put in order, and what can be composed is composed again.
-/

namespace DirectoryAccess.Text

/-! ### Marks -/

/-- The class of a mark: marks of the same class touch each other, so that their order matters. All other
characters have class 0. -/
def combiningClass (code : Nat) : Nat :=
  match combiningRuns.find? fun (first, last, _) => first ≤ code && code ≤ last with
  | some (_, _, k) => k
  | none => 0

/-- Puts a character in front of a text whose marks are in order, but after the marks of lower classes
that come first. -/
def insertMark (code : Nat) : List Nat → List Nat
  | [] => [code]
  | other :: rest =>
    if 0 < combiningClass other ∧ combiningClass other < combiningClass code then
      other :: insertMark code rest
    else code :: other :: rest

/-- A text with the marks of each letter in the order of their classes. -/
def orderMarks (codes : List Nat) : List Nat := codes.foldr insertMark []

/-! ### Syllables -/

/-- The two parts of a syllable of Hangul: a syllable with a final consonant is composed of the one without
and the consonant, the others of a consonant and a vowel. -/
def syllableParts? (code : Nat) : Option (Nat × Nat) :=
  if 0xAC00 ≤ code ∧ code < 0xD7A4 then
    let i := code - 0xAC00
    if i % 28 = 0 then some (0x1100 + i / 588, 0x1161 + i % 588 / 28)
    else some (code - i % 28, 0x11A7 + i % 28)
  else none

/-- The syllable of Hangul that is composed of two parts. -/
def syllable? (first second : Nat) : Option Nat :=
  if 0x1100 ≤ first ∧ first < 0x1113 ∧ 0x1161 ≤ second ∧ second < 0x1176 then
    some (0xAC00 + 588 * (first - 0x1100) + 28 * (second - 0x1161))
  else if 0xAC00 ≤ first ∧ first < 0xD7A4 ∧ (first - 0xAC00) % 28 = 0 ∧ 0x11A7 < second ∧
      second < 0x11C3 then
    some (first + (second - 0x11A7))
  else none

/-! ### Composing -/

/-- The two characters that a character is composed of. -/
def parts? (code : Nat) : Option (Nat × Nat) :=
  match compositions.find? fun (whole, _) => whole == code with
  | some (_, parts) => some parts
  | none => syllableParts? code

/-- The character that is composed of two others. -/
def composition? (first second : Nat) : Option Nat :=
  match compositions.find? fun (_, parts) => parts == (first, second) with
  | some (whole, _) => some whole
  | none => syllable? first second

/-- A character taken apart, so many times over at most. -/
def takenApart : Nat → Nat → List Nat
  | 0, code => [code]
  | depth + 1, code =>
    match parts? code with
    | some (first, second) => takenApart depth first ++ [second]
    | none => [code]

/-- Composes a letter with what follows it. A mark that cannot be composed with the letter stays, and
keeps later marks of its class and of lower ones away from it. -/
def composeLetter (letter : Nat) (marks : List Nat) : List Nat → List Nat
  | [] => letter :: marks
  | code :: rest =>
    let touches := marks.getLast?.all fun mark => combiningClass mark < combiningClass code
    match if touches then composition? letter code else none with
    | some whole => composeLetter whole marks rest
    | none =>
      if combiningClass code = 0 then letter :: marks ++ composeLetter code [] rest
      else composeLetter letter (marks ++ [code]) rest

/-- Composes the letters of a text, whose marks are in order, with their marks. -/
def compose : List Nat → List Nat
  | [] => []
  | code :: rest =>
    if combiningClass code = 0 then composeLetter code [] rest else code :: compose rest

/-- A text in composed form, given by its code points. No character is composed more than four times
over. -/
def composed (codes : List Nat) : List Nat := compose (orderMarks (codes.flatMap (takenApart 4)))

/-- Whether a text is in composed form. Characters that only stand for others, such as the sign for the
unit ohm, are taken as they are. -/
def isComposed (s : List Char) : Bool :=
  let codes := s.map Char.toNat
  composed codes == codes

example : composed [0x65, 0x323, 0x302] = [0x1EC7] := by decide +kernel

example : composed [0xEA, 0x323] = [0x1EC7] := by decide +kernel

example : composed [0x1112, 0x1161, 0x11AB] = [0xD55C] := by decide +kernel

end DirectoryAccess.Text
