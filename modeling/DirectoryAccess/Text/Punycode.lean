/-!
# Punycode

A text written in ASCII letters, digits and hyphens. The ASCII characters of the text come first; after
the last hyphen, numbers in base 36 say which other characters are to be inserted, and where. The digits
of a number stand in order of rising weight, and a digit below the threshold of its place is the last.
-/

namespace DirectoryAccess.Text.Punycode

/-- The value of a digit: letters of either case stand for 0 to 25, decimal digits for 26 to 35. -/
def digit? (c : Char) : Option Nat :=
  if 'a' ≤ c ∧ c ≤ 'z' then some (c.toNat - 'a'.toNat)
  else if 'A' ≤ c ∧ c ≤ 'Z' then some (c.toNat - 'A'.toNat)
  else if '0' ≤ c ∧ c ≤ '9' then some (c.toNat - '0'.toNat + 26)
  else none

/-- The threshold of a place. Places are counted in steps of 36. -/
def threshold (place bias : Nat) : Nat := min 26 (max 1 (place - bias))

/-- The bias for numbers of the given size. -/
def biasOf (size : Nat) : Nat :=
  if 455 < size then 36 + biasOf (size / 35) else 36 * size / (size + 38)

/-- The bias after a number, given the length of the text and whether the number was the first. -/
def nextBias (number length : Nat) (first : Bool) : Nat :=
  let size := number / if first then 700 else 2
  biasOf (size + size / length)

/-- How far the numbers have been read. -/
structure Progress where
  /-- The text, with what has been inserted. -/
  text : List Char
  /-- The code point that was inserted last. -/
  code : Nat := 128
  /-- The position after the last insertion. -/
  position : Nat := 0
  /-- The present bias. -/
  bias : Nat := 72
  /-- The number that is being read, as far as it has been read. -/
  number : Nat := 0
  /-- The weight of its next digit. -/
  weight : Nat := 1
  /-- The place of its next digit. -/
  place : Nat := 36
  deriving Repr

/-- Inserts the character that the number stands for, if there is such a character. -/
def Progress.insert? (p : Progress) (number : Nat) : Option Progress :=
  let length := p.text.length + 1
  let code := p.code + (p.position + number) / length
  let position := (p.position + number) % length
  let c := Char.ofNat code
  if c.toNat = code then
    some { text := p.text.take position ++ c :: p.text.drop position, code,
           position := position + 1, bias := nextBias number length (p.position == 0) }
  else none

/-- Reads one digit. -/
def Progress.read? (p : Progress) (c : Char) : Option Progress :=
  (digit? c).bind fun d =>
    let number := p.number + d * p.weight
    let t := threshold p.place p.bias
    if d < t then p.insert? number
    else some { p with number, weight := p.weight * (36 - t), place := p.place + 36 }

/-- Reads a text that is so written. -/
def decode? (s : List Char) : Option (List Char) :=
  let digits := (s.reverse.takeWhile (· != '-')).reverse
  let front := s.take (s.length - digits.length)
  if front = ['-'] then none
  else
    match digits.foldlM Progress.read? { text := front.dropLast } with
    | some p => if p.place = 36 then some p.text else none
    | none => none

example : decode? "bcher-kva".toList = some "bücher".toList := by decide +kernel

end DirectoryAccess.Text.Punycode
