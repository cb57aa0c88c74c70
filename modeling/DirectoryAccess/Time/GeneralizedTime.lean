import DirectoryAccess.Time.Calendar

/-!
# Generalized time

The text of a point in time as directories keep it: year, month, day, hour, minute and second in digits
padded with zeros, and a final `Z`. The year has four digits; a sign before it is read, and written
where the year is negative.
-/

namespace DirectoryAccess

/-- The last `width` decimal digits of a number, padded with zeros. -/
def paddedDigits : Nat → Nat → List Char
  | 0, _ => []
  | width + 1, n => paddedDigits width (n / 10) ++ [Nat.digitChar (n % 10)]

/-- The number that a text of decimal digits stands for, read onto `n`. -/
def readDigits? (n : Nat) : List Char → Option Nat
  | [] => some n
  | c :: rest => if c.isDigit then readDigits? (10 * n + (c.toNat - '0'.toNat)) rest else none

namespace DateTime

/-- The text of a date and time. -/
def render (t : DateTime) : List Char :=
  (if t.year < 0 then ['-'] else []) ++ paddedDigits 4 t.year.natAbs ++ paddedDigits 2 t.month ++
    paddedDigits 2 t.day ++ paddedDigits 2 t.hour ++ paddedDigits 2 t.minute ++
    paddedDigits 2 t.second ++ ['Z']

/-- Reads a date and time after the sign of its year. -/
def parseUnsigned? (negative : Bool) (s : List Char) : Option DateTime := do
  let year ← readDigits? 0 (s.take 4)
  let month ← readDigits? 0 ((s.drop 4).take 2)
  let day ← readDigits? 0 ((s.drop 6).take 2)
  let hour ← readDigits? 0 ((s.drop 8).take 2)
  let minute ← readDigits? 0 ((s.drop 10).take 2)
  let second ← readDigits? 0 ((s.drop 12).take 2)
  let t : DateTime :=
    { year := if negative then -(year : Int) else year, month, day, hour, minute, second }
  if s.drop 14 = ['Z'] ∧ t.isValid = true then some t else none

/-- Reads a date and time. -/
def parse? : List Char → Option DateTime
  | '-' :: s => parseUnsigned? true s
  | '+' :: s => parseUnsigned? false s
  | s => parseUnsigned? false s

end DateTime

/-- The text of a point in time, if its year has at most four digits. -/
def Instant.render? (t : Instant) : Option String :=
  let written := t.toDateTime
  if written.year.natAbs ≤ 9999 then some (String.ofList written.render) else none

/-- Reads a point in time. -/
def Instant.parse? (s : String) : Option Instant := (DateTime.parse? s.toList).map DateTime.toInstant

example : (Instant.parse? "19700102000001Z") = some ⟨86401⟩ := by decide +kernel

end DirectoryAccess
