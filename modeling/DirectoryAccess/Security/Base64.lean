/-!
# Base64

Bytes written as letters, digits, plus signs and slashes, each of which stands for six bits. Equals signs
may fill up the last group of four. Bits that do not belong to a byte have to be zero.
-/

namespace DirectoryAccess.Base64

/-- The six bits that a character stands for. -/
def sixBits? (c : Char) : Option Nat :=
  if 'A' ≤ c ∧ c ≤ 'Z' then some (c.toNat - 'A'.toNat)
  else if 'a' ≤ c ∧ c ≤ 'z' then some (c.toNat - 'a'.toNat + 26)
  else if '0' ≤ c ∧ c ≤ '9' then some (c.toNat - '0'.toNat + 52)
  else if c = '+' then some 62
  else if c = '/' then some 63
  else none

/-- The bytes that groups of six bits make up, four groups for three bytes. -/
def join? : List Nat → Option (List UInt8)
  | [] => some []
  | [_] => none
  | [a, b] => if b % 16 = 0 then some [.ofNat (4 * a + b / 16)] else none
  | [a, b, c] =>
    if c % 4 = 0 then some [.ofNat (4 * a + b / 16), .ofNat (16 * b + c / 4)] else none
  | a :: b :: c :: d :: rest =>
    (join? rest).map fun bytes =>
      .ofNat (4 * a + b / 16) :: .ofNat (16 * b + c / 4) :: .ofNat (64 * c + d) :: bytes

/-- Reads a text. The equals signs at its end may be left out. -/
def decode? (s : List Char) : Option (List UInt8) := do
  let fill := (s.reverse.takeWhile (· == '=')).length
  let digits ← (s.take (s.length - fill)).mapM sixBits?
  if digits.length % 4 + fill ≤ 4 ∧ (digits.length % 4 = 0 → fill = 0) then join? digits else none

example : decode? "aGVsbG8=".toList = some [104, 101, 108, 108, 111] := by decide +kernel

end DirectoryAccess.Base64
