import DirectoryAccess.Decimal.Binary64

/-!
# The shortest decimal of a floating point number

Every number is written with the fewest digits that read back to it; of several decimals with as few
digits the one nearest to the number is taken, and of two equally near ones the greater. It is written
positionally, however large or small it is, and without a point if it is whole.
-/

namespace DirectoryAccess

/-- A decimal: an integer of digits times a power of ten. -/
structure Decimal where
  /-- The digits, as an integer. -/
  digits : Nat
  /-- The power of ten that the digits are multiplied by. -/
  exponent : Int
  deriving DecidableEq, Repr

namespace Decimal

/-- The value of a decimal. -/
def value (d : Decimal) : Rat := (d.digits : Rat) * 10 ^ d.exponent

/-- The same value with up to `most` zeros at the end of its digits dropped. -/
def dropZeros : Nat → Decimal → Decimal
  | 0, d => d
  | most + 1, d =>
    if d.digits ≠ 0 ∧ d.digits % 10 = 0 then dropZeros most ⟨d.digits / 10, d.exponent + 1⟩ else d

/-- The digits of the decimal, with zeros for the places they do not reach and a point before the
places below one. -/
def render (d : Decimal) : String :=
  let digits := Nat.toDigits 10 d.digits
  if 0 ≤ d.exponent then String.ofList (digits ++ List.replicate d.exponent.toNat '0')
  else
    let places := (-d.exponent).toNat
    let padded := List.replicate (places + 1 - digits.length) '0' ++ digits
    let whole := padded.length - places
    String.ofList (padded.take whole ++ '.' :: padded.drop whole)

end Decimal

namespace Binary64

/-- Half the distance to the next smaller number. It is smaller below a power of two. -/
def halfGapBelow (x : Binary64) : Rat :=
  if x.fraction = 0 ∧ 1 < x.exponent then 2 ^ (x.unitExponent - 2) else 2 ^ (x.unitExponent - 1)

/-- Half the distance to the next greater number. -/
def halfGapAbove (x : Binary64) : Rat := 2 ^ (x.unitExponent - 1)

/-- Whether a magnitude is read as that of `x`: no other number is nearer. A magnitude halfway between
two numbers is read as the one with the even significand. -/
def readsBack (x : Binary64) (r : Rat) : Bool :=
  let low := x.magnitude - x.halfGapBelow
  let high := x.magnitude + x.halfGapAbove
  if x.significand % 2 = 0 then low ≤ r && r ≤ high else low < r && r < high

/-- The number of digits before the point: the least `k` such that the magnitude is below `10 ^ k`. -/
def wholeDigits (x : Binary64) : Int :=
  match (List.range 640).find? fun (i : Nat) => x.magnitude < (10 : Rat) ^ ((i : Int) - 324) with
  | some i => (i : Int) - 324
  | none => 316

/-- The decimal with `n` digits that is nearest to the number, of those that read back to it. -/
def withDigits? (x : Binary64) (n : Nat) : Option Decimal :=
  let exponent := x.wholeDigits - n
  let below : Decimal := ⟨(x.magnitude / (10 : Rat) ^ exponent).floor.toNat, exponent⟩
  let above : Decimal := ⟨below.digits + 1, exponent⟩
  match x.readsBack below.value, x.readsBack above.value with
  | true, true =>
    if x.magnitude - below.value < above.value - x.magnitude then some below else some above
  | true, false => some below
  | false, true => some above
  | false, false => none

/-- The decimal with the fewest digits that reads back to the magnitude. Seventeen digits are enough.
A number just below a power of ten may be nearest to that power, which has zeros to spare. -/
def shortest (x : Binary64) : Decimal :=
  if x.isZero then ⟨0, 0⟩
  else
    match (List.range 18).findSome? fun i => x.withDigits? (i + 1) with
    | some d => d.dropZeros 18
    | none => ⟨0, 0⟩

/-- The text of a number. -/
def render (x : Binary64) : String :=
  if x.isNaN then "NaN"
  else (if x.isNegative then "-" else "") ++ if x.isFinite then x.shortest.render else "inf"

example : (⟨0x3EB0C6F7A0B5ED8D⟩ : Binary64).render = "0.000001" := by decide +kernel

end Binary64

end DirectoryAccess
