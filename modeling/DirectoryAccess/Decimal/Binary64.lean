/-!
# Floating point numbers

A binary floating point number of 64 bits, kept as its bits: one for the sign, eleven for the exponent,
fifty-two for the fraction. Its value is a rational number, so that all that is said of it is exact.
-/

namespace DirectoryAccess

/-- A floating point number of 64 bits. -/
structure Binary64 where
  /-- Sign, exponent and fraction, from the highest bit down. -/
  bits : UInt64
  deriving DecidableEq, Repr

namespace Binary64

/-- Whether the sign bit is set. -/
def isNegative (x : Binary64) : Bool := x.bits >>> 63 == 1

/-- The exponent field. -/
def exponent (x : Binary64) : Nat := (x.bits >>> 52 &&& 0x7FF).toNat

/-- The fraction field. -/
def fraction (x : Binary64) : Nat := (x.bits &&& 0xFFFFFFFFFFFFF).toNat

/-- Whether this is a number: neither infinite nor no number at all. -/
def isFinite (x : Binary64) : Bool := x.exponent != 0x7FF

/-- Whether this is no number at all. -/
def isNaN (x : Binary64) : Bool := !x.isFinite && x.fraction != 0

/-- Whether this is zero, of either sign. -/
def isZero (x : Binary64) : Bool := x.exponent == 0 && x.fraction == 0

/-- The integer that the unit in the last place is multiplied by. -/
def significand (x : Binary64) : Nat :=
  if x.exponent = 0 then x.fraction else 0x10000000000000 + x.fraction

/-- The unit in the last place of a finite number, as a power of two. -/
def unitExponent (x : Binary64) : Int :=
  if x.exponent = 0 then -1074 else (x.exponent : Int) - 1075

/-- The absolute value of a finite number. -/
def magnitude (x : Binary64) : Rat := (x.significand : Rat) * 2 ^ x.unitExponent

/-- Whether two numbers are equal: zeros of either sign are, and what is no number is equal to nothing. -/
def numericallyEqual (x y : Binary64) : Bool :=
  (x.isZero && y.isZero) || (!x.isNaN && x.bits == y.bits)

end Binary64

end DirectoryAccess
