/-!
# Durations

A length of time in whole seconds and nanoseconds. Nanoseconds that make up a second are carried over.
-/

namespace DirectoryAccess

/-- A length of time. -/
structure Duration where
  /-- Whole seconds. -/
  seconds : Nat
  /-- The nanoseconds after them, less than a second. -/
  nanos : Nat
  deriving DecidableEq, Repr

namespace Duration

/-- The number of nanoseconds in a second. -/
def nanosPerSecond : Nat := 1000000000

/-- The first number of seconds that does not fit 64 bits. -/
def secondsEnd : Nat := 0x10000000000000000

/-- The duration of so many seconds and nanoseconds, if the seconds fit 64 bits. -/
def make? (seconds nanos : Nat) : Option Duration :=
  let total := seconds + nanos / nanosPerSecond
  if total < secondsEnd then some ⟨total, nanos % nanosPerSecond⟩ else none

/-- The whole seconds that cover the duration, so that a part of a second does not become none. At most
the greatest number of 31 bits. -/
def coveringSeconds (d : Duration) : Nat :=
  min (d.seconds + if 0 < d.nanos then 1 else 0) 0x7FFFFFFF

end Duration

end DirectoryAccess
