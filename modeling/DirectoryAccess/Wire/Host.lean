import DirectoryAccess.Text.Encoding
import DirectoryAccess.Wire.Domain

/-!
# Hosts

The texts that name a host in the address of a server: a domain, four numbers of one byte each, or an
address of eight groups between brackets. Only some kinds of addresses have hosts that are looked up;
in the others nearly every text will do.
-/

namespace DirectoryAccess.Host

/-! ### Numbers -/

/-- The number that digits stand for in the given base, or `none` if a character is no digit. -/
def numberIn? (base : Nat) (s : List Char) : Option Nat :=
  s.foldlM (fun n c => ((Text.hexDigit? c).filter (· < base)).map (base * n + ·)) 0

/-- The number that a part of a host stands for: hexadecimal after `0x`, octal after another zero in
front, and decimal else. -/
def partNumber? : List Char → Option Nat
  | [] => none
  | '0' :: 'x' :: s | '0' :: 'X' :: s => numberIn? 16 s
  | '0' :: c :: s => numberIn? 8 (c :: s)
  | s => numberIn? 10 s

/-- The parts of a host between its dots. A dot at the end does not count. -/
def dottedParts (host : List Char) : List (List Char) :=
  let parts := host.splitOn '.'
  if parts.getLast? = some [] then parts.dropLast else parts

/-- Whether a host ends in a number, so that it has to be an address of four bytes. -/
def endsInNumber (host : List Char) : Bool :=
  match (dottedParts host).getLast? with
  | none => false
  | some last => (!last.isEmpty && last.all Char.isDigit) || (partNumber? last).isSome

/-- Whether numbers make up an address of four bytes: one byte each, and the last one fills up what is
left. -/
def areAddress : List Nat → Bool
  | [a] => a < 0x100000000
  | [a, b] => a < 0x100 && b < 0x1000000
  | [a, b, c] => a < 0x100 && b < 0x100 && c < 0x10000
  | [a, b, c, d] => a < 0x100 && b < 0x100 && c < 0x100 && d < 0x100
  | _ => false

/-- Whether a host is an address of four bytes. -/
def isByteAddress (host : List Char) : Bool :=
  ((dottedParts host).mapM partNumber?).any areAddress

/-! ### Groups -/

/-- Whether a text is four decimal numbers of one byte each between dots, without zeros in front. -/
def isDottedQuad (s : List Char) : Bool :=
  let parts := s.splitOn '.'
  parts.length == 4 && parts.all fun part =>
    part.all Char.isDigit && (part.length == 1 || part.head? != some '0') &&
      (partNumber? part).any (· < 256)

/-- Whether a text is one group of an address of eight groups. -/
def isHexGroup (s : List Char) : Bool :=
  !s.isEmpty && s.length ≤ 4 && s.all fun c => (Text.hexDigit? c).isSome

/-- How many of the eight groups are written out, if all are well formed. Four decimal numbers at the end
stand for two groups. -/
def groupCount? (groups : List (List Char)) : Option Nat :=
  match groups.reverse with
  | [] => some 0
  | last :: front =>
    if !front.all isHexGroup then none
    else if isHexGroup last then some groups.length
    else if isDottedQuad last then some (groups.length + 1)
    else none

/-- The position of two colons in a row. -/
def gapPosition? (s : List Char) : Option Nat :=
  (List.range s.length).find? fun i => (s.drop i).take 2 == [':', ':']

/-- Whether a text is an address of eight groups, of which two colons in a row leave some out. -/
def isGroupedAddress (s : List Char) : Bool :=
  let groupsOf (part : List Char) := if part.isEmpty then [] else part.splitOn ':'
  match gapPosition? s with
  | none => groupCount? (groupsOf s) == some 8
  | some i =>
    let front := groupsOf (s.take i)
    front.all isHexGroup && (groupCount? (groupsOf (s.drop (i + 2)))).any (front.length + · < 8)

/-! ### Hosts -/

/-- Whether a text is a domain or an address of four bytes. -/
def isLookedUp (host : List Char) : Bool :=
  !host.isEmpty && Domain.isDomain host && (!endsInNumber host || isByteAddress host)

/-- Whether a text can be a host. -/
def isHost (lookedUp : Bool) : List Char → Bool
  | '[' :: rest => rest.getLast? == some ']' && isGroupedAddress rest.dropLast
  | host => if lookedUp then isLookedUp host else !host.any Domain.isForbidden

example : ["a.b.c.", "0x7g", "a.0xg", "127.1", "a..b"].all fun host =>
    isHost true host.toList := by decide +kernel

example : ["a.0x", "1.2.3.08", "a.1.", "1.2.3.4.5", "a%b"].any (fun host =>
    isHost true host.toList) = false := by decide +kernel

end DirectoryAccess.Host
