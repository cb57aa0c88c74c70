import DirectoryAccess.Security.Base64

/-!
# Privacy-enhanced mail files

A file in this form holds blocks of bytes, each in base64 between a line that begins it and a line that
ends it, both of which say what the block is. Text between the blocks is passed over.
-/

namespace DirectoryAccess.Pem

/-- One block of a file. -/
structure Block where
  /-- What the block is. -/
  label : List Char
  /-- What the block holds. -/
  bytes : List UInt8
  deriving DecidableEq, Repr

/-- What a line that begins a block starts with. -/
def beginMark : List Char := "-----BEGIN ".toList

/-- What a line that ends a block with the given label starts with. -/
def endMark (label : List Char) : List Char := "-----END ".toList ++ label ++ "-----".toList

/-- The lines of a text. -/
def lines (s : List Char) : List (List Char) := s.splitOnP fun c => c == '\n' || c == '\r'

/-- A line without the spaces at its end. -/
def dropEndSpaces (line : List Char) : List Char := (line.reverse.dropWhile (· == ' ')).reverse

/-- The label of a block in the line that begins it; five dashes have to follow the label. -/
def label? (line : List Char) : Option (List Char) :=
  let trailer := (line.reverse.takeWhile fun c => c == '-' || c == ' ').reverse
  if trailer.count '-' = 5 then
    some ((line.take (line.length - (trailer.dropWhile (· == ' ')).length)).drop beginMark.length)
  else none

/-- Reads the blocks from the given lines on. Within a block its label is known, and `body` is what has
been read of it; a block that is not ended is a fault. -/
def readBlocks? (open? : Option (List Char)) (body : List Char) :
    List (List Char) → Option (List Block)
  | [] => if open?.isNone then some [] else none
  | line :: rest =>
    if beginMark.isPrefixOf line then
      match label? line with
      | none => none
      | some label => readBlocks? (some label) body rest
    else
      match open? with
      | none => readBlocks? none body rest
      | some label =>
        if (endMark label).isPrefixOf line then
          match Base64.decode? body with
          | none => none
          | some bytes => (readBlocks? none [] rest).map (⟨label, bytes⟩ :: ·)
        else readBlocks? (some label) (body ++ dropEndSpaces line) rest

/-- The blocks of a file. -/
def blocks? (file : String) : Option (List Block) := readBlocks? none [] (lines file.toList)

/-- What the blocks with the given label hold. -/
def contents? (label : String) (file : String) : Option (List (List UInt8)) :=
  (blocks? file).map fun blocks =>
    (blocks.filter (·.label == label.toList)).map Block.bytes

end DirectoryAccess.Pem
