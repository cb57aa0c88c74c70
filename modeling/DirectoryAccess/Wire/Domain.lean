import DirectoryAccess.Text.Direction
import DirectoryAccess.Text.Joining
import DirectoryAccess.Text.LowerCase
import DirectoryAccess.Text.Punycode
import DirectoryAccess.Text.VariantTable

/-!
# Domains

A domain is a sequence of labels between dots. A label is written in ASCII; one that begins with `xn--`
is the encoded form of a text in another script. Such a text has to be spelt in the one way in which all
spellings of it are brought before they are looked up: in lower case, in composed form, and without
variants of characters. The labels of a domain have to be readable in one way only.
-/

namespace DirectoryAccess.Domain

/-! ### Characters -/

/-- Whether a character cannot stand in a host. -/
def isForbidden (c : Char) : Bool :=
  ['\x00', '\t', '\n', '\r', ' ', '#', '/', ':', '<', '>', '?', '@', '[', '\\', ']', '^', '|'].contains c

/-- Whether a character can stand in a domain as it is written on the wire. -/
def isDomainChar (c : Char) : Bool :=
  0x20 < c.toNat && c.toNat < 0x7F && c != '%' && !isForbidden c

/-- Whether a character is a capital letter of Cherokee, whose small letters are the variants. -/
def isCherokeeCapital (c : Char) : Bool := 0x13A0 ≤ c.toNat && c.toNat ≤ 0x13F5

/-- Whether a character can stand in a label of a domain, once the label is decoded. -/
def isLabelChar (c : Char) : Bool :=
  if c.toNat < 0x80 then isDomainChar c && !c.isUpper
  else if c = Text.joiner ∨ c = Text.nonJoiner then true
  else !Text.inRanges Text.unseenRanges c.toNat && !Text.inRanges Text.variantRanges c.toNat &&
    (Text.lowerChar c == [c] || isCherokeeCapital c)

/-! ### Labels -/

/-- Whether a text that is not all ASCII can be a label of a domain. -/
def isEncodable (text : List Char) : Bool :=
  text.any (0x80 ≤ ·.toNat) && text.all isLabelChar && Text.isComposed text &&
    !text.head?.any Text.isMark && Text.joinersMatter text

/-- The text of a label. Of an encoded one no more than 2000 characters are decoded. -/
def labelText? (label : List Char) : Option (List Char) :=
  match label.map Char.toLower with
  | 'x' :: 'n' :: '-' :: '-' :: encoded =>
    if 2000 < encoded.length then none else (Text.Punycode.decode? encoded).filter isEncodable
  | label => if label.all isDomainChar then some label else none

/-! ### The whole domain -/

/-- Whether the labels of a domain can be read in one way only. As long as all are written from left to
right, any will do. -/
def readOneWay (labels : List (List Char)) : Bool :=
  let directions := labels.map fun label => label.map Text.Direction.ofChar
  !(directions.any fun d => d.any Text.Direction.isFromRight) ||
    directions.all Text.Direction.readsOneWay

/-- Whether a text is a domain. A label may be empty. -/
def isDomain (domain : List Char) : Bool := ((domain.splitOn '.').mapM labelText?).any readOneWay

example : isDomain "xn--bcher-kva.a_b".toList = true := by decide +kernel

example : isDomain "xn--jm6c".toList = false := by decide +kernel

end DirectoryAccess.Domain
