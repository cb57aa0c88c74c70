import DirectoryAccess.DistinguishedName.Reading

/-!
# The spellings of a name

A name has many texts. This module gives the grammar of them, apart from the reader: the forms in which
a character may stand in a value, the texts of a value, of a part, of a relative name and of a name.
-/

namespace DirectoryAccess.DistinguishedName

/-- Bytes in escaped form: for each byte a backslash and its two digits, in either letter case. -/
inductive ByteEscapes : List UInt8 → List Char → Prop where
  /-- No bytes. -/
  | nil : ByteEscapes [] []
  /-- A byte in front of others. -/
  | cons {hi lo : Char} {b : UInt8} {bytes : List UInt8} {s : List Char} :
      Text.hexByte? hi lo = some b → ByteEscapes bytes s →
        ByteEscapes (b :: bytes) ('\\' :: hi :: lo :: s)

/-- Whether a character may stand for itself in a value, between quotes or without them. -/
def standsForItself (quoted : Bool) (c : Char) : Bool :=
  if quoted then !(['"', '\\'].contains c) else !([',', ';', '+', '"', '\\'].contains c)

/-- `CharSpelling quoted c s`: the character `c` may stand in a value in the form `s`. -/
inductive CharSpelling (quoted : Bool) : Char → List Char → Prop where
  /-- The character itself. -/
  | literal {c : Char} : standsForItself quoted c = true → CharSpelling quoted c [c]
  /-- The character after a backslash. -/
  | escaped {c : Char} : isEscapable c = true → CharSpelling quoted c ['\\', c]
  /-- The bytes of the character. -/
  | bytes {c : Char} {s : List Char} :
      ByteEscapes (String.utf8EncodeChar c) s → CharSpelling quoted c s

/-- Characters, each with the form in which it stands. -/
abbrev Pieces : Type := List (Char × List Char)

/-- Every character stands in a form that it may stand in. -/
def Spelled (quoted : Bool) (pieces : Pieces) : Prop := ∀ p ∈ pieces, CharSpelling quoted p.1 p.2

theorem spelled_nil {quoted : Bool} : Spelled quoted [] := nofun

theorem spelled_cons {quoted : Bool} {p : Char × List Char} {pieces : Pieces} :
    Spelled quoted (p :: pieces) ↔ CharSpelling quoted p.1 p.2 ∧ Spelled quoted pieces :=
  List.forall_mem_cons

/-- The characters. -/
def valueOf (pieces : Pieces) : List Char := pieces.map Prod.fst

/-- The forms, one after the other. -/
def textOf (pieces : Pieces) : List Char := pieces.flatMap Prod.snd

/-- `ValueSpelling v s`: the text `s` spells the value `v`. -/
inductive ValueSpelling : List Char → List Char → Prop where
  /-- Without quotes. A space at either end does not stand for itself. -/
  | plain {pieces : Pieces} : Spelled false pieces → pieces.head? ≠ some (' ', [' ']) →
      pieces.getLast? ≠ some (' ', [' ']) → ValueSpelling (valueOf pieces) (textOf pieces)
  /-- Between quotes. -/
  | quoted {pieces : Pieces} : Spelled true pieces →
      ValueSpelling (valueOf pieces) ('"' :: (textOf pieces ++ ['"']))

/-- A text of blanks. -/
def Blanks (s : List Char) : Prop := ∀ c ∈ s, Text.isBlank c = true

/-- `PartSpelling p s`: the text `s` spells the part `p`, with blanks around the attribute type and
spaces around the value. -/
inductive PartSpelling (p : NamePart) : List Char → Prop where
  /-- The attribute type, an equals sign and the value. -/
  | mk {before after value : List Char} {m n : Nat} : Blanks before → Blanks after →
      ValueSpelling p.value.toList value →
        PartSpelling p (before ++ p.key.toList ++ after ++
          '=' :: (List.replicate m ' ' ++ value ++ List.replicate n ' '))

/-- `PartsSpelling p ps s`: the text `s` spells the part `p` and the parts `ps` after it. -/
inductive PartsSpelling : NamePart → List NamePart → List Char → Prop where
  /-- The last part. -/
  | last {p : NamePart} {s : List Char} : PartSpelling p s → PartsSpelling p [] s
  /-- A part in front of others. -/
  | plus {p q : NamePart} {ps : List NamePart} {s t : List Char} :
      PartSpelling p s → PartsSpelling q ps t → PartsSpelling p (q :: ps) (s ++ '+' :: t)

/-- `NameSpelling rs s`: the text `s` spells the relative names `rs`, of which there is one at least. -/
inductive NameSpelling : List RelativeName → List Char → Prop where
  /-- The last relative name. -/
  | last {r : RelativeName} {s : List Char} :
      PartsSpelling r.first r.others s → NameSpelling [r] s
  /-- A relative name in front of others. -/
  | next {r : RelativeName} {rs : List RelativeName} {s t : List Char} {separator : Char} :
      PartsSpelling r.first r.others s → separator = ',' ∨ separator = ';' → NameSpelling rs t →
        NameSpelling (r :: rs) (s ++ separator :: t)

end DirectoryAccess.DistinguishedName
