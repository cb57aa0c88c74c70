/-!
# Certificates and keys as bytes

A certificate or key is a tree of elements, each of which is written as a tag, the number of bytes of its
content, and the content. Only the outline of the tree is read here: whether bytes have the parts of a
certificate, and which kind of key a private key is.
-/

namespace DirectoryAccess.Der

/-- One element. -/
structure Element where
  /-- What the element is. -/
  tag : UInt8
  /-- Its content. -/
  content : List UInt8
  deriving DecidableEq, Repr

/-- The tag of an integer. -/
def integerTag : UInt8 := 0x02
/-- The tag of a string of bits. -/
def bitStringTag : UInt8 := 0x03
/-- The tag of a string of bytes. -/
def byteStringTag : UInt8 := 0x04
/-- The tag of an identifier of an object. -/
def identifierTag : UInt8 := 0x06
/-- The tag of a sequence of elements. -/
def sequenceTag : UInt8 := 0x30
/-- The tag of the version of a certificate. -/
def versionTag : UInt8 := 0xA0

/-- The number that bytes stand for, the highest first. -/
def number (bytes : List UInt8) : Nat := bytes.foldl (fun n b => 256 * n + b.toNat) 0

/-- Reads one element, and what comes after it. A length below 128 is one byte; otherwise the byte tells
how many bytes the length has. -/
def element? : List UInt8 → Option (Element × List UInt8)
  | tag :: first :: rest =>
    let width := if first < 0x80 then 0 else first.toNat - 0x80
    let length := if first < 0x80 then first.toNat else number (rest.take width)
    let rest := rest.drop width
    if first ≠ 0x80 ∧ length ≤ rest.length then
      some (⟨tag, rest.take length⟩, rest.drop length)
    else none
  | _ => none

/-- What comes after an element is shorter than the element with what comes after it. -/
theorem length_lt_of_element? {bytes rest : List UInt8} {e : Element}
    (h : element? bytes = some (e, rest)) : rest.length < bytes.length := by
  match bytes with
  | [] | [_] => simp [element?] at h
  | _ :: first :: tail =>
    have hrest : ∃ n, rest = tail.drop n := by
      simp only [element?, Option.ite_none_right_eq_some, Option.some.injEq, Prod.mk.injEq,
        List.drop_drop] at h
      exact ⟨_, h.2.2.symm⟩
    obtain ⟨n, rfl⟩ := hrest
    simp only [List.length_drop, List.length_cons]
    omega

/-- Reads elements up to the end of the bytes. -/
def elements? (bytes : List UInt8) : Option (List Element) :=
  if bytes.isEmpty then some []
  else
    match _h : element? bytes with
    | none => none
    | some (e, rest) => (elements? rest).map (e :: ·)
termination_by bytes.length
decreasing_by exact length_lt_of_element? _h

/-- The elements of a sequence. -/
def Element.members? (e : Element) : Option (List Element) :=
  if e.tag = sequenceTag then elements? e.content else none

/-- The elements of the sequence that the bytes are. -/
def sequence? (bytes : List UInt8) : Option (List Element) :=
  match elements? bytes with
  | some [e] => e.members?
  | _ => none

/-! ### Certificates -/

/-- Whether the elements are what a certificate says: a number, the method of its signature, the issuer,
the time of validity, the subject and its key, after a version and before other parts. -/
def areCertified (members : List Element) : Bool :=
  let parts := (members.dropWhile (·.tag == versionTag)).map Element.tag
  parts.take 6 == integerTag :: List.replicate 5 sequenceTag

/-- Whether the bytes are a certificate: what it says, the method of its signature, and the signature. -/
def isCertificate (bytes : List UInt8) : Bool :=
  match sequence? bytes with
  | some [said, method, signature] =>
    (said.members?.any areCertified) && method.tag == sequenceTag && signature.tag == bitStringTag
  | _ => false

/-! ### Private keys -/

/-- The methods of signing that a private key can be for, each with the identifiers that name it. -/
def signingMethods : List (List (List UInt8)) :=
  let ellipticCurve := [0x2A, 0x86, 0x48, 0xCE, 0x3D, 0x02, 0x01]
  [[ellipticCurve, [0x2A, 0x86, 0x48, 0xCE, 0x3D, 0x03, 0x01, 0x07]],
   [ellipticCurve, [0x2B, 0x81, 0x04, 0x00, 0x22]],
   [[0x2A, 0x86, 0x48, 0x86, 0xF7, 0x0D, 0x01, 0x01, 0x01]],
   [[0x2B, 0x65, 0x70]]]

/-- Whether the bytes are a private key for signing: a version, the method, and the key. -/
def isSigningKey (bytes : List UInt8) : Bool :=
  match sequence? bytes with
  | some (version :: method :: key :: _) =>
    version.tag == integerTag && key.tag == byteStringTag &&
      method.members?.any fun members =>
        signingMethods.contains
          ((members.filter (·.tag == identifierTag)).map Element.content)
  | _ => false

end DirectoryAccess.Der
