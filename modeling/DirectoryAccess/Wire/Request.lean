import DirectoryAccess.DistinguishedName.Canonical
import DirectoryAccess.Entry.Change
import DirectoryAccess.Search.Query
import DirectoryAccess.Text.Encoding

/-!
# Requests on the wire

What is sent to a server. Names are texts in full, values are sets of bytes that are listed in ascending
order.
-/

namespace DirectoryAccess.Wire

/-- A value, as bytes. -/
abbrev Value := List UInt8

/-- A search, as the server reads it. -/
structure SearchMessage where
  /-- The full name of the entry where the search starts. -/
  base : String
  /-- How deep the search goes. -/
  scope : SearchScope
  /-- How many entries are wanted at most; zero sets no limit. -/
  sizeLimit : Int
  /-- For how many seconds the server may search; zero sets no limit. -/
  timeLimit : Nat
  /-- The text of the filter. -/
  filter : String
  /-- Which attributes are wanted. -/
  attributes : List String
  /-- If the results are asked for in pages: the size of a page, and where the page starts. -/
  page? : Option (Int × List UInt8)
  deriving DecidableEq, Repr

/-- What is sent to a server. -/
inductive Request where
  /-- To act as the principal, with its password. -/
  | bind (principal password : String)
  /-- To end the session. -/
  | unbind
  /-- To create an entry. -/
  | add (name : String) (attributes : List (String × List Value))
  /-- To delete an entry. -/
  | delete (name : String)
  /-- To change the attributes of an entry. -/
  | modify (name : String) (changes : List (ChangeKind × String × List Value))
  /-- To give an entry another relative name, in place of its own, below another parent. -/
  | rename (name relative parent : String)
  /-- To search. -/
  | search (message : SearchMessage)
  /-- An operation that is known by its identifier. -/
  | extended (identifier : String)
  deriving DecidableEq, Repr

/-- The identifier of the operation that starts encryption. -/
def startEncryption : String := "1.3.6.1.4.1.1466.20037"

/-- The full text of a name that is relative to the base. -/
def fullText (base name : DistinguishedName) : String := toString (name.under base)

/-- The attributes of an entry that is to be created: those with textual values, then those with bytes. -/
def attributesToSend (a : Attributes) : List (String × List Value) :=
  a.text.toList.map (fun (name, values) => (name, distinct (values.map Text.bytes))) ++
    a.binary.toList.map fun (name, values) => (name, distinct values)

/-- A change, with its values as bytes. -/
def changeToSend (c : Change) : ChangeKind × String × List Value :=
  (c.kind, c.attr, c.valueSet.map Text.bytes)

/-- How many values the bytes have that a number needs: the least power of 256 above the number. -/
def byteRange (n : Nat) : Nat := if n < 256 then 256 else 256 * byteRange (n / 256)

/-- The number that a server reads when `n` is sent. A number below zero is sent in as many bytes as its
absolute value needs; where these have no room for the sign, another number is read. -/
def numberRead (n : Int) : Int := if n < 0 then n.bmod (byteRange n.natAbs) else n

example : [-128, -129, -255, -256, 255].map numberRead = [-128, 127, 1, -256, 255] := by
  decide +kernel

/-- A search below the base, in pages if a page size is given. No attributes stand for all. -/
def searchToSend (base : DistinguishedName) (pageSize? : Option Int) (r : SearchRequest) :
    SearchMessage :=
  { base := fullText base r.base, scope := r.scope, sizeLimit := numberRead r.sizeLimit,
    timeLimit := (r.timeLimit?.map Duration.coveringSeconds).getD 0, filter := r.filter,
    attributes := if r.attributes.isEmpty then ["*"] else r.attributes,
    page? := pageSize?.map fun size => (numberRead size, []) }

end DirectoryAccess.Wire
