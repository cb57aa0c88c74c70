import DirectoryAccess.Entry.Attributes
import DirectoryAccess.Fault
import DirectoryAccess.Text.Encoding
import DirectoryAccess.Time.GeneralizedTime

/-!
# First values

Most attributes have one value. These functions read the first value of an attribute as what it stands
for: a text, bytes, a truth value, a point in time.
-/

namespace DirectoryAccess.Attributes

/-- The first textual value. -/
def first? (a : Attributes) (name : String) : Option String := (a.text? name).bind List.head?

/-- The bytes of the first value. An attribute with a list of textual values is read as text, even if
that list is empty. -/
def firstBytes? (a : Attributes) (name : String) : Option (List UInt8) :=
  match a.text? name with
  | some values => values.head?.map Text.bytes
  | none => (a.binary? name).bind List.head?

/-- The first value as a truth value. -/
def firstBool? (a : Attributes) (name : String) : Option (Except Fault Bool) :=
  (a.first? name).map fun
    | "TRUE" => .ok true
    | "FALSE" => .ok false
    | _ => .error (.invalid name)

/-- The first value as a point in time. -/
def firstInstant? (a : Attributes) (name : String) : Option (Except Fault Instant) :=
  (a.first? name).map fun value =>
    match Instant.parse? value with
    | some t => .ok t
    | none => .error (.invalid name)

end DirectoryAccess.Attributes
