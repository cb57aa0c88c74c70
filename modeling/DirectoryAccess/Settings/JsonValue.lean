/-!
# JSON values

The values that settings are read from and written as, and the functions that read a value as what it
stands for. A record may stand as an object, whose fields are found by their names, or as a list, whose
items are the fields in their order.
-/

namespace DirectoryAccess

/-- A JSON value. -/
inductive JsonValue where
  /-- No value. -/
  | null
  /-- A truth value. -/
  | bool (b : Bool)
  /-- A number, as the decimal digits of `mantissa` with so many of them after the point. -/
  | number (mantissa : Int) (places : Nat)
  /-- A text. -/
  | text (s : String)
  /-- A list. -/
  | list (items : List JsonValue)
  /-- An object: names with values. -/
  | object (fields : List (String × JsonValue))
  deriving Repr, Inhabited

namespace JsonValue

/-- A whole number. -/
def ofInt (n : Int) : JsonValue := .number n 0

/-- A value that may be absent. -/
def ofOption {α : Type} (f : α → JsonValue) : Option α → JsonValue
  | none => .null
  | some a => f a

/-! ### Reading -/

/-- The truth value. -/
def bool? : JsonValue → Option Bool
  | .bool b => some b
  | _ => none

/-- The text. -/
def text? : JsonValue → Option String
  | .text s => some s
  | _ => none

/-- The whole number, if it lies within the given bounds. A number with a point is none. -/
def int? (least greatest : Int) : JsonValue → Option Int
  | .number n 0 => if least ≤ n ∧ n ≤ greatest then some n else none
  | _ => none

/-- The whole number from zero up to the given bound. -/
def nat? (greatest : Nat) (v : JsonValue) : Option Nat := (v.int? 0 (Int.ofNat greatest)).map Int.toNat

/-- The items of a list, each read by `read`. -/
def list? {α : Type} (read : JsonValue → Option α) : JsonValue → Option (List α)
  | .list items => items.mapM read
  | _ => none

end JsonValue

/-! ### Records -/

/-- The fields of a record that are given, by name. -/
abbrev JsonRecord := List (String × JsonValue)

/-- Whether none of the names occurs twice among the fields. -/
def JsonRecord.isUnambiguous (names : List String) (fields : JsonRecord) : Bool :=
  names.all fun name => (fields.filter (·.1 == name)).length ≤ 1

/-- The fields of a record with the given names. An object may hold others as well, but no field twice;
a list holds at least `least` of the fields. -/
def JsonValue.record? (names : List String) (least : Nat) : JsonValue → Option JsonRecord
  | .object fields => if JsonRecord.isUnambiguous names fields then some fields else none
  | .list items =>
    if least ≤ items.length ∧ items.length ≤ names.length then some (names.zip items) else none
  | _ => none

namespace JsonRecord

variable {α : Type}

/-- A field that has to be given. -/
def required (r : JsonRecord) (name : String) (read : JsonValue → Option α) : Option α :=
  (r.lookup name).bind read

/-- A field that has a value of its own when it is not given. -/
def defaulted (r : JsonRecord) (name : String) (absent : α) (read : JsonValue → Option α) : Option α :=
  match r.lookup name with
  | none => some absent
  | some v => read v

/-- A field whose value may be absent; it is then not given, or null. -/
def optional (r : JsonRecord) (name : String) (read : JsonValue → Option α) : Option (Option α) :=
  match r.lookup name with
  | none | some .null => some none
  | some v => (read v).map some

end JsonRecord

end DirectoryAccess
