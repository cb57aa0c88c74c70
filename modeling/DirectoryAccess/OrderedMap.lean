/-!
# Ordered maps

A map whose entries are listed in ascending order of their keys. Two maps with the same entries are the
same list, and what is shown of a map is that list. Keys that compare as equal are one key.
-/

namespace DirectoryAccess

/-- A map from keys to values; the functions below keep the keys ascending. -/
structure OrderedMap (κ α : Type) where
  /-- The keys with their values. -/
  toList : List (κ × α) := []
  deriving DecidableEq, Repr

namespace OrderedMap

variable {κ α : Type}

/-- The map without entries. -/
def empty : OrderedMap κ α := ⟨[]⟩

/-- The keys, ascending. -/
def keys (m : OrderedMap κ α) : List κ := m.toList.map (·.1)

/-- Whether there are no entries. -/
def isEmpty (m : OrderedMap κ α) : Bool := m.toList.isEmpty

/-- Keeps the entries whose keys satisfy `p`. -/
def filterKeys (p : κ → Bool) (m : OrderedMap κ α) : OrderedMap κ α :=
  ⟨m.toList.filter fun entry => p entry.1⟩

variable [Ord κ]

/-- The value of a key. -/
def get? (m : OrderedMap κ α) (k : κ) : Option α :=
  (m.toList.find? fun entry => compare k entry.1 == .eq).map (·.2)

/-- Whether the key has a value. -/
def contains (m : OrderedMap κ α) (k : κ) : Bool := (m.get? k).isSome

/-- Puts an entry in its place. A key that is there already stays as it is and gets the value. -/
def insertEntry (k : κ) (a : α) : List (κ × α) → List (κ × α)
  | [] => [(k, a)]
  | (k', a') :: rest =>
    match compare k k' with
    | .lt => (k, a) :: (k', a') :: rest
    | .eq => (k', a) :: rest
    | .gt => (k', a') :: insertEntry k a rest

/-- Gives the key a value, in place of the one it has. -/
def insert (m : OrderedMap κ α) (k : κ) (a : α) : OrderedMap κ α := ⟨insertEntry k a m.toList⟩

/-- Takes the key and its value out. -/
def erase (m : OrderedMap κ α) (k : κ) : OrderedMap κ α :=
  ⟨m.toList.filter fun entry => compare k entry.1 != .eq⟩

/-- The map of the given entries; of several values for a key the last one counts. -/
def ofList (entries : List (κ × α)) : OrderedMap κ α :=
  entries.foldl (fun m entry => m.insert entry.1 entry.2) empty

end OrderedMap

/-- The distinct elements of a list, ascending. -/
def distinct {κ : Type} [Ord κ] (l : List κ) : List κ :=
  (OrderedMap.ofList (l.map fun k => (k, ()))).keys

end DirectoryAccess
