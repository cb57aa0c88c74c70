import DirectoryAccess.Operation.Search

/-!
# Reading entries by name

An entry is read, or its children are listed, by name. What the caller makes of the entries is made
after the connection has been closed, and its faults are passed on as they are.
-/

namespace DirectoryAccess

open DirectoryServer

variable {σ τ α : Type} [DirectoryServer σ]

/-- Reads an entry. -/
def lookup (name : NameInput) : Step σ EntryContext :=
  named name fun n s =>
    let (outcome, s) := requested .readOnly (fun session => readEntry session n []) s
    (outcome.map fun e => .existing e.name (base s) e.attributes, s)

/-- Reads an entry and makes a value of it. -/
def lookupMapping (name : NameInput) (mapper : Mapper τ α) : Step (World σ τ) α := fun w =>
  match lookup name w.server with
  | (.error fault, s) => (.error fault, { w with server := s })
  | (.ok context, s) =>
    let (outcome, t) := mapper.map context w.caller
    (outcome, ⟨s, t⟩)

/-- The names of the immediate children of an entry, relative to it. A name that the server returned
and that does not lie below the entry is left out. -/
def list (name : NameInput) : Step σ (List DistinguishedName) :=
  named name fun n s =>
    let (outcome, s) := requested .readOnly (fun session => childNames session n) s
    (outcome.map fun children => children.filterMap (·.relativeTo? n), s)

/-- Makes values of entries one by one, up to the first failure. -/
def mapEach (f : FoundEntry → Step τ α) : List FoundEntry → Step τ (List α)
  | [], t => (.ok [], t)
  | e :: rest, t =>
    match f e t with
    | (.error fault, t) => (.error fault, t)
    | (.ok value, t) =>
      let (outcome, t) := mapEach f rest t
      (outcome.map (value :: ·), t)

/-- Makes a value of each immediate child of an entry. -/
def listMapping (name : NameInput) (mapper : Mapper τ α) : Step (World σ τ) (List α) := fun w =>
  match named name (fun n => requested .readOnly fun session => childEntries session n) w.server with
  | (.error fault, s) => (.error fault, { w with server := s })
  | (.ok children, s) =>
    let (outcome, t) :=
      mapEach (fun e => mapper.map (.existing e.name (base s) e.attributes)) children w.caller
    (outcome, ⟨s, t⟩)

end DirectoryAccess
