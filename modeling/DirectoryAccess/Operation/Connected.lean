import DirectoryAccess.Server.Requests

/-!
# Working on a connection

Every operation opens a connection, works on it and closes it, whether the work succeeded or not. A
failure to close is passed over. The fault that leaves the operation is the kind that the raw fault
stands for.
-/

namespace DirectoryAccess

open DirectoryServer

variable {σ τ α : Type} [DirectoryServer σ]

/-- Opens a connection, does the work on it and closes it. -/
def connected (access : Access) (work : Connection σ → Step (World σ τ) α) : Step (World σ τ) α :=
  fun w =>
    match connect access w.server with
    | (.error fault, s) => (.error fault.classify, { w with server := s })
    | (.ok session, s) =>
      let (outcome, w) := work ⟨session, access.mode⟩ { w with server := s }
      (outcome.mapError Fault.classify, { w with server := (disconnect session w.server).2 })

/-- Opens a session, makes a request on it and closes it. -/
def requested (access : Access) (request : Session σ → Step σ α) : Step σ α := fun s =>
  let (outcome, w) := connected access (fun c => onServer (request c.session)) ⟨s, ()⟩
  (outcome, w.server)

/-- Reads the name that an operation was given, before anything else is done. -/
def named (name : NameInput) (operation : DistinguishedName → Step σ α) : Step σ α := fun s =>
  match name.resolve with
  | .error e => (.error (.ofName e), s)
  | .ok n => operation n s

/-- Lets the caller work on a connection that can only read. -/
def workReadOnly (work : Connection σ → Step (World σ τ) α) : Step (World σ τ) α :=
  connected .readOnly work

/-- Lets the caller work on a connection that can read and write. -/
def workReadWrite (work : Connection σ → Step (World σ τ) α) : Step (World σ τ) α :=
  connected .readWrite work

end DirectoryAccess
