import DirectoryAccess.Entry.Change
import DirectoryAccess.Search.Query

/-!
# Servers

What a directory server, or whatever stands in for one, offers: sessions are opened for a purpose,
requests are made on them, and they are closed. `DirectoryServer σ` is given for the type of states `σ`
of the server; each request is a step from one state to the next, whatever its outcome. Faults are
reported raw, as they occurred. Everything above this interface works with any server.
-/

namespace DirectoryAccess

/-- A step on states of type `σ`: it succeeds or fails, and leaves a state either way. -/
abbrev Step (σ α : Type) : Type := σ → Except Fault α × σ

/-- What a session is opened for. -/
inductive AccessMode where
  /-- To read. -/
  | readOnly
  /-- To read and write. -/
  | readWrite
  /-- To act as a principal that proved its identity. -/
  | authenticated
  deriving DecidableEq, Repr

/-- How a session is opened. -/
inductive Access where
  /-- To read. -/
  | readOnly
  /-- To read and write. -/
  | readWrite
  /-- To act as the principal, whose identity the credential proves. -/
  | authenticated (principal : DistinguishedName) (credential : String)
  deriving DecidableEq, Repr

/-- What a session that is so opened is for. -/
def Access.mode : Access → AccessMode
  | .readOnly => .readOnly
  | .readWrite => .readWrite
  | .authenticated _ _ => .authenticated

/-- An entry that a search found. -/
structure FoundEntry where
  /-- The name, relative to the base of the server. -/
  name : DistinguishedName
  /-- The attributes that were returned. -/
  attributes : Attributes
  deriving DecidableEq, Repr

/-- The interface of a directory server. All names are relative to its base. -/
class DirectoryServer (σ : Type) where
  /-- An open session. -/
  Session : Type
  /-- The results of a search, as far as they have not been read. -/
  Results : Type
  /-- The name that all names are relative to. -/
  base : σ → DistinguishedName
  /-- How many names at most can be listed each below the one before. -/
  depth : σ → Nat
  /-- Opens a session. -/
  connect : Access → Step σ Session
  /-- Starts a search. -/
  search : Session → SearchRequest → Step σ Results
  /-- Reads on in the results of a search: an entry, or `none` when all entries have been read. -/
  next : Step (Results × σ) (Option FoundEntry)
  /-- Ends a search, whether all results were read or not, and reports its final result. -/
  finish : Results → Step σ Unit
  /-- Creates an entry. -/
  add : Session → DistinguishedName → Attributes → Step σ Unit
  /-- Deletes an entry that has no children. -/
  delete : Session → DistinguishedName → Step σ Unit
  /-- Changes the attributes of an entry. -/
  modify : Session → DistinguishedName → List Change → Step σ Unit
  /-- Gives an entry another name. -/
  rename : Session → DistinguishedName → DistinguishedName → Step σ Unit
  /-- Closes a session. -/
  disconnect : Session → Step σ Unit
  /-- A bound on the number of entries that can still be read. -/
  remaining : Results → σ → Nat
  /-- Reading an entry lowers the bound: the results of a search come to an end. -/
  remaining_lt {r r' : Results} {s s' : σ} {e : FoundEntry} :
    next (r, s) = (.ok (some e), r', s') → remaining r' s' < remaining r s

/-- An open session together with what it was opened for. -/
structure Connection (σ : Type) [DirectoryServer σ] where
  /-- The session. -/
  session : DirectoryServer.Session σ
  /-- What the session was opened for. -/
  mode : AccessMode

/-- The state of a server together with the state of a caller, which the caller's own functions see. -/
structure World (σ τ : Type) where
  /-- The server. -/
  server : σ
  /-- The caller. -/
  caller : τ

/-- A step of the server, taken in the presence of a caller. -/
def onServer {σ τ α : Type} (step : Step σ α) : Step (World σ τ) α := fun w =>
  let (outcome, s) := step w.server
  (outcome, { w with server := s })

/-- The outcome of one part of an operation if it failed, and else that of the other part. -/
def firstFault {α : Type} : Except Fault Unit → Except Fault α → Except Fault α
  | .error fault, _ => .error fault
  | .ok (), other => other

end DirectoryAccess
