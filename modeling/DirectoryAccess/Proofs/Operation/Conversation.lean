import DirectoryAccess.Server.Requests

/-!
# Conversations

What a caller may do on a connection that it was given: make requests, one after the other, each in view
of the answers to those before, and come to an end with an outcome. A caller's function that keeps to
this takes no other way to the server.
-/

namespace DirectoryAccess

open DirectoryServer

/-- A request that a caller can make on a connection, with the type of its answer. -/
inductive Request : Type → Type where
  /-- To read an entry. -/
  | lookup (name : DistinguishedName) (attributes : List String) : Request FoundEntry
  /-- To list the names of the children of an entry. -/
  | list (name : DistinguishedName) : Request (List DistinguishedName)
  /-- To list the children of an entry. -/
  | listEntries (name : DistinguishedName) : Request (List FoundEntry)
  /-- To create an entry. -/
  | add (name : DistinguishedName) (attributes : Attributes) : Request Unit
  /-- To delete an entry. -/
  | delete (name : DistinguishedName) : Request Unit
  /-- To replace an entry. -/
  | replace (name : DistinguishedName) (attributes : Attributes) : Request Unit
  /-- To give an entry another name. -/
  | rename (old new : DistinguishedName) : Request Unit
  /-- To change an entry. -/
  | modify (name : DistinguishedName) (changes : List Change) : Request Unit

variable {σ τ α β : Type} [DirectoryServer σ]

/-- Makes a request. -/
def Request.send (session : Session σ) : Request β → Step σ β
  | .lookup name attributes => readEntry session name attributes
  | .list name => childNames session name
  | .listEntries name => childEntries session name
  | .add name attributes => DirectoryServer.add session name attributes
  | .delete name => DirectoryServer.delete session name
  | .replace name attributes => DirectoryAccess.replace session name attributes
  | .rename old new => DirectoryServer.rename session old new
  | .modify name changes => DirectoryServer.modify session name changes

/-- What a caller does from some point on. -/
inductive Conversation (τ α : Type) : Type 1 where
  /-- It comes to an end, with an outcome and the state that the caller is then in. -/
  | finish (outcome : Except Fault α) (caller : τ)
  /-- It makes a request and goes on in view of the answer. -/
  | ask {β : Type} (request : Request β) (next : Except Fault β → Conversation τ α)

/-- Carries a conversation out. -/
def Conversation.run (session : Session σ) : Conversation τ α → σ → Except Fault α × World σ τ
  | .finish outcome caller, s => (outcome, ⟨s, caller⟩)
  | .ask request next, s =>
    let (answer, s) := request.send session s
    (next answer).run session s

/-- The work is a conversation, which may depend on what the connection is for and on the caller. -/
def Converses (work : Connection σ → Step (World σ τ) α) : Prop :=
  ∃ start : AccessMode → τ → Conversation τ α,
    ∀ c w, work c w = (start c.mode w.caller).run c.session w.server

end DirectoryAccess
