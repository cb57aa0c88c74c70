import DirectoryAccess.Operation.Search

/-!
# Authentication

A principal is known by an entry. `authenticate` searches for the one entry that satisfies a filter,
opens a connection as that entry with the credential that is to be verified, and lets the caller work on
that connection. Only a failure of the search is a failure; all else that goes wrong means that the
principal is not authenticated.
-/

namespace DirectoryAccess

open DirectoryServer

variable {σ τ : Type} [DirectoryServer σ]

/-- The mapper that finds out both names of an entry. -/
def identify : Mapper τ Identification :=
  .ofContext fun context t =>
    match context.identification? with
    | some identification => (.ok identification, t)
    | none => (.error (.illegalState "entry without a name"), t)

/-- Opens a connection as the entry and lets the caller work on it. -/
def verify (credential : String)
    (work : Connection σ → Identification → Step (World σ τ) Unit) (entry : Identification)
    (w : World σ τ) : Bool × World σ τ :=
  match connect (.authenticated entry.absolute credential) w.server with
  | (.error _, s) => (false, { w with server := s })
  | (.ok session, s) =>
    let (outcome, w) := work ⟨session, .authenticated⟩ entry { w with server := s }
    (outcome.isOk, { w with server := (disconnect session w.server).2 })

/-- Whether the credential is that of the one entry at or below the base that satisfies the filter, and
the caller's work as that entry succeeds. -/
def authenticate (ignorePartial : Bool) (base : NameInput) (filter : Filter) (credential : String)
    (work : Connection σ → Identification → Step (World σ τ) Unit) : Step (World σ τ) Bool :=
  fun w =>
    match SearchQuery.make? base filter with
    | .error e => (.error (.ofName e), w)
    | .ok query =>
      match searchMapping ignorePartial query identify SearchHooks.none w with
      | (.error fault, w) => (.error fault, w)
      | (.ok [entry], w) =>
        let (verified, w) := verify credential work entry w
        (.ok verified, w)
      | (.ok _, w) => (.ok false, w)

end DirectoryAccess
