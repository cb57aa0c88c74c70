import DirectoryAccess.Proofs.Operation.Basic
import DirectoryAccess.Proofs.Operation.Reading

/-!
# Servers that are watched

What an operation does with sessions is made visible by a server that does all that the given one does
and keeps a list of the sessions that it was asked for and of those that were closed (`Watched`). An
operation that knows a server by its interface alone does on the watched server what it does on the given
one; this is shown here of the search for entries (`findEntries_watched`), and a search whose mapper cannot
fail maps the entries that are found (`searchMapping_of_infallible`).
-/

namespace DirectoryAccess

open DirectoryServer

/-- Something that was done with a session. -/
inductive Act where
  /-- A session was asked for, and it was opened or not. -/
  | asked (access : Access) (opened : Bool)
  /-- A caller worked as an entry on a session, on a connection of this mode, and succeeded or not. -/
  | worked (access : Access) (mode : AccessMode) (entry : Identification) (succeeded : Bool)
  /-- A session was closed. -/
  | closed (access : Access)
  deriving DecidableEq, Repr

/-- A server with what has been done with its sessions. -/
structure Watched (σ : Type) where
  /-- The server. -/
  server : σ
  /-- What has been done with its sessions, in order. -/
  acts : List Act

/-- A session with how it was opened. -/
structure WatchedSession (σ : Type) [DirectoryServer σ] where
  /-- The session. -/
  session : Session σ
  /-- How it was opened. -/
  access : Access

variable {σ τ α : Type} [DirectoryServer σ]

namespace Watched

/-- A step of the server that does nothing with sessions. -/
def within (step : Step σ α) : Step (Watched σ) α := fun w =>
  let (outcome, s) := step w.server
  (outcome, { w with server := s })

instance : DirectoryServer (Watched σ) where
  Session := WatchedSession σ
  Results := Results σ
  base w := base w.server
  depth w := depth w.server
  connect access w :=
    let (outcome, s) := connect access w.server
    (outcome.map (⟨·, access⟩), ⟨s, w.acts ++ [.asked access outcome.isOk]⟩)
  search session request := within (search session.session request)
  next state :=
    let (outcome, r, s) := next (state.1, state.2.server)
    (outcome, r, { state.2 with server := s })
  finish r := within (finish r)
  add session n a := within (add session.session n a)
  delete session n := within (delete session.session n)
  modify session n changes := within (modify session.session n changes)
  rename session o n := within (rename session.session o n)
  disconnect session w :=
    let (outcome, s) := disconnect session.session w.server
    (outcome, ⟨s, w.acts ++ [.closed session.access]⟩)
  remaining r w := remaining r w.server
  remaining_lt {r r' w w' e} h := by
    rcases hnext : next (r, w.server) with ⟨outcome, r₁, s₁⟩
    rw [hnext] at h
    cases h
    exact remaining_lt hnext

end Watched

/-! ### Searches -/

/-- A visitor that cannot fail sees the entries that are read, and changes nothing else. -/
theorem walk_of_infallible {visit : FoundEntry → Step τ α} {f : FoundEntry → α}
    (hvisit : ∀ e t, visit e t = (.ok (f e), t)) (r : Results σ) (s : σ)
    (t : τ) :
    walk visit none r ⟨s, t⟩ =
      let walked := walk keepEntry none r ⟨s, ()⟩
      ⟨walked.values.map f, walked.outcome, walked.rest, ⟨walked.world.server, t⟩⟩ := by
  induction hm : remaining r s using Nat.strongRecOn generalizing r s with
  | ind m ih =>
    subst hm
    rcases hnext : next (r, s) with ⟨fault | _ | e, r', s'⟩
    · rw [walk_of_fault hnext, walk_of_fault hnext]
      rfl
    · rw [walk_of_end hnext, walk_of_end hnext]
      rfl
    · have hkeep : keepEntry e () = (.ok e, ()) := rfl
      rw [walk_of_entry hnext (hvisit e t), walk_of_entry hnext hkeep,
        ih _ (remaining_lt hnext) r' s' rfl]
      rfl

/-- The entries that are read are the same on a watched server. -/
theorem walk_watched (r : Results σ) (s : σ) (acts : List Act) :
    walk (σ := Watched σ) keepEntry none r ⟨⟨s, acts⟩, ()⟩ =
      let walked := walk keepEntry none r ⟨s, ()⟩
      ⟨walked.values, walked.outcome, walked.rest, ⟨⟨walked.world.server, acts⟩, ()⟩⟩ := by
  induction hm : remaining r s using Nat.strongRecOn generalizing r s with
  | ind m ih =>
    subst hm
    have hwatched : next (σ := Watched σ) (r, ⟨s, acts⟩) =
      ((next (r, s)).1, (next (r, s)).2.1, ⟨(next (r, s)).2.2, acts⟩) := rfl
    rcases hnext : next (r, s) with ⟨fault | _ | e, r', s'⟩ <;> rw [hnext] at hwatched
    · rw [walk_of_fault (w := ⟨s, ()⟩) hnext, walk_of_fault hwatched]
    · rw [walk_of_end (w := ⟨s, ()⟩) hnext, walk_of_end hwatched]
    · have hkeep : keepEntry e () = (.ok e, ()) := rfl
      rw [walk_of_entry (w := ⟨s, ()⟩) hnext hkeep, walk_of_entry hwatched hkeep,
        ih _ (remaining_lt hnext) r' s' rfl]

theorem searchEach_of_infallible {visit : FoundEntry → Step τ α} {f : FoundEntry → α}
    (hvisit : ∀ e t, visit e t = (.ok (f e), t)) (session : Session σ)
    (request : SearchRequest) (s : σ) (t : τ) :
    searchEach session request visit ⟨s, t⟩ =
      let found := searchEach session request keepEntry ⟨s, ()⟩
      (⟨found.1.values.map f, found.1.walked, found.1.finished⟩, ⟨found.2.server, t⟩) := by
  rw [searchEach, searchEach]
  dsimp only
  rcases search session request s with ⟨fault | r, s'⟩
  · rfl
  · dsimp only
    rw [readResults, readResults, walk_of_infallible hvisit]

theorem searchEach_watched (session : WatchedSession σ) (request : SearchRequest) (s : σ)
    (acts : List Act) :
    searchEach (σ := Watched σ) session request keepEntry ⟨⟨s, acts⟩, ()⟩ =
      let found := searchEach session.session request keepEntry ⟨s, ()⟩
      (found.1, ⟨⟨found.2.server, acts⟩, ()⟩) := by
  have hwatched : search (σ := Watched σ) session request ⟨s, acts⟩ =
    ((search session.session request s).1, ⟨(search session.session request s).2, acts⟩) := rfl
  rw [searchEach, searchEach]
  dsimp only
  rw [hwatched]
  rcases search session.session request s with ⟨fault | r, s'⟩
  · rfl
  · dsimp only
    rw [readResults, walk_watched]
    rfl

/-- The entries that a query finds, or why the search failed, on a session of its own. -/
def findEntries (ignorePartial : Bool) (query : SearchQuery) : Step σ (List FoundEntry) :=
  requested .readOnly fun session s =>
    let (found, w) := searchEach session (.ofQuery query true) keepEntry ⟨s, ()⟩
    (firstFault (acceptPartial ignorePartial (found.outcome.mapError Fault.classify))
      (.ok found.values), w.server)

theorem map_report {β : Type} (outcome : Except Fault Unit) (g : α → β) (value : α) :
    ((firstFault outcome (.ok value)).mapError Fault.classify).map g =
      (firstFault outcome (.ok (g value))).mapError Fault.classify := by
  cases outcome <;> rfl

/-- A search whose mapper cannot fail maps the entries that are found. -/
theorem searchMapping_of_infallible {f : EntryContext → Step τ α} {g : FoundEntry → α} {s : σ}
    (hmap : ∀ e t, f (.existing e.name (base (connect .readOnly s).2) e.attributes) t = (.ok (g e), t))
    (ignorePartial : Bool) (query : SearchQuery) (t : τ) :
    searchMapping ignorePartial query (.ofContext f) SearchHooks.none ⟨s, t⟩ =
      let (found, s') := findEntries ignorePartial query s
      (found.map (List.map g), ⟨s', t⟩) := by
  rw [searchMapping, searchVisiting_eq, connected, findEntries]
  rcases hconnect : connect .readOnly s with ⟨fault | session, s₁⟩
  · rw [requested, connected, hconnect]
    rfl
  · rw [hconnect] at hmap
    have heach := searchEach_of_infallible hmap session (.ofQuery query true) s₁ t
    have hwork : searchWork ignorePartial query true f SearchHooks.none ⟨session, .readOnly⟩ ⟨s₁, t⟩ =
        let found := searchEach session (.ofQuery query true) keepEntry ⟨s₁, ()⟩
        (firstFault (acceptPartial ignorePartial (found.1.outcome.mapError Fault.classify))
          (.ok (found.1.values.map g)), ⟨found.2.server, t⟩) := by
      rw [searchWork, SearchHooks.none]
      dsimp only
      rw [searchOn, heach]
      rfl
    have hwhole : query.wantsWholeEntries (Mapper.ofContext f).mapsContexts = true := rfl
    have hmapper : (Mapper.ofContext f).map = f := rfl
    rw [requested_of_connect hconnect, hwhole, hmapper]
    dsimp only
    rw [map_report]
    exact congrArg (fun done : _ × World σ τ => (done.1.mapError Fault.classify,
      ({ done.2 with server := (disconnect session done.2.server).2 } : World σ τ))) hwork

/-- What is done with the session of a search. -/
def searchActs (opened : Bool) : List Act :=
  if opened then [.asked .readOnly true, .closed .readOnly] else [.asked .readOnly false]

theorem connect_watched (access : Access) (s : σ) (acts : List Act) :
    connect (σ := Watched σ) access ⟨s, acts⟩ =
      let (outcome, s') := connect access s
      (outcome.map (⟨·, access⟩), ⟨s', acts ++ [.asked access outcome.isOk]⟩) := rfl

/-- A search finds the same entries when the server is watched. -/
theorem findEntries_watched (ignorePartial : Bool) (query : SearchQuery) (s : σ) (acts : List Act) :
    findEntries (σ := Watched σ) ignorePartial query ⟨s, acts⟩ =
      let (found, s') := findEntries ignorePartial query s
      (found, ⟨s', acts ++ searchActs (connect .readOnly s).1.isOk⟩) := by
  have hwatched := connect_watched .readOnly s acts
  rw [findEntries, findEntries]
  rcases hconnect : connect .readOnly s with ⟨fault | session, s₁⟩
  · rw [hconnect] at hwatched
    rw [requested, requested, connected, connected, hconnect, hwatched]
    rfl
  · rw [hconnect] at hwatched
    rw [requested_of_connect hconnect, requested_of_connect hwatched]
    dsimp only
    rw [searchEach_watched]
    exact congrArg (Prod.mk _) (congrArg (Watched.mk _) (List.append_assoc _ _ _))

/-- A search that has no session fails. -/
theorem findEntries_of_unopened {ignorePartial : Bool} {query : SearchQuery} {s : σ}
    (h : (connect .readOnly s).1.isOk = false) :
    ∃ fault, (findEntries ignorePartial query s).1 = .error fault := by
  rw [findEntries, requested, connected]
  rcases hconnect : connect .readOnly s with ⟨fault | session, s₁⟩
  · exact ⟨_, rfl⟩
  · rw [hconnect] at h
    cases h

end DirectoryAccess
