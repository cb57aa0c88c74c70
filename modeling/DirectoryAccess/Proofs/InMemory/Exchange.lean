import DirectoryAccess.Proofs.Filter.Escapes
import DirectoryAccess.Proofs.InMemory.Requests
import DirectoryAccess.Proofs.Operation.Conversation

/-!
# Exchanges on a session

The requests that are made on an open session of a directory in memory, and what the directory records
of them. A search that was started is finished before anything else is asked for, and no search is
finished that was not started.
-/

namespace DirectoryAccess

/-- A search that the directory can make sense of: its limit is not below zero, and every backslash in
its filter starts an escape. -/
structure SearchRequest.Sensible (r : SearchRequest) : Prop where
  /-- The limit is not below zero. -/
  limit : 0 ≤ r.sizeLimit
  /-- The escapes in the filter are well formed. -/
  escapes : Filter.HexEscaped r.filter.toList

theorem SearchRequest.hexEscaped_anyEntry : Filter.HexEscaped SearchRequest.anyEntry.toList :=
  Filter.hexEscaped_of_not_mem (by decide +kernel)

theorem SearchRequest.sensible_children (name : DistinguishedName) (attributes : List String) :
    (SearchRequest.children name attributes).Sensible := ⟨Int.le_refl 0, hexEscaped_anyEntry⟩

theorem SearchRequest.sensible_entry (name : DistinguishedName) (attributes : List String) :
    (SearchRequest.entry name attributes).Sensible := ⟨Int.le_refl 0, hexEscaped_anyEntry⟩

namespace InMemory

open DirectoryServer

variable {τ α β : Type} {d d' d'' : Directory} {events events' : List Event}

/-! ### Exchanges -/

/-- Whether a session is opened or closed. -/
def Event.boundsSession : Event → Bool
  | .acquire _ | .release _ => true
  | _ => false

/-- `Write d e d'`: a request to change entries, recorded as `e`, leads from `d` to `d'`, whether it
succeeds or not. -/
inductive Write (d : Directory) : Event → Directory → Prop where
  /-- An entry is to be created. -/
  | add (name : DistinguishedName) (attributes : Attributes) :
      Write d (.add name) (add name attributes d).2
  /-- An entry is to be deleted. -/
  | delete (name : DistinguishedName) : Write d (.delete name) (delete name d).2
  /-- An entry is to be changed. -/
  | modify (name : DistinguishedName) (changes : List Change) :
      Write d (.modify name changes) (modify name changes d).2
  /-- An entry is to be given another name. -/
  | rename (old new : DistinguishedName) : Write d (.rename old new) (rename old new d).2

/-- `Exchange d events d'`: requests on an open session lead from `d` to `d'`, and `events` is what is
recorded of them. -/
inductive Exchange : Directory → List Event → Directory → Prop where
  /-- Nothing more is asked for. -/
  | nil {d : Directory} : Exchange d [] d
  /-- A search is started, and it is finished before anything else is asked for. -/
  | searched {d d' d'' : Directory} {request : SearchRequest} {results : Results}
      {events : List Event} : search request d = (.ok results, d') →
      Exchange (d'.record .searchFinished) events d'' →
      Exchange d (.search request :: .searchFinished :: events) d''
  /-- A search is refused, and the directory does not break down over it. -/
  | refused {d d' d'' : Directory} {request : SearchRequest} {fault : Fault} {events : List Event} :
      search request d = (.error fault, d') → d'.brokenDown = d.brokenDown →
      Exchange d' events d'' → Exchange d (.search request :: events) d''
  /-- An entry is to be changed in some way. -/
  | write {d d' d'' : Directory} {e : Event} {events : List Event} : Write d e d' →
      Exchange d' events d'' → Exchange d (e :: events) d''

theorem Exchange.append (h : Exchange d events d') (h' : Exchange d' events' d'') :
    Exchange d (events ++ events') d'' := by
  induction h with
  | nil => exact h'
  | searched hsearch _ ih => exact .searched hsearch (ih h')
  | refused hsearch hdown _ ih => exact .refused hsearch hdown (ih h')
  | write hwrite _ ih => exact .write hwrite (ih h')

/-! ### What a request records -/

theorem search_events (request : SearchRequest) (d : Directory) :
    (search request d).2.events = d.events ++ [.search request] := by
  unfold search
  dsimp only
  repeat' split
  all_goals rfl

/-- A search that returns results has not broken the directory down. -/
theorem brokenDown_of_search {request : SearchRequest} {results : Results}
    (h : search request d = (.ok results, d')) : d'.brokenDown = d.brokenDown := by
  unfold search at h
  dsimp only at h
  repeat' split at h
  all_goals cases h
  all_goals rfl

/-- A write is recorded, and the directory does not break down over it. -/
theorem Write.recorded {e : Event} (h : Write d e d') :
    d'.events = d.events ++ [e] ∧ d'.brokenDown = d.brokenDown := by
  cases h with
  | add name attributes =>
    unfold InMemory.add
    dsimp only
    repeat' split
    all_goals exact ⟨rfl, rfl⟩
  | delete name =>
    unfold InMemory.delete
    dsimp only
    repeat' split
    all_goals exact ⟨rfl, rfl⟩
  | modify name changes =>
    unfold InMemory.modify
    dsimp only
    repeat' split
    all_goals exact ⟨rfl, rfl⟩
  | rename old new =>
    unfold InMemory.rename
    dsimp only
    repeat' split
    all_goals exact ⟨rfl, rfl⟩

/-- An exchange is recorded as it is, and the directory does not break down over it. -/
theorem Exchange.recorded (h : Exchange d events d') :
    d'.events = d.events ++ events ∧ d'.brokenDown = d.brokenDown := by
  induction h with
  | nil => exact ⟨(List.append_nil _).symm, rfl⟩
  | @searched d d' d'' request results events hsearch _ ih =>
    have hevents := search_events request d
    rw [hsearch] at hevents
    have hdown : d''.brokenDown = d'.brokenDown := ih.2
    refine ⟨?_, hdown.trans (brokenDown_of_search hsearch)⟩
    rw [ih.1, Directory.record, hevents]
    simp
  | @refused d d' d'' request fault events hsearch hdown _ ih =>
    have hevents := search_events request d
    rw [hsearch] at hevents
    refine ⟨?_, ih.2.trans hdown⟩
    rw [ih.1, hevents, List.append_assoc]
    rfl
  | write hwrite _ ih =>
    refine ⟨?_, ih.2.trans hwrite.recorded.2⟩
    rw [ih.1, hwrite.recorded.1, List.append_assoc]
    rfl

/-- No session is opened or closed in an exchange. -/
theorem Exchange.boundsSession_eq_false (h : Exchange d events d') :
    ∀ e ∈ events, e.boundsSession = false := by
  induction h with
  | nil => exact nofun
  | searched _ _ ih => exact List.forall_mem_cons.2 ⟨rfl, List.forall_mem_cons.2 ⟨rfl, ih⟩⟩
  | refused _ _ _ ih => exact List.forall_mem_cons.2 ⟨rfl, ih⟩
  | write hwrite _ ih => exact List.forall_mem_cons.2 ⟨by cases hwrite <;> rfl, ih⟩

/-! ### Requests as exchanges -/

theorem cannotAnswer_of_sensible {request : SearchRequest} (h : request.Sensible) (d : Directory) :
    d.cannotAnswer request = false := by
  have hlimit : ¬request.sizeLimit < 0 := Int.not_lt.2 h.limit
  simp [Directory.cannotAnswer, hlimit, Filter.stumbles_of_hexEscaped h.escapes]

/-- The directory does not break down over a search that it can make sense of. -/
theorem brokenDown_search {request : SearchRequest} (h : request.Sensible) (d : Directory) :
    (search request d).2.brokenDown = d.brokenDown := by
  have hsense := cannotAnswer_of_sensible h (d.record (.search request))
  unfold search
  dsimp only
  rw [hsense]
  split
  · rfl
  · split <;> rfl

/-- Whatever becomes of a search and of those who read its results, the search is finished. -/
theorem exchange_searchEach {request : SearchRequest} (h : request.Sensible)
    (session : Session Directory) (visit : FoundEntry → Step τ α) (w : World Directory τ) :
    ∃ events, Exchange w.server events (searchEach session request visit w).2.server := by
  rw [searchEach_server]
  have hdown := brokenDown_search h w.server
  rcases hsearch : search request w.server with ⟨fault | results, d⟩
  · rw [hsearch] at hdown
    exact ⟨_, .refused hsearch hdown .nil⟩
  · exact ⟨_, .searched hsearch .nil⟩

theorem exchange_searchAll {request : SearchRequest} (h : request.Sensible)
    (session : Session Directory) (d : Directory) :
    ∃ events, Exchange d events (searchAll session request d).2 :=
  exchange_searchEach h session keepEntry ⟨d, ()⟩

theorem exchange_write {e : Event} (h : Write d e d') : Exchange d [e] d' := .write h .nil

/-- The reading of an entry is a search, whatever is found. -/
theorem exchange_readEntry (session : Session Directory) (name : DistinguishedName)
    (attributes : List String) (d : Directory) :
    ∃ events, Exchange d events (readEntry session name attributes d).2 := by
  obtain ⟨events, h⟩ := exchange_searchAll (SearchRequest.sensible_entry name attributes) session d
  refine ⟨events, ?_⟩
  rw [readEntry]
  rcases hread : searchAll session (.entry name attributes) d with ⟨fault | _ | ⟨e, rest⟩, d'⟩ <;>
    rw [hread] at h <;> exact h

/-- A replacement is a deletion, and a creation after it unless the deletion failed. -/
theorem exchange_replace (session : Session Directory) (name : DistinguishedName)
    (attributes : Attributes) (d : Directory) :
    ∃ events, Exchange d events (replace session name attributes d).2 := by
  have hdelete := Write.delete (d := d) name
  have hadd (d' : Directory) : Exchange d' [.add name] (DirectoryServer.add session name attributes d').2 :=
    exchange_write (.add name attributes)
  rw [replace]
  rcases hd : DirectoryServer.delete session name d with ⟨fault | _, d'⟩
  · rw [show InMemory.delete name d = (.error fault, d') from hd] at hdelete
    dsimp only
    split
    · exact ⟨_, .write hdelete (hadd d')⟩
    · exact ⟨_, exchange_write hdelete⟩
  · rw [show InMemory.delete name d = (.ok (), d') from hd] at hdelete
    exact ⟨_, .write hdelete (hadd d')⟩

/-- **Every request is an exchange**, whatever its outcome. -/
theorem exchange_send (session : Session Directory) (request : Request β) (d : Directory) :
    ∃ events, Exchange d events (request.send session d).2 := by
  cases request with
  | lookup name attributes => exact exchange_readEntry session name attributes d
  | list name => exact exchange_searchAll (SearchRequest.sensible_children name noAttributes) session d
  | listEntries name =>
    have hsensible := SearchRequest.sensible_children name allAttributes
    have hwhole : { SearchRequest.children name allAttributes with wholeEntries := true }.Sensible :=
      ⟨hsensible.limit, hsensible.escapes⟩
    exact exchange_searchAll hwhole session d
  | add name attributes => exact ⟨_, exchange_write (.add name attributes)⟩
  | delete name => exact ⟨_, exchange_write (.delete name)⟩
  | replace name attributes => exact exchange_replace session name attributes d
  | rename old new => exact ⟨_, exchange_write (.rename old new)⟩
  | modify name changes => exact ⟨_, exchange_write (.modify name changes)⟩

/-- A conversation is an exchange. -/
theorem exchange_run (session : Session Directory) (conversation : Conversation τ α) (d : Directory) :
    ∃ events, Exchange d events (conversation.run session d).2.server := by
  induction conversation generalizing d with
  | finish outcome caller => exact ⟨[], .nil⟩
  | ask request next ih =>
    obtain ⟨events, h⟩ := exchange_send session request d
    obtain ⟨events', h'⟩ := ih (request.send session d).1 (request.send session d).2
    exact ⟨events ++ events', h.append h'⟩

end InMemory

end DirectoryAccess
