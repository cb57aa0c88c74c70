import DirectoryAccess.Proofs.Operation.Basic
import DirectoryAccess.Proofs.Operation.Conversation

/-!
# Operations, session by session

An operation opens sessions one after the other, makes requests on each of them, and closes it before it
opens the next one. So whatever holds of a session from its opening to its closing holds of an operation,
provided that it can be strung together (`Sessionwise.run`). The caller's own functions have to keep to
the session that they are given.
-/

namespace DirectoryAccess

open DirectoryServer

variable {σ τ α β : Type} [DirectoryServer σ]

/-- The caller's work does on its session what `T` allows. -/
def WorksWithin (T : Session σ → σ → σ → Prop) (work : Connection σ → Step (World σ τ) α) : Prop :=
  ∀ c w, T c.session w.server (work c w).2.server

/-- All functions of the caller that are given a connection do what `T` allows. -/
def Operation.Within {α : Type} (T : Session σ → σ → σ → Prop) (op : Operation σ τ α) : Prop :=
  match op with
  | .search _ _ hooks | .searchHandling _ _ hooks =>
    WorksWithin T hooks.before ∧ WorksWithin T hooks.after
  | .workReadOnly work | .workReadWrite work => WorksWithin T work
  | .authenticate _ _ _ work => ∀ entry, WorksWithin T (work · entry)
  | _ => True

/-- `T session s s'` holds of all that is done on a session between its opening and its closing, and
`R s s'` of sequences of sessions. -/
structure Sessionwise (T : Session σ → σ → σ → Prop) (R : σ → σ → Prop) : Prop where
  /-- Nothing is done. -/
  idle (session : Session σ) (s : σ) : T session s s
  /-- One thing is done after the other. -/
  onward {session : Session σ} {s s' s'' : σ} : T session s s' → T session s' s'' → T session s s''
  /-- A search, whoever reads its results. -/
  search {τ α : Type} (session : Session σ) (request : SearchRequest) (visit : FoundEntry → Step τ α)
    (w : World σ τ) : T session w.server (searchEach session request visit w).2.server
  /-- Any other request. -/
  send {β : Type} (session : Session σ) (request : Request β) (s : σ) :
    T session s (request.send session s).2
  /-- No session is opened. -/
  nothing (s : σ) : R s s
  /-- One session after the other. -/
  trans {s s' s'' : σ} : R s s' → R s' s'' → R s s''
  /-- A session that cannot be opened. -/
  failed {access : Access} {fault : Fault} {s s' : σ} : connect access s = (.error fault, s') → R s s'
  /-- A session with all that is done on it. -/
  visited {access : Access} {session : Session σ} {s s' s'' : σ} :
    connect access s = (.ok session, s') → T session s' s'' → R s (disconnect session s'').2

namespace Sessionwise

variable {T : Session σ → σ → σ → Prop} {R : σ → σ → Prop} (h : Sessionwise T R)

include h

/-- A conversation keeps to its session. -/
theorem conversation (session : Session σ) (c : Conversation τ α) (s : σ) :
    T session s (c.run session s).2.server := by
  induction c generalizing s with
  | finish outcome caller => exact h.idle session s
  | ask request next ih =>
    have hsend := h.send session request s
    rcases hrequest : request.send session s with ⟨answer, s'⟩
    rw [hrequest] at hsend
    rw [Conversation.run, hrequest]
    exact h.onward hsend (ih answer s')

theorem worksWithin_of_converses {work : Connection σ → Step (World σ τ) α} (hwork : Converses work) :
    WorksWithin T work := by
  obtain ⟨start, hstart⟩ := hwork
  intro c w
  rw [hstart]
  exact h.conversation c.session (start c.mode w.caller) w.server

/-! ### One session -/

theorem connected (access : Access) {work : Connection σ → Step (World σ τ) α} (hwork : WorksWithin T work)
    (w : World σ τ) : R w.server (connected access work w).2.server := by
  rw [DirectoryAccess.connected]
  rcases hconnect : connect access w.server with ⟨fault | session, s⟩
  · exact h.failed hconnect
  · exact h.visited hconnect (hwork ⟨session, access.mode⟩ { w with server := s })

theorem requested (access : Access) {request : Session σ → Step σ α}
    (hrequest : ∀ session s, T session s (request session s).2) (s : σ) :
    R s (requested access request s).2 :=
  @connected σ Unit α _ T R h access (fun c => onServer (request c.session))
    (fun c w => hrequest c.session w.server) ⟨s, ()⟩

/-- A name that cannot be read leads to no session. -/
theorem named {operation : DistinguishedName → Step σ α} {s : σ} (hop : ∀ n, R s (operation n s).2)
    (name : NameInput) : R s (named name operation s).2 := by
  rw [DirectoryAccess.named]
  cases name.resolve with
  | error e => exact h.nothing s
  | ok n => exact hop n

/-- An operation that makes one request. -/
theorem request (name : NameInput) (access : Access) (request : DistinguishedName → Request β) (s : σ) :
    R s (DirectoryAccess.named name
      (fun n => DirectoryAccess.requested access fun session => (request n).send session) s).2 :=
  h.named (fun n => h.requested access (fun session => h.send session (request n)) s) name

/-- A search between two hooks. -/
theorem searchVisiting {ignorePartial : Bool} {query : SearchQuery} {wholeEntries : Bool}
    {visit : EntryContext → Step τ α} {hooks : SearchHooks σ τ} (hbefore : WorksWithin T hooks.before)
    (hafter : WorksWithin T hooks.after) (w : World σ τ) :
    R w.server (searchVisiting ignorePartial query wholeEntries visit hooks w).2.server := by
  rw [searchVisiting_eq]
  refine h.connected .readOnly (fun c w => ?_) w
  have hfirst := hbefore c w
  rw [searchWork]
  rcases hb : hooks.before c w with ⟨fault | _, u⟩
  · rw [hb] at hfirst
    exact hfirst
  · rw [hb] at hfirst
    have hsearch := h.search c.session (.ofQuery query wholeEntries)
      (fun e => visit (.existing e.name (base u.server) e.attributes)) u
    have hlast := hafter c (searchOn ignorePartial c (.ofQuery query wholeEntries) visit u).2
    exact h.onward hfirst (h.onward hsearch hlast)

theorem worksWithin_none :
    WorksWithin T (SearchHooks.none : SearchHooks σ τ).before ∧
      WorksWithin T (SearchHooks.none : SearchHooks σ τ).after :=
  ⟨fun c w => h.idle c.session w.server, fun c w => h.idle c.session w.server⟩

/-- The session as the entry, whatever the caller does on it. -/
theorem verify {credential : String} {work : Connection σ → Identification → Step (World σ τ) Unit}
    {entry : Identification} (hwork : WorksWithin T (work · entry)) (w : World σ τ) :
    R w.server (verify credential work entry w).2.server := by
  rw [DirectoryAccess.verify]
  rcases hconnect : connect (.authenticated entry.absolute credential) w.server with ⟨fault | session, s⟩
  · exact h.failed hconnect
  · exact h.visited hconnect (hwork ⟨session, .authenticated⟩ { w with server := s })

/-! ### Many sessions -/

/-- A run over a list, up to the first failure. -/
theorem forEach {f : α → Step σ Unit} (hf : ∀ a s, R s (f a s).2) (l : List α) (s : σ) :
    R s (forEach f l s).2 := by
  induction l generalizing s with
  | nil => exact h.nothing s
  | cons a rest ih =>
    have ha := hf a s
    rw [DirectoryAccess.forEach]
    rcases hfa : f a s with ⟨fault | _, s'⟩
    · rw [hfa] at ha
      exact ha
    · rw [hfa] at ha
      exact h.trans ha (ih s')

/-- The deletion of a subtree, wherever it fails. -/
theorem deleteSubtree (depth : Nat) (n : DistinguishedName) (s : σ) :
    R s (deleteSubtree depth n s).2 := by
  induction depth generalizing n s with
  | zero => exact h.nothing s
  | succ depth ih =>
    -- one session for the listing, those of the children, and one for the deletion
    have hlist := h.requested .readWrite (fun session => h.send session (.list n)) s
    change R s (DirectoryAccess.requested .readWrite (fun session => childNames session n) s).2 at hlist
    rw [DirectoryAccess.deleteSubtree]
    dsimp only
    rcases hl : DirectoryAccess.requested .readWrite (fun session => childNames session n) s
      with ⟨fault | children, s'⟩
    · rw [hl] at hlist
      exact hlist
    · rw [hl] at hlist
      have hrun := h.forEach ih children s'
      dsimp only
      rcases hr : DirectoryAccess.forEach (DirectoryAccess.deleteSubtree depth) children s'
        with ⟨fault | _, s''⟩
      · rw [hr] at hrun
        exact h.trans hlist hrun
      · rw [hr] at hrun
        exact h.trans (h.trans hlist hrun) (h.request (.name n) .readWrite .delete s'')

theorem deleteTree (name : NameInput) (recursive : Bool) (s : σ) :
    R s (deleteTree name recursive s).2 := by
  refine h.named (fun n => ?_) name
  cases recursive with
  | true => exact h.deleteSubtree (depth s) n s
  | false => exact h.request (.name n) .readWrite .delete s

/-! ### Readings, contexts, authentications -/

theorem lookup (name : NameInput) (s : σ) : R s (lookup name s).2 := by
  refine h.named (fun n => ?_) name
  exact h.requested .readOnly (fun session => h.send session (.lookup n [])) s

theorem list (name : NameInput) (s : σ) : R s (list name s).2 := by
  refine h.named (fun n => ?_) name
  exact h.requested .readOnly (fun session => h.send session (.list n)) s

/-- A mapper runs after the session has been closed. -/
theorem lookupMapping (name : NameInput) (mapper : Mapper τ α) (w : World σ τ) :
    R w.server (lookupMapping name mapper w).2.server := by
  have hlookup := h.lookup name w.server
  rw [DirectoryAccess.lookupMapping]
  rcases hl : DirectoryAccess.lookup name w.server with ⟨fault | context, s⟩ <;>
    rw [hl] at hlookup <;> exact hlookup

theorem listMapping (name : NameInput) (mapper : Mapper τ α) (w : World σ τ) :
    R w.server (listMapping name mapper w).2.server := by
  have hlist := h.request name .readOnly .listEntries w.server
  change R w.server (DirectoryAccess.named name
    (fun n => DirectoryAccess.requested .readOnly fun session => childEntries session n) w.server).2 at hlist
  rw [DirectoryAccess.listMapping]
  rcases hl : DirectoryAccess.named name
    (fun n => DirectoryAccess.requested .readOnly fun session => childEntries session n) w.server
    with ⟨fault | children, s⟩ <;> rw [hl] at hlist <;> exact hlist

theorem createFromContext (c : EntryContext) (s : σ) : R s (createFromContext c s).2 := by
  rw [DirectoryAccess.createFromContext]
  cases nameToCreate "bind" c with
  | error fault => exact h.nothing s
  | ok n => exact h.request (.name n) .readWrite (.add · c.attributes) s

theorem replaceFromContext (c : EntryContext) (s : σ) : R s (replaceFromContext c s).2 := by
  rw [DirectoryAccess.replaceFromContext]
  cases nameToCreate "rebind" c with
  | error fault => exact h.nothing s
  | ok n => exact h.request (.name n) .readWrite (.replace · c.attributes) s

theorem updateFromContext (c : EntryContext) (s : σ) : R s (updateFromContext c s).2 := by
  rw [DirectoryAccess.updateFromContext]
  cases c.name? with
  | none => exact h.nothing s
  | some n =>
    dsimp only
    split
    · exact h.request (.name n) .readWrite (.modify · c.changes) s
    · exact h.nothing s

/-- The search, and then the session as the entry if there is one. -/
theorem authenticate {ignorePartial : Bool} {start : NameInput} {filter : Filter} {credential : String}
    {work : Connection σ → Identification → Step (World σ τ) Unit}
    (hwork : ∀ entry, WorksWithin T (work · entry)) (w : World σ τ) :
    R w.server (authenticate ignorePartial start filter credential work w).2.server := by
  rw [DirectoryAccess.authenticate]
  cases SearchQuery.make? start filter with
  | error e => exact h.nothing w.server
  | ok query =>
    have hsearch : R w.server (searchMapping ignorePartial query identify SearchHooks.none w).2.server :=
      h.searchVisiting h.worksWithin_none.1 h.worksWithin_none.2 w
    dsimp only
    rcases hs : searchMapping ignorePartial query identify SearchHooks.none w with ⟨fault | values, u⟩
    · rw [hs] at hsearch
      exact hsearch
    · rw [hs] at hsearch
      match values with
      | [] => exact hsearch
      | _ :: _ :: _ => exact hsearch
      | [entry] => exact h.trans hsearch (h.verify (hwork entry) u)

/-! ### Every operation -/

/-- **What holds of sessions and can be strung together holds of every operation**, whatever the outcome
is. -/
theorem run (ignorePartial : Bool) (op : Operation σ τ α) (hop : op.Within T) (w : World σ τ) :
    R w.server (op.run ignorePartial w).2.server := by
  cases op with
  | search query mapper hooks => exact h.searchVisiting hop.1 hop.2 w
  | searchHandling query handle hooks => exact h.searchVisiting hop.1 hop.2 w
  | searchSingle query mapper => exact h.searchVisiting h.worksWithin_none.1 h.worksWithin_none.2 w
  | lookup name => exact h.lookup name w.server
  | lookupMapping name mapper => exact h.lookupMapping name mapper w
  | list name => exact h.list name w.server
  | listMapping name mapper => exact h.listMapping name mapper w
  | create name attributes => exact h.request name .readWrite (.add · attributes) w.server
  | replace name attributes => exact h.request name .readWrite (.replace · attributes) w.server
  | delete name => exact h.request name .readWrite .delete w.server
  | deleteTree name recursive => exact h.deleteTree name recursive w.server
  | rename old new =>
    exact h.named (fun o => h.request new .readWrite (.rename o) w.server) old
  | change name changes => exact h.request name .readWrite (.modify · changes) w.server
  | createFromContext c => exact h.createFromContext c w.server
  | replaceFromContext c => exact h.replaceFromContext c w.server
  | updateFromContext c => exact h.updateFromContext c w.server
  | workReadOnly work => exact h.connected .readOnly hop w
  | workReadWrite work => exact h.connected .readWrite hop w
  | authenticate start filter credential work => exact h.authenticate hop w

end Sessionwise

end DirectoryAccess
