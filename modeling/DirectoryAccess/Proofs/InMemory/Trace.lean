import DirectoryAccess.Proofs.InMemory.Exchange
import DirectoryAccess.Proofs.Operation.Basic

/-!
# What operations leave in the record

Every session that an operation opens is closed before another one is opened and before the operation
ends, however it ends, and every search is finished on the session that it was started on. So the events
of an operation are a sequence of blocks, one for each session.
-/

namespace DirectoryAccess

/-! ### Operations in order -/

/-- A query that the directory can make sense of. -/
structure SearchQuery.Sensible (q : SearchQuery) : Prop where
  /-- The limit is not below zero. -/
  limit : 0 ≤ q.sizeLimit
  /-- The escapes in the text of the filter are well formed. -/
  escapes : Filter.HexEscaped (toString q.filter).toList

variable {σ τ α : Type} [DirectoryServer σ]

/-- What the caller gives along is in order: a query makes sense, and functions that are given a
connection converse on it. -/
def Operation.Orderly {α : Type} (op : Operation σ τ α) : Prop :=
  match op with
  | .search query _ hooks | .searchHandling query _ hooks =>
    query.Sensible ∧ Converses hooks.before ∧ Converses hooks.after
  | .searchSingle query _ => query.Sensible
  | .workReadOnly work | .workReadWrite work => Converses work
  | .authenticate _ filter _ work =>
    Filter.HexEscaped (toString filter).toList ∧ ∀ entry, Converses (work · entry)
  | _ => True

/-- Which sessions the operation may open, one after the other. -/
def Operation.MayOpen {α : Type} (op : Operation σ τ α) (modes : List AccessMode) : Prop :=
  match op with
  | .search .. | .searchHandling .. | .searchSingle .. | .lookup .. | .lookupMapping .. | .list ..
  | .listMapping .. | .workReadOnly .. => modes <+: [.readOnly]
  | .deleteTree .. => ∀ mode ∈ modes, mode = .readWrite
  | .authenticate .. => modes <+: [.readOnly, .authenticated]
  | _ => modes <+: [.readWrite]

namespace InMemory

open DirectoryServer

variable {d d' d'' : Directory} {events events' : List Event} {modes modes' : List AccessMode}

/-! ### Blocks -/

/-- `Blocks modes d events d'`: sessions of these modes, each of them closed before the next is opened,
lead from `d` to `d'`, and `events` is what is recorded of them. -/
inductive Blocks : List AccessMode → Directory → List Event → Directory → Prop where
  /-- No session is opened. -/
  | nil {d : Directory} : Blocks [] d [] d
  /-- A session is opened, requests are made on it, and it is closed. -/
  | block {access : Access} {d d₁ d₂ d₃ : Directory} {modes : List AccessMode}
      {events rest : List Event} : connect access d = (.ok access.mode, d₁) →
      Exchange d₁ events d₂ → Blocks modes (disconnect access.mode d₂).2 rest d₃ →
      Blocks (access.mode :: modes) d
        (.acquire access.mode :: events ++ .release access.mode :: rest) d₃

theorem Blocks.append (h : Blocks modes d events d') (h' : Blocks modes' d' events' d'') :
    Blocks (modes ++ modes') d (events ++ events') d'' := by
  induction h with
  | nil => exact h'
  | block hopen hexchange _ ih =>
    rw [List.append_assoc, List.cons_append, List.cons_append]
    exact .block hopen hexchange (ih h')

/-- Blocks are recorded as they are, and the directory does not break down over them. -/
theorem Blocks.recorded (h : Blocks modes d events d') :
    d'.events = d.events ++ events ∧ d'.brokenDown = d.brokenDown := by
  induction h with
  | nil => exact ⟨(List.append_nil _).symm, rfl⟩
  | @block access d d₁ d₂ d₃ modes events rest hopen hexchange _ ih =>
    obtain ⟨fault, hfault⟩ | hopen' := connect_cases access d
    · rw [hopen] at hfault
      cases hfault
    · rw [hopen] at hopen'
      cases hopen'
      have hclosed : (disconnect access.mode d₂).2 = d₂.record (.release access.mode) := rfl
      obtain ⟨hevents, hdown⟩ := hexchange.recorded
      rw [hclosed] at ih
      refine ⟨?_, ih.2.trans hdown⟩
      rw [ih.1, Directory.record, hevents, Directory.record]
      simp

/-- The sessions of blocks are opened and closed in turn, and none is at any other place. -/
theorem Blocks.filter_boundsSession (h : Blocks modes d events d') :
    events.filter Event.boundsSession = modes.flatMap fun mode => [.acquire mode, .release mode] := by
  induction h with
  | nil => rfl
  | @block access d d₁ d₂ d₃ modes events rest _ hexchange _ ih =>
    have hinner : events.filter Event.boundsSession = [] := by
      rw [List.filter_eq_nil_iff]
      intro e he
      rw [hexchange.boundsSession_eq_false e he]
      exact Bool.false_ne_true
    rw [List.cons_append, List.filter_cons_of_pos rfl, List.filter_append, hinner, List.nil_append,
      List.filter_cons_of_pos rfl, ih]
    rfl

/-! ### Work on a session -/

/-- However the caller's work ends, it is an exchange. -/
theorem exchange_of_converses {work : Connection Directory → Step (World Directory τ) α}
    (h : Converses work) (c : Connection Directory) (w : World Directory τ) :
    ∃ events, Exchange w.server events (work c w).2.server := by
  obtain ⟨start, hstart⟩ := h
  rw [hstart]
  exact exchange_run c.session (start c.mode w.caller) w.server

/-- A session that cannot be opened leaves nothing, and one that can be opened leaves a block. -/
theorem blocks_connected {access : Access}
    {work : Connection Directory → Step (World Directory τ) α}
    (hwork : ∀ c w, ∃ events, Exchange w.server events (work c w).2.server)
    (w : World Directory τ) :
    ((∃ fault, (connected access work w).1 = .error fault) ∧
      (connected access work w).2.server = w.server) ∨
    ∃ events, Blocks [access.mode] w.server events (connected access work w).2.server := by
  rw [connected, server_connect_eq]
  obtain ⟨fault, hfault⟩ | hopen := connect_cases access w.server
  · rw [hfault]
    exact .inl ⟨⟨_, rfl⟩, rfl⟩
  · rw [hopen]
    obtain ⟨events, hexchange⟩ := hwork ⟨access.mode, access.mode⟩
      { w with server := w.server.record (.acquire access.mode) }
    exact .inr ⟨_, .block hopen hexchange .nil⟩

/-! ### What operations leave -/

/-- Blocks of sessions whose modes are `allowed` lead from `d` to `d'`. -/
def Leaves (allowed : List AccessMode → Prop) (d d' : Directory) : Prop :=
  ∃ modes events, allowed modes ∧ Blocks modes d events d'

variable {allowed : List AccessMode → Prop}

/-- At most these sessions, from the first one on. -/
def UpTo (most modes : List AccessMode) : Prop := modes <+: most

theorem upTo_nil (most : List AccessMode) : UpTo most [] := List.nil_prefix

theorem leaves_nothing (h : allowed []) (d : Directory) : Leaves allowed d d := ⟨[], [], h, .nil⟩

/-- Nothing, or one block. -/
theorem leaves_of_blocks {mode : AccessMode} {outcome : Except Fault α}
    (h : ((∃ fault, outcome = .error fault) ∧ d' = d) ∨ ∃ events, Blocks [mode] d events d') :
    Leaves (UpTo [mode]) d d' := by
  obtain ⟨-, rfl⟩ | ⟨events, hblock⟩ := h
  · exact leaves_nothing (upTo_nil _) _
  · exact ⟨_, events, List.prefix_rfl, hblock⟩

theorem leaves_connected (access : Access)
    {work : Connection Directory → Step (World Directory τ) α}
    (hwork : ∀ c w, ∃ events, Exchange w.server events (work c w).2.server)
    (w : World Directory τ) :
    Leaves (UpTo [access.mode]) w.server (connected access work w).2.server :=
  leaves_of_blocks (blocks_connected hwork w)

theorem leaves_requested (access : Access) {request : Session Directory → Step Directory α}
    (hrequest : ∀ session d, ∃ events, Exchange d events (request session d).2) (d : Directory) :
    Leaves (UpTo [access.mode]) d (requested access request d).2 :=
  @leaves_connected Unit α access (fun c => onServer (request c.session))
    (fun c w => hrequest c.session w.server) ⟨d, ()⟩

/-- A name that cannot be read leaves nothing. -/
theorem leaves_named (hnil : allowed []) {operation : DistinguishedName → Step Directory α}
    {d : Directory} (h : ∀ n, Leaves allowed d (operation n d).2) (name : NameInput) :
    Leaves allowed d (named name operation d).2 := by
  rw [named]
  cases name.resolve with
  | error e => exact leaves_nothing hnil d
  | ok n => exact h n

/-- An operation that makes one request leaves at most one block. -/
theorem leaves_request (name : NameInput) (access : Access) {β : Type}
    (request : DistinguishedName → Request β) (d : Directory) :
    Leaves (UpTo [access.mode]) d
      (named name (fun n => requested access fun session => (request n).send session) d).2 :=
  leaves_named (upTo_nil _)
    (fun n => leaves_requested access (fun session => exchange_send session (request n)) d) name

/-! ### Readings and contexts -/

theorem leaves_lookup (name : NameInput) (d : Directory) :
    Leaves (UpTo [.readOnly]) d (lookup name d).2 := by
  refine leaves_named (upTo_nil _) (fun n => ?_) name
  exact leaves_requested .readOnly (fun session => exchange_send session (.lookup n [])) d

/-- A mapper that runs after the session has been closed leaves nothing. -/
theorem lookupMapping_server (name : NameInput) (mapper : Mapper τ α) (w : World Directory τ) :
    (lookupMapping name mapper w).2.server = (lookup name w.server).2 := by
  rw [lookupMapping]
  rcases lookup name w.server with ⟨fault | context, s⟩ <;> rfl

theorem leaves_list (name : NameInput) (d : Directory) :
    Leaves (UpTo [.readOnly]) d (list name d).2 := by
  refine leaves_named (upTo_nil _) (fun n => ?_) name
  exact leaves_requested .readOnly (fun session => exchange_send session (.list n)) d

theorem listMapping_server (name : NameInput) (mapper : Mapper τ α) (w : World Directory τ) :
    (listMapping name mapper w).2.server =
      (named name (fun n => requested .readOnly fun session => childEntries session n) w.server).2 := by
  rw [listMapping]
  rcases named name (fun n => requested .readOnly fun session => childEntries session n) w.server
    with ⟨fault | children, s⟩ <;> rfl

theorem leaves_createFromContext (c : EntryContext) (d : Directory) :
    Leaves (UpTo [.readWrite]) d (createFromContext c d).2 := by
  rw [createFromContext]
  cases nameToCreate "bind" c with
  | error fault => exact leaves_nothing (upTo_nil _) d
  | ok n => exact leaves_request (.name n) .readWrite (.add · c.attributes) d

theorem leaves_replaceFromContext (c : EntryContext) (d : Directory) :
    Leaves (UpTo [.readWrite]) d (replaceFromContext c d).2 := by
  rw [replaceFromContext]
  cases nameToCreate "rebind" c with
  | error fault => exact leaves_nothing (upTo_nil _) d
  | ok n => exact leaves_request (.name n) .readWrite (.replace · c.attributes) d

theorem leaves_updateFromContext (c : EntryContext) (d : Directory) :
    Leaves (UpTo [.readWrite]) d (updateFromContext c d).2 := by
  rw [updateFromContext]
  cases c.name? with
  | none => exact leaves_nothing (upTo_nil _) d
  | some n =>
    dsimp only
    split
    · exact leaves_request (.name n) .readWrite (.modify · c.changes) d
    · exact leaves_nothing (upTo_nil _) d

/-! ### Searches -/

theorem sensible_ofQuery {query : SearchQuery} (h : query.Sensible) (wholeEntries : Bool) :
    (SearchRequest.ofQuery query wholeEntries).Sensible := ⟨h.limit, h.escapes⟩

/-- The hooks and the search between them are an exchange, also when one of them fails. -/
theorem exchange_searchWork {ignorePartial : Bool} {query : SearchQuery} (hquery : query.Sensible)
    {wholeEntries : Bool} {visit : EntryContext → Step τ α} {hooks : SearchHooks Directory τ}
    (hbefore : Converses hooks.before) (hafter : Converses hooks.after)
    (c : Connection Directory) (w : World Directory τ) :
    ∃ events, Exchange w.server events
      (searchWork ignorePartial query wholeEntries visit hooks c w).2.server := by
  obtain ⟨events, h⟩ := exchange_of_converses hbefore c w
  rw [searchWork]
  rcases hb : hooks.before c w with ⟨fault | _, u⟩
  · rw [hb] at h
    exact ⟨events, h⟩
  · rw [hb] at h
    obtain ⟨events', h'⟩ := exchange_searchEach (sensible_ofQuery hquery wholeEntries) c.session
      (fun e => visit (.existing e.name (base u.server) e.attributes)) u
    obtain ⟨events'', h''⟩ := exchange_of_converses hafter c
      (searchOn ignorePartial c (.ofQuery query wholeEntries) visit u).2
    exact ⟨events ++ (events' ++ events''), h.append (h'.append h'')⟩

theorem converses_none : Converses (SearchHooks.none : SearchHooks Directory τ).before ∧
    Converses (SearchHooks.none : SearchHooks Directory τ).after :=
  ⟨⟨fun _ t => .finish (.ok ()) t, fun _ _ => rfl⟩, ⟨fun _ t => .finish (.ok ()) t, fun _ _ => rfl⟩⟩

/-- A search leaves a block unless the session cannot be opened. -/
theorem blocks_searchVisiting {ignorePartial : Bool} {query : SearchQuery} (hquery : query.Sensible)
    {wholeEntries : Bool} {visit : EntryContext → Step τ α} {hooks : SearchHooks Directory τ}
    (hbefore : Converses hooks.before) (hafter : Converses hooks.after) (w : World Directory τ) :
    ((∃ fault, (searchVisiting ignorePartial query wholeEntries visit hooks w).1 = .error fault) ∧
      (searchVisiting ignorePartial query wholeEntries visit hooks w).2.server = w.server) ∨
    ∃ events, Blocks [.readOnly] w.server events
      (searchVisiting ignorePartial query wholeEntries visit hooks w).2.server := by
  rw [searchVisiting_eq]
  exact blocks_connected (exchange_searchWork hquery hbefore hafter) w

theorem leaves_searchVisiting {ignorePartial : Bool} {query : SearchQuery} (hquery : query.Sensible)
    {wholeEntries : Bool} {visit : EntryContext → Step τ α} {hooks : SearchHooks Directory τ}
    (hbefore : Converses hooks.before) (hafter : Converses hooks.after) (w : World Directory τ) :
    Leaves (UpTo [.readOnly]) w.server
      (searchVisiting ignorePartial query wholeEntries visit hooks w).2.server :=
  leaves_of_blocks (blocks_searchVisiting hquery hbefore hafter w)

/-! ### Deletions of subtrees -/

/-- Only sessions to read and write. -/
def OnlyWrites (modes : List AccessMode) : Prop := ∀ mode ∈ modes, mode = .readWrite

theorem onlyWrites_of_upTo {modes : List AccessMode} (h : UpTo [.readWrite] modes) :
    OnlyWrites modes :=
  fun _ hmode => List.mem_singleton.1 (h.subset hmode)

theorem Leaves.onlyWrites (h : Leaves (UpTo [.readWrite]) d d') : Leaves OnlyWrites d d' := by
  obtain ⟨modes, events, hmodes, hblocks⟩ := h
  exact ⟨modes, events, onlyWrites_of_upTo hmodes, hblocks⟩

theorem Leaves.trans (h : Leaves OnlyWrites d d') (h' : Leaves OnlyWrites d' d'') :
    Leaves OnlyWrites d d'' := by
  obtain ⟨modes, events, hmodes, hblocks⟩ := h
  obtain ⟨modes', events', hmodes', hblocks'⟩ := h'
  exact ⟨modes ++ modes', events ++ events', fun mode hmode =>
    (List.mem_append.1 hmode).elim (hmodes mode) (hmodes' mode), hblocks.append hblocks'⟩

/-- A run over a list leaves what its steps leave, up to the first failure. -/
theorem leaves_forEach {β : Type} {f : β → Step Directory Unit}
    (h : ∀ b d, Leaves OnlyWrites d (f b d).2) (l : List β) (d : Directory) :
    Leaves OnlyWrites d (forEach f l d).2 := by
  induction l generalizing d with
  | nil => exact leaves_nothing nofun d
  | cons b rest ih =>
    have hb := h b d
    rw [forEach]
    rcases hf : f b d with ⟨fault | _, d'⟩
    · rw [hf] at hb
      exact hb
    · rw [hf] at hb
      exact hb.trans (ih d')

theorem leaves_delete (n : DistinguishedName) (d : Directory) :
    Leaves OnlyWrites d (deleteEntry (.name n) d).2 :=
  (leaves_request (.name n) .readWrite .delete d).onlyWrites

/-- The deletion of a subtree leaves one block after the other, wherever it fails. -/
theorem leaves_deleteSubtree (depth : Nat) (n : DistinguishedName) (d : Directory) :
    Leaves OnlyWrites d (deleteSubtree depth n d).2 := by
  induction depth generalizing n d with
  | zero => exact leaves_nothing nofun d
  | succ depth ih =>
    have hlist := (leaves_requested .readWrite
      (fun session => exchange_send session (.list n)) d).onlyWrites
    rw [deleteSubtree]
    dsimp only
    rcases hl : requested .readWrite (fun session => childNames session n) d with ⟨fault | children, d'⟩
    · have hl' : requested .readWrite (fun session => (Request.list n).send session) d = _ := hl
      rw [hl'] at hlist
      exact hlist
    · have hl' : requested .readWrite (fun session => (Request.list n).send session) d = _ := hl
      rw [hl'] at hlist
      have hrun := leaves_forEach ih children d'
      dsimp only
      rcases hr : forEach (deleteSubtree depth) children d' with ⟨fault | _, d''⟩
      · rw [hr] at hrun
        exact hlist.trans hrun
      · rw [hr] at hrun
        exact (hlist.trans hrun).trans (leaves_delete n d'')

theorem leaves_deleteTree (name : NameInput) (recursive : Bool) (d : Directory) :
    Leaves OnlyWrites d (deleteTree name recursive d).2 := by
  refine leaves_named nofun (fun n => ?_) name
  cases recursive with
  | true => exact leaves_deleteSubtree (depth d) n d
  | false => exact leaves_delete n d

/-! ### Authentications -/

/-- The session as the entry leaves a block, whatever the caller does on it, or cannot be opened. -/
theorem leaves_verify {credential : String}
    {work : Connection Directory → Identification → Step (World Directory τ) Unit}
    {entry : Identification} (hwork : Converses (work · entry)) (w : World Directory τ) :
    Leaves (UpTo [.authenticated]) w.server (verify credential work entry w).2.server := by
  rw [verify, server_connect_eq]
  obtain ⟨fault, hfault⟩ | hopen := connect_cases (.authenticated entry.absolute credential) w.server
  · rw [hfault]
    exact leaves_nothing (upTo_nil _) w.server
  · rw [hopen]
    obtain ⟨events, hexchange⟩ := exchange_of_converses hwork ⟨.authenticated, .authenticated⟩
      { w with server := w.server.record (.acquire .authenticated) }
    exact ⟨_, _, List.prefix_rfl, .block hopen hexchange .nil⟩

theorem sensible_of_make? {start : NameInput} {filter : Filter} {query : SearchQuery}
    (hfilter : Filter.HexEscaped (toString filter).toList)
    (h : SearchQuery.make? start filter = .ok query) : query.Sensible := by
  rw [SearchQuery.make?] at h
  cases hname : start.resolve with
  | error e =>
    rw [hname] at h
    cases h
  | ok n =>
    rw [hname] at h
    cases h
    exact ⟨Int.le_refl 0, hfilter⟩

/-- An authentication leaves a block for the search, and then at most one more. -/
theorem leaves_authenticate {ignorePartial : Bool} {start : NameInput} {filter : Filter}
    (hfilter : Filter.HexEscaped (toString filter).toList) {credential : String}
    {work : Connection Directory → Identification → Step (World Directory τ) Unit}
    (hwork : ∀ entry, Converses (work · entry)) (w : World Directory τ) :
    Leaves (UpTo [.readOnly, .authenticated]) w.server
      (authenticate ignorePartial start filter credential work w).2.server := by
  rw [authenticate]
  cases hmake : SearchQuery.make? start filter with
  | error e => exact leaves_nothing (upTo_nil _) w.server
  | ok query =>
    have hquery := sensible_of_make? hfilter hmake
    have hsearch : ((∃ fault, (searchMapping ignorePartial query identify SearchHooks.none w).1 =
        .error fault) ∧ (searchMapping ignorePartial query identify SearchHooks.none w).2.server =
        w.server) ∨ ∃ events, Blocks [.readOnly] w.server events
        (searchMapping ignorePartial query identify SearchHooks.none w).2.server :=
      blocks_searchVisiting hquery converses_none.1 converses_none.2 w
    dsimp only
    rcases hs : searchMapping ignorePartial query identify SearchHooks.none w with ⟨fault | values, u⟩
    · rw [hs] at hsearch
      obtain ⟨modes, events, hmodes, hblocks⟩ := leaves_of_blocks hsearch
      exact ⟨modes, events, hmodes.trans ⟨[.authenticated], rfl⟩, hblocks⟩
    · -- a search that succeeded has had its session
      rw [hs] at hsearch
      obtain ⟨⟨_, hfault⟩, -⟩ | ⟨events, hblock⟩ := hsearch
      · cases hfault
      · have hone : Leaves (UpTo [.readOnly, .authenticated]) w.server u.server :=
          ⟨_, events, ⟨[.authenticated], rfl⟩, hblock⟩
        match values with
        | [] => exact hone
        | _ :: _ :: _ => exact hone
        | [entry] =>
          obtain ⟨modes, events', hmodes, hblocks⟩ := leaves_verify (hwork entry) u
          exact ⟨.readOnly :: modes, events ++ events', (List.prefix_cons_inj _).2 hmodes,
            hblock.append hblocks⟩

/-! ### Every operation -/

theorem leaves_operation (ignorePartial : Bool) (op : Operation Directory τ α)
    (w : World Directory τ) (h : op.Orderly) :
    Leaves op.MayOpen w.server (op.run ignorePartial w).2.server := by
  cases op with
  | search query mapper hooks => exact leaves_searchVisiting h.1 h.2.1 h.2.2 w
  | searchHandling query handle hooks => exact leaves_searchVisiting h.1 h.2.1 h.2.2 w
  | searchSingle query mapper => exact leaves_searchVisiting h converses_none.1 converses_none.2 w
  | lookup name => exact leaves_lookup name w.server
  | lookupMapping name mapper =>
    rw [Operation.run, lookupMapping_server]
    exact leaves_lookup name w.server
  | list name => exact leaves_list name w.server
  | listMapping name mapper =>
    rw [Operation.run, listMapping_server]
    exact leaves_request name .readOnly .listEntries w.server
  | create name attributes => exact leaves_request name .readWrite (.add · attributes) w.server
  | replace name attributes => exact leaves_request name .readWrite (.replace · attributes) w.server
  | delete name => exact leaves_request name .readWrite .delete w.server
  | deleteTree name recursive => exact leaves_deleteTree name recursive w.server
  | rename old new =>
    exact leaves_named (upTo_nil _) (fun o => leaves_request new .readWrite (.rename o) w.server) old
  | change name changes => exact leaves_request name .readWrite (.modify · changes) w.server
  | createFromContext c => exact leaves_createFromContext c w.server
  | replaceFromContext c => exact leaves_replaceFromContext c w.server
  | updateFromContext c => exact leaves_updateFromContext c w.server
  | workReadOnly work => exact leaves_connected .readOnly (exchange_of_converses h) w
  | workReadWrite work => exact leaves_connected .readWrite (exchange_of_converses h) w
  | authenticate start filter credential work => exact leaves_authenticate h.1 h.2 w

/-- **The events of an operation are complete blocks.** Whatever the directory holds and however it has
been told to fail, an orderly operation leaves a sequence of blocks: a session is opened, requests are
made on it, and it is closed, each search being finished before the next request. The sessions are such
as the operation may open, each is closed before the next is opened, no other is opened or closed, and the
directory does not break down. -/
theorem operation_leaves_blocks (ignorePartial : Bool) (op : Operation Directory τ α)
    (w : World Directory τ) (h : op.Orderly) :
    ∃ modes events, op.MayOpen modes ∧
      Blocks modes w.server events (op.run ignorePartial w).2.server ∧
      events.filter Event.boundsSession = (modes.flatMap fun mode => [.acquire mode, .release mode]) ∧
      (op.run ignorePartial w).2.server.events = w.server.events ++ events ∧
      (op.run ignorePartial w).2.server.brokenDown = w.server.brokenDown := by
  obtain ⟨modes, events, hmodes, hblocks⟩ := leaves_operation ignorePartial op w h
  exact ⟨modes, events, hmodes, hblocks, hblocks.filter_boundsSession, hblocks.recorded⟩

/-- A directory over which searches and the closing of sessions fail. -/
def failingDirectory : Directory := { failures := { search? := some 51, release := true } }

/-- A search with a hook before it that lists the children of the root. -/
def searchAfterListing : Operation Directory Unit (List Attributes) :=
  .search { base := .root, filter := .raw "(cn=*)" } (.ofAttributes fun a t => (.ok a, t))
    { before := fun c w =>
        (Conversation.ask (.list .root) fun answer =>
          .finish (answer.map fun _ => ()) w.caller).run c.session w.server
      after := SearchHooks.none.after }

/-- Its sessions are closed all the same. -/
theorem searchAfterListing_leaves_blocks :
    searchAfterListing.Orderly ∧
    ∃ modes events, searchAfterListing.MayOpen modes ∧
      Blocks modes failingDirectory events
        (searchAfterListing.run false ⟨failingDirectory, ()⟩).2.server ∧
      events.filter Event.boundsSession = (modes.flatMap fun mode => [.acquire mode, .release mode]) ∧
      (searchAfterListing.run false ⟨failingDirectory, ()⟩).2.server.events =
        failingDirectory.events ++ events ∧
      (searchAfterListing.run false ⟨failingDirectory, ()⟩).2.server.brokenDown =
        failingDirectory.brokenDown := by
  have hfilter : Filter.HexEscaped (toString (Filter.raw "(cn=*)")).toList := by
    refine Filter.hexEscaped_of_not_mem ?_
    simp only [toString, Filter.encode]
    decide +kernel
  have horderly : searchAfterListing.Orderly :=
    ⟨⟨Int.le_refl 0, hfilter⟩,
      ⟨fun _ t => .ask (.list .root) fun answer => .finish (answer.map fun _ => ()) t, fun _ _ => rfl⟩,
      converses_none.2⟩
  exact ⟨horderly, operation_leaves_blocks false searchAfterListing ⟨failingDirectory, ()⟩ horderly⟩

end InMemory

end DirectoryAccess
