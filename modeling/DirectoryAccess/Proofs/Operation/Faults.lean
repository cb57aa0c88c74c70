import DirectoryAccess.Proofs.Operation.Basic

/-!
# The faults of operations

Which fault decides that an operation fails, as it arose, and what the caller is told. Every exit of an
operation is a constructor here: the connection cannot be opened, the work on it fails, a hook fails,
reading fails, the caller's own function fails.

A caller's mapper that runs after the connection has been closed stands apart: nothing looks at its
faults any more.
-/

namespace DirectoryAccess

open DirectoryServer

variable {σ τ α : Type} [DirectoryServer σ]

/-! ### Classified faults -/

/-- A classified fault is not raw. -/
theorem isRaw_classify (f : Fault) : f.classify.isRaw = false := by
  cases f with
  | protocol p =>
    cases p with
    | result code matched text =>
      simp only [Fault.classify, Fault.ofResult]
      split <;> rfl
    | _ => rfl
  | _ => rfl

/-- A fault that is not raw stands for itself. -/
theorem classify_eq_self {f : Fault} (h : f.isRaw = false) : f.classify = f := by
  cases f with
  | system text => cases h
  | protocol p => cases h
  | _ => rfl

/-- Classifying twice is the same as classifying once. -/
theorem classify_classify (f : Fault) : f.classify.classify = f.classify :=
  classify_eq_self (isRaw_classify f)

/-! ### What decides that a part of an operation fails -/

/-- `ConnectionFails access work w f`: opening the connection or the work on it fails with `f`. -/
inductive ConnectionFails (access : Access) (work : Connection σ → Step (World σ τ) α)
    (w : World σ τ) : Fault → Prop where
  /-- The connection cannot be opened. -/
  | opening {f : Fault} {s : σ} : connect access w.server = (.error f, s) →
      ConnectionFails access work w f
  /-- The work on the connection fails. -/
  | working {session : Session σ} {s : σ} {f : Fault} {w' : World σ τ} :
      connect access w.server = (.ok session, s) →
      work ⟨session, access.mode⟩ { w with server := s } = (.error f, w') →
      ConnectionFails access work w f

/-- `RequestFails access request s f`: opening the session or the request on it fails with `f`. -/
def RequestFails (access : Access) (request : Session σ → Step σ α) (s : σ) (f : Fault) : Prop :=
  ConnectionFails access (fun c => onServer (request c.session)) (⟨s, ()⟩ : World σ Unit) f

/-- `NameFails name fails f`: the name cannot be read, or what is done with it fails with `f`. -/
inductive NameFails (name : NameInput) (fails : DistinguishedName → Fault → Prop) : Fault → Prop where
  /-- The name cannot be read. -/
  | reading {e : NameError} : name.resolve = .error e → NameFails name fails (.ofName e)
  /-- What is done with the name fails. -/
  | after {n : DistinguishedName} {f : Fault} : name.resolve = .ok n → fails n f →
      NameFails name fails f

/-- Whether a fault is one that the caller accepts as the end of a search. -/
def Accepted (ignorePartial : Bool) (f : Fault) : Prop :=
  ignorePartial = true ∧ ∃ text, f.classify = .partialResult text

/-- `SearchFails ignorePartial query wholeEntries visit hooks w f`: the search fails with `f`. -/
inductive SearchFails (ignorePartial : Bool) (query : SearchQuery) (wholeEntries : Bool)
    (visit : EntryContext → Step τ α) (hooks : SearchHooks σ τ) (w : World σ τ) : Fault → Prop where
  /-- The connection cannot be opened. -/
  | opening {f : Fault} {s : σ} : connect .readOnly w.server = (.error f, s) →
      SearchFails ignorePartial query wholeEntries visit hooks w f
  /-- The hook before the search fails. -/
  | before {session : Session σ} {s : σ} {f : Fault} {w' : World σ τ} :
      connect .readOnly w.server = (.ok session, s) →
      hooks.before ⟨session, .readOnly⟩ { w with server := s } = (.error f, w') →
      SearchFails ignorePartial query wholeEntries visit hooks w f
  /-- Starting the search, reading on in it, the visitor, or finishing the search fails, and the caller
  does not accept the fault. -/
  | reading {session : Session σ} {s : σ} {f : Fault} {w' : World σ τ} :
      connect .readOnly w.server = (.ok session, s) →
      hooks.before ⟨session, .readOnly⟩ { w with server := s } = (.ok (), w') →
      (searchEach session (.ofQuery query wholeEntries)
        (fun e => visit (.existing e.name (base w'.server) e.attributes)) w').1.outcome = .error f →
      ¬Accepted ignorePartial f →
      SearchFails ignorePartial query wholeEntries visit hooks w f
  /-- The search succeeds, and the hook after it fails. -/
  | after {session : Session σ} {s : σ} {f : Fault} {w' w'' w''' : World σ τ} {values : List α} :
      connect .readOnly w.server = (.ok session, s) →
      hooks.before ⟨session, .readOnly⟩ { w with server := s } = (.ok (), w') →
      searchOn ignorePartial ⟨session, .readOnly⟩ (.ofQuery query wholeEntries) visit w' =
        ((values, .ok ()), w'') →
      hooks.after ⟨session, .readOnly⟩ w'' = (.error f, w''') →
      SearchFails ignorePartial query wholeEntries visit hooks w f

/-- `SubtreeFails depth name s f`: the deletion of the subtree fails with `f`. -/
inductive SubtreeFails : Nat → DistinguishedName → σ → Fault → Prop where
  /-- More levels than there can be. -/
  | tooDeep {name : DistinguishedName} {s : σ} :
      SubtreeFails 0 name s (.limitExceeded s!"nothing can lie below '{name}'")
  /-- The children cannot be listed. -/
  | listing {depth : Nat} {name : DistinguishedName} {s : σ} {f : Fault} :
      RequestFails .readWrite (fun session => childNames session name) s f →
      SubtreeFails (depth + 1) name s f
  /-- The subtree of a child cannot be deleted. -/
  | child {depth : Nat} {name child : DistinguishedName} {s s' s'' : σ} {f : Fault}
      {before after : List DistinguishedName} :
      requested .readWrite (fun session => childNames session name) s =
        (.ok (before ++ child :: after), s') →
      forEach (deleteSubtree depth) before s' = (.ok (), s'') →
      SubtreeFails depth child s'' f → SubtreeFails (depth + 1) name s f
  /-- The entry cannot be deleted. -/
  | deleting {depth : Nat} {name : DistinguishedName} {s s' s'' : σ} {f : Fault}
      {children : List DistinguishedName} :
      requested .readWrite (fun session => childNames session name) s = (.ok children, s') →
      forEach (deleteSubtree depth) children s' = (.ok (), s'') →
      RequestFails .readWrite (fun session => delete session name) s'' f →
      SubtreeFails (depth + 1) name s f

/-- The name of a context whose changes are to be written. -/
def nameToUpdate (c : EntryContext) : Except Fault DistinguishedName :=
  match c.name? with
  | none => .error (.illegalState "cannot modify an entry without a name")
  | some name =>
    if c.isBound then .ok name
    else .error (.illegalState s!"{name} is not bound; use bind_context to create it")

/-- `op.FailsClassified ignorePartial w f`: the operation fails with `f`, as it arose, at one of the
places where it classifies what it reports. -/
def Operation.FailsClassified (ignorePartial : Bool) {α : Type} (op : Operation σ τ α) (w : World σ τ)
    (f : Fault) : Prop :=
  match op with
  | .search query mapper hooks =>
    SearchFails ignorePartial query (query.wantsWholeEntries mapper.mapsContexts) mapper.map hooks w f
  | .searchHandling query handle hooks =>
    SearchFails ignorePartial query (query.wantsWholeEntries false) handle hooks w f
  | .searchSingle query mapper =>
    SearchFails ignorePartial query (query.wantsWholeEntries mapper.mapsContexts) mapper.map
      SearchHooks.none w f ∨
    ∃ values w', searchMapping ignorePartial query mapper SearchHooks.none w = (.ok values, w') ∧
      single? values = .error f
  | .lookup name | .lookupMapping name _ =>
    NameFails name (fun n => RequestFails .readOnly (readEntry · n []) w.server) f
  | .list name => NameFails name (fun n => RequestFails .readOnly (childNames · n) w.server) f
  | .listMapping name _ =>
    NameFails name (fun n => RequestFails .readOnly (childEntries · n) w.server) f
  | .create name attributes =>
    NameFails name (fun n => RequestFails .readWrite (DirectoryServer.add · n attributes) w.server) f
  | .replace name attributes =>
    NameFails name
      (fun n => RequestFails .readWrite (DirectoryAccess.replace · n attributes) w.server) f
  | .delete name => NameFails name (fun n => RequestFails .readWrite (DirectoryServer.delete · n) w.server) f
  | .deleteTree name recursive =>
    NameFails name (fun n f => if recursive = true then SubtreeFails (depth w.server) n w.server f
      else RequestFails .readWrite (DirectoryServer.delete · n) w.server f) f
  | .rename old new =>
    NameFails old (fun o => NameFails new
      fun n => RequestFails .readWrite (DirectoryServer.rename · o n) w.server) f
  | .change name changes =>
    NameFails name (fun n => RequestFails .readWrite (DirectoryServer.modify · n changes) w.server) f
  | .createFromContext c =>
    nameToCreate "bind" c = .error f ∨ ∃ n, nameToCreate "bind" c = .ok n ∧
      RequestFails .readWrite (DirectoryServer.add · n c.attributes) w.server f
  | .replaceFromContext c =>
    nameToCreate "rebind" c = .error f ∨ ∃ n, nameToCreate "rebind" c = .ok n ∧
      RequestFails .readWrite (DirectoryAccess.replace · n c.attributes) w.server f
  | .updateFromContext c =>
    nameToUpdate c = .error f ∨ ∃ n, nameToUpdate c = .ok n ∧
      RequestFails .readWrite (DirectoryServer.modify · n c.changes) w.server f
  | .workReadOnly work => ConnectionFails .readOnly work w f
  | .workReadWrite work => ConnectionFails .readWrite work w f
  | .authenticate start filter _ _ =>
    (∃ e, SearchQuery.make? start filter = .error e ∧ f = .ofName e) ∨
    ∃ query, SearchQuery.make? start filter = .ok query ∧
      SearchFails ignorePartial query (query.wantsWholeEntries true) identify.map
        SearchHooks.none w f

/-- `op.MappingFails w f`: the operation reads what it has to read and closes its connection, and then
the caller's mapper fails with `f`. -/
def Operation.MappingFails {α : Type} (op : Operation σ τ α) (w : World σ τ) (f : Fault) : Prop :=
  match op with
  | .lookupMapping name mapper =>
    ∃ context s, DirectoryAccess.lookup name w.server = (.ok context, s) ∧
      (mapper.map context w.caller).1 = .error f
  | .listMapping name mapper =>
    ∃ children s,
      named name (fun n => requested .readOnly fun session => childEntries session n) w.server =
        (.ok children, s) ∧
      (mapEach (fun e => mapper.map (.existing e.name (base s) e.attributes)) children
        w.caller).1 = .error f
  | _ => False

/-- `op.Fails ignorePartial w f`: the operation fails, and `f` is the fault that decided it, as it
arose. -/
def Operation.Fails (ignorePartial : Bool) (op : Operation σ τ α) (w : World σ τ) (f : Fault) : Prop :=
  op.FailsClassified ignorePartial w f ∨ op.MappingFails w f

end DirectoryAccess
