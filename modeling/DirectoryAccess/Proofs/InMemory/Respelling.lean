import DirectoryAccess.Proofs.InMemory.Alike
import DirectoryAccess.Proofs.InMemory.Trace

/-!
# Operations and the spelling of names

An operation on a directory in memory depends on the names that it is given, not on how they are spelled
(`run_respelled`): two runs with equal names have the same outcome, and the directories that they leave
differ at most in how names are spelled, in the record and in the entries that were put in. A name that
cannot be read fails the operation before anything else is done.
-/

namespace DirectoryAccess

open DirectoryServer

/-! ### The same operation with names in other spellings -/

/-- The queries differ at most in how the name of the base is spelled. -/
def SearchQuery.Alike (q q' : SearchQuery) : Prop :=
  (q.base == q'.base) = true ∧ q' = { q with base := q'.base }

section

variable {σ τ α : Type} [DirectoryServer σ]

/-- The operations are the same, but for the spelling of the names that are given along. -/
inductive Operation.Respelled : {α : Type} → Operation σ τ α → Operation σ τ α → Prop where
  /-- The base of a query is spelled in another way. -/
  | search {α : Type} {q q' : SearchQuery} (mapper : Mapper τ α) (hooks : SearchHooks σ τ) :
      q.Alike q' → Respelled (.search q mapper hooks) (.search q' mapper hooks)
  /-- The base of a query is spelled in another way. -/
  | searchHandling {q q' : SearchQuery} (handle : EntryContext → Step τ Unit)
      (hooks : SearchHooks σ τ) : q.Alike q' →
      Respelled (.searchHandling q handle hooks) (.searchHandling q' handle hooks)
  /-- The base of a query is spelled in another way. -/
  | searchSingle {α : Type} {q q' : SearchQuery} (mapper : Mapper τ α) : q.Alike q' →
      Respelled (.searchSingle q mapper) (.searchSingle q' mapper)
  /-- The name of an entry is spelled in another way. -/
  | lookup {name name' : NameInput} : name.Same name' → Respelled (.lookup name) (.lookup name')
  /-- The name of an entry is spelled in another way. -/
  | lookupMapping {α : Type} {name name' : NameInput} (mapper : Mapper τ α) : name.Same name' →
      Respelled (.lookupMapping name mapper) (.lookupMapping name' mapper)
  /-- The name of an entry is spelled in another way. -/
  | list {name name' : NameInput} : name.Same name' → Respelled (.list name) (.list name')
  /-- The name of an entry is spelled in another way. -/
  | listMapping {α : Type} {name name' : NameInput} (mapper : Mapper τ α) : name.Same name' →
      Respelled (.listMapping name mapper) (.listMapping name' mapper)
  /-- The name of an entry is spelled in another way. -/
  | create {name name' : NameInput} (a : Attributes) : name.Same name' →
      Respelled (.create name a) (.create name' a)
  /-- The name of an entry is spelled in another way. -/
  | replace {name name' : NameInput} (a : Attributes) : name.Same name' →
      Respelled (.replace name a) (.replace name' a)
  /-- The name of an entry is spelled in another way. -/
  | delete {name name' : NameInput} : name.Same name' → Respelled (.delete name) (.delete name')
  /-- The name of an entry is spelled in another way. -/
  | deleteTree {name name' : NameInput} (recursive : Bool) : name.Same name' →
      Respelled (.deleteTree name recursive) (.deleteTree name' recursive)
  /-- Both names of an entry are spelled in another way. -/
  | rename {old old' new new' : NameInput} : old.Same old' → new.Same new' →
      Respelled (.rename old new) (.rename old' new')
  /-- The name of an entry is spelled in another way. -/
  | change {name name' : NameInput} (changes : List Change) : name.Same name' →
      Respelled (.change name changes) (.change name' changes)
  /-- The base of the search for a principal is spelled in another way. -/
  | authenticate {start start' : NameInput} (filter : Filter) (credential : String)
      (work : Connection σ → Identification → Step (World σ τ) Unit) : start.Same start' →
      Respelled (.authenticate start filter credential work)
        (.authenticate start' filter credential work)

/-- The names that the operation is given and that may have to be read. -/
def Operation.names {α : Type} (op : Operation σ τ α) : List NameInput :=
  match op with
  | .lookup name | .lookupMapping name _ | .list name | .listMapping name _ | .create name _
  | .replace name _ | .delete name | .deleteTree name _ | .change name _
  | .authenticate name _ _ _ => [name]
  | .rename old new => [old, new]
  | _ => []

end

namespace InMemory

variable {τ α : Type} {d d' : Directory} {name name' : NameInput}

/-! ### Functions of the caller -/

/-- The step does the same on twins: it does not look at how names are spelled in the record. -/
def Blind (step : Step (World Directory τ) α) : Prop := Agree (OfWorld Twin) (OfWorld Twin) step step

/-- Who makes requests and sees nothing but their answers is blind. -/
theorem blind_of_converses {work : Connection Directory → Step (World Directory τ) α}
    (h : Converses work) (c : Connection Directory) : Blind (work c) := by
  obtain ⟨start, hstart⟩ := h
  intro w w' hw
  rw [hstart, hstart, hw.caller]
  exact agree_run _ c.session hw.server

/-- Functions of the caller that are given a connection are blind. -/
def CallerBlind {α : Type} (op : Operation Directory τ α) : Prop :=
  match op with
  | .search _ _ hooks | .searchHandling _ _ hooks =>
    ∀ c, Blind (hooks.before c) ∧ Blind (hooks.after c)
  | .authenticate _ _ _ work => ∀ c entry, Blind (work c entry)
  | _ => True

/-! ### Searches -/

theorem searchOn_same {r r' : SearchRequest} (h : r.Alike r') (ignorePartial : Bool)
    (c : Connection Directory) (visit : EntryContext → Step τ α) {w w' : World Directory τ}
    (hw : OfWorld Twin w w') :
    SameRun (OfWorld Twin) (searchOn ignorePartial c r visit w) (searchOn ignorePartial c r' visit w') := by
  have hbase : DirectoryServer.base w.server = DirectoryServer.base w'.server := by
    exact hw.server.alike.base
  obtain ⟨houtcome, hstate⟩ := searchEach_same h c.session
    (fun e => visit (.existing e.name (DirectoryServer.base w'.server) e.attributes)) hw
  rw [searchOn, searchOn, hbase]
  dsimp only
  rw [houtcome]
  exact ⟨rfl, hstate⟩

theorem agree_searchWork {q q' : SearchQuery} (h : q.Alike q') (ignorePartial wholeEntries : Bool)
    (visit : EntryContext → Step τ α) {hooks : SearchHooks Directory τ} {c : Connection Directory}
    (hhooks : Blind (hooks.before c) ∧ Blind (hooks.after c)) :
    Agree (OfWorld Twin) (OfWorld Twin) (searchWork ignorePartial q wholeEntries visit hooks c)
      (searchWork ignorePartial q' wholeEntries visit hooks c) := by
  intro w w' hw
  have halike : (SearchRequest.ofQuery q wholeEntries).Alike (.ofQuery q' wholeEntries) := by
    refine ⟨h.1, ?_⟩
    rw [h.2]
    rfl
  rw [searchWork, searchWork]
  obtain ⟨fault, u, u', hrun, hrun', hu⟩ | ⟨_, u, u', hrun, hrun', hu⟩ := hhooks.1.cases hw <;>
    rw [hrun, hrun']
  · exact ⟨rfl, hu⟩
  · obtain ⟨hfound, hstate⟩ := searchOn_same halike ignorePartial c visit hu
    rcases hon : searchOn ignorePartial c (.ofQuery q wholeEntries) visit u with ⟨found, v⟩
    rcases hon' : searchOn ignorePartial c (.ofQuery q' wholeEntries) visit u' with ⟨found', v'⟩
    rw [hon, hon'] at hfound hstate
    obtain rfl : found = found' := hfound
    obtain ⟨fault, v₁, v₁', hafter, hafter', hv₁⟩ | ⟨_, v₁, v₁', hafter, hafter', hv₁⟩ :=
      hhooks.2.cases hstate <;> simp only [hon, hon', hafter, hafter']
    · exact ⟨rfl, hv₁⟩
    · exact ⟨rfl, hv₁⟩

theorem agree_searchVisiting {q q' : SearchQuery} (h : q.Alike q') (ignorePartial wholeEntries : Bool)
    (visit : EntryContext → Step τ α) {hooks : SearchHooks Directory τ}
    (hhooks : ∀ c, Blind (hooks.before c) ∧ Blind (hooks.after c)) :
    Agree (OfWorld Twin) (OfWorld Twin) (searchVisiting ignorePartial q wholeEntries visit hooks)
      (searchVisiting ignorePartial q' wholeEntries visit hooks) := by
  rw [searchVisiting_eq, searchVisiting_eq]
  exact agree_connected _ records_twin fun c =>
    agree_searchWork h ignorePartial wholeEntries visit (hhooks c)

theorem blind_none (c : Connection Directory) :
    Blind ((SearchHooks.none : SearchHooks Directory τ).before c) ∧
      Blind ((SearchHooks.none : SearchHooks Directory τ).after c) :=
  ⟨fun _ _ hw => ⟨rfl, hw⟩, fun _ _ hw => ⟨rfl, hw⟩⟩

theorem agree_searchMapping {q q' : SearchQuery} (h : q.Alike q') (ignorePartial : Bool)
    (mapper : Mapper τ α) {hooks : SearchHooks Directory τ}
    (hhooks : ∀ c, Blind (hooks.before c) ∧ Blind (hooks.after c)) :
    Agree (OfWorld Twin) (OfWorld Twin) (searchMapping ignorePartial q mapper hooks)
      (searchMapping ignorePartial q' mapper hooks) := by
  have hwhole : q.wantsWholeEntries mapper.mapsContexts = q'.wantsWholeEntries mapper.mapsContexts := by
    rw [h.2]
    rfl
  rw [searchMapping, searchMapping, hwhole]
  exact agree_searchVisiting h ignorePartial _ mapper.map hhooks

theorem agree_searchHandling {q q' : SearchQuery} (h : q.Alike q') (ignorePartial : Bool)
    (handle : EntryContext → Step τ Unit) {hooks : SearchHooks Directory τ}
    (hhooks : ∀ c, Blind (hooks.before c) ∧ Blind (hooks.after c)) :
    Agree (OfWorld Twin) (OfWorld Twin) (searchHandling ignorePartial q handle hooks)
      (searchHandling ignorePartial q' handle hooks) := by
  intro w w' hw
  have hwhole : q.wantsWholeEntries false = q'.wantsWholeEntries false := by
    rw [h.2]
    rfl
  rw [searchHandling, searchHandling, hwhole]
  exact (agree_searchVisiting h ignorePartial _ handle hhooks hw).map (Except.map fun _ => ())

theorem agree_searchSingle {q q' : SearchQuery} (h : q.Alike q') (ignorePartial : Bool)
    (mapper : Mapper τ α) :
    Agree (OfWorld Twin) (OfWorld Twin) (searchSingle ignorePartial q mapper)
      (searchSingle ignorePartial q' mapper) :=
  fun _ _ hw => (agree_searchMapping h ignorePartial mapper blind_none hw).map (Except.bind · single?)

/-! ### Readings -/

theorem agree_lookup (h : name.Same name') :
    Agree Twin Twin (DirectoryAccess.lookup name) (DirectoryAccess.lookup name') := by
  refine agree_named (fun n n' heq => ?_) h
  have hread := agree_requested .readOnly records_twin fun session =>
    agree_readEntry heq session []
  intro d d' hd
  have hbase : DirectoryServer.base (requested .readOnly (fun session => readEntry session n []) d).2 =
      DirectoryServer.base (requested .readOnly (fun session => readEntry session n' []) d').2 := by
    exact (hread hd).state.alike.base
  dsimp only
  rw [hbase]
  exact (hread hd).map (Except.map fun e => EntryContext.existing e.name _ e.attributes)

theorem agree_lookupMapping (h : name.Same name') (mapper : Mapper τ α) :
    Agree (OfWorld Twin) (OfWorld Twin) (lookupMapping name mapper) (lookupMapping name' mapper) := by
  intro w w' hw
  rw [lookupMapping, lookupMapping]
  obtain ⟨fault, d, d', hrun, hrun', hd⟩ | ⟨context, d, d', hrun, hrun', hd⟩ :=
    (agree_lookup h).cases hw.server <;> rw [hrun, hrun', hw.caller]
  · exact ⟨rfl, hd, rfl⟩
  · exact ⟨rfl, hd, rfl⟩

theorem agree_list (h : name.Same name') :
    Agree Twin Twin (DirectoryAccess.list name) (DirectoryAccess.list name') := by
  refine agree_named (fun n n' heq => ?_) h
  have hread := agree_requested .readOnly records_twin fun session =>
    agree_childNames heq session
  have hrelative (m : DistinguishedName) : m.relativeTo? n = m.relativeTo? n' :=
    DistinguishedName.relativeTo?_congr (DistinguishedName.beq_iff_key_eq.1 heq)
  intro d d' hd
  simp only [hrelative]
  exact (hread hd).map (Except.map (List.filterMap (·.relativeTo? n')))

theorem agree_listMapping (h : name.Same name') (mapper : Mapper τ α) :
    Agree (OfWorld Twin) (OfWorld Twin) (listMapping name mapper) (listMapping name' mapper) := by
  have hread : Agree Twin Twin
      (named name fun n => requested .readOnly fun session => childEntries (σ := Directory) session n)
      (named name' fun n => requested .readOnly fun session => childEntries session n) :=
    agree_named (fun _ _ heq => agree_requested _ records_twin (agree_childEntries heq)) h
  intro w w' hw
  rw [listMapping, listMapping]
  obtain ⟨fault, d, d', hrun, hrun', hd⟩ | ⟨children, d, d', hrun, hrun', hd⟩ :=
    hread.cases hw.server <;> rw [hrun, hrun', hw.caller]
  · exact ⟨rfl, hd, rfl⟩
  · have hbase : DirectoryServer.base d = DirectoryServer.base d' := hd.alike.base
    dsimp only
    rw [hbase]
    exact ⟨rfl, hd, rfl⟩

/-! ### Writes -/

/-- A write on a connection of its own leaves directories that are alike. -/
theorem agree_write {request : DistinguishedName → DirectoryServer.Session Directory → Step Directory Unit}
    (h : ∀ n n', (n == n') = true → ∀ session,
      Agree Twin Directory.Alike (request n session) (request n' session)) (hname : name.Same name') :
    Agree Twin Directory.Alike (named name fun n => requested .readWrite (request n))
      (named name' fun n => requested .readWrite (request n)) :=
  agree_named (fun n n' heq => agree_requested _ records_alike (h n n' heq)) hname

theorem agree_renameEntry {old old' new new' : NameInput} (hold : old.Same old') (hnew : new.Same new') :
    Agree Twin Directory.Alike (renameEntry (σ := Directory) old new) (renameEntry old' new') :=
  agree_named (fun _ _ ho => agree_named (fun _ _ hn => agree_requested _ records_alike fun _ =>
    agree_rename ho (tolerates_alike hn)) hnew) hold

theorem agree_deleteEntry (h : name.Same name') :
    Agree Twin Twin (deleteEntry (σ := Directory) name) (deleteEntry name') :=
  agree_named (fun _ _ heq => agree_requested _ records_twin fun _ => agree_delete heq) h

theorem agree_forEach {β : Type} {f : β → Step Directory Unit} (h : ∀ b, Agree Twin Twin (f b) (f b))
    (l : List β) : Agree Twin Twin (forEach f l) (forEach f l) := by
  induction l with
  | nil => exact fun _ _ hd => ⟨rfl, hd⟩
  | cons b rest ih =>
    intro d d' hd
    rw [forEach, forEach]
    obtain ⟨fault, d₁, d₁', hrun, hrun', hd₁⟩ | ⟨_, d₁, d₁', hrun, hrun', hd₁⟩ := (h b).cases hd <;>
      rw [hrun, hrun']
    · exact ⟨rfl, hd₁⟩
    · exact ih hd₁

theorem same_name {n n' : DistinguishedName} (h : (n == n') = true) :
    NameInput.Same (.name n) (.name n') :=
  ⟨n, n', rfl, rfl, h⟩

/-- The children are listed under the names that they are kept under, so that from there on the two
deletions of a subtree are the same. -/
theorem agree_deleteSubtree (depth : Nat) {n n' : DistinguishedName} (heq : (n == n') = true) :
    Agree Twin Twin (deleteSubtree (σ := Directory) depth n) (deleteSubtree depth n') := by
  induction depth generalizing n n' with
  | zero =>
    intro d d' hd
    rw [deleteSubtree, deleteSubtree, (DistinguishedName.beq_iff_toString_eq n n').1 heq]
    exact ⟨rfl, hd⟩
  | succ depth ih =>
    have hlist := agree_requested .readWrite records_twin fun session =>
      agree_childNames heq session
    have hrun := agree_forEach fun m => ih (DistinguishedName.beq_self m)
    intro d d' hd
    rw [deleteSubtree, deleteSubtree]
    obtain ⟨fault, d₁, d₁', hl, hl', hd₁⟩ | ⟨children, d₁, d₁', hl, hl', hd₁⟩ := hlist.cases hd <;>
      simp only [hl, hl']
    · exact ⟨rfl, hd₁⟩
    · obtain ⟨fault, d₂, d₂', hr, hr', hd₂⟩ | ⟨_, d₂, d₂', hr, hr', hd₂⟩ :=
        (hrun children).cases hd₁ <;> simp only [hr, hr']
      · exact ⟨rfl, hd₂⟩
      · exact agree_deleteEntry (same_name heq) hd₂

theorem agree_deleteTree (h : name.Same name') (recursive : Bool) :
    Agree Twin Twin (deleteTree (σ := Directory) name recursive) (deleteTree name' recursive) := by
  refine agree_named (fun n n' heq => ?_) h
  cases recursive with
  | false => exact agree_deleteEntry (same_name heq)
  | true =>
    intro d d' hd
    have hdepth : DirectoryServer.depth d = DirectoryServer.depth d' := by
      obtain ⟨-⟩ := hd
      rfl
    dsimp only
    rw [hdepth]
    exact agree_deleteSubtree _ heq hd

/-! ### Authentications -/

theorem agree_verify {work : Connection Directory → Identification → Step (World Directory τ) Unit}
    (hwork : ∀ c entry, Blind (work c entry)) (credential : String) (entry : Identification)
    {w w' : World Directory τ} (hw : OfWorld Twin w w') :
    SameRun (OfWorld Twin) (verify credential work entry w) (verify credential work entry w') := by
  rw [verify, verify, server_connect_eq, server_connect_eq]
  obtain ⟨fault, d₁, d₁', hrun, hrun', hd₁⟩ | ⟨session, d₁, d₁', hrun, hrun', hd₁⟩ :=
    (agree_connect (.authenticated entry.absolute credential)).cases hw.server <;> rw [hrun, hrun']
  · exact ⟨rfl, hd₁, hw.caller⟩
  · have hopened : OfWorld Twin { w with server := d₁ } { w' with server := d₁' } := ⟨hd₁, hw.caller⟩
    obtain ⟨houtcome, hstate⟩ := hwork ⟨session, .authenticated⟩ entry hopened
    dsimp only
    rw [houtcome]
    exact ⟨rfl, hstate.server.record (.release session), hstate.caller⟩

theorem make?_same {start start' : NameInput} (h : start.Same start') (filter : Filter) :
    ∃ q q', SearchQuery.make? start filter = .ok q ∧ SearchQuery.make? start' filter = .ok q' ∧
      q.Alike q' := by
  obtain ⟨n, n', hn, hn', heq⟩ := h
  refine ⟨{ base := n, filter }, { base := n', filter }, ?_, ?_, heq, rfl⟩
  · rw [SearchQuery.make?, hn]
    rfl
  · rw [SearchQuery.make?, hn']
    rfl

theorem agree_authenticate {start start' : NameInput} (h : start.Same start') (ignorePartial : Bool)
    (filter : Filter) (credential : String)
    {work : Connection Directory → Identification → Step (World Directory τ) Unit}
    (hwork : ∀ c entry, Blind (work c entry)) :
    Agree (OfWorld Twin) (OfWorld Twin) (authenticate ignorePartial start filter credential work)
      (authenticate ignorePartial start' filter credential work) := by
  obtain ⟨q, q', hq, hq', halike⟩ := make?_same h filter
  intro w w' hw
  rw [authenticate, authenticate, hq, hq']
  dsimp only
  obtain ⟨fault, u, u', hrun, hrun', hu⟩ | ⟨found, u, u', hrun, hrun', hu⟩ :=
    (agree_searchMapping halike ignorePartial identify blind_none).cases hw <;> rw [hrun, hrun']
  · exact ⟨rfl, hu⟩
  · obtain _ | ⟨entry, _ | ⟨_, _⟩⟩ := found
    · exact ⟨rfl, hu⟩
    · obtain ⟨houtcome, hstate⟩ := agree_verify hwork credential entry hu
      dsimp only
      rw [houtcome]
      exact ⟨rfl, hstate⟩
    · exact ⟨rfl, hu⟩

/-! ### Every operation -/

theorem alike_of_twin ⦃w w' : World Directory τ⦄ (h : OfWorld Twin w w') :
    OfWorld Directory.Alike w w' :=
  ⟨h.server.alike, h.caller⟩

/-- Operations that differ in the spelling of names agree. -/
theorem agree_respelled {op op' : Operation Directory τ α} (h : op.Respelled op')
    (hblind : CallerBlind op) (ignorePartial : Bool) :
    Agree (OfWorld Twin) (OfWorld Directory.Alike) (op.run ignorePartial) (op'.run ignorePartial) := by
  cases h with
  | search mapper hooks hq =>
    exact (agree_searchMapping hq ignorePartial mapper hblind).mono alike_of_twin
  | searchHandling handle hooks hq =>
    exact (agree_searchHandling hq ignorePartial handle hblind).mono alike_of_twin
  | searchSingle mapper hq => exact (agree_searchSingle hq ignorePartial mapper).mono alike_of_twin
  | lookup hname => exact (agree_onServer (agree_lookup hname)).mono alike_of_twin
  | lookupMapping mapper hname => exact (agree_lookupMapping hname mapper).mono alike_of_twin
  | list hname => exact (agree_onServer (agree_list hname)).mono alike_of_twin
  | listMapping mapper hname => exact (agree_listMapping hname mapper).mono alike_of_twin
  | create a hname =>
    exact agree_onServer (agree_write (fun _ _ heq _ => agree_add (tolerates_alike heq) a) hname)
  | replace a hname =>
    exact agree_onServer
      (agree_write (fun _ _ heq session => agree_replace (tolerates_alike heq) session a) hname)
  | delete hname => exact (agree_onServer (agree_deleteEntry hname)).mono alike_of_twin
  | deleteTree recursive hname =>
    exact (agree_onServer (agree_deleteTree hname recursive)).mono alike_of_twin
  | rename hold hnew => exact agree_onServer (agree_renameEntry hold hnew)
  | change changes hname =>
    exact agree_onServer
      (agree_write (fun _ _ heq _ => agree_modify (tolerates_alike heq) changes) hname)
  | authenticate filter credential work hstart =>
    exact (agree_authenticate hstart ignorePartial filter credential hblind).mono alike_of_twin

/-! ### Names that cannot be read -/

section

variable {σ : Type} [DirectoryServer σ] {e : NameError}

omit [DirectoryServer σ] in
theorem named_of_malformed (h : name.resolve = .error e) (operation : DistinguishedName → Step σ α)
    (s : σ) : named name operation s = (.error (.ofName e), s) := by
  rw [named, h]

omit [DirectoryServer σ] in
theorem onServer_of_error {step : Step σ α} {fault : Fault} {w : World σ τ}
    (h : step w.server = (.error fault, w.server)) : onServer step w = (.error fault, w) := by
  rw [onServer, h]

/-- An operation fails over the first of its names that cannot be read, and does nothing. -/
theorem run_of_malformed (ignorePartial : Bool) {op : Operation σ τ α}
    (h : ∃ name ∈ op.names, ∃ e, name.resolve = .error e) (w : World σ τ) :
    ∃ name ∈ op.names, ∃ e, name.resolve = .error e ∧
      op.run ignorePartial w = (.error (.ofName e), w) := by
  obtain ⟨name, hname, e, he⟩ := h
  cases op with
  | lookup | list | create | replace | delete | deleteTree | change =>
    obtain rfl := List.mem_singleton.1 hname
    refine ⟨name, hname, e, he, ?_⟩
    rw [Operation.run]
    exact onServer_of_error (named_of_malformed he _ _)
  | rename old new =>
    cases hold : old.resolve with
    | error e' =>
      exact ⟨old, List.mem_cons_self, e', hold, onServer_of_error (named_of_malformed hold _ _)⟩
    | ok o =>
      obtain rfl | hnew := List.mem_cons.1 hname
      · cases hold.symm.trans he
      · obtain rfl := List.mem_singleton.1 hnew
        refine ⟨name, hname, e, he, ?_⟩
        have hrename : renameEntry old name w.server = (.error (.ofName e), w.server) := by
          rw [renameEntry, named, hold]
          exact named_of_malformed he _ _
        exact onServer_of_error hrename
  | lookupMapping name' mapper =>
    obtain rfl := List.mem_singleton.1 hname
    have hlookup : DirectoryAccess.lookup name w.server = (.error (.ofName e), w.server) :=
      named_of_malformed he _ _
    refine ⟨name, hname, e, he, ?_⟩
    rw [Operation.run, lookupMapping, hlookup]
  | listMapping name' mapper =>
    obtain rfl := List.mem_singleton.1 hname
    refine ⟨name, hname, e, he, ?_⟩
    rw [Operation.run, listMapping, named_of_malformed he]
  | authenticate start filter credential work =>
    obtain rfl := List.mem_singleton.1 hname
    refine ⟨name, hname, e, he, ?_⟩
    rw [Operation.run, authenticate, SearchQuery.make?, he]
    rfl
  | _ => cases hname

end

/-- **Operations depend on names and not on their spelling.** Two runs of an operation on a directory,
however it has been told to fail, with names that are equal but spelled in different ways, have the same
outcome and leave the caller in the same state, and what they leave of the directory differs at most in
how names are spelled. This includes queries: from two spellings of a name queries are made that differ in
the spelling of their base only. If a name cannot be read, the operation fails with that and does nothing,
and no query is made. -/
theorem run_respelled (ignorePartial : Bool) (w : World Directory τ) :
    (∀ {α : Type} {op op' : Operation Directory τ α}, op.Respelled op' → CallerBlind op →
      SameRun (OfWorld Directory.Alike) (op.run ignorePartial w) (op'.run ignorePartial w)) ∧
    (∀ {α : Type} {op : Operation Directory τ α}, (∃ name ∈ op.names, ∃ e, name.resolve = .error e) →
      ∃ name ∈ op.names, ∃ e, name.resolve = .error e ∧
        op.run ignorePartial w = (.error (.ofName e), w)) ∧
    (∀ {start start' : NameInput} (filter : Filter), start.Same start' →
      ∃ q q', SearchQuery.make? start filter = .ok q ∧ SearchQuery.make? start' filter = .ok q' ∧
        q.Alike q') ∧
    ∀ {start : NameInput} {e : NameError} (filter : Filter), start.resolve = .error e →
      SearchQuery.make? start filter = .error e := by
  refine ⟨fun h hblind => ?_, fun h => run_of_malformed ignorePartial h w,
    fun filter h => make?_same h filter, fun filter h => ?_⟩
  · exact agree_respelled h hblind ignorePartial ⟨Twin.refl w.server, rfl⟩
  · rw [SearchQuery.make?, h]
    rfl

/-- A search below a name, with a hook after it that lists what is below the root. -/
def searchBelow (n : DistinguishedName) : Operation Directory Unit (List Attributes) :=
  .search { base := n, filter := .raw "(cn=*)" } (.ofAttributes fun a t => (.ok a, t))
    { before := SearchHooks.none.before
      after := fun c w =>
        (Conversation.ask (.list .root) fun answer =>
          .finish (answer.map fun _ => ()) w.caller).run c.session w.server }

/-- The country with its attribute type in a capital letter. -/
def capitalSweden : DistinguishedName := ⟨[⟨⟨"C", "Sweden", by decide⟩, []⟩]⟩

/-- The company in the country, with its attribute type in capital letters. -/
def capitalCompany : DistinguishedName := capitalSweden.child ⟨⟨"OU", "Company", by decide⟩, []⟩

theorem sweden_beq_capitalSweden : (sweden == capitalSweden) = true := by
  simp [DistinguishedName.beq_iff_key_eq, DistinguishedName.key, DistinguishedName.fold, sweden,
    capitalSweden, RelativeName.fold, RelativeName.parts, NamePart.fold, String.toLower,
    ← String.toList_inj]

theorem company_beq_capitalCompany : (company == capitalCompany) = true := by
  simp [DistinguishedName.beq_iff_key_eq, DistinguishedName.key, DistinguishedName.fold, company,
    sweden, capitalCompany, capitalSweden, DistinguishedName.child, RelativeName.fold,
    RelativeName.parts, NamePart.fold, String.toLower, ← String.toList_inj]

/-- The country can be searched just so under its other name. The company can be moved into another
country under its other name, but not under a name that cannot be read. -/
theorem run_respelled_countries :
    (searchBelow sweden).Respelled (searchBelow capitalSweden) ∧
    CallerBlind (searchBelow sweden) ∧
    SameRun (OfWorld Directory.Alike) ((searchBelow sweden).run false ⟨countries, ()⟩)
      ((searchBelow capitalSweden).run false ⟨countries, ()⟩) ∧
    SameRun (OfWorld Directory.Alike)
      ((Operation.rename (.name company) (.name finland)).run false
        (⟨countries, ()⟩ : World Directory Unit))
      ((Operation.rename (.text "OU=\"Company\" ; C = Sweden") (.text " c = Finland")).run false
        ⟨countries, ()⟩) ∧
    ∃ e, (Operation.rename (.name company) (.text "Finland")).run false
      (⟨countries, ()⟩ : World Directory Unit) = (.error (.ofName e), ⟨countries, ()⟩) := by
  obtain ⟨hsame, hmalformed, -⟩ := run_respelled false (⟨countries, ()⟩ : World Directory Unit)
  have hsearch : (searchBelow sweden).Respelled (searchBelow capitalSweden) :=
    .search _ _ ⟨sweden_beq_capitalSweden, rfl⟩
  have hblind : CallerBlind (searchBelow sweden) := fun c =>
    ⟨(blind_none c).1, blind_of_converses
      ⟨fun _ t => .ask (.list .root) fun answer => .finish (answer.map fun _ => ()) t, fun _ _ => rfl⟩ c⟩
  have hcompany : NameInput.Same (.name company) (.text "OU=\"Company\" ; C = Sweden") :=
    ⟨company, capitalCompany, rfl, by decide +kernel, company_beq_capitalCompany⟩
  have hfinland : NameInput.Same (.name finland) (.text " c = Finland") :=
    ⟨finland, finland, rfl, by decide +kernel, DistinguishedName.beq_self finland⟩
  have hunread : ∃ name ∈ (Operation.rename (.name company) (.text "Finland") :
      Operation Directory Unit Unit).names, ∃ e, name.resolve = .error e :=
    ⟨.text "Finland", List.mem_cons_of_mem _ List.mem_cons_self, .missingEquals "Finland".toList,
      by decide +kernel⟩
  refine ⟨hsearch, hblind, hsame hsearch hblind, hsame (.rename hcompany hfinland) trivial, ?_⟩
  obtain ⟨-, -, e, -, hrun⟩ := hmalformed hunread
  exact ⟨e, hrun⟩

end InMemory

end DirectoryAccess
