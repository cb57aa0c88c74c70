import DirectoryAccess.InMemory.Directory
import DirectoryAccess.Proofs.Operation.Faults
import Mathlib.Control.Monad.Basic

/-!
# What operations report

A fault is reported classified, so that no raw one leaves an operation, with one exception: a mapper
that runs after the connection has been closed. `translated_iff` says that this is the only exception.
-/

namespace DirectoryAccess

open DirectoryServer

variable {σ τ α : Type} [DirectoryServer σ]

/-! ### What is reported of a part of an operation -/

/-- The faults of a step are those that `fails` names, classified. -/
def Reports (outcome : Except Fault α) (fails : Fault → Prop) : Prop :=
  ∀ e, outcome = .error e ↔ ∃ f, fails f ∧ f.classify = e

theorem Reports.map {β : Type} {outcome : Except Fault α} {fails : Fault → Prop}
    (h : Reports outcome fails) (g : α → β) : Reports (outcome.map g) fails := by
  intro e
  rw [← h e]
  cases outcome <;> simp [Except.map]

theorem Reports.congr {outcome : Except Fault α} {fails fails' : Fault → Prop}
    (h : Reports outcome fails) (hfails : ∀ f, fails' f ↔ fails f) : Reports outcome fails' := by
  intro e
  rw [h e]
  simp only [hfails]

theorem reports_connected (access : Access) (work : Connection σ → Step (World σ τ) α)
    (w : World σ τ) : Reports (connected access work w).1 (ConnectionFails access work w) := by
  intro e
  rw [connected]
  rcases hc : connect access w.server with ⟨fault | session, s⟩
  · constructor
    · intro h
      exact ⟨fault, .opening hc, Except.error.inj h⟩
    · rintro ⟨f, ⟨hf⟩ | ⟨hf, -⟩, rfl⟩
      · rw [hc] at hf; cases hf; rfl
      · rw [hc] at hf; cases hf
  · dsimp only
    rcases hw : work ⟨session, access.mode⟩ { w with server := s } with ⟨fault | a, w'⟩
    · constructor
      · intro h
        exact ⟨fault, .working hc hw, Except.error.inj h⟩
      · rintro ⟨f, ⟨hf⟩ | ⟨hf, hg⟩, rfl⟩
        · rw [hc] at hf; cases hf
        · rw [hc] at hf; cases hf
          rw [hw] at hg; cases hg; rfl
    · constructor
      · intro h; cases h
      · rintro ⟨f, ⟨hf⟩ | ⟨hf, hg⟩, rfl⟩
        · rw [hc] at hf; cases hf
        · rw [hc] at hf; cases hf
          rw [hw] at hg; cases hg

theorem reports_requested (access : Access) (request : Session σ → Step σ α) (s : σ) :
    Reports (requested access request s).1 (RequestFails access request s) :=
  reports_connected access (fun c => onServer (request c.session)) (⟨s, ()⟩ : World σ Unit)

omit [DirectoryServer σ] in
theorem reports_named {name : NameInput} {operation : DistinguishedName → Step σ α} {s : σ}
    {fails : DistinguishedName → Fault → Prop} (h : ∀ n, Reports (operation n s).1 (fails n)) :
    Reports (named name operation s).1 (NameFails name fails) := by
  intro e
  rw [named]
  cases hn : name.resolve with
  | error e' =>
    constructor
    · intro h
      exact ⟨_, .reading hn, Except.error.inj h⟩
    · rintro ⟨f, ⟨hf⟩ | ⟨hf, -⟩, rfl⟩
      · rw [hn] at hf; cases hf; rfl
      · rw [hn] at hf; cases hf
  | ok n =>
    dsimp only
    rw [h n e]
    constructor
    · rintro ⟨f, hf, he⟩
      exact ⟨f, .after hn hf, he⟩
    · rintro ⟨f, ⟨hf⟩ | ⟨hf, hg⟩, he⟩
      · rw [hn] at hf; cases hf
      · rw [hn] at hf; cases hf
        exact ⟨f, hg, he⟩

theorem reports_request (name : NameInput) (access : Access)
    (request : DistinguishedName → Session σ → Step σ α) (s : σ) :
    Reports (named name (fun n => requested access (request n)) s).1
      (NameFails name fun n => RequestFails access (request n) s) :=
  reports_named fun n => reports_requested access (request n) s

theorem reports_renameEntry (old new : NameInput) (s : σ) :
    Reports (renameEntry old new s).1 (NameFails old fun o => NameFails new
      fun n => RequestFails .readWrite (DirectoryServer.rename · o n) s) :=
  reports_named fun o => reports_request new .readWrite (fun n => (DirectoryServer.rename · o n)) s

/-! ### Searches -/

theorem firstFault_eq_error_iff {a : Except Fault Unit} {b : Except Fault α} {f : Fault} :
    firstFault a b = .error f ↔ a = .error f ∨ a = .ok () ∧ b = .error f := by
  cases a <;> simp [firstFault]

theorem acceptPartial_eq_error_iff {ignorePartial : Bool} {outcome : Except Fault Unit} {e : Fault} :
    acceptPartial ignorePartial (outcome.mapError Fault.classify) = .error e ↔
      ∃ f, outcome = .error f ∧ ¬Accepted ignorePartial f ∧ f.classify = e := by
  cases outcome with
  | ok u => simp [acceptPartial, Except.mapError]
  | error f =>
    simp only [Except.mapError, Except.error.injEq, exists_eq_left', Accepted]
    by_cases hp : ∃ text, f.classify = .partialResult text
    · obtain ⟨text, hp⟩ := hp
      cases ignorePartial <;> simp [acceptPartial, hp]
    · rw [acceptPartial.eq_2 _ _ fun text h => hp ⟨text, Except.error.inj h⟩]
      simp [hp]

/-- A search on a connection reports a fault of reading only if the caller does not accept it. -/
theorem searchOn_eq_error_iff {ignorePartial : Bool} {c : Connection σ} {request : SearchRequest}
    {visit : EntryContext → Step τ α} {w : World σ τ} {e : Fault} :
    (searchOn ignorePartial c request visit w).1.2 = .error e ↔
      ∃ f, (searchEach c.session request
        (fun e => visit (.existing e.name (base w.server) e.attributes)) w).1.outcome = .error f ∧
        ¬Accepted ignorePartial f ∧ f.classify = e :=
  acceptPartial_eq_error_iff

theorem searchWork_eq_error_iff {ignorePartial : Bool} {query : SearchQuery} {wholeEntries : Bool}
    {visit : EntryContext → Step τ α} {hooks : SearchHooks σ τ} {c : Connection σ} {w : World σ τ}
    {g : Fault} :
    (searchWork ignorePartial query wholeEntries visit hooks c w).1 = .error g ↔
      (hooks.before c w).1 = .error g ∨
      ∃ u, hooks.before c w = (.ok (), u) ∧
        ((searchOn ignorePartial c (.ofQuery query wholeEntries) visit u).1.2 = .error g ∨
          ∃ values v, searchOn ignorePartial c (.ofQuery query wholeEntries) visit u =
            ((values, .ok ()), v) ∧ (hooks.after c v).1 = .error g) := by
  rw [searchWork]
  rcases hb : hooks.before c w with ⟨fault | _, u⟩
  · simp
  · rcases hs : searchOn ignorePartial c (.ofQuery query wholeEntries) visit u with
      ⟨⟨values, outcome⟩, v⟩
    rcases ha : hooks.after c v with ⟨after, v'⟩
    have hmap : (after.map fun _ => values) = .error g ↔ after = .error g := by
      cases after <;> simp [Except.map]
    simp only [hs, ha, firstFault_eq_error_iff, hmap, Prod.mk.injEq, reduceCtorEq, false_or, true_and,
      exists_eq_left']
    constructor
    · rintro (h | ⟨rfl, h⟩)
      · exact .inl h
      · exact .inr ⟨values, v, ⟨⟨rfl, rfl⟩, rfl⟩, by rw [ha]; exact h⟩
    · rintro (h | ⟨values', v', ⟨⟨rfl, rfl⟩, rfl⟩, h⟩)
      · exact .inl h
      · rw [ha] at h
        exact .inr ⟨rfl, h⟩

theorem reports_searchVisiting (ignorePartial : Bool) (query : SearchQuery) (wholeEntries : Bool)
    (visit : EntryContext → Step τ α) (hooks : SearchHooks σ τ) (w : World σ τ) :
    Reports (searchVisiting ignorePartial query wholeEntries visit hooks w).1
      (SearchFails ignorePartial query wholeEntries visit hooks w) := by
  intro e
  rw [searchVisiting_eq, reports_connected]
  constructor
  · rintro ⟨f, hopen | ⟨hopen, hwork⟩, rfl⟩
    · exact ⟨f, .opening hopen, rfl⟩
    · rename_i session s w'
      have hg := searchWork_eq_error_iff.1 (congrArg Prod.fst hwork)
      rcases hg with hb | ⟨u, hb, hs | ⟨values, v, hs, ha⟩⟩
      · exact ⟨f, .before hopen (Prod.ext hb rfl), rfl⟩
      · obtain ⟨f', hread, hacc, rfl⟩ := searchOn_eq_error_iff.1 hs
        exact ⟨f', .reading hopen hb hread hacc, (classify_classify f').symm⟩
      · exact ⟨f, .after hopen hb hs (Prod.ext ha rfl), rfl⟩
  · -- a fault of reading has been classified once already when it leaves the search
    have hwork : ∀ {session s g}, connect .readOnly w.server = (.ok session, s) →
        (searchWork ignorePartial query wholeEntries visit hooks ⟨session, .readOnly⟩
          { w with server := s }).1 = .error g →
        ConnectionFails .readOnly (searchWork ignorePartial query wholeEntries visit hooks) w g :=
      fun hopen hg => .working hopen (Prod.ext hg rfl)
    rintro ⟨f, hopen | ⟨hopen, hb⟩ | ⟨hopen, hb, hread, hacc⟩ | ⟨hopen, hb, hs, ha⟩, rfl⟩
    · exact ⟨f, .opening hopen, rfl⟩
    · exact ⟨f, hwork hopen (searchWork_eq_error_iff.2 (.inl (congrArg Prod.fst hb))), rfl⟩
    · refine ⟨f.classify, hwork hopen (searchWork_eq_error_iff.2 (.inr ⟨_, hb, .inl ?_⟩)),
        classify_classify f⟩
      exact searchOn_eq_error_iff.2 ⟨f, hread, hacc, rfl⟩
    · refine ⟨f, hwork hopen (searchWork_eq_error_iff.2 (.inr ⟨_, hb, .inr ?_⟩)), rfl⟩
      exact ⟨_, _, hs, congrArg Prod.fst ha⟩

/-! ### Deletions of subtrees -/

omit [DirectoryServer σ] in
/-- A run over a list fails at the first element that it fails on. -/
theorem forEach_eq_error_iff {f : α → Step σ Unit} {l : List α} {s : σ} {e : Fault} :
    (forEach f l s).1 = .error e ↔ ∃ before a after s', l = before ++ a :: after ∧
      forEach f before s = (.ok (), s') ∧ (f a s').1 = .error e := by
  induction l generalizing s with
  | nil => simp [forEach]
  | cons a rest ih =>
    constructor
    · rcases hf : f a s with ⟨fault | _, s'⟩
      · intro h
        rw [forEach, hf] at h
        exact ⟨[], a, rest, s, rfl, rfl, by rw [hf]; exact h⟩
      · intro h
        rw [forEach, hf] at h
        obtain ⟨before, b, after, s'', rfl, hrun, hb⟩ := ih.1 h
        exact ⟨a :: before, b, after, s'', rfl, by rw [forEach, hf]; exact hrun, hb⟩
    · rintro ⟨before, b, after, s'', hl, hrun, hb⟩
      cases before with
      | nil =>
        obtain ⟨rfl, rfl⟩ := List.cons.inj hl
        cases hrun
        rw [forEach]
        rcases hf : f a s with ⟨fault | _, s'⟩ <;> rw [hf] at hb <;> cases hb
        rfl
      | cons a' before =>
        obtain ⟨rfl, rfl⟩ := List.cons.inj hl
        rcases hf : f a s with ⟨fault | _, s'⟩
        · rw [forEach, hf] at hrun
          cases hrun
        · rw [forEach, hf] at hrun
          rw [forEach, hf]
          exact ih.2 ⟨before, b, after, s'', rfl, hrun, hb⟩

/-- `ChildFails depth children s f`: the subtree of one of the children cannot be deleted, and those of the
children before it can. -/
def ChildFails (depth : Nat) (children : List DistinguishedName) (s : σ) (f : Fault) : Prop :=
  ∃ before child after s', children = before ++ child :: after ∧
    forEach (deleteSubtree depth) before s = (.ok (), s') ∧ SubtreeFails depth child s' f

theorem reports_forEach_deleteSubtree {depth : Nat}
    (ih : ∀ (child : DistinguishedName) (s : σ),
      Reports (deleteSubtree depth child s).1 (SubtreeFails depth child s))
    (children : List DistinguishedName) (s : σ) :
    Reports (forEach (deleteSubtree depth) children s).1 (ChildFails depth children s) := by
  intro e
  rw [forEach_eq_error_iff]
  constructor
  · rintro ⟨before, child, after, s', hsplit, hbefore, hchild⟩
    obtain ⟨f, hf, hfe⟩ := (ih child s' e).1 hchild
    exact ⟨f, ⟨before, child, after, s', hsplit, hbefore, hf⟩, hfe⟩
  · rintro ⟨f, ⟨before, child, after, s', hsplit, hbefore, hf⟩, hfe⟩
    exact ⟨before, child, after, s', hsplit, hbefore, (ih child s' e).2 ⟨f, hf, hfe⟩⟩

/-- If the children cannot be listed, that is what fails. -/
theorem subtreeFails_of_not_listed {depth : Nat} {name : DistinguishedName} {s s' : σ} {f fault : Fault}
    (hl : requested .readWrite (fun session => childNames session name) s = (.error fault, s')) :
    SubtreeFails (depth + 1) name s f ↔
      RequestFails .readWrite (fun session => childNames session name) s f := by
  constructor
  · intro h
    cases h with
    | listing hf => exact hf
    | child hc => rw [hl] at hc; cases hc
    | deleting hc => rw [hl] at hc; cases hc
  · exact .listing

/-- If the children have been listed, the subtree of a child fails or the entry itself. -/
theorem subtreeFails_of_listed {depth : Nat} {name : DistinguishedName}
    {children : List DistinguishedName} {s s' : σ} {f : Fault}
    (hl : requested .readWrite (fun session => childNames session name) s = (.ok children, s')) :
    SubtreeFails (depth + 1) name s f ↔ ChildFails depth children s' f ∨
      ∃ s'', forEach (deleteSubtree depth) children s' = (.ok (), s'') ∧
        RequestFails .readWrite (fun session => delete session name) s'' f := by
  constructor
  · intro h
    cases h with
    | listing hf =>
      have hlisting := (reports_requested .readWrite (childNames · name) s f.classify).2 ⟨f, hf, rfl⟩
      rw [hl] at hlisting
      cases hlisting
    | child hc hbefore hf =>
      rw [hl] at hc
      cases hc
      exact .inl ⟨_, _, _, _, rfl, hbefore, hf⟩
    | deleting hc hall hf =>
      rw [hl] at hc
      cases hc
      exact .inr ⟨_, hall, hf⟩
  · rintro (⟨before, child, after, s'', rfl, hbefore, hf⟩ | ⟨s'', hall, hf⟩)
    · exact .child hl hbefore hf
    · exact .deleting hl hall hf

theorem reports_deleteSubtree (depth : Nat) (name : DistinguishedName) (s : σ) :
    Reports (deleteSubtree depth name s).1 (SubtreeFails depth name s) := by
  induction depth generalizing name s with
  | zero =>
    intro e
    constructor
    · intro h
      exact ⟨_, .tooDeep, Except.error.inj h⟩
    · rintro ⟨f, ⟨⟩, rfl⟩
      rfl
  | succ depth ih =>
    have hlisting := reports_requested .readWrite (fun session => childNames session name) s
    rw [deleteSubtree]
    dsimp only
    rcases hl : requested .readWrite (fun session => childNames session name) s with
      ⟨fault | children, s'⟩
    · rw [hl] at hlisting
      have hfails : Reports (.error fault) (SubtreeFails (depth + 1) name s) :=
        hlisting.congr fun f => subtreeFails_of_not_listed hl
      exact hfails.map fun _ => ()
    · have hrun := reports_forEach_deleteSubtree ih children s'
      dsimp only
      rcases hr : forEach (deleteSubtree depth) children s' with ⟨fault | _, s''⟩
      · rw [hr] at hrun
        refine hrun.congr fun f => (subtreeFails_of_listed hl).trans (or_iff_left ?_)
        rintro ⟨_, hall, -⟩
        rw [hr] at hall
        cases hall
      · rw [hr] at hrun
        have hdelete := reports_requested .readWrite (fun session => delete session name) s''
        refine hdelete.congr fun f => (subtreeFails_of_listed hl).trans ?_
        have hnone : ¬ChildFails depth children s' f := fun hf => nomatch (hrun f.classify).2 ⟨f, hf, rfl⟩
        rw [or_iff_right hnone]
        simp [hr]

theorem reports_deleteTree (name : NameInput) (recursive : Bool) (s : σ) :
    Reports (deleteTree name recursive s).1 (NameFails name (fun n f =>
      if recursive = true then SubtreeFails (depth s) n s f
      else RequestFails .readWrite (DirectoryServer.delete · n) s f)) := by
  refine reports_named fun n => ?_
  cases recursive with
  | true => exact reports_deleteSubtree (depth s) n s
  | false => exact reports_requested .readWrite (DirectoryServer.delete · n) s

/-! ### Contexts, readings and authentications -/

/-- A step that first reads something off what it was given, and then makes a request with it. -/
theorem reports_reading {β : Type} {reading : Except Fault β} {outcome : Except Fault α}
    {fails : β → Fault → Prop} (hraw : ∀ f, reading = .error f → f.isRaw = false)
    (herror : ∀ f, reading = .error f → outcome = .error f)
    (hok : ∀ b, reading = .ok b → Reports outcome (fails b)) :
    Reports outcome (fun f => reading = .error f ∨ ∃ b, reading = .ok b ∧ fails b f) := by
  intro e
  cases hr : reading with
  | error fault =>
    simp only [herror fault hr, Except.error.injEq, reduceCtorEq, false_and, exists_false, or_false,
      exists_eq_left']
    rw [classify_eq_self (hraw fault hr)]
  | ok b => simpa using hok b hr e

theorem isRaw_of_nameToCreate {operation : String} {c : EntryContext} {f : Fault}
    (h : nameToCreate operation c = .error f) : f.isRaw = false := by
  unfold nameToCreate at h
  repeat' split at h
  all_goals cases h
  all_goals rfl

theorem isRaw_of_nameToUpdate {c : EntryContext} {f : Fault} (h : nameToUpdate c = .error f) :
    f.isRaw = false := by
  unfold nameToUpdate at h
  repeat' split at h
  all_goals cases h
  all_goals rfl

theorem isRaw_of_single? {values : List α} {f : Fault} (h : single? values = .error f) :
    f.isRaw = false := by
  unfold single? at h
  split at h
  all_goals cases h
  all_goals rfl

theorem reports_createFromContext (c : EntryContext) (s : σ) :
    Reports (createFromContext c s).1 (fun f => nameToCreate "bind" c = .error f ∨
      ∃ n, nameToCreate "bind" c = .ok n ∧
        RequestFails .readWrite (DirectoryServer.add · n c.attributes) s f) := by
  refine reports_reading (fun f => isRaw_of_nameToCreate) (fun f hf => ?_) fun n hn => ?_
  · rw [createFromContext, hf]
  · rw [createFromContext, hn]
    exact reports_requested .readWrite (DirectoryServer.add · n c.attributes) s

theorem reports_replaceFromContext (c : EntryContext) (s : σ) :
    Reports (replaceFromContext c s).1 (fun f => nameToCreate "rebind" c = .error f ∨
      ∃ n, nameToCreate "rebind" c = .ok n ∧
        RequestFails .readWrite (DirectoryAccess.replace · n c.attributes) s f) := by
  refine reports_reading (fun f => isRaw_of_nameToCreate) (fun f hf => ?_) fun n hn => ?_
  · rw [replaceFromContext, hf]
  · rw [replaceFromContext, hn]
    exact reports_requested .readWrite (DirectoryAccess.replace · n c.attributes) s

theorem updateFromContext_eq (c : EntryContext) (s : σ) :
    updateFromContext c s =
      match nameToUpdate c with
      | .error fault => (.error fault, s)
      | .ok name => changeEntry (.name name) c.changes s := by
  unfold updateFromContext nameToUpdate
  cases c.name? with
  | none => rfl
  | some name =>
    dsimp only
    split <;> rfl

theorem reports_updateFromContext (c : EntryContext) (s : σ) :
    Reports (updateFromContext c s).1 (fun f => nameToUpdate c = .error f ∨
      ∃ n, nameToUpdate c = .ok n ∧
        RequestFails .readWrite (DirectoryServer.modify · n c.changes) s f) := by
  rw [updateFromContext_eq]
  refine reports_reading (fun f => isRaw_of_nameToUpdate) (fun f hf => ?_) fun n hn => ?_
  · rw [hf]
  · rw [hn]
    exact reports_requested .readWrite (DirectoryServer.modify · n c.changes) s

theorem reports_lookup (name : NameInput) (s : σ) :
    Reports (lookup name s).1 (NameFails name (fun n => RequestFails .readOnly (readEntry · n []) s)) :=
  reports_named fun n => (reports_requested .readOnly (readEntry · n []) s).map _

theorem reports_list (name : NameInput) (s : σ) :
    Reports (list name s).1 (NameFails name (fun n => RequestFails .readOnly (childNames · n) s)) :=
  reports_named fun n => (reports_requested .readOnly (childNames · n) s).map _

/-- A search for one entry fails as a search, or by the number of entries. -/
theorem searchSingle_eq_error_iff {ignorePartial : Bool} {query : SearchQuery} {mapper : Mapper τ α}
    {w : World σ τ} {e : Fault} :
    (searchSingle ignorePartial query mapper w).1 = .error e ↔
      (searchMapping ignorePartial query mapper SearchHooks.none w).1 = .error e ∨
      ∃ values w', searchMapping ignorePartial query mapper SearchHooks.none w = (.ok values, w') ∧
        single? values = .error e := by
  rw [searchSingle]
  rcases searchMapping ignorePartial query mapper SearchHooks.none w with ⟨fault | values, w'⟩ <;>
    simp [Except.bind]

/-- An authentication fails only as the search for the entry does. -/
theorem authenticate_eq_error_iff {ignorePartial : Bool} {start : NameInput} {filter : Filter}
    {credential : String} {work : Connection σ → Identification → Step (World σ τ) Unit}
    {w : World σ τ} {e : Fault} :
    (authenticate ignorePartial start filter credential work w).1 = .error e ↔
      (∃ n, SearchQuery.make? start filter = .error n ∧ Fault.ofName n = e) ∨
      ∃ query, SearchQuery.make? start filter = .ok query ∧
        (searchMapping ignorePartial query identify SearchHooks.none w).1 = .error e := by
  rw [authenticate]
  cases SearchQuery.make? start filter with
  | error n => simp
  | ok query =>
    simp only [reduceCtorEq, false_and, exists_false, false_or, Except.ok.injEq, exists_eq_left']
    split
    all_goals
      rename_i h
      rw [h]
      simp

/-! ### Operations -/

/-- What a mapper makes of the entry is the result, its fault included. -/
theorem lookupMapping_eq_error_iff {name : NameInput} {mapper : Mapper τ α} {w : World σ τ}
    {e : Fault} :
    (lookupMapping name mapper w).1 = .error e ↔
      (lookup name w.server).1 = .error e ∨
      (Operation.lookupMapping name mapper).MappingFails w e := by
  rw [lookupMapping, Operation.MappingFails]
  rcases lookup name w.server with ⟨fault | context, s⟩ <;> simp

/-- What a mapper makes of the children is the result, a fault included. -/
theorem listMapping_eq_error_iff {name : NameInput} {mapper : Mapper τ α} {w : World σ τ}
    {e : Fault} :
    (listMapping name mapper w).1 = .error e ↔
      (named name (fun n => requested .readOnly fun session => childEntries session n)
        w.server).1 = .error e ∨
      (Operation.listMapping name mapper).MappingFails w e := by
  rw [listMapping, Operation.MappingFails]
  rcases named name (fun n => requested .readOnly fun session => childEntries session n) w.server
    with ⟨fault | children, s⟩
  · simp
  · simp only [reduceCtorEq, false_or, Prod.mk.injEq, Except.ok.injEq]
    constructor
    · intro h
      exact ⟨children, s, ⟨rfl, rfl⟩, h⟩
    · rintro ⟨_, _, ⟨rfl, rfl⟩, h⟩
      exact h

/-- **Every fault but one kind is classified**: an operation reports the faults that decide it, those of
a late mapper as they are and all others classified. -/
theorem Operation.run_eq_error_iff {ignorePartial : Bool} {op : Operation σ τ α} {w : World σ τ}
    {e : Fault} :
    (op.run ignorePartial w).1 = .error e ↔
      (∃ f, op.FailsClassified ignorePartial w f ∧ f.classify = e) ∨ op.MappingFails w e := by
  have classified : (∀ f, ¬op.MappingFails w f) →
      Reports (op.run ignorePartial w).1 (op.FailsClassified ignorePartial w) →
      ((op.run ignorePartial w).1 = .error e ↔
        (∃ f, op.FailsClassified ignorePartial w f ∧ f.classify = e) ∨ op.MappingFails w e) := by
    intro h hr
    rw [hr e, or_iff_left (h e)]
  cases op with
  | search query mapper hooks =>
    exact classified (fun _ => id) (reports_searchVisiting _ _ _ _ _ _)
  | searchHandling query handle hooks =>
    exact classified (fun _ => id) ((reports_searchVisiting _ _ _ _ _ _).map _)
  | searchSingle query mapper =>
    refine classified (fun _ => id) fun e => ?_
    have hs := reports_searchVisiting ignorePartial query
      (query.wantsWholeEntries mapper.mapsContexts) mapper.map SearchHooks.none w e
    refine searchSingle_eq_error_iff.trans ?_
    rw [searchMapping, hs]
    constructor
    · rintro (⟨f, hf, hfe⟩ | ⟨values, w', hv, he⟩)
      · exact ⟨f, .inl hf, hfe⟩
      · exact ⟨e, .inr ⟨values, w', hv, he⟩, classify_eq_self (isRaw_of_single? he)⟩
    · rintro ⟨f, hf | ⟨values, w', hv, he⟩, rfl⟩
      · exact .inl ⟨f, hf, rfl⟩
      · rw [classify_eq_self (isRaw_of_single? he)]
        exact .inr ⟨values, w', hv, he⟩
  | lookup name => exact classified (fun _ => id) (reports_lookup name w.server)
  | lookupMapping name mapper =>
    exact lookupMapping_eq_error_iff.trans (or_congr_left (reports_lookup name w.server e))
  | list name => exact classified (fun _ => id) (reports_list name w.server)
  | listMapping name mapper =>
    exact listMapping_eq_error_iff.trans
      (or_congr_left (reports_request name .readOnly (fun n => (childEntries · n)) w.server e))
  | create name attributes =>
    exact classified (fun _ => id)
      (reports_request name .readWrite (fun n => (DirectoryServer.add · n attributes)) w.server)
  | replace name attributes =>
    exact classified (fun _ => id)
      (reports_request name .readWrite (fun n => (DirectoryAccess.replace · n attributes)) w.server)
  | delete name =>
    exact classified (fun _ => id)
      (reports_request name .readWrite (fun n => (DirectoryServer.delete · n)) w.server)
  | deleteTree name recursive =>
    exact classified (fun _ => id) (reports_deleteTree name recursive w.server)
  | rename old new =>
    exact classified (fun _ => id) (reports_renameEntry old new w.server)
  | change name changes =>
    exact classified (fun _ => id)
      (reports_request name .readWrite (fun n => (DirectoryServer.modify · n changes)) w.server)
  | createFromContext c => exact classified (fun _ => id) (reports_createFromContext c w.server)
  | replaceFromContext c => exact classified (fun _ => id) (reports_replaceFromContext c w.server)
  | updateFromContext c => exact classified (fun _ => id) (reports_updateFromContext c w.server)
  | workReadOnly work => exact classified (fun _ => id) (reports_connected .readOnly work w)
  | workReadWrite work => exact classified (fun _ => id) (reports_connected .readWrite work w)
  | authenticate start filter credential work =>
    refine classified (fun _ => id) fun e => authenticate_eq_error_iff.trans ?_
    constructor
    · rintro (⟨n, hn, rfl⟩ | ⟨query, hq, he⟩)
      · exact ⟨_, .inl ⟨n, hn, rfl⟩, rfl⟩
      · obtain ⟨f, hf, hfe⟩ := (reports_searchVisiting _ _ _ _ _ _ _).1 he
        exact ⟨f, .inr ⟨query, hq, hf⟩, hfe⟩
    · rintro ⟨f, ⟨n, hn, rfl⟩ | ⟨query, hq, hf⟩, rfl⟩
      · exact .inl ⟨n, hn, rfl⟩
      · exact .inr ⟨query, hq, (reports_searchVisiting _ _ _ _ _ _ _).2 ⟨f, hf, rfl⟩⟩

/-- The operation reports no raw fault, and every fault that decides it as the kind it stands for. -/
def Operation.Translated (ignorePartial : Bool) (op : Operation σ τ α) (w : World σ τ) : Prop :=
  (∀ e, (op.run ignorePartial w).1 = .error e → e.isRaw = false) ∧
  ∀ f, op.Fails ignorePartial w f → (op.run ignorePartial w).1 = .error f.classify

/-- An operation fails exactly if some fault decides it. -/
theorem Operation.fails_iff {ignorePartial : Bool} {op : Operation σ τ α} {w : World σ τ} :
    (∃ e, (op.run ignorePartial w).1 = .error e) ↔ ∃ f, op.Fails ignorePartial w f := by
  constructor
  · rintro ⟨e, he⟩
    obtain ⟨f, hf, -⟩ | hm := run_eq_error_iff.1 he
    · exact ⟨f, .inl hf⟩
    · exact ⟨e, .inr hm⟩
  · rintro ⟨f, hf | hm⟩
    · exact ⟨f.classify, run_eq_error_iff.2 (.inl ⟨f, hf, rfl⟩)⟩
    · exact ⟨f, run_eq_error_iff.2 (.inr hm)⟩

/-- **Only a late mapper leaks a raw fault.** An operation fails exactly if some fault decides it; and it
reports what that fault stands for, and never a raw one, exactly if no mapper that runs after the
connection has been closed fails with a raw fault. -/
theorem Operation.translated_iff (ignorePartial : Bool) (op : Operation σ τ α) (w : World σ τ) :
    ((∃ e, (op.run ignorePartial w).1 = .error e) ↔ ∃ f, op.Fails ignorePartial w f) ∧
    (op.Translated ignorePartial w ↔ ∀ f, op.MappingFails w f → f.isRaw = false) := by
  refine ⟨fails_iff, ?_, ?_⟩
  · intro h f hm
    exact h.1 f (run_eq_error_iff.2 (.inr hm))
  · intro h
    constructor
    · intro e he
      obtain ⟨f, -, rfl⟩ | hm := run_eq_error_iff.1 he
      · exact isRaw_classify f
      · exact h e hm
    · rintro f (hf | hm)
      · exact run_eq_error_iff.2 (.inl ⟨f, hf, rfl⟩)
      · rw [classify_eq_self (h f hm)]
        exact run_eq_error_iff.2 (.inr hm)

/-- A directory with one entry. -/
def directoryOfAnn : InMemory.Directory :=
  { entries := ⟨[(⟨[⟨⟨"cn", "Ann", by decide⟩, []⟩]⟩, .ofLists [("objectClass", ["person"])] [])]⟩ }

/-- A mapper that fails on every entry, as the local system may. -/
def failingMapper : Mapper Unit String := .ofAttributes fun _ t => (.error (.system "boom"), t)

/-- Reading an entry by name passes on the raw fault of the mapper. -/
theorem not_translated_lookupMapping :
    ((Operation.lookupMapping (.text "cn=Ann") failingMapper).run false
      ⟨directoryOfAnn, ()⟩).1 = .error (.system "boom") ∧
    ¬(Operation.lookupMapping (.text "cn=Ann") failingMapper).Translated false
      ⟨directoryOfAnn, ()⟩ := by
  have hrun : ((Operation.lookupMapping (.text "cn=Ann") failingMapper).run false
      ⟨directoryOfAnn, ()⟩).1 = .error (.system "boom") := by decide +kernel
  refine ⟨hrun, ?_⟩
  intro h
  have hraw := h.1 _ hrun
  cases hraw

end DirectoryAccess
