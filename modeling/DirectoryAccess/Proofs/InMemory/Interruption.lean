import DirectoryAccess.Proofs.InMemory.Loop
import DirectoryAccess.Proofs.InMemory.Shape

/-!
# Deletions that stop on the way

The deletion of a subtree may fail at any listing and at any deletion, in a directory of any shape. It is
a sequence of visits that succeed, and then nothing more or one visit that fails (`Ends`). What can be
said of the sequence is said of one visit first: a listing changes nothing, and a deletion takes out an
entry that has no children. So what is missing at any point of the loop are entries of the subtree, the
lower ones first, and no entry has become an orphan (`deleteTree_loses`).
-/

namespace DirectoryAccess.InMemory

open DirectoryServer DistinguishedName

variable {d d' d₁ d₂ : Directory} {n top : DistinguishedName} {fault : Fault}

/-! ### One visit -/

/-- The name that is visited. -/
def Visit.name : Visit → DistinguishedName
  | .list n => n
  | .delete n => n

/-- `v.Succeeds d d'`: the visit is made on a connection of its own and succeeds. -/
inductive Visit.Succeeds : Visit → Directory → Directory → Prop where
  /-- The children of an entry are listed. -/
  | list {n : DistinguishedName} {d d' : Directory} {children : List DistinguishedName} :
      requested .readWrite (fun session => childNames session n) d = (.ok children, d') →
      Visit.Succeeds (.list n) d d'
  /-- An entry is deleted. -/
  | delete {n : DistinguishedName} {d d' : Directory} :
      deleteEntry (.name n) d = (.ok (), d') → Visit.Succeeds (.delete n) d d'

/-- `v.Fails d fault events`: the visit fails with `fault`, as it arose, and `events` is what is recorded
of it. -/
inductive Visit.Fails (d : Directory) : Visit → Fault → List Event → Prop where
  /-- No connection can be opened. -/
  | opening {v : Visit} {fault : Fault} :
      connect .readWrite d = (.error fault, d) → Visit.Fails d v fault []
  /-- The search for the children of an entry is refused. -/
  | refused {n : DistinguishedName} {fault : Fault} :
      childNames AccessMode.readWrite n (d.logged [.acquire .readWrite]) =
        (.error fault, d.logged [.acquire .readWrite, .search (.children n noAttributes)]) →
      Visit.Fails d (.list n) fault
        [.acquire .readWrite, .search (.children n noAttributes), .release .readWrite]
  /-- The search for the children of an entry fails on the way or at its end. -/
  | unread {n : DistinguishedName} {fault : Fault} :
      childNames AccessMode.readWrite n (d.logged [.acquire .readWrite]) =
        (.error fault, d.logged
          [.acquire .readWrite, .search (.children n noAttributes), .searchFinished]) →
      Visit.Fails d (.list n) fault (Visit.list n).events
  /-- An entry is not deleted. -/
  | undeleted {n : DistinguishedName} {fault : Fault} :
      InMemory.delete n (d.logged [.acquire .readWrite]) =
        (.error fault, d.logged [.acquire .readWrite, .delete n]) →
      Visit.Fails d (.delete n) fault (Visit.delete n).events

/-- A listing fails in one of its ways, or it succeeds and changes nothing. -/
theorem listing_cases (n : DistinguishedName) (d : Directory) :
    (∃ fault events, (Visit.list n).Fails d fault events ∧
      requested .readWrite (fun session => childNames session n) d =
        (.error fault.classify, d.logged events)) ∨
    ∃ children, requested .readWrite (fun session => childNames session n) d =
      (.ok children, d.logged (Visit.list n).events) := by
  obtain ⟨fault, hopen, hrun⟩ | ⟨-, hrun⟩ :=
    requested_cases .readWrite (fun session => childNames session n) d
  · refine .inl ⟨fault, [], .opening hopen, ?_⟩
    rw [hrun, Directory.logged_nil]
  · obtain ⟨fault, hlist⟩ | ⟨fault | children, hlist⟩ :=
      childNames_cases Access.readWrite.mode n (d.logged [.acquire Access.readWrite.mode]) <;>
        rw [hlist, Directory.logged_logged, Directory.logged_logged] at hrun
    · exact .inl ⟨fault, _, .refused (hlist.trans (by rw [Directory.logged_logged]; rfl)), hrun⟩
    · exact .inl ⟨fault, _, .unread (hlist.trans (by rw [Directory.logged_logged]; rfl)), hrun⟩
    · exact .inr ⟨children, hrun⟩

/-- A deletion fails in one of its ways, or it takes out an entry that has no children. -/
theorem deletion_cases (n : DistinguishedName) (d : Directory) :
    (∃ fault events, (Visit.delete n).Fails d fault events ∧
      deleteEntry (.name n) d = (.error fault.classify, d.logged events)) ∨
    d.hasEntry n = true ∧ d.hasChildren n = false ∧ deleteEntry (.name n) d =
      (.ok (), (d.without fun m => compare n m == .eq).logged (Visit.delete n).events) := by
  have hrequest : deleteEntry (.name n) d = requested .readWrite (fun _ => InMemory.delete n) d := rfl
  rw [hrequest]
  obtain ⟨fault, hopen, hrun⟩ | ⟨-, hrun⟩ :=
    requested_cases .readWrite (fun _ => InMemory.delete n) d
  · refine .inl ⟨fault, [], .opening hopen, ?_⟩
    rw [hrun, Directory.logged_nil]
  · obtain ⟨fault, hdelete⟩ | ⟨hentry, hleaf, hdelete⟩ :=
      delete_cases n (d.logged [.acquire Access.readWrite.mode]) <;>
        rw [hdelete] at hrun
    · rw [Directory.logged_logged, Directory.logged_logged] at hrun
      exact .inl ⟨fault, _, .undeleted (hdelete.trans (by rw [Directory.logged_logged]; rfl)), hrun⟩
    · rw [Directory.without_logged, Directory.logged_logged, Directory.logged_logged] at hrun
      exact .inr ⟨hentry, hleaf, hrun⟩

/-! ### Deletions, the lower entries first -/

namespace Directory

/-- Each of the names is that of an entry without children when its turn comes to be deleted. -/
def LeavesFirst (d : Directory) : List DistinguishedName → Prop
  | [] => True
  | n :: rest => d.hasEntry n = true ∧ d.hasChildren n = false ∧
      (d.without fun m => compare n m == .eq).LeavesFirst rest

/-- The directory without the entries of some names. -/
def withoutAll (d : Directory) (names : List DistinguishedName) : Directory :=
  d.without fun m => names.any (compare · m == .eq)

theorem withoutAll_nil : d.withoutAll [] = d := without_of_not fun _ _ => rfl

theorem withoutAll_cons {names : List DistinguishedName} :
    (d.without fun m => compare n m == .eq).withoutAll names = d.withoutAll (n :: names) := by
  rw [withoutAll, without_without]
  rfl

theorem withoutAll_logged {events : List Event} {names : List DistinguishedName} :
    (d.logged events).withoutAll names = (d.withoutAll names).logged events := rfl

theorem leavesFirst_logged {events : List Event} {names : List DistinguishedName} :
    (d.logged events).LeavesFirst names ↔ d.LeavesFirst names := by
  induction names generalizing d with
  | nil => exact Iff.rfl
  | cons n rest ih =>
    rw [LeavesFirst, LeavesFirst, without_logged, ih]
    exact Iff.rfl

/-- When entries go, the lower ones first, no entry becomes an orphan. -/
theorem NoOrphans.withoutAll {names : List DistinguishedName} (h : d.NoOrphans)
    (hfirst : d.LeavesFirst names) : (d.withoutAll names).NoOrphans := by
  induction names generalizing d with
  | nil =>
    rw [withoutAll_nil]
    exact h
  | cons n rest ih =>
    obtain ⟨-, hleaf, hrest⟩ := hfirst
    rw [← withoutAll_cons]
    exact ih (h.without_leaf hleaf) hrest

end Directory

/-! ### Runs of visits -/

/-- `Visits d visits d'`: the visits are made one after the other, and all of them succeed. -/
inductive Visits : Directory → List Visit → Directory → Prop where
  /-- No visit is made. -/
  | nil {d : Directory} : Visits d [] d
  /-- A visit is made before the others. -/
  | cons {v : Visit} {visits : List Visit} {d d' d'' : Directory} :
      v.Succeeds d d' → Visits d' visits d'' → Visits d (v :: visits) d''

/-- What has been deleted after some visits has been deleted with the lower entries first, and nothing
else has happened to the entries. -/
theorem Visits.leavesFirst {visits : List Visit} (h : Visits d visits d') :
    d.LeavesFirst (visits.filterMap Visit.deleted?) ∧
    d' = (d.withoutAll (visits.filterMap Visit.deleted?)).logged (visits.flatMap Visit.events) := by
  induction h with
  | nil => exact ⟨trivial, (Directory.logged_nil _).trans Directory.withoutAll_nil |>.symm⟩
  | @cons v visits d d₁ d' hv _ ih =>
    obtain ⟨hfirst, heq⟩ := ih
    cases hv with
    | @list n _ _ _ hlist =>
      obtain ⟨fault, events, -, hfault⟩ | ⟨children, hlisted⟩ := listing_cases n d
      · cases hlist.symm.trans hfault
      · cases hlist.symm.trans hlisted
        refine ⟨Directory.leavesFirst_logged.1 hfirst, heq.trans ?_⟩
        rw [Directory.withoutAll_logged, Directory.logged_logged]
        rfl
    | @delete n _ _ hdelete =>
      obtain ⟨fault, events, -, hfault⟩ | ⟨hentry, hleaf, hdeleted⟩ := deletion_cases n d
      · cases hdelete.symm.trans hfault
      · cases hdelete.symm.trans hdeleted
        refine ⟨⟨hentry, hleaf, Directory.leavesFirst_logged.1 hfirst⟩, heq.trans ?_⟩
        rw [Directory.withoutAll_logged, Directory.logged_logged, Directory.withoutAll_cons]
        rfl

/-- `Ends top d outcome d'`: nothing more is done, or one more visit is made within `top` and fails. -/
inductive Ends (top : DistinguishedName) (d : Directory) : Except Fault Unit → Directory → Prop where
  /-- All has been done. -/
  | done : Ends top d (.ok ()) d
  /-- A visit fails, and its fault is translated. -/
  | failed {v : Visit} {fault : Fault} {events : List Event} :
      v.Fails d fault events → v.name.isWithin top = true →
      Ends top d (.error fault.classify) (d.logged events)

theorem Ends.entries {outcome : Except Fault Unit} (h : Ends top d outcome d') :
    d'.entries = d.entries := by
  cases h <;> rfl

/-- The loop over a stack of names within `top` makes visits within `top` that succeed, and then it
comes to an end. -/
theorem exists_visits_of_stackRun {stack : Stack} {outcome : Except Fault Unit}
    (h : StackRun stack d outcome d') (hstack : ∀ e ∈ stack, e.1.isWithin top = true) :
    ∃ visits d₁, Visits d visits d₁ ∧ (∀ v ∈ visits, v.name.isWithin top = true) ∧
      Ends top d₁ outcome d' := by
  induction h with
  | done => exact ⟨[], _, .nil, nofun, .done⟩
  | @deleted n rest d d₁ d' outcome hdelete _ ih =>
    obtain ⟨hn, hrest⟩ := List.forall_mem_cons.1 hstack
    obtain ⟨visits, d₂, hvisits, hwithin, hends⟩ := ih hrest
    exact ⟨.delete n :: visits, d₂, .cons (.delete hdelete) hvisits,
      List.forall_mem_cons.2 ⟨hn, hwithin⟩, hends⟩
  | @notDeleted n rest d d' fault hdelete =>
    have hn : n.isWithin top = true := hstack _ List.mem_cons_self
    obtain ⟨raw, events, hfails, hfault⟩ | ⟨-, -, hdeleted⟩ := deletion_cases n d
    · cases hdelete.symm.trans hfault
      exact ⟨[], d, .nil, nofun, .failed hfails hn⟩
    · cases hdelete.symm.trans hdeleted
  | @listed n rest d d₁ d' outcome children hlist _ ih =>
    obtain ⟨hn, hrest⟩ := List.forall_mem_cons.1 hstack
    -- the children lie within what their parent lies within
    have hchildren : ∀ e ∈ children.map (·, false), e.1.isWithin top = true := by
      intro e he
      obtain ⟨c, hc, rfl⟩ := List.mem_map.1 he
      obtain ⟨_, hlisted⟩ := exists_of_requested hlist
      have hchild := (mem_of_childNames hlisted c hc).2
      exact isWithin_trans (isWithin_of_isBelow (isBelow_of_isChildOf hchild)) hn
    obtain ⟨visits, d₂, hvisits, hwithin, hends⟩ :=
      ih (List.forall_mem_append.2 ⟨hchildren, List.forall_mem_cons.2 ⟨hn, hrest⟩⟩)
    exact ⟨.list n :: visits, d₂, .cons (.list hlist) hvisits,
      List.forall_mem_cons.2 ⟨hn, hwithin⟩, hends⟩
  | @notListed n rest d d' fault hlist =>
    have hn : n.isWithin top = true := hstack _ List.mem_cons_self
    obtain ⟨raw, events, hfails, hfault⟩ | ⟨children, hlisted⟩ := listing_cases n d
    · cases hlist.symm.trans hfault
      exact ⟨[], d, .nil, nofun, .failed hfails hn⟩
    · cases hlist.symm.trans hlisted

/-! ### What is lost -/

/-- `d.Loses top deleted d'`: of its entries the directory has lost those that were deleted, the lower
ones first, and they all lie within `top`. -/
structure Directory.Loses (d : Directory) (top : DistinguishedName) (deleted : List DistinguishedName)
    (d' : Directory) : Prop where
  /-- What is left was there before, with the same attributes. -/
  left : d'.entries.toList.Sublist d.entries.toList
  /-- What does not lie within `top` is left. -/
  outside (e : DistinguishedName × Attributes) :
    e ∈ d.entries.toList → e.1.isWithin top = false → e ∈ d'.entries.toList
  /-- What was deleted is no entry any more. -/
  gone (n : DistinguishedName) : n ∈ deleted → d'.hasEntry n = false
  /-- What was deleted was an entry without children. -/
  leavesFirst : d.LeavesFirst deleted
  /-- No entry has become an orphan. -/
  noOrphans : d.NoOrphans → d'.NoOrphans

theorem Directory.hasEntry_withoutAll {names : List DistinguishedName} (hn : n ∈ names) :
    (d.withoutAll names).hasEntry n = false := by
  rw [Bool.eq_false_iff, ne_eq, Directory.hasEntry_iff, Directory.withoutAll, Directory.names_without]
  rintro ⟨m, hm, hkey⟩
  have hstays := (List.mem_filter.1 hm).2
  have hgoes : names.any (compare · m == .eq) = true :=
    List.any_eq_true.2 ⟨n, hn, beq_iff_eq.2 (compare_eq_iff_key_eq.2 hkey)⟩
  rw [hgoes] at hstays
  cases hstays

/-- What is lost is a matter of the entries that are left. -/
theorem Directory.Loses.of_entries_eq {deleted : List DistinguishedName} (h : d.Loses top deleted d₁)
    (heq : d₂.entries = d₁.entries) : d.Loses top deleted d₂ where
  left := heq ▸ h.left
  outside := heq ▸ h.outside
  gone n hn := by
    rw [hasEntry, heq]
    exact h.gone n hn
  leavesFirst := h.leavesFirst
  noOrphans horphans := by
    have hnone := h.noOrphans horphans
    simp only [NoOrphans, names, isPlace, hasEntry] at hnone ⊢
    rwa [heq]

/-- Deletions of entries within `top`, the lower ones first, lose these entries. -/
theorem Directory.LeavesFirst.loses {names : List DistinguishedName} (h : d.LeavesFirst names)
    (hwithin : ∀ n ∈ names, n.isWithin top = true) : d.Loses top names (d.withoutAll names) where
  left := List.filter_sublist
  outside e he houtside := by
    refine List.mem_filter.2 ⟨he, ?_⟩
    rw [Bool.not_eq_true', List.any_eq_false]
    intro n hn heq
    have hin := hwithin n hn
    rw [isWithin_iff, compare_eq_iff_key_eq.1 (beq_iff_eq.1 heq), ← isWithin_iff, houtside] at hin
    cases hin
  gone _ := Directory.hasEntry_withoutAll
  leavesFirst := h
  noOrphans horphans := horphans.withoutAll h

/-- **What the deletion of a subtree loses, wherever it stops.** The deletion is a run of visits within
the subtree that succeed, each on a connection of its own, and then nothing more or one visit that fails.
Nothing is asked of the directory after the failure, and the fault of that visit is translated. What is
missing afterwards are the entries that were deleted, the lower ones first: they all lie within the
subtree, the other entries have their attributes, and no entry has become an orphan. -/
theorem deleteTree_loses {name : NameInput} {outcome : Except Fault Unit}
    (hname : name.resolve = .ok top) (h : deleteTree name true d = (outcome, d')) :
    ∃ (visits : List Visit) (d₁ : Directory), Visits d visits d₁ ∧
      (∀ v ∈ visits, v.name.isWithin top = true) ∧
      d₁ = (d.withoutAll (visits.filterMap Visit.deleted?)).logged (visits.flatMap Visit.events) ∧
      Ends top d₁ outcome d' ∧ d.Loses top (visits.filterMap Visit.deleted?) d' := by
  have hstack : ∀ e ∈ [(top, false)], e.1.isWithin top = true :=
    List.forall_mem_singleton.2 (isWithin_self top)
  obtain ⟨visits, d₁, hvisits, hwithin, hends⟩ :=
    exists_visits_of_stackRun ((stackRun_iff_deleteTree hname).2 h) hstack
  obtain ⟨hfirst, heq⟩ := hvisits.leavesFirst
  refine ⟨visits, d₁, hvisits, hwithin, heq, hends, ?_⟩
  have hdeleted : ∀ n ∈ visits.filterMap Visit.deleted?, n.isWithin top = true := by
    intro n hn
    obtain ⟨v, hv, hvn⟩ := List.mem_filterMap.1 hn
    cases v with
    | list m => cases hvn
    | delete m =>
      cases hvn
      exact hwithin _ hv
  have hentries : d'.entries = (d.withoutAll (visits.filterMap Visit.deleted?)).entries := by
    rw [hends.entries, heq]
    rfl
  exact (hfirst.loses hdeleted).of_entries_eq hentries

/-- The country with a company in it that a listing finds, and with one that has no object class. -/
def halfListed : Directory :=
  let founded : DistinguishedName := sweden.child ⟨⟨"ou", "Founded", isAttributeType_ou⟩, []⟩
  { entries := ⟨[(sweden, .ofLists [("objectClass", ["country"])] []),
      (company, .ofLists [("objectClass", ["organizationalUnit"])] []),
      (founded, .ofLists [("ou", ["Founded"])] [])]⟩ }

/-- The country cannot be deleted after the company that was found. -/
theorem deleteTree_loses_halfListed :
    (NameInput.name sweden).resolve = .ok sweden ∧
    (deleteTree (.name sweden) true halfListed).1 =
      .error (Fault.ofCode ResultCode.notAllowedOnNonLeaf).classify ∧
    ∃ (visits : List Visit) (d₁ : Directory), Visits halfListed visits d₁ ∧
      (∀ v ∈ visits, v.name.isWithin sweden = true) ∧
      d₁ = (halfListed.withoutAll (visits.filterMap Visit.deleted?)).logged
        (visits.flatMap Visit.events) ∧
      Ends sweden d₁ (.error (Fault.ofCode ResultCode.notAllowedOnNonLeaf).classify)
        (deleteTree (.name sweden) true halfListed).2 ∧
      halfListed.Loses sweden (visits.filterMap Visit.deleted?)
        (deleteTree (.name sweden) true halfListed).2 := by
  have hstops : (deleteTree (.name sweden) true halfListed).1 =
      .error (Fault.ofCode ResultCode.notAllowedOnNonLeaf).classify := by decide +kernel
  exact ⟨rfl, hstops, deleteTree_loses rfl (Prod.ext hstops rfl)⟩

end DirectoryAccess.InMemory
