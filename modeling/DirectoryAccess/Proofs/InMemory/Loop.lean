import DirectoryAccess.Proofs.InMemory.Outcomes
import DirectoryAccess.Proofs.InMemory.Subtree

/-!
# The loop over a stack comes to an end

In a directory in memory the loop that deletes a subtree always comes to an end, whatever the directory
holds and however it has been told to fail, and its end is that of the recursion
(`stackRun_iff_deleteTree`). So the bound on the depth of the recursion is never met.
-/

namespace DirectoryAccess.InMemory

open DirectoryServer DistinguishedName

variable {d d' : Directory} {n : DistinguishedName} {depth : Nat} {rest : Stack} {fault : Fault}

/-! ### What a listing can return -/

/-- An entry that is read is the first one that has not been read. -/
theorem pending_of_next {r r' : Results} {e : FoundEntry} (h : r.next = (.ok (some e), r')) :
    r.pending = e :: r'.pending := by
  unfold Results.next at h
  repeat' split at h
  all_goals cases h
  assumption

/-- Whatever ends the reading, only entries of the search are returned. -/
theorem walk_keepEntry_subset (limit? : Option Nat) (r : Results) (w : World Directory Unit) :
    (walk keepEntry limit? r w).values ⊆ r.pending := by
  fun_induction walk keepEntry limit? r w with
  | case1 | case2 | case3 | case4 => exact List.nil_subset _
  | case5 limit? r w _ e r' s hnext value t hvisit onward =>
    rename_i ih
    have hpending : r.pending = e :: r'.pending :=
      pending_of_next (Prod.ext (congrArg (·.1) hnext) (congrArg (·.2.1) hnext))
    cases hvisit
    rw [hpending]
    exact List.cons_subset_cons e ih

theorem pending_of_search {request : SearchRequest} {r : Results}
    (h : search request d = (.ok r, d')) : r.pending = d.found request := by
  unfold search at h
  dsimp only at h
  repeat' split at h
  all_goals cases h
  all_goals rfl

/-- A search returns no other entries than those that it asks for. -/
theorem searchAll_subset {session : Session Directory} {request : SearchRequest}
    {entries : List FoundEntry} (h : searchAll session request d = (.ok entries, d')) :
    entries ⊆ d.found request := by
  rw [searchAll, searchEach, server_search_eq] at h
  rcases hsearch : search request d with ⟨fault | r, d₁⟩
  · rw [hsearch] at h
    cases h
  · have hsubset := walk_keepEntry_subset none r ⟨d₁, ()⟩
    rw [hsearch] at h
    rw [pending_of_search hsearch] at hsubset
    dsimp only at h
    cases hout : (readResults keepEntry none r (⟨d₁, ()⟩ : World Directory Unit)).1.outcome with
    | error fault =>
      rw [hout] at h
      cases h
    | ok u =>
      rw [hout] at h
      cases h
      exact hsubset

theorem mem_of_mem_found_children {e : FoundEntry} {attributes : List String}
    (h : e ∈ d.found (.children n attributes)) : e.name ∈ d.names ∧ e.name.isChildOf n = true := by
  obtain ⟨⟨name, values⟩, hmem, rfl⟩ := List.mem_map.1 h
  obtain ⟨hentry, hin⟩ := List.mem_filter.1 hmem
  exact ⟨List.mem_map_of_mem hentry, (Bool.and_eq_true_iff.1 hin).1⟩

/-- A listing returns names of entries, and only of children. -/
theorem mem_of_childNames {session : Session Directory} {children : List DistinguishedName}
    (h : childNames session n d = (.ok children, d')) :
    ∀ c ∈ children, c ∈ d.names ∧ c.isChildOf n = true := by
  rw [childNames] at h
  rcases hall : searchAll session (.children n noAttributes) d with ⟨fault | entries, d₁⟩
  · rw [hall] at h
    cases h
  · rw [hall] at h
    cases h
    rintro c hc
    obtain ⟨e, he, rfl⟩ := List.mem_map.1 hc
    exact mem_of_mem_found_children (searchAll_subset hall he)

/-! ### No names are added -/

/-- A deletion adds no names to those of `names`. -/
theorem keeps_names_delete (names : List DistinguishedName) (n : DistinguishedName) :
    Keeps (·.names ⊆ names) (delete n) := by
  intro d h
  obtain ⟨fault, hdelete⟩ | ⟨-, -, hdelete⟩ := delete_cases n d <;> rw [hdelete]
  · exact h
  · intro m hm
    rw [Directory.names_logged, Directory.names_without] at hm
    exact h (List.mem_filter.1 hm).1

theorem names_listing (n : DistinguishedName) (d : Directory) :
    (requested .readWrite (fun session => childNames session n) d).2.names ⊆ d.names :=
  @keeps_requested _ (·.names ⊆ d.names) (fun _ _ h => h) _ _
    (fun session => keeps_childNames (fun _ _ h => h) session n) d (List.Subset.refl _)

/-- Wherever it fails, the deletion of a subtree adds no names. -/
theorem names_deleteSubtree (depth : Nat) (n : DistinguishedName) (d : Directory) :
    (deleteSubtree depth n d).2.names ⊆ d.names :=
  keeps_deleteSubtree (fun _ _ h => h) (keeps_names_delete d.names) depth n d (List.Subset.refl _)

/-! ### The loop -/

/-- A request that succeeds on a session of its own has been made on it. -/
theorem exists_of_requested {α : Type} {access : Access} {request : Session Directory → Step Directory α}
    {a : α} (h : requested access request d = (.ok a, d')) :
    ∃ d₁, request access.mode (d.logged [.acquire access.mode]) = (.ok a, d₁) := by
  obtain ⟨fault, -, hrun⟩ | ⟨-, hrun⟩ := requested_cases access request d
  · cases h.symm.trans hrun
  · obtain ⟨houtcome, -⟩ := Prod.mk.inj (hrun.symm.trans h)
    exact ⟨_, Prod.ext (mapError_eq_ok_iff.1 houtcome) rfl⟩

/-- A run that fails on a child leaves the loop with that fault. -/
theorem stackRun_of_forEach_error
    (ih : ∀ {n : DistinguishedName} {d d' : Directory} {rest : Stack}, 0 < depth → Shallow depth d n →
      deleteSubtree depth n d = (.error fault, d') →
      StackRun ((n, false) :: rest) d (.error fault) d')
    {names : List DistinguishedName} (hnames : ∀ n ∈ names, 0 < depth ∧ Shallow depth d n)
    (h : forEach (deleteSubtree depth) names d = (.error fault, d')) :
    StackRun (names.map (·, false) ++ rest) d (.error fault) d' := by
  induction names generalizing d with
  | nil => cases h
  | cons n names ihnames =>
    obtain ⟨hpos, hshallow⟩ := hnames n List.mem_cons_self
    rw [forEach] at h
    rcases hn : deleteSubtree depth n d with ⟨fault' | _, d₁⟩
    · rw [hn] at h
      cases h
      exact ih hpos hshallow hn
    · have hsubset := names_deleteSubtree depth n d
      rw [hn] at h hsubset
      refine stackRun_of_deleteSubtree hn (ihnames (fun m hm => ?_) h)
      exact ⟨hpos, (hnames m (List.mem_cons_of_mem n hm)).2.mono hsubset⟩

/-- Where the recursion fails with levels to spare, the loop fails in the same way. -/
theorem stackRun_of_deleteSubtree_error (hpos : 0 < depth) (hshallow : Shallow depth d n)
    (h : deleteSubtree depth n d = (.error fault, d')) :
    StackRun ((n, false) :: rest) d (.error fault) d' := by
  induction depth generalizing n d d' rest with
  | zero => exact absurd hpos (Nat.lt_irrefl 0)
  | succ depth ih =>
    have hsubset := names_listing n d
    rw [deleteSubtree] at h
    dsimp only at h
    rcases hl : requested .readWrite (fun session => childNames session n) d with ⟨fault' | children, d₁⟩
    · rw [hl] at h
      cases h
      exact .notListed hl
    · rw [hl] at h hsubset
      dsimp only at h
      -- a child is an entry, so that there is a level left for it
      have hchildren : ∀ c ∈ children, 0 < depth ∧ Shallow depth d₁ c := by
        intro c hc
        obtain ⟨_, hlist⟩ := exists_of_requested hl
        obtain ⟨hmem, hchild⟩ := mem_of_childNames hlist c hc
        have hlt := hshallow c hmem (isWithin_of_isBelow (isBelow_of_isChildOf hchild))
        rw [length_of_isChildOf hchild] at hlt
        exact ⟨by omega, (hshallow.child hchild).mono hsubset⟩
      rcases hr : forEach (deleteSubtree depth) children d₁ with ⟨fault' | _, d₂⟩
      · rw [hr] at h
        cases h
        exact .listed hl (stackRun_of_forEach_error ih hchildren hr)
      · rw [hr] at h
        exact .listed hl (stackRun_of_forEach stackRun_of_deleteSubtree hr (.notDeleted h))

/-- **The loop ends as the recursion does**, whatever the directory holds and however it has been told to
fail. -/
theorem stackRun_iff_deleteTree {name : NameInput} {outcome : Except Fault Unit}
    (hname : name.resolve = .ok n) :
    StackRun [(n, false)] d outcome d' ↔ deleteTree name true d = (outcome, d') := by
  have hrun : StackRun [(n, false)] d (deleteTree name true d).1 (deleteTree name true d).2 := by
    rcases h : deleteTree name true d with ⟨fault | _, d₁⟩
    · rw [deleteTree, named, hname] at h
      exact stackRun_of_deleteSubtree_error (Nat.succ_pos _) (shallow_depth d n) h
    · exact stackRun_of_deleteTree hname h
  constructor
  · intro h
    obtain ⟨houtcome, hd⟩ := hrun.unique h
    exact Prod.ext houtcome hd
  · intro h
    rwa [h] at hrun

end DirectoryAccess.InMemory
