import DirectoryAccess.Proofs.InMemory.Delivery
import DirectoryAccess.Proofs.InMemory.Interruption

/-!
# The deletion of a subtree that is not there

That a name is no entry is found out by the first listing, so that nothing is deleted. The root alone can be
listed without being an entry: all that is below it goes first, and the root itself is refused at the very
end. Either way the deletion fails (`deleteTree_of_missing`).
-/

namespace DirectoryAccess.InMemory

open DirectoryServer DistinguishedName

variable {d : Directory} {n : DistinguishedName} {name : NameInput}

theorem classify_noSuchObject :
    (Fault.ofCode ResultCode.noSuchObject).classify = .nameNotFound "result code 32" := by
  decide +kernel

/-! ### One visit -/

/-- What is neither the root nor an entry cannot be searched. -/
theorem searchAll_of_missing (request : SearchRequest) (hd : d.Serves)
    (hplace : d.isPlace request.base = false) (hsense : d.cannotAnswer request = false)
    (session : Session Directory) :
    searchAll session request d =
      (.error (.ofCode ResultCode.noSuchObject), d.logged [.search request]) := by
  have hrefusal : d.refusal? request = some (.ofCode ResultCode.noSuchObject) := by
    rw [Directory.refusal?, hd.search]
    exact if_neg (Bool.not_eq_true _ ▸ hplace)
  rw [searchAll, searchEach, server_search_eq, search_of_refusal? hrefusal hsense]
  rfl

/-- A request that begins with such a search, on a session of its own. -/
theorem requested_of_missing {α : Type} (access : Access) (hd : d.Serves)
    (hmode : access.mode ≠ .authenticated) (request : Session Directory → Step Directory α) {e : Event}
    (hrequest : request access.mode (d.logged [.acquire access.mode]) =
      (.error (.ofCode ResultCode.noSuchObject), (d.logged [.acquire access.mode]).logged [e])) :
    requested access request d = (.error (.nameNotFound "result code 32"),
      d.logged [.acquire access.mode, e, .release access.mode]) := by
  rw [requested_eq hd access hmode request hrequest, Except.mapError, classify_noSuchObject,
    Directory.logged_logged, Directory.logged_logged]
  rfl

/-- What is neither the root nor an entry cannot be listed. -/
theorem requested_childNames_of_missing (hd : d.Serves) (hplace : d.isPlace n = false) :
    requested .readWrite (fun session => childNames session n) d =
      (.error (.nameNotFound "result code 32"),
        d.logged [.acquire .readWrite, .search (.children n noAttributes), .release .readWrite]) := by
  have hlist := searchAll_of_missing (.children n noAttributes) (hd.logged [.acquire Access.readWrite.mode])
    hplace (cannotAnswer_children _ n _) Access.readWrite.mode
  refine requested_of_missing .readWrite hd (by decide) (childNames · n) ?_
  rw [childNames, hlist]
  rfl

/-- What is no entry is not deleted. -/
theorem deleteEntry_of_missing (hd : d.Serves) (hmissing : d.hasEntry n = false) :
    deleteEntry (.name n) d =
      (.error (.nameNotFound "result code 32"), d.logged (Visit.delete n).events) := by
  have hdelete : DirectoryServer.delete AccessMode.readWrite n (d.logged [.acquire .readWrite]) = _ :=
    delete_of_not_hasEntry (d := d.logged [.acquire .readWrite]) hmissing
  exact requested_of_missing .readWrite hd (by decide) (DirectoryServer.delete · n) hdelete

/-! ### The run -/

/-- No deletion makes an entry of what is none. -/
theorem keeps_missing_delete (n m : DistinguishedName) : Keeps (·.hasEntry n = false) (delete m) := by
  intro d hd
  obtain ⟨fault, hdelete⟩ | ⟨-, -, hdelete⟩ := delete_cases m d <;> rw [hdelete]
  · exact hd
  · rw [Bool.eq_false_iff] at hd ⊢
    refine mt (fun h => ?_) hd
    obtain ⟨k, hk, hkey⟩ := Directory.hasEntry_iff.1 h
    rw [Directory.names_logged, Directory.names_without] at hk
    exact Directory.hasEntry_iff.2 ⟨k, (List.mem_filter.1 hk).1, hkey⟩

/-- Whatever the directory holds, the deletion of the subtree of a missing entry fails, if not before
then when the entry itself is to be deleted. -/
theorem exists_fault_of_missing (depth : Nat) (hmissing : d.hasEntry n = false) :
    ∃ fault, (deleteSubtree depth n d).1 = .error fault := by
  cases depth with
  | zero => exact ⟨_, rfl⟩
  | succ depth =>
    have hlisted : (requested .readWrite (fun session => childNames session n) d).2.hasEntry n = false :=
      keeps_requested (P := (·.hasEntry n = false)) (fun _ _ h => h)
        (fun session => keeps_childNames (fun _ _ h => h) session n) d hmissing
    rw [deleteSubtree]
    dsimp only
    rcases hl : requested .readWrite (fun session => childNames session n) d with ⟨fault | children, d₁⟩
    · exact ⟨fault, rfl⟩
    · rw [hl] at hlisted
      have hdone := keeps_forEach (P := (·.hasEntry n = false))
        (keeps_deleteSubtree (fun _ _ h => h) (keeps_missing_delete n) depth) children d₁ hlisted
      dsimp only
      rcases hr : forEach (deleteSubtree depth) children d₁ with ⟨fault | _, d₂⟩
      · exact ⟨fault, rfl⟩
      · rw [hr] at hdone
        obtain ⟨fault, events, -, hfault⟩ | ⟨hentry, -, -⟩ := deletion_cases n d₂
        · exact ⟨_, congrArg Prod.fst hfault⟩
        · exact absurd hentry (Bool.not_eq_true _ ▸ hdone)

/-- The deletion of all that is below the root comes to the root at the end. -/
theorem deleteSubtree_root (hd : d.Intact) (hroot : n.isRoot = true) :
    ∃ d', deleteSubtree (DirectoryServer.depth d) n d = (.error (.nameNotFound "result code 32"), d') ∧
      d'.names = [] := by
  have hplace : d.isPlace n = true := by rw [Directory.isPlace, hroot, Bool.true_or]
  obtain ⟨visits, below, hrun, -, -⟩ := deletesBelow deletesSubtree hd hplace (shallow_depth d n)
  have hnames : (d.without (·.isBelow n)).names = [] := by
    rw [Directory.names_without, List.filter_eq_nil_iff]
    intro m hm
    rw [isBelow_of_isRoot hroot (hd.tree.named m hm)]
    decide
  have hmissing : (d.without (·.isBelow n)).hasEntry n = false := by
    rw [Bool.eq_false_iff, ne_eq, Directory.hasEntry_iff, hnames]
    rintro ⟨m, hm, -⟩
    cases hm
  refine ⟨_, hrun.trans (deleteEntry_of_missing (hd.serves.without.logged _) hmissing), ?_⟩
  rw [Directory.names_logged, Directory.names_logged, hnames]

/-- **The deletion of the subtree of a missing entry fails.** It is refused at once and nothing is deleted,
unless the name is that of the root: then all entries go, where they are all found by listings, before the
root is refused. -/
theorem deleteTree_of_missing (htree : d.IsTree) (hserves : d.Serves) (hname : name.resolve = .ok n)
    (hmissing : d.hasEntry n = false) :
    (∃ fault, (deleteTree name true d).1 = .error fault) ∧
    (n.isRoot = false → deleteTree name true d = (.error (.nameNotFound "result code 32"),
      d.logged [.acquire .readWrite, .search (.children n noAttributes), .release .readWrite])) ∧
    (n.isRoot = true → d.Classified →
      ∃ d', deleteTree name true d = (.error (.nameNotFound "result code 32"), d') ∧ d'.names = []) := by
  have hrun : deleteTree name true d = deleteSubtree (DirectoryServer.depth d) n d := by
    rw [deleteTree, named, hname]
    rfl
  rw [hrun]
  refine ⟨exists_fault_of_missing _ hmissing, fun hroot => ?_, fun hroot hclass => ?_⟩
  · have hplace : d.isPlace n = false := by rw [Directory.isPlace, hroot, hmissing, Bool.or_self]
    have hlist := requested_childNames_of_missing hserves hplace
    change deleteSubtree (_ + 1) n d = _
    rw [deleteSubtree]
    dsimp only
    rw [hlist]
  · exact deleteSubtree_root ⟨htree, hclass, hserves⟩ hroot

/-- A country that is not there. -/
def denmark : DistinguishedName := ⟨[⟨⟨"c", "Denmark", isAttributeType_c⟩, []⟩]⟩

/-- The deletion of a country that is not there is refused. -/
theorem deleteTree_denmark :
    countries.hasEntry denmark = false ∧
    deleteTree (.name denmark) true countries = (.error (.nameNotFound "result code 32"),
      countries.logged
        [.acquire .readWrite, .search (.children denmark noAttributes), .release .readWrite]) := by
  have hmissing : countries.hasEntry denmark = false := by decide +kernel
  have hname : (NameInput.name denmark).resolve = .ok denmark := rfl
  obtain ⟨-, hrefused, -⟩ :=
    deleteTree_of_missing intact_countries.tree intact_countries.serves hname hmissing
  exact ⟨hmissing, hrefused rfl⟩

/-- The deletion of the root is refused as well, but no country is left. -/
theorem deleteTree_root_countries :
    countries.IsTree ∧ countries.Serves ∧ countries.hasEntry .root = false ∧
    countries.names.length = 3 ∧
    (deleteTree (.name .root) true countries).1 = .error (.nameNotFound "result code 32") ∧
    (deleteTree (.name .root) true countries).2.names = [] := by
  obtain ⟨d', hrun, hnames⟩ := deleteSubtree_root (n := .root) intact_countries rfl
  have hdelete : deleteTree (.name .root) true countries = _ := hrun
  rw [hdelete]
  exact ⟨intact_countries.tree, intact_countries.serves, by decide +kernel, rfl, rfl, hnames⟩

end DirectoryAccess.InMemory
