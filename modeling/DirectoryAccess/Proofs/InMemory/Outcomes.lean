import DirectoryAccess.Operation.Write
import DirectoryAccess.Proofs.InMemory.Tree

/-!
# Requests and their outcomes

Any request to a directory in memory may fail, and so may the opening of the session that it is made on.
Each request has one lemma here (`search_children_cases`, `add_cases` and so on) that says all that it can
do. What the requests keep, the operations keep that are made of them, however they end (`Keeps`).
-/

namespace DirectoryAccess.InMemory

open DirectoryServer

variable {α β : Type} {n : DistinguishedName}

/-! ### Requests -/

/-- The search for children changes nothing, whether it is refused or not. -/
theorem search_children_cases (n : DistinguishedName) (attributes : List String) (d : Directory) :
    (∃ fault, search (.children n attributes) d =
      (.error fault, d.logged [.search (.children n attributes)])) ∨
    ∃ results, search (.children n attributes) d =
      (.ok results, d.logged [.search (.children n attributes)]) := by
  have hsense := cannotAnswer_children (d.record (.search (.children n attributes))) n attributes
  unfold search
  dsimp only
  rw [hsense]
  split
  · exact .inl ⟨_, rfl⟩
  · split
    · exact .inl ⟨_, rfl⟩
    · exact .inr ⟨_, rfl⟩

/-- A listing changes nothing: it is refused, or it is finished and has some outcome. -/
theorem childNames_cases (session : Session Directory) (n : DistinguishedName) (d : Directory) :
    (∃ fault, childNames session n d =
      (.error fault, d.logged [.search (.children n noAttributes)])) ∨
    ∃ outcome, childNames session n d =
      (outcome, d.logged [.search (.children n noAttributes), .searchFinished]) := by
  have hserver := searchEach_server session (.children n noAttributes) keepEntry ⟨d, ()⟩
  obtain ⟨fault, hsearch⟩ | ⟨results, hsearch⟩ := search_children_cases n noAttributes d
  · left
    refine ⟨fault, ?_⟩
    rw [childNames, searchAll, searchEach, server_search_eq, hsearch]
    rfl
  · right
    refine ⟨(childNames session n d).1, Prod.ext rfl ?_⟩
    rw [hsearch] at hserver
    exact hserver.trans (d.logged_logged [_] [_])

/-- An entry is created below a place where there was none, or nothing changes. -/
theorem add_cases (n : DistinguishedName) (a : Attributes) (d : Directory) :
    (∃ fault, add n a d = (.error fault, d.logged [.add n])) ∨
    d.hasEntry n = false ∧ d.hasParentOf n = true ∧
      add n a d = (.ok (), { d with entries := d.entries.insert n a }.logged [.add n]) := by
  have hentry : (d.record (.add n)).hasEntry n = d.hasEntry n := rfl
  have hparent : (d.record (.add n)).hasParentOf n = d.hasParentOf n := rfl
  rw [add, hentry, hparent]
  cases d.hasEntry n with
  | true => exact .inl ⟨_, rfl⟩
  | false =>
    cases d.hasParentOf n with
    | true => exact .inr ⟨rfl, rfl, rfl⟩
    | false => exact .inl ⟨_, rfl⟩

/-- An entry without children is deleted, or nothing changes. -/
theorem delete_cases (n : DistinguishedName) (d : Directory) :
    (∃ fault, delete n d = (.error fault, d.logged [.delete n])) ∨
    d.hasEntry n = true ∧ d.hasChildren n = false ∧
      delete n d = (.ok (), (d.without fun m => compare n m == .eq).logged [.delete n]) := by
  have hentry : (d.record (.delete n)).hasEntry n = d.hasEntry n := rfl
  have hchildren : (d.record (.delete n)).hasChildren n = d.hasChildren n := rfl
  rw [delete, hentry, hchildren]
  cases d.hasEntry n with
  | false => exact .inl ⟨_, rfl⟩
  | true =>
    cases d.hasChildren n with
    | true => exact .inl ⟨_, rfl⟩
    | false => exact .inr ⟨rfl, rfl, rfl⟩

/-- The attributes of an entry are changed, or nothing changes. -/
theorem modify_cases (n : DistinguishedName) (changes : List Change) (d : Directory) :
    (∃ fault, modify n changes d = (.error fault, d.logged [.modify n changes])) ∨
    ∃ a, d.entries.get? n = some a ∧ modify n changes d =
      (.ok (), { d with entries := d.entries.insert n (Change.applyAll changes a) }.logged
        [.modify n changes]) := by
  have hentries : (d.record (.modify n changes)).entries = d.entries := rfl
  rw [modify, hentries]
  cases d.entries.get? n with
  | none => exact .inl ⟨_, rfl⟩
  | some a => exact .inr ⟨a, rfl, rfl⟩

/-- An entry without children is taken out and put back under a name that was free, or nothing changes. -/
theorem rename_cases (old new : DistinguishedName) (d : Directory) :
    (∃ fault, rename old new d = (.error fault, d.logged [.rename old new])) ∨
    d.hasEntry new = false ∧ d.hasChildren old = false ∧ ∃ a, d.entries.get? old = some a ∧
      rename old new d =
        (.ok (), { d with entries := (d.entries.erase old).insert new a }.logged
          [.rename old new]) := by
  have hentry : (d.record (.rename old new)).hasEntry new = d.hasEntry new := rfl
  have hchildren : (d.record (.rename old new)).hasChildren old = d.hasChildren old := rfl
  have hentries : (d.record (.rename old new)).entries = d.entries := rfl
  rw [rename, hentry, hchildren, hentries]
  cases d.hasEntry new with
  | true => exact .inl ⟨_, rfl⟩
  | false =>
    cases d.hasChildren old with
    | true => exact .inl ⟨_, rfl⟩
    | false =>
      cases d.entries.get? old with
      | none => exact .inl ⟨_, rfl⟩
      | some a => exact .inr ⟨rfl, rfl, a, rfl, rfl⟩

/-- A session cannot be opened and nothing happens, or the request is made on it and it is closed. -/
theorem requested_cases (access : Access) (request : Session Directory → Step Directory α)
    (d : Directory) :
    (∃ fault, connect access d = (.error fault, d) ∧
      requested access request d = (.error fault.classify, d)) ∨
    connect access d = (.ok access.mode, d.logged [.acquire access.mode]) ∧
      requested access request d =
        ((request access.mode (d.logged [.acquire access.mode])).1.mapError Fault.classify,
          (request access.mode (d.logged [.acquire access.mode])).2.logged
            [.release access.mode]) := by
  obtain ⟨fault, hfault⟩ | hopen := connect_cases access d
  · refine .inl ⟨fault, hfault, ?_⟩
    rw [requested, connected, server_connect_eq, hfault]
  · exact .inr ⟨hopen, requested_of_connect hopen⟩

/-! ### What operations keep -/

/-- The step keeps `P`, however it ends. -/
def Keeps (P : Directory → Prop) (step : Step Directory α) : Prop := ∀ d, P d → P (step d).2

section

variable {P : Directory → Prop}

theorem keeps_named {operation : DistinguishedName → Step Directory α}
    (h : ∀ n, Keeps P (operation n)) (name : NameInput) : Keeps P (named name operation) := by
  intro d hd
  rw [named]
  cases name.resolve with
  | error e => exact hd
  | ok n => exact h n d hd

theorem keeps_forEach {f : β → Step Directory Unit} (h : ∀ b, Keeps P (f b)) (l : List β) :
    Keeps P (forEach f l) := by
  induction l with
  | nil => exact fun d hd => hd
  | cons b rest ih =>
    intro d hd
    have hb := h b d hd
    rw [forEach]
    rcases hf : f b d with ⟨fault | _, d'⟩
    · rw [hf] at hb
      exact hb
    · rw [hf] at hb
      exact ih d' hb

variable (hlogged : ∀ d events, P d → P (d.logged events))

include hlogged

theorem keeps_requested {access : Access} {request : Session Directory → Step Directory α}
    (h : ∀ session, Keeps P (request session)) : Keeps P (requested access request) := by
  intro d hd
  obtain ⟨fault, -, hrequested⟩ | ⟨-, hrequested⟩ := requested_cases access request d
  · rw [hrequested]
    exact hd
  · rw [hrequested]
    exact hlogged _ _ (h access.mode _ (hlogged d _ hd))

theorem keeps_childNames (session : Session Directory) (n : DistinguishedName) :
    Keeps P (childNames session n) := by
  intro d hd
  obtain ⟨fault, hlist⟩ | ⟨outcome, hlist⟩ := childNames_cases session n d <;> rw [hlist]
  · exact hlogged d _ hd
  · exact hlogged d _ hd

theorem keeps_deleteEntry (hdelete : ∀ n, Keeps P (delete n)) (name : NameInput) :
    Keeps P (deleteEntry name) :=
  keeps_named (fun n => keeps_requested hlogged fun _ => hdelete n) name

/-- What single deletions keep, the deletion of a subtree keeps, wherever it fails. -/
theorem keeps_deleteSubtree (hdelete : ∀ n, Keeps P (delete n)) (depth : Nat)
    (n : DistinguishedName) : Keeps P (deleteSubtree depth n) := by
  induction depth generalizing n with
  | zero => exact fun d hd => hd
  | succ depth ih =>
    intro d hd
    have hlisting : P (requested .readWrite (fun session => childNames session n) d).2 :=
      keeps_requested hlogged (fun session => keeps_childNames hlogged session n) d hd
    rw [deleteSubtree]
    dsimp only
    rcases hl : requested .readWrite (fun session => childNames session n) d with ⟨fault | children, d'⟩
    · rw [hl] at hlisting
      exact hlisting
    · rw [hl] at hlisting
      have hrun := keeps_forEach ih children d' hlisting
      dsimp only
      rcases hr : forEach (deleteSubtree depth) children d' with ⟨fault | _, d''⟩
      · rw [hr] at hrun
        exact hrun
      · rw [hr] at hrun
        exact keeps_deleteEntry hlogged hdelete (.name n) d'' hrun

end

end DirectoryAccess.InMemory
