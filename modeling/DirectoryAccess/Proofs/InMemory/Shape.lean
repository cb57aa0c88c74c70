import DirectoryAccess.Proofs.InMemory.Outcomes
import DirectoryAccess.Proofs.InMemory.Subtree
import DirectoryAccess.Proofs.Operation.Basic
import Mathlib.Data.List.Induction

/-!
# Writing in a tree

Which writes leave a tree a tree. All of them do but one: a renaming looks at what lies below the entry
and at whether the new name is free, but not at the place that the new name gives the entry. So the
directory is a tree all along a sequence of writes exactly if no renaming in it moves an entry onto the
root, below a name that is no entry, or below itself (`tree_throughout_iff`).
-/

namespace DirectoryAccess

/-! ### Sequences of writes -/

section

variable {σ τ α : Type} [DirectoryServer σ]

/-- The operation writes entries, and does nothing else on its connections. -/
def Operation.Writes {α : Type} (op : Operation σ τ α) : Prop :=
  match op with
  | .create .. | .replace .. | .delete .. | .deleteTree .. | .rename .. | .change ..
  | .createFromContext .. | .replaceFromContext .. | .updateFromContext .. => True
  | _ => False

/-- Carries operations out one after the other, whether they succeed or not. -/
def Operation.runAll (ignorePartial : Bool) (ops : List (Operation σ τ Unit)) (w : World σ τ) :
    World σ τ :=
  ops.foldl (fun w op => (op.run ignorePartial w).2) w

theorem Operation.runAll_concat (ignorePartial : Bool) (ops : List (Operation σ τ Unit))
    (op : Operation σ τ Unit) (w : World σ τ) :
    runAll ignorePartial (ops ++ [op]) w = (op.run ignorePartial (runAll ignorePartial ops w)).2 := by
  rw [runAll, List.foldl_append]
  rfl

end

namespace InMemory

open DirectoryServer DistinguishedName Std

variable {τ α : Type}

namespace Directory

/-! ### Orphans -/

/-- The parent of every entry that has one is the root or an entry. -/
def NoOrphans (d : Directory) : Prop :=
  ∀ n ∈ d.names, ∀ p, n.parent? = some p → d.isPlace p = true

variable {d : Directory} {m n p o : DistinguishedName} {a : Attributes}

theorem isPlace_iff : d.isPlace n = true ↔ n.isRoot = true ∨ d.hasEntry n = true := by
  rw [isPlace, Bool.or_eq_true]

theorem isPlace_congr (h : m.key = n.key) : d.isPlace m = d.isPlace n := by
  rw [Bool.eq_iff_iff, isPlace_iff, isPlace_iff, isRoot_iff, isRoot_iff, hasEntry_iff, hasEntry_iff, h]

theorem hasParentOf_iff : d.hasParentOf n = true ↔ ∃ p, n.parent? = some p ∧ d.isPlace p = true := by
  rw [hasParentOf, Option.any_eq_true]

/-- Equal names have parents that are equal. -/
theorem hasParentOf_congr (h : m.key = n.key) (hm : d.hasParentOf m = true) :
    d.hasParentOf n = true := by
  obtain ⟨p, hp, hplace⟩ := hasParentOf_iff.1 hm
  obtain ⟨r, hr⟩ := key_of_parent? hp
  cases hq : n.parent? with
  | none =>
    rw [h, isRoot_iff.1 (parent?_eq_none_iff.1 hq)] at hr
    cases hr
  | some q =>
    obtain ⟨r', hr'⟩ := key_of_parent? hq
    have hkey : p.key = q.key := (List.cons.inj (hr.symm.trans (h.trans hr'))).2
    exact hasParentOf_iff.2 ⟨q, hq, isPlace_congr hkey ▸ hplace⟩

/-- A tree is a directory in order in which the root is no entry and no entry is an orphan. -/
theorem isTree_iff : d.IsTree ↔
    d.entries.Ascending ∧ (∀ n ∈ d.names, n.isRoot = false) ∧ d.NoOrphans := by
  constructor
  · intro h
    refine ⟨h.ascending, h.named, fun n hn p hp => ?_⟩
    obtain ⟨p', hp', hplace⟩ := hasParentOf_iff.1 (h.rooted n hn)
    cases hp.symm.trans hp'
    exact hplace
  · rintro ⟨hascending, hnamed, hparents⟩
    refine ⟨hascending, hnamed, fun n hn => hasParentOf_iff.2 ?_⟩
    cases hp : n.parent? with
    | none =>
      rw [parent?_eq_none_iff, hnamed n hn] at hp
      cases hp
    | some p => exact ⟨p, rfl, hparents n hn p hp⟩

theorem isTree_logged {events : List Event} : (d.logged events).IsTree ↔ d.IsTree :=
  ⟨fun h => ⟨h.1, h.2, h.3⟩, fun h => h.logged events⟩

/-! ### Entries that are taken out -/

theorem hasEntry_without_self_iff :
    (d.without fun m => compare o m == .eq).hasEntry n = true ↔
      d.hasEntry n = true ∧ n.key ≠ o.key := by
  rw [hasEntry_iff, hasEntry_iff, names_without]
  constructor
  · rintro ⟨m, hm, hkey⟩
    rw [List.mem_filter, Bool.not_eq_true', beq_eq_false_iff_ne, ne_eq, compare_eq_iff_key_eq] at hm
    exact ⟨⟨m, hm.1, hkey⟩, fun heq => hm.2 (heq.symm.trans hkey)⟩
  · rintro ⟨⟨m, hm, hkey⟩, hne⟩
    refine ⟨m, List.mem_filter.2 ⟨hm, ?_⟩, hkey⟩
    rw [Bool.not_eq_true', beq_eq_false_iff_ne, ne_eq, compare_eq_iff_key_eq]
    exact fun heq => hne (hkey.trans heq.symm)

/-- When an entry without children goes, no entry becomes an orphan. -/
theorem NoOrphans.without_leaf (h : d.NoOrphans) (hleaf : d.hasChildren o = false) :
    (d.without fun m => compare o m == .eq).NoOrphans := by
  intro n hn p hp
  rw [names_without, List.mem_filter] at hn
  rw [isPlace_iff, hasEntry_without_self_iff]
  refine (isPlace_iff.1 (h n hn.1 p hp)).imp_right fun hentry => ⟨hentry, fun heq => ?_⟩
  -- the parent of what stays is not the entry that goes
  obtain ⟨r, hr⟩ := key_of_parent? hp
  exact List.any_eq_false.1 hleaf n hn.1 (isChildOf_iff.2 ⟨r, heq ▸ hr⟩)

theorem IsTree.without_leaf (h : d.IsTree) (hleaf : d.hasChildren o = false) :
    (d.without fun m => compare o m == .eq).IsTree := by
  obtain ⟨hascending, hnamed, hparents⟩ := isTree_iff.1 h
  refine isTree_iff.2 ⟨hascending.erase o, fun n hn => ?_, hparents.without_leaf hleaf⟩
  rw [names_without] at hn
  exact hnamed n (List.mem_filter.1 hn).1

/-! ### Entries that are put in -/

/-- The directory with an entry put in, in place of the one of that name if there is one. -/
def insert (d : Directory) (n : DistinguishedName) (a : Attributes) : Directory :=
  { d with entries := d.entries.insert n a }

theorem hasEntry_insert_iff :
    (d.insert m a).hasEntry n = true ↔ n.key = m.key ∨ d.hasEntry n = true := by
  rw [hasEntry, hasEntry, OrderedMap.contains, OrderedMap.contains, insert, OrderedMap.get?_insert,
    ← compare_eq_iff_key_eq]
  by_cases h : compare n m = .eq <;> simp [h]

theorem mem_names_insert (h : n ∈ (d.insert m a).names) : n = m ∨ n ∈ d.names := by
  obtain ⟨e, he, rfl⟩ := List.mem_map.1 h
  obtain he | ⟨heq | ⟨-, hmem⟩, -⟩ := OrderedMap.mem_insert he
  · exact .inr (List.mem_map_of_mem he)
  · exact .inl heq
  · exact .inr hmem

/-- A directory stays a tree when an entry is put in below a place. -/
theorem IsTree.insert (h : d.IsTree) (hparent : d.hasParentOf n = true) : (d.insert n a).IsTree := by
  obtain ⟨hascending, hnamed, hparents⟩ := isTree_iff.1 h
  obtain ⟨q, hq, hplace⟩ := hasParentOf_iff.1 hparent
  refine isTree_iff.2 ⟨hascending.insert n a, fun m hm => ?_, fun m hm p hp => ?_⟩
  · obtain rfl | hm := mem_names_insert hm
    · rw [Bool.eq_false_iff, ne_eq, ← parent?_eq_none_iff, hq]
      nofun
    · exact hnamed m hm
  · -- places stay places
    have hbefore : d.isPlace p = true := by
      obtain rfl | hm := mem_names_insert hm
      · cases hq.symm.trans hp
        exact hplace
      · exact hparents m hm p hp
    rw [isPlace_iff] at hbefore ⊢
    exact hbefore.imp_right fun hentry => hasEntry_insert_iff.2 (.inr hentry)

/-- An entry that is put in under another name leaves a tree only if the name is below a place. -/
theorem hasParentOf_of_isTree_insert (h : (d.insert n a).IsTree) : d.hasParentOf n = true := by
  have hentry : (d.insert n a).hasEntry n = true := hasEntry_insert_iff.2 (.inl rfl)
  obtain ⟨m, hm, hkey⟩ := hasEntry_iff.1 hentry
  obtain ⟨p, hp, hplace⟩ := hasParentOf_iff.1 (h.rooted m hm)
  obtain ⟨r, hr⟩ := key_of_parent? hp
  refine hasParentOf_congr hkey.symm (hasParentOf_iff.2 ⟨p, hp, ?_⟩)
  rw [isPlace_iff, hasEntry_insert_iff] at hplace
  obtain hroot | heq | hentry := hplace
  · exact isPlace_iff.2 (.inl hroot)
  · -- no name is its own parent
    rw [heq, ← hkey] at hr
    exact absurd hr (List.cons_ne_self _ _).symm
  · exact isPlace_iff.2 (.inr hentry)

/-- There is a place for the entry `o` under the name `n`: the parent of `n` is the root or another
entry. -/
def HasPlaceFor (d : Directory) (o n : DistinguishedName) : Prop :=
  ∃ p, n.parent? = some p ∧ (p.isRoot = true ∨ d.hasEntry p = true ∧ p.key ≠ o.key)

theorem hasParentOf_without_self_iff :
    (d.without fun m => compare o m == .eq).hasParentOf n = true ↔ d.HasPlaceFor o n := by
  simp only [hasParentOf_iff, isPlace_iff, hasEntry_without_self_iff, HasPlaceFor]

/-! ### Requests -/

/-- A tree stays a tree when an entry is renamed exactly if there is a place for it under the new name. -/
theorem IsTree.rename_iff (h : d.IsTree) :
    (rename o n d).2.IsTree ↔ ((rename o n d).1 = .ok () → d.HasPlaceFor o n) := by
  obtain ⟨fault, hrename⟩ | ⟨-, hleaf, a, -, hrename⟩ := rename_cases o n d <;> rw [hrename]
  · exact iff_of_true (h.logged _) nofun
  · have hwithout := h.without_leaf hleaf
    rw [← hasParentOf_without_self_iff, isTree_logged]
    exact ⟨fun htree _ => hasParentOf_of_isTree_insert htree, fun hparent => hwithout.insert (hparent rfl)⟩

end Directory

theorem keeps_isTree_add (n : DistinguishedName) (a : Attributes) :
    Keeps Directory.IsTree (add n a) := by
  intro d h
  obtain ⟨fault, hadd⟩ | ⟨-, hparent, hadd⟩ := add_cases n a d <;> rw [hadd]
  · exact h.logged _
  · exact (h.insert hparent).logged _

theorem keeps_isTree_delete (n : DistinguishedName) : Keeps Directory.IsTree (delete n) := by
  intro d h
  obtain ⟨fault, hdelete⟩ | ⟨-, hleaf, hdelete⟩ := delete_cases n d <;> rw [hdelete]
  · exact h.logged _
  · exact (h.without_leaf hleaf).logged _

theorem keeps_isTree_modify (n : DistinguishedName) (changes : List Change) :
    Keeps Directory.IsTree (modify n changes) := by
  intro d h
  obtain ⟨fault, hmodify⟩ | ⟨a, hentry, hmodify⟩ := modify_cases n changes d <;> rw [hmodify]
  · exact h.logged _
  · obtain ⟨m, heq, hmem⟩ := OrderedMap.exists_mem_of_get? hentry
    have hparent : d.hasParentOf n = true :=
      Directory.hasParentOf_congr (compare_eq_iff_key_eq.1 heq).symm
        (h.rooted m (List.mem_map_of_mem hmem))
    exact (h.insert hparent).logged _

theorem keeps_isTree_replace (session : Session Directory) (n : DistinguishedName) (a : Attributes) :
    Keeps Directory.IsTree (replace session n a) := by
  intro d h
  have hdelete := keeps_isTree_delete n d h
  rw [replace]
  rcases hd : DirectoryServer.delete session n d with ⟨fault | _, d'⟩
  · rw [show delete n d = (.error fault, d') from hd] at hdelete
    dsimp only
    split
    · exact keeps_isTree_add n a d' hdelete
    · exact hdelete
  · rw [show delete n d = (.ok (), d') from hd] at hdelete
    exact keeps_isTree_add n a d' hdelete

/-! ### Operations -/

/-- The operation gives an entry a name under which there is no place for it: that of the root, a name
below one that is no entry, or one below the entry itself. -/
def Uproots {α : Type} (op : Operation Directory τ α) (d : Directory) : Prop :=
  match op with
  | .rename old new => (renameEntry old new d).1 = .ok () ∧
      ∃ o n, old.resolve = .ok o ∧ new.resolve = .ok n ∧ ¬d.HasPlaceFor o n
  | _ => False

section

variable {request : Session Directory → Step Directory α} {d : Directory}

theorem keeps_isTree_requested {access : Access} (h : ∀ session, Keeps Directory.IsTree (request session)) :
    Keeps Directory.IsTree (requested access request) :=
  keeps_requested (fun _ events htree => htree.logged events) h

theorem keeps_isTree_createEntry (name : NameInput) (a : Attributes) :
    Keeps Directory.IsTree (createEntry name a) :=
  keeps_named (fun n => keeps_isTree_requested fun _ => keeps_isTree_add n a) name

theorem keeps_isTree_replaceEntry (name : NameInput) (a : Attributes) :
    Keeps Directory.IsTree (replaceEntry name a) :=
  keeps_named (fun n => keeps_isTree_requested fun session => keeps_isTree_replace session n a) name

theorem keeps_isTree_changeEntry (name : NameInput) (changes : List Change) :
    Keeps Directory.IsTree (changeEntry name changes) :=
  keeps_named (fun n => keeps_isTree_requested fun _ => keeps_isTree_modify n changes) name

theorem keeps_isTree_deleteEntry (name : NameInput) : Keeps Directory.IsTree (deleteEntry name) :=
  keeps_deleteEntry (fun _ events htree => htree.logged events) keeps_isTree_delete name

theorem keeps_isTree_deleteTree (name : NameInput) (recursive : Bool) :
    Keeps Directory.IsTree (deleteTree name recursive) := by
  refine keeps_named (fun n d h => ?_) name
  cases recursive with
  | true =>
    exact keeps_deleteSubtree (fun _ events htree => htree.logged events) keeps_isTree_delete
      (depth d) n d h
  | false => exact keeps_isTree_deleteEntry (.name n) d h

theorem keeps_isTree_createFromContext (c : EntryContext) :
    Keeps Directory.IsTree (createFromContext c) := by
  intro d h
  rw [createFromContext]
  cases nameToCreate "bind" c with
  | error fault => exact h
  | ok n => exact keeps_isTree_createEntry (.name n) c.attributes d h

theorem keeps_isTree_replaceFromContext (c : EntryContext) :
    Keeps Directory.IsTree (replaceFromContext c) := by
  intro d h
  rw [replaceFromContext]
  cases nameToCreate "rebind" c with
  | error fault => exact h
  | ok n => exact keeps_isTree_replaceEntry (.name n) c.attributes d h

theorem keeps_isTree_updateFromContext (c : EntryContext) :
    Keeps Directory.IsTree (updateFromContext c) := by
  intro d h
  rw [updateFromContext]
  cases c.name? with
  | none => exact h
  | some n =>
    dsimp only
    split
    · exact keeps_isTree_changeEntry (.name n) c.changes d h
    · exact h

/-- A renaming leaves a tree unless it uproots the entry. -/
theorem isTree_renameEntry_iff (old new : NameInput) (h : d.IsTree) :
    (renameEntry old new d).2.IsTree ↔ ¬Uproots (.rename old new : Operation Directory τ Unit) d := by
  rw [Uproots, renameEntry, named]
  cases ho : old.resolve with
  | error e =>
    refine iff_of_true h fun hup => ?_
    cases hup.1
  | ok o =>
    dsimp only
    rw [named]
    cases hn : new.resolve with
    | error e =>
      refine iff_of_true h fun hup => ?_
      cases hup.1
    | ok n =>
      dsimp only
      obtain ⟨fault, -, hrun⟩ | ⟨-, hrun⟩ :=
        requested_cases .readWrite (fun session => DirectoryServer.rename session o n) d
      · rw [hrun]
        refine iff_of_true h fun hup => ?_
        cases hup.1
      · have hrename := (h.logged [.acquire .readWrite]).rename_iff (o := o) (n := n)
        rw [hrun, Directory.isTree_logged, mapError_eq_ok_iff]
        refine hrename.trans ⟨fun hplace hup => ?_, fun hrooted hok => ?_⟩
        · obtain ⟨hok, o', n', ho', hn', hnone⟩ := hup
          cases ho'
          cases hn'
          exact hnone (hplace hok)
        · by_contra hnone
          exact hrooted ⟨hok, o, n, rfl, rfl, hnone⟩

/-- A write leaves a tree exactly if it uproots no entry. -/
theorem isTree_run_iff {ignorePartial : Bool} {op : Operation Directory τ α} (hwrites : op.Writes)
    {w : World Directory τ} (h : w.server.IsTree) :
    (op.run ignorePartial w).2.server.IsTree ↔ ¬Uproots op w.server := by
  cases op with
  | create name a => exact iff_of_true (keeps_isTree_createEntry name a _ h) nofun
  | replace name a => exact iff_of_true (keeps_isTree_replaceEntry name a _ h) nofun
  | delete name => exact iff_of_true (keeps_isTree_deleteEntry name _ h) nofun
  | deleteTree name recursive => exact iff_of_true (keeps_isTree_deleteTree name recursive _ h) nofun
  | rename old new => exact isTree_renameEntry_iff old new h
  | change name changes => exact iff_of_true (keeps_isTree_changeEntry name changes _ h) nofun
  | createFromContext c => exact iff_of_true (keeps_isTree_createFromContext c _ h) nofun
  | replaceFromContext c => exact iff_of_true (keeps_isTree_replaceFromContext c _ h) nofun
  | updateFromContext c => exact iff_of_true (keeps_isTree_updateFromContext c _ h) nofun
  | _ => exact hwrites.elim

end

/-- **The directory is a tree all along a sequence of writes** exactly if none of them uproots an entry,
whether the writes succeed or fail. -/
theorem tree_throughout_iff {ignorePartial : Bool} {ops : List (Operation Directory τ Unit)}
    {w : World Directory τ} (hwrites : ∀ op ∈ ops, op.Writes) (htree : w.server.IsTree) :
    (∀ done, done <+: ops → (Operation.runAll ignorePartial done w).server.IsTree) ↔
      ∀ done op, done ++ [op] <+: ops →
        ¬Uproots op (Operation.runAll ignorePartial done w).server := by
  constructor
  · intro h done op hinit
    have hop : op.Writes := hwrites op (hinit.subset (by simp))
    have hafter := h (done ++ [op]) hinit
    rw [Operation.runAll_concat] at hafter
    exact (isTree_run_iff hop (h done ((List.prefix_append done [op]).trans hinit))).1 hafter
  · intro h done hinit
    induction done using List.reverseRecOn with
    | nil => exact htree
    | append_singleton done op ih =>
      have hop : op.Writes := hwrites op (hinit.subset (by simp))
      have hbefore := ih ((List.prefix_append done [op]).trans hinit)
      rw [Operation.runAll_concat]
      exact (isTree_run_iff hop hbefore).2 (h done op hinit)

theorem isAttributeType_c : isAttributeType "c" = true := by decide

theorem isAttributeType_ou : isAttributeType "ou" = true := by decide

/-- A company in the country. -/
def company : DistinguishedName := sweden.child ⟨⟨"ou", "Company", isAttributeType_ou⟩, []⟩

/-- A country that is no entry. -/
def finland : DistinguishedName := ⟨[⟨⟨"c", "Finland", isAttributeType_c⟩, []⟩]⟩

/-- The company closes, and its country takes the name of the one that is no entry. -/
def closure : List (Operation Directory Unit Unit) :=
  [.deleteTree (.name company) true, .rename (.name sweden) (.name finland)]

/-- The countries are a tree all along if no entry is uprooted when the company closes. -/
theorem tree_throughout_closure :
    (∀ op ∈ closure, op.Writes) ∧ countries.IsTree ∧
    ((∀ done, done <+: closure → (Operation.runAll false done ⟨countries, ()⟩).server.IsTree) ↔
      ∀ done op, done ++ [op] <+: closure →
        ¬Uproots op (Operation.runAll false done ⟨countries, ()⟩).server) := by
  have hwrites : ∀ op ∈ closure, op.Writes := by
    intro op hop
    simp only [closure, List.mem_cons, List.not_mem_nil, or_false] at hop
    obtain rfl | rfl := hop <;> exact trivial
  have htree := intact_countries.tree
  exact ⟨hwrites, htree, tree_throughout_iff hwrites htree⟩

/-- The company moves to the country that is no entry. -/
def move : Operation Directory Unit Unit :=
  .rename (.name company) (.name (finland.child ⟨⟨"ou", "Company", isAttributeType_ou⟩, []⟩))

/-- A renaming succeeds below a name that is no entry, and what was a tree is none any more. -/
theorem not_isTree_after_move :
    countries.IsTree ∧ move.Writes ∧ (move.run false ⟨countries, ()⟩).1 = .ok () ∧
      ¬(Operation.runAll false [move] ⟨countries, ()⟩).server.IsTree := by
  have htree := intact_countries.tree
  have hmoved : (Operation.runAll false [move] ⟨countries, ()⟩).server.names.any
      (fun n => !(Operation.runAll false [move] ⟨countries, ()⟩).server.hasParentOf n) = true := by
    decide +kernel
  obtain ⟨n, hn, horphan⟩ := List.any_eq_true.1 hmoved
  refine ⟨htree, trivial, by decide +kernel, fun h => ?_⟩
  rw [h.rooted n hn] at horphan
  cases horphan

end InMemory

end DirectoryAccess
