import DirectoryAccess.Operation.Read
import DirectoryAccess.Operation.Write
import DirectoryAccess.Proofs.Entry.Changes
import DirectoryAccess.Proofs.InMemory.Requests

/-!
# Entries that are read, edited and written back

A caller reads an entry, edits its attributes and writes the changes back. The textual values arrive as
the caller left them (`updateFromContext_text`). Values of bytes are not compared, so that an attribute
that has nothing else stays although the caller took it out, and the bytes of an attribute go with its
last textual value although the caller still has them (`updateFromContext_binary`).
-/

namespace DirectoryAccess.InMemory

open DirectoryServer Std

namespace Directory

/-! ### Well-formed directories -/

/-- Entries are kept in the order of their names, and attributes by their folded names. -/
structure WellFormed (d : Directory) : Prop where
  /-- The names of the entries are ascending. -/
  entries : d.entries.Ascending
  /-- The attributes of each entry are well-formed. -/
  attributes : ∀ e ∈ d.entries.toList, e.2.WellFormed

namespace WellFormed

variable {d : Directory} {a : Attributes} {n : DistinguishedName}

theorem logged (h : d.WellFormed) (events : List Event) : (d.logged events).WellFormed := ⟨h.1, h.2⟩

theorem attributes_of_get? (h : d.WellFormed) (hentry : d.entries.get? n = some a) : a.WellFormed := by
  obtain ⟨m, -, hmem⟩ := OrderedMap.exists_mem_of_get? hentry
  exact h.attributes _ hmem

theorem insert (h : d.WellFormed) (n : DistinguishedName) (ha : a.WellFormed) :
    WellFormed { d with entries := d.entries.insert n a } where
  entries := h.entries.insert n a
  attributes e he := by
    obtain he | ⟨-, rfl⟩ := OrderedMap.mem_insert he
    · exact h.attributes e he
    · exact ha

theorem erase (h : d.WellFormed) (n : DistinguishedName) :
    WellFormed { d with entries := d.entries.erase n } where
  entries := h.entries.erase n
  attributes e he := h.attributes e (List.mem_filter.1 he).1

/-- A directory stays well-formed when entries with well-formed attributes are created. -/
theorem add (h : d.WellFormed) (n : DistinguishedName) (ha : a.WellFormed) :
    (add n a d).2.WellFormed := by
  unfold InMemory.add
  dsimp only
  split
  · exact h.logged _
  · split
    · exact (h.logged _).insert n ha
    · exact h.logged _

/-- A directory stays well-formed when entries are deleted. -/
theorem delete (h : d.WellFormed) (n : DistinguishedName) : (delete n d).2.WellFormed := by
  unfold InMemory.delete
  dsimp only
  split
  · exact h.logged _
  · split
    · exact h.logged _
    · exact (h.logged _).erase n

/-- A directory stays well-formed whatever changes are made. -/
theorem modify (h : d.WellFormed) (n : DistinguishedName) (changes : List Change) :
    (modify n changes d).2.WellFormed := by
  unfold InMemory.modify
  dsimp only
  split
  · exact h.logged _
  · next hentry =>
    have ha := h.attributes_of_get? hentry
    exact (h.logged _).insert n (Change.wellFormed_applyAll ha changes)

/-- A directory stays well-formed when entries are renamed. -/
theorem rename (h : d.WellFormed) (old new : DistinguishedName) : (rename old new d).2.WellFormed := by
  unfold InMemory.rename
  dsimp only
  split
  · exact h.logged _
  · split
    · exact h.logged _
    · split
      · exact h.logged _
      · next hentry => exact ((h.logged _).erase old).insert new (h.attributes_of_get? hentry)

end WellFormed

end Directory

/-! ### Reading an entry -/

variable {d : Directory} {m n : DistinguishedName} {a : Attributes} {name : NameInput}

/-- What is recorded when an entry is read. -/
def readingEvents (n : DistinguishedName) : List Event :=
  [.acquire .readOnly, .search (.entry n []), .searchFinished, .release .readOnly]

theorem cannotAnswer_entry (d : Directory) (n : DistinguishedName) (attributes : List String) :
    d.cannotAnswer (.entry n attributes) = false := by
  simp [Directory.cannotAnswer, SearchRequest.entry, stumbles_anyEntry]

/-- The search for an entry that has an object class finds this entry alone, with all its attributes. -/
theorem found_entry (hform : d.entries.Ascending) (hentry : (m, a) ∈ d.entries.toList)
    (hkey : compare n m = .eq) (hclass : a.contains "objectClass" = true) :
    d.found (.entry n []) = [⟨m, a⟩] := by
  have hsought : ∀ e ∈ d.entries.toList,
      (Directory.inScope .base n e.1 && Filter.accepts SearchRequest.anyEntry e.2) =
        (compare n e.1 == .eq) := by
    intro e he
    rw [Bool.eq_iff_iff, Bool.and_eq_true, accepts_anyEntry, beq_iff_eq, Directory.inScope,
      DistinguishedName.beq_iff_key_eq, DistinguishedName.compare_eq_iff_key_eq]
    constructor
    · rintro ⟨heq, -⟩
      exact heq.symm
    · intro heq
      have hsame : e = (m, a) := by
        refine hform.eq_of_compare he hentry (DistinguishedName.compare_eq_iff_key_eq.2 ?_)
        exact heq.symm.trans (DistinguishedName.compare_eq_iff_key_eq.1 hkey)
      rw [hsame] at heq ⊢
      exact ⟨heq.symm, hclass⟩
  have honly := (List.filter_congr hsought).trans (hform.filter_compare_eq hentry hkey)
  rw [Directory.found]
  exact congrArg (List.map _) honly

/-- An entry that has an object class is read with all its attributes. -/
theorem lookup_eq (hserves : d.Serves) (hform : d.entries.Ascending) (hname : name.resolve = .ok n)
    (hentry : (m, a) ∈ d.entries.toList) (hkey : compare n m = .eq)
    (hclass : a.contains "objectClass" = true) :
    lookup name d = (.ok (.existing m d.base a), d.logged (readingEvents n)) := by
  have hplace : d.isPlace n = true := by
    refine Directory.isPlace_of_hasEntry (Directory.hasEntry_iff.2 ⟨m, List.mem_map_of_mem hentry, ?_⟩)
    exact DistinguishedName.compare_eq_iff_key_eq.1 hkey
  have hsearch : searchAll AccessMode.readOnly (.entry n []) (d.logged [.acquire .readOnly]) =
      (.ok [⟨m, a⟩],
        d.logged [.acquire .readOnly, .search (.entry n []), .searchFinished]) := by
    have hplace' : (d.logged [.acquire .readOnly]).isPlace (SearchRequest.entry n []).base = true := hplace
    rw [searchAll_eq (hserves.logged _) hplace' (cannotAnswer_entry _ n []) rfl, Directory.found_logged,
      found_entry hform hentry hkey hclass, Directory.logged_logged]
    rfl
  have hread : readEntry AccessMode.readOnly n [] (d.logged [.acquire .readOnly]) =
      (.ok ⟨m, a⟩, d.logged [.acquire .readOnly, .search (.entry n []), .searchFinished]) := by
    rw [readEntry, hsearch]
  rw [lookup, named, hname]
  dsimp only
  rw [requested_eq hserves .readOnly nofun (readEntry · n []) hread, Directory.logged_logged]
  rfl

/-! ### Writing an entry back -/

/-- What is recorded when an entry is changed. -/
def updateEvents (n : DistinguishedName) (changes : List Change) : List Event :=
  [.acquire .readWrite, .modify n changes, .release .readWrite]

/-- An entry is changed by applying the changes to its attributes. -/
theorem modify_eq (hentry : d.entries.get? n = some a) (changes : List Change) :
    modify n changes d = (.ok (),
      { d with entries := d.entries.insert n (Change.applyAll changes a) }.logged
        [.modify n changes]) := by
  have hentry' : (d.logged [.modify n changes]).entries.get? n = some a := hentry
  rw [modify, Directory.record_eq_logged, hentry']
  rfl

/-- The changes of a context are written to its entry. -/
theorem updateFromContext_eq {c : EntryContext} (hserves : d.Serves) (hname : c.name? = some n)
    (hbound : c.isBound = true) (hentry : d.entries.get? n = some a) :
    updateFromContext c d = (.ok (),
      { d with entries := d.entries.insert n (Change.applyAll c.changes a) }.logged
        (updateEvents n c.changes)) := by
  have hmodify : DirectoryServer.modify AccessMode.readWrite n c.changes
      (d.logged [.acquire .readWrite]) = _ :=
    modify_eq (d := d.logged [.acquire .readWrite]) hentry c.changes
  rw [updateFromContext, hname]
  dsimp only
  rw [if_pos hbound]
  refine (requested_eq hserves .readWrite nofun (DirectoryServer.modify · n c.changes) hmodify).trans ?_
  rw [Directory.logged_logged]
  exact congrArg (Prod.mk _) (Directory.logged_logged
    { d with entries := d.entries.insert n (Change.applyAll c.changes a) }
    [.acquire .readWrite] [.modify n c.changes, .release .readWrite])

/-- An entry is read, its attributes are edited and the changes are written back: all of it succeeds, and
the changes have been applied to the attributes of this entry and no other. -/
theorem exists_update (hserves : d.Serves) (hform : d.entries.Ascending) (hname : name.resolve = .ok n)
    (hentry : (m, a) ∈ d.entries.toList) (hkey : compare n m = .eq)
    (hclass : a.contains "objectClass" = true) (edits : List Edit) :
    ∃ read written, lookup name d = (.ok (.existing m d.base a), read) ∧
      updateFromContext ((EntryContext.existing m d.base a).editAll edits) read = (.ok (), written) ∧
      ∀ k, written.entries.get? k =
        if compare k n = .eq then
          some (Change.applyAll ((EntryContext.existing m d.base a).editAll edits).changes a)
        else d.entries.get? k := by
  have hget : (d.logged (readingEvents n)).entries.get? m = some a :=
    hform.get?_eq_some hentry ReflCmp.compare_self
  have hupdate := updateFromContext_eq (c := (EntryContext.existing m d.base a).editAll edits)
    (hserves.logged (readingEvents n)) (by rw [EntryContext.editAll_eq]; rfl)
    (by rw [EntryContext.editAll_eq]; rfl) hget
  refine ⟨_, _, lookup_eq hserves hform hname hentry hkey hclass, hupdate, fun k => ?_⟩
  rw [TransCmp.congr_right hkey]
  exact OrderedMap.get?_insert d.entries m k _

/-! ### What is stored -/

/-- **Textual values arrive as the caller left them.** An entry that has an object class is read, its
attributes are edited in any way, and the changes are written back. This succeeds. The entry then has the
textual values of the context, and the other entries are as they were. There is one change of each
attribute whose textual values differ from those that were read, and none of any other attribute. The
order in which the changes are applied does not matter. -/
theorem updateFromContext_text (hserves : d.Serves) (hform : d.WellFormed)
    (hname : name.resolve = .ok n) (hentry : (m, a) ∈ d.entries.toList) (hkey : compare n m = .eq)
    (hclass : a.contains "objectClass" = true) (edits : List Edit) :
    ∃ context edited read written stored, lookup name d = (.ok context, read) ∧
      edited = context.editAll edits ∧ updateFromContext edited read = (.ok (), written) ∧
      (∀ k, written.entries.get? k = if compare k n = .eq then some stored else d.entries.get? k) ∧
      (∀ attr, stored.values attr = edited.attributes.values attr) ∧
      (edited.changes.map fun change => foldName change.attr).Nodup ∧
      (∀ attr, Change.Concerns edited.changes attr ↔ edited.attributes.text? attr ≠ a.text? attr) ∧
      ∀ changes, changes.Perm edited.changes → Change.applyAll changes a = stored := by
  have ha : a.WellFormed := hform.attributes _ hentry
  have htracks := (EntryContext.tracks_existing m d.base ha).editAll edits
  obtain ⟨read, written, hread, hwritten, hentries⟩ :=
    exists_update hserves hform.entries hname hentry hkey hclass edits
  refine ⟨_, _, read, written, _, hread, rfl, hwritten, hentries, ?_, ?_, ?_, ?_⟩
  · exact htracks.values_applyAll
  · exact htracks.nodup_changes
  · exact htracks.concerns_changes_iff
  · exact fun changes hperm => Change.applyAll_perm hperm htracks.carries ha

/-- An employee. -/
def ola : DistinguishedName := ⟨[⟨⟨"givenname", "Ola", by decide⟩, []⟩]⟩

/-- The attributes of the employee: a photo of bytes, and a key that is given both as text and as bytes. -/
def employee : Attributes :=
  .ofLists [("objectclass", ["person"]), ("cn", ["Ola"]), ("key", ["old"])]
    [("photo", [[1, 2]]), ("key", [[7]])]

theorem contains_employee : employee.contains "objectClass" = true := by
  have hfold : foldName "objectClass" = "objectclass" := by cbv
  rw [Attributes.contains, Attributes.text?, Attributes.binary?, hfold]
  cbv

/-- A directory with one employee. -/
def office : Directory := { entries := ⟨[(ola, employee)]⟩ }

theorem wellFormed_office : office.WellFormed where
  entries := List.pairwise_singleton _ _
  attributes e he := by
    obtain rfl := List.mem_singleton.1 he
    exact .ofLists _ _

/-- The employee gets a second name under another letter case, and a key is emptied and filled again. -/
theorem updateFromContext_text_office :
    let edits : List Edit :=
      [.addValue "CN" "Olaf", .removeValue "key" "old", .setValues "mail" [], .setValue "Key" "new"]
    office.Serves ∧ office.WellFormed ∧ NameInput.resolve (.name ola) = .ok ola ∧
    (ola, employee) ∈ office.entries.toList ∧ compare ola ola = .eq ∧
    employee.contains "objectClass" = true ∧
    ∃ context edited read written stored, lookup (.name ola) office = (.ok context, read) ∧
      edited = context.editAll edits ∧ updateFromContext edited read = (.ok (), written) ∧
      (∀ k, written.entries.get? k =
        if compare k ola = .eq then some stored else office.entries.get? k) ∧
      (∀ attr, stored.values attr = edited.attributes.values attr) ∧
      (edited.changes.map fun change => foldName change.attr).Nodup ∧
      (∀ attr, Change.Concerns edited.changes attr ↔
        edited.attributes.text? attr ≠ employee.text? attr) ∧
      ∀ changes, changes.Perm edited.changes → Change.applyAll changes employee = stored := by
  have hentry : (ola, employee) ∈ office.entries.toList := List.mem_singleton.2 rfl
  have hkey : compare ola ola = .eq := ReflCmp.compare_self
  exact ⟨⟨rfl, rfl, rfl, rfl⟩, wellFormed_office, rfl, hentry, hkey, contains_employee,
    updateFromContext_text ⟨rfl, rfl, rfl, rfl⟩ wellFormed_office rfl hentry hkey contains_employee _⟩

theorem ite_none_eq_ite_none_iff {β : Type} {p q : Prop} [Decidable p] [Decidable q] {b? : Option β} :
    (if p then none else b?) = (if q then none else b?) ↔ b? = none ∨ (q ↔ p) := by
  cases b? with
  | none => simp
  | some b => by_cases hp : p <;> by_cases hq : q <;> simp [hp, hq]

/-- **Which bytes are stored.** Where an entry that has an object class is read, edited and written back,
the bytes of an attribute go if its textual values were changed and are none now, and stay otherwise. So
they are those of the context exactly if the attribute had no bytes, or was taken out by the caller just
when that is so. -/
theorem updateFromContext_binary (hserves : d.Serves) (hform : d.WellFormed)
    (hname : name.resolve = .ok n) (hentry : (m, a) ∈ d.entries.toList) (hkey : compare n m = .eq)
    (hclass : a.contains "objectClass" = true) (edits : List Edit) :
    ∃ context edited read written stored, lookup name d = (.ok context, read) ∧
      edited = context.editAll edits ∧ updateFromContext edited read = (.ok (), written) ∧
      written.entries.get? n = some stored ∧
      ∀ attr,
        (stored.binary? attr =
          if edited.attributes.text? attr ≠ a.text? attr ∧ edited.attributes.values attr = [] then none
          else a.binary? attr) ∧
        (stored.binary? attr = edited.attributes.binary? attr ↔
          a.binary? attr = none ∨
            (edits.any (·.removes attr) = true ↔
              edited.attributes.text? attr ≠ a.text? attr ∧ edited.attributes.values attr = [])) := by
  have htracks := (EntryContext.tracks_existing m d.base (hform.attributes _ hentry)).editAll edits
  obtain ⟨read, written, hread, hwritten, hentries⟩ :=
    exists_update hserves hform.entries hname hentry hkey hclass edits
  have hstored := hentries n
  rw [if_pos ReflCmp.compare_self] at hstored
  refine ⟨_, _, read, written, _, hread, rfl, hwritten, hstored, fun attr => ?_⟩
  have hbytes : ((EntryContext.existing m d.base a).editAll edits).attributes.binary? attr =
      if edits.any (·.removes attr) then none else a.binary? attr := by
    rw [EntryContext.editAll_eq]
    exact Edit.binary?_applyAll edits a attr
  refine ⟨htracks.binary?_applyAll attr, ?_⟩
  rw [htracks.binary?_applyAll, hbytes]
  exact ite_none_eq_ite_none_iff

/-- The employee has the bytes of the photo, which nobody touches. -/
theorem updateFromContext_binary_office :
    let edits : List Edit := [.setValue "cn" "Olaf", .remove "key"]
    office.Serves ∧ office.WellFormed ∧ NameInput.resolve (.name ola) = .ok ola ∧
    (ola, employee) ∈ office.entries.toList ∧ compare ola ola = .eq ∧
    employee.contains "objectClass" = true ∧
    ∃ context edited read written stored, lookup (.name ola) office = (.ok context, read) ∧
      edited = context.editAll edits ∧ updateFromContext edited read = (.ok (), written) ∧
      written.entries.get? ola = some stored ∧
      ∀ attr,
        (stored.binary? attr =
          if edited.attributes.text? attr ≠ employee.text? attr ∧ edited.attributes.values attr = [] then
            none
          else employee.binary? attr) ∧
        (stored.binary? attr = edited.attributes.binary? attr ↔
          employee.binary? attr = none ∨
            (edits.any (·.removes attr) = true ↔
              edited.attributes.text? attr ≠ employee.text? attr ∧
                edited.attributes.values attr = [])) := by
  have hentry : (ola, employee) ∈ office.entries.toList := List.mem_singleton.2 rfl
  have hkey : compare ola ola = .eq := ReflCmp.compare_self
  exact ⟨⟨rfl, rfl, rfl, rfl⟩, wellFormed_office, rfl, hentry, hkey, contains_employee,
    updateFromContext_binary ⟨rfl, rfl, rfl, rfl⟩ wellFormed_office rfl hentry hkey contains_employee _⟩

/-- A photo that the caller took out is still stored, and a key whose bytes the caller still has is not. -/
theorem stored_bytes_differ :
    ∃ context edited read written stored, lookup (.name ola) office = (.ok context, read) ∧
      edited = context.editAll [.remove "photo", .removeValue "key" "old"] ∧
      updateFromContext edited read = (.ok (), written) ∧
      written.entries.get? ola = some stored ∧
      edited.attributes.binary? "photo" = none ∧ stored.binary? "photo" = some [[1, 2]] ∧
      edited.attributes.binary? "key" = some [[7]] ∧ stored.binary? "key" = none := by
  have hentry : (ola, employee) ∈ office.entries.toList := List.mem_singleton.2 rfl
  have hname : NameInput.resolve (.name ola) = .ok ola := rfl
  have hkey : compare ola ola = .eq := ReflCmp.compare_self
  obtain ⟨read, written, hread, hwritten, hentries⟩ :=
    exists_update ⟨rfl, rfl, rfl, rfl⟩ wellFormed_office.entries hname hentry hkey contains_employee
      [.remove "photo", .removeValue "key" "old"]
  have hstored := hentries ola
  rw [if_pos hkey] at hstored
  exact ⟨_, _, read, written, _, hread, rfl, hwritten, hstored, by cbv, by cbv, by cbv, by cbv⟩

end DirectoryAccess.InMemory
