import DirectoryAccess.Entry.Context
import DirectoryAccess.Proofs.Entry.Attributes

/-!
# Tracked changes

A caller edits the attributes of an entry that it has read, and the changes of its context are written
back. They name the attributes whose textual values differ from those that were read, each of them once,
and give them the textual values of the context, in whatever order they are applied. Values of bytes are
not compared; they go with the last textual value of their attribute.
-/

namespace DirectoryAccess

/-! ### Edits -/

/-- What a caller does to an attribute of an entry that it works with. -/
inductive Edit where
  /-- The attribute gets one textual value in place of those it has. -/
  | setValue (name value : String)
  /-- The attribute gets these textual values in place of those it has. -/
  | setValues (name : String) (values : List String)
  /-- A textual value is added. -/
  | addValue (name value : String)
  /-- A textual value is taken out. -/
  | removeValue (name value : String)
  /-- The attribute is taken out. -/
  | remove (name : String)

namespace Edit

/-- The attributes after an edit. -/
def apply : Edit → Attributes → Attributes
  | .setValue name value, a => a.setText name [value]
  | .setValues name values, a => a.setText name values
  | .addValue name value, a => a.addText name value
  | .removeValue name value, a => a.removeText name value
  | .remove name, a => a.erase name

/-- The attributes after edits, one after the other. -/
def applyAll (edits : List Edit) (a : Attributes) : Attributes := edits.foldl (fun a e => e.apply a) a

/-- Whether an edit takes this attribute out. -/
def removes (n : String) : Edit → Bool
  | .remove name => foldName n == foldName name
  | _ => false

variable {a : Attributes}

theorem wellFormed_apply (h : a.WellFormed) (e : Edit) : (e.apply a).WellFormed := by
  cases e with
  | setValue name value => exact h.setText name [value]
  | setValues name values => exact h.setText name values
  | addValue name value => exact h.addText name value
  | removeValue name value => exact h.removeText name value
  | remove name => exact h.erase name

theorem wellFormed_applyAll (h : a.WellFormed) (edits : List Edit) : (applyAll edits a).WellFormed :=
  List.foldlRecOn edits _ h fun _ h e _ => wellFormed_apply h e

/-- Of the edits only a removal of the attribute touches its bytes. -/
theorem binary?_apply (e : Edit) (a : Attributes) (n : String) :
    (e.apply a).binary? n = if e.removes n then none else a.binary? n := by
  cases e with
  | setValue name value => exact a.binary?_setText n name [value]
  | setValues name values => exact a.binary?_setText n name values
  | addValue name value => exact a.binary?_addText n name value
  | removeValue name value => exact a.binary?_removeText n name value
  | remove name => simp [apply, removes, Attributes.binary?_erase]

theorem binary?_applyAll (edits : List Edit) (a : Attributes) (n : String) :
    (applyAll edits a).binary? n = if edits.any (·.removes n) then none else a.binary? n := by
  induction edits generalizing a with
  | nil => rfl
  | cons e edits ih =>
    rw [applyAll, List.foldl_cons, ← applyAll, ih, binary?_apply, List.any_cons]
    cases e.removes n <;> simp

end Edit

/-! ### Writing an attribute -/

namespace Attributes

/-- The textual values of an attribute; there are none if it is absent. -/
def values (a : Attributes) (n : String) : List String := (a.text? n).getD []

theorem text?_congr (a : Attributes) {n m : String} (h : foldName n = foldName m) :
    a.text? n = a.text? m := congrArg a.text.get? h

theorem values_congr (a : Attributes) {n m : String} (h : foldName n = foldName m) :
    a.values n = a.values m := by
  rw [values, values, a.text?_congr h]

/-- Gives an attribute these textual values, or takes it out with all its values if there are none. -/
def write (a : Attributes) (name : String) (values : List String) : Attributes :=
  if values = [] then a.erase name else a.setText name values

theorem text?_write (a : Attributes) (n name : String) (values : List String) :
    (a.write name values).text? n =
      if foldName n = foldName name then if values = [] then none else some values else a.text? n := by
  unfold write
  by_cases h : values = [] <;> simp [h, text?_erase, text?_setText]

theorem binary?_write (a : Attributes) (n name : String) (values : List String) :
    (a.write name values).binary? n =
      if foldName n = foldName name then if values = [] then none else a.binary? n
      else a.binary? n := by
  unfold write
  by_cases h : values = [] <;> simp [h, binary?_erase]

end Attributes

/-! ### Applying changes -/

namespace Change

variable {a t : Attributes} {changes : List Change}

theorem wellFormed_apply (h : a.WellFormed) (c : Change) : (c.apply a).WellFormed := by
  unfold apply
  split
  · exact List.foldlRecOn _ _ h fun _ h value _ => h.addText c.attr value
  · exact h.erase c.attr
  · exact h.erase c.attr
  · exact h.setText c.attr _
  · exact List.foldlRecOn _ _ h fun _ h value _ => h.removeText c.attr value

theorem wellFormed_applyAll (h : a.WellFormed) (changes : List Change) :
    (applyAll changes a).WellFormed :=
  List.foldlRecOn changes _ h fun _ h c _ => wellFormed_apply h c

/-- The change gives its attribute the textual values that it has in `t`. -/
def Carries (t : Attributes) (c : Change) : Prop := ∀ a, c.apply a = a.write c.attr (t.values c.attr)

/-- Some of the changes is one of this attribute. -/
def Concerns (changes : List Change) (n : String) : Prop := ∃ c ∈ changes, foldName n = foldName c.attr

instance (changes : List Change) (n : String) : Decidable (Concerns changes n) :=
  inferInstanceAs (Decidable (∃ c ∈ changes, foldName n = foldName c.attr))

/-- What is read of an attribute after some changes, where each change of the attribute has the same
effect `f` and no other change has any. -/
theorem read_applyAll {β : Type} (read : Attributes → β) (f : β → β) {n : String}
    (hf : ∀ x, f (f x) = f x)
    (hread : ∀ c ∈ changes, ∀ a,
      read (c.apply a) = if foldName n = foldName c.attr then f (read a) else read a)
    (a : Attributes) :
    read (applyAll changes a) = if Concerns changes n then f (read a) else read a := by
  induction changes generalizing a with
  | nil => simp [applyAll, Concerns]
  | cons c changes ih =>
    have hstep := hread c List.mem_cons_self a
    rw [applyAll, List.foldl_cons, ← applyAll, ih (fun c hc => hread c (List.mem_cons_of_mem _ hc)), hstep]
    by_cases hc : foldName n = foldName c.attr
    · by_cases hrest : Concerns changes n <;> simp [Concerns, hc, hf]
    · simp [Concerns, hc]

theorem text?_applyAll (h : ∀ c ∈ changes, c.Carries t) (a : Attributes) (n : String) :
    (applyAll changes a).text? n =
      if Concerns changes n then if t.values n = [] then none else some (t.values n)
      else a.text? n := by
  refine read_applyAll (·.text? n) (fun _ => if t.values n = [] then none else some (t.values n))
    (fun _ => rfl) (fun c hc a => ?_) a
  rw [h c hc, Attributes.text?_write]
  split
  · next heq => rw [t.values_congr heq]
  · rfl

theorem binary?_applyAll (h : ∀ c ∈ changes, c.Carries t) (a : Attributes) (n : String) :
    (applyAll changes a).binary? n =
      if Concerns changes n then if t.values n = [] then none else a.binary? n
      else a.binary? n := by
  refine read_applyAll (·.binary? n) (fun bytes? => if t.values n = [] then none else bytes?)
    (fun bytes? => by split <;> rfl) (fun c hc a => ?_) a
  rw [h c hc, Attributes.binary?_write]
  split
  · next heq => rw [t.values_congr heq]
  · rfl

theorem concerns_perm {changes' : List Change} (hperm : changes'.Perm changes) (n : String) :
    Concerns changes' n ↔ Concerns changes n := by
  simp only [Concerns, hperm.mem_iff]

/-- Changes that carry values over may be applied in any order. -/
theorem applyAll_perm {changes' : List Change} (hperm : changes'.Perm changes)
    (h : ∀ c ∈ changes, c.Carries t) (ha : a.WellFormed) :
    applyAll changes' a = applyAll changes a := by
  have h' : ∀ c ∈ changes', c.Carries t := fun c hc => h c (hperm.mem_iff.1 hc)
  refine (wellFormed_applyAll ha changes').ext (wellFormed_applyAll ha changes) ?_ ?_
  · intro n
    simp only [text?_applyAll h, text?_applyAll h', concerns_perm hperm]
  · intro n
    simp only [binary?_applyAll h, binary?_applyAll h', concerns_perm hperm]

end Change

/-! ### The changes of a context -/

/-- The change that gives an attribute these textual values, or takes it out. -/
def changeTo (name : String) : Option (List String) → Change
  | some values => ⟨.replace, name, values⟩
  | none => ⟨.remove, name, []⟩

@[simp] theorem attr_changeTo (name : String) (values? : Option (List String)) :
    (changeTo name values?).attr = name := by
  cases values? <;> rfl

/-- The change to the textual values of an attribute carries them over. -/
theorem carries_changeTo (t : Attributes) (name : String) :
    (changeTo name (t.text? name)).Carries t := by
  intro a
  rw [attr_changeTo, Attributes.values]
  cases t.text? name with
  | none => rfl
  | some values => cases values <;> rfl

namespace EntryContext

/-- The entry was read with the attributes `loaded`, and the attributes of the context are well-formed. -/
structure Tracks (c : EntryContext) (loaded : Attributes) : Prop where
  /-- These attributes were read. -/
  loaded_eq : c.loaded? = some loaded
  /-- They are well-formed. -/
  read : loaded.WellFormed
  /-- The present ones are, too. -/
  present : c.attributes.WellFormed

/-- The context after edits of its attributes. -/
def editAll (c : EntryContext) (edits : List Edit) : EntryContext :=
  edits.foldl (fun c e => c.edit e.apply) c

theorem editAll_eq (c : EntryContext) (edits : List Edit) :
    c.editAll edits = c.edit (Edit.applyAll edits) := by
  induction edits generalizing c with
  | nil => rfl
  | cons e edits ih => exact ih (c.edit e.apply)

variable {c : EntryContext} {loaded : Attributes}

theorem tracks_existing (name base : DistinguishedName) (h : loaded.WellFormed) :
    (existing name base loaded).Tracks loaded := ⟨rfl, h, h⟩

theorem Tracks.editAll (h : c.Tracks loaded) (edits : List Edit) : (c.editAll edits).Tracks loaded := by
  rw [editAll_eq]
  exact ⟨h.loaded_eq, h.read, Edit.wellFormed_applyAll h.present edits⟩

/-- **The changes of a context** are those of the attributes whose textual values differ from the values
that were read, under their folded names. -/
theorem Tracks.mem_changes_iff (h : c.Tracks loaded) {change : Change} :
    change ∈ c.changes ↔ ∃ name, foldName name = name ∧
      c.attributes.text? name ≠ loaded.text? name ∧
      change = changeTo name (c.attributes.text? name) := by
  simp only [changes, h.loaded_eq, List.mem_append, List.mem_map, List.mem_filter, Prod.exists, bne_iff_ne]
  constructor
  · rintro (⟨name, values, ⟨hmem, hne⟩, rfl⟩ | ⟨name, ⟨hmem, hnone⟩, rfl⟩)
    · obtain ⟨hfold, hvalues⟩ := h.present.text.mem_toList_iff.1 hmem
      refine ⟨name, hfold, ?_, ?_⟩
      · rw [Attributes.text?, hvalues]
        exact hne.symm
      · rw [Attributes.text?, hvalues]
        rfl
    · obtain ⟨⟨name, values⟩, hentry, rfl⟩ := List.mem_map.1 hmem
      dsimp only at hnone ⊢
      obtain ⟨hfold, hvalues⟩ := h.read.text.mem_toList_iff.1 hentry
      refine ⟨_, hfold, ?_, ?_⟩
      · rw [Option.isNone_iff_eq_none.1 hnone, Attributes.text?, hvalues]
        exact (Option.some_ne_none values).symm
      · rw [Option.isNone_iff_eq_none.1 hnone]
        rfl
  · rintro ⟨name, hfold, hne, rfl⟩
    cases hvalues : c.attributes.text? name with
    | some values =>
      refine .inl ⟨name, values, ⟨h.present.text.mem_toList_iff.2 ⟨hfold, hvalues⟩, ?_⟩, rfl⟩
      exact (hvalues ▸ hne).symm
    | none =>
      obtain ⟨values, hvalues'⟩ := Option.ne_none_iff_exists'.1 (hvalues ▸ hne).symm
      have hmem := h.read.text.mem_toList_iff.2 ⟨hfold, hvalues'⟩
      exact .inr ⟨name, ⟨List.mem_map_of_mem hmem, by rw [hvalues]; rfl⟩, rfl⟩

/-- An attribute is changed exactly if its textual values differ from those that were read. -/
theorem Tracks.concerns_changes_iff (h : c.Tracks loaded) (n : String) :
    Change.Concerns c.changes n ↔ c.attributes.text? n ≠ loaded.text? n := by
  constructor
  · rintro ⟨change, hmem, hname⟩
    obtain ⟨name, -, hne, rfl⟩ := h.mem_changes_iff.1 hmem
    rw [attr_changeTo] at hname
    rwa [c.attributes.text?_congr hname, loaded.text?_congr hname]
  · intro hne
    have hfold : foldName (foldName n) = foldName n := foldName_foldName n
    refine ⟨_, h.mem_changes_iff.2 ⟨foldName n, hfold, ?_, rfl⟩, ?_⟩
    · rwa [c.attributes.text?_congr hfold, loaded.text?_congr hfold]
    · rw [attr_changeTo, hfold]

/-- No attribute is changed twice. -/
theorem Tracks.nodup_changes (h : c.Tracks loaded) :
    (c.changes.map fun change => foldName change.attr).Nodup := by
  have hfolded : (c.changes.map fun change => foldName change.attr) = c.changes.map Change.attr := by
    refine List.map_congr_left fun change hmem => ?_
    obtain ⟨name, hfold, -, rfl⟩ := h.mem_changes_iff.1 hmem
    rwa [attr_changeTo]
  rw [hfolded]
  simp only [changes, h.loaded_eq, List.map_append, List.map_map, Function.comp_def, List.map_id']
  refine List.nodup_append.2 ⟨?_, h.read.text.ascending.nodup_keys.filter _, ?_⟩
  · exact h.present.text.ascending.nodup_keys.sublist (List.filter_sublist.map _)
  · -- an attribute that has got other values is not missing
    intro name hdiffering missing hmissing heq
    obtain ⟨⟨name, values⟩, hmem, rfl⟩ := List.mem_map.1 hdiffering
    obtain ⟨-, hvalues⟩ := h.present.text.mem_toList_iff.1 (List.mem_filter.1 hmem).1
    have hnone := Option.isNone_iff_eq_none.1 (List.mem_filter.1 hmissing).2
    rw [← heq, Attributes.text?, hvalues] at hnone
    cases hnone

theorem Tracks.carries (h : c.Tracks loaded) : ∀ change ∈ c.changes, change.Carries c.attributes := by
  intro change hmem
  obtain ⟨name, -, -, rfl⟩ := h.mem_changes_iff.1 hmem
  exact carries_changeTo c.attributes name

/-- Applied to what was read, the changes leave the textual values of the context. -/
theorem Tracks.values_applyAll (h : c.Tracks loaded) (n : String) :
    (Change.applyAll c.changes loaded).values n = c.attributes.values n := by
  rw [Attributes.values, Change.text?_applyAll h.carries]
  by_cases hconcerns : Change.Concerns c.changes n
  · rw [if_pos hconcerns]
    split
    · next hnil => exact hnil.symm
    · rfl
  · rw [if_neg hconcerns]
    have hsame : c.attributes.text? n = loaded.text? n :=
      Decidable.not_not.1 fun hne => hconcerns ((h.concerns_changes_iff n).2 hne)
    rw [← hsame]
    rfl

/-- Applied to what was read, the changes take the bytes of an attribute out exactly if its textual values
were changed and are none now, whatever the context holds. -/
theorem Tracks.binary?_applyAll (h : c.Tracks loaded) (n : String) :
    (Change.applyAll c.changes loaded).binary? n =
      if c.attributes.text? n ≠ loaded.text? n ∧ c.attributes.values n = [] then none
      else loaded.binary? n := by
  simp only [Change.binary?_applyAll h.carries, h.concerns_changes_iff, ite_and]

end EntryContext

end DirectoryAccess
