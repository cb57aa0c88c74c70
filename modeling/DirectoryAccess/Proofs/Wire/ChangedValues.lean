import DirectoryAccess.Proofs.Entry.Changes
import DirectoryAccess.Wire.Request
import Mathlib

/-!
# Changes of lists and of sets

In memory the values of an attribute are a list, and a change adds to it, replaces it or thins it out. A server
is sent the values as sets, and keeps sets. Whatever changes are applied, one after the other, the set of the
values in the list is the set that the server has then (`Wire.applied_as_sent`). All that is needed is what one
change makes of one list (`Change.values_apply`) and which set that is (`ChangeKind.valueSet_onList`).
-/

namespace DirectoryAccess

/-! ### What a change makes of a list -/

/-- The list with the values in it that it does not have yet, at its end. -/
def addMissing (held given : List String) : List String :=
  given.foldl (fun held value => if value ∈ held then held else held ++ [value]) held

/-- How often a value is listed after values were added: as often as before, or once if it is new. -/
theorem count_addMissing (held given : List String) (v : String) :
    (addMissing held given).count v =
      if v ∈ given ∧ v ∉ held then 1 else held.count v := by
  induction given generalizing held with
  | nil => simp [addMissing]
  | cons value given ih =>
    rw [addMissing, List.foldl_cons, ← addMissing, ih]
    by_cases hvalue : value ∈ held
    · by_cases hv : v = value
      · subst hv; simp [hvalue]
      · simp [hvalue, hv]
    · by_cases hv : v = value
      · subst hv; simp [hvalue, List.count_eq_zero_of_not_mem hvalue]
      · have hne : value ≠ v := Ne.symm hv
        simp [hvalue, hv, hne, List.count_append]

theorem mem_addMissing {held given : List String} {v : String} :
    v ∈ addMissing held given ↔ v ∈ held ∨ v ∈ given := by
  rw [← List.count_pos_iff, count_addMissing]
  by_cases hheld : v ∈ held
  · simp [hheld, List.count_pos_iff]
  · by_cases hgiven : v ∈ given <;> simp [hheld, hgiven, List.count_eq_zero_of_not_mem]

/-- What a change makes of a list of values. -/
def ChangeKind.onList : ChangeKind → List String → List String → List String
  | .add, given, held => addMissing held given
  | .replace, given, _ => given
  | .remove, given, held => if given = [] then [] else held.filter (· ∉ given)

namespace Attributes

variable (a : Attributes) (n name : String)

theorem values_setText (values : List String) :
    (a.setText name values).values n = if foldName n = foldName name then values else a.values n := by
  rw [Attributes.values, text?_setText]
  split <;> rfl

theorem values_erase : (a.erase name).values n = if foldName n = foldName name then [] else a.values n := by
  rw [values, text?_erase]
  split <;> rfl

theorem values_addText (value : String) :
    (a.addText name value).values n =
      if foldName n = foldName name then
        if value ∈ a.values n then a.values n else a.values n ++ [value]
      else a.values n := by
  rw [values, text?_addText]
  split
  · next h => rw [a.values_congr h]; rfl
  · rfl

theorem values_removeText (value : String) :
    (a.removeText name value).values n =
      if foldName n = foldName name then (a.values n).filter (· != value) else a.values n := by
  rw [values, text?_removeText]
  split
  · next h =>
    rw [a.values_congr h, values]
    cases a.text? name with
    | none => rfl
    | some values =>
      rw [Option.map_some, Option.getD_some]
      cases values.filter (· != value) <;> rfl
  · rfl

/-- An attribute has the same values of both kinds in two sets. -/
structure SameValues (a b : Attributes) (n : String) : Prop where
  /-- It has the same textual values, in the same order. -/
  text : a.text? n = b.text? n
  /-- It has the same values of bytes. -/
  binary : a.binary? n = b.binary? n

/-- Steps that each leave an attribute alone leave it alone together. -/
theorem sameValues_foldl {α : Type} {f : Attributes → α → Attributes} {l : List α}
    (h : ∀ b, ∀ x ∈ l, (f b x).SameValues b n) : (l.foldl f a).SameValues a n := by
  refine List.foldlRecOn (motive := fun b : Attributes => b.SameValues a n) l f ⟨rfl, rfl⟩ fun b hb x hx => ?_
  exact ⟨(h b x hx).text.trans hb.text, (h b x hx).binary.trans hb.binary⟩

variable {n name} (h : foldName n ≠ foldName name)

include h

theorem sameValues_setText (values : List String) : (a.setText name values).SameValues a n :=
  ⟨by rw [text?_setText, if_neg h], rfl⟩

theorem sameValues_erase : (a.erase name).SameValues a n :=
  ⟨by rw [text?_erase, if_neg h], by rw [binary?_erase, if_neg h]⟩

theorem sameValues_addText (value : String) : (a.addText name value).SameValues a n :=
  a.sameValues_setText h _

theorem sameValues_removeText (value : String) : (a.removeText name value).SameValues a n :=
  ⟨by rw [text?_removeText, if_neg h], a.binary?_removeText n name value⟩

end Attributes

namespace Change

/-- Added one after the other, values are added to the list. -/
theorem values_foldl_addText (given : List String) (a : Attributes) (n name : String) :
    (given.foldl (fun a value => a.addText name value) a).values n =
      if foldName n = foldName name then addMissing (a.values n) given else a.values n := by
  induction given generalizing a with
  | nil => exact (ite_self _).symm
  | cons value given ih =>
    rw [List.foldl_cons, ih, a.values_addText]
    split <;> rfl

/-- Taken out one after the other, values are filtered out of the list. -/
theorem values_foldl_removeText (given : List String) (a : Attributes) (n name : String) :
    (given.foldl (fun a value => a.removeText name value) a).values n =
      if foldName n = foldName name then (a.values n).filter (· ∉ given) else a.values n := by
  induction given generalizing a with
  | nil => simp
  | cons value given ih =>
    rw [List.foldl_cons, ih, a.values_removeText]
    split
    · rw [List.filter_filter]
      refine List.filter_congr fun v _ => ?_
      by_cases hv : v = value <;> simp [hv]
    · rfl

/-- **What a change makes of an attribute**: of the one that it names, and of all others nothing. -/
theorem values_apply (c : Change) (a : Attributes) (n : String) :
    (c.apply a).values n =
      if foldName n = foldName c.attr then c.kind.onList c.values (a.values n) else a.values n := by
  obtain ⟨kind, name, given⟩ := c
  cases kind with
  | add => exact values_foldl_addText given a n name
  | replace =>
    cases given with
    | nil => exact a.values_erase n name
    | cons value rest => exact a.values_setText n name _
  | remove =>
    cases given with
    | nil => exact a.values_erase n name
    | cons value rest => exact values_foldl_removeText _ a n name

/-- An attribute that a change does not name keeps its values. -/
theorem sameValues_apply (c : Change) (a : Attributes) {n : String} (h : foldName n ≠ foldName c.attr) :
    (c.apply a).SameValues a n := by
  unfold apply
  split
  · exact a.sameValues_foldl n fun b value _ => b.sameValues_addText h value
  · exact a.sameValues_erase h
  · exact a.sameValues_erase h
  · exact a.sameValues_setText h _
  · exact a.sameValues_foldl n fun b value _ => b.sameValues_removeText h value

/-- Attributes that no change names keep their values. -/
theorem sameValues_applyAll {changes : List Change} {n : String} (h : ¬Concerns changes n) (a : Attributes) :
    (applyAll changes a).SameValues a n :=
  a.sameValues_foldl n fun b c hc => sameValues_apply c b fun heq => h ⟨c, hc, heq⟩

/-- Two changes that do the same with the same set of values to the same attribute. The values may be listed in
another order or more often, and the name may be written in other letters. -/
structure SameAsSets (c c' : Change) : Prop where
  /-- They are of one kind. -/
  kind : c.kind = c'.kind
  /-- They name one attribute. -/
  attr : foldName c.attr = foldName c'.attr
  /-- They have the same values. -/
  values (v : String) : v ∈ c.values ↔ v ∈ c'.values

end Change

/-! ### What a change makes of a set -/

/-- What a change makes of a set of values. -/
def ChangeKind.onSet : ChangeKind → Finset Wire.Value → Finset Wire.Value → Finset Wire.Value
  | .add, given, held => held ∪ given
  | .replace, given, _ => given
  | .remove, given, held => if given = ∅ then ∅ else held \ given

/-- The set of values that a list stands for, as they are sent. -/
def valueSet (values : List String) : Finset Wire.Value := (values.map Text.bytes).toFinset

theorem bytes_injective : Function.Injective Text.bytes := by
  intro s t h
  have hread := congrArg Text.ofBytes? h
  rwa [Text.ofBytes?_bytes, Text.ofBytes?_bytes, Option.some.injEq] at hread

theorem mem_valueSet {values : List String} {b : Wire.Value} :
    b ∈ valueSet values ↔ ∃ v ∈ values, Text.bytes v = b := by
  simp [valueSet]

theorem bytes_mem_valueSet {values : List String} {v : String} :
    Text.bytes v ∈ valueSet values ↔ v ∈ values := by
  simp [valueSet, bytes_injective.eq_iff]

/-- The list after a change stands for the set after it. -/
theorem ChangeKind.valueSet_onList (kind : ChangeKind) (given held : List String) :
    valueSet (kind.onList given held) = kind.onSet (valueSet given) (valueSet held) := by
  cases kind with
  | add =>
    ext b
    simp only [onList, onSet, Finset.mem_union, mem_valueSet, mem_addMissing, or_and_right, exists_or]
  | replace => rfl
  | remove =>
    have hempty : valueSet given = ∅ ↔ given = [] := by simp [valueSet]
    simp only [onList, onSet, hempty]
    split
    · rfl
    · ext b
      simp only [Finset.mem_sdiff, mem_valueSet, List.mem_filter, decide_eq_true_eq]
      constructor
      · rintro ⟨v, ⟨hheld, hgiven⟩, rfl⟩
        refine ⟨⟨v, hheld, rfl⟩, ?_⟩
        rintro ⟨w, hw, heq⟩
        exact hgiven (bytes_injective heq ▸ hw)
      · rintro ⟨⟨v, hheld, rfl⟩, hgiven⟩
        exact ⟨v, ⟨hheld, fun h => hgiven ⟨v, h, rfl⟩⟩, rfl⟩

namespace Wire

/-- The values that a server keeps for the attributes of an entry, by their folded names. -/
abbrev KeptValues := String → Finset Value

/-- What a server keeps after a change that it was sent. -/
def applySent (held : KeptValues) : ChangeKind × String × List Value → KeptValues
  | (kind, name, given), n =>
    if foldName n = foldName name then kind.onSet given.toFinset (held n) else held n

/-- What a server keeps after changes that it was sent, one after the other. -/
def applyAllSent (held : KeptValues) (sent : List (ChangeKind × String × List Value)) : KeptValues :=
  sent.foldl applySent held

/-- The sets of the textual values of an entry; an absent attribute has none. -/
def keptValues (a : Attributes) : KeptValues := fun n => valueSet (a.values n)

theorem toFinset_sent (c : Change) : (changeToSend c).2.2.toFinset = valueSet c.values := by
  ext b
  simp [changeToSend, Change.valueSet, mem_valueSet, mem_distinct]

/-- A change leaves in memory what it leaves on a server. -/
theorem keptValues_apply (c : Change) (a : Attributes) :
    keptValues (c.apply a) = applySent (keptValues a) (changeToSend c) := by
  funext n
  simp only [keptValues, Change.values_apply, apply_ite valueSet, ChangeKind.valueSet_onList, applySent,
    ← toFinset_sent]
  rfl

theorem keptValues_applyAll (changes : List Change) (a : Attributes) :
    keptValues (Change.applyAll changes a) = applyAllSent (keptValues a) (changes.map changeToSend) := by
  induction changes generalizing a with
  | nil => rfl
  | cons c changes ih =>
    rw [Change.applyAll, List.foldl_cons, ← Change.applyAll, ih, keptValues_apply]
    rfl

/-- Changes that are the same as sets are the same to a server. -/
theorem applySent_congr {c c' : Change} (h : c.SameAsSets c') (held : KeptValues) :
    applySent held (changeToSend c) = applySent held (changeToSend c') := by
  have hvalues : valueSet c.values = valueSet c'.values := by
    ext b
    simp only [mem_valueSet, h.values]
  funext n
  have hset : ∀ c : Change, applySent held (changeToSend c) n =
      if foldName n = foldName c.attr then c.kind.onSet (valueSet c.values) (held n) else held n := by
    intro c
    rw [← toFinset_sent]
    rfl
  rw [hset, hset, h.kind, h.attr, hvalues]

theorem applyAllSent_congr {changes changes' : List Change} (h : List.Forall₂ Change.SameAsSets changes changes')
    (held : KeptValues) :
    applyAllSent held (changes.map changeToSend) = applyAllSent held (changes'.map changeToSend) := by
  induction h generalizing held with
  | nil => rfl
  | cons hc _ ih =>
    rw [List.map_cons, List.map_cons, applyAllSent, applyAllSent, List.foldl_cons, List.foldl_cons,
      applySent_congr hc]
    exact ih _

/-- **Changes in memory agree with the changes that are sent.** After any changes the set of the textual values
of each attribute is the one that a server has which was sent the changes and takes the values for sets: values
are added by union, replaced by the given set, and removed by difference, or all of them if none are given. The
sets are the same for changes that list their values in another order or more often, or write the names in other
letters. A value that is added is listed once if it is new, and as often as before if it is not. Attributes that
no change names keep their values of both kinds. -/
theorem applied_as_sent (changes : List Change) (a : Attributes) :
    keptValues (Change.applyAll changes a) = applyAllSent (keptValues a) (changes.map changeToSend) ∧
    (∀ n v, Text.bytes v ∈ keptValues (Change.applyAll changes a) n ↔
      v ∈ (Change.applyAll changes a).values n) ∧
    (∀ changes', List.Forall₂ Change.SameAsSets changes changes' →
      keptValues (Change.applyAll changes' a) = keptValues (Change.applyAll changes a)) ∧
    (∀ name given n v, (((⟨.add, name, given⟩ : Change).apply a).values n).count v =
      if foldName n = foldName name ∧ v ∈ given ∧ v ∉ a.values n then 1 else (a.values n).count v) ∧
    ∀ n, ¬Change.Concerns changes n → (Change.applyAll changes a).SameValues a n := by
  refine ⟨keptValues_applyAll changes a, fun n v => bytes_mem_valueSet, ?_, ?_, ?_⟩
  · intro changes' h
    rw [keptValues_applyAll, keptValues_applyAll, applyAllSent_congr h]
  · intro name given n v
    rw [Change.values_apply]
    by_cases hn : foldName n = foldName name
    · simp only [hn, if_true, true_and]
      exact count_addMissing _ _ _
    · simp only [hn, if_false, false_and]
  · intro n hn
    exact Change.sameValues_applyAll hn a

/-- Changes that empty the names of a person and fill them again. -/
def newNames : List Change :=
  [⟨.remove, "CN", ["Ann"]⟩, ⟨.add, "cn", ["Bo", "Cy"]⟩, ⟨.replace, "Sn", []⟩, ⟨.add, "sN", ["Dal", "Berg"]⟩]

/-- The same with repeated values, in another order, and in other letters. -/
def newNamesRespelled : List Change :=
  [⟨.remove, "cn", ["Ann", "Ann"]⟩, ⟨.add, "Cn", ["Cy", "Bo", "Cy"]⟩, ⟨.replace, "SN", []⟩,
    ⟨.add, "sn", ["Berg", "Dal"]⟩]

/-- A person, with a key of bytes that the changes do not name. -/
def person : Attributes := .ofLists [("cn", ["Ann"]), ("sn", ["Berg"])] [("key", [[1], [1]])]

/-- The respelled changes leave the same sets, and the key stays. -/
theorem applied_as_sent_newNames :
    List.Forall₂ Change.SameAsSets newNames newNamesRespelled ∧
    keptValues (Change.applyAll newNamesRespelled person) =
      keptValues (Change.applyAll newNames person) ∧
    ¬Change.Concerns newNames "key" ∧
    (Change.applyAll newNames person).SameValues person "key" := by
  obtain ⟨-, -, hsame, -, hkept⟩ := applied_as_sent newNames person
  have hchanges : List.Forall₂ Change.SameAsSets newNames newNamesRespelled := by
    refine .cons ⟨rfl, ?_, ?_⟩ (.cons ⟨rfl, ?_, ?_⟩ (.cons ⟨rfl, ?_, ?_⟩ (.cons ⟨rfl, ?_, ?_⟩ .nil)))
    -- first the names in other letters, then the values as sets
    case refine_1 | refine_3 | refine_5 | refine_7 => exact foldName_eq_foldName_iff.2 (by decide)
    all_goals
      intro v
      simp only [List.mem_cons, List.not_mem_nil, or_self, or_comm, or_left_comm]
  have hkey : ¬Change.Concerns newNames "key" := by
    rintro ⟨c, hc, heq⟩
    simp only [newNames, List.mem_cons, List.not_mem_nil, or_false] at hc
    rw [foldName_eq_foldName_iff] at heq
    obtain rfl | rfl | rfl | rfl := hc <;> exact absurd heq (by decide)
  exact ⟨hchanges, hsame _ hchanges, hkey, hkept "key" hkey⟩

end Wire

end DirectoryAccess
