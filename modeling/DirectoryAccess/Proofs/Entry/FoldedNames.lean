import DirectoryAccess.Proofs.Entry.Changes

/-!
# Attributes go by their folded names

Whatever is done to a set of attributes, letter case in the names does not matter: steps whose names differ in
letter case alone make up the same set (`AttributeStep.made_congr`), and what is read of it or taken out of it is
the same in any letters. The sets that can be made up hold lower-case names only, list each of their attributes
once and in ascending order, and no removal of values leaves an empty list behind
(`Attributes.keyed_by_folded_names`).
-/

namespace DirectoryAccess

open Std

/-! ### Names in lower case -/

/-- A folded name has no capital letters. -/
theorem isUpper_of_mem_foldName {name : String} {c : Char} (h : c ∈ (foldName name).toList) :
    c.isUpper = false := by
  simp only [foldName, String.toLower, String.toList_map, List.mem_map] at h
  obtain ⟨d, -, rfl⟩ := h
  exact Char.isUpper_toLower_eq_false d

/-- No other name folds to the star that stands for all attributes. -/
theorem foldName_eq_star_iff {name : String} : foldName name = "*" ↔ name = "*" := by
  constructor
  · intro h
    have hlist : name.toList.map Char.toLower = ['*'] := by
      rw [← String.toList_map]
      exact congrArg String.toList h
    obtain ⟨c, hname, hc⟩ := List.map_eq_singleton_iff.1 hlist
    have hstar : c = '*' := by
      by_cases hupper : c.isUpper = true
      · have halpha : c.toLower.isAlpha = true := by
          rw [Char.isAlpha_toLower_eq_isAlpha, Char.isAlpha, hupper, Bool.true_or]
        rw [hc] at halpha
        exact absurd halpha (by decide)
      · rwa [Char.toLower_eq_of_not_isUpper hupper] at hc
    exact String.toList_inj.1 (hname.trans (by rw [hstar]; rfl))
  · rintro rfl
    decide +kernel

/-! ### Distinct elements -/

namespace OrderedMap

variable {κ α : Type} [Ord κ] [TransOrd κ]

theorem Ascending.ofList (entries : List (κ × α)) : (OrderedMap.ofList entries).Ascending :=
  List.foldlRecOn entries _ Ascending.empty fun _ h entry _ => h.insert entry.1 entry.2

end OrderedMap

/-- The distinct elements of a list are listed in ascending order. -/
theorem pairwise_distinct {κ : Type} [Ord κ] [TransOrd κ] (l : List κ) :
    (distinct l).Pairwise (compare · · = .lt) := OrderedMap.Ascending.ofList _

namespace Attributes

/-! ### Letter case in the names of attributes -/

section

variable (a : Attributes) {n m : String} (h : foldName n = foldName m)

include h

theorem binary?_congr : a.binary? n = a.binary? m := congrArg a.binary.get? h

theorem contains_congr : a.contains n = a.contains m := by
  rw [contains, contains, a.text?_congr h, a.binary?_congr h]

theorem erased?_congr : a.erased? n = a.erased? m := by
  rw [erased?, erased?, a.text?_congr h, a.binary?_congr h]

theorem setText_congr (values : List String) : a.setText n values = a.setText m values := by
  rw [setText, setText, h]

theorem setBinary_congr (values : List (List UInt8)) : a.setBinary n values = a.setBinary m values := by
  rw [setBinary, setBinary, h]

theorem addText_congr (value : String) : a.addText n value = a.addText m value := by
  simp only [addText, a.text?_congr h, a.setText_congr h]

theorem erase_congr : a.erase n = a.erase m := by rw [erase, erase, h]

theorem removeText_congr (value : String) : a.removeText n value = a.removeText m value := by
  simp only [removeText, a.text?_congr h, a.setText_congr h, h]

end

/-- Names that differ in letter case alone select the same attributes. -/
theorem select_congr (a : Attributes) {names names' : List String}
    (h : names.map foldName = names'.map foldName) : a.select names = a.select names' := by
  have hempty : names.isEmpty = names'.isEmpty := by
    have hmap := congrArg List.isEmpty h
    rwa [List.isEmpty_map, List.isEmpty_map] at hmap
  have hstar : ∀ l : List String, l.contains "*" = (l.map foldName).contains "*" := by
    intro l
    rw [Bool.eq_iff_iff, List.contains_iff_mem, List.contains_iff_mem, List.mem_map]
    simp only [foldName_eq_star_iff, exists_eq_right]
  rw [select, select, hempty, hstar names, hstar names', h]

theorem WellFormed.select {a : Attributes} (h : a.WellFormed) (names : List String) :
    (a.select names).WellFormed := by
  unfold Attributes.select
  split
  · exact h
  · exact ⟨h.text.filterKeys _, h.binary.filterKeys _⟩

/-! ### What the names of a set tell -/

variable {a : Attributes}

theorem mem_names : n ∈ a.names ↔ n ∈ a.text.keys ∨ n ∈ a.binary.keys := by
  rw [names, mem_distinct, List.mem_append]

/-- An attribute that is present is listed under its folded name. -/
theorem contains_iff : a.contains n = true ↔ foldName n ∈ a.names := by
  rw [mem_names, OrderedMap.mem_keys_iff, OrderedMap.mem_keys_iff, contains, Bool.or_eq_true]
  rfl

theorem isEmpty_iff : a.isEmpty = true ↔ a.names = [] := by
  have hkeys : ∀ {α : Type} (m : OrderedMap String α), m.isEmpty = true ↔ ∀ n, n ∉ m.keys := by
    intro α m
    rw [OrderedMap.isEmpty, List.isEmpty_iff, ← List.eq_nil_iff_forall_not_mem, OrderedMap.keys,
      List.map_eq_nil_iff]
  rw [isEmpty, Bool.and_eq_true, hkeys, hkeys, List.eq_nil_iff_forall_not_mem]
  simp only [mem_names, not_or, forall_and]

/-- A removal leaves no empty list of textual values. -/
theorem text?_removeText_ne_nil (a : Attributes) (n value : String) :
    (a.removeText n value).text? n ≠ some [] := by
  rw [text?_removeText, if_pos rfl]
  intro hnil
  obtain ⟨-, hsome⟩ := Option.filter_eq_some_iff.1 hnil
  cases hsome

/-- Nor does a change that removes values. -/
theorem text?_remove_ne_nil (a : Attributes) (n : String) {values : List String} (h : values ≠ []) :
    ((⟨.remove, n, values⟩ : Change).apply a).text? n ≠ some [] := by
  cases values with
  | nil => exact absurd rfl h
  | cons value rest =>
    have hfirst := text?_removeText_ne_nil a n value
    exact List.foldlRecOn (motive := fun a : Attributes => a.text? n ≠ some []) rest _ hfirst
      fun a _ value _ => text?_removeText_ne_nil a n value

/-- An attribute is read and taken out in the same way under two names. -/
structure ReadAlike (a : Attributes) (n m : String) : Prop where
  /-- It has the same textual values. -/
  text : a.text? n = a.text? m
  /-- It has the same values of bytes. -/
  binary : a.binary? n = a.binary? m
  /-- It is present under both or none. -/
  contains : a.contains n = a.contains m
  /-- The same values go when it is taken out. -/
  erased : a.erased? n = a.erased? m
  /-- The same is left then. -/
  rest : a.erase n = a.erase m

theorem readAlike_of_foldName_eq (a : Attributes) {n m : String} (h : foldName n = foldName m) :
    a.ReadAlike n m :=
  ⟨a.text?_congr h, a.binary?_congr h, a.contains_congr h, a.erased?_congr h, a.erase_congr h⟩

/-- The attributes of a set are known by their folded names. -/
structure GoesByFoldedNames (a : Attributes) : Prop where
  /-- The names that are kept have no capital letters. -/
  lowerCase (n : String) : n ∈ a.text.keys ∨ n ∈ a.binary.keys → ∀ c ∈ n.toList, c.isUpper = false
  /-- The names are listed in ascending order, each of them once. -/
  ascending : a.names.Pairwise (· < ·)
  /-- Listed are the folded names of the attributes that are present. -/
  mem_names_iff (n : String) : n ∈ a.names ↔ foldName n = n ∧ a.contains n = true
  /-- An attribute is present, in whatever letters, if its folded name is listed. -/
  contains_iff (n : String) : a.contains n = true ↔ foldName n ∈ a.names
  /-- The names are counted. -/
  size_eq : a.size = a.names.length
  /-- A set without names is empty. -/
  isEmpty_iff : a.isEmpty = true ↔ a.names = []

theorem WellFormed.goesByFoldedNames (h : a.WellFormed) : a.GoesByFoldedNames where
  lowerCase n hn := by
    have hfold : foldName n = n := hn.elim (h.text.folded n) (h.binary.folded n)
    intro c hc
    exact isUpper_of_mem_foldName (hfold.symm ▸ hc)
  ascending := (pairwise_distinct _).imp compare_lt_iff_lt.1
  mem_names_iff n := by
    constructor
    · intro hn
      have hfold : foldName n = n := (mem_names.1 hn).elim (h.text.folded n) (h.binary.folded n)
      exact ⟨hfold, Attributes.contains_iff.2 (hfold.symm ▸ hn)⟩
    · rintro ⟨hfold, hcontains⟩
      exact hfold ▸ Attributes.contains_iff.1 hcontains
  contains_iff _ := Attributes.contains_iff
  size_eq := rfl
  isEmpty_iff := Attributes.isEmpty_iff

end Attributes

/-! ### Making up a set of attributes -/

theorem Change.apply_congr (kind : ChangeKind) (values : List String) {n m : String}
    (h : foldName n = foldName m) (a : Attributes) :
    (⟨kind, n, values⟩ : Change).apply a = (⟨kind, m, values⟩ : Change).apply a := by
  have hadd : (fun a value => Attributes.addText a n value) = fun a value => a.addText m value :=
    funext₂ fun a value => a.addText_congr h value
  have hremove : (fun a value => Attributes.removeText a n value) = fun a value => a.removeText m value :=
    funext₂ fun a value => a.removeText_congr h value
  cases kind with
  | add => exact congrArg (List.foldl · a values) hadd
  | replace =>
    cases values with
    | nil => exact a.erase_congr h
    | cons value rest => exact a.setText_congr h _
  | remove =>
    cases values with
    | nil => exact a.erase_congr h
    | cons value rest => exact congrArg (List.foldl · a (value :: rest)) hremove

/-- What can be done to a set of attributes. -/
inductive AttributeStep where
  /-- An attribute gets these textual values in place of those it has. -/
  | setText (name : String) (values : List String)
  /-- An attribute gets these values of bytes in place of those it has. -/
  | setBinary (name : String) (values : List (List UInt8))
  /-- A textual value is added. -/
  | addText (name value : String)
  /-- A textual value is taken out. -/
  | removeText (name value : String)
  /-- An attribute is taken out. -/
  | erase (name : String)
  /-- The named attributes are kept. -/
  | select (names : List String)
  /-- A change is applied. -/
  | change (c : Change)

namespace AttributeStep

/-- The attributes after a step. -/
def apply : AttributeStep → Attributes → Attributes
  | .setText name values, a => a.setText name values
  | .setBinary name values, a => a.setBinary name values
  | .addText name value, a => a.addText name value
  | .removeText name value, a => a.removeText name value
  | .erase name, a => a.erase name
  | .select names, a => a.select names
  | .change c, a => c.apply a

/-- The attributes after some steps, one after the other, beginning with none. -/
def made (steps : List AttributeStep) : Attributes := steps.foldl (fun a step => step.apply a) .empty

/-- Two steps that differ at most in the letter case of the names in them. -/
inductive Respelled : AttributeStep → AttributeStep → Prop where
  /-- Textual values are set. -/
  | setText {n m : String} (values : List String) : foldName n = foldName m →
      Respelled (.setText n values) (.setText m values)
  /-- Bytes are set. -/
  | setBinary {n m : String} (values : List (List UInt8)) : foldName n = foldName m →
      Respelled (.setBinary n values) (.setBinary m values)
  /-- A value is added. -/
  | addText {n m : String} (value : String) : foldName n = foldName m →
      Respelled (.addText n value) (.addText m value)
  /-- A value is taken out. -/
  | removeText {n m : String} (value : String) : foldName n = foldName m →
      Respelled (.removeText n value) (.removeText m value)
  /-- An attribute is taken out. -/
  | erase {n m : String} : foldName n = foldName m → Respelled (.erase n) (.erase m)
  /-- Attributes are selected. -/
  | select {names names' : List String} : names.map foldName = names'.map foldName →
      Respelled (.select names) (.select names')
  /-- A change is applied. -/
  | change {n m : String} (kind : ChangeKind) (values : List String) : foldName n = foldName m →
      Respelled (.change ⟨kind, n, values⟩) (.change ⟨kind, m, values⟩)

theorem Respelled.apply_eq {step step' : AttributeStep} (h : Respelled step step') (a : Attributes) :
    step.apply a = step'.apply a := by
  cases h with
  | setText values h => exact a.setText_congr h values
  | setBinary values h => exact a.setBinary_congr h values
  | addText value h => exact a.addText_congr h value
  | removeText value h => exact a.removeText_congr h value
  | erase h => exact a.erase_congr h
  | select h => exact a.select_congr h
  | change kind values h => exact Change.apply_congr kind values h a

theorem wellFormed_apply {a : Attributes} (h : a.WellFormed) (step : AttributeStep) :
    (step.apply a).WellFormed := by
  cases step with
  | setText name values => exact h.setText name values
  | setBinary name values => exact h.setBinary name values
  | addText name value => exact h.addText name value
  | removeText name value => exact h.removeText name value
  | erase name => exact h.erase name
  | select names => exact h.select names
  | change c => exact Change.wellFormed_apply h c

theorem wellFormed_made (steps : List AttributeStep) : (made steps).WellFormed :=
  List.foldlRecOn steps _ .empty fun _ h step _ => wellFormed_apply h step

/-- Steps in other letters make up the same set. -/
theorem made_congr {steps steps' : List AttributeStep} (h : List.Forall₂ Respelled steps steps') :
    made steps = made steps' := by
  suffices ∀ a : Attributes, steps.foldl (fun a step => step.apply a) a =
      steps'.foldl (fun a step => step.apply a) a from this .empty
  induction h with
  | nil => exact fun _ => rfl
  | cons hstep _ ih =>
    intro a
    rw [List.foldl_cons, List.foldl_cons, hstep.apply_eq a]
    exact ih _

end AttributeStep

/-- **Attributes go by their folded names.** Whatever is done, beginning with no attributes: with names in other
letters the same steps make up the same set, and an attribute is read and taken out in the same way under any
of its names. The names that are kept are in lower case; they are listed in strictly ascending order, and
listed are exactly the attributes that are present. No removal of values leaves an empty list of them. -/
theorem Attributes.keyed_by_folded_names (steps : List AttributeStep) :
    let a := AttributeStep.made steps
    (∀ steps', List.Forall₂ AttributeStep.Respelled steps steps' → AttributeStep.made steps' = a) ∧
    (∀ n m, foldName n = foldName m → a.ReadAlike n m) ∧
    a.GoesByFoldedNames ∧
    (∀ n value, (a.removeText n value).text? n ≠ some []) ∧
    ∀ n values, values ≠ [] → ((⟨.remove, n, values⟩ : Change).apply a).text? n ≠ some [] := by
  intro a
  refine ⟨fun steps' h => (AttributeStep.made_congr h).symm, fun n m => a.readAlike_of_foldName_eq,
    (AttributeStep.wellFormed_made steps).goesByFoldedNames, a.text?_removeText_ne_nil, ?_⟩
  intro n values hvalues
  exact a.text?_remove_ne_nil n hvalues

/-- How the attributes of a person are made up; all common names are taken out again. -/
def personSteps : List AttributeStep :=
  [.setText "CN" ["Ann"], .addText "cn" "Bo", .setBinary "Key" [[1]], .setText "sn" ["Berg"],
    .change ⟨.remove, "Cn", ["Bo", "Ann"]⟩, .select ["KEY", "SN"]]

/-- The same in other letters. -/
def personStepsRespelled : List AttributeStep :=
  [.setText "cn" ["Ann"], .addText "CN" "Bo", .setBinary "kEY" [[1]], .setText "Sn" ["Berg"],
    .change ⟨.remove, "cn", ["Bo", "Ann"]⟩, .select ["key", "sN"]]

/-- The steps in other letters make up the same set, and the surname goes with its only value. -/
theorem Attributes.keyed_by_folded_names_person :
    let a := AttributeStep.made personSteps
    List.Forall₂ AttributeStep.Respelled personSteps personStepsRespelled ∧
    AttributeStep.made personStepsRespelled = a ∧
    foldName "KEY" = foldName "key" ∧ a.ReadAlike "KEY" "key" ∧
    a.GoesByFoldedNames ∧
    ["Berg"] ≠ [] ∧ ((⟨.remove, "SN", ["Berg"]⟩ : Change).apply a).text? "SN" ≠ some [] := by
  intro a
  obtain ⟨hsame, halike, hnames, -, hremove⟩ := keyed_by_folded_names personSteps
  have hsteps : List.Forall₂ AttributeStep.Respelled personSteps personStepsRespelled := by
    refine .cons (.setText _ ?_) (.cons (.addText _ ?_) (.cons (.setBinary _ ?_) (.cons (.setText _ ?_)
      (.cons (.change _ _ ?_) (.cons (.select ?_) .nil)))))
    all_goals
      simp only [List.map_cons, List.map_nil, List.cons.injEq, and_true, foldName_eq_foldName_iff]
      decide
  have hkey : foldName "KEY" = foldName "key" := foldName_eq_foldName_iff.2 (by decide)
  exact ⟨hsteps, hsame _ hsteps, hkey, halike _ _ hkey, hnames, by decide,
    hremove "SN" ["Berg"] (by decide)⟩

end DirectoryAccess
