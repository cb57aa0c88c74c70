import DirectoryAccess.Entry.Attributes
import DirectoryAccess.Proofs.DistinguishedName.RoundTrip
import DirectoryAccess.Proofs.OrderedMap

/-!
# Lemmas on attributes

What an attribute holds after a change, textual values and bytes apart. Attributes are kept by their
folded names, in ascending order, and every change leaves them so (`Attributes.WellFormed`). Such sets of
attributes are equal if every attribute has the same values in both.
-/

namespace DirectoryAccess

open Std

theorem foldName_foldName (name : String) : foldName (foldName name) = foldName name :=
  toLower_toLower name

/-- Names fold to the same name if they are the same but for the case of letters. -/
theorem foldName_eq_foldName_iff {n m : String} :
    foldName n = foldName m ↔ n.toList.map Char.toLower = m.toList.map Char.toLower := by
  rw [foldName, foldName, ← String.toList_inj, String.toLower, String.toLower, String.toList_map,
    String.toList_map]

/-! ### Maps by folded names -/

namespace OrderedMap

/-- The keys are folded names, in ascending order. -/
structure ByFoldedName {α : Type} (m : OrderedMap String α) : Prop where
  /-- The names are ascending. -/
  ascending : m.Ascending
  /-- The names are folded. -/
  folded : ∀ n ∈ m.keys, foldName n = n

namespace ByFoldedName

variable {α : Type} {m m' : OrderedMap String α}

theorem empty : (OrderedMap.empty : OrderedMap String α).ByFoldedName := ⟨.empty, nofun⟩

theorem erase (h : m.ByFoldedName) (n : String) : (m.erase n).ByFoldedName where
  ascending := h.ascending.erase n
  folded k hk := by
    rw [keys_erase] at hk
    exact h.folded k (List.mem_filter.1 hk).1

theorem filterKeys (h : m.ByFoldedName) (p : String → Bool) : (m.filterKeys p).ByFoldedName where
  ascending := by
    rw [Ascending, keys_filterKeys]
    exact h.ascending.filter _
  folded k hk := by
    rw [keys_filterKeys] at hk
    exact h.folded k (List.mem_filter.1 hk).1

theorem insert (h : m.ByFoldedName) (n : String) (a : α) : (m.insert (foldName n) a).ByFoldedName where
  ascending := h.ascending.insert _ a
  folded k hk := by
    obtain ⟨e, he, rfl⟩ := List.mem_map.1 hk
    obtain he | ⟨hkey | ⟨-, hkey⟩, -⟩ := mem_insert he
    · exact h.folded _ (List.mem_map_of_mem he)
    · exact hkey ▸ foldName_foldName n
    · exact h.folded _ hkey

/-- What is listed under a name is the value of that name, which is folded. -/
theorem mem_toList_iff (h : m.ByFoldedName) {n : String} {a : α} :
    (n, a) ∈ m.toList ↔ foldName n = n ∧ m.get? (foldName n) = some a := by
  constructor
  · intro hmem
    have hfold : foldName n = n := h.folded n (List.mem_map_of_mem hmem)
    rw [hfold]
    exact ⟨rfl, h.ascending.mem_toList_iff.1 hmem⟩
  · rintro ⟨hfold, hget⟩
    rw [hfold] at hget
    exact h.ascending.mem_toList_iff.2 hget

/-- A name is a key once or not at all. -/
theorem count_keys (h : m.ByFoldedName) (n : String) :
    m.keys.count (foldName n) = if (m.get? (foldName n)).isSome then 1 else 0 := by
  rw [h.ascending.nodup_keys.count]
  exact if_congr mem_keys_iff rfl rfl

/-- Maps that have the same values for all names are equal. -/
theorem eq_of_get? (h : m.ByFoldedName) (h' : m'.ByFoldedName)
    (hget : ∀ n, m.get? (foldName n) = m'.get? (foldName n)) : m = m' :=
  h.ascending.eq_of_mem_iff h'.ascending fun ⟨n, a⟩ => by
    rw [h.mem_toList_iff, h'.mem_toList_iff, hget]

end ByFoldedName

end OrderedMap

/-! ### Sets of attributes -/

namespace Attributes

/-- The attributes are kept by their folded names. -/
structure WellFormed (a : Attributes) : Prop where
  /-- Those with textual values are. -/
  text : a.text.ByFoldedName
  /-- Those with values of bytes are. -/
  binary : a.binary.ByFoldedName

namespace WellFormed

variable {a a' : Attributes}

theorem empty : Attributes.empty.WellFormed := ⟨.empty, .empty⟩

theorem setText (h : a.WellFormed) (n : String) (values : List String) :
    (a.setText n values).WellFormed := ⟨h.text.insert n values, h.binary⟩

theorem setBinary (h : a.WellFormed) (n : String) (values : List (List UInt8)) :
    (a.setBinary n values).WellFormed := ⟨h.text, h.binary.insert n values⟩

theorem addText (h : a.WellFormed) (n value : String) : (a.addText n value).WellFormed :=
  h.setText n _

theorem removeText (h : a.WellFormed) (n value : String) : (a.removeText n value).WellFormed := by
  unfold Attributes.removeText
  split
  · exact h
  · split
    · exact ⟨h.text.erase _, h.binary⟩
    · exact h.setText n _

theorem erase (h : a.WellFormed) (n : String) : (a.erase n).WellFormed :=
  ⟨h.text.erase _, h.binary.erase _⟩

/-- Whatever attributes are given, the set of them is well-formed. -/
theorem ofLists (text : List (String × List String)) (binary : List (String × List (List UInt8))) :
    (ofLists text binary).WellFormed := by
  have htext : (text.foldl (fun a entry => a.setText entry.1 entry.2) Attributes.empty).WellFormed :=
    List.foldlRecOn text _ empty fun _ h entry _ => h.setText entry.1 entry.2
  exact List.foldlRecOn binary _ htext fun _ h entry _ => h.setBinary entry.1 entry.2

/-- Sets in which every attribute has the same values are equal. -/
theorem ext (h : a.WellFormed) (h' : a'.WellFormed) (htext : ∀ n, a.text? n = a'.text? n)
    (hbinary : ∀ n, a.binary? n = a'.binary? n) : a = a' := by
  obtain ⟨text, binary⟩ := a
  obtain ⟨text', binary'⟩ := a'
  obtain rfl : text = text' := h.text.eq_of_get? h'.text htext
  obtain rfl : binary = binary' := h.binary.eq_of_get? h'.binary hbinary
  rfl

end WellFormed

/-! ### Values after a change -/

section

variable (a : Attributes) (n name : String)

theorem text?_setText (values : List String) :
    (a.setText name values).text? n = if foldName n = foldName name then some values else a.text? n := by
  simp only [text?, setText, OrderedMap.get?_insert, LawfulEqCmp.compare_eq_iff_eq]

@[simp] theorem binary?_setText (values : List String) :
    (a.setText name values).binary? n = a.binary? n := rfl

theorem text?_erase :
    (a.erase name).text? n = if foldName n = foldName name then none else a.text? n := by
  simp only [text?, erase, OrderedMap.get?_erase, LawfulEqCmp.compare_eq_iff_eq]

theorem binary?_erase :
    (a.erase name).binary? n = if foldName n = foldName name then none else a.binary? n := by
  simp only [binary?, erase, OrderedMap.get?_erase, LawfulEqCmp.compare_eq_iff_eq]

theorem text?_addText (value : String) :
    (a.addText name value).text? n =
      if foldName n = foldName name then
        let values := (a.text? name).getD []
        some (if value ∈ values then values else values ++ [value])
      else a.text? n := a.text?_setText n name _

/-- A list that a removal empties is taken out. -/
theorem text?_removeText (value : String) :
    (a.removeText name value).text? n =
      if foldName n = foldName name then
        ((a.text? name).map (·.filter (· != value))).filter (!·.isEmpty)
      else a.text? n := by
  unfold removeText
  by_cases h : foldName n = foldName name
  · rw [if_pos h]
    cases hvalues : a.text? name with
    | none => exact (congrArg a.text.get? h).trans hvalues
    | some values =>
      cases hrest : values.filter (· != value) with
      | nil =>
        have herased := a.text?_erase n name
        rw [if_pos h] at herased
        simp only [Option.map_some, hrest]
        exact herased
      | cons v rest =>
        simp only [Option.map_some, hrest, text?_setText, if_pos h]
        rfl
  · rw [if_neg h]
    split
    · rfl
    · split
      · have herased := a.text?_erase n name
        rwa [if_neg h] at herased
      · rw [text?_setText, if_neg h]

@[simp] theorem binary?_addText (value : String) : (a.addText name value).binary? n = a.binary? n := rfl

@[simp] theorem binary?_removeText (value : String) :
    (a.removeText name value).binary? n = a.binary? n := by
  unfold removeText
  split
  · rfl
  · split <;> rfl

end

end Attributes

end DirectoryAccess
