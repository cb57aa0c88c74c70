import DirectoryAccess.DistinguishedName.Hierarchy

/-!
# The hierarchy and the order of names

What is compared of a name is its key. Equal names have equal keys, a name lies within another if the
key of the other is the end of its own, and names are ordered by their keys read from the root down.
-/

namespace DirectoryAccess

open Std

/-! ### Keys -/

namespace DistinguishedName

variable {m n p x y a : DistinguishedName}

/-- What is compared of a name. -/
def key (n : DistinguishedName) : List (List (String × String)) := n.fold .caseSensitive

theorem beq_iff_key_eq : (m == n) = true ↔ m.key = n.key :=
  beq_iff_eq (a := m.fold .caseSensitive) (b := n.fold .caseSensitive)

theorem beq_self (n : DistinguishedName) : (n == n) = true := beq_iff_key_eq.2 rfl

@[simp] theorem length_key (n : DistinguishedName) : n.key.length = n.length :=
  List.length_map _

theorem isRoot_iff : n.isRoot = true ↔ n.key = [] := by
  rw [isRoot, List.isEmpty_iff, key, fold, List.map_eq_nil_iff]

/-- What is compared of a joined name is what is compared of its two ends. -/
theorem key_under (n base : DistinguishedName) : (n.under base).key = n.key ++ base.key :=
  List.map_append

/-- The root alone has no parent. -/
theorem parent?_eq_none_iff : n.parent? = none ↔ n.isRoot = true := by
  obtain ⟨rdns⟩ := n
  cases rdns with
  | nil => exact iff_of_true rfl rfl
  | cons r rest => exact iff_of_false nofun nofun

/-- The key of the parent is that of the name without its first part. -/
theorem key_of_parent? (h : n.parent? = some p) : ∃ r, n.key = r :: p.key := by
  obtain ⟨rdns⟩ := n
  cases rdns with
  | nil => cases h
  | cons r rest =>
    cases h
    exact ⟨_, rfl⟩

/-- The end of a name is taken off if it is the base under the comparison. -/
theorem relativeToWith?_append {c : ValueComparison} {front back : List RelativeName}
    {base : DistinguishedName} (hlength : back.length = base.length) :
    relativeToWith? c ⟨front ++ back⟩ base =
      if matchesName c ⟨back⟩ base then some ⟨front⟩ else none := by
  have hlen : length ⟨front ++ back⟩ = front.length + base.length :=
    List.length_append.trans (congrArg (front.length + ·) hlength)
  rw [relativeToWith?, hlen, Nat.add_sub_cancel]
  dsimp only
  rw [List.drop_left, List.take_left]
  simp only [Nat.le_add_left, true_and]

theorem isSome_relativeTo?_iff : (n.relativeTo? a).isSome = true ↔ a.key <:+ n.key := by
  have hdrop : key ⟨n.rdns.drop (n.length - a.length)⟩ = n.key.drop (n.length - a.length) :=
    List.map_drop
  rw [relativeTo?, relativeToWith?]
  constructor
  · intro h
    split at h
    · next hm =>
      have hkey := hdrop.symm.trans (beq_iff_key_eq.1 hm.2)
      rw [← hkey]
      exact List.drop_suffix _ _
    · cases h
  · intro h
    have hlen := h.length_le
    rw [length_key, length_key] at hlen
    have hend := List.suffix_iff_eq_drop.1 h
    rw [length_key, length_key] at hend
    rw [if_pos ⟨hlen, beq_iff_key_eq.2 (hdrop.trans hend.symm)⟩]
    rfl

theorem isBelow_iff : n.isBelow a = true ↔ a.key <:+ n.key ∧ a.length < n.length := by
  rw [isBelow, Bool.and_eq_true, decide_eq_true_iff, isSome_relativeTo?_iff, and_comm]

/-- Whether `n` is `a` or lies below it. -/
def isWithin (n a : DistinguishedName) : Bool := n == a || n.isBelow a

theorem isWithin_iff : n.isWithin a = true ↔ a.key <:+ n.key := by
  rw [isWithin, Bool.or_eq_true, beq_iff_key_eq, isBelow_iff]
  constructor
  · rintro (h | h)
    · exact h ▸ List.suffix_rfl
    · exact h.1
  · intro h
    have hlen := h.length_le
    rw [length_key, length_key] at hlen
    by_cases heq : a.length = n.length
    · refine .inl (h.eq_of_length ?_).symm
      rw [length_key, length_key, heq]
    · exact .inr ⟨h, by omega⟩

theorem isWithin_self (n : DistinguishedName) : n.isWithin n = true :=
  isWithin_iff.2 List.suffix_rfl

theorem isWithin_trans (h : m.isWithin n = true) (h' : n.isWithin p = true) : m.isWithin p = true :=
  isWithin_iff.2 ((isWithin_iff.1 h').trans (isWithin_iff.1 h))

theorem isWithin_iff_isBelow_or : n.isWithin a = true ↔ n.key = a.key ∨ n.isBelow a = true := by
  rw [isWithin, Bool.or_eq_true, beq_iff_key_eq]

theorem isChildOf_iff : n.isChildOf p = true ↔ ∃ r, n.key = r :: p.key := by
  rw [isChildOf, Bool.and_eq_true, beq_iff_eq, isBelow_iff]
  constructor
  · rintro ⟨hlen, ⟨front, hfront⟩, -⟩
    have hone : front.length = 1 := by
      have := congrArg List.length hfront
      rw [List.length_append, length_key, length_key] at this
      omega
    obtain ⟨r, rfl⟩ := List.length_eq_one_iff.1 hone
    exact ⟨r, hfront.symm⟩
  · rintro ⟨r, h⟩
    have hlen : n.length = p.length + 1 := by
      have := congrArg List.length h
      rwa [length_key, List.length_cons, length_key] at this
    exact ⟨hlen, ⟨[r], h.symm⟩, by omega⟩

theorem length_of_isChildOf (h : n.isChildOf p = true) : n.length = p.length + 1 := by
  rw [isChildOf, Bool.and_eq_true, beq_iff_eq] at h
  exact h.1

theorem isBelow_of_isChildOf (h : n.isChildOf p = true) : n.isBelow p = true := by
  rw [isChildOf, Bool.and_eq_true] at h
  exact h.2

theorem isWithin_of_isBelow (h : n.isBelow a = true) : n.isWithin a = true :=
  isWithin_iff.2 (isBelow_iff.1 h).1

/-- Every other name lies below the root. -/
theorem isBelow_of_isRoot (ha : a.isRoot = true) (hn : n.isRoot = false) : n.isBelow a = true := by
  have hkey : n.key ≠ [] := fun h => by
    rw [isRoot_iff.2 h] at hn
    cases hn
  rw [isBelow_iff, ← length_key a, ← length_key n, isRoot_iff.1 ha]
  exact ⟨List.nil_suffix, List.length_pos_iff.2 hkey⟩

theorem isBelow_of_isWithin (h : m.isWithin n = true) (h' : n.isBelow a = true) :
    m.isBelow a = true := by
  rw [isWithin_iff] at h
  have hlen := h.length_le
  rw [length_key, length_key] at hlen
  rw [isBelow_iff] at h' ⊢
  exact ⟨h'.1.trans h, by omega⟩

theorem isWithin_congr (h : a.key = x.key) : n.isWithin a = n.isWithin x := by
  rw [Bool.eq_iff_iff, isWithin_iff, isWithin_iff, h]

theorem isBelow_congr (h : a.key = x.key) : n.isBelow a = n.isBelow x := by
  rw [Bool.eq_iff_iff, isBelow_iff, isBelow_iff, ← length_key a, ← length_key x, h]

theorem isChildOf_congr (h : a.key = x.key) : n.isChildOf a = n.isChildOf x := by
  rw [Bool.eq_iff_iff, isChildOf_iff, isChildOf_iff, h]

theorem relativeTo?_congr (h : a.key = x.key) : n.relativeTo? a = n.relativeTo? x := by
  have hfold : a.fold .caseSensitive = x.fold .caseSensitive := h
  simp only [relativeTo?, relativeToWith?, matchesName, hfold, ← length_key a, ← length_key x, h]

/-- What a child lies strictly below, its parent lies within. -/
theorem isWithin_of_isChildOf (h : n.isChildOf p = true) (hx : n.isWithin x = true)
    (hlen : x.length < n.length) : p.isWithin x = true := by
  obtain ⟨r, hr⟩ := isChildOf_iff.1 h
  rw [isWithin_iff, hr, List.suffix_cons_iff, ← hr] at hx
  obtain heq | hx := hx
  · have := congrArg List.length heq
    rw [length_key, length_key] at this
    omega
  · exact isWithin_iff.2 hx

/-- Two names that a third one lies within are one above the other. -/
theorem isWithin_or_isWithin (h : a.isWithin x = true) (h' : a.isWithin y = true)
    (hlen : x.length ≤ y.length) : y.isWithin x = true := by
  rw [isWithin_iff] at *
  refine List.suffix_of_suffix_length_le h h' ?_
  rwa [length_key, length_key]

/-- Of two names of one length, a third one lies within at most one. -/
theorem key_eq_of_isWithin (h : a.isWithin x = true) (h' : a.isWithin y = true)
    (hlen : x.length = y.length) : x.key = y.key := by
  have hwithin := isWithin_iff.1 (isWithin_or_isWithin h h' (Nat.le_of_eq hlen))
  refine hwithin.eq_of_length ?_
  rw [length_key, length_key, hlen]

end DistinguishedName

/-! ### The order -/

instance : TransCmp comparePairs :=
  inferInstanceAs (TransCmp (compareLex (compareOn Prod.fst) (compareOn Prod.snd)))

instance : LawfulEqCmp comparePairs where
  compare_self {p} :=
    (ReflCmp.compare_self : compareLex (compareOn Prod.fst) (compareOn Prod.snd) p p = .eq)
  eq_of_compare {p q} h := by
    rw [comparePairs, Ordering.then_eq_eq] at h
    exact Prod.ext (LawfulEqOrd.eq_of_compare h.1) (LawfulEqOrd.eq_of_compare h.2)

theorem compareLists_eq_compareLex {α : Type} (cmp : α → α → Ordering) :
    compareLists cmp = List.compareLex cmp := by
  funext l m
  induction l generalizing m with
  | nil => cases m <;> rfl
  | cons a l ih =>
    cases m with
    | nil => rfl
    | cons b m => rw [compareLists, List.compareLex_cons_cons, ih]

instance {α : Type} {cmp : α → α → Ordering} [TransCmp cmp] : TransCmp (compareLists cmp) := by
  rw [compareLists_eq_compareLex]
  infer_instance

instance {α : Type} {cmp : α → α → Ordering} [LawfulEqCmp cmp] :
    LawfulEqCmp (compareLists cmp) := by
  rw [compareLists_eq_compareLex]
  infer_instance

namespace DistinguishedName

theorem compare_eq_keys (m n : DistinguishedName) :
    compare m n = compareLists (compareLists comparePairs) m.key.reverse n.key.reverse := rfl

instance : TransOrd DistinguishedName where
  eq_swap {m n} := by
    rw [compare_eq_keys, compare_eq_keys]
    exact OrientedCmp.eq_swap
  isLE_trans {m n p} h h' := by
    rw [compare_eq_keys] at *
    exact TransCmp.isLE_trans h h'

/-- Names compare as equal exactly if their keys are. -/
theorem compare_eq_iff_key_eq {m n : DistinguishedName} : compare m n = .eq ↔ m.key = n.key := by
  rw [compare_eq_keys, LawfulEqCmp.compare_eq_iff_eq, List.reverse_inj]

end DistinguishedName

end DirectoryAccess
