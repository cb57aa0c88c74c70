import DirectoryAccess.Proofs.DistinguishedName.Joining

/-!
# The order of names fits equality and the hierarchy

Names are ordered by their keys, read from the root down. In this order a name comes before all that lies
below it, and what lies within a name lies together: for lists read from the front these are facts about
beginnings (`compareLists_append_left`, `isPrefix_of_between`). Equal names, and no others, feed the same to
a hasher (`hashInput_eq_iff`).
-/

namespace DirectoryAccess

open Std

/-! ### Lists and their beginnings -/

section

variable {α : Type} {cmp : α → α → Ordering}

/-- A common beginning does not count. -/
theorem compareLists_append_left [ReflCmp cmp] (l m n : List α) :
    compareLists cmp (l ++ m) (l ++ n) = compareLists cmp m n := by
  induction l with
  | nil => rfl
  | cons a l ih =>
    have hself : cmp a a = .eq := ReflCmp.compare_self
    rw [List.cons_append, List.cons_append, compareLists, hself, ih]
    rfl

/-- A list comes after its beginnings. -/
theorem compareLists_of_isPrefix [ReflCmp cmp] {l m : List α} (h : l <+: m)
    (hlen : l.length < m.length) : compareLists cmp l m = .lt := by
  obtain ⟨rest, rfl⟩ := h
  have hrest : compareLists cmp (l ++ []) (l ++ rest) = compareLists cmp [] rest :=
    compareLists_append_left l [] rest
  rw [List.append_nil] at hrest
  rw [hrest]
  cases rest with
  | nil => exact absurd hlen (by simp)
  | cons b rest => rfl

/-- The first elements decide unless they compare as equal. -/
theorem isLE_of_compareLists_cons {a b : α} {l m : List α}
    (h : (compareLists cmp (a :: l) (b :: m)).isLE = true) :
    (cmp a b).isLE = true ∧ (cmp a b = .eq → (compareLists cmp l m).isLE = true) := by
  rw [compareLists] at h
  cases hab : cmp a b with
  | lt => exact ⟨rfl, fun heq => absurd heq (by decide)⟩
  | eq =>
    rw [hab] at h
    exact ⟨rfl, fun _ => h⟩
  | gt =>
    rw [hab] at h
    cases h

/-- What comes between two lists with a common beginning begins in the same way. -/
theorem isPrefix_of_between [TransCmp cmp] [LawfulEqCmp cmp] {p l m n : List α} (hl : p <+: l)
    (hn : p <+: n) (hlm : (compareLists cmp l m).isLE = true)
    (hmn : (compareLists cmp m n).isLE = true) : p <+: m := by
  induction p generalizing l m n with
  | nil => exact List.nil_prefix
  | cons a p ih =>
    obtain ⟨l, rfl⟩ := hl
    obtain ⟨n, rfl⟩ := hn
    cases m with
    | nil => cases hlm
    | cons b m =>
      obtain ⟨hab, hl⟩ := isLE_of_compareLists_cons hlm
      obtain ⟨hba, hn⟩ := isLE_of_compareLists_cons hmn
      obtain rfl : a = b := LawfulEqCmp.eq_of_compare (OrientedCmp.isLE_antisymm hab hba)
      have hself : cmp a a = .eq := ReflCmp.compare_self
      exact List.cons_prefix_cons.2
        ⟨rfl, ih (List.prefix_append p l) (List.prefix_append p n) (hl hself) (hn hself)⟩

end

/-! ### Hashing -/

/-- `Separates feed f`: what a hasher is fed for an element tells it apart from the others exactly as far as
`f` does, and where it ends can be told whatever is fed after it. -/
def Separates {α β : Type} (feed : α → List HashInput) (f : α → β) : Prop :=
  ∀ a b rest rest', feed a ++ rest = feed b ++ rest' ↔ f a = f b ∧ rest = rest'

/-- Lists are told apart by their elements. -/
theorem Separates.ofList {α β : Type} {feed : α → List HashInput} {f : α → β} (h : Separates feed f) :
    Separates (HashInput.ofList feed) (List.map f) := by
  intro l m rest rest'
  simp only [HashInput.ofList, List.cons_append, List.cons.injEq, HashInput.length.injEq]
  induction l generalizing m with
  | nil => cases m <;> simp
  | cons a l ih =>
    cases m with
    | nil => simp
    | cons b m =>
      simp only [List.length_cons, Nat.add_right_cancel_iff, List.flatMap_cons, List.append_assoc,
        h a b, List.map_cons, List.cons.injEq, and_left_comm (b := f a = f b), ih m, and_assoc]

theorem separates_part : Separates NamePart.hashInput (NamePart.fold .caseSensitive) := by
  intro p q rest rest'
  simp [NamePart.hashInput, NamePart.fold, ValueComparison.fold, and_assoc]

theorem separates_relativeName :
    Separates RelativeName.hashInput (RelativeName.fold .caseSensitive) :=
  fun r s => separates_part.ofList r.parts s.parts

namespace DistinguishedName

variable {a b c p : DistinguishedName}

/-- Names feed the same to a hasher exactly if they are equal. -/
theorem hashInput_eq_iff : a.hashInput = b.hashInput ↔ (a == b) = true := by
  have h := separates_relativeName.ofList a.rdns b.rdns [] []
  rw [List.append_nil, List.append_nil, and_iff_left rfl] at h
  exact h.trans beq_iff_key_eq.symm

/-! ### The order -/

theorem isLE_total (a b : DistinguishedName) :
    (compare a b).isLE = true ∨ (compare b a).isLE = true := by
  have hswap : compare b a = (compare a b).swap := OrientedCmp.eq_swap
  rw [hswap]
  cases compare a b <;> simp

/-- A common end of two names does not count. -/
theorem compare_of_common_end {m n r s : DistinguishedName} (hm : m.key = r.key ++ p.key)
    (hn : n.key = s.key ++ p.key) : compare m n = compare r s := by
  rw [compare_eq_keys, hm, hn, List.reverse_append, List.reverse_append, compareLists_append_left]
  rfl

theorem compare_eq_iff_beq : compare a b = .eq ↔ (a == b) = true :=
  compare_eq_iff_key_eq.trans beq_iff_key_eq.symm

/-- A name comes before all that lies below it. -/
theorem compare_of_isBelow (h : b.isBelow a = true) : compare a b = .lt := by
  obtain ⟨hwithin, hlen⟩ := isBelow_iff.1 h
  refine compareLists_of_isPrefix (List.reverse_prefix.2 hwithin) ?_
  rw [List.length_reverse, List.length_reverse]
  rwa [← length_key a, ← length_key b] at hlen

/-- What comes between two names that lie within a third one lies within it as well. -/
theorem isWithin_of_between (ha : a.isWithin p = true) (hc : c.isWithin p = true)
    (hab : (compare a b).isLE = true) (hbc : (compare b c).isLE = true) : b.isWithin p = true := by
  rw [isWithin_iff, ← List.reverse_prefix] at *
  exact isPrefix_of_between ha hc hab hbc

/-- **The order of names is total and fits equality and the hierarchy.** Comparing the other way round gives
the opposite, the order is transitive and antisymmetric and any two names are comparable. Exactly the equal
names compare as equal, and they are those that feed the same to a hasher. A name comes before all that lies
below it, and what comes between two names that lie within a third one lies within it as well. -/
theorem order_laws (a b c p : DistinguishedName) :
    compare a b = (compare b a).swap ∧
    ((compare a b).isLE = true → (compare b a).isLE = true → (a == b) = true) ∧
    ((compare a b).isLE = true → (compare b c).isLE = true → (compare a c).isLE = true) ∧
    ((compare a b).isLE = true ∨ (compare b a).isLE = true) ∧
    (compare a b = .eq ↔ (a == b) = true) ∧
    (a.hashInput = b.hashInput ↔ (a == b) = true) ∧
    (a.isAbove b = true → compare a b = .lt) ∧
    (a.isWithin p = true → c.isWithin p = true → (compare a b).isLE = true →
      (compare b c).isLE = true → b.isWithin p = true) := by
  refine ⟨OrientedCmp.eq_swap, fun hab hba => ?_, TransCmp.isLE_trans, isLE_total a b,
    compare_eq_iff_beq, hashInput_eq_iff, compare_of_isBelow, isWithin_of_between⟩
  exact compare_eq_iff_beq.1 (OrientedCmp.isLE_antisymm hab hba)

/-- The name of the organisation in other letters. -/
def capitalOrganisation : DistinguishedName := ⟨[⟨⟨"OU", "Org", isAttributeType_OU⟩, []⟩]⟩

/-- The name of a branch of the organisation, of two parts. -/
def branch (place : String) : DistinguishedName :=
  capitalOrganisation.child ⟨⟨"ou", "Branch", isAttributeType_ou⟩, [⟨"ou", place, isAttributeType_ou⟩]⟩

/-- A branch comes after its organisation, and a branch between two others is one of the same organisation. -/
theorem order_laws_organisation :
    ((compare organisation capitalOrganisation).isLE = true ∧
      (compare capitalOrganisation organisation).isLE = true ∧
      (organisation == capitalOrganisation) = true) ∧
    (organisation.isAbove (branch "Bergen") = true ∧ compare organisation (branch "Bergen") = .lt) ∧
    ((compare (branch "Bergen") (branch "Oslo")).isLE = true ∧
      (compare (branch "Oslo") (branch "oslo")).isLE = true ∧
      (compare (branch "Bergen") (branch "oslo")).isLE = true) ∧
    (branch "Bergen").isWithin organisation = true ∧ (branch "oslo").isWithin organisation = true ∧
    (branch "Oslo").isWithin organisation = true := by
  have hle : (compare organisation capitalOrganisation).isLE = true := by cbv
  have hge : (compare capitalOrganisation organisation).isLE = true := by cbv
  have habove : organisation.isAbove (branch "Bergen") = true := by cbv
  have hfirst : (compare (branch "Bergen") (branch "Oslo")).isLE = true := by cbv
  have hsecond : (compare (branch "Oslo") (branch "oslo")).isLE = true := by cbv
  have hbergen : (branch "Bergen").isWithin organisation = true := by cbv
  have hoslo : (branch "oslo").isWithin organisation = true := by cbv
  obtain ⟨-, hsame, -⟩ := order_laws organisation capitalOrganisation organisation organisation
  obtain ⟨-, -, -, -, -, -, hafter, -⟩ :=
    order_laws organisation (branch "Bergen") organisation organisation
  obtain ⟨-, -, htrans, -, -, -, -, hbetween⟩ :=
    order_laws (branch "Bergen") (branch "Oslo") (branch "oslo") organisation
  exact ⟨⟨hle, hge, hsame hle hge⟩, ⟨habove, hafter habove⟩, ⟨hfirst, hsecond, htrans hfirst hsecond⟩,
    hbergen, hoslo, hbetween hbergen hoslo hfirst hsecond⟩

end DistinguishedName

end DirectoryAccess
