import DirectoryAccess.Proofs.InMemory.Requests

/-!
# Directories that are trees

In a directory that is a tree every entry but those below the root has a parent. All names between an
entry and a name above it are then entries, and what is left when a subtree is taken out is a tree.
-/

namespace DirectoryAccess.InMemory

open DistinguishedName

namespace Directory

/-- The entries form a tree below the root. -/
structure IsTree (d : Directory) : Prop where
  /-- The names are in ascending order. -/
  ascending : d.names.Pairwise fun m n => compare m n = .lt
  /-- The root is not an entry. -/
  named (n : DistinguishedName) : n ∈ d.names → n.isRoot = false
  /-- The parent of an entry is the root or an entry. -/
  rooted (n : DistinguishedName) : n ∈ d.names → d.hasParentOf n = true

/-- The directory without the entries whose names satisfy `p`. -/
def without (d : Directory) (p : DistinguishedName → Bool) : Directory :=
  { d with entries := d.entries.filterKeys fun n => !p n }

variable {d : Directory} {p q : DistinguishedName → Bool} {m n a c top : DistinguishedName}

@[simp] theorem names_without : (d.without p).names = d.names.filter fun n => !p n :=
  OrderedMap.keys_filterKeys _ _

@[simp] theorem without_logged (events : List Event) :
    (d.logged events).without p = (d.without p).logged events := rfl

theorem without_without : (d.without p).without q = d.without fun n => p n || q n := by
  simp [without, OrderedMap.filterKeys_filterKeys]

theorem without_congr (h : ∀ n ∈ d.names, p n = q n) : d.without p = d.without q := by
  have hkeys : ∀ n ∈ d.entries.keys, (!p n) = !q n := fun n hn => by rw [h n hn]
  rw [without, without, OrderedMap.filterKeys_congr hkeys]

theorem without_of_not (h : ∀ n ∈ d.names, p n = false) : d.without p = d := by
  have hnone : d.without p = d.without fun _ => false := without_congr h
  rw [hnone, without]
  exact congrArg (fun entries => { d with entries }) (OrderedMap.filterKeys_true d.entries)

theorem Serves.without (h : d.Serves) : (d.without p).Serves := ⟨h.1, h.2, h.3, h.4⟩

theorem Classified.without (h : d.Classified) : (d.without p).Classified :=
  fun e he => h e (List.mem_filter.1 he).1

theorem Classified.logged (h : d.Classified) (events : List Event) : (d.logged events).Classified := h

theorem IsTree.logged (h : d.IsTree) (events : List Event) : (d.logged events).IsTree :=
  ⟨h.1, h.2, h.3⟩

/-! ### Names below an entry -/

/-- Without what lies below it an entry is still there. -/
theorem hasEntry_without_below (h : d.hasEntry top = true) :
    (d.without (·.isBelow top)).hasEntry top = true := by
  obtain ⟨m, hm, hkey⟩ := hasEntry_iff.1 h
  refine hasEntry_iff.2 ⟨m, ?_, hkey⟩
  rw [names_without, List.mem_filter, Bool.not_eq_true', Bool.eq_false_iff, ne_eq, isBelow_iff, hkey,
    ← length_key top, ← length_key m, hkey]
  exact ⟨hm, fun h => Nat.lt_irrefl _ h.2⟩

/-- Without what lies below it an entry has no children. -/
theorem hasChildren_without_below (d : Directory) (top : DistinguishedName) :
    (d.without (·.isBelow top)).hasChildren top = false := by
  rw [hasChildren, names_without, List.any_eq_false]
  intro n hn hchild
  have hstays := (List.mem_filter.1 hn).2
  rw [isBelow_of_isChildOf hchild] at hstays
  cases hstays

/-- What lies below an entry and the entry itself make up its subtree. -/
theorem without_below_without_self (d : Directory) (top : DistinguishedName) :
    ((d.without (·.isBelow top)).without fun n => compare top n == .eq) =
      d.without (·.isWithin top) := by
  rw [without_without]
  refine without_congr fun n _ => ?_
  rw [Bool.eq_iff_iff, Bool.or_eq_true, beq_iff_eq, compare_eq_iff_key_eq, isWithin_iff_isBelow_or,
    or_comm, eq_comm (a := top.key)]

/-! ### Names between an entry and a name above it -/

/-- The parent of an entry, as an entry. -/
theorem IsTree.exists_parent (h : d.IsTree) (hn : n ∈ d.names) :
    ∃ p : DistinguishedName, (∃ r, n.key = r :: p.key) ∧ (p.isRoot = true ∨ ∃ m ∈ d.names, p.key = m.key) := by
  have hp := h.rooted n hn
  rw [hasParentOf] at hp
  cases hparent : n.parent? with
  | none =>
    rw [hparent] at hp
    cases hp
  | some p =>
    rw [hparent] at hp
    simp only [Option.any_some, isPlace, Bool.or_eq_true, hasEntry_iff] at hp
    exact ⟨p, key_of_parent? hparent, hp⟩

/-- Between a name and an entry below it there is a child of the name, and it is an entry. -/
theorem IsTree.exists_child (h : d.IsTree) (hn : n ∈ d.names) (hbelow : n.isBelow top = true) :
    ∃ c ∈ d.names, c.isChildOf top = true ∧ n.isWithin c = true := by
  induction hlen : n.length using Nat.strongRecOn generalizing n with
  | ind len ih =>
  obtain ⟨p, ⟨r, hr⟩, hplace⟩ := h.exists_parent hn
  obtain ⟨hwithin, hlt⟩ := isBelow_iff.1 hbelow
  rw [hr, List.suffix_cons_iff] at hwithin
  obtain heq | htop := hwithin
  · have := congrArg List.length heq
    rw [← hr, length_key, length_key] at this
    omega
  · by_cases hpt : p.key = top.key
    · exact ⟨n, hn, isChildOf_iff.2 ⟨r, hpt ▸ hr⟩, isWithin_self n⟩
    · -- the parent lies below the name as well, and it is an entry
      obtain hroot | ⟨m, hm, hkey⟩ := hplace
      · rw [isRoot_iff.1 hroot] at htop hpt
        exact absurd (List.suffix_nil.1 htop).symm hpt
      · rw [hkey] at hr htop hpt
        have hmlen : m.length < len := by
          have := congrArg List.length hr
          rw [List.length_cons, length_key, length_key] at this
          omega
        have hmbelow : m.isBelow top = true :=
          (isWithin_iff_isBelow_or.1 (isWithin_iff.2 htop)).resolve_left hpt
        obtain ⟨c, hc, hchild, hmc⟩ := ih m.length hmlen hm hmbelow rfl
        have hnm : n.isWithin m = true := isWithin_iff.2 (hr ▸ List.suffix_cons r m.key)
        exact ⟨c, hc, hchild, isWithin_trans hnm hmc⟩

/-- An entry lies below a name exactly if it lies within one of the children. -/
theorem IsTree.any_children_iff (h : d.IsTree) (hn : n ∈ d.names) :
    (d.names.filter (·.isChildOf top)).any n.isWithin = true ↔ n.isBelow top = true := by
  rw [List.any_eq_true]
  constructor
  · rintro ⟨c, hc, hwithin⟩
    exact isBelow_of_isWithin hwithin (isBelow_of_isChildOf (List.mem_filter.1 hc).2)
  · intro hbelow
    obtain ⟨c, hc, hchild, hwithin⟩ := h.exists_child hn hbelow
    exact ⟨c, List.mem_filter.2 ⟨hc, hchild⟩, hwithin⟩

/-- What is left when a subtree is taken out is a tree. -/
theorem IsTree.without (h : d.IsTree) (top : DistinguishedName) :
    (d.without (·.isWithin top)).IsTree where
  ascending := by
    rw [names_without]
    exact h.ascending.filter _
  named n hn := by
    rw [names_without] at hn
    exact h.named n (List.mem_filter.1 hn).1
  rooted n hn := by
    rw [names_without, List.mem_filter] at hn
    have hp := h.rooted n hn.1
    rw [hasParentOf] at hp ⊢
    cases hparent : n.parent? with
    | none =>
      rw [hparent] at hp
      cases hp
    | some p =>
      rw [hparent] at hp
      simp only [Option.any_some, isPlace, Bool.or_eq_true, hasEntry_iff] at hp ⊢
      obtain hroot | ⟨m, hm, hkey⟩ := hp
      · exact .inl hroot
      · -- the parent stays: what it lies within, the entry lies within
        refine .inr ⟨m, ?_, hkey⟩
        rw [names_without, List.mem_filter]
        refine ⟨hm, ?_⟩
        obtain ⟨r, hr⟩ := key_of_parent? hparent
        have hnm : n.isWithin m = true := isWithin_iff.2 (hr ▸ hkey ▸ List.suffix_cons r p.key)
        cases hmt : m.isWithin top with
        | false => rfl
        | true =>
          rw [isWithin_trans hnm hmt] at hn
          exact hn.2

/-- Entries of one key are one entry. -/
theorem IsTree.eq_of_key_eq (h : d.IsTree) (hm : m ∈ d.names) (hn : n ∈ d.names)
    (hkey : m.key = n.key) : m = n := by
  have hascending : d.entries.Ascending := h.ascending
  obtain ⟨e, he, rfl⟩ := List.mem_map.1 hm
  obtain ⟨e', he', rfl⟩ := List.mem_map.1 hn
  exact congrArg Prod.fst (hascending.eq_of_compare he he' (compare_eq_iff_key_eq.2 hkey))

end Directory

end DirectoryAccess.InMemory
