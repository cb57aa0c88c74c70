import DirectoryAccess.Proofs.InMemory.Tree
import DirectoryAccess.Proofs.Operation.Stack

/-!
# The deletion of a subtree

In a tree the deletion of a subtree takes out the entries of the subtree and no others. It makes two
visits for each of them, one to list its children and one to delete it, each on a connection of its own.
Children go before their parent, and siblings in the order of their names.
-/

namespace DirectoryAccess.InMemory

open DirectoryServer DistinguishedName

/-! ### Visits -/

/-- What is done on one connection while a subtree is deleted. -/
inductive Visit where
  /-- The children of an entry are listed. -/
  | list (n : DistinguishedName)
  /-- An entry is deleted. -/
  | delete (n : DistinguishedName)

/-- What the directory records of a visit. -/
def Visit.events : Visit → List Event
  | .list n =>
    [.acquire .readWrite, .search (.children n noAttributes), .searchFinished, .release .readWrite]
  | .delete n => [.acquire .readWrite, .delete n, .release .readWrite]

/-- The name that a visit deletes. -/
def Visit.deleted? : Visit → Option DistinguishedName
  | .list _ => none
  | .delete n => some n

/-- A listing succeeds and is a visit. -/
theorem requested_childNames {d : Directory} (hd : d.Serves) (hclass : d.Classified)
    {n : DistinguishedName} (hplace : d.isPlace n = true) :
    requested .readWrite (fun session => childNames session n) d =
      (.ok (d.names.filter (·.isChildOf n)), d.logged (Visit.list n).events) := by
  have hlist := childNames_eq (d := d.logged [.acquire .readWrite]) (hd.logged _) hclass hplace
    AccessMode.readWrite
  rw [requested_eq hd .readWrite (by decide) (childNames · n) hlist, Directory.logged_logged,
    Directory.logged_logged]
  rfl

/-- The deletion of an entry without children succeeds and is a visit. -/
theorem deleteEntry_eq {d : Directory} (hd : d.Serves) {n : DistinguishedName}
    (hentry : d.hasEntry n = true) (hleaf : d.hasChildren n = false) :
    deleteEntry (.name n) d =
      (.ok (), (d.without fun m => compare n m == .eq).logged (Visit.delete n).events) := by
  have hdelete : DirectoryServer.delete AccessMode.readWrite n (d.logged [.acquire .readWrite]) = _ :=
    delete_eq (d := d.logged [.acquire .readWrite]) hentry hleaf
  refine (requested_eq hd .readWrite (by decide) (DirectoryServer.delete · n) hdelete).trans ?_
  rw [Directory.logged_logged]
  exact congrArg (Prod.mk _) (Directory.logged_logged (d.without fun m => compare n m == .eq)
    [.acquire .readWrite] [.delete n, .release .readWrite])

/-! ### The order of deletions -/

/-- `a` goes before `b`: `b` does not lie below `a`, and if the two lie within siblings, then not `a`
within the greater one. -/
structure Precedes (a b : DistinguishedName) : Prop where
  /-- A name does not go before the names below it. -/
  notAbove : b.isBelow a = false
  /-- Siblings go in ascending order, with all that lies below them. -/
  siblings {p x y : DistinguishedName} : x.isChildOf p = true → y.isChildOf p = true →
    a.isWithin x = true → b.isWithin y = true → compare x y ≠ .gt

variable {a b c c' p top : DistinguishedName}

/-- What lies within one sibling does not lie within another. -/
theorem isWithin_eq_false_of_siblings (hc : c.isChildOf p = true) (hc' : c'.isChildOf p = true)
    (hlt : compare c c' = .lt) (hb : b.isWithin c' = true) : b.isWithin c = false := by
  have hlen : c.length = c'.length := by rw [length_of_isChildOf hc, length_of_isChildOf hc']
  cases h : b.isWithin c with
  | false => rfl
  | true =>
    rw [compare_eq_iff_key_eq.2 (key_eq_of_isWithin h hb hlen)] at hlt
    cases hlt

/-- What lies within one sibling goes before what lies within a greater one. -/
theorem precedes_of_siblings (hc : c.isChildOf p = true) (hc' : c'.isChildOf p = true)
    (hlt : compare c c' = .lt) (ha : a.isWithin c = true) (hb : b.isWithin c' = true) :
    Precedes a b := by
  have hlen : c.length = c'.length := by rw [length_of_isChildOf hc, length_of_isChildOf hc']
  have hapart : ¬b.isWithin c = true := by
    rw [isWithin_eq_false_of_siblings hc hc' hlt hb]
    decide
  constructor
  · cases h : b.isBelow a with
    | false => rfl
    | true => exact absurd (isWithin_trans (isWithin_of_isBelow h) ha) hapart
  · intro q x y hx hy hax hby
    have hxy : x.length = y.length := by rw [length_of_isChildOf hx, length_of_isChildOf hy]
    obtain hshort | hsame | hlong := Nat.lt_trichotomy x.length c.length
    · -- both `c` and `c'` lie below `x` and `y`, and so does their parent
      have hpx := isWithin_of_isChildOf hc (isWithin_or_isWithin hax ha (Nat.le_of_lt hshort)) hshort
      have hpy := isWithin_of_isChildOf hc' (isWithin_or_isWithin hby hb (by omega)) (by omega)
      rw [compare_eq_iff_key_eq.2 (key_eq_of_isWithin hpx hpy hxy)]
      decide
    · rw [compare_eq_keys, key_eq_of_isWithin hax ha hsame,
        key_eq_of_isWithin hby hb (by omega), ← compare_eq_keys, hlt]
      decide
    · -- `x` and `y` have their parent within `c`
      have hq := length_of_isChildOf hx
      have haq := isWithin_trans hax (isWithin_of_isBelow (isBelow_of_isChildOf hx))
      have hbq := isWithin_trans hby (isWithin_of_isBelow (isBelow_of_isChildOf hy))
      exact absurd (isWithin_trans hbq (isWithin_or_isWithin ha haq (by omega))) hapart

/-- What lies below a name goes before it. -/
theorem precedes_of_isBelow (h : a.isBelow top = true) : Precedes a top := by
  constructor
  · cases htop : top.isBelow a with
    | false => rfl
    | true =>
      have := (isBelow_iff.1 h).2
      have := (isBelow_iff.1 htop).2
      omega
  · intro q x y hx hy hax hty
    have hxy : x.length = y.length := by rw [length_of_isChildOf hx, length_of_isChildOf hy]
    have hay := isWithin_trans (isWithin_of_isBelow h) hty
    rw [compare_eq_iff_key_eq.2 (key_eq_of_isWithin hax hay hxy)]
    decide

/-- The visits delete these names, in the right order, and there are two visits for each name. -/
structure Deletes (visits : List Visit) (deleted : List DistinguishedName) : Prop where
  /-- The names are deleted one after the other. -/
  names : visits.filterMap Visit.deleted? = deleted
  /-- Each entry is visited twice. -/
  length : visits.length = 2 * deleted.length
  /-- Children go before their parent, and siblings in ascending order. -/
  ordered : deleted.Pairwise Precedes

theorem Deletes.nil : Deletes [] [] := ⟨rfl, rfl, .nil⟩

theorem Deletes.append {visits visits' : List Visit} {deleted deleted' : List DistinguishedName}
    (h : Deletes visits deleted) (h' : Deletes visits' deleted')
    (hprecedes : ∀ a ∈ deleted, ∀ b ∈ deleted', Precedes a b) :
    Deletes (visits ++ visits') (deleted ++ deleted') where
  names := by rw [List.filterMap_append, h.names, h'.names]
  length := by rw [List.length_append, List.length_append, h.length, h'.length, Nat.mul_add]
  ordered := List.pairwise_append.2 ⟨h.ordered, h'.ordered, hprecedes⟩

/-- An entry is listed first and deleted last. -/
theorem Deletes.around {visits : List Visit} {below : List DistinguishedName}
    (h : Deletes visits below) (hbelow : ∀ a ∈ below, a.isBelow top = true) :
    Deletes (.list top :: visits ++ [.delete top]) (below ++ [top]) where
  names := by
    rw [List.filterMap_append, List.filterMap_cons, h.names]
    rfl
  length := by
    simp only [List.length_append, List.length_cons, List.length_nil, h.length]
    omega
  ordered := by
    refine List.pairwise_append.2 ⟨h.ordered, List.pairwise_singleton _ _, ?_⟩
    intro a ha b hb
    rw [List.mem_singleton.1 hb]
    exact precedes_of_isBelow (hbelow a ha)

/-! ### The names that are deleted -/

/-- The names that satisfy one of two conditions, those that satisfy the first one in front. -/
theorem filter_perm_append (l : List DistinguishedName) (p q : DistinguishedName → Bool) :
    (l.filter p ++ (l.filter fun n => !p n).filter q).Perm (l.filter fun n => p n || q n) := by
  have hp : (l.filter fun n => p n || q n).filter p = l.filter p := by
    rw [List.filter_filter]
    exact List.filter_congr fun n _ => by cases p n <;> simp
  have hq : ((l.filter fun n => p n || q n).filter fun n => !p n) = (l.filter fun n => !p n).filter q := by
    rw [List.filter_filter, List.filter_filter]
    exact List.filter_congr fun n _ => by cases p n <;> simp
  rw [← hp, ← hq]
  exact List.filter_append_perm p _

namespace Directory

/-- A directory that the deletion of a subtree can rely on. -/
structure Intact (d : Directory) : Prop where
  /-- The entries form a tree. -/
  tree : d.IsTree
  /-- Every entry is found by a listing. -/
  classified : d.Classified
  /-- The directory has not been told to fail. -/
  serves : d.Serves

variable {d : Directory}

theorem Intact.logged (h : d.Intact) (events : List Event) : (d.logged events).Intact :=
  ⟨h.1.logged events, h.2.logged events, h.3.logged events⟩

theorem Intact.without (h : d.Intact) (top : DistinguishedName) :
    (d.without (·.isWithin top)).Intact :=
  ⟨h.1.without top, h.2.without, h.3.without⟩

theorem IsTree.nodup (h : d.IsTree) : d.names.Nodup := by
  have hascending : d.entries.Ascending := h.ascending
  exact hascending.nodup_keys

/-- The names within the name of an entry are those below it and its own. -/
theorem IsTree.within_perm (h : d.IsTree) (hc : c ∈ d.names) :
    (d.names.filter (·.isBelow c) ++ [c]).Perm (d.names.filter (·.isWithin c)) := by
  have hself : c.isBelow c = false := by
    cases hb : c.isBelow c with
    | false => rfl
    | true => exact absurd (isBelow_iff.1 hb).2 (Nat.lt_irrefl _)
  have hnodup : (d.names.filter (·.isBelow c) ++ [c]).Nodup := by
    refine List.nodup_append.2 ⟨h.nodup.filter _, List.pairwise_singleton _ _, ?_⟩
    intro n hn m hm heq
    rw [heq, List.mem_singleton.1 hm, List.mem_filter, hself] at hn
    cases hn.2
  refine (List.perm_ext_iff_of_nodup hnodup (h.nodup.filter _)).2 fun n => ?_
  rw [List.mem_append, List.mem_filter, List.mem_filter, List.mem_singleton, isWithin_iff_isBelow_or]
  constructor
  · rintro (⟨hn, hbelow⟩ | rfl)
    · exact ⟨hn, .inr hbelow⟩
    · exact ⟨hc, .inl rfl⟩
  · rintro ⟨hn, hkey | hbelow⟩
    · exact .inr (h.eq_of_key_eq hn hc hkey)
    · exact .inl ⟨hn, hbelow⟩

end Directory

/-! ### The run -/

/-- The deletion of the subtree takes it out, in visits that delete every entry of it. -/
def DeletesSubtree (depth : Nat) (d : Directory) (top : DistinguishedName) : Prop :=
  ∃ visits below,
    deleteSubtree depth top d =
      (.ok (), (d.without (·.isWithin top)).logged (visits.flatMap Visit.events)) ∧
    Deletes visits (below ++ [top]) ∧ below.Perm (d.names.filter (·.isBelow top))

/-- No entry within a name is so many levels or more below it. -/
def Shallow (depth : Nat) (d : Directory) (top : DistinguishedName) : Prop :=
  ∀ n ∈ d.names, n.isWithin top = true → n.length < top.length + depth

theorem Shallow.mono {depth : Nat} {d d' : Directory} (h : Shallow depth d top)
    (hnames : d'.names ⊆ d.names) : Shallow depth d' top :=
  fun n hn => h n (hnames hn)

/-- Below a child there are fewer levels. -/
theorem Shallow.child {depth : Nat} {d : Directory} (h : Shallow (depth + 1) d top)
    (hc : c.isChildOf top = true) : Shallow depth d c := by
  intro n hn hwithin
  have hlt := h n hn (isWithin_trans hwithin (isWithin_of_isBelow (isBelow_of_isChildOf hc)))
  rw [length_of_isChildOf hc]
  omega

/-- The subtrees of siblings are taken out one after the other. -/
theorem forEach_deleteSubtree {depth : Nat}
    (ih : ∀ {d : Directory} {c}, d.Intact → d.hasEntry c = true → Shallow depth d c →
      DeletesSubtree depth d c) (cs : List DistinguishedName) (d : Directory) (hd : d.Intact)
    (hcs : ∀ c ∈ cs, c ∈ d.names ∧ c.isChildOf p = true)
    (hascending : cs.Pairwise fun m n => compare m n = .lt) (hshallow : ∀ c ∈ cs, Shallow depth d c) :
    ∃ visits deleted,
      forEach (deleteSubtree depth) cs d =
        (.ok (), (d.without fun n => cs.any n.isWithin).logged (visits.flatMap Visit.events)) ∧
      Deletes visits deleted ∧ deleted.Perm (d.names.filter fun n => cs.any n.isWithin) := by
  induction cs generalizing d with
  | nil =>
    refine ⟨[], [], ?_, .nil, ?_⟩
    · simp [forEach, Directory.without_of_not]
    · simp
  | cons c cs ihcs =>
    obtain ⟨hlt, hascending⟩ := List.pairwise_cons.1 hascending
    obtain ⟨hc, hchild⟩ := hcs c List.mem_cons_self
    obtain ⟨visits, below, hrun, hdeletes, hperm⟩ :=
      ih hd (Directory.hasEntry_iff.2 ⟨c, hc, rfl⟩) (hshallow c List.mem_cons_self)
    have hwithin : (below ++ [c]).Perm (d.names.filter (·.isWithin c)) :=
      (hperm.append_right [c]).trans (hd.tree.within_perm hc)
    -- what is left is a tree, and the other siblings are left
    obtain ⟨visits', deleted', hrun', hdeletes', hperm'⟩ :=
      ihcs ((d.without (·.isWithin c)).logged (visits.flatMap Visit.events))
        ((hd.without c).logged _) (by
          intro c' hc'
          obtain ⟨hmem, hchild'⟩ := hcs c' (List.mem_cons_of_mem _ hc')
          refine ⟨?_, hchild'⟩
          rw [Directory.names_logged, Directory.names_without, List.mem_filter]
          rw [isWithin_eq_false_of_siblings hchild hchild' (hlt c' hc') (isWithin_self c')]
          exact ⟨hmem, rfl⟩)
        hascending (by
          intro c' hc'
          refine (hshallow c' (List.mem_cons_of_mem _ hc')).mono fun n hn => ?_
          rw [Directory.names_logged, Directory.names_without] at hn
          exact (List.mem_filter.1 hn).1)
    refine ⟨visits ++ visits', (below ++ [c]) ++ deleted', ?_, hdeletes.append hdeletes' ?_, ?_⟩
    · rw [forEach, hrun]
      dsimp only
      rw [hrun', Directory.without_logged, Directory.without_without, Directory.logged_logged,
        List.flatMap_append]
      simp only [List.any_cons]
    · intro a ha b hb
      have ha' := List.mem_filter.1 (hwithin.mem_iff.1 ha)
      have hb' := List.mem_filter.1 (hperm'.mem_iff.1 hb)
      obtain ⟨c', hc', hbc'⟩ := List.any_eq_true.1 hb'.2
      exact precedes_of_siblings hchild (hcs c' (List.mem_cons_of_mem _ hc')).2 (hlt c' hc') ha'.2 hbc'
    · rw [Directory.names_logged, Directory.names_without] at hperm'
      simp only [List.any_cons]
      exact (hwithin.append hperm').trans (filter_perm_append _ _ _)

/-- The deletion of a subtree takes out all that is below its top, and comes to the top itself then. -/
theorem deletesBelow {depth : Nat} {d : Directory} {top : DistinguishedName}
    (ih : ∀ {d : Directory} {c}, d.Intact → d.hasEntry c = true → Shallow depth d c →
      DeletesSubtree depth d c)
    (hd : d.Intact) (hplace : d.isPlace top = true) (hshallow : Shallow (depth + 1) d top) :
    ∃ visits below,
      deleteSubtree (depth + 1) top d = deleteEntry (.name top) ((d.without (·.isBelow top)).logged
        ((Visit.list top).events ++ visits.flatMap Visit.events)) ∧
      Deletes visits below ∧ below.Perm (d.names.filter (·.isBelow top)) := by
  have hlist := requested_childNames hd.serves hd.classified hplace
  have hmem : ∀ c, c ∈ d.names.filter (·.isChildOf top) → c ∈ d.names ∧ c.isChildOf top = true :=
    fun c => List.mem_filter.1
  obtain ⟨visits, below, hrun, hdeletes, hperm⟩ :=
    forEach_deleteSubtree ih (d.names.filter (·.isChildOf top)) (d.logged (Visit.list top).events)
      (hd.logged _) hmem (hd.tree.ascending.filter _) fun c hc => hshallow.child (hmem c hc).2
  -- what lies within a child is what lies below the top
  have hbelow : ∀ n ∈ d.names,
      (d.names.filter (·.isChildOf top)).any n.isWithin = n.isBelow top := fun n hn =>
    Bool.eq_iff_iff.2 (hd.tree.any_children_iff hn)
  rw [Directory.without_logged, Directory.logged_logged, Directory.without_congr hbelow] at hrun
  rw [Directory.names_logged, List.filter_congr hbelow] at hperm
  refine ⟨visits, below, ?_, hdeletes, hperm⟩
  rw [deleteSubtree]
  dsimp only
  rw [hlist]
  dsimp only
  rw [hrun]

/-- **The deletion of a subtree**, at most as many levels deep as the subtree is. -/
theorem deletesSubtree {depth : Nat} {d : Directory} {top : DistinguishedName} (hd : d.Intact)
    (hentry : d.hasEntry top = true) (hshallow : Shallow depth d top) : DeletesSubtree depth d top := by
  induction depth generalizing d top with
  | zero =>
    obtain ⟨m, hm, hkey⟩ := Directory.hasEntry_iff.1 hentry
    have hlt := hshallow m hm (isWithin_iff.2 (hkey ▸ List.suffix_rfl))
    rw [← length_key m, ← hkey, length_key] at hlt
    omega
  | succ depth ih =>
    obtain ⟨visits, below, hrun, hdeletes, hperm⟩ :=
      deletesBelow ih hd (Directory.isPlace_of_hasEntry hentry) hshallow
    have hdelete := deleteEntry_eq
      (hd.serves.without.logged ((Visit.list top).events ++ visits.flatMap Visit.events))
      (Directory.hasEntry_without_below hentry) (Directory.hasChildren_without_below d top)
    refine ⟨.list top :: visits ++ [.delete top], below, ?_, hdeletes.around ?_, hperm⟩
    · rw [hrun, hdelete, Directory.without_logged, Directory.logged_logged,
        Directory.without_below_without_self]
      simp only [List.cons_append, List.flatMap_cons, List.flatMap_append, List.flatMap_nil,
        List.append_nil, List.append_assoc]
    · intro a ha
      exact (List.mem_filter.1 (hperm.mem_iff.1 ha)).2

theorem le_foldl_max {l : List Nat} {k a : Nat} (h : k ≤ a ∨ k ∈ l) : k ≤ l.foldl max a := by
  induction l generalizing a with
  | nil => simpa using h
  | cons b l ih =>
    refine ih ?_
    rw [List.mem_cons] at h
    obtain h | rfl | h := h
    · exact .inl (Nat.le_trans h (Nat.le_max_left a b))
    · exact .inl (Nat.le_max_right a k)
    · exact .inr h

/-- The bound on the depth of the directory is enough for every name. -/
theorem shallow_depth (d : Directory) (top : DistinguishedName) :
    Shallow (DirectoryServer.depth d) d top := by
  intro n hn _
  have hmax : n.length ≤ (d.names.map DistinguishedName.length).foldl max 0 :=
    le_foldl_max (.inr (List.mem_map_of_mem hn))
  change n.length < top.length + ((d.names.map DistinguishedName.length).foldl max 0 + 2)
  omega

/-- The subtree of an entry has one name more than lie below the entry. -/
theorem Directory.IsTree.length_within {d : Directory} (h : d.IsTree) {top : DistinguishedName}
    (hentry : d.hasEntry top = true) :
    (d.names.filter (·.isWithin top)).length = (d.names.filter (·.isBelow top)).length + 1 := by
  obtain ⟨m, hm, hkey⟩ := Directory.hasEntry_iff.1 hentry
  have hbelow : d.names.filter (·.isBelow top) = d.names.filter (·.isBelow m) :=
    List.filter_congr fun n _ => isBelow_congr hkey
  have hwithin : d.names.filter (·.isWithin top) = d.names.filter (·.isWithin m) :=
    List.filter_congr fun n _ => isWithin_congr hkey
  rw [hbelow, hwithin, ← (h.within_perm hm).length_eq, List.length_append, List.length_singleton]

/-- **The deletion of a subtree succeeds and is complete.** In a tree it takes out the entry and all that
is below it, and nothing else; it deletes every entry of the subtree once, each after all that is below
it, siblings in ascending order and the entry itself last; and it makes two visits for each entry of the
subtree, each on a connection of its own, which is closed before the next is opened. The loop over a
stack comes to an end in the same state. -/
theorem deleteTree_of_isTree {d : Directory} {name : NameInput} {top : DistinguishedName}
    (htree : d.IsTree) (hclass : d.Classified) (hserves : d.Serves)
    (hname : name.resolve = .ok top) (hentry : d.hasEntry top = true) :
    ∃ (visits : List Visit) (below : List DistinguishedName),
      deleteTree name true d =
        (.ok (), (d.without (·.isWithin top)).logged (visits.flatMap Visit.events)) ∧
      StackRun [(top, false)] d (.ok ())
        ((d.without (·.isWithin top)).logged (visits.flatMap Visit.events)) ∧
      visits.filterMap Visit.deleted? = below ++ [top] ∧
      below.Perm (d.names.filter (·.isBelow top)) ∧ d.names.Nodup ∧
      (below ++ [top]).Pairwise Precedes ∧
      visits.length = 2 * (d.names.filter (·.isWithin top)).length := by
  obtain ⟨visits, below, hrun, hdeletes, hperm⟩ :=
    deletesSubtree ⟨htree, hclass, hserves⟩ hentry (shallow_depth d top)
  have htop : deleteTree name true d =
      (.ok (), (d.without (·.isWithin top)).logged (visits.flatMap Visit.events)) := by
    rw [deleteTree, named, hname]
    exact hrun
  refine ⟨visits, below, htop, stackRun_of_deleteTree hname htop, hdeletes.names, hperm, htree.nodup,
    hdeletes.ordered, ?_⟩
  rw [hdeletes.length, htree.length_within hentry, ← hperm.length_eq, List.length_append,
    List.length_singleton]

/-- A country. -/
def sweden : DistinguishedName := ⟨[⟨⟨"c", "Sweden", by decide⟩, []⟩]⟩

/-- The country with a company in it, next to another country. -/
def countries : Directory :=
  let norway : DistinguishedName := ⟨[⟨⟨"c", "Norway", by decide⟩, []⟩]⟩
  let company : DistinguishedName := sweden.child ⟨⟨"ou", "Company", by decide⟩, []⟩
  { entries := ⟨[(norway, .ofLists [("objectClass", ["country"])] []),
      (sweden, .ofLists [("objectClass", ["country"])] []),
      (company, .ofLists [("objectClass", ["organizationalUnit"])] [])]⟩ }

theorem intact_countries : countries.Intact where
  tree := ⟨by decide +kernel, by decide +kernel, by decide +kernel⟩
  classified := by
    unfold Directory.Classified
    decide +kernel
  serves := ⟨rfl, rfl, rfl, rfl⟩

/-- The countries are such a tree, and one of them can be deleted with all that is in it. -/
theorem deleteTree_countries :
    countries.IsTree ∧ countries.Classified ∧ countries.Serves ∧
    countries.hasEntry sweden = true ∧
    ∃ (visits : List Visit) (below : List DistinguishedName),
      deleteTree (.name sweden) true countries =
        (.ok (), (countries.without (·.isWithin sweden)).logged
          (visits.flatMap Visit.events)) ∧
      StackRun [(sweden, false)] countries (.ok ())
        ((countries.without (·.isWithin sweden)).logged (visits.flatMap Visit.events)) ∧
      visits.filterMap Visit.deleted? = below ++ [sweden] ∧
      below.Perm (countries.names.filter (·.isBelow sweden)) ∧ countries.names.Nodup ∧
      (below ++ [sweden]).Pairwise Precedes ∧
      visits.length = 2 * (countries.names.filter (·.isWithin sweden)).length := by
  have hentry : countries.hasEntry sweden = true := by decide +kernel
  obtain ⟨htree, hclass, hserves⟩ := intact_countries
  exact ⟨htree, hclass, hserves, hentry, deleteTree_of_isTree htree hclass hserves rfl hentry⟩

end DirectoryAccess.InMemory
