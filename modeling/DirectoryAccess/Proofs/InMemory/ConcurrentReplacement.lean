import DirectoryAccess.Proofs.InMemory.SingleWrites
import DirectoryAccess.Proofs.Operation.Interleaving

/-!
# Replacements at the same time

Several clients replace one entry, each by attributes of its own. A replacement is a deletion and a
creation, and between the two the steps of the others may come, so that a client may find the entry
deleted by another one, or created by another one after its own deletion. Whatever the order is
(`replacements_interleaved`), the entry is there in the end and holds what a client put there that
succeeded; the others are told that the name is taken.

The invariant is about how far each client is (`Race`): an entry that is there has been created by one
of the clients, unless none of them has deleted it yet, and as long as it is not there, some client has
its creation before it.
-/

namespace DirectoryAccess.InMemory

open DirectoryServer DistinguishedName Std

variable {d d' d₀ : Directory} {n : DistinguishedName} {a : Attributes}

/-! ### What does not depend on an entry itself -/

namespace Directory

/-- Whether an entry has children does not depend on whether it is there. -/
theorem hasChildren_without_self (d : Directory) (n : DistinguishedName) :
    (d.without fun m => compare n m == .eq).hasChildren n = d.hasChildren n := by
  rw [Bool.eq_iff_iff, hasChildren, hasChildren, names_without, List.any_eq_true, List.any_eq_true]
  constructor
  · rintro ⟨c, hc, hchild⟩
    exact ⟨c, (List.mem_filter.1 hc).1, hchild⟩
  · rintro ⟨c, hc, hchild⟩
    refine ⟨c, List.mem_filter.2 ⟨hc, ?_⟩, hchild⟩
    obtain ⟨r, hr⟩ := isChildOf_iff.1 hchild
    rw [Bool.not_eq_true', beq_eq_false_iff_ne, ne_eq, compare_eq_iff_key_eq, hr]
    exact (List.cons_ne_self _ _).symm

/-- Whether there is a place for an entry does not depend on whether it is there. -/
theorem hasParentOf_without_self (d : Directory) (n : DistinguishedName) :
    (d.without fun m => compare n m == .eq).hasParentOf n = d.hasParentOf n := by
  rw [Bool.eq_iff_iff, hasParentOf_without_self_iff, hasParentOf_iff]
  simp only [isPlace_iff]
  constructor
  · rintro ⟨p, hp, hplace⟩
    exact ⟨p, hp, hplace.imp_right And.left⟩
  · rintro ⟨p, hp, hplace⟩
    refine ⟨p, hp, hplace.imp_right fun hentry => ⟨hentry, fun heq => ?_⟩⟩
    -- no name is its own parent
    obtain ⟨r, hr⟩ := key_of_parent? hp
    rw [← heq] at hr
    exact absurd hr (List.cons_ne_self _ _).symm

/-- `d.Spares n d'`: the entries of `d'` are those of `d`, apart from the one of the name `n`. -/
def Spares (d : Directory) (n : DistinguishedName) (d' : Directory) : Prop :=
  d'.entries.erase n = d.entries.erase n

theorem Spares.hasChildren_eq (h : d.Spares n d') : d'.hasChildren n = d.hasChildren n := by
  have hnames : (d'.without fun m => compare n m == .eq).names =
      (d.without fun m => compare n m == .eq).names := congrArg OrderedMap.keys h
  rw [← hasChildren_without_self d', ← hasChildren_without_self d, hasChildren, hasChildren, hnames]

theorem Spares.hasParentOf_eq (h : d.Spares n d') : d'.hasParentOf n = d.hasParentOf n := by
  have hentries : (d'.without fun m => compare n m == .eq).entries =
      (d.without fun m => compare n m == .eq).entries := h
  have hplaces : (d'.without fun m => compare n m == .eq).isPlace =
      (d.without fun m => compare n m == .eq).isPlace := by
    funext m
    rw [isPlace, isPlace, hasEntry, hasEntry, hentries]
  rw [← hasParentOf_without_self d', ← hasParentOf_without_self d, hasParentOf, hasParentOf, hplaces]

end Directory

/-! ### How far the clients are -/

/-- How far a client is in the replacement of an entry. -/
inductive Progress where
  /-- It has not deleted the entry. -/
  | before
  /-- It has deleted the entry or found it deleted, and has not tried to create it. -/
  | between
  /-- It has tried to create the entry, and this came of it. -/
  | after (outcome : Except Fault Unit)

/-- `At n a progress p`: a client that replaces the entry `n`, with the attributes `a`, is so far when `p`
is what it still has to do. -/
inductive At (n : DistinguishedName) (a : Attributes) : Progress → Process Directory Unit → Prop where
  /-- It has no session yet. -/
  | starting : At n a .before (.replacement n a)
  /-- It has a session. -/
  | deleting (session : Session Directory) : At n a .before (.deleting session n a)
  /-- There is no entry, as far as it knows. -/
  | creating (session : Session Directory) : At n a .between (.creating session n a)
  /-- It has the outcome, and still the session. -/
  | closing (session : Session Directory) (outcome : Except Fault Unit) :
      At n a (.after outcome) (.closing session outcome)
  /-- It has finished. -/
  | finished (outcome : Except Fault Unit) :
      At n a (.after outcome) (.finished (outcome.mapError Fault.classify))

/-- A client that has finished has tried to create the entry. -/
theorem At.progress_eq {progress : Progress} {outcome : Except Fault Unit}
    (h : At n a progress (.finished outcome)) :
    ∃ raw, progress = .after raw ∧ outcome = raw.mapError Fault.classify := by
  generalize hp : Process.finished outcome = p at h
  cases h with
  | starting | deleting | creating | closing => cases hp
  | finished raw =>
    cases hp
    exact ⟨raw, rfl, rfl⟩

/-- The fault of a creation where there is an entry. -/
def nameTaken : Fault := .ofCode ResultCode.entryAlreadyExists

/-- What a step of a client does to the entries `m`. -/
inductive Advances (n : DistinguishedName) (a : Attributes) (m : OrderedMap DistinguishedName Attributes) :
    Progress → Progress → OrderedMap DistinguishedName Attributes → Prop where
  /-- It opens or closes its session. -/
  | idle (progress : Progress) : Advances n a m progress progress m
  /-- It deletes the entry, or there is none. -/
  | deleted : Advances n a m .before .between (m.erase n)
  /-- It creates the entry. -/
  | created : m.get? n = none → Advances n a m .between (.after (.ok ())) (m.insert n a)
  /-- It finds an entry where it wants to create one. -/
  | refused : m.get? n ≠ none → Advances n a m .between (.after (.error nameTaken)) m

/-- Nothing but the entry changes. -/
theorem Advances.erase_eq {m m' : OrderedMap DistinguishedName Attributes} {progress progress' : Progress}
    (h : Advances n a m progress progress' m') : m'.erase n = m.erase n := by
  have herase : ∀ k, compare n k = .eq → (compare n k != .eq) = false := fun k hk => by simp [hk]
  cases h with
  | idle | refused => rfl
  | deleted => exact OrderedMap.filterKeys_erase m herase
  | created => exact OrderedMap.filterKeys_insert m a herase

/-- An outcome that a client gets is a success, or says that the name is taken. -/
theorem Advances.outcome {m m' : OrderedMap DistinguishedName Attributes} {progress : Progress}
    {raw : Except Fault Unit} (h : Advances n a m progress (.after raw) m') :
    progress = .after raw ∨ raw = .ok () ∨ raw = .error nameTaken := by
  cases h with
  | idle => exact .inl rfl
  | created => exact .inr (.inl rfl)
  | refused => exact .inr (.inr rfl)

/-- Every step of a client takes it a step further: no deletion fails, and no creation but for an entry
that another client has created. -/
theorem At.advances {β : Type} {progress : Progress} {step : Step Directory β}
    {goOn : Except Fault β → Process Directory Unit} (hacquire : d.failures.acquire = false)
    (hleaf : d.hasChildren n = false) (hplace : d.hasParentOf n = true)
    (h : At n a progress (.next step goOn)) :
    ∃ progress', At n a progress' (goOn (step d).1) ∧
      Advances n a d.entries progress progress' (step d).2.entries ∧ (step d).2.failures = d.failures := by
  generalize hp : Process.next step goOn = p at h
  cases h with
  | starting =>
    cases hp
    have hconnect : DirectoryServer.connect .readWrite d = (.ok .readWrite, d.logged [.acquire .readWrite]) :=
      connect_eq hacquire nofun
    rw [hconnect]
    exact ⟨.before, .deleting _, .idle _, rfl⟩
  | deleting session =>
    cases hp
    have hserver : DirectoryServer.delete session n d = delete n d := rfl
    rw [hserver]
    cases hentry : d.hasEntry n with
    | true =>
      rw [delete_eq hentry hleaf]
      exact ⟨.between, .creating _, .deleted, rfl⟩
    | false =>
      -- another client has deleted the entry, and there is nothing to take out
      have habsent : d.entries.erase n = d.entries :=
        congrArg Directory.entries (without_self_of_not_hasEntry hentry)
      have hadvances : Advances n a d.entries .before .between (d.entries.erase n) := .deleted
      rw [habsent] at hadvances
      rw [delete_of_not_hasEntry hentry]
      exact ⟨.between, .creating _, hadvances, rfl⟩
  | creating session =>
    cases hp
    have hserver : DirectoryServer.add session n a d = add n a d := rfl
    rw [hserver]
    cases hget : d.entries.get? n with
    | none =>
      have hfree : d.hasEntry n = false := by rw [Directory.hasEntry, OrderedMap.contains, hget]; rfl
      have hadd := add_of_place (a := a) hfree hplace []
      rw [Directory.logged_nil] at hadd
      rw [hadd]
      exact ⟨_, .closing _ _, .created hget, rfl⟩
    | some a' =>
      have hentry : (d.record (.add n)).hasEntry n = true := by
        change d.entries.contains n = true
        rw [OrderedMap.contains, hget]; rfl
      have hadd : add n a d = (.error nameTaken, d.record (.add n)) := by
        rw [add]
        exact if_pos hentry
      rw [hadd]
      have htaken : d.entries.get? n ≠ none := hget ▸ Option.some_ne_none a'
      exact ⟨_, .closing _ _, .refused htaken, rfl⟩
  | closing session outcome =>
    cases hp
    exact ⟨_, .finished _, .idle _, rfl⟩
  | finished outcome => cases hp

/-! ### The invariant -/

variable {ι : Type}

/-- How the clients and the directory stand to each other, when the clients replace the entry `n` and the
directory was `d₀` at first. -/
structure Race (n : DistinguishedName) (wanted : ι → Attributes) (d₀ : Directory)
    (progress : ι → Progress) (d : Directory) : Prop where
  /-- No other entry has changed. -/
  spares : d₀.Spares n d
  /-- What the directory has been told about failures is as it was. -/
  failures : d.failures = d₀.failures
  /-- A client that has an outcome has created the entry, or was told that it is there. -/
  outcomes (i : ι) (outcome : Except Fault Unit) : progress i = .after outcome →
    outcome = .ok () ∨ outcome = .error nameTaken
  /-- An entry that is there was put there by a client, unless none has deleted it yet. -/
  present (a : Attributes) : d.entries.get? n = some a →
    (∀ i, progress i = .before) ∨ ∃ i, progress i = .after (.ok ()) ∧ wanted i = a
  /-- If there is no entry, some client is going to try to create it. -/
  absent : d.entries.get? n = none → ∃ i, progress i = .before ∨ progress i = .between

/-- At first no client has deleted the entry. -/
theorem race_start [Nonempty ι] (n : DistinguishedName) (wanted : ι → Attributes) (d : Directory) :
    Race n wanted d (fun _ => .before) d where
  spares := rfl
  failures := rfl
  outcomes _ _ := nofun
  present _ _ := .inl fun _ => rfl
  absent _ := ⟨Classical.arbitrary ι, .inl rfl⟩

/-- Every step of a client keeps it so. -/
theorem Race.step [DecidableEq ι] {wanted : ι → Attributes} {progress : ι → Progress} {i : ι}
    {progress' : Progress} (h : Race n wanted d₀ progress d)
    (hadvances : Advances n (wanted i) d.entries (progress i) progress' d'.entries)
    (hfailures : d'.failures = d.failures) :
    Race n wanted d₀ (Function.update progress i progress') d' where
  spares := hadvances.erase_eq.trans h.spares
  failures := hfailures.trans h.failures
  outcomes j raw hj := by
    by_cases hji : j = i
    · rw [hji, Function.update_self] at hj
      rw [hj] at hadvances
      exact hadvances.outcome.elim (h.outcomes i raw) id
    · rw [Function.update_of_ne hji] at hj
      exact h.outcomes j raw hj
  present a ha := by
    generalize hi : progress i = p at hadvances
    generalize d'.entries = m at hadvances ha
    cases hadvances with
    | idle =>
      rw [← hi, Function.update_eq_self]
      exact h.present a ha
    | deleted =>
      rw [OrderedMap.get?_erase, if_pos ReflCmp.compare_self] at ha
      cases ha
    | created =>
      rw [OrderedMap.get?_insert, if_pos ReflCmp.compare_self] at ha
      exact .inr ⟨i, Function.update_self i _ progress, Option.some.inj ha⟩
    | refused =>
      -- this client has deleted the entry, so that another one has put it there
      obtain hall | ⟨j, hj, hwanted⟩ := h.present a ha
      · rw [hall i] at hi
        cases hi
      · have hji : j ≠ i := by
          rintro rfl
          rw [hj] at hi
          cases hi
        exact .inr ⟨j, (Function.update_of_ne hji _ progress).trans hj, hwanted⟩
  absent hnone := by
    generalize hi : progress i = p at hadvances
    generalize d'.entries = m at hadvances hnone
    cases hadvances with
    | idle =>
      rw [← hi, Function.update_eq_self]
      exact h.absent hnone
    | deleted => exact ⟨i, .inr (Function.update_self i _ progress)⟩
    | created =>
      rw [OrderedMap.get?_insert, if_pos ReflCmp.compare_self] at hnone
      cases hnone
    | refused htaken => exact absurd hnone htaken

/-- When all clients have finished, the entry holds what one of them put there. -/
theorem Race.finished [Nonempty ι] {wanted : ι → Attributes} {progress : ι → Progress}
    {outcomes : ι → Except Fault Unit} (h : Race n wanted d₀ progress d)
    (hat : ∀ i, At n (wanted i) (progress i) (.finished (outcomes i))) :
    (∃ i, outcomes i = .ok () ∧ d.entries.get? n = some (wanted i)) ∧
      ∀ i, outcomes i = .ok () ∨ outcomes i = .error nameTaken.classify := by
  have hafter := fun i => (hat i).progress_eq
  constructor
  · cases hget : d.entries.get? n with
    | none =>
      obtain ⟨i, hi⟩ := h.absent hget
      obtain ⟨raw, hraw, -⟩ := hafter i
      rw [hraw] at hi
      obtain hi | hi := hi <;> cases hi
    | some a =>
      obtain hall | ⟨i, hi, rfl⟩ := h.present a hget
      · obtain ⟨raw, hraw, -⟩ := hafter (Classical.arbitrary ι)
        rw [hall] at hraw
        cases hraw
      · obtain ⟨raw, hraw, houtcome⟩ := hafter i
        rw [hi] at hraw
        cases hraw
        exact ⟨i, houtcome, rfl⟩
  · intro i
    obtain ⟨raw, hraw, houtcome⟩ := hafter i
    rw [houtcome]
    obtain rfl | rfl := h.outcomes i raw hraw
    · exact .inl rfl
    · exact .inr rfl

/-- Whatever the order is in which the steps of several replacements follow each other: one of them at
least succeeds, the entry then holds what a client put there that succeeded, the others fail as the name
is taken, and no other entry has changed. -/
theorem replacements_interleaved [DecidableEq ι] [Nonempty ι] {wanted : ι → Attributes}
    {outcomes : ι → Except Fault Unit} (hacquire : d.failures.acquire = false)
    (hleaf : d.hasChildren n = false) (hplace : d.hasParentOf n = true)
    (h : Interleaves (fun i => .replacement n (wanted i)) d (fun i => .finished (outcomes i)) d') :
    (∃ i, outcomes i = .ok () ∧ d'.entries.get? n = some (wanted i)) ∧
    (∀ i, outcomes i = .ok () ∨ outcomes i = .error (.nameAlreadyBound "result code 68")) ∧
    (d'.entries.filterKeys fun m => !(n == m)) = d.entries.filterKeys fun m => !(n == m) := by
  -- while they run, each client is somewhere, and the invariant holds
  have hrace : ∃ progress, (∀ i, At n (wanted i) (progress i) (.finished (outcomes i))) ∧
      Race n wanted d progress d' := by
    refine Interleaves.invariant (P := fun clients s => ∃ progress : ι → Progress,
      (∀ i, At n (wanted i) (progress i) (clients i)) ∧ Race n wanted d progress s) ?_ h
      ⟨fun _ => .before, fun _ => .starting, race_start n wanted d⟩
    rintro clients s i β step goOn hi ⟨progress, hat, hrace⟩
    have hnext := hat i
    rw [hi] at hnext
    obtain ⟨progress', hat', hadvances, hfailures⟩ := hnext.advances
      (hrace.failures ▸ hacquire) (hrace.spares.hasChildren_eq.trans hleaf)
      (hrace.spares.hasParentOf_eq.trans hplace)
    refine ⟨Function.update progress i progress', fun j => ?_, hrace.step hadvances hfailures⟩
    by_cases hji : j = i
    · rw [hji, Function.update_self, Function.update_self]
      exact hat'
    · rw [Function.update_of_ne hji, Function.update_of_ne hji]
      exact hat j
  obtain ⟨progress, hat, hrace⟩ := hrace
  obtain ⟨hone, hall⟩ := hrace.finished hat
  refine ⟨hone, hall, ?_⟩
  have hkept : ∀ m : OrderedMap DistinguishedName Attributes,
      (m.filterKeys fun k => !(n == k)) = m.erase n := by
    intro m
    change _ = m.filterKeys fun k => compare n k != .eq
    refine OrderedMap.filterKeys_congr fun k _ => ?_
    rw [Bool.eq_iff_iff, bne_iff_ne, ne_eq, Bool.not_eq_true', Bool.eq_false_iff, ne_eq,
      compare_eq_iff_key_eq, beq_iff_key_eq]
  rw [hkept, hkept]
  exact hrace.spares

/-- What two clients want the company to be. -/
def rivals : Bool → Attributes
  | false => .ofLists [("objectClass", ["organizationalUnit"]), ("description", ["small"])] []
  | true => .ofLists [("objectClass", ["organizationalUnit"]), ("description", ["large"])] []

/-- They open their sessions, delete the company one after the other, so that the second one finds it
deleted, and create it in the other order, so that the first one finds it created. -/
def rivalTurns : List Bool := [false, true, false, true, true, false, false, true]

/-- What the second client put there is what is left, and the first one is told that the name is taken. -/
theorem replacements_interleaved_rivals :
    countries.failures.acquire = false ∧ countries.hasChildren company = false ∧
    countries.hasParentOf company = true ∧ ∃ d',
      Interleaves (fun i => .replacement company (rivals i)) countries
        (fun i => .finished (if i then .ok () else .error (.nameAlreadyBound "result code 68"))) d' ∧
      d'.entries.get? company = some (rivals true) ∧
      (d'.entries.filterKeys fun m => !(company == m)) =
        countries.entries.filterKeys fun m => !(company == m) := by
  have hleaf : countries.hasChildren company = false := by decide +kernel
  have hplace : countries.hasParentOf company = true := by decide +kernel
  have houtcomes : ∀ i,
      ((takeTurns rivalTurns (fun i => .replacement company (rivals i)) countries).1 i).outcome? =
        some (if i then .ok () else .error (.nameAlreadyBound "result code 68")) := by
    decide +kernel
  have hrun := interleaves_iff.2 ⟨rivalTurns, Prod.ext
    (funext fun i => Process.eq_finished_of_outcome? (houtcomes i)) rfl⟩
  obtain ⟨⟨i, hi, hentry⟩, -, hothers⟩ := replacements_interleaved (d := countries) rfl hleaf hplace hrun
  cases i with
  | false => cases hi
  | true => exact ⟨rfl, hleaf, hplace, _, hrun, hentry, hothers⟩

end DirectoryAccess.InMemory
