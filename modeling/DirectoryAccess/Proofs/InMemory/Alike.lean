import DirectoryAccess.Proofs.DistinguishedName.RoundTrip
import DirectoryAccess.Proofs.InMemory.Shape
import DirectoryAccess.Proofs.Operation.Conversation
import Mathlib.Data.List.Forall2

/-!
# Directories that differ in the spelling of names

Equal names may be spelled in different ways: the letters of attribute types are kept as they were given.
Two directories are alike if they differ in nothing but how names are spelled (`Directory.Alike`), and
twins if they do so in the record only (`Twin`). Two requests for equal names have the same outcome on
twins: a search and a deletion leave twins, and a write that keeps the name leaves directories that are
alike (`Agree`).
-/

namespace DirectoryAccess

open DirectoryServer

/-! ### Steps that agree -/

section

variable {σ τ α : Type}

/-- The runs have the same outcome and leave states that are related. -/
structure SameRun (R : σ → σ → Prop) (run run' : α × σ) : Prop where
  /-- The outcome is the same. -/
  outcome : run.1 = run'.1
  /-- The states are related. -/
  state : R run.2 run'.2

/-- The steps do the same on states that are related by `Q`, and leave states that are related by `R`. -/
def Agree (Q R : σ → σ → Prop) (step step' : Step σ α) : Prop :=
  ∀ ⦃s s'⦄, Q s s' → SameRun R (step s) (step' s')

variable {Q R R' : σ → σ → Prop} {step step' : Step σ α} {s s' : σ}

/-- Runs that depend on the same condition. -/
theorem SameRun.ite {c c' : Bool} (hc : c = c') {run₁ run₁' run₂ run₂' : α × σ}
    (h₁ : SameRun R run₁ run₁') (h₂ : SameRun R run₂ run₂') :
    SameRun R (if c then run₁ else run₂) (if c' then run₁' else run₂') := by
  subst hc
  cases c with
  | true => exact h₁
  | false => exact h₂

/-- What is made of the outcome is the same. -/
theorem SameRun.map {β : Type} {run run' : α × σ} (h : SameRun R run run') (f : α → β) :
    SameRun R (f run.1, run.2) (f run'.1, run'.2) :=
  ⟨congrArg f h.outcome, h.state⟩

theorem Agree.mono (h : Agree Q R step step') (hR : ∀ ⦃s s'⦄, R s s' → R' s s') :
    Agree Q R' step step' :=
  fun _ _ hs => ⟨(h hs).1, hR (h hs).2⟩

/-- Both steps fail in the same way, or both succeed with the same value. -/
theorem Agree.cases (h : Agree Q R step step') (hs : Q s s') :
    (∃ fault s₁ s₁', step s = (.error fault, s₁) ∧ step' s' = (.error fault, s₁') ∧ R s₁ s₁') ∨
    ∃ value s₁ s₁', step s = (.ok value, s₁) ∧ step' s' = (.ok value, s₁') ∧ R s₁ s₁' := by
  obtain ⟨houtcome, hR⟩ := h hs
  rcases hstep : step s with ⟨fault | value, s₁⟩ <;> rcases hstep' : step' s' with ⟨outcome, s₁'⟩ <;>
    rw [hstep, hstep'] at houtcome hR <;> cases houtcome
  · exact .inl ⟨fault, s₁, s₁', rfl, rfl, hR⟩
  · exact .inr ⟨value, s₁, s₁', rfl, rfl, hR⟩

/-- The servers are related, and the callers are in the same state. -/
structure OfWorld (R : σ → σ → Prop) (w w' : World σ τ) : Prop where
  /-- The servers are related. -/
  server : R w.server w'.server
  /-- The callers are in the same state. -/
  caller : w.caller = w'.caller

theorem agree_onServer (h : Agree Q R step step') :
    Agree (OfWorld Q) (OfWorld R : World σ τ → World σ τ → Prop) (onServer step) (onServer step') :=
  fun _ _ hw => ⟨(h hw.server).1, (h hw.server).2, hw.caller⟩

/-- Both inputs are read as names, and the names are equal. -/
def NameInput.Same (name name' : NameInput) : Prop :=
  ∃ n n', name.resolve = .ok n ∧ name'.resolve = .ok n' ∧ (n == n') = true

theorem agree_named {operation operation' : DistinguishedName → Step σ α}
    (h : ∀ n n', (n == n') = true → Agree Q R (operation n) (operation' n')) {name name' : NameInput}
    (hname : name.Same name') : Agree Q R (named name operation) (named name' operation') := by
  obtain ⟨n, n', hn, hn', heq⟩ := hname
  intro s s' hs
  rw [named, named, hn, hn']
  exact h n n' heq hs

end

/-- The requests differ at most in how the name of the base is spelled. -/
def SearchRequest.Alike (r r' : SearchRequest) : Prop :=
  (r.base == r'.base) = true ∧ r' = { r with base := r'.base }

/-! ### Values of equal keys -/

namespace OrderedMap

variable {κ α : Type} [Ord κ] [Std.TransOrd κ] {k k' : κ}

theorem get?_congr (h : compare k k' = .eq) (m : OrderedMap κ α) : m.get? k = m.get? k' := by
  simp only [get?, Std.TransCmp.congr_left h]

theorem erase_congr (h : compare k k' = .eq) (m : OrderedMap κ α) : m.erase k = m.erase k' := by
  simp only [erase, Std.TransCmp.congr_left h]

/-- Under equal keys a value is put in the same place. -/
theorem insert_congr (h : compare k k' = .eq) (m : OrderedMap κ α) (a : α) :
    List.Forall₂ (fun e e' => compare e.1 e'.1 = .eq ∧ e.2 = e'.2) (m.insert k a).toList
      (m.insert k' a).toList := by
  obtain ⟨l⟩ := m
  have hself (l : List (κ × α)) :
      List.Forall₂ (fun e e' => compare e.1 e'.1 = .eq ∧ e.2 = e'.2) l l :=
    List.forall₂_same.2 fun _ _ => ⟨Std.ReflCmp.compare_self, rfl⟩
  change List.Forall₂ _ (insertEntry k a l) (insertEntry k' a l)
  induction l with
  | nil => exact .cons ⟨h, rfl⟩ .nil
  | cons entry l ih =>
    obtain ⟨k'', a''⟩ := entry
    rw [insertEntry, insertEntry, Std.TransCmp.congr_left h]
    cases compare k' k'' with
    | lt => exact .cons ⟨h, rfl⟩ (hself _)
    | eq => exact hself _
    | gt => exact .cons ⟨Std.ReflCmp.compare_self, rfl⟩ ih

end OrderedMap

namespace InMemory

open DistinguishedName Std

variable {τ α : Type} {d d' : Directory} {e e' : Event} {n n' o o' : DistinguishedName}

/-! ### Names in a directory -/

/-- The events differ at most in how names are spelled. -/
inductive Event.Alike : Event → Event → Prop where
  /-- A session was opened. -/
  | acquire (mode : AccessMode) : Event.Alike (.acquire mode) (.acquire mode)
  /-- A session was closed. -/
  | release (mode : AccessMode) : Event.Alike (.release mode) (.release mode)
  /-- A search was started. -/
  | search {r r' : SearchRequest} : r.Alike r' → Event.Alike (.search r) (.search r')
  /-- A search was finished. -/
  | searchFinished : Event.Alike .searchFinished .searchFinished
  /-- An entry was to be created. -/
  | add {n n' : DistinguishedName} : (n == n') = true → Event.Alike (.add n) (.add n')
  /-- An entry was to be deleted. -/
  | delete {n n' : DistinguishedName} : (n == n') = true → Event.Alike (.delete n) (.delete n')
  /-- An entry was to be changed. -/
  | modify {n n' : DistinguishedName} (changes : List Change) : (n == n') = true →
      Event.Alike (.modify n changes) (.modify n' changes)
  /-- An entry was to be given another name. -/
  | rename {o o' n n' : DistinguishedName} : (o == o') = true → (n == n') = true →
      Event.Alike (.rename o n) (.rename o' n')
  /-- A caller left a note. -/
  | note (text : String) : Event.Alike (.note text) (.note text)

/-- The directories differ at most in how names are spelled. -/
structure Directory.Alike (d d' : Directory) : Prop where
  /-- The bases are the same. -/
  base : d.base = d'.base
  /-- The entries have equal names and the same attributes. -/
  entries : List.Forall₂ (fun e e' => (e.1 == e'.1) = true ∧ e.2 = e'.2) d.entries.toList
    d'.entries.toList
  /-- The passwords are the same. -/
  passwords : d.passwords = d'.passwords
  /-- The events are alike. -/
  events : List.Forall₂ Event.Alike d.events d'.events
  /-- The directories have been told to fail in the same way. -/
  failures : d.failures = d'.failures
  /-- Both have broken down, or neither. -/
  brokenDown : d.brokenDown = d'.brokenDown

/-- The directories differ at most in how names are spelled in the record of events. -/
inductive Twin (d : Directory) : Directory → Prop where
  /-- Only the events are others. -/
  | mk {events : List Event} : List.Forall₂ Event.Alike d.events events → Twin d { d with events }

theorem Event.Alike.refl (e : Event) : e.Alike e := by
  cases e with
  | acquire mode => exact .acquire mode
  | release mode => exact .release mode
  | search r => exact .search ⟨beq_self _, rfl⟩
  | searchFinished => exact .searchFinished
  | add n => exact .add (beq_self n)
  | delete n => exact .delete (beq_self n)
  | modify n changes => exact .modify changes (beq_self n)
  | rename o n => exact .rename (beq_self o) (beq_self n)
  | note text => exact .note text

theorem Twin.refl (d : Directory) : Twin d d := ⟨List.forall₂_same.2 fun e _ => .refl e⟩

theorem Twin.alike (h : Twin d d') : d.Alike d' := by
  obtain ⟨hevents⟩ := h
  exact ⟨rfl, List.forall₂_same.2 fun _ _ => ⟨beq_self _, rfl⟩, rfl, hevents, rfl, rfl⟩

theorem forall₂_concat {β : Type} {R : β → β → Prop} {l l' : List β} {b b' : β}
    (h : List.Forall₂ R l l') (hb : R b b') : List.Forall₂ R (l ++ [b]) (l' ++ [b']) :=
  List.rel_append h (.cons hb .nil)

theorem Twin.record (h : Twin d d') (he : e.Alike e') : Twin (d.record e) (d'.record e') := by
  obtain ⟨hevents⟩ := h
  exact ⟨forall₂_concat hevents he⟩

/-- Twins of which both break down are twins. -/
theorem Twin.breakDown (h : Twin d d') :
    Twin { d with brokenDown := true } { d' with brokenDown := true } := by
  obtain ⟨hevents⟩ := h
  exact ⟨hevents⟩

/-- Twins of which both lose an entry are twins. -/
theorem Twin.erase (h : Twin d d') (hkey : n.key = n'.key) :
    Twin { d with entries := d.entries.erase n } { d' with entries := d'.entries.erase n' } := by
  obtain ⟨hevents⟩ := h
  rw [OrderedMap.erase_congr (compare_eq_iff_key_eq.2 hkey)]
  exact ⟨hevents⟩

theorem Directory.Alike.record (h : d.Alike d') (he : e.Alike e') :
    (d.record e).Alike (d'.record e') :=
  ⟨h.base, h.entries, h.passwords, forall₂_concat h.events he, h.failures, h.brokenDown⟩

/-! ### What a name is looked up for -/

namespace Directory

theorem hasEntry_congr (h : n.key = n'.key) (d : Directory) : d.hasEntry n = d.hasEntry n' := by
  rw [hasEntry, hasEntry, OrderedMap.contains, OrderedMap.contains,
    OrderedMap.get?_congr (compare_eq_iff_key_eq.2 h)]

theorem hasParentOf_congr_eq (h : n.key = n'.key) (d : Directory) :
    d.hasParentOf n = d.hasParentOf n' :=
  Bool.eq_iff_iff.2 ⟨hasParentOf_congr h, hasParentOf_congr h.symm⟩

theorem hasChildren_congr (h : n.key = n'.key) (d : Directory) :
    d.hasChildren n = d.hasChildren n' := by
  simp only [hasChildren, isChildOf_congr h]

theorem inScope_congr (h : n.key = n'.key) (scope : SearchScope) (m : DistinguishedName) :
    inScope scope n m = inScope scope n' m := by
  have heq : (m == n) = (m == n') := by rw [Bool.eq_iff_iff, beq_iff_key_eq, beq_iff_key_eq, h]
  cases scope with
  | base => exact heq
  | oneLevel => exact isChildOf_congr h
  | subtree => rw [inScope, inScope, heq, isBelow_congr h]

end Directory

/-! ### Requests on twins -/

theorem agree_connect (access : Access) :
    Agree Twin Twin (InMemory.connect access) (InMemory.connect access) := by
  rintro d _ ⟨hevents⟩
  have hsame : Twin d { d with events := _ } := ⟨hevents⟩
  exact .ite rfl ⟨rfl, hsame⟩ (.ite rfl ⟨rfl, hsame⟩ ⟨rfl, hsame.record (.acquire access.mode)⟩)

/-- A search finds the same entries from equal bases. -/
theorem found_congr {r r' : SearchRequest} (h : r.Alike r') (d : Directory) : d.found r = d.found r' := by
  obtain ⟨hbase, hrest⟩ := h
  rw [hrest]
  simp only [Directory.found, Directory.inScope_congr (beq_iff_key_eq.1 hbase)]

theorem cannotAnswer_congr {r r' : SearchRequest} (h : r.Alike r') (d : Directory) :
    d.cannotAnswer r = d.cannotAnswer r' := by
  obtain ⟨hbase, hrest⟩ := h
  rw [hrest]
  simp only [Directory.cannotAnswer, Directory.inScope_congr (beq_iff_key_eq.1 hbase)]

theorem agree_search {r r' : SearchRequest} (h : r.Alike r') :
    Agree Twin Twin (InMemory.search r) (InMemory.search r') := by
  rintro d _ ⟨hevents⟩
  have hsame : Twin (d.record (.search r)) ({ d with events := _ }.record (.search r')) :=
    Twin.record ⟨hevents⟩ (.search h)
  have hplace : d.isPlace r.base = d.isPlace r'.base :=
    Directory.isPlace_congr (beq_iff_key_eq.1 h.1)
  have hlimit : r.sizeLimit = r'.sizeLimit := by rw [h.2]
  unfold InMemory.search
  dsimp only [Directory.record] at hsame ⊢
  cases d.failures.search? with
  | some code => exact ⟨rfl, hsame⟩
  | none =>
    refine .ite (congrArg not hplace) ⟨rfl, hsame⟩
      (.ite (cannotAnswer_congr h d) ⟨rfl, hsame.breakDown⟩ ⟨?_, hsame⟩)
    have hfound : ({ d with events := d.events ++ [.search r] } : Directory).found r = d.found r' :=
      found_congr h d
    rw [hfound, hlimit]
    rfl

/-- `R` relates twins, and what is related stays so when events that are alike are recorded. -/
structure Records (R : Directory → Directory → Prop) : Prop where
  /-- Twins are related. -/
  twin {d d' : Directory} : Twin d d' → R d d'
  /-- What is related stays so. -/
  record {d d' : Directory} {e e' : Event} : R d d' → e.Alike e' → R (d.record e) (d'.record e')

theorem records_twin : Records Twin := ⟨id, Twin.record⟩

theorem records_alike : Records Directory.Alike := ⟨Twin.alike, Directory.Alike.record⟩

/-- `R` relates what is left of twins when an entry is put in under `n` and under `n'`. -/
structure Tolerates (R : Directory → Directory → Prop) (n n' : DistinguishedName) : Prop
    extends Records R where
  /-- The names are equal. -/
  same : (n == n') = true
  /-- After an insertion twins are related. -/
  insert {d d' : Directory} (a : Attributes) : Twin d d' → R (d.insert n a) (d'.insert n' a)

/-- The same name can be spelled in different ways if the directories may then be alike only. -/
theorem tolerates_alike (h : (n == n') = true) : Tolerates Directory.Alike n n' where
  toRecords := records_alike
  same := h
  insert a hd := by
    obtain ⟨hevents⟩ := hd
    refine ⟨rfl, ?_, rfl, hevents, rfl, rfl⟩
    refine (OrderedMap.insert_congr (compare_eq_iff_key_eq.2 (beq_iff_key_eq.1 h)) _ a).imp ?_
    exact fun e e' he => ⟨beq_iff_key_eq.2 (compare_eq_iff_key_eq.1 he.1), he.2⟩

/-- One spelling leaves twins. -/
theorem tolerates_twin (n : DistinguishedName) : Tolerates Twin n n where
  toRecords := records_twin
  same := beq_self n
  insert a hd := by
    obtain ⟨hevents⟩ := hd
    exact ⟨hevents⟩

section

variable {R : Directory → Directory → Prop}

theorem agree_add (h : Tolerates R n n') (a : Attributes) :
    Agree Twin R (InMemory.add n a) (InMemory.add n' a) := by
  intro d d' hd
  have hkey := beq_iff_key_eq.1 h.same
  have hsame := hd.record (.add h.same)
  obtain ⟨hevents⟩ := hd
  refine .ite (Directory.hasEntry_congr hkey d) ⟨rfl, h.twin hsame⟩ ?_
  exact .ite (Directory.hasParentOf_congr_eq hkey d) ⟨rfl, h.insert a hsame⟩ ⟨rfl, h.twin hsame⟩

/-- Twins are left by a deletion, whichever way the name is spelled. -/
theorem agree_delete (h : (n == n') = true) : Agree Twin Twin (InMemory.delete n) (InMemory.delete n') := by
  intro d d' hd
  have hkey := beq_iff_key_eq.1 h
  have hsame := hd.record (.delete h)
  obtain ⟨hevents⟩ := hd
  refine .ite (congrArg not (Directory.hasEntry_congr hkey d)) ⟨rfl, hsame⟩ ?_
  exact .ite (Directory.hasChildren_congr hkey d) ⟨rfl, hsame⟩ ⟨rfl, hsame.erase hkey⟩

theorem agree_modify (h : Tolerates R n n') (changes : List Change) :
    Agree Twin R (InMemory.modify n changes) (InMemory.modify n' changes) := by
  intro d d' hd
  have hsame := hd.record (.modify changes h.same)
  obtain ⟨hevents⟩ := hd
  unfold InMemory.modify
  dsimp only [Directory.record] at hsame ⊢
  rw [OrderedMap.get?_congr (compare_eq_iff_key_eq.2 (beq_iff_key_eq.1 h.same))]
  cases d.entries.get? n' with
  | none => exact ⟨rfl, h.twin hsame⟩
  | some a => exact ⟨rfl, h.insert (Change.applyAll changes a) hsame⟩

theorem agree_rename (ho : (o == o') = true) (h : Tolerates R n n') :
    Agree Twin R (InMemory.rename o n) (InMemory.rename o' n') := by
  intro d d' hd
  have hkey := beq_iff_key_eq.1 ho
  have hsame := hd.record (.rename ho h.same)
  obtain ⟨hevents⟩ := hd
  refine .ite (Directory.hasEntry_congr (beq_iff_key_eq.1 h.same) d) ⟨rfl, h.twin hsame⟩ ?_
  refine .ite (Directory.hasChildren_congr hkey d) ⟨rfl, h.twin hsame⟩ ?_
  dsimp only [Directory.record] at hsame ⊢
  rw [OrderedMap.get?_congr (compare_eq_iff_key_eq.2 hkey)]
  cases d.entries.get? o' with
  | none => exact ⟨rfl, h.twin hsame⟩
  | some a => exact ⟨rfl, h.insert a (hsame.erase hkey)⟩

/-- A replacement is a deletion that leaves twins, and a creation. -/
theorem agree_replace (h : Tolerates R n n') (session : Session Directory) (a : Attributes) :
    Agree Twin R (replace session n a) (replace session n' a) := by
  intro d d' hd
  have hdelete : Agree Twin Twin (DirectoryServer.delete session n) (DirectoryServer.delete session n') :=
    agree_delete h.same
  rw [replace, replace]
  obtain ⟨fault, d₁, d₁', hrun, hrun', hd₁⟩ | ⟨_, d₁, d₁', hrun, hrun', hd₁⟩ := hdelete.cases hd <;>
    rw [hrun, hrun']
  · exact .ite rfl (agree_add h a hd₁) ⟨rfl, h.twin hd₁⟩
  · exact agree_add h a hd₁

end

/-! ### Searches on twins -/

/-- The directory is not looked at where results are read. -/
theorem walk_same (visit : FoundEntry → Step τ α) (r : Results) (d d' : Directory) (t : τ) :
    walk visit none r ⟨d', t⟩ =
      let walked := walk visit none r ⟨d, t⟩
      { walked with world := ⟨d', walked.world.caller⟩ } := by
  induction hm : r.pending.length using Nat.strongRecOn generalizing r t with
  | ind m ih =>
    subst hm
    rcases hnext : r.next with ⟨fault | _ | e, r'⟩
    · rw [walk_of_fault hnext, walk_of_fault hnext]
    · rw [walk_of_end hnext, walk_of_end hnext]
    · rcases hvisit : visit e t with ⟨fault | a, t'⟩
      · rw [DirectoryAccess.walk_of_refusal (server_next_eq hnext d') hvisit,
          DirectoryAccess.walk_of_refusal (server_next_eq hnext d) hvisit]
      · rw [walk_of_entry hnext hvisit, walk_of_entry hnext hvisit,
          ih _ (Results.length_lt_of_next hnext) r' t' rfl]

/-- The searches have the same outcome and leave twins. -/
theorem searchEach_same {r r' : SearchRequest} (h : r.Alike r') (session : Session Directory)
    (visit : FoundEntry → Step τ α) {w w' : World Directory τ} (hw : OfWorld Twin w w') :
    SameRun (OfWorld Twin) (searchEach session r visit w) (searchEach session r' visit w') := by
  obtain ⟨d, t⟩ := w
  obtain ⟨d', _⟩ := w'
  obtain ⟨hd, rfl⟩ := hw
  rw [searchEach, searchEach, server_search_eq, server_search_eq]
  obtain ⟨fault, d₁, d₁', hrun, hrun', hd₁⟩ | ⟨results, d₁, d₁', hrun, hrun', hd₁⟩ :=
    (agree_search h).cases hd <;> rw [hrun, hrun']
  · exact ⟨rfl, hd₁, rfl⟩
  · dsimp only
    rw [readResults, readResults, walk_same visit results d₁ d₁' t]
    have hserver := walk_server visit none results ⟨d₁, t⟩
    have hfinished : Twin (walk visit none results ⟨d₁, t⟩).world.server d₁' := hserver.symm ▸ hd₁
    exact ⟨rfl, hfinished.record .searchFinished, rfl⟩

theorem agree_searchAll {r r' : SearchRequest} (h : r.Alike r') (session : Session Directory) :
    Agree Twin Twin (searchAll session r) (searchAll session r') := by
  intro d d' hd
  have hw : OfWorld Twin (⟨d, ()⟩ : World Directory Unit) ⟨d', ()⟩ := ⟨hd, rfl⟩
  have hsame := searchEach_same h session keepEntry hw
  rw [searchAll, searchAll]
  dsimp only
  rw [hsame.outcome]
  exact ⟨rfl, hsame.state.server⟩

/-- An entry is read, whichever way its name is spelled, and if there is none the fault is the same. -/
theorem agree_readEntry (h : (n == n') = true) (session : Session Directory) (attributes : List String) :
    Agree Twin Twin (readEntry session n attributes) (readEntry session n' attributes) := by
  intro d d' hd
  have halike : (SearchRequest.entry n attributes).Alike (.entry n' attributes) := ⟨h, rfl⟩
  rw [readEntry, readEntry]
  obtain ⟨fault, d₁, d₁', hrun, hrun', hd₁⟩ | ⟨entries, d₁, d₁', hrun, hrun', hd₁⟩ :=
    (agree_searchAll halike session).cases hd <;> rw [hrun, hrun']
  · exact ⟨rfl, hd₁⟩
  · cases entries with
    | nil =>
      dsimp only
      rw [(beq_iff_toString_eq n n').1 h]
      exact ⟨rfl, hd₁⟩
    | cons e rest => exact ⟨rfl, hd₁⟩

theorem agree_childNames (h : (n == n') = true) (session : Session Directory) :
    Agree Twin Twin (childNames session n) (childNames session n') := by
  intro d d' hd
  have halike : (SearchRequest.children n noAttributes).Alike (.children n' noAttributes) := ⟨h, rfl⟩
  exact (agree_searchAll halike session hd).map (Except.map (List.map FoundEntry.name))

theorem agree_childEntries (h : (n == n') = true) (session : Session Directory) :
    Agree Twin Twin (childEntries session n) (childEntries session n') :=
  have halike : SearchRequest.Alike { SearchRequest.children n allAttributes with wholeEntries := true }
      { SearchRequest.children n' allAttributes with wholeEntries := true } := ⟨h, rfl⟩
  agree_searchAll halike session

/-! ### Connections on twins -/

section

variable {R : Directory → Directory → Prop} (access : Access)
  {work work' : Connection Directory → Step (World Directory τ) α}

/-- What is done on a connection of its own agrees as far as the work on it does. -/
theorem agree_connected (hR : Records R)
    (h : ∀ c, Agree (OfWorld Twin) (OfWorld R) (work c) (work' c)) :
    Agree (OfWorld Twin) (OfWorld R) (connected access work) (connected access work') := by
  intro w w' hw
  rw [connected, connected, server_connect_eq, server_connect_eq]
  obtain ⟨fault, d₁, d₁', hrun, hrun', hd₁⟩ | ⟨session, d₁, d₁', hrun, hrun', hd₁⟩ :=
    (agree_connect access).cases hw.server <;> rw [hrun, hrun']
  · exact ⟨rfl, hR.twin hd₁, hw.caller⟩
  · have hopened : OfWorld Twin { w with server := d₁ } { w' with server := d₁' } := ⟨hd₁, hw.caller⟩
    obtain ⟨houtcome, hstate⟩ := h ⟨session, access.mode⟩ hopened
    dsimp only
    rw [houtcome]
    exact ⟨rfl, hR.record hstate.server (.release session), hstate.caller⟩

theorem agree_requested (hR : Records R) {request request' : Session Directory → Step Directory α}
    (h : ∀ session, Agree Twin R (request session) (request' session)) :
    Agree Twin R (requested access request) (requested access request') := by
  intro d d' hd
  have hwork (c : Connection Directory) : Agree (OfWorld Twin) (OfWorld R : World Directory Unit → _)
      (onServer (request c.session)) (onServer (request' c.session)) := agree_onServer (h c.session)
  have hw : OfWorld Twin (⟨d, ()⟩ : World Directory Unit) ⟨d', ()⟩ := ⟨hd, rfl⟩
  obtain ⟨houtcome, hstate⟩ := agree_connected access hR hwork hw
  exact ⟨houtcome, hstate.server⟩

end

/-- A request is the same on twins. -/
theorem agree_send {β : Type} (request : Request β) (session : Session Directory) :
    Agree Twin Twin (request.send session) (request.send session) := by
  cases request with
  | lookup n attributes => exact agree_readEntry (beq_self n) session attributes
  | list n => exact agree_childNames (beq_self n) session
  | listEntries n => exact agree_childEntries (beq_self n) session
  | add n a => exact agree_add (tolerates_twin n) a
  | delete n => exact agree_delete (beq_self n)
  | replace n a => exact agree_replace (tolerates_twin n) session a
  | rename o n => exact agree_rename (beq_self o) (tolerates_twin n)
  | modify n changes => exact agree_modify (tolerates_twin n) changes

/-- A conversation is the same on twins. -/
theorem agree_run (conversation : Conversation τ α) (session : Session Directory) {d d' : Directory}
    (hd : Twin d d') :
    SameRun (OfWorld Twin) (conversation.run session d) (conversation.run session d') := by
  induction conversation generalizing d d' with
  | finish outcome caller => exact ⟨rfl, hd, rfl⟩
  | ask request next ih =>
    obtain ⟨hanswer, hstate⟩ := agree_send request session hd
    rw [Conversation.run, Conversation.run]
    dsimp only
    rw [hanswer]
    exact ih _ hstate

end InMemory

end DirectoryAccess
