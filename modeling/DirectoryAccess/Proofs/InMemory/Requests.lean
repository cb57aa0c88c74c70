import DirectoryAccess.InMemory.Directory
import DirectoryAccess.Operation.Connected
import DirectoryAccess.Proofs.DistinguishedName.Hierarchy
import DirectoryAccess.Proofs.Operation.Reading
import DirectoryAccess.Proofs.Operation.Visiting
import DirectoryAccess.Proofs.OrderedMap

/-!
# Requests to a directory in memory

What a directory in memory records of a request, and what it answers if it has not been told to fail.
Reading the results of a search changes nothing in the directory.
-/

namespace DirectoryAccess.InMemory

open DirectoryServer

variable {τ α : Type}

namespace Directory

/-- The directory after some events. -/
def logged (d : Directory) (events : List Event) : Directory := { d with events := d.events ++ events }

variable (d : Directory) (e : Event) (events events' : List Event)

theorem record_eq_logged : d.record e = d.logged [e] := rfl

@[simp] theorem logged_logged : (d.logged events).logged events' = d.logged (events ++ events') := by
  rw [logged, logged, logged, List.append_assoc]

@[simp] theorem logged_nil : d.logged [] = d := by
  rw [logged, List.append_nil]

@[simp] theorem failures_logged : (d.logged events).failures = d.failures := rfl

@[simp] theorem names_logged : (d.logged events).names = d.names := rfl

@[simp] theorem isPlace_logged : (d.logged events).isPlace = d.isPlace := rfl

@[simp] theorem found_logged : (d.logged events).found = d.found := rfl

@[simp] theorem cannotAnswer_logged : (d.logged events).cannotAnswer = d.cannotAnswer := rfl

theorem hasEntry_iff {d : Directory} {n : DistinguishedName} :
    d.hasEntry n = true ↔ ∃ m ∈ d.names, n.key = m.key := by
  simp only [hasEntry, OrderedMap.contains_iff, DistinguishedName.compare_eq_iff_key_eq, names]

theorem isPlace_of_hasEntry {d : Directory} {n : DistinguishedName} (h : d.hasEntry n = true) :
    d.isPlace n = true := by
  rw [isPlace, h, Bool.or_true]

/-- The directory has been told to fail neither over the opening of sessions nor over searches. -/
structure Serves (d : Directory) : Prop where
  /-- Sessions can be opened. -/
  acquire : d.failures.acquire = false
  /-- Searches can be started. -/
  search : d.failures.search? = none
  /-- Searches do not end with a referral on the way. -/
  partialAfter : d.failures.partialAfter? = none
  /-- Searches do not report a referral as their final result. -/
  referralAtEnd : d.failures.referralAtEnd = false

theorem Serves.logged {d : Directory} (h : d.Serves) (events : List Event) :
    (d.logged events).Serves := ⟨h.1, h.2, h.3, h.4⟩

end Directory

/-! ### Searches -/

theorem server_search_eq (session : Session Directory) (request : SearchRequest) (d : Directory) :
    DirectoryServer.search session request d = search request d := rfl

/-- Reading results changes nothing in the directory. -/
theorem walk_server (visit : FoundEntry → Step τ α) (limit? : Option Nat) (r : Results)
    (w : World Directory τ) : (walk visit limit? r w).world.server = w.server := by
  fun_induction walk visit limit? r w with
  | case1 => rfl
  | case2 _ _ _ _ _ _ _ hnext => exact (congrArg (·.2.2) hnext).symm
  | case3 _ _ _ _ _ _ hnext => exact (congrArg (·.2.2) hnext).symm
  | case4 _ _ _ _ _ _ _ hnext => exact (congrArg (·.2.2) hnext).symm
  | case5 _ _ _ _ _ _ _ hnext _ _ _ _ ih => exact ih.trans (congrArg (·.2.2) hnext).symm

/-- A search leaves one event or two: that it was started and, if it could be, that it was finished. -/
theorem searchEach_server (session : Session Directory) (request : SearchRequest)
    (visit : FoundEntry → Step τ α) (w : World Directory τ) :
    (searchEach session request visit w).2.server =
      match search request w.server with
      | (.error _, d) => d
      | (.ok _, d) => d.record .searchFinished := by
  rw [searchEach, server_search_eq]
  rcases search request w.server with ⟨fault | results, d⟩
  · rfl
  · exact congrArg (Directory.record · .searchFinished) (walk_server visit none results _)

theorem server_next_eq {r r' : Results} {outcome : Except Fault (Option FoundEntry)}
    (h : r.next = (outcome, r')) (d : Directory) : DirectoryServer.next (r, d) = (outcome, r', d) := by
  change ((Results.next r).1, (Results.next r).2, d) = (outcome, r', d)
  rw [h]

section Reading

variable {visit : FoundEntry → Step τ α} {f : FoundEntry → α} {r r' : Results}
  {w : World Directory τ}

theorem walk_of_fault {fault : Fault} (h : r.next = (.error fault, r')) :
    walk visit none r w = ⟨[], .error fault, r', w⟩ :=
  DirectoryAccess.walk_of_fault (server_next_eq h w.server)

theorem walk_of_end (h : r.next = (.ok none, r')) : walk visit none r w = ⟨[], .ok (), r', w⟩ :=
  DirectoryAccess.walk_of_end (server_next_eq h w.server)

theorem walk_of_entry {e : FoundEntry} {a : α} {t : τ} (h : r.next = (.ok (some e), r'))
    (hvisit : visit e w.caller = (.ok a, t)) :
    walk visit none r w = { walk visit none r' { w with caller := t } with
      values := a :: (walk visit none r' { w with caller := t }).values } :=
  DirectoryAccess.walk_of_entry (server_next_eq h w.server) hvisit

/-- The results of a search after `m` more entries have been read. -/
def Results.advance (r : Results) (m : Nat) : Results :=
  { r with pending := r.pending.drop m, read := r.read + m }

/-- Nothing stops the reading of the next `m` entries. -/
structure Results.RunsTo (r : Results) (m : Nat) : Prop where
  /-- There are so many entries. -/
  within : m ≤ r.pending.length
  /-- No referral comes before one of them. -/
  noReferral : ∀ i < m, r.partialAfter? ≠ some (r.read + i)
  /-- No limit is reached before one of them. -/
  noLimit : ∀ i < m, r.sizeLimit? ≠ some (r.read + i)

theorem Results.RunsTo.next_eq {m : Nat} {e : FoundEntry} {rest : List FoundEntry}
    (h : r.RunsTo (m + 1)) (hpending : r.pending = e :: rest) :
    r.next = (.ok (some e), r.advance 1) := by
  obtain ⟨pending, read, partialAfter?, referralAtEnd, sizeLimit?⟩ := r
  cases hpending
  have hreferral : partialAfter? ≠ some read := h.noReferral 0 (Nat.succ_pos m)
  have hlimit : sizeLimit? ≠ some read := h.noLimit 0 (Nat.succ_pos m)
  rw [Results.next, if_neg hreferral]
  dsimp only
  rw [if_neg hlimit]
  rfl

theorem Results.advance_advance (r : Results) (m k : Nat) :
    (r.advance m).advance k = r.advance (m + k) := by
  simp only [Results.advance, List.drop_drop, Nat.add_assoc]

theorem Results.RunsTo.advance {m k : Nat} (h : r.RunsTo (m + k)) : (r.advance m).RunsTo k where
  within := by
    have hwithin := h.within
    rw [Results.advance, List.length_drop]
    omega
  noReferral i hi := by
    rw [Results.advance, Nat.add_assoc]
    exact h.noReferral (m + i) (by omega)
  noLimit i hi := by
    rw [Results.advance, Nat.add_assoc]
    exact h.noLimit (m + i) (by omega)

/-- As long as nothing stops the reading, the entries are handed to the visitor one after the other; if
it refuses none of them, the reading goes on. -/
theorem walk_visit {m : Nat} (h : r.RunsTo m) :
    walk visit none r w =
      let visited := visitEach visit (r.pending.take m) w.caller
      match visited.outcome with
      | .error fault =>
        ⟨visited.values, .error fault, r.advance (visited.values.length + 1),
          { w with caller := visited.caller }⟩
      | .ok () =>
        let onward := walk visit none (r.advance m) { w with caller := visited.caller }
        { onward with values := visited.values ++ onward.values } := by
  induction m generalizing r w with
  | zero => rfl
  | succ m ih =>
    cases hpending : r.pending with
    | nil =>
      have hwithin := h.within
      rw [hpending] at hwithin
      exact absurd hwithin (Nat.not_succ_le_zero m)
    | cons e rest =>
      have hnext := h.next_eq hpending
      have hrest : (r.advance 1).pending = rest := by rw [Results.advance, hpending]; rfl
      rw [List.take_succ_cons]
      rcases hvisit : visit e w.caller with ⟨fault | value, t⟩
      · rw [visitEach_of_refusal hvisit,
          DirectoryAccess.walk_of_refusal (server_next_eq hnext w.server) hvisit]
        rfl
      · rw [visitEach_of_value hvisit, walk_of_entry hnext hvisit,
          ih (Results.RunsTo.advance (Nat.add_comm m 1 ▸ h)), hrest]
        dsimp only
        split
        · simp only [Results.advance_advance, List.length_cons, Nat.add_comm 1]
        · simp only [Results.advance_advance, List.cons_append, Nat.add_comm 1]

end Reading

/-- All results are read where neither a limit nor a referral stops the reading. -/
theorem walk_keepEntry (found : List FoundEntry) (k : Nat) (d : Directory) (referralAtEnd : Bool) :
    ∃ k', walk keepEntry none (⟨found, k, none, referralAtEnd, none⟩ : Results)
      (⟨d, ()⟩ : World Directory Unit) =
        ⟨found, .ok (), (⟨[], k', none, referralAtEnd, none⟩ : Results), ⟨d, ()⟩⟩ := by
  have hruns : Results.RunsTo ⟨found, k, none, referralAtEnd, none⟩ found.length :=
    ⟨Nat.le_refl _, fun _ _ => nofun, fun _ _ => nofun⟩
  have hend : Results.next (Results.advance ⟨found, k, none, referralAtEnd, none⟩ found.length) =
      (.ok none, ⟨[], k + found.length, none, referralAtEnd, none⟩) := by
    rw [Results.advance, List.drop_length]
    rfl
  have hkeep : ∀ e t, keepEntry e t = (.ok (id e), t) := fun _ _ => rfl
  refine ⟨k + found.length, ?_⟩
  rw [walk_visit hruns, visitEach_of_pure hkeep]
  dsimp only
  rw [walk_of_end hend]
  simp

/-- A search without a limit returns every entry that it asks for. -/
theorem searchAll_eq {d : Directory} (hd : d.Serves) {request : SearchRequest}
    (hplace : d.isPlace request.base = true) (hsense : d.cannotAnswer request = false)
    (hlimit : request.sizeLimit = 0) (session : Session Directory) :
    searchAll session request d =
      (.ok (d.found request), d.logged [.search request, .searchFinished]) := by
  have hsearch : search request d = (.ok ⟨d.found request, 0, none, false, none⟩,
      d.logged [.search request]) := by
    rw [search, Directory.record_eq_logged]
    simp [hd.search, hd.partialAfter, hd.referralAtEnd, hplace, hsense, hlimit]
  obtain ⟨k, hwalk⟩ := walk_keepEntry (d.found request) 0 (d.logged [.search request]) false
  rw [searchAll, searchEach, server_search_eq, hsearch]
  dsimp only
  rw [readResults, hwalk]
  exact congrArg (Prod.mk _) (d.logged_logged [.search request] [.searchFinished])

/-! ### Listing children -/

/-- Every entry satisfies the filter of a listing if it has an object class. -/
theorem evaluate_anyEntry (a : Attributes) :
    Filter.evaluate SearchRequest.anyEntry.toList a = .ok (a.contains "objectClass") := by
  have hchars : SearchRequest.anyEntry.toList =
      ['(', 'o', 'b', 'j', 'e', 'c', 't', 'C', 'l', 'a', 's', 's', '=', '*', ')'] := rfl
  have htext : Text.trim SearchRequest.anyEntry.toList =
      ['(', 'o', 'b', 'j', 'e', 'c', 't', 'C', 'l', 'a', 's', 's', '=', '*', ')'] := by
    rw [hchars]
    decide +kernel
  rw [Filter.evaluate, htext]
  rfl

theorem accepts_anyEntry (a : Attributes) :
    Filter.accepts SearchRequest.anyEntry a = a.contains "objectClass" := by
  rw [Filter.accepts, evaluate_anyEntry]

theorem stumbles_anyEntry (a : Attributes) : Filter.stumbles SearchRequest.anyEntry a = false := by
  rw [Filter.stumbles, evaluate_anyEntry]

/-- Every entry has an object class, so that listings and readings find it. -/
def Directory.Classified (d : Directory) : Prop :=
  ∀ e ∈ d.entries.toList, e.2.contains "objectClass" = true

theorem cannotAnswer_children (d : Directory) (n : DistinguishedName) (attributes : List String) :
    d.cannotAnswer (.children n attributes) = false := by
  simp [Directory.cannotAnswer, SearchRequest.children, stumbles_anyEntry]

/-- A listing finds the children, in the order of their names. -/
theorem names_found_children {d : Directory} (hd : d.Classified) (n : DistinguishedName)
    (attributes : List String) :
    (d.found (.children n attributes)).map FoundEntry.name = d.names.filter (·.isChildOf n) := by
  rw [Directory.found, Directory.names, OrderedMap.keys, List.filter_map, List.map_map]
  refine congrArg (List.map _) (List.filter_congr ?_)
  rintro ⟨name, values⟩ he
  have haccepts : Filter.accepts (SearchRequest.children n attributes).filter values = true :=
    (accepts_anyEntry values).trans (hd _ he)
  dsimp only
  rw [haccepts, Bool.and_true]
  rfl

/-- A listing returns the names of what it finds. -/
theorem childNames_found {d : Directory} (hd : d.Serves) {n : DistinguishedName}
    (hplace : d.isPlace n = true) (session : Session Directory) :
    childNames session n d = (.ok ((d.found (.children n noAttributes)).map FoundEntry.name),
      d.logged [.search (.children n noAttributes), .searchFinished]) := by
  rw [childNames, searchAll_eq hd hplace (cannotAnswer_children d n noAttributes) rfl]
  rfl

/-- The names of the children of an entry. -/
theorem childNames_eq {d : Directory} (hd : d.Serves) (hclass : d.Classified)
    {n : DistinguishedName} (hplace : d.isPlace n = true) (session : Session Directory) :
    childNames session n d = (.ok (d.names.filter (·.isChildOf n)),
      d.logged [.search (.children n noAttributes), .searchFinished]) := by
  rw [childNames_found hd hplace, names_found_children hclass n noAttributes]

/-! ### Deletions -/

/-- An entry without children is taken out. -/
theorem delete_eq {d : Directory} {n : DistinguishedName} (hentry : d.hasEntry n = true)
    (hleaf : d.hasChildren n = false) :
    delete n d = (.ok (), { d with entries := d.entries.erase n }.logged [.delete n]) := by
  have hentry' : (d.logged [.delete n]).hasEntry n = true := hentry
  have hleaf' : (d.logged [.delete n]).hasChildren n = false := hleaf
  rw [delete, Directory.record_eq_logged]
  simp only [hentry', hleaf', Bool.not_true, Bool.false_eq_true, if_false]
  rfl

/-- What is no entry cannot be deleted. -/
theorem delete_of_not_hasEntry {d : Directory} {n : DistinguishedName} (hn : d.hasEntry n = false) :
    delete n d = (.error (.ofCode ResultCode.noSuchObject), d.logged [.delete n]) := by
  have hentry : (d.record (.delete n)).hasEntry n = false := hn
  simp only [delete, hentry, Bool.not_false, if_true]
  rfl

/-! ### Sessions -/

theorem mapError_eq_ok_iff {outcome : Except Fault α} {g : Fault → Fault} {a : α} :
    outcome.mapError g = .ok a ↔ outcome = .ok a := by
  cases outcome with
  | error fault => exact ⟨nofun, nofun⟩
  | ok b => exact Iff.rfl

theorem server_connect_eq (access : Access) (d : Directory) :
    DirectoryServer.connect access d = connect access d := rfl

/-- A session is opened and recorded, or nothing happens. -/
theorem connect_cases (access : Access) (d : Directory) :
    (∃ fault, connect access d = (.error fault, d)) ∨
    connect access d = (.ok access.mode, d.record (.acquire access.mode)) := by
  unfold connect
  dsimp only
  repeat' split
  all_goals first
    | exact .inl ⟨_, rfl⟩
    | exact .inr rfl

/-- A session to read, or to read and write, can be opened. -/
theorem connect_eq {d : Directory} (hacquire : d.failures.acquire = false) {access : Access}
    (hmode : access.mode ≠ .authenticated) :
    connect access d = (.ok access.mode, d.logged [.acquire access.mode]) := by
  cases access with
  | authenticated principal credential => exact absurd rfl hmode
  | readOnly | readWrite =>
    simp only [connect, Directory.record_eq_logged, hacquire]
    rfl

/-- A request on a session of its own stands between the opening and the closing of the session. -/
theorem requested_eq {d d' : Directory} (hd : d.Serves) (access : Access)
    (hmode : access.mode ≠ .authenticated) (request : Session Directory → Step Directory α)
    {outcome : Except Fault α}
    (hrequest : request access.mode (d.logged [.acquire access.mode]) = (outcome, d')) :
    requested access request d =
      (outcome.mapError Fault.classify, d'.logged [.release access.mode]) := by
  have hconnect : DirectoryServer.connect access d = (.ok access.mode, d.logged [.acquire access.mode]) :=
    connect_eq hd.acquire hmode
  rw [requested_of_connect hconnect, hrequest]
  rfl

end DirectoryAccess.InMemory
