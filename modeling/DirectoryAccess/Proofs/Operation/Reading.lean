import DirectoryAccess.Operation.Connected

/-!
# Reading the results of a search

What comes of the results of a search is said here for any server, step by step: reading fails, comes to
the end, or brings an entry and goes on. If it comes to the end, the entries that it brought are what the
search returns (`searchAll_of_readsAll`).
-/

namespace DirectoryAccess

open DirectoryServer

variable {σ τ α : Type} [DirectoryServer σ]

/-! ### One step -/

section

variable {visit : FoundEntry → Step τ α} {r r' : Results σ} {w : World σ τ} {s : σ}

/-- The reading ends where it fails. -/
theorem walk_of_fault {fault : Fault} (h : next (r, w.server) = (.error fault, r', s)) :
    walk visit none r w = ⟨[], .error fault, r', { w with server := s }⟩ := by
  rw [walk, if_neg nofun]
  split
  · next heq =>
    cases h.symm.trans heq
    rfl
  · next heq => cases h.symm.trans heq
  · next heq => cases h.symm.trans heq

/-- The reading ends with the last entry. -/
theorem walk_of_end (h : next (r, w.server) = (.ok none, r', s)) :
    walk visit none r w = ⟨[], .ok (), r', { w with server := s }⟩ := by
  rw [walk, if_neg nofun]
  split
  · next heq => cases h.symm.trans heq
  · next heq =>
    cases h.symm.trans heq
    rfl
  · next heq => cases h.symm.trans heq

/-- The reading goes on after an entry that the visitor accepts. -/
theorem walk_of_entry {e : FoundEntry} {a : α} {t : τ}
    (h : next (r, w.server) = (.ok (some e), r', s)) (hvisit : visit e w.caller = (.ok a, t)) :
    walk visit none r w =
      { walk visit none r' ⟨s, t⟩ with values := a :: (walk visit none r' ⟨s, t⟩).values } := by
  rw [walk, if_neg nofun]
  split
  · next heq => cases h.symm.trans heq
  · next heq => cases h.symm.trans heq
  · next heq =>
    cases h.symm.trans heq
    rw [hvisit]
    rfl

/-- The reading ends at an entry that the visitor refuses. -/
theorem walk_of_refusal {e : FoundEntry} {fault : Fault} {t : τ}
    (h : next (r, w.server) = (.ok (some e), r', s)) (hvisit : visit e w.caller = (.error fault, t)) :
    walk visit none r w = ⟨[], .error fault, r', ⟨s, t⟩⟩ := by
  rw [walk, if_neg nofun]
  split
  · next heq => cases h.symm.trans heq
  · next heq => cases h.symm.trans heq
  · next heq =>
    cases h.symm.trans heq
    rw [hvisit]

end

/-! ### Reading to the end -/

/-- `ReadsAll r s entries r' s'`: the results are read to their end and bring the entries. -/
inductive ReadsAll : Results σ → σ → List FoundEntry → Results σ → σ → Prop where
  /-- All entries have been read. -/
  | done {r r' : Results σ} {s s' : σ} : next (r, s) = (.ok none, r', s') → ReadsAll r s [] r' s'
  /-- An entry is read before the others. -/
  | entry {r r' r'' : Results σ} {s s' s'' : σ} {e : FoundEntry} {entries : List FoundEntry} :
      next (r, s) = (.ok (some e), r', s') → ReadsAll r' s' entries r'' s'' →
      ReadsAll r s (e :: entries) r'' s''

variable {r r' r₁ r₂ : Results σ} {s s' s₁ s₂ : σ} {entries : List FoundEntry}

/-- Where the next step is the same, all steps are. -/
theorem ReadsAll.of_next_eq (h : ReadsAll r₂ s₂ entries r' s')
    (hnext : next (r₁, s₁) = next (r₂, s₂)) : ReadsAll r₁ s₁ entries r' s' := by
  cases h with
  | done hend => exact .done (hnext.trans hend)
  | entry he hrest => exact .entry (hnext.trans he) hrest

theorem walk_of_readsAll (h : ReadsAll r s entries r' s') :
    walk keepEntry none r ⟨s, ()⟩ = ⟨entries, .ok (), r', ⟨s', ()⟩⟩ := by
  induction h with
  | done hend => exact walk_of_end hend
  | entry he _ ih => rw [walk_of_entry he rfl, ih]

/-- A search that can be read to its end returns its entries, unless its final result is a fault. -/
theorem searchAll_of_readsAll {session : Session σ} {request : SearchRequest}
    (hsearch : search session request s = (.ok r, s₁)) (h : ReadsAll r s₁ entries r' s') :
    searchAll session request s = ((finish r' s').1.map fun _ => entries, (finish r' s').2) := by
  rw [searchAll, searchEach, hsearch]
  dsimp only
  rw [readResults, walk_of_readsAll h]
  rfl

/-! ### Sessions -/

/-- On a session that can be opened a request is made, and then the session is closed. -/
theorem requested_of_connect {access : Access} {session : Session σ} {request : Session σ → Step σ α}
    (h : connect access s = (.ok session, s')) :
    requested access request s =
      ((request session s').1.mapError Fault.classify,
        (disconnect session (request session s').2).2) := by
  rw [requested, connected, h]
  rfl

end DirectoryAccess
