import DirectoryAccess.Proofs.InMemory.Requests
import DirectoryAccess.Proofs.Operation.Basic

/-!
# What a search delivers

A directory in memory that has been told to fail in the middle of a search delivers the entries before
the failure all the same, and so does a search that finds more entries than its limit. `searchEach_visit`
says of every search which entries the visitor is handed and how the search ends, whatever the visitor
does; a search that the directory refuses hands over nothing (`search_of_refusal?`). Of a search without a
limit `searchEach_eq` says the same in terms of what was found; a caller that accepts partial results does
not learn that there were more.
-/

namespace DirectoryAccess.InMemory

open DirectoryServer

variable {τ α : Type} {d d' : Directory} {request : SearchRequest}

namespace Directory

/-- The directory can answer the request: it has not been told to refuse searches, the base exists, and
the request makes sense. -/
structure Answers (d : Directory) (request : SearchRequest) : Prop where
  /-- Searches can be started. -/
  search : d.failures.search? = none
  /-- The base of the search exists. -/
  place : d.isPlace request.base = true
  /-- The request makes sense. -/
  sense : d.cannotAnswer request = false

theorem Answers.logged (h : d.Answers request) (events : List Event) :
    (d.logged events).Answers request := ⟨h.1, h.2, h.3⟩

/-- Why the directory refuses to start a search that it can make sense of, if it does. -/
def refusal? (d : Directory) (request : SearchRequest) : Option Fault :=
  match d.failures.search? with
  | some code => some (.ofCode code)
  | none => if d.isPlace request.base then none else some (.ofCode ResultCode.noSuchObject)

theorem answers_iff :
    d.Answers request ↔ d.refusal? request = none ∧ d.cannotAnswer request = false := by
  rw [refusal?]
  constructor
  · rintro ⟨hsearch, hplace, hsense⟩
    rw [hsearch]
    exact ⟨if_pos hplace, hsense⟩
  · rintro ⟨hrefusal, hsense⟩
    split at hrefusal
    · cases hrefusal
    · next hsearch =>
      split at hrefusal
      · next hplace => exact ⟨hsearch, hplace, hsense⟩
      · cases hrefusal

/-- The results of a search before any of them has been read. -/
def results (d : Directory) (request : SearchRequest) : Results :=
  { pending := d.found request, partialAfter? := d.failures.partialAfter?,
    referralAtEnd := d.failures.referralAtEnd,
    sizeLimit? := if 0 < request.sizeLimit then some request.sizeLimit.toNat else none }

/-- Whether a search for the request ends with a referral on the way. -/
def cutsShort (d : Directory) (request : SearchRequest) : Bool :=
  d.failures.partialAfter?.any (· ≤ (d.found request).length)

/-- Whether a search for the request ends with a referral, on the way or as its final result. -/
def refers (d : Directory) (request : SearchRequest) : Bool :=
  d.cutsShort request || d.failures.referralAtEnd

/-- The entries that a search for the request delivers if it has no limit. -/
def delivered (d : Directory) (request : SearchRequest) : List FoundEntry :=
  match d.failures.partialAfter? with
  | some count => (d.found request).take count
  | none => d.found request

end Directory

/-- The fault that a referral is reported as. -/
def referralFault : Fault := .ofCode ResultCode.referral

/-- The fault that a limit on the number of entries is reported as. -/
def sizeLimitFault : Fault := .ofCode ResultCode.sizeLimitExceeded

/-- The lesser of a number and a bound, if there is a bound. -/
def capped (bound? : Option Nat) (m : Nat) : Nat := bound?.elim m (min m)

namespace Directory

/-- How many of the entries that it finds a search hands to the visitor. -/
def reach (d : Directory) (request : SearchRequest) : Nat :=
  capped (d.results request).partialAfter? (capped (d.results request).sizeLimit? (d.found request).length)

/-- The entries that a search hands to the visitor, as long as the visitor refuses none. -/
def handed (d : Directory) (request : SearchRequest) : List FoundEntry :=
  (d.found request).take (d.reach request)

/-- How the reading ends after these entries: with a referral, at the limit, or because there are no
others. -/
def ending (d : Directory) (request : SearchRequest) : Except Fault Unit :=
  if d.failures.partialAfter? = some (d.reach request) then .error referralFault
  else if d.reach request < (d.found request).length then .error sizeLimitFault
  else .ok ()

/-- The final result of a search. -/
def finalResult (d : Directory) : Except Fault Unit :=
  if d.failures.referralAtEnd then .error referralFault else .ok ()

end Directory

/-! ### The start of a search -/

theorem search_of_answers (h : d.Answers request) :
    search request d = (.ok (d.results request), d.logged [.search request]) := by
  have hplace := (h.logged [.search request]).place
  have hsense := (h.logged [.search request]).sense
  have hsearch : (d.logged [.search request]).failures.search? = none := h.search
  rw [search, Directory.record_eq_logged]
  simp only [hsearch, hplace, hsense, Bool.not_true, Bool.false_eq_true, if_false]
  rfl

/-- A search that is refused leaves its start alone in the record. -/
theorem search_of_refusal? {fault : Fault} (hrefusal : d.refusal? request = some fault)
    (hsense : d.cannotAnswer request = false) :
    search request d = (.error fault, d.logged [.search request]) := by
  have hsense' : (d.logged [.search request]).cannotAnswer request = false := hsense
  rw [search, Directory.record_eq_logged]
  rw [Directory.refusal?] at hrefusal
  cases hsearch : d.failures.search? with
  | some code =>
    rw [hsearch] at hrefusal
    cases hrefusal
    simp [hsearch]
  | none =>
    rw [hsearch] at hrefusal
    cases hplace : d.isPlace request.base with
    | true => simp [hplace] at hrefusal
    | false =>
      rw [hplace] at hrefusal
      cases hrefusal
      simp [hsearch, hplace]

/-- A search that the directory cannot answer is refused. -/
theorem exists_fault_of_not_answers (h : ¬d.Answers request) :
    ∃ fault d', search request d = (.error fault, d') := by
  rw [search, Directory.record_eq_logged]
  split
  · exact ⟨_, _, rfl⟩
  · next hsearch =>
    split
    · exact ⟨_, _, rfl⟩
    · next hplace =>
      split
      · exact ⟨_, _, rfl⟩
      · next hsense =>
        rw [Bool.not_eq_true, Bool.not_eq_false'] at hplace
        exact absurd ⟨hsearch, hplace, Bool.eq_false_iff.2 hsense⟩ h

/-! ### The entries -/

theorem capped_le (bound? : Option Nat) (m : Nat) : capped bound? m ≤ m := by
  cases bound? with
  | none => exact Nat.le_refl m
  | some k => exact Nat.min_le_left m k

theorem capped_le_bound {bound? : Option Nat} {k : Nat} (h : bound? = some k) (m : Nat) :
    capped bound? m ≤ k := by
  rw [h]
  exact Nat.min_le_right m k

/-- A number that is not the bound is below it when it is capped. -/
theorem capped_eq_or (bound? : Option Nat) (m : Nat) :
    bound? = some (capped bound? m) ∨ capped bound? m = m := by
  cases bound? with
  | none => exact .inr rfl
  | some k =>
    obtain h | h := Nat.le_total m k
    · exact .inr (Nat.min_eq_left h)
    · exact .inl (congrArg some (Nat.min_eq_right h).symm)

/-- Nothing stops the reading before the entries that are handed over have been read. -/
theorem runsTo_reach (d : Directory) (request : SearchRequest) :
    (d.results request).RunsTo (d.reach request) := by
  have hinner := capped_le (d.results request).sizeLimit? (d.found request).length
  have houter := capped_le (d.results request).partialAfter?
    (capped (d.results request).sizeLimit? (d.found request).length)
  refine ⟨Nat.le_trans houter hinner, fun i hi heq => ?_, fun i hi heq => ?_⟩
  · have hle := capped_le_bound heq (capped (d.results request).sizeLimit? (d.found request).length)
    rw [Directory.reach] at hi
    exact absurd (Nat.lt_of_lt_of_le hi hle) (by simp [Directory.results])
  · have hle := capped_le_bound heq (d.found request).length
    rw [Directory.reach] at hi
    exact absurd (Nat.lt_of_lt_of_le hi (Nat.le_trans houter hle)) (by simp [Directory.results])

/-- Where neither a referral nor the last entry is the end, it is the limit. -/
theorem sizeLimit_of_reach_lt (hcut : d.failures.partialAfter? ≠ some (d.reach request))
    (hmore : d.reach request < (d.found request).length) :
    (d.results request).sizeLimit? = some (d.reach request) := by
  have houter : d.reach request = capped (d.results request).sizeLimit? (d.found request).length :=
    (capped_eq_or (d.results request).partialAfter? _).resolve_left hcut
  rw [houter] at hmore ⊢
  exact (capped_eq_or (d.results request).sizeLimit? _).resolve_right (Nat.ne_of_lt hmore)

/-- The reading ends after the entries that are handed over. -/
theorem next_reach (d : Directory) (request : SearchRequest) :
    ((d.results request).advance (d.reach request)).next =
      ((d.ending request).map fun _ => none, (d.results request).advance (d.reach request)) := by
  have hread : ((d.results request).advance (d.reach request)).read = d.reach request := Nat.zero_add _
  have hpending : ((d.results request).advance (d.reach request)).pending =
    (d.found request).drop (d.reach request) := rfl
  have hpartial : ((d.results request).advance (d.reach request)).partialAfter? =
    d.failures.partialAfter? := rfl
  have hsize : ((d.results request).advance (d.reach request)).sizeLimit? =
    (d.results request).sizeLimit? := rfl
  rw [Results.next, Directory.ending, hread, hpending, hpartial, hsize]
  by_cases hcut : d.failures.partialAfter? = some (d.reach request)
  · rw [if_pos hcut, if_pos hcut]
    rfl
  · rw [if_neg hcut, if_neg hcut]
    by_cases hmore : d.reach request < (d.found request).length
    · rw [if_pos hmore, List.drop_eq_getElem_cons hmore]
      dsimp only
      rw [if_pos (sizeLimit_of_reach_lt hcut hmore)]
      rfl
    · rw [if_neg hmore, List.drop_eq_nil_of_le (Nat.le_of_not_lt hmore)]
      rfl

variable {visit : FoundEntry → Step τ α} {f : FoundEntry → α} {w : World Directory τ}

/-- What comes of reading the results of a search, whatever the visitor does. -/
theorem walk_results (visit : FoundEntry → Step τ α) (d : Directory) (request : SearchRequest)
    (w : World Directory τ) :
    ∃ rest : Results, rest.referralAtEnd = d.failures.referralAtEnd ∧
      walk visit none (d.results request) w =
        let visited := visitEach visit (d.handed request) w.caller
        ⟨visited.values, firstFault visited.outcome (d.ending request), rest,
          { w with caller := visited.caller }⟩ := by
  have hpending : (d.results request).pending.take (d.reach request) = d.handed request := rfl
  rw [walk_visit (runsTo_reach d request), hpending]
  rcases visitEach visit (d.handed request) w.caller with ⟨values, fault | _, t⟩
  · exact ⟨_, rfl, rfl⟩
  · refine ⟨(d.results request).advance (d.reach request), rfl, ?_⟩
    have hnext := next_reach d request
    dsimp only
    rcases hending : d.ending request with fault | _ <;> rw [hending] at hnext
    · rw [walk_of_fault hnext, List.append_nil]
      rfl
    · rw [walk_of_end hnext, List.append_nil]
      rfl

/-- The entries that a search hands to the visitor, whatever the visitor does, and how the search ends. -/
theorem searchEach_visit (h : d.Answers request) (visit : FoundEntry → Step τ α)
    (session : Session Directory) (t : τ) :
    searchEach session request visit ⟨d, t⟩ =
      let visited := visitEach visit (d.handed request) t
      ({ values := visited.values, walked := firstFault visited.outcome (d.ending request),
         finished := d.finalResult },
        ⟨d.logged [.search request, .searchFinished], visited.caller⟩) := by
  obtain ⟨rest, hrest, hwalk⟩ := walk_results visit d request ⟨d.logged [.search request], t⟩
  have hfinish (d' : Directory) : finish rest d' = (d.finalResult, d'.logged [.searchFinished]) := by
    rw [finish, hrest]
    rfl
  rw [searchEach, server_search_eq, search_of_answers h]
  dsimp only
  rw [readResults, hwalk]
  exact congrArg (fun done : Except Fault Unit × Directory =>
    (Gathered.mk _ _ done.1, (⟨done.2, _⟩ : World Directory τ)))
    ((hfinish _).trans (congrArg (Prod.mk _) (d.logged_logged _ _)))

/-! ### Searches on a session of their own -/

/-- The connection that a search is made on. -/
def readConnection : Connection Directory := ⟨AccessMode.readOnly, .readOnly⟩

/-- A search on a directory that can be reached is its work, between the opening and the closing of a
session. -/
theorem searchVisiting_of_acquire {ignorePartial wholeEntries : Bool} {query : SearchQuery}
    {visit : EntryContext → Step τ α} {hooks : SearchHooks Directory τ} {t : τ}
    (hacquire : d.failures.acquire = false) :
    searchVisiting ignorePartial query wholeEntries visit hooks ⟨d, t⟩ =
      let (outcome, w) := searchWork ignorePartial query wholeEntries visit hooks readConnection
        ⟨d.logged [.acquire .readOnly], t⟩
      (outcome.mapError Fault.classify, ⟨w.server.logged [.release .readOnly], w.caller⟩) := by
  have hopen : connect .readOnly d = (.ok .readOnly, d.logged [.acquire .readOnly]) :=
    connect_eq hacquire nofun
  rw [searchVisiting_eq, connected, server_connect_eq, hopen]
  rfl

/-! ### Searches without a limit -/

theorem reach_of_unlimited (hlimit : request.sizeLimit = 0) :
    d.reach request = capped d.failures.partialAfter? (d.found request).length := by
  have hsize : (d.results request).sizeLimit? = none := by simp [Directory.results, hlimit]
  rw [Directory.reach, hsize]
  rfl

theorem handed_of_unlimited (hlimit : request.sizeLimit = 0) :
    d.handed request = d.delivered request := by
  rw [Directory.handed, Directory.delivered, reach_of_unlimited hlimit]
  cases d.failures.partialAfter? with
  | none => exact List.take_length
  | some count =>
    dsimp only [capped, Option.elim_some]
    rw [Nat.min_comm]
    exact List.take_eq_take_min.symm

theorem ending_of_unlimited (hlimit : request.sizeLimit = 0) :
    d.ending request = if d.cutsShort request then .error referralFault else .ok () := by
  rw [Directory.ending, Directory.cutsShort, reach_of_unlimited hlimit]
  cases d.failures.partialAfter? with
  | none => simp [capped]
  | some count =>
    obtain h | h := Nat.lt_or_ge (d.found request).length count
    · simp [capped, Nat.not_le_of_gt h, Nat.min_eq_left (Nat.le_of_lt h), Nat.ne_of_gt h]
    · simp [capped, h]

/-- The entries that a search without a limit hands to a visitor that cannot fail, and how it ends. -/
theorem searchEach_eq (h : d.Answers request) (hlimit : request.sizeLimit = 0)
    (hvisit : ∀ e t, visit e t = (.ok (f e), t)) (session : Session Directory) (t : τ) :
    searchEach session request visit ⟨d, t⟩ =
      ({ values := (d.delivered request).map f,
         walked := if d.cutsShort request then .error referralFault else .ok (),
         finished := if d.failures.referralAtEnd then .error referralFault else .ok () },
        ⟨d.logged [.search request, .searchFinished], t⟩) := by
  rw [searchEach_visit h, visitEach_of_pure hvisit, handed_of_unlimited hlimit,
    ending_of_unlimited hlimit]
  rfl

/-- Where one entry is delivered, more are found only if a referral comes right after it. -/
theorem exists_found_of_delivered {e : FoundEntry} (h : d.delivered request = [e]) :
    ∃ rest, d.found request = e :: rest ∧
      (rest ≠ [] → d.failures.partialAfter? = some 1 ∧ d.cutsShort request = true) := by
  rw [Directory.delivered] at h
  split at h
  · next count hcount =>
    match hfound : d.found request, count with
    | [], _ => simp [hfound] at h
    | _ :: _, 0 => cases h
    | e' :: rest, count + 1 =>
      rw [hfound, List.take_succ_cons, List.cons.injEq, List.take_eq_nil_iff] at h
      obtain ⟨rfl, hnil⟩ := h
      refine ⟨rest, rfl, fun hrest => ?_⟩
      obtain rfl := hnil.resolve_right hrest
      refine ⟨hcount, ?_⟩
      rw [Directory.cutsShort, hcount, hfound, Option.any_some, decide_eq_true_iff, List.length_cons]
      omega
  · exact ⟨[], h, fun hne => absurd rfl hne⟩

end DirectoryAccess.InMemory
