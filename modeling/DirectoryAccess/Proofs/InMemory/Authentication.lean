import DirectoryAccess.Operation.Authenticate
import DirectoryAccess.Proofs.InMemory.Delivery
import DirectoryAccess.Proofs.Operation.Basic
import Mathlib

/-!
# Authentication against a directory in memory

`authenticate_eq_true_iff` says exactly when a principal is authenticated: the search delivers one entry,
and the credential is the password kept for the full name of that entry. What the search delivers need
not be all that it found. A caller that accepts partial results takes the first of several principals for
the only one where a referral comes after it (`authenticate_one_of_two`); in all other cases the principal
is the only one (`exists_matching_of_authenticate`).
-/

namespace DirectoryAccess.InMemory

open DirectoryServer

variable {τ : Type} {d : Directory} {base : NameInput} {filter : Filter} {n : DistinguishedName}
  {request : SearchRequest} {ignorePartial : Bool} {credential : String}
  {work : Connection Directory → Identification → Step (World Directory τ) Unit} {t : τ}

/-- The entries at or below the base that satisfy the filter, in the order of their names. -/
def Directory.matching (d : Directory) (base : DistinguishedName) (filter : Filter) :
    List (DistinguishedName × Attributes) :=
  d.entries.toList.filter fun (name, attributes) =>
    name.isWithin base && Filter.accepts (toString filter) attributes

/-- The request that an authentication searches with. -/
def principalRequest (base : DistinguishedName) (filter : Filter) : SearchRequest :=
  .ofQuery { base, filter } true

/-- The search finds the entries that match, under their names. -/
theorem names_found_principalRequest (d : Directory) (n : DistinguishedName) (filter : Filter) :
    (d.found (principalRequest n filter)).map FoundEntry.name = (d.matching n filter).map (·.1) := by
  rw [Directory.found, List.map_map]
  rfl

/-! ### The search for the principal -/

/-- Both names of an entry that was found. -/
def identificationOf (base : DistinguishedName) (e : FoundEntry) : Identification :=
  ⟨e.name.under base, e.name⟩

/-- What is recorded of the search for a principal. -/
def principalEvents (request : SearchRequest) : List Event :=
  [.acquire .readOnly, .search request, .searchFinished, .release .readOnly]

theorem classify_referralFault : referralFault.classify = .partialResult "result code 10" := by
  decide +kernel

/-- What a caller makes of a search that is cut short, or has a referral as its final result. -/
def endOfSearch (ignorePartial cutsShort referralAtEnd : Bool) : Except Fault Unit :=
  if (cutsShort || referralAtEnd) && !ignorePartial then .error (.partialResult "result code 10")
  else .ok ()

/-- A referral fails the search, wherever it comes, unless the caller accepts partial results. -/
theorem acceptPartial_referral (ignorePartial cutsShort referralAtEnd : Bool) :
    acceptPartial ignorePartial (Except.mapError Fault.classify (firstFault
      (if cutsShort then .error referralFault else .ok ())
      (if referralAtEnd then .error referralFault else .ok ()))) =
      endOfSearch ignorePartial cutsShort referralAtEnd := by
  cases cutsShort <;> cases referralAtEnd <;> cases ignorePartial <;>
    simp [firstFault, Except.mapError, classify_referralFault, acceptPartial, endOfSearch]

theorem endOfSearch_eq_ok_iff :
    endOfSearch ignorePartial (d.cutsShort request) d.failures.referralAtEnd = .ok () ↔
      (d.refers request = true → ignorePartial = true) := by
  rw [endOfSearch, Directory.refers]
  cases d.cutsShort request || d.failures.referralAtEnd <;> cases ignorePartial <;> simp

theorem firstFault_ok_eq_ok_iff {α : Type} {outcome : Except Fault Unit} {a b : α} :
    firstFault outcome (.ok a) = .ok b ↔ outcome = .ok () ∧ a = b := by
  cases outcome <;> simp [firstFault]

theorem report_endOfSearch {α : Type} (ignorePartial cutsShort referralAtEnd : Bool) (values : α) :
    Except.mapError Fault.classify
      (firstFault (endOfSearch ignorePartial cutsShort referralAtEnd) (.ok values)) =
      (endOfSearch ignorePartial cutsShort referralAtEnd).map fun _ => values := by
  unfold endOfSearch
  split <;> rfl

/-- The search for the principal on its connection. -/
theorem searchOn_principal (h : d.Answers (principalRequest n filter)) (c : Connection Directory) :
    searchOn ignorePartial c (principalRequest n filter) identify.map (⟨d, t⟩ : World Directory τ) =
      (((d.delivered (principalRequest n filter)).map (identificationOf d.base),
        endOfSearch ignorePartial (d.cutsShort (principalRequest n filter)) d.failures.referralAtEnd),
        ⟨d.logged [.search (principalRequest n filter), .searchFinished], t⟩) := by
  have hvisit : ∀ e (t : τ), identify.map (.existing e.name d.base e.attributes) t =
      (.ok (identificationOf d.base e), t) := fun _ _ => rfl
  have heach := searchEach_eq h rfl hvisit c.session t
  have hbase : DirectoryServer.base (⟨d, t⟩ : World Directory τ).server = d.base := rfl
  rw [searchOn, hbase, heach]
  exact congrArg (fun outcome => ((_, outcome), _)) (acceptPartial_referral _ _ _)

/-- A search that is refused delivers nothing. -/
theorem searchOn_of_refused {α : Type} {request : SearchRequest} {visit : EntryContext → Step τ α}
    {w : World Directory τ} (h : ¬w.server.Answers request) (c : Connection Directory) :
    (searchOn ignorePartial c request visit w).1.1 = [] := by
  obtain ⟨fault, d', hrefused⟩ := exists_fault_of_not_answers h
  rw [searchOn, searchEach, server_search_eq, hrefused]

/-- The search for the principal on a connection of its own. -/
theorem searchMapping_of_acquire (hacquire : d.failures.acquire = false) :
    searchMapping ignorePartial { base := n, filter } identify SearchHooks.none
        (⟨d, t⟩ : World Directory τ) =
      let ((values, outcome), w) := searchOn ignorePartial readConnection (principalRequest n filter)
        identify.map ⟨d.logged [.acquire .readOnly], t⟩
      ((firstFault outcome (.ok values)).mapError Fault.classify,
        { w with server := w.server.logged [.release .readOnly] }) := by
  rw [searchMapping, searchVisiting_of_acquire hacquire]
  rfl

/-- The search for the principal, if the directory answers. -/
theorem searchMapping_of_answers (hacquire : d.failures.acquire = false)
    (h : d.Answers (principalRequest n filter)) :
    searchMapping ignorePartial { base := n, filter } identify SearchHooks.none
        (⟨d, t⟩ : World Directory τ) =
      ((endOfSearch ignorePartial (d.cutsShort (principalRequest n filter))
          d.failures.referralAtEnd).map fun _ =>
            (d.delivered (principalRequest n filter)).map (identificationOf d.base),
        ⟨d.logged (principalEvents (principalRequest n filter)), t⟩) := by
  rw [searchMapping_of_acquire hacquire, searchOn_principal (h.logged [.acquire .readOnly])]
  dsimp only
  rw [report_endOfSearch, Directory.logged_logged, Directory.logged_logged]
  rfl

/-- If the search cannot be carried out, no principal is found. -/
theorem searchMapping_of_refused
    (h : ¬(d.failures.acquire = false ∧ d.Answers (principalRequest n filter)))
    {values : List Identification} {w : World Directory τ}
    (hvalues : searchMapping ignorePartial { base := n, filter } identify SearchHooks.none
      (⟨d, t⟩ : World Directory τ) = (.ok values, w)) : values = [] := by
  cases hacquire : d.failures.acquire with
  | true =>
    have hclosed : connect .readOnly d = (.error (.system "refused"), d) := by
      simp [connect, hacquire]
    rw [searchMapping, searchVisiting_eq, connected, server_connect_eq, hclosed] at hvalues
    cases hvalues
  | false =>
    have hnot : ¬(d.logged [.acquire .readOnly]).Answers (principalRequest n filter) :=
      fun hanswers => h ⟨hacquire, hanswers.1, hanswers.2, hanswers.3⟩
    have hnone : (searchOn ignorePartial readConnection (principalRequest n filter) identify.map
        (⟨d.logged [.acquire .readOnly], t⟩ : World Directory τ)).1.1 = [] :=
      searchOn_of_refused hnot _
    rw [searchMapping_of_acquire hacquire] at hvalues
    have houtcome := mapError_eq_ok_iff.1 (congrArg Prod.fst hvalues)
    rw [hnone, firstFault_ok_eq_ok_iff] at houtcome
    exact houtcome.2.symm

/-! ### Authentications -/

/-- The principal gives its password and a session is opened for it, or it is turned away. -/
theorem verify_eq_true_iff {credential : String} {entry : Identification} :
    (verify credential work entry ⟨d, t⟩).1 = true ↔
      d.passwords.get? entry.absolute = some credential ∧ d.failures.acquire = false ∧
      (work ⟨AccessMode.authenticated, .authenticated⟩ entry
        ⟨d.logged [.acquire .authenticated], t⟩).1.isOk = true := by
  rw [verify, server_connect_eq, connect]
  by_cases hpassword : d.passwords.get? entry.absolute = some credential
  · cases hacquire : d.failures.acquire with
    | true => simp [hpassword]
    | false =>
      simp only [hpassword, beq_self_eq_true, Bool.not_true, Bool.false_eq_true, if_false, true_and]
      rfl
  · simp [hpassword]

/-- **When a principal is authenticated.** The base can be read, the search is carried out and comes to an
end that the caller accepts, it delivers one entry, the credential is the password of that entry, and the
caller's work as that entry succeeds. -/
theorem authenticate_eq_true_iff :
    (authenticate ignorePartial base filter credential work ⟨d, t⟩).1 = .ok true ↔
      ∃ n e, base.resolve = .ok n ∧
        (d.failures.acquire = false ∧ d.Answers (principalRequest n filter)) ∧
        (d.refers (principalRequest n filter) = true → ignorePartial = true) ∧
        d.delivered (principalRequest n filter) = [e] ∧
        d.passwords.get? (e.name.under d.base) = some credential ∧
        (work ⟨AccessMode.authenticated, .authenticated⟩ (identificationOf d.base e)
          ⟨d.logged (principalEvents (principalRequest n filter) ++ [.acquire .authenticated]),
            t⟩).1.isOk = true := by
  rw [authenticate, SearchQuery.make?]
  cases hbase : base.resolve with
  | error e => simp [Except.map]
  | ok n =>
    have hmake : (Except.ok n : Except NameError DistinguishedName).map
        (fun name => ({ base := name, filter } : SearchQuery)) = .ok { base := n, filter } := rfl
    rw [hmake]
    dsimp only
    by_cases hsearch : d.failures.acquire = false ∧ d.Answers (principalRequest n filter)
    · rw [searchMapping_of_answers hsearch.1 hsearch.2]
      simp only [Except.ok.injEq, exists_and_left, exists_eq_left', hsearch, true_and,
        ← endOfSearch_eq_ok_iff]
      rcases endOfSearch ignorePartial (d.cutsShort (principalRequest n filter))
        d.failures.referralAtEnd with fault | _
      · simp [Except.map]
      · match hdelivered : d.delivered (principalRequest n filter) with
        | [] => simp [Except.map]
        | _ :: _ :: _ => simp [Except.map]
        | [e] =>
          simp only [Except.map, List.map_cons, List.map_nil, Except.ok.injEq]
          rw [verify_eq_true_iff, Directory.logged_logged]
          constructor
          · rintro ⟨hpassword, -, hwork⟩
            exact ⟨trivial, e, rfl, hpassword, hwork⟩
          · rintro ⟨-, _, heq, hpassword, hwork⟩
            cases heq
            exact ⟨hpassword, hsearch.1, hwork⟩
    · rcases hmap : searchMapping ignorePartial { base := n, filter } identify SearchHooks.none
        (⟨d, t⟩ : World Directory τ) with ⟨fault | values, w⟩
      · simp [hsearch]
      · obtain rfl := searchMapping_of_refused hsearch hmap
        simp [hsearch]

/-- **An authenticated principal gave the password of an entry that matches**, and no other entry does,
unless the caller accepts partial results and a referral came right after the first entry. -/
theorem exists_matching_of_authenticate {w : World Directory τ}
    (h : (authenticate ignorePartial base filter credential work w).1 = .ok true) :
    ∃ n principal others, base.resolve = .ok n ∧
      w.server.matching n filter = principal :: others ∧
      w.server.passwords.get? (principal.1.under w.server.base) = some credential ∧
      (others ≠ [] → ignorePartial = true ∧ w.server.failures.partialAfter? = some 1) := by
  obtain ⟨n, e, hbase, -, hrefers, hdelivered, hpassword, -⟩ := authenticate_eq_true_iff.1 h
  obtain ⟨rest, hfound, hrest⟩ := exists_found_of_delivered hdelivered
  have hnames := names_found_principalRequest w.server n filter
  rw [hfound, List.map_cons, eq_comm, List.map_eq_cons_iff] at hnames
  obtain ⟨principal, others, hmatching, hname, hothers⟩ := hnames
  refine ⟨n, principal, others, hbase, hmatching, hname ▸ hpassword, fun hne => ?_⟩
  have hrest' : rest ≠ [] := by
    rintro rfl
    exact hne (List.map_eq_nil_iff.1 hothers)
  obtain ⟨hpartial, hcut⟩ := hrest hrest'
  exact ⟨hrefers (by rw [Directory.refers, hcut, Bool.true_or]), hpartial⟩

/-- A person. -/
def anna : DistinguishedName := ⟨[⟨⟨"uid", "anna", by decide⟩, []⟩]⟩

/-- Two persons of one surname, of whom one has a password. -/
def namesakes : Directory :=
  let berta : DistinguishedName := ⟨[⟨⟨"uid", "berta", by decide⟩, []⟩]⟩
  { entries := ⟨[(anna, ⟨⟨[("cn", ["Anna"]), ("sn", ["Berg"])]⟩, .empty⟩),
      (berta, ⟨⟨[("cn", ["Berta"]), ("sn", ["Berg"])]⟩, .empty⟩)]⟩
    passwords := ⟨[(anna, "secret")]⟩ }

/-- Whoever is called so. -/
def called (attr value : String) : Filter := .compare attr .equal (.text value)

/-- Work that does nothing. -/
def idle : Connection Directory → Identification → Step (World Directory Unit) Unit :=
  fun _ _ w => (.ok (), w)

/-- Who is known by the name of one entry alone is authenticated by the password of that entry. -/
theorem exists_matching_of_authenticate_anna :
    (authenticate false (.name .root) (called "cn" "anna") "secret" idle ⟨namesakes, ()⟩).1 = .ok true ∧
    ∃ n principal others, NameInput.resolve (.name .root) = .ok n ∧
      namesakes.matching n (called "cn" "anna") = principal :: others ∧
      namesakes.passwords.get? (principal.1.under namesakes.base) = some "secret" ∧
      (others ≠ [] → false = true ∧ namesakes.failures.partialAfter? = some 1) := by
  have hanswers : namesakes.Answers (principalRequest .root (called "cn" "anna")) :=
    ⟨rfl, rfl, by cbv⟩
  have hdelivered : namesakes.delivered (principalRequest .root (called "cn" "anna")) =
      [⟨anna, ⟨⟨[("cn", ["Anna"]), ("sn", ["Berg"])]⟩, .empty⟩⟩] := by
    cbv
  have hauthenticated :
      (authenticate false (.name .root) (called "cn" "anna") "secret" idle ⟨namesakes, ()⟩).1 =
        .ok true := by
    have hwhole : namesakes.refers (principalRequest .root (called "cn" "anna")) = false := rfl
    refine authenticate_eq_true_iff.2
      ⟨.root, _, rfl, ⟨rfl, hanswers⟩, fun hrefers => ?_, hdelivered, by cbv, rfl⟩
    rw [hwhole] at hrefers
    cases hrefers
  exact ⟨hauthenticated, exists_matching_of_authenticate hauthenticated⟩

/-- Two persons of one surname, where searches end with a referral after the first entry. -/
def cutNamesakes : Directory := { namesakes with failures := { partialAfter? := some 1 } }

/-- A caller that accepts partial results authenticates by a name that two entries share. -/
theorem authenticate_one_of_two :
    (authenticate true (.name .root) (called "sn" "Berg") "secret" idle ⟨cutNamesakes, ()⟩).1 =
        .ok true ∧
      (cutNamesakes.matching .root (called "sn" "Berg")).length = 2 := by
  have hanswers : cutNamesakes.Answers (principalRequest .root (called "sn" "Berg")) :=
    ⟨rfl, rfl, by cbv⟩
  have hdelivered : cutNamesakes.delivered (principalRequest .root (called "sn" "Berg")) =
      [⟨anna, ⟨⟨[("cn", ["Anna"]), ("sn", ["Berg"])]⟩, .empty⟩⟩] := by
    cbv
  exact ⟨authenticate_eq_true_iff.2
    ⟨.root, _, rfl, ⟨rfl, hanswers⟩, fun _ => rfl, hdelivered, by cbv, rfl⟩, by cbv⟩

end DirectoryAccess.InMemory
