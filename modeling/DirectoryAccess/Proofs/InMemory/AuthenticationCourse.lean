import DirectoryAccess.Proofs.InMemory.Authentication
import DirectoryAccess.Proofs.InMemory.Trace
import DirectoryAccess.Proofs.Operation.Watched

/-!
# The course of an authentication

Which sessions an authentication asks for, in which order, when it closes them and when the caller works
on them. `Course` lists the ways that an authentication can go, and `authenticate_course` says that it
goes one of them, whatever the directory holds and however it has been told to fail. The server is watched
so that a session that is refused is seen as well; the directory itself records only those that it opens.
-/

namespace DirectoryAccess

open DirectoryServer InMemory

/-! ### Ways that an authentication can go -/

/-- `Verification credential entry hasWork acts verified`: a session is asked for as the entry, and on it
the caller works if it has work to do. -/
inductive Verification (credential : String) (entry : Identification) (hasWork : Bool) :
    List Act → Bool → Prop where
  /-- No session is opened as the entry. -/
  | refused : Verification credential entry hasWork
      [.asked (.authenticated entry.absolute credential) false] false
  /-- A session is opened and closed again, as there is no work to do. -/
  | idle : hasWork = false → Verification credential entry hasWork
      [.asked (.authenticated entry.absolute credential) true,
        .closed (.authenticated entry.absolute credential)] true
  /-- The caller works once on the session, which is closed whether the work succeeded or not. -/
  | worked {succeeded : Bool} : hasWork = true → Verification credential entry hasWork
      [.asked (.authenticated entry.absolute credential) true,
        .worked (.authenticated entry.absolute credential) .authenticated entry succeeded,
        .closed (.authenticated entry.absolute credential)] succeeded

/-- `Course base credential hasWork found acts outcome`: where the search for the principal has the outcome
`found`, an authentication does `acts` with its sessions and has the outcome `outcome`. -/
inductive Course (base : DistinguishedName) (credential : String) (hasWork : Bool) :
    Except Fault (List EntryContext) → List Act → Except Fault Bool → Prop where
  /-- There is no session for the search. -/
  | unreachable {fault : Fault} :
      Course base credential hasWork (.error fault) [.asked .readOnly false] (.error fault)
  /-- The search fails on its session. -/
  | failed {fault : Fault} : Course base credential hasWork (.error fault)
      [.asked .readOnly true, .closed .readOnly] (.error fault)
  /-- The search does not return one entry. -/
  | ambiguous {contexts : List EntryContext} : contexts.length ≠ 1 →
      Course base credential hasWork (.ok contexts)
        [.asked .readOnly true, .closed .readOnly] (.ok false)
  /-- The search returns one entry, and a session is asked for as this entry, under its full name. -/
  | one {context : EntryContext} {name : DistinguishedName} {acts : List Act} {verified : Bool} :
      context.name? = some name →
      Verification credential ⟨name.under base, name⟩ hasWork acts verified →
      Course base credential hasWork (.ok [context])
        ([.asked .readOnly true, .closed .readOnly] ++ acts) (.ok verified)

section

variable {credential : String} {entry : Identification} {hasWork : Bool} {acts : List Act}
  {base : DistinguishedName} {found : Except Fault (List EntryContext)} {outcome : Except Fault Bool}

/-- An authentication fails exactly if the search fails, with the same fault. -/
theorem Course.error_iff (h : Course base credential hasWork found acts outcome) (fault : Fault) :
    outcome = .error fault ↔ found = .error fault := by
  cases h with
  | unreachable | failed => simp
  | ambiguous | one => exact iff_of_false nofun nofun

/-- A principal is authenticated exactly if its session is opened and the caller, if it has work to do,
does it with success. -/
theorem Course.true_iff (h : Course base credential hasWork found acts outcome) :
    outcome = .ok true ↔ ∃ entry, .asked (.authenticated entry.absolute credential) true ∈ acts ∧
      (hasWork = true →
        .worked (.authenticated entry.absolute credential) .authenticated entry true ∈ acts) := by
  cases h with
  | unreachable | failed | ambiguous => simp
  | @one context name acts verified _ hverification =>
    cases hverification with
    | refused => simp
    | idle hidle => exact iff_of_true rfl ⟨⟨name.under base, name⟩, by simp, by simp [hidle]⟩
    | worked hworks =>
      constructor
      · intro h
        cases h
        exact ⟨⟨name.under base, name⟩, by simp, by simp⟩
      · rintro ⟨entry, -, hentry⟩
        obtain ⟨-, -, hverified⟩ : entry.absolute = name.under base ∧
            entry = ⟨name.under base, name⟩ ∧ verified = true := by simpa using hentry hworks
        rw [hverified]

end

/-! ### The run on a watched server -/

section

variable {σ τ : Type} [DirectoryServer σ]

/-- A search that returns all entries as they are. -/
def searchContexts (ignorePartial : Bool) (query : SearchQuery) :
    Step (World σ τ) (List EntryContext) :=
  searchMapping ignorePartial query (.ofContext fun context t => (.ok context, t)) SearchHooks.none

/-- The work that a caller does as the entry; there may be none. -/
def workOf (work? : Option (Connection σ → Identification → Step (World σ τ) Unit)) :
    Connection σ → Identification → Step (World σ τ) Unit :=
  work?.getD fun _ _ w => (.ok (), w)

/-- The same work, where the server is watched. -/
def watchedWork (work? : Option (Connection σ → Identification → Step (World σ τ) Unit)) :
    Connection (Watched σ) → Identification → Step (World (Watched σ) τ) Unit :=
  match work? with
  | none => fun _ _ w => (.ok (), w)
  | some work => fun c entry w =>
    let (outcome, w') := work ⟨c.session.session, c.mode⟩ entry ⟨w.server.server, w.caller⟩
    (outcome, ⟨⟨w'.server, w.server.acts ++ [.worked c.session.access c.mode entry outcome.isOk]⟩,
      w'.caller⟩)

/-- The outcome of a step with the state that it leaves, where the server is watched. -/
def watchedRun {α : Type} (run : Except Fault α × World σ τ) (acts : List Act) :
    Except Fault α × World (Watched σ) τ :=
  (run.1, ⟨⟨run.2.server, acts⟩, run.2.caller⟩)

variable (work? : Option (Connection σ → Identification → Step (World σ τ) Unit))

/-- What is done with the session as the entry. -/
theorem verify_watched (credential : String) (entry : Identification) (s : σ) (t : τ) (acts : List Act) :
    ∃ acts', Verification credential entry work?.isSome acts'
        (verify credential (workOf work?) entry ⟨s, t⟩).1 ∧
      verify credential (watchedWork work?) entry ⟨⟨s, acts⟩, t⟩ =
        let (verified, w) := verify credential (workOf work?) entry ⟨s, t⟩
        (verified, ⟨⟨w.server, acts ++ acts'⟩, w.caller⟩) := by
  have hwatched := connect_watched (.authenticated entry.absolute credential) s acts
  rw [verify, verify]
  rcases hconnect : connect (.authenticated entry.absolute credential) s with ⟨fault | session, s₁⟩ <;>
    rw [hconnect] at hwatched <;> rw [hwatched]
  · exact ⟨_, .refused, rfl⟩
  · cases work? with
    | none =>
      refine ⟨_, .idle rfl, ?_⟩
      change (true, (⟨⟨_, acts ++ [_] ++ [_]⟩, _⟩ : World (Watched σ) τ)) = _
      rw [List.append_assoc]
      rfl
    | some work =>
      refine ⟨_, .worked rfl, ?_⟩
      change (_, (⟨⟨_, acts ++ [_] ++ [_] ++ [_]⟩, _⟩ : World (Watched σ) τ)) = _
      rw [List.append_assoc, List.append_assoc]
      rfl

theorem searchContexts_eq (ignorePartial : Bool) (query : SearchQuery) (s : σ) (t : τ) :
    searchContexts ignorePartial query ⟨s, t⟩ =
      let (found, s') := findEntries ignorePartial query s
      (found.map (List.map fun e => .existing e.name (base (connect .readOnly s).2) e.attributes),
        ⟨s', t⟩) :=
  searchMapping_of_infallible (fun _ _ => rfl) ignorePartial query t

theorem searchMapping_identify (ignorePartial : Bool) (query : SearchQuery) (s : σ) (t : τ) :
    searchMapping ignorePartial query identify SearchHooks.none ⟨s, t⟩ =
      let (found, s') := findEntries ignorePartial query s
      (found.map (List.map (identificationOf (base (connect .readOnly s).2))), ⟨s', t⟩) :=
  searchMapping_of_infallible (fun _ _ => rfl) ignorePartial query t

/-- An authentication whose base can be read goes one of the ways, and goes it also where the server is
watched. -/
theorem authenticate_watched (ignorePartial : Bool) {start : NameInput} {n : DistinguishedName}
    (hstart : start.resolve = .ok n) (filter : Filter) (credential : String) (s : σ) (t : τ) :
    ∃ acts, Course (base (connect .readOnly s).2) credential work?.isSome
        (searchContexts ignorePartial { base := n, filter } (⟨s, t⟩ : World σ τ)).1 acts
        (authenticate ignorePartial start filter credential (workOf work?) ⟨s, t⟩).1 ∧
      authenticate ignorePartial start filter credential (watchedWork work?) ⟨⟨s, []⟩, t⟩ =
        watchedRun (authenticate ignorePartial start filter credential (workOf work?) ⟨s, t⟩) acts := by
  have hmake : SearchQuery.make? start filter = .ok { base := n, filter } := by
    rw [SearchQuery.make?, hstart]
    rfl
  have hbase : base (connect (σ := Watched σ) .readOnly ⟨s, []⟩).2 = base (connect .readOnly s).2 := rfl
  rw [authenticate, authenticate, hmake]
  dsimp only
  rw [searchContexts_eq, searchMapping_identify, searchMapping_identify, findEntries_watched, hbase]
  rcases hfound : findEntries ignorePartial { base := n, filter } s with ⟨fault | entries, s₁⟩
  · refine ⟨_, ?_, rfl⟩
    cases (connect .readOnly s).1.isOk with
    | true => exact .failed
    | false => exact .unreachable
  · have hopened : (connect .readOnly s).1.isOk = true := by
      by_contra hclosed
      obtain ⟨fault, hfault⟩ := findEntries_of_unopened (Bool.not_eq_true _ ▸ hclosed)
      rw [hfound] at hfault
      cases hfault
    rw [hopened]
    obtain _ | ⟨e, _ | ⟨_, _⟩⟩ := entries
    · exact ⟨_, .ambiguous (by simp), rfl⟩
    · obtain ⟨acts, hverification, hverify⟩ := verify_watched work? credential
        (identificationOf (base (connect .readOnly s).2) e) s₁ t (searchActs true)
      refine ⟨_, .one rfl hverification, ?_⟩
      exact congrArg (fun done : Bool × World (Watched σ) τ => (Except.ok done.1, done.2)) hverify
    · exact ⟨_, .ambiguous (by simp), rfl⟩

end

namespace InMemory

variable {τ : Type} {d : Directory} {t : τ} {ignorePartial : Bool} {start : NameInput} {filter : Filter}
  {credential : String}

/-! ### Authentications against a directory in memory -/

theorem base_connect (access : Access) (d : Directory) :
    base (DirectoryServer.connect access d).2 = d.base := by
  rw [server_connect_eq]
  obtain ⟨fault, hfault⟩ | hopen := connect_cases access d
  · rw [hfault]
    rfl
  · rw [hopen]
    rfl

/-- The directory does not break down over a session as an entry, if not over the work of the caller. -/
theorem brokenDown_verify {work : Connection Directory → Identification → Step (World Directory τ) Unit}
    (hwork : ∀ c entry w, (work c entry w).2.server.brokenDown = w.server.brokenDown)
    (credential : String) (entry : Identification) (w : World Directory τ) :
    (verify credential work entry w).2.server.brokenDown = w.server.brokenDown := by
  rw [verify, server_connect_eq]
  obtain ⟨fault, hfault⟩ | hopen := connect_cases (.authenticated entry.absolute credential) w.server
  · rw [hfault]
  · rw [hopen]
    exact hwork _ entry _

/-- The directory does not break down over an authentication, if not over the work of the caller: the
escapes in the text of the filter are well formed. -/
theorem brokenDown_authenticate (hfilter : Filter.HexEscaped (toString filter).toList)
    {work : Connection Directory → Identification → Step (World Directory τ) Unit}
    (hwork : ∀ c entry w, (work c entry w).2.server.brokenDown = w.server.brokenDown)
    (w : World Directory τ) :
    (authenticate ignorePartial start filter credential work w).2.server.brokenDown =
      w.server.brokenDown := by
  rw [authenticate]
  cases hmake : SearchQuery.make? start filter with
  | error e => rfl
  | ok query =>
    have hsearch : (searchMapping ignorePartial query identify SearchHooks.none w).2.server.brokenDown =
        w.server.brokenDown := by
      have hquery : query.Sensible := sensible_of_make? hfilter hmake
      rw [searchMapping]
      obtain ⟨-, hsame⟩ | ⟨events, hblock⟩ :=
        blocks_searchVisiting hquery converses_none.1 converses_none.2 w
      · exact congrArg Directory.brokenDown hsame
      · exact hblock.recorded.2
    dsimp only
    rcases hs : searchMapping ignorePartial query identify SearchHooks.none w with ⟨fault | found, u⟩ <;>
      rw [hs] at hsearch
    · exact hsearch
    · obtain _ | ⟨entry, _ | ⟨_, _⟩⟩ := found
      · exact hsearch
      · exact (brokenDown_verify hwork credential entry u).trans hsearch
      · exact hsearch

theorem brokenDown_workOf (hfilter : Filter.HexEscaped (toString filter).toList)
    {work? : Option (Connection Directory → Identification → Step (World Directory τ) Unit)}
    (hwork : ∀ work ∈ work?, ∀ c entry w, (work c entry w).2.server.brokenDown = w.server.brokenDown)
    (w : World Directory τ) :
    (authenticate ignorePartial start filter credential (workOf work?) w).2.server.brokenDown =
      w.server.brokenDown := by
  refine brokenDown_authenticate hfilter ?_ w
  cases work? with
  | none => exact fun _ _ _ => rfl
  | some work => exact hwork work rfl

theorem authenticate_of_malformed {σ : Type} [DirectoryServer σ] {e : NameError}
    (hstart : start.resolve = .error e)
    (work : Connection σ → Identification → Step (World σ τ) Unit) (w : World σ τ) :
    authenticate ignorePartial start filter credential work w = (.error (.ofName e), w) := by
  rw [authenticate, SearchQuery.make?, hstart]
  rfl

/-- **The course of an authentication**, whatever the directory holds and however it has been told to
fail. It fails exactly if its base cannot be read or the search fails, with that fault. It goes one of the
ways that `Course` lists: the session of the search is closed before another one is asked for, which is
done once, with the full name of the one entry that was found and with the credential; the caller works on
that session only, once; and the session is closed however the work ended. The principal is authenticated
exactly if the session was opened and the work, if there is any, succeeded. -/
theorem authenticate_course (hfilter : Filter.HexEscaped (toString filter).toList)
    (work? : Option (Connection Directory → Identification → Step (World Directory τ) Unit)) :
    let run := authenticate ignorePartial start filter credential (workOf work?) ⟨d, t⟩
    let found := fun n : DistinguishedName =>
      (searchContexts ignorePartial { base := n, filter } (⟨d, t⟩ : World Directory τ)).1
    ∃ acts,
      authenticate ignorePartial start filter credential (watchedWork work?) ⟨⟨d, []⟩, t⟩ =
        watchedRun run acts ∧
      (∀ e, start.resolve = .error e → run = (.error (.ofName e), ⟨d, t⟩) ∧ acts = []) ∧
      (∀ n, start.resolve = .ok n → Course d.base credential work?.isSome (found n) acts run.1) ∧
      (∀ fault, run.1 = .error fault ↔ (∃ e, start.resolve = .error e ∧ fault = .ofName e) ∨
        ∃ n, start.resolve = .ok n ∧ found n = .error fault) ∧
      (run.1 = .ok true ↔ ∃ entry, .asked (.authenticated entry.absolute credential) true ∈ acts ∧
        (work?.isSome = true →
          .worked (.authenticated entry.absolute credential) .authenticated entry true ∈ acts)) ∧
      ((∀ work ∈ work?, ∀ c entry w, (work c entry w).2.server.brokenDown = w.server.brokenDown) →
        run.2.server.brokenDown = d.brokenDown) := by
  intro run found
  cases hstart : start.resolve with
  | error e =>
    have hrun : run = (.error (.ofName e), ⟨d, t⟩) := authenticate_of_malformed hstart _ _
    refine ⟨[], ?_, ?_, nofun, ?_, ?_, (brokenDown_workOf hfilter · ⟨d, t⟩)⟩
    · rw [authenticate_of_malformed hstart, hrun]
      rfl
    · rintro _ ⟨⟩
      exact ⟨hrun, rfl⟩
    · intro fault
      rw [hrun]
      simp [eq_comm]
    · rw [hrun]
      simp
  | ok n =>
    obtain ⟨acts, hcourse, hwatched⟩ :=
      authenticate_watched work? ignorePartial hstart filter credential d t
    rw [base_connect] at hcourse
    refine ⟨acts, hwatched, nofun, ?_, ?_, hcourse.true_iff,
      (brokenDown_workOf hfilter · ⟨d, t⟩)⟩
    · rintro _ ⟨⟩
      exact hcourse
    · intro fault
      rw [hcourse.error_iff fault]
      simp [found]

/-- The caller lists the children of the root as the entry. -/
def listRoot : Connection Directory → Identification → Step (World Directory Unit) Unit :=
  fun c _ w =>
    let (outcome, s) := childNames c.session .root w.server
    (outcome.map fun _ => (), { w with server := s })

/-- The search for the one who is called Anna, and the work as her, go such a course. -/
theorem authenticate_course_anna :
    Filter.HexEscaped (toString (called "cn" "anna")).toList ∧ ∃ acts,
      authenticate false (.name .root) (called "cn" "anna") "secret" (watchedWork (some listRoot))
          ⟨⟨namesakes, []⟩, ()⟩ =
        watchedRun (authenticate false (.name .root) (called "cn" "anna") "secret"
          (workOf (some listRoot)) ⟨namesakes, ()⟩) acts ∧
      Course namesakes.base "secret" true (searchContexts false
          { base := .root, filter := called "cn" "anna" } (⟨namesakes, ()⟩ : World Directory Unit)).1
        acts (authenticate false (.name .root) (called "cn" "anna") "secret" (workOf (some listRoot))
          ⟨namesakes, ()⟩).1 := by
  have hfilter : Filter.HexEscaped (toString (called "cn" "anna")).toList := by
    refine Filter.hexEscaped_of_not_mem ?_
    simp only [called, toString, Filter.encode]
    decide +kernel
  obtain ⟨acts, hwatched, -, hcourse, -⟩ :=
    @authenticate_course Unit namesakes () false (.name .root) (called "cn" "anna") "secret" hfilter
      (some listRoot)
  exact ⟨hfilter, acts, hwatched, hcourse .root rfl⟩

end InMemory

end DirectoryAccess
