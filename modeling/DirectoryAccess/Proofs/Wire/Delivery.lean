import DirectoryAccess.Proofs.Operation.Reading
import DirectoryAccess.Wire.Client
import Mathlib.Data.List.Forall2

/-!
# What servers deliver

A search that succeeds is answered page by page if its results are asked for in pages, and else at once.
Whatever the pages are, some of them empty, the client reads the entries of all pages in their order and
then the end (`exists_readsAll_of_delivers`). The settings of the client stay as they are.
-/

namespace DirectoryAccess.Wire

open DirectoryServer

namespace Network

variable {n n' : Network} {session : Nat}

/-! ### Settings -/

theorem settings_send (session : Nat) (request : Request) (n : Network) :
    (send session request n).2.settings = n.settings := by
  unfold send takeReply
  dsimp only [record]
  repeat' split
  all_goals rfl

theorem settings_perform (session : Nat) (request : Request) (n : Network) :
    (perform session request n).2.settings = n.settings := by
  have h := settings_send session request n
  unfold perform
  split <;> rename_i heq <;> rw [heq] at h <;> exact h

theorem settings_encrypt (session : Nat) (n : Network) :
    (encrypt session n).2.settings = n.settings := by
  have h := settings_perform session (.extended startEncryption) n
  unfold encrypt
  split <;> rename_i heq <;> rw [heq] at h <;> exact h

theorem settings_openSession (target : Url.Target) (n : Network) :
    (openSession target n).2.settings = n.settings := by
  unfold openSession
  dsimp only
  split
  · exact settings_encrypt n.sessions _
  · rfl

theorem settings_contact (url : Url) (n : Network) : (contact url n).2.settings = n.settings := by
  unfold contact
  dsimp only
  split
  · rfl
  · split
    · rfl
    · exact settings_openSession _ _

theorem settings_contactFirst (failure : Fault) (urls : List Url) (n : Network) :
    (contactFirst failure urls n).2.settings = n.settings := by
  induction urls generalizing failure n with
  | nil => rfl
  | cons url rest ih =>
    have h := settings_contact url n
    rw [contactFirst]
    rcases hc : contact url n with ⟨fault | session, n'⟩ <;> rw [hc] at h
    · exact (ih fault n').trans h
    · exact h

theorem settings_bindSession (session : Nat) (credentials : String × String) (n : Network) :
    (bindSession session credentials n).2.settings = n.settings := by
  have h := settings_perform session (.bind credentials.1 credentials.2) n
  unfold bindSession
  split <;> rename_i heq <;> rw [heq] at h
  · unfold unbind
    split <;> exact h
  · exact h

/-- The opening of a session changes no settings. -/
theorem settings_connect (access : Access) (n : Network) :
    (Network.connect access n).2.settings = n.settings := by
  have h := settings_contactFirst (.invalid "No server URLs configured") n.settings.urls n
  unfold Network.connect
  split
  · rfl
  · split <;> rename_i heq <;> rw [heq] at h
    · exact h
    · split
      · exact h
      · exact (settings_bindSession _ _ _).trans h

/-! ### Pages -/

/-- `Delivers paged replies entries`: the replies to a search bring the entries, and then a result that
says that the search succeeded. If the results are asked for in pages, the result of a page says where
the next page starts, and the last page is the one whose result does not. -/
inductive Delivers (paged : Bool) : List Reply → List ReturnedEntry → Prop where
  /-- There are no more pages. -/
  | last {a : Answer} : a.code = ResultCode.success → a.unfinished = false →
      (paged = true → a.cookie = []) → Delivers paged [.answer a] a.entries
  /-- A page comes before others. -/
  | page {a : Answer} {replies : List Reply} {entries : List ReturnedEntry} :
      paged = true → a.unfinished = false → a.cookie ≠ [] → Delivers paged replies entries →
      Delivers paged (.answer a :: replies) (a.entries ++ entries)

/-- The entries that were found are the returned ones, as they are received. -/
def Receives (base : DistinguishedName) (found : List FoundEntry) (entries : List ReturnedEntry) :
    Prop :=
  List.Forall₂ (fun f e => receivedEntry base e = .ok f) found entries

theorem Receives.append {base : DistinguishedName} {found : List FoundEntry}
    {entries others : List ReturnedEntry} (h : Receives base found (entries ++ others)) :
    ∃ front back, found = front ++ back ∧ Receives base front entries ∧ Receives base back others :=
  ⟨_, _, (List.take_append_drop entries.length found).symm, List.forall₂_take_append _ _ _ h,
    List.forall₂_drop_append _ _ _ h⟩

/-- The network after a search has reached the server, with the replies that are left. -/
def answered (n : Network) (session : Nat) (message : SearchMessage) (rest : List Reply) : Network :=
  { n.record (.requested session (.search message) true) with script := rest }

/-- A search that can be sent is answered by the next reply. -/
theorem sendSearch_answer {message : SearchMessage} {last? : Option (Except Fault Unit)} {a : Answer}
    {rest : List Reply} (hup : session ∉ n.lost) (hscript : n.script = .answer a :: rest) :
    sendSearch session message last? n =
      (.ok (Results.ofReply session message last? (.answer a)), n.answered session message rest) := by
  have htake : (n.record (.requested session (.search message) true)).takeReply =
      (.answer a, n.answered session message rest) := by
    unfold takeReply record
    rw [hscript]
    rfl
  unfold sendSearch send
  rw [if_neg hup, htake]
  rfl

/-- The first entry at hand is read. -/
theorem next_entry {r : Results} {e : ReturnedEntry} {pending : List ReturnedEntry} {f : FoundEntry}
    (hpending : r.pending = e :: pending) (hcomplete : r.complete = false)
    (he : receivedEntry n.settings.base e = .ok f) :
    next (r, n) = (.ok (some f), { r with pending := pending }, n) := by
  have hsome : ¬r.pending.isEmpty = true := by
    rw [hpending]
    exact Bool.false_ne_true
  have hhere : toEntries r n = (.ok (), r, n) := by rw [toEntries, if_neg hsome]
  rw [next, if_neg (ne_true_of_eq_false hcomplete), hhere]
  dsimp only
  rw [hpending]
  dsimp only
  rw [he]
  rfl

/-- The results when the entries at hand have been read. -/
def drained (r : Results) : Results := { r with pending := [] }

/-- The entries at hand are read one after the other. -/
theorem readsAll_drained {r r' : Results} {found others : List FoundEntry}
    (hfound : Receives n.settings.base found r.pending) (hcomplete : r.complete = false)
    (hrest : @ReadsAll Network _ (drained r) n others r' n') :
    @ReadsAll Network _ r n (found ++ others) r' n' := by
  obtain ⟨session, message, pending, ending, last?, complete⟩ := r
  dsimp only at hfound hcomplete
  induction hfound with
  | nil => exact hrest
  | cons he _ ih => exact .entry (next_entry rfl hcomplete he) (ih hrest)

section

variable {r : Results} {code : Nat} {matched text : String} {cookie : List UInt8}

theorem nextPage?_eq_none (hending : r.ending = .result code matched text cookie)
    (hcookie : r.message.page?.isSome = true → cookie = []) : r.nextPage? = none := by
  unfold Results.nextPage?
  rw [hending]
  cases hpage : r.message.page? with
  | none => rfl
  | some page =>
    rw [hcookie (by rw [hpage]; rfl)]
    rfl

theorem nextPage?_eq_some {page : Int × List UInt8}
    (hending : r.ending = .result code matched text cookie) (hpage : r.message.page? = some page)
    (hcookie : cookie ≠ []) :
    r.nextPage? = some { r.message with page? := some (page.1, cookie) } := by
  unfold Results.nextPage?
  rw [hending, hpage]
  exact if_neg (by rwa [List.isEmpty_iff])

theorem last?_readResult (hending : r.ending = .result code matched text cookie) :
    r.readResult.last? = some (outcomeOf code matched text) := by
  unfold Results.readResult
  rw [hending]

/-- After the last entry of the last page comes the end. -/
theorem next_end (hending : r.ending = .result code matched text cookie) (hpending : r.pending = [])
    (hcomplete : r.complete = false) (hnext : r.nextPage? = none) :
    next (r, n) = (.ok none, { r.readResult with complete := true }, n) := by
  have hlast : toEntries r n = (.ok (), r, n) := by
    rw [toEntries, if_pos (List.isEmpty_iff.2 hpending)]
    split
    · rfl
    · next heq => cases hnext.symm.trans heq
  rw [next, if_neg (ne_true_of_eq_false hcomplete), hlast]
  dsimp only
  rw [hpending, hending]

/-- After the last entry of a page comes what comes first on the next page. -/
theorem next_turn {page : Results} {message : SearchMessage} (hpending : r.pending = [])
    (hcomplete : r.complete = false) (hnext : r.nextPage? = some message)
    (hsend : sendSearch r.session message r.readResult.last? n = (.ok page, n'))
    (hpage : page.complete = false) : next (r, n) = next (page, n') := by
  have hturn : toEntries r n = toEntries page n' := by
    rw [toEntries, if_pos (List.isEmpty_iff.2 hpending)]
    split
    · next heq => cases hnext.symm.trans heq
    · next heq =>
      cases hnext.symm.trans heq
      split
      · next heq => cases hsend.symm.trans heq
      · next heq =>
        cases hsend.symm.trans heq
        rfl
  rw [next, if_neg (ne_true_of_eq_false hcomplete), hturn, next, if_neg (ne_true_of_eq_false hpage)]

end

/-- **The entries of all pages are read** in their order, and the final result is that of the last
page. -/
theorem exists_readsAll_of_delivers {paged : Bool} {replies : List Reply}
    {entries : List ReturnedEntry} (h : Delivers paged replies entries) {n : Network}
    {rest : List Reply} {message : SearchMessage} {last? : Option (Except Fault Unit)}
    {found : List FoundEntry} (hup : session ∉ n.lost) (hscript : n.script = replies ++ rest)
    (hpaged : message.page?.isSome = paged) (hfound : Receives n.settings.base found entries) :
    ∃ r n' r' n'', sendSearch session message last? n = (.ok r, n') ∧ r.complete = false ∧
      @ReadsAll Network _ r n' found r' n'' ∧ r'.last? = some (.ok ()) := by
  induction h generalizing n message last? found with
  | @last a hcode hfinished hcookie =>
    have hending : (drained (.ofReply session message last? (.answer a))).ending =
        .result a.code a.matched a.text a.cookie := if_neg (ne_true_of_eq_false hfinished)
    have hnext := nextPage?_eq_none hending fun hsome => hcookie (hpaged.symm.trans hsome)
    have hread : @ReadsAll Network _ (Results.ofReply session message last? (.answer a))
        (n.answered session message rest) (found ++ []) _ _ :=
      readsAll_drained hfound rfl (.done (next_end hending rfl rfl hnext))
    rw [List.append_nil] at hread
    refine ⟨_, _, _, _, sendSearch_answer hup hscript, rfl, hread, ?_⟩
    exact (last?_readResult hending).trans (congrArg some (if_pos hcode))
  | @page a replies entries hpages hfinished hcookie _ ih =>
    obtain ⟨front, back, rfl, hfront, hback⟩ := hfound.append
    obtain ⟨page, hpage⟩ := Option.isSome_iff_exists.1 (hpaged.trans hpages)
    have hending : (drained (.ofReply session message last? (.answer a))).ending =
        .result a.code a.matched a.text a.cookie := if_neg (ne_true_of_eq_false hfinished)
    have hnext := nextPage?_eq_some hending hpage hcookie
    -- the search is sent again, from where the next page starts
    obtain ⟨r, n', r', n'', hsend, hcomplete, hread, hlast⟩ :=
      @ih (n.answered session message (replies ++ rest))
        { message with page? := some (page.1, a.cookie) } _ back hup rfl hpages.symm hback
    refine ⟨_, _, r', n'', sendSearch_answer hup hscript, rfl, ?_, hlast⟩
    exact readsAll_drained hfront rfl (hread.of_next_eq (next_turn rfl rfl hnext hsend hcomplete))

/-- **A search returns all entries that are delivered**, if its filter can be sent and its names can be
read. -/
theorem searchAll_of_delivers {request : SearchRequest} {replies rest : List Reply}
    {entries : List ReturnedEntry} {found : List FoundEntry}
    (hfilter : Filter.isWellFormed request.filter = true) (hup : session ∉ n.lost)
    (hscript : n.script = replies ++ rest)
    (hreplies : Delivers n.settings.pageSize?.isSome replies entries)
    (hfound : Receives n.settings.base found entries) :
    (@searchAll Network _ session request n).1 = .ok found := by
  obtain ⟨r, n', r', n'', hsend, -, hread, hlast⟩ :=
    @exists_readsAll_of_delivers session _ _ _ hreplies n rest
      (searchToSend n.settings.base n.settings.pageSize? request) none found hup hscript
      Option.isSome_map hfound
  have hsearch : DirectoryServer.search session request n = (.ok r, n') := by
    change search session request n = _
    rw [search, if_pos hfilter, hsend]
  have hfinish : (DirectoryServer.finish r' n'').1 = .ok () := by
    change r'.last?.getD _ = _
    rw [hlast]
    rfl
  rw [searchAll_of_readsAll hsearch hread, hfinish]
  rfl

end Network

end DirectoryAccess.Wire
