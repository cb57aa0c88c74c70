import DirectoryAccess.Proofs.Operation.Conversation
import DirectoryAccess.Wire.Client

/-!
# What is sent on a session

Between its opening and its end only requests are made on a session, and each of them is written down
(`Talks`). Whatever is asked for on a connection, by one request or by a search that goes on page by page,
every message that is sent for it names the entry that it is about (`speaks_searchEach`, `speaks_send`).
-/

namespace DirectoryAccess

/-- The name of the entry that a request is about; of an entry that gets another name, the old one. -/
def Request.subject {β : Type} : Request β → DistinguishedName
  | .lookup name _ | .list name | .listEntries name | .add name _ | .delete name | .replace name _
  | .modify name _ => name
  | .rename old _ => old

namespace Wire

open DirectoryServer

/-- The text of the name that a message is about, if there is one. -/
def Request.subject? : Request → Option String
  | .bind principal _ => some principal
  | .add name _ | .delete name | .modify name _ | .rename name _ _ => some name
  | .search message => some message.base
  | .unbind | .extended _ => none

namespace Network

variable {P Q : Request → Prop} {session : Nat} {n n' n'' : Network} {events events' : List Event}

/-! ### Requests one after the other -/

/-- `Talks P session n events n'`: requests that satisfy `P` are made on the session, lead from `n` to
`n'`, and `events` is what is written down of them. -/
inductive Talks (P : Request → Prop) (session : Nat) : Network → List Event → Network → Prop where
  /-- No request is made. -/
  | nil {n : Network} : Talks P session n [] n
  /-- A request is made, whatever the server does with it. -/
  | sent {request : Request} {n n' : Network} {events : List Event} : P request →
      Talks P session (send session request n).2 events n' →
      Talks P session n (.requested session request (session ∉ n.lost) :: events) n'

theorem Talks.append (h : Talks P session n events n') (h' : Talks P session n' events' n'') :
    Talks P session n (events ++ events') n'' := by
  induction h with
  | nil => exact h'
  | sent hP _ ih => exact .sent hP (ih h')

theorem Talks.mono (h : Talks P session n events n') (hPQ : ∀ request, P request → Q request) :
    Talks Q session n events n' := by
  induction h with
  | nil => exact .nil
  | sent hP _ ih => exact .sent (hPQ _ hP) ih

/-- What is written down in a talk are requests on the session. -/
theorem Talks.mem (h : Talks P session n events n') {e : Event} (he : e ∈ events) :
    ∃ request received, e = .requested session request received ∧ P request := by
  induction h with
  | nil => cases he
  | sent hP _ ih =>
    obtain rfl | he := List.mem_cons.1 he
    · exact ⟨_, _, rfl, hP⟩
    · exact ih he

/-- What a request leaves as it is. -/
structure Unmoved (n n' : Network) : Prop where
  /-- What the client has been told. -/
  settings : n'.settings = n.settings
  /-- How many addresses have been contacted. -/
  contacts : n'.contacts = n.contacts
  /-- How many sessions have been opened. -/
  sessions : n'.sessions = n.sessions
  /-- What comes of attempts to reach a target. -/
  reach : n'.reach = n.reach

theorem Unmoved.refl (n : Network) : Unmoved n n := ⟨rfl, rfl, rfl, rfl⟩

theorem Unmoved.trans (h : Unmoved n n') (h' : Unmoved n' n'') : Unmoved n n'' :=
  ⟨h'.settings.trans h.settings, h'.contacts.trans h.contacts, h'.sessions.trans h.sessions,
    h'.reach.trans h.reach⟩

theorem takeReply_unmoved (n : Network) : n.takeReply.2.events = n.events ∧ Unmoved n n.takeReply.2 := by
  unfold takeReply
  split <;> exact ⟨rfl, rfl, rfl, rfl, rfl⟩

/-- A request is written down, and reaches the server unless the connection has been lost. -/
theorem send_recorded (session : Nat) (request : Request) (n : Network) :
    (send session request n).2.events = n.events ++ [.requested session request (session ∉ n.lost)] ∧
      Unmoved n (send session request n).2 := by
  by_cases h : session ∈ n.lost
  · simp only [send, h, if_true, not_true, decide_false]
    exact ⟨rfl, rfl, rfl, rfl, rfl⟩
  · obtain ⟨hevents, hunmoved⟩ := takeReply_unmoved (n.record (.requested session request true))
    simp only [send, h, if_false, not_false_eq_true, decide_true]
    split
    · exact ⟨hevents, hunmoved.settings, hunmoved.contacts, hunmoved.sessions, hunmoved.reach⟩
    · exact ⟨hevents, hunmoved.settings, hunmoved.contacts, hunmoved.sessions, hunmoved.reach⟩

/-- The answer changes nothing any more. -/
theorem perform_network (session : Nat) (request : Request) (n : Network) :
    (perform session request n).2 = (send session request n).2 := by
  unfold perform
  split <;> rename_i heq <;> rw [heq]

theorem perform_recorded {request : Request} {outcome : Except Fault Unit}
    (h : perform session request n = (outcome, n')) :
    n'.events = n.events ++ [.requested session request (session ∉ n.lost)] ∧ Unmoved n n' := by
  have hrecorded := send_recorded session request n
  rw [← perform_network, h] at hrecorded
  exact hrecorded

/-- The end of a session is written down, whether it reaches the server or not. -/
theorem unbind_recorded (session : Nat) (n : Network) :
    (unbind session n).2.events = n.events ++ [.requested session .unbind (session ∉ n.lost)] ∧
      Unmoved n (unbind session n).2 := by
  by_cases h : session ∈ n.lost
  · simp only [unbind, h, if_true, not_true, decide_false]
    exact ⟨rfl, rfl, rfl, rfl, rfl⟩
  · simp only [unbind, h, if_false, not_false_eq_true, decide_true]
    exact ⟨rfl, rfl, rfl, rfl, rfl⟩

theorem Talks.recorded (h : Talks P session n events n') :
    n'.events = n.events ++ events ∧ Unmoved n n' := by
  induction h with
  | nil => exact ⟨(List.append_nil _).symm, .refl _⟩
  | @sent request n n' events _ _ ih =>
    obtain ⟨hevents, hunmoved⟩ := send_recorded session request n
    refine ⟨?_, hunmoved.trans ih.2⟩
    rw [ih.1, hevents, List.append_assoc]
    rfl

/-! ### Single requests -/

/-- Requests that satisfy `P` are made on the session and lead from `n` to `n'`. -/
def Speaks (P : Request → Prop) (session : Nat) (n n' : Network) : Prop :=
  ∃ events, Talks P session n events n'

theorem Speaks.refl (n : Network) : Speaks P session n n := ⟨[], .nil⟩

theorem Speaks.trans (h : Speaks P session n n') (h' : Speaks P session n' n'') :
    Speaks P session n n'' := by
  obtain ⟨events, h⟩ := h
  obtain ⟨events', h'⟩ := h'
  exact ⟨_, h.append h'⟩

theorem Speaks.mono (h : Speaks P session n n') (hPQ : ∀ request, P request → Q request) :
    Speaks Q session n n' := by
  obtain ⟨events, h⟩ := h
  exact ⟨events, h.mono hPQ⟩

theorem Speaks.unmoved (h : Speaks P session n n') : Unmoved n n' := by
  obtain ⟨_, h⟩ := h
  exact h.recorded.2

theorem speaks_send_one {request : Request} (h : P request) (session : Nat) (n : Network) :
    Speaks P session n (send session request n).2 := ⟨_, .sent h .nil⟩

/-! ### Searches -/

/-- The message is about the entry of the full name `text`. -/
def Names (text : String) (request : Request) : Prop := request.subject? = some text

/-- The results are those of a search on the session that starts at the name `text`. -/
structure Searching (session : Nat) (text : String) (r : Results) : Prop where
  /-- The search was sent on the session. -/
  session_eq : r.session = session
  /-- It starts at the name. -/
  base_eq : r.message.base = text

variable {text : String} {r r' : Results}

theorem Searching.readResult (h : Searching session text r) : Searching session text r.readResult := by
  unfold Wire.Results.readResult
  split
  · exact ⟨h.session_eq, h.base_eq⟩
  · exact h
  · exact h

/-- The search for the next page starts at the same name. -/
theorem Searching.nextPage (h : Searching session text r) {message : SearchMessage}
    (hnext : r.nextPage? = some message) : message.base = text := by
  unfold Results.nextPage? at hnext
  repeat' split at hnext
  all_goals cases hnext
  exact h.base_eq

theorem speaks_sendSearch {message : SearchMessage} (hbase : message.base = text) (session : Nat)
    (last? : Option (Except Fault Unit)) (n : Network) :
    Speaks (Names text) session n (sendSearch session message last? n).2 ∧
      ∀ page, (sendSearch session message last? n).1 = .ok page → Searching session text page := by
  have hnames : Names text (.search message) := congrArg some hbase
  refine ⟨speaks_send_one hnames session n, fun page hpage => ?_⟩
  rcases hsend : send session (.search message) n with ⟨fault | reply, n'⟩
  · rw [sendSearch, hsend] at hpage
    cases hpage
  · rw [sendSearch, hsend] at hpage
    cases hpage
    cases reply <;> exact ⟨rfl, hbase⟩

theorem speaks_toEntries (h : Searching session text r) (n : Network) :
    Speaks (Names text) session n (toEntries r n).2.2 ∧ Searching session text (toEntries r n).2.1 := by
  fun_induction toEntries r n with
  | case1 r n => exact ⟨.refl n, h⟩
  | case2 r n _ message hnext fault n' hsend =>
    obtain ⟨hspeaks, -⟩ := speaks_sendSearch (h.nextPage hnext) r.session r.readResult.last? n
    rw [hsend, h.session_eq] at hspeaks
    exact ⟨hspeaks, h.readResult⟩
  | case3 r n _ message hnext page n' hsend ih =>
    obtain ⟨hspeaks, hpage⟩ := speaks_sendSearch (h.nextPage hnext) r.session r.readResult.last? n
    rw [hsend] at hspeaks hpage
    rw [h.session_eq] at hspeaks hpage
    obtain ⟨hrest, hof⟩ := ih (hpage page rfl)
    exact ⟨hspeaks.trans hrest, hof⟩
  | case4 r n => exact ⟨.refl n, h⟩

/-- To read on is to speak, whatever is read. -/
theorem speaks_next (h : Searching session text r) {outcome : Except Fault (Option FoundEntry)}
    (hnext : DirectoryServer.next (r, n) = (outcome, r', n')) :
    Speaks (Names text) session n n' ∧ Searching session text r' := by
  obtain ⟨hspeaks, hof⟩ := speaks_toEntries h n
  change Network.next (r, n) = _ at hnext
  unfold Network.next at hnext
  split at hnext
  · cases hnext
    exact ⟨.refl n, h⟩
  · rcases hentries : toEntries r n with ⟨fault | _, page, n''⟩ <;> rw [hentries] at hnext hspeaks hof
    · cases hnext
      exact ⟨hspeaks, hof⟩
    · dsimp only at hnext
      repeat' split at hnext
      all_goals cases hnext
      · exact ⟨hspeaks, hof.session_eq, hof.base_eq⟩
      · exact ⟨hspeaks, hof⟩
      · exact ⟨hspeaks, hof⟩
      · exact ⟨hspeaks, hof.readResult.session_eq, hof.readResult.base_eq⟩

variable {τ α β : Type}

/-- Whoever reads the results, and however far. -/
theorem speaks_walk (visit : FoundEntry → Step τ α) (limit? : Option Nat) (r : Results)
    (h : Searching session text r) (w : World Network τ) :
    Speaks (Names text) session w.server (walk visit limit? r w).world.server := by
  fun_induction walk visit limit? r w with
  | case1 => exact .refl _
  | case2 _ r _ _ fault rest n' hnext => exact (speaks_next h hnext).1
  | case3 _ r _ _ rest n' hnext => exact (speaks_next h hnext).1
  | case4 _ r _ _ e rest n' hnext => exact (speaks_next h hnext).1
  | case5 _ r _ _ e rest n' hnext value t _ onward ih =>
    obtain ⟨hspeaks, hof⟩ := speaks_next h hnext
    exact hspeaks.trans (ih hof)

/-- A search speaks about the entry where it starts, on whatever page. -/
theorem speaks_searchEach (session : Nat) (request : SearchRequest) (visit : FoundEntry → Step τ α)
    (w : World Network τ) :
    Speaks (Names (fullText w.server.settings.base request.base)) session w.server
      (@searchEach Network τ α _ session request visit w).2.server := by
  have hserver : DirectoryServer.search session request w.server =
      search session request w.server := rfl
  rw [searchEach, hserver, search]
  by_cases hfilter : Filter.isWellFormed request.filter = true
  · obtain ⟨hspeaks, hof⟩ := @speaks_sendSearch (fullText w.server.settings.base request.base)
      (searchToSend w.server.settings.base w.server.settings.pageSize? request) rfl session none w.server
    rw [if_pos hfilter]
    rcases hsend : sendSearch session _ none w.server with ⟨fault | r, n'⟩ <;> rw [hsend] at hspeaks hof
    · exact hspeaks
    · exact hspeaks.trans (speaks_walk visit none r (hof r rfl) { w with server := n' })
  · rw [if_neg hfilter]
    exact .refl w.server

theorem speaks_searchAll (session : Nat) (request : SearchRequest) (n : Network) :
    Speaks (Names (fullText n.settings.base request.base)) session n
      (@searchAll Network _ session request n).2 :=
  speaks_searchEach session request keepEntry ⟨n, ()⟩

/-! ### All requests -/

/-- A request that is answered by a result alone. -/
theorem speaks_perform {request : Request} (h : request.subject? = some text) (session : Nat) (n : Network) :
    Speaks (Names text) session n (perform session request n).2 := by
  rw [perform_network]
  exact speaks_send_one h session n

theorem speaks_add (session : Nat) (name : DistinguishedName) (attributes : Attributes) (n : Network) :
    Speaks (Names (fullText n.settings.base name)) session n (add session name attributes n).2 := by
  unfold add
  dsimp only
  split
  · exact .refl n
  · exact speaks_perform rfl session n

theorem speaks_delete (session : Nat) (name : DistinguishedName) (n : Network) :
    Speaks (Names (fullText n.settings.base name)) session n (delete session name n).2 :=
  speaks_perform rfl session n

/-- A replacement speaks about its entry twice, unless the deletion failed. -/
theorem speaks_replace (session : Nat) (name : DistinguishedName) (attributes : Attributes) (n : Network) :
    Speaks (Names (fullText n.settings.base name)) session n
      (@replace Network _ session name attributes n).2 := by
  have hserver : DirectoryServer.delete session name n = delete session name n := rfl
  have hfirst := speaks_delete session name n
  have hsecond := speaks_add session name attributes (delete session name n).2
  -- the deletion does not change the base, so that both messages carry the same name
  rw [hfirst.unmoved.settings] at hsecond
  rw [replace, hserver]
  rcases hdelete : delete session name n with ⟨fault | _, n'⟩ <;> rw [hdelete] at hfirst hsecond
  · dsimp only
    split
    · exact hfirst.trans hsecond
    · exact hfirst
  · exact hfirst.trans hsecond

theorem speaks_readEntry (session : Nat) (name : DistinguishedName) (attributes : List String)
    (n : Network) :
    Speaks (Names (fullText n.settings.base name)) session n
      (@readEntry Network _ session name attributes n).2 := by
  have hsearch := speaks_searchAll session (.entry name attributes) n
  rw [readEntry]
  rcases hread : @searchAll Network _ session (.entry name attributes) n with ⟨fault | _ | ⟨e, rest⟩, n'⟩ <;>
    rw [hread] at hsearch <;> exact hsearch

theorem speaks_modify (session : Nat) (name : DistinguishedName) (changes : List Change) (n : Network) :
    Speaks (Names (fullText n.settings.base name)) session n (modify session name changes n).2 := by
  rw [modify]
  split
  · exact .refl n
  · exact speaks_perform rfl session n

theorem speaks_rename (session : Nat) (old new : DistinguishedName) (n : Network) :
    Speaks (Names (fullText n.settings.base old)) session n (rename session old new n).2 := by
  rw [rename]
  split
  · exact speaks_perform rfl session n
  · exact .refl n

/-- **Every message names the entry that its request is about**, in full. -/
theorem speaks_send (session : Nat) (request : DirectoryAccess.Request β) (n : Network) :
    Speaks (Names (fullText n.settings.base request.subject)) session n
      (@Request.send Network β _ session request n).2 := by
  cases request with
  | lookup name attributes => exact speaks_readEntry session name attributes n
  | list name => exact speaks_searchAll session (.children name noAttributes) n
  | listEntries name =>
    exact speaks_searchAll session { SearchRequest.children name allAttributes with wholeEntries := true } n
  | add name attributes => exact speaks_add session name attributes n
  | delete name => exact speaks_delete session name n
  | replace name attributes => exact speaks_replace session name attributes n
  | rename old new => exact speaks_rename session old new n
  | modify name changes => exact speaks_modify session name changes n

end Network

end Wire

end DirectoryAccess
