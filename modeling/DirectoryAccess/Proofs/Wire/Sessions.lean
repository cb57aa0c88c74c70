import DirectoryAccess.Proofs.Operation.Sessions
import DirectoryAccess.Proofs.Wire.Acquisition

/-!
# Sessions on the wire

Whatever the servers answer and however an operation ends, each session that it opens is ended exactly
once, by the last request on it, before the next session is opened; and each session is asked for at the
addresses in their order (`operation_visits`). The caller's own functions may make any requests on the
session that they are given, but must not end it.
-/

namespace DirectoryAccess.Wire

open DirectoryServer

/-- The session that an event is about. -/
def Event.session? : Event → Option Nat
  | .contacted _ => none
  | .opened session | .requested session _ _ => some session

/-- These are requests on the session, none of which ends it. -/
def OnlyOn (session : Nat) (talk : List Event) : Prop :=
  ∀ e ∈ talk, ∃ request received, e = .requested session request received ∧ request ≠ .unbind

/-- Every session that is opened is a new one; requests are then made on it alone, until one of them ends
it, and nothing is done on it after that. -/
def Accounted (events : List Event) : Prop :=
  ∀ before session after, events = before ++ .opened session :: after →
    (∀ e ∈ before, e.session? ≠ some session) ∧
    ∃ talk received rest, after = talk ++ .requested session .unbind received :: rest ∧
      OnlyOn session talk ∧ ∀ e ∈ rest, e.session? ≠ some session

/-! ### Blocks -/

/-- `Blocks first events next`: addresses are contacted, and sessions are opened, numbered from `first` up
to `next`, each of them ended by the last request on it before the next one is opened. -/
inductive Blocks : Nat → List Event → Nat → Prop where
  /-- Nothing happens. -/
  | nil {first : Nat} : Blocks first [] first
  /-- An address is contacted. -/
  | contacted {first next : Nat} {url : Url} {rest : List Event} : Blocks first rest next →
      Blocks first (.contacted url :: rest) next
  /-- A session is opened, requests are made on it, and it is ended. -/
  | session {first next : Nat} {talk rest : List Event} {received : Bool} :
      OnlyOn first talk → Blocks (first + 1) rest next →
      Blocks first (.opened first :: (talk ++ .requested first .unbind received :: rest)) next

variable {first next : Nat} {events rest : List Event}

theorem Blocks.contactedAll (h : Blocks first rest next) (urls : List Url) :
    Blocks first (urls.map .contacted ++ rest) next := by
  induction urls with
  | nil => exact h
  | cons url urls ih => exact .contacted ih

/-- What is written down from the opening of a session on is about it, up to its end. -/
theorem OnlyOn.session?_eq_or {talk : List Event} {received : Bool} (htalk : OnlyOn first talk) {e : Event}
    (he : e ∈ .opened first :: (talk ++ .requested first .unbind received :: rest)) :
    e.session? = some first ∨ e ∈ rest := by
  rw [List.mem_cons, List.mem_append, List.mem_cons] at he
  obtain rfl | he | rfl | he := he
  · exact .inl rfl
  · obtain ⟨request, received, rfl, -⟩ := htalk e he
    exact .inl rfl
  · exact .inl rfl
  · exact .inr he

/-- Nothing is opened before the session has been ended. -/
theorem OnlyOn.opened_after_end {session : Nat} {talk before after : List Event} {received : Bool}
    (htalk : OnlyOn first talk)
    (h : talk ++ .requested first .unbind received :: rest = before ++ .opened session :: after) :
    ∃ before', before = talk ++ .requested first .unbind received :: before' ∧
      rest = before' ++ .opened session :: after := by
  obtain ⟨l, hl, hl'⟩ | ⟨l, hl, hl'⟩ := List.append_eq_append_iff.1 h
  · cases l with
    | nil => cases hl'
    | cons e l =>
      obtain ⟨rfl, hrest⟩ := List.cons.inj hl'
      exact ⟨l, hl, hrest⟩
  · cases l with
    | nil => cases hl'
    | cons e l =>
      obtain ⟨rfl, -⟩ := List.cons.inj hl'
      obtain ⟨request, received, hrequest, -⟩ := htalk (.opened session) (by simp [hl])
      cases hrequest

/-- All sessions are new. -/
theorem Blocks.le (h : Blocks first events next) {e : Event} (he : e ∈ events) {session : Nat}
    (hsession : e.session? = some session) : first ≤ session := by
  induction h with
  | nil => cases he
  | contacted _ ih =>
    obtain rfl | he := List.mem_cons.1 he
    · cases hsession
    · exact ih he
  | session htalk _ ih =>
    obtain hfirst | he := htalk.session?_eq_or he
    · exact Nat.le_of_eq (Option.some.inj (hfirst.symm.trans hsession))
    · exact Nat.le_of_succ_le (ih he)

theorem Blocks.accounted (h : Blocks first events next) : Accounted events := by
  induction h with
  | nil =>
    intro before session after heq
    exact absurd heq.symm (List.append_ne_nil_of_right_ne_nil before (List.cons_ne_nil _ after))
  | contacted _ ih =>
    intro before session after heq
    cases before with
    | nil => cases heq
    | cons e before =>
      obtain ⟨he, hrest⟩ := List.cons.inj heq
      obtain ⟨hbefore, hafter⟩ := ih before session after hrest
      exact ⟨List.forall_mem_cons.2 ⟨he ▸ nofun, hbefore⟩, hafter⟩
  | @session first next talk rest received htalk hrest ih =>
    intro before session after heq
    cases before with
    | nil =>
      obtain ⟨hsession, rfl⟩ := List.cons.inj heq
      cases hsession
      refine ⟨nofun, talk, received, rest, rfl, htalk, fun e he hsession => ?_⟩
      exact absurd (hrest.le he hsession) (Nat.not_succ_le_self first)
    | cons e before =>
      obtain ⟨he, hsplit⟩ := List.cons.inj heq
      -- another session: it is opened in the rest, and so has a greater number
      obtain ⟨before', rfl, rfl⟩ := htalk.opened_after_end hsplit
      obtain ⟨hbefore, hafter⟩ := ih before' session after rfl
      have hlt : first < session := hrest.le (List.mem_append_right before' List.mem_cons_self) rfl
      refine ⟨fun e' he' => ?_, hafter⟩
      rw [← he] at he'
      obtain hfirst | he' := htalk.session?_eq_or he'
      · rw [hfirst, ne_eq, Option.some.injEq]
        exact Nat.ne_of_lt hlt
      · exact hbefore e' he'

/-! ### Visits -/

namespace Network

variable {n n' n'' : Network} {access : Access} {outcome : Except Fault Nat} {events events' : List Event}

/-- A request that does not end the session. -/
def Continues (request : Request) : Prop := request ≠ .unbind

/-- `Visits n events n'`: sessions are asked for one after the other, requests are made on each one that
is opened, and it is ended; this leads from `n` to `n'`, and `events` is what is written down. -/
inductive Visits : Network → List Event → Network → Prop where
  /-- No session is asked for. -/
  | nil {n : Network} : Visits n [] n
  /-- The session cannot be opened. -/
  | failed {access : Access} {fault : Fault} {n n' n'' : Network} {events rest : List Event} :
      connect access n = (.error fault, n') → Acquires access n (.error fault) events n' →
      Visits n' rest n'' → Visits n (events ++ rest) n''
  /-- The session is opened, requests are made on it, and it is ended. -/
  | session {access : Access} {session : Nat} {n n₁ n₂ n' : Network} {events talk rest : List Event} :
      connect access n = (.ok session, n₁) → Acquires access n (.ok session) events n₁ →
      Talks Continues session n₁ talk n₂ → Visits (unbind session n₂).2 rest n' →
      Visits n (events ++ (talk ++ .requested session .unbind (session ∉ n₂.lost) :: rest)) n'

theorem Visits.append (h : Visits n events n') (h' : Visits n' events' n'') :
    Visits n (events ++ events') n'' := by
  induction h with
  | nil => exact h'
  | failed hconnect hacquires _ ih =>
    rw [List.append_assoc]
    exact .failed hconnect hacquires (ih h')
  | session hconnect hacquires htalks _ ih =>
    rw [List.append_assoc, List.append_assoc, List.cons_append]
    exact .session hconnect hacquires htalks (ih h')

theorem Visits.recorded (h : Visits n events n') :
    n'.events = n.events ++ events ∧ n'.settings = n.settings := by
  induction h with
  | nil => exact ⟨(List.append_nil _).symm, rfl⟩
  | failed _ hacquires _ ih =>
    obtain ⟨hevents, hsettings⟩ := hacquires.recorded
    refine ⟨?_, ih.2.trans hsettings⟩
    rw [ih.1, hevents, List.append_assoc]
  | @session _ session _ _ n₂ _ _ _ _ _ hacquires htalks _ ih =>
    obtain ⟨hevents, hsettings⟩ := hacquires.recorded
    obtain ⟨htalk, hunmoved⟩ := htalks.recorded
    obtain ⟨hunbind, hunmoved'⟩ := unbind_recorded session n₂
    refine ⟨?_, ih.2.trans (hunmoved'.settings.trans (hunmoved.settings.trans hsettings))⟩
    rw [ih.1, hunbind, htalk, hevents]
    simp

/-! ### Visits as blocks -/

/-- A session that is opened is a new one, and no request has ended it. -/
theorem Acquires.events_of_ok {session : Nat} (h : Acquires access n (.ok session) events n') :
    session = n.sessions ∧ n'.sessions = n.sessions + 1 ∧
      ∃ (urls : List Url) (talk : List Event),
        events = urls.map .contacted ++ .opened session :: talk ∧ OnlyOn session talk := by
  cases h with
  | @anonymous tried => exact ⟨rfl, rfl, tried, [], rfl, nofun⟩
  | @bound tried _ _ _ _ _ hbind =>
    obtain ⟨-, hunmoved⟩ := perform_recorded hbind
    refine ⟨rfl, hunmoved.sessions, tried, _, rfl, fun e he => ?_⟩
    rw [List.mem_singleton.1 he]
    exact ⟨_, _, rfl, nofun⟩

/-- If a session was opened on the way to a failure, it has been ended. -/
theorem Acquires.blocks_of_error {fault : Fault} (h : Acquires access n (.error fault) events n')
    {rest : List Event} {next : Nat} (hrest : Blocks n'.sessions rest next) :
    Blocks n.sessions (events ++ rest) next := by
  cases h with
  | unreachable => exact hrest.contactedAll n.settings.urls
  | @refused tried _ _ _ n' _ _ hbind =>
    obtain ⟨-, hunmoved⟩ := perform_recorded hbind
    have hsessions : (unbind n.sessions n').2.sessions = n.sessions + 1 :=
      (unbind_recorded n.sessions n').2.sessions.trans hunmoved.sessions
    rw [hsessions] at hrest
    rw [List.append_assoc]
    refine .contactedAll (@Blocks.session _ _ [_] _ _ (fun e he => ?_) hrest) tried
    rw [List.mem_singleton.1 he]
    exact ⟨_, _, rfl, nofun⟩

theorem Visits.blocks (h : Visits n events n') : Blocks n.sessions events n'.sessions := by
  induction h with
  | nil => exact .nil
  | failed _ hacquires _ ih => exact hacquires.blocks_of_error ih
  | @session _ session n n₁ n₂ _ _ talk rest _ hacquires htalks _ ih =>
    obtain ⟨rfl, hsessions, urls, bind, rfl, hbind⟩ := hacquires.events_of_ok
    have hnext : (unbind n.sessions n₂).2.sessions = n.sessions + 1 :=
      (unbind_recorded n.sessions n₂).2.sessions.trans (htalks.recorded.2.sessions.trans hsessions)
    rw [hnext] at ih
    -- the proof of the principal's identity and the caller's requests together are the talk
    have hall : OnlyOn n.sessions (bind ++ talk) := by
      intro e he
      obtain he | he := List.mem_append.1 he
      · exact hbind e he
      · exact htalks.mem he
    rw [List.append_assoc, List.cons_append, ← List.append_assoc bind]
    exact (Blocks.session hall ih).contactedAll urls

/-! ### Operations -/

variable {τ α : Type}

theorem continues_of_names {text : String} {request : Request} (h : Names text request) :
    Continues request := by
  rintro rfl
  cases h

/-- A session that is opened and then ended is a visit, whatever requests are made on it. -/
theorem sessionwise : @Sessionwise Network _ (fun session n n' => Speaks Continues session n n')
    (fun n n' => n.settings.IsPlain → ∃ events, Visits n events n') where
  idle _ n := .refl n
  onward h h' := h.trans h'
  search session request visit w :=
    (speaks_searchEach session request visit w).mono fun _ => continues_of_names
  send session request n := (speaks_send session request n).mono fun _ => continues_of_names
  nothing _ _ := ⟨[], .nil⟩
  trans h h' hplain := by
    obtain ⟨events, hvisits⟩ := h hplain
    obtain ⟨events', hvisits'⟩ := h' (hvisits.recorded.2 ▸ hplain)
    exact ⟨events ++ events', hvisits.append hvisits'⟩
  failed {access fault n n'} hconnect hplain := by
    have hacquires := acquires_connect hplain access
    rw [show Network.connect access n = (.error fault, n') from hconnect] at hacquires
    obtain ⟨events, hacquires⟩ := hacquires
    exact ⟨_, .failed hconnect hacquires .nil⟩
  visited {access session n n' n''} hconnect htalks hplain := by
    have hacquires := acquires_connect hplain access
    rw [show Network.connect access n = (.ok session, n') from hconnect] at hacquires
    obtain ⟨events, hacquires⟩ := hacquires
    obtain ⟨talk, htalks⟩ := htalks
    exact ⟨_, .session hconnect hacquires htalks .nil⟩

/-- **What every operation does on the wire.** -/
theorem operation_visits (ignorePartial : Bool) (op : Operation Network τ α) (w : World Network τ)
    (hplain : w.server.settings.IsPlain) (hop : op.Within fun session n n' => Speaks Continues session n n') :
    ∃ events, Visits w.server events (op.run ignorePartial w).2.server ∧
      (op.run ignorePartial w).2.server.events = w.server.events ++ events ∧ Accounted events := by
  obtain ⟨events, hvisits⟩ := sessionwise.run ignorePartial op hop w hplain
  exact ⟨events, hvisits, hvisits.recorded.1, hvisits.blocks.accounted⟩

/-- Two servers, of which the first does not accept connections. The second one accepts the client's own
principal, finds an entry, and refuses that entry as a principal. -/
def branches : Network where
  settings :=
    { urls := [⟨"ldap://north", "ldap", some "north", none⟩, ⟨"ldap://south", "ldap", some "south", none⟩]
      principal := "cn=admin", password := "secret" }
  reach := reachAmong [("south", 389)]
  script := [.answer {}, .answer { entries := [⟨"cn=Ann", []⟩] },
    .answer { code := ResultCode.invalidCredentials }]

/-- A caller who lists the children of the entry that proved its identity. -/
def login : Operation Network Unit Bool :=
  .authenticate (.text "") (.raw "(cn=Ann)") "guess" fun c entry w =>
    (Conversation.ask (.list entry.relative) fun answer =>
      .finish (answer.map fun _ => ()) w.caller).run c.session w.server

/-- Two sessions are opened with the second server, and both are accounted for. -/
theorem operation_visits_login :
    branches.settings.IsPlain ∧
    login.Within (fun session n n' => Speaks Continues session n n') ∧
    (login.run false ⟨branches, ()⟩).1.toOption = some false ∧
    (login.run false ⟨branches, ()⟩).2.server.sessions = 2 ∧
    ∃ events, Visits branches events (login.run false ⟨branches, ()⟩).2.server ∧
      (login.run false ⟨branches, ()⟩).2.server.events = branches.events ++ events ∧ Accounted events := by
  have hplain : branches.settings.IsPlain := ⟨rfl, rfl⟩
  have hwithin : login.Within fun session n n' => Speaks Continues session n n' := fun entry =>
    sessionwise.worksWithin_of_converses
      ⟨fun _ t => .ask (.list entry.relative) fun answer => .finish (answer.map fun _ => ()) t,
        fun _ _ => rfl⟩
  exact ⟨hplain, hwithin, by decide +kernel, by decide +kernel,
    operation_visits false login ⟨branches, ()⟩ hplain hwithin⟩

end Network

end DirectoryAccess.Wire
