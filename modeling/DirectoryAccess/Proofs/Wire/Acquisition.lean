import DirectoryAccess.Proofs.Wire.Talk

/-!
# How a session is opened

The addresses of the servers are contacted in their order, up to the first that accepts; none is contacted
after it, also when it refuses the principal. If none accepts, the last failure is what the caller is told,
and nothing has been sent. A session on which the principal is refused is ended (`acquires_connect`).
-/

namespace DirectoryAccess

/-- There is nothing about encryption in the settings: no certificates are read, and no connection is
switched to encryption. -/
structure Settings.IsPlain (s : Settings) : Prop where
  /-- No certificates are named. -/
  noCertificates : s.connection.encryption.rootCertificates? = none
  /-- Connections stay as they are. -/
  noStart : s.connection.encryption.startEncryption = false

namespace Wire.Network

/-! ### Addresses one after the other -/

/-- What comes of contacting an address, given how many attempts there were before. -/
def attempt (n : Network) (attempts : Nat) (url : Url) : Except ProtocolFault Unit :=
  match url.target with
  | .error p => .error p
  | .ok target => n.reach attempts target

/-- The network after these addresses have been contacted. -/
def contacted (n : Network) (urls : List Url) : Network :=
  { n with contacts := n.contacts + urls.length, events := n.events ++ urls.map .contacted }

/-- The network after a session has been opened. -/
def opened (n : Network) : Network := { n.record (.opened n.sessions) with sessions := n.sessions + 1 }

/-- `Refused n urls failure?`: contacted one after the other, none of the addresses accepts, and
`failure?` is why the last one does not, if there is one. -/
inductive Refused (n : Network) : List Url → Option ProtocolFault → Prop where
  /-- There are no addresses. -/
  | none : Refused n [] none
  /-- One more address does not accept. -/
  | next {urls : List Url} {failure? : Option ProtocolFault} {url : Url} {p : ProtocolFault} :
      Refused n urls failure? → n.attempt (n.contacts + urls.length) url = .error p →
      Refused n (urls ++ [url]) (some p)

/-- `Accepted n tried`: these are the addresses of the client up to the first that accepts. -/
inductive Accepted (n : Network) : List Url → Prop where
  /-- The last one accepts, and none before it. -/
  | last {before : List Url} {failure? : Option ProtocolFault} {url : Url} :
      before ++ [url] <+: n.settings.urls → Refused n before failure? →
      n.attempt (n.contacts + before.length) url = .ok () → Accepted n (before ++ [url])

/-- The fault if no address accepts. -/
def unreachable (failure? : Option ProtocolFault) : Fault :=
  (failure?.map Fault.protocol).getD (.invalid "No server URLs configured")

variable {n n' : Network} {access : Access} {outcome : Except Fault Nat} {events : List Event}

theorem contacted_contacted (n : Network) (urls urls' : List Url) :
    (n.contacted urls).contacted urls' = n.contacted (urls ++ urls') := by
  simp [contacted, Nat.add_assoc]

@[simp] theorem contacted_nil (n : Network) : n.contacted [] = n := by
  simp [contacted]

theorem openSession_eq (hplain : n.settings.IsPlain) (target : Url.Target) :
    openSession target n = (.ok n.sessions, n.opened) := by
  have hstart : n.startsEncryption target = false := by
    cases target with
    | host name service encrypted => rw [startsEncryption, hplain.noStart, Bool.false_and]
    | socket path => rfl
  rw [openSession]
  dsimp only
  rw [hstart]
  rfl

/-- When some addresses have been tried, the next one is contacted, and a session is opened if it accepts. -/
theorem contact_eq (hplain : n.settings.IsPlain) (tried : List Url) (url : Url) :
    contact url (n.contacted tried) =
      match n.attempt (n.contacts + tried.length) url with
      | .error p => (.error (.protocol p), n.contacted (tried ++ [url]))
      | .ok () => (.ok n.sessions, (n.contacted (tried ++ [url])).opened) := by
  rw [← contacted_contacted]
  unfold contact attempt
  dsimp only
  cases url.target with
  | error p => rfl
  | ok target =>
    have hreach : (n.contacted tried).reach (n.contacted tried).contacts target =
        n.reach (n.contacts + tried.length) target := rfl
    dsimp only
    rw [hreach]
    cases n.reach (n.contacts + tried.length) target with
    | error p => rfl
    | ok _ => exact @openSession_eq ((n.contacted tried).contacted [url]) hplain target

/-- From there the client goes on with the next ones. -/
theorem contactFirst_cases (hplain : n.settings.IsPlain) (urls : List Url) {tried : List Url}
    {failure? : Option ProtocolFault} (htried : Refused n tried failure?) :
    (∃ last?, Refused n (tried ++ urls) last? ∧
      contactFirst (unreachable failure?) urls (n.contacted tried) =
        (.error (unreachable last?), n.contacted (tried ++ urls))) ∨
    ∃ before url rest last?, tried ++ urls = before ++ url :: rest ∧ Refused n before last? ∧
      n.attempt (n.contacts + before.length) url = .ok () ∧
      contactFirst (unreachable failure?) urls (n.contacted tried) =
        (.ok n.sessions, (n.contacted (before ++ [url])).opened) := by
  -- on the addresses that are left; each one that does not accept joins those that have been tried
  induction urls generalizing tried failure? with
  | nil =>
    rw [List.append_nil]
    exact .inl ⟨failure?, htried, rfl⟩
  | cons url rest ih =>
    rw [contactFirst, contact_eq hplain]
    cases hattempt : n.attempt (n.contacts + tried.length) url with
    | error p =>
      have hnext := ih (htried.next hattempt)
      rw [List.append_assoc, List.singleton_append] at hnext
      exact hnext
    | ok _ => exact .inr ⟨tried, url, rest, failure?, rfl, htried, hattempt, rfl⟩

/-! ### The opening of a session -/

/-- `Acquires access n outcome events n'`: a session is asked for, this comes of it and leads from `n` to
`n'`, and `events` is what is written down. -/
inductive Acquires (access : Access) (n : Network) : Except Fault Nat → List Event → Network → Prop where
  /-- No address accepts, and nothing is sent. -/
  | unreachable {failure? : Option ProtocolFault} : Refused n n.settings.urls failure? →
      Acquires access n (.error (unreachable failure?)) (n.settings.urls.map .contacted)
        (n.contacted n.settings.urls)
  /-- An address accepts, and no principal is to be proved. -/
  | anonymous {tried : List Url} : Accepted n tried → credentials? n.settings access = none →
      Acquires access n (.ok n.sessions) (tried.map .contacted ++ [.opened n.sessions])
        (n.contacted tried).opened
  /-- An address accepts, and the principal is accepted. -/
  | bound {tried : List Url} {principal password : String} {n' : Network} : Accepted n tried →
      credentials? n.settings access = some (principal, password) →
      perform n.sessions (.bind principal password) (n.contacted tried).opened = (.ok (), n') →
      Acquires access n (.ok n.sessions)
        (tried.map .contacted ++ [.opened n.sessions,
          .requested n.sessions (.bind principal password) (n.sessions ∉ n.lost)]) n'
  /-- An address accepts, but the principal is refused, and the session is ended. -/
  | refused {tried : List Url} {principal password : String} {fault : Fault} {n' : Network} :
      Accepted n tried → credentials? n.settings access = some (principal, password) →
      perform n.sessions (.bind principal password) (n.contacted tried).opened = (.error fault, n') →
      Acquires access n (.error fault)
        (tried.map .contacted ++ [.opened n.sessions,
          .requested n.sessions (.bind principal password) (n.sessions ∉ n.lost),
          .requested n.sessions .unbind (n.sessions ∉ n'.lost)]) (unbind n.sessions n').2

/-- What is written down is what happens, and the settings stay. -/
theorem Acquires.recorded (h : Acquires access n outcome events n') :
    n'.events = n.events ++ events ∧ n'.settings = n.settings := by
  cases h with
  | unreachable => exact ⟨rfl, rfl⟩
  | anonymous => exact ⟨List.append_assoc .., rfl⟩
  | bound _ _ hbind =>
    obtain ⟨hevents, hunmoved⟩ := perform_recorded hbind
    refine ⟨?_, hunmoved.settings⟩
    rw [hevents]
    simp [opened, contacted, record]
  | @refused _ _ _ _ n' _ _ hbind =>
    obtain ⟨hevents, hunmoved⟩ := perform_recorded hbind
    obtain ⟨hevents', hunmoved'⟩ := unbind_recorded n.sessions n'
    refine ⟨?_, hunmoved'.settings.trans hunmoved.settings⟩
    rw [hevents', hevents]
    simp [opened, contacted, record]

/-- **Sessions are opened in this way and in no other.** -/
theorem acquires_connect (hplain : n.settings.IsPlain) (access : Access) :
    ∃ events, Acquires access n (connect access n).1 events (connect access n).2 := by
  have hcheck : n.settings.connection.encryption.check n.files = .ok () := by
    rw [EncryptionSettings.check, hplain.noCertificates]
  have hnone : Fault.invalid "No server URLs configured" = unreachable none := rfl
  rw [connect, hcheck]
  dsimp only
  have hcases := contactFirst_cases hplain n.settings.urls .none
  rw [contacted_nil, List.nil_append, ← hnone] at hcases
  obtain ⟨last?, hrefused, hcontact⟩ | ⟨before, url, rest, last?, hurls, hrefused, hattempt, hcontact⟩ :=
    hcases
  · rw [hcontact]
    exact ⟨_, .unreachable hrefused⟩
  · have hprefix : before ++ [url] <+: n.settings.urls := ⟨rest, by rw [hurls]; simp⟩
    have haccepted : Accepted n (before ++ [url]) := .last hprefix hrefused hattempt
    rw [hcontact]
    dsimp only
    have hsettings : (n.contacted (before ++ [url])).opened.settings = n.settings := rfl
    rw [hsettings]
    rcases hcredentials : credentials? n.settings access with _ | ⟨principal, password⟩
    · exact ⟨_, .anonymous haccepted hcredentials⟩
    · dsimp only
      rw [bindSession]
      rcases hbind : perform n.sessions (.bind principal password) (n.contacted (before ++ [url])).opened
        with ⟨fault | _, n'⟩
      · exact ⟨_, .refused haccepted hcredentials hbind⟩
      · exact ⟨_, .bound haccepted hcredentials hbind⟩

end Wire.Network

end DirectoryAccess
