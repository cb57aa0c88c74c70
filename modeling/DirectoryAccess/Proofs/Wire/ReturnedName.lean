import DirectoryAccess.Entry.Context
import DirectoryAccess.Proofs.DistinguishedName.RoundTrip
import DirectoryAccess.Proofs.Wire.Delivery
import DirectoryAccess.Proofs.Wire.Talk

/-!
# Names that go back to the server

A server returns the full name of an entry as a text. The client reads it, takes its base off, keeps what
is left, and later puts the base back and writes the name as a text again. Whatever the values are and in
whatever letters the server spells the base, the text that goes back is the name of the same entry
(`returned_name_goes_back`), in whichever request it stands.
-/

namespace DirectoryAccess.Wire

open DirectoryServer DistinguishedName

/-! ### What is sent -/

/-- The request is about the entry of this full name: the text in it is read as this name. -/
def Request.Addresses (request : Request) (full : DistinguishedName) : Prop :=
  ∃ text name, request.subject? = some text ∧ DistinguishedName.parse text = .ok name ∧ (name == full) = true

namespace Network

variable {P Q : Request → Prop} {n n' n'' : Network} {session : Nat}

/-- Of the requests that are made between `n` and `n'` all satisfy `P`. -/
def Sends (P : Request → Prop) (n n' : Network) : Prop :=
  ∃ events, n'.events = n.events ++ events ∧
    ∀ session request received, .requested session request received ∈ events → P request

theorem Sends.nothing (h : n'.events = n.events) : Sends P n n' :=
  ⟨[], by rw [h, List.append_nil], nofun⟩

theorem Sends.trans (h : Sends P n n') (h' : Sends P n' n'') : Sends P n n'' := by
  obtain ⟨events, hevents, hP⟩ := h
  obtain ⟨events', hevents', hP'⟩ := h'
  refine ⟨events ++ events', by rw [hevents', hevents, List.append_assoc], fun s request received he => ?_⟩
  exact (List.mem_append.1 he).elim (hP s request received) (hP' s request received)

theorem Sends.mono (h : Sends P n n') (hPQ : ∀ request, P request → Q request) : Sends Q n n' := by
  obtain ⟨events, hevents, hP⟩ := h
  exact ⟨events, hevents, fun s request received he => hPQ request (hP s request received he)⟩

theorem sends_of_speaks (h : Speaks P session n n') : Sends P n n' := by
  obtain ⟨events, htalks⟩ := h
  refine ⟨events, htalks.recorded.1, fun s request received he => ?_⟩
  obtain ⟨request', received', heq, hP⟩ := htalks.mem he
  cases heq
  exact hP

/-- Something happens that is no request. -/
theorem sends_record {e : Event} (he : ∀ session request received, e ≠ .requested session request received)
    (h : n'.events = n.events ++ [e]) : Sends P n n' :=
  ⟨[e], h, fun s request received hmem => absurd (List.mem_singleton.1 hmem).symm (he s request received)⟩

theorem sends_perform {request : Request} (h : P request) (session : Nat) (n : Network) :
    Sends P n (perform session request n).2 := by
  rw [perform_network]
  exact sends_of_speaks (speaks_send_one h session n)

/-- What is sent when a session is opened: nothing that is about an entry, but for the principal that the
session is opened for. -/
def Opens (credentials? : Option (String × String)) (request : Request) : Prop :=
  request.subject? = none ∨ ∃ principal password, credentials? = some (principal, password) ∧
    request = .bind principal password

variable {credentials? : Option (String × String)}

theorem sends_openSession (target : Url.Target) (n : Network) :
    Sends (Opens credentials?) n (openSession target n).2 := by
  have hopened : Sends (Opens credentials?) n
      { n.record (.opened n.sessions) with sessions := n.sessions + 1 } :=
    sends_record (e := .opened n.sessions) nofun rfl
  rw [openSession]
  dsimp only
  split
  · refine hopened.trans ?_
    have hstart : Opens credentials? (.extended startEncryption) := .inl rfl
    have hperform := sends_perform hstart n.sessions
      { n.record (.opened n.sessions) with sessions := n.sessions + 1 }
    rw [encrypt]
    split <;> rename_i heq <;> rw [heq] at hperform
    · exact hperform
    · exact hperform.trans (.nothing rfl)
    · exact hperform
  · exact hopened

theorem sends_contact (url : Url) (n : Network) : Sends (Opens credentials?) n (contact url n).2 := by
  have hcontacted : Sends (Opens credentials?) n
      { n.record (.contacted url) with contacts := n.contacts + 1 } :=
    sends_record (e := .contacted url) nofun rfl
  rw [contact]
  dsimp only
  split
  · exact hcontacted
  · split
    · exact hcontacted
    · exact hcontacted.trans (sends_openSession _ _)

theorem sends_contactFirst (failure : Fault) (urls : List Url) (n : Network) :
    Sends (Opens credentials?) n (contactFirst failure urls n).2 := by
  induction urls generalizing failure n with
  | nil => exact .nothing rfl
  | cons url rest ih =>
    have hcontact := @sends_contact credentials? url n
    rw [contactFirst]
    rcases hc : contact url n with ⟨fault | session, n'⟩ <;> rw [hc] at hcontact
    · exact hcontact.trans (ih fault n')
    · exact hcontact

theorem sends_bindSession (session : Nat) (credentials : String × String) (n : Network) :
    Sends (Opens (some credentials)) n (bindSession session credentials n).2 := by
  have hbind : Opens (some credentials) (.bind credentials.1 credentials.2) := .inr ⟨_, _, rfl, rfl⟩
  have hperform := sends_perform hbind session n
  rw [bindSession]
  split <;> rename_i heq <;> rw [heq] at hperform
  · obtain ⟨hevents, -⟩ := unbind_recorded session _
    exact hperform.trans ⟨_, hevents, fun s request received he => by
      cases List.mem_singleton.1 he
      exact .inl rfl⟩
  · exact hperform

/-- **No entry is named as a session is opened**, but for the principal that it is opened for. -/
theorem sends_connect (access : Access) (n : Network) :
    Sends (Opens (Network.credentials? n.settings access)) n (connect access n).2 := by
  have hcontact := @sends_contactFirst (Network.credentials? n.settings access)
    (.invalid "No server URLs configured") n.settings.urls n
  have hsettings := settings_contactFirst (.invalid "No server URLs configured") n.settings.urls n
  unfold connect
  split
  · exact .nothing rfl
  · split <;> rename_i heq <;> rw [heq] at hcontact hsettings
    · exact hcontact
    · dsimp only at hsettings
      rw [hsettings]
      cases hcredentials : Network.credentials? n.settings access with
      | none =>
        rw [hcredentials] at hcontact
        exact hcontact
      | some credentials =>
        rw [hcredentials] at hcontact
        exact hcontact.trans (sends_bindSession _ credentials _)

end Network

/-! ### Names -/

variable {base n r full : DistinguishedName} {text : String}

/-- A name is read back from its text. -/
theorem addresses_of_text {request : Request} (h : request.subject? = some (toString full)) :
    request.Addresses full := by
  refine ⟨_, full.inLowerCase, h, parse_toString full, ?_⟩
  rw [beq_iff_toString_eq, toString_inLowerCase]

/-- The name `n` that a server returned in the form of `text` is `r` to the client, which puts it together
again with the base. -/
structure GoesBack (base n : DistinguishedName) (text : String) (r : DistinguishedName) : Prop where
  /-- What is left is the front of the name, spelled as it was. -/
  front : r.rdns = n.rdns.take (n.length - base.length)
  /-- The entry is received under this name, whatever its attributes are. -/
  received (attributes : List (String × List Value)) :
    receivedEntry base ⟨text, attributes⟩ = .ok ⟨r, receivedAttributes attributes⟩
  /-- Its full name is the name below the base. -/
  fullName (a : Attributes) : (EntryContext.existing r base a).fullName? = some (r.under base)
  /-- Both names are known. -/
  identification (a : Attributes) :
    (EntryContext.existing r base a).identification? = some ⟨r.under base, r⟩
  /-- The full name is the one that the server returned, up to the letter case of values. -/
  matches_returned : (r.under base).matchesName .caseInsensitive n = true
  /-- Whatever is asked for about the entry, later and on whatever session, is sent with its full name. -/
  requests {β : Type} (request : DirectoryAccess.Request β) (hsubject : request.subject = r) (session : Nat)
    (net : Network) (hbase : net.settings.base = base) :
    Network.Sends (Request.Addresses · (r.under base)) net
      (@DirectoryAccess.Request.send Network β _ session request net).2
  /-- So is every search that starts at the entry, on all its pages. -/
  searches {τ α : Type} (request : SearchRequest) (hsubject : request.base = r)
    (visit : FoundEntry → Step τ α) (session : Nat) (w : World Network τ)
    (hbase : w.server.settings.base = base) :
    Network.Sends (Request.Addresses · (r.under base)) w.server
      (@searchEach Network τ α _ session request visit w).2.server
  /-- A session as the entry is opened for its full name, and for no other. -/
  principals (credential : String) (net : Network) :
    Network.Sends (fun request => request.subject? = none ∨ request.Addresses (r.under base)) net
      (connect (.authenticated (r.under base) credential) net).2

/-- The front of a name, put together with what its end matches, matches the name. -/
theorem matchesName_take_under {c : ValueComparison} {depth : Nat}
    (h : matchesName c ⟨n.rdns.drop depth⟩ base = true) :
    matchesName c (under ⟨n.rdns.take depth⟩ base) n = true := by
  have hend : (n.rdns.drop depth).map (RelativeName.fold c) = base.rdns.map (RelativeName.fold c) :=
    beq_iff_eq.1 h
  refine beq_iff_eq.2 ?_
  calc ((n.rdns.take depth) ++ base.rdns).map (RelativeName.fold c)
      = (n.rdns.take depth).map (RelativeName.fold c) ++ (n.rdns.drop depth).map (RelativeName.fold c) := by
        rw [List.map_append, hend]
    _ = n.rdns.map (RelativeName.fold c) := by rw [← List.map_append, List.take_append_drop]

/-- Messages that name an entry by its full text address it. -/
theorem sends_addresses {net net' : Network} {session : Nat}
    (h : Network.Speaks (Network.Names (fullText base r)) session net net') :
    Network.Sends (Request.Addresses · (r.under base)) net net' :=
  Network.sends_of_speaks (h.mono fun _ => addresses_of_text)

/-- **A name that the server returned goes back to it as the name of the same entry**, if it ends in the
base up to the letter case of values. -/
theorem returned_name_goes_back (hread : DistinguishedName.parse text = .ok n)
    (hlength : base.length ≤ n.length)
    (hbase : matchesName .caseInsensitive ⟨n.rdns.drop (n.length - base.length)⟩ base = true) :
    ∃ r, GoesBack base n text r := by
  have hrelative : n.relativeToWith? .caseInsensitive base =
      some ⟨n.rdns.take (n.length - base.length)⟩ := by
    rw [relativeToWith?]
    exact if_pos ⟨hlength, hbase⟩
  refine ⟨⟨n.rdns.take (n.length - base.length)⟩, rfl, fun attributes => ?_, fun _ => rfl, fun _ => rfl,
    matchesName_take_under hbase, fun request hsubject session net hnet => ?_,
    fun request hsubject visit session w hw => ?_, fun credential net => ?_⟩
  -- the attributes play no part in how the name is received
  · have hname : receivedName base text = .ok ⟨n.rdns.take (n.length - base.length)⟩ := by
      rw [receivedName, hread]
      exact congrArg (fun relative? => Except.ok (relative?.getD n)) hrelative
    rw [receivedEntry, hname]
  · have hspeaks := Network.speaks_send session request net
    rw [hsubject, hnet] at hspeaks
    exact sends_addresses hspeaks
  · have hspeaks := Network.speaks_searchEach session request visit w
    rw [hsubject, hw] at hspeaks
    exact sends_addresses hspeaks
  -- the client's own principal is not used for this session
  · refine (Network.sends_connect (.authenticated _ credential) net).mono fun request hopens => ?_
    obtain hnone | ⟨principal, password, hcredentials, rfl⟩ := hopens
    · exact .inl hnone
    · cases hcredentials
      exact .inr (addresses_of_text rfl)

/-- The base of a client. -/
def organisation : DistinguishedName := ⟨[⟨⟨"dc", "Org, Ltd", by decide⟩, []⟩]⟩

/-- The full name of a person of that organisation, as a server spells it. -/
def annReturned : DistinguishedName :=
  ⟨[⟨⟨"CN", "Zoë, B.", by decide⟩, [⟨"sn", "# 1", by decide⟩]⟩, ⟨⟨"dc", "ORG, ltd", by decide⟩, []⟩]⟩

/-- She is known by a relative name of two parts, and goes back under the base in the client's letters. -/
theorem returned_name_goes_back_ann :
    DistinguishedName.parse "CN=Zo\\C3\\AB\\, B.+sn=\\23 1,dc=ORG\\, ltd" = .ok annReturned ∧
    organisation.length ≤ annReturned.length ∧
    matchesName .caseInsensitive
      ⟨annReturned.rdns.drop (annReturned.length - organisation.length)⟩ organisation = true ∧
    annReturned.relativeTo? organisation = none ∧
    ∃ r, GoesBack organisation annReturned "CN=Zo\\C3\\AB\\, B.+sn=\\23 1,dc=ORG\\, ltd" r := by
  have hread : DistinguishedName.parse "CN=Zo\\C3\\AB\\, B.+sn=\\23 1,dc=ORG\\, ltd" = .ok annReturned := by
    decide +kernel
  have hlength : organisation.length ≤ annReturned.length := by decide
  have hbase : matchesName .caseInsensitive
      ⟨annReturned.rdns.drop (annReturned.length - organisation.length)⟩ organisation = true := by
    decide +kernel
  exact ⟨hread, hlength, hbase, by decide +kernel, returned_name_goes_back hread hlength hbase⟩

end DirectoryAccess.Wire
