import DirectoryAccess.Proofs.DistinguishedName.RoundTrip
import DirectoryAccess.Settings.Reading
import DirectoryAccess.Settings.Writing

/-!
# Settings that are written and read again

Whatever value settings were read from, with fields left out, with fields that are not known, with the
base in any spelling or nanoseconds beyond a second, they are written in one form, and from that form the
same settings are read (`ofJsonWith?_toJson`). Only the letter case of attribute types in the base is lost,
so that the base is an equal name and the form is written again as it was.
-/

namespace DirectoryAccess

/-- A value that has been read is written in a form from which it is read again. -/
def Rereads {α : Type} (read : JsonValue → Option α) (write : α → JsonValue) : Prop :=
  ∀ (v : JsonValue) (a : α), read v = some a → read (write a) = some a

variable {α : Type} {read : JsonValue → Option α} {write : α → JsonValue}

/-! ### Values -/

theorem rereads_bool : Rereads JsonValue.bool? JsonValue.bool := fun _ _ _ => rfl

theorem rereads_text : Rereads JsonValue.text? JsonValue.text := fun _ _ _ => rfl

/-- Whole numbers within the bounds are read, and nothing else. -/
theorem int?_eq_some_iff {v : JsonValue} {least greatest n : Int} :
    v.int? least greatest = some n ↔ v = .ofInt n ∧ least ≤ n ∧ n ≤ greatest := by
  unfold JsonValue.int?
  split
  · next m => grind [JsonValue.ofInt]
  · next hv =>
    refine iff_of_false nofun ?_
    rintro ⟨rfl, -⟩
    exact hv n rfl

theorem rereads_int (least greatest : Int) : Rereads (·.int? least greatest) JsonValue.ofInt := by
  intro v n h
  exact int?_eq_some_iff.2 ⟨rfl, (int?_eq_some_iff.1 h).2⟩

theorem nat?_ofInt {n greatest : Nat} (h : n ≤ greatest) :
    (JsonValue.ofInt n).nat? greatest = some n := by
  have hread : (JsonValue.ofInt n).int? 0 (Int.ofNat greatest) = some (n : Int) :=
    int?_eq_some_iff.2 ⟨rfl, by omega, by simpa using h⟩
  rw [JsonValue.nat?, hread]
  rfl

theorem rereads_nat (greatest : Nat) :
    Rereads (·.nat? greatest) (fun n : Nat => JsonValue.ofInt n) := by
  intro v n h
  obtain ⟨m, hm, rfl⟩ := Option.map_eq_some_iff.1 h
  have hbounds := (int?_eq_some_iff.1 hm).2
  exact nat?_ofInt (Int.toNat_le.2 hbounds.2)

theorem Rereads.list (h : Rereads read write) :
    Rereads (·.list? read) (fun l => JsonValue.list (l.map write)) := by
  intro v l hl
  cases v with
  | list items =>
    simp only [JsonValue.list?] at hl ⊢
    induction items generalizing l with
    | nil =>
      cases hl
      rfl
    | cons item items ih =>
      simp only [List.mapM_cons, Option.bind_eq_bind, Option.bind_eq_some_iff, Option.pure_def,
        Option.some.injEq] at hl
      obtain ⟨a, ha, rest, hrest, rfl⟩ := hl
      simp [h item a ha, ih rest hrest]
  | _ => cases hl

/-- Texts that are read by a function are written as texts that it reads in the same way. -/
theorem rereads_url {readUrl : String → Option Url}
    (hurls : ∀ text url, readUrl text = some url → readUrl url.text = some url) :
    Rereads (Url.ofJsonWith? readUrl) (fun url => .text url.text) := by
  intro v url h
  obtain ⟨text, -, htext⟩ := Option.bind_eq_some_iff.1 h
  exact hurls text url htext

/-- A name is read from its canonical text, with its attribute types in lower case. -/
theorem ofJson?_canonical (n : DistinguishedName) :
    DistinguishedName.ofJson? (.text (toString n)) = some n.inLowerCase := by
  simp [DistinguishedName.ofJson?, JsonValue.text?, DistinguishedName.parse_toString, Except.toOption]

/-! ### Fields -/

section

variable {r written : JsonRecord} {name : String} {a absent : α} {o : Option α}

/-- A field that was read from one record is read again from a record in which it is written. -/
theorem Rereads.required (h : Rereads read write) (hr : r.required name read = some a)
    (hwritten : written.lookup name = some (write a)) : written.required name read = some a := by
  obtain ⟨v, -, hv⟩ := Option.bind_eq_some_iff.1 hr
  simp [JsonRecord.required, hwritten, h v a hv]

/-- The same of a field that may be left out, if the value that it then has is read again. -/
theorem Rereads.defaulted (h : Rereads read write) (habsent : read (write absent) = some absent)
    (hr : r.defaulted name absent read = some a) (hwritten : written.lookup name = some (write a)) :
    written.defaulted name absent read = some a := by
  have ha : read (write a) = some a := by
    unfold JsonRecord.defaulted at hr
    split at hr
    · cases hr
      exact habsent
    · exact h _ _ hr
  simp [JsonRecord.defaulted, hwritten, ha]

/-- The same of a field whose value may be absent. -/
theorem Rereads.optional (h : Rereads read write) (hnull : ∀ a, write a ≠ .null)
    (hr : r.optional name read = some o)
    (hwritten : written.lookup name = some (.ofOption write o)) :
    written.optional name read = some o := by
  unfold JsonRecord.optional
  rw [hwritten]
  cases o with
  | none => rfl
  | some a =>
    have ha : read (write a) = some a := by
      unfold JsonRecord.optional at hr
      split at hr
      · cases hr
      · cases hr
      · obtain ⟨b, hb, heq⟩ := Option.map_eq_some_iff.1 hr
        cases heq
        exact h _ _ hb
    split
    · next heq => cases heq
    · next heq => exact absurd (Option.some.inj heq) (hnull a)
    · next heq =>
      cases heq
      exact congrArg (Option.map some) ha

end

/-! ### Durations -/

namespace Duration

theorem make?_eq_some_iff {seconds nanos : Nat} {d : Duration} :
    make? seconds nanos = some d ↔ seconds + nanos / nanosPerSecond < secondsEnd ∧
      d = ⟨seconds + nanos / nanosPerSecond, nanos % nanosPerSecond⟩ := by
  simp only [make?]
  split <;> simp_all [eq_comm]

/-- A duration that was made is made of its own parts again: nothing is left to be carried. -/
theorem make?_self {seconds nanos : Nat} {d : Duration} (h : make? seconds nanos = some d) :
    d.seconds < secondsEnd ∧ d.nanos < nanosPerSecond ∧ make? d.seconds d.nanos = some d := by
  obtain ⟨hfits, rfl⟩ := make?_eq_some_iff.1 h
  have hrest : nanos % nanosPerSecond < nanosPerSecond := Nat.mod_lt _ (by decide)
  refine ⟨hfits, hrest, make?_eq_some_iff.2 ?_⟩
  simp only [Nat.div_eq_of_lt hrest, Nat.mod_eq_of_lt hrest]
  exact ⟨hfits, rfl⟩

end Duration

theorem rereads_duration : Rereads Duration.ofJson? Duration.toJson := by
  intro v d h
  have hmade : ∃ seconds nanos, Duration.make? seconds nanos = some d := by
    simp only [Duration.ofJson?, Option.bind_eq_bind, Option.bind_eq_some_iff] at h
    obtain ⟨r, -, h⟩ := h
    split at h
    · simp only [Option.bind_eq_some_iff] at h
      obtain ⟨seconds, -, nanos, -, h⟩ := h
      exact ⟨seconds, nanos, h⟩
    · cases h
  obtain ⟨seconds, nanos, hmade⟩ := hmade
  obtain ⟨hseconds, hnanos, hself⟩ := Duration.make?_self hmade
  have hs : (JsonValue.ofInt d.seconds).nat? greatest64 = some d.seconds :=
    nat?_ofInt (Nat.le_pred_of_lt hseconds)
  -- less than a second of them is left, which fits into the narrower number
  have hn : (JsonValue.ofInt d.nanos).nat? greatest32 = some d.nanos := by
    refine nat?_ofInt ?_
    simp only [Duration.nanosPerSecond, greatest32] at *
    omega
  simp [Duration.ofJson?, Duration.toJson, JsonValue.record?, JsonRecord.isUnambiguous,
    JsonRecord.required, List.lookup, hs, hn, hself]

/-! ### Records -/

theorem rereads_encryption : Rereads EncryptionSettings.ofJson? EncryptionSettings.toJson := by
  intro v e h
  simp only [EncryptionSettings.ofJson?, Option.bind_eq_bind, Option.bind_eq_some_iff,
    Option.pure_def, Option.some.injEq] at h
  obtain ⟨r, -, start, hstart, skip, hskip, root, hroot, key, hkey, chain, hchain, rfl⟩ := h
  set e : EncryptionSettings := ⟨start, skip, root, key, chain⟩
  have hrecord : e.toJson.record? EncryptionSettings.fieldNames 5 = some e.fields := rfl
  have hstart := rereads_bool.defaulted rfl hstart (show e.fields.lookup "starttls" = _ from rfl)
  have hskip := rereads_bool.defaulted rfl hskip (show e.fields.lookup "no_tls_verify" = _ from rfl)
  have hroot := rereads_text.optional nofun hroot
    (show e.fields.lookup "root_certificates_path" = _ from rfl)
  have hkey := rereads_text.optional nofun hkey (show e.fields.lookup "client_key_path" = _ from rfl)
  have hchain := rereads_text.optional nofun hchain
    (show e.fields.lookup "client_certificate_path" = _ from rfl)
  simp only [EncryptionSettings.ofJson?, hrecord, hstart, hskip, hroot, hkey, hchain,
    Option.bind_eq_bind, Option.bind_some]
  rfl

theorem rereads_connection : Rereads ConnectionSettings.ofJson? ConnectionSettings.toJson := by
  intro v c h
  simp only [ConnectionSettings.ofJson?, Option.bind_eq_bind, Option.bind_eq_some_iff,
    Option.pure_def, Option.some.injEq] at h
  obtain ⟨r, -, timeout, htimeout, operation, hoperation, encryption, hencryption, rfl⟩ := h
  set c : ConnectionSettings := ⟨timeout, operation, encryption⟩
  have hrecord : c.toJson.record? ConnectionSettings.fieldNames 2 = some c.fields := rfl
  have htimeout := (rereads_nat greatest64).required htimeout
    (show c.fields.lookup "timeout" = _ from rfl)
  have hoperation := rereads_duration.required hoperation
    (show c.fields.lookup "operation_timeout" = _ from rfl)
  have hencryption := rereads_encryption.defaulted rfl hencryption
    (show c.fields.lookup "tls" = _ from rfl)
  simp only [ConnectionSettings.ofJson?, hrecord, htimeout, hoperation, hencryption,
    Option.bind_eq_bind, Option.bind_some]
  rfl

/-! ### Settings -/

/-- Addresses keep their texts. -/
theorem Url.text_of_parse? {text : String} {url : Url} (h : Url.parse? text = some url) :
    url.text = text := by
  unfold Url.parse? at h
  dsimp only at h
  repeat' split at h
  all_goals grind [Option.map_eq_some_iff]

namespace Settings

/-- **Settings that are written are read again.** From whatever value they were read, the value that they
are written as is read as settings that are equal in every field, the bases as names, and those are
written as the same value. Of the addresses this needs that the texts of those that were taken apart are
taken apart into the same addresses. -/
theorem ofJsonWith?_toJson {readUrl : String → Option Url}
    (hurls : ∀ text url, readUrl text = some url → readUrl url.text = some url)
    {v : JsonValue} {s : Settings} (h : ofJsonWith? readUrl v = some s) :
    ∃ t, ofJsonWith? readUrl s.toJson = some t ∧ t = { s with base := t.base } ∧
      (t.base == s.base) = true ∧ t.toJson = s.toJson := by
  simp only [ofJsonWith?, Option.bind_eq_bind, Option.bind_eq_some_iff, Option.pure_def,
    Option.some.injEq] at h
  obtain ⟨r, -, urls, hurl, base, -, principal, hprincipal, password, hpassword, anonymous, hanonymous,
    ignore, hignore, size, hsize, connection, hconnection, rfl⟩ := h
  set s : Settings := ⟨urls, base, principal, password, anonymous, ignore, size, connection⟩
  have hrecord : s.toJson.record? fieldNames 1 = some s.fields := rfl
  -- every field but the base is read again as it is
  have hurl := (rereads_url hurls).list.required hurl (show s.fields.lookup "urls" = _ from rfl)
  have hbase : s.fields.defaulted "base" .root DistinguishedName.ofJson? = some base.inLowerCase :=
    ofJson?_canonical base
  have hprincipal := rereads_text.defaulted rfl hprincipal
    (show s.fields.lookup "user_dn" = _ from rfl)
  have hpassword := rereads_text.defaulted rfl hpassword
    (show s.fields.lookup "password" = _ from rfl)
  have hanonymous := rereads_bool.defaulted rfl hanonymous
    (show s.fields.lookup "anonymous_read_only" = _ from rfl)
  have hignore := rereads_bool.defaulted rfl hignore
    (show s.fields.lookup "ignore_partial_result" = _ from rfl)
  have hsize := (rereads_int _ _).optional nofun hsize (show s.fields.lookup "page_size" = _ from rfl)
  have hconnection := rereads_connection.defaulted rfl hconnection
    (show s.fields.lookup "connection" = _ from rfl)
  refine ⟨{ s with base := base.inLowerCase }, ?_, rfl, ?_, ?_⟩
  · simp only [ofJsonWith?, hrecord, hurl, hbase, hprincipal, hpassword, hanonymous, hignore, hsize,
      hconnection, Option.bind_eq_bind, Option.bind_some]
    rfl
  · exact (DistinguishedName.beq_iff_toString_eq _ _).2 (DistinguishedName.toString_inLowerCase base)
  · simp only [toJson, fields, DistinguishedName.toString_inLowerCase]
    rfl

/-- A value with most fields left out, one that is not known, a base with capital letters, quotes and
spaces, and two and a half seconds as nanoseconds. -/
def spareValue : JsonValue :=
  .object [("urls", .list [.text "ldap://one", .text "ldaps://two:1636"]), ("remark", .bool true),
    ("base", .text "L=\"a, b\" ; DC = Org"), ("page_size", .null),
    ("connection", .object [("timeout", .number 5 0),
      ("operation_timeout", .object [("nanos", .number 2500000000 0), ("secs", .number 1 0)])])]

/-- What is read from it. -/
def spareSettings : Settings where
  urls := [⟨"ldap://one", "ldap", some "one", none⟩, ⟨"ldaps://two:1636", "ldaps", some "two", some 1636⟩]
  base := ⟨[⟨⟨"L", "a, b", by decide +kernel⟩, []⟩, ⟨⟨"DC", "Org", by decide +kernel⟩, []⟩]⟩
  connection := { timeout := 5, operationTimeout := ⟨3, 500000000⟩ }

/-- It is written in full, and read again. -/
theorem ofJsonWith?_toJson_spare :
    (∀ text url, Url.parse? text = some url → Url.parse? url.text = some url) ∧
    ofJsonWith? Url.parse? spareValue = some spareSettings ∧
    ∃ t, ofJsonWith? Url.parse? spareSettings.toJson = some t ∧
      t = { spareSettings with base := t.base } ∧ (t.base == spareSettings.base) = true ∧
      t.toJson = spareSettings.toJson := by
  have hurls : ∀ text url, Url.parse? text = some url → Url.parse? url.text = some url := by
    intro text url h
    rw [Url.text_of_parse? h, h]
  have hread : ofJsonWith? Url.parse? spareValue = some spareSettings := by decide +kernel
  exact ⟨hurls, hread, ofJsonWith?_toJson hurls hread⟩

end Settings

end DirectoryAccess
