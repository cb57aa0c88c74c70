import DirectoryAccess.Entry.FirstValue
import DirectoryAccess.Proofs.Entry.Attributes
import DirectoryAccess.Proofs.Time.Calendar

/-!
# Points in time and their texts

A point in time is written as the fields of its date and time of day, each in digits of a fixed number, and a
text is read by cutting it into these fields. Digits of a fixed number are read as the number that they are
the digits of, and of no other (`readDigits?_eq_some_iff`), so that the fields are found again
(`parseUnsigned?_eq_some_iff`). With the two calculations of the calendar, which are inverse to each other,
this makes reading and writing inverse as well, up to a sign that says nothing
(`Attributes.firstInstant?_round_trip`).
-/

namespace DirectoryAccess

/-! ### Digits of a fixed number -/

@[simp] theorem length_paddedDigits (width n : Nat) : (paddedDigits width n).length = width := by
  induction width generalizing n with
  | zero => rfl
  | succ width ih => simp [paddedDigits, ih]

theorem isDigit_iff {c : Char} : c.isDigit = true ↔ 48 ≤ c.toNat ∧ c.toNat ≤ 57 := by
  simp only [Char.isDigit, Bool.and_eq_true, decide_eq_true_eq, ge_iff_le, UInt32.le_iff_toNat_le]
  exact Iff.rfl

/-- The character of a digit's value is the digit. -/
theorem digitChar_of_isDigit {c : Char} (h : c.isDigit = true) :
    Nat.digitChar (c.toNat - '0'.toNat) = c := by
  obtain ⟨hfrom, hto⟩ := isDigit_iff.1 h
  have hzero : '0'.toNat = 48 := rfl
  apply Char.toNat_inj.mp
  rw [Nat.toNat_digitChar_of_lt_ten (by omega)]
  omega

/-- The value of a digit's character is the digit. -/
theorem isDigit_digitChar {d : Nat} (h : d < 10) :
    (Nat.digitChar d).isDigit = true ∧ (Nat.digitChar d).toNat - '0'.toNat = d := by
  have hzero : '0'.toNat = 48 := rfl
  rw [isDigit_iff, Nat.toNat_digitChar_of_lt_ten h]
  omega

theorem isDigit_of_mem_paddedDigits {width n : Nat} {c : Char} (h : c ∈ paddedDigits width n) :
    c.isDigit = true := by
  induction width generalizing n with
  | zero => cases h
  | succ width ih =>
    obtain h | h := List.mem_append.1 h
    · exact ih h
    · rw [List.mem_singleton.1 h]
      exact (isDigit_digitChar (Nat.mod_lt n (by decide))).1

theorem readDigits?_append (n : Nat) (s t : List Char) :
    readDigits? n (s ++ t) = (readDigits? n s).bind (readDigits? · t) := by
  induction s generalizing n with
  | nil => rfl
  | cons c s ih =>
    rw [List.cons_append, readDigits?, readDigits?]
    split
    · exact ih _
    · rfl

/-- The digits of a number are read as the number, as far as they reach. -/
theorem readDigits?_paddedDigits (width n : Nat) :
    readDigits? 0 (paddedDigits width n) = some (n % 10 ^ width) := by
  induction width generalizing n with
  | zero => simp [paddedDigits, readDigits?, Nat.mod_one]
  | succ width ih =>
    obtain ⟨hdigit, hvalue⟩ := isDigit_digitChar (Nat.mod_lt n (by decide : 0 < 10))
    rw [paddedDigits, readDigits?_append, ih]
    simp only [Option.bind_some, readDigits?, hdigit, if_true, hvalue, Option.some.injEq]
    rw [Nat.pow_succ', Nat.mod_mul, Nat.add_comm]

/-- What is read as a number are its digits. -/
theorem eq_paddedDigits_of_readDigits? {s : List Char} {n : Nat} (h : readDigits? 0 s = some n) :
    s = paddedDigits s.length n ∧ n < 10 ^ s.length := by
  -- the last digit is the one that is written last, so that the induction is on the front of the text
  induction s using List.reverseRecOn generalizing n with
  | nil =>
    cases h
    exact ⟨rfl, by decide⟩
  | append_singleton s c ih =>
    rw [readDigits?_append, Option.bind_eq_some_iff] at h
    obtain ⟨m, hm, hc⟩ := h
    obtain ⟨hs, hlt⟩ := ih hm
    simp only [readDigits?] at hc
    split at hc
    · next hdigit =>
      cases hc
      have hvalue := isDigit_iff.1 hdigit
      have hzero : '0'.toNat = 48 := rfl
      have hdiv : (10 * m + (c.toNat - '0'.toNat)) / 10 = m := by omega
      have hmod : (10 * m + (c.toNat - '0'.toNat)) % 10 = c.toNat - '0'.toNat := by omega
      rw [List.length_append, List.length_singleton, paddedDigits, hdiv, hmod, digitChar_of_isDigit hdigit,
        ← hs, Nat.pow_succ]
      exact ⟨rfl, by omega⟩
    · cases hc

namespace DateTime

variable {t : DateTime} {s : List Char} {negative : Bool} {year : Nat}

/-! ### Fields -/

/-- The text of a date and time after the sign of its year. -/
def fields (year : Nat) (t : DateTime) : List Char :=
  paddedDigits 4 year ++ paddedDigits 2 t.month ++ paddedDigits 2 t.day ++ paddedDigits 2 t.hour ++
    paddedDigits 2 t.minute ++ paddedDigits 2 t.second ++ ['Z']

theorem render_eq (t : DateTime) :
    t.render = (if t.year < 0 then ['-'] else []) ++ fields t.year.natAbs t := by
  simp [render, fields]

theorem take_fields (year : Nat) (t : DateTime) : (fields year t).take 4 = paddedDigits 4 year := by
  simp [fields]

/-- The year 0 is told by its digits. -/
theorem take_fields_eq_zeros_iff (hyear : year < 10000) (t : DateTime) :
    (fields year t).take 4 = ['0', '0', '0', '0'] ↔ year = 0 := by
  rw [take_fields]
  constructor
  · intro h
    have hread := readDigits?_paddedDigits 4 year
    have hzero : readDigits? 0 ['0', '0', '0', '0'] = some 0 := rfl
    rw [h, hzero, Option.some.injEq] at hread
    omega
  · rintro rfl
    rfl

/-- A text without a sign begins with a digit. -/
theorem exists_fields_eq_cons (year : Nat) (t : DateTime) :
    ∃ c rest, fields year t = c :: rest ∧ c.isDigit = true := by
  obtain ⟨c, rest, hfields⟩ : ∃ c rest, fields year t = c :: rest :=
    List.exists_cons_of_ne_nil (by simp [fields])
  have htake := take_fields year t
  rw [hfields, List.take_succ_cons] at htake
  exact ⟨c, rest, hfields, isDigit_of_mem_paddedDigits (htake ▸ List.mem_cons_self)⟩

/-- The fields of a date in the calendar have two digits at most. -/
theorem lt_of_isValid (h : t.isValid = true) :
    t.month < 100 ∧ t.day < 100 ∧ t.hour < 100 ∧ t.minute < 100 ∧ t.second < 100 := by
  obtain ⟨⟨-, hmonth⟩, ⟨-, hday⟩, hhour, hminute, hsecond⟩ := isValid_iff.1 h
  have hdays : daysInMonth t.year t.month ≤ 31 := by
    unfold daysInMonth
    split
    · split <;> decide
    all_goals decide
  omega

theorem parseUnsigned?_fields (hyear : year < 10000)
    (hsign : t.year = if negative then -(year : Int) else year) (h : t.isValid = true) :
    parseUnsigned? negative (fields year t) = some t := by
  obtain ⟨hmonth, hday, hhour, hminute, hsecond⟩ := lt_of_isValid h
  have hfields : { t with year := if negative then -(year : Int) else year } = t := by rw [← hsign]
  simp [parseUnsigned?, fields, List.drop_append, List.drop_of_length_le, readDigits?_paddedDigits,
    Nat.mod_eq_of_lt, *]

theorem eq_fields_of_parseUnsigned? (h : parseUnsigned? negative s = some t) :
    ∃ year < 10000, s = fields year t ∧ t.year = (if negative then -(year : Int) else year) ∧
      t.isValid = true := by
  simp only [parseUnsigned?, Option.bind_eq_bind, Option.bind_eq_some_iff,
    Option.ite_none_right_eq_some] at h
  obtain ⟨year, hyear, month, hmonth, day, hday, hour, hhour, minute, hminute, second, hsecond,
    ⟨hend, hvalid⟩, h⟩ := h
  have hlength : s.length = 15 := by
    have hl := congrArg List.length hend
    simp only [List.length_drop, List.length_singleton] at hl
    omega
  have hfield : ∀ (skipped : Nat) {width n : Nat}, skipped + width ≤ 15 →
      readDigits? 0 ((s.drop skipped).take width) = some n →
        s.drop skipped = paddedDigits width n ++ s.drop (skipped + width) ∧ n < 10 ^ width := by
    intro skipped width n hle hread
    obtain ⟨hdigits, hn⟩ := eq_paddedDigits_of_readDigits? hread
    have hlen : ((s.drop skipped).take width).length = width := by
      simp only [List.length_take, List.length_drop]
      omega
    rw [hlen] at hdigits hn
    rw [← hdigits, ← List.drop_drop, List.take_append_drop]
    exact ⟨rfl, hn⟩
  obtain ⟨hyear, hlt⟩ := hfield 0 (by decide) hyear
  have hmonth := (hfield 4 (by decide) hmonth).1
  have hday := (hfield 6 (by decide) hday).1
  have hhour := (hfield 8 (by decide) hhour).1
  have hminute := (hfield 10 (by decide) hminute).1
  have hsecond := (hfield 12 (by decide) hsecond).1
  cases h
  refine ⟨year, hlt, ?_, rfl, hvalid⟩
  rw [List.drop_zero] at hyear
  simp only [Nat.zero_add, Nat.reduceAdd] at hyear hmonth hday hhour hminute hsecond
  rw [hyear, hmonth, hday, hhour, hminute, hsecond, hend]
  simp [fields]

/-- **What is read after a sign** are the fields of a date in the calendar, with the year of that sign. -/
theorem parseUnsigned?_eq_some_iff :
    parseUnsigned? negative s = some t ↔
      ∃ year < 10000, s = fields year t ∧ t.year = (if negative then -(year : Int) else year) ∧
        t.isValid = true := by
  refine ⟨eq_fields_of_parseUnsigned?, ?_⟩
  rintro ⟨year, hyear, rfl, hsign, hvalid⟩
  exact parseUnsigned?_fields hyear hsign hvalid

/-! ### Signs -/

/-- The text without its sign, if that says nothing: a plus sign, or the minus sign of the year 0. -/
def withoutIdleSign : List Char → List Char
  | '+' :: s => s
  | '-' :: s => if s.take 4 = ['0', '0', '0', '0'] then s else '-' :: s
  | s => s

theorem parse?_fields (year : Nat) (t : DateTime) :
    parse? (fields year t) = parseUnsigned? false (fields year t) := by
  obtain ⟨c, rest, hfields, hdigit⟩ := exists_fields_eq_cons year t
  rw [hfields]
  unfold parse?
  split
  · next heq => cases heq; cases hdigit
  · next heq => cases heq; cases hdigit
  · rfl

/-- A date in the calendar is read back from its text. -/
theorem parse?_render (h : t.isValid = true) (hyear : t.year.natAbs ≤ 9999) :
    parse? t.render = some t := by
  have hlt : t.year.natAbs < 10000 := by omega
  rw [render_eq]
  by_cases hneg : t.year < 0
  · rw [if_pos hneg]
    refine parseUnsigned?_eq_some_iff.2 ⟨_, hlt, rfl, ?_, h⟩
    rw [if_pos rfl]
    omega
  · rw [if_neg hneg, List.nil_append, parse?_fields]
    refine parseUnsigned?_eq_some_iff.2 ⟨_, hlt, rfl, ?_, h⟩
    rw [if_neg (by decide)]
    omega

/-- What was read after a sign is written with a minus sign if it was read so, but for the year 0. -/
theorem render_of_parseUnsigned? (h : parseUnsigned? negative s = some t) :
    t.isValid = true ∧ t.year.natAbs ≤ 9999 ∧
      t.render = if negative = true ∧ s.take 4 ≠ ['0', '0', '0', '0'] then '-' :: s else s := by
  obtain ⟨year, hlt, rfl, hsign, hvalid⟩ := parseUnsigned?_eq_some_iff.1 h
  have habs : t.year.natAbs = year := by split at hsign <;> omega
  have hneg : t.year < 0 ↔ negative = true ∧ year ≠ 0 := by cases negative <;> simp at hsign ⊢ <;> omega
  refine ⟨hvalid, by omega, ?_⟩
  simp only [render_eq, habs, hneg, ne_eq, take_fields_eq_zeros_iff hlt]
  split <;> rfl

/-- What was read is a date in the calendar, and is written as the same text but for an idle sign. -/
theorem render_of_parse? (h : parse? s = some t) :
    t.isValid = true ∧ t.year.natAbs ≤ 9999 ∧ t.render = withoutIdleSign s := by
  unfold parse? at h
  split at h
  · obtain ⟨hvalid, hyear, hrender⟩ := render_of_parseUnsigned? h
    refine ⟨hvalid, hyear, ?_⟩
    rw [hrender, withoutIdleSign]
    simp
  · obtain ⟨hvalid, hyear, hrender⟩ := render_of_parseUnsigned? h
    refine ⟨hvalid, hyear, ?_⟩
    rw [hrender, withoutIdleSign, if_neg (by simp)]
  · next hminus hplus =>
    obtain ⟨hvalid, hyear, hrender⟩ := render_of_parseUnsigned? h
    refine ⟨hvalid, hyear, ?_⟩
    rw [hrender, if_neg (by simp)]
    unfold withoutIdleSign
    split
    · next heq => exact absurd rfl (hplus _)
    · next heq => exact absurd rfl (hminus _)
    · rfl

end DateTime

/-! ### Points in time -/

namespace Instant

variable {t t' : Instant} {s s' : String}

/-- The text without a sign that says nothing. -/
def withoutIdleSign (s : String) : String := String.ofList (DateTime.withoutIdleSign s.toList)

/-- A point in time is read back from its text. -/
theorem parse?_of_render? (h : t.render? = some s) : parse? s = some t := by
  simp only [render?, Option.ite_none_right_eq_some, Option.some.injEq] at h
  obtain ⟨hyear, rfl⟩ := h
  rw [parse?, String.toList_ofList, DateTime.parse?_render t.isValid_toDateTime hyear, Option.map_some,
    t.toInstant_toDateTime]

/-- What was read of a text is written as that text, but for an idle sign. -/
theorem render?_of_parse? (h : parse? s = some t) : t.render? = some (withoutIdleSign s) := by
  obtain ⟨written, hread, rfl⟩ := Option.map_eq_some_iff.1 h
  obtain ⟨hvalid, hyear, hrender⟩ := DateTime.render_of_parse? hread
  rw [render?, DateTime.toDateTime_toInstant hvalid, if_pos hyear, hrender]
  rfl

/-- Texts that are read stand for the same point in time only if they are the same but for idle signs. -/
theorem eq_iff_of_parse? (h : parse? s = some t) (h' : parse? s' = some t') :
    t = t' ↔ withoutIdleSign s = withoutIdleSign s' := by
  have hrender := render?_of_parse? h
  have hrender' := render?_of_parse? h'
  constructor
  · rintro rfl
    exact Option.some.inj (hrender.symm.trans hrender')
  · intro heq
    rw [heq] at hrender
    exact Option.some.inj ((parse?_of_render? hrender).symm.trans (parse?_of_render? hrender'))

end Instant

/-! ### Attributes -/

namespace Attributes

/-- An attribute is read as the point in time that its first value is read as. -/
theorem firstInstant?_eq_ok_iff {a : Attributes} {n text : String} {t : Instant}
    (h : a.first? n = some text) : a.firstInstant? n = some (.ok t) ↔ Instant.parse? text = some t := by
  rw [firstInstant?, h, Option.map_some]
  cases Instant.parse? text <;> simp

/-- **Points in time are read back from their texts, and texts are written again.** The date and time of a
point in time are in the calendar and stand for it. If its year has at most four digits it has a text, and an
attribute with this text as its first value is read as the point in time. Conversely, what is read of any
attribute is written as the text of its first value, without a sign that says nothing; so two texts stand for
the same point in time exactly if they differ in such signs at most. -/
theorem firstInstant?_round_trip :
    (∀ t : Instant, t.toDateTime.isValid = true ∧ t.toDateTime.toInstant = t) ∧
    (∀ t : Instant, -9999 ≤ t.toDateTime.year → t.toDateTime.year ≤ 9999 →
      ∃ text, t.render? = some text ∧
        ∀ a n, first? a n = some text → firstInstant? a n = some (.ok t)) ∧
    (∀ a n text t, first? a n = some text → firstInstant? a n = some (.ok t) →
      t.render? = some (Instant.withoutIdleSign text)) ∧
    ∀ a n text t a' n' text' t', first? a n = some text → firstInstant? a n = some (.ok t) →
      first? a' n' = some text' → firstInstant? a' n' = some (.ok t') →
        (t = t' ↔ Instant.withoutIdleSign text = Instant.withoutIdleSign text') := by
  refine ⟨fun t => ⟨t.isValid_toDateTime, t.toInstant_toDateTime⟩, ?_, ?_, ?_⟩
  · intro t hfrom hto
    have hrender : t.render? = some (String.ofList t.toDateTime.render) := if_pos (by omega)
    refine ⟨_, hrender, fun a n htext => ?_⟩
    exact (firstInstant?_eq_ok_iff htext).2 (Instant.parse?_of_render? hrender)
  · intro a n text t htext hread
    exact Instant.render?_of_parse? ((firstInstant?_eq_ok_iff htext).1 hread)
  · intro a n text t a' n' text' t' htext hread htext' hread'
    have hparse := (firstInstant?_eq_ok_iff htext).1 hread
    have hparse' := (firstInstant?_eq_ok_iff htext').1 hread'
    exact Instant.eq_iff_of_parse? hparse hparse'

/-- The end of the leap day of the year -4. -/
def leapDay : Instant := ⟨-62288265601⟩

/-- An entry that was changed at the time of this text, and once more later. -/
def changedAt (text : String) : Attributes := empty.setText "modifyTimestamp" [text, "20240229000000Z"]

theorem first?_changedAt (text : String) : (changedAt text).first? "MODIFYTIMESTAMP" = some text := by
  have hname : foldName "MODIFYTIMESTAMP" = foldName "modifyTimestamp" :=
    foldName_eq_foldName_iff.2 (by decide)
  rw [first?, changedAt, text?_setText, if_pos hname, Option.bind_some, List.head?_cons]

/-- The leap day is read back from its text, and the leap day of the year 0 from three texts. -/
theorem firstInstant?_round_trip_leapDay :
    (-9999 ≤ leapDay.toDateTime.year ∧ leapDay.toDateTime.year ≤ 9999) ∧
    leapDay.render? = some "-00040229235959Z" ∧
    (changedAt "-00040229235959Z").firstInstant? "MODIFYTIMESTAMP" = some (.ok leapDay) ∧
    ∃ t, (changedAt "-00000229235959Z").firstInstant? "MODIFYTIMESTAMP" = some (.ok t) ∧
      (changedAt "+00000229235959Z").firstInstant? "MODIFYTIMESTAMP" = some (.ok t) ∧
      t.render? = some "00000229235959Z" := by
  obtain ⟨-, hwritten, hagain, hsame⟩ := firstInstant?_round_trip
  have hyear : -9999 ≤ leapDay.toDateTime.year ∧ leapDay.toDateTime.year ≤ 9999 := by decide +kernel
  have hrender : leapDay.render? = some "-00040229235959Z" := by decide +kernel
  obtain ⟨text, htext, hread⟩ := hwritten leapDay hyear.1 hyear.2
  obtain rfl : text = "-00040229235959Z" := Option.some.inj (htext.symm.trans hrender)
  refine ⟨hyear, hrender, hread _ _ (first?_changedAt _), ?_⟩
  -- each of the two texts is read as some time, and these times are compared by the texts
  have hsome : ∀ s, (Instant.parse? s).isSome = true →
      ∃ t, (changedAt s).firstInstant? "MODIFYTIMESTAMP" = some (.ok t) := by
    intro s hs
    obtain ⟨t, ht⟩ := Option.isSome_iff_exists.1 hs
    exact ⟨t, (firstInstant?_eq_ok_iff (first?_changedAt s)).2 ht⟩
  obtain ⟨t, ht⟩ := hsome "-00000229235959Z" (by decide +kernel)
  obtain ⟨t', ht'⟩ := hsome "+00000229235959Z" (by decide +kernel)
  have hspelling : Instant.withoutIdleSign "-00000229235959Z" = "00000229235959Z" := by decide +kernel
  have hspelling' : Instant.withoutIdleSign "+00000229235959Z" = "00000229235959Z" := by decide +kernel
  have heq : t = t' := (hsame _ _ _ _ _ _ _ _ (first?_changedAt _) ht (first?_changedAt _) ht').2
    (hspelling.trans hspelling'.symm)
  refine ⟨t, ht, heq ▸ ht', ?_⟩
  rw [hagain _ _ _ _ (first?_changedAt _) ht, hspelling]

end Attributes

end DirectoryAccess
