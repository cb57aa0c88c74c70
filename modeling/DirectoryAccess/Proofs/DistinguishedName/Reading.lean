import DirectoryAccess.Proofs.DistinguishedName.Spelling
import Mathlib.Data.List.TakeWhile

/-!
# Reading the spellings of a name

Every spelling of a name is read as that name (`parseChars_of_spelling`). The reader goes over a text
several times, and each pass has its lemmas here: `cut` carries the text of a part over without a cut
(`Carried`), `unpad` takes the spaces around a value and no other (`Snug.unpad`), and `unescape` finds
the characters in their forms (`Spelled.unescape`).
-/

namespace DirectoryAccess.DistinguishedName

/-! ### Carrying a text over -/

/-- Puts characters in front of the first piece. -/
def pushAll (s : List Char) (n : RawName) : RawName :=
  { n with first := { n.first with first := s ++ n.first.first } }

/-- `Carried q q' s`: the text `s` is carried over without a cut. The quote is open before it if `q` is
set, and after it if `q'` is set; no escape is open on either side. -/
def Carried (q q' : Bool) (s : List Char) : Prop :=
  ∀ text rest, RawName.cut text false q (s ++ rest) =
    (RawName.cut text false q' rest).map (pushAll s)

theorem Carried.nil (q : Bool) : Carried q q [] := by
  intro text rest
  rw [List.nil_append]
  cases RawName.cut text false q rest <;> rfl

theorem Carried.append {q₁ q₂ q₃ : Bool} {s t : List Char} (hs : Carried q₁ q₂ s)
    (ht : Carried q₂ q₃ t) : Carried q₁ q₃ (s ++ t) := by
  intro text rest
  rw [List.append_assoc, hs text (t ++ rest), ht text rest]
  cases RawName.cut text false q₃ rest with
  | error e => rfl
  | ok n => simp [Except.map, pushAll]

/-- A character that stands for itself is carried over. -/
theorem Carried.literal {q : Bool} {c : Char} (h : standsForItself q c = true) : Carried q q [c] := by
  intro text rest
  have hb : c ≠ '\\' := by rintro rfl; cases q <;> simp [standsForItself] at h
  have hq : c ≠ '"' := by rintro rfl; cases q <;> simp [standsForItself] at h
  have hs : ¬(c = '+' ∧ q = false) := by rintro ⟨rfl, rfl⟩; simp [standsForItself] at h
  have hr : ¬((c = ',' ∨ c = ';') ∧ q = false) := by
    rintro ⟨rfl | rfl, rfl⟩ <;> simp [standsForItself] at h
  rw [List.singleton_append, RawName.cut, if_neg (by simp), if_neg hb, if_neg hq, if_neg hs, if_neg hr]
  rfl

/-- A character after a backslash is carried over, whatever it is. -/
theorem Carried.escaped (q : Bool) (c : Char) : Carried q q ['\\', c] := by
  intro text rest
  simp only [List.cons_append, List.nil_append, RawName.cut, Bool.false_eq_true, if_false, if_true]
  cases RawName.cut text false q rest <;> rfl

/-- A quote mark opens or closes the quote. -/
theorem Carried.quote (q : Bool) : Carried q (!q) ['"'] := by
  intro text rest
  rw [List.singleton_append, RawName.cut, if_neg (by simp), if_neg (by decide), if_pos rfl]
  rfl

/-- Characters that stand for themselves are carried over. -/
theorem Carried.literals {q : Bool} {s : List Char} (h : ∀ c ∈ s, standsForItself q c = true) :
    Carried q q s := by
  induction s with
  | nil => exact Carried.nil q
  | cons c s ih =>
    have hc := Carried.literal (h c List.mem_cons_self)
    exact hc.append (ih fun d hd => h d (List.mem_cons_of_mem c hd))

/-- A hexadecimal digit stands for itself everywhere. -/
theorem standsForItself_of_hexDigit {q : Bool} {c : Char} {n : Nat} (h : Text.hexDigit? c = some n) :
    standsForItself q c = true := by
  have hn : ∀ d ∈ [',', ';', '+', '"', '\\'], Text.hexDigit? d = none := by
    simp [Text.hexDigit?]
  have hc : c ∉ [',', ';', '+', '"', '\\'] := fun hm => by simp [hn c hm] at h
  simp only [List.mem_cons, List.not_mem_nil, or_false, not_or] at hc
  cases q <;> simp [standsForItself, hc]

/-- Both digits of a byte are hexadecimal digits. -/
theorem hexDigits_of_hexByte {hi lo : Char} {b : UInt8} (h : Text.hexByte? hi lo = some b) :
    (∃ m, Text.hexDigit? hi = some m) ∧ ∃ n, Text.hexDigit? lo = some n := by
  simp only [Text.hexByte?, Option.bind_eq_bind, Option.bind_eq_some_iff] at h
  obtain ⟨m, hm, n, hn, -⟩ := h
  exact ⟨⟨m, hm⟩, n, hn⟩

theorem ByteEscapes.carried {bytes : List UInt8} {s : List Char} (h : ByteEscapes bytes s) (q : Bool) :
    Carried q q s := by
  induction h with
  | nil => exact Carried.nil q
  | cons hb _ ih =>
    obtain ⟨-, n, hn⟩ := hexDigits_of_hexByte hb
    exact (Carried.escaped q _).append ((Carried.literal (standsForItself_of_hexDigit hn)).append ih)

theorem CharSpelling.carried {q : Bool} {c : Char} {s : List Char} (h : CharSpelling q c s) :
    Carried q q s := by
  cases h with
  | literal hc => exact Carried.literal hc
  | escaped _ => exact Carried.escaped q c
  | bytes hb => exact hb.carried q

theorem Spelled.carried {q : Bool} {pieces : Pieces} (h : Spelled q pieces) :
    Carried q q (textOf pieces) := by
  induction pieces with
  | nil => exact Carried.nil q
  | cons p pieces ih =>
    obtain ⟨hp, hrest⟩ := spelled_cons.1 h
    exact hp.carried.append (ih hrest)

/-- Between its quotes or without them, a value is carried over. -/
theorem ValueSpelling.carried {v s : List Char} (h : ValueSpelling v s) : Carried false false s := by
  cases h with
  | plain hp => exact hp.carried
  | quoted hp =>
    exact (Carried.quote false).append (hp.carried.append (Carried.quote true))

/-! ### Spaces around a value -/

theorem endsEscaping_concat (s : List Char) (c : Char) :
    endsEscaping (s ++ [c]) = (c == '\\' && !endsEscaping s) := by
  by_cases h : c = '\\'
  · subst h
    simp only [endsEscaping, List.reverse_append, List.reverse_singleton, List.singleton_append,
      List.takeWhile_cons, beq_self_eq_true, if_true, List.length_cons, Bool.true_and]
    have hm := Nat.mod_two_eq_zero_or_one (s.reverse.takeWhile (· == '\\')).length
    rcases hm with hm | hm <;> simp [Nat.add_mod, hm]
  · simp [endsEscaping, h]

/-- Escaped bytes leave no escape open. -/
theorem ByteEscapes.endsEscaping_append {bytes : List UInt8} {s : List Char} (h : ByteEscapes bytes s) :
    ∀ t, endsEscaping t = false → endsEscaping (t ++ s) = false := by
  induction h with
  | nil => intro t ht; rwa [List.append_nil]
  | @cons hi lo b bytes s hb _ ih =>
    intro t _
    obtain ⟨-, n, hn⟩ := hexDigits_of_hexByte hb
    have hlo : lo ≠ '\\' := by rintro rfl; simp [Text.hexDigit?] at hn
    have hstart : endsEscaping (t ++ ['\\', hi] ++ [lo]) = false := by
      rw [endsEscaping_concat]; simp [hlo]
    have hend := ih _ hstart
    rwa [List.append_assoc, List.append_assoc] at hend

/-- The form of a character leaves no escape open. -/
theorem CharSpelling.endsEscaping_append {q : Bool} {c : Char} {s t : List Char}
    (h : CharSpelling q c s) (ht : endsEscaping t = false) : endsEscaping (t ++ s) = false := by
  cases h with
  | literal hc =>
    have hb : c ≠ '\\' := by rintro rfl; cases q <;> simp [standsForItself] at hc
    rw [endsEscaping_concat]
    simp [hb]
  | escaped _ =>
    have hs : t ++ ['\\', c] = (t ++ ['\\']) ++ [c] := by simp
    rw [hs, endsEscaping_concat, endsEscaping_concat, ht]
    simp
  | bytes hb => exact hb.endsEscaping_append t ht

theorem Spelled.endsEscaping_append {q : Bool} {pieces : Pieces} (h : Spelled q pieces) :
    ∀ t, endsEscaping t = false → endsEscaping (t ++ textOf pieces) = false := by
  induction pieces with
  | nil => intro t ht; simpa [textOf] using ht
  | cons p pieces ih =>
    intro t ht
    obtain ⟨hp, hrest⟩ := spelled_cons.1 h
    simpa [textOf, List.append_assoc] using ih hrest _ (hp.endsEscaping_append ht)

/-- The text of a value leaves no escape open. -/
theorem Spelled.endsEscaping_eq_false {q : Bool} {pieces : Pieces} (h : Spelled q pieces) :
    endsEscaping (textOf pieces) = false := by
  simpa using h.endsEscaping_append [] rfl

/-- What `unpad` needs to know of a text to give it back: it does not begin with a space, leaves no
escape open, and a space at its end is escaped. -/
structure Snug (s : List Char) : Prop where
  /-- It does not begin with a space. -/
  head : s.head? ≠ some ' '
  /-- It leaves no escape open. -/
  closed : endsEscaping s = false
  /-- It does not end with a space, or else with an escaped one. -/
  last : s.getLast? ≠ some ' ' ∨ ∃ t, s = t ++ ['\\', ' '] ∧ endsEscaping t = false

theorem dropWhile_spaces (m : Nat) (s : List Char) :
    (List.replicate m ' ' ++ s).dropWhile (· == ' ') = s.dropWhile (· == ' ') :=
  List.dropWhile_append_of_pos fun c hc => by simp [List.eq_of_mem_replicate hc]

theorem dropEndWhile_spaces {s : List Char} (n : Nat) (h : s.getLast? ≠ some ' ') :
    Text.dropEndWhile (· == ' ') (s ++ List.replicate n ' ') = s := by
  rw [Text.dropEndWhile, List.reverse_append, List.reverse_replicate, dropWhile_spaces]
  rw [← List.head?_reverse] at h
  cases hs : s.reverse with
  | nil => simpa using hs.symm
  | cons c t =>
    rw [hs, List.head?_cons, ne_eq, Option.some.injEq] at h
    rw [List.dropWhile_cons_of_neg (by simpa using h), ← hs, List.reverse_reverse]

/-- The spaces around a value are stripped, and nothing else. -/
theorem Snug.unpad {s : List Char} (h : Snug s) (m n : Nat) :
    unpad (List.replicate m ' ' ++ s ++ List.replicate n ' ') = s := by
  have hfront : (List.replicate m ' ' ++ s ++ List.replicate n ' ').dropWhile (· == ' ') =
      if s = [] then [] else s ++ List.replicate n ' ' := by
    rw [List.append_assoc, dropWhile_spaces]
    cases s with
    | nil => simp
    | cons c t =>
      have hc : c ≠ ' ' := by simpa using h.head
      rw [List.cons_append, List.dropWhile_cons_of_neg (by simpa using hc), if_neg (by simp)]
  rw [DirectoryAccess.unpad, hfront]
  by_cases hs : s = []
  · subst hs; rfl
  rw [if_neg hs]
  rcases h.last with hl | ⟨t, rfl, ht⟩
  · simp [dropEndWhile_spaces n hl, h.closed]
  · -- the last space is stripped with the others, and put back for the backslash before it
    have hsplit : t ++ ['\\', ' '] ++ List.replicate n ' ' =
        (t ++ ['\\']) ++ List.replicate (n + 1) ' ' := by simp [List.replicate_succ]
    have hstrip := dropEndWhile_spaces (s := t ++ ['\\']) (n + 1) (by simp)
    have hescape : endsEscaping (t ++ ['\\']) = true := by simp [endsEscaping_concat, ht]
    simp only [hsplit, hstrip, hescape]
    simp

theorem ByteEscapes.head? {bytes : List UInt8} {s : List Char} (h : ByteEscapes bytes s)
    (hb : bytes ≠ []) : s.head? = some '\\' := by
  cases h with
  | nil => exact absurd rfl hb
  | cons => rfl

theorem utf8EncodeChar_ne_nil (c : Char) : String.utf8EncodeChar c ≠ [] := by
  intro h
  have hl := String.length_utf8EncodeChar c
  rw [h] at hl
  exact absurd c.utf8Size_pos (by simp [← hl])

/-- The form of a character is the character itself or begins with a backslash. -/
theorem CharSpelling.head? {q : Bool} {c : Char} {s : List Char} (h : CharSpelling q c s) :
    s = [c] ∧ standsForItself q c = true ∨ s.head? = some '\\' := by
  cases h with
  | literal hc => exact .inl ⟨rfl, hc⟩
  | escaped _ => exact .inr rfl
  | bytes hb => exact .inr (hb.head? (utf8EncodeChar_ne_nil c))

theorem CharSpelling.ne_nil {q : Bool} {c : Char} {s : List Char} (h : CharSpelling q c s) :
    s ≠ [] := by
  rcases h.head? with ⟨rfl, -⟩ | hs
  · simp
  · rintro rfl; cases hs

theorem ByteEscapes.getLast? {bytes : List UInt8} {s : List Char} (h : ByteEscapes bytes s) :
    s.getLast? ≠ some ' ' := by
  induction h with
  | nil => simp
  | @cons hi lo b bytes s hb _ ih =>
    obtain ⟨-, n, hn⟩ := hexDigits_of_hexByte hb
    have hlo : lo ≠ ' ' := by rintro rfl; simp [Text.hexDigit?] at hn
    cases s with
    | nil => simp [hlo]
    | cons d t => simpa [List.getLast?_cons_cons] using ih

/-- The form of a character ends with a space only where it is a space, literal or escaped. -/
theorem CharSpelling.getLast? {q : Bool} {c : Char} {s : List Char} (h : CharSpelling q c s) :
    s.getLast? ≠ some ' ' ∨ c = ' ' ∧ (s = [' '] ∨ s = ['\\', ' ']) := by
  cases h with
  | literal _ => by_cases hc : c = ' ' <;> simp [hc]
  | escaped _ => by_cases hc : c = ' ' <;> simp [hc]
  | bytes hb => exact .inl hb.getLast?

/-- A value without quotes is not altered by the spaces around it, and does not begin with a quote. -/
theorem Spelled.snug {pieces : Pieces} (h : Spelled false pieces)
    (hfirst : pieces.head? ≠ some (' ', [' '])) (hlast : pieces.getLast? ≠ some (' ', [' '])) :
    Snug (textOf pieces) ∧ (textOf pieces).head? ≠ some '"' := by
  have hhead : ∀ d, d ≠ '\\' → (d = ' ' ∨ standsForItself false d = false) →
      (textOf pieces).head? ≠ some d := by
    intro d hb hd
    cases pieces with
    | nil => simp [textOf]
    | cons p pieces =>
      obtain ⟨c, s⟩ := p
      have hform : CharSpelling false c s := h (c, s) List.mem_cons_self
      rcases hform.head? with ⟨rfl, hc⟩ | hs
      · simp only [textOf, List.flatMap_cons, List.singleton_append, List.head?_cons, ne_eq,
          Option.some.injEq]
        rintro rfl
        rcases hd with rfl | hd
        · simp at hfirst
        · rw [hd] at hc; cases hc
      · simp [textOf, List.head?_append, hs, hb.symm]
  refine ⟨⟨hhead ' ' (by decide) (.inl rfl), h.endsEscaping_eq_false, ?_⟩,
    hhead '"' (by decide) (.inr rfl)⟩
  rcases List.eq_nil_or_concat pieces with rfl | ⟨front, ⟨c, s⟩, rfl⟩
  · exact .inl (by simp [textOf])
  · have hfront : Spelled false front := fun p hp => h p (by simp [hp])
    have htext : textOf (front ++ [(c, s)]) = textOf front ++ s := by simp [textOf]
    have hc : CharSpelling false c s := h (c, s) (by simp)
    rw [List.concat_eq_append, htext]
    rcases hc.getLast? with hs | ⟨rfl, rfl | rfl⟩
    · left
      rw [List.getLast?_append]
      cases hl : s.getLast? with
      | none => exact absurd (List.getLast?_eq_none_iff.1 hl) hc.ne_nil
      | some d => simpa [hl] using hs
    · simp at hlast
    · exact .inr ⟨textOf front, rfl, hfront.endsEscaping_eq_false⟩

/-! ### Finding the characters -/

theorem spelledBytes_literal {v rest : List Char} {c : Char} (h : c ≠ '\\') :
    spelledBytes v (c :: rest) = (spelledBytes v rest).map (String.utf8EncodeChar c ++ ·) :=
  spelledBytes.eq_5 v c rest (fun hc => absurd hc h) fun _ _ hc => absurd hc h

theorem spelledBytes_escaped {v rest : List Char} {c : Char} (h : isEscapable c = true) :
    spelledBytes v ('\\' :: c :: rest) =
      (spelledBytes v rest).map (String.utf8EncodeChar c ++ ·) := by
  have hn : ∀ d ∈ [' ', '"', '#', '+', ',', ';', '<', '=', '>', '\\'], Text.hexDigit? d = none := by
    simp [Text.hexDigit?]
  have hc : Text.hexDigit? c = none := hn c (List.contains_iff_mem.1 h)
  cases rest with
  | nil => rw [spelledBytes.eq_3, hc, if_neg (by simp), if_pos h]
  | cons d rest => rw [spelledBytes.eq_4, hc, if_neg (by simp), if_pos h]

theorem ByteEscapes.spelledBytes {bytes : List UInt8} {s : List Char} (h : ByteEscapes bytes s)
    (v rest : List Char) :
    spelledBytes v (s ++ rest) = (spelledBytes v rest).map (bytes ++ ·) := by
  induction h with
  | nil => simp only [List.nil_append]; cases DirectoryAccess.spelledBytes v rest <;> rfl
  | @cons hi lo b bytes s hb _ ih =>
    obtain ⟨⟨m, hm⟩, -⟩ := hexDigits_of_hexByte hb
    simp only [List.cons_append]
    rw [DirectoryAccess.spelledBytes, hm]
    simp only [Option.isSome_some, if_true, hb, ih]
    cases DirectoryAccess.spelledBytes v rest <;> rfl

theorem CharSpelling.spelledBytes {q : Bool} {c : Char} {s : List Char} (h : CharSpelling q c s)
    (v rest : List Char) :
    spelledBytes v (s ++ rest) = (spelledBytes v rest).map (String.utf8EncodeChar c ++ ·) := by
  cases h with
  | literal hc =>
    have hb : c ≠ '\\' := by rintro rfl; cases q <;> simp [standsForItself] at hc
    exact spelledBytes_literal hb
  | escaped hc => exact spelledBytes_escaped hc
  | bytes hb => exact hb.spelledBytes v rest

theorem Spelled.spelledBytes {q : Bool} {pieces : Pieces} (h : Spelled q pieces) (v : List Char) :
    spelledBytes v (textOf pieces) = .ok (Text.utf8 (valueOf pieces)) := by
  induction pieces with
  | nil => rfl
  | cons p pieces ih =>
    obtain ⟨hp, hrest⟩ := spelled_cons.1 h
    have hbytes := hp.spelledBytes v (textOf pieces)
    rw [ih hrest] at hbytes
    simpa [textOf, valueOf, Text.utf8, Except.map] using hbytes

/-- The characters of a value are found in their forms. -/
theorem Spelled.unescape {q : Bool} {pieces : Pieces} (h : Spelled q pieces) :
    unescape (textOf pieces) = .ok (valueOf pieces) := by
  simp [DirectoryAccess.unescape, h.spelledBytes, bind, Except.bind]

/-- A spelling of a value, with spaces around it, is read as that value. -/
theorem ValueSpelling.readValue {v s : List Char} (h : ValueSpelling v s) (part : List Char)
    (m n : Nat) :
    readValue part (unpad (List.replicate m ' ' ++ s ++ List.replicate n ' ')) = .ok v := by
  cases h with
  | @plain pieces hp hfirst hlast =>
    obtain ⟨hsnug, hquote⟩ := hp.snug hfirst hlast
    rw [hsnug.unpad, DirectoryAccess.readValue.eq_def]
    split
    · next heq => rw [heq] at hquote; exact absurd rfl hquote
    · exact hp.unescape
  | @quoted pieces hp =>
    have hclosed : endsEscaping ('"' :: (textOf pieces ++ ['"'])) = false := by
      rw [← List.cons_append, endsEscaping_concat]; rfl
    have hsnug : Snug ('"' :: (textOf pieces ++ ['"'])) := by
      refine ⟨by simp, hclosed, .inl ?_⟩
      rw [← List.cons_append, List.getLast?_concat]
      decide
    rw [hsnug.unpad, DirectoryAccess.readValue, if_pos]
    · rw [List.dropLast_concat]
      exact hp.unescape
    · rw [List.dropLast_concat]
      exact ⟨List.getLast?_concat, hp.endsEscaping_eq_false⟩

/-! ### Parts -/

/-- Whether a character may stand in an attribute type. -/
def isTypeChar (c : Char) : Bool := c.isAlphanum || c == '-' || c == '.'

theorem isTypeChar_of_valid {key : String} (h : isAttributeType key = true) :
    key.toList ≠ [] ∧ ∀ c ∈ key.toList, isTypeChar c = true := by
  simp only [isAttributeType, Bool.and_eq_true, List.all_eq_true] at h
  refine ⟨?_, h.2⟩
  rintro hn
  simp [hn] at h

/-- The characters of attribute types lie between the hyphen and the small letters. -/
theorem toNat_of_isTypeChar {c : Char} (h : isTypeChar c = true) : 45 ≤ c.toNat ∧ c.toNat ≤ 122 := by
  change (((decide (65 ≤ c.val ∧ c.val ≤ 90) || decide (97 ≤ c.val) && decide (c.val ≤ 122)) ||
    decide (48 ≤ c.val) && decide (c.val ≤ 57)) || c == '-' || c == '.') = true at h
  simp only [Bool.or_eq_true, Bool.and_eq_true, decide_eq_true_eq, beq_iff_eq,
    UInt32.le_iff_toNat_le] at h
  rcases h with (h | rfl) | rfl
  · change ((65 ≤ c.toNat ∧ c.toNat ≤ 90) ∨ (97 ≤ c.toNat ∧ c.toNat ≤ 122)) ∨
      (48 ≤ c.toNat ∧ c.toNat ≤ 57) at h
    omega
  · decide
  · decide

theorem isBlank_of_isTypeChar {c : Char} (h : isTypeChar c = true) : Text.isBlank c = false := by
  have hc := toNat_of_isTypeChar h
  simp only [Text.isBlank, Text.inRanges, Text.blankRanges, List.any_cons, List.any_nil,
    Bool.or_false, Bool.or_eq_false_iff, Bool.and_eq_false_iff, decide_eq_false_iff_not]
  omega

theorem trim_blanks {before key after : List Char} (hb : Blanks before) (ha : Blanks after)
    (hn : key ≠ []) (hk : ∀ c ∈ key, Text.isBlank c = false) :
    Text.trim (before ++ key ++ after) = key := by
  have hfront : (before ++ key ++ after).dropWhile Text.isBlank = key ++ after := by
    rw [List.append_assoc, List.dropWhile_append_of_pos hb]
    cases key with
    | nil => exact absurd rfl hn
    | cons c t => exact List.dropWhile_cons_of_neg (by simp [hk c List.mem_cons_self])
  have hend : (after.reverse ++ key.reverse).dropWhile Text.isBlank = key.reverse := by
    rw [List.dropWhile_append_of_pos fun c hc => ha c (List.mem_reverse.1 hc)]
    cases hr : key.reverse with
    | nil => rfl
    | cons c t =>
      have hc : c ∈ key := List.mem_reverse.1 (by simp [hr])
      exact List.dropWhile_cons_of_neg (by simp [hk c hc])
  rw [Text.trim, hfront, Text.dropEndWhile, List.reverse_append, hend, List.reverse_reverse]

/-- A character in front of the equals sign. -/
def IsFront (c : Char) : Prop := Text.isBlank c = true ∨ isTypeChar c = true

theorem IsFront.standsForItself {c : Char} (h : IsFront c) : standsForItself false c = true := by
  have hn : ∀ d ∈ [',', ';', '+', '"', '\\'], Text.isBlank d = false ∧ isTypeChar d = false := by
    intro d hd
    simp only [List.mem_cons, List.not_mem_nil, or_false] at hd
    rcases hd with rfl | rfl | rfl | rfl | rfl <;> decide
  have hc : c ∉ [',', ';', '+', '"', '\\'] := by
    intro hm
    rcases h with h | h
    · simp [(hn c hm).1] at h
    · simp [(hn c hm).2] at h
  simpa [DistinguishedName.standsForItself] using hc

theorem IsFront.ne_equals {c : Char} (h : IsFront c) : c ≠ '=' := by
  rintro rfl
  rcases h with h | h <;> exact absurd h (by decide)

theorem isFront_of_mem {before key after : List Char} (hb : Blanks before) (ha : Blanks after)
    (hk : ∀ c ∈ key, isTypeChar c = true) : ∀ c ∈ before ++ key ++ after, IsFront c := by
  intro c hc
  simp only [List.mem_append] at hc
  rcases hc with (hc | hc) | hc
  · exact .inl (hb c hc)
  · exact .inr (hk c hc)
  · exact .inl (ha c hc)

/-- A spelling of a part is read as that part. -/
theorem PartSpelling.parse {p : NamePart} {s : List Char} (h : PartSpelling p s) :
    NamePart.parse s = .ok p := by
  obtain ⟨hb, ha, hv⟩ := h
  rename_i before after value m n
  obtain ⟨hne, hkey⟩ := isTypeChar_of_valid p.key_valid
  have hfront := isFront_of_mem hb ha hkey
  have hpos : ∀ c ∈ before ++ p.key.toList ++ after, (c != '=') = true := fun c hc => by
    simpa using (hfront c hc).ne_equals
  have htrim := trim_blanks hb ha hne fun c hc => isBlank_of_isTypeChar (hkey c hc)
  rw [NamePart.parse, List.dropWhile_append_of_pos hpos, List.takeWhile_append_of_pos hpos,
    List.dropWhile_cons_of_neg (by simp), List.takeWhile_cons_of_neg (by simp), List.append_nil, htrim]
  simp only [String.ofList_toList, p.key_valid, dif_pos, hv.readValue, Except.map]

theorem PartSpelling.carried {p : NamePart} {s : List Char} (h : PartSpelling p s) :
    Carried false false s := by
  obtain ⟨hb, ha, hv⟩ := h
  obtain ⟨-, hkey⟩ := isTypeChar_of_valid p.key_valid
  have hspaces : ∀ k, Carried false false (List.replicate k ' ') := fun k =>
    Carried.literals fun c hc => by rw [List.eq_of_mem_replicate hc]; rfl
  have hfront := Carried.literals fun c hc => (isFront_of_mem hb ha hkey c hc).standsForItself
  have hequals : Carried false false ['='] := Carried.literal rfl
  exact hfront.append (hequals.append (((hspaces _).append hv.carried).append (hspaces _)))

/-! ### Names -/

/-- What is known of the pieces of a text behind a relative name: the text is at its end or goes on with
a separator, and is cut into the pieces `others`. -/
def CutBehind (text rest : List Char) (others : List RawRelativeName) : Prop :=
  RawName.cut text false false rest = .ok ⟨⟨[], []⟩, others⟩

theorem PartSpelling.cut {p : NamePart} {s text rest : List Char} {others : List RawRelativeName}
    (h : PartSpelling p s) (hrest : CutBehind text rest others) :
    RawName.cut text false false (s ++ rest) = .ok ⟨⟨s, []⟩, others⟩ := by
  rw [h.carried text rest, hrest]
  simp [Except.map, pushAll]

theorem mapM_cons_ok {α β ε : Type} {f : α → Except ε β} {a : α} {b : β} {l : List α} {bs : List β}
    (ha : f a = .ok b) (hl : l.mapM f = .ok bs) : (a :: l).mapM f = .ok (b :: bs) := by
  rw [List.mapM_cons, ha]
  simp [hl, bind, Except.bind, pure, Except.pure]

theorem RelativeName.parse_eq_ok_iff {raw : RawRelativeName} {p : NamePart} {ps : List NamePart} :
    RelativeName.parse raw = .ok ⟨p, ps⟩ ↔
      NamePart.parse raw.first = .ok p ∧ raw.others.mapM NamePart.parse = .ok ps := by
  rw [RelativeName.parse]
  cases NamePart.parse raw.first <;> cases raw.others.mapM NamePart.parse <;>
    simp [bind, Except.bind, pure, Except.pure]

/-- The text of a relative name is cut into pieces that are read as that relative name. -/
theorem PartsSpelling.cut {p : NamePart} {ps : List NamePart} {s : List Char}
    (h : PartsSpelling p ps s) : ∃ raw, RelativeName.parse raw = .ok ⟨p, ps⟩ ∧
      ∀ text rest others, CutBehind text rest others →
        RawName.cut text false false (s ++ rest) = .ok ⟨raw, others⟩ := by
  induction h with
  | @last p s hp =>
    refine ⟨⟨s, []⟩, ?_, fun text rest others hrest => hp.cut hrest⟩
    exact RelativeName.parse_eq_ok_iff.2 ⟨hp.parse, rfl⟩
  | @plus p q ps s t hp _ ih =>
    obtain ⟨raw, hparse, hcut⟩ := ih
    refine ⟨⟨s, raw.first :: raw.others⟩, ?_, fun text rest others hrest => ?_⟩
    · obtain ⟨hfirst, hothers⟩ := RelativeName.parse_eq_ok_iff.1 hparse
      exact RelativeName.parse_eq_ok_iff.2 ⟨hp.parse, mapM_cons_ok hfirst hothers⟩
    · have hplus : RawName.cut text false false ('+' :: (t ++ rest)) =
          .ok ⟨⟨[], raw.first :: raw.others⟩, others⟩ := by
        rw [RawName.cut, hcut text rest others hrest]
        rfl
      rw [List.append_assoc, List.cons_append, hp.carried text _, hplus]
      simp [Except.map, pushAll]

/-- The text of a name is cut into pieces that are read as its relative names. -/
theorem NameSpelling.cut {rs : List RelativeName} {s : List Char} (h : NameSpelling rs s)
    (text : List Char) : ∃ raw, RawName.cut text false false s = .ok raw ∧
      (raw.first :: raw.others).mapM RelativeName.parse = .ok rs := by
  induction h with
  | @last r s hr =>
    obtain ⟨raw, hparse, hcut⟩ := hr.cut
    have hend := hcut text [] [] rfl
    rw [List.append_nil] at hend
    exact ⟨⟨raw, []⟩, hend, mapM_cons_ok hparse rfl⟩
  | @next r rs s t separator hr hsep _ ih =>
    obtain ⟨raw, hparse, hcut⟩ := hr.cut
    obtain ⟨behind, hbehind, hrs⟩ := ih
    have hopen : CutBehind text (separator :: t) (behind.first :: behind.others) := by
      rcases hsep with rfl | rfl <;> simp [CutBehind, RawName.cut, hbehind, Except.map, RawName.openRdn]
    exact ⟨⟨raw, behind.first :: behind.others⟩, hcut _ _ _ hopen, mapM_cons_ok hparse hrs⟩

theorem trim_ne_nil {s : List Char} {c : Char} (hc : c ∈ s) (hb : Text.isBlank c = false) :
    Text.trim s ≠ [] := by
  intro h
  have hfront : c ∈ s.dropWhile Text.isBlank := by
    have hs := List.takeWhile_append_dropWhile (p := Text.isBlank) (l := s)
    rw [← hs, List.mem_append] at hc
    rcases hc with hc | hc
    · exact absurd (List.mem_takeWhile_imp hc) (by simp [hb])
    · exact hc
  have hall : ∀ d ∈ (s.dropWhile Text.isBlank).reverse, Text.isBlank d = true :=
    List.dropWhile_eq_nil_iff.1 (List.reverse_eq_nil_iff.1 h)
  simp [hall c (List.mem_reverse.2 hfront)] at hb

/-- A text of a name is not blank. -/
theorem PartSpelling.exists_mem {p : NamePart} {s : List Char} (h : PartSpelling p s) :
    ∃ c ∈ s, Text.isBlank c = false := by
  obtain ⟨-, -, -⟩ := h
  obtain ⟨hne, hkey⟩ := isTypeChar_of_valid p.key_valid
  obtain ⟨c, hc⟩ := List.exists_mem_of_ne_nil _ hne
  exact ⟨c, by simp [hc], isBlank_of_isTypeChar (hkey c hc)⟩

theorem PartsSpelling.exists_mem {p : NamePart} {ps : List NamePart} {s : List Char}
    (h : PartsSpelling p ps s) : ∃ c ∈ s, Text.isBlank c = false := by
  cases h with
  | last hp => exact hp.exists_mem
  | plus hp _ =>
    obtain ⟨c, hc, hb⟩ := hp.exists_mem
    exact ⟨c, List.mem_append_left _ hc, hb⟩

theorem NameSpelling.trim_ne_nil {rs : List RelativeName} {s : List Char} (h : NameSpelling rs s) :
    Text.trim s ≠ [] := by
  cases h with
  | last hr =>
    obtain ⟨c, hc, hb⟩ := hr.exists_mem
    exact DistinguishedName.trim_ne_nil hc hb
  | next hr _ _ =>
    obtain ⟨c, hc, hb⟩ := hr.exists_mem
    exact DistinguishedName.trim_ne_nil (List.mem_append_left _ hc) hb

/-- Every spelling of a name is read as that name. -/
theorem parseChars_of_spelling {rs : List RelativeName} {s : List Char} (h : NameSpelling rs s) :
    parseChars s = .ok ⟨rs⟩ := by
  obtain ⟨raw, hcut, hparse⟩ := h.cut s
  rw [parseChars, if_neg (by simpa using h.trim_ne_nil), hcut]
  simp only [bind, Except.bind, hparse]
  rfl

end DirectoryAccess.DistinguishedName
