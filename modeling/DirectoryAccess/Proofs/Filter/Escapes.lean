import DirectoryAccess.Filter.Evaluation

/-!
# Escapes in the text of a filter

Where every backslash in the text of a filter starts an escape with two hexadecimal digits, the
evaluation never meets a malformed escape, whatever else is wrong with the text.
-/

namespace DirectoryAccess.Filter

open Text

/-- Every backslash of the text is followed by two hexadecimal digits. -/
def HexEscaped (s : List Char) : Prop :=
  ∀ before after, s = before ++ '\\' :: after →
    ∃ c d rest, after = c :: d :: rest ∧ (hexDigit? c).isSome ∧ (hexDigit? d).isSome

/-- A text without backslashes has no malformed escapes. -/
theorem hexEscaped_of_not_mem {s : List Char} (h : '\\' ∉ s) : HexEscaped s := by
  rintro before after rfl
  exact absurd (List.mem_append_right before List.mem_cons_self) h

theorem HexEscaped.of_append_right {s t : List Char} (h : HexEscaped (s ++ t)) : HexEscaped t := by
  rintro before after rfl
  exact h (s ++ before) after (List.append_assoc ..).symm

theorem HexEscaped.of_suffix {s t : List Char} (h : HexEscaped s) (hsuffix : t <:+ s) :
    HexEscaped t := by
  obtain ⟨front, rfl⟩ := hsuffix
  exact h.of_append_right

/-- A text that is cut before a character that is no digit is not cut within an escape. -/
theorem HexEscaped.of_append_cons {s t : List Char} {c : Char} (h : HexEscaped (s ++ c :: t))
    (hc : hexDigit? c = none) : HexEscaped s := by
  rintro before after rfl
  obtain ⟨a, b, rest, heq, ha, hb⟩ := h before (after ++ c :: t) (by simp)
  match after with
  | [] =>
    rw [List.nil_append, List.cons.injEq] at heq
    rw [← heq.1, hc] at ha
    cases ha
  | [a'] =>
    simp only [List.cons_append, List.nil_append, List.cons.injEq] at heq
    rw [← heq.2.1, hc] at hb
    cases hb
  | a' :: b' :: after' =>
    simp only [List.cons_append, List.cons.injEq] at heq
    obtain ⟨rfl, rfl, -⟩ := heq
    exact ⟨a', b', after', rfl, ha, hb⟩

/-- A blank is no hexadecimal digit. -/
theorem hexDigit?_of_isBlank {c : Char} (h : isBlank c = true) : hexDigit? c = none := by
  simp only [isBlank, inRanges, blankRanges, List.any_cons, List.any_nil, Bool.or_false,
    Bool.or_eq_true, Bool.and_eq_true, decide_eq_true_eq] at h
  have hbounds : ¬('0' ≤ c ∧ c ≤ '9') ∧ ¬('a' ≤ c ∧ c ≤ 'f') ∧ ¬('A' ≤ c ∧ c ≤ 'F') := by
    simp only [Char.le_def, UInt32.le_iff_toNat_le]
    change ¬(48 ≤ c.toNat ∧ c.toNat ≤ 57) ∧ ¬(97 ≤ c.toNat ∧ c.toNat ≤ 102) ∧
      ¬(65 ≤ c.toNat ∧ c.toNat ≤ 70)
    omega
  rw [hexDigit?, if_neg hbounds.1, if_neg hbounds.2.1, if_neg hbounds.2.2]

theorem HexEscaped.dropEndWhile {s : List Char} {p : Char → Bool}
    (hp : ∀ c, p c = true → hexDigit? c = none) (h : HexEscaped s) :
    HexEscaped (Text.dropEndWhile p s) := by
  have hsplit : Text.dropEndWhile p s ++ (s.reverse.takeWhile p).reverse = s := by
    rw [Text.dropEndWhile, ← List.reverse_append, List.takeWhile_append_dropWhile, List.reverse_reverse]
  cases hend : (s.reverse.takeWhile p).reverse with
  | nil =>
    rw [hend, List.append_nil] at hsplit
    rwa [hsplit]
  | cons c rest =>
    have hc : c ∈ s.reverse.takeWhile p := by
      rw [← List.mem_reverse, hend]
      exact List.mem_cons_self
    rw [hend] at hsplit
    rw [← hsplit] at h
    exact h.of_append_cons (hp c (List.all_eq_true.1 List.all_takeWhile c hc))

theorem HexEscaped.trim {s : List Char} (h : HexEscaped s) : HexEscaped (Text.trim s) :=
  (h.of_suffix (List.dropWhile_suffix _)).dropEndWhile fun _ => hexDigit?_of_isBlank

/-! ### Conditions -/

/-- A value can be freed of its escapes. -/
theorem HexEscaped.unescape {s : List Char} (h : HexEscaped s) :
    (unescapeCondition? s).isSome = true := by
  fun_induction unescapeCondition? s with
  | case1 => rfl
  | case2 =>
    obtain ⟨c, d, rest, heq, -, -⟩ := h [] [] rfl
    cases heq
  | case3 d =>
    obtain ⟨c, d', rest, heq, -, -⟩ := h [] [_] rfl
    cases heq
  | case4 d rest _ ih =>
    obtain ⟨c', d', rest', heq, hc, -⟩ := h [] ('+' :: d :: rest) rfl
    cases heq
    cases hc
  | case5 c d rest finish _ ih =>
    obtain ⟨c', d', rest', heq, hc, hd⟩ := h [] (c :: d :: rest) rfl
    cases heq
    obtain ⟨m, hm⟩ := Option.isSome_iff_exists.1 hc
    obtain ⟨n, hn⟩ := Option.isSome_iff_exists.1 hd
    obtain ⟨t, ht⟩ := Option.isSome_iff_exists.1 (ih (h.of_suffix ⟨['\\', c, d], rfl⟩))
    simp [hexByte?, hm, hn, ht, finish]
  | case6 c rest _ _ _ ih =>
    obtain ⟨t, ht⟩ := Option.isSome_iff_exists.1 (ih (h.of_suffix (List.suffix_cons c rest)))
    simp [ht]

theorem HexEscaped.conditionHolds {text : List Char} (h : HexEscaped text) (a : Attributes) :
    conditionHolds a text ≠ .error .malformedEscape := by
  intro hstumbles
  rw [Filter.conditionHolds] at hstumbles
  split at hstumbles
  · cases hstumbles
  · cases hstumbles
  · next value _ hvalue =>
    have hsuffix : value <:+ text :=
      (List.suffix_cons _ _).trans (hvalue ▸ List.dropWhile_suffix _)
    split at hstumbles
    · next hnone =>
      have hsome := (h.of_suffix hsuffix).unescape
      rw [hnone] at hsome
      cases hsome
    · cases hstumbles

/-! ### The whole text -/

/-- What is to be read, and what has been read of a condition, has no malformed escapes. -/
def ReadState.Sound : ReadState → List Char → Prop
  | .condition _ read, rest => HexEscaped (read.reverse ++ rest)
  | _, rest => HexEscaped rest

/-- The outcome of reading a character before `rest` is no malformed escape and leads to none. -/
def Harmless (outcome : Except EvaluationFault ReadState) (rest : List Char) : Prop :=
  outcome ≠ .error .malformedEscape ∧ ∀ state, outcome = .ok state → state.Sound rest

theorem harmless_ok {state : ReadState} {rest : List Char} (h : state.Sound rest) :
    Harmless (.ok state) rest :=
  ⟨nofun, fun _ hstate => Except.ok.inj hstate ▸ h⟩

theorem harmless_notAFilter (rest : List Char) : Harmless (.error .notAFilter) rest := ⟨nofun, nofun⟩

theorem harmless_deliver {rest : List Char} (h : HexEscaped rest) (value : Bool)
    (groups : List Group) : Harmless (deliver value groups) rest := by
  unfold deliver
  split
  · exact harmless_ok h
  · exact harmless_ok h
  · exact harmless_ok h
  · exact harmless_ok h
  · exact harmless_notAFilter rest

/-- Reading a character keeps what is left free of malformed escapes, and meets none. -/
theorem ReadState.Sound.step {a : Attributes} {state : ReadState} {c : Char} {rest : List Char}
    (h : state.Sound (c :: rest)) : Harmless (readChar a state c) rest := by
  have hrest {s : List Char} (h : HexEscaped (c :: s)) : HexEscaped s :=
    h.of_suffix (List.suffix_cons c s)
  fun_cases readChar a state c with
  | case1 | case2 | case3 => exact harmless_deliver (hrest h) _ _
  | case4 | case6 | case10 | case14 => exact harmless_notAFilter rest
  | case5 | case7 | case8 | case9 => exact harmless_ok (hrest h)
  | case11 => exact harmless_ok h
  | case12 groups read =>
    -- the parenthesis that ends a condition does not cut an escape
    have hcondition := (HexEscaped.of_append_cons h (by decide)).conditionHolds a
    cases hholds : conditionHolds a read.reverse with
    | error fault =>
      cases fault with
      | notAFilter => exact harmless_notAFilter rest
      | malformedEscape => exact absurd hholds hcondition
    | ok value => exact harmless_deliver (hrest h.of_append_right) value groups
  | case13 groups read =>
    refine harmless_ok ?_
    rw [ReadState.Sound, List.reverse_cons, List.append_assoc]
    exact h

/-- Reading on meets no malformed escape either. -/
theorem readChars_ne_malformedEscape {a : Attributes} {state : ReadState} {s : List Char}
    (h : state.Sound s) : readChars a state s ≠ .error .malformedEscape := by
  induction s generalizing state with
  | nil => nofun
  | cons c rest ih =>
    have hstep := h.step (a := a)
    rw [readChars]
    cases hread : readChar a state c with
    | error fault =>
      intro hfault
      exact hstep.1 (hread.trans (congrArg Except.error (Except.error.inj hfault)))
    | ok state' => exact ih (hstep.2 state' hread)

/-- **Well-formed escapes do not trip the evaluation**, whatever the rest of the text. -/
theorem stumbles_of_hexEscaped {text : String} (h : HexEscaped text.toList) (a : Attributes) :
    stumbles text a = false := by
  have hsound : ReadState.Sound (.between []) (Text.trim text.toList) := h.trim
  have hread := readChars_ne_malformedEscape (a := a) hsound
  rw [stumbles, evaluate]
  split
  · next hstumbles =>
    split at hstumbles
    · cases hstumbles
    · cases hstumbles
    · next hfault =>
      rw [Except.error.inj hstumbles] at hfault
      exact absurd hfault hread
  · rfl

end DirectoryAccess.Filter
