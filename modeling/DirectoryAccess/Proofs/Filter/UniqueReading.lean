import DirectoryAccess.Proofs.Filter.Meaning

/-!
# A text is the text of one filter

Filters are written out without loss. Three things are not told apart: an integer and the text of its
digits, a pattern without stars and the text that it stands for, a pattern that is a star alone and the
question whether the attribute is present. `normalForm` makes each of these pairs one filter, and filters
have the same text exactly if that makes them equal (`toString_eq_iff`). So neither a value nor a pattern
can be chosen that gives a filter the text of another one.
-/

namespace DirectoryAccess

/-- The value as a text: an integer is the text of its digits. -/
def FilterValue.asText : FilterValue → FilterValue
  | .integer n => .text (toString n.toInt)
  | value => value

namespace Filter

/-! ### Filters that no caller writes out -/

/-- The conditions on one attribute, with values that are texts or integers. -/
inductive Condition : Filter → Prop where
  /-- The attribute compares so with the text. -/
  | text {attr : String} (comparison : Comparison) (s : String) : isName attr = true →
      Condition (.compare attr comparison (.text s))
  /-- The attribute compares so with the integer. -/
  | integer {attr : String} (comparison : Comparison) (n : Int64) : isName attr = true →
      Condition (.compare attr comparison (.integer n))
  /-- The attribute is present. -/
  | present {attr : String} : isName attr = true → Condition (.present attr)
  /-- The attribute has a value of the pattern. -/
  | like {attr : String} (pattern : String) : isName attr = true → Condition (.like attr pattern)

/-- The filters that are built from conditions. -/
inductive Built : Filter → Prop where
  /-- A condition. -/
  | condition {f : Filter} : Condition f → Built f
  /-- All of any number of filters hold. -/
  | all {filters : List Filter} : (∀ f ∈ filters, Built f) → Built (.all filters)
  /-- One of any number of filters holds. -/
  | any {filters : List Filter} : (∀ f ∈ filters, Built f) → Built (.any filters)
  /-- The filter does not hold. -/
  | negation {f : Filter} : Built f → Built (.negation f)

mutual

/-- The filter in a form that no other filter of the same text has: all values are texts, and every
pattern has a star and is not a star alone. -/
def normalForm : Filter → Filter
  | .compare attr comparison value => .compare attr comparison value.asText
  | .like attr pattern =>
    if pattern.toList = ['*'] then .present attr
    else if '*' ∈ pattern.toList then .like attr pattern
    else .compare attr .equal (.text pattern)
  | .all filters => .all (normalForms filters)
  | .any filters => .any (normalForms filters)
  | .negation f => .negation (normalForm f)
  | f => f

/-- The normal forms of several filters. -/
def normalForms : List Filter → List Filter
  | [] => []
  | f :: rest => normalForm f :: normalForms rest

end

/-! ### Patterns -/

theorem star_notMem_escapeFilterText (s : List Char) : '*' ∉ escapeFilterText s := by
  intro h
  cases isReserved_of_mem_escapeFilterText h (by decide)

theorem parenthesis_notMem_escapeFilterText (s : List Char) : ')' ∉ escapeFilterText s := by
  intro h
  cases isReserved_of_mem_escapeFilterText h (by decide)

theorem escapePattern_cons_star (s : List Char) : escapePattern ('*' :: s) = '*' :: escapePattern s :=
  rfl

theorem escapePattern_cons {c : Char} (hc : c ≠ '*') (s : List Char) :
    escapePattern (c :: s) = escapeFilterText [c] ++ escapePattern s := by
  rw [escapePattern, List.flatMap_cons, if_neg hc, escapeFilterText, List.flatMap_singleton]
  rfl

/-- Freeing an escaped pattern of its escapes gives the pattern back. -/
theorem unescapeCondition?_escapePattern (s : List Char) :
    unescapeCondition? (escapePattern s) = some s := by
  induction s with
  | nil => rfl
  | cons c s ih =>
    by_cases hc : c = '*'
    · subst hc
      rw [escapePattern_cons_star, unescapeCondition?_cons (by decide), ih]
      rfl
    · rw [escapePattern_cons hc, escapeFilterText, List.flatMap_singleton,
        unescapeCondition?_escapeFilterChar_append, ih]
      rfl

/-- Only the stars of a pattern are stars in its text. -/
theorem star_mem_escapePattern_iff {s : List Char} : '*' ∈ escapePattern s ↔ '*' ∈ s := by
  induction s with
  | nil => exact Iff.rfl
  | cons c s ih =>
    by_cases hc : c = '*'
    · subst hc
      exact iff_of_true List.mem_cons_self List.mem_cons_self
    · rw [escapePattern_cons hc, List.mem_append, List.mem_cons, ih]
      exact or_congr_left
        (iff_of_false (star_notMem_escapeFilterText [c]) (Ne.symm hc))

theorem parenthesis_notMem_escapePattern (s : List Char) : ')' ∉ escapePattern s := by
  induction s with
  | nil => exact List.not_mem_nil
  | cons c s ih =>
    by_cases hc : c = '*'
    · subst hc
      rw [escapePattern_cons_star, List.mem_cons, not_or]
      exact ⟨by decide, ih⟩
    · rw [escapePattern_cons hc, List.mem_append, not_or]
      exact ⟨parenthesis_notMem_escapeFilterText [c], ih⟩

/-- What stands before the first star of a text stands before the first star of its pieces. -/
theorem splitOn_append {l : List Char} (h : '*' ∉ l) (t : List Char) :
    (l ++ t).splitOn '*' = (t.splitOn '*').modifyHead (l ++ ·) := by
  induction l with
  | nil => exact (congrFun List.modifyHead_id _).symm
  | cons c l ih =>
    rw [List.mem_cons, not_or] at h
    rw [List.cons_append, List.splitOn_eq_splitOnP, List.splitOnP_cons_eq_if_modifyHead,
      if_neg (by simpa using Ne.symm h.1), ← List.splitOn_eq_splitOnP, ih h.2, List.modifyHead_modifyHead]
    rfl

/-- The pieces of a pattern between its stars are escaped, and its stars are kept. -/
theorem splitOn_escapePattern (s : List Char) :
    (escapePattern s).splitOn '*' = (s.splitOn '*').map escapeFilterText := by
  induction s with
  | nil => rfl
  | cons c s ih =>
    have hpieces : (c :: s).splitOn '*' =
        if c = '*' then [] :: s.splitOn '*' else (s.splitOn '*').modifyHead (c :: ·) := by
      simp [List.splitOn_eq_splitOnP, List.splitOnP_cons_eq_if_modifyHead]
    rw [hpieces]
    by_cases hc : c = '*'
    · subst hc
      rw [if_pos rfl, escapePattern_cons_star, List.map_cons, ← ih]
      rfl
    · rw [if_neg hc, escapePattern_cons hc, splitOn_append (star_notMem_escapeFilterText [c]), ih]
      cases s.splitOn '*' with
      | nil => rfl
      | cons piece pieces => simp [escapeFilterText]

/-! ### Conditions -/

/-- The condition, in normal form, that is written with this comparison and this text after it. -/
def ofText (attr : String) (comparison : Comparison) (text : List Char) : Filter :=
  let value := String.ofList ((unescapeCondition? text).getD [])
  if text = ['*'] then .present attr
  else if '*' ∈ text then .like attr value
  else .compare attr comparison (.text value)

theorem ofText_escapeFilterText (attr : String) (comparison : Comparison) (s : String) :
    ofText attr comparison (escapeFilterText s.toList) = .compare attr comparison (.text s) := by
  have hstar := star_notMem_escapeFilterText s.toList
  have halone : escapeFilterText s.toList ≠ ['*'] := by
    intro h
    rw [h] at hstar
    exact hstar List.mem_cons_self
  rw [ofText, if_neg halone, if_neg hstar, unescapeCondition?_escapeFilterText, Option.getD_some,
    String.ofList_toList]

theorem ofText_escapePattern (attr pattern : String) :
    ofText attr .equal (escapePattern pattern.toList) = normalForm (.like attr pattern) := by
  have halone : escapePattern pattern.toList = ['*'] ↔ pattern.toList = ['*'] := by
    constructor
    · intro h
      have hback := unescapeCondition?_escapePattern pattern.toList
      rw [h] at hback
      exact (Option.some.inj hback).symm
    · intro h
      rw [h]
      rfl
  rw [ofText, normalForm, unescapeCondition?_escapePattern, Option.getD_some, String.ofList_toList]
  simp only [halone, star_mem_escapePattern_iff]

/-- A condition is an attribute, a comparison and a text, and its normal form can be read off these. -/
theorem Condition.exists_text {f : Filter} (h : f.Condition) :
    ∃ attr comparison text, isName attr = true ∧ ')' ∉ text ∧
      f.encode = inParens (attr.toList ++ comparison.sign.toList ++ text) ∧
      f.normalForm = ofText attr comparison text := by
  cases h with
  | @text attr comparison s hname =>
    exact ⟨attr, comparison, _, hname, parenthesis_notMem_escapeFilterText _, by rw [encode]; rfl,
      (ofText_escapeFilterText attr comparison s).symm⟩
  | @integer attr comparison n hname =>
    refine ⟨attr, comparison, _, hname, parenthesis_notMem_escapeFilterText _, ?_,
      (ofText_escapeFilterText attr comparison (toString n.toInt)).symm⟩
    rw [encode, encode_integer]
  | @present attr hname =>
    refine ⟨attr, .equal, ['*'], hname, by decide, ?_, rfl⟩
    rw [encode, List.append_assoc]
    rfl
  | @like attr pattern hname =>
    refine ⟨attr, .equal, _, hname, parenthesis_notMem_escapePattern _, ?_,
      (ofText_escapePattern attr pattern).symm⟩
    rw [encode, List.append_assoc]
    rfl

/-- Two texts that are cut where `p` first fails have the same pieces. -/
theorem eq_of_append_cons {p : Char → Bool} {l l' r r' : List Char} {c c' : Char}
    (hl : ∀ x ∈ l, p x = true) (hl' : ∀ x ∈ l', p x = true) (hc : p c = false) (hc' : p c' = false)
    (h : l ++ c :: r = l' ++ c' :: r') : l = l' ∧ c = c' ∧ r = r' := by
  have hcut {l r : List Char} {c : Char} (hl : ∀ x ∈ l, p x = true) (hc : p c = false) :
      (l ++ c :: r).takeWhile p = l := by
    rw [List.takeWhile_append_of_pos hl, List.takeWhile_cons_of_neg (by simp [hc]), List.append_nil]
  have hfront : l = l' := by
    rw [← hcut hl hc (r := r), h, hcut hl' hc']
  subst hfront
  exact ⟨rfl, List.cons.inj (List.append_cancel_left h)⟩

/-- The first character of the sign of a comparison says which one it is, and stands in no name. -/
theorem exists_sign (comparison : Comparison) :
    ∃ c rest, comparison.sign.toList = c :: rest ∧ isNameChar c = false ∧
      ∀ other : Comparison, other.sign.toList.head? = some c → other = comparison := by
  cases comparison with
  | equal => exact ⟨'=', [], rfl, by decide, fun other => by cases other <;> decide⟩
  | atMost => exact ⟨'<', ['='], rfl, by decide, fun other => by cases other <;> decide⟩
  | atLeast => exact ⟨'>', ['='], rfl, by decide, fun other => by cases other <;> decide⟩
  | approximate => exact ⟨'~', ['='], rfl, by decide, fun other => by cases other <;> decide⟩

/-- A condition at the front of a text can be read in one way only. -/
theorem condition_unique {a b : String} {c d : Comparison} {s t r r' : List Char}
    (ha : isName a = true) (hb : isName b = true) (hs : ')' ∉ s) (ht : ')' ∉ t)
    (h : inParens (a.toList ++ c.sign.toList ++ s) ++ r =
      inParens (b.toList ++ d.sign.toList ++ t) ++ r') : a = b ∧ c = d ∧ s = t ∧ r = r' := by
  obtain ⟨x, xs, hx, hxname, -⟩ := exists_sign c
  obtain ⟨y, ys, hy, hyname, hyonly⟩ := exists_sign d
  simp only [inParens, List.cons_append, List.append_assoc, List.nil_append, List.cons.injEq, true_and,
    hx, hy] at h
  obtain ⟨hattr, rfl, hrest⟩ := eq_of_append_cons (mem_of_isName ha).2 (mem_of_isName hb).2 hxname
    hyname h
  obtain rfl : c = d := hyonly c (by rw [hx]; rfl)
  obtain rfl : xs = ys := (List.cons.inj (hx.symm.trans hy)).2
  have hinner {l : List Char} (hl : ')' ∉ l) : ∀ z ∈ l, (z != ')') = true := by
    intro z hz
    rw [bne_iff_ne]
    rintro rfl
    exact hl hz
  obtain ⟨rfl, -, rfl⟩ := eq_of_append_cons (hinner hs) (hinner ht) rfl rfl
    (List.append_cancel_left hrest)
  exact ⟨String.toList_inj.1 hattr, rfl, rfl, rfl⟩

/-! ### Whole filters -/

theorem Built.exists_inParens {f : Filter} (h : f.Built) : ∃ text, f.encode = inParens text := by
  cases h with
  | condition h =>
    obtain ⟨_, _, _, -, -, hencode, -⟩ := h.exists_text
    exact ⟨_, hencode⟩
  | all | any | negation => exact ⟨_, by rw [encode]⟩

/-- What begins a group begins no condition. -/
theorem Condition.ne_group {f : Filter} (h : f.Condition) {mark : Char} (hmark : isNameChar mark = false)
    (r s : List Char) : f.encode ++ r ≠ '(' :: mark :: s := by
  obtain ⟨attr, comparison, text, hname, -, hencode, -⟩ := h.exists_text
  obtain ⟨⟨c, rest, hattr⟩, hchars⟩ := mem_of_isName hname
  intro heq
  simp only [hencode, inParens, hattr, List.cons_append, List.cons.injEq, true_and] at heq
  have hc := hchars c (hattr ▸ List.mem_cons_self)
  rw [heq.1, hmark] at hc
  cases hc

/-- Wherever the text of `f` stands, no other filter can be read there. -/
def ReadUniquely (f : Filter) : Prop :=
  ∀ (g : Filter) (r r' : List Char), g.Built → f.encode ++ r = g.encode ++ r' →
    f.normalForm = g.normalForm ∧ r = r'

theorem Condition.readUniquely {f : Filter} (h : f.Condition) : f.ReadUniquely := by
  intro g r r' hg heq
  cases hg with
  | condition hg =>
    obtain ⟨a, c, s, ha, hs, hf, hfnormal⟩ := h.exists_text
    obtain ⟨b, d, t, hb, ht, hg, hgnormal⟩ := hg.exists_text
    rw [hf, hg] at heq
    obtain ⟨rfl, rfl, rfl, rfl⟩ := condition_unique ha hb hs ht heq
    exact ⟨hfnormal.trans hgnormal.symm, rfl⟩
  | all | any | negation =>
    rw [encode] at heq
    exact absurd heq (h.ne_group (by decide) _ _)

/-- The members of a group are read up to the parenthesis that closes the group. -/
theorem members_readUniquely {fs gs : List Filter} (hfs : ∀ f ∈ fs, f.Built ∧ f.ReadUniquely)
    (hgs : ∀ g ∈ gs, g.Built) {r r' : List Char}
    (h : encodeList fs ++ ')' :: r = encodeList gs ++ ')' :: r') :
    normalForms fs = normalForms gs ∧ r = r' := by
  induction fs generalizing gs with
  | nil =>
    cases gs with
    | nil => exact ⟨rfl, (List.cons.inj h).2⟩
    | cons g gs =>
      obtain ⟨text, hg⟩ := (hgs g List.mem_cons_self).exists_inParens
      rw [encodeList, encodeList, hg] at h
      cases (List.cons.inj h).1
  | cons f fs ih =>
    obtain ⟨hbuilt, hunique⟩ := hfs f List.mem_cons_self
    cases gs with
    | nil =>
      obtain ⟨text, hf⟩ := hbuilt.exists_inParens
      rw [encodeList, encodeList, hf] at h
      cases (List.cons.inj h).1
    | cons g gs =>
      rw [encodeList, encodeList, List.append_assoc, List.append_assoc] at h
      obtain ⟨hfirst, hrest⟩ := hunique g _ _ (hgs g List.mem_cons_self) h
      obtain ⟨hothers, hr⟩ := ih (fun f hf => hfs f (List.mem_cons_of_mem _ hf))
        (fun g hg => hgs g (List.mem_cons_of_mem _ hg)) hrest
      exact ⟨by rw [normalForms, normalForms, hfirst, hothers], hr⟩

/-- What stands in two groups with the same text is the same, and so is the kind of the groups. -/
theorem inParens_cons_append {mark mark' : Char} {s t r r' : List Char}
    (h : inParens (mark :: s) ++ r = inParens (mark' :: t) ++ r') :
    mark = mark' ∧ s ++ ')' :: r = t ++ ')' :: r' := by
  simpa [inParens] using h

/-- A filter at the front of a text can be read in one way only. -/
theorem Built.readUniquely {f : Filter} (h : f.Built) : f.ReadUniquely := by
  induction h with
  | condition h => exact h.readUniquely
  | @all fs hfs ih =>
    intro g r r' hg heq
    rw [encode] at heq
    cases hg with
    | condition hg => exact absurd heq.symm (hg.ne_group (by decide) _ _)
    | all hgs =>
      rw [encode] at heq
      obtain ⟨hmembers, hr⟩ := members_readUniquely (fun f hf => ⟨hfs f hf, ih f hf⟩) hgs
        (inParens_cons_append heq).2
      exact ⟨by rw [normalForm, normalForm, hmembers], hr⟩
    | any | negation =>
      rw [encode] at heq
      cases (inParens_cons_append heq).1
  | @any fs hfs ih =>
    intro g r r' hg heq
    rw [encode] at heq
    cases hg with
    | condition hg => exact absurd heq.symm (hg.ne_group (by decide) _ _)
    | any hgs =>
      rw [encode] at heq
      obtain ⟨hmembers, hr⟩ := members_readUniquely (fun f hf => ⟨hfs f hf, ih f hf⟩) hgs
        (inParens_cons_append heq).2
      exact ⟨by rw [normalForm, normalForm, hmembers], hr⟩
    | all | negation =>
      rw [encode] at heq
      cases (inParens_cons_append heq).1
  | negation hf ih =>
    intro g r r' hg heq
    rw [encode] at heq
    cases hg with
    | condition hg => exact absurd heq.symm (hg.ne_group (by decide) _ _)
    | negation hg =>
      rw [encode] at heq
      obtain ⟨hmember, hr⟩ := ih _ _ _ hg (inParens_cons_append heq).2
      exact ⟨by rw [normalForm, normalForm, hmember], (List.cons.inj hr).2⟩
    | all | any =>
      rw [encode] at heq
      cases (inParens_cons_append heq).1

/-! ### Normal forms -/

theorem escapePattern_of_notMem {s : List Char} (h : '*' ∉ s) : escapePattern s = escapeFilterText s := by
  refine List.flatMap_congr fun c hc => if_neg ?_
  rintro rfl
  exact h hc

/-- A condition and its normal form have the same text. -/
theorem Condition.encode_normalForm {f : Filter} (h : f.Condition) : f.normalForm.encode = f.encode := by
  cases h with
  | text | present => rfl
  | integer comparison n =>
    rw [normalForm, FilterValue.asText, encode, encode, encode_integer]
    rfl
  | @like attr pattern =>
    rw [normalForm]
    split
    · next halone =>
      rw [encode, encode, halone]
      rfl
    · split
      · rfl
      · next hstar =>
        rw [encode, encode, escapePattern_of_notMem hstar, List.append_assoc]
        rfl

theorem encodeList_normalForms {fs : List Filter} (h : ∀ f ∈ fs, f.normalForm.encode = f.encode) :
    encodeList (normalForms fs) = encodeList fs := by
  induction fs with
  | nil => rfl
  | cons f fs ih =>
    rw [normalForms, encodeList, encodeList, h f List.mem_cons_self,
      ih fun g hg => h g (List.mem_cons_of_mem _ hg)]

/-- A filter and its normal form have the same text. -/
theorem Built.encode_normalForm {f : Filter} (h : f.Built) : f.normalForm.encode = f.encode := by
  induction h with
  | condition h => exact h.encode_normalForm
  | all _ ih | any _ ih => rw [normalForm, encode, encode, encodeList_normalForms ih]
  | negation _ ih => rw [normalForm, encode, encode, ih]

/-- **Filters have the same text exactly if they have the same normal form**, at any nesting and whatever
their values and patterns are. In the text of a pattern the stars are those of the pattern, and what
stands between them is escaped as a value is. -/
theorem toString_eq_iff {f g : Filter} (hf : f.Built) (hg : g.Built) :
    (toString f = toString g ↔ f.normalForm = g.normalForm) ∧
      ∀ attr pattern, ∃ text,
        (Filter.like attr pattern).encode = inParens (attr.toList ++ '=' :: text) ∧
        text.splitOn '*' = (pattern.toList.splitOn '*').map escapeFilterText := by
  refine ⟨?_, fun attr pattern => ⟨_, by rw [encode], splitOn_escapePattern _⟩⟩
  have htext : toString f = toString g ↔ f.encode = g.encode := String.ofList_inj
  rw [htext]
  constructor
  · intro h
    exact (hf.readUniquely g [] [] hg (by rw [h])).1
  · intro h
    rw [← hf.encode_normalForm, h, hg.encode_normalForm]

/-- A filter with a pattern that is a star alone, a pattern without stars and an integer. -/
def starred : Filter :=
  .all [.like "cn" "*", .negation (.like "sn" "(Berg)"), .compare "uid-7" .atLeast (.integer (-7))]

/-- The same filter, said with other conditions. -/
def plainlySaid : Filter :=
  .all [.present "cn", .negation (.compare "sn" .equal (.text "(Berg)")),
    .compare "uid-7" .atLeast (.text "-7")]

/-- Both have the same text. -/
theorem toString_starred :
    starred.Built ∧ plainlySaid.Built ∧ starred.normalForm = plainlySaid.normalForm ∧
      toString starred = toString plainlySaid := by
  have hstarred : starred.Built := by
    refine .all fun f hf => ?_
    simp only [List.mem_cons, List.not_mem_nil, or_false] at hf
    obtain rfl | rfl | rfl := hf
    · exact .condition (.like _ (by decide))
    · exact .negation (.condition (.like _ (by decide)))
    · exact .condition (.integer _ _ (by decide))
  have hplain : plainlySaid.Built := by
    refine .all fun f hf => ?_
    simp only [List.mem_cons, List.not_mem_nil, or_false] at hf
    obtain rfl | rfl | rfl := hf
    · exact .condition (.present (by decide))
    · exact .negation (.condition (.text _ _ (by decide)))
    · exact .condition (.text _ _ (by decide))
  have hnormal : starred.normalForm = plainlySaid.normalForm := by rfl
  exact ⟨hstarred, hplain, hnormal, (toString_eq_iff hstarred hplain).1.2 hnormal⟩

end Filter

end DirectoryAccess
