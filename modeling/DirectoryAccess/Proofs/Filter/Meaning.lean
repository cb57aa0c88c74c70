import DirectoryAccess.Filter.Basic
import DirectoryAccess.Filter.Evaluation
import Mathlib

/-!
# What the text of a filter means

A filter of equalities, presences and connectives says of a set of attributes what can be read off the
tree (`holds`). The evaluation of its text comes to the same result (`evaluate_toString`), whatever
characters the values are made of: no value ends its condition, opens a group or is taken for a star.
-/

namespace DirectoryAccess

namespace Filter

/-! ### Filters as trees -/

/-- Whether a character may stand in the name of an attribute. -/
def isNameChar (c : Char) : Bool := c.isAlphanum || c == '-' || c == '.' || c == ';'

/-- Whether a text can be the name of an attribute. -/
def isName (s : String) : Bool := !s.toList.isEmpty && s.toList.all isNameChar

/-- The filters that a directory in memory understands: equalities with texts and integers, presences,
and what conjunction, disjunction and negation make of them. -/
inductive Plain : Filter → Prop where
  /-- The attribute equals the text. -/
  | text {attr : String} (s : String) : isName attr = true → Plain (.compare attr .equal (.text s))
  /-- The attribute equals the integer. -/
  | integer {attr : String} (n : Int64) : isName attr = true →
      Plain (.compare attr .equal (.integer n))
  /-- The attribute is present. -/
  | present {attr : String} : isName attr = true → Plain (.present attr)
  /-- All of any number of filters hold. -/
  | all {filters : List Filter} : (∀ f ∈ filters, Plain f) → Plain (.all filters)
  /-- One of any number of filters holds. -/
  | any {filters : List Filter} : (∀ f ∈ filters, Plain f) → Plain (.any filters)
  /-- The filter does not hold. -/
  | negation {f : Filter} : Plain f → Plain (.negation f)

/-- Whether the attribute has a textual value that is this one up to letter case. -/
def hasValue (a : Attributes) (attr value : String) : Bool :=
  (a.text? attr).any fun values => values.any fun v => v.toLower == value.toLower

mutual

/-- What a filter says of the attributes, read off the tree. The other kinds of conditions are not
understood, and no set of attributes satisfies them. -/
def holds (a : Attributes) : Filter → Bool
  | .compare attr .equal (.text s) => hasValue a attr s
  | .compare attr .equal (.integer n) => hasValue a attr (toString n.toInt)
  | .present attr => (a.text? attr).isSome || (a.binary? attr).isSome
  | .all filters => (holdsList a filters).all id
  | .any filters => (holdsList a filters).any id
  | .negation f => !holds a f
  | _ => false

/-- What several filters say of the attributes, one by one. -/
def holdsList (a : Attributes) : List Filter → List Bool
  | [] => []
  | f :: rest => holds a f :: holdsList a rest

end

theorem holdsList_eq_map (a : Attributes) (filters : List Filter) :
    holdsList a filters = filters.map (holds a) := by
  induction filters with
  | nil => rw [holdsList, List.map_nil]
  | cons f rest ih => rw [holdsList, ih, List.map_cons]

theorem holds_all (a : Attributes) (filters : List Filter) :
    holds a (.all filters) = filters.all (holds a) := by
  rw [holds, holdsList_eq_map, List.all_map]
  rfl

theorem holds_any (a : Attributes) (filters : List Filter) :
    holds a (.any filters) = filters.any (holds a) := by
  rw [holds, holdsList_eq_map, List.any_map]
  rfl

/-! ### Values -/

/-- The characters that an escape stands for. -/
def isReserved (c : Char) : Bool := c == '*' || c == '(' || c == ')' || c == '\\' || c == '\x00'

theorem escapeFilterChar_of_not_reserved {c : Char} (h : isReserved c = false) :
    escapeFilterChar c = [c] := by
  unfold escapeFilterChar
  split
  all_goals first
    | rfl
    | cases h

theorem unescapeCondition?_cons {c : Char} (hc : c ≠ '\\') (t : List Char) :
    unescapeCondition? (c :: t) = (unescapeCondition? t).map (c :: ·) := by
  rw [unescapeCondition?]
  · cases unescapeCondition? t <;> rfl
  all_goals
    intros
    simp_all

/-- Freeing a text of its escapes undoes the escape of its first character. -/
theorem unescapeCondition?_escapeFilterChar_append (c : Char) (t : List Char) :
    unescapeCondition? (escapeFilterChar c ++ t) = (unescapeCondition? t).map (c :: ·) := by
  by_cases hc : isReserved c = true
  · simp only [isReserved, Bool.or_eq_true, beq_iff_eq] at hc
    obtain (((rfl | rfl) | rfl) | rfl) | rfl := hc
    all_goals
      simp only [escapeFilterChar, List.cons_append, List.nil_append, unescapeCondition?]
      cases unescapeCondition? t <;> rfl
  · rw [Bool.not_eq_true] at hc
    have hback : c ≠ '\\' := by
      rintro rfl
      cases hc
    rw [escapeFilterChar_of_not_reserved hc, List.singleton_append, unescapeCondition?_cons hback]

/-- Freeing an escaped text of its escapes gives the text back. -/
theorem unescapeCondition?_escapeFilterText (s : List Char) :
    unescapeCondition? (escapeFilterText s) = some s := by
  induction s with
  | nil => rfl
  | cons c s ih =>
    rw [escapeFilterText, List.flatMap_cons, unescapeCondition?_escapeFilterChar_append]
    exact congrArg (Option.map (c :: ·)) ih

/-- In an escaped text no reserved character is left but the backslash. -/
theorem isReserved_of_mem_escapeFilterText {s : List Char} {c : Char} (h : c ∈ escapeFilterText s)
    (hc : c ≠ '\\') : isReserved c = false := by
  obtain ⟨c', -, hmem⟩ := List.mem_flatMap.1 h
  by_cases hc' : isReserved c' = true
  · simp only [isReserved, Bool.or_eq_true, beq_iff_eq] at hc'
    obtain (((rfl | rfl) | rfl) | rfl) | rfl := hc'
    all_goals
      simp only [escapeFilterChar, List.mem_cons, List.not_mem_nil, or_false, hc, false_or] at hmem
      obtain rfl | rfl := hmem <;> rfl
  · rw [Bool.not_eq_true] at hc'
    rw [escapeFilterChar_of_not_reserved hc', List.mem_singleton] at hmem
    rwa [hmem]

theorem escapeFilterText_of_not_reserved {s : List Char} (h : ∀ c ∈ s, isReserved c = false) :
    escapeFilterText s = s := by
  induction s with
  | nil => rfl
  | cons c s ih =>
    rw [escapeFilterText, List.flatMap_cons,
      escapeFilterChar_of_not_reserved (h c List.mem_cons_self)]
    exact congrArg (c :: ·) (ih fun c' hc' => h c' (List.mem_cons_of_mem c hc'))

theorem isReserved_of_isDigit {c : Char} (h : c.isDigit = true) : isReserved c = false := by
  rw [Bool.eq_false_iff]
  intro hc
  simp only [isReserved, Bool.or_eq_true, beq_iff_eq] at hc
  obtain (((rfl | rfl) | rfl) | rfl) | rfl := hc
  all_goals cases h

/-- An integer is written with digits and perhaps a sign. -/
theorem isReserved_of_mem_toString {k : Int} {c : Char} (h : c ∈ (toString k).toList) :
    isReserved c = false := by
  have hdigits {n : Nat} (h : c ∈ n.repr.toList) : isReserved c = false := by
    rw [Nat.repr_eq_ofList_toDigits, String.toList_ofList] at h
    exact isReserved_of_isDigit (Nat.isDigit_of_mem_toDigits (by decide) (by decide) h)
  have hrepr : toString k = k.repr := rfl
  rw [hrepr, Int.repr_eq_if] at h
  split at h
  · exact hdigits h
  · rw [String.toList_append, List.mem_append] at h
    obtain h | h := h
    · obtain rfl : c = '-' := by simpa using h
      rfl
    · exact hdigits h

/-- An integer stands in a filter as its decimal text does. -/
theorem encode_integer (n : Int64) :
    (FilterValue.integer n).encode = escapeFilterText (toString n.toInt).toList :=
  (escapeFilterText_of_not_reserved fun _ => isReserved_of_mem_toString).symm

/-! ### Conditions -/

theorem mem_of_isName {attr : String} (h : isName attr = true) :
    (∃ c rest, attr.toList = c :: rest) ∧ ∀ c ∈ attr.toList, isNameChar c = true := by
  rw [isName, Bool.and_eq_true, List.all_eq_true] at h
  refine ⟨?_, h.2⟩
  cases hattr : attr.toList with
  | nil =>
    rw [hattr] at h
    cases h.1
  | cons c rest => exact ⟨c, rest, rfl⟩

/-- The characters that mean something between the parentheses of a filter. -/
def isMark (c : Char) : Bool := c == '(' || c == ')' || c == '&' || c == '|' || c == '!' || c == '='

theorem isMark_of_isNameChar {c : Char} (h : isNameChar c = true) : isMark c = false := by
  rw [Bool.eq_false_iff]
  intro hc
  simp only [isMark, Bool.or_eq_true, beq_iff_eq] at hc
  obtain ((((rfl | rfl) | rfl) | rfl) | rfl) | rfl := hc
  all_goals cases h

variable {a : Attributes} {attr : String}

/-- A condition is cut at the first equals sign, which does not belong to the name. -/
theorem cut_condition (h : isName attr = true) (value : List Char) :
    (attr.toList ++ '=' :: value).takeWhile (· != '=') = attr.toList ∧
      (attr.toList ++ '=' :: value).dropWhile (· != '=') = '=' :: value := by
  have hname : ∀ c ∈ attr.toList, (c != '=') = true := by
    intro c hc
    rw [bne_iff_ne]
    rintro rfl
    cases (mem_of_isName h).2 _ hc
  constructor
  · rw [List.takeWhile_append_of_pos hname, List.takeWhile_cons_of_neg (by simp), List.append_nil]
  · rw [List.dropWhile_append_of_pos hname, List.dropWhile_cons_of_neg (by simp)]

/-- An equality with an escaped text holds if the attribute has that text as a value, also where the
text is a star. -/
theorem conditionHolds_equal (h : isName attr = true) (s : String) :
    conditionHolds a (attr.toList ++ '=' :: escapeFilterText s.toList) = .ok (hasValue a attr s) := by
  obtain ⟨hfront, hback⟩ := cut_condition h (escapeFilterText s.toList)
  have hstar : escapeFilterText s.toList ≠ ['*'] := by
    intro hs
    have hmem : '*' ∈ escapeFilterText s.toList := hs ▸ List.mem_cons_self
    cases isReserved_of_mem_escapeFilterText hmem (by decide)
  rw [conditionHolds, hfront, hback]
  split
  · next heq => cases heq
  · next heq => exact absurd (List.cons.inj heq).2 hstar
  · next heq =>
    obtain rfl := (List.cons.inj heq).2
    rw [unescapeCondition?_escapeFilterText]
    dsimp only
    rw [String.ofList_toList, String.ofList_toList, hasValue]
    cases a.text? attr with
    | none => rfl
    | some values =>
      refine congrArg Except.ok (congrArg values.any ?_)
      funext v
      exact Bool.beq_comm

/-- A star alone asks whether the attribute is present. -/
theorem conditionHolds_present (h : isName attr = true) :
    conditionHolds a (attr.toList ++ ['=', '*']) = .ok (a.contains attr) := by
  obtain ⟨hfront, hback⟩ := cut_condition h ['*']
  rw [conditionHolds, hfront, hback, String.ofList_toList]
  rfl

/-! ### Reading -/

/-- Wherever a filter may stand, reading the text comes to the value, and to nothing else. -/
def Delivers (a : Attributes) (text : List Char) (value : Bool) : Prop :=
  ∀ groups rest, readChars a (.between groups) (text ++ rest) =
    (deliver value groups).bind fun state => readChars a state rest

/-- After the one member of a negation no parenthesis may be opened. -/
theorem readChar_open (groups : List Group) :
    readChar a (.between groups) '(' = .ok (.opened groups) ∨
      ∀ value, deliver value groups = .error .notAFilter ∧
        readChar a (.between groups) '(' = .error .notAFilter := by
  match groups with
  | [] | .all _ :: _ | .any _ :: _ | .negation none :: _ => exact .inl rfl
  | .negation (some _) :: _ => exact .inr fun _ => ⟨rfl, rfl⟩

/-- It is enough to look at the text after its first parenthesis. -/
theorem delivers_of_opened {text : List Char} {value : Bool}
    (h : ∀ groups rest, readChars a (.opened groups) (text ++ ')' :: rest) =
      (deliver value groups).bind fun state => readChars a state rest) :
    Delivers a (inParens text) value := by
  intro groups rest
  have htext : inParens text ++ rest = '(' :: (text ++ ')' :: rest) := by simp [inParens]
  rw [htext, readChars]
  obtain hopen | hclosed := readChar_open (a := a) groups
  · rw [hopen]
    exact h groups rest
  · rw [(hclosed value).1, (hclosed value).2]
    rfl

/-- A condition is read up to the parenthesis that ends it. -/
theorem readChars_condition (groups : List Group) (read : List Char) {text : List Char}
    (h : ')' ∉ text) (rest : List Char) :
    readChars a (.condition groups read) (text ++ ')' :: rest) =
      ((conditionHolds a (read.reverse ++ text)).bind (deliver · groups)).bind
        fun state => readChars a state rest := by
  induction text generalizing read with
  | nil => rw [List.nil_append, readChars, readChar, List.append_nil]
  | cons c text ih =>
    rw [List.mem_cons, not_or] at h
    have hread : readChar a (.condition groups read) c = .ok (.condition groups (c :: read)) := by
      rw [readChar]
      rintro rfl
      exact h.1 rfl
    rw [List.cons_append, readChars, hread]
    refine (ih (c :: read) h.2).trans ?_
    rw [List.reverse_cons, List.append_assoc, List.singleton_append]

/-- A condition that begins with a name delivers what it says. -/
theorem delivers_condition {value : List Char} {holds : Bool} (hname : isName attr = true)
    (hvalue : ')' ∉ value) (h : conditionHolds a (attr.toList ++ '=' :: value) = .ok holds) :
    Delivers a (inParens (attr.toList ++ '=' :: value)) holds := by
  refine delivers_of_opened fun groups rest => ?_
  obtain ⟨⟨c, name, hattr⟩, hchars⟩ := mem_of_isName hname
  have hunmarked : ∀ c' ∈ attr.toList, isMark c' = false := fun c' hc' =>
    isMark_of_isNameChar (hchars c' hc')
  have hc : isMark c = false := hunmarked c (hattr ▸ List.mem_cons_self)
  have hopened : readChar a (.opened groups) c = .ok (.condition groups [c]) := by
    rw [readChar]
    all_goals
      rintro rfl
      cases hc
  have hclosing : ')' ∉ name ++ '=' :: value := by
    rw [List.mem_append, List.mem_cons]
    rintro (hmem | hmem | hmem)
    · cases hunmarked _ (hattr ▸ List.mem_cons_of_mem c hmem)
    · cases hmem
    · exact hvalue hmem
  rw [hattr, List.cons_append, List.cons_append, readChars, hopened]
  refine (readChars_condition groups [c] hclosing rest).trans ?_
  rw [List.reverse_singleton, List.singleton_append, ← List.cons_append, ← hattr, h]
  rfl

/-- The members of a group are read one after the other, and the group takes up the value of each. -/
theorem readChars_members (group : Bool → Group) (op : Bool → Bool → Bool) {filters : List Filter}
    (hdeliver : ∀ soFar value groups,
      deliver value (group soFar :: groups) = .ok (.between (group (op soFar value) :: groups)))
    (hclose : ∀ soFar groups, readChar a (.between (group soFar :: groups)) ')' = deliver soFar groups)
    (hmembers : ∀ f ∈ filters, Delivers a f.encode (f.holds a))
    (soFar : Bool) (groups : List Group) (rest : List Char) :
    readChars a (.between (group soFar :: groups)) (encodeList filters ++ ')' :: rest) =
      (deliver (filters.foldl (fun soFar f => op soFar (f.holds a)) soFar) groups).bind
        fun state => readChars a state rest := by
  induction filters generalizing soFar with
  | nil =>
    rw [encodeList, List.nil_append, readChars, hclose]
    rfl
  | cons f filters ih =>
    rw [encodeList, List.append_assoc, hmembers f List.mem_cons_self, hdeliver]
    exact ih (fun g hg => hmembers g (List.mem_cons_of_mem f hg)) (op soFar (f.holds a))

theorem foldl_and (p : Filter → Bool) (filters : List Filter) (b : Bool) :
    filters.foldl (fun soFar f => soFar && p f) b = (b && filters.all p) := by
  induction filters generalizing b with
  | nil => simp
  | cons f filters ih => simp [ih, Bool.and_assoc]

theorem foldl_or (p : Filter → Bool) (filters : List Filter) (b : Bool) :
    filters.foldl (fun soFar f => soFar || p f) b = (b || filters.any p) := by
  induction filters generalizing b with
  | nil => simp
  | cons f filters ih => simp [ih, Bool.or_assoc]

/-- Wherever the text of a filter stands, it is read as the filter. -/
theorem Plain.delivers {f : Filter} (h : f.Plain) (a : Attributes) :
    Delivers a f.encode (f.holds a) := by
  have hequal {attr : String} (hname : isName attr = true) (s : String) :
      Delivers a (inParens (attr.toList ++ '=' :: escapeFilterText s.toList)) (hasValue a attr s) :=
    delivers_condition hname
      (fun hmem => by cases isReserved_of_mem_escapeFilterText hmem (by decide))
      (conditionHolds_equal hname s)
  induction h with
  | text s hname =>
    rw [encode, holds, List.append_assoc]
    exact hequal hname s
  | integer n hname =>
    rw [encode, holds, List.append_assoc, encode_integer]
    exact hequal hname _
  | present hname =>
    rw [encode, holds]
    exact delivers_condition hname (by decide) (conditionHolds_present hname)
  | @all filters _ ih =>
    rw [encode, holds_all]
    refine delivers_of_opened fun groups rest => ?_
    have hread := readChars_members .all and (fun _ _ _ => rfl) (fun _ _ => rfl)
      ih true groups rest
    rw [foldl_and, Bool.true_and] at hread
    exact hread
  | @any filters _ ih =>
    rw [encode, holds_any]
    refine delivers_of_opened fun groups rest => ?_
    have hread := readChars_members .any or (fun _ _ _ => rfl) (fun _ _ => rfl)
      ih false groups rest
    rw [foldl_or, Bool.false_or] at hread
    exact hread
  | @negation f _ ih =>
    rw [encode, holds]
    refine delivers_of_opened fun groups rest => ?_
    exact ih (.negation none :: groups) (')' :: rest)

/-! ### The whole text -/

theorem exists_encode_eq_inParens {f : Filter} (h : f.Plain) : ∃ text, f.encode = inParens text := by
  cases h <;> exact ⟨_, by rw [encode]⟩

/-- There are no blanks around a text in parentheses. -/
theorem trim_inParens (text : List Char) : Text.trim (inParens text) = inParens text := by
  have hfront : Text.isBlank '(' = false := by decide
  have hback : Text.isBlank ')' = false := by decide
  simp [Text.trim, Text.dropEndWhile, inParens, hfront, hback]

/-- **The text of a filter is evaluated to what the filter says**, for every set of attributes: the whole
text is read, no escape in it is malformed, and no value, whatever characters it is made of, changes the
structure of the filter. -/
theorem evaluate_toString {f : Filter} (h : f.Plain) (a : Attributes) :
    evaluate (toString f).toList a = .ok (f.holds a) := by
  have htext : (toString f).toList = f.encode := String.toList_ofList
  obtain ⟨text, hparens⟩ := exists_encode_eq_inParens h
  have hread := h.delivers a [] []
  rw [List.append_nil] at hread
  rw [evaluate, htext, hparens, trim_inParens, ← hparens, hread]
  rfl

/-- A filter whose values are full of marks. -/
def marked : Filter :=
  .all [.compare "CN" .equal (.text "*)(cn=*\\\x00"), .negation (.compare "cn" .equal (.text "*")),
    .compare "uid-7" .equal (.integer (-7)), .present "photo", .negation (.any [])]

/-- Attributes that satisfy it. -/
def markedAttributes : Attributes :=
  .ofLists [("cn", ["b", "*)(CN=*\\\x00"]), ("uid-7", ["-7"])] [("photo", [[0]])]

/-- The marks in the values are not taken for marks of the filter. -/
theorem evaluate_toString_marked :
    marked.Plain ∧ marked.holds markedAttributes = true ∧
      evaluate (toString marked).toList markedAttributes = .ok true := by
  have hplain : marked.Plain := by
    refine .all fun f hf => ?_
    simp only [List.mem_cons, List.not_mem_nil, or_false] at hf
    obtain rfl | rfl | rfl | rfl | rfl := hf
    · exact .text _ (by decide)
    · exact .negation (.text _ (by decide))
    · exact .integer _ (by decide)
    · exact .present (by decide)
    · exact .negation (.any nofun)
  have hholds : marked.holds markedAttributes = true := by cbv
  have hevaluate := evaluate_toString hplain markedAttributes
  simp only [hholds] at hevaluate
  exact ⟨hplain, hholds, hevaluate⟩

end Filter

end DirectoryAccess
