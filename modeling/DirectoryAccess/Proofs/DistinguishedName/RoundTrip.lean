import DirectoryAccess.DistinguishedName.Canonical
import DirectoryAccess.Proofs.DistinguishedName.Reading
import Mathlib

/-!
# Names and their canonical texts

The canonical text of a name is one of its spellings (`render_spelling`), so that it is read as the name
again, up to the letter case of attribute types (`parse_toString`). As the text does not depend on that
letter case either, two names are equal exactly if their canonical texts are
(`beq_iff_toString_eq`), and all spellings of equal names are read as names with one canonical text
(`parse_spelling`).
-/

namespace DirectoryAccess

/-! ### Attribute types in lower case -/

theorem isAttributeType_toLower {key : String} (h : isAttributeType key = true) :
    isAttributeType key.toLower = true := by
  simp only [isAttributeType, Bool.and_eq_true, List.all_eq_true, String.toLower, String.toList_map,
    List.mem_map] at h ⊢
  refine ⟨by simpa using h.1, ?_⟩
  rintro _ ⟨c, hc, rfl⟩
  by_cases hu : c.isUpper = true
  · have hl : c.toLower.isAlpha = true := by
      rw [Char.isAlpha_toLower_eq_isAlpha, Char.isAlpha, hu, Bool.true_or]
    simp [Char.isAlphanum, hl]
  · rw [Char.toLower_eq_of_not_isUpper hu]
    exact h.2 c hc

theorem toLower_toLower (s : String) : s.toLower.toLower = s.toLower := by
  apply String.toList_inj.1
  simp [String.toLower, String.toList_map]

/-- The part with its attribute type in lower case. -/
def NamePart.inLowerCase (p : NamePart) : NamePart :=
  ⟨p.key.toLower, p.value, isAttributeType_toLower p.key_valid⟩

/-- The relative name with its attribute types in lower case. -/
def RelativeName.inLowerCase (r : RelativeName) : RelativeName :=
  ⟨r.first.inLowerCase, r.others.map NamePart.inLowerCase⟩

/-- The name with its attribute types in lower case. -/
def DistinguishedName.inLowerCase (n : DistinguishedName) : DistinguishedName :=
  ⟨n.rdns.map RelativeName.inLowerCase⟩

theorem RelativeName.parts_inLowerCase (r : RelativeName) :
    r.inLowerCase.parts = r.parts.map NamePart.inLowerCase := rfl

theorem NamePart.render_inLowerCase (p : NamePart) : p.inLowerCase.render = p.render := by
  simp only [NamePart.render, NamePart.inLowerCase, toLower_toLower]

theorem RelativeName.render_inLowerCase (r : RelativeName) : r.inLowerCase.render = r.render := by
  simp only [RelativeName.render, parts_inLowerCase, List.map_map, Function.comp_def,
    NamePart.render_inLowerCase]

/-- The texts of a part. -/
def NamePart.texts (p : NamePart) : String × String := (p.key, p.value)

theorem NamePart.texts_injective : Function.Injective NamePart.texts := by
  rintro ⟨k, v, hk⟩ ⟨k', v', hk'⟩ h
  simpa [NamePart.texts] using h

/-- The texts of the parts of a relative name. -/
def RelativeName.texts (r : RelativeName) : List (String × String) := r.parts.map NamePart.texts

theorem RelativeName.texts_injective : Function.Injective RelativeName.texts := by
  rintro ⟨p, ps⟩ ⟨q, qs⟩ h
  simp only [RelativeName.texts, RelativeName.parts, List.map_cons, List.cons.injEq] at h
  rw [NamePart.texts_injective h.1, List.map_injective_iff.2 NamePart.texts_injective h.2]

theorem RelativeName.fold_eq_texts (r : RelativeName) :
    r.fold .caseSensitive = r.inLowerCase.texts := by
  rw [RelativeName.texts, parts_inLowerCase, List.map_map]
  rfl

namespace DistinguishedName

theorem fold_eq_texts (n : DistinguishedName) :
    n.fold .caseSensitive = n.inLowerCase.rdns.map RelativeName.texts := by
  rw [inLowerCase, List.map_map]
  exact List.map_congr_left fun r _ => RelativeName.fold_eq_texts r

/-- Equal names are the same name in lower case. -/
theorem beq_iff_inLowerCase_eq (m n : DistinguishedName) :
    (m == n) = true ↔ m.inLowerCase = n.inLowerCase := by
  have hbeq : (m == n) = true ↔ m.fold .caseSensitive = n.fold .caseSensitive :=
    beq_iff_eq (a := m.fold .caseSensitive) (b := n.fold .caseSensitive)
  rw [hbeq, fold_eq_texts, fold_eq_texts]
  constructor
  · intro h
    have hrdns := List.map_injective_iff.2 RelativeName.texts_injective h
    cases hm : m.inLowerCase
    cases hn : n.inLowerCase
    rw [hm, hn] at hrdns
    exact congrArg DistinguishedName.mk hrdns
  · intro h
    rw [h]

theorem render_inLowerCase (n : DistinguishedName) : n.inLowerCase.render = n.render := by
  simp only [render, inLowerCase, List.map_map, Function.comp_def, RelativeName.render_inLowerCase]

/-! ### The canonical text is a spelling -/

/-- The forms of the characters after the first one in the canonical text of a value. -/
def restPieces : List Char → Pieces
  | [] => []
  | [c] => [(c, escapeLast c)]
  | c :: rest => (c, escapeInner c) :: restPieces rest

/-- The forms of the characters in the canonical text of a value. -/
def canonicalPieces : List Char → Pieces
  | [] => []
  | c :: rest => (c, escapeFirst c) :: restPieces rest

theorem valueOf_restPieces (v : List Char) : valueOf (restPieces v) = v := by
  fun_induction restPieces v <;> simp_all [valueOf]

theorem textOf_restPieces (v : List Char) : textOf (restPieces v) = escapeRest v := by
  fun_induction restPieces v <;> simp_all [textOf, escapeRest]

theorem escapeInner_spelling (c : Char) : CharSpelling false c (escapeInner c) := by
  unfold escapeInner
  split_ifs with hr hz
  · refine .escaped ?_
    simp only [isReserved, isEscapable, List.contains_iff_mem, List.mem_cons, List.not_mem_nil,
      or_false] at hr ⊢
    rcases hr with rfl | rfl | rfl | rfl | rfl | rfl | rfl <;> simp
  · subst hz
    exact .bytes (.cons (b := 0) (by decide) .nil)
  · refine .literal ?_
    simp [isReserved] at hr
    simp [standsForItself, hr]

theorem escapeLast_spelling (c : Char) : CharSpelling false c (escapeLast c) := by
  unfold escapeLast
  split_ifs with hs
  · subst hs; exact .escaped rfl
  · exact escapeInner_spelling c

theorem escapeFirst_spelling (c : Char) : CharSpelling false c (escapeFirst c) := by
  unfold escapeFirst
  split_ifs with hs
  · rcases hs with rfl | rfl <;> exact .escaped rfl
  · exact escapeInner_spelling c

theorem spelled_restPieces (v : List Char) : Spelled false (restPieces v) := by
  fun_induction restPieces v with
  | case1 => exact spelled_nil
  | case2 c => exact spelled_cons.2 ⟨escapeLast_spelling c, spelled_nil⟩
  | case3 c rest _ ih => exact spelled_cons.2 ⟨escapeInner_spelling c, ih⟩

theorem spelled_canonicalPieces (v : List Char) : Spelled false (canonicalPieces v) := by
  cases v with
  | nil => exact spelled_nil
  | cons c rest => exact spelled_cons.2 ⟨escapeFirst_spelling c, spelled_restPieces rest⟩

theorem escapeLast_ne_space (c : Char) : (c, escapeLast c) ≠ (' ', [' ']) := by
  intro h
  obtain ⟨rfl, h⟩ := Prod.mk.inj h
  exact absurd h (by decide)

theorem escapeFirst_ne_space (c : Char) : (c, escapeFirst c) ≠ (' ', [' ']) := by
  intro h
  obtain ⟨rfl, h⟩ := Prod.mk.inj h
  exact absurd h (by decide)

theorem getLast?_restPieces (v : List Char) : (restPieces v).getLast? ≠ some (' ', [' ']) := by
  fun_induction restPieces v with
  | case1 => simp
  | case2 c => simpa using escapeLast_ne_space c
  | case3 c rest hne ih =>
    cases hr : restPieces rest with
    | nil => exact absurd (by simpa [hr, valueOf] using valueOf_restPieces rest) hne
    | cons p l => rwa [hr, ← List.getLast?_cons_cons] at ih

theorem getLast?_canonicalPieces (v : List Char) :
    (canonicalPieces v).getLast? ≠ some (' ', [' ']) := by
  cases v with
  | nil => simp [canonicalPieces]
  | cons c rest =>
    cases hr : restPieces rest with
    | nil => simpa [canonicalPieces, hr] using escapeFirst_ne_space c
    | cons p l =>
      have hlast := getLast?_restPieces rest
      rwa [hr, ← List.getLast?_cons_cons (a := (c, escapeFirst c)), ← hr] at hlast

/-- The canonical text of a value spells it. -/
theorem escapeText_spelling (v : List Char) : ValueSpelling v (escapeText v) := by
  have hvalue : valueOf (canonicalPieces v) = v := by
    cases v with
    | nil => rfl
    | cons c rest => exact congrArg (c :: ·) (valueOf_restPieces rest)
  have htext : textOf (canonicalPieces v) = escapeText v := by
    cases v with
    | nil => rfl
    | cons c rest => exact congrArg (escapeFirst c ++ ·) (textOf_restPieces rest)
  have hhead : (canonicalPieces v).head? ≠ some (' ', [' ']) := by
    cases v with
    | nil => simp [canonicalPieces]
    | cons c rest => simpa [canonicalPieces] using escapeFirst_ne_space c
  have h := ValueSpelling.plain (spelled_canonicalPieces v) hhead (getLast?_canonicalPieces v)
  rwa [hvalue, htext] at h

theorem render_part_spelling (p : NamePart) : PartSpelling p.inLowerCase p.render := by
  have hvalue := escapeText_spelling p.value.toList
  have hblanks : Blanks [] := fun _ hc => by cases hc
  have h := @PartSpelling.mk p.inLowerCase [] [] _ 0 0 hblanks hblanks hvalue
  simpa [NamePart.render, NamePart.inLowerCase] using h

theorem render_parts_spelling (p : NamePart) (ps : List NamePart) :
    PartsSpelling p.inLowerCase (ps.map NamePart.inLowerCase)
      (List.intercalate ['+'] ((p :: ps).map NamePart.render)) := by
  induction ps generalizing p with
  | nil =>
    rw [List.map_singleton, List.intercalate_singleton]
    exact .last (render_part_spelling p)
  | cons q ps ih =>
    have h := PartsSpelling.plus (render_part_spelling p) (ih q)
    rw [List.map_cons, List.map_cons, List.map_cons, List.intercalate_cons_cons]
    simpa using h

/-- The canonical text of a name other than the root is one of its spellings. -/
theorem render_spelling (r : RelativeName) (rs : List RelativeName) :
    NameSpelling (inLowerCase ⟨r :: rs⟩).rdns (render ⟨r :: rs⟩) := by
  induction rs generalizing r with
  | nil =>
    rw [render, List.map_singleton, List.intercalate_singleton]
    exact .last (render_parts_spelling r.first r.others)
  | cons r' rs ih =>
    have h := NameSpelling.next (r := r.inLowerCase) (render_parts_spelling r.first r.others) (.inl rfl)
      (ih r')
    rw [render, List.map_cons, List.map_cons, List.intercalate_cons_cons]
    simpa [inLowerCase, render, RelativeName.render, RelativeName.parts] using h

/-! ### Reading the canonical text -/

theorem parseChars_render (n : DistinguishedName) : parseChars n.render = .ok n.inLowerCase := by
  obtain ⟨rdns⟩ := n
  cases rdns with
  | nil => rfl
  | cons r rs => exact parseChars_of_spelling (render_spelling r rs)

/-- A name is read from its canonical text, with its attribute types in lower case. -/
theorem parse_toString (n : DistinguishedName) : parse (toString n) = .ok n.inLowerCase := by
  rw [parse, ← parseChars_render n]
  exact congrArg parseChars String.toList_ofList

theorem toString_inLowerCase (n : DistinguishedName) : toString n.inLowerCase = toString n :=
  congrArg String.ofList (render_inLowerCase n)

/-- Names are equal exactly if their canonical texts are. -/
theorem beq_iff_toString_eq (m n : DistinguishedName) :
    (m == n) = true ↔ toString m = toString n := by
  rw [beq_iff_inLowerCase_eq]
  constructor
  · intro h
    rw [← toString_inLowerCase m, h, toString_inLowerCase]
  · intro h
    have hread := parse_toString m
    rw [h, parse_toString] at hread
    exact (Except.ok.inj hread).symm

/-- **The canonical text determines the name.** Every name is read back from its text, with its values
and with its attribute types in lower case; names are equal exactly if their texts are; and the text of
a name that was read from any text is read to a name with the same text. -/
theorem canonical_text :
    (∀ n : DistinguishedName, parse (toString n) = .ok n.inLowerCase) ∧
    (∀ m n : DistinguishedName, (m == n) = true ↔ toString m = toString n) ∧
    ∀ (s : String) (n : DistinguishedName), parse s = .ok n →
      (parse (toString n)).map toString = .ok (toString n) := by
  refine ⟨parse_toString, beq_iff_toString_eq, ?_⟩
  intro s n _
  rw [parse_toString, Except.map, toString_inLowerCase]

/-- A name in capital letters and with quotes, and its canonical text. -/
theorem canonical_text_of_quoted :
    ∃ n, parse "CN=\"a, b \" ;dc=x" = .ok n ∧ toString n = "cn=a\\, b\\ ,dc=x" ∧
      (parse (toString n)).map toString = .ok (toString n) := by
  have hread : parse "CN=\"a, b \" ;dc=x" =
      .ok ⟨[⟨⟨"CN", "a, b ", by decide +kernel⟩, []⟩, ⟨⟨"dc", "x", by decide +kernel⟩, []⟩]⟩ := by
    decide +kernel
  exact ⟨_, hread, by decide +kernel, canonical_text.2.2 _ _ hread⟩

/-! ### All spellings of a name -/

/-- **Every spelling of a name is read as that name**, with the attribute types as they stand in it and
the values without their escapes. So texts that spell equal names are read as equal names, and these have
one canonical text. -/
theorem parse_spelling {n : DistinguishedName} {s : String} (hs : NameSpelling n.rdns s.toList) :
    parse s = .ok n ∧
    ∀ (m : DistinguishedName) (t : String), NameSpelling m.rdns t.toList → (m == n) = true →
      parse t = .ok m ∧ toString m = toString n :=
  ⟨parseChars_of_spelling hs, fun m _ ht heq =>
    ⟨parseChars_of_spelling ht, (beq_iff_toString_eq m n).1 heq⟩⟩

/-- A name of two relative names, the first one of two parts. -/
def renee : DistinguishedName :=
  ⟨[⟨⟨"givenName", "né, ", by decide⟩, [⟨"initials", "x;\"", by decide⟩]⟩,
    ⟨⟨"Street", "a", by decide⟩, []⟩]⟩

/-- A spelling of the name with blanks, bytes and quotes. -/
theorem renee_spelling : NameSpelling renee.rdns
    "\u2003givenName\t= n\\c3\\A9\\,\\   + initials=\"x;\\22\" ;Street=a".toList := by
  have hplain : Spelled false
      [('n', ['n']), ('é', ['\\', 'c', '3', '\\', 'A', '9']), (',', ['\\', ',']), (' ', ['\\', ' '])] :=
    spelled_cons.2 ⟨.literal rfl, spelled_cons.2 ⟨.bytes (.cons rfl (.cons rfl .nil)),
      spelled_cons.2 ⟨.escaped rfl, spelled_cons.2 ⟨.escaped rfl, spelled_nil⟩⟩⟩⟩
  have hquoted : Spelled true [('x', ['x']), (';', [';']), ('"', ['\\', '2', '2'])] :=
    spelled_cons.2 ⟨.literal rfl, spelled_cons.2 ⟨.literal rfl,
      spelled_cons.2 ⟨.bytes (.cons rfl .nil), spelled_nil⟩⟩⟩
  have hlast : Spelled false [('a', ['a'])] := spelled_cons.2 ⟨.literal rfl, spelled_nil⟩
  have hne : ValueSpelling "né, ".toList _ := .plain hplain (by decide) (by decide)
  have hx : ValueSpelling "x;\"".toList _ := .quoted hquoted
  have ha : ValueSpelling "a".toList _ := .plain hlast (by decide) (by decide)
  have hgiven := @PartSpelling.mk ⟨"givenName", "né, ", by decide⟩ ['\u2003'] ['\t'] _ 1 2
    (List.forall_mem_singleton.2 rfl) (List.forall_mem_singleton.2 rfl) hne
  have hinitials := @PartSpelling.mk ⟨"initials", "x;\"", by decide⟩ [' '] [] _ 0 1
    (List.forall_mem_singleton.2 rfl) nofun hx
  have hstreet := @PartSpelling.mk ⟨"Street", "a", by decide⟩ [] [] _ 0 0 nofun nofun ha
  have hleaf := PartsSpelling.plus hgiven (.last hinitials)
  exact @NameSpelling.next ⟨_, [_]⟩ [⟨_, []⟩] _ _ ';' hleaf (.inr rfl)
    (@NameSpelling.last ⟨_, []⟩ _ (.last hstreet))

/-- The name is read from that spelling, and from its canonical text in lower case. -/
theorem parse_spelling_renee :
    parse "\u2003givenName\t= n\\c3\\A9\\,\\   + initials=\"x;\\22\" ;Street=a" = .ok renee ∧
    NameSpelling renee.inLowerCase.rdns (toString renee).toList ∧
    (renee.inLowerCase == renee) = true ∧
    parse (toString renee) = .ok renee.inLowerCase ∧
    toString renee.inLowerCase = toString renee := by
  obtain ⟨hread, hothers⟩ := parse_spelling renee_spelling
  have hcanonical : NameSpelling renee.inLowerCase.rdns (toString renee).toList := by
    have htext : (toString renee).toList = renee.render := String.toList_ofList
    rw [htext]
    exact render_spelling _ _
  have heq : (renee.inLowerCase == renee) = true :=
    (beq_iff_toString_eq _ _).2 (toString_inLowerCase renee)
  exact ⟨hread, hcanonical, heq, hothers _ _ hcanonical heq⟩

end DistinguishedName

end DirectoryAccess
