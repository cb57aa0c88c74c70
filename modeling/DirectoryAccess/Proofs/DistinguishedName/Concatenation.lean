import DirectoryAccess.Proofs.DistinguishedName.RoundTrip

/-!
# Joining the texts of names

The text of a name and the text of another one behind it, with a separator between them, are a text of the
joined name (`parse_append`), and the canonical text of a joined name is made up in the same way
(`toString_under`). The texts may be any that are read, not only canonical ones. What this rests on is that the
text of a name leaves no escape and no quote open, so that the separator is one, and that every cut in front of
it stays where it is (`RawName.cut_append`).
-/

namespace DirectoryAccess

namespace RawName

/-- The pieces of a name and behind them those of another one. -/
def followedBy (raw behind : RawName) : RawName := ⟨raw.first, raw.others ++ behind.first :: behind.others⟩

/-- What the first character of a text does: it decides whether an escape or a quote is open behind it, and
adds to the front of the pieces that the rest is cut into. What follows those pieces does not matter to it. -/
theorem cut_cons (c : Char) (escaped quoted : Bool) :
    ∃ (add : RawName → RawName) (escaped' quoted' : Bool),
      (∀ text rest, cut text escaped quoted (c :: rest) = (cut text escaped' quoted' rest).map add) ∧
      ∀ raw behind, add (raw.followedBy behind) = (add raw).followedBy behind := by
  by_cases hescaped : escaped = true
  · exact ⟨push c, false, quoted, fun _ _ => by rw [cut, if_pos hescaped], fun _ _ => rfl⟩
  by_cases hescape : c = '\\'
  · exact ⟨push c, true, quoted, fun _ _ => by rw [cut, if_neg hescaped, if_pos hescape], fun _ _ => rfl⟩
  by_cases hquote : c = '"'
  · exact ⟨push c, false, !quoted,
      fun _ _ => by rw [cut, if_neg hescaped, if_neg hescape, if_pos hquote], fun _ _ => rfl⟩
  by_cases hplus : c = '+' ∧ quoted = false
  · exact ⟨openPart, false, quoted,
      fun _ _ => by rw [cut, if_neg hescaped, if_neg hescape, if_neg hquote, if_pos hplus], fun _ _ => rfl⟩
  by_cases hseparator : (c = ',' ∨ c = ';') ∧ quoted = false
  · exact ⟨openRdn, false, quoted, fun _ _ => by
      rw [cut, if_neg hescaped, if_neg hescape, if_neg hquote, if_neg hplus, if_pos hseparator],
      fun _ _ => rfl⟩
  · exact ⟨push c, false, quoted, fun _ _ => by
      rw [cut, if_neg hescaped, if_neg hescape, if_neg hquote, if_neg hplus, if_neg hseparator],
      fun _ _ => rfl⟩

variable {text text' s t : List Char} {escaped quoted : Bool} {raw behind : RawName}

theorem cut_nil (h : cut text escaped quoted [] = .ok raw) :
    escaped = false ∧ quoted = false ∧ raw = ⟨⟨[], []⟩, []⟩ := by
  rw [cut] at h
  cases escaped <;> cases quoted <;> cases h
  exact ⟨rfl, rfl, rfl⟩

/-- What is cut into pieces behind the first character is known before that character is added. -/
theorem cut_cons_eq_ok {c : Char} (h : cut text escaped quoted (c :: s) = .ok raw) :
    ∃ (add : RawName → RawName) (escaped' quoted' : Bool) (raw' : RawName),
      (∀ text rest, cut text escaped quoted (c :: rest) = (cut text escaped' quoted' rest).map add) ∧
      (∀ raw behind, add (raw.followedBy behind) = (add raw).followedBy behind) ∧
      cut text escaped' quoted' s = .ok raw' ∧ add raw' = raw := by
  obtain ⟨add, escaped', quoted', hcut, hadd⟩ := cut_cons c escaped quoted
  rw [hcut] at h
  cases hrest : cut text escaped' quoted' s with
  | error fault => rw [hrest] at h; cases h
  | ok raw' =>
    rw [hrest] at h
    exact ⟨add, escaped', quoted', raw', hcut, hadd, hrest, Except.ok.inj h⟩

/-- A text that is cut into pieces is so whatever text a fault would be reported for. -/
theorem cut_congr (h : cut text escaped quoted s = .ok raw) : cut text' escaped quoted s = .ok raw := by
  induction s generalizing escaped quoted raw with
  | nil =>
    obtain ⟨rfl, rfl, rfl⟩ := cut_nil h
    rfl
  | cons c s ih =>
    obtain ⟨add, escaped', quoted', raw', hcut, -, hrest, rfl⟩ := cut_cons_eq_ok h
    rw [hcut, ih hrest]
    rfl

/-- **A separator between two texts cuts there.** Each of the texts is cut as it is on its own. -/
theorem cut_append {separator : Char} (hseparator : separator = ',' ∨ separator = ';')
    (hs : cut text escaped quoted s = .ok raw) (ht : cut text' false false t = .ok behind) :
    cut text' escaped quoted (s ++ separator :: t) = .ok (raw.followedBy behind) := by
  induction s generalizing escaped quoted raw with
  | nil =>
    -- no escape and no quote is open at the seam
    obtain ⟨rfl, rfl, rfl⟩ := cut_nil hs
    obtain rfl | rfl := hseparator <;> simp [cut, ht, Except.map, openRdn, followedBy]
  | cons c s ih =>
    obtain ⟨add, escaped', quoted', raw', hcut, hadd, hrest, rfl⟩ := cut_cons_eq_ok hs
    rw [List.cons_append, hcut, ih hrest, Except.map, hadd]

end RawName

namespace DistinguishedName

variable {a b : DistinguishedName}

/-! ### Reading joined texts -/

/-- A text that is not blank is read piece by piece. -/
theorem parseChars_eq_ok_iff {s : List Char} (h : Text.trim s ≠ []) :
    parseChars s = .ok a ↔
      ∃ raw, RawName.cut s false false s = .ok raw ∧
        (raw.first :: raw.others).mapM RelativeName.parse = .ok a.rdns := by
  obtain ⟨rdns⟩ := a
  rw [parseChars, if_neg (by simpa using h)]
  cases RawName.cut s false false s with
  | error fault => simp [bind, Except.bind]
  | ok raw =>
    simp only [bind, Except.bind, Except.ok.injEq, exists_eq_left']
    cases (raw.first :: raw.others).mapM RelativeName.parse <;> simp [pure, Except.pure]

/-- **Two texts with a separator between them are read as the joined name**, whatever the texts are, if both
are read and none is blank. -/
theorem parse_append {s t : String} {separator : Char} (hseparator : separator = ',' ∨ separator = ';')
    (hs : Text.trim s.toList ≠ []) (ht : Text.trim t.toList ≠ []) (ha : parse s = .ok a)
    (hb : parse t = .ok b) :
    parse (s ++ String.singleton separator ++ t) = .ok (a.under b) := by
  have htext : (s ++ String.singleton separator ++ t).toList = s.toList ++ separator :: t.toList := by simp
  have hblank : Text.trim (s.toList ++ separator :: t.toList) ≠ [] := by
    refine trim_ne_nil (c := separator) (by simp) ?_
    obtain rfl | rfl := hseparator <;> decide
  obtain ⟨raw, hraw, hrdns⟩ := (parseChars_eq_ok_iff hs).1 ha
  obtain ⟨behind, hbehind, hrdns'⟩ := (parseChars_eq_ok_iff ht).1 hb
  rw [parse, htext, parseChars_eq_ok_iff hblank]
  refine ⟨_, RawName.cut_append hseparator hraw (RawName.cut_congr hbehind), ?_⟩
  change ((raw.first :: raw.others) ++ (behind.first :: behind.others)).mapM RelativeName.parse = _
  rw [List.mapM_append, hrdns, hrdns']
  rfl

/-! ### Writing joined names -/

theorem intercalate_append {α : Type} (separator : List α) {l m : List (List α)} (hl : l ≠ []) (hm : m ≠ []) :
    separator.intercalate (l ++ m) = separator.intercalate l ++ separator ++ separator.intercalate m := by
  induction l with
  | nil => exact absurd rfl hl
  | cons x l ih =>
    by_cases hrest : l = []
    · subst hrest
      rw [List.singleton_append, List.intercalate_singleton, List.intercalate_cons_of_ne_nil hm]
    · rw [List.cons_append, List.intercalate_cons_of_ne_nil hrest,
        List.intercalate_cons_of_ne_nil (List.append_ne_nil_of_left_ne_nil hrest m), ih hrest]
      simp only [List.append_assoc]

theorem isRoot_eq_false_iff : a.isRoot = false ↔ a.rdns ≠ [] := by
  rw [isRoot, List.isEmpty_eq_false_iff]

/-- The canonical text of a joined name is that of its front, a comma and that of its end. -/
theorem toString_under (ha : a.isRoot = false) (hb : b.isRoot = false) :
    toString (a.under b) = toString a ++ "," ++ toString b := by
  have hfront : a.rdns.map RelativeName.render ≠ [] := by
    rwa [ne_eq, List.map_eq_nil_iff, ← ne_eq, ← isRoot_eq_false_iff]
  have hend : b.rdns.map RelativeName.render ≠ [] := by
    rwa [ne_eq, List.map_eq_nil_iff, ← ne_eq, ← isRoot_eq_false_iff]
  have hrender : (a.under b).render = a.render ++ [','] ++ b.render := by
    rw [render, under, List.map_append, intercalate_append _ hfront hend]
    rfl
  change String.ofList (a.under b).render = String.ofList a.render ++ String.ofList [','] ++ String.ofList b.render
  rw [hrender, String.ofList_append, String.ofList_append]

/-- Only the root has an empty text. -/
theorem toString_eq_empty_iff : toString a = "" ↔ a.isRoot = true := by
  obtain ⟨_ | ⟨r, rs⟩⟩ := a
  · exact iff_of_true rfl rfl
  · refine iff_of_false (fun hempty => ?_) nofun
    have hrender : render ⟨r :: rs⟩ = [] := String.ofList_injective hempty
    exact (render_spelling r rs).trim_ne_nil (by rw [hrender]; rfl)

end DistinguishedName

end DirectoryAccess
