import DirectoryAccess.Proofs.DistinguishedName.Concatenation
import DirectoryAccess.Proofs.Wire.Talk

/-!
# The new name of an entry on the wire

An entry is given another name by its new relative name and the full name of its new parent. A server puts the
two together as texts. As texts are joined like the names that they stand for (`texts_join_as_names`), it arrives
at the full new name, below the base of the session and also where that parent is the root.
-/

namespace DirectoryAccess

open DistinguishedName

namespace Wire

/-- The text of the name that a relative name has below a parent; an empty text is the root. -/
def belowParent (relative parent : String) : String :=
  if parent = "" then relative else relative ++ "," ++ parent

/-- A child has the text of its relative name below the text of its parent. -/
theorem belowParent_toString (own : RelativeName) (parent : DistinguishedName) :
    belowParent (toString own) (toString parent) = toString (parent.child own) := by
  have hown : toString (⟨[own]⟩ : DistinguishedName) = toString own :=
    congrArg String.ofList List.intercalate_singleton
  have hchild : parent.child own = under ⟨[own]⟩ parent := rfl
  by_cases hroot : parent.isRoot = true
  · obtain ⟨rdns⟩ := parent
    obtain rfl : rdns = [] := List.isEmpty_iff.1 hroot
    exact hown.symm
  · rw [belowParent, if_neg (mt toString_eq_empty_iff.1 hroot), hchild,
      toString_under rfl (Bool.eq_false_iff.2 hroot), hown]

namespace Network

variable {session : Nat} {old new : DistinguishedName} {n : Network}

/-- What is sent to give an entry another name: the two texts that, put together, are the full new name. -/
theorem rename_recorded (session : Nat) (old : DistinguishedName) (n : Network) (h : new.isRoot = false) :
    ∃ own parent, new.leaf? = some own ∧ new.parent? = some parent ∧
      (rename session old new n).2.events = n.events ++
        [.requested session
          (.rename (fullText n.settings.base old) (toString own) (fullText n.settings.base parent))
          (session ∉ n.lost)] ∧
      belowParent (toString own) (fullText n.settings.base parent) = fullText n.settings.base new := by
  obtain ⟨_ | ⟨own, rest⟩⟩ := new
  · cases h
  · exact ⟨own, ⟨rest⟩, rfl, rfl, (perform_recorded rfl).1, belowParent_toString own _⟩

/-- **Texts are joined like the names that they stand for.** Two texts that are not blank and are read as names,
however these are spelled, are read as the joined name when a comma or a semicolon stands between them: its
relative names are those of the first and behind them those of the second. The canonical text of a joined name is
that of its front, a comma and that of its end, if neither is the root. What is sent to give an entry another
name is therefore put together to the full text of the new name, whatever the base and the old name. -/
theorem texts_join_as_names :
    (∀ (s t : String) (a b : DistinguishedName), Text.trim s.toList ≠ [] → Text.trim t.toList ≠ [] →
      parse s = .ok a → parse t = .ok b →
      parse (s ++ "," ++ t) = .ok (a.under b) ∧ parse (s ++ ";" ++ t) = .ok (a.under b) ∧
      (a.under b).rdns = a.rdns ++ b.rdns) ∧
    (∀ a b : DistinguishedName, a.isRoot = false → b.isRoot = false →
      toString (a.under b) = toString a ++ "," ++ toString b) ∧
    ∀ (session : Nat) (old new : DistinguishedName) (n : Network), new.isRoot = false →
      ∃ own parent, new.leaf? = some own ∧ new.parent? = some parent ∧
        (rename session old new n).2.events = n.events ++
          [.requested session
            (.rename (fullText n.settings.base old) (toString own) (fullText n.settings.base parent))
            (session ∉ n.lost)] ∧
        belowParent (toString own) (fullText n.settings.base parent) = fullText n.settings.base new := by
  have hcomma : String.singleton ',' = "," := rfl
  have hsemicolon : String.singleton ';' = ";" := rfl
  refine ⟨fun s t a b hs ht ha hb => ⟨?_, ?_, rfl⟩, fun a b => toString_under,
    fun session old new n => rename_recorded session old n⟩
  · rw [← hcomma]
    exact parse_append (.inl rfl) hs ht ha hb
  · rw [← hsemicolon]
    exact parse_append (.inr rfl) hs ht ha hb

/-- The text of a person's name, with a comma in quotes and a space that is escaped at its end. -/
def personText : String := "GN=\"a,b\" +title=c\\ "

/-- The text of a place's name, with a semicolon in quotes and spaces around. -/
def placeText : String := " l= \"x;y\" "

/-- The name of the person. -/
def personName : DistinguishedName := ⟨[⟨⟨"GN", "a,b", by decide⟩, [⟨"title", "c ", by decide⟩]⟩]⟩

/-- The name of the place. -/
def placeName : DistinguishedName := ⟨[⟨⟨"l", "x;y", by decide⟩, []⟩]⟩

/-- A client of the server of an organisation. -/
def staff : Network where
  settings :=
    { urls := [⟨"ldap://server", "ldap", some "server", none⟩]
      base := ⟨[⟨⟨"o", "org", by decide⟩, []⟩]⟩ }
  reach := reachAmong [("server", 389)]

/-- The texts are joined like the names, and the person is moved below the place. -/
theorem texts_join_as_names_person :
    Text.trim personText.toList ≠ [] ∧ Text.trim placeText.toList ≠ [] ∧
    parse personText = .ok personName ∧ parse placeText = .ok placeName ∧
    parse (personText ++ ";" ++ placeText) = .ok (personName.under placeName) ∧
    personName.isRoot = false ∧ placeName.isRoot = false ∧
    toString (personName.under placeName) = toString personName ++ "," ++ toString placeName ∧
    (personName.under placeName).isRoot = false ∧
    ∃ own parent, (personName.under placeName).leaf? = some own ∧
      (personName.under placeName).parent? = some parent ∧
      (rename 0 personName (personName.under placeName) staff).2.events =
        [.requested 0 (.rename (fullText staff.settings.base personName) (toString own)
          (fullText staff.settings.base parent)) true] ∧
      belowParent (toString own) (fullText staff.settings.base parent) =
        fullText staff.settings.base (personName.under placeName) := by
  obtain ⟨hread, hwritten, hrename⟩ := texts_join_as_names
  have hperson : Text.trim personText.toList ≠ [] := by decide +kernel
  have hplace : Text.trim placeText.toList ≠ [] := by decide +kernel
  have hpersonRead : parse personText = .ok personName := by decide +kernel
  have hplaceRead : parse placeText = .ok placeName := by decide +kernel
  obtain ⟨-, hsemicolon, -⟩ := hread personText placeText _ _ hperson hplace hpersonRead hplaceRead
  exact ⟨hperson, hplace, hpersonRead, hplaceRead, hsemicolon, rfl, rfl, hwritten _ _ rfl rfl, rfl,
    hrename 0 personName (personName.under placeName) staff rfl⟩

end Network

end Wire

end DirectoryAccess
