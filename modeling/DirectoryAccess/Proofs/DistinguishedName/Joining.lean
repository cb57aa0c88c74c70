import DirectoryAccess.Proofs.DistinguishedName.Hierarchy
import Mathlib

/-!
# Joining and stripping names

What is left of a name in front of another one is the name which, joined to the other one, gives the first
again (`relativeTo?_eq_some_iff`). What is compared of a joined name is what is compared of its two ends, so
that the laws of joining, of stripping and of the hierarchy are laws of lists and their ends
(`joining_laws`).
-/

namespace DirectoryAccess.DistinguishedName

variable {a b c r s x : DistinguishedName}

/-! ### Stripping -/

/-- A name is what is left in front of `a` exactly if, joined to some spelling of `a`, it is `n`. -/
theorem relativeTo?_eq_some_iff {n : DistinguishedName} :
    n.relativeTo? a = some r ↔ ∃ a', a'.key = a.key ∧ r.under a' = n := by
  constructor
  · intro h
    rw [relativeTo?, relativeToWith?] at h
    split at h
    · next hmatch =>
      cases h
      exact ⟨⟨n.rdns.drop (n.length - a.length)⟩, beq_iff_key_eq.1 hmatch.2,
        congrArg mk (List.take_append_drop _ _)⟩
    · cases h
  · rintro ⟨a', hkey, rfl⟩
    have hlen : a'.rdns.length = a.length := by
      rw [← length_key a, ← hkey, length_key]
      rfl
    exact (relativeToWith?_append hlen).trans (if_pos (beq_iff_key_eq.2 hkey))

/-- What has been stripped off a name can be joined to it again. -/
theorem key_of_relativeTo? (h : a.relativeTo? b = some r) : a.key = r.key ++ b.key := by
  obtain ⟨b', hkey, rfl⟩ := relativeTo?_eq_some_iff.1 h
  rw [key_under, hkey]

/-- A name is what is left of `a` in front of `b`, up to the letter case of attribute types, exactly if it gives
`a` when it is joined to `b`, up to that letter case. -/
theorem relativeTo?_beq_some_iff : (a.relativeTo? b == some r) = true ↔ a.key = r.key ++ b.key := by
  constructor
  · intro h
    cases hleft : a.relativeTo? b with
    | none => rw [hleft] at h; cases h
    | some t =>
      rw [hleft, Option.some_beq_some, beq_iff_key_eq] at h
      rw [key_of_relativeTo? hleft, h]
  · intro hkey
    have hwithin : b.key <:+ a.key := ⟨_, hkey.symm⟩
    obtain ⟨t, ht⟩ := Option.isSome_iff_exists.1 (isSome_relativeTo?_iff.2 hwithin)
    rw [ht, Option.some_beq_some, beq_iff_key_eq]
    exact List.append_cancel_right ((key_of_relativeTo? ht).symm.trans hkey)

/-- The name that is left is the only one that can be joined to `b` to give `a`. -/
theorem under_beq_iff_of_key_eq (h : a.key = r.key ++ b.key) :
    (s.under b == a) = true ↔ (s == r) = true := by
  rw [beq_iff_key_eq, beq_iff_key_eq, key_under, h, List.append_left_inj]

/-- Stripping in two steps leaves what stripping in one step leaves. -/
theorem relativeTo?_trans (h : (a.relativeTo? b == some r) = true) (h' : (b.relativeTo? c == some s) = true) :
    (a.relativeTo? c == some (r.under s)) = true := by
  rw [relativeTo?_beq_some_iff] at h h' ⊢
  rw [h, h', key_under, List.append_assoc]

/-! ### The hierarchy -/

theorem not_isBelow_self (n : DistinguishedName) : ¬n.isBelow n = true :=
  fun h => Nat.lt_irrefl _ (isBelow_iff.1 h).2

theorem isBelow_trans (h : a.isBelow b = true) (h' : b.isBelow c = true) : a.isBelow c = true :=
  isBelow_of_isWithin (isWithin_of_isBelow h) h'

/-- The children of a name are the names whose parent it is. -/
theorem isChildOf_iff_parent? : a.isChildOf b = true ↔ (a.parent? == some b) = true := by
  obtain ⟨rdns⟩ := a
  rw [isChildOf_iff]
  cases rdns with
  | nil => exact iff_of_false (fun ⟨_, h⟩ => nomatch h) nofun
  | cons own rest =>
    have hkey : key ⟨own :: rest⟩ = own.fold .caseSensitive :: key ⟨rest⟩ := rfl
    change _ ↔ (⟨rest⟩ == b) = true
    rw [hkey, beq_iff_key_eq]
    exact ⟨fun ⟨_, h⟩ => (List.cons.inj h).2, fun h => ⟨_, congrArg _ h⟩⟩

/-- No name lies between a child and its parent. -/
theorem not_between_of_isChildOf (h : a.isChildOf b = true) (hax : a.isBelow x = true) :
    ¬x.isBelow b = true := by
  intro hxb
  have hlen := length_of_isChildOf h
  have hax' := (isBelow_iff.1 hax).2
  have hxb' := (isBelow_iff.1 hxb).2
  omega

/-- Between a name and one below it that is no child of it there is a third one, the parent of the latter. -/
theorem isChildOf_or_exists_between (h : a.isBelow b = true) :
    a.isChildOf b = true ∨ ∃ x, a.isBelow x = true ∧ x.isBelow b = true := by
  obtain ⟨rdns⟩ := a
  cases rdns with
  | nil => exact absurd (isBelow_iff.1 h).2 (Nat.not_lt_zero _)
  | cons own rest =>
    have hup : isChildOf ⟨own :: rest⟩ ⟨rest⟩ = true := isChildOf_iff_parent?.2 (beq_self ⟨rest⟩)
    have hwithin : isWithin ⟨rest⟩ b = true :=
      isWithin_of_isChildOf hup (isWithin_of_isBelow h) (isBelow_iff.1 h).2
    obtain hkey | hbelow := isWithin_iff_isBelow_or.1 hwithin
    · exact .inl (isChildOf_congr hkey ▸ hup)
    · exact .inr ⟨⟨rest⟩, isBelow_of_isChildOf hup, hbelow⟩

/-- The children of a name are the names immediately below it. -/
theorem isChildOf_iff_covers :
    a.isChildOf b = true ↔
      a.isBelow b = true ∧ ¬∃ x, a.isBelow x = true ∧ x.isBelow b = true := by
  constructor
  · intro h
    exact ⟨isBelow_of_isChildOf h, fun ⟨_, hax, hxb⟩ => not_between_of_isChildOf h hax hxb⟩
  · rintro ⟨h, hnone⟩
    exact (isChildOf_or_exists_between h).resolve_right hnone

/-- What is left of a child in front of its parent is its own part. -/
theorem relativeTo?_of_isChildOf (h : a.isChildOf b = true) : a.relativeTo? b = some ⟨a.rdns.take 1⟩ := by
  have hparent := isChildOf_iff_parent?.1 h
  obtain ⟨rdns⟩ := a
  cases rdns with
  | nil => cases hparent
  | cons own rest => exact relativeTo?_eq_some_iff.2 ⟨⟨rest⟩, beq_iff_key_eq.1 hparent, rfl⟩

/-- **Joining and stripping names are inverse and define the hierarchy.** What is stripped off a joined name
is what was joined; what is left of `a` in front of `b`, joined to `b`, is `a`, and it is the only such
name; stripping in two steps is stripping in one. For this, what is left may be given in any letter case of the
attribute types. Something is left exactly if the names are equal or one
lies below the other. To lie below is a strict order and to lie above is its converse. The children of a
name are the names whose parent it is, which are those below it with no name in between. -/
theorem joining_laws (a b c : DistinguishedName) :
    (a.under b).relativeTo? b = some a ∧
    (∀ r, (a.relativeTo? b == some r) = true →
      (r.under b == a) = true ∧ ∀ r', (r'.under b == a) = true ↔ (r' == r) = true) ∧
    (∀ r s, (a.relativeTo? b == some r) = true → (b.relativeTo? c == some s) = true →
      (a.relativeTo? c == some (r.under s)) = true) ∧
    ((a.relativeTo? b).isSome = true ↔ (a == b) = true ∨ a.isBelow b = true) ∧
    ¬a.isBelow a = true ∧
    (a.isBelow b = true → b.isBelow c = true → a.isBelow c = true) ∧
    (a.isAbove b = true ↔ b.isBelow a = true) ∧
    (a.isChildOf b = true ↔ (a.parent? == some b) = true) ∧
    (a.isChildOf b = true ↔
      a.isBelow b = true ∧ ¬∃ x, a.isBelow x = true ∧ x.isBelow b = true) := by
  refine ⟨relativeTo?_eq_some_iff.2 ⟨b, rfl, rfl⟩, fun r h => ⟨?_, fun r' => ?_⟩,
    fun r s => relativeTo?_trans, ?_, not_isBelow_self a, isBelow_trans, Iff.rfl, isChildOf_iff_parent?,
    isChildOf_iff_covers⟩
  · exact (under_beq_iff_of_key_eq (relativeTo?_beq_some_iff.1 h)).2 (beq_self r)
  · exact under_beq_iff_of_key_eq (relativeTo?_beq_some_iff.1 h)
  · rw [isSome_relativeTo?_iff, ← isWithin_iff, isWithin, Bool.or_eq_true]

theorem isAttributeType_cn : isAttributeType "cn" = true := by decide

theorem isAttributeType_ou : isAttributeType "ou" = true := by decide

theorem isAttributeType_OU : isAttributeType "OU" = true := by decide

/-- The name of an organisation. -/
def organisation : DistinguishedName := ⟨[⟨⟨"ou", "Org", isAttributeType_ou⟩, []⟩]⟩

/-- The name of a unit of it. -/
def unit : DistinguishedName := organisation.child ⟨⟨"ou", "Sales", isAttributeType_ou⟩, []⟩

/-- The name of a person of that unit, in other letters and with two parts of its own. -/
def salesperson : DistinguishedName :=
  ⟨[⟨⟨"cn", "Ann", isAttributeType_cn⟩, [⟨"ou", "7", isAttributeType_ou⟩]⟩,
    ⟨⟨"OU", "Sales", isAttributeType_OU⟩, []⟩, ⟨⟨"OU", "Org", isAttributeType_OU⟩, []⟩]⟩

/-- The names of the person, of the unit and of the organisation are each below the next, and stripped in one
step or in two they leave the same, also if what is left of the unit is spelled in the person's letters. -/
theorem joining_laws_salesperson :
    let own : DistinguishedName := ⟨salesperson.rdns.take 1⟩
    let unitOnly : DistinguishedName := ⟨(salesperson.rdns.drop 1).take 1⟩
    (salesperson.relativeTo? unit == some own) = true ∧
    (unit.relativeTo? organisation == some unitOnly) = true ∧ unit.relativeTo? organisation ≠ some unitOnly ∧
    (own.under unit == salesperson) = true ∧
    (salesperson.relativeTo? organisation == some (own.under unitOnly)) = true ∧
    salesperson.isBelow unit = true ∧ unit.isBelow organisation = true ∧
    salesperson.isBelow organisation = true := by
  intro own unitOnly
  have hown : (salesperson.relativeTo? unit == some own) = true := by cbv
  have hunit : (unit.relativeTo? organisation == some unitOnly) = true := by cbv
  have hspelling : unit.relativeTo? organisation ≠ some unitOnly := by decide +kernel
  have hbelow : salesperson.isBelow unit = true := by cbv
  have hbelow' : unit.isBelow organisation = true := by cbv
  obtain ⟨-, hstripped, hsteps, -, -, hdown, -⟩ := joining_laws salesperson unit organisation
  exact ⟨hown, hunit, hspelling, (hstripped own hown).1, hsteps own unitOnly hown hunit, hbelow, hbelow',
    hdown hbelow hbelow'⟩

end DirectoryAccess.DistinguishedName
