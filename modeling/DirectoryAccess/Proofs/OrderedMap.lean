import DirectoryAccess.OrderedMap

/-!
# Lemmas on ordered maps

What the keys of a map are after some of them have been taken out, which keys a map has, and what the
value of a key is after a change. Changes keep ascending keys ascending, and two maps with ascending keys
are equal if they have the same entries. What a list has distinct are its elements.
-/

namespace DirectoryAccess

open Std

namespace OrderedMap

variable {κ α : Type}

@[simp] theorem keys_filterKeys (p : κ → Bool) (m : OrderedMap κ α) :
    (m.filterKeys p).keys = m.keys.filter p := by
  rw [keys, keys, filterKeys, List.filter_map]
  rfl

theorem filterKeys_filterKeys (p q : κ → Bool) (m : OrderedMap κ α) :
    (m.filterKeys p).filterKeys q = m.filterKeys fun k => p k && q k := by
  simp only [filterKeys, List.filter_filter, Bool.and_comm]

/-- Only what `p` says of the keys matters. -/
theorem filterKeys_congr {p q : κ → Bool} {m : OrderedMap κ α} (h : ∀ k ∈ m.keys, p k = q k) :
    m.filterKeys p = m.filterKeys q :=
  congrArg OrderedMap.mk (List.filter_congr fun e he => h e.1 (List.mem_map_of_mem he))

theorem filterKeys_true (m : OrderedMap κ α) : m.filterKeys (fun _ => true) = m :=
  congrArg OrderedMap.mk (List.filter_eq_self.2 fun _ _ => rfl)

variable [Ord κ]

theorem keys_erase (m : OrderedMap κ α) (k : κ) :
    (m.erase k).keys = m.keys.filter fun k' => compare k k' != .eq :=
  keys_filterKeys (fun k' => compare k k' != .eq) m

/-- Only the entry of the key is taken out. -/
theorem filterKeys_erase {p : κ → Bool} {k : κ} (m : OrderedMap κ α)
    (hp : ∀ k', compare k k' = .eq → p k' = false) : (m.erase k).filterKeys p = m.filterKeys p := by
  have herase : m.erase k = m.filterKeys fun k' => compare k k' != .eq := rfl
  rw [herase, filterKeys_filterKeys]
  refine filterKeys_congr fun k' _ => ?_
  by_cases heq : compare k k' = .eq
  · rw [hp k' heq, Bool.and_false]
  · rw [bne_iff_ne.2 heq, Bool.true_and]

/-- Only the entry of the key is put in. -/
theorem filterKeys_insert [ReflOrd κ] {p : κ → Bool} {k : κ} (m : OrderedMap κ α) (a : α)
    (hp : ∀ k', compare k k' = .eq → p k' = false) :
    (m.insert k a).filterKeys p = m.filterKeys p := by
  have hk : p k = false := hp k ReflCmp.compare_self
  obtain ⟨l⟩ := m
  refine congrArg OrderedMap.mk ?_
  change (insertEntry k a l).filter (fun e => p e.1) = l.filter fun e => p e.1
  induction l with
  | nil => rw [insertEntry, List.filter_cons_of_neg (by simp [hk])]
  | cons entry l ih =>
    obtain ⟨k', a'⟩ := entry
    rw [insertEntry]
    cases hcompare : compare k k' with
    | lt => rw [List.filter_cons_of_neg (by simp [hk])]
    | eq =>
      have hk' : p k' = false := hp k' hcompare
      rw [List.filter_cons_of_neg (by simp [hk']), List.filter_cons_of_neg (by simp [hk'])]
    | gt => simp only [List.filter_cons, ih]

theorem contains_iff {m : OrderedMap κ α} {k : κ} :
    m.contains k = true ↔ ∃ k' ∈ m.keys, compare k k' = .eq := by
  simp [contains, get?, keys, List.find?_isSome]

theorem mem_keys_iff [LawfulEqOrd κ] {m : OrderedMap κ α} {k : κ} : k ∈ m.keys ↔ (m.get? k).isSome = true := by
  rw [← contains, contains_iff]
  constructor
  · exact fun hk => ⟨k, hk, ReflCmp.compare_self⟩
  · rintro ⟨k', hk', heq⟩
    rwa [LawfulEqOrd.eq_of_compare heq]

/-! ### Values -/

theorem get?_cons (k k' : κ) (a : α) (l : List (κ × α)) :
    (⟨(k', a) :: l⟩ : OrderedMap κ α).get? k =
      if compare k k' = .eq then some a else (⟨l⟩ : OrderedMap κ α).get? k := by
  by_cases h : compare k k' = .eq <;> simp [get?, h]

/-- The value of a key is listed under a key that compares as equal. -/
theorem exists_mem_of_get? {m : OrderedMap κ α} {k : κ} {a : α} (h : m.get? k = some a) :
    ∃ k', compare k k' = .eq ∧ (k', a) ∈ m.toList := by
  obtain ⟨e, hfind, rfl⟩ := Option.map_eq_some_iff.1 h
  have heq := List.find?_some hfind
  exact ⟨e.1, beq_iff_eq.1 heq, List.mem_of_find?_eq_some hfind⟩

/-- An entry after an insertion was there before, or it is the new one; that one may keep an old key. -/
theorem mem_insert {m : OrderedMap κ α} {k : κ} {a : α} {e : κ × α} (h : e ∈ (m.insert k a).toList) :
    e ∈ m.toList ∨ (e.1 = k ∨ compare k e.1 = .eq ∧ e.1 ∈ m.keys) ∧ e.2 = a := by
  obtain ⟨l⟩ := m
  change e ∈ insertEntry k a l at h
  change e ∈ l ∨ (_ ∨ _ ∧ e.1 ∈ l.map _) ∧ _
  induction l with
  | nil =>
    rw [insertEntry, List.mem_singleton] at h
    exact .inr (h ▸ ⟨.inl rfl, rfl⟩)
  | cons entry l ih =>
    obtain ⟨k', a'⟩ := entry
    rw [insertEntry] at h
    rw [List.map_cons, List.mem_cons, List.mem_cons]
    split at h
    · obtain rfl | h := List.mem_cons.1 h
      · exact .inr ⟨.inl rfl, rfl⟩
      · exact .inl (List.mem_cons.1 h)
    · next heq =>
      obtain rfl | h := List.mem_cons.1 h
      · exact .inr ⟨.inr ⟨heq, .inl rfl⟩, rfl⟩
      · exact .inl (.inr h)
    · obtain rfl | h := List.mem_cons.1 h
      · exact .inl (.inl rfl)
      · obtain h | ⟨h, ha⟩ := ih h
        · exact .inl (.inr h)
        · exact .inr ⟨h.imp_right fun ⟨heq, hmem⟩ => ⟨heq, .inr hmem⟩, ha⟩

section

variable [TransOrd κ]

theorem get?_insert (m : OrderedMap κ α) (k j : κ) (a : α) :
    (m.insert k a).get? j = if compare j k = .eq then some a else m.get? j := by
  obtain ⟨l⟩ := m
  rw [insert]
  induction l with
  | nil => exact get?_cons j k a []
  | cons entry l ih =>
    obtain ⟨k', a'⟩ := entry
    rw [insertEntry, get?_cons]
    cases hk : compare k k' with
    | lt => rw [get?_cons, get?_cons]
    | eq =>
      rw [get?_cons, TransCmp.congr_right hk]
      split <;> rfl
    | gt =>
      rw [get?_cons, ih]
      by_cases hj : compare j k = .eq
      · rw [if_neg (by rw [TransCmp.congr_left hj, hk]; decide), if_pos hj, if_pos hj]
      · rw [if_neg hj, if_neg hj]

theorem get?_erase (m : OrderedMap κ α) (k j : κ) :
    (m.erase k).get? j = if compare j k = .eq then none else m.get? j := by
  obtain ⟨l⟩ := m
  rw [erase]
  induction l with
  | nil => exact (ite_self none).symm
  | cons entry l ih =>
    obtain ⟨k', a'⟩ := entry
    rw [List.filter_cons, get?_cons]
    by_cases hk : compare k k' = .eq
    · rw [if_neg (by simp [hk]), ih, ← TransCmp.congr_right hk]
      split <;> rfl
    · rw [if_pos (by simpa using hk), get?_cons, ih]
      by_cases hj : compare j k = .eq
      · rw [if_neg (by rwa [TransCmp.congr_left hj]), if_pos hj, if_pos hj]
      · rw [if_neg hj, if_neg hj]

end

/-! ### Ascending keys -/

/-- The keys are ascending, so that no two of them compare as equal. -/
def Ascending (m : OrderedMap κ α) : Prop := m.keys.Pairwise (compare · · = .lt)

theorem Ascending.empty : (OrderedMap.empty : OrderedMap κ α).Ascending := .nil

variable {m m' : OrderedMap κ α}

theorem Ascending.erase (h : m.Ascending) (k : κ) : (m.erase k).Ascending := by
  rw [Ascending, keys_erase]
  exact h.filter _

variable [TransOrd κ]

theorem Ascending.insert (h : m.Ascending) (k : κ) (a : α) : (m.insert k a).Ascending := by
  obtain ⟨l⟩ := m
  refine List.pairwise_map.2 ?_
  replace h : l.Pairwise fun e e' => compare e.1 e'.1 = .lt := List.pairwise_map.1 h
  rw [OrderedMap.insert]
  induction l with
  | nil => exact List.pairwise_singleton _ _
  | cons entry l ih =>
    obtain ⟨k', a'⟩ := entry
    obtain ⟨hlt, hl⟩ := List.pairwise_cons.1 h
    rw [insertEntry]
    cases hk : compare k k' with
    | lt =>
      refine List.pairwise_cons.2 ⟨fun e he => ?_, h⟩
      obtain rfl | he := List.mem_cons.1 he
      · exact hk
      · exact TransCmp.lt_trans hk (hlt e he)
    | eq => exact List.pairwise_cons.2 ⟨hlt, hl⟩
    | gt =>
      refine List.pairwise_cons.2 ⟨fun e he => ?_, ih hl⟩
      obtain he | ⟨he, -⟩ := mem_insert (m := ⟨l⟩) he
      · exact hlt e he
      · have hgt : compare k' k = .lt := OrientedCmp.gt_iff_lt.1 hk
        obtain he | ⟨he, -⟩ := he
        · exact he ▸ hgt
        · exact (TransCmp.congr_right he).symm.trans hgt

theorem Ascending.nodup_keys (h : m.Ascending) : m.keys.Nodup := by
  refine h.imp fun {k k'} hlt heq => ?_
  have hrefl : compare k k' = .eq := heq ▸ ReflCmp.compare_self
  exact nomatch hlt.symm.trans hrefl

/-- Two entries whose keys compare as equal are one entry. -/
theorem Ascending.eq_of_compare (h : m.Ascending) {e e' : κ × α} (he : e ∈ m.toList)
    (he' : e' ∈ m.toList) (heq : compare e.1 e'.1 = .eq) : e = e' := by
  replace h : m.toList.Pairwise fun e e' => compare e.1 e'.1 = .lt := List.pairwise_map.1 h
  have hdistinct : m.toList.Pairwise fun e e' => compare e.1 e'.1 = .eq → e = e' :=
    h.imp fun hlt heq => nomatch hlt.symm.trans heq
  refine hdistinct.forall_of_forall_of_flip (fun _ _ _ => rfl) ?_ he he' heq
  exact h.imp fun hlt heq => nomatch (OrientedCmp.gt_iff_lt.2 hlt).symm.trans heq

/-- The value of a key is the one that is listed under a key that compares as equal. -/
theorem Ascending.get?_eq_some (h : m.Ascending) {k k' : κ} {a : α} (hmem : (k', a) ∈ m.toList)
    (heq : compare k k' = .eq) : m.get? k = some a := by
  cases hget : m.get? k with
  | none =>
    have habsent := List.find?_eq_none.1 (Option.map_eq_none_iff.1 hget) _ hmem
    exact absurd (beq_iff_eq.2 heq) habsent
  | some a' =>
    obtain ⟨k'', heq', hmem'⟩ := exists_mem_of_get? hget
    exact congrArg (some ·.2)
      (h.eq_of_compare hmem' hmem ((TransCmp.congr_left heq').symm.trans heq))

theorem Ascending.mem_toList_iff [LawfulEqOrd κ] (h : m.Ascending) {k : κ} {a : α} :
    (k, a) ∈ m.toList ↔ m.get? k = some a := by
  refine ⟨fun hmem => h.get?_eq_some hmem ReflCmp.compare_self, fun hget => ?_⟩
  obtain ⟨k', heq, hmem⟩ := exists_mem_of_get? hget
  rwa [LawfulEqOrd.eq_of_compare heq]

theorem Ascending.nodup (h : m.Ascending) : m.toList.Nodup :=
  List.Pairwise.of_map (·.1) (fun _ _ hne heq => hne (congrArg _ heq)) h.nodup_keys

/-- One entry at most has a key that compares as equal. -/
theorem Ascending.filter_compare_eq (h : m.Ascending) {k k' : κ} {a : α} (hmem : (k', a) ∈ m.toList)
    (heq : compare k k' = .eq) : (m.toList.filter fun e => compare k e.1 == .eq) = [(k', a)] := by
  refine List.perm_singleton.1 ?_
  refine (List.perm_ext_iff_of_nodup (h.nodup.filter _) (List.pairwise_singleton _ _)).2 fun e => ?_
  rw [List.mem_filter, beq_iff_eq, List.mem_singleton]
  constructor
  · rintro ⟨he, heq'⟩
    exact h.eq_of_compare he hmem ((TransCmp.congr_left heq').symm.trans heq)
  · rintro rfl
    exact ⟨hmem, heq⟩

/-- Maps with the same entries are equal. -/
theorem Ascending.eq_of_mem_iff (h : m.Ascending) (h' : m'.Ascending)
    (hmem : ∀ e, e ∈ m.toList ↔ e ∈ m'.toList) : m = m' := by
  have hperm : m.toList.Perm m'.toList := (List.perm_ext_iff_of_nodup h.nodup h'.nodup).2 hmem
  refine congrArg OrderedMap.mk
    (hperm.eq_of_pairwise ?_ (List.pairwise_map.1 h) (List.pairwise_map.1 h'))
  exact fun _ _ _ _ hlt hgt => absurd hgt (OrientedCmp.not_lt_of_lt hlt)

/-! ### Keys that are equal if they compare as equal -/

section

variable [LawfulEqOrd κ]

theorem mem_keys_insert {m : OrderedMap κ α} {k k' : κ} {a : α} :
    k' ∈ (m.insert k a).keys ↔ k' ∈ m.keys ∨ k' = k := by
  rw [mem_keys_iff, mem_keys_iff, get?_insert]
  by_cases h : k' = k <;> simp [h, LawfulEqCmp.compare_eq_iff_eq]

theorem mem_keys_ofList {l : List (κ × α)} {k : κ} : k ∈ (ofList l).keys ↔ k ∈ l.map (·.1) := by
  suffices ∀ m : OrderedMap κ α,
      k ∈ (l.foldl (fun m e => m.insert e.1 e.2) m).keys ↔ k ∈ m.keys ∨ k ∈ l.map (·.1) from
    (this empty).trans (or_iff_right List.not_mem_nil)
  induction l with
  | nil => simp
  | cons e l ih =>
    intro m
    rw [List.foldl_cons, ih, mem_keys_insert, List.map_cons, List.mem_cons, or_assoc]

end

end OrderedMap

/-- An element of a list is one of its distinct elements. -/
theorem mem_distinct {κ : Type} [Ord κ] [TransOrd κ] [LawfulEqOrd κ] {l : List κ} {k : κ} :
    k ∈ distinct l ↔ k ∈ l := by
  rw [distinct, OrderedMap.mem_keys_ofList, List.map_map]
  exact iff_of_eq (congrArg (k ∈ ·) (List.map_id l))

end DirectoryAccess
