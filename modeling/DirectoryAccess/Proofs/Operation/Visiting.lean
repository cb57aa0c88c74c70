import DirectoryAccess.Operation.Search

/-!
# Visiting one element after the other

A visitor is handed the elements of a list one by one, until it fails or all have been handed over
(`visitEach`). It may keep a state of its own, so that what it was handed is part of what is said of it: a
visitor that takes notes (`noting`) was handed the elements up to the first one that it refused, and no
other (`visitEach_noting`).
-/

namespace DirectoryAccess

variable {σ τ α β γ : Type}

/-- What came of visiting the elements of a list. -/
structure Visited (τ α : Type) where
  /-- What the visitor made of each element, up to the first failure. -/
  values : List α
  /-- Whether the visitor failed. -/
  outcome : Except Fault Unit
  /-- The caller afterwards. -/
  caller : τ

/-- Hands the elements of a list to the visitor one by one, up to the first failure. -/
def visitEach (visit : β → Step τ α) : List β → τ → Visited τ α
  | [], t => ⟨[], .ok (), t⟩
  | b :: rest, t =>
    match visit b t with
    | (.error fault, t) => ⟨[], .error fault, t⟩
    | (.ok value, t) =>
      let onward := visitEach visit rest t
      { onward with values := value :: onward.values }

section

variable {visit : β → Step τ α} {b : β} {rest front : List β} {t t' : τ}

theorem visitEach_of_value {value : α} (h : visit b t = (.ok value, t')) :
    visitEach visit (b :: rest) t =
      { visitEach visit rest t' with values := value :: (visitEach visit rest t').values } := by
  rw [visitEach, h]

/-- An element that is refused is the last one that is handed over. -/
theorem visitEach_of_refusal {fault : Fault} (h : visit b t = (.error fault, t')) :
    visitEach visit (b :: rest) t = ⟨[], .error fault, t'⟩ := by
  rw [visitEach, h]

/-- After elements that are not refused the visit goes on. -/
theorem visitEach_append (h : (visitEach visit front t).outcome = .ok ()) :
    visitEach visit (front ++ rest) t =
      let visited := visitEach visit front t
      let onward := visitEach visit rest visited.caller
      { onward with values := visited.values ++ onward.values } := by
  induction front generalizing t with
  | nil => rfl
  | cons b front ih =>
    rcases hb : visit b t with ⟨fault | value, u⟩
    · rw [visitEach_of_refusal hb] at h
      cases h
    · rw [visitEach_of_value hb] at h
      rw [List.cons_append, visitEach_of_value hb, visitEach_of_value hb, ih h]
      rfl

/-- Elements that come after one that is refused are not handed over. -/
theorem visitEach_append_of_refusal {fault : Fault} (hfront : (visitEach visit front t).outcome = .ok ())
    (h : visit b (visitEach visit front t).caller = (.error fault, t')) :
    visitEach visit (front ++ b :: rest) t =
      ⟨(visitEach visit front t).values, .error fault, t'⟩ := by
  rw [visitEach_append hfront]
  dsimp only
  rw [visitEach_of_refusal h, List.append_nil]

/-- A visitor that looks at a part of each element is handed these parts. -/
theorem visitEach_map (visit : γ → Step τ α) (g : β → γ) (l : List β) (t : τ) :
    visitEach (fun b => visit (g b)) l t = visitEach visit (l.map g) t := by
  induction l generalizing t with
  | nil => rfl
  | cons b rest ih =>
    rw [List.map_cons, visitEach, visitEach]
    rcases visit (g b) t with ⟨fault | value, u⟩
    · rfl
    · dsimp only
      rw [ih]

/-- Where no element is refused there is a value for each. -/
theorem length_values_of_ok {l : List β} (h : (visitEach visit l t).outcome = .ok ()) :
    (visitEach visit l t).values.length = l.length := by
  induction l generalizing t with
  | nil => rfl
  | cons b rest ih =>
    rcases hb : visit b t with ⟨fault | value, u⟩
    · rw [visitEach_of_refusal hb] at h
      cases h
    · rw [visitEach_of_value hb] at h ⊢
      exact congrArg Nat.succ (ih h)

/-- A visitor that never fails refuses no element. -/
theorem visitEach_of_total (hvisit : ∀ b t, ∃ value t', visit b t = (.ok value, t')) (l : List β)
    (t : τ) : (visitEach visit l t).outcome = .ok () := by
  induction l generalizing t with
  | nil => rfl
  | cons b rest ih =>
    obtain ⟨value, u, hb⟩ := hvisit b t
    rw [visitEach_of_value hb]
    exact ih u

/-- A visitor that neither fails nor keeps a state makes the values that a function makes. -/
theorem visitEach_of_pure {f : β → α} (hvisit : ∀ b t, visit b t = (.ok (f b), t)) (l : List β) (t : τ) :
    visitEach visit l t = ⟨l.map f, .ok (), t⟩ := by
  induction l with
  | nil => rfl
  | cons b rest ih => rw [visitEach_of_value (hvisit b t), ih, List.map_cons]

end

/-! ### Notes -/

/-- The visitor, which also notes what it is handed. -/
def noting (visit : β → Step τ α) : β → Step (τ × List β) α := fun b (t, notes) =>
  let (outcome, t) := visit b t
  (outcome, t, notes ++ [b])

/-- The elements are handed over in order, each once, up to the first one that is refused. -/
theorem visitEach_noting (visit : β → Step τ α) (l : List β) (t : τ) (notes : List β) :
    visitEach (noting visit) l (t, notes) =
      let visited := visitEach visit l t
      ⟨visited.values, visited.outcome, visited.caller, notes ++ l.take (visited.values.length + 1)⟩ := by
  induction l generalizing t notes with
  | nil => simp [visitEach]
  | cons b rest ih =>
    rcases hb : visit b t with ⟨fault | value, u⟩
    · have hnoted : noting visit b (t, notes) = (.error fault, u, notes ++ [b]) := by rw [noting, hb]
      rw [visitEach_of_refusal hb, visitEach_of_refusal hnoted]
      rfl
    · have hnoted : noting visit b (t, notes) = (.ok value, u, notes ++ [b]) := by rw [noting, hb]
      rw [visitEach_of_value hb, visitEach_of_value hnoted, ih]
      simp

/-- Where no element is refused, all are noted. -/
theorem visitEach_noting_of_ok {visit : β → Step τ α} {l : List β} {t : τ}
    (h : (visitEach visit l t).outcome = .ok ()) (notes : List β) :
    visitEach (noting visit) l (t, notes) =
      ⟨(visitEach visit l t).values, .ok (), (visitEach visit l t).caller, notes ++ l⟩ := by
  have hall : l.take ((visitEach visit l t).values.length + 1) = l :=
    List.take_of_length_le (Nat.le_succ_of_le (Nat.le_of_eq (length_values_of_ok h).symm))
  rw [visitEach_noting]
  dsimp only
  rw [hall, h]

end DirectoryAccess
