import DirectoryAccess.Operation.Write

/-!
# The deletion of a subtree with a stack

The deletion of a subtree can be read as a loop over a stack of names, each with a mark that says
whether its children have been put on the stack already. A name without the mark is listed, marked, and
left below its children; a name with the mark is deleted. The recursion does the same steps in the same
order, and when it succeeds, the loop comes to an end with the same state of the server.
-/

namespace DirectoryAccess

variable {σ : Type} [DirectoryServer σ]

/-- The names that are still to be dealt with, the next one in front, and whether each has been listed. -/
abbrev Stack : Type := List (DistinguishedName × Bool)

/-- `StackRun stack s outcome s'`: the loop over the stack ends with the outcome. -/
inductive StackRun : Stack → σ → Except Fault Unit → σ → Prop where
  /-- Nothing is left to be done. -/
  | done {s : σ} : StackRun [] s (.ok ()) s
  /-- An entry whose children have been dealt with is deleted. -/
  | deleted {n : DistinguishedName} {rest : Stack} {s s' s'' : σ} {outcome : Except Fault Unit} :
      deleteEntry (.name n) s = (.ok (), s') → StackRun rest s' outcome s'' →
      StackRun ((n, true) :: rest) s outcome s''
  /-- An entry cannot be deleted. -/
  | notDeleted {n : DistinguishedName} {rest : Stack} {s s' : σ} {fault : Fault} :
      deleteEntry (.name n) s = (.error fault, s') →
      StackRun ((n, true) :: rest) s (.error fault) s'
  /-- The children of an entry are put on the stack, in front of the entry. -/
  | listed {n : DistinguishedName} {rest : Stack} {s s' s'' : σ} {outcome : Except Fault Unit}
      {children : List DistinguishedName} :
      requested .readWrite (fun session => childNames session n) s = (.ok children, s') →
      StackRun (children.map (·, false) ++ (n, true) :: rest) s' outcome s'' →
      StackRun ((n, false) :: rest) s outcome s''
  /-- The children of an entry cannot be listed. -/
  | notListed {n : DistinguishedName} {rest : Stack} {s s' : σ} {fault : Fault} :
      requested .readWrite (fun session => childNames session n) s = (.error fault, s') →
      StackRun ((n, false) :: rest) s (.error fault) s'

/-- The loop has one result. -/
theorem StackRun.unique {stack : Stack} {s s₁ s₂ : σ} {o₁ o₂ : Except Fault Unit}
    (h₁ : StackRun stack s o₁ s₁) (h₂ : StackRun stack s o₂ s₂) : o₁ = o₂ ∧ s₁ = s₂ := by
  induction h₁ with
  | done => cases h₂; exact ⟨rfl, rfl⟩
  | deleted hd _ ih =>
    cases h₂ with
    | deleted hd' h =>
      cases hd.symm.trans hd'
      exact ih h
    | notDeleted hd' => cases hd.symm.trans hd'
  | notDeleted hd =>
    cases h₂ with
    | deleted hd' h => cases hd.symm.trans hd'
    | notDeleted hd' =>
      cases hd.symm.trans hd'
      exact ⟨rfl, rfl⟩
  | listed hl _ ih =>
    cases h₂ with
    | listed hl' h =>
      cases hl.symm.trans hl'
      exact ih h
    | notListed hl' => cases hl.symm.trans hl'
  | notListed hl =>
    cases h₂ with
    | listed hl' h => cases hl.symm.trans hl'
    | notListed hl' =>
      cases hl.symm.trans hl'
      exact ⟨rfl, rfl⟩

/-- The subtrees of names in front of a stack are deleted first. -/
theorem stackRun_of_forEach {depth : Nat}
    (ih : ∀ {n : DistinguishedName} {s s' s'' : σ} {rest : Stack} {outcome : Except Fault Unit},
      deleteSubtree depth n s = (.ok (), s') → StackRun rest s' outcome s'' →
      StackRun ((n, false) :: rest) s outcome s'')
    {names : List DistinguishedName} {s s' s'' : σ} {rest : Stack} {outcome : Except Fault Unit}
    (h : forEach (deleteSubtree depth) names s = (.ok (), s')) (hrest : StackRun rest s' outcome s'') :
    StackRun (names.map (·, false) ++ rest) s outcome s'' := by
  induction names generalizing s with
  | nil =>
    cases h
    exact hrest
  | cons n names ihnames =>
    rw [forEach] at h
    rcases hn : deleteSubtree depth n s with ⟨fault | _, s₁⟩
    · rw [hn] at h
      cases h
    · rw [hn] at h
      exact ih hn (ihnames h)

/-- The loop deletes the subtree at the front of the stack as the recursion does, and goes on. -/
theorem stackRun_of_deleteSubtree {depth : Nat} {n : DistinguishedName} {s s' s'' : σ} {rest : Stack}
    {outcome : Except Fault Unit} (h : deleteSubtree depth n s = (.ok (), s'))
    (hrest : StackRun rest s' outcome s'') : StackRun ((n, false) :: rest) s outcome s'' := by
  induction depth generalizing n s s' s'' rest outcome with
  | zero => cases h
  | succ depth ih =>
    rw [deleteSubtree] at h
    dsimp only at h
    rcases hl : requested .readWrite (fun session => childNames session n) s with ⟨fault | children, s₁⟩
    · rw [hl] at h
      cases h
    · rw [hl] at h
      dsimp only at h
      rcases hr : forEach (deleteSubtree depth) children s₁ with ⟨fault | _, s₂⟩
      · rw [hr] at h
        cases h
      · rw [hr] at h
        exact .listed hl (stackRun_of_forEach ih hr (.deleted h hrest))

/-- Where the recursion deletes a subtree, the loop that starts with its name alone comes to an end and
leaves the same server. -/
theorem stackRun_of_deleteTree {name : NameInput} {n : DistinguishedName} {s s' : σ}
    (hname : name.resolve = .ok n) (h : deleteTree name true s = (.ok (), s')) :
    StackRun [(n, false)] s (.ok ()) s' := by
  rw [deleteTree, named, hname] at h
  exact stackRun_of_deleteSubtree h .done

end DirectoryAccess
