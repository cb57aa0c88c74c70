import DirectoryAccess.Operation.Write
import Mathlib.Logic.Function.Basic

/-!
# Clients at the same time

An operation takes several steps on the server, and the steps of other clients may come between them. A
`Process` is what a client still has to do, as steps each of which is taken at once; carried out without
a break it is the operation (`run_replacement`). `Interleaves` says how the steps of several clients may
follow each other, and what every single step keeps, an interleaving keeps.
-/

namespace DirectoryAccess

open DirectoryServer

/-- What a client still has to do. -/
inductive Process (σ α : Type) : Type 1 where
  /-- Nothing; this is the outcome. -/
  | finished (outcome : Except Fault α)
  /-- It takes a step and goes on in view of what came of it. -/
  | next {β : Type} (step : Step σ β) (goOn : Except Fault β → Process σ α)

variable {σ α ι : Type}

/-- Takes all steps one after the other. -/
def Process.run : Process σ α → Step σ α
  | .finished outcome, s => (outcome, s)
  | .next step goOn, s =>
    let (answer, s) := step s
    (goOn answer).run s

/-- `Interleaves clients s clients' s'`: steps of the clients, in some order, lead from `s` to `s'`, and
leave the clients with what `clients'` still have to do. -/
inductive Interleaves [DecidableEq ι] :
    (ι → Process σ α) → σ → (ι → Process σ α) → σ → Prop where
  /-- No step is taken. -/
  | refl {clients : ι → Process σ α} {s : σ} : Interleaves clients s clients s
  /-- Any client that has not finished takes the first step. -/
  | step {clients clients' : ι → Process σ α} {s s' : σ} {i : ι} {β : Type} {step : Step σ β}
      {goOn : Except Fault β → Process σ α} : clients i = .next step goOn →
      Interleaves (Function.update clients i (goOn (step s).1)) (step s).2 clients' s' →
      Interleaves clients s clients' s'

/-- What every step of a client keeps, an interleaving keeps. -/
theorem Interleaves.invariant [DecidableEq ι] {P : (ι → Process σ α) → σ → Prop}
    (hstep : ∀ {clients s i β} {step : Step σ β} {goOn : Except Fault β → Process σ α},
      clients i = .next step goOn → P clients s →
      P (Function.update clients i (goOn (step s).1)) (step s).2)
    {clients clients' : ι → Process σ α} {s s' : σ} (h : Interleaves clients s clients' s')
    (hstart : P clients s) : P clients' s' := by
  induction h with
  | refl => exact hstart
  | step hi _ ih => exact ih (hstep hi hstart)

/-! ### Turns -/

/-- The outcome of a client that has finished. -/
def Process.outcome? : Process σ α → Option (Except Fault α)
  | .finished outcome => some outcome
  | .next _ _ => none

theorem Process.eq_finished_of_outcome? {client : Process σ α} {outcome : Except Fault α}
    (h : client.outcome? = some outcome) : client = .finished outcome := by
  cases client with
  | finished => exact congrArg Process.finished (Option.some.inj h)
  | next => cases h

/-- Lets the clients take a step each in this order. -/
def takeTurns [DecidableEq ι] : List ι → (ι → Process σ α) → σ → (ι → Process σ α) × σ
  | [], clients, s => (clients, s)
  | i :: turns, clients, s =>
    match clients i with
    | .finished _ => takeTurns turns clients s
    | .next step goOn =>
      let (answer, s) := step s
      takeTurns turns (Function.update clients i (goOn answer)) s

/-- To interleave is to take turns. -/
theorem interleaves_iff [DecidableEq ι] {clients clients' : ι → Process σ α} {s s' : σ} :
    Interleaves clients s clients' s' ↔ ∃ turns, takeTurns turns clients s = (clients', s') := by
  constructor
  · intro h
    induction h with
    | refl => exact ⟨[], rfl⟩
    -- the client that takes the first step has the first turn
    | @step _ _ _ _ i _ _ _ hi _ ih =>
      obtain ⟨turns, hturns⟩ := ih
      refine ⟨i :: turns, ?_⟩
      rw [takeTurns, hi]
      exact hturns
  · rintro ⟨turns, hturns⟩
    induction turns generalizing clients s with
    | nil =>
      cases hturns
      exact .refl
    | cons i turns ih =>
      rw [takeTurns] at hturns
      cases hi : clients i with
      | finished =>
        -- a turn of a client that has finished is lost
        rw [hi] at hturns
        exact ih hturns
      | next step goOn =>
        rw [hi] at hturns
        exact .step hi (ih hturns)

/-! ### Replacements, step by step -/

namespace Process

variable [DirectoryServer σ]

/-- The outcome is there, and the session has to be closed. -/
def closing (session : Session σ) (outcome : Except Fault α) : Process σ α :=
  .next (disconnect session) fun _ => .finished (outcome.mapError Fault.classify)

/-- The entry has to be created. -/
def creating (session : Session σ) (n : DistinguishedName) (a : Attributes) : Process σ Unit :=
  .next (add session n a) (closing session)

/-- The entry has to be deleted, unless it does not exist, and created anew. -/
def deleting (session : Session σ) (n : DistinguishedName) (a : Attributes) : Process σ Unit :=
  .next (delete session n) fun
    | .ok () => creating session n a
    | .error fault =>
      if fault.saysNoSuchObject then creating session n a else closing session (.error fault)

/-- An entry has to be replaced, on a session of its own. -/
def replacement (n : DistinguishedName) (a : Attributes) : Process σ Unit :=
  .next (connect .readWrite) fun
    | .ok session => deleting session n a
    | .error fault => .finished (.error fault.classify)

/-- Carried out without a break these are the steps of the operation. -/
theorem run_replacement (n : DistinguishedName) (a : Attributes) :
    (replacement n a : Process σ Unit).run = replaceEntry (.name n) a := by
  funext s
  simp only [replacement, run, replaceEntry, named, NameInput.resolve]
  rcases hconnect : connect .readWrite s with ⟨fault | session, s₁⟩
  · simp [requested, connected, hconnect, run]
  · simp only [requested, connected, hconnect, onServer, replace, deleting, run]
    rcases hdelete : delete session n s₁ with ⟨fault | _, s₂⟩
    · dsimp only
      split <;> rfl
    · rfl

end Process

end DirectoryAccess
