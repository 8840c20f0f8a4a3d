/-
Module: CodeSplit.Planning
Purpose: computations that keep a journal and may be stopped by a fault.
Main exports:
  Planning, Planning.note, Planning.fail, Planning.problems
-/
import CodeSplit.Event
import CodeSplit.Fault

namespace CodeSplit

/-!
Every stage of the planner is a `Planning` computation.  Its outcome is a result
or the fault that stopped it; its journal tells what happened, in order, and is
kept in both cases.  The problems of a plan are those that its journal reports,
so a problem can neither be lost nor told about without being counted.
-/

/-- A computation with its journal. -/
structure Planning (α : Type) where
  outcome : Except Fault α
  journal : List Event

namespace Planning

variable {α β : Type}

/-- A result without anything to tell. -/
def done (result : α) : Planning α :=
  ⟨.ok result, []⟩

/-- Stop with a fault. -/
def fail (fault : Fault) : Planning α :=
  ⟨.error fault, []⟩

/-- Tell about an event. -/
def note (event : Event) : Planning Unit :=
  ⟨.ok (), [event]⟩

/-- Tell about events, in order. -/
def noteAll (events : List Event) : Planning Unit :=
  ⟨.ok (), events⟩

/-- Report a problem. -/
def report (problem : Diagnostic) : Planning Unit :=
  note (.reported problem)

/-- A computation that has nothing to tell. -/
def ofExcept (outcome : Except Fault α) : Planning α :=
  ⟨outcome, []⟩

/-- Go on with the result of a computation. -/
def andThen (first : Planning α) (next : α → Planning β) : Planning β :=
  match first.outcome with
  | .error fault => ⟨.error fault, first.journal⟩
  | .ok result =>
      let second := next result
      ⟨second.outcome, first.journal ++ second.journal⟩

instance : Monad Planning where
  pure := done
  bind := andThen

/-- The problems that the journal reports. -/
def problems (plan : Planning α) : List Diagnostic :=
  plan.journal.filterMap Event.problem?

/-! ### Outcomes and journals -/

@[simp] theorem outcome_pure (result : α) :
    (pure result : Planning α).outcome = .ok result := rfl

@[simp] theorem journal_pure (result : α) :
    (pure result : Planning α).journal = [] := rfl

@[simp] theorem outcome_fail (fault : Fault) :
    (fail fault : Planning α).outcome = .error fault := rfl

@[simp] theorem journal_fail (fault : Fault) :
    (fail fault : Planning α).journal = [] := rfl

@[simp] theorem outcome_note (event : Event) :
    (note event).outcome = .ok () := rfl

@[simp] theorem journal_note (event : Event) :
    (note event).journal = [event] := rfl

@[simp] theorem outcome_noteAll (events : List Event) :
    (noteAll events).outcome = .ok () := rfl

@[simp] theorem journal_noteAll (events : List Event) :
    (noteAll events).journal = events := rfl

@[simp] theorem outcome_ofExcept (outcome : Except Fault α) :
    (ofExcept outcome).outcome = outcome := rfl

@[simp] theorem journal_ofExcept (outcome : Except Fault α) :
    (ofExcept outcome).journal = [] := rfl

/-- A computation goes on exactly when its first part has a result. -/
theorem outcome_bind (first : Planning α) (next : α → Planning β) :
    (first >>= next).outcome =
      match first.outcome with
      | .error fault => .error fault
      | .ok result => (next result).outcome := by
  show (andThen first next).outcome = _
  unfold andThen
  cases first.outcome <;> rfl

/-- After a first part with a result, the outcome is that of the second. -/
theorem outcome_bind_of_ok {first : Planning α} {result : α}
    (went : first.outcome = .ok result) (next : α → Planning β) :
    (first >>= next).outcome = (next result).outcome := by
  rw [outcome_bind, went]

/-- A computation with a result went through its first part. -/
theorem exists_of_outcome_bind {first : Planning α} {next : α → Planning β}
    {result : β} (went : (first >>= next).outcome = .ok result) :
    ∃ middle, first.outcome = .ok middle ∧
      (next middle).outcome = .ok result := by
  rw [outcome_bind] at went
  cases begun : first.outcome with
  | error fault =>
      rw [begun] at went
      cases went
  | ok middle =>
      rw [begun] at went
      exact ⟨middle, rfl, went⟩

/-- What the second part tells follows what the first part tells. -/
theorem journal_bind (first : Planning α) (next : α → Planning β) :
    (first >>= next).journal =
      match first.outcome with
      | .error _ => first.journal
      | .ok result => first.journal ++ (next result).journal := by
  show (andThen first next).journal = _
  unfold andThen
  cases first.outcome <;> rfl

theorem andThen_done (first : Planning α) : first.andThen done = first := by
  cases first with
  | mk outcome journal => cases outcome <;> simp [andThen, done]

theorem done_andThen (result : α) (next : α → Planning β) :
    (done result).andThen next = next result := by
  simp [andThen, done]

theorem andThen_assoc {γ : Type} (first : Planning α)
    (next : α → Planning β) (last : β → Planning γ) :
    (first.andThen next).andThen last =
      first.andThen fun result => (next result).andThen last := by
  unfold andThen
  cases first.outcome with
  | error fault => rfl
  | ok result => cases second : (next result).outcome <;> simp [second]

instance : LawfulMonad Planning :=
  LawfulMonad.mk' Planning andThen_done done_andThen andThen_assoc

end Planning

end CodeSplit
