/-
Module: CodeSplit.Toml.Draft
Purpose: tables under construction, and what may still be added to them.
Main exports:
  Toml.Draft, Toml.Draft.assign, Toml.Draft.openTable, Toml.Draft.openElement
-/
import CodeSplit.Toml.Value

namespace CodeSplit.Toml

/-!
A table can be made in several places of a document, but none of them may change
what another one has fixed:

* a table has one header at most, and no header if a dotted key made it;
* a dotted key adds to tables that dotted keys made, not to those with headers;
* arrays and tables that are written as values are complete.

So a draft remembers for every table how it came to be.
-/

/-- How a table came to be. -/
inductive Origin where
  /-- A header names a table inside it. -/
  | implied
  /-- A header names it. -/
  | header
  /-- A dotted key leads through it. -/
  | dotted
deriving Repr, DecidableEq

/-- What a key of a table stands for. -/
inductive Slot where
  /-- A value that is complete. -/
  | value (value : Value)
  | table (origin : Origin) (slots : List (String × Slot))
  /-- Tables that headers in double brackets made, last first. -/
  | tables (elements : List (List (String × Slot)))
deriving Repr, Inhabited

/-- A table under construction. -/
abbrev Draft := List (String × Slot)

namespace Draft

/-- Let a key stand for something, in place of what it stood for. -/
def put (key : String) (slot : Slot) : Draft → Draft
  | [] => [(key, slot)]
  | (other, old) :: rest =>
      if other = key then (key, slot) :: rest
      else (other, old) :: put key slot rest

/-- Give the value to the key at the end of a path, which may not stand for
anything yet. -/
def assign (value : Value) : List String → Draft → Option Draft
  | [], _ => none
  | [key], draft =>
      match draft.lookup key with
      | some _ => none
      | none => some (put key (.value value) draft)
  | key :: next :: rest, draft =>
      match draft.lookup key with
      | none => do
          let inner ← assign value (next :: rest) []
          return put key (.table .dotted inner) draft
      | some (.table origin inner) =>
          if origin = .header || (origin = .implied && rest.isEmpty) then none
          else do
            let inner ← assign value (next :: rest) inner
            return put key (.table origin inner) draft
      | some (.tables (last :: others)) =>
          if rest.isEmpty then none
          else do
            let last ← assign value (next :: rest) last
            return put key (.tables (last :: others)) draft
      | some _ => none

/-- Change the table that the path of a header leads to.  A path leads to the
last one of the tables that headers in double brackets made. -/
def within (change : Draft → Option Draft) :
    List String → Draft → Option Draft
  | [], draft => change draft
  | key :: rest, draft =>
      match draft.lookup key with
      | none => do
          let inner ← within change rest []
          return put key (.table .implied inner) draft
      | some (.table origin inner) => do
          let inner ← within change rest inner
          return put key (.table origin inner) draft
      | some (.tables (last :: others)) => do
          let last ← within change rest last
          return put key (.tables (last :: others)) draft
      | some _ => none

/-- Make the table that a header names. -/
def openTable (key : String) (draft : Draft) : Option Draft :=
  match draft.lookup key with
  | none => some (put key (.table .header []) draft)
  | some (.table .implied inner) =>
      some (put key (.table .header inner) draft)
  | some _ => none

/-- Make one more of the tables that a header in double brackets names. -/
def openElement (key : String) (draft : Draft) : Option Draft :=
  match draft.lookup key with
  | none => some (put key (.tables [[]]) draft)
  | some (.tables elements) => some (put key (.tables ([] :: elements)) draft)
  | some _ => none

end Draft

mutual

/-- What a slot stands for when the document is complete. -/
def Slot.finish : Slot → Value
  | .value value => value
  | .table _ slots => .table (finishTable slots)
  | .tables elements => .array (finishTables elements).reverse

/-- The table that a draft stands for when the document is complete. -/
def finishTable : List (String × Slot) → Table
  | [] => []
  | (key, slot) :: rest => (key, slot.finish) :: finishTable rest

/-- The tables that drafts stand for when the document is complete. -/
def finishTables : List (List (String × Slot)) → List Value
  | [] => []
  | draft :: rest => .table (finishTable draft) :: finishTables rest

end

namespace Draft

/-- A key stands for what was put there. -/
@[simp] theorem lookup_put (key : String) (slot : Slot) (draft : Draft) :
    (put key slot draft).lookup key = some slot := by
  induction draft with
  | nil => simp [put]
  | cons entry rest ih =>
      obtain ⟨other, old⟩ := entry
      unfold put
      split
      · simp
      · rename_i differ
        have apart : (key == other) = false := by
          simpa using fun same : key = other => differ same.symm
        simp [List.lookup_cons, apart, ih]

/-- A key that stands for something is not given a value again. -/
theorem assign_of_lookup {draft : Draft} {key : String} {slot : Slot}
    (taken : draft.lookup key = some slot) (value : Value) :
    assign value [key] draft = none := by
  simp [assign, taken]

end Draft

end CodeSplit.Toml
