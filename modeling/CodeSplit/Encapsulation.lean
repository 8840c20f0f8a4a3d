/-
Module: CodeSplit.Encapsulation
Purpose: how the styles of a component are kept apart from the rest of a page.
Main exports:
  Encapsulation, Encapsulation.name, Encapsulation.ofName?
-/
import CodeSplit.Json

namespace CodeSplit

/-- How the styles of a component reach the page.  The order is that of the
machinery a mode needs when it runs, least first. -/
inductive Encapsulation where
  /-- Styles apply to the whole page. -/
  | none
  /-- Styles are rewritten with selectors that name their component. -/
  | scoped
  /-- Styles stay inside a shadow root. -/
  | shadow
deriving Repr, DecidableEq, Inhabited

namespace Encapsulation

/-- All modes, in their order. -/
def all : List Encapsulation := [.none, .scoped, .shadow]

/-- The place of the mode in the order. -/
def rank : Encapsulation → Nat
  | .none => 0
  | .scoped => 1
  | .shadow => 2

instance : LT Encapsulation := ⟨fun one other => one.rank < other.rank⟩

instance : DecidableLT Encapsulation := fun one other =>
  inferInstanceAs (Decidable (one.rank < other.rank))

/-- The name of the mode. -/
def name : Encapsulation → String
  | .none => "none"
  | .scoped => "scoped"
  | .shadow => "shadow"

/-- Every name that is understood, with the mode it stands for. -/
def names : List (String × Encapsulation) :=
  [("none", .none),
   ("scoped", .scoped), ("scoped-css", .scoped), ("scoped-style", .scoped),
   ("shadow", .shadow), ("shadow-dom", .shadow), ("shadow-isolated", .shadow)]

/-- The mode that a name stands for. -/
def ofName? (text : String) : Option Encapsulation :=
  names.lookup text

/-- Whether a bundle with this mode needs its styles built with scoped
selectors too. -/
def requiresScopedStyles : Encapsulation → Bool
  | .none => false
  | .scoped | .shadow => true

/-- Read a mode from JSON: its name, or an object whose one member has the name
as its key and null as its value. -/
def ofJson? : Json → Option Encapsulation
  | .text name => ofName? name
  | .object [(name, .null)] => ofName? name
  | _ => Option.none

/-- Every mode is among `all`. -/
theorem mem_all (mode : Encapsulation) : mode ∈ all := by
  cases mode <;> decide

/-- A mode can be read from its own name. -/
theorem ofName?_name (mode : Encapsulation) :
    ofName? mode.name = some mode := by
  cases mode <;> decide

/-- Modes with the same rank are the same. -/
theorem rank_injective {one other : Encapsulation}
    (same : one.rank = other.rank) : one = other := by
  cases one <;> cases other <;> simp_all [rank]

end Encapsulation

end CodeSplit
