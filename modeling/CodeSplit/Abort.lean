/-
Module: CodeSplit.Abort
Purpose: signals with which a host calls off a build.
Main exports:
  AbortSignals, AbortSignals.check
-/
import CodeSplit.Fault

namespace CodeSplit

/-!
A host and the build that it runs each hold a handle.  Handles made from one
another share a signal, so raising it through one shows at all of them; a signal
that is raised stays so.
-/

/-- Signals, and the handles on them. -/
structure AbortSignals where
  /-- For every signal, whether it is raised. -/
  raised : List Bool := [false]
  /-- For every handle, the signal that it is on. -/
  handles : List Nat := [0]
deriving Repr, DecidableEq

namespace AbortSignals

/-- The signal that a handle is on. -/
def signalOf (signals : AbortSignals) (handle : Nat) : Nat :=
  signals.handles.getD handle 0

/-- Make a signal, with a handle on it. -/
def create (signals : AbortSignals) : AbortSignals where
  raised := signals.raised ++ [false]
  handles := signals.handles ++ [signals.raised.length]

/-- Make another handle on the signal of a handle. -/
def share (signals : AbortSignals) (handle : Nat) : AbortSignals :=
  { signals with handles := signals.handles ++ [signals.signalOf handle] }

/-- Raise the signal of a handle. -/
def abort (signals : AbortSignals) (handle : Nat) : AbortSignals :=
  { signals with raised := signals.raised.set (signals.signalOf handle) true }

/-- Whether the signal of a handle is raised. -/
def isAborted (signals : AbortSignals) (handle : Nat) : Bool :=
  signals.raised.getD (signals.signalOf handle) false

/-- Stop when the signal of a handle is raised. -/
def check (signals : AbortSignals) (handle : Nat) : Except Fault Unit :=
  if signals.isAborted handle then .error .aborted else .ok ()

/-- A handle that shares a signal shows what the other one shows. -/
theorem isAborted_eq_of_shared {signals : AbortSignals} {one other : Nat}
    (shared : signals.signalOf one = signals.signalOf other) :
    signals.isAborted one = signals.isAborted other := by
  simp [isAborted, shared]

end AbortSignals

end CodeSplit
