import OperandStack.Text.Inspect

/-! # Failures of stack operations

A stack operation fails for one reason only: the stack is too shallow for it. `StackError` says
which operation failed and how the depth fell short; `StackError.message` is the wording and
`StackError.inspect` the record of its parts.
-/

namespace OperandStack

/-- Why a stack operation was refused. -/
inductive StackError where
  /-- A one-value operation met a stack without values. -/
  | emptyStack (op : String)
  /-- An operation needed more values than the stack held. -/
  | insufficientDepth (op : String) (required available : Nat)
deriving DecidableEq, Repr

namespace StackError

/-- The name of the operation that failed. -/
def op : StackError → String
  | emptyStack op => op
  | insufficientDepth op _ _ => op

/-- Tells whether the failure is that of a one-value operation on a stack without values. -/
def isEmptyStack : StackError → Bool
  | emptyStack _ => true
  | insufficientDepth _ _ _ => false

/-- The sentence that reports the failure, led by the operation's name as it stands. -/
def message : StackError → String
  | emptyStack op => op ++ ": stack is empty"
  | insufficientDepth op required available =>
    op ++ ": requires " ++ Nat.repr required ++ " values, stack has " ++ Nat.repr available

/-- The failure that led to this one; a depth failure has none behind it. -/
def cause? : StackError → Option StackError
  | emptyStack _ => none
  | insufficientDepth _ _ _ => none

/-- The name of the alternative. -/
def label : StackError → String
  | emptyStack _ => "EmptyStack"
  | insufficientDepth _ _ _ => "InsufficientDepth"

/-- What the alternative holds, by name. -/
def fields [Text.Visibility] : StackError → List (String × String)
  | emptyStack op => [("op", Inspect.inline op)]
  | insufficientDepth op required available =>
    [("op", Inspect.inline op), ("required", Inspect.inline required),
      ("available", Inspect.inline available)]

/-- The failure as a record on one line. -/
def inspect [Text.Visibility] (failure : StackError) : String :=
  Text.inlineRecord failure.label failure.fields

end StackError

end OperandStack
