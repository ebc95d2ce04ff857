import OperandStack.Stack.Basic

/-! # Named operations

The operations on the top of a stack that an interpreter holds as values: `drop`, `dup`, `swap`
and `rshift`. Applying one emits a trace event first, whatever comes of it.
-/

universe u

namespace OperandStack

/-- An operation on the top of a stack. -/
inductive Op where
  | drop
  | duplicate
  | swap
  | rshift
deriving DecidableEq, Repr

/-- What an application leaves in the trace: the operation's name and the depth it met. -/
structure TraceEvent where
  op : String
  depth : Nat
deriving DecidableEq, Repr

namespace TraceEvent

/-- The severity at which applications are traced. -/
def level : String := "TRACE"

/-- The place in the program that applications are traced under. -/
def target : String := "glyph_core::ops"

/-- The text that goes with every application. -/
def message : String := "applying stack op"

end TraceEvent

namespace Op

variable {α : Type u}

/-- Every operation, in table order. -/
def all : List Op := [drop, duplicate, swap, rshift]

/-- The word an interpreter knows the operation by. -/
def name : Op → String
  | drop => "drop"
  | duplicate => "dup"
  | swap => "swap"
  | rshift => "rshift"

/-- The name of the alternative in inspection text. -/
def inspect : Op → String
  | drop => "Drop"
  | duplicate => "Duplicate"
  | swap => "Swap"
  | rshift => "Rshift"

/-- The operation known by a word. -/
def ofName? (word : String) : Option Op := all.find? fun op => op.name == word

/-- The least depth at which the operation succeeds. -/
def requiredDepth : Op → Nat
  | drop | duplicate => 1
  | swap => 2
  | rshift => 3

/-- The event that applying the operation to `s` emits. -/
def event (op : Op) (s : Stack α) : TraceEvent := ⟨op.name, s.size⟩

/-- Carries the operation out. -/
def apply (op : Op) (s : Stack α) : Outcome α Unit :=
  match op with
  | drop => s.drop
  | duplicate => s.dup
  | swap => s.swap
  | rshift => s.rshift

theorem ofName?_name (op : Op) : ofName? op.name = some op := by
  cases op <;> decide

end Op

end OperandStack
