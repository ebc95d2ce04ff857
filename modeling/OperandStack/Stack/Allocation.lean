import OperandStack.Config.Basic
import OperandStack.Stack.Basic

/-! # Making room beforehand

A stack can be made with room for a number of values. The room is measured in bytes and no
allocation may take more than a signed 64-bit word counts; beyond that the stack is refused. Room
is not part of the stack: it changes no answer and no comparison.
-/

universe u

namespace OperandStack

/-- Values that take a fixed number of bytes in a stack's storage. -/
class SlotWidth (α : Type u) where
  /-- The bytes that one value takes. -/
  bytes : Nat

instance : SlotWidth Char := ⟨4⟩

instance : SlotWidth Int64 := ⟨8⟩

/-- A string takes a pointer, a length and a capacity. -/
instance : SlotWidth String := ⟨24⟩

/-- A stack takes a pointer, a length and a capacity. -/
instance {α : Type u} : SlotWidth (Stack α) := ⟨24⟩

/-- Why no room could be made. -/
inductive AllocationError where
  | capacityOverflow
deriving DecidableEq, Repr

/-- The words for the refusal. -/
def AllocationError.message : AllocationError → String
  | capacityOverflow => "capacity overflow"

namespace Stack

variable {α : Type u}

/-- The most bytes that one allocation may take. -/
def maxBytes : Nat := 0x7fffffffffffffff

/-- Room is made at once for no more values than this; a stack that needs more grows later. -/
def eagerSlots : Nat := 65536

/-- The empty stack with room for `capacity` values. -/
def withCapacity [SlotWidth α] (capacity : Nat) : Except AllocationError (Stack α) :=
  if capacity * SlotWidth.bytes α ≤ maxBytes then
    .ok ⟨Array.emptyWithCapacity (min capacity eagerSlots)⟩
  else .error .capacityOverflow

/-- The empty stack with the room that a configuration asks for. -/
def withConfig [SlotWidth α] (config : Config) : Except AllocationError (Stack α) :=
  withCapacity config.initialCapacity

end Stack

end OperandStack
