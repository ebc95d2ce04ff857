import OperandStack.Stack.Basic
import OperandStack.Text.Inspect

/-! # The texts of a stack

A stack is written from the bottom to the top: as a plain line of its values, or as a record whose
one field lists them. Values may be stacks, so the texts nest.
-/

universe u

namespace OperandStack.Stack

variable {α : Type u}

/-- The values, each after a space. -/
def plainText [Plain α] (s : Stack α) : String :=
  "stack:" ++ String.join (s.toList.map fun value => " " ++ Plain.text value)

/-- The stack as a record on one line. -/
def inlineText [Inspect α] (s : Stack α) : String :=
  Text.inlineRecord "Stack" [("items", Text.inlineList (s.toList.map Inspect.inline))]

/-- The stack as a record with every value on lines of its own. -/
def blockText [Inspect α] (s : Stack α) : List String :=
  Text.blockRecord "Stack" [("items", Text.blockList (s.toList.map Inspect.block))]

instance [Plain α] : Plain (Stack α) := ⟨plainText⟩

instance [Inspect α] : Inspect (Stack α) := ⟨inlineText, blockText⟩

end OperandStack.Stack
