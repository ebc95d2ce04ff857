import OperandStack.Call

/-! # Programs

A program is a list of calls, made in order and carried on past failures. `Program.run` collects
the responses and `Program.final` follows the stack; both split at any place in the program.
-/

universe u

namespace OperandStack

/-- Calls to be made one after the other. -/
abbrev Program (α : Type u) := List (Call α)

namespace Program

variable {α : Type u}

/-- The responses to the calls of a program, in order; a failure does not end the run. -/
def run : Program α → Stack α → List (Response α)
  | [], _ => []
  | call :: rest, s => call.run s :: run rest (call.run s).stack

/-- The stack after the last call. -/
def final : Program α → Stack α → Stack α
  | [], s => s
  | call :: rest, s => final rest (call.run s).stack

theorem run_append (first second : Program α) (s : Stack α) :
    run (first ++ second) s = run first s ++ run second (final first s) := by
  induction first generalizing s with
  | nil => rfl
  | cons call rest ih => exact congrArg (call.run s :: ·) (ih (call.run s).stack)

theorem final_append (first second : Program α) (s : Stack α) :
    final (first ++ second) s = final second (final first s) := by
  induction first generalizing s with
  | nil => rfl
  | cons call rest ih => exact ih (call.run s).stack

end Program

end OperandStack
