import OperandStack.Stack.Lemmas

/-! # Popping in bulk

`repush` turns over the top of a stack by popping it in bulk and pushing what came back. `drain`
pops until a pop fails and answers every value it met with the failure that ended it.
-/

universe u

namespace OperandStack.Stack

variable {α : Type u}

/-- Takes the top `count` values off and pushes them back in the order they came, which leaves
them reversed. -/
def repush (s : Stack α) (count : Nat) : Outcome α (List α) :=
  match s.popMany count with
  | ⟨.ok values, below⟩ => ⟨.ok values, below.pushAll values⟩
  | refused => refused

theorem repush_append (below above : List α) :
    (ofList (below ++ above)).repush above.length =
      ⟨.ok above.reverse, ofList (below ++ above.reverse)⟩ := by
  simp only [repush, popMany_append, pushAll_ofList]

/-- What popping to the end yields: the values in pop order, the failure after them, and the stack
left. -/
structure Drained (α : Type u) where
  popped : List α
  failure : StackError
  stack : Stack α

theorem toList_of_pop {s rest : Stack α} {value : α} (popped : s.pop = ⟨.ok value, rest⟩) :
    s.toList = rest.toList ++ [value] := by
  rcases s.pop_cases with ⟨below, top, rfl, answer⟩ | ⟨rfl, answer⟩
  · cases answer.symm.trans popped
    rfl
  · cases answer.symm.trans popped

/-- A successful pop leaves fewer values. -/
theorem size_lt_of_pop {s rest : Stack α} {value : α} (popped : s.pop = ⟨.ok value, rest⟩) :
    rest.size < s.size := by
  rw [← length_toList, ← length_toList, toList_of_pop popped, List.length_append]
  exact Nat.lt_succ_self _

/-- Pops until a pop fails, holding the values popped before, the latest first. -/
def drainAfter (before : List α) (s : Stack α) : Drained α :=
  match _taken : s.pop with
  | ⟨.ok value, rest⟩ => drainAfter (value :: before) rest
  | ⟨.error failure, rest⟩ => ⟨before.reverse, failure, rest⟩
termination_by s.size
decreasing_by exact size_lt_of_pop _taken

/-- Pops until a pop fails. -/
def drain (s : Stack α) : Drained α := drainAfter [] s

end OperandStack.Stack
