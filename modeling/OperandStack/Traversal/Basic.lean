import OperandStack.Stack.Basic

/-! # Traversals from top to bottom

A traversal is a window on the array of a stack. Its front is the top of what is left and its back
the bottom; moves take values off either end, and a value once taken is not met again. Each move
is described through `Traversal.toList`, the values left from front to back.
-/

universe u

namespace OperandStack

/-- The part of a stack that is still to be visited: the slots from `bottom` up to, but without,
`stop`. -/
structure Traversal (α : Type u) where
  items : Array α
  bottom : Nat
  stop : Nat
  bottom_le_stop : bottom ≤ stop := by omega
  stop_le_size : stop ≤ items.size := by omega

/-- One request to a traversal. -/
inductive Move where
  /-- Take a value from the front. -/
  | next
  /-- Take a value from the back. -/
  | back
  /-- Pass over `skipped` values at the front and take one. -/
  | nth (skipped : Nat)
  /-- Pass over `skipped` values at the back and take one. -/
  | nthBack (skipped : Nat)
  /-- Count the values left. -/
  | size
  /-- Take everything left, from the front. -/
  | rest
  /-- Take everything left, from the back. -/
  | restBack
deriving DecidableEq, Repr

/-- What a traversal answers to a move. -/
inductive Answer (α : Type u) where
  | value (taken : Option α)
  | size (left : Nat)
  | values (taken : List α)
deriving DecidableEq, Repr

namespace Traversal

variable {α : Type u}

/-- The number of values left. -/
def size (t : Traversal α) : Nat := t.stop - t.bottom

/-- The values left, from the front to the back. -/
def toList (t : Traversal α) : List α := (t.items.extract t.bottom t.stop).toList.reverse

/-- Takes the value at the front, if one is left. -/
def next (t : Traversal α) : Option α × Traversal α :=
  have bound := t.stop_le_size
  if left : t.bottom < t.stop then
    (some t.items[t.stop - 1], { t with
      stop := t.stop - 1
      bottom_le_stop := by omega
      stop_le_size := by omega })
  else (none, t)

/-- Takes the value at the back, if one is left. -/
def back (t : Traversal α) : Option α × Traversal α :=
  have bound := t.stop_le_size
  if left : t.bottom < t.stop then
    (some t.items[t.bottom], { t with
      bottom := t.bottom + 1
      bottom_le_stop := by omega })
  else (none, t)

/-- Passes over values at the front, over all of them if there are no more than `count`. -/
def skip (t : Traversal α) (count : Nat) : Traversal α :=
  have bound := t.stop_le_size
  have order := t.bottom_le_stop
  { t with
    stop := max t.bottom (t.stop - count)
    bottom_le_stop := by omega
    stop_le_size := by omega }

/-- Passes over values at the back, over all of them if there are no more than `count`. -/
def skipBack (t : Traversal α) (count : Nat) : Traversal α :=
  have order := t.bottom_le_stop
  { t with
    bottom := min t.stop (t.bottom + count)
    bottom_le_stop := by omega }

/-- Passes over values at the front and takes the one after them. -/
def nth (t : Traversal α) (skipped : Nat) : Option α × Traversal α := (t.skip skipped).next

/-- Passes over values at the back and takes the one before them. -/
def nthBack (t : Traversal α) (skipped : Nat) : Option α × Traversal α :=
  (t.skipBack skipped).back

/-- Takes everything left, from the front to the back. -/
def rest (t : Traversal α) : List α × Traversal α := (t.toList, t.skip t.size)

/-- Takes everything left, from the back to the front. -/
def restBack (t : Traversal α) : List α × Traversal α := (t.toList.reverse, t.skipBack t.size)

/-- Answers one move and says what is left after it. -/
def step (t : Traversal α) : Move → Answer α × Traversal α
  | .next => (.value t.next.1, t.next.2)
  | .back => (.value t.back.1, t.back.2)
  | .nth skipped => (.value (t.nth skipped).1, (t.nth skipped).2)
  | .nthBack skipped => (.value (t.nthBack skipped).1, (t.nthBack skipped).2)
  | .size => (.size t.size, t)
  | .rest => (.values t.rest.1, t.rest.2)
  | .restBack => (.values t.restBack.1, t.restBack.2)

/-- Answers the moves of a script in turn. -/
def run (t : Traversal α) : List Move → List (Answer α)
  | [] => []
  | move :: script => (t.step move).1 :: (t.step move).2.run script

end Traversal

/-- Starts a traversal of the whole stack. -/
def Stack.traverse {α : Type u} (s : Stack α) : Traversal α where
  items := s.items
  bottom := 0
  stop := s.items.size

end OperandStack
