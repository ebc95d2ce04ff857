import OperandStack.Error

/-! # The operand stack

A stack is an array with its bottom at index 0 and its top at the end. Operations that read answer
an `Except`; operations that change the stack answer an `Outcome`, which pairs the result with the
stack left behind. Every operation that can fail looks at the depth first, so a failure leaves the
stack as it was.
-/

universe u v

namespace OperandStack

/-- A stack of values, stored from the bottom up. -/
structure Stack (α : Type u) where
  items : Array α
deriving DecidableEq

/-- What an operation answers, and the stack it leaves. -/
structure Outcome (α : Type u) (β : Type v) where
  result : Except StackError β
  stack : Stack α

namespace Stack

variable {α : Type u} {β : Type v}

/-! ## Making and measuring -/

/-- The stack without values. -/
def empty : Stack α := ⟨#[]⟩

instance : Inhabited (Stack α) := ⟨empty⟩

/-- Takes over an array; its last element becomes the top. -/
def ofArray (items : Array α) : Stack α := ⟨items⟩

/-- Collects values in order; the last one becomes the top. -/
def ofList (values : List α) : Stack α := ⟨values.toArray⟩

/-- The values from the bottom to the top. -/
def toList (s : Stack α) : List α := s.items.toList

/-- The number of values. -/
def size (s : Stack α) : Nat := s.items.size

/-- Tells whether there are no values. -/
def isEmpty (s : Stack α) : Bool := s.items.isEmpty

/-! ## Adding values -/

/-- Puts a value on top: `( -- a )`. -/
def push (s : Stack α) (value : α) : Stack α := ⟨s.items.push value⟩

/-- Puts values on top in order; the last one ends up on top. -/
def pushAll (s : Stack α) (values : List α) : Stack α := ⟨s.items ++ values⟩

/-- Takes in all that a source yields, in the order it yields it. -/
def extend (s : Stack α) (source : List α) : Stack α := s.pushAll source

/-! ## Reading -/

/-- Checks on behalf of `op` that at least `depth` values are there. -/
def require (s : Stack α) (depth : Nat) (op : String) : Except StackError Unit :=
  if s.size < depth then .error (.insufficientDepth op depth s.size) else .ok ()

/-- The top value, which stays where it is. -/
def peek (s : Stack α) : Except StackError α :=
  match s.items.back? with
  | some value => .ok value
  | none => .error (.emptyStack "peek")

/-! ## Removing values -/

/-- Takes the top value off: `( a -- )`, answering `a`. -/
def pop (s : Stack α) : Outcome α α :=
  match s.items.back? with
  | some value => ⟨.ok value, ⟨s.items.pop⟩⟩
  | none => ⟨.error (.emptyStack "pop"), s⟩

/-- Discards the top value: `( a -- )`. -/
def drop (s : Stack α) : Outcome α Unit :=
  match s.items.back? with
  | some _ => ⟨.ok (), ⟨s.items.pop⟩⟩
  | none => ⟨.error (.emptyStack "drop"), s⟩

/-- Removes every value. -/
def clear (_s : Stack α) : Stack α := empty

/-- Runs `act` on a stack of at least `depth` values, and refuses on behalf of `op` otherwise. -/
def withDepth (s : Stack α) (depth : Nat) (op : String)
    (act : depth ≤ s.size → Outcome α β) : Outcome α β :=
  if enough : depth ≤ s.size then act enough
  else ⟨.error (.insufficientDepth op depth s.size), s⟩

/-- Takes the top `count` values off at once and answers them in the order of single pops: the
former top first. -/
def popMany (s : Stack α) (count : Nat) : Outcome α (List α) :=
  s.withDepth count "pop_n" fun _ =>
    let split := s.size - count
    ⟨.ok (s.items.extract split s.size).toList.reverse, ⟨s.items.take split⟩⟩

/-! ## Rearranging the top -/

/-- Puts a copy of the top value on top: `( a -- a a )`. Copying a value is taken to give back the
value itself, as it does for characters, numbers, texts and stacks of them. -/
def dup (s : Stack α) : Outcome α Unit :=
  match s.items.back? with
  | some value => ⟨.ok (), s.push value⟩
  | none => ⟨.error (.emptyStack "dup"), s⟩

/-- Exchanges the top two values: `( a b -- b a )`. -/
def swap (s : Stack α) : Outcome α Unit :=
  s.withDepth 2 "swap" fun enough =>
    have bound : 2 ≤ s.items.size := enough
    ⟨.ok (), ⟨s.items.swap (s.items.size - 1) (s.items.size - 2) (by omega) (by omega)⟩⟩

/-- Turns the top three values by one place, the top going below the other two:
`( a b c -- c a b )`. Two exchanges of neighbours carry it down. -/
def rshift (s : Stack α) : Outcome α Unit :=
  s.withDepth 3 "rshift" fun enough =>
    have bound : 3 ≤ s.items.size := enough
    let lowered := s.items.swap (s.items.size - 1) (s.items.size - 2) (by omega) (by omega)
    have same : lowered.size = s.items.size := Array.size_swap ..
    ⟨.ok (), ⟨lowered.swap (s.items.size - 2) (s.items.size - 3) (by omega) (by omega)⟩⟩

end Stack

end OperandStack
