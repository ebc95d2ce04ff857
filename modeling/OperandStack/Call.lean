import OperandStack.Op
import OperandStack.Traversal.Basic

/-! # Calls as values

`Call` lists what can be asked of a stack, and `Call.run` answers one call: the result, the stack
after it and the trace events emitted on the way. `Call.need` says beforehand how deep the stack
has to be.
-/

universe u

namespace OperandStack

/-- One request to a stack of values from `α`. -/
inductive Call (α : Type u) where
  | push (value : α)
  | pushAll (values : List α)
  | extend (source : List α)
  /-- Take in the values of another stack from its top down. -/
  | extendFrom (other : Stack α)
  /-- Start over with the values of another stack from its top down. -/
  | collectFrom (other : Stack α)
  | pop
  | popMany (count : Nat)
  | peek
  | dup
  | swap
  | rshift
  | drop
  | clear
  | require (depth : Nat) (op : String)
  /-- Carry out a named operation, leaving a trace event. -/
  | apply (op : Op)
  | size
  | isEmpty
  | traverse (script : List Move)

/-- What a successful call answers. -/
inductive Reply (α : Type u) where
  | done
  | value (value : α)
  | values (values : List α)
  | count (count : Nat)
  | flag (flag : Bool)
  | answers (answers : List (Answer α))
deriving DecidableEq

/-- The answer to a call, the stack after it, and the events emitted during it. -/
structure Response (α : Type u) where
  result : Except StackError (Reply α)
  stack : Stack α
  events : List TraceEvent

namespace Call

variable {α : Type u}

/-- The response of a call that leaves no trace. -/
def quiet (result : Except StackError (Reply α)) (stack : Stack α) : Response α :=
  ⟨result, stack, []⟩

/-- Answers one call. -/
def run (call : Call α) (s : Stack α) : Response α :=
  match call with
  | push value => quiet (.ok .done) (s.push value)
  | pushAll values => quiet (.ok .done) (s.pushAll values)
  | extend source => quiet (.ok .done) (s.extend source)
  | extendFrom other => quiet (.ok .done) (s.extend other.traverse.toList)
  | collectFrom other => quiet (.ok .done) (Stack.ofList other.traverse.toList)
  | pop => let out := s.pop; quiet (out.result.map .value) out.stack
  | popMany count => let out := s.popMany count; quiet (out.result.map .values) out.stack
  | peek => quiet (s.peek.map .value) s
  | dup => let out := s.dup; quiet (out.result.map fun _ => .done) out.stack
  | swap => let out := s.swap; quiet (out.result.map fun _ => .done) out.stack
  | rshift => let out := s.rshift; quiet (out.result.map fun _ => .done) out.stack
  | drop => let out := s.drop; quiet (out.result.map fun _ => .done) out.stack
  | clear => quiet (.ok .done) s.clear
  | require depth op => quiet ((s.require depth op).map fun _ => .done) s
  | apply op =>
    let event := op.event s
    let out := op.apply s
    ⟨out.result.map fun _ => .done, out.stack, [event]⟩
  | size => quiet (.ok (.count s.size)) s
  | isEmpty => quiet (.ok (.flag s.isEmpty)) s
  | traverse script => quiet (.ok (.answers (s.traverse.run script))) s

/-- Tells whether the call can be refused, whatever the stack. -/
def fallible : Call α → Bool
  | pop | popMany _ | peek | dup | swap | rshift | drop | require _ _ | apply _ => true
  | push _ | pushAll _ | extend _ | extendFrom _ | collectFrom _ | clear | size | isEmpty
  | traverse _ => false

/-- The least depth at which the call succeeds. -/
def need : Call α → Nat
  | pop | peek | dup | drop => 1
  | swap => 2
  | rshift => 3
  | popMany count => count
  | require depth _ => depth
  | apply op => op.requiredDepth
  | push _ | pushAll _ | extend _ | extendFrom _ | collectFrom _ | clear | size | isEmpty
  | traverse _ => 0

end Call

end OperandStack
