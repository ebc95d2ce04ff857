import OperandStack.Call
import OperandStack.Stack.Lemmas
import OperandStack.Traversal.Lemmas
import Mathlib.Data.List.Basic

/-! # Stack effects

A call meets a stack in one of two ways. On a stack too shallow for it, it is refused and leaves the
stack alone; `Call.refusal` is what it says. Otherwise a call that works on the top alone has a
stack effect `( taken -- left )`: it takes as many values off the top as it needs, puts others in
their place and gives a reply, whatever lies below. `Call.Effect` lists the effects, and
`Call.run_of_effect` and `Call.run_of_lt` say that answering a call is nothing more than this.
-/

universe u

namespace OperandStack

variable {α : Type u}

namespace Stack

/-- A stack splits above any depth it reaches. -/
theorem exists_eq_ofList_append {s : Stack α} {count : Nat} (enough : count ≤ s.size) :
    ∃ below above : List α, above.length = count ∧ s = ofList (below ++ above) := by
  refine ⟨s.toList.take (s.size - count), s.toList.drop (s.size - count), ?_, ?_⟩
  · rw [List.length_drop, length_toList]
    omega
  · rw [List.take_append_drop, ofList_toList]

theorem eq_empty_of_size_lt_one {s : Stack α} (shallow : s.size < 1) : s = empty := by
  apply toList_injective
  rw [toList_empty, ← List.length_eq_zero_iff, length_toList]
  omega

end Stack

/-- The call that does without a trace what the operation does when it is applied. -/
def Op.direct : Op → Call α
  | drop => .drop
  | duplicate => .dup
  | swap => .swap
  | rshift => .rshift

theorem Op.need_direct (op : Op) : (op.direct : Call α).need = op.requiredDepth := by
  cases op <;> rfl

namespace Call

/-- The events that a call emits on a stack: applications are traced and nothing else is. -/
def trace : Call α → Stack α → List TraceEvent
  | apply op, s => [op.event s]
  | push _, _ | pushAll _, _ | extend _, _ | extendFrom _, _ | collectFrom _, _ | pop, _
  | popMany _, _ | peek, _ | dup, _ | swap, _ | rshift, _ | drop, _ | clear, _ | require _ _, _
  | size, _ | isEmpty, _ | traverse _, _ => []

/-- Applying an operation is making the direct call, with an event before it. -/
theorem run_apply (op : Op) (s : Stack α) :
    (apply op).run s = { op.direct.run s with events := [op.event s] } := by
  cases op <;> rfl

theorem events_run (call : Call α) (s : Stack α) : (call.run s).events = call.trace s := by
  cases call <;> rfl

/-! ## Refusals -/

/-- The name that a call goes by when it is refused. -/
def name : Call α → String
  | pop => "pop"
  | popMany _ => "pop_n"
  | peek => "peek"
  | dup => "dup"
  | swap => "swap"
  | rshift => "rshift"
  | drop => "drop"
  | require _ op => op
  | apply op => op.name
  | push _ | pushAll _ | extend _ | extendFrom _ | collectFrom _ | clear | size | isEmpty
  | traverse _ => ""

/-- Tells whether the call works on the top value only, so that a refusal finds no value at all. -/
def takesOne : Call α → Bool
  | pop | peek | dup | drop | apply .drop | apply .duplicate => true
  | popMany _ | swap | rshift | require _ _ | apply .swap | apply .rshift | push _ | pushAll _
  | extend _ | extendFrom _ | collectFrom _ | clear | size | isEmpty | traverse _ => false

/-- The failure of a call on a stack of `available` values. -/
def refusal (call : Call α) (available : Nat) : StackError :=
  if call.takesOne then .emptyStack call.name
  else .insufficientDepth call.name call.need available

theorem refusal_apply (op : Op) (available : Nat) :
    (apply op : Call α).refusal available = (op.direct : Call α).refusal available := by
  cases op <;> rfl

private theorem run_direct_of_lt (op : Op) {s : Stack α} (shallow : s.size < op.requiredDepth) :
    (op.direct : Call α).run s = ⟨.error ((op.direct : Call α).refusal s.size), s, []⟩ := by
  cases op with
  | drop =>
    obtain rfl := Stack.eq_empty_of_size_lt_one shallow
    rfl
  | duplicate =>
    obtain rfl := Stack.eq_empty_of_size_lt_one shallow
    rfl
  | swap =>
    simp only [Op.direct, run, Stack.swap_of_lt shallow]
    rfl
  | rshift =>
    simp only [Op.direct, run, Stack.rshift_of_lt shallow]
    rfl

/-- On a stack too shallow for it a call fails in one way and touches nothing. -/
theorem run_of_lt {call : Call α} {s : Stack α} (shallow : s.size < call.need) :
    call.run s = ⟨.error (call.refusal s.size), s, call.trace s⟩ := by
  cases call with
  | pop | peek =>
    obtain rfl := Stack.eq_empty_of_size_lt_one shallow
    rfl
  | drop => exact run_direct_of_lt .drop shallow
  | dup => exact run_direct_of_lt .duplicate shallow
  | swap => exact run_direct_of_lt .swap shallow
  | rshift => exact run_direct_of_lt .rshift shallow
  | popMany count =>
    have short : s.size < count := shallow
    simp only [run, Stack.popMany_of_lt short]
    rfl
  | require depth op =>
    have short : s.size < depth := shallow
    simp only [run, Stack.require_of_lt short]
    rfl
  | apply op =>
    rw [run_apply, run_direct_of_lt op shallow, refusal_apply]
    rfl
  | push | pushAll | extend | extendFrom | collectFrom | clear | size | isEmpty | traverse =>
    exact absurd shallow (Nat.not_lt_zero _)

/-! ## Effects -/

/-- Tells whether the call works on the top of the stack alone. The others start over, measure the
stack or visit all of it. -/
def confined : Call α → Bool
  | push _ | pushAll _ | extend _ | extendFrom _ | pop | popMany _ | peek | dup | swap | rshift
  | drop | require _ _ | apply _ => true
  | collectFrom _ | clear | size | isEmpty | traverse _ => false

theorem confined_direct (op : Op) : (op.direct : Call α).confined = true := by
  cases op <;> rfl

/-- The stack effect `( taken -- left )` of a call, with its reply. Both lists go from the bottom
to the top. -/
inductive Effect : Call α → List α → List α → Reply α → Prop
  | push (value : α) : Effect (.push value) [] [value] .done
  | pushAll (values : List α) : Effect (.pushAll values) [] values .done
  | extend (source : List α) : Effect (.extend source) [] source .done
  | extendFrom (other : Stack α) : Effect (.extendFrom other) [] other.toList.reverse .done
  | pop (a : α) : Effect .pop [a] [] (.value a)
  | popMany {count : Nat} {taken : List α} (length : taken.length = count) :
      Effect (.popMany count) taken [] (.values taken.reverse)
  | peek (a : α) : Effect .peek [a] [a] (.value a)
  | dup (a : α) : Effect .dup [a] [a, a] .done
  | swap (a b : α) : Effect .swap [a, b] [b, a] .done
  | rshift (a b c : α) : Effect .rshift [a, b, c] [c, a, b] .done
  | drop (a : α) : Effect .drop [a] [] .done
  | require {depth : Nat} {taken : List α} (op : String) (length : taken.length = depth) :
      Effect (.require depth op) taken taken .done
  | apply {op : Op} {taken left : List α} {reply : Reply α}
      (direct : Effect op.direct taken left reply) : Effect (.apply op) taken left reply

/-- An effect takes exactly what the call needs. -/
theorem Effect.length_taken {call : Call α} {taken left : List α} {reply : Reply α}
    (effect : Effect call taken left reply) : taken.length = call.need := by
  induction effect with
  | popMany length | require _ length => exact length
  | @apply op _ _ _ _ ih => exact ih.trans op.need_direct
  | push | pushAll | extend | extendFrom | pop | peek | dup | swap | rshift | drop => rfl

/-- An operation replies with nothing but that it is done. -/
theorem Effect.reply_direct {op : Op} {taken left : List α} {reply : Reply α}
    (effect : Effect op.direct taken left reply) : reply = .done := by
  cases op <;> (cases effect; rfl)

/-- A call with an effect has it on every stack that ends in what it takes. -/
theorem run_of_effect {call : Call α} {taken left : List α} {reply : Reply α}
    (effect : Effect call taken left reply) (below : List α) :
    call.run (.ofList (below ++ taken)) = ⟨.ok reply, .ofList (below ++ left),
      call.trace (.ofList (below ++ taken))⟩ := by
  induction effect with
  | push value =>
    rw [List.append_nil]
    simp only [run, Stack.push_ofList]
    rfl
  | pushAll values | extend values =>
    rw [List.append_nil]
    simp only [run, Stack.extend, Stack.pushAll_ofList]
    rfl
  | extendFrom other =>
    rw [List.append_nil]
    simp only [run, Stack.extend, Stack.pushAll_ofList, Stack.toList_traverse]
    rfl
  | pop a =>
    simp only [run, Stack.pop_concat, List.append_nil]
    rfl
  | @popMany _ taken length =>
    subst length
    simp only [run, Stack.popMany_append, List.append_nil]
    rfl
  | peek a =>
    simp only [run, Stack.peek_concat]
    rfl
  | dup a =>
    simp only [run, Stack.dup_concat]
    rfl
  | swap a b =>
    simp only [run, Stack.swap_concat]
    rfl
  | rshift a b c =>
    simp only [run, Stack.rshift_concat]
    rfl
  | drop a =>
    simp only [run, Stack.drop_concat, List.append_nil]
    rfl
  | @require depth taken op length =>
    have enough : depth ≤ (Stack.ofList (below ++ taken)).size := by
      rw [Stack.size_ofList, List.length_append]
      omega
    simp only [run, Stack.require_of_le enough]
    rfl
  | apply direct ih =>
    rw [run_apply, ih]
    rfl

private theorem exists_effect_direct (op : Op) {taken : List α}
    (length : taken.length = op.requiredDepth) :
    ∃ left reply, Effect op.direct taken left reply := by
  cases op with
  | drop =>
    obtain ⟨a, rfl⟩ := List.length_eq_one_iff.mp length
    exact ⟨_, _, .drop a⟩
  | duplicate =>
    obtain ⟨a, rfl⟩ := List.length_eq_one_iff.mp length
    exact ⟨_, _, .dup a⟩
  | swap =>
    obtain ⟨a, b, rfl⟩ := List.length_eq_two.mp length
    exact ⟨_, _, .swap a b⟩
  | rshift =>
    obtain ⟨a, b, c, rfl⟩ := List.length_eq_three.mp length
    exact ⟨_, _, .rshift a b c⟩

/-- A call on the top alone has an effect on any values that are as many as it needs. -/
theorem exists_effect_of_length {call : Call α} (top : call.confined = true) {taken : List α}
    (length : taken.length = call.need) : ∃ left reply, Effect call taken left reply := by
  cases call with
  | pop =>
    obtain ⟨a, rfl⟩ := List.length_eq_one_iff.mp length
    exact ⟨_, _, .pop a⟩
  | peek =>
    obtain ⟨a, rfl⟩ := List.length_eq_one_iff.mp length
    exact ⟨_, _, .peek a⟩
  | drop => exact exists_effect_direct .drop length
  | dup => exact exists_effect_direct .duplicate length
  | swap => exact exists_effect_direct .swap length
  | rshift => exact exists_effect_direct .rshift length
  | popMany count => exact ⟨_, _, .popMany length⟩
  | require depth op => exact ⟨_, _, .require op length⟩
  | apply op =>
    obtain ⟨left, reply, direct⟩ := exists_effect_direct op length
    exact ⟨_, _, .apply direct⟩
  | push value =>
    obtain rfl := List.length_eq_zero_iff.mp length
    exact ⟨_, _, .push value⟩
  | pushAll values =>
    obtain rfl := List.length_eq_zero_iff.mp length
    exact ⟨_, _, .pushAll values⟩
  | extend source =>
    obtain rfl := List.length_eq_zero_iff.mp length
    exact ⟨_, _, .extend source⟩
  | extendFrom other =>
    obtain rfl := List.length_eq_zero_iff.mp length
    exact ⟨_, _, .extendFrom other⟩
  | collectFrom | clear | size | isEmpty | traverse => cases top

/-- A stack deep enough for a call on the top alone splits into what the call takes and what lies
below. -/
theorem exists_effect {call : Call α} (top : call.confined = true) {s : Stack α}
    (enough : call.need ≤ s.size) :
    ∃ below taken left reply, s = .ofList (below ++ taken) ∧ Effect call taken left reply := by
  obtain ⟨below, taken, length, shape⟩ := Stack.exists_eq_ofList_append enough
  obtain ⟨left, reply, effect⟩ := exists_effect_of_length top length
  exact ⟨below, taken, left, reply, shape, effect⟩

/-- A call meets a stack that is too shallow, has an effect on it, or works on all of it. -/
theorem run_cases (call : Call α) (s : Stack α) :
    s.size < call.need ∨
      (∃ below taken left reply, s = .ofList (below ++ taken) ∧ Effect call taken left reply) ∨
      call.confined = false := by
  cases top : call.confined with
  | false => exact .inr (.inr rfl)
  | true =>
    rcases Nat.lt_or_ge s.size call.need with shallow | enough
    · exact .inl shallow
    · exact .inr (.inl (exists_effect top enough))

/-- A pop meets a value on top or an empty stack. -/
theorem run_pop_cases (s : Stack α) :
    (∃ below a, s = .ofList (below ++ [a]) ∧ pop.run s = ⟨.ok (.value a), .ofList below, []⟩) ∨
      s = .empty ∧ pop.run s = ⟨.error (.emptyStack "pop"), .empty, []⟩ := by
  rcases s.pop_cases with ⟨below, a, rfl, popped⟩ | ⟨rfl, popped⟩
  · refine .inl ⟨below, a, rfl, ?_⟩
    rw [run, popped]
    rfl
  · exact .inr ⟨rfl, rfl⟩

/-- A call succeeds on every stack that is deep enough. -/
theorem exists_reply_of_le {call : Call α} {s : Stack α} (enough : call.need ≤ s.size) :
    ∃ reply, (call.run s).result = .ok reply := by
  by_cases top : call.confined = true
  · obtain ⟨below, taken, left, reply, rfl, effect⟩ := exists_effect top enough
    exact ⟨reply, by rw [run_of_effect effect]⟩
  · cases call with
    | collectFrom | clear | size | isEmpty | traverse => exact ⟨_, rfl⟩
    | push | pushAll | extend | extendFrom | pop | popMany | peek | dup | swap | rshift | drop
    | require | apply => exact absurd rfl top

/-- Depth alone decides whether a call succeeds. -/
theorem isOk_iff (call : Call α) (s : Stack α) :
    (call.run s).result.isOk = true ↔ call.need ≤ s.size := by
  constructor
  · intro answered
    by_contra shallow
    rw [run_of_lt (Nat.lt_of_not_le shallow)] at answered
    cases answered
  · intro enough
    obtain ⟨reply, answered⟩ := exists_reply_of_le enough
    rw [answered]
    rfl

end Call

end OperandStack
