import OperandStack.Proofs.Run

/-! # Relabelled values

No call looks into a value: it only moves values, copies them or hands them back. So a program may
as well be run on labels. If a label is put in place of every value that a program pushes and of
every value on the stacks it works on and reads from, two values sharing a label or not, then each
response carries the labels of the values that it carried before and is otherwise the same.
-/

universe u v

namespace OperandStack

variable {α : Type u} {β : Type v}

/-! ## Relabelled stacks -/

namespace Stack

/-- Puts a label in place of every value. -/
def map (f : α → β) (s : Stack α) : Stack β := ⟨s.items.map f⟩

@[simp] theorem map_ofList (f : α → β) (values : List α) :
    (ofList values).map f = ofList (values.map f) := by
  simp [map, ofList]

@[simp] theorem map_empty (f : α → β) : (empty : Stack α).map f = empty := map_ofList f []

@[simp] theorem size_map (f : α → β) (s : Stack α) : (s.map f).size = s.size := Array.size_map ..

@[simp] theorem toList_map (f : α → β) (s : Stack α) : (s.map f).toList = s.toList.map f :=
  Array.toList_map ..

end Stack

/-! ## Relabelled traversals -/

/-- Puts a label in place of every value in an answer. -/
def Answer.map (f : α → β) : Answer α → Answer β
  | value taken => .value (taken.map f)
  | size left => .size left
  | values taken => .values (taken.map f)

namespace Traversal

/-- The same window on labels. -/
def map (f : α → β) (t : Traversal α) : Traversal β where
  items := t.items.map f
  bottom := t.bottom
  stop := t.stop
  bottom_le_stop := t.bottom_le_stop
  stop_le_size := by
    rw [Array.size_map]
    exact t.stop_le_size

theorem toList_map (f : α → β) (t : Traversal α) : (t.map f).toList = t.toList.map f := by
  simp [map, toList]

theorem next_map (f : α → β) (t : Traversal α) :
    (t.map f).next = (t.next.1.map f, t.next.2.map f) := by
  by_cases left : t.bottom < t.stop
  · have inside : (t.map f).bottom < (t.map f).stop := left
    rw [next, next, dif_pos inside, dif_pos left]
    simp [map]
  · have outside : ¬(t.map f).bottom < (t.map f).stop := left
    rw [next, next, dif_neg outside, dif_neg left]
    rfl

theorem back_map (f : α → β) (t : Traversal α) :
    (t.map f).back = (t.back.1.map f, t.back.2.map f) := by
  by_cases left : t.bottom < t.stop
  · have inside : (t.map f).bottom < (t.map f).stop := left
    rw [back, back, dif_pos inside, dif_pos left]
    simp [map]
  · have outside : ¬(t.map f).bottom < (t.map f).stop := left
    rw [back, back, dif_neg outside, dif_neg left]
    rfl

theorem skip_map (f : α → β) (t : Traversal α) (count : Nat) :
    (t.map f).skip count = (t.skip count).map f := rfl

theorem skipBack_map (f : α → β) (t : Traversal α) (count : Nat) :
    (t.map f).skipBack count = (t.skipBack count).map f := rfl

/-- A move on labels answers the labels of what the move answers on values. -/
theorem step_map (f : α → β) (t : Traversal α) (move : Move) :
    (t.map f).step move = ((t.step move).1.map f, (t.step move).2.map f) := by
  cases move with
  | next => simp only [step, next_map, Answer.map]
  | back => simp only [step, back_map, Answer.map]
  | nth skipped => simp only [step, nth, skip_map, next_map, Answer.map]
  | nthBack skipped => simp only [step, nthBack, skipBack_map, back_map, Answer.map]
  | size => rfl
  | rest =>
    simp only [step, rest, toList_map, Answer.map]
    rfl
  | restBack =>
    simp only [step, restBack, toList_map, Answer.map, List.map_reverse]
    rfl

theorem run_map (f : α → β) (t : Traversal α) (script : List Move) :
    (t.map f).run script = (t.run script).map (Answer.map f) := by
  induction script generalizing t with
  | nil => rfl
  | cons move rest ih => rw [run, run, List.map_cons, step_map, ih]

end Traversal

theorem Stack.traverse_map (f : α → β) (s : Stack α) :
    (s.map f).traverse = s.traverse.map f := by
  simp [Stack.traverse, Traversal.map, Stack.map]

/-! ## Relabelled calls -/

/-- Puts a label in place of every value in a reply. -/
def Reply.map (f : α → β) : Reply α → Reply β
  | done => .done
  | value held => .value (f held)
  | values held => .values (held.map f)
  | count number => .count number
  | flag held => .flag held
  | answers given => .answers (given.map (Answer.map f))

/-- Puts a label in place of every value in a response. Failures and events hold no values. -/
def Response.map (f : α → β) (response : Response α) : Response β :=
  ⟨response.result.map (Reply.map f), response.stack.map f, response.events⟩

namespace Call

/-- Puts a label in place of every value that a call pushes or reads from another stack. -/
def map (f : α → β) : Call α → Call β
  | push value => .push (f value)
  | pushAll values => .pushAll (values.map f)
  | extend source => .extend (source.map f)
  | extendFrom other => .extendFrom (other.map f)
  | collectFrom other => .collectFrom (other.map f)
  | pop => .pop
  | popMany count => .popMany count
  | peek => .peek
  | dup => .dup
  | swap => .swap
  | rshift => .rshift
  | drop => .drop
  | clear => .clear
  | require depth op => .require depth op
  | apply op => .apply op
  | size => .size
  | isEmpty => .isEmpty
  | traverse script => .traverse script

theorem map_direct (f : α → β) (op : Op) : (op.direct : Call α).map f = op.direct := by
  cases op <;> rfl

theorem need_map (f : α → β) (call : Call α) : (call.map f).need = call.need := by
  cases call <;> rfl

/-- A refusal tells nothing of values. -/
theorem refusal_map (f : α → β) (call : Call α) (available : Nat) :
    (call.map f).refusal available = call.refusal available := by
  cases call with
  | apply op => cases op <;> rfl
  | push | pushAll | extend | extendFrom | collectFrom | pop | popMany | peek | dup | swap | rshift
  | drop | clear | require | size | isEmpty | traverse => rfl

theorem trace_map (f : α → β) (call : Call α) (s : Stack α) :
    (call.map f).trace (s.map f) = call.trace s := by
  cases call with
  | apply op => simp only [map, trace, Op.event, Stack.size_map]
  | push | pushAll | extend | extendFrom | collectFrom | pop | popMany | peek | dup | swap | rshift
  | drop | clear | require | size | isEmpty | traverse => rfl

/-- A call has the same effect on labels. -/
theorem Effect.map (f : α → β) {call : Call α} {taken left : List α} {reply : Reply α}
    (effect : Effect call taken left reply) :
    Effect (call.map f) (taken.map f) (left.map f) (reply.map f) := by
  induction effect with
  | push value => exact .push (f value)
  | pushAll values => exact .pushAll (values.map f)
  | extend source => exact .extend (source.map f)
  | extendFrom other =>
    rw [List.map_reverse, ← Stack.toList_map]
    exact .extendFrom (other.map f)
  | pop a => exact .pop (f a)
  | popMany length =>
    rw [Reply.map, List.map_reverse]
    exact .popMany ((List.length_map f).trans length)
  | peek a => exact .peek (f a)
  | dup a => exact .dup (f a)
  | swap a b => exact .swap (f a) (f b)
  | rshift a b c => exact .rshift (f a) (f b) (f c)
  | drop a => exact .drop (f a)
  | require op length => exact .require op ((List.length_map f).trans length)
  | apply _ ih =>
    rw [map_direct] at ih
    exact .apply ih

/-- A call on a relabelled stack responds as it does on the stack, with labels for values. -/
theorem run_map (f : α → β) (call : Call α) (s : Stack α) :
    (call.map f).run (s.map f) = (call.run s).map f := by
  rcases call.run_cases s with shallow | ⟨below, taken, left, reply, rfl, effect⟩ | whole
  · have labelled : (s.map f).size < (call.map f).need := by
      rw [Stack.size_map, need_map]
      exact shallow
    rw [run_of_lt shallow, run_of_lt labelled, Stack.size_map, refusal_map, trace_map]
    rfl
  · -- An effect is a matter of places: the same one acts on the labels, above the labels below.
    have labelled := run_of_effect (effect.map f) (below.map f)
    rw [← List.map_append, ← List.map_append, ← Stack.map_ofList, ← Stack.map_ofList,
      trace_map] at labelled
    rw [labelled, run_of_effect effect]
    rfl
  · cases call with
    | collectFrom other =>
      simp only [map, run, Response.map, quiet, Stack.toList_traverse, Stack.toList_map,
        Stack.map_ofList, List.map_reverse]
      rfl
    | clear =>
      simp only [map, run, Response.map, quiet, Stack.clear, Stack.map_empty]
      rfl
    | size =>
      simp only [map, run, Response.map, quiet, Stack.size_map]
      rfl
    | isEmpty =>
      simp only [map, run, Response.map, quiet, Stack.isEmpty_eq, Stack.toList_map,
        List.isEmpty_map]
      rfl
    | traverse script =>
      simp only [map, run, Response.map, quiet, Stack.traverse_map, Traversal.run_map]
      rfl
    | push | pushAll | extend | extendFrom | pop | popMany | peek | dup | swap | rshift | drop
    | require | apply => cases whole

/-- Starts over with given values, the last one on top. -/
def startOver (values : List α) : Call α := .collectFrom (.ofList values.reverse)

theorem run_startOver (values : List α) (s : Stack α) :
    (startOver values).run s = ⟨.ok .done, .ofList values, []⟩ := by
  simp only [startOver, run, quiet, Stack.toList_traverse, Stack.toList_ofList,
    List.reverse_reverse]

theorem map_startOver (f : α → β) (values : List α) :
    (startOver values).map f = startOver (values.map f) := by
  simp only [startOver, map, Stack.map_ofList, List.map_reverse]

end Call

namespace Program

theorem run_map (f : α → β) (program : Program α) (s : Stack α) :
    run (program.map (Call.map f)) (s.map f) = (program.run s).map (Response.map f) :=
  run_translated (Call.run_map f) (fun _ => rfl) program s

theorem final_map (f : α → β) (program : Program α) (s : Stack α) :
    final (program.map (Call.map f)) (s.map f) = (program.final s).map f :=
  final_translated (Call.run_map f) (fun _ => rfl) program s

/-- Values are opaque. Put labels in place of the values that a program pushes and of the values on
the starting stack and on every stack it reads from, in any way whatever. Then every call responds
as before, with the labels of the values that it answered and left on the stack: it fails in the same
cases with the same failures, leaves the same depth and emits the same events. The final stack holds
the labels of the values it held. Stacks that are made of values, at the start or on the way, are
made of their labels. -/
theorem run_relabelled (f : α → β) :
    (∀ (program : Program α) (s : Stack α),
      run (program.map (Call.map f)) (s.map f) = (program.run s).map (Response.map f) ∧
      final (program.map (Call.map f)) (s.map f) = (program.final s).map f ∧
      ∀ moment, depthAt (program.map (Call.map f)) (s.map f) moment = program.depthAt s moment) ∧
    Stack.empty.map f = Stack.empty ∧
    (∀ items : Array α, (Stack.ofArray items).map f = Stack.ofArray (items.map f)) ∧
    ∀ values : List α,
      (Stack.ofList values).map f = Stack.ofList (values.map f) ∧
      (Call.startOver values).map f = Call.startOver (values.map f) ∧
      ∀ s, (Call.startOver values).run s = ⟨.ok .done, Stack.ofList values, []⟩ := by
  refine ⟨?_, Stack.map_empty f, fun _ => rfl, ?_⟩
  · intro program s
    refine ⟨run_map f program s, final_map f program s, ?_⟩
    intro moment
    rw [depthAt, depthAt, stackAt, stackAt, ← List.map_take, final_map, Stack.size_map]
  · intro values
    exact ⟨Stack.map_ofList f values, Call.map_startOver f values, Call.run_startOver values⟩

end Program

end OperandStack
