import OperandStack.Proofs.Rearrangement

/-! # Operations carried out in order

An operation on the top of a stack leaves a stack alone that is too shallow for it. So operations
can be carried out one after the other on any stack, and a program whose calls carry them out, each
directly or by application, leaves the same stack.
-/

universe u

namespace OperandStack.Op

variable {α : Type u}

/-- The stack after an operation, which leaves it as it is if it is too shallow. -/
def act (s : Stack α) (op : Op) : Stack α := (op.apply s).stack

theorem stack_run_direct (op : Op) (s : Stack α) :
    ((op.direct : Call α).run s).stack = act s op := by
  cases op <;> rfl

theorem act_of_lt {op : Op} {s : Stack α} (shallow : s.size < op.requiredDepth) :
    act s op = s := by
  rw [← stack_run_direct, Call.run_of_lt (by rwa [op.need_direct])]

theorem act_of_effect {op : Op} {taken left : List α} {reply : Reply α}
    (effect : Call.Effect op.direct taken left reply) (below : List α) :
    act (.ofList (below ++ taken)) op = .ofList (below ++ left) := by
  rw [← stack_run_direct, Call.run_of_effect effect]

theorem exists_effect_of_le {op : Op} {s : Stack α} (enough : op.requiredDepth ≤ s.size) :
    ∃ below taken left reply, s = .ofList (below ++ taken) ∧
      Call.Effect op.direct taken left reply :=
  Call.exists_effect (Call.confined_direct op) (by rwa [op.need_direct])

/-- Tells that the calls of a program carry out operations, each directly or by application. -/
def CarriedOut (ops : List Op) (program : Program α) : Prop :=
  program.map Call.rearrangement? = ops.map some

theorem carriedOut_applies (ops : List Op) : CarriedOut ops (ops.map .apply : Program α) :=
  List.map_map

theorem CarriedOut.final_eq {ops : List Op} {program : Program α}
    (carried : CarriedOut ops program) (s : Stack α) : program.final s = ops.foldl act s := by
  induction ops generalizing program s with
  | nil =>
    obtain rfl := List.map_eq_nil_iff.mp carried
    rfl
  | cons op rest ih =>
    obtain ⟨call, more, rfl, rearranges, carried⟩ := List.map_eq_cons_iff.mp carried
    have stack := (Call.run_of_rearrangement rearranges s).2
    rw [Program.final, List.foldl_cons, stack, stack_run_direct, ih carried]

end OperandStack.Op
