import OperandStack.Program
import OperandStack.Proofs.StackEffect

/-! # Runs of programs

Moment `k` of a run is the one after its first `k` calls: moment 0 is the start, and moment `k` lies
just before call `k`. The call made at a moment turns the stack of that moment into the stack of the
next one and answers at its place in the run. A run succeeds if each of its calls finds the depth
that it needs.
-/

universe u v

namespace OperandStack.Program

variable {α : Type u}

theorem length_run (program : Program α) (s : Stack α) :
    (program.run s).length = program.length := by
  induction program generalizing s with
  | nil => rfl
  | cons call rest ih => rw [run, List.length_cons, List.length_cons, ih]

/-- The stack at a moment of a run; past the end of the program it stays as it is. -/
def stackAt (program : Program α) (s : Stack α) (moment : Nat) : Stack α :=
  final (program.take moment) s

def depthAt (program : Program α) (s : Stack α) (moment : Nat) : Nat :=
  (program.stackAt s moment).size

@[simp] theorem stackAt_zero (program : Program α) (s : Stack α) : program.stackAt s 0 = s := rfl

theorem stackAt_cons_succ (call : Call α) (rest : Program α) (s : Stack α) (moment : Nat) :
    stackAt (call :: rest) s (moment + 1) = stackAt rest (call.run s).stack moment := rfl

theorem stackAt_succ {program : Program α} {moment : Nat} {call : Call α}
    (present : program[moment]? = some call) (s : Stack α) :
    program.stackAt s (moment + 1) = (call.run (program.stackAt s moment)).stack := by
  have take : program.take (moment + 1) = program.take moment ++ [call] := by
    rw [List.take_add_one, present, Option.toList_some]
  rw [stackAt, take, final_append]
  rfl

theorem getElem?_run {program : Program α} {moment : Nat} {call : Call α}
    (present : program[moment]? = some call) (s : Stack α) :
    (program.run s)[moment]? = some (call.run (program.stackAt s moment)) := by
  induction program generalizing s moment with
  | nil => cases present
  | cons first rest ih =>
    cases moment with
    | zero =>
      obtain rfl : first = call := Option.some.inj present
      rfl
    | succ moment =>
      rw [List.getElem?_cons_succ] at present
      rw [run, List.getElem?_cons_succ, stackAt_cons_succ]
      exact ih present _

/-! ## Translations

A translation of calls and stacks that carries each response into the response of the translated
call carries whole runs into runs.
-/

section

variable {β : Type v} {onCall : Call α → Call β} {onStack : Stack α → Stack β}
  {onResponse : Response α → Response β}

theorem run_translated
    (step : ∀ call s, (onCall call).run (onStack s) = onResponse (call.run s))
    (stack : ∀ response, (onResponse response).stack = onStack response.stack)
    (program : Program α) (s : Stack α) :
    run (program.map onCall) (onStack s) = (program.run s).map onResponse := by
  induction program generalizing s with
  | nil => rfl
  | cons call rest ih => rw [List.map_cons, run, run, List.map_cons, step, stack, ih]

theorem final_translated
    (step : ∀ call s, (onCall call).run (onStack s) = onResponse (call.run s))
    (stack : ∀ response, (onResponse response).stack = onStack response.stack)
    (program : Program α) (s : Stack α) :
    final (program.map onCall) (onStack s) = onStack (program.final s) := by
  induction program generalizing s with
  | nil => rfl
  | cons call rest ih => rw [List.map_cons, final, final, step, stack, ih]

end

/-! ## Runs that succeed -/

/-- Tells that every call of a program succeeds when it runs from a stack. -/
def Succeeds (program : Program α) (s : Stack α) : Prop :=
  ∀ response ∈ program.run s, response.result.isOk = true

instance (program : Program α) (s : Stack α) : Decidable (program.Succeeds s) :=
  inferInstanceAs (Decidable (∀ response ∈ program.run s, response.result.isOk = true))

theorem succeeds_nil (s : Stack α) : Succeeds [] s := by
  intro response member
  cases member

theorem succeeds_cons_iff (call : Call α) (rest : Program α) (s : Stack α) :
    Succeeds (call :: rest) s ↔ call.need ≤ s.size ∧ Succeeds rest (call.run s).stack := by
  simp only [Succeeds, run, List.forall_mem_cons, Call.isOk_iff]

theorem succeeds_append_iff (first second : Program α) (s : Stack α) :
    Succeeds (first ++ second) s ↔ first.Succeeds s ∧ second.Succeeds (first.final s) := by
  simp only [Succeeds, run_append, List.forall_mem_append]

/-- Whether a program succeeds can be read off its results. -/
theorem Succeeds.of_results {program : Program α} {s t : Stack α} (succeeds : program.Succeeds s)
    (same : (program.run t).map Response.result = (program.run s).map Response.result) :
    program.Succeeds t := by
  intro response member
  have present : response.result ∈ (program.run s).map Response.result :=
    same ▸ List.mem_map_of_mem member
  obtain ⟨other, found, equal⟩ := List.mem_map.mp present
  exact equal ▸ succeeds other found

end OperandStack.Program
