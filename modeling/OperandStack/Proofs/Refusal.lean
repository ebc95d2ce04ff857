import OperandStack.Proofs.StackEffect
import OperandStack.Program

/-! # Refused calls

A call is refused exactly when the stack is too shallow for it, and a refusal names the call, what
it needed and what there was. As it leaves the stack alone, refused calls can be left out of a
program without any other call noticing.
-/

universe u

namespace OperandStack

variable {α : Type u}

namespace Call

/-- The result of a call is a failure exactly on a stack too shallow for the call. -/
theorem exists_failure_iff (call : Call α) (s : Stack α) :
    (∃ failure, (call.run s).result = .error failure) ↔ s.size < call.need := by
  constructor
  · rintro ⟨failure, refused⟩
    by_contra deep
    obtain ⟨reply, answered⟩ := exists_reply_of_le (Nat.le_of_not_lt deep)
    rw [answered] at refused
    cases refused
  · intro shallow
    exact ⟨call.refusal s.size, by rw [run_of_lt shallow]⟩

/-- A refused call leaves the stack as it was. -/
theorem stack_of_failure {call : Call α} {s : Stack α} {failure : StackError}
    (refused : (call.run s).result = .error failure) : (call.run s).stack = s := by
  rw [run_of_lt ((exists_failure_iff call s).mp ⟨failure, refused⟩)]

/-- There is one failure that a call on a given stack can end in. -/
theorem failure_eq_refusal {call : Call α} {s : Stack α} {failure : StackError}
    (refused : (call.run s).result = .error failure) : failure = call.refusal s.size := by
  rw [run_of_lt ((exists_failure_iff call s).mp ⟨failure, refused⟩)] at refused
  exact (Except.error.inj refused).symm

end Call

/-! ## Leaving calls out -/

/-- What remains of a list when the entries at some places are left out. -/
def leaveOut {β : Type u} (places : Nat → Bool) : List β → List β
  | [] => []
  | entry :: rest =>
    let remaining := leaveOut (fun place => places (place + 1)) rest
    if places 0 then remaining else entry :: remaining

namespace Program

/-- Tells that the calls at some places of a program are refused when it runs from a stack. -/
def RefusedAt (program : Program α) (s : Stack α) (places : Nat → Bool) : Prop :=
  ∀ place, places place = true → ∃ response failure,
    (program.run s)[place]? = some response ∧ response.result = .error failure

theorem RefusedAt.rest {call : Call α} {rest : Program α} {s : Stack α} {places : Nat → Bool}
    (refused : RefusedAt (call :: rest) s places) :
    RefusedAt rest (call.run s).stack fun place => places (place + 1) := by
  intro place chosen
  obtain ⟨response, failure, present, failed⟩ := refused (place + 1) chosen
  exact ⟨response, failure, by simpa only [run, List.getElem?_cons_succ] using present, failed⟩

/-- If the first call is among the refused ones, the stack after it is the one before it. -/
theorem RefusedAt.stack_eq {call : Call α} {rest : Program α} {s : Stack α} {places : Nat → Bool}
    (refused : RefusedAt (call :: rest) s places) (chosen : places 0 = true) :
    (call.run s).stack = s := by
  obtain ⟨response, failure, present, failed⟩ := refused 0 chosen
  obtain rfl : call.run s = response := Option.some.inj present
  exact Call.stack_of_failure failed

theorem run_leaveOut {program : Program α} {s : Stack α} {places : Nat → Bool}
    (refused : program.RefusedAt s places) :
    run (leaveOut places program) s = leaveOut places (run program s) := by
  induction program generalizing s places with
  | nil => rfl
  | cons call rest ih =>
    have later := ih refused.rest
    cases chosen : places 0 with
    | true =>
      rw [refused.stack_eq chosen] at later
      simpa only [leaveOut, run, chosen, ↓reduceIte, refused.stack_eq chosen] using later
    | false =>
      simpa only [leaveOut, run, chosen, Bool.false_eq_true, ↓reduceIte, List.cons.injEq,
        true_and] using later

theorem final_leaveOut {program : Program α} {s : Stack α} {places : Nat → Bool}
    (refused : program.RefusedAt s places) :
    final (leaveOut places program) s = final program s := by
  induction program generalizing s places with
  | nil => rfl
  | cons call rest ih =>
    have later := ih refused.rest
    cases chosen : places 0 with
    | true =>
      rw [refused.stack_eq chosen] at later
      simpa only [leaveOut, final, chosen, ↓reduceIte, refused.stack_eq chosen] using later
    | false => simpa only [leaveOut, final, chosen, Bool.false_eq_true, ↓reduceIte] using later

/-- Refusals are exact, truthful and atomic, and so they can be left out. A call is refused if and
only if the stack holds fewer values than the call needs; the stack then stays as it is, and the
failure names the call together with the need and the depth, or says that there is no value if the
call is after one only. Leaving any refused calls out of a program changes neither the responses to
the other calls nor the final stack. -/
theorem refusals_exact_and_removable :
    (∀ (call : Call α) (s : Stack α),
      ((∃ failure, (call.run s).result = .error failure) ↔ s.size < call.need) ∧
      ∀ failure, (call.run s).result = .error failure →
        (call.run s).stack = s ∧ s.size < call.need ∧
        failure = if call.takesOne then .emptyStack call.name
          else .insufficientDepth call.name call.need s.size) ∧
    ∀ (program : Program α) (s : Stack α) (places : Nat → Bool),
      program.RefusedAt s places →
        run (leaveOut places program) s = leaveOut places (run program s) ∧
        final (leaveOut places program) s = final program s := by
  refine ⟨fun call s => ⟨Call.exists_failure_iff call s, ?_⟩, ?_⟩
  · intro failure refused
    exact ⟨Call.stack_of_failure refused, (Call.exists_failure_iff call s).mp ⟨failure, refused⟩,
      Call.failure_eq_refusal refused⟩
  · intro program s places refused
    exact ⟨run_leaveOut refused, final_leaveOut refused⟩

/-- Three refusals are left out and one, of the swap, stays in. -/
theorem refusals_exact_and_removable_in_mixed_run :
    let program : Program Nat := [.pop, .push 1, .swap, .dup, .popMany 5, .apply .rshift, .popMany 2]
    let places := fun place => place == 0 || place == 4 || place == 5
    program.RefusedAt .empty places ∧
      leaveOut places program = [.push 1, .swap, .dup, .popMany 2] ∧
      run (leaveOut places program) .empty = leaveOut places (run program .empty) ∧
      final (leaveOut places program) .empty = final program .empty := by
  intro program places
  have refused : program.RefusedAt .empty places := by
    intro place chosen
    simp only [places, Bool.or_eq_true, beq_iff_eq] at chosen
    rcases chosen with (rfl | rfl) | rfl <;> exact ⟨_, _, rfl, rfl⟩
  exact ⟨refused, rfl, refusals_exact_and_removable.2 program .empty places refused⟩

end Program

end OperandStack
