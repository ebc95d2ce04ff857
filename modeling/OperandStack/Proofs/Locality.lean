import OperandStack.Proofs.Run

/-! # Locality

A call on the top of a stack reaches no deeper than it needs, so values put underneath a stack can
not be told by a program that succeeds on the stack alone: they change none of its answers and are
found untouched underneath the stack it leaves.
-/

universe u

namespace OperandStack

variable {α : Type u}

/-- The stack with the values of `base`, from the bottom up, underneath it. -/
def Stack.onBase (s : Stack α) (base : List α) : Stack α := ofList (base ++ s.toList)

theorem Stack.onBase_ofList (base values : List α) :
    (ofList values).onBase base = ofList (base ++ values) := rfl

/-- A base underneath a stack that is deep enough passes through a call unread. -/
theorem Call.run_onBase {call : Call α} (top : call.confined = true) {s : Stack α}
    (enough : call.need ≤ s.size) (base : List α) :
    (call.run (s.onBase base)).result = (call.run s).result ∧
      (call.run (s.onBase base)).stack = (call.run s).stack.onBase base := by
  obtain ⟨below, taken, left, reply, rfl, effect⟩ := exists_effect top enough
  -- The same effect acts on both stacks; only what lies below it differs.
  have alone := run_of_effect effect below
  have based := run_of_effect effect (base ++ below)
  rw [List.append_assoc] at based
  rw [Stack.onBase_ofList, alone, based, Stack.onBase_ofList, List.append_assoc]
  exact ⟨rfl, rfl⟩

namespace Program

theorem results_onBase (base : List α) {program : Program α} {s : Stack α}
    (top : ∀ call ∈ program, call.confined = true) (succeeds : program.Succeeds s) :
    (program.run (s.onBase base)).map Response.result =
      (program.run s).map Response.result := by
  induction program generalizing s with
  | nil => rfl
  | cons call rest ih =>
    obtain ⟨enough, later⟩ := (succeeds_cons_iff call rest s).mp succeeds
    obtain ⟨result, stack⟩ := Call.run_onBase (top call List.mem_cons_self) enough base
    simp only [run, List.map_cons, result, stack]
    rw [ih (fun other member => top other (List.mem_cons_of_mem _ member)) later]

theorem final_onBase (base : List α) {program : Program α} {s : Stack α}
    (top : ∀ call ∈ program, call.confined = true) (succeeds : program.Succeeds s) :
    program.final (s.onBase base) = (program.final s).onBase base := by
  induction program generalizing s with
  | nil => rfl
  | cons call rest ih =>
    obtain ⟨enough, later⟩ := (succeeds_cons_iff call rest s).mp succeeds
    obtain ⟨_, stack⟩ := Call.run_onBase (top call List.mem_cons_self) enough base
    simp only [final, stack]
    exact ih (fun other member => top other (List.mem_cons_of_mem _ member)) later

/-- A program on the top of the stack that succeeds from a stack also succeeds with any values
underneath; it gets the same answers, and the values are still underneath at the end. -/
theorem base_passes_unread (base : List α) (program : Program α) (s : Stack α)
    (top : ∀ call ∈ program, call.confined = true) (succeeds : program.Succeeds s) :
    program.Succeeds (s.onBase base) ∧
      (program.run (s.onBase base)).map Response.result =
        (program.run s).map Response.result ∧
      program.final (s.onBase base) = (program.final s).onBase base := by
  have same := results_onBase base top succeeds
  exact ⟨succeeds.of_results same, same, final_onBase base top succeeds⟩

/-- A run that works its way down to the last value of its own stack. -/
theorem base_passes_unread_to_the_last_value :
    let program : Program Nat := [.rshift, .apply .swap, .popMany 2, .dup, .require 2 "add",
      .pushAll [7, 8, 9], .rshift, .drop, .pop, .popMany 3]
    let s := Stack.ofList [1, 2, 3]
    let based := s.onBase [40, 50]
    (∀ call ∈ program, call.confined = true) ∧ program.Succeeds s ∧
      program.Succeeds based ∧
      (program.run based).map Response.result = (program.run s).map Response.result ∧
      program.final based = .ofList [40, 50] := by
  intro program s based
  have top : ∀ call ∈ program, call.confined = true := by decide
  have succeeds : program.Succeeds s := by decide
  obtain ⟨again, same, final⟩ := base_passes_unread [40, 50] program s top succeeds
  exact ⟨top, succeeds, again, same, final.trans (by decide)⟩

end Program

end OperandStack
