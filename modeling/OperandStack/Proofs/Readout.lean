import OperandStack.Proofs.Chunks
import OperandStack.Proofs.Observation
import OperandStack.Proofs.Window

/-! # Ways to read a stack out

A stack can be read out by visiting it from either end, by popping until a pop fails, and by popping
all of it at once. All of them list the same values from the top down. A stack that takes in what
another one yields therefore gets its values turned over, and popping as many gives them back from
the bottom up.
-/

universe u

namespace OperandStack

variable {α : Type u}

namespace Stack

theorem drainAfter_eq (before : List α) (s : Stack α) :
    drainAfter before s = ⟨before.reverse ++ s.toList.reverse, .emptyStack "pop", empty⟩ := by
  fun_induction drainAfter before s with
  | case1 before s value rest popped ih =>
    rw [ih, toList_of_pop popped, List.reverse_append, List.reverse_cons, List.append_assoc]
    rfl
  | case2 before s failure rest refused =>
    rcases s.pop_cases with ⟨below, top, rfl, answer⟩ | ⟨rfl, answer⟩
    · cases answer.symm.trans refused
    · cases answer.symm.trans refused
      rw [toList_empty, List.reverse_nil, List.append_nil]

theorem drain_eq (s : Stack α) : s.drain = ⟨s.toList.reverse, .emptyStack "pop", empty⟩ :=
  drainAfter_eq [] s

theorem popMany_size (s : Stack α) : s.popMany s.size = ⟨.ok s.toList.reverse, empty⟩ :=
  popMany_append [] s.toList

end Stack

namespace Traversal

theorem fst_exhaust_traverse (s : Stack α) (side : Side) :
    (exhaust side s.traverse).1 = s.traverse.listFrom side := (exhaust_eq side s.traverse).1

/-- Taking values one by one from the front reads the list of the values left, and then nothing. -/
theorem run_replicate_next (count : Nat) (t : Traversal α) :
    t.run (List.replicate count .next) =
      (List.range count).map fun earlier => .value t.toList[earlier]? := by
  induction count generalizing t with
  | zero => rfl
  | succ count ih =>
    have later : t.next.2.run (List.replicate count .next) =
        (List.range count).map fun earlier => .value t.toList[earlier + 1]? := by
      simp only [ih, toList_snd_next, List.getElem?_tail]
    rw [List.replicate_succ, List.range_succ_eq_map, List.map_cons, List.map_map,
      ← List.head?_eq_getElem?, ← fst_next]
    exact congrArg (Answer.value t.next.1 :: ·) later

end Traversal

namespace Call

theorem stack_run_collectFrom (s other : Stack α) :
    ((collectFrom s).run other).stack = .ofList s.toList.reverse := by
  rw [← Stack.toList_traverse]
  rfl

theorem stack_run_extendFrom (s other : Stack α) :
    ((extendFrom s).run other).stack = .ofList (other.toList ++ s.toList.reverse) := by
  rw [← Stack.toList_traverse, ← Stack.pushAll_ofList, Stack.ofList_toList]
  rfl

end Call

namespace Program

open Traversal

/-- All ways to read a stack out agree. A traversal that is followed from its front until nothing
comes, pops until one fails, one pop of everything, and a traversal followed from its back, turned
over, give one list with as many values as the stack has. The pops end in the refusal of a pop and
an empty stack. Value by value, a traversal has nothing left exactly where a pop is refused. A stack
collected from a traversal or from those pops is the stack turned over, and collecting twice
restores it. A stack that takes in what a traversal yields has it on top, and however as many values
are popped again, they come from the bottom up and leave the stack as it was. -/
theorem readings_agree (s : Stack α) :
    let reading := (exhaust .front s.traverse).1
    reading.length = s.size ∧
      s.drain = ⟨reading, .emptyStack "pop", .empty⟩ ∧
      s.popMany s.size = ⟨.ok reading, .empty⟩ ∧
      (exhaust .back s.traverse).1.reverse = reading ∧
      (∀ count,
        s.traverse.run (List.replicate count .next) =
            (List.range count).map (fun earlier => .value reading[earlier]?) ∧
          (run (List.replicate count .pop) s).map Response.result =
            (List.range count).map fun earlier => popAnswer reading[earlier]?) ∧
      (∀ other another,
        let collected := ((Call.collectFrom s).run other).stack
        collected.toList = s.toList.reverse ∧
          collected = .ofList reading ∧
          collected = .ofList s.drain.popped ∧
          ((Call.collectFrom collected).run another).stack = s) ∧
      ∀ (t : Stack α) (pops : Program α), TakesOff pops s.size →
        ((Call.extendFrom s).run t).stack.toList = t.toList ++ s.toList.reverse ∧
          Succeeds (.extendFrom s :: pops) t ∧
          popped (.extendFrom s :: pops) t = s.toList ∧
          final (.extendFrom s :: pops) t = t := by
  intro reading
  have front : reading = s.toList.reverse := by
    rw [← s.toList_traverse]
    exact fst_exhaust_traverse s .front
  have back : (exhaust .back s.traverse).1 = s.toList := by
    rw [fst_exhaust_traverse, listFrom, s.toList_traverse, List.reverse_reverse]
  rw [front, back, s.drain_eq]
  refine ⟨?_, rfl, s.popMany_size, rfl, ?_, ?_, ?_⟩
  · rw [List.length_reverse, Stack.length_toList]
  · intro count
    rw [run_replicate_next, s.toList_traverse]
    exact ⟨rfl, results_replicate_pop count s⟩
  · intro other another collected
    have turned : collected = .ofList s.toList.reverse := Call.stack_run_collectFrom s other
    refine ⟨congrArg Stack.toList turned, turned, turned, ?_⟩
    rw [Call.stack_run_collectFrom, turned, Stack.toList_ofList, List.reverse_reverse,
      Stack.ofList_toList]
  · intro t pops takes
    have extended := Call.stack_run_extendFrom s t
    have length : s.toList.reverse.length = s.size := by
      rw [List.length_reverse, Stack.length_toList]
    have removes := takes.removes length t.toList
    refine ⟨congrArg Stack.toList extended, ?_, ?_, ?_⟩
    · rw [succeeds_cons_iff, extended]
      exact ⟨Nat.zero_le _, removes.succeeds⟩
    · have first : popped (.extendFrom s :: pops) t =
          pops.popped ((Call.extendFrom s).run t).stack := rfl
      rw [first, extended, removes.popped_eq, List.reverse_reverse]
    · rw [final, extended, removes.final_eq, Stack.ofList_toList]

/-- Values taken in from a stack come back from its bottom up, popped in two pieces. -/
theorem readings_agree_after_taking_in :
    let s := Stack.ofList [1, 2, 3]
    let t := Stack.ofList [7]
    let pops : Program Nat := [.popMany 2, .pop]
    s.drain = ⟨[3, 2, 1], .emptyStack "pop", .empty⟩ ∧
      TakesOff pops s.size ∧
      ((Call.extendFrom s).run t).stack.toList = [7, 3, 2, 1] ∧
      popped (.extendFrom s :: pops) t = [1, 2, 3] ∧
      final (.extendFrom s :: pops) t = t := by
  intro s t pops
  have takes : TakesOff pops s.size := .popMany 2 (.pop .nil)
  obtain ⟨_, drained, _, _, _, _, extending⟩ := readings_agree s
  obtain ⟨extended, _, values, restored⟩ := extending t pops takes
  have reading : (exhaust .front s.traverse).1 = [3, 2, 1] := fst_exhaust_traverse s .front
  rw [reading] at drained
  exact ⟨drained, takes, extended, values, restored⟩

end Program

end OperandStack
