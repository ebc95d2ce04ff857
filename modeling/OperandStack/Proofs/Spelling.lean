import OperandStack.Proofs.Run

/-! # Bulk calls spelled out

A bulk call says in one word what calls on single values spell out. A spelling is what stands for a
call on a stack of known depth: a push for every value added, or a pop for every value taken off,
or a failure with no call at all where the stack does not hold as many. Running a program through
the spellings of its calls, each chosen by the depth met on the way, gives every response of the
program itself.
-/

universe u

namespace OperandStack

variable {α : Type u}

/-- The value that a reply holds, if it holds a single one. -/
def Reply.value? : Reply α → Option α
  | value held => some held
  | done | values _ | count _ | flag _ | answers _ => none

/-- Calls on single values that stand for one call. -/
inductive Spelling (α : Type u) where
  /-- The call itself, which is on a single value already. -/
  | itself (call : Call α)
  /-- One push for each value, in order. -/
  | pushes (values : List α)
  /-- So many pops, their values collected in order. -/
  | pops (count : Nat)
  /-- No call, and a failure for an answer. -/
  | refusal (failure : StackError)

/-- How a call is spelled on a stack of a given depth. -/
def Call.spelling : Call α → Nat → Spelling α
  | pushAll values, _ => .pushes values
  | extend source, _ => .pushes source
  | extendFrom other, _ => .pushes other.traverse.toList
  | popMany count, depth =>
    if count ≤ depth then .pops count
    else .refusal (.insufficientDepth "pop_n" count depth)
  | call, _ => .itself call

/-- Tells whether the call adds or takes off values by the list. -/
def Call.isBulk : Call α → Bool
  | pushAll _ | extend _ | extendFrom _ | popMany _ => true
  | push _ | collectFrom _ | pop | peek | dup | swap | rshift | drop | clear | require _ _
  | apply _ | size | isEmpty | traverse _ => false

namespace Spelling

def calls : Spelling α → Program α
  | itself call => [call]
  | pushes values => values.map .push
  | pops count => List.replicate count .pop
  | refusal _ => []

/-- Puts the results of the calls together; the first failure among them stands for all. -/
def answer : Spelling α → List (Except StackError (Reply α)) → Except StackError (Reply α)
  | itself _, results => results.headD (.ok .done)
  | pushes _, results => (results.mapM id).map fun _ => .done
  | pops _, results => (results.mapM id).map fun replies => .values (replies.filterMap Reply.value?)
  | refusal failure, _ => .error failure

/-- The response of a stack to the calls, seen as the response to one call. -/
def run (spelling : Spelling α) (s : Stack α) : Response α :=
  let responses := Program.run spelling.calls s
  ⟨spelling.answer (responses.map Response.result), Program.final spelling.calls s,
    responses.flatMap Response.events⟩

/-- Runs spellings one after the other. -/
def runAll : List (Spelling α) → Stack α → List (Response α)
  | [], _ => []
  | spelling :: rest, s => spelling.run s :: runAll rest (spelling.run s).stack

/-- Reads the results of all that spellings write out, piece by piece. -/
def readAll : List (Spelling α) → List (Except StackError (Reply α)) →
    List (Except StackError (Reply α))
  | [], _ => []
  | spelling :: rest, results =>
    let written := spelling.calls.length
    spelling.answer (results.take written) :: readAll rest (results.drop written)

end Spelling

namespace Program

/-- Spells a program out; how a call is spelled depends on the stack that the calls written out
before it leave. -/
def spellings : Program α → Stack α → List (Spelling α)
  | [], _ => []
  | call :: rest, s =>
    let spelling := call.spelling s.size
    spelling :: spellings rest (final spelling.calls s)

/-- The program that is written out. -/
def spelledOut (program : Program α) (s : Stack α) : Program α :=
  (program.spellings s).flatMap Spelling.calls

private theorem mapM_id_ok (replies : List (Reply α)) :
    (replies.map Except.ok : List (Except StackError (Reply α))).mapM id = .ok replies := by
  induction replies with
  | nil => rfl
  | cons reply rest ih => simp [List.mapM_cons, ih, bind, Except.bind, pure, Except.pure]

/-- Calls that are not traced leave no events behind. -/
theorem flatMap_events_run {program : Program α}
    (silent : ∀ call ∈ program, ∀ s, call.trace s = []) (s : Stack α) :
    (program.run s).flatMap Response.events = [] := by
  induction program generalizing s with
  | nil => rfl
  | cons call rest ih =>
    rw [run, List.flatMap_cons, Call.events_run, silent call List.mem_cons_self, List.nil_append]
    exact ih (fun other member => silent other (List.mem_cons_of_mem _ member)) _

theorem results_pushes (values : List α) (s : Stack α) :
    (run (values.map .push) s).map Response.result =
      (values.map fun _ => Reply.done).map .ok := by
  induction values generalizing s with
  | nil => rfl
  | cons value rest ih => exact congrArg (.ok .done :: ·) (ih (s.push value))

theorem final_pushes (values : List α) (s : Stack α) :
    final (values.map .push) s = s.pushAll values := by
  induction values generalizing s with
  | nil =>
    apply Stack.toList_injective
    rw [List.map_nil, final, Stack.toList_pushAll, List.append_nil]
  | cons value rest ih =>
    apply Stack.toList_injective
    rw [List.map_cons, final, ih]
    simp only [Call.run, Call.quiet, Stack.toList_pushAll, Stack.toList_push, List.append_assoc,
      List.singleton_append]

-- Pops meet the values from the last to the first, so the values are listed from the top down.
theorem results_pops (below popped : List α) :
    (run (List.replicate popped.length .pop) (.ofList (below ++ popped.reverse))).map
        Response.result =
      (popped.map Reply.value).map .ok := by
  induction popped with
  | nil => rfl
  | cons top rest ih =>
    have step : Call.pop.run (.ofList (below ++ (top :: rest).reverse)) =
        ⟨.ok (.value top), .ofList (below ++ rest.reverse), []⟩ := by
      rw [List.reverse_cons, ← List.append_assoc, Call.run_of_effect (.pop top), List.append_nil]
      rfl
    rw [List.length_cons, List.replicate_succ, run, List.map_cons, step, ih]
    rfl

theorem final_pops (below popped : List α) :
    final (List.replicate popped.length .pop) (.ofList (below ++ popped.reverse)) =
      .ofList below := by
  induction popped with
  | nil => rw [List.reverse_nil, List.append_nil]; rfl
  | cons top rest ih =>
    rw [List.length_cons, List.replicate_succ, final, List.reverse_cons, ← List.append_assoc,
      Call.run_of_effect (.pop top), List.append_nil]
    exact ih

end Program

namespace Spelling

theorem run_itself (call : Call α) (s : Stack α) : (itself call).run s = call.run s := by
  simp only [run, calls, Program.run, Program.final, answer, List.map_cons, List.headD_cons,
    List.flatMap_cons, List.flatMap_nil, List.append_nil]

theorem run_pushes (values : List α) (s : Stack α) :
    (pushes values).run s = ⟨.ok .done, s.pushAll values, []⟩ := by
  have events : (Program.run (values.map .push) s).flatMap Response.events = [] := by
    apply Program.flatMap_events_run
    intro call member t
    obtain ⟨value, _, rfl⟩ := List.mem_map.mp member
    rfl
  simp only [run, calls, answer, Program.results_pushes, Program.final_pushes, events,
    Program.mapM_id_ok]
  rfl

theorem run_pops (below popped : List α) :
    (pops popped.length).run (.ofList (below ++ popped.reverse)) =
      ⟨.ok (.values popped), .ofList below, []⟩ := by
  have events : (Program.run (List.replicate popped.length .pop)
      (.ofList (below ++ popped.reverse))).flatMap Response.events = [] := by
    apply Program.flatMap_events_run
    intro call member t
    rw [List.eq_of_mem_replicate member]
    rfl
  have values : (popped.map Reply.value).filterMap Reply.value? = popped := by
    rw [List.filterMap_map]
    exact List.filterMap_some
  simp only [run, calls, answer, Program.results_pops, Program.final_pops, events,
    Program.mapM_id_ok, Except.map, values]

/-- The spelling of a call on a stack answers as the call does. -/
theorem run_spelling (call : Call α) (s : Stack α) :
    (call.spelling s.size).run s = call.run s := by
  cases call with
  | pushAll values => exact run_pushes values s
  | extend source => exact run_pushes source s
  | extendFrom other => exact run_pushes other.traverse.toList s
  | popMany count =>
    rw [Call.spelling]
    split
    · next enough =>
      obtain ⟨below, above, rfl, rfl⟩ := Stack.exists_eq_ofList_append enough
      have spelled := run_pops below above.reverse
      rw [List.length_reverse, List.reverse_reverse] at spelled
      rw [spelled, Call.run_of_effect (.popMany rfl), List.append_nil]
      rfl
    · next shallow =>
      have short : s.size < (.popMany count : Call α).need := Nat.lt_of_not_le shallow
      rw [Call.run_of_lt short]
      rfl
  | push | collectFrom | pop | peek | dup | swap | rshift | drop | clear | require | apply | size
  | isEmpty | traverse => exact run_itself _ s

/-- Nothing that is written out adds or takes off values by the list. -/
theorem isBulk_of_mem_calls {call other : Call α} {depth : Nat}
    (member : other ∈ (call.spelling depth).calls) : other.isBulk = false := by
  cases call with
  | pushAll values | extend values =>
    obtain ⟨value, _, rfl⟩ := List.mem_map.mp member
    rfl
  | extendFrom source =>
    obtain ⟨value, _, rfl⟩ := List.mem_map.mp member
    rfl
  | popMany count =>
    rw [Call.spelling] at member
    split at member
    · rw [List.eq_of_mem_replicate member]
      rfl
    · cases member
  | push | collectFrom | pop | peek | dup | swap | rshift | drop | clear | require | apply | size
  | isEmpty | traverse =>
    obtain rfl := List.mem_singleton.mp member
    rfl

end Spelling

namespace Program

theorem final_calls_spelling (call : Call α) (s : Stack α) :
    final (call.spelling s.size).calls s = (call.run s).stack :=
  congrArg Response.stack (Spelling.run_spelling call s)

theorem runAll_spellings (program : Program α) (s : Stack α) :
    Spelling.runAll (program.spellings s) s = program.run s := by
  induction program generalizing s with
  | nil => rfl
  | cons call rest ih =>
    rw [spellings, Spelling.runAll, run, final_calls_spelling, Spelling.run_spelling, ih]

/-- The results of the program written out hold those of the program itself. -/
theorem readAll_spelledOut (program : Program α) (s : Stack α) :
    Spelling.readAll (program.spellings s) ((run (program.spelledOut s) s).map Response.result) =
      (program.run s).map Response.result := by
  induction program generalizing s with
  | nil => rfl
  | cons call rest ih =>
    have first : (call.spelling s.size).answer
        ((run (call.spelling s.size).calls s).map Response.result) = (call.run s).result :=
      congrArg Response.result (Spelling.run_spelling call s)
    have written : ((run (call.spelling s.size).calls s).map Response.result).length =
        (call.spelling s.size).calls.length := by
      rw [List.length_map, length_run]
    rw [spelledOut, spellings, List.flatMap_cons, run_append, List.map_append, Spelling.readAll,
      ← written, List.take_left, List.drop_left, first, final_calls_spelling, run, List.map_cons]
    exact congrArg ((call.run s).result :: ·) (ih _)

theorem final_spelledOut (program : Program α) (s : Stack α) :
    final (program.spelledOut s) s = program.final s := by
  induction program generalizing s with
  | nil => rfl
  | cons call rest ih =>
    rw [spelledOut, spellings, List.flatMap_cons, final_append, final_calls_spelling, final]
    exact ih _

theorem isBulk_of_mem_spelledOut {program : Program α} {s : Stack α} {call : Call α}
    (member : call ∈ program.spelledOut s) : call.isBulk = false := by
  induction program generalizing s with
  | nil => cases member
  | cons first rest ih =>
    rw [spelledOut, spellings, List.flatMap_cons, List.mem_append] at member
    rcases member with here | later
    · exact Spelling.isBulk_of_mem_calls here
    · exact ih later

/-- Bulk calls cannot be told from calls on single values. A program run through the spellings of
its calls gives every response of the program itself, result, stack and events. The program written
out holds no bulk call, its results read piece by piece are those of the program itself, and it ends
in the same stack. Making a stack of values is pushing them one by one on an empty stack, whether
they come as a list or as an array. -/
theorem bulk_calls_spelled_out :
    (∀ (program : Program α) (s : Stack α),
      Spelling.runAll (program.spellings s) s = program.run s ∧
      Spelling.readAll (program.spellings s) ((run (program.spelledOut s) s).map Response.result) =
        (program.run s).map Response.result ∧
      final (program.spelledOut s) s = program.final s ∧
      ∀ call ∈ program.spelledOut s, call.isBulk = false) ∧
    ∀ values : List α,
      Stack.ofList values = final (values.map .push) Stack.empty ∧
      Stack.ofArray values.toArray = final (values.map .push) Stack.empty := by
  refine ⟨fun program s => ?_, ?_⟩
  · exact ⟨runAll_spellings program s, readAll_spelledOut program s, final_spelledOut program s,
      fun _ member => isBulk_of_mem_spelledOut member⟩
  · intro values
    have collected : final (values.map .push) Stack.empty = Stack.ofList values := by
      rw [final_pushes, ← Stack.ofList_nil, Stack.pushAll_ofList, List.nil_append]
    exact ⟨collected.symm, collected.symm⟩

example : spelledOut [.pushAll [1, 2], .popMany 3, .popMany 2] (.empty : Stack Nat) =
    [.push 1, .push 2, .pop, .pop] := rfl

end Program

end OperandStack
