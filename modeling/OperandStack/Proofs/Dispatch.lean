import OperandStack.Proofs.Refusal
import OperandStack.Proofs.StaticDepth
import Mathlib.Data.List.ReduceOption

/-! # Dispatched operations and their trace

Applying an operation that is held as a value is making the direct call, with an event before it.
The trace of a run thus has one event for each application, and the event tells all that came of
it: the depth decides between success and failure, and the name says what the failure names. In a
program of applications only, each event also tells the depth of the next one, so that the names
and the starting depth determine the whole trace.
-/

universe u

namespace OperandStack

variable {α : Type u}

/-! ## Direct calls -/

/-- The call that does the same without dispatch. -/
def Call.undispatched : Call α → Call α
  | apply op => op.direct
  | call => call

/-- The operation that a call dispatches, if it is an application. -/
def Call.applied? : Call α → Option Op
  | apply op => some op
  | _ => none

/-- The response without the events. -/
def Response.untraced (response : Response α) : Response α := { response with events := [] }

/-- A call made without dispatch responds as before and leaves no trace. -/
theorem Call.run_undispatched (call : Call α) (s : Stack α) :
    call.undispatched.run s = (call.run s).untraced := by
  cases call with
  | apply op => cases op <;> rfl
  | push | pushAll | extend | extendFrom | collectFrom | pop | popMany | peek | dup | swap | rshift
  | drop | clear | require | size | isEmpty | traverse => rfl

/-- Only an application emits an event, and it emits one: its name and the depth before it. -/
theorem Call.events_eq (call : Call α) (s : Stack α) :
    (call.run s).events = (call.applied?.map fun op => op.event s).toList := by
  rw [events_run]
  cases call <;> rfl

theorem Call.op_refusal (call : Call α) (available : Nat) :
    (call.refusal available).op = call.name := by
  rw [refusal]
  split <;> rfl

/-! ## Reading a trace -/

namespace TraceEvent

/-- The depth after an application, as its event tells it. -/
def nextDepth (event : TraceEvent) : Nat :=
  if event.op = "dup" ∧ 1 ≤ event.depth then event.depth + 1
  else if event.op = "drop" ∧ 1 ≤ event.depth then event.depth - 1
  else event.depth

/-- The result of an application, as its event tells it. -/
def outcome? (event : TraceEvent) : Option (Except StackError (Reply α)) :=
  (Op.ofName? event.op).map fun op =>
    if op.requiredDepth ≤ event.depth then .ok .done
    else .error ((Call.apply op : Call α).refusal event.depth)

/-- The events of applications by name, each at the depth that the event before it leaves. -/
def series : List String → Nat → List TraceEvent
  | [], _ => []
  | name :: rest, depth => ⟨name, depth⟩ :: series rest (nextDepth ⟨name, depth⟩)

/-- The depth that applications by name leave in the end. -/
def depthAfter (names : List String) (depth : Nat) : Nat :=
  names.foldl (fun depth name => nextDepth ⟨name, depth⟩) depth

/-- The depth told is that of the operation done, if there are enough values for it. -/
theorem nextDepth_event (op : Op) (s : Stack α) :
    (op.event s).nextDepth =
      if op.requiredDepth ≤ s.size then (s.size + (Call.apply op : Call α).change).toNat
      else s.size := by
  cases op with
  | drop =>
    have told : (Op.drop.event s).nextDepth = if 1 ≤ s.size then s.size - 1 else s.size := by
      simp [nextDepth, Op.event, Op.name]
    rw [told]
    simp only [Op.requiredDepth, Call.change]
    exact if_congr Iff.rfl (by omega) rfl
  | duplicate =>
    have told : (Op.duplicate.event s).nextDepth =
        if 1 ≤ s.size then s.size + 1 else s.size := by
      simp [nextDepth, Op.event, Op.name]
    rw [told]
    simp only [Op.requiredDepth, Call.change]
    exact if_congr Iff.rfl (by omega) rfl
  | swap | rshift => simp [nextDepth, Op.event, Op.name, Op.requiredDepth, Call.change]

theorem isChain_series (names : List String) (depth : Nat) :
    (series names depth).IsChain fun first second => second.depth = first.nextDepth := by
  induction names generalizing depth with
  | nil => exact .nil
  | cons name rest ih =>
    cases rest with
    | nil => exact .singleton _
    | cons next rest => exact .cons_cons rfl (ih _)

end TraceEvent

/-- The depth that an event tells is the depth that the application leaves. -/
theorem Call.size_run_apply (op : Op) (s : Stack α) :
    ((apply op).run s).stack.size = (op.event s).nextDepth := by
  rw [TraceEvent.nextDepth_event]
  split
  · next enough =>
    have top : (apply op : Call α).confined = true := rfl
    rw [← size_run top enough, Int.toNat_natCast]
  · next missing =>
    have shallow : s.size < (apply op : Call α).need := Nat.lt_of_not_le missing
    rw [run_of_lt shallow]

/-- The result that an event tells is the result of the application. -/
theorem Call.outcome?_event (op : Op) (s : Stack α) :
    (op.event s).outcome? = some ((apply op : Call α).run s).result := by
  have named : Op.ofName? (op.event s).op = some op := Op.ofName?_name op
  rw [TraceEvent.outcome?, named, Option.map_some]
  by_cases enough : op.requiredDepth ≤ s.size
  · have top : (apply op : Call α).confined = true := rfl
    obtain ⟨below, taken, left, reply, rfl, effect⟩ := exists_effect top enough
    have done : reply = .done := by
      cases effect with
      | apply direct => exact direct.reply_direct
    rw [run_of_effect effect, done]
    exact congrArg some (if_pos enough)
  · have shallow : s.size < (apply op : Call α).need := Nat.lt_of_not_le enough
    rw [run_of_lt shallow]
    exact congrArg some (if_neg enough)

namespace Program

/-- The events emitted in a run. -/
def trace (program : Program α) (s : Stack α) : List TraceEvent :=
  (program.run s).flatMap Response.events

/-- One event for each application in a program, in order, at the depth of its moment. -/
def applications (program : Program α) (s : Stack α) : List TraceEvent :=
  (program.mapIdx fun moment call =>
    call.applied?.map fun op => ⟨op.name, program.depthAt s moment⟩).reduceOption

theorem applications_cons (call : Call α) (rest : Program α) (s : Stack α) :
    applications (call :: rest) s =
      (call.applied?.map fun op => op.event s).toList ++ applications rest (call.run s).stack := by
  rw [applications, List.mapIdx_cons, ← List.singleton_append, List.reduceOption_append,
    List.reduceOption_singleton]
  rfl

theorem trace_eq_applications (program : Program α) (s : Stack α) :
    program.trace s = program.applications s := by
  induction program generalizing s with
  | nil => rfl
  | cons call rest ih =>
    rw [applications_cons, ← ih, ← Call.events_eq]
    rfl

theorem run_undispatched (program : Program α) (s : Stack α) :
    run (program.map Call.undispatched) s = (program.run s).map Response.untraced :=
  run_translated Call.run_undispatched (fun _ => rfl) program s

theorem final_undispatched (program : Program α) (s : Stack α) :
    final (program.map Call.undispatched) s = program.final s :=
  final_translated Call.run_undispatched (fun _ => rfl) program s

/-! ## Programs of applications -/

/-- Names and a starting depth determine the trace of a program of applications. -/
theorem trace_applies (ops : List Op) (s : Stack α) :
    trace (ops.map .apply) s = TraceEvent.series (ops.map Op.name) s.size := by
  induction ops generalizing s with
  | nil => rfl
  | cons op rest ih =>
    have later := ih ((Call.apply op).run s).stack
    rw [Call.size_run_apply] at later
    exact congrArg (op.event s :: ·) later

theorem outcomes_applies (ops : List Op) (s : Stack α) :
    (trace (ops.map .apply) s).map TraceEvent.outcome? =
      (run (ops.map .apply) s).map fun response => some response.result := by
  induction ops generalizing s with
  | nil => rfl
  | cons op rest ih =>
    have later := ih ((Call.apply op).run s).stack
    have here := Call.outcome?_event op s
    exact congrArg₂ List.cons here later

theorem size_final_applies (ops : List Op) (s : Stack α) :
    (final (ops.map .apply) s).size = TraceEvent.depthAfter (ops.map Op.name) s.size := by
  induction ops generalizing s with
  | nil => rfl
  | cons op rest ih =>
    have later := ih ((Call.apply op).run s).stack
    rw [Call.size_run_apply] at later
    exact later

/-- An event of a run belongs to the application of the operation that it names and tells what came
of it. -/
theorem exists_applied_of_mem_events {program : Program α} {s : Stack α} {step : Nat}
    {response : Response α} (answered : (program.run s)[step]? = some response)
    {event : TraceEvent} (emitted : event ∈ response.events) :
    ∃ op, program[step]? = some (.apply op) ∧ event = op.event (program.stackAt s step) ∧
      response = (Call.apply op).run (program.stackAt s step) := by
  obtain ⟨inside, _⟩ := List.getElem?_eq_some_iff.mp answered
  rw [length_run] at inside
  have called : program[step]? = some program[step] := List.getElem?_eq_getElem inside
  obtain rfl : program[step].run (program.stackAt s step) = response :=
    Option.some.inj ((getElem?_run called s).symm.trans answered)
  rw [Call.events_eq] at emitted
  cases shape : program[step] with
  | apply op =>
    rw [shape] at emitted called
    exact ⟨op, called, List.mem_singleton.mp emitted, rfl⟩
  | push | pushAll | extend | extendFrom | collectFrom | pop | popMany | peek | dup | swap | rshift
  | drop | clear | require | size | isEmpty | traverse =>
    rw [shape] at emitted
    cases emitted

/-- Dispatch is the direct call, and the trace tells the whole story. Replacing the applications of
a program by direct calls changes no result and no stack. The events of a run are one for each
application, in order, with the name of the operation and the depth before it; an application
succeeds if and only if that depth is what the operation of that name requires, and a failure
bears that name. In a program of applications only, each event leaves the depth of the next one, so
the names and the starting depth determine the trace, the results and the final depth. -/
theorem dispatch_direct_and_trace_complete :
    (∀ (program : Program α) (s : Stack α),
      run (program.map Call.undispatched) s = (program.run s).map Response.untraced ∧
      final (program.map Call.undispatched) s = program.final s ∧
      program.trace s = program.applications s ∧
      ∀ step response, (program.run s)[step]? = some response → ∀ event ∈ response.events,
        ∃ op, program[step]? = some (.apply op) ∧ Op.ofName? event.op = some op ∧
          event.depth = program.depthAt s step ∧
          (response.result.isOk = true ↔ op.requiredDepth ≤ event.depth) ∧
          ∀ failure, response.result = .error failure → failure.op = event.op) ∧
    ∀ (ops : List Op) (s : Stack α),
      let program : Program α := ops.map .apply
      (program.trace s).IsChain (fun first second => second.depth = first.nextDepth) ∧
      program.trace s = TraceEvent.series (ops.map Op.name) s.size ∧
      (program.run s).map (fun response => some response.result) =
        (TraceEvent.series (ops.map Op.name) s.size).map TraceEvent.outcome? ∧
      (program.final s).size = TraceEvent.depthAfter (ops.map Op.name) s.size := by
  refine ⟨?_, ?_⟩
  · intro program s
    refine ⟨run_undispatched program s, final_undispatched program s,
      trace_eq_applications program s, ?_⟩
    intro step response answered event emitted
    obtain ⟨op, called, rfl, rfl⟩ := exists_applied_of_mem_events answered emitted
    refine ⟨op, called, Op.ofName?_name op, rfl, Call.isOk_iff _ _, ?_⟩
    intro failure refused
    rw [Call.failure_eq_refusal refused, Call.op_refusal]
    rfl
  · intro ops s program
    have series := trace_applies ops s
    refine ⟨?_, series, ?_, size_final_applies ops s⟩
    · rw [series]
      exact TraceEvent.isChain_series _ _
    · rw [← series, outcomes_applies]

/-- The application refused halfway through a run is told by its event. -/
theorem dispatch_direct_and_trace_complete_at_refused_step :
    let program : Program Nat := [.push 5, .apply .duplicate, .swap, .apply .rshift, .pop]
    let response : Response Nat :=
      ⟨.error (.insufficientDepth "rshift" 3 2), .ofList [5, 5], [⟨"rshift", 2⟩]⟩
    (program.run .empty)[3]? = some response ∧ ⟨"rshift", 2⟩ ∈ response.events ∧
      ∃ op, program[3]? = some (.apply op) ∧ Op.ofName? "rshift" = some op ∧
        2 = program.depthAt .empty 3 ∧
        (response.result.isOk = true ↔ op.requiredDepth ≤ 2) ∧
        ∀ failure, response.result = .error failure → failure.op = "rshift" := by
  intro program response
  have answered : (program.run .empty)[3]? = some response := by cbv
  have emitted : ⟨"rshift", 2⟩ ∈ response.events := List.mem_singleton.mpr rfl
  obtain ⟨_, _, _, told⟩ := dispatch_direct_and_trace_complete.1 program .empty
  exact ⟨answered, emitted, told 3 response answered _ emitted⟩

example : TraceEvent.series ["drop", "dup", "dup", "rshift", "drop"] 1 =
    [⟨"drop", 1⟩, ⟨"dup", 0⟩, ⟨"dup", 0⟩, ⟨"rshift", 0⟩, ⟨"drop", 0⟩] := by decide

end Program

end OperandStack
