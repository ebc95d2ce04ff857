import OperandStack.Proofs.Run
import OperandStack.Session

/-! # Depth checked beforehand

How deep a stack has to be for a program can be read off the program. Every call on the top of the
stack has a need and changes the depth by a fixed amount, so what a step asks of the starting depth
is its need less the changes made before it. A program succeeds if and only if the stack is as deep
as the largest of these demands. A run that ends at its first failure ends at the first step whose
demand is not met; so does a session that is told to stop at failures.
-/

universe u

namespace OperandStack

variable {α : Type u}

namespace Call

/-- How much deeper a call that succeeds leaves the stack. Calls that start over have no fixed
change; they count as none. -/
def change : Call α → Int
  | push _ | dup | apply .duplicate => 1
  | pushAll values => values.length
  | extend source => source.length
  | extendFrom other => other.size
  | pop | drop | apply .drop => -1
  | popMany count => -count
  | peek | swap | rshift | require _ _ | apply .swap | apply .rshift | collectFrom _ | clear | size
  | isEmpty | traverse _ => 0

theorem change_direct (op : Op) : (op.direct : Call α).change = (apply op : Call α).change := by
  cases op <;> rfl

/-- An effect leaves as many values as it takes, up to the change of the call. -/
theorem Effect.length_left {call : Call α} {taken left : List α} {reply : Reply α}
    (effect : Effect call taken left reply) : (left.length : Int) = taken.length + call.change := by
  induction effect with
  | pushAll values => exact (Int.zero_add _).symm
  | extend source => exact (Int.zero_add _).symm
  | extendFrom other =>
    rw [List.length_reverse, Stack.length_toList]
    exact (Int.zero_add _).symm
  | popMany length =>
    rw [length]
    exact (Int.add_right_neg _).symm
  | require => exact (Int.add_zero _).symm
  | @apply op _ _ _ _ ih => rw [ih, change_direct]
  | push | pop | peek | dup | swap | rshift | drop => rfl

/-- A call that succeeds changes the depth by the amount known beforehand. -/
theorem size_run {call : Call α} (top : call.confined = true) {s : Stack α}
    (enough : call.need ≤ s.size) :
    ((call.run s).stack.size : Int) = s.size + call.change := by
  obtain ⟨below, taken, left, reply, rfl, effect⟩ := exists_effect top enough
  have grown := effect.length_left
  rw [run_of_effect effect]
  simp only [Stack.size_ofList, List.length_append, Int.natCast_add]
  omega

end Call

namespace Program

/-! ## The need of a program -/

/-- How much deeper a program that succeeds leaves the stack, call by call. -/
def change : Program α → Int
  | [] => 0
  | call :: rest => call.change + change rest

/-- What each step asks of the starting depth: its need less the changes made before it. -/
def demands (program : Program α) : List Int :=
  program.mapIdx fun step call => call.need - change (program.take step)

/-- The least starting depth that meets every demand. -/
def need (program : Program α) : Int := program.demands.foldr max 0

@[simp] theorem change_nil : change ([] : Program α) = 0 := rfl

@[simp] theorem change_cons (call : Call α) (rest : Program α) :
    change (call :: rest) = call.change + change rest := rfl

/-- Tells that a starting depth meets every demand of a program. -/
def CoveredBy (program : Program α) (depth : Int) : Prop :=
  ∀ step call, program[step]? = some call → call.need ≤ depth + change (program.take step)

private theorem foldr_max_le_iff (bounds : List Int) (base limit : Int) :
    bounds.foldr max base ≤ limit ↔ base ≤ limit ∧ ∀ bound ∈ bounds, bound ≤ limit := by
  induction bounds with
  | nil => simp
  | cons bound rest ih =>
    rw [List.foldr_cons, Int.max_le, ih, List.forall_mem_cons]
    exact and_left_comm

theorem need_le_iff (program : Program α) (depth : Nat) :
    program.need ≤ depth ↔ program.CoveredBy depth := by
  rw [need, foldr_max_le_iff]
  constructor
  · rintro ⟨_, met⟩ step call present
    have asked : program.demands[step]? = some (call.need - change (program.take step)) := by
      rw [demands, List.getElem?_mapIdx, present]
      rfl
    have bound := met _ (List.mem_of_getElem? asked)
    omega
  · intro covered
    refine ⟨Int.natCast_nonneg depth, ?_⟩
    intro demand asked
    obtain ⟨step, inside, rfl⟩ := List.mem_mapIdx.mp asked
    have bound := covered step program[step] (List.getElem?_eq_getElem inside)
    omega

theorem coveredBy_cons_iff (call : Call α) (rest : Program α) (depth : Int) :
    CoveredBy (call :: rest) depth ↔ call.need ≤ depth ∧ rest.CoveredBy (depth + call.change) := by
  constructor
  · intro covered
    refine ⟨by simpa using covered 0 call rfl, ?_⟩
    intro step other present
    have bound := covered (step + 1) other present
    rw [List.take_succ_cons, change_cons] at bound
    omega
  · rintro ⟨enough, covered⟩ step other present
    cases step with
    | zero =>
      obtain rfl : call = other := Option.some.inj present
      simpa using enough
    | succ step =>
      have bound := covered step other present
      rw [List.take_succ_cons, change_cons]
      omega

/-- Meeting the demands of a program is being deep enough for each of its calls in turn. -/
theorem coveredBy_size_iff {program : Program α} (top : ∀ call ∈ program, call.confined = true)
    (s : Stack α) : program.CoveredBy s.size ↔ program.Succeeds s := by
  induction program generalizing s with
  | nil => exact ⟨fun _ => succeeds_nil s, fun _ _ _ present => by cases present⟩
  | cons call rest ih =>
    obtain ⟨topCall, topRest⟩ := List.forall_mem_cons.mp top
    rw [coveredBy_cons_iff, succeeds_cons_iff, Int.ofNat_le]
    refine and_congr_right fun enough => ?_
    -- The depth that the first call leaves is the one that the rest of the program has to do with.
    rw [← Call.size_run topCall enough]
    exact ih topRest (call.run s).stack

theorem size_final {program : Program α} (top : ∀ call ∈ program, call.confined = true)
    {s : Stack α} (succeeds : program.Succeeds s) :
    ((program.final s).size : Int) = s.size + program.change := by
  induction program generalizing s with
  | nil => simp [final]
  | cons call rest ih =>
    obtain ⟨topCall, topRest⟩ := List.forall_mem_cons.mp top
    obtain ⟨enough, later⟩ := (succeeds_cons_iff call rest s).mp succeeds
    have grown := Call.size_run topCall enough
    rw [final, ih topRest later, change_cons]
    omega

/-! ## Runs that end at the first failure -/

/-- How far a run got that ends at the first failure: the replies until then, the failure, if there
was one, and the stack left. -/
structure Attempt (α : Type u) where
  replies : List (Reply α)
  failure? : Option StackError
  stack : Stack α

/-- Makes the calls of a program in order until one of them fails. -/
def attempt : Program α → Stack α → Attempt α
  | [], s => ⟨[], none, s⟩
  | call :: rest, s =>
    let response := call.run s
    match response.result with
    | .ok reply =>
      let later := attempt rest response.stack
      { later with replies := reply :: later.replies }
    | .error failure => ⟨[], some failure, response.stack⟩

/-- An attempt gets past the calls that have replies. -/
theorem attempt_append {first : Program α} {s : Stack α} {replies : List (Reply α)}
    (answered : (first.run s).map Response.result = replies.map .ok) (second : Program α) :
    attempt (first ++ second) s =
      { attempt second (first.final s) with
        replies := replies ++ (attempt second (first.final s)).replies } := by
  induction first generalizing s replies with
  | nil =>
    obtain rfl : replies = [] := List.map_eq_nil_iff.mp answered.symm
    rfl
  | cons call rest ih =>
    cases replies with
    | nil => cases answered
    | cons reply replies =>
      simp only [run, List.map_cons, List.cons.injEq] at answered
      obtain ⟨here, later⟩ := answered
      simp only [List.cons_append, attempt, here, ih later, final]

theorem attempt_of_lt {call : Call α} {s : Stack α} (shallow : s.size < call.need)
    (rest : Program α) : attempt (call :: rest) s = ⟨[], some (call.refusal s.size), s⟩ := by
  simp only [attempt, Call.run_of_lt shallow]

/-- The number of calls that an attempt makes: those that have replies and the one that fails. -/
def Attempt.made (attempt : Attempt α) : Nat :=
  attempt.replies.length + attempt.failure?.toList.length

theorem made_attempt_of_ok {call : Call α} {s : Stack α} {reply : Reply α}
    (answered : (call.run s).result = .ok reply) (rest : Program α) :
    (attempt (call :: rest) s).made = (attempt rest (call.run s).stack).made + 1 := by
  simp only [attempt, answered, Attempt.made, List.length_cons]
  exact Nat.succ_add ..

theorem made_attempt_of_error {call : Call α} {s : Stack α} {failure : StackError}
    (refused : (call.run s).result = .error failure) (rest : Program α) :
    (attempt (call :: rest) s).made = 1 := by
  simp only [attempt, refused]
  rfl

theorem Succeeds.exists_replies {program : Program α} {s : Stack α}
    (succeeds : program.Succeeds s) :
    ∃ replies : List (Reply α), (program.run s).map Response.result = replies.map .ok := by
  induction program generalizing s with
  | nil => exact ⟨[], rfl⟩
  | cons call rest ih =>
    obtain ⟨enough, later⟩ := (succeeds_cons_iff call rest s).mp succeeds
    obtain ⟨reply, here⟩ := Call.exists_reply_of_le enough
    obtain ⟨replies, answered⟩ := ih later
    exact ⟨reply :: replies, by rw [run, List.map_cons, List.map_cons, here, answered]⟩

/-- A program that does not succeed has a first call that finds the stack too shallow. -/
theorem exists_first_refusal {program : Program α} {s : Stack α} (fails : ¬program.Succeeds s) :
    ∃ (before : Program α) (call : Call α) (after : Program α),
      program = before ++ call :: after ∧ before.Succeeds s ∧
      (before.final s).size < call.need := by
  induction program generalizing s with
  | nil => exact absurd (succeeds_nil s) fails
  | cons call rest ih =>
    by_cases enough : call.need ≤ s.size
    · have later : ¬Succeeds rest (call.run s).stack :=
        fun succeeds => fails ((succeeds_cons_iff call rest s).mpr ⟨enough, succeeds⟩)
      obtain ⟨before, refused, after, rfl, succeeds, shallow⟩ := ih later
      exact ⟨call :: before, refused, after, rfl,
        (succeeds_cons_iff call before s).mpr ⟨enough, succeeds⟩, shallow⟩
    · exact ⟨[], call, rest, rfl, succeeds_nil s, Nat.lt_of_not_le enough⟩

/-- Checking the depth beforehand is sound and complete. A program on the top of the stack succeeds
if and only if the stack is as deep as the program needs; the depth then changes by the sum of the
changes. Otherwise a run that ends at its first failure ends at the first step whose need exceeds
the starting depth and the changes before it: the steps before have replies and leave the stack as
it is found then, and the failure names the call of that step with its need and that depth. -/
theorem succeeds_iff_need_le_size (program : Program α) (s : Stack α)
    (top : ∀ call ∈ program, call.confined = true) :
    (program.Succeeds s ↔ program.need ≤ s.size) ∧
    (program.need ≤ s.size →
      (program.attempt s).failure? = none ∧ (program.attempt s).stack = program.final s ∧
      ((program.final s).size : Int) = s.size + program.change) ∧
    (s.size < program.need →
      ∃ step call replies, ∃ depth : Nat,
        program[step]? = some call ∧
        (depth : Int) = s.size + change (program.take step) ∧ depth < call.need ∧
        (∀ earlier < step, ∀ other, program[earlier]? = some other →
          other.need ≤ s.size + change (program.take earlier)) ∧
        (run (program.take step) s).map Response.result = replies.map .ok ∧
        program.attempt s = ⟨replies,
          some (if call.takesOne then .emptyStack call.name
            else .insufficientDepth call.name call.need depth),
          final (program.take step) s⟩) := by
  have decided : program.Succeeds s ↔ program.need ≤ s.size := by
    rw [need_le_iff, coveredBy_size_iff top]
  refine ⟨decided, ?_, ?_⟩
  · intro enough
    have succeeds := decided.mpr enough
    obtain ⟨replies, answered⟩ := succeeds.exists_replies
    have whole := attempt_append answered []
    rw [List.append_nil] at whole
    rw [whole]
    exact ⟨rfl, rfl, size_final top succeeds⟩
  · intro short
    have fails : ¬program.Succeeds s := fun succeeds => absurd (decided.mp succeeds) (by omega)
    obtain ⟨before, call, after, rfl, succeeds, shallow⟩ := exists_first_refusal fails
    obtain ⟨replies, answered⟩ := succeeds.exists_replies
    have topBefore : ∀ other ∈ before, other.confined = true :=
      fun other member => top other (List.mem_append_left _ member)
    refine ⟨before.length, call, replies, (before.final s).size, ?_, ?_, shallow, ?_, ?_, ?_⟩
    · rw [List.getElem?_append_right (Nat.le_refl _), Nat.sub_self]
      rfl
    · rw [List.take_left]
      exact size_final topBefore succeeds
    · intro earlier inside other present
      have covered := (coveredBy_size_iff topBefore s).mpr succeeds earlier other
      rw [List.getElem?_append_left inside] at present
      rw [List.take_append_of_le_length (Nat.le_of_lt inside)]
      exact covered present
    · rw [List.take_left]
      exact answered
    · rw [attempt_append answered, attempt_of_lt shallow, List.append_nil, List.take_left]
      rfl

/-- A stack that is one value short for a swap, and one that is deep enough. -/
theorem succeeds_iff_need_le_size_one_short :
    let program : Program Nat :=
      [.require 2 "add", .apply .duplicate, .popMany 2, .swap, .pushAll [7, 8], .apply .rshift]
    let s := Stack.ofList [1, 2]
    let deep := Stack.ofList [0, 1, 2]
    (∀ call ∈ program, call.confined = true) ∧ s.size < program.need ∧
      program.need ≤ deep.size ∧ program.Succeeds deep ∧
      ((program.final deep).size : Int) = deep.size + program.change ∧
      ∃ step call replies, ∃ depth : Nat,
        program[step]? = some call ∧
        (depth : Int) = s.size + change (program.take step) ∧ depth < call.need ∧
        (∀ earlier < step, ∀ other, program[earlier]? = some other →
          other.need ≤ s.size + change (program.take earlier)) ∧
        (run (program.take step) s).map Response.result = replies.map .ok ∧
        program.attempt s = ⟨replies,
          some (if call.takesOne then .emptyStack call.name
            else .insufficientDepth call.name call.need depth),
          final (program.take step) s⟩ := by
  intro program s deep
  have top : ∀ call ∈ program, call.confined = true := by decide
  have short : s.size < program.need := by decide
  have enough : program.need ≤ deep.size := by decide
  obtain ⟨_, _, stops⟩ := succeeds_iff_need_le_size program s top
  obtain ⟨succeeds, changes, _⟩ := succeeds_iff_need_le_size program deep top
  exact ⟨top, short, enough, succeeds.mpr enough, (changes enough).2.2, stops short⟩

example : need ([.pop, .pop, .push 1, .swap] : Program Nat) = 3 := by decide

end Program

/-! ## Sessions that stop at failures -/

namespace Session

theorem failure?_ofResult (call : Call α) (result : Except StackError (Reply α)) :
    (Finding.ofResult call result).failure? =
      match result with
      | .ok _ => none
      | .error failure => some failure := by
  cases result with
  | ok reply => cases certain : call.fallible <;> simp [Finding.ofResult, Finding.failure?, certain]
  | error failure => simp [Finding.ofResult, Finding.failure?]

/-- A session told to stop at failures reports on the calls that an attempt makes, and on no
others. -/
theorem reports_stopAtFailure [DecidableEq α] [Plain α] [Inspect α] {options : ReportOptions}
    (stops : options.stopAtFailure = true) {progress : Progress α}
    (going : progress.finding.failure? = none) (program : Program α) :
    reports options progress (program.map .call) =
      reports { options with stopAtFailure := false } progress
        ((program.take (program.attempt progress.session.stack).made).map .call) := by
  induction program generalizing progress with
  | nil => rfl
  | cons call rest ih =>
    have finding : (progress.session.ask call).finding.failure? = _ := failure?_ofResult call _
    cases result : (call.run progress.session.stack).result with
    | ok reply =>
      rw [result] at finding
      rw [Program.made_attempt_of_ok result, List.take_succ_cons, List.map_cons, List.map_cons,
        reports, reports, going]
      simp only [Option.isSome_none, Bool.and_false, Bool.false_eq_true, ↓reduceIte]
      exact congrArg (report options progress :: ·) (ih finding)
    | error failure =>
      rw [result] at finding
      rw [Program.made_attempt_of_error result, List.take_succ_cons, List.take_zero,
        List.map_cons, List.map_cons, reports, reports, going]
      simp only [Option.isSome_none, Bool.and_false, Bool.false_eq_true, ↓reduceIte]
      refine congrArg (report options progress :: ·) ?_
      cases rest with
      | nil => rfl
      | cons next rest =>
        rw [List.map_cons, reports, step, finding, stops]
        rfl

end Session

end OperandStack
