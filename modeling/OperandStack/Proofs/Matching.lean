import OperandStack.Proofs.Run

/-! # Pops match pushes

In a run of pushes and pops every slot of the stack remembers where its value comes from: from the
push that filled it, the slot being in use ever since, or from the starting stack, the slot having
been in use all along. Hence a pop answers what the one push that it matches has put there.
-/

universe u

namespace OperandStack

variable {α : Type u}

/-- Tells whether the call adds one value or takes one off. -/
def Call.isPushOrPop : Call α → Bool
  | push _ | pop => true
  | pushAll _ | extend _ | extendFrom _ | collectFrom _ | popMany _ | peek | dup | swap | rshift
  | drop | clear | require _ _ | apply _ | size | isEmpty | traverse _ => false

namespace Program

/-- The call at `opened` is a push onto `slot` values, and there have been more than `slot` values
at every moment since then, up to `moment`. -/
structure Fills (program : Program α) (s : Stack α) (slot opened moment : Nat) : Prop where
  pushes : ∃ value, program[opened]? = some (.push value)
  earlier : opened < moment
  depth_eq : program.depthAt s opened = slot
  kept : ∀ between, opened < between → between ≤ moment → slot < program.depthAt s between

variable {program : Program α} {s : Stack α} {slot moment : Nat}

theorem Fills.extend {opened : Nat} (fills : program.Fills s slot opened moment)
    (used : slot < program.depthAt s (moment + 1)) :
    program.Fills s slot opened (moment + 1) := by
  refine ⟨fills.pushes, Nat.lt_succ_of_lt fills.earlier, fills.depth_eq, ?_⟩
  intro between after upTo
  rcases Nat.lt_or_eq_of_le upTo with before | rfl
  · exact fills.kept between after (Nat.le_of_lt_succ before)
  · exact used

/-- Of two pushes onto the same number of values the later one found the slot of the earlier one
free again. -/
theorem Fills.unique {opened other : Nat} (fills : program.Fills s slot opened moment)
    (again : program.Fills s slot other moment) : other = opened := by
  rcases Nat.lt_trichotomy opened other with before | same | after
  · have used := fills.kept other before (Nat.le_of_lt again.earlier)
    have free := again.depth_eq
    omega
  · exact same.symm
  · have used := again.kept opened after (Nat.le_of_lt fills.earlier)
    have free := fills.depth_eq
    omega

/-- A slot in use from the start on has been filled by no push. -/
theorem not_fills_of_used (used : ∀ between ≤ moment, slot < program.depthAt s between)
    (opened : Nat) : ¬program.Fills s slot opened moment := by
  intro fills
  have full := used opened (Nat.le_of_lt fills.earlier)
  have free := fills.depth_eq
  omega

/-- Where the value in a slot comes from: a push whose slot has been in use since, or the starting
stack, the slot having been in use all along. -/
inductive Origin (program : Program α) (s : Stack α) (slot moment : Nat) (value : α) : Prop where
  | pushed (opened : Nat) (fills : program.Fills s slot opened moment)
      (present : program[opened]? = some (.push value))
  | initial (used : ∀ between ≤ moment, slot < program.depthAt s between)
      (present : s.toList[slot]? = some value)

theorem Origin.extend {value : α} (origin : program.Origin s slot moment value)
    (used : slot < program.depthAt s (moment + 1)) :
    program.Origin s slot (moment + 1) value := by
  cases origin with
  | pushed opened fills present => exact .pushed opened (fills.extend used) present
  | initial always present =>
    refine .initial ?_ present
    intro between upTo
    rcases Nat.lt_or_eq_of_le upTo with before | rfl
    · exact always between (Nat.le_of_lt_succ before)
    · exact used

/-- The invariant of a run of pushes and pops: every value on the stack has its origin. -/
def Traced (program : Program α) (s : Stack α) (moment : Nat) : Prop :=
  ∀ slot value, (program.stackAt s moment).toList[slot]? = some value →
    program.Origin s slot moment value

private theorem lt_depthAt {value : α}
    (held : (program.stackAt s moment).toList[slot]? = some value) :
    slot < program.depthAt s moment := (List.getElem?_eq_some_iff.mp held).1

theorem traced_zero : program.Traced s 0 := by
  intro slot value held
  refine .initial ?_ held
  intro between upTo
  obtain rfl := Nat.le_zero.mp upTo
  exact lt_depthAt held

private theorem getElem?_concat_cases {values : List α} {value held : α}
    (found : (values ++ [value])[slot]? = some held) :
    values[slot]? = some held ∨ slot = values.length ∧ value = held := by
  rcases Nat.lt_or_ge slot values.length with below | above
  · rw [List.getElem?_append_left below] at found
    exact .inl found
  · obtain ⟨bound, _⟩ := List.getElem?_eq_some_iff.mp found
    rw [List.length_append, List.length_singleton] at bound
    obtain rfl : slot = values.length := by omega
    rw [List.getElem?_concat_length] at found
    exact .inr ⟨rfl, Option.some.inj found⟩

/-- A push gives an origin to the slot that it fills and leaves the slots below in use. -/
theorem Traced.push {value : α} (traced : program.Traced s moment)
    (made : program[moment]? = some (.push value)) : program.Traced s (moment + 1) := by
  intro slot held found
  have used := lt_depthAt found
  have grown : (program.stackAt s (moment + 1)).toList =
      (program.stackAt s moment).toList ++ [value] := by
    rw [stackAt_succ made, Call.run, Call.quiet, Stack.toList_push]
  rw [grown] at found
  rcases getElem?_concat_cases found with kept | ⟨top, rfl⟩
  · exact (traced slot held kept).extend used
  · refine .pushed moment ⟨⟨value, made⟩, Nat.lt_succ_self moment, top.symm, ?_⟩ made
    intro between after upTo
    obtain rfl : between = moment + 1 := by omega
    exact used

/-- A pop frees a slot, if any, and leaves the slots below in use. -/
theorem Traced.pop (traced : program.Traced s moment) (made : program[moment]? = some .pop) :
    program.Traced s (moment + 1) := by
  intro slot held found
  have used := lt_depthAt found
  have next := stackAt_succ made s
  rcases Call.run_pop_cases (program.stackAt s moment) with
    ⟨below, a, before, answer⟩ | ⟨_, answer⟩
  · rw [next, answer, Stack.toList_ofList] at found
    have kept : (program.stackAt s moment).toList[slot]? = some held := by
      rw [before, Stack.toList_ofList, List.getElem?_append_left
        (List.getElem?_eq_some_iff.mp found).1, found]
    exact (traced slot held kept).extend used
  · rw [next, answer] at found
    cases found

theorem traced (only : ∀ call ∈ program, call.isPushOrPop = true) (s : Stack α)
    (reached : moment ≤ program.length) : program.Traced s moment := by
  induction moment with
  | zero => exact traced_zero
  | succ moment ih =>
    have before := ih (Nat.le_of_lt reached)
    have made : program[moment]? = some program[moment] := List.getElem?_eq_getElem reached
    have kind := only program[moment] (List.getElem_mem reached)
    cases shape : program[moment] with
    | push value => exact before.push (shape ▸ made)
    | pop => exact before.pop (shape ▸ made)
    | pushAll | extend | extendFrom | collectFrom | popMany | peek | dup | swap | rshift | drop
    | clear | require | apply | size | isEmpty | traverse =>
      rw [shape] at kind
      cases kind

/-- Strict last in, first out. In a run of pushes and pops take a pop that succeeds, leaving `slot`
values. Either there is exactly one push before it that was made on `slot` values and has had more
than `slot` values on the stack ever since, and the pop answers the value pushed. Or there is none,
there have been more than `slot` values since the start, and the pop answers the value that the
starting stack holds at `slot`. -/
theorem pop_answers_matching_push (program : Program α) (s : Stack α)
    (only : ∀ call ∈ program, call.isPushOrPop = true) {step : Nat} {response : Response α}
    {reply : Reply α} (called : program[step]? = some .pop)
    (answered : (program.run s)[step]? = some response) (succeeded : response.result = .ok reply) :
    (∃ opened value, program.Fills s response.stack.size opened step ∧
      program[opened]? = some (.push value) ∧ reply = .value value ∧
      ∀ other, program.Fills s response.stack.size other step → other = opened) ∨
    (∀ opened, ¬program.Fills s response.stack.size opened step) ∧
      (∀ moment ≤ step, response.stack.size < program.depthAt s moment) ∧
      ∃ value, s.toList[response.stack.size]? = some value ∧ reply = .value value := by
  obtain rfl : Call.pop.run (program.stackAt s step) = response :=
    Option.some.inj ((getElem?_run called s).symm.trans answered)
  have reached : step ≤ program.length :=
    Nat.le_of_lt (List.getElem?_eq_some_iff.mp called).1
  rcases Call.run_pop_cases (program.stackAt s step) with ⟨below, a, before, answer⟩ | ⟨_, answer⟩
  · rw [answer] at succeeded ⊢
    obtain rfl : Reply.value a = reply := Except.ok.inj succeeded
    rw [Stack.size_ofList]
    have top : (program.stackAt s step).toList[below.length]? = some a := by
      rw [before, Stack.toList_ofList, List.getElem?_concat_length]
    cases traced only s reached below.length a top with
    | pushed opened fills present =>
      exact .inl ⟨opened, a, fills, present, rfl, fun _ again => fills.unique again⟩
    | initial used present => exact .inr ⟨not_fills_of_used used, used, a, present, rfl⟩
  · rw [answer] at succeeded
    cases succeeded

/-- The last pop empties the stack that a refused pop had found empty before. -/
theorem pop_answers_matching_push_after_refusal :
    let program : Program Nat := [.pop, .pop, .push 1, .push 2, .pop, .pop, .push 3]
    let s := Stack.ofList [10]
    (∀ call ∈ program, call.isPushOrPop = true) ∧ program[5]? = some .pop ∧
      (program.run s)[5]? = some ⟨.ok (.value 1), .empty, []⟩ ∧
      ∃ opened value, program.Fills s 0 opened 5 ∧ program[opened]? = some (.push value) ∧
        Reply.value 1 = .value value ∧
        ∀ other, program.Fills s 0 other 5 → other = opened := by
  intro program s
  have only : ∀ call ∈ program, call.isPushOrPop = true := by decide
  have called : program[5]? = some .pop := rfl
  have answered : (program.run s)[5]? = some ⟨.ok (.value 1), .empty, []⟩ := by cbv
  refine ⟨only, called, answered, ?_⟩
  rcases pop_answers_matching_push program s only called answered rfl with matched | ⟨_, used, _⟩
  · exact matched
  · -- The first pop had emptied the stack.
    exact absurd (used 1 (by decide)) (by decide)

end Program

end OperandStack
