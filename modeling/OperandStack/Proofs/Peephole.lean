import OperandStack.Proofs.Turns
import OperandStack.Proofs.Run

/-! # Peephole rules for named operations

Short lists of operations that can be put in the place of one another: a copy that is dropped at
once, a turn among copies of one value, and a turn of values that are all dropped. The rules hold on
every stack, also where it is too shallow for some of the operations, as these leave it alone. What
comes before a replaced list and behind it does not notice.
-/

universe u

namespace OperandStack

variable {α : Type u}

/-- What may be put in the place of a few operations. -/
inductive PeepholeRule : List Op → List Op → Prop
  | duplicate_drop : PeepholeRule [.duplicate, .drop] []
  | duplicate_swap : PeepholeRule [.duplicate, .swap] [.duplicate]
  | duplicate_duplicate_rshift :
      PeepholeRule [.duplicate, .duplicate, .rshift] [.duplicate, .duplicate]
  | swap_drop_drop : PeepholeRule [.swap, .drop, .drop] [.drop, .drop]
  | rshift_drop_drop_drop :
      PeepholeRule [.rshift, .drop, .drop, .drop] [.drop, .drop, .drop]

/-- A turn puts the values that it takes in another order. -/
theorem Turn.perm_of_effect {turn : Turn} {taken left : List α} {reply : Reply α}
    (effect : Call.Effect turn.op.direct taken left reply) : left.Perm taken := by
  cases turn with
  | swap =>
    cases effect with
    | swap a b => exact .swap a b []
  | rshift =>
    cases effect with
    | rshift a b c => exact (List.perm_append_comm : ([c] ++ [a, b]).Perm _)

namespace Op

theorem act_drop_concat (below : List α) (a : α) :
    act (.ofList (below ++ [a])) drop = .ofList below :=
  congrArg Outcome.stack (Stack.drop_concat below a)

theorem act_duplicate_concat (below : List α) (a : α) :
    act (.ofList (below ++ [a])) duplicate = .ofList (below ++ [a, a]) :=
  congrArg Outcome.stack (Stack.dup_concat below a)

/-! ## Dropping what was turned -/

theorem foldl_act_drops (below top : List α) :
    (List.replicate top.length .drop).foldl act (.ofList (below ++ top)) = .ofList below := by
  induction top using List.reverseRecOn with
  | nil => rw [List.append_nil]; rfl
  | append_singleton top a ih =>
    rw [List.length_append, List.length_singleton, List.replicate_succ, List.foldl_cons,
      ← List.append_assoc, act_drop_concat, ih]

/-- A turn goes unnoticed if every value that it takes is dropped afterwards. -/
theorem foldl_act_turn_drops (turn : Turn) (s : Stack α) :
    (turn.op :: List.replicate turn.op.requiredDepth .drop).foldl act s =
      (List.replicate turn.op.requiredDepth .drop).foldl act s := by
  rw [List.foldl_cons]
  rcases Nat.lt_or_ge s.size turn.op.requiredDepth with shallow | enough
  · rw [act_of_lt shallow]
  · obtain ⟨below, taken, left, reply, rfl, effect⟩ := exists_effect_of_le enough
    have count : taken.length = turn.op.requiredDepth := by
      rw [effect.length_taken, need_direct]
    have kept : left.length = turn.op.requiredDepth := by
      rw [(Turn.perm_of_effect effect).length_eq, count]
    have before := foldl_act_drops below left
    have after := foldl_act_drops below taken
    rw [kept] at before
    rw [count] at after
    rw [act_of_effect effect, before, after]

/-! ## Turning copies -/

theorem foldl_act_duplicates (below : List α) (a : α) (count : Nat) :
    (List.replicate count .duplicate).foldl act (.ofList (below ++ [a])) =
      .ofList (below ++ List.replicate (count + 1) a) := by
  induction count with
  | zero => rfl
  | succ count ih =>
    have copied := act_duplicate_concat (below ++ List.replicate count a) a
    have one : List.replicate count a ++ [a] = List.replicate (count + 1) a :=
      List.replicate_succ'.symm
    have two : List.replicate count a ++ [a, a] = List.replicate (count + 2) a := by
      rw [List.replicate_succ', List.replicate_succ', List.append_assoc]
      rfl
    rw [List.append_assoc, List.append_assoc, one, two] at copied
    rw [List.replicate_succ', List.foldl_append, ih]
    exact copied

/-- A turn changes nothing among copies of one value. -/
theorem act_turn_copies (turn : Turn) (below : List α) (a : α) :
    act (.ofList (below ++ List.replicate turn.op.requiredDepth a)) turn.op =
      .ofList (below ++ List.replicate turn.op.requiredDepth a) := by
  obtain ⟨left, reply, effect⟩ := Call.exists_effect_of_length (Call.confined_direct turn.op)
    (List.length_replicate.trans (need_direct turn.op).symm)
  have same := List.perm_replicate.mp (Turn.perm_of_effect effect)
  rw [act_of_effect effect, same]

/-- A turn goes unnoticed if the value on top has been copied for all that the turn takes. -/
theorem foldl_act_duplicates_turn (turn : Turn) (s : Stack α) :
    (List.replicate (turn.op.requiredDepth - 1) duplicate ++ [turn.op]).foldl act s =
      (List.replicate (turn.op.requiredDepth - 1) .duplicate).foldl act s := by
  have positive : turn.op.requiredDepth - 1 + 1 = turn.op.requiredDepth := by
    cases turn <;> rfl
  rw [List.foldl_append, List.foldl_cons, List.foldl_nil]
  rcases s.pop_cases with ⟨below, a, rfl, _⟩ | ⟨rfl, _⟩
  · rw [foldl_act_duplicates, positive, act_turn_copies]
  · cases turn <;> rfl

/-! ## The rules -/

/-- A copy that is dropped at once goes unnoticed. -/
theorem foldl_act_duplicate_drop (s : Stack α) :
    ([.duplicate, .drop] : List Op).foldl act s = s := by
  rcases s.pop_cases with ⟨below, a, rfl, _⟩ | ⟨rfl, _⟩
  · have dropped := act_drop_concat (below ++ [a]) a
    rw [List.append_assoc] at dropped
    rw [List.foldl_cons, act_duplicate_concat]
    exact dropped
  · rfl

/-- The rules change nothing, at any depth. -/
theorem foldl_act_of_rule {old new : List Op} (allowed : PeepholeRule old new) (s : Stack α) :
    old.foldl act s = new.foldl act s := by
  cases allowed with
  | duplicate_drop => exact foldl_act_duplicate_drop s
  | duplicate_swap => exact foldl_act_duplicates_turn .swap s
  | duplicate_duplicate_rshift => exact foldl_act_duplicates_turn .rshift s
  | swap_drop_drop => exact foldl_act_turn_drops .swap s
  | rshift_drop_drop_drop => exact foldl_act_turn_drops .rshift s

/-- Applications in order, each carried on past failures. -/
theorem final_applies (ops : List Op) (s : Stack α) :
    Program.final (ops.map .apply) s = ops.foldl act s :=
  (carriedOut_applies ops).final_eq s

/-- The responses to the last applications of a list are those of a run of its own. -/
theorem drop_run_applies (ops behind : List Op) (s : Stack α) :
    (Program.run ((ops ++ behind).map .apply) s).drop ops.length =
      Program.run (behind.map .apply) (ops.foldl act s) := by
  rw [List.map_append, Program.run_append, final_applies]
  apply List.drop_left'
  rw [Program.length_run, List.length_map]

/-- A peephole rule may be used anywhere in a list of operations. Whatever is applied before and
behind, and however deep the stack, both lists leave the same stack, and what is behind responds in
the same way. So any number of uses, in either direction, leaves the final stack as it was. -/
theorem peephole_rules_unnoticed :
    (∀ old new : List Op, PeepholeRule old new → ∀ (before behind : List Op) (s : Stack α),
      let original : Program α := (before ++ old ++ behind).map .apply
      let replaced : Program α := (before ++ new ++ behind).map .apply
      original.final s = replaced.final s ∧
        (original.run s).drop (before ++ old).length =
          (replaced.run s).drop (before ++ new).length) ∧
    ∀ first second : List Op, Interchangeable PeepholeRule first second → ∀ s : Stack α,
      Program.final (first.map .apply) s = Program.final (second.map .apply) s := by
  refine ⟨?_, ?_⟩
  · intro old new allowed before behind s original replaced
    have middle : (before ++ old).foldl act s = (before ++ new).foldl act s := by
      rw [List.foldl_append, List.foldl_append, foldl_act_of_rule allowed]
    refine ⟨?_, ?_⟩
    · rw [final_applies, final_applies, List.foldl_append, middle, ← List.foldl_append]
    · rw [drop_run_applies, drop_run_applies, middle]
  · intro first second related s
    rw [final_applies, final_applies]
    exact related.foldl_eq (fun _ _ allowed => foldl_act_of_rule allowed) s

/-- A rule where the turn and the last drop are refused, as is what comes behind, and two uses in
different directions. -/
theorem peephole_rules_unnoticed_on_two_values :
    let original : List Op := [.swap] ++ [.rshift, .drop, .drop, .drop] ++ [.duplicate, .swap]
    let replaced : List Op := [.swap] ++ [.drop, .drop, .drop] ++ [.duplicate, .swap]
    let first : List Op := [.swap, .drop, .drop]
    let second : List Op := [.duplicate, .drop, .drop, .drop]
    let s : Stack Char := .ofList ['a', 'b']
    PeepholeRule [.rshift, .drop, .drop, .drop] [.drop, .drop, .drop] ∧
      Program.final (original.map .apply) s = Program.final (replaced.map .apply) s ∧
      (Program.run (original.map .apply) s).drop 5 = (Program.run (replaced.map .apply) s).drop 4 ∧
      (Program.run (original.map .apply) s).map Response.result =
        [.ok .done, .error (.insufficientDepth "rshift" 3 2), .ok .done, .ok .done,
          .error (.emptyStack "drop"), .error (.emptyStack "dup"),
          .error (.insufficientDepth "swap" 2 0)] ∧
      Program.final (original.map .apply) s = .empty ∧
      Interchangeable PeepholeRule first second ∧
      Program.final (first.map .apply) s = Program.final (second.map .apply) s ∧
      Program.final (first.map .apply) s = .empty := by
  intro original replaced first second s
  have allowed : PeepholeRule [.rshift, .drop, .drop, .drop] [.drop, .drop, .drop] :=
    .rshift_drop_drop_drop
  have shortened : RewritesBy PeepholeRule first [.drop, .drop] := .of_rule .swap_drop_drop
  have copied : RewritesBy PeepholeRule second [.drop, .drop] :=
    (RewritesBy.of_rule PeepholeRule.duplicate_drop).append_right [.drop, .drop]
  have related : Interchangeable PeepholeRule first second :=
    .trans _ _ _ (.rel _ _ shortened) (.symm _ _ (.rel _ _ copied))
  obtain ⟨inside, chains⟩ := peephole_rules_unnoticed (α := Char)
  obtain ⟨final, behind⟩ := inside _ _ allowed [.swap] [.duplicate, .swap] s
  exact ⟨allowed, final, behind, by decide, by decide, related, chains first second related s,
    by decide⟩

end Op

end OperandStack
