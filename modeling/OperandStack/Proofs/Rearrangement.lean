import OperandStack.Program
import OperandStack.Proofs.StackEffect
import OperandStack.Stack.Drain

/-! # Rearrangements by pop and push

The operations on the top of a stack work in place. Each of them is also a way of popping values
and pushing them again: `Detour` names two such ways, one by single pops and pushes and one that
turns over the top in bulk. A program that takes a detour wherever it rearranges the top cannot be
told from the program itself, but for the wording of a refused rearrangement.
-/

universe u

namespace OperandStack

variable {α β γ : Type u}

/-! ## Work in steps -/

/-- Work on a stack that answers a value of type `β`. -/
def Work (α β : Type u) : Type u := Stack α → Outcome α β

namespace Work

/-- Steps are done one after the other. The first that fails ends the work and leaves the stack as
it is by then. -/
instance : Monad (Work α) where
  pure value := fun s => ⟨.ok value, s⟩
  bind first next := fun s =>
    match first s with
    | ⟨.ok value, rest⟩ => next value rest
    | ⟨.error failure, rest⟩ => ⟨.error failure, rest⟩

def require (depth : Nat) (op : String) : Work α PUnit := fun s =>
  ⟨(s.require depth op).map fun _ => ⟨⟩, s⟩

def pop : Work α α := Stack.pop

def push (value : α) : Work α PUnit := fun s => ⟨.ok ⟨⟩, s.push value⟩

def repush (count : Nat) : Work α (List α) := fun s => s.repush count

theorem bind_of_ok {first : Work α β} {s rest : Stack α} {value : β}
    (step : first s = ⟨.ok value, rest⟩) (next : β → Work α γ) :
    (first >>= next) s = next value rest := by
  simp only [bind, step]

theorem bind_of_error {first : Work α β} {s rest : Stack α} {failure : StackError}
    (step : first s = ⟨.error failure, rest⟩) (next : β → Work α γ) :
    (first >>= next) s = ⟨.error failure, rest⟩ := by
  simp only [bind, step]

/-- Work that checks the depth first is refused as a whole where it does not reach. -/
theorem require_bind_of_lt {depth : Nat} {op : String} {s : Stack α} (shallow : s.size < depth)
    (next : PUnit → Work α β) :
    (require depth op >>= next) s = ⟨.error (.insufficientDepth op depth s.size), s⟩ := by
  apply bind_of_error
  rw [require, Stack.require_of_lt shallow]
  rfl

theorem require_bind_of_le {depth : Nat} {op : String} {s : Stack α} (enough : depth ≤ s.size)
    (next : PUnit → Work α β) : (require depth op >>= next) s = next ⟨⟩ s := by
  apply bind_of_ok
  rw [require, Stack.require_of_le enough]
  rfl

theorem pop_bind_concat (below : List α) (a : α) (next : α → Work α β) :
    (pop >>= next) (.ofList (below ++ [a])) = next a (.ofList below) :=
  bind_of_ok (Stack.pop_concat below a) next

theorem push_ofList (values : List α) (a : α) :
    push a (.ofList values) = ⟨.ok ⟨⟩, .ofList (values ++ [a])⟩ := by
  rw [push, Stack.push_ofList]

theorem push_bind_ofList (values : List α) (a : α) (next : PUnit → Work α β) :
    (push a >>= next) (.ofList values) = next ⟨⟩ (.ofList (values ++ [a])) :=
  bind_of_ok (push_ofList values a) next

theorem repush_bind_append (below above : List α) (next : List α → Work α β) :
    (repush above.length >>= next) (.ofList (below ++ above)) =
      next above.reverse (.ofList (below ++ above.reverse)) :=
  bind_of_ok (Stack.repush_append below above) next

end Work

/-! ## Detours -/

/-- A way of rearranging the top otherwise than in place. -/
inductive Detour where
  /-- By pops and pushes of single values. -/
  | singly
  /-- By turning over the top two or three values, where values only change places. -/
  | inBulk
deriving DecidableEq

namespace Detour

/-- What is done in place of an operation once the depth has been checked. -/
def steps : Detour → Op → Work α PUnit
  | _, .drop => do
    let _ ← Work.pop
  | _, .duplicate => do
    let a ← Work.pop
    Work.push a
    Work.push a
  | singly, .swap => do
    let a ← Work.pop
    let b ← Work.pop
    Work.push a
    Work.push b
  | inBulk, .swap => do
    let _ ← Work.repush 2
  | singly, .rshift => do
    let a ← Work.pop
    let b ← Work.pop
    let c ← Work.pop
    Work.push a
    Work.push c
    Work.push b
  | inBulk, .rshift => do
    let _ ← Work.repush 3
    let _ ← Work.repush 2

/-- The work that stands for an operation. -/
def work (detour : Detour) (op : Op) : Work α PUnit := do
  Work.require op.requiredDepth op.name
  detour.steps op

theorem steps_of_effect (detour : Detour) {op : Op} {taken left : List α} {reply : Reply α}
    (effect : Call.Effect op.direct taken left reply) (below : List α) :
    detour.steps op (.ofList (below ++ taken)) = ⟨.ok ⟨⟩, .ofList (below ++ left)⟩ := by
  cases op with
  | drop =>
    cases effect with
    | drop a => rw [steps, Work.pop_bind_concat, List.append_nil]; rfl
  | duplicate =>
    cases effect with
    | dup a =>
      rw [steps, Work.pop_bind_concat, Work.push_bind_ofList, Work.push_ofList, List.append_assoc]
      rfl
  | swap =>
    cases effect with
    | swap a b =>
      cases detour with
      | singly =>
        have split : below ++ [a, b] = (below ++ [a]) ++ [b] := by simp
        rw [steps, split, Work.pop_bind_concat, Work.pop_bind_concat, Work.push_bind_ofList,
          Work.push_ofList, List.append_assoc]
        rfl
      | inBulk => exact Work.repush_bind_append below [a, b] _
  | rshift =>
    cases effect with
    | rshift a b c =>
      cases detour with
      | singly =>
        have split : below ++ [a, b, c] = ((below ++ [a]) ++ [b]) ++ [c] := by simp
        rw [steps, split, Work.pop_bind_concat, Work.pop_bind_concat, Work.pop_bind_concat,
          Work.push_bind_ofList, Work.push_bind_ofList, Work.push_ofList]
        simp
      | inBulk =>
        -- The first turn leaves `c b a`, whose top two are turned back.
        have turned : below ++ [a, b, c].reverse = (below ++ [c]) ++ [b, a] := by simp
        have back : (below ++ [c]) ++ [b, a].reverse = below ++ [c, a, b] := by simp
        have first := Work.repush_bind_append below [a, b, c]
          (fun _ => Work.repush 2 >>= fun _ => (pure ⟨⟩ : Work α PUnit))
        have second := Work.repush_bind_append (below ++ [c]) [b, a]
          (fun _ => (pure ⟨⟩ : Work α PUnit))
        rw [turned] at first
        rw [back] at second
        exact first.trans second

/-- On a stack that is deep enough a detour leaves what the operation in place leaves. -/
theorem work_of_effect (detour : Detour) {op : Op} {taken left : List α} {reply : Reply α}
    (effect : Call.Effect op.direct taken left reply) (below : List α) :
    detour.work op (.ofList (below ++ taken)) = ⟨.ok ⟨⟩, .ofList (below ++ left)⟩ := by
  have enough : op.requiredDepth ≤ (Stack.ofList (below ++ taken)).size := by
    rw [Stack.size_ofList, List.length_append, effect.length_taken, op.need_direct]
    omega
  rw [work, Work.require_bind_of_le enough, steps_of_effect detour effect]

/-- On a stack that is too shallow a detour changes nothing. -/
theorem work_of_lt (detour : Detour) {op : Op} {s : Stack α} (shallow : s.size < op.requiredDepth) :
    detour.work op s =
      ⟨.error (.insufficientDepth op.name op.requiredDepth s.size), s⟩ :=
  Work.require_bind_of_lt shallow _

end Detour

/-! ## Programs on a detour -/

namespace Call

/-- The operation on the top that a call carries out, directly or by application. -/
def rearrangement? : Call α → Option Op
  | drop => some .drop
  | dup => some .duplicate
  | swap => some .swap
  | rshift => some .rshift
  | apply op => some op
  | push _ | pushAll _ | extend _ | extendFrom _ | collectFrom _ | pop | popMany _ | peek | clear
  | require _ _ | size | isEmpty | traverse _ => none

/-- Answers a call, by a detour if the call rearranges the top. -/
def runVia (detour : Detour) (call : Call α) (s : Stack α) : Response α :=
  match call.rearrangement? with
  | some op =>
    let out := detour.work op s
    quiet (out.result.map fun _ => .done) out.stack
  | none => call.run s

/-- What a response tells, the wording of a refused rearrangement apart. -/
def told (call : Call α) (response : Response α) : Except (Option StackError) (Reply α) :=
  response.result.mapError fun failure =>
    if call.rearrangement?.isSome then none else some failure

theorem run_of_rearrangement {call : Call α} {op : Op} (rearranges : call.rearrangement? = some op)
    (s : Stack α) :
    (call.run s).result = (op.direct.run s).result ∧
      (call.run s).stack = (op.direct.run s).stack := by
  cases call with
  | drop | dup | swap | rshift =>
    obtain rfl := Option.some.inj rearranges
    exact ⟨rfl, rfl⟩
  | apply other =>
    obtain rfl := Option.some.inj rearranges
    rw [run_apply]
    exact ⟨rfl, rfl⟩
  | push | pushAll | extend | extendFrom | collectFrom | pop | popMany | peek | clear | require
  | size | isEmpty | traverse => cases rearranges

/-- A call by a detour leaves the same stack and tells the same. -/
theorem runVia_agrees (detour : Detour) (call : Call α) (s : Stack α) :
    (call.runVia detour s).stack = (call.run s).stack ∧
      call.told (call.runVia detour s) = call.told (call.run s) := by
  cases rearranges : call.rearrangement? with
  | none =>
    have same : call.runVia detour s = call.run s := by simp only [runVia, rearranges]
    rw [same]
    exact ⟨rfl, rfl⟩
  | some op =>
    obtain ⟨result, stack⟩ := run_of_rearrangement rearranges s
    simp only [told, result, stack, runVia, rearranges, Option.isSome_some, if_true]
    rcases Nat.lt_or_ge s.size op.requiredDepth with shallow | enough
    · have short : s.size < (op.direct : Call α).need := by rwa [op.need_direct]
      rw [detour.work_of_lt shallow, run_of_lt short]
      exact ⟨rfl, rfl⟩
    · have reach : (op.direct : Call α).need ≤ s.size := by rwa [op.need_direct]
      obtain ⟨below, taken, left, reply, rfl, effect⟩ := exists_effect (confined_direct op) reach
      obtain rfl := effect.reply_direct
      rw [detour.work_of_effect effect, run_of_effect effect]
      exact ⟨rfl, rfl⟩

end Call

namespace Program

/-- The responses to the calls of a program that takes detours. -/
def runVia (detour : Detour) : Program α → Stack α → List (Response α)
  | [], _ => []
  | call :: rest, s => call.runVia detour s :: runVia detour rest (call.runVia detour s).stack

/-- The stack after the last call of a program that takes detours. -/
def finalVia (detour : Detour) : Program α → Stack α → Stack α
  | [], s => s
  | call :: rest, s => finalVia detour rest (call.runVia detour s).stack

/-- In place or by a detour, a program tells the same: after every call the stack is the same, a
rearrangement succeeds where it succeeds in place, and every other call has the same result. -/
theorem detours_unnoticed (detour : Detour) (program : Program α) (s : Stack α) :
    (program.runVia detour s).map Response.stack = (program.run s).map Response.stack ∧
      List.zipWith Call.told program (program.runVia detour s) =
        List.zipWith Call.told program (program.run s) ∧
      program.finalVia detour s = program.final s := by
  induction program generalizing s with
  | nil => exact ⟨rfl, rfl, rfl⟩
  | cons call rest ih =>
    obtain ⟨stack, told⟩ := call.runVia_agrees detour s
    obtain ⟨held, results, final⟩ := ih (call.run s).stack
    refine ⟨?_, ?_, ?_⟩
    · rw [runVia, run, List.map_cons, List.map_cons, stack, held]
    · rw [runVia, run, List.zipWith_cons_cons, List.zipWith_cons_cons, told, stack, results]
    · rw [finalVia, Program.final, stack, final]

example : finalVia .inBulk [.rshift, .swap] (.ofList [1, 2, 3]) = .ofList [3, 2, 1] := rfl

end Program

end OperandStack
