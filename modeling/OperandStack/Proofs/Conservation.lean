import OperandStack.Proofs.Run
import Mathlib.Algebra.Order.Group.Multiset
import Mathlib.Tactic.Abel

/-! # Values are conserved

No call loses a value or makes one up. The account of a run sets the values that have left the
stack, by being handed back, discarded or cleared away, against those that have come onto it, by
being given to it or copied on it. Together with the values that it starts and ends with the account
is even, whichever calls fail on the way.
-/

universe u

namespace OperandStack

variable {α : Type u}

namespace Stack

/-- The values of a stack in no order. -/
def values (s : Stack α) : Multiset α := s.toList

/-- The top value, or nothing if there is none. -/
def top (s : Stack α) : Multiset α := s.toList.getLast?.toList

theorem values_ofList_append (below above : List α) :
    (ofList (below ++ above)).values = (ofList below).values + (above : Multiset α) :=
  (Multiset.coe_add below above).symm

theorem top_concat (below : List α) (a : α) : (ofList (below ++ [a])).top = {a} := by
  rw [top, toList_ofList, List.getLast?_concat]
  rfl

end Stack

/-- What counts of a call: something that depends on the reply if it succeeds, and nothing if it
fails. -/
def Response.counted (response : Response α) (amount : Reply α → Multiset α) : Multiset α :=
  match response.result with
  | .ok reply => amount reply
  | .error _ => 0

namespace Call

/-! ## The account of a call -/

/-- The values of a reply that a pop has taken off the stack. -/
def handedBack : Call α → Reply α → Multiset α
  | pop, .value value => {value}
  | popMany _, .values values => values
  | _, _ => 0

def isDrop : Call α → Bool
  | drop | apply .drop => true
  | _ => false

def isDup : Call α → Bool
  | dup | apply .duplicate => true
  | _ => false

/-- The values that a pop returns, if it succeeds. -/
def returned (call : Call α) (s : Stack α) : Multiset α := (call.run s).counted call.handedBack

/-- The top value before a drop, if it succeeds. -/
def discarded (call : Call α) (s : Stack α) : Multiset α :=
  (call.run s).counted fun _ => if call.isDrop then s.top else 0

/-- The whole stack before a call that starts over. -/
def cleared : Call α → Stack α → Multiset α
  | clear, s | collectFrom _, s => s.values
  | _, _ => 0

/-- The values that a call brings along for the stack. -/
def given : Call α → Stack α → Multiset α
  | push value, _ => {value}
  | pushAll values, _ => values
  | extend source, _ => source
  | extendFrom other, _ | collectFrom other, _ => other.values
  | _, _ => 0

/-- The top value before a duplication, if it succeeds. -/
def copied (call : Call α) (s : Stack α) : Multiset α :=
  (call.run s).counted fun _ => if call.isDup then s.top else 0

/-- What an effect takes, with what is added, goes into what it leaves, with what is removed. -/
theorem Effect.balanced {call : Call α} {taken left : List α} {reply : Reply α}
    (effect : Effect call taken left reply) (below : List α) :
    (left : Multiset α) + call.handedBack reply +
        (if call.isDrop then (Stack.ofList (below ++ taken)).top else 0) =
      taken + call.given (.ofList (below ++ taken)) +
        (if call.isDup then (Stack.ofList (below ++ taken)).top else 0) := by
  induction effect with
  | push | pushAll | extend | pop | popMany => simp [handedBack, isDrop, given, isDup]
  | extendFrom other => simp [handedBack, isDrop, given, isDup, Stack.values]
  | peek | require => rfl
  | dup a =>
    simp only [isDup, ↓reduceIte, Stack.top_concat]
    rfl
  | swap a b =>
    have turned : ([b, a] : Multiset α) = [a, b] := Multiset.coe_eq_coe.mpr (.swap a b [])
    rw [turned]
    rfl
  | rshift a b c =>
    have turned : ([c, a, b] : Multiset α) = [a, b, c] :=
      Multiset.coe_eq_coe.mpr (List.perm_append_comm : ([c] ++ [a, b]).Perm ([a, b] ++ [c]))
    rw [turned]
    rfl
  | drop a =>
    simp only [isDrop, ↓reduceIte, Stack.top_concat]
    rfl
  | @apply op _ _ _ _ ih => cases op <;> exact ih

theorem Effect.cleared_eq {call : Call α} {taken left : List α} {reply : Reply α}
    (effect : Effect call taken left reply) (s : Stack α) : call.cleared s = 0 := by
  cases effect <;> rfl

/-- A call that can be refused brings no values along and clears none away. -/
theorem cleared_and_given_of_need_pos {call : Call α} (needy : 0 < call.need) (s : Stack α) :
    call.cleared s = 0 ∧ call.given s = 0 := by
  cases call with
  | pop | popMany | peek | dup | swap | rshift | drop | require | apply => exact ⟨rfl, rfl⟩
  | push | pushAll | extend | extendFrom | collectFrom | clear | size | isEmpty | traverse =>
    exact absurd needy (Nat.lt_irrefl 0)

/-- The account of one call is even. -/
theorem balanced (call : Call α) (s : Stack α) :
    (call.run s).stack.values + call.returned s + call.discarded s + call.cleared s =
      s.values + call.given s + call.copied s := by
  rw [returned, discarded, copied]
  rcases call.run_cases s with shallow | ⟨below, taken, left, reply, rfl, effect⟩ | whole
  · obtain ⟨cleared, given⟩ := cleared_and_given_of_need_pos (Nat.zero_lt_of_lt shallow) s
    rw [run_of_lt shallow, cleared, given]
    simp only [Response.counted, add_zero]
  · -- What lies below stands on both sides.
    have even := effect.balanced below
    rw [run_of_effect effect, effect.cleared_eq, add_zero]
    simp only [Response.counted, Stack.values_ofList_append, add_assoc] at even ⊢
    rw [even]
  · cases call with
    | collectFrom other =>
      simp [run, quiet, Response.counted, handedBack, isDrop, isDup, cleared, given,
        Stack.values, add_comm]
    | clear =>
      simp [run, quiet, Response.counted, handedBack, isDrop, isDup, cleared, given,
        Stack.clear, Stack.values]
    | size | isEmpty | traverse =>
      simp [run, quiet, Response.counted, handedBack, isDrop, isDup, cleared, given]
    | push | pushAll | extend | extendFrom | pop | popMany | peek | dup | swap | rshift | drop
    | require | apply => cases whole

end Call

namespace Program

/-- Sums an amount up over a run, for each call and the stack it meets. -/
def tally (amount : Call α → Stack α → Multiset α) : Program α → Stack α → Multiset α
  | [], _ => 0
  | call :: rest, s => amount call s + tally amount rest (call.run s).stack

/-- Even accounts of two parts of a run, one after the other, make an even account of both. -/
private theorem account_trans {first middle last : Multiset α}
    {returned discarded cleared given copied returned' discarded' cleared' given' copied' : Multiset α}
    (here : middle + returned + discarded + cleared = first + given + copied)
    (later : last + returned' + discarded' + cleared' = middle + given' + copied') :
    last + (returned + returned') + (discarded + discarded') + (cleared + cleared') =
      first + (given + given') + (copied + copied') := by
  calc last + (returned + returned') + (discarded + discarded') + (cleared + cleared')
      = (last + returned' + discarded' + cleared') + (returned + discarded + cleared) := by abel
    _ = (middle + returned + discarded + cleared) + given' + copied' := by rw [later]; abel
    _ = first + (given + given') + (copied + copied') := by rw [here]; abel

/-- No value is lost or invented in any run. The values on the final stack, those returned by pops,
those discarded by drops and those cleared away are together, each as often as it occurs, the values
on the starting stack, those given to the stack and those copied by duplications. Calls that fail
contribute nothing. -/
theorem values_conserved (program : Program α) (s : Stack α) :
    (program.final s).values + tally Call.returned program s + tally Call.discarded program s +
        tally Call.cleared program s =
      s.values + tally Call.given program s + tally Call.copied program s := by
  induction program generalizing s with
  | nil => simp only [tally, final, add_zero]
  | cons call rest ih => exact account_trans (call.balanced s) (ih (call.run s).stack)

end Program

end OperandStack
