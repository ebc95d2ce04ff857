import OperandStack.Proofs.Run
import OperandStack.Stack.Drain

/-! # Pushes and pops in pieces

Values go onto a stack in pieces of any size and come off it in pieces of any size, and the two need
not match. Whatever the pieces, all that was put on comes off again from the last value to the
first, and the stack is as before. The other way about, values that are taken off in pieces and put
back the other way round leave no trace, and put back as they come they are turned over.
-/

universe u

namespace OperandStack

variable {α : Type u}

/-- The values of a reply to a pop, the former top first. -/
def Reply.popped : Reply α → List α
  | value held => [held]
  | values held => held
  | done | count _ | flag _ | answers _ => []

def Response.popped (response : Response α) : List α :=
  match response.result with
  | .ok reply => reply.popped
  | .error _ => []

namespace Program

/-- The values that a run pops, one piece after the other. -/
def popped (program : Program α) (s : Stack α) : List α :=
  (program.run s).flatMap Response.popped

theorem popped_append (first second : Program α) (s : Stack α) :
    (first ++ second).popped s = first.popped s ++ second.popped (first.final s) := by
  rw [popped, run_append, List.flatMap_append, popped, popped]

/-! ## Putting values on -/

/-- Tells that a program puts a list of values on, cut into consecutive pieces in some way. -/
inductive PutsOn : Program α → List α → Prop
  | nil : PutsOn [] []
  | push (value : α) {rest : Program α} {values : List α} (more : PutsOn rest values) :
      PutsOn (.push value :: rest) (value :: values)
  | pushAll (piece : List α) {rest : Program α} {values : List α} (more : PutsOn rest values) :
      PutsOn (.pushAll piece :: rest) (piece ++ values)
  | extend (piece : List α) {rest : Program α} {values : List α} (more : PutsOn rest values) :
      PutsOn (.extend piece :: rest) (piece ++ values)

variable {program pushes pops : Program α} {values : List α} {count : Nat}

theorem PutsOn.succeeds (puts : PutsOn program values) (s : Stack α) : program.Succeeds s := by
  induction puts generalizing s with
  | nil => exact succeeds_nil s
  | push _ _ ih | pushAll _ _ ih | extend _ _ ih =>
    exact (succeeds_cons_iff _ _ _).mpr ⟨Nat.zero_le _, ih _⟩

theorem PutsOn.popped_eq (puts : PutsOn program values) (s : Stack α) : program.popped s = [] := by
  induction puts generalizing s with
  | nil => rfl
  | push _ _ ih | pushAll _ _ ih | extend _ _ ih => exact ih _

/-- The pieces end up on top as one. -/
theorem PutsOn.final_eq (puts : PutsOn program values) (below : List α) :
    program.final (.ofList below) = .ofList (below ++ values) := by
  induction puts generalizing below with
  | nil => rw [List.append_nil]; rfl
  | push value _ ih =>
    have pushed := Stack.push_ofList below value
    rw [final, Call.run, Call.quiet, pushed, ih, List.append_assoc, List.singleton_append]
  | pushAll piece _ ih | extend piece _ ih =>
    have pushed := Stack.pushAll_ofList below piece
    rw [final, Call.run, Call.quiet, ← List.append_assoc, ← ih]
    exact congrArg _ pushed

/-! ## Taking values off -/

/-- Tells that a program takes so many values off, in pieces of some sizes. -/
inductive TakesOff : Program α → Nat → Prop
  | nil : TakesOff [] 0
  | pop {rest : Program α} {count : Nat} (more : TakesOff rest count) :
      TakesOff (.pop :: rest) (1 + count)
  | popMany (size : Nat) {rest : Program α} {count : Nat} (more : TakesOff rest count) :
      TakesOff (.popMany size :: rest) (size + count)

/-- Tells that a run succeeds, takes `above` off from the top down and leaves `below`. -/
structure Removes (program : Program α) (below above : List α) : Prop where
  succeeds : program.Succeeds (.ofList (below ++ above))
  popped_eq : program.popped (.ofList (below ++ above)) = above.reverse
  final_eq : program.final (.ofList (below ++ above)) = .ofList below

-- The first piece is the last of the values, so a piece more goes behind those of the later ones.
theorem Removes.cons {call : Call α} {rest : Program α} {below above taken : List α}
    {reply : Reply α} (effect : Call.Effect call taken [] reply)
    (handed : reply.popped = taken.reverse) (later : Removes rest below above) :
    Removes (call :: rest) below (above ++ taken) := by
  have first := Call.run_of_effect effect (below ++ above)
  rw [List.append_nil, List.append_assoc] at first
  refine ⟨?_, ?_, ?_⟩
  · have enough : call.need ≤ (Stack.ofList (below ++ (above ++ taken))).size := by
      rw [← effect.length_taken, Stack.size_ofList, List.length_append, List.length_append]
      omega
    rw [succeeds_cons_iff, first]
    exact ⟨enough, later.succeeds⟩
  · rw [popped, run, List.flatMap_cons, first, List.reverse_append, ← handed, ← later.popped_eq]
    rfl
  · rw [final, first]
    exact later.final_eq

theorem TakesOff.removes (takes : TakesOff program count) {above : List α}
    (length : above.length = count) (below : List α) : Removes program below above := by
  have cut {size count : Nat} {above : List α} (length : above.length = size + count) :
      ∃ lower upper, above = lower ++ upper ∧ lower.length = count ∧ upper.length = size := by
    refine ⟨above.take count, above.drop count, (List.take_append_drop ..).symm, ?_, ?_⟩
    · rw [List.length_take]
      omega
    · rw [List.length_drop]
      omega
  induction takes generalizing above with
  | nil =>
    obtain rfl := List.length_eq_zero_iff.mp length
    exact ⟨succeeds_nil _, rfl, congrArg Stack.ofList (List.append_nil below)⟩
  | pop _ ih =>
    obtain ⟨lower, upper, rfl, less, one⟩ := cut length
    obtain ⟨a, rfl⟩ := List.length_eq_one_iff.mp one
    exact .cons (.pop a) rfl (ih less)
  | popMany size _ ih =>
    obtain ⟨lower, upper, rfl, less, many⟩ := cut length
    exact .cons (.popMany many) rfl (ih less)

theorem TakesOff.exists_removes (takes : TakesOff program count) {s : Stack α}
    (enough : count ≤ s.size) :
    ∃ below above : List α, above.length = count ∧ s = .ofList (below ++ above) ∧
      Removes program below above := by
  obtain ⟨below, above, length, shape⟩ := Stack.exists_eq_ofList_append enough
  exact ⟨below, above, length, shape, takes.removes length below⟩

/-- Pushing and popping are inverse, whatever the pieces. Values put on in pieces and taken off in
other pieces come back from the last to the first, no call fails and the stack is as before. The
other way about, values taken off in pieces come from the top down; put back the other way round
they restore the stack, and put back as they come they leave it with its top turned over, so that
popping in bulk and pushing what comes restores the stack when it is done twice. -/
theorem pieces_round_trip :
    (∀ (pushes pops : Program α) (values : List α),
      PutsOn pushes values → TakesOff pops values.length → ∀ s,
        (pushes ++ pops).Succeeds s ∧ (pushes ++ pops).popped s = values.reverse ∧
        (pushes ++ pops).final s = s) ∧
    ∀ (pops : Program α) (count : Nat) (s : Stack α), TakesOff pops count → count ≤ s.size →
      pops.Succeeds s ∧ pops.popped s = s.toList.reverse.take count ∧
      final (pops ++ [.pushAll (pops.popped s).reverse]) s = s ∧
      (final (pops ++ [.pushAll (pops.popped s)]) s).toList =
        s.toList.take (s.size - count) ++ (s.toList.drop (s.size - count)).reverse ∧
      (s.repush count).result = .ok (pops.popped s) ∧
      ((s.repush count).stack.repush count).stack = s := by
  refine ⟨?_, ?_⟩
  · intro pushes pops values puts takes s
    have removes := takes.removes rfl s.toList
    have placed : pushes.final s = .ofList (s.toList ++ values) := puts.final_eq s.toList
    refine ⟨?_, ?_, ?_⟩
    · rw [succeeds_append_iff, placed]
      exact ⟨puts.succeeds s, removes.succeeds⟩
    · rw [popped_append, placed, puts.popped_eq, removes.popped_eq, List.nil_append]
    · rw [final_append, placed, removes.final_eq, Stack.ofList_toList]
  · intro pops count s takes enough
    obtain ⟨below, above, rfl, rfl, removes⟩ := takes.exists_removes enough
    have pushed (values : List α) :
        final (pops ++ [.pushAll values]) (.ofList (below ++ above)) =
          .ofList (below ++ values) := by
      rw [final_append, removes.final_eq]
      exact Stack.pushAll_ofList below values
    have cut : (Stack.ofList (below ++ above)).size - above.length = below.length := by
      rw [Stack.size_ofList, List.length_append, Nat.add_sub_cancel]
    have again := Stack.repush_append below above.reverse
    rw [List.length_reverse, List.reverse_reverse] at again
    rw [removes.popped_eq, pushed, pushed, cut, Stack.repush_append, again, List.reverse_reverse]
    refine ⟨removes.succeeds, ?_, rfl, ?_, rfl, rfl⟩
    · rw [Stack.toList_ofList, List.reverse_append, ← List.length_reverse, List.take_left]
    · rw [Stack.toList_ofList, Stack.toList_ofList, List.take_left, List.drop_left]

/-- Pieces that do not line up, some of them empty, and the way back through the values below. -/
theorem pieces_round_trip_across_pieces :
    let pushes : Program Nat := [.push 1, .pushAll [2, 3], .extend [], .extend [4]]
    let pops : Program Nat := [.popMany 0, .pop, .popMany 3]
    let s := Stack.ofList [7, 8, 9, 10, 11]
    PutsOn pushes [1, 2, 3, 4] ∧ TakesOff pops 4 ∧
      (pushes ++ pops).Succeeds s ∧ (pushes ++ pops).popped s = [4, 3, 2, 1] ∧
      (pushes ++ pops).final s = s ∧
      pops.popped s = [11, 10, 9, 8] ∧
      (final (pops ++ [.pushAll (pops.popped s)]) s).toList = [7, 11, 10, 9, 8] ∧
      ((s.repush 4).stack.repush 4).stack = s := by
  intro pushes pops s
  have puts : PutsOn pushes [1, 2, 3, 4] :=
    .push 1 (.pushAll [2, 3] (.extend [] (.extend [4] .nil)))
  have takes : TakesOff pops 4 := .popMany 0 (.pop (.popMany 3 .nil))
  obtain ⟨there, back⟩ := pieces_round_trip (α := Nat)
  obtain ⟨succeeds, popped, final⟩ := there pushes pops _ puts takes s
  obtain ⟨_, top, _, turned, _, twice⟩ := back pops 4 s takes (by decide)
  exact ⟨puts, takes, succeeds, popped, final, top, turned, twice⟩

end Program

end OperandStack
