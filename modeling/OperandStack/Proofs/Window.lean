import OperandStack.Traversal.Lemmas
import Mathlib.Data.List.Basic

/-! # A traversal is a window on a list

A traversal answers as the list of the values left does, of which moves take from either side:
`Move.onList` says how, and `Traversal.run_eq_runOnList` carries it to whole scripts. Hence passing
over values is taking them one by one, taking the rest is taking until nothing comes, every value is
met from one side and once, and a script with its sides exchanged answers on the reversed stack as
the script does on the stack.
-/

universe u

namespace OperandStack

variable {α : Type u}

/-- The value that an answer holds, if a value was asked for and one was left. -/
def Answer.value? : Answer α → Option α
  | value taken => taken
  | size _ | values _ => none

/-- Tells that an answer holds no value and counts none. -/
def Answer.Bare (answer : Answer α) : Prop :=
  answer = .value none ∨ answer = .size 0 ∨ answer = .values []

theorem Answer.bare_value_iff (taken : Option α) : (Answer.value taken).Bare ↔ taken = none := by
  simp [Bare]

theorem Answer.bare_size_iff (left : Nat) : (Answer.size left : Answer α).Bare ↔ left = 0 := by
  simp [Bare]

/-! ## Moves on a list -/

namespace Move

/-- What a move answers where `left` are the values left, from the front to the back, and what it
leaves of them. -/
def onList (left : List α) : Move → Answer α × List α
  | next => (.value left.head?, left.tail)
  | back => (.value left.getLast?, left.dropLast)
  | nth skipped => (.value (left.drop skipped).head?, left.drop (skipped + 1))
  | nthBack skipped =>
    (.value (left.reverse.drop skipped).head?, (left.reverse.drop (skipped + 1)).reverse)
  | size => (.size left.length, left)
  | rest => (.values left, [])
  | restBack => (.values left.reverse, [])

def runOnList (left : List α) : List Move → List (Answer α)
  | [] => []
  | move :: script => (move.onList left).1 :: runOnList (move.onList left).2 script

theorem bare_onList_nil (move : Move) :
    (move.onList ([] : List α)).1.Bare ∧ (move.onList ([] : List α)).2 = [] := by
  cases move with
  | next | back => exact ⟨.inl rfl, rfl⟩
  | nth skipped | nthBack skipped => simp [onList, Answer.bare_value_iff]
  | size => exact ⟨.inr (.inl rfl), rfl⟩
  | rest | restBack => exact ⟨.inr (.inr rfl), rfl⟩

theorem bare_of_mem_runOnList_nil {script : List Move} {answer : Answer α}
    (member : answer ∈ runOnList [] script) : answer.Bare := by
  induction script with
  | nil => cases member
  | cons move rest ih =>
    obtain ⟨bare, nothing⟩ := bare_onList_nil (α := α) move
    rw [runOnList, nothing] at member
    rcases List.mem_cons.mp member with rfl | later
    · exact bare
    · exact ih later

/-- A move that finds nothing, or takes all, leaves nothing. -/
theorem onList_eq_nil {move : Move} {left : List α}
    (last : (move.onList left).1.Bare ∨ move = .rest ∨ move = .restBack) :
    (move.onList left).2 = [] := by
  rcases last with bare | rfl | rfl
  · cases move with
    | next =>
      obtain rfl := List.head?_eq_none_iff.mp ((Answer.bare_value_iff _).mp bare)
      rfl
    | back =>
      obtain rfl := List.getLast?_eq_none_iff.mp ((Answer.bare_value_iff _).mp bare)
      rfl
    | nth skipped | nthBack skipped =>
      have nothing := List.head?_eq_none_iff.mp ((Answer.bare_value_iff _).mp bare)
      rw [onList, ← List.tail_drop, nothing]
      rfl
    | size => exact List.length_eq_zero_iff.mp ((Answer.bare_size_iff _).mp bare)
    | rest | restBack => rfl
  · rfl
  · rfl

/-- The move on the other side. -/
def mirror : Move → Move
  | next => .back
  | back => .next
  | nth skipped => .nthBack skipped
  | nthBack skipped => .nth skipped
  | size => .size
  | rest => .restBack
  | restBack => .rest

theorem onList_mirror (move : Move) (left : List α) :
    move.mirror.onList left.reverse = ((move.onList left).1, (move.onList left).2.reverse) := by
  cases move with
  | next => simp only [mirror, onList, List.getLast?_reverse, List.dropLast_reverse]
  | back => simp only [mirror, onList, List.head?_reverse, List.tail_reverse]
  | nth skipped => simp only [mirror, onList, List.reverse_reverse]
  | nthBack skipped => simp only [mirror, onList, List.reverse_reverse]
  | size => simp only [mirror, onList, List.length_reverse]
  | rest => simp only [mirror, onList, List.reverse_reverse, List.reverse_nil]
  | restBack => simp only [mirror, onList, List.reverse_nil]

theorem runOnList_mirror (script : List Move) (left : List α) :
    runOnList left.reverse (script.map mirror) = runOnList left script := by
  induction script generalizing left with
  | nil => rfl
  | cons move rest ih => rw [List.map_cons, runOnList, onList_mirror, ih, runOnList]

end Move

namespace Traversal

/-- A move on a traversal is the move on the list of the values left. -/
theorem step_eq_onList (t : Traversal α) (move : Move) :
    (t.step move).1 = (move.onList t.toList).1 ∧
      (t.step move).2.toList = (move.onList t.toList).2 := by
  cases move with
  | next => exact ⟨congrArg _ t.fst_next, t.toList_snd_next⟩
  | back => exact ⟨congrArg _ t.fst_back, t.toList_snd_back⟩
  | nth skipped => exact ⟨congrArg Answer.value (t.fst_nth skipped), t.toList_snd_nth skipped⟩
  | nthBack skipped =>
    refine ⟨congrArg Answer.value ?_, ?_⟩
    · rw [fst_nthBack, List.drop_reverse, List.head?_reverse, length_toList]
    · simp only [step, Move.onList, toList_snd_nthBack, List.drop_reverse, List.reverse_reverse,
        length_toList]
  | size => exact ⟨congrArg _ t.length_toList.symm, rfl⟩
  | rest => exact ⟨rfl, t.toList_snd_rest⟩
  | restBack => exact ⟨rfl, t.toList_snd_restBack⟩

theorem run_eq_runOnList (t : Traversal α) (script : List Move) :
    t.run script = Move.runOnList t.toList script := by
  induction script generalizing t with
  | nil => rfl
  | cons move rest ih =>
    obtain ⟨answer, left⟩ := t.step_eq_onList move
    rw [run, ih, answer, left, Move.runOnList]

/-! ## One value at a time -/

/-- An end of a traversal. -/
inductive Side where
  | front
  | back
deriving DecidableEq, Repr

/-- The move that takes one value from a side. -/
def Side.move : Side → Move
  | front => .next
  | back => .back

/-- Takes the value at a side, if one is left. -/
def take (t : Traversal α) : Side → Option α × Traversal α
  | .front => t.next
  | .back => t.back

/-- The values left, in the order in which a side gives them. -/
def listFrom (t : Traversal α) : Side → List α
  | .front => t.toList
  | .back => t.toList.reverse

theorem length_listFrom (t : Traversal α) (side : Side) : (t.listFrom side).length = t.size := by
  cases side with
  | front => exact t.length_toList
  | back => exact (List.length_reverse ..).trans t.length_toList

theorem fst_take (t : Traversal α) (side : Side) : (t.take side).1 = (t.listFrom side).head? := by
  cases side with
  | front => exact t.fst_next
  | back => rw [take, fst_back, listFrom, List.head?_reverse]

theorem listFrom_snd_take (t : Traversal α) (side : Side) :
    (t.take side).2.listFrom side = (t.listFrom side).tail := by
  cases side with
  | front => exact t.toList_snd_next
  | back => rw [take, listFrom, toList_snd_back, listFrom, List.tail_reverse]

/-- A value that is taken comes first from its side. -/
theorem listFrom_of_take {t rest : Traversal α} {side : Side} {value : α}
    (taken : t.take side = (some value, rest)) : t.listFrom side = value :: rest.listFrom side := by
  have first := t.fst_take side
  have later := t.listFrom_snd_take side
  rw [taken] at first later
  rw [later]
  exact (List.cons_head?_tail first.symm).symm

theorem listFrom_of_take_none {t rest : Traversal α} {side : Side}
    (taken : t.take side = (none, rest)) : t.listFrom side = [] ∧ rest.listFrom side = [] := by
  have first := t.fst_take side
  have later := t.listFrom_snd_take side
  rw [taken] at first later
  have nothing := List.head?_eq_none_iff.mp first.symm
  exact ⟨nothing, later.trans (congrArg List.tail nothing)⟩

theorem size_lt_of_take {t rest : Traversal α} {side : Side} {value : α}
    (taken : t.take side = (some value, rest)) : rest.size < t.size := by
  rw [← t.length_listFrom side, listFrom_of_take taken, List.length_cons, length_listFrom]
  exact Nat.lt_succ_self _

/-- Takes so many values from a side and forgets them. -/
def discard (side : Side) : Nat → Traversal α → Traversal α
  | 0, t => t
  | count + 1, t => discard side count (t.take side).2

theorem listFrom_discard (side : Side) (count : Nat) (t : Traversal α) :
    (discard side count t).listFrom side = (t.listFrom side).drop count := by
  induction count generalizing t with
  | zero => rfl
  | succ count ih => rw [discard, ih, listFrom_snd_take, List.drop_tail]

/-- Takes from a side until nothing comes. -/
def exhaust (side : Side) (t : Traversal α) : List α × Traversal α :=
  match _taken : t.take side with
  | (some value, rest) =>
    let later := exhaust side rest
    (value :: later.1, later.2)
  | (none, rest) => ([], rest)
termination_by t.size
decreasing_by exact size_lt_of_take _taken

theorem exhaust_eq (side : Side) (t : Traversal α) :
    (exhaust side t).1 = t.listFrom side ∧ (exhaust side t).2.listFrom side = [] := by
  fun_induction exhaust side t with
  | case1 t value rest taken later ih =>
    rw [listFrom_of_take taken]
    exact ⟨congrArg _ ih.1, ih.2⟩
  | case2 t rest taken =>
    obtain ⟨nothing, left⟩ := listFrom_of_take_none taken
    exact ⟨nothing.symm, left⟩

/-- Answers one move by taking single values only. -/
def stepSingly (t : Traversal α) : Move → Answer α × Traversal α
  | .next => (.value t.next.1, t.next.2)
  | .back => (.value t.back.1, t.back.2)
  | .nth skipped =>
    let taken := (discard .front skipped t).next
    (.value taken.1, taken.2)
  | .nthBack skipped =>
    let taken := (discard .back skipped t).back
    (.value taken.1, taken.2)
  | .size => (.size t.size, t)
  | .rest =>
    let taken := exhaust .front t
    (.values taken.1, taken.2)
  | .restBack =>
    let taken := exhaust .back t
    (.values taken.1, taken.2)

def runSingly (t : Traversal α) : List Move → List (Answer α)
  | [] => []
  | move :: script => (t.stepSingly move).1 :: (t.stepSingly move).2.runSingly script

theorem stepSingly_eq_onList (t : Traversal α) (move : Move) :
    (t.stepSingly move).1 = (move.onList t.toList).1 ∧
      (t.stepSingly move).2.toList = (move.onList t.toList).2 := by
  cases move with
  | next => exact t.step_eq_onList .next
  | back => exact t.step_eq_onList .back
  | nth skipped =>
    have passed : (discard .front skipped t).toList = t.toList.drop skipped :=
      listFrom_discard .front skipped t
    refine ⟨congrArg Answer.value ?_, ?_⟩
    · rw [fst_next, passed]
    · rw [stepSingly, toList_snd_next, passed, List.tail_drop]
      rfl
  | nthBack skipped =>
    have first := (discard .back skipped t).fst_take .back
    have later := (discard .back skipped t).listFrom_snd_take .back
    rw [listFrom_discard] at first later
    refine ⟨congrArg _ first, ?_⟩
    rw [List.tail_drop] at later
    exact List.reverse_eq_iff.mp later
  | size => exact t.step_eq_onList .size
  | rest =>
    obtain ⟨all, nothing⟩ := exhaust_eq .front t
    exact ⟨congrArg _ all, nothing⟩
  | restBack =>
    obtain ⟨all, nothing⟩ := exhaust_eq .back t
    exact ⟨congrArg _ all, List.reverse_eq_nil_iff.mp nothing⟩

theorem runSingly_eq_runOnList (t : Traversal α) (script : List Move) :
    t.runSingly script = Move.runOnList t.toList script := by
  induction script generalizing t with
  | nil => rfl
  | cons move rest ih =>
    obtain ⟨answer, left⟩ := t.stepSingly_eq_onList move
    rw [runSingly, ih, answer, left, Move.runOnList]

/-! ## Scripts -/

/-- What is left after a script. -/
def after (t : Traversal α) (script : List Move) : Traversal α :=
  script.foldl (fun t move => (t.step move).2) t

theorem after_append (first second : List Move) (t : Traversal α) :
    t.after (first ++ second) = (t.after first).after second := List.foldl_append

theorem length_run (t : Traversal α) (script : List Move) :
    (t.run script).length = script.length := by
  induction script generalizing t with
  | nil => rfl
  | cons move rest ih => rw [run, List.length_cons, List.length_cons, ih]

theorem run_append (first second : List Move) (t : Traversal α) :
    t.run (first ++ second) = t.run first ++ (t.after first).run second := by
  induction first generalizing t with
  | nil => rfl
  | cons move rest ih => exact congrArg ((t.step move).1 :: ·) (ih (t.step move).2)

/-! ## Every value once -/

/-- The values that the moves of a script have taken from a side, one by one, in the order of the
answers. -/
def takenFrom (side : Side) (script : List Move) (answers : List (Answer α)) : List α :=
  (script.zip answers).filterMap fun made =>
    if made.1 = side.move then made.2.value? else none

/-- The values taken from the front, those left, and those taken from the back, the last one
first. -/
def accounted (t : Traversal α) (script : List Move) : List α :=
  takenFrom .front script (t.run script) ++ (t.after script).toList ++
    (takenFrom .back script (t.run script)).reverse

theorem takenFrom_cons_move (side : Side) (script : List Move) (taken : Option α)
    (answers : List (Answer α)) :
    takenFrom side (side.move :: script) (.value taken :: answers) =
      taken.toList ++ takenFrom side script answers := by
  rw [takenFrom, List.zip_cons_cons, List.filterMap_cons, if_pos rfl]
  cases taken <;> rfl

theorem takenFrom_cons_of_ne {side : Side} {move : Move} (other : move ≠ side.move)
    (script : List Move) (answer : Answer α) (answers : List (Answer α)) :
    takenFrom side (move :: script) (answer :: answers) = takenFrom side script answers := by
  rw [takenFrom, List.zip_cons_cons, List.filterMap_cons, if_neg other]
  rfl

theorem accounted_next (t : Traversal α) (rest : List Move) :
    t.accounted (.next :: rest) = t.next.1.toList ++ t.next.2.accounted rest := by
  have front : takenFrom .front (.next :: rest) (t.run (.next :: rest)) =
      t.next.1.toList ++ takenFrom .front rest (t.next.2.run rest) :=
    takenFrom_cons_move .front ..
  have back : takenFrom .back (.next :: rest) (t.run (.next :: rest)) =
      takenFrom .back rest (t.next.2.run rest) := takenFrom_cons_of_ne (by decide) ..
  rw [accounted, front, back, List.append_assoc, List.append_assoc]
  exact congrArg _ (List.append_assoc ..).symm

theorem accounted_back (t : Traversal α) (rest : List Move) :
    t.accounted (.back :: rest) = t.back.2.accounted rest ++ t.back.1.toList := by
  have front : takenFrom .front (.back :: rest) (t.run (.back :: rest)) =
      takenFrom .front rest (t.back.2.run rest) := takenFrom_cons_of_ne (by decide) ..
  have back : takenFrom .back (.back :: rest) (t.run (.back :: rest)) =
      t.back.1.toList ++ takenFrom .back rest (t.back.2.run rest) := takenFrom_cons_move .back ..
  have single (taken : Option α) : taken.toList.reverse = taken.toList := by cases taken <;> rfl
  rw [accounted, front, back, List.reverse_append, single, ← List.append_assoc]
  rfl

/-- No value is met twice and none is passed over. -/
theorem accounted_eq (t : Traversal α) {script : List Move}
    (singly : ∀ move ∈ script, move = .next ∨ move = .back) : t.accounted script = t.toList := by
  induction script generalizing t with
  | nil => exact List.append_nil _
  | cons move rest ih =>
    obtain ⟨first, later⟩ := List.forall_mem_cons.mp singly
    rcases first with rfl | rfl
    · rw [accounted_next, ih _ later, fst_next, toList_snd_next]
      cases t.toList <;> rfl
    · rw [accounted_back, ih _ later, fst_back, toList_snd_back]
      rcases List.eq_nil_or_concat t.toList with none | ⟨init, last, shape⟩
      · rw [none]
        rfl
      · rw [shape, List.concat_eq_append, List.dropLast_concat, List.getLast?_concat]
        rfl

theorem toList_eq_nil_iff (t : Traversal α) : t.toList = [] ↔ t.size = 0 := by
  rw [← List.length_eq_zero_iff, length_toList]

/-- The answers behind a script are those of what is left after it. -/
theorem drop_run_append (t : Traversal α) (script later : List Move) :
    (t.run (script ++ later)).drop script.length = (t.after script).run later := by
  rw [run_append, ← t.length_run script, List.drop_left]

/-- A traversal is a window that shrinks. Passing over values is taking them one by one, and taking
the rest is taking until nothing comes. When values are taken one by one from both sides, those from
the front, those left and those from the back, the last one first, are all the values from the top
down, and the count is of those left. A move that finds nothing or takes all exhausts the traversal,
and then every later answer is bare. With its sides exchanged a script answers the same on the stack
collected from a traversal. -/
theorem scripts_read_one_window (s : Stack α) (script : List Move) :
    let t := s.traverse
    t.runSingly script = t.run script ∧
      ((∀ move ∈ script, move = .next ∨ move = .back) →
        let left := (t.after script).rest.1
        takenFrom .front script (t.run script) ++ left ++
            (takenFrom .back script (t.run script)).reverse = s.toList.reverse ∧
          ((t.after script).step .size).1 = .size left.length) ∧
      (∀ move, ((t.after script).step move).1.Bare ∨ move = .rest ∨ move = .restBack →
        (t.after (script ++ [move])).size = 0) ∧
      ((t.after script).size = 0 →
        ∀ later, ∀ answer ∈ (t.run (script ++ later)).drop script.length, answer.Bare) ∧
      (Stack.ofList t.toList).traverse.run (script.map Move.mirror) = t.run script := by
  intro t
  refine ⟨?_, ?_, ?_, ?_, ?_⟩
  · rw [runSingly_eq_runOnList, run_eq_runOnList]
  · intro singly left
    refine ⟨?_, congrArg Answer.size (length_toList _).symm⟩
    rw [← s.toList_traverse, ← t.accounted_eq singly]
    rfl
  · intro move last
    obtain ⟨answer, left⟩ := (t.after script).step_eq_onList move
    rw [answer] at last
    rw [← toList_eq_nil_iff, after_append]
    exact left.trans (Move.onList_eq_nil last)
  · intro nothing later answer member
    rw [drop_run_append, run_eq_runOnList, (toList_eq_nil_iff _).mpr nothing] at member
    exact Move.bare_of_mem_runOnList_nil member
  · rw [run_eq_runOnList, run_eq_runOnList, Stack.toList_traverse, Stack.toList_ofList,
      Move.runOnList_mirror]

/-- Takes from both sides until the values meet, and skips past the end. -/
theorem scripts_read_one_window_until_exhausted :
    let t := (Stack.ofList [1, 2, 3, 4, 5]).traverse
    let script : List Move := [.next, .back, .next]
    (∀ move ∈ script, move = .next ∨ move = .back) ∧
      takenFrom .front script (t.run script) = [5, 4] ∧
      takenFrom .back script (t.run script) = [1] ∧
      (t.after script).rest.1 = [3, 2] ∧
      [5, 4] ++ [3, 2] ++ [1].reverse = (Stack.ofList [1, 2, 3, 4, 5]).toList.reverse ∧
      (t.after (script ++ [.nthBack 18446744073709551615])).size = 0 ∧
      (∀ answer ∈
        (t.run (script ++ [.nthBack 18446744073709551615] ++ [.back, .size, .rest])).drop 4,
        answer.Bare) ∧
      (Stack.ofList t.toList).traverse.run (script.map Move.mirror) = t.run script := by
  intro t script
  have singly : ∀ move ∈ script, move = .next ∨ move = .back := by decide
  have none : ((t.after script).step (.nthBack 18446744073709551615)).1.Bare := .inl rfl
  obtain ⟨_, whole, exhausts, _, mirrored⟩ :=
    scripts_read_one_window (.ofList [1, 2, 3, 4, 5]) script
  have exhausted := exhausts _ (.inl none)
  obtain ⟨_, _, _, bare, _⟩ :=
    scripts_read_one_window (.ofList [1, 2, 3, 4, 5]) (script ++ [.nthBack 18446744073709551615])
  exact ⟨singly, rfl, rfl, rfl, (whole singly).1, exhausted, bare exhausted _, mirrored⟩

end Traversal

end OperandStack
