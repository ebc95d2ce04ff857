import OperandStack.Proofs.Application
import OperandStack.Proofs.Rewriting
import Mathlib.Data.Fin.VecNotation
import Mathlib.Data.List.Permutation
import Mathlib.Data.Fintype.Basic

/-! # Turning the top three values

`swap` and `rshift` only move the top three values about. A word in the two of them does what its
normal form does, which is a swap or none followed by fewer than three turns to the right; three
rules lead from the word to it. On three different values the six normal forms give the six orders,
so a single stack tells words apart that have different normal forms.
-/

universe u

namespace OperandStack

variable {α : Type u}

/-- An operation that moves the values at the top and keeps all of them. -/
inductive Turn where
  | swap
  | rshift
deriving DecidableEq, Repr

/-- What may be put in the place of a few turns. -/
inductive TurnRule : List Turn → List Turn → Prop
  | swap_swap : TurnRule [.swap, .swap] []
  | rshift_rshift_rshift : TurnRule [.rshift, .rshift, .rshift] []
  | rshift_swap : TurnRule [.rshift, .swap] [.swap, .rshift, .rshift]

namespace Turn

def op : Turn → Op
  | swap => .swap
  | rshift => .rshift

/-! ## Normal forms -/

/-- Perhaps a swap, and then fewer than three turns to the right. -/
structure Form where
  swapped : Bool
  shifts : Fin 3
deriving DecidableEq

namespace Form

def word (form : Form) : List Turn :=
  List.replicate form.swapped.toNat .swap ++ List.replicate form.shifts .rshift

/-- The form of a word with one more letter. A swap goes in front of the turns, which it turns
round. -/
def after (form : Form) : Turn → Form
  | swap => ⟨!form.swapped, -form.shifts⟩
  | rshift => ⟨form.swapped, form.shifts + 1⟩

end Form

def form (word : List Turn) : Form := word.foldl Form.after ⟨false, 0⟩

def normalForm (word : List Turn) : List Turn := (form word).word

/-- Every word in normal form. -/
def normalForms : List (List Turn) :=
  [[], [.swap], [.rshift], [.rshift, .rshift], [.swap, .rshift], [.swap, .rshift, .rshift]]

theorem Form.word_mem_normalForms (form : Form) : form.word ∈ normalForms := by
  obtain ⟨swapped, shifts⟩ := form
  revert swapped shifts
  decide

theorem normalForm_of_mem {word : List Turn} (normal : word ∈ normalForms) :
    normalForm word = word := by
  revert word
  decide

private theorem rewrites_swap (swapped : Bool) :
    Rewrites TurnRule (List.replicate swapped.toNat .swap ++ [.swap])
      (List.replicate (!swapped).toNat .swap) := by
  cases swapped with
  | false => exact .refl
  | true => exact .single (.of_rule .swap_swap)

private theorem rewrites_past_rshift (shifts : Fin 3) :
    Rewrites TurnRule (List.replicate shifts .rshift ++ [.swap])
      (.swap :: List.replicate (-shifts : Fin 3) .rshift) := by
  match shifts with
  | 0 => exact .refl
  | 1 => exact .single (.of_rule .rshift_swap)
  | 2 =>
    have pass : RewritesBy TurnRule [.rshift, .swap] [.swap, .rshift, .rshift] :=
      .of_rule .rshift_swap
    have cycle : RewritesBy TurnRule [.rshift, .rshift, .rshift] [] :=
      .of_rule .rshift_rshift_rshift
    exact .head (pass.append_left [.rshift]) <| .head (pass.append_right [.rshift, .rshift]) <|
      .single ((cycle.append_right [.rshift]).append_left [.swap])

private theorem rewrites_rshift (shifts : Fin 3) :
    Rewrites TurnRule (List.replicate shifts .rshift ++ [.rshift])
      (List.replicate (shifts + 1 : Fin 3) .rshift) := by
  match shifts with
  | 0 | 1 => exact .refl
  | 2 => exact .single (.of_rule .rshift_rshift_rshift)

/-- A letter behind a normal form is taken into it by the rules. -/
theorem Form.rewrites_after (form : Form) (turn : Turn) :
    Rewrites TurnRule (form.word ++ [turn]) (form.after turn).word := by
  obtain ⟨swapped, shifts⟩ := form
  cases turn with
  | swap =>
    have past := (rewrites_past_rshift shifts).append_left (List.replicate swapped.toNat .swap)
    have front := (rewrites_swap swapped).append_right (List.replicate (-shifts : Fin 3) .rshift)
    rw [word, List.append_assoc]
    rw [List.append_assoc] at front
    exact past.trans front
  | rshift =>
    rw [word, List.append_assoc]
    exact (rewrites_rshift shifts).append_left _

theorem rewrites_normalForm (word : List Turn) : Rewrites TurnRule word (normalForm word) := by
  induction word using List.reverseRecOn with
  | nil => exact .refl
  | append_singleton word turn ih =>
    rw [normalForm, form, List.foldl_append]
    exact (ih.append_right [turn]).trans (Form.rewrites_after _ _)

/-! ## What a word does -/

/-- The stack after a turn. -/
def act (s : Stack α) (turn : Turn) : Stack α := turn.op.act s

theorem act_of_size_lt_two {s : Stack α} (shallow : s.size < 2) (turn : Turn) : act s turn = s := by
  have least : 2 ≤ turn.op.requiredDepth := by
    cases turn <;> decide
  exact Op.act_of_lt (Nat.lt_of_lt_of_le shallow least)

theorem act_swap_two (a b : α) : act (.ofList [a, b]) swap = .ofList [b, a] :=
  congrArg Outcome.stack (Stack.swap_concat [] a b)

theorem act_rshift_two (a b : α) : act (.ofList [a, b]) rshift = .ofList [a, b] :=
  have shallow : (Stack.ofList [a, b]).size < 3 := Nat.lt_succ_self 2
  Op.act_of_lt shallow

theorem act_swap_three (below : List α) (a b c : α) :
    act (.ofList (below ++ [a, b, c])) swap = .ofList (below ++ [a, c, b]) := by
  have swapped := Stack.swap_concat (below ++ [a]) b c
  rw [List.append_assoc, List.append_assoc] at swapped
  exact congrArg Outcome.stack swapped

theorem act_rshift_three (below : List α) (a b c : α) :
    act (.ofList (below ++ [a, b, c])) rshift = .ofList (below ++ [c, a, b]) :=
  congrArg Outcome.stack (Stack.rshift_concat below a b c)

/-- A stack is too shallow to turn, holds two values, or has three values at the top. -/
theorem top_cases (s : Stack α) :
    s.size < 2 ∨ (∃ a b, s = .ofList [a, b]) ∨
      ∃ below a b c, s = .ofList (below ++ [a, b, c]) := by
  rcases Nat.lt_or_ge s.size 3 with shallow | enough
  · rcases Nat.lt_or_ge s.size 2 with less | two
    · exact .inl less
    · have length : s.toList.length = 2 := by
        rw [Stack.length_toList]
        omega
      obtain ⟨a, b, shape⟩ := List.length_eq_two.mp length
      exact .inr (.inl ⟨a, b, Stack.toList_injective shape⟩)
  · obtain ⟨below, above, length, rfl⟩ := Stack.exists_eq_ofList_append enough
    obtain ⟨a, b, c, rfl⟩ := List.length_eq_three.mp length
    exact .inr (.inr ⟨below, a, b, c, rfl⟩)

/-- The rules change nothing, at any depth. -/
theorem foldl_act_of_rule {old new : List Turn} (allowed : TurnRule old new) (s : Stack α) :
    old.foldl act s = new.foldl act s := by
  rcases top_cases s with shallow | ⟨a, b, rfl⟩ | ⟨below, a, b, c, rfl⟩
  · cases allowed <;> simp only [List.foldl_cons, List.foldl_nil, act_of_size_lt_two shallow]
  · cases allowed <;> simp only [List.foldl_cons, List.foldl_nil, act_swap_two, act_rshift_two]
  · cases allowed <;> simp only [List.foldl_cons, List.foldl_nil, act_swap_three, act_rshift_three]

theorem foldl_act_of_interchangeable {first second : List Turn}
    (related : Interchangeable TurnRule first second) (s : Stack α) :
    first.foldl act s = second.foldl act s :=
  Interchangeable.foldl_eq (fun _ _ allowed => foldl_act_of_rule allowed) related s

theorem interchangeable_normalForm (word : List Turn) :
    Interchangeable TurnRule word (normalForm word) :=
  Relation.EqvGen.reflTransGen_le_eqvGen _ _ _ (rewrites_normalForm word)

theorem foldl_act_normalForm (word : List Turn) (s : Stack α) :
    (normalForm word).foldl act s = word.foldl act s :=
  (foldl_act_of_interchangeable (interchangeable_normalForm word) s).symm

/-! ## Orders of the top three -/

/-- The places from which the top three values come, from the lowest of them to the top. -/
def Form.order : Form → List (Fin 3)
  | ⟨false, 0⟩ => [0, 1, 2]
  | ⟨false, 1⟩ => [2, 0, 1]
  | ⟨false, 2⟩ => [1, 2, 0]
  | ⟨true, 0⟩ => [0, 2, 1]
  | ⟨true, 1⟩ => [1, 0, 2]
  | ⟨true, 2⟩ => [2, 1, 0]

theorem Form.order_injective : Function.Injective Form.order := by
  rintro ⟨swapped, shifts⟩ ⟨other, turns⟩
  revert swapped shifts other turns
  decide

/-- Every order of three places is that of a form. -/
theorem Form.exists_order {order : List (Fin 3)} (places : order.Perm [0, 1, 2]) :
    ∃ form : Form, form.order = order := by
  have found : ∀ order ∈ List.permutations' [0, 1, 2],
      ∃ swapped shifts, (Form.mk swapped shifts).order = order := by decide
  obtain ⟨swapped, shifts, same⟩ := found order (List.mem_permutations'.mpr places)
  exact ⟨⟨swapped, shifts⟩, same⟩

/-- Three values in another order are the values at their places in another order. -/
theorem exists_map_get_of_perm {top : List α} {a b c : α} (perm : top.Perm [a, b, c]) :
    ∃ order : List (Fin 3), order.Perm [0, 1, 2] ∧ top = order.map [a, b, c].get := by
  have places : (Relation.Comp (fun top order => top = List.map [a, b, c].get order) List.Perm) top
      [0, 1, 2] := by
    rw [List.eq_map_comp_perm]
    exact perm
  obtain ⟨order, same, permuted⟩ := places
  exact ⟨order, permuted, same⟩

theorem Form.foldl_act_word (form : Form) (below : List α) (a b c : α) :
    form.word.foldl act (.ofList (below ++ [a, b, c])) =
      .ofList (below ++ form.order.map [a, b, c].get) := by
  have shift := act_rshift_three below
  have swap := act_swap_three below
  match form with
  | ⟨false, 0⟩ => rfl
  | ⟨false, 1⟩ => exact shift a b c
  | ⟨false, 2⟩ => exact (congrArg (act · rshift) (shift a b c)).trans (shift c a b)
  | ⟨true, 0⟩ => exact swap a b c
  | ⟨true, 1⟩ => exact (congrArg (act · rshift) (swap a b c)).trans (shift a c b)
  | ⟨true, 2⟩ =>
    have turned := (congrArg (act · rshift) (swap a b c)).trans (shift a c b)
    exact (congrArg (act · rshift) turned).trans (shift b a c)

theorem foldl_act_three (word : List Turn) (below : List α) (a b c : α) :
    word.foldl act (.ofList (below ++ [a, b, c])) =
      .ofList (below ++ (form word).order.map [a, b, c].get) := by
  rw [← foldl_act_normalForm, normalForm, Form.foldl_act_word]

/-- On three different values words do the same only if they have the same normal form. -/
theorem normalForm_eq_of_foldl_act {first second : List Turn} {a b c : α}
    (different : [a, b, c].Nodup) {below : List α}
    (same : first.foldl act (.ofList (below ++ [a, b, c])) =
      second.foldl act (.ofList (below ++ [a, b, c]))) :
    normalForm first = normalForm second := by
  rw [foldl_act_three, foldl_act_three] at same
  have tops := List.append_cancel_left (congrArg Stack.toList same)
  have orders := List.map_injective_iff.mpr (List.nodup_iff_injective_get.mp different) tops
  rw [normalForm, normalForm, Form.order_injective orders]

/-- The one normal form that the rules lead to. -/
theorem eq_normalForm_of_interchangeable {word other : List Turn} (normal : other ∈ normalForms)
    (related : Interchangeable TurnRule word other) : other = normalForm word := by
  have different : [0, 1, 2].Nodup := by decide
  have same := foldl_act_of_interchangeable related (.ofList ([] ++ [0, 1, 2]))
  rw [normalForm_eq_of_foldl_act different same, normalForm_of_mem normal]

/-! ## What a turn leaves alone -/

/-- Tells that only the top three values have changed places, or all of them if there are fewer. -/
structure Rearranged (s t : Stack α) : Prop where
  size_eq : t.size = s.size
  below_eq : t.toList.take (s.size - 3) = s.toList.take (s.size - 3)
  top_perm : (t.toList.drop (s.size - 3)).Perm (s.toList.drop (s.size - 3))

theorem Rearranged.refl (s : Stack α) : Rearranged s s := ⟨rfl, rfl, .refl _⟩

theorem Rearranged.trans {s t u : Stack α} (first : Rearranged s t) (second : Rearranged t u) :
    Rearranged s u := by
  obtain ⟨size, below, top⟩ := second
  rw [first.size_eq] at size below top
  exact ⟨size, below.trans first.below_eq, top.trans first.top_perm⟩

theorem Rearranged.of_perm {below old new : List α}
    (top : below.length + old.length - 3 = below.length) (perm : new.Perm old) :
    Rearranged (.ofList (below ++ old)) (.ofList (below ++ new)) := by
  have cut : (Stack.ofList (below ++ old)).size - 3 = below.length := by
    rw [Stack.size_ofList, List.length_append, top]
  refine ⟨?_, ?_, ?_⟩
  · simp only [Stack.size_ofList, List.length_append, perm.length_eq]
  · rw [cut, Stack.toList_ofList, Stack.toList_ofList, List.take_left, List.take_left]
  · rw [cut, Stack.toList_ofList, Stack.toList_ofList, List.drop_left, List.drop_left]
    exact perm

theorem rearranged_act (s : Stack α) (turn : Turn) : Rearranged s (act s turn) := by
  rcases top_cases s with shallow | ⟨a, b, rfl⟩ | ⟨below, a, b, c, rfl⟩
  · rw [act_of_size_lt_two shallow]
    exact .refl s
  · cases turn with
    | swap =>
      rw [act_swap_two]
      exact @Rearranged.of_perm _ [] _ _ rfl (.swap a b [])
    | rshift =>
      rw [act_rshift_two]
      exact .refl _
  · cases turn with
    | swap =>
      rw [act_swap_three]
      exact .of_perm (Nat.add_sub_cancel ..) (.cons a (.swap b c []))
    | rshift =>
      rw [act_rshift_three]
      exact .of_perm (Nat.add_sub_cancel ..) (List.perm_append_comm : ([c] ++ [a, b]).Perm _)

theorem rearranged_foldl_act (word : List Turn) (s : Stack α) :
    Rearranged s (word.foldl act s) := by
  induction word generalizing s with
  | nil => exact .refl s
  | cons turn rest ih => exact (rearranged_act s turn).trans (ih (act s turn))

/-! ## Programs -/

/-- Tells that the calls of a program carry out a word, each letter directly or by application. -/
def Spelled (word : List Turn) (program : Program α) : Prop :=
  program.map Call.rearrangement? = word.map fun turn => some turn.op

theorem final_of_spelled {word : List Turn} {program : Program α} (spelled : Spelled word program)
    (s : Stack α) : program.final s = word.foldl act s := by
  have carried : Op.CarriedOut (word.map op) program := spelled.trans List.map_map.symm
  rw [carried.final_eq, List.foldl_map]
  rfl

theorem final_eq_of_normalForm_eq {first second : List Turn} {program other : Program α}
    (spelled : Spelled first program) (spelledOther : Spelled second other)
    (same : normalForm first = normalForm second) (s : Stack α) :
    program.final s = other.final s := by
  rw [final_of_spelled spelled, final_of_spelled spelledOther, ← foldl_act_normalForm first, same,
    foldl_act_normalForm]

/-- Words in the two turns act as the permutations of three values. The rules lead from a word to
one of six normal forms, and to no other of them, and a program that carries out the word leaves the
same stack as one that carries out the normal form, at any depth; it moves the top three values
only. Where three values differ, two words leave the same stacks if and only if they have the same
normal form, any single stack with such values on top tells them apart otherwise, and every order of
the three values is that of a normal form. -/
theorem words_act_as_normal_forms :
    (∀ word : List Turn,
      normalForm word ∈ normalForms ∧ Rewrites TurnRule word (normalForm word) ∧
      (∀ other ∈ normalForms, Interchangeable TurnRule word other → other = normalForm word) ∧
      ∀ program short : Program α, Spelled word program → Spelled (normalForm word) short →
        ∀ s, program.final s = short.final s ∧ Rearranged s (program.final s)) ∧
    ∀ a b c : α, [a, b, c].Nodup →
      (∀ (first second : List Turn) (program other : Program α),
        Spelled first program → Spelled second other →
        ((∀ s, program.final s = other.final s) ↔ normalForm first = normalForm second) ∧
        ∀ below, program.final (.ofList (below ++ [a, b, c])) =
            other.final (.ofList (below ++ [a, b, c])) ↔ normalForm first = normalForm second) ∧
      ∀ below top, top.Perm [a, b, c] → ∃ word ∈ normalForms, ∀ program, Spelled word program →
        program.final (.ofList (below ++ [a, b, c])) = .ofList (below ++ top) := by
  refine ⟨fun word => ⟨Form.word_mem_normalForms _, rewrites_normalForm word, ?_, ?_⟩, ?_⟩
  · exact fun other normal related => eq_normalForm_of_interchangeable normal related
  · intro program short spelled spelledShort s
    rw [final_of_spelled spelled, final_of_spelled spelledShort, foldl_act_normalForm]
    exact ⟨rfl, rearranged_foldl_act word s⟩
  · intro a b c different
    refine ⟨?_, ?_⟩
    · intro first second program other spelled spelledOther
      have agree := final_eq_of_normalForm_eq spelled spelledOther
      have tell (below : List α) (same : program.final (.ofList (below ++ [a, b, c])) =
          other.final (.ofList (below ++ [a, b, c]))) : normalForm first = normalForm second := by
        rw [final_of_spelled spelled, final_of_spelled spelledOther] at same
        exact normalForm_eq_of_foldl_act different same
      refine ⟨⟨fun same => tell [] (same _), agree⟩, fun below => ?_⟩
      exact ⟨tell below, fun same => agree same _⟩
    · intro below top perm
      obtain ⟨order, places, rfl⟩ := exists_map_get_of_perm perm
      obtain ⟨form, rfl⟩ := Form.exists_order places
      refine ⟨form.word, form.word_mem_normalForms, fun program spelled => ?_⟩
      rw [final_of_spelled spelled, Form.foldl_act_word]

/-- A word of both calls and applications on a stack of four values and on one of two. -/
theorem words_act_as_normal_forms_for_mixed_calls :
    let word : List Turn := [.rshift, .swap, .rshift, .rshift, .swap, .swap]
    let program : Program Char :=
      [.rshift, .apply .swap, .apply .rshift, .rshift, .swap, .apply .swap]
    let short : Program Char := [.swap, .rshift]
    ['a', 'b', 'c'].Nodup ∧ Spelled word program ∧ Spelled (normalForm word) short ∧
      program.final (.ofList ['x', 'a', 'b', 'c']) = short.final (.ofList ['x', 'a', 'b', 'c']) ∧
      program.final (.ofList ['a', 'b']) = short.final (.ofList ['a', 'b']) ∧
      program.final (.ofList ['x', 'a', 'b', 'c']) ≠
        Program.final [.rshift] (.ofList ['x', 'a', 'b', 'c']) := by
  intro word program short
  have different : ['a', 'b', 'c'].Nodup := by decide
  have spelled : Spelled word program := rfl
  have spelledShort : Spelled (normalForm word) short := rfl
  obtain ⟨words, three⟩ := words_act_as_normal_forms (α := Char)
  obtain ⟨_, _, _, acts⟩ := words word
  obtain ⟨tell, _⟩ := three 'a' 'b' 'c' different
  obtain ⟨_, single⟩ := tell word [.rshift] program [.rshift] spelled rfl
  refine ⟨different, spelled, spelledShort, (acts program short spelled spelledShort _).1,
    (acts program short spelled spelledShort _).1, ?_⟩
  exact mt (single ['x']).mp (by decide)

end Turn

end OperandStack
