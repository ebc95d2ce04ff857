import Mathlib.Data.List.Basic

/-! # Reading back what was written

Values are written as lists of symbols, and more may follow. They are readable if the value and what
follows it can be told from the whole, as long as what follows is of a kind that may follow. A
sequence of readable values is readable in turn where its end shows, and so are values between
fixed symbols; this carries over from the values of a stack to the stack.
-/

universe u v w

namespace OperandStack.Text

variable {α : Type u} {β : Type v} {σ τ : Type w}

/-- Tells that valid values can be told, with what follows them, from what was written. -/
def Readable (valid : α → Prop) (follows : List σ → Prop) (write : α → List σ) : Prop :=
  ∀ ⦃a b : α⦄ ⦃u v : List σ⦄, valid a → valid b → follows u → follows v →
    write a ++ u = write b ++ v → a = b ∧ u = v

/-- Every value is valid. -/
def anyValue : α → Prop := fun _ => True

/-- Everything may follow. -/
def anything : List σ → Prop := fun _ => True

/-- Tells that no further symbol of a kind follows. -/
def Apart (inside : σ → Prop) (rest : List σ) : Prop := ∀ c ∈ rest.head?, ¬inside c

theorem apart_nil (inside : σ → Prop) : Apart inside [] := nofun

theorem apart_cons_iff (inside : σ → Prop) (c : σ) (rest : List σ) :
    Apart inside (c :: rest) ↔ ¬inside c := by
  simp [Apart]

/-- Tells that what follows a sequence of values may follow a value and does not start with one
more. -/
def Ends (valid : α → Prop) (follows : List σ → Prop) (write : α → List σ) (rest : List σ) : Prop :=
  follows rest ∧ ∀ a more, valid a → follows more → write a ++ more ≠ rest

variable {valid : α → Prop} {follows : List σ → Prop} {write : α → List σ}

/-- What is read back by a function is readable. -/
theorem Readable.of_read (read : List σ → Option (α × List σ))
    (reads : ∀ a rest, valid a → follows rest → read (write a ++ rest) = some (a, rest)) :
    Readable valid follows write := by
  intro a b u v validA validB before after same
  have first := reads a u validA before
  rw [same, reads b v validB after] at first
  exact ⟨(Prod.mk.inj (Option.some.inj first)).1.symm, (Prod.mk.inj (Option.some.inj first)).2.symm⟩

private theorem append_eq_append_of_apart {inside : σ → Prop} {xs ys u v : List σ}
    (insideX : ∀ c ∈ xs, inside c) (insideY : ∀ c ∈ ys, inside c)
    (before : Apart inside u) (after : Apart inside v) (same : xs ++ u = ys ++ v) :
    xs = ys ∧ u = v := by
  induction xs generalizing ys with
  | nil =>
    cases ys with
    | nil => exact ⟨rfl, same⟩
    | cons y ys =>
      obtain rfl : u = y :: (ys ++ v) := same
      exact absurd (insideY y List.mem_cons_self) ((apart_cons_iff inside y _).mp before)
  | cons x xs ih =>
    cases ys with
    | nil =>
      obtain rfl : x :: (xs ++ u) = v := same
      exact absurd (insideX x List.mem_cons_self) ((apart_cons_iff inside x _).mp after)
    | cons y ys =>
      obtain ⟨rfl, later⟩ := List.cons.inj same
      obtain ⟨rfl, rest⟩ := ih (fun c member => insideX c (List.mem_cons_of_mem _ member))
        (fun c member => insideY c (List.mem_cons_of_mem _ member)) later
      exact ⟨rfl, rest⟩

/-- Values in symbols of a kind end where another kind follows. -/
theorem Readable.of_inside {inside : σ → Prop}
    (within : ∀ a, valid a → ∀ c ∈ write a, inside c)
    (apart : ∀ a b, valid a → valid b → write a = write b → a = b) :
    Readable valid (Apart inside) write := by
  intro a b u v validA validB before after same
  obtain ⟨text, rest⟩ :=
    append_eq_append_of_apart (within a validA) (within b validB) before after same
  exact ⟨apart a b validA validB text, rest⟩

namespace Readable

theorem eq_of_eq (readable : Readable valid follows write) (nothing : follows []) {a b : α}
    (validA : valid a) (validB : valid b) (same : write a = write b) : a = b :=
  (readable validA validB nothing nothing (congrArg (· ++ []) same)).1

theorem weaken (readable : Readable valid follows write) {fewer : List σ → Prop}
    (allowed : ∀ rest, fewer rest → follows rest) : Readable valid fewer write :=
  fun _ _ _ _ validA validB before after =>
    readable validA validB (allowed _ before) (allowed _ after)

theorem comp (readable : Readable valid follows write) {part : β → α}
    (whole : Function.Injective part) :
    Readable (fun b => valid (part b)) follows fun b => write (part b) := by
  intro a b u v validA validB before after same
  obtain ⟨parts, rest⟩ := readable validA validB before after same
  exact ⟨whole parts, rest⟩

theorem prepend (readable : Readable valid follows write) (opening : List σ) :
    Readable valid follows fun a => opening ++ write a := by
  intro a b u v validA validB before after same
  rw [List.append_assoc, List.append_assoc] at same
  exact readable validA validB before after (List.append_cancel_left same)

theorem append (readable : Readable valid follows write) {after : List σ → Prop}
    (closing : List σ) (closes : ∀ rest, after rest → follows (closing ++ rest)) :
    Readable valid after fun a => write a ++ closing := by
  intro a b u v validA validB beyond further same
  rw [List.append_assoc, List.append_assoc] at same
  obtain ⟨value, rest⟩ := readable validA validB (closes u beyond) (closes v further) same
  exact ⟨value, List.append_cancel_left rest⟩

/-- Two values, one behind the other, are readable if the second may follow the first. -/
theorem pair (first : Readable valid follows write) {validNext : β → Prop}
    {after : List σ → Prop} {writeNext : β → List σ} (second : Readable validNext after writeNext)
    (continues : ∀ b rest, validNext b → after rest → follows (writeNext b ++ rest)) :
    Readable (fun both : α × β => valid both.1 ∧ validNext both.2) after
      fun both => write both.1 ++ writeNext both.2 := by
  rintro ⟨a, b⟩ ⟨a', b'⟩ u v ⟨validA, validB⟩ ⟨validA', validB'⟩ beyond further same
  dsimp only at same
  rw [List.append_assoc, List.append_assoc] at same
  obtain ⟨rfl, later⟩ := first validA validA' (continues b u validB beyond)
    (continues b' v validB' further) same
  obtain ⟨rfl, rest⟩ := second validB validB' beyond further later
  exact ⟨rfl, rest⟩

/-- A sequence of readable values is readable where its end shows. -/
theorem flatMap (readable : Readable valid follows write)
    (continues : ∀ a rest, valid a → follows (write a ++ rest)) :
    Readable (fun values => ∀ a ∈ values, valid a) (Ends valid follows write)
      fun values : List α => values.flatMap write := by
  have follows_flatMap {values : List α} {rest : List σ} (all : ∀ a ∈ values, valid a)
      (ends : follows rest) : follows (values.flatMap write ++ rest) := by
    cases values with
    | nil => exact ends
    | cons a more =>
      rw [List.flatMap_cons, List.append_assoc]
      exact continues a _ (all a List.mem_cons_self)
  intro xs ys u v validX validY before after same
  dsimp only at same
  induction xs generalizing ys with
  | nil =>
    cases ys with
    | nil => exact ⟨rfl, same⟩
    | cons y ys =>
      obtain ⟨validHead, validTail⟩ := List.forall_mem_cons.mp validY
      rw [List.flatMap_cons, List.append_assoc] at same
      exact absurd same.symm (before.2 y _ validHead (follows_flatMap validTail after.1))
  | cons x xs ih =>
    obtain ⟨validHead, validTail⟩ := List.forall_mem_cons.mp validX
    rw [List.flatMap_cons, List.append_assoc] at same
    cases ys with
    | nil => exact absurd same (after.2 x _ validHead (follows_flatMap validTail before.1))
    | cons y ys =>
      obtain ⟨validFirst, validRest⟩ := List.forall_mem_cons.mp validY
      rw [List.flatMap_cons, List.append_assoc] at same
      obtain ⟨rfl, later⟩ := readable validHead validFirst (follows_flatMap validTail before.1)
        (follows_flatMap validRest after.1) same
      obtain ⟨rfl, rest⟩ := ih validTail validRest later
      exact ⟨rfl, rest⟩

/-- Values that are readable whatever follows stay so when every symbol is rewritten. -/
theorem map (readable : Readable valid anything write) {rewrite : σ → τ}
    (faithful : Function.Injective rewrite) :
    Readable valid anything fun a => (write a).map rewrite := by
  have cut {a b : α} {rest : List τ} (validA : valid a) (validB : valid b)
      (longer : (write b).map rewrite = (write a).map rewrite ++ rest) : a = b ∧ rest = [] := by
    obtain ⟨front, back, split, fronts, rfl⟩ := List.map_eq_append_iff.mp longer
    obtain rfl := faithful.list_map fronts
    obtain ⟨value, nothing⟩ := readable (u := back) (v := []) validA validB trivial trivial
      (split.symm.trans (List.append_nil _).symm)
    exact ⟨value, congrArg (List.map rewrite) nothing⟩
  intro a b u v validA validB _ _ same
  rcases List.append_eq_append_iff.mp same with ⟨rest, longer, left⟩ | ⟨rest, longer, left⟩
  · obtain ⟨value, rfl⟩ := cut validA validB longer
    exact ⟨value, left⟩
  · obtain ⟨value, rfl⟩ := cut validB validA longer
    exact ⟨value.symm, left.symm⟩

end Readable

/-! ## Separators -/

theorem intercalate_cons_eq (separator first : List σ) (more : List (List σ)) :
    separator.intercalate (first :: more) = first ++ more.flatMap (separator ++ ·) := by
  induction more generalizing first with
  | nil => rw [List.intercalate_singleton, List.flatMap_nil, List.append_nil]
  | cons second more ih =>
    rw [List.intercalate_cons_cons, ih, List.flatMap_cons, List.append_assoc, List.append_assoc]

/-- A sequence of values with separators between them is readable where no separator follows and no
value starts. -/
theorem Readable.separated (readable : Readable valid follows write) (separator : List σ)
    (continues : ∀ rest, follows (separator ++ rest)) :
    Readable (fun values => ∀ a ∈ values, valid a)
      (fun rest => follows rest ∧ ¬separator <+: rest ∧
        ∀ a more, valid a → write a ++ more ≠ rest)
      fun values : List α => separator.intercalate (values.map write) := by
  -- With a separator in front as well, the values are pieces that all look alike.
  have pieces : Readable (fun values => ∀ a ∈ values, valid a)
      (fun rest => follows rest ∧ ¬separator <+: rest)
      fun values : List α => values.flatMap fun a => separator ++ write a := by
    refine ((readable.prepend separator).flatMap ?_).weaken ?_
    · intro a rest _
      rw [List.append_assoc]
      exact continues _
    · intro rest ends
      refine ⟨ends.1, fun a more _ _ same => ends.2 ⟨write a ++ more, ?_⟩⟩
      rw [← List.append_assoc, same]
  have shape (a : α) (values : List α) (rest : List σ) :
      separator.intercalate ((a :: values).map write) ++ rest =
        write a ++ ((values.flatMap fun a => separator ++ write a) ++ rest) := by
    rw [List.map_cons, intercalate_cons_eq, List.append_assoc, List.flatMap_map]
  intro xs ys u v validX validY before after same
  cases xs with
  | nil =>
    cases ys with
    | nil => exact ⟨rfl, same⟩
    | cons y ys =>
      exact absurd ((shape y ys v).symm.trans same.symm)
        (before.2.2 y _ (validY y List.mem_cons_self))
  | cons x xs =>
    cases ys with
    | nil =>
      exact absurd ((shape x xs u).symm.trans same) (after.2.2 x _ (validX x List.mem_cons_self))
    | cons y ys =>
      have whole := congrArg (separator ++ ·)
        ((shape x xs u).symm.trans (same.trans (shape y ys v)))
      simp only [← List.append_assoc] at whole
      exact pieces validX validY ⟨before.1, before.2.1⟩ ⟨after.1, after.2.1⟩ whole

end OperandStack.Text
