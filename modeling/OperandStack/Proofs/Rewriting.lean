import Mathlib.Logic.Relation

/-! # Rewriting inside a list

Rules say which list may be put in the place of which. They are used inside longer lists, any number
of times and, where it does not matter which of two lists is the better one, in either direction. If
the lists are instructions and no rule changes what they do, neither does any rewriting.
-/

universe u v

namespace OperandStack

variable {β : Type u} {rule : List β → List β → Prop}

/-- One use of a rule, with anything before and behind it. -/
inductive RewritesBy (rule : List β → List β → Prop) : List β → List β → Prop
  | inside (before behind : List β) {old new : List β} (allowed : rule old new) :
      RewritesBy rule (before ++ old ++ behind) (before ++ new ++ behind)

theorem RewritesBy.of_rule {old new : List β} (allowed : rule old new) :
    RewritesBy rule old new := by
  have step := RewritesBy.inside [] [] allowed
  rwa [List.nil_append, List.nil_append, List.append_nil, List.append_nil] at step

theorem RewritesBy.append_left {old new : List β} (step : RewritesBy rule old new)
    (before : List β) : RewritesBy rule (before ++ old) (before ++ new) := by
  obtain ⟨more, behind, allowed⟩ := step
  simp only [← List.append_assoc]
  exact .inside (before ++ more) behind allowed

theorem RewritesBy.append_right {old new : List β} (step : RewritesBy rule old new)
    (behind : List β) : RewritesBy rule (old ++ behind) (new ++ behind) := by
  obtain ⟨before, more, allowed⟩ := step
  rw [List.append_assoc, List.append_assoc (before ++ _)]
  exact .inside before (more ++ behind) allowed

/-- A list that is rewritten in steps. -/
abbrev Rewrites (rule : List β → List β → Prop) : List β → List β → Prop :=
  Relation.ReflTransGen (RewritesBy rule)

theorem Rewrites.append_left {old new : List β} (steps : Rewrites rule old new)
    (before : List β) : Rewrites rule (before ++ old) (before ++ new) :=
  steps.lift (before ++ ·) fun _ _ step => step.append_left before

theorem Rewrites.append_right {old new : List β} (steps : Rewrites rule old new)
    (behind : List β) : Rewrites rule (old ++ behind) (new ++ behind) :=
  steps.lift (· ++ behind) fun _ _ step => step.append_right behind

/-- Lists that lead to each other by rules used in either direction. -/
abbrev Interchangeable (rule : List β → List β → Prop) : List β → List β → Prop :=
  Relation.EqvGen (RewritesBy rule)

/-- Rewriting changes nothing that the rules do not change, whatever the instructions act on. -/
theorem Interchangeable.foldl_eq {γ : Type v} {act : γ → β → γ}
    (sound : ∀ old new, rule old new → ∀ state, old.foldl act state = new.foldl act state)
    {first second : List β} (related : Interchangeable rule first second) (state : γ) :
    first.foldl act state = second.foldl act state := by
  induction related with
  | rel _ _ step =>
    obtain ⟨before, behind, allowed⟩ := step
    simp only [List.foldl_append]
    rw [sound _ _ allowed]
  | refl => rfl
  | symm _ _ _ ih => exact ih.symm
  | trans _ _ _ _ _ left right => exact left.trans right

end OperandStack
