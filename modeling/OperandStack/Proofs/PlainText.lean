import OperandStack.Decimal.Basic
import OperandStack.Proofs.UniqueReading
import OperandStack.Stack.Lemmas
import OperandStack.Stack.Text
import Mathlib.Tactic.SplitIfs

/-! # Stacks told apart by their plain text

Plain text is not quoted, so it can be read back only where a value cannot hold what stands between
values. A character is one symbol and may be a space itself; an integer and a string without spaces
end at the next space; a stack of characters ends where a character would have to be followed by
something else than a space, which only the name of the next stack is. Stacks of such values are
told apart by their text. Whatever the values, the text of a stack on top of another one continues
the text of the other.
-/

universe u

namespace OperandStack

open Text

variable {α : Type u}

/-! ## Integers -/

theorem Plain.toList_int64 (number : Int64) :
    (Plain.text number).toList =
      if 0 ≤ number.toInt then Nat.toDigits 10 number.toInt.toNat
      else '-' :: Nat.toDigits 10 (-number.toInt).toNat := by
  change (Int.repr number.toInt).toList = _
  rw [Int.repr_eq_if]
  split
  · exact Nat.toList_repr
  · rw [String.toList_append, Nat.toList_repr]
    rfl

theorem Plain.eq_or_isDigit_of_mem_int64 {number : Int64} {c : Char}
    (member : c ∈ (Plain.text number).toList) : c = '-' ∨ c.isDigit = true := by
  rw [Plain.toList_int64] at member
  split at member
  · exact .inr (Decimal.isDigit_of_mem_toDigits member)
  · exact (List.mem_cons.mp member).imp_right Decimal.isDigit_of_mem_toDigits

theorem Plain.ne_of_mem_int64 {number : Int64} {c other : Char}
    (member : c ∈ (Plain.text number).toList) (sign : other ≠ '-')
    (digit : other.isDigit = false) : c ≠ other := by
  rintro rfl
  rcases Plain.eq_or_isDigit_of_mem_int64 member with minus | inside
  · exact sign minus
  · exact Bool.false_ne_true (digit.symm.trans inside)

/-- Digits start with no sign. -/
theorem toDigits_ne_minus (size : Nat) (rest : List Char) : Nat.toDigits 10 size ≠ '-' :: rest := by
  intro same
  have minus : '-' ∈ Nat.toDigits 10 size := same ▸ List.mem_cons_self
  exact absurd (Decimal.isDigit_of_mem_toDigits minus) (by decide)

theorem Plain.int64_injective {first second : Int64}
    (same : (Plain.text first).toList = (Plain.text second).toList) : first = second := by
  have digits : Function.Injective (Nat.toDigits 10) :=
    Function.LeftInverse.injective fun _ => Nat.ofDigitChars_ten_toDigits
  rw [Plain.toList_int64, Plain.toList_int64] at same
  apply Int64.toInt_inj.mp
  split_ifs at same with positive other other
  · have size := digits same
    omega
  · exact absurd same (toDigits_ne_minus _ _)
  · exact absurd same.symm (toDigits_ne_minus _ _)
  · have size := digits (List.cons.inj same).2
    omega

theorem Plain.int64_ne_nil (number : Int64) : (Plain.text number).toList ≠ [] := by
  rw [Plain.toList_int64]
  split
  · exact Nat.toDigits_ne_nil
  · exact List.cons_ne_nil _ _

/-! ## Values before a space -/

theorem readable_char :
    Readable anyValue (Apart (· ≠ ' ')) fun c : Char => (Plain.text c).toList := by
  intro a b u v _ _ _ _ same
  have text (c : Char) : (Plain.text c).toList = [c] := String.toList_singleton c
  simp only [text] at same
  exact List.cons.inj same

theorem readable_int64 :
    Readable anyValue (Apart (· ≠ ' ')) fun number : Int64 => (Plain.text number).toList :=
  .of_inside (fun _ _ _ member => Plain.ne_of_mem_int64 member (by decide) rfl)
    fun _ _ _ _ => Plain.int64_injective

theorem readable_string :
    Readable (fun s : String => ' ' ∉ s.toList) (Apart (· ≠ ' ')) fun s => (Plain.text s).toList :=
  .of_inside (fun _ spaceless _ member => ne_of_mem_of_not_mem member spaceless)
    fun _ _ _ _ => String.toList_injective

/-! ## Stacks -/

/-- A value as it stands in the text of a stack. -/
def Plain.spaced [Plain α] (a : α) : List Char := ' ' :: (Plain.text a).toList

theorem toList_plainText [Plain α] (s : Stack α) :
    (Plain.text s).toList = "stack:".toList ++ s.toList.flatMap Plain.spaced := by
  have text : Plain.text s = "stack:" ++ String.join (s.toList.map fun a => " " ++ Plain.text a) :=
    rfl
  rw [text, String.toList_append, String.toList_join, List.flatMap_map]
  simp only [String.toList_append]
  rfl

theorem apart_spaced [Plain α] (a : α) (rest : List Char) :
    Apart (· ≠ ' ') (Plain.spaced a ++ rest) :=
  (apart_cons_iff _ _ _).mpr (not_not_intro rfl)

section

variable [Plain α] {valid : α → Prop} {follows : List Char → Prop}

/-- A stack of readable values is readable where no further value starts. -/
theorem Stack.readable_plainText
    (readable : Readable valid follows fun a => (Plain.text a).toList)
    (continues : ∀ a rest, valid a → follows (Plain.spaced a ++ rest)) :
    Readable (fun s : Stack α => ∀ a ∈ s.toList, valid a) (Ends valid follows Plain.spaced)
      fun s => (Plain.text s).toList := by
  have values := ((readable.prepend [' ']).flatMap continues).prepend "stack:".toList
  intro s t u v validS validT before after same
  simp only [toList_plainText] at same
  obtain ⟨lists, rest⟩ := values validS validT before after same
  exact ⟨Stack.toList_injective lists, rest⟩

theorem Stack.plainText_eq_iff [DecidableEq α]
    (readable : Readable valid follows fun a => (Plain.text a).toList)
    (continues : ∀ a rest, valid a → follows (Plain.spaced a ++ rest)) (nothing : follows [])
    {s t : Stack α} (validS : ∀ a ∈ s.toList, valid a) (validT : ∀ a ∈ t.toList, valid a) :
    Plain.text s = Plain.text t ↔ (s == t) = true := by
  rw [beq_iff_eq]
  refine ⟨fun same => ?_, congrArg _⟩
  exact (Stack.readable_plainText readable continues).eq_of_eq ⟨nothing, fun _ _ _ _ => nofun⟩
    validS validT (congrArg String.toList same)

end

/-- The name of a stack is no character followed by the end or a space. -/
theorem ends_spaced (s : Stack Char) (rest : List Char) :
    Ends (anyValue (α := Char)) (Apart (· ≠ ' ')) Plain.spaced (Plain.spaced s ++ rest) := by
  refine ⟨apart_spaced s rest, ?_⟩
  intro c more _ apart same
  have name : Plain.spaced s ++ rest =
      ' ' :: 's' :: 't' :: ("ack:".toList ++ s.toList.flatMap Plain.spaced ++ rest) := by
    rw [Plain.spaced, toList_plainText]
    rfl
  have character : Plain.spaced c ++ more = ' ' :: c :: more := by
    rw [Plain.spaced, show (Plain.text c).toList = [c] from String.toList_singleton c]
    rfl
  rw [name, character] at same
  obtain ⟨_, later⟩ := List.cons.inj (List.cons.inj same).2
  subst later
  exact (apart_cons_iff _ _ _).mp apart (by decide)

/-- Plain text tells stacks of characters apart, and stacks of integers, stacks of stacks of
characters, and stacks of strings that hold no space. The text of any stack on top of another one is
the text of the other, continued by its own text without the name in front. -/
theorem plain_text_tells_stacks [Plain α] :
    (∀ s t : Stack Char, Plain.text s = Plain.text t ↔ (s == t) = true) ∧
    (∀ s t : Stack Int64, Plain.text s = Plain.text t ↔ (s == t) = true) ∧
    (∀ s t : Stack (Stack Char), Plain.text s = Plain.text t ↔ (s == t) = true) ∧
    (∀ s t : Stack String, (∀ v ∈ s.toList, ' ' ∉ v.toList) → (∀ v ∈ t.toList, ' ' ∉ v.toList) →
      (Plain.text s = Plain.text t ↔ (s == t) = true)) ∧
    ∀ base s : Stack α, ∃ rest, Plain.text s = "stack:" ++ rest ∧
      Plain.text (Stack.ofList (base.toList ++ s.toList)) = Plain.text base ++ rest := by
  refine ⟨?_, ?_, ?_, ?_, ?_⟩
  · intro s t
    exact Stack.plainText_eq_iff readable_char (fun c rest _ => apart_spaced c rest) (apart_nil _)
      (fun _ _ => trivial) fun _ _ => trivial
  · intro s t
    exact Stack.plainText_eq_iff readable_int64 (fun n rest _ => apart_spaced n rest) (apart_nil _)
      (fun _ _ => trivial) fun _ _ => trivial
  · intro s t
    have inner := Stack.readable_plainText readable_char fun c rest _ => apart_spaced c rest
    exact Stack.plainText_eq_iff inner (fun value rest _ => ends_spaced value rest)
      ⟨apart_nil _, fun _ _ _ _ => nofun⟩ (fun _ _ _ _ => trivial) fun _ _ _ _ => trivial
  · intro s t spacelessS spacelessT
    exact Stack.plainText_eq_iff readable_string (fun v rest _ => apart_spaced v rest)
      (apart_nil _) spacelessS spacelessT
  · intro base s
    refine ⟨String.ofList (s.toList.flatMap Plain.spaced), ?_, ?_⟩
    · apply String.toList_injective
      simp only [toList_plainText, String.toList_append, String.toList_ofList]
    · apply String.toList_injective
      simp only [toList_plainText, String.toList_append, String.toList_ofList, Stack.toList_ofList,
        List.flatMap_append, List.append_assoc]

/-- Strings without spaces, some of them empty or looking like the name of a stack. -/
theorem plain_text_tells_stacks_of_words :
    let s := Stack.ofList ["", "stack:", "a"]
    let t := Stack.ofList ["stack:", "", "a"]
    (∀ v ∈ s.toList, ' ' ∉ v.toList) ∧ (∀ v ∈ t.toList, ' ' ∉ v.toList) ∧
      ¬Plain.text s = Plain.text t := by
  intro s t
  have spacelessS : ∀ v ∈ s.toList, ' ' ∉ v.toList := by decide
  have spacelessT : ∀ v ∈ t.toList, ' ' ∉ v.toList := by decide
  obtain ⟨_, _, _, strings, _⟩ := plain_text_tells_stacks (α := Char)
  refine ⟨spacelessS, spacelessT, fun same => ?_⟩
  exact absurd ((strings s t spacelessS spacelessT).mp same) (by decide)

example : Plain.text (Stack.ofList ["a b"]) = Plain.text (Stack.ofList ["a", "b"]) := by decide

end OperandStack
