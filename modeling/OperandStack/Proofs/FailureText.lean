import OperandStack.Decimal.Basic
import OperandStack.Error
import OperandStack.Proofs.Quotation
import Mathlib.Data.List.DropRight

/-! # Failures told apart by their texts

The message of a failure leads with the operation's name, which is not quoted and may look like any
message itself. Read from its end the message is plain all the same: it ends in the fixed words of a
stack without values, or in two numbers that stand each after fixed words, and what is left in front
is the name. `StackError.ofMessage?` reads it so and accepts messages only. The record of a failure
is read from the left, since the name is quoted there.
-/

namespace OperandStack

namespace Text

/-! ## Numbers at the end of a text -/

/-- An ending is taken off a text exactly where the text ends so. -/
theorem dropSuffix?_eq_some_iff_append {text front ending : List Char} :
    text.dropSuffix? ending = some front ↔ text = front ++ ending := by
  rw [List.dropSuffix?_eq_some_iff]
  constructor
  · rintro ⟨_, rfl, equal⟩
    rw [eq_of_beq equal]
  · rintro rfl
    exact ⟨ending, rfl, beq_self_eq_true ending⟩

/-- The number that is written with the given digits. -/
def numeral? (digits : List Char) : Option Nat :=
  let number := Nat.ofDigitChars 10 digits 0
  if Nat.toDigits 10 number = digits then some number else none

theorem numeral?_eq_some_iff {digits : List Char} {number : Nat} :
    numeral? digits = some number ↔ digits = Nat.toDigits 10 number := by
  constructor
  · intro read
    obtain ⟨written, same⟩ := Option.ite_none_right_eq_some.mp read
    rw [← Option.some.inj same, written]
  · rintro rfl
    rw [numeral?, Nat.ofDigitChars_ten_toDigits, if_pos rfl]

/-- The number that a text ends in and what stands in front of it and of the words before it. -/
def numberAfter? (words text : List Char) : Option (List Char × Nat) := do
  let number ← numeral? (text.rtakeWhile Char.isDigit)
  let front ← (text.rdropWhile Char.isDigit).dropSuffix? words
  return (front, number)

/-- The digits at the end of a text are told from a space in front of them. -/
theorem split_at_digits {front digits : List Char} (spaced : front.getLast? = some ' ')
    (all : ∀ c ∈ digits, c.isDigit = true) :
    (front ++ digits).rtakeWhile Char.isDigit = digits ∧
      (front ++ digits).rdropWhile Char.isDigit = front := by
  obtain ⟨more, rfl⟩ := List.getLast?_eq_some_iff.mp spaced
  have backwards : ∀ c ∈ digits.reverse, c.isDigit = true := by simpa using all
  have ends : (more ++ [' ']).rtakeWhile Char.isDigit = [] :=
    List.rtakeWhile_concat_neg _ _ _ (by decide)
  have stays : (more ++ [' ']).rdropWhile Char.isDigit = more ++ [' '] :=
    List.rdropWhile_concat_neg _ _ _ (by decide)
  constructor
  · rw [List.rtakeWhile, List.reverse_append, List.takeWhile_append_of_pos backwards,
      List.reverse_append, ← List.rtakeWhile, ends, List.nil_append, List.reverse_reverse]
  · rw [List.rdropWhile, List.reverse_append, List.dropWhile_append_of_pos backwards,
      ← List.rdropWhile, stays]

theorem numberAfter?_eq_some_iff {words text front : List Char} {number : Nat}
    (spaced : words.getLast? = some ' ') :
    numberAfter? words text = some (front, number) ↔
      text = front ++ words ++ Nat.toDigits 10 number := by
  constructor
  · intro read
    obtain ⟨value, digits, rest⟩ := Option.bind_eq_some_iff.mp read
    obtain ⟨before, cut, same⟩ := Option.bind_eq_some_iff.mp rest
    obtain ⟨rfl, rfl⟩ := Prod.mk.inj (Option.some.inj same)
    rw [← numeral?_eq_some_iff.mp digits, ← dropSuffix?_eq_some_iff_append.mp cut,
      List.rdropWhile_append_rtakeWhile]
  · rintro rfl
    have ends : (front ++ words).getLast? = some ' ' := by
      rw [List.getLast?_append, spaced, Option.some_or]
    obtain ⟨digits, rest⟩ := split_at_digits ends fun _ member =>
      Decimal.isDigit_of_mem_toDigits member
    rw [numberAfter?, digits, rest, numeral?_eq_some_iff.mpr rfl,
      dropSuffix?_eq_some_iff_append.mpr rfl]
    rfl

/-- A number can be told from what follows it, as long as that is not a digit. -/
theorem readable_nat :
    Readable anyValue (Apart fun c => c.isDigit = true) fun number => (Nat.repr number).toList := by
  refine .of_inside ?_ ?_
  · intro number _ c member
    rw [Nat.toList_repr] at member
    exact Decimal.isDigit_of_mem_toDigits member
  · intro first second _ _ same
    rw [Nat.toList_repr, Nat.toList_repr] at same
    have read := numeral?_eq_some_iff.mpr same
    rw [numeral?_eq_some_iff.mpr rfl] at read
    exact Option.some.inj read

theorem toList_inlineRecord (name : String) (fields : List (String × String)) :
    (inlineRecord name fields).toList = name.toList ++ (" \x7b ".toList ++
      (", ".toList.intercalate (fields.map fun field =>
        field.1.toList ++ (": ".toList ++ field.2.toList)) ++ " \x7d".toList)) := by
  simp only [inlineRecord, commaSeparated, String.toList_append, String.toList_intercalate,
    List.map_map, Function.comp_def, List.append_assoc]

end Text

namespace StackError

open Text

/-! ## Messages -/

/-- The failure that a message reports. -/
def ofMessage? (text : String) : Option StackError :=
  match text.toList.dropSuffix? ": stack is empty".toList with
  | some op => some (.emptyStack (String.ofList op))
  | none => do
    let (rest, available) ← numberAfter? " values, stack has ".toList text.toList
    let (op, required) ← numberAfter? ": requires ".toList rest
    return .insufficientDepth (String.ofList op) required available

theorem toList_message_emptyStack (op : String) :
    (message (.emptyStack op)).toList = op.toList ++ ": stack is empty".toList := by
  rw [message, String.toList_append]

theorem toList_message_insufficientDepth (op : String) (required available : Nat) :
    (message (.insufficientDepth op required available)).toList =
      (op.toList ++ ": requires ".toList ++ Nat.toDigits 10 required) ++
        " values, stack has ".toList ++ Nat.toDigits 10 available := by
  simp only [message, String.toList_append, Nat.toList_repr]

/-- What ends in a number does not end in the words for a stack without values. -/
theorem dropSuffix?_digits (front : List Char) (number : Nat) :
    (front ++ Nat.toDigits 10 number).dropSuffix? ": stack is empty".toList = none := by
  rw [Option.eq_none_iff_forall_ne_some]
  intro op cut
  have last := congrArg List.getLast? (dropSuffix?_eq_some_iff_append.mp cut)
  rw [List.getLast?_append_of_ne_nil _ Nat.toDigits_ne_nil, List.getLast?_append] at last
  have member : 'y' ∈ Nat.toDigits 10 number := List.mem_of_getLast? last
  exact absurd (Decimal.isDigit_of_mem_toDigits member) (by decide)

private theorem getLast?_values : " values, stack has ".toList.getLast? = some ' ' := rfl

private theorem getLast?_requires : ": requires ".toList.getLast? = some ' ' := rfl

/-- A message is read as the failure that it reports, whatever the name in it looks like. -/
theorem ofMessage?_message (failure : StackError) : ofMessage? failure.message = some failure := by
  cases failure with
  | emptyStack op =>
    have cut := dropSuffix?_eq_some_iff_append.mpr (toList_message_emptyStack op)
    simp only [ofMessage?, cut, String.ofList_toList]
  | insufficientDepth op required available =>
    have written := toList_message_insufficientDepth op required available
    have last := (numberAfter?_eq_some_iff getLast?_values).mpr written
    have first := (numberAfter?_eq_some_iff getLast?_requires).mpr
      (rfl : op.toList ++ ": requires ".toList ++ Nat.toDigits 10 required = _)
    rw [ofMessage?, written, dropSuffix?_digits, ← written]
    simp only [last, first, Option.bind_eq_bind, Option.bind_some, Option.pure_def,
      String.ofList_toList]

/-- Only messages are read. -/
theorem eq_message_of_ofMessage? {text : String} {failure : StackError}
    (read : ofMessage? text = some failure) : text = failure.message := by
  apply String.toList_injective
  rw [ofMessage?] at read
  split at read
  · next op cut =>
    obtain rfl := Option.some.inj read
    rw [dropSuffix?_eq_some_iff_append.mp cut, toList_message_emptyStack,
      @String.toList_ofList op]
  · obtain ⟨⟨rest, available⟩, last, more⟩ := Option.bind_eq_some_iff.mp read
    obtain ⟨⟨op, required⟩, first, same⟩ := Option.bind_eq_some_iff.mp more
    obtain rfl := Option.some.inj same
    rw [(numberAfter?_eq_some_iff getLast?_values).mp last,
      (numberAfter?_eq_some_iff getLast?_requires).mp first, toList_message_insufficientDepth,
      @String.toList_ofList op]

theorem ofMessage?_eq_some_iff {text : String} {failure : StackError} :
    ofMessage? text = some failure ↔ text = failure.message :=
  ⟨eq_message_of_ofMessage?, fun written => written ▸ ofMessage?_message failure⟩

theorem message_injective : Function.Injective message := by
  intro first second same
  have read := ofMessage?_message second
  rw [← same, ofMessage?_message] at read
  exact Option.some.inj read

/-! ## Records -/

theorem toList_inspect_emptyStack [Visibility] (op : String) :
    (inspect (.emptyStack op)).toList =
      "EmptyStack \x7b op: ".toList ++ ((quotedString op).toList ++ " \x7d".toList) := by
  have record (name : String) : (inlineRecord "EmptyStack" [("op", name)]).toList =
      "EmptyStack \x7b op: ".toList ++ (name.toList ++ " \x7d".toList) := by
    simp only [toList_inlineRecord, List.map_cons, List.map_nil, List.intercalate_singleton,
      List.append_assoc]
    rfl
  exact record (quotedString op)

/-- The two numbers in the record of a failure, up to its end. -/
def depths : Nat × Nat → List Char
  | (required, available) =>
    ", required: ".toList ++ ((Nat.repr required).toList ++
      (", available: ".toList ++ ((Nat.repr available).toList ++ " \x7d".toList)))

theorem toList_inspect_insufficientDepth [Visibility] (op : String) (required available : Nat) :
    (inspect (.insufficientDepth op required available)).toList =
      "InsufficientDepth \x7b op: ".toList ++
        ((quotedString op).toList ++ depths (required, available)) := by
  have record (name most least : String) :
      (inlineRecord "InsufficientDepth"
        [("op", name), ("required", most), ("available", least)]).toList =
      "InsufficientDepth \x7b op: ".toList ++ (name.toList ++ (", required: ".toList ++
        (most.toList ++ (", available: ".toList ++ (least.toList ++ " \x7d".toList))))) := by
    simp only [toList_inlineRecord, List.map_cons, List.map_nil, intercalate_cons_eq,
      List.flatMap_cons, List.flatMap_nil, List.append_nil, List.append_assoc]
    rfl
  exact record (quotedString op) (Nat.repr required) (Nat.repr available)

theorem readable_depths : Readable anyValue anything depths := by
  have apart (c : Char) (closing rest : List Char) (other : c.isDigit = false) :
      Apart (fun c => c.isDigit = true) (c :: closing ++ rest) :=
    (apart_cons_iff _ _ _).mpr fun digit => Bool.false_ne_true (other.symm.trans digit)
  have least : Readable anyValue anything fun available : Nat =>
      ", available: ".toList ++ ((Nat.repr available).toList ++ " \x7d".toList) :=
    (readable_nat.append _ fun rest _ => apart ' ' ['\x7d'] rest rfl).prepend _
  have both := (readable_nat.pair least fun _ rest _ _ => apart ',' _ rest rfl).prepend
    ", required: ".toList
  exact fun _ _ _ _ _ _ => both ⟨trivial, trivial⟩ ⟨trivial, trivial⟩

theorem inspect_injective [Visibility] : Function.Injective inspect := by
  intro first second same
  have chars := congrArg String.toList same
  cases first with
  | emptyStack op =>
    cases second with
    | emptyStack other =>
      rw [toList_inspect_emptyStack, toList_inspect_emptyStack] at chars
      obtain ⟨rfl, _⟩ :=
        readable_quotedString trivial trivial trivial trivial (List.append_cancel_left chars)
      rfl
    | insufficientDepth other required available =>
      rw [toList_inspect_emptyStack, toList_inspect_insufficientDepth] at chars
      exact absurd (List.cons.inj chars).1 (by decide)
  | insufficientDepth op required available =>
    cases second with
    | emptyStack other =>
      rw [toList_inspect_emptyStack, toList_inspect_insufficientDepth] at chars
      exact absurd (List.cons.inj chars).1 (by decide)
    | insufficientDepth other most least =>
      rw [toList_inspect_insufficientDepth, toList_inspect_insufficientDepth] at chars
      obtain ⟨rfl, rest⟩ :=
        readable_quotedString trivial trivial trivial trivial (List.append_cancel_left chars)
      cases readable_depths.eq_of_eq trivial trivial trivial rest
      rfl

/-- The texts of failures lose nothing. Failures with the same message are the same failure, and so
are failures with the same record. The failure can be read back from its message: reading accepts
exactly the messages and answers the alternative, the name and the depths that were reported. So no
message about a stack without values is one about a stack that is too shallow, whatever the names.
For records it makes no difference which edition of the tables says what characters show. -/
theorem texts_tell_failures [Visibility] (first second : StackError) :
    (first.message = second.message ↔ (first == second) = true) ∧
      (first.inspect = second.inspect ↔ (first == second) = true) ∧
      (∀ text, ofMessage? text = some first ↔ text = first.message) ∧
      ∀ op other required available,
        (emptyStack op).message ≠ (insufficientDepth other required available).message := by
  rw [beq_iff_eq]
  refine ⟨message_injective.eq_iff, inspect_injective.eq_iff, fun _ => ofMessage?_eq_some_iff, ?_⟩
  intro op other required available same
  cases message_injective same

example : ofMessage? "pop: stack is empty: requires 1 values, stack has 0" =
    some (.insufficientDepth "pop: stack is empty" 1 0) :=
  ofMessage?_message (.insufficientDepth "pop: stack is empty" 1 0)

end StackError

end OperandStack
