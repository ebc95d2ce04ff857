import OperandStack.Proofs.PlainText
import OperandStack.Proofs.Quotation

/-! # Stacks told apart by their inspection text

In an inspection text every value can be read back. On one line a value ends where a comma or the
closing bracket follows, which quoted text hides and a number does not hold. As a block every value
has lines of its own, and the lines of a block do not start the block of another value. Both carry
over from the values of a stack to the stack, so that stacks may hold stacks.
-/

universe u

namespace OperandStack

open Text

variable {α : Type u}

/-! ## Layouts -/

theorem Text.closeWithComma_concat (lines : List String) (last : String) :
    closeWithComma (lines ++ [last]) = lines ++ [last ++ ","] := by
  induction lines with
  | nil => rfl
  | cons line more ih =>
    cases more with
    | nil => rfl
    | cons second more => exact congrArg (line :: ·) ih

theorem Text.mem_closeWithComma {lines : List String} {line : String}
    (member : line ∈ closeWithComma lines) :
    line ∈ lines ∨ ∃ plain ∈ lines, line = plain ++ "," := by
  rcases List.eq_nil_or_concat lines with rfl | ⟨front, last, rfl⟩
  · cases member
  · rw [List.concat_eq_append, closeWithComma_concat] at member
    rcases List.mem_append.mp member with inFront | atEnd
    · exact .inl (by simp [inFront])
    · exact .inr ⟨last, by simp, List.mem_singleton.mp atEnd⟩

theorem Text.closeWithComma_ne_nil {lines : List String} (nonempty : lines ≠ []) :
    closeWithComma lines ≠ [] := by
  rcases List.eq_nil_or_concat lines with rfl | ⟨front, last, rfl⟩
  · exact absurd rfl nonempty
  · rw [List.concat_eq_append, closeWithComma_concat]
    exact List.append_ne_nil_of_right_ne_nil _ (List.cons_ne_nil _ _)

/-- A line two steps further in. -/
def Text.deeper (line : String) : String := "    " ++ ("    " ++ line)

theorem Text.deeper_injective : Function.Injective deeper := by
  intro first second same
  have chars := congrArg String.toList same
  simpa [deeper, String.toList_inj] using chars

theorem Text.deeper_ne_bracket (line : String) : deeper line ≠ "    ]," := by
  intro same
  have chars := congrArg String.toList same
  simp [deeper] at chars

theorem Text.feed_not_mem_deeper {line : String} (feed : '\n' ∉ line.toList) :
    '\n' ∉ (deeper line).toList := by
  simpa [deeper] using feed

/-- The lines of a value in the block of a list that is a field of a record. -/
def Inspect.itemLines [Inspect α] (a : α) : List String :=
  (closeWithComma (Inspect.block a)).map deeper

/-- What comes between the first line of a block and its last one. -/
def Inspect.fieldLines [Inspect α] (values : List α) : List String :=
  if values.isEmpty then ["    items: [],"]
  else "    items: [" :: (values.flatMap Inspect.itemLines ++ ["    ],"])

theorem Stack.block_eq [Inspect α] (s : Stack α) :
    Inspect.block s = ("Stack \x7b" :: Inspect.fieldLines s.toList) ++ ["\x7d"] := by
  have text : Inspect.block s = Text.blockRecord "Stack"
      [("items", Text.blockList (s.toList.map Inspect.block))] := rfl
  rw [text, Text.blockRecord, List.flatMap_singleton, Inspect.fieldLines, Text.blockList,
    List.isEmpty_map]
  split
  · rfl
  · have opened : Text.openWith ("items" ++ ": ")
        ("[" :: (s.toList.map Inspect.block).flatMap (fun item => indent (closeWithComma item)) ++
          ["]"]) =
        ("items: [" ::
          (s.toList.map Inspect.block).flatMap fun item => indent (closeWithComma item)) ++
          ["]"] := rfl
    rw [opened, Text.closeWithComma_concat, Text.indent, List.map_append, List.map_cons,
      List.map_flatMap, List.flatMap_map]
    simp only [indent, List.map_map]
    rfl

theorem Inspect.fieldLines_cons [Inspect α] (a : α) (more : List α) :
    fieldLines (a :: more) = "    items: [" :: ((a :: more).flatMap itemLines ++ ["    ],"]) := rfl

/-- The lines of a text. -/
def Text.lines (text : String) : List (List Char) := text.toList.splitOn '\n'

/-! ## Values that can be read back -/

/-- Tells that values of a type can be read back from their inspection texts. -/
structure Inspect.Legible (α : Type u) [Inspect α] : Prop where
  /-- In a list on one line a value ends before a comma or a bracket. -/
  readable_inline : Readable anyValue (Apart fun c => c ≠ ',' ∧ c ≠ ']')
    fun a : α => (Inspect.inline a).toList
  /-- No value looks like the end of a list. -/
  opens : ∀ (a : α) (more rest : List Char), (Inspect.inline a).toList ++ more ≠ ']' :: rest
  /-- In a block a value ends with the comma after it. -/
  readable_block : Readable anyValue anything fun a : α => closeWithComma (Inspect.block a)
  block_ne_nil : ∀ a : α, Inspect.block a ≠ []
  /-- The lines of a block are lines. -/
  feed_not_mem : ∀ a : α, ∀ line ∈ Inspect.block a, '\n' ∉ line.toList

namespace Inspect.Legible

variable [Inspect α]

/-- A value whose block is its text on one line is legible if that text is. -/
theorem of_line (line : ∀ a : α, Inspect.block a = [Inspect.inline a])
    (readable : Readable anyValue (Apart fun c => c ≠ ',' ∧ c ≠ ']')
      fun a : α => (Inspect.inline a).toList)
    (opens : ∀ (a : α) (more rest : List Char), (Inspect.inline a).toList ++ more ≠ ']' :: rest)
    (feed : ∀ a : α, '\n' ∉ (Inspect.inline a).toList) : Legible α where
  readable_inline := readable
  opens := opens
  readable_block := by
    intro a b u v _ _ _ _ same
    simp only [line, closeWithComma] at same
    obtain ⟨texts, rest⟩ := List.cons.inj same
    have chars := congrArg String.toList texts
    rw [String.toList_append, String.toList_append] at chars
    have comma : Apart (fun c => c ≠ ',' ∧ c ≠ ']') ",".toList :=
      (apart_cons_iff _ _ _).mpr fun inside => inside.1 rfl
    exact ⟨(readable trivial trivial comma comma chars).1, rest⟩
  block_ne_nil := by
    intro a nothing
    rw [line] at nothing
    cases nothing
  feed_not_mem := by
    intro a text member
    rw [line] at member
    obtain rfl := List.mem_singleton.mp member
    exact feed a

theorem char [Visibility] : Legible Char :=
  .of_line (fun _ => rfl) (readable_quotedChar.weaken fun _ _ => trivial)
    (fun c => quote_append_ne (by decide) [c]) fun c => feed_not_mem_quote (.inl rfl) [c]

theorem string [Visibility] : Legible String :=
  .of_line (fun _ => rfl) (readable_quotedString.weaken fun _ _ => trivial)
    (fun s => quote_append_ne (by decide) s.toList)
    fun s => feed_not_mem_quote (.inr rfl) s.toList

theorem int64 : Legible Int64 := by
  refine .of_line (fun _ => rfl) (.of_inside ?_ fun _ _ _ _ => Plain.int64_injective) ?_ ?_
  · intro number _ c member
    exact ⟨Plain.ne_of_mem_int64 member (by decide) rfl,
      Plain.ne_of_mem_int64 member (by decide) rfl⟩
  · intro number more rest same
    cases text : (Inspect.inline number).toList with
    | nil => exact Plain.int64_ne_nil number text
    | cons first others =>
      have member : first ∈ (Plain.text number).toList := text ▸ List.mem_cons_self
      rw [text] at same
      exact Plain.ne_of_mem_int64 member (by decide) rfl (List.cons.inj same).1
  · intro number member
    exact Plain.ne_of_mem_int64 member (by decide) rfl rfl

/-! ## Stacks -/

theorem toList_inlineText (s : Stack α) :
    (Inspect.inline s).toList = "Stack \x7b items: [".toList ++
      (", ".toList.intercalate (s.toList.map fun a => (Inspect.inline a).toList) ++
        "] \x7d".toList) := by
  have text : Inspect.inline s = "Stack" ++ " \x7b " ++ (", ".intercalate
      ["items" ++ ": " ++ ("[" ++ ", ".intercalate (s.toList.map Inspect.inline) ++ "]")]) ++
        " \x7d" := rfl
  rw [text, String.intercalate_singleton]
  simp only [String.toList_append, String.toList_intercalate, List.map_map, List.append_assoc]
  rfl

variable (legible : Legible α)

include legible

theorem readable_inlineText :
    Readable anyValue anything fun s : Stack α => (Inspect.inline s).toList := by
  have continues (rest : List Char) :
      Apart (fun c => c ≠ ',' ∧ c ≠ ']') (", ".toList ++ rest) :=
    (apart_cons_iff _ _ _).mpr fun inside => inside.1 rfl
  have values : Readable (fun values : List α => ∀ a ∈ values, anyValue a) anything fun values =>
      ", ".toList.intercalate (values.map fun a => (Inspect.inline a).toList) ++
        "] \x7d".toList := by
    refine (legible.readable_inline.separated ", ".toList continues).append _ ?_
    intro rest _
    refine ⟨(apart_cons_iff _ _ _).mpr fun inside => inside.2 rfl, ?_, ?_⟩
    · rintro ⟨more, same⟩
      cases same
    · exact fun a more _ => legible.opens a more _
  intro s t u v _ _ _ _ same
  simp only [toList_inlineText] at same
  obtain ⟨lists, rest⟩ := (values.prepend "Stack \x7b items: [".toList) (fun _ _ => trivial)
    (fun _ _ => trivial) trivial trivial same
  exact ⟨Stack.toList_injective lists, rest⟩

theorem itemLines_append_ne (a : α) (more rest : List String) :
    itemLines a ++ more ≠ "    ]," :: rest := by
  intro same
  rw [itemLines] at same
  cases lines : closeWithComma (Inspect.block a) with
  | nil => exact Text.closeWithComma_ne_nil (legible.block_ne_nil a) lines
  | cons line others =>
    rw [lines] at same
    exact Text.deeper_ne_bracket line (List.cons.inj same).1

theorem readable_fieldLines :
    Readable anyValue anything fun values : List α => fieldLines values := by
  have items : Readable (fun values : List α => ∀ a ∈ values, anyValue a) anything fun values =>
      values.flatMap itemLines ++ ["    ],"] :=
    ((legible.readable_block.map Text.deeper_injective).flatMap fun _ _ _ => trivial).append _
      fun rest _ => ⟨trivial, fun a more _ _ => legible.itemLines_append_ne a more rest⟩
  intro xs ys u v _ _ _ _ same
  cases xs with
  | nil =>
    cases ys with
    | nil => exact ⟨rfl, (List.cons.inj same).2⟩
    | cons y ys => exact absurd (List.cons.inj same).1 (by decide)
  | cons x xs =>
    cases ys with
    | nil => exact absurd (List.cons.inj same).1 (by decide)
    | cons y ys =>
      exact items (fun _ _ => trivial) (fun _ _ => trivial) trivial trivial (List.cons.inj same).2

theorem readable_blockText :
    Readable anyValue anything fun s : Stack α => closeWithComma (Inspect.block s) := by
  have fields : Readable anyValue anything fun values : List α => fieldLines values ++ ["\x7d,"] :=
    legible.readable_fieldLines.append _ fun _ _ => trivial
  intro s t u v _ _ _ _ same
  simp only [Stack.block_eq, Text.closeWithComma_concat] at same
  obtain ⟨lists, rest⟩ := (fields.prepend ["Stack \x7b"]) trivial trivial trivial trivial same
  exact ⟨Stack.toList_injective lists, rest⟩

theorem feed_not_mem_itemLines (a : α) : ∀ line ∈ itemLines a, '\n' ∉ line.toList := by
  intro line member
  obtain ⟨plain, inside, rfl⟩ := List.mem_map.mp member
  apply Text.feed_not_mem_deeper
  rcases Text.mem_closeWithComma inside with line | ⟨last, line, rfl⟩
  · exact legible.feed_not_mem a plain line
  · simpa using legible.feed_not_mem a last line

theorem feed_not_mem_fieldLines (values : List α) :
    ∀ line ∈ fieldLines values, '\n' ∉ line.toList := by
  intro line member
  cases values with
  | nil =>
    obtain rfl := List.mem_singleton.mp member
    decide
  | cons a more =>
    rw [fieldLines_cons] at member
    rcases List.mem_cons.mp member with rfl | later
    · decide
    · rcases List.mem_append.mp later with inside | last
      · obtain ⟨value, _, own⟩ := List.mem_flatMap.mp inside
        exact legible.feed_not_mem_itemLines value line own
      · obtain rfl := List.mem_singleton.mp last
        decide

/-- Stacks of legible values are legible. -/
theorem stack : Legible (Stack α) where
  readable_inline := legible.readable_inlineText.weaken fun _ _ => trivial
  opens := by
    intro s more rest same
    rw [toList_inlineText] at same
    cases (List.cons.inj same).1
  readable_block := legible.readable_blockText
  block_ne_nil := by
    intro s nothing
    rw [Stack.block_eq] at nothing
    cases nothing
  feed_not_mem := by
    intro s line member
    rw [Stack.block_eq] at member
    rcases List.mem_append.mp member with inside | last
    · rcases List.mem_cons.mp inside with rfl | field
      · decide
      · exact legible.feed_not_mem_fieldLines s.toList line field
    · obtain rfl := List.mem_singleton.mp last
      decide

/-! ## Whole texts -/

theorem inline_injective : Function.Injective (Inspect.inline : α → String) := fun _ _ same =>
  legible.readable_inline.eq_of_eq (apart_nil _) trivial trivial (congrArg String.toList same)

/-- The lines of a block are found in its text. -/
theorem lines_pretty (a : α) :
    Text.lines (Inspect.pretty a) = (Inspect.block a).map String.toList := by
  rw [Text.lines, Inspect.pretty, String.toList_intercalate]
  apply List.splitOn_intercalate
  · intro chars member
    obtain ⟨line, inside, rfl⟩ := List.mem_map.mp member
    exact legible.feed_not_mem a line inside
  · exact fun nothing => legible.block_ne_nil a (List.map_eq_nil_iff.mp nothing)

theorem pretty_injective : Function.Injective (Inspect.pretty : α → String) := by
  intro a b same
  have lines := congrArg Text.lines same
  rw [legible.lines_pretty, legible.lines_pretty] at lines
  have blocks := (List.map_injective_iff.mpr fun _ _ => String.toList_injective) lines
  exact legible.readable_block.eq_of_eq trivial trivial trivial (congrArg closeWithComma blocks)

theorem length_lines_pretty (line : ∀ a : α, Inspect.block a = [Inspect.inline a]) (s : Stack α) :
    (Text.lines (Inspect.pretty s)).length = if s.isEmpty then 3 else s.size + 4 := by
  rw [legible.stack.lines_pretty, List.length_map, Stack.block_eq, Stack.isEmpty_eq,
    ← Stack.length_toList]
  cases s.toList with
  | nil => rfl
  | cons a more => simp [fieldLines_cons, List.length_flatMap, itemLines, line, closeWithComma]

end Inspect.Legible

/-- Tells that both inspection texts of stacks of a type tell the stacks apart. -/
def Inspect.TellsStacks (α : Type u) [DecidableEq α] [Inspect α] : Prop :=
  ∀ s t : Stack α, (Inspect.inline s = Inspect.inline t ↔ (s == t) = true) ∧
    (Inspect.pretty s = Inspect.pretty t ↔ (s == t) = true)

/-- Tells that a value is one line, in a block as well, and so takes one line in that of a stack. -/
def Inspect.TakesOneLine (α : Type u) [Inspect α] : Prop :=
  (∀ a : α, Inspect.pretty a = Inspect.inline a ∧ '\n' ∉ (Inspect.inline a).toList) ∧
    ∀ s : Stack α,
      (Text.lines (Inspect.pretty s)).length = if s.isEmpty then 3 else s.size + 4

theorem Inspect.Legible.tellsStacks [DecidableEq α] [Inspect α] (legible : Legible α) :
    Inspect.TellsStacks α := by
  intro s t
  rw [beq_iff_eq]
  exact ⟨legible.stack.inline_injective.eq_iff, legible.stack.pretty_injective.eq_iff⟩

theorem Inspect.Legible.takesOneLine [Inspect α] (legible : Legible α)
    (line : ∀ a : α, Inspect.block a = [Inspect.inline a]) : Inspect.TakesOneLine α := by
  refine ⟨fun a => ⟨?_, ?_⟩, legible.length_lines_pretty line⟩
  · rw [Inspect.pretty, line, String.intercalate_singleton]
  · exact legible.feed_not_mem a _ (line a ▸ List.mem_singleton_self _)

/-- Inspection text tells stacks of characters apart, and stacks of integers, of strings, and of
stacks of characters, on one line as well as in a block. No character, integer or string is written
with a line end, so that the block of a stack of them has a line for each and four more, or three
lines if there are none. Characters and strings are quoted with the escapes that `Spells` lists,
whatever edition of the tables says which characters show. -/
theorem inspection_tells_stacks [Visibility] :
    Inspect.TellsStacks Char ∧ Inspect.TellsStacks Int64 ∧ Inspect.TellsStacks String ∧
      Inspect.TellsStacks (Stack Char) ∧
      Inspect.TakesOneLine Char ∧ Inspect.TakesOneLine Int64 ∧ Inspect.TakesOneLine String ∧
      (∀ c : Char, Quotes '\x27' [c] (Inspect.inline c).toList) ∧
      ∀ s : String, Quotes '\x22' s.toList (Inspect.inline s).toList :=
  ⟨Inspect.Legible.char.tellsStacks, Inspect.Legible.int64.tellsStacks,
    Inspect.Legible.string.tellsStacks, Inspect.Legible.char.stack.tellsStacks,
    Inspect.Legible.char.takesOneLine fun _ => rfl,
    Inspect.Legible.int64.takesOneLine fun _ => rfl,
    Inspect.Legible.string.takesOneLine fun _ => rfl,
    fun c => quotes_quote '\x27' [c], fun s => quotes_quote '\x22' s.toList⟩

example : Inspect.pretty (Stack.ofList ["é\u0301", "\u200b"]) =
    "Stack \x7b\n    items: [\n        \"é\\u\x7b301\x7d\",\n        \"\\u\x7b200b\x7d\",\n    ],\n\x7d" := by
  decide +kernel

end OperandStack
