import OperandStack.Text.Layout
import OperandStack.Text.Quoted

/-! # Plain and inspection text

`Plain` is the text of a value as a reader of output meets it; `Inspect` is its text as a program
would write it, on one line or as a block of lines. The two differ where a value is text itself:
its inspection text is quoted.
-/

universe u

namespace OperandStack

/-- Values with a text for output. -/
class Plain (α : Type u) where
  /-- The text of a value. -/
  text : α → String

/-- Values with a text as program text. -/
class Inspect (α : Type u) where
  /-- The text on one line. -/
  inline : α → String
  /-- The lines of the text when every part has lines of its own. -/
  block : α → List String

/-- The block of a value as one text. -/
def Inspect.pretty {α : Type u} [Inspect α] (value : α) : String :=
  "\n".intercalate (Inspect.block value)

/-! ## Element types -/

instance : Plain Char := ⟨String.singleton⟩

instance [Text.Visibility] : Inspect Char := ⟨Text.quotedChar, fun c => [Text.quotedChar c]⟩

instance : Plain Int64 := ⟨fun n => Int.repr n.toInt⟩

instance : Inspect Int64 := ⟨Plain.text, fun n => [Plain.text n]⟩

instance : Plain String := ⟨id⟩

instance [Text.Visibility] : Inspect String :=
  ⟨Text.quotedString, fun s => [Text.quotedString s]⟩

instance : Inspect Nat := ⟨Nat.repr, fun n => [Nat.repr n]⟩

end OperandStack
