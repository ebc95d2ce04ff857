import OperandStack.Text.Visibility

/-! # Quoted text

A quoted text stands between two marks. Inside it the mark itself, the backslash and the characters
that do not show are written as escapes, so that the text never holds a raw mark or a raw line end;
every other character stands for itself.
-/

namespace OperandStack.Text

variable [Visibility]

/-- How a character is written between marks `mark`. -/
def escape (mark c : Char) : List Char :=
  if c = '\x00' then ['\\', '0']
  else if c = '\t' then ['\\', 't']
  else if c = '\n' then ['\\', 'n']
  else if c = '\r' then ['\\', 'r']
  else if c = '\\' then ['\\', '\\']
  else if c = mark then ['\\', c]
  else if Visibility.isHidden c then
    '\\' :: 'u' :: '\x7b' :: (Nat.toDigits 16 c.toNat ++ ['\x7d'])
  else [c]

/-- The characters in order between two marks. -/
def quote (mark : Char) (content : List Char) : String :=
  String.ofList (mark :: (content.flatMap (escape mark) ++ [mark]))

/-- A character as program text: between apostrophes. -/
def quotedChar (c : Char) : String := quote '\x27' [c]

/-- A string as program text: between double quotes. -/
def quotedString (s : String) : String := quote '\x22' s.toList

end OperandStack.Text
