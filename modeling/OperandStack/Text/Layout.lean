/-! # Layouts of records and lists

A value with parts is laid out in two ways: on one line, with its parts separated by commas, and as
a block of lines, with every part on lines of its own, four spaces further in and with a comma
after it. Blocks are lists of lines; a line has no line end in it.
-/

namespace OperandStack.Text

/-- Texts separated by a comma and a space. -/
def commaSeparated (parts : List String) : String := ", ".intercalate parts

/-- A list on one line. -/
def inlineList (items : List String) : String := "[" ++ commaSeparated items ++ "]"

/-- A record on one line: its name, and its fields in braces. -/
def inlineRecord (name : String) (fields : List (String × String)) : String :=
  name ++ " \x7b " ++ commaSeparated (fields.map fun field => field.1 ++ ": " ++ field.2) ++ " \x7d"

/-- Moves every line four spaces in. -/
def indent (lines : List String) : List String := lines.map ("    " ++ ·)

/-- Ends the last line with a comma. -/
def closeWithComma : List String → List String
  | [] => []
  | [line] => [line ++ ","]
  | line :: more => line :: closeWithComma more

/-- Opens the first line with a label. -/
def openWith (label : String) : List String → List String
  | [] => []
  | line :: more => (label ++ line) :: more

/-- A list as a block; without items it stays on one line. -/
def blockList (items : List (List String)) : List String :=
  if items.isEmpty then ["[]"]
  else "[" :: (items.flatMap fun item => indent (closeWithComma item)) ++ ["]"]

/-- A record as a block. -/
def blockRecord (name : String) (fields : List (String × List String)) : List String :=
  (name ++ " \x7b") ::
    (fields.flatMap fun field => indent (closeWithComma (openWith (field.1 ++ ": ") field.2))) ++
    ["\x7d"]

end OperandStack.Text
