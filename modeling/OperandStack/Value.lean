import OperandStack.Double.Text
import OperandStack.Text.Inspect

/-! # Plain values

What a configuration is read from, whatever notation it was written in: scalars, lists, and tables
whose entries have an order. `Value.found` says what a reader that met a value of the wrong type
found instead.
-/

namespace OperandStack

/-- A value of a configuration file or message. -/
inductive Value where
  | null
  | boolean (flag : Bool)
  | integer (number : Int)
  | double (number : Double)
  | string (text : String)
  | list (items : List Value)
  | table (entries : List (String × Value))

/-- A key and what is given for it. -/
abbrev Entry := String × Value

/-- What a value is to a reader that wanted something else: scalars are told apart, lists and
tables are not. -/
inductive Found where
  | null
  | boolean (flag : Bool)
  | integer (number : Int)
  | double (number : Double)
  | string (text : String)
  | sequence
  | map
deriving DecidableEq, Repr

/-- What a reader found on meeting the value. -/
def Value.found : Value → Found
  | null => .null
  | boolean flag => .boolean flag
  | integer number => .integer number
  | double number => .double number
  | string text => .string text
  | list _ => .sequence
  | table _ => .map

/-- The words for what was found, with numbers of double precision written in a style. -/
def Found.describe [Text.Visibility] (style : Double.Style) : Found → String
  | null => "null"
  | boolean flag => "boolean `" ++ (if flag then "true" else "false") ++ "`"
  | integer number => "integer `" ++ Int.repr number ++ "`"
  | double number => "floating point `" ++ number.text style ++ "`"
  | string text => "string " ++ Inspect.inline text
  | sequence => "sequence"
  | map => "map"

end OperandStack
