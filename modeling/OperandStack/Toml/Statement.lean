import OperandStack.Toml.Number
import OperandStack.Toml.Token

/-! # Statements of TOML text

A statement is blank, opens a table, or gives a key a value. It stands on one line, except that a
list runs on until its closing bracket. Lists hold scalars and may end in a comma.

Valid TOML that is outside the part that is read, and so answered as malformed: dotted keys and
dotted names of tables, tables on one line, lists in lists, and arrays of tables.
-/

namespace OperandStack.Toml

/-- What a line of a document says. -/
inductive Statement where
  | blank
  | header (table : String)
  | entry (key : String) (value : Value)

/-- The key that a token is. -/
def Token.key? : Token → Option String
  | .word chars => if chars.all isKeyChar then some (String.ofList chars) else none
  | .quoted chars => some (String.ofList chars)
  | _ => none

/-- The value that a word is. -/
def wordValue? (chars : List Char) : Option Value :=
  if chars = ['t', 'r', 'u', 'e'] then some (.boolean true)
  else if chars = ['f', 'a', 'l', 's', 'e'] then some (.boolean false)
  else number? chars

/-- The value that a token is. -/
def Token.scalar? : Token → Option Value
  | .word chars => wordValue? chars
  | .quoted chars => some (.string (String.ofList chars))
  | _ => none

/-- The values of a list after its opening bracket. -/
def items? : List Token → Option (List Value)
  | [.closeBracket] => some []
  | [item, .closeBracket] => item.scalar?.map ([·])
  | item :: .comma :: rest => do
    let value ← item.scalar?
    let values ← items? rest
    return value :: values
  | _ => none

/-- The statement that tokens make. -/
def Statement.ofTokens? : List Token → Option Statement
  | [] => some .blank
  | [.openBracket, table, .closeBracket] => table.key?.map .header
  | [key, .equals, value] => do return .entry (← key.key?) (← value.scalar?)
  | key :: .equals :: .openBracket :: rest => do return .entry (← key.key?) (.list (← items? rest))
  | _ => none

/-- Tells whether tokens stop inside a list, so that the statement goes on in the next line. -/
def isUnfinished : List Token → Bool
  | _ :: .equals :: .openBracket :: rest => !rest.contains .closeBracket
  | _ => false

/-- Joins lines into statements, the first of which starts with `begun`; no list may be unfinished
at the end. -/
def gather? (begun : List Token) : List (List Token) → Option (List (List Token))
  | [] => if begun.isEmpty then some [] else none
  | line :: more =>
    if isUnfinished (begun ++ line) then gather? (begun ++ line) more
    else (gather? [] more).map ((begun ++ line) :: ·)

/-- The statements of a text. -/
def statements? (text : List Char) : Option (List Statement) := do
  let lines ← (splitLines (dropByteOrderMark text)).mapM tokens?
  let whole ← gather? [] lines
  whole.mapM Statement.ofTokens?

end OperandStack.Toml
