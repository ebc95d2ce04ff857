import OperandStack.Proofs.DigitText
import OperandStack.Proofs.Quotation
import OperandStack.Config.Reading

/-! # The words for a value

A reader that wanted something else says what it met. A number of double precision is told by the
decimal that stands for it and a text by its quotation; of lists and tables only the kind is told.
-/

namespace OperandStack

/-- The words for a value as it is told to whoever wanted something else. -/
inductive Value.DescribedAs [Text.Visibility] : Value → String → Prop
  | null : DescribedAs .null "null"
  | yes : DescribedAs (.boolean true) "boolean `true`"
  | no : DescribedAs (.boolean false) "boolean `false`"
  | integer (number : Int) : DescribedAs (.integer number) ("integer `" ++ Int.repr number ++ "`")
  /-- Numbers whose first digit stands for a power of ten from -5 to 15 are written around the
  point. -/
  | double {number : Double} {digits : String}
      (written : number.WrittenAs .toEven (fun first => -5 ≤ first ∧ first ≤ 15) digits) :
      DescribedAs (.double number) ("floating point `" ++ digits ++ "`")
  | string {text : String} {quoted : List Char} (quotes : Text.Quotes '\x22' text.toList quoted) :
      DescribedAs (.string text) ("string " ++ String.ofList quoted)
  | list (items : List Value) : DescribedAs (.list items) "sequence"
  | table (entries : List (String × Value)) : DescribedAs (.table entries) "map"

theorem Value.describedAs_found [Text.Visibility] (value : Value) :
    value.DescribedAs (value.found.describe .compact) := by
  cases value with
  | null => exact .null
  | boolean flag =>
    cases flag with
    | true => exact .yes
    | false => exact .no
  | integer number => exact .integer number
  | double number => exact .double number.writtenAs_compact
  | string text =>
    have quotes := Text.quotes_quote '\x22' text.toList
    have same : (Value.string text).found.describe .compact =
        "string " ++ String.ofList (Text.quote '\x22' text.toList).toList := by
      rw [String.ofList_toList]
      rfl
    rw [same]
    exact .string quotes
  | list items => exact .list items
  | table entries => exact .table entries

end OperandStack
