import OperandStack.Config.Basic
import OperandStack.Value

/-! # Reading a configuration from plain values

A configuration is given by name, as a table with the one key `initial_capacity`, or by position,
as a list. What is not given keeps its default; what is not known is refused. Reading goes from
left to right and the first problem is the answer. Notations differ in two points, which a
`Dialect` settles: what a list may hold beyond its first value, and how numbers of double
precision are reported.

The record itself says only that its field has a default and that no other key is allowed. The order
in which problems are found and the words of the messages are those of the general reader of records
and of the readers of the notations, and are taken as given here.
-/

namespace OperandStack

/-- What depends on the notation that a configuration is written in. -/
structure Dialect where
  /-- A list may hold more values than are read from it. -/
  ignoresSurplus : Bool
  /-- How a number of double precision is written in a report. -/
  doubles : Double.Style
deriving DecidableEq, Repr

/-- Messages and programs: nothing is ignored, and numbers are reported in the compact style. -/
def Dialect.plain : Dialect := ⟨false, .compact⟩

/-- TOML text: surplus values are ignored, and numbers are reported in the positional style. -/
def Dialect.toml : Dialect := ⟨true, .positional⟩

/-- What a reader wanted where it met a value. -/
inductive Expected where
  /-- A count that a 64-bit word can hold. -/
  | count
  /-- A configuration. -/
  | config
deriving DecidableEq, Repr

/-- Why a value is not a configuration. -/
inductive ConfigError where
  | unknownField (key : String)
  | duplicateField (key : String)
  | missingField (key : String)
  | invalidType (found : Found) (expected : Expected)
  | invalidValue (number : Int)
  | invalidLength (length : Nat)
deriving DecidableEq, Repr

/-- The words for what was wanted. -/
def Expected.describe : Expected → String
  | count => "usize"
  | config => "struct StackConfig"

namespace Config

/-- The one key of a configuration. -/
def capacityKey : String := "initial_capacity"

/-- Counts lie below this bound. -/
def countBound : Nat := UInt64.size

/-- Reads a count. -/
def readCount : Value → Except ConfigError Nat
  | .integer number =>
    if 0 ≤ number ∧ number < countBound then .ok number.toNat
    else .error (.invalidValue number)
  | other => .error (.invalidType other.found .count)

/-- Reads the entries after those that set `given`. -/
def readEntries (given : Option Nat) : List Entry → Except ConfigError Config
  | [] => .ok { initialCapacity := given.getD defaultCapacity }
  | (key, value) :: rest =>
    if key ≠ capacityKey then .error (.unknownField key)
    else if given.isSome then .error (.duplicateField key)
    else
      match readCount value with
      | .ok capacity => readEntries (some capacity) rest
      | .error problem => .error problem

/-- Reads a configuration given by name, in the order of the entries. -/
def ofEntries (entries : List Entry) : Except ConfigError Config := readEntries none entries

/-- Reads a configuration given by position. A list that is too long is refused after its first
value was read, unless the dialect ignores the surplus. -/
def ofItems (dialect : Dialect) : List Value → Except ConfigError Config
  | [] => .ok default
  | first :: more =>
    match readCount first with
    | .ok capacity =>
      if more.isEmpty || dialect.ignoresSurplus then .ok { initialCapacity := capacity }
      else .error (.invalidLength (more.length + 1))
    | .error problem => .error problem

/-- Reads a configuration from any value. -/
def ofValue (dialect : Dialect) : Value → Except ConfigError Config
  | .table entries => ofEntries entries
  | .list items => ofItems dialect items
  | other => .error (.invalidType other.found .config)

/-- Reads the configuration that a table holds under `key`; its other entries do not matter. -/
def ofEntry (dialect : Dialect) (key : String) (entries : List Entry) :
    Except ConfigError Config :=
  match entries.lookup key with
  | some value => ofValue dialect value
  | none => .error (.missingField key)

end Config

/-- The sentence that reports the problem. -/
def ConfigError.message [Text.Visibility] (dialect : Dialect) : ConfigError → String
  | unknownField key => "unknown field `" ++ key ++ "`, expected `" ++ Config.capacityKey ++ "`"
  | duplicateField key => "duplicate field `" ++ key ++ "`"
  | missingField key => "missing field `" ++ key ++ "`"
  | invalidType found expected =>
    "invalid type: " ++ found.describe dialect.doubles ++ ", expected " ++ expected.describe
  | invalidValue number =>
    "invalid value: " ++ (Found.integer number).describe dialect.doubles ++ ", expected " ++
      Expected.count.describe
  | invalidLength length =>
    "invalid length " ++ Nat.repr length ++ ", expected fewer elements in array"

end OperandStack
