import OperandStack.Text.Inspect

/-! # Stack configurations

A configuration says how many values a new stack has room for from the start.
-/

namespace OperandStack

/-- The room a stack is given when nothing else is said. -/
def defaultCapacity : Nat := 256

/-- How a stack is set up. -/
structure Config where
  initialCapacity : Nat := defaultCapacity
deriving DecidableEq, Repr

namespace Config

/-- The configuration with everything at its default. -/
def default : Config := {}

instance : Inhabited Config := ⟨default⟩

/-- The configuration with room for `capacity` values. -/
def withInitialCapacity (config : Config) (capacity : Nat) : Config :=
  { config with initialCapacity := capacity }

/-- Starts from the default and makes settings one after the other. -/
def ofSettings (capacities : List Nat) : Config := capacities.foldl withInitialCapacity default

/-- The configuration as a record on one line. -/
def inspect (config : Config) : String :=
  Text.inlineRecord "StackConfig" [("initial_capacity", Inspect.inline config.initialCapacity)]

end Config

end OperandStack
