import OperandStack.Config.Reading
import OperandStack.Toml.Document

/-! # Where configurations come from

A configuration is made by settings in a program or read from a value, from entries in order, from
TOML text that holds it, or from TOML text that holds it as the table `stack`. A text that is not
TOML is refused before its contents are looked at.
-/

namespace OperandStack

/-- A place to take a configuration from. -/
inductive Config.Source where
  /-- Settings of the initial capacity, made in order on the default. -/
  | settings (capacities : List Nat)
  | value (given : Value)
  /-- Entries in order, in which a key may come twice. -/
  | entries (given : List Entry)
  | toml (text : String)
  /-- A larger TOML text that holds the configuration as its table `stack`. -/
  | embeddedToml (text : String)

/-- Why no configuration could be taken. -/
inductive SourceError where
  /-- The text is not TOML. -/
  | malformedToml
  /-- What is given, in a dialect, is not a configuration. -/
  | config (dialect : Dialect) (problem : ConfigError)
deriving DecidableEq, Repr

/-- What a caller is told of a failure: what is wrong with a value is told by a message. -/
def SourceError.message? [Text.Visibility] : SourceError → Option String
  | malformedToml => none
  | config dialect problem => some (problem.message dialect)

namespace Config

/-- The key that holds the configuration in a larger document. -/
def tableKey : String := "stack"

/-- Reads the entries of a TOML text with `read`. -/
def ofToml (read : List Entry → Except ConfigError Config) (text : String) :
    Except SourceError Config :=
  match Toml.Document.read? text with
  | some document => (read document.entries).mapError (.config .toml)
  | none => .error .malformedToml

/-- Takes the configuration from where it is. -/
def Source.read : Source → Except SourceError Config
  | settings capacities => .ok (ofSettings capacities)
  | value given => (ofValue .plain given).mapError (.config .plain)
  | entries given => (ofEntries given).mapError (.config .plain)
  | toml text => ofToml ofEntries text
  | embeddedToml text => ofToml (ofEntry .toml tableKey) text

/-- What a caller is told when a configuration is taken from where it is. -/
def Source.answer [Text.Visibility] (source : Source) : Except (Option String) Config :=
  source.read.mapError SourceError.message?

end Config

end OperandStack
