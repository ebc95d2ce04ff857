import OperandStack.Config.Source
import OperandStack.Proofs.WrittenDocument

/-! # Configurations inside larger texts

A configuration may be the table `stack` of a text that holds other things. As long as these are
named once each, they make no difference: the table is read as its lines would be on their own. That
includes the case that they name something twice, which makes either text malformed.
-/

namespace OperandStack

open Toml

namespace Config

variable {prelude : List WrittenLine} {stack : WrittenTable} {tail : List WrittenTable}

/-- The table is found among the entries, behind names that are not its own. -/
theorem lookup_tableKey (named : stack.name = tableKey) (fresh : tableKey ∉ keysOf prelude) :
    (WrittenDocument.document ⟨prelude, stack :: tail⟩).entries.lookup tableKey =
      some (.table (entriesOf stack.lines)) := by
  have before : (entriesOf prelude).lookup tableKey = none := by
    rw [List.lookup_eq_none_iff]
    intro entry member
    rw [bne_iff_ne]
    rintro same
    exact fresh (same ▸ List.mem_map_of_mem member)
  rw [WrittenDocument.document, Document.entries, List.lookup_append, before, List.map_cons,
    List.map_cons, List.lookup_cons, named, beq_self_eq_true]
  rfl

/-- Around a table, names that are distinct leave it to the table whether the text is ambiguous. -/
theorem unambiguous_around_iff (named : stack.name = tableKey)
    (distinct : (keysOf prelude ++ tableKey :: tail.map WrittenTable.name).Nodup)
    (apart : ∀ table ∈ tail, (keysOf table.lines).Nodup) :
    (WrittenDocument.document ⟨prelude, stack :: tail⟩).Unambiguous ↔
      (keysOf stack.lines).Nodup := by
  have names : (keysOf prelude ++ (stack :: tail).map WrittenTable.name).Nodup := by
    rwa [List.map_cons, named]
  rw [WrittenDocument.unambiguous_iff, List.forall_mem_cons]
  constructor
  · rintro ⟨_, own, _⟩
    exact own
  · intro own
    exact ⟨names, own, apart⟩

/-- What lines on their own are read as. -/
theorem read_toml (lines : List WrittenLine) (between : LineBreak) :
    (Source.toml (WrittenDocument.text ⟨lines, []⟩ between)).read =
      if (keysOf lines).Nodup then (ofEntries (entriesOf lines)).mapError (.config .toml)
      else .error .malformedToml := by
  have entries : Document.entries ⟨entriesOf lines, []⟩ = entriesOf lines := List.append_nil _
  rw [Source.read, ofToml, WrittenDocument.read?_text_lines]
  split_ifs with distinct
  · simp only [entries]
  · rfl

/-- What the lines of a table are read as. -/
theorem read_embeddedToml (named : stack.name = tableKey)
    (distinct : (keysOf prelude ++ tableKey :: tail.map WrittenTable.name).Nodup)
    (apart : ∀ table ∈ tail, (keysOf table.lines).Nodup) (between : LineBreak) :
    (Source.embeddedToml (WrittenDocument.text ⟨prelude, stack :: tail⟩ between)).read =
      if (keysOf stack.lines).Nodup then
        (ofEntries (entriesOf stack.lines)).mapError (.config .toml)
      else .error .malformedToml := by
  have fresh : tableKey ∉ keysOf prelude := fun member =>
    (List.nodup_append.mp distinct).2.2 _ member _ List.mem_cons_self rfl
  simp only [Source.read, ofToml, WrittenDocument.read?_text,
    unambiguous_around_iff named distinct apart]
  split_ifs with own
  · simp only [ofEntry, lookup_tableKey named fresh, ofValue]
  · rfl

/-- A configuration is the same as the table `stack` of a larger text and on its own: the same
configuration, or refused for the same reason. A key of it that is given twice, in whatever quotes,
makes either text malformed, and nothing else does. -/
theorem embedding_unnoticed (named : stack.name = "stack")
    (distinct : (keysOf prelude ++ "stack" :: tail.map WrittenTable.name).Nodup)
    (apart : ∀ table ∈ tail, (keysOf table.lines).Nodup) (between other : LineBreak) :
    let embedded := Source.embeddedToml (WrittenDocument.text ⟨prelude, stack :: tail⟩ between)
    let alone := Source.toml (WrittenDocument.text ⟨stack.lines, []⟩ other)
    embedded.read = alone.read ∧
      (alone.read = .error .malformedToml ↔ ¬(keysOf stack.lines).Nodup) := by
  intro embedded alone
  have inside := read_embeddedToml named distinct apart between
  have outside := read_toml stack.lines other
  refine ⟨inside.trans outside.symm, ?_⟩
  rw [outside]
  split_ifs with own
  · cases ofEntries (entriesOf stack.lines) <;> simp [Except.mapError, own]
  · exact iff_of_true rfl own

/-- A key that is given twice, once in quotes, a count, and a value that is no count, each between a
key and a table of other names. -/
theorem embedding_unnoticed_with_repeated_key :
    let repeated := "initial_capacity=true\n'initial_capacity'=true"
    let count := "initial_capacity=7"
    let other := "'initial_capacity'=true"
    let around (body : String) := "trace=true\n[stack]\n" ++ body ++ "\n[log]\ntrace=true"
    (Source.embeddedToml (around repeated)).read = (Source.toml repeated).read ∧
      (Source.toml repeated).read = .error .malformedToml ∧
      (Source.embeddedToml (around count)).read = (Source.toml count).read ∧
      (Source.toml count).read = .ok ⟨7⟩ ∧
      (Source.embeddedToml (around other)).read = (Source.toml other).read ∧
      (Source.toml other).read = .error (.config .toml (.invalidType (.boolean true) .count)) := by
  have bare (key : List Char) (present : key ≠ []) (valid : ∀ c ∈ key, isKeyChar c = true) :
      WritesKey (String.ofList key) key := .bare present valid
  have quoted : WritesKey "initial_capacity" "'initial_capacity'".toList :=
    .quoted (WritesText.of_all "initial_capacity".toList (show isMark '\x27' = true from rfl) rfl)
  have yes {key : String} {text : List Char} (named : WritesKey key text) :
      WritesLine (some (key, .boolean true)) (text ++ "=true".toList) :=
    .entry blanks_nil named blanks_nil blanks_nil (.scalar .yes) (.blanks blanks_nil)
  have opens {key : String} {text : List Char} (named : WritesKey key text) :
      WritesHeader key ('[' :: (text ++ [']'])) :=
    .header blanks_nil blanks_nil named blanks_nil (.blanks blanks_nil)
  have trace := yes (bare "trace".toList (List.cons_ne_nil _ _) (List.all_eq_true.mp rfl))
  have first :=
    yes (bare "initial_capacity".toList (List.cons_ne_nil _ _) (List.all_eq_true.mp rfl))
  have stack := opens (bare "stack".toList (List.cons_ne_nil _ _) (List.all_eq_true.mp rfl))
  have log := opens (bare "log".toList (List.cons_ne_nil _ _) (List.all_eq_true.mp rfl))
  have digits : Nat.toDigits 10 7 = ['7'] := by decide
  have number : WritesNumber (.integer 7) ['7'] :=
    .integer .nothing (digits ▸ .single '7') (by decide)
  have seven : WritesLine (some ("initial_capacity", .integer 7)) "initial_capacity=7".toList :=
    .entry blanks_nil
      (bare "initial_capacity".toList (List.cons_ne_nil _ _) (List.all_eq_true.mp rfl))
      blanks_nil blanks_nil (.scalar (.number number)) (.blanks blanks_nil)
  have names : ["trace", "stack", "log"].Nodup := by decide
  have names_log : ["trace"].Nodup := by decide
  have twice : ¬["initial_capacity", "initial_capacity"].Nodup := by decide
  have around (lines : List WrittenLine) :=
    @embedding_unnoticed [⟨_, _, trace⟩] ⟨_, _, stack, lines⟩ [⟨_, _, log, [⟨_, _, trace⟩]⟩]
      rfl names (List.forall_mem_singleton.mpr names_log) .feed .feed
  obtain ⟨same, malformed⟩ := around [⟨_, _, first⟩, ⟨_, _, yes quoted⟩]
  have accepted := read_toml [⟨_, _, seven⟩] .feed
  have refused := read_toml [⟨_, _, yes quoted⟩] .feed
  exact ⟨same, malformed.mpr twice, (around [⟨_, _, seven⟩]).1, accepted,
    (around [⟨_, _, yes quoted⟩]).1, refused⟩

end Config

end OperandStack
