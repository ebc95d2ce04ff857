import OperandStack.Proofs.Description
import OperandStack.Proofs.Routes

/-! # The shapes of a configuration

A value is a configuration in four shapes only: an empty table, an empty list, a table with the one
key and a count, and a list of one count. A table and a list with the same one value are read alike,
be it a count or not. A longer list is refused, for what is wrong with its first value if anything
is, and for its length otherwise. A value that is neither a table nor a list is refused by its kind.
-/

namespace OperandStack.Config

/-! ## Lists -/

theorem ofItems_natCast (dialect : Dialect) {count : Nat} (small : count < countBound) :
    ofItems dialect [.integer count] = .ok ⟨count⟩ := by
  rw [ofItems_singleton, readCount_natCast small]
  rfl

/-- The first value of a longer list is read before the length is looked at. -/
theorem ofItems_cons_cons (first second : Value) (more : List Value) :
    ofItems .plain (first :: second :: more) =
      (ofItems .plain [first]).bind fun _ => .error (.invalidLength (more.length + 2)) := by
  rw [ofItems_singleton, ofItems]
  cases readCount first <;> rfl

theorem ofItems_eq_ok_iff (items : List Value) (config : Config) :
    ofItems .plain items = .ok config ↔
      (items = [] ∧ config = ⟨defaultCapacity⟩) ∨
        ∃ count : Nat, count < countBound ∧ items = [.integer count] ∧ config = ⟨count⟩ := by
  constructor
  · intro accepted
    match items with
    | [] => exact .inl ⟨rfl, (Except.ok.inj accepted).symm⟩
    | [value] =>
      rcases count_or_notCount value with ⟨count, small, rfl⟩ | ⟨problem, bad⟩
      · rw [ofItems_natCast _ small] at accepted
        exact .inr ⟨count, small, rfl, (Except.ok.inj accepted).symm⟩
      · rw [ofItems_singleton, readCount_of_notCount bad] at accepted
        cases accepted
    | first :: second :: more =>
      rw [ofItems_cons_cons] at accepted
      cases read : ofItems .plain [first] with
      | ok _ | error _ =>
        rw [read] at accepted
        cases accepted
  · rintro (⟨rfl, rfl⟩ | ⟨count, small, rfl, rfl⟩)
    · rfl
    · exact ofItems_natCast _ small

/-! ## Values -/

theorem read_value_eq_ok_iff (value : Value) (config : Config) :
    (Source.value value).read = .ok config ↔ ofValue .plain value = .ok config :=
  mapError_eq_ok_iff ..

theorem ofValue_eq_ok_iff (value : Value) (config : Config) :
    ofValue .plain value = .ok config ↔
      ((value = .table [] ∨ value = .list []) ∧ config = ⟨defaultCapacity⟩) ∨
        ∃ count : Nat, count < countBound ∧
          (value = .table [(capacityKey, .integer count)] ∨ value = .list [.integer count]) ∧
          config = ⟨count⟩ := by
  cases value with
  | table entries =>
    simp only [ofValue, ofEntries_eq_ok_iff, Value.table.injEq, reduceCtorEq, or_false]
  | list items =>
    simp only [ofValue, ofItems_eq_ok_iff, Value.list.injEq, reduceCtorEq, false_or]
  | null | boolean | integer | double | string =>
    simp only [ofValue, reduceCtorEq, or_self, false_and, and_false, exists_false]

section Answers

variable [Text.Visibility]

/-- A value that is refused by its kind is refused in words that say what it is. -/
theorem answer_of_kind {value : Value}
    (refused : ofValue .plain value = .error (.invalidType value.found .config)) :
    ∃ words, value.DescribedAs words ∧
      (Source.value value).answer =
        .error (some ("invalid type: " ++ words ++ ", expected struct StackConfig")) := by
  refine ⟨_, value.describedAs_found, ?_⟩
  rw [Source.answer, Source.read, mapError_message?, refused, Except.mapError, message_invalidType]
  rfl

/-- A value is a list, a table, or something else that is refused by its kind. -/
theorem answer_of_scalar (value : Value) :
    (∃ items, value = .list items) ∨ (∃ entries, value = .table entries) ∨
      ∃ words, value.DescribedAs words ∧
        (Source.value value).answer =
          .error (some ("invalid type: " ++ words ++ ", expected struct StackConfig")) := by
  cases value with
  | list items => exact .inl ⟨items, rfl⟩
  | table entries => exact .inr (.inl ⟨entries, rfl⟩)
  | null | boolean | integer | double | string => exact .inr (.inr (answer_of_kind rfl))

theorem answer_list_cons_cons (first second : Value) (more : List Value) :
    (Source.value (.list (first :: second :: more))).answer =
      (Source.value (.list [first])).answer.bind fun _ =>
        .error (some ((ConfigError.invalidLength (more.length + 2)).message .plain)) := by
  simp only [Source.answer, Source.read, mapError_message?, ofValue, ofItems_cons_cons]
  cases ofItems .plain [first] <;> rfl

end Answers

/-- A value is read as a configuration if and only if it is an empty table or list, with room for
256 values, or the one key or the one item with a count, with room for so many. Whatever the value,
a list of it and a table that gives it for the key are answered alike, and so is its entry in order.
A list of two or more values is answered as the list of its first value if that is refused, and is
refused for its length if not. A value that is neither a list nor a table is refused in words that
say what it is. -/
theorem four_shapes_accepted [Text.Visibility] :
    (∀ value config, (Source.value value).read = .ok config ↔
      ((value = .table [] ∨ value = .list []) ∧ config.initialCapacity = 256) ∨
        ∃ count : Nat, count < countBound ∧
          (value = .table [("initial_capacity", .integer count)] ∨
            value = .list [.integer count]) ∧
          config.initialCapacity = count) ∧
    (∀ value,
      (Source.value (.list [value])).answer =
          (Source.value (.table [("initial_capacity", value)])).answer ∧
        (Source.value (.list [value])).answer =
          (Source.entries [("initial_capacity", value)]).answer) ∧
    (∀ first second more,
      (Source.value (.list (first :: second :: more))).answer =
        (Source.value (.list [first])).answer.bind fun _ =>
          .error (some ("invalid length " ++ Nat.repr (more.length + 2) ++
            ", expected fewer elements in array"))) ∧
    ∀ value,
      (∃ items, value = .list items) ∨ (∃ entries, value = .table entries) ∨
        ∃ words, value.DescribedAs words ∧
          (Source.value value).answer =
            .error (some ("invalid type: " ++ words ++ ", expected struct StackConfig")) := by
  refine ⟨?_, ?_, answer_list_cons_cons, answer_of_scalar⟩
  · intro value config
    rw [read_value_eq_ok_iff, ofValue_eq_ok_iff]
    cases config
    simp only [Config.mk.injEq]
    rfl
  · intro value
    have list := Source.answer_list value
    exact ⟨list.trans (Source.answer_table value).symm,
      list.trans (Source.answer_entries value).symm⟩

example : (Source.value (.list [.integer (-1), .integer 5])).answer =
    .error (some "invalid value: integer `-1`, expected usize") := by decide

end OperandStack.Config
