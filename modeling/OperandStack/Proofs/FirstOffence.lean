import OperandStack.Config.Source
import OperandStack.Proofs.Description
import Mathlib.Data.List.Basic

/-! # Configurations given by entries

Entries are read from left to right. Each of them is offensive or not in view of the entries before
it alone, and the first offence is what the reader answers, whatever comes after. Entries without an
offence are a configuration, and there are few of them: none at all, or the one key with a count.
-/

namespace OperandStack.Config

/-! ## Counts -/

/-- Why a value is not a count. -/
inductive NotCount : Value → ConfigError → Prop
  | outside {number : Int} (out : ¬(0 ≤ number ∧ number < countBound)) :
      NotCount (.integer number) (.invalidValue number)
  | other {value : Value} (kind : ∀ number, value ≠ .integer number) :
      NotCount value (.invalidType value.found .count)

theorem readCount_natCast {count : Nat} (small : count < countBound) :
    readCount (.integer count) = .ok count := by
  have inside : 0 ≤ (count : Int) ∧ (count : Int) < countBound := by omega
  simp only [readCount, inside, and_self, if_true, Int.toNat_natCast]

theorem readCount_of_notCount {value : Value} {problem : ConfigError}
    (bad : NotCount value problem) : readCount value = .error problem := by
  cases bad with
  | outside out => simp only [readCount, if_neg out]
  | other kind =>
    cases value with
    | integer number => exact absurd rfl (kind number)
    | null | boolean | double | string | list | table => rfl

/-- A value is a count or there is a reason why not. -/
theorem count_or_notCount (value : Value) :
    (∃ count : Nat, count < countBound ∧ value = .integer count) ∨
      ∃ problem, NotCount value problem := by
  cases value with
  | integer number =>
    by_cases inside : 0 ≤ number ∧ number < countBound
    · refine .inl ⟨number.toNat, by omega, ?_⟩
      rw [Int.toNat_of_nonneg inside.1]
    · exact .inr ⟨_, .outside inside⟩
  | null | boolean | double | string | list | table =>
    exact .inr ⟨_, .other fun _ same => nomatch same⟩

/-! ## Offences -/

/-- What is wrong with an entry in view of the entries before it: its key is not known, or was given
before, or its value is not a count. -/
inductive Offence (before : List Entry) : Entry → ConfigError → Prop
  | unknown {key : String} {value : Value} (other : key ≠ capacityKey) :
      Offence before (key, value) (.unknownField key)
  | repeated {value : Value} (given : capacityKey ∈ before.map Prod.fst) :
      Offence before (capacityKey, value) (.duplicateField capacityKey)
  | value {value : Value} {problem : ConfigError} (first : capacityKey ∉ before.map Prod.fst)
      (bad : NotCount value problem) : Offence before (capacityKey, value) problem

/-- The first offence among entries that come after others. -/
inductive FirstOffence : List Entry → List Entry → ConfigError → Prop
  | here {before rest : List Entry} {entry : Entry} {problem : ConfigError}
      (offence : Offence before entry problem) : FirstOffence before (entry :: rest) problem
  | later {before rest : List Entry} {entry : Entry} {problem : ConfigError}
      (fine : ∀ other, ¬Offence before entry other)
      (first : FirstOffence (before ++ [entry]) rest problem) :
      FirstOffence before (entry :: rest) problem

/-- What comes after the first offence does not matter. -/
theorem FirstOffence.append {before entries : List Entry} {problem : ConfigError}
    (first : FirstOffence before entries problem) (more : List Entry) :
    FirstOffence before (entries ++ more) problem := by
  induction first with
  | here offence => exact .here offence
  | later fine _ ih => exact .later fine ih

/-- Where there is an offence there is a first one. -/
theorem exists_firstOffence {before middle : List Entry} {entry : Entry} {problem : ConfigError}
    (offence : Offence (before ++ middle) entry problem) :
    ∃ first, FirstOffence before (middle ++ [entry]) first := by
  induction middle generalizing before with
  | nil =>
    rw [List.append_nil] at offence
    exact ⟨problem, .here offence⟩
  | cons head rest ih =>
    by_cases fine : ∀ other, ¬Offence before head other
    · have further : Offence ((before ++ [head]) ++ rest) entry problem := by
        rwa [List.append_assoc, List.singleton_append]
      obtain ⟨first, found⟩ := ih further
      exact ⟨first, .later fine found⟩
    · obtain ⟨other, here⟩ := not_forall_not.mp fine
      exact ⟨other, .here here⟩

/-- An offence after entries that are fine is the first one. -/
theorem Offence.firstOffence {before middle : List Entry} {entry : Entry} {problem : ConfigError}
    (offence : Offence (before ++ middle) entry problem)
    (fine : ∀ other, ¬FirstOffence before middle other) (after : List Entry) :
    FirstOffence before (middle ++ entry :: after) problem := by
  induction middle generalizing before with
  | nil =>
    rw [List.append_nil] at offence
    exact .here offence
  | cons head rest ih =>
    have further : Offence ((before ++ [head]) ++ rest) entry problem := by
      rwa [List.append_assoc, List.singleton_append]
    have headFine : ∀ other, ¬Offence before head other := fun other here => fine other (.here here)
    exact .later headFine (ih further fun other first => fine other (.later headFine first))

/-! ## Reading -/

/-- What a reader remembers of the entries before. -/
def Remembers (given : Option Nat) (before : List Entry) : Prop :=
  given.isSome = true ↔ capacityKey ∈ before.map Prod.fst

theorem remembers_nil : Remembers none [] := by
  simp [Remembers]

theorem remembers_concat (count : Nat) (before : List Entry) (value : Value) :
    Remembers (some count) (before ++ [(capacityKey, value)]) := by
  simp [Remembers]

/-- An offence ends the reading. -/
theorem readEntries_of_offence {given : Option Nat} {before : List Entry}
    (remembers : Remembers given before) {entry : Entry} {problem : ConfigError}
    (offence : Offence before entry problem) (rest : List Entry) :
    readEntries given (entry :: rest) = .error problem := by
  cases offence with
  | unknown other => rw [readEntries, if_pos other]
  | repeated present =>
    have seen : given.isSome = true := remembers.mpr present
    rw [readEntries, if_neg (not_not_intro rfl), if_pos seen]
  | value first bad =>
    have unseen : ¬given.isSome = true := fun seen => first (remembers.mp seen)
    rw [readEntries, if_neg (not_not_intro rfl), if_neg unseen, readCount_of_notCount bad]

/-- The first count is what is given from then on. -/
theorem readEntries_count {count : Nat} (small : count < countBound) (rest : List Entry) :
    readEntries none ((capacityKey, .integer count) :: rest) = readEntries (some count) rest := by
  have unseen : ¬(none : Option Nat).isSome = true := Bool.false_ne_true
  rw [readEntries, if_neg (not_not_intro rfl), if_neg unseen, readCount_natCast small]

/-- An entry without an offence is the first of its key and gives a count, which is read. -/
theorem readEntries_of_fine {given : Option Nat} {before : List Entry}
    (remembers : Remembers given before) {entry : Entry}
    (fine : ∀ problem, ¬Offence before entry problem) :
    ∃ count : Nat, count < countBound ∧ entry = (capacityKey, .integer count) ∧
      ∀ rest, readEntries given (entry :: rest) = readEntries (some count) rest := by
  obtain ⟨key, value⟩ := entry
  obtain rfl : key = capacityKey := by
    by_contra other
    exact fine _ (.unknown other)
  have first : capacityKey ∉ before.map Prod.fst := fun present => fine _ (.repeated present)
  rcases count_or_notCount value with ⟨count, small, rfl⟩ | ⟨problem, bad⟩
  · obtain rfl : given = none :=
      Option.not_isSome_iff_eq_none.mp fun seen => first (remembers.mp seen)
    exact ⟨count, small, rfl, readEntries_count small⟩
  · exact absurd (.value first bad) (fine problem)

/-- The reader fails with the first offence and with nothing else. -/
theorem readEntries_eq_error_iff {given : Option Nat} {before : List Entry}
    (remembers : Remembers given before) (entries : List Entry) (problem : ConfigError) :
    readEntries given entries = .error problem ↔ FirstOffence before entries problem := by
  induction entries generalizing given before with
  | nil =>
    constructor
    · intro refused
      cases refused
    · intro first
      cases first
  | cons entry rest ih =>
    by_cases fine : ∀ other, ¬Offence before entry other
    · obtain ⟨count, _, rfl, reads⟩ := readEntries_of_fine remembers fine
      rw [reads, ih (remembers_concat count before (.integer count))]
      constructor
      · exact .later fine
      · intro first
        cases first with
        | here offence => exact absurd offence (fine problem)
        | later _ first => exact first
    · obtain ⟨other, offence⟩ := not_forall_not.mp fine
      have refused := readEntries_of_offence remembers offence rest
      constructor
      · intro failed
        rw [refused] at failed
        obtain rfl := Except.error.inj failed
        exact .here offence
      · intro first
        cases first with
        | here offence => exact readEntries_of_offence remembers offence rest
        | later fine _ => exact absurd offence (fine other)

theorem ofEntries_eq_error_iff (entries : List Entry) (problem : ConfigError) :
    ofEntries entries = .error problem ↔ FirstOffence [] entries problem :=
  readEntries_eq_error_iff remembers_nil entries problem

/-- No entries are the default, one entry of the key with a count is that count, and nothing else
is a configuration. -/
theorem ofEntries_eq_ok_iff (entries : List Entry) (config : Config) :
    ofEntries entries = .ok config ↔
      (entries = [] ∧ config = ⟨defaultCapacity⟩) ∨
        ∃ count : Nat, count < countBound ∧ entries = [(capacityKey, .integer count)] ∧
          config = ⟨count⟩ := by
  constructor
  · intro accepted
    cases entries with
    | nil => exact .inl ⟨rfl, (Except.ok.inj accepted).symm⟩
    | cons entry rest =>
      have fine : ∀ problem, ¬Offence [] entry problem := by
        intro problem offence
        rw [ofEntries, readEntries_of_offence remembers_nil offence] at accepted
        cases accepted
      obtain ⟨count, small, rfl, reads⟩ := readEntries_of_fine remembers_nil fine
      rw [ofEntries, reads] at accepted
      have remembers := remembers_concat count [] (.integer count)
      cases rest with
      | nil => exact .inr ⟨count, small, rfl, (Except.ok.inj accepted).symm⟩
      | cons second more =>
        -- A second entry is an offence, whatever its key.
        by_cases fine : ∀ problem, ¬Offence [(capacityKey, .integer count)] second problem
        · obtain ⟨other, _, rfl, _⟩ := readEntries_of_fine remembers fine
          exact absurd (.repeated (by simp)) (fine _)
        · obtain ⟨problem, offence⟩ := not_forall_not.mp fine
          rw [readEntries_of_offence remembers offence] at accepted
          cases accepted
  · rintro (⟨rfl, rfl⟩ | ⟨count, small, rfl, rfl⟩)
    · rfl
    · exact readEntries_count small []

/-- A problem that is passed on accepts nothing. -/
theorem mapError_eq_ok_iff (read : Except ConfigError Config) (pass : ConfigError → SourceError)
    (config : Config) : read.mapError pass = .ok config ↔ read = .ok config := by
  cases read with
  | ok other => rw [Except.mapError, Except.ok.injEq, Except.ok.injEq]
  | error problem => simp only [Except.mapError, reduceCtorEq]

theorem read_entries_eq_ok_iff (entries : List Entry) (config : Config) :
    (Source.entries entries).read = .ok config ↔ ofEntries entries = .ok config :=
  mapError_eq_ok_iff ..

theorem read_entries_eq_error_iff (entries : List Entry) (failure : SourceError) :
    (Source.entries entries).read = .error failure ↔
      ∃ problem, FirstOffence [] entries problem ∧ failure = .config .plain problem := by
  simp only [← ofEntries_eq_error_iff, Source.read]
  cases ofEntries entries with
  | ok config => exact ⟨nofun, fun ⟨_, refused, _⟩ => nomatch refused⟩
  | error problem =>
    constructor
    · intro refused
      exact ⟨problem, rfl, (Except.error.inj refused).symm⟩
    · rintro ⟨_, same, rfl⟩
      rw [Except.error.inj same]
      rfl

/-- Entries that are refused are refused for the same reason whatever follows them. -/
theorem read_entries_append (entries : List Entry) (failure : SourceError) (more : List Entry)
    (refused : (Source.entries entries).read = .error failure) :
    (Source.entries (entries ++ more)).read = .error failure := by
  rw [read_entries_eq_error_iff] at refused ⊢
  obtain ⟨problem, first, rfl⟩ := refused
  exact ⟨problem, first.append more, rfl⟩

/-! ## Messages -/

/-- What is said of an entry in view of the entries before it. -/
inductive Complaint [Text.Visibility] (before : List Entry) : Entry → String → Prop
  | unknown {key : String} {value : Value} (other : key ≠ "initial_capacity") :
      Complaint before (key, value) ("unknown field `" ++ key ++ "`, expected `initial_capacity`")
  | repeated {value : Value} (given : "initial_capacity" ∈ before.map Prod.fst) :
      Complaint before ("initial_capacity", value) "duplicate field `initial_capacity`"
  | outside {number : Int} (first : "initial_capacity" ∉ before.map Prod.fst)
      (out : ¬(0 ≤ number ∧ number < countBound)) :
      Complaint before ("initial_capacity", .integer number)
        ("invalid value: integer `" ++ Int.repr number ++ "`, expected usize")
  | other {value : Value} {words : String} (first : "initial_capacity" ∉ before.map Prod.fst)
      (kind : ∀ number, value ≠ .integer number) (described : value.DescribedAs words) :
      Complaint before ("initial_capacity", value) ("invalid type: " ++ words ++ ", expected usize")

section Messages

variable [Text.Visibility]

theorem message_invalidType (found : Found) (expected : Expected) :
    (ConfigError.invalidType found expected).message .plain =
      "invalid type: " ++ found.describe .compact ++ (", expected " ++ expected.describe) :=
  String.append_assoc

theorem message_unknownField (key : String) :
    (ConfigError.unknownField key).message .plain =
      "unknown field `" ++ key ++ "`, expected `initial_capacity`" := by
  have words : "`, expected `" ++ (capacityKey ++ "`") = "`, expected `initial_capacity`" := rfl
  calc (ConfigError.unknownField key).message .plain
    _ = "unknown field `" ++ key ++ "`, expected `" ++ (capacityKey ++ "`") := String.append_assoc
    _ = "unknown field `" ++ key ++ ("`, expected `" ++ (capacityKey ++ "`")) := String.append_assoc
    _ = "unknown field `" ++ key ++ "`, expected `initial_capacity`" :=
      congrArg ("unknown field `" ++ key ++ ·) words

theorem message_duplicateField :
    (ConfigError.duplicateField capacityKey).message .plain =
      "duplicate field `initial_capacity`" :=
  rfl

theorem message_invalidValue (number : Int) :
    (ConfigError.invalidValue number).message .plain =
      "invalid value: integer `" ++ Int.repr number ++ "`, expected usize" := by
  have before : "invalid value: " ++ "integer `" = "invalid value: integer `" := rfl
  have after : "`" ++ (", expected " ++ Expected.count.describe) = "`, expected usize" := rfl
  calc (ConfigError.invalidValue number).message .plain
    _ = "invalid value: " ++ ("integer `" ++ Int.repr number ++ "`") ++
        (", expected " ++ Expected.count.describe) := String.append_assoc
    _ = "invalid value: " ++ "integer `" ++ Int.repr number ++
        ("`" ++ (", expected " ++ Expected.count.describe)) := by
      simp only [String.append_assoc]
    _ = "invalid value: integer `" ++ Int.repr number ++ "`, expected usize" :=
      congr (congrArg (fun front => (front ++ Int.repr number ++ ·)) before) after

/-- Of an entry whose key was given before nothing else is said. -/
theorem Complaint.eq_of_repeated {before : List Entry} {value : Value} {words : String}
    (complaint : Complaint before ("initial_capacity", value) words)
    (given : "initial_capacity" ∈ before.map Prod.fst) :
    words = "duplicate field `initial_capacity`" := by
  cases complaint with
  | unknown other => exact absurd rfl other
  | repeated => rfl
  | outside first | other first => exact absurd given first

/-- What is wrong with an entry is what is said of it. -/
theorem Offence.complaint {before : List Entry} {entry : Entry} {problem : ConfigError}
    (offence : Offence before entry problem) : Complaint before entry (problem.message .plain) := by
  cases offence with
  | unknown other =>
    rw [message_unknownField]
    exact .unknown other
  | repeated given =>
    rw [message_duplicateField]
    exact .repeated given
  | value first bad =>
    cases bad with
    | outside out =>
      rw [message_invalidValue]
      exact .outside first out
    | other kind =>
      rw [message_invalidType]
      exact .other first kind (Value.describedAs_found _)

/-- A problem found on reading is told by its message. -/
theorem mapError_message? (dialect : Dialect) (read : Except ConfigError Config) :
    (read.mapError (.config dialect)).mapError SourceError.message? =
      read.mapError fun problem => some (problem.message dialect) := by
  cases read <;> rfl

/-- The first offence is what is reported, and the message says of the entry what is wrong. -/
theorem answer_of_offence {before : List Entry} {entry : Entry} {problem : ConfigError}
    {config : Config} (accepted : (Source.entries before).read = .ok config)
    (offence : Offence before entry problem) (after : List Entry) :
    (Source.entries (before ++ entry :: after)).read = .error (.config .plain problem) ∧
      ∃ words, Complaint before entry words ∧
        (Source.entries (before ++ entry :: after)).answer = .error (some words) := by
  have fine : ∀ other, ¬FirstOffence [] before other := by
    intro other first
    rw [read_entries_eq_ok_iff, (ofEntries_eq_error_iff before other).mpr first] at accepted
    cases accepted
  have here : Offence ([] ++ before) entry problem := offence
  have refused :
      (Source.entries (before ++ entry :: after)).read = .error (.config .plain problem) :=
    (read_entries_eq_error_iff _ _).mpr ⟨problem, here.firstOffence fine after, rfl⟩
  refine ⟨refused, _, offence.complaint, ?_⟩
  rw [Source.answer, refused]
  rfl

end Messages

/-- Entries in order are a configuration if there are none, with room for 256 values, or if they are
the one key with a count, with room for so many. Otherwise the first offence from the left is the
answer, and the message says what is wrong with that entry. So entries that are refused are refused
for the same reason whatever follows them, and nothing after an offence makes a difference. -/
theorem entries_read_up_to_first_offence [Text.Visibility] :
    (∀ entries config, (Source.entries entries).read = .ok config ↔
      (entries = [] ∧ config.initialCapacity = 256) ∨
        ∃ count : Nat, count < countBound ∧ entries = [("initial_capacity", .integer count)] ∧
          config.initialCapacity = count) ∧
    (∀ entries failure, (Source.entries entries).read = .error failure ↔
      ∃ problem, FirstOffence [] entries problem ∧ failure = .config .plain problem) ∧
    (∀ before config entry problem after, (Source.entries before).read = .ok config →
      Offence before entry problem →
        (Source.entries (before ++ entry :: after)).read = .error (.config .plain problem) ∧
          ∃ words, Complaint before entry words ∧
            (Source.entries (before ++ entry :: after)).answer = .error (some words)) ∧
    (∀ entries failure more, (Source.entries entries).read = .error failure →
      (Source.entries (entries ++ more)).read = .error failure) ∧
    ∀ before entry problem after other, Offence before entry problem →
      (Source.entries (before ++ entry :: after)).read =
        (Source.entries (before ++ entry :: other)).read := by
  refine ⟨?_, read_entries_eq_error_iff,
    fun _ _ _ _ after accepted offence => answer_of_offence accepted offence after,
    read_entries_append, ?_⟩
  · intro entries config
    rw [read_entries_eq_ok_iff, ofEntries_eq_ok_iff]
    cases config
    simp only [Config.mk.injEq]
    rfl
  · intro before entry problem after other offence
    have here : Offence ([] ++ before) entry problem := offence
    obtain ⟨first, found⟩ := exists_firstOffence here
    have refused : (Source.entries (before ++ [entry])).read = .error (.config .plain first) :=
      (read_entries_eq_error_iff _ _).mpr ⟨first, found, rfl⟩
    have split : ∀ rest, before ++ entry :: rest = (before ++ [entry]) ++ rest := by simp
    rw [split after, split other, read_entries_append _ _ after refused,
      read_entries_append _ _ other refused]

/-- The second giving of the key is the first offence, ahead of its value and of what follows, and
is told as such. -/
theorem entries_read_up_to_first_offence_at_repeated_key :
    let given : Entry := ("initial_capacity", .integer 7)
    let again : Entry := ("initial_capacity", .string "x")
    let failure : SourceError := .config .plain (.duplicateField "initial_capacity")
    (Source.entries [given, again]).read = .error failure ∧
      (Source.entries [given, again, ("max_depth", .null)]).read = .error failure ∧
      Offence [given] again (.duplicateField "initial_capacity") ∧
      (Source.entries [given, again, given]).read =
        (Source.entries [given, again, ("max_depth", .null)]).read ∧
      (Source.entries [given]).read = .ok ⟨7⟩ ∧
      (Source.entries [given, again, ("max_depth", .null)]).answer =
        .error (some "duplicate field `initial_capacity`") := by
  intro given again failure
  have refused : (Source.entries [given, again]).read = .error failure := by rfl
  have accepted : (Source.entries [given]).read = .ok ⟨7⟩ := by rfl
  have offence : Offence [given] again (.duplicateField "initial_capacity") :=
    .repeated List.mem_cons_self
  obtain ⟨_, _, told, extend, indifferent⟩ := entries_read_up_to_first_offence
  obtain ⟨_, _, complaint, answer⟩ :=
    told [given] _ again _ [("max_depth", .null)] accepted offence
  exact ⟨refused, extend _ failure [("max_depth", .null)] refused, offence,
    indifferent [given] again _ [given] [("max_depth", .null)] offence, accepted,
    complaint.eq_of_repeated List.mem_cons_self ▸ answer⟩

end OperandStack.Config
