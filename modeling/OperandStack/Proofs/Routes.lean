import OperandStack.Config.Source
import OperandStack.Proofs.FirstOffence
import OperandStack.Proofs.WrittenDocument

/-! # One configuration by several routes

A value for the capacity may come as the entry of a text, however the text is laid out, as the entry
of a table, as an entry in order, or as the one value of a list. The answer is the same by every
route, and for a count it is what settings in a program arrive at. Only numbers of double precision
are reported in a style of their own, which depends on the notation.
-/

namespace OperandStack

open Toml

namespace Config

/-! ## Values for the capacity -/

theorem ofEntries_capacity (value : Value) :
    ofEntries [(capacityKey, value)] = (readCount value).map Config.mk := by
  have unseen : ¬(none : Option Nat).isSome = true := Bool.false_ne_true
  rw [ofEntries, readEntries, if_neg (not_not_intro rfl), if_neg unseen]
  cases readCount value <;> rfl

theorem ofItems_singleton (dialect : Dialect) (value : Value) :
    ofItems dialect [value] = (readCount value).map Config.mk := by
  rw [ofItems]
  cases readCount value <;> rfl

/-- A number of a text that is not negative is a count. -/
theorem lt_countBound_of_fitsWord {count : Nat} (fits : fitsWord count = true) :
    count < countBound := by
  rw [fitsWord, Bool.and_eq_true, decide_eq_true_eq, decide_eq_true_eq] at fits
  have bound : countBound = 0x10000000000000000 := rfl
  omega

section Answers

variable [Text.Visibility]

/-- What a caller is told in a dialect about a value for the capacity. -/
def told (dialect : Dialect) (value : Value) : Except (Option String) Config :=
  ((readCount value).map Config.mk).mapError fun problem => some (problem.message dialect)

theorem told_natCast {count : Nat} (small : count < countBound) (dialect : Dialect) :
    told dialect (.integer count) = .ok ⟨count⟩ := by
  rw [told, readCount_natCast small]
  rfl

theorem told_of_notCount {value : Value} {problem : ConfigError} (bad : NotCount value problem)
    (dialect : Dialect) : told dialect value = .error (some (problem.message dialect)) := by
  rw [told, readCount_of_notCount bad]
  rfl

theorem describe_found {value : Value} (plain : ∀ number, value ≠ .double number)
    (style other : Double.Style) : value.found.describe style = value.found.describe other := by
  cases value with
  | double number => exact absurd rfl (plain number)
  | null | boolean | integer | string | list | table => rfl

theorem NotCount.message_eq {value : Value} {problem : ConfigError} (bad : NotCount value problem)
    (plain : ∀ number, value ≠ .double number) (dialect other : Dialect) :
    problem.message dialect = problem.message other := by
  have same := describe_found plain dialect.doubles other.doubles
  unfold ConfigError.message
  cases bad with
  | outside =>
    rw [Value.found] at same
    dsimp only
    rw [same]
  | other =>
    dsimp only
    rw [same]

/-- Dialects word the same problem differently only if it is about a number of double precision. -/
theorem told_eq_told {value : Value} (plain : ∀ number, value ≠ .double number)
    (dialect other : Dialect) : told dialect value = told other value := by
  rcases count_or_notCount value with ⟨count, small, rfl⟩ | ⟨problem, bad⟩
  · rw [told_natCast small, told_natCast small]
  · rw [told_of_notCount bad, told_of_notCount bad, bad.message_eq plain dialect other]

/-! ## Routes -/

namespace Source

theorem answer_entries (value : Value) :
    (entries [(capacityKey, value)]).answer = told .plain value := by
  rw [answer, read, mapError_message?, ofEntries_capacity, told]

theorem answer_table (value : Value) :
    (Source.value (.table [(capacityKey, value)])).answer = told .plain value :=
  answer_entries value

theorem answer_list (value : Value) :
    (Source.value (.list [value])).answer = told .plain value := by
  rw [answer, read, mapError_message?, ofValue, ofItems_singleton, told]

theorem answer_toml {text : String} {value : Value}
    (given : Document.read? text = some ⟨[(capacityKey, value)], []⟩) :
    (toml text).answer = told .toml value := by
  have entries : Document.entries ⟨[(capacityKey, value)], []⟩ = [(capacityKey, value)] := rfl
  rw [answer, read, ofToml, given]
  simp only [entries, mapError_message?, ofEntries_capacity, told]

/-- The last of several settings is the one that counts. -/
theorem answer_settings (earlier : List Nat) (capacity : Nat) :
    (settings (earlier ++ [capacity])).answer = .ok ⟨capacity⟩ := by
  rw [answer, read, ofSettings, List.foldl_append]
  rfl

end Source

/-- However a text gives the capacity, with blank lines and comments around it, the answer is the
one for the table, for the entry, and for the list with that value. For a count it is the
configuration that any settings ending in the count arrive at. -/
theorem routes_agree {before after : List WrittenLine} {setting : WrittenLine} {value : Value}
    (nothingBefore : ∀ line ∈ before, line.given? = none)
    (nothingAfter : ∀ line ∈ after, line.given? = none)
    (gives : setting.given? = some ("initial_capacity", value))
    (plain : ∀ number, value ≠ .double number) (between : LineBreak) :
    let text := WrittenDocument.text ⟨before ++ setting :: after, []⟩ between
    (Source.toml text).answer = (Source.value (.table [("initial_capacity", value)])).answer ∧
      (Source.toml text).answer = (Source.entries [("initial_capacity", value)]).answer ∧
      (Source.toml text).answer = (Source.value (.list [value])).answer ∧
      ∀ count : Nat, value = .integer count →
        (Source.toml text).answer = .ok ⟨count⟩ ∧
          ∀ earlier,
            (Source.toml text).answer = (Source.settings (earlier ++ [count])).answer := by
  intro text
  have reads : Document.read? text = some ⟨[("initial_capacity", value)], []⟩ :=
    WrittenDocument.read?_text_of_only nothingBefore nothingAfter gives between
  have answer : (Source.toml text).answer = told .plain value :=
    (Source.answer_toml reads).trans (told_eq_told plain .toml .plain)
  refine ⟨answer.trans (Source.answer_table value).symm,
    answer.trans (Source.answer_entries value).symm,
    answer.trans (Source.answer_list value).symm, ?_⟩
  rintro count rfl
  have written := setting.written
  rw [gives] at written
  have accepted := answer.trans (told_natCast (lt_countBound_of_fitsWord written.fitsWord) .plain)
  exact ⟨accepted, fun earlier => accepted.trans (Source.answer_settings earlier count).symm⟩

end Answers

/-- A count in groups of digits under a quoted key. -/
theorem routes_agree_for_grouped_count :
    (Source.toml "# room\n\n'initial_capacity' = +1_024").answer = .ok ⟨1024⟩ ∧
      (Source.toml "# room\n\n'initial_capacity' = +1_024").answer =
        (Source.settings [7, 1024]).answer := by
  have digits : Nat.toDigits 10 1024 = ['1', '0', '2', '4'] := by decide
  have grouped : Grouped (Nat.toDigits 10 1024) ['1', '_', '0', '2', '4'] := by
    rw [digits]
    exact .apart '1' (.next '0' (.next '2' (.single '4')))
  have number : WritesNumber (.integer 1024) ['+', '1', '_', '0', '2', '4'] :=
    .integer .plus grouped (by decide)
  have key : WritesKey "initial_capacity" "'initial_capacity'".toList :=
    .quoted (WritesText.of_all "initial_capacity".toList (show isMark '\x27' = true from rfl) rfl)
  have space : Blanks [' '] := by decide
  have comment : WritesLine none "# room".toList :=
    .nothing (.comment blanks_nil (show ∀ c ∈ " room".toList, isTextChar c = true from
      List.all_eq_true.mp rfl))
  have blank : WritesLine none [] := .nothing (.blanks blanks_nil)
  have setting : WritesLine (some ("initial_capacity", .integer 1024))
      "'initial_capacity' = +1_024".toList :=
    .entry blanks_nil key space space (.scalar (.number number)) (.blanks blanks_nil)
  obtain ⟨_, _, _, count⟩ := @routes_agree _ [⟨_, _, comment⟩, ⟨_, _, blank⟩] [] ⟨_, _, setting⟩ _
    (by simp) (by simp) rfl (fun _ same => nomatch same) .feed
  exact ⟨(count 1024 rfl).1, (count 1024 rfl).2 [7]⟩

end Config

end OperandStack
