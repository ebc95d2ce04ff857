import OperandStack.Toml.Token
import Mathlib.Data.List.Basic

/-! # Reading a line piece by piece

The reader of a line is in one of three kinds of places: outside, in a word, or in a string. Seen
from outside, a line is read piece by piece: `Scans text tokens rest` says that the reader gets from
`text` to `rest` by way of `tokens`. Pieces compose, so the tokens of a whole line follow from those
of its parts.
-/

namespace OperandStack.Toml

/-- Outside words and strings, reading `text` gives `tokens` and then what `rest` gives. -/
def Scans (text : List Char) (tokens : List Token) (rest : List Char) : Prop :=
  tokensFrom (.plain []) text = (tokensFrom (.plain []) rest).map (tokens ++ ·)

/-- Tells that nothing in front of `rest` is a word with more to come. -/
def EndsWord (rest : List Char) : Prop := ∀ c ∈ rest.head?, isWordChar c = false

/-- Blanks only. -/
def Blanks (gap : List Char) : Prop := ∀ c ∈ gap, isBlank c = true

instance (gap : List Char) : Decidable (Blanks gap) :=
  List.decidableBAll _ gap

theorem blanks_nil : Blanks [] := fun _ member => nomatch member

namespace Scans

variable {first second third : List Char} {tokens more : List Token}

theorem refl (text : List Char) : Scans text [] text := by
  simp [Scans]

theorem trans (left : Scans first tokens second) (right : Scans second more third) :
    Scans first (tokens ++ more) third := by
  rw [Scans, left, right, Option.map_map]
  congr 1
  funext rest
  exact (List.append_assoc ..).symm

/-- The tokens of a line that is read to its end. -/
theorem tokens?_eq (scans : Scans first tokens second) (last : tokens? second = some []) :
    tokens? first = some tokens := by
  rw [tokens?] at last ⊢
  rw [scans, last, Option.map_some, List.append_nil]

end Scans

/-! ## Classes of characters -/

theorem isWordChar_of_isKeyChar {c : Char} (key : isKeyChar c = true) : isWordChar c = true := by
  simp only [isWordChar, key, Bool.true_or]

theorem not_isWordChar_of_isBlank {c : Char} (blank : isBlank c = true) :
    isWordChar c = false := by
  rw [isBlank, Bool.or_eq_true, beq_iff_eq, beq_iff_eq] at blank
  rcases blank with rfl | rfl <;> rfl

theorem isMark_cases {c : Char} (mark : isMark c = true) : c = '\x22' ∨ c = '\x27' := by
  rwa [isMark, Bool.or_eq_true, beq_iff_eq, beq_iff_eq] at mark

/-! ## Pieces -/

theorem endsWord_nil : EndsWord [] := fun _ member => nomatch member

theorem endsWord_cons {c : Char} (other : isWordChar c = false) (rest : List Char) :
    EndsWord (c :: rest) := by
  intro first member
  obtain rfl := Option.some.inj member
  exact other

theorem Blanks.endsWord {gap rest : List Char} (blanks : Blanks gap) (ends : EndsWord rest) :
    EndsWord (gap ++ rest) := by
  cases gap with
  | nil => exact ends
  | cons c more => exact endsWord_cons (not_isWordChar_of_isBlank (blanks c List.mem_cons_self)) _

theorem Blanks.scans {gap : List Char} (blanks : Blanks gap) (rest : List Char) :
    Scans (gap ++ rest) [] rest := by
  induction gap with
  | nil => exact .refl rest
  | cons c more ih =>
    have blank := blanks c List.mem_cons_self
    have further := ih fun other member => blanks other (List.mem_cons_of_mem _ member)
    rw [Scans, List.cons_append, tokensFrom,
      if_neg (Bool.eq_false_iff.mp (not_isWordChar_of_isBlank blank)), if_pos blank, further,
      Option.map_map]
    rfl

theorem Blanks.tokens? {gap : List Char} (blanks : Blanks gap) : tokens? gap = some [] := by
  have read := blanks.scans []
  rw [List.append_nil] at read
  exact read.tokens?_eq rfl

/-- A comment runs to the end of the line and is no token. -/
theorem tokens?_comment {text : List Char} (valid : ∀ c ∈ text, isTextChar c = true) :
    tokens? ('#' :: text) = some [] := by
  have all : text.all isTextChar = true := List.all_eq_true.mpr valid
  rw [tokens?, tokensFrom, if_neg (by decide), if_neg (by decide), if_pos rfl, if_pos all]
  rfl

theorem scans_sign {c : Char} {sign : Token} (made : Token.ofSign? c = some sign)
    (rest : List Char) : Scans (c :: rest) [sign] rest := by
  have cases : c = '=' ∨ c = ',' ∨ c = '[' ∨ c = ']' := by
    unfold Token.ofSign? at made
    split_ifs at made with equals comma opening closing <;> simp [*]
  rcases cases with rfl | rfl | rfl | rfl <;>
    (obtain rfl := Option.some.inj made; rfl)

theorem tokensFrom_word {before word : List Char} (valid : ∀ c ∈ word, isWordChar c = true)
    (rest : List Char) :
    tokensFrom (.plain before) (word ++ rest) =
      tokensFrom (.plain (word.reverse ++ before)) rest := by
  induction word generalizing before with
  | nil => rfl
  | cons c more ih =>
    rw [List.cons_append, tokensFrom, if_pos (valid c List.mem_cons_self),
      ih fun other member => valid other (List.mem_cons_of_mem _ member), List.reverse_cons,
      List.append_assoc]
    rfl

/-- A word is over where no further character of it follows. -/
theorem tokensFrom_of_endsWord {rest : List Char} (ends : EndsWord rest) (before : List Char) :
    tokensFrom (.plain before) rest = (tokensFrom (.plain []) rest).map (endWord before ++ ·) := by
  cases rest with
  | nil => simp [tokensFrom, endWord]
  | cons c more =>
    have other : ¬isWordChar c = true := Bool.eq_false_iff.mp (ends c rfl)
    simp only [tokensFrom, if_neg other]
    split_ifs with blank comment text mark
    · rw [Option.map_map]; rfl
    · simp [endWord]
    · rfl
    · rw [Option.map_map]; rfl
    · split
      · rw [Option.map_map]; rfl
      · rfl

theorem scans_word {word rest : List Char} (present : word ≠ [])
    (valid : ∀ c ∈ word, isWordChar c = true) (ends : EndsWord rest) :
    Scans (word ++ rest) [.word word] rest := by
  have ended : endWord word.reverse = [.word word] := by
    unfold endWord
    split
    · next none => exact absurd (List.reverse_eq_nil_iff.mp none) present
    · rw [List.reverse_reverse]
  rw [Scans, tokensFrom_word valid, List.append_nil, tokensFrom_of_endsWord ends, ended]

theorem tokensFrom_content {mark : Char} {before content : List Char}
    (valid : ∀ c ∈ content, c ≠ mark ∧ isContent mark c = true) (rest : List Char) :
    tokensFrom (.string mark before) (content ++ mark :: rest) =
      (tokensFrom (.plain []) rest).map (.quoted (before.reverse ++ content) :: ·) := by
  induction content generalizing before with
  | nil => rw [List.nil_append, tokensFrom, if_pos rfl, List.append_nil]
  | cons c more ih =>
    obtain ⟨inside, content⟩ := valid c List.mem_cons_self
    rw [List.cons_append, tokensFrom, if_neg inside, if_pos content,
      ih fun other member => valid other (List.mem_cons_of_mem _ member), List.reverse_cons,
      List.append_assoc]
    rfl

theorem scans_quoted {mark : Char} {content : List Char} (marked : isMark mark = true)
    (valid : ∀ c ∈ content, c ≠ mark ∧ isContent mark c = true) (rest : List Char) :
    Scans (mark :: (content ++ mark :: rest)) [.quoted content] rest := by
  have opened : tokensFrom (.plain []) (mark :: (content ++ mark :: rest)) =
      (tokensFrom (.string mark []) (content ++ mark :: rest)).map (endWord [] ++ ·) := by
    rcases isMark_cases marked with rfl | rfl <;> rfl
  rw [Scans, opened, tokensFrom_content valid, Option.map_map]
  rfl

/-! ## What a line holds -/

/-- What ends a line. -/
def isLineEnd (c : Char) : Bool := c == '\n' || c == '\r'

private theorem not_isLineEnd (valid : Char → Bool) (feed : valid '\n' = false)
    (carriage : valid '\r' = false) {c : Char} (present : valid c = true) :
    isLineEnd c = false := by
  rw [isLineEnd, Bool.or_eq_false_iff, beq_eq_false_iff_ne, beq_eq_false_iff_ne]
  constructor
  · rintro rfl
    rw [feed] at present
    cases present
  · rintro rfl
    rw [carriage] at present
    cases present

/-- Tells that a reader inside a string knows the mark that ends it. -/
def Place.Marked : Place → Prop
  | .plain _ => True
  | .string mark _ => isMark mark = true

/-- No character that the reader of a line accepts ends a line. -/
theorem not_isLineEnd_of_tokensFrom {place : Place} {line : List Char} {tokens : List Token}
    (marked : place.Marked) (read : tokensFrom place line = some tokens) :
    ∀ c ∈ line, isLineEnd c = false := by
  fun_induction tokensFrom place line generalizing tokens with
  | case1 => exact fun _ member => nomatch member
  | case2 before c rest word ih =>
    exact List.forall_mem_cons.mpr ⟨not_isLineEnd isWordChar rfl rfl word, ih trivial read⟩
  | case3 before c rest _ blank ih =>
    obtain ⟨_, later, _⟩ := Option.map_eq_some_iff.mp read
    exact List.forall_mem_cons.mpr ⟨not_isLineEnd isBlank rfl rfl blank, ih trivial later⟩
  | case4 before rest text =>
    refine List.forall_mem_cons.mpr ⟨rfl, fun c member => ?_⟩
    have valid : isTextChar c = true := List.all_eq_true.mp text c member
    exact not_isLineEnd isTextChar (by decide) (by decide) valid
  | case5 | case8 | case9 | case12 => cases read
  | case6 before c rest _ _ _ mark ih =>
    obtain ⟨_, later, _⟩ := Option.map_eq_some_iff.mp read
    exact List.forall_mem_cons.mpr ⟨not_isLineEnd isMark rfl rfl mark, ih mark later⟩
  | case7 before c rest _ _ _ _ sign made ih =>
    obtain ⟨_, later, _⟩ := Option.map_eq_some_iff.mp read
    have valid : (Token.ofSign? c).isSome = true := by rw [made]; rfl
    refine List.forall_mem_cons.mpr ⟨?_, ih trivial later⟩
    exact not_isLineEnd (fun c => (Token.ofSign? c).isSome) rfl rfl valid
  | case10 before c rest ih =>
    obtain ⟨_, later, _⟩ := Option.map_eq_some_iff.mp read
    exact List.forall_mem_cons.mpr ⟨not_isLineEnd isMark rfl rfl marked, ih trivial later⟩
  | case11 mark before c rest _ content ih =>
    have text : isTextChar c = true := (Bool.and_eq_true_iff.mp content).1
    exact List.forall_mem_cons.mpr
      ⟨not_isLineEnd isTextChar (by decide) (by decide) text, ih marked read⟩

theorem not_isLineEnd_of_tokens? {line : List Char} {tokens : List Token}
    (read : tokens? line = some tokens) : ∀ c ∈ line, isLineEnd c = false :=
  not_isLineEnd_of_tokensFrom (show Place.Marked (.plain []) from trivial) read

/-- A byte order mark is no part of a line. -/
theorem head?_ne_of_tokens? {line : List Char} {tokens : List Token}
    (read : tokens? line = some tokens) : line.head? ≠ some '\uFEFF' := by
  cases line with
  | nil => exact nofun
  | cons c rest =>
    rintro same
    obtain rfl := Option.some.inj same
    cases read

end OperandStack.Toml
