import OperandStack.Proofs.Scanning
import OperandStack.Proofs.WrittenNumber

/-! # How lines are written

A line is blank, opens a table, or gives a key a value; blanks may stand between its parts and a
comment after them. `WritesLine` and `WritesHeader` list the ways of writing a line, without saying
how it is read. Every line written in one of them is read as what it says.
-/

namespace OperandStack.Toml

/-! ## Notation -/

/-- A text between marks. It holds neither its mark nor, between double quotes, a backslash. -/
inductive WritesText : String → List Char → Prop
  | between {mark : Char} {content : List Char} (marked : isMark mark = true)
      (valid : ∀ c ∈ content, c ≠ mark ∧ isContent mark c = true) :
      WritesText (String.ofList content) (mark :: (content ++ [mark]))

/-- What may stand between marks can be computed. -/
theorem WritesText.of_all {mark : Char} (content : List Char) (marked : isMark mark = true)
    (valid : content.all (fun c => c != mark && isContent mark c) = true) :
    WritesText (String.ofList content) (mark :: (content ++ [mark])) := by
  refine .between marked fun c member => ?_
  have inner := List.all_eq_true.mp valid c member
  rwa [Bool.and_eq_true, bne_iff_ne] at inner

inductive WritesKey : String → List Char → Prop
  | bare {chars : List Char} (present : chars ≠ []) (valid : ∀ c ∈ chars, isKeyChar c = true) :
      WritesKey (String.ofList chars) chars
  | quoted {key : String} {text : List Char} (written : WritesText key text) : WritesKey key text

inductive WritesScalar : Value → List Char → Prop
  | yes : WritesScalar (.boolean true) ['t', 'r', 'u', 'e']
  | no : WritesScalar (.boolean false) ['f', 'a', 'l', 's', 'e']
  | number {value : Value} {text : List Char} (written : WritesNumber value text) :
      WritesScalar value text
  | string {content : String} {text : List Char} (written : WritesText content text) :
      WritesScalar (.string content) text

/-- The values of a list from its opening bracket to its closing one. A comma may follow the last
value. -/
inductive WritesItems : List Value → List Char → Prop
  | none {gap : List Char} (blanks : Blanks gap) : WritesItems [] (gap ++ [']'])
  | last {value : Value} {before text after : List Char} (leading : Blanks before)
      (written : WritesScalar value text) (trailing : Blanks after) :
      WritesItems [value] (before ++ (text ++ (after ++ [']'])))
  | more {value : Value} {values : List Value} {before text after rest : List Char}
      (leading : Blanks before) (written : WritesScalar value text) (trailing : Blanks after)
      (further : WritesItems values rest) :
      WritesItems (value :: values) (before ++ (text ++ (after ++ ',' :: rest)))

inductive WritesValue : Value → List Char → Prop
  | scalar {value : Value} {text : List Char} (written : WritesScalar value text) :
      WritesValue value text
  | list {values : List Value} {text : List Char} (written : WritesItems values text) :
      WritesValue (.list values) ('[' :: text)

/-- What may stand at the end of a line: blanks, and a comment after them. -/
inductive WritesNothing : List Char → Prop
  | blanks {gap : List Char} (blanks : Blanks gap) : WritesNothing gap
  | comment {gap text : List Char} (blanks : Blanks gap)
      (valid : ∀ c ∈ text, isTextChar c = true) : WritesNothing (gap ++ '#' :: text)

/-- A line that opens no table: it gives a key a value, or says nothing. -/
inductive WritesLine : Option Entry → List Char → Prop
  | nothing {text : List Char} (written : WritesNothing text) : WritesLine none text
  | entry {key : String} {value : Value}
      {margin keyText before after valueText trail : List Char} (leading : Blanks margin)
      (named : WritesKey key keyText) (left : Blanks before) (right : Blanks after)
      (given : WritesValue value valueText) (trailing : WritesNothing trail) :
      WritesLine (some (key, value))
        (margin ++ (keyText ++ (before ++ '=' :: (after ++ (valueText ++ trail)))))

/-- A line that opens a table. -/
inductive WritesHeader : String → List Char → Prop
  | header {table : String} {margin before keyText after trail : List Char}
      (leading : Blanks margin) (left : Blanks before) (named : WritesKey table keyText)
      (right : Blanks after) (trailing : WritesNothing trail) :
      WritesHeader table (margin ++ '[' :: (before ++ (keyText ++ (after ++ ']' :: trail))))

/-- An integer of a text fits the signed 64-bit word. -/
theorem WritesLine.fitsWord {key : String} {number : Int} {line : List Char}
    (written : WritesLine (some (key, .integer number)) line) : fitsWord number = true := by
  cases written with
  | entry _ _ _ _ given _ =>
    cases given with
    | scalar given =>
      cases given with
      | number given => exact given.fitsWord

/-! ## Tokens -/

/-- A key is one token. -/
theorem WritesKey.exists_token {key : String} {text : List Char} (written : WritesKey key text) :
    ∃ token, token.key? = some key ∧
      ∀ rest, EndsWord rest → Scans (text ++ rest) [token] rest := by
  cases written with
  | bare present valid =>
    refine ⟨.word text, if_pos (List.all_eq_true.mpr valid), fun rest ends => ?_⟩
    exact scans_word present (fun c member => isWordChar_of_isKeyChar (valid c member)) ends
  | quoted written =>
    cases written with
    | between marked valid =>
      refine ⟨.quoted _, rfl, fun rest _ => ?_⟩
      rw [List.cons_append, List.append_assoc]
      exact scans_quoted marked valid rest

/-- A scalar is one token. -/
theorem WritesScalar.exists_token {value : Value} {text : List Char}
    (written : WritesScalar value text) :
    ∃ token, token.scalar? = some value ∧
      ∀ rest, EndsWord rest → Scans (text ++ rest) [token] rest := by
  cases written with
  | yes | no =>
    exact ⟨.word _, rfl, fun rest ends =>
      scans_word (List.cons_ne_nil _ _) (List.all_eq_true.mp rfl) ends⟩
  | number written =>
    obtain ⟨first, more, shape, _⟩ := written.exists_head
    have present : text ≠ [] := by rw [shape]; exact List.cons_ne_nil _ _
    exact ⟨.word text, wordValue?_of_writes written,
      fun rest ends => scans_word present (fun _ => written.isWordChar) ends⟩
  | string written =>
    cases written with
    | between marked valid =>
      refine ⟨.quoted _, rfl, fun rest _ => ?_⟩
      rw [List.cons_append, List.append_assoc]
      exact scans_quoted marked valid rest

theorem endsWord_sign {c : Char} {sign : Token} (made : Token.ofSign? c = some sign)
    (rest : List Char) : EndsWord (c :: rest) := by
  apply endsWord_cons
  unfold Token.ofSign? at made
  split_ifs at made with equals comma opening closing <;> subst c <;> rfl

/-- The values of a list are read up to the closing bracket. -/
theorem WritesItems.exists_tokens {values : List Value} {text : List Char}
    (written : WritesItems values text) :
    ∃ tokens, items? tokens = some values ∧ .closeBracket ∈ tokens ∧
      ∀ rest, Scans (text ++ rest) tokens rest := by
  induction written with
  | none blanks =>
    refine ⟨[.closeBracket], rfl, List.mem_cons_self, fun rest => ?_⟩
    rw [List.append_assoc]
    exact (blanks.scans _).trans (scans_sign rfl rest)
  | last leading written trailing =>
    obtain ⟨token, scalar, scans⟩ := written.exists_token
    refine ⟨[token, .closeBracket], ?_, by simp, fun rest => ?_⟩
    · simp [items?, scalar]
    · simp only [List.append_assoc, List.singleton_append]
      exact (leading.scans _).trans ((scans _ (trailing.endsWord (endsWord_sign rfl rest))).trans
        ((trailing.scans _).trans (scans_sign rfl rest)))
  | more leading written trailing further ih =>
    obtain ⟨token, scalar, scans⟩ := written.exists_token
    obtain ⟨tokens, items, closed, later⟩ := ih
    refine ⟨token :: .comma :: tokens, ?_, by simp [closed], fun rest => ?_⟩
    · simp [items?, scalar, items]
    · simp only [List.append_assoc, List.cons_append]
      exact (leading.scans _).trans ((scans _ (trailing.endsWord (endsWord_sign rfl _))).trans
        ((trailing.scans _).trans ((scans_sign rfl _).trans (later rest))))

/-! ## Statements -/

/-- What follows a key and the sign after it gives the key its value. -/
theorem WritesValue.exists_tokens {value : Value} {text : List Char}
    (written : WritesValue value text) :
    ∃ tokens, (∀ rest, EndsWord rest → Scans (text ++ rest) tokens rest) ∧
      ∀ key name, Token.key? key = some name →
        Statement.ofTokens? (key :: .equals :: tokens) = some (.entry name value) ∧
          isUnfinished (key :: .equals :: tokens) = false := by
  cases written with
  | scalar written =>
    obtain ⟨token, scalar, scans⟩ := written.exists_token
    refine ⟨[token], scans, fun key name named => ?_⟩
    cases token with
    | equals | comma | openBracket | closeBracket => cases scalar
    | word chars | quoted chars =>
      cases key with
      | equals | comma | openBracket | closeBracket => cases named
      | word chars | quoted chars => simp [Statement.ofTokens?, isUnfinished, named, scalar]
  | list written =>
    obtain ⟨tokens, items, closed, scans⟩ := written.exists_tokens
    refine ⟨.openBracket :: tokens, fun rest _ => ?_, fun key name named => ?_⟩
    · exact (scans_sign rfl _).trans (scans rest)
    · obtain ⟨first, more, rfl⟩ := List.exists_cons_of_ne_nil (List.ne_nil_of_mem closed)
      cases key with
      | equals | comma | openBracket | closeBracket => cases named
      | word chars | quoted chars =>
        have ended : (first :: more).contains .closeBracket = true :=
          List.contains_iff_mem.mpr closed
        exact ⟨by simp [Statement.ofTokens?, named, items], by rw [isUnfinished, ended]; rfl⟩

theorem WritesNothing.tokens? {text : List Char} (written : WritesNothing text) :
    tokens? text = some [] := by
  cases written with
  | blanks blanks => exact blanks.tokens?
  | comment blanks valid => exact (blanks.scans _).tokens?_eq (tokens?_comment valid)

theorem WritesNothing.endsWord {text : List Char} (written : WritesNothing text) :
    EndsWord text := by
  cases written with
  | blanks blanks =>
    have ends := blanks.endsWord endsWord_nil
    rwa [List.append_nil] at ends
  | comment blanks valid => exact blanks.endsWord (endsWord_cons rfl _)

/-- Tells that a line is a statement of its own. -/
def ReadsAs (line : List Char) (statement : Statement) : Prop :=
  ∃ tokens, tokens? line = some tokens ∧ isUnfinished tokens = false ∧
    Statement.ofTokens? tokens = some statement

/-- The statement that gives an entry, or says nothing. -/
def Statement.ofGiven : Option Entry → Statement
  | some (key, value) => .entry key value
  | none => .blank

theorem WritesLine.readsAs {given? : Option Entry} {line : List Char}
    (written : WritesLine given? line) : ReadsAs line (.ofGiven given?) := by
  cases written with
  | nothing written => exact ⟨[], written.tokens?, rfl, rfl⟩
  | entry leading named left right given trailing =>
    obtain ⟨key, name, scansKey⟩ := named.exists_token
    obtain ⟨tokens, scansValue, makes⟩ := given.exists_tokens
    obtain ⟨made, finished⟩ := makes key _ name
    have equals : Token.ofSign? '=' = some .equals := rfl
    have scans := (leading.scans _).trans
      ((scansKey _ (left.endsWord (endsWord_sign equals _))).trans
        ((left.scans _).trans ((scans_sign equals _).trans
          ((right.scans _).trans (scansValue _ trailing.endsWord)))))
    exact ⟨_, scans.tokens?_eq trailing.tokens?, finished, made⟩

theorem WritesHeader.readsAs {table : String} {line : List Char}
    (written : WritesHeader table line) : ReadsAs line (.header table) := by
  cases written with
  | @header _ _ _ _ trail leading left named right trailing =>
    obtain ⟨key, name, scansKey⟩ := named.exists_token
    have opening : Token.ofSign? '[' = some .openBracket := rfl
    have closing : Token.ofSign? ']' = some .closeBracket := rfl
    have scans := (leading.scans _).trans ((scans_sign opening _).trans
      ((left.scans _).trans ((scansKey _ (right.endsWord (endsWord_sign closing _))).trans
        ((right.scans _).trans (scans_sign closing trail)))))
    refine ⟨_, scans.tokens?_eq trailing.tokens?, ?_, ?_⟩
    · cases key with
      | equals | comma | openBracket | closeBracket => cases name
      | word chars | quoted chars => rfl
    · simp [Statement.ofTokens?, name]

end OperandStack.Toml
