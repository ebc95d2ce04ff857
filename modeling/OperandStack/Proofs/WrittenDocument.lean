import OperandStack.Toml.Document
import OperandStack.Proofs.WrittenLine
import Mathlib.Data.List.Basic

/-! # How documents are written

A written document has lines of its own and then tables, each opened by a header. `text` puts the
lines one under the other and `document` is what they say. The text is read as that document, unless
it names something twice in one place; then it is no document.
-/

namespace OperandStack.Toml

/-! ## Lines one under the other -/

/-- What stands between two lines. -/
inductive LineBreak where
  | feed
  | carriageFeed
deriving DecidableEq, Repr

def LineBreak.chars : LineBreak → List Char
  | feed => ['\n']
  | carriageFeed => ['\r', '\n']

/-- Characters that end no line stay with the first line of what follows them. -/
theorem splitLines_append {line : List Char} (inner : ∀ c ∈ line, isLineEnd c = false)
    {rest first : List Char} {more : List (List Char)} (split : splitLines rest = first :: more) :
    splitLines (line ++ rest) = (line ++ first) :: more := by
  induction line with
  | nil => exact split
  | cons c line ih =>
    obtain ⟨here, later⟩ := List.forall_mem_cons.mp inner
    rw [List.cons_append, splitLines, ih later]
    · rfl
    · rintro _ rfl
      cases here
    · rintro rfl
      cases here

theorem splitLines_of_inner {line : List Char} (inner : ∀ c ∈ line, isLineEnd c = false) :
    splitLines line = [line] := by
  have split := splitLines_append inner (show splitLines [] = [[]] from rfl)
  rwa [List.append_nil] at split

theorem splitLines_break (between : LineBreak) (rest : List Char) :
    splitLines (between.chars ++ rest) = [] :: splitLines rest := by
  cases between <;> rfl

/-- Lines one under the other are told apart again. -/
theorem splitLines_intercalate (between : LineBreak) {line : List Char} {more : List (List Char)}
    (inner : ∀ other ∈ line :: more, ∀ c ∈ other, isLineEnd c = false) :
    splitLines (between.chars.intercalate (line :: more)) = line :: more := by
  induction more generalizing line with
  | nil =>
    rw [List.intercalate_singleton]
    exact splitLines_of_inner (inner line List.mem_cons_self)
  | cons next more ih =>
    obtain ⟨here, later⟩ := List.forall_mem_cons.mp inner
    rw [List.intercalate_cons_cons, List.append_assoc,
      splitLines_append here (splitLines_break between _), ih later, List.append_nil]

theorem dropByteOrderMark_of_head?_ne {text : List Char} (unmarked : text.head? ≠ some '\uFEFF') :
    dropByteOrderMark text = text := by
  unfold dropByteOrderMark
  split
  · exact absurd rfl unmarked
  · rfl

/-- Without a byte order mark in front of the first line there is none in front of the text. -/
theorem dropByteOrderMark_intercalate (between : LineBreak) {line : List Char}
    (unmarked : line.head? ≠ some '\uFEFF') (more : List (List Char)) :
    dropByteOrderMark (between.chars.intercalate (line :: more)) =
      between.chars.intercalate (line :: more) := by
  apply dropByteOrderMark_of_head?_ne
  cases more with
  | nil => rwa [List.intercalate_singleton]
  | cons next more =>
    rw [List.intercalate_cons_cons, List.append_assoc]
    cases line with
    | nil => cases between <;> exact fun same => nomatch Option.some.inj same
    | cons c rest => exact unmarked

/-! ## Statements one under the other -/

/-- Lines that are statements of their own are gathered as they are. -/
theorem exists_tokens_of_readsAs {lines : List (List Char × Statement)}
    (read : ∀ line ∈ lines, ReadsAs line.1 line.2) :
    ∃ tokens, (lines.map Prod.fst).mapM tokens? = some tokens ∧
      gather? [] tokens = some tokens ∧
      tokens.mapM Statement.ofTokens? = some (lines.map Prod.snd) := by
  induction lines with
  | nil => exact ⟨[], rfl, rfl, rfl⟩
  | cons line lines ih =>
    obtain ⟨⟨tokens, scanned, finished, makes⟩, later⟩ := List.forall_mem_cons.mp read
    obtain ⟨more, scannedMore, gathered, makesMore⟩ := ih later
    refine ⟨tokens :: more, ?_, ?_, ?_⟩
    · rw [List.map_cons, List.mapM_cons, scanned, scannedMore]; rfl
    · rw [gather?, List.nil_append, if_neg (Bool.eq_false_iff.mp finished), gathered]; rfl
    · rw [List.mapM_cons, makes, makesMore]; rfl

/-- Lines that are statements of their own are read as these. -/
theorem statements?_intercalate (between : LineBreak) {lines : List (List Char × Statement)}
    (present : lines ≠ []) (read : ∀ line ∈ lines, ReadsAs line.1 line.2) :
    statements? (between.chars.intercalate (lines.map Prod.fst)) =
      some (lines.map Prod.snd) := by
  obtain ⟨tokens, scanned, gathered, made⟩ := exists_tokens_of_readsAs read
  have inner : ∀ chars ∈ lines.map Prod.fst, ∀ c ∈ chars, isLineEnd c = false := by
    intro chars member
    obtain ⟨line, inLines, rfl⟩ := List.mem_map.mp member
    obtain ⟨_, scanned, _⟩ := read line inLines
    exact not_isLineEnd_of_tokens? scanned
  obtain ⟨first, more, rfl⟩ := List.exists_cons_of_ne_nil present
  obtain ⟨_, scannedFirst, _⟩ := read first List.mem_cons_self
  rw [List.map_cons] at scanned inner
  rw [List.map_cons, statements?,
    dropByteOrderMark_intercalate between (head?_ne_of_tokens? scannedFirst),
    splitLines_intercalate between inner, scanned, Option.bind_eq_bind, Option.bind_some, gathered]
  exact made

/-! ## Documents -/

/-- A line that opens no table, with what it says. -/
structure WrittenLine where
  given? : Option Entry
  chars : List Char
  written : WritesLine given? chars

/-- A table with the line that opens it. -/
structure WrittenTable where
  name : String
  header : List Char
  written : WritesHeader name header
  lines : List WrittenLine

/-- A document as it is written. -/
structure WrittenDocument where
  lines : List WrittenLine
  tables : List WrittenTable

/-- What lines give. -/
def entriesOf (lines : List WrittenLine) : List Entry := lines.filterMap WrittenLine.given?

/-- What lines name. -/
def keysOf (lines : List WrittenLine) : List String := (entriesOf lines).map Prod.fst

def WrittenLine.statement (line : WrittenLine) : List Char × Statement :=
  (line.chars, .ofGiven line.given?)

def WrittenTable.statements (table : WrittenTable) : List (List Char × Statement) :=
  (table.header, .header table.name) :: table.lines.map WrittenLine.statement

namespace WrittenDocument

variable (written : WrittenDocument)

/-- The lines with what they say, those of the tables after the document's own. -/
def statements : List (List Char × Statement) :=
  written.lines.map WrittenLine.statement ++ written.tables.flatMap WrittenTable.statements

/-- The text with `between` between its lines. -/
def text (between : LineBreak) : String :=
  String.ofList (between.chars.intercalate (written.statements.map Prod.fst))

/-- What the text says. -/
def document : Document where
  root := entriesOf written.lines
  tables := written.tables.map fun table => (table.name, entriesOf table.lines)

theorem readsAs_of_mem_statements :
    ∀ line ∈ written.statements, ReadsAs line.1 line.2 := by
  have plain (lines : List WrittenLine) :
      ∀ line ∈ lines.map WrittenLine.statement, ReadsAs line.1 line.2 := by
    intro _ member
    obtain ⟨line, _, rfl⟩ := List.mem_map.mp member
    exact line.written.readsAs
  intro line member
  rcases List.mem_append.mp member with own | tabled
  · exact plain _ line own
  · obtain ⟨table, _, inTable⟩ := List.mem_flatMap.mp tabled
    rcases List.mem_cons.mp inTable with rfl | inside
    · exact table.written.readsAs
    · exact plain _ line inside

/-- The statements of lines give their entries to what stands before the first header. -/
theorem ofStatements_append (lines : List WrittenLine) (rest : List Statement) :
    Document.ofStatements ((lines.map WrittenLine.statement).map Prod.snd ++ rest) =
      { Document.ofStatements rest with
        root := entriesOf lines ++ (Document.ofStatements rest).root } := by
  induction lines with
  | nil => rfl
  | cons line lines ih =>
    obtain ⟨given?, chars, written⟩ := line
    cases given? with
    | none => exact ih
    | some entry =>
      rw [List.map_cons, List.map_cons, List.cons_append]
      exact congrArg
        (fun document : Document => { document with root := entry :: document.root }) ih

theorem ofStatements_tables (tables : List WrittenTable) :
    Document.ofStatements ((tables.flatMap WrittenTable.statements).map Prod.snd) =
      ⟨[], tables.map fun table => (table.name, entriesOf table.lines)⟩ := by
  induction tables with
  | nil => rfl
  | cons table tables ih =>
    rw [List.flatMap_cons, List.map_append, WrittenTable.statements, List.map_cons,
      List.cons_append, Document.ofStatements, ofStatements_append, ih, List.append_nil]
    rfl

theorem ofStatements_statements :
    Document.ofStatements (written.statements.map Prod.snd) = written.document := by
  rw [statements, List.map_append, ofStatements_append, ofStatements_tables, List.append_nil]
  rfl

/-- A written document is read as what it says, unless it names something twice in one place. -/
theorem read?_text (between : LineBreak) :
    Document.read? (written.text between) =
      if written.document.Unambiguous then some written.document else none := by
  have read : (statements? (written.text between).toList).map Document.ofStatements =
      some written.document := by
    rw [text, String.toList_ofList]
    by_cases present : written.statements = []
    · have empty := written.ofStatements_statements
      rw [present] at empty ⊢
      exact congrArg some empty
    · rw [statements?_intercalate between present written.readsAs_of_mem_statements,
        Option.map_some, ofStatements_statements]
  rw [Document.read?, read, Option.filter_some]
  simp only [decide_eq_true_eq]

/-- The names of a document are those of its lines and those of its tables. -/
theorem map_fst_entries :
    written.document.entries.map Prod.fst =
      keysOf written.lines ++ written.tables.map WrittenTable.name := by
  rw [document, Document.entries, List.map_append, List.map_map, List.map_map]
  rfl

/-- A document is unambiguous if its names are distinct, and those of each table are. -/
theorem unambiguous_iff :
    written.document.Unambiguous ↔
      (keysOf written.lines ++ written.tables.map WrittenTable.name).Nodup ∧
        ∀ table ∈ written.tables, (keysOf table.lines).Nodup := by
  rw [Document.Unambiguous, map_fst_entries]
  exact and_congr_right fun _ => List.forall_mem_map

theorem unambiguous_lines_iff (lines : List WrittenLine) :
    (document ⟨lines, []⟩).Unambiguous ↔ (keysOf lines).Nodup := by
  rw [unambiguous_iff]
  simp

/-- A text without tables is read as what its lines give, unless they name something twice. -/
theorem read?_text_lines (lines : List WrittenLine) (between : LineBreak) :
    Document.read? (text ⟨lines, []⟩ between) =
      if (keysOf lines).Nodup then some ⟨entriesOf lines, []⟩ else none := by
  simp only [read?_text, unambiguous_lines_iff]
  rfl

/-- A text in which one line alone gives something says just that. -/
theorem read?_text_of_only {before after : List WrittenLine} {setting : WrittenLine} {entry : Entry}
    (nothingBefore : ∀ line ∈ before, line.given? = none)
    (nothingAfter : ∀ line ∈ after, line.given? = none) (gives : setting.given? = some entry)
    (between : LineBreak) :
    Document.read? (text ⟨before ++ setting :: after, []⟩ between) = some ⟨[entry], []⟩ := by
  have only : entriesOf (before ++ setting :: after) = [entry] := by
    rw [entriesOf, List.filterMap_append, List.filterMap_cons, gives,
      List.filterMap_eq_nil_iff.mpr nothingBefore, List.filterMap_eq_nil_iff.mpr nothingAfter]
    rfl
  rw [read?_text_lines, keysOf, only]
  exact if_pos (List.nodup_cons.mpr ⟨List.not_mem_nil, List.nodup_nil⟩)

end WrittenDocument

end OperandStack.Toml
