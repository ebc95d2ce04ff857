import OperandStack.Proofs.UniqueReading
import OperandStack.Text.Quoted
import Mathlib.Data.List.Forall2

/-! # Quoted text read back

`Spells` lists the ways to write a character between marks, and what is written for a character is
the one that it lists. An escape says by its second character what it stands for, and the one that
holds a number says by a brace where the number ends. So each character of a quoted text can be read
back, whatever follows it, and the text ends at the first mark that is not part of an escape. All
that is in it shows, and so no line end is in it.
-/

namespace OperandStack.Text

/-! ## Numbers in base sixteen -/

/-- The number that a digit stands for. -/
def hexDigit (c : Char) : Nat := if c.isDigit then c.toNat - 48 else c.toNat - 87

/-- The number that digits stand for. -/
def hexValue (digits : List Char) : Nat := digits.foldl (fun value c => 16 * value + hexDigit c) 0

theorem hexDigit_digitChar : ∀ {digit : Nat}, digit < 16 → hexDigit digit.digitChar = digit := by
  decide

theorem hexValue_toDigits (number : Nat) : hexValue (Nat.toDigits 16 number) = number := by
  induction number using Nat.strongRecOn with
  | ind number ih =>
    rw [Nat.toDigits_eq_if (by decide)]
    split
    · next small => simp [hexValue, hexDigit_digitChar small]
    · next large =>
      have front := ih (number / 16) (by omega)
      rw [hexValue] at front ⊢
      rw [List.foldl_append, front, List.foldl_cons, List.foldl_nil,
        hexDigit_digitChar (Nat.mod_lt _ (by decide)), Nat.div_add_mod]

/-- The digits of a number are the characters of digits. -/
theorem exists_digitChar_of_mem_toDigits {base number : Nat} (positional : 1 < base) {c : Char}
    (member : c ∈ Nat.toDigits base number) : ∃ digit < base, c = digit.digitChar := by
  induction number using Nat.strongRecOn with
  | ind number ih =>
    rw [Nat.toDigits_eq_if positional] at member
    split at member
    · next small => exact ⟨number, small, List.mem_singleton.mp member⟩
    · next large =>
      rcases List.mem_append.mp member with front | last
      · exact ih (number / base) (Nat.div_lt_self (by omega) positional) front
      · exact ⟨number % base, Nat.mod_lt _ (by omega), List.mem_singleton.mp last⟩

/-! ## How characters are written -/

section Spelling

variable [Visibility]

/-- How a character is written between marks. -/
inductive Spells (mark : Char) : Char → List Char → Prop
  | nul : Spells mark '\x00' ['\\', '0']
  | tab : Spells mark '\t' ['\\', 't']
  | feed : Spells mark '\n' ['\\', 'n']
  | ret : Spells mark '\r' ['\\', 'r']
  | slash : Spells mark '\\' ['\\', '\\']
  | mark : Spells mark mark ['\\', mark]
  /-- By its number in base sixteen, in braces. -/
  | hidden {c : Char} (other : c ∉ ['\x00', '\t', '\n', '\r', '\\', mark])
      (hidden : Visibility.isHidden c = true) :
      Spells mark c ('\\' :: 'u' :: '\x7b' :: (Nat.toDigits 16 c.toNat ++ ['\x7d']))
  | shown {c : Char} (other : c ∉ ['\x00', '\t', '\n', '\r', '\\', mark])
      (shows : Visibility.isHidden c = false) : Spells mark c [c]

/-- How a text is written between marks, with the marks. -/
inductive Quotes (mark : Char) : List Char → List Char → Prop
  | quote {content : List Char} {pieces : List (List Char)}
      (spelled : List.Forall₂ (Spells mark) content pieces) :
      Quotes mark content (mark :: (pieces.flatten ++ [mark]))

theorem spells_escape (mark c : Char) : Spells mark c (escape mark c) := by
  unfold escape
  split_ifs with nul tab feed ret slash same hidden
  · rw [nul]; exact .nul
  · rw [tab]; exact .tab
  · rw [feed]; exact .feed
  · rw [ret]; exact .ret
  · rw [slash]; exact .slash
  · rw [same]; exact .mark
  · exact .hidden (by simp [nul, tab, feed, ret, slash, same]) hidden
  · exact .shown (by simp [nul, tab, feed, ret, slash, same]) (Bool.eq_false_iff.mpr hidden)

theorem toList_quote (mark : Char) (content : List Char) :
    (quote mark content).toList = mark :: (content.flatMap (escape mark) ++ [mark]) :=
  String.toList_ofList

theorem quotes_quote (mark : Char) (content : List Char) :
    Quotes mark content (quote mark content).toList := by
  rw [toList_quote, List.flatMap_def]
  refine .quote ?_
  rw [List.forall₂_map_right_iff, List.forall₂_same]
  exact fun c _ => spells_escape mark c

end Spelling

/-! ## Escapes -/

/-- Reads one character of a quoted text, and what follows it. -/
def unescape? : List Char → Option (Char × List Char)
  | '\\' :: '0' :: rest => some ('\x00', rest)
  | '\\' :: 't' :: rest => some ('\t', rest)
  | '\\' :: 'n' :: rest => some ('\n', rest)
  | '\\' :: 'r' :: rest => some ('\r', rest)
  | '\\' :: 'u' :: '\x7b' :: rest =>
    some (Char.ofNat (hexValue (rest.takeWhile (· != '\x7d'))),
      (rest.dropWhile (· != '\x7d')).tail)
  | '\\' :: c :: rest => some (c, rest)
  | c :: rest => some (c, rest)
  | [] => none

theorem unescape?_of_ne {c : Char} (plain : c ≠ '\\') (rest : List Char) :
    unescape? (c :: rest) = some (c, rest) := by
  unfold unescape?
  split <;> simp_all

theorem unescape?_braces (c : Char) (rest : List Char) :
    unescape? ('\\' :: 'u' :: '\x7b' :: (Nat.toDigits 16 c.toNat ++ '\x7d' :: rest)) =
      some (c, rest) := by
  have inner : ∀ digit ∈ Nat.toDigits 16 c.toNat, (digit != '\x7d') = true := by
    intro digit member
    obtain ⟨number, _, rfl⟩ := exists_digitChar_of_mem_toDigits (by decide) member
    exact bne_iff_ne.mpr (Nat.digitChar_ne _ (by decide))
  rw [unescape?, List.takeWhile_append_of_pos inner, List.dropWhile_append_of_pos inner]
  simp [hexValue_toDigits]

variable [Visibility] {mark : Char}

/-- What is written for a character is read as that character, whatever follows. -/
theorem unescape?_escape (outer : mark = '\x27' ∨ mark = '\x22') (c : Char) (rest : List Char) :
    unescape? (escape mark c ++ rest) = some (c, rest) := by
  unfold escape
  split_ifs with nul tab feed ret slash same control
  · rw [nul]; rfl
  · rw [tab]; rfl
  · rw [feed]; rfl
  · rw [ret]; rfl
  · rw [slash]; rfl
  · rcases outer with rfl | rfl <;> (rw [same]; rfl)
  · have shape : '\\' :: 'u' :: '\x7b' :: (Nat.toDigits 16 c.toNat ++ ['\x7d']) ++ rest =
        '\\' :: 'u' :: '\x7b' :: (Nat.toDigits 16 c.toNat ++ '\x7d' :: rest) := by simp
    rw [shape, unescape?_braces]
  · exact unescape?_of_ne slash rest

theorem readable_escape (outer : mark = '\x27' ∨ mark = '\x22') :
    Readable anyValue anything (escape mark) :=
  .of_read unescape? fun c rest _ _ => unescape?_escape outer c rest

/-- Where the mark stands, no character is written. -/
theorem escape_append_ne (outer : mark = '\x27' ∨ mark = '\x22') (c : Char)
    (more rest : List Char) : escape mark c ++ more ≠ mark :: rest := by
  intro same
  have read := unescape?_escape outer c more
  have plain : mark ≠ '\\' := by rcases outer with rfl | rfl <;> decide
  rw [same, unescape?_of_ne plain] at read
  obtain rfl : mark = c := congrArg Prod.fst (Option.some.inj read)
  rcases outer with rfl | rfl <;> cases same

/-- A quoted text starts with its mark. -/
theorem quote_append_ne {other : Char} (apart : mark ≠ other) (content more rest : List Char) :
    (quote mark content).toList ++ more ≠ other :: rest := by
  rw [toList_quote]
  exact fun same => apart (List.cons.inj same).1

theorem readable_quote (outer : mark = '\x27' ∨ mark = '\x22') :
    Readable anyValue anything fun content => (quote mark content).toList := by
  have inner : Readable (fun content : List Char => ∀ c ∈ content, anyValue c) anything
      fun content => content.flatMap (escape mark) ++ [mark] :=
    ((readable_escape outer).flatMap fun _ _ _ => trivial).append [mark] fun rest _ =>
      ⟨trivial, fun c more _ _ => escape_append_ne outer c more rest⟩
  intro a b u v _ _ _ _ same
  simp only [toList_quote] at same
  exact (inner.prepend [mark]) (fun _ _ => trivial) (fun _ _ => trivial) trivial trivial same

theorem readable_quotedChar :
    Readable anyValue anything fun c => (quotedChar c).toList :=
  (readable_quote (.inl rfl)).comp List.singleton_injective

theorem readable_quotedString :
    Readable anyValue anything fun s => (quotedString s).toList :=
  (readable_quote (.inr rfl)).comp fun _ _ => String.toList_injective

/-! ## What shows -/

theorem isHidden_eq_false_of_ascii {c : Char} (visible : 0x20 ≤ c.toNat ∧ c.toNat < 0x7f) :
    Visibility.isHidden c = false := by
  rw [Bool.eq_false_iff]
  intro hidden
  have control := (Visibility.isHidden_iff_of_ascii c (by omega)).mp hidden
  omega

theorem isHidden_feed : Visibility.isHidden '\n' = true :=
  (Visibility.isHidden_iff_of_ascii '\n' (by decide)).mpr (.inl (by decide))

theorem isHidden_mark (outer : mark = '\x27' ∨ mark = '\x22') :
    Visibility.isHidden mark = false := by
  rcases outer with rfl | rfl <;> exact isHidden_eq_false_of_ascii (by decide)

theorem isHidden_of_mem_toDigits {number : Nat} {c : Char} (member : c ∈ Nat.toDigits 16 number) :
    Visibility.isHidden c = false := by
  obtain ⟨digit, small, rfl⟩ := exists_digitChar_of_mem_toDigits (by decide) member
  have visible : ∀ digit < 16, 0x20 ≤ digit.digitChar.toNat ∧ digit.digitChar.toNat < 0x7f := by
    decide
  exact isHidden_eq_false_of_ascii (visible digit small)

/-- Whatever is written for a character shows. -/
theorem Spells.isHidden_eq_false (outer : mark = '\x27' ∨ mark = '\x22') {c : Char}
    {written : List Char} (spelled : Spells mark c written) :
    ∀ shown ∈ written, Visibility.isHidden shown = false := by
  have after_slash {rest : List Char} (shows : ∀ shown ∈ rest, Visibility.isHidden shown = false) :
      ∀ shown ∈ '\\' :: rest, Visibility.isHidden shown = false :=
    List.forall_mem_cons.mpr ⟨isHidden_eq_false_of_ascii (by decide), shows⟩
  cases spelled with
  | nul | tab | feed | ret | slash =>
    exact after_slash (List.forall_mem_singleton.mpr (isHidden_eq_false_of_ascii (by decide)))
  | mark => exact after_slash (List.forall_mem_singleton.mpr (isHidden_mark outer))
  | hidden =>
    refine after_slash (List.forall_mem_cons.mpr ⟨isHidden_eq_false_of_ascii (by decide), ?_⟩)
    refine List.forall_mem_cons.mpr ⟨isHidden_eq_false_of_ascii (by decide), ?_⟩
    refine List.forall_mem_append.mpr ⟨fun _ => isHidden_of_mem_toDigits, ?_⟩
    exact List.forall_mem_singleton.mpr (isHidden_eq_false_of_ascii (by decide))
  | shown _ shows => exact List.forall_mem_singleton.mpr shows

/-- Whatever is quoted, all characters of the quoted text show. -/
theorem isHidden_eq_false_of_mem_quote (outer : mark = '\x27' ∨ mark = '\x22')
    {content : List Char} {c : Char} (member : c ∈ (quote mark content).toList) :
    Visibility.isHidden c = false := by
  rw [toList_quote] at member
  rcases List.mem_cons.mp member with rfl | later
  · exact isHidden_mark outer
  · rcases List.mem_append.mp later with inside | last
    · obtain ⟨origin, _, piece⟩ := List.mem_flatMap.mp inside
      exact (spells_escape mark origin).isHidden_eq_false outer c piece
    · exact List.mem_singleton.mp last ▸ isHidden_mark outer

theorem feed_not_mem_quote (outer : mark = '\x27' ∨ mark = '\x22') (content : List Char) :
    '\n' ∉ (quote mark content).toList := by
  intro member
  have shows := isHidden_eq_false_of_mem_quote outer member
  rw [isHidden_feed] at shows
  cases shows

end OperandStack.Text
