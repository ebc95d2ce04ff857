/-! # Lines and tokens of TOML text

A TOML text is a sequence of lines; a byte order mark in front of the first one does not count. A
line is made of tokens: words, quoted strings and the signs `=`, `,`, `[` and `]`; blanks between
tokens and a comment at the end of the line do not count. Strings are those without escapes,
between double quotes or apostrophes.

This is a part of TOML only, and so are the numbers and the statements. A text that goes beyond it
is answered as malformed also where it is valid TOML; of strings that concerns those with escapes
and those over several lines.
-/

namespace OperandStack.Toml

/-- The lines of a text. A line ends with a line feed, which a carriage return may precede. -/
def splitLines : List Char → List (List Char)
  | [] => [[]]
  | '\r' :: '\n' :: rest => [] :: splitLines rest
  | '\n' :: rest => [] :: splitLines rest
  | c :: rest =>
    match splitLines rest with
    | [] => [[c]]
    | line :: more => (c :: line) :: more

/-- The text after the byte order mark that it may start with. -/
def dropByteOrderMark : List Char → List Char
  | '\uFEFF' :: rest => rest
  | text => text

/-- Blanks separate tokens. -/
def isBlank (c : Char) : Bool := c == ' ' || c == '\t'

/-- What a comment or a string may hold: everything but control characters other than a tab. -/
def isTextChar (c : Char) : Bool := c == '\t' || (0x20 ≤ c.val && c.val != 0x7f)

/-- What a key written without quotes is made of. -/
def isKeyChar (c : Char) : Bool := c.isAlphanum || c == '_' || c == '-'

/-- What a word is made of: a key without quotes, a number, or a truth value. -/
def isWordChar (c : Char) : Bool := isKeyChar c || c == '+' || c == '.'

/-- Strings stand between two double quotes or two apostrophes. -/
def isMark (c : Char) : Bool := c == '\x22' || c == '\x27'

/-- What a string between marks `mark` may hold besides its end. A backslash between double quotes
would start an escape. -/
def isContent (mark c : Char) : Bool := isTextChar c && !(mark == '\x22' && c == '\\')

/-- A token of a line. -/
inductive Token where
  | word (chars : List Char)
  | quoted (chars : List Char)
  | equals
  | comma
  | openBracket
  | closeBracket
deriving DecidableEq, Repr

/-- The token that a single sign makes. -/
def Token.ofSign? (c : Char) : Option Token :=
  if c = '=' then some .equals
  else if c = ',' then some .comma
  else if c = '[' then some .openBracket
  else if c = ']' then some .closeBracket
  else none

/-- Where a reader stands inside a line. The characters read so far are held latest first. -/
inductive Place where
  /-- After `before`, which may still grow into a longer word; outside words it is empty. -/
  | plain (before : List Char)
  /-- In a string between marks `mark`. -/
  | string (mark : Char) (before : List Char)

/-- The word that ends here, if there is one. -/
def endWord : List Char → List Token
  | [] => []
  | before => [.word before.reverse]

/-- The tokens of what is left of a line, or `none` where it cannot be read. -/
def tokensFrom : Place → List Char → Option (List Token)
  | .plain before, [] => some (endWord before)
  | .plain before, c :: rest =>
    if isWordChar c then tokensFrom (.plain (c :: before)) rest
    else if isBlank c then (tokensFrom (.plain []) rest).map (endWord before ++ ·)
    else if c = '#' then
      if rest.all isTextChar then some (endWord before) else none
    else if isMark c then (tokensFrom (.string c []) rest).map (endWord before ++ ·)
    else
      match Token.ofSign? c with
      | some sign => (tokensFrom (.plain []) rest).map (endWord before ++ sign :: ·)
      | none => none
  | .string _ _, [] => none
  | .string mark before, c :: rest =>
    if c = mark then (tokensFrom (.plain []) rest).map (.quoted before.reverse :: ·)
    else if isContent mark c then tokensFrom (.string mark (c :: before)) rest
    else none

/-- The tokens of a line. -/
def tokens? (line : List Char) : Option (List Token) := tokensFrom (.plain []) line

end OperandStack.Toml
