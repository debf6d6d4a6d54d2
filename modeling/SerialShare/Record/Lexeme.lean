import SerialShare.Text.Numeral

/-!
# The smallest parts of a record text

Configurations are written as nested records.  This module reads what stands between and inside the
brackets: blanks and comments, names, numbers and texts.  Every reader takes the characters not read
yet and gives back what it leaves of them, or nothing when they do not start with what it reads.
-/

namespace SerialShare
namespace Record

/-! ## Blanks and symbols -/

/-- Whether a character separates without meaning anything. -/
def isSpace (character : Char) : Bool :=
  character == ' ' || character == '\t' || character == '\n' || character == '\r'

/-- Where a reader of blanks stands. -/
inductive Blank where
  /-- Outside any comment. -/
  | outside
  /-- After the slash that begins a comment. -/
  | slash
  /-- In a comment that ends with the line. -/
  | line
  /-- In a comment that is closed by a mark, and inside a number of further ones. -/
  | block (depth : Nat)
  /-- In such a comment, after a slash, which may open a further one. -/
  | opening (depth : Nat)
  /-- In such a comment, after a star, which may close it. -/
  | closing (depth : Nat)
  deriving DecidableEq, Repr

/-- Skip spaces and comments from a given place on.  Comments between marks nest, and have to be
closed. -/
def skipFrom : Blank → List Char → Option (List Char)
  | .outside, [] | .line, [] => some []
  | _, [] => none
  | .outside, character :: rest =>
    if isSpace character then skipFrom .outside rest
    else if character = '/' then skipFrom .slash rest
    else some (character :: rest)
  | .slash, character :: rest =>
    if character = '/' then skipFrom .line rest
    else if character = '*' then skipFrom (.block 0) rest
    else none
  | .line, character :: rest =>
    if character = '\n' then skipFrom .outside rest else skipFrom .line rest
  | .block depth, character :: rest =>
    if character = '/' then skipFrom (.opening depth) rest
    else if character = '*' then skipFrom (.closing depth) rest
    else skipFrom (.block depth) rest
  | .opening depth, character :: rest =>
    if character = '/' then skipFrom (.opening depth) rest
    else if character = '*' then skipFrom (.block (depth + 1)) rest
    else skipFrom (.block depth) rest
  | .closing depth, character :: rest =>
    if character = '/' then
      match depth with
      | 0 => skipFrom .outside rest
      | depth + 1 => skipFrom (.block depth) rest
    else if character = '*' then skipFrom (.closing depth) rest
    else skipFrom (.block depth) rest

/-- Skip spaces and comments. -/
def skipBlanks (input : List Char) : Option (List Char) :=
  skipFrom .outside input

/-- Read one given character. -/
def symbol? (symbol : Char) : List Char → Option (List Char)
  | character :: rest => if character = symbol then some rest else none
  | [] => none

/-- Read a given character and the blanks after it. -/
def symbolAndBlanks? (symbol : Char) (input : List Char) : Option (List Char) :=
  (symbol? symbol input).bind skipBlanks

/-! ## Names -/

/-- Whether a name can start with a character. -/
def isNameStart (character : Char) : Bool :=
  character.isAlpha || character == '_'

/-- Whether a name can go on with a character. -/
def isNamePart (character : Char) : Bool :=
  character.isAlphanum || character == '_'

/-- Whether a name that is marked as such can hold a character. -/
def isMarkedPart (character : Char) : Bool :=
  isNamePart character || character == '.' || character == '+' || character == '-'

/-- Whether the input goes on with a character of a certain kind. -/
def startsWith (kind : Char → Bool) (input : List Char) : Bool :=
  input.head?.any kind

/-- Read a name.  A name may be marked by `r#`, and only a marked one holds points and signs. -/
def name? : List Char → Option (List Char × List Char)
  | 'r' :: '#' :: rest =>
    if startsWith isMarkedPart rest then
      some (rest.takeWhile isMarkedPart, rest.dropWhile isMarkedPart)
    else none
  | 'r' :: '"' :: _ => none
  | input =>
    if startsWith isNameStart input && !startsWith isMarkedPart (input.dropWhile isNamePart) then
      some (input.takeWhile isNamePart, input.dropWhile isNamePart)
    else none

/-- Read a given word that is not part of a longer name. -/
def word? (word : String) (input : List Char) : Option (List Char) :=
  (word.toList.isPrefixOf? input).filter fun rest => !startsWith isNamePart rest

/-! ## Numbers -/

/-- Whether a whole number can hold a character: digits of every base, and a separator. -/
def isDigitOrSeparator (character : Char) : Bool :=
  (Text.digitValue? character).isSome || character == '_'

/-- Cut off what marks the base of a number. -/
def base : List Char → Nat × List Char
  | '0' :: 'x' :: rest => (16, rest)
  | '0' :: 'o' :: rest => (8, rest)
  | '0' :: 'b' :: rest => (2, rest)
  | input => (10, input)

/-- Read a whole number.  Separators may stand anywhere behind the first digit. -/
def natural? (input : List Char) : Option (Nat × List Char) :=
  let (base, digits) := base input
  match digits.takeWhile isDigitOrSeparator with
  | [] => none
  | '_' :: _ => none
  | written =>
    (Text.number? base (written.filter (· ≠ '_'))).map
      (·, digits.dropWhile isDigitOrSeparator)

/-- Read a whole number below a bound. -/
def naturalBelow? (bound : Nat) (input : List Char) : Option (Nat × List Char) :=
  (natural? input).filter (·.1 < bound)

/-! ## Truth values -/

/-- Read a truth value. -/
def boolean? (input : List Char) : Option (Bool × List Char) :=
  match "true".toList.isPrefixOf? input with
  | some rest => some (true, rest)
  | none => ("false".toList.isPrefixOf? input).map (false, ·)

/-! ## Texts -/

/-- Where a reader of a quoted text stands. -/
inductive Quoted where
  /-- Between two characters. -/
  | between
  /-- After a backslash. -/
  | escape
  /-- In a character given by two digits, of which the first may have been read. -/
  | pair (first : Option Nat)
  /-- Before the brace of a character given by its code point. -/
  | brace
  /-- In a code point, of which some digits have been read. -/
  | codePoint (digits value : Nat)
  deriving DecidableEq, Repr

/-- The character that stands behind a backslash for another one. -/
def escaped? (character : Char) : Option Char :=
  match character with
  | '"' | '\\' | '\x27' => some character
  | 'n' => some '\n'
  | 'r' => some '\r'
  | 't' => some '\t'
  | '0' => some '\x00'
  | _ => none

/-- Put a character in front of what is read. -/
def push (character : Char) (read : Option (List Char × List Char)) :
    Option (List Char × List Char) :=
  read.map fun (characters, rest) => (character :: characters, rest)

/-- Read a quoted text from a given place on, up to the closing mark. -/
def quotedFrom (mark : Char) : Quoted → List Char → Option (List Char × List Char)
  | _, [] => none
  | .between, character :: rest =>
    if character = mark then some ([], rest)
    else if character = '\\' then quotedFrom mark .escape rest
    else push character (quotedFrom mark .between rest)
  | .escape, character :: rest =>
    match escaped? character with
    | some meant => push meant (quotedFrom mark .between rest)
    | none =>
      if character = 'x' then quotedFrom mark (.pair none) rest
      else if character = 'u' then quotedFrom mark .brace rest
      else none
  | .pair first, character :: rest =>
    match Text.digitIn? 16 character, first with
    | none, _ => none
    | some digit, none => quotedFrom mark (.pair (some digit)) rest
    | some digit, some first =>
      push (Char.ofNat (16 * first + digit)) (quotedFrom mark .between rest)
  | .brace, character :: rest =>
    if character = '\x7b' then quotedFrom mark (.codePoint 0 0) rest else none
  | .codePoint digits value, character :: rest =>
    if character = '\x7d' then
      if digits ≠ 0 ∧ value.isValidChar then
        push (Char.ofNat value) (quotedFrom mark .between rest)
      else none
    else if digits < 6 then
      match Text.digitIn? 16 character with
      | some digit => quotedFrom mark (.codePoint (digits + 1) (16 * value + digit)) rest
      | none => none
    else none

/-- Read a text without escapes, up to a mark that is followed by a number of hashes. -/
def rawFrom (hashes : Nat) : List Char → Option (List Char × List Char)
  | [] => none
  | character :: rest =>
    if character = '"' ∧ (List.replicate hashes '#').isPrefixOf rest then
      some ([], rest.drop hashes)
    else push character (rawFrom hashes rest)

/-- Read a text. -/
def text? : List Char → Option (List Char × List Char)
  | '"' :: rest => quotedFrom '"' .between rest
  | 'r' :: rest =>
    let hashes := (rest.takeWhile (· == '#')).length
    (symbol? '"' (rest.drop hashes)).bind (rawFrom hashes)
  | _ => none

/-- Skip a single character between apostrophes. -/
def skipCharacter? (input : List Char) : Option (List Char) :=
  match (symbol? '\x27' input).bind (quotedFrom '\x27' .between) with
  | some ([_], rest) => some rest
  | _ => none

end Record
end SerialShare
