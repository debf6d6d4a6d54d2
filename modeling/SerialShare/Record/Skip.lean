import SerialShare.Record.Lexeme

/-!
# Values nobody asked for

A record may hold entries that mean nothing to its reader.  Their values have to be well formed, and
are skipped.  Brackets nest only to a limited depth.
-/

namespace SerialShare
namespace Record

/-! ## Members of a group -/

/-- Read the members of a group up to its closing bracket, at most a number of them.  Members are
separated by commas, and there may be one more comma at the end. -/
def membersWithin {State : Type} (member : State → List Char → Option (State × List Char))
    (close : Char) : Nat → State → List Char → Option (State × List Char)
  | 0, _, _ => none
  | most + 1, state, input => do
    let input ← skipBlanks input
    match symbol? close input with
    | some rest => some (state, rest)
    | none =>
      let (state, input) ← member state input
      let input ← skipBlanks input
      match symbol? ',' input with
      | some rest => membersWithin member close most state rest
      | none => (symbol? close input).map (state, ·)

/-- Read the members of a group up to its closing bracket.  There are no more of them than
characters, because each but the last takes a comma. -/
def members? {State : Type} (member : State → List Char → Option (State × List Char))
    (close : Char) (state : State) (input : List Char) : Option (State × List Char) :=
  membersWithin member close (input.length + 1) state input

/-! ## Numbers with a fraction -/

/-- Whether a number with a fraction or an exponent can hold a character. -/
def isDecimalPart (character : Char) : Bool :=
  character.isDigit || character == '.' || character == 'e' || character == 'E' ||
    character == '+' || character == '-' || character == '_'

/-- Drop a sign. -/
def unsigned : List Char → List Char
  | '+' :: rest => rest
  | '-' :: rest => rest
  | input => input

/-- Whether characters are the exponent of a number, or nothing. -/
def isExponent : List Char → Bool
  | [] => true
  | mark :: rest =>
    (mark == 'e' || mark == 'E') && !(unsigned rest).isEmpty && (unsigned rest).all Char.isDigit

/-- Whether characters are a number in decimal, with a digit on at least one side of the point. -/
def isDecimal (characters : List Char) : Bool :=
  let body := unsigned characters
  let whole := body.takeWhile Char.isDigit
  match body.dropWhile Char.isDigit with
  | '.' :: rest =>
    let fraction := rest.takeWhile Char.isDigit
    (!whole.isEmpty || !fraction.isEmpty) && isExponent (rest.dropWhile Char.isDigit)
  | rest => !whole.isEmpty && isExponent rest

/-- The words that stand for numbers beyond all others. -/
def extremes : List String := ["inf", "+inf", "-inf", "NaN", "+NaN", "-NaN"]

/-- Skip a number in decimal. -/
def skipDecimal? (input : List Char) : Option (List Char) :=
  match extremes.findSome? fun extreme => word? extreme input with
  | some rest => some rest
  | none =>
    if isDecimal (input.takeWhile isDecimalPart) then some (input.dropWhile isDecimalPart) else none

/-- Skip a whole number of 64 bits.  With a sign it has one bit less. -/
def skipWhole? (input : List Char) : Option (List Char) :=
  match input with
  | '+' :: rest => (naturalBelow? (UInt64.size / 2) rest).map (·.2)
  | '-' :: rest => (naturalBelow? (UInt64.size / 2 + 1) rest).map (·.2)
  | _ => (naturalBelow? UInt64.size input).map (·.2)

/-- Skip a number of any kind.  One that is too large to be whole is read in decimal. -/
def skipNumber? (input : List Char) : Option (List Char) :=
  let body := unsigned input
  if (body.takeWhile isDigitOrSeparator).length < (body.takeWhile isDecimalPart).length then
    skipDecimal? input
  else
    match skipWhole? input with
    | some rest => some rest
    | none => skipDecimal? input

/-! ## Values -/

/-- What the members of a group are. -/
inductive Members where
  /-- Values. -/
  | plain
  /-- Values with names. -/
  | named
  /-- Pairs of values. -/
  | paired
  deriving DecidableEq, Repr

/-- What a value turns out to be at its beginning. -/
inductive Shape where
  /-- A value without parts, with what comes after it. -/
  | atom (rest : List Char)
  /-- A value inside `Some`, with what comes after that word. -/
  | optional (rest : List Char)
  /-- A group up to a bracket, with what comes after its first bracket. -/
  | group (close : Char) (members : Members) (rest : List Char)

/-- The members of a group between parentheses: they have names if the first one has a name and a
colon. -/
def membersOf (input : List Char) : Members :=
  match ((skipBlanks input).bind name?).bind fun named => skipBlanks named.2 with
  | some (':' :: _) => .named
  | _ => .plain

/-- The words that are values of their own. -/
def plainWords : List String := ["true", "false", "None", "inf", "-inf", "NaN"]

/-- Look at the beginning of a value. -/
def shape? (input : List Char) : Option Shape :=
  match plainWords.findSome? fun plain => word? plain input with
  | some rest => some (.atom rest)
  | none =>
    match word? "Some" input with
    | some rest => some (.optional rest)
    | none =>
      match name? input with
      | some (_, rest) => do
        match ← skipBlanks rest with
        | '(' :: rest => some (.group ')' (membersOf rest) rest)
        | rest => some (.atom rest)
      | none =>
        match input with
        | '(' :: ')' :: rest => some (.atom rest)
        | '(' :: rest => some (.group ')' (membersOf rest) rest)
        | '[' :: rest => some (.group ']' .plain rest)
        | '\x7b' :: rest => some (.group '\x7d' .paired rest)
        | '"' :: _ => (text? input).map fun text => .atom text.2
        | 'r' :: _ => (text? input).map fun text => .atom text.2
        | '\x27' :: _ => (skipCharacter? input).map .atom
        | character :: _ =>
          if character.isDigit || character == '+' || character == '-' || character == '.' then
            (skipNumber? input).map .atom
          else none
        | [] => none

/-- Skip a key, a colon and a value. -/
def skipEntry? (skipKey skip : List Char → Option (List Char)) (input : List Char) :
    Option (List Char) := do
  let input ← skipKey input
  let input ← skipBlanks input
  let input ← symbolAndBlanks? ':' input
  skip input

/-- Skip a member of a group, given how to skip a value. -/
def skipMember? (members : Members) (skip : List Char → Option (List Char)) :
    List Char → Option (List Char) :=
  match members with
  | .plain => skip
  | .named => skipEntry? (fun input => (name? input).map (·.2)) skip
  | .paired => skipEntry? skip skip

/-- Skip a value.  Opening a group takes one of the levels that are left, and so does each of its
members. -/
def skipValue? : Nat → List Char → Option (List Char)
  | levels, input =>
    match shape? input with
    | none => none
    | some (.atom rest) => some rest
    | some (.optional rest) =>
      match levels with
      | 0 => none
      | levels + 1 => do
        let rest ← skipBlanks rest
        match symbolAndBlanks? '(' rest with
        | some inner =>
          let inner ← skipValue? levels inner
          let inner ← skipBlanks inner
          let inner := (symbolAndBlanks? ',' inner).getD inner
          symbol? ')' inner
        | none => skipValue? levels rest
    | some (.group close members rest) =>
      match levels with
      | 0 => none
      | 1 => (members? (fun _ _ => none) close () rest).map (·.2)
      | levels + 2 =>
        let skip := skipMember? members (skipValue? levels)
        (members? (fun _ input => (skip input).map ((), ·)) close () rest).map (·.2)

/-! ## Records -/

/-- How deep brackets and their members may nest. -/
def nestingLimit : Nat := 128

/-- Read the name that a record may be given, which has to be its own. -/
def recordName? (name : String) (input : List Char) : Option (List Char) :=
  if startsWith isNamePart input then
    ((name? input).filter (·.1 == name.toList)).map (·.2)
  else some input

/-- Read a record: its entries one after the other, each with a name. -/
def record? {State : Type} (name : String)
    (entry : State → List Char → List Char → Option (State × List Char)) (state : State)
    (input : List Char) : Option (State × List Char) := do
  let input ← recordName? name input
  let input ← skipBlanks input
  let input ← symbol? '(' input
  members? (fun state input => do
    let (key, input) ← name? input
    let input ← skipBlanks input
    let input ← symbolAndBlanks? ':' input
    entry state key input) ')' state input

/-! ## Documents -/

/-- The extensions that a document may ask for.  None of them changes what a configuration means. -/
def extensions : List String :=
  ["unwrap_newtypes", "implicit_some", "unwrap_variant_newtypes"]

/-- Read the names of extensions, at most a number of them, with commas between them. -/
def extensionsWithin : Nat → List Char → Option (List Char)
  | 0, _ => none
  | most + 1, input => do
    let (_, input) ← (name? input).filter fun named =>
      extensions.any fun extension => extension.toList == named.1
    let input ← skipBlanks input
    match symbolAndBlanks? ',' input with
    | some rest => if startsWith isNamePart rest then extensionsWithin most rest else some rest
    | none => if startsWith isNamePart input then none else some input

/-- Read one line of extensions. -/
def attribute? (input : List Char) : Option (List Char) := do
  let input ← symbolAndBlanks? '#' input
  let input ← symbolAndBlanks? '!' input
  let input ← symbolAndBlanks? '[' input
  let input ← ("enable".toList.isPrefixOf? input).bind skipBlanks
  let input ← symbolAndBlanks? '(' input
  let input ← extensionsWithin (input.length + 1) input
  let input ← symbolAndBlanks? ')' input
  symbolAndBlanks? ']' input

/-- Read the extensions at the head of a document, at most a number of lines of them. -/
def headWithin : Nat → List Char → Option (List Char)
  | 0, _ => none
  | most + 1, input =>
    match input with
    | '#' :: _ => (attribute? input).bind (headWithin most)
    | _ => some input

/-- Read a document that consists of one record. -/
def document? {State : Type} (name : String)
    (entry : State → List Char → List Char → Option (State × List Char)) (state : State)
    (input : List Char) : Option State := do
  let input ← skipBlanks input
  let input ← headWithin (input.length + 1) input
  let (state, input) ← record? name entry state input
  let input ← skipBlanks input
  if input.isEmpty then some state else none

end Record
end SerialShare
