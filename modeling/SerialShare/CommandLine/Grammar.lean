import SerialShare.Text.Similarity

/-!
# Reading a command line

A grammar names the options, operands and commands of a program, and says what each of them does to
the settings that are read.  Words are read from left to right.  The value of an option or operand
is judged only when the next one comes, or at the end, so that an unknown option counts for more
than a bad value before it.  A command reads everything behind it with a grammar of its own.
-/

namespace SerialShare
namespace CommandLine

/-- Why reading stops before there are settings. -/
inductive Stop where
  /-- Help was asked for. -/
  | help
  /-- Nothing was asked for where help is the only answer. -/
  | helpInstead
  /-- The version was asked for. -/
  | version
  /-- There is no such option, or no operand is expected. -/
  | unknownArgument
  /-- An option or operand is given twice. -/
  | repeated
  /-- An option has no value, or an empty one where that means nothing. -/
  | missingValue
  /-- A value is not of the expected form. -/
  | malformedValue
  /-- A value is given to an option that takes none. -/
  | unexpectedValue
  /-- An operand is missing. -/
  | missingOperand
  /-- There is no such command. -/
  | unknownCommand
  deriving DecidableEq, Repr

/-! ## Grammars -/

/-- What an option or operand does. -/
inductive Effect (Settings : Type) where
  /-- It takes a value. -/
  | value (store : String → Settings → Except Stop Settings)
  /-- It takes no value. -/
  | mark (store : Settings → Settings)
  /-- Nothing more is read. -/
  | stop (reason : Stop)

/-- An option or an operand. -/
structure Argument (Settings : Type) where
  /-- Its name, which is also the long form of an option. -/
  name : String
  /-- The short form of an option. -/
  short : Option Char
  /-- What it does. -/
  effect : Effect Settings

/-- A command, and the commands below it, as far as help can be asked for them. -/
inductive Topic where
  /-- A command with its own commands. -/
  | command (name : String) (topics : List Topic)

/-- A command of a program. -/
structure Command (Settings : Type) where
  /-- Its name. -/
  name : String
  /-- The commands below it. -/
  topics : List Topic
  /-- How it reads the words behind it, and what that does. -/
  read : List String → Except Stop (Settings → Settings)

/-- What can be said on a command line. -/
structure Grammar (Settings : Type) where
  /-- The options, in any order. -/
  options : List (Argument Settings)
  /-- The operands, in order. -/
  operands : List (Argument Settings)
  /-- The commands, apart from the one for help. -/
  commands : List (Command Settings)

/-- The command for help, which every grammar with commands has. -/
def helpName : String := "help"

/-- The name of a topic. -/
def Topic.name : Topic → String
  | command name _ => name

/-- The topics below a topic. -/
def Topic.topics : Topic → List Topic
  | command _ topics => topics

/-- Whether words lead from topics to topics below them. -/
def leads : List Topic → List String → Bool
  | _, [] => true
  | topics, word :: rest =>
    match topics.find? fun topic => topic.name == word with
    | some topic => leads topic.topics rest
    | none => false

namespace Grammar

variable {Settings : Type}

/-- The names of the commands. -/
def commandNames (grammar : Grammar Settings) : List String :=
  if grammar.commands.isEmpty then [] else grammar.commands.map (·.name) ++ [helpName]

/-- What help can be asked for. -/
def topics (grammar : Grammar Settings) : List Topic :=
  grammar.commands.map (fun command => .command command.name command.topics) ++
    [.command helpName []]

/-- The option with a long form. -/
def long? (grammar : Grammar Settings) (name : List Char) : Option (Argument Settings) :=
  grammar.options.find? fun option => option.name.toList == name

/-- The option with a short form. -/
def short? (grammar : Grammar Settings) (character : Char) : Option (Argument Settings) :=
  grammar.options.find? fun option => option.short == some character

/-- Whether a word is so much like the name of a command that it may be meant as one. -/
def resemblesCommand (grammar : Grammar Settings) (word : String) : Bool :=
  grammar.commandNames.any fun name => Text.areSimilar 7 10 word.toList name.toList

/-- What a word is refused with where no operand is expected.  After the mark for operands the name
of a command is taken for one that came too late. -/
def excess (grammar : Grammar Settings) (onlyOperands : Bool) (word : String) : Stop :=
  if onlyOperands && grammar.commandNames.contains word then .unknownArgument
  else if grammar.resemblesCommand word then .unknownCommand
  else if !grammar.commands.isEmpty && grammar.operands.isEmpty then .unknownCommand
  else .unknownArgument

end Grammar

/-! ## Reading -/

/-- What has been read so far. -/
structure Reading (Settings : Type) where
  /-- The settings so far. -/
  settings : Settings
  /-- The names of the options and operands that have been taken over. -/
  given : List String
  /-- The option or operand that is not yet taken over, with its value if that has been read. -/
  pending : Option (Argument Settings × Option String)
  /-- The operands to come. -/
  operands : List (Argument Settings)
  /-- Whether everything from here on is an operand. -/
  onlyOperands : Bool

namespace Reading

variable {Settings : Type}

/-- Take over an option or operand. -/
def take (reading : Reading Settings) (argument : Argument Settings) (value : Option String) :
    Except Stop (Reading Settings) :=
  match argument.effect, value with
  | .stop reason, _ => .error reason
  | .value _, none => .error .missingValue
  | .value store, some value =>
    if reading.given.contains argument.name then .error .repeated
    else
      (store value reading.settings).map fun settings =>
        { reading with settings, given := argument.name :: reading.given }
  | .mark store, _ =>
    if reading.given.contains argument.name then .error .repeated
    else
      .ok { reading with
        settings := store reading.settings, given := argument.name :: reading.given }

/-- Take over what is pending. -/
def resolve (reading : Reading Settings) : Except Stop (Reading Settings) :=
  match reading.pending with
  | none => .ok reading
  | some (argument, value) => { reading with pending := none }.take argument value

/-- Take over what is pending, and leave something else to be taken over. -/
def postpone (reading : Reading Settings) (argument : Argument Settings) (value : Option String) :
    Except Stop (Reading Settings) :=
  reading.resolve.map fun reading => { reading with pending := some (argument, value) }

/-- Take over what is pending, and then an option at once. -/
def resolveAndTake (reading : Reading Settings) (argument : Argument Settings)
    (value : Option String) : Except Stop (Reading Settings) :=
  reading.resolve.bind fun reading => reading.take argument value

/-- The option that waits for its value. -/
def awaiting? (reading : Reading Settings) : Option (Argument Settings) :=
  match reading.pending with
  | some (argument, none) => some argument
  | _ => none

/-- Read an operand. -/
def operand (grammar : Grammar Settings) (reading : Reading Settings) (word : String) :
    Except Stop (Reading Settings) :=
  match reading.operands with
  | [] => .error (grammar.excess reading.onlyOperands word)
  | argument :: operands =>
    (reading.postpone argument (some word)).map fun reading => { reading with operands }

/-- Read a word that is no option and no command. -/
def plain (grammar : Grammar Settings) (reading : Reading Settings) (word : String) :
    Except Stop (Reading Settings) :=
  match reading.awaiting? with
  | some argument => .ok { reading with pending := some (argument, some word) }
  | none => reading.operand grammar word

/-- Read an option in its long form, given without the two hyphens. -/
def long (grammar : Grammar Settings) (reading : Reading Settings) (written : List Char) :
    Except Stop (Reading Settings) :=
  let value := (written.dropWhile (· ≠ '=')).tail?.map String.ofList
  match grammar.long? (written.takeWhile (· ≠ '=')) with
  | none => .error .unknownArgument
  | some argument =>
    match argument.effect, value with
    | .value _, none => reading.postpone argument none
    | .value _, some value => reading.resolveAndTake argument (some value)
    | _, none => reading.resolveAndTake argument none
    | _, some _ => .error .unexpectedValue

/-- Read options in their short forms, one character each.  What follows an option that takes a
value is its value. -/
def shorts (grammar : Grammar Settings) :
    Reading Settings → List Char → Except Stop (Reading Settings)
  | reading, [] => .ok reading
  | reading, character :: rest =>
    match grammar.short? character with
    | none => .error .unknownArgument
    | some argument =>
      match argument.effect, rest with
      | .value _, [] => reading.postpone argument none
      | .value _, '=' :: value => reading.resolveAndTake argument (some (String.ofList value))
      | .value _, value => reading.resolveAndTake argument (some (String.ofList value))
      | _, rest =>
        match reading.resolveAndTake argument none with
        | .ok reading => shorts grammar reading rest
        | .error stop => .error stop

/-- Read a word that is no command. -/
def word (grammar : Grammar Settings) (reading : Reading Settings) (word : String) :
    Except Stop (Reading Settings) :=
  if reading.onlyOperands then reading.operand grammar word
  else
    match word.toList with
    | ['-', '-'] => .ok { reading with onlyOperands := true }
    | '-' :: '-' :: written => reading.long grammar written
    | ['-'] => reading.plain grammar word
    | '-' :: characters => reading.shorts grammar characters
    | _ => reading.plain grammar word

end Reading

namespace Grammar

variable {Settings : Type}

/-- What was read on a command line. -/
structure Result (Settings : Type) where
  /-- The settings. -/
  settings : Settings
  /-- What the command behind them does, if there is one. -/
  command : Option (Settings → Settings)

/-- Read words up to their end or to a command, which reads all the words behind it. -/
def readFrom (grammar : Grammar Settings) :
    Reading Settings → List String → Except Stop (Result Settings)
  | reading, [] => reading.resolve.map fun reading => ⟨reading.settings, none⟩
  | reading, word :: rest =>
    if !reading.onlyOperands && reading.awaiting?.isNone && grammar.commandNames.contains word then
      match grammar.commands.find? fun command => command.name == word with
      | some command => do
        let change ← command.read rest
        let reading ← reading.resolve
        .ok ⟨reading.settings, some change⟩
      | none => .error (if leads grammar.topics rest then .help else .unknownCommand)
    else
      match reading.word grammar word with
      | .ok reading => grammar.readFrom reading rest
      | .error stop => .error stop

/-- Read a command line, starting from given settings. -/
def read (grammar : Grammar Settings) (settings : Settings) (words : List String) :
    Except Stop (Result Settings) :=
  grammar.readFrom
    { settings, given := [], pending := none, operands := grammar.operands, onlyOperands := false }
    words

end Grammar
end CommandLine
end SerialShare
