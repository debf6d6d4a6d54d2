import SerialShare.Frame.Status
import SerialShare.Query.Question
import SerialShare.Text.Numeral

/-!
# Replies

The one-line reply to a request, given what is known of the device.  Numbers are written in
decimal, sequences as a parenthesised list of quoted items.  Before a first status is known,
numbers read zero and sequences are empty.
-/

namespace SerialShare
namespace Query

/-- A number, zero when it is not known yet. -/
def number (value : Option UInt8) : String :=
  String.ofList (Text.decimal (value.getD 0).toNat)

/-- An item between apostrophes.  An apostrophe stands between quotation marks instead, and a
backslash is doubled. -/
def quote : List Char → List Char
  | ['\x27'] => ['"', '\x27', '"']
  | ['\\'] => ['\x27', '\\', '\\', '\x27']
  | item => '\x27' :: item ++ ['\x27']

/-- Items in parentheses, quoted and separated. -/
def tuple (items : List (List Char)) : String :=
  String.ofList ('(' :: [',', ' '].intercalate (items.map quote) ++ [')'])

/-- The answer to a question. -/
def answer (question : Question) (snapshot : Snapshot) : String :=
  match question with
  | .hardwareVersion => number (snapshot.map (·.hardwareVersion))
  | .softwareVersion => number (snapshot.map (·.softwareVersion))
  | .selfTemperature => number (snapshot.map (·.selfTemperature))
  | .relay => number (snapshot.map (·.relay))
  | .opticalRelay =>
    tuple (snapshot.elim [] fun status => status.opticalRelays.symbols.map ([·]))
  | .dryContact =>
    tuple (snapshot.elim [] fun status =>
      status.dryContacts.toList.map fun contact => [Char.ofUInt8 contact])

/-- The listing of every word, sent for anything that is none of them. -/
def help : String :=
  tuple (Question.all.map fun question => question.token.toList)

/-- The reply to a request line. -/
def reply (request : String) (snapshot : Snapshot) : String :=
  match Question.parse? request with
  | some question => answer question snapshot
  | none => help

end Query
end SerialShare
