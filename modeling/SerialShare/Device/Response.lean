import SerialShare.Text.Utf8
import SerialShare.Text.Blank

/-!
# Device responses

What the device sent after a command.
-/

namespace SerialShare
namespace Device

/-- What came back after a command. -/
inductive Response where
  /-- The device sent at least one byte. -/
  | data (bytes : Bytes)
  /-- Nothing had arrived. -/
  | noData
  deriving DecidableEq, Repr

namespace Response

/-- The response that consists of the bytes that arrived. -/
def ofBytes : Bytes → Response
  | [] => noData
  | bytes => data bytes

/-- How many characters of a response are shown. -/
def shownLength : Nat := 48

/-- The text shown for a response: its first characters, without blanks around them. -/
def text : Response → String
  | data bytes => Text.trim (String.ofList ((Text.lossy bytes).toList.take shownLength))
  | noData => "<no data>"

end Response
end Device
end SerialShare
