import SerialShare.Fault

/-!
# Lines of a byte stream

Both sides of a query connection exchange lines.  A `Splitter` cuts lines off a buffer to which
bytes are appended as they arrive.  It remembers how far it has looked for a newline, so that no
byte is looked at twice, and gives up on a line as soon as nothing to come could bring it within
the limit.
-/

namespace SerialShare
namespace Lines

/-- What ends a line. -/
def newline : UInt8 := 0x0A

/-- What may stand before the end of a line. -/
def carriageReturn : UInt8 := 0x0D

/-- The longest line accepted unless told otherwise. -/
def defaultLimit : UInt64 := 1024

/-- Why an overlong line is refused. -/
def tooLong (limit : UInt64) : IoFault :=
  ⟨.invalidData, "Line longer than " ++ limit.toNat.repr ++ " bytes"⟩

/-- The bytes of a line without its newline: one carriage return at the end does not count. -/
def content (bytes : Bytes) : Bytes :=
  if bytes.getLast? = some carriageReturn then bytes.dropLast else bytes

/-- The text of a line without its newline, if it is within the limit. -/
def lineText (limit : UInt64) (bytes : Bytes) : Except IoFault String :=
  if (content bytes).length ≤ limit.toNat then .ok (Text.lossy (content bytes))
  else .error (tooLong limit)

/-- The bytes that carry one line. -/
def encode (line : String) : Bytes :=
  Text.utf8 line ++ [newline]

/-- Cuts lines off a buffer. -/
structure Splitter where
  /-- The longest line accepted, in bytes. -/
  limit : UInt64
  /-- How much of the buffer is known to hold no newline. -/
  cursor : Nat
  deriving DecidableEq, Repr

/-- What comes of looking for a line. -/
inductive Outcome where
  /-- The text of a line. -/
  | line (text : String)
  /-- There is no line yet. -/
  | nothing
  /-- The line is refused. -/
  | refused (fault : IoFault)
  /-- The limit and one byte more are not a number of 64 bits, at which the program panics. -/
  | overflow
  deriving DecidableEq, Repr

/-- What became of a complete line. -/
def Outcome.ofLine : Except IoFault String → Outcome
  | .ok text => .line text
  | .error fault => .refused fault

/-- A complete line is given out or refused. -/
theorem Outcome.ofLine_ne_nothing (judged : Except IoFault String) : ofLine judged ≠ .nothing := by
  cases judged with
  | ok text => rintro ⟨⟩
  | error fault => rintro ⟨⟩

/-- The answer of a splitter, and what it leaves behind. -/
structure Reading where
  /-- What was read. -/
  result : Outcome
  /-- The splitter afterwards. -/
  splitter : Splitter
  /-- The rest of the buffer. -/
  buffer : Bytes

namespace Splitter

/-- A splitter that has not looked at anything yet. -/
def new (limit : UInt64) : Splitter := ⟨limit, 0⟩

/-- Cut the next line off a buffer.  Without a newline the line is refused when it is over the limit
by more than the one byte that a carriage return may take.  The sum of limit and byte is one of
words of 64 bits, and taken only then. -/
def decode (splitter : Splitter) (buffer : Bytes) : Reading :=
  match (buffer.drop splitter.cursor).findIdx? (· == newline) with
  | some offset =>
    { result := .ofLine (lineText splitter.limit (buffer.take (splitter.cursor + offset)))
      splitter := { splitter with cursor := 0 }
      buffer := buffer.drop (splitter.cursor + offset + 1) }
  | none =>
    if UInt64.size ≤ splitter.limit.toNat + 1 then { result := .overflow, splitter, buffer }
    else if splitter.limit.toNat + 1 < buffer.length then
      { result := .refused (tooLong splitter.limit), splitter, buffer }
    else
      { result := .nothing
        splitter := { splitter with cursor := buffer.length }
        buffer }

/-- Cut the next line off a buffer to which nothing will be added.  What follows the last newline is
a line too, unless it is empty. -/
def decodeEnd (splitter : Splitter) (buffer : Bytes) : Reading :=
  let reading := splitter.decode buffer
  match reading.result with
  | .nothing =>
    let splitter := { reading.splitter with cursor := 0 }
    if reading.buffer.isEmpty then { result := .nothing, splitter, buffer := reading.buffer }
    else
      { result := .ofLine (lineText splitter.limit reading.buffer)
        splitter
        buffer := [] }
  | _ => reading

/-- A line cut off a buffer takes at least its newline with it. -/
theorem length_buffer_decode_lt
    {splitter : Splitter}
    {buffer : Bytes}
    {line : String}
    (cut : (splitter.decode buffer).result = .line line) :
    (splitter.decode buffer).buffer.length < buffer.length := by
  unfold decode at cut ⊢
  split at cut
  · rename_i offset found
    have inside := (List.findIdx?_eq_some_iff_getElem.mp found).1
    simp only [List.length_drop] at inside ⊢
    omega
  · split at cut
    · cases cut
    · split at cut <;> cases cut

/-- Every line that a buffer holds, with what is left: the lines, and the answer that came after
them. -/
def drain (splitter : Splitter) (buffer : Bytes) : List String × Reading :=
  match _cut : (splitter.decode buffer).result with
  | .line line =>
    let reading := splitter.decode buffer
    let (lines, last) := reading.splitter.drain reading.buffer
    (line :: lines, last)
  | _ => ([], splitter.decode buffer)
termination_by buffer.length
decreasing_by exact length_buffer_decode_lt _cut

end Splitter
end Lines
end SerialShare
