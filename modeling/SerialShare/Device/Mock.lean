import SerialShare.Device.Link

/-!
# A device in memory

A mock answers the status request with a frame of the status it was given, and sends every other
command back as it came.  It lets the service run without hardware.
-/

namespace SerialShare
namespace Device

/-- A device in memory. -/
structure Mock where
  /-- The status to report from now on. -/
  status : Status
  /-- What has been sent and not yet been read. -/
  pending : Bytes
  deriving DecidableEq, Repr

namespace Mock

/-- A mock that reports the given status. -/
def new (status : Status) : Mock := ⟨status, []⟩

/-- Report another status from now on. -/
def setStatus (mock : Mock) (status : Status) : Mock :=
  { mock with status }

/-- The answer to written bytes, while reporting the given status. -/
def answer (status : Status) (bytes : Bytes) : Bytes :=
  match Command.ofWire? bytes with
  | some .statusRequest => Frame.encode status ++ terminator
  | some command => command.wire
  | none => []

/-- What a mock records when bytes are written to it. -/
def recorded (bytes : Bytes) : List Log.Event :=
  match Command.ofWire? bytes with
  | some .statusRequest => []
  | some command => [.mockEchoed command]
  | none => [.mockIgnored bytes]

/-- Write bytes: the answer is there to be read at once. -/
def write (mock : Mock) (bytes : Bytes) : Mock :=
  { mock with pending := mock.pending ++ answer mock.status bytes }

/-- Take everything pending. -/
def read (mock : Mock) : Bytes × Mock :=
  (mock.pending, { mock with pending := [] })

/-- A mock as a link of the given name.  None of its operations fail. -/
def link (name : String) : Link Mock where
  name := name
  write mock bytes := ⟨.ok (), mock.write bytes, recorded bytes⟩
  read mock := ⟨.ok mock.read.1, mock.read.2, []⟩

end Mock
end Device
end SerialShare
