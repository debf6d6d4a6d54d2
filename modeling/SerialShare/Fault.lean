import SerialShare.Frame.Codec
import SerialShare.Net.Address

/-!
# What can go wrong

Faults of input and output, and the faults of the service with the text shown for each.
-/

namespace SerialShare

/-- The kinds of failed input or output. -/
inductive IoKind where
  /-- The data are not of the expected form. -/
  | invalidData
  /-- The other side no longer takes data. -/
  | brokenPipe
  /-- The data end too early. -/
  | unexpectedEof
  /-- No answer came in time. -/
  | timedOut
  /-- The thing to open is not there. -/
  | notFound
  /-- Access is not allowed. -/
  | permissionDenied
  /-- The address is none of this host. -/
  | addressNotAvailable
  /-- Nobody accepts connections at the address. -/
  | connectionRefused
  /-- Anything else. -/
  | other
  deriving DecidableEq, Repr

/-- A failed input or output operation. -/
structure IoFault where
  /-- What kind of failure it is. -/
  kind : IoKind
  /-- The text shown for it. -/
  message : String
  deriving DecidableEq, Repr

/-- A fault of the service. -/
inductive Fault where
  /-- A response of the device could not be decoded. -/
  | malformedFrame (reason : Frame.Malformed)
  /-- The link to the device failed. -/
  | deviceIo (path : String) (source : IoFault)
  /-- A client went away in the middle of a conversation. -/
  | clientDisconnected (source : IoFault)
  /-- The service could not accept connections. -/
  | listen (address : Net.SocketAddress) (source : IoFault)
  /-- The configuration is not usable. -/
  | badConfig (problem : String)
  deriving DecidableEq, Repr

namespace Fault

/-- The text shown for a fault. -/
def message : Fault → String
  | malformedFrame reason => "Malformed frame: " ++ reason.message
  | deviceIo path _ => "Device I/O problem on `" ++ path ++ "`"
  | clientDisconnected _ => "Client disconnected"
  | listen address _ => "Could not listen on `" ++ address.text ++ "`"
  | badConfig problem => "Bad configuration. Problem: `" ++ problem ++ "`"

end Fault
end SerialShare
