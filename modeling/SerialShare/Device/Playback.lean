import SerialShare.Device.Link

/-!
# Playback of a recorded conversation

A link that gives out prepared readings one after the other, whatever is written to it, and that
can fail a chosen write.
-/

namespace SerialShare
namespace Device

/-- Prepared readings, and the write that fails. -/
structure Playback where
  /-- What the next readings give.  After the last one nothing arrives any more. -/
  readings : List (Except IoFault Bytes)
  /-- How many writes succeed before one fails, if one does. -/
  writesBeforeFailure : Option Nat

namespace Playback

/-- What a write fails with once the device is unplugged. -/
def unplugged : IoFault := ⟨.brokenPipe, "unplugged"⟩

/-- Write something.  The failing write is left behind like any other. -/
def write (playback : Playback) : Except IoFault Unit × Playback :=
  match playback.writesBeforeFailure with
  | some 0 => (.error unplugged, { playback with writesBeforeFailure := none })
  | some (remaining + 1) => (.ok (), { playback with writesBeforeFailure := some remaining })
  | none => (.ok (), playback)

/-- Take the next reading. -/
def read (playback : Playback) : Except IoFault Bytes × Playback :=
  match playback.readings with
  | [] => (.ok [], playback)
  | reading :: rest => (reading, { playback with readings := rest })

/-- More operations than it takes until nothing can fail any more. -/
def lifetime (playback : Playback) : Nat :=
  playback.readings.length + playback.writesBeforeFailure.getD 0 + 1

/-- Playback as a link of the given name. -/
def link (name : String) : Link Playback where
  name := name
  write playback _ := ⟨playback.write.1, playback.write.2, []⟩
  read playback := ⟨playback.read.1, playback.read.2, []⟩

end Playback
end Device
end SerialShare
