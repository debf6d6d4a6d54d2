import SerialShare.Device.Mock

/-!
# A device in memory keeps what it owes

A device in memory is written to, read from and given other statuses to report, in any order.  What
it owes for written bytes is fixed when they are written: `Answering` tells the three kinds of answer
apart by the bytes alone.

The main statement is that nothing it owes is lost, repeated or moved: what has been read and what is
still pending are, one after the other, all the answers in the order of the writes.
-/

namespace SerialShare
namespace Device
namespace Mock

open Text (utf8)

/-! ## One answer -/

/-- An answer is the right one for written bytes, while a status is reported. -/
structure Answering (status : Status) (bytes answer : Bytes) : Prop where
  /-- The frame of the status and the end of a line answer the status request. -/
  frame : answer = Frame.encode status ++ [0x0D, 0x0A] ↔ bytes = utf8 "TSC10173\r\n"
  /-- The bytes themselves answer an auxiliary command. -/
  echo : bytes ≠ [] →
    (answer = bytes ↔ bytes = utf8 "TSC11576\r\n" ∨ bytes = utf8 "TSC1C105000000000005\r\n")
  /-- Nothing answers anything else. -/
  silence : answer = [] ↔
    bytes ≠ utf8 "TSC10173\r\n" ∧ bytes ≠ utf8 "TSC11576\r\n" ∧
      bytes ≠ utf8 "TSC1C105000000000005\r\n"

theorem wire_statusRequest : Command.statusRequest.wire = utf8 "TSC10173\r\n" := by decide

theorem wire_auxiliary1576 : Command.auxiliary1576.wire = utf8 "TSC11576\r\n" := by decide

theorem wire_auxiliaryC105 : Command.auxiliaryC105.wire = utf8 "TSC1C105000000000005\r\n" := by
  decide

/-- The bytes of a command are too few for a frame. -/
theorem wire_ne_frame
    (command : Command)
    (status : Status) :
    command.wire ≠ Frame.encode status ++ [0x0D, 0x0A] := by
  have short : command.wire.length ≤ 22 := by cases command <;> decide
  intro same
  rw [same, List.length_append, Frame.length_encode] at short
  exact absurd short (by decide)

theorem frame_ne_nil (status : Status) : Frame.encode status ++ [0x0D, 0x0A] ≠ [] :=
  List.append_ne_nil_of_right_ne_nil _ (List.cons_ne_nil _ _)

theorem answering_statusRequest (status : Status) :
    Answering status Command.statusRequest.wire (Frame.encode status ++ [0x0D, 0x0A]) := by
  refine ⟨?_, ?_, ?_⟩
  · exact iff_of_true rfl wire_statusRequest
  · intro _
    exact iff_of_false (wire_ne_frame _ status).symm (by decide)
  · exact iff_of_false (frame_ne_nil status) (by decide)

theorem answering_auxiliary
    (status : Status)
    {command : Command}
    (auxiliary : command ∈ Command.auxiliary) :
    Answering status command.wire command.wire := by
  have others : ∀ command ∈ Command.auxiliary, command.wire ≠ utf8 "TSC10173\r\n" ∧
      (command.wire = utf8 "TSC11576\r\n" ∨
        command.wire = utf8 "TSC1C105000000000005\r\n") ∧ command.wire ≠ [] := by decide
  obtain ⟨notRequest, known, present⟩ := others command auxiliary
  refine ⟨?_, ?_, ?_⟩
  · exact iff_of_false (wire_ne_frame command status) notRequest
  · intro _
    exact iff_of_true rfl known
  · refine iff_of_false present ?_
    rintro ⟨_, notFirst, notSecond⟩
    exact known.elim notFirst notSecond

theorem answering_nil
    (status : Status)
    {bytes : Bytes}
    (other : ∀ command : Command, bytes ≠ command.wire) :
    Answering status bytes [] := by
  have notRequest := other .statusRequest
  have notFirst := other .auxiliary1576
  have notSecond := other .auxiliaryC105
  rw [wire_statusRequest] at notRequest
  rw [wire_auxiliary1576] at notFirst
  rw [wire_auxiliaryC105] at notSecond
  refine ⟨?_, ?_, ?_⟩
  · exact iff_of_false (frame_ne_nil status).symm notRequest
  · intro present
    exact iff_of_false present.symm (not_or.mpr ⟨notFirst, notSecond⟩)
  · exact iff_of_true rfl ⟨notRequest, notFirst, notSecond⟩

/-- Every answer is the right one. -/
theorem answering_answer
    (status : Status)
    (bytes : Bytes) :
    Answering status bytes (answer status bytes) := by
  cases recognised : Command.ofWire? bytes with
  | none =>
      simp only [answer, recognised]
      apply answering_nil
      rintro command rfl
      rw [Command.ofWire?_wire] at recognised
      cases recognised
  | some command =>
      obtain rfl := Command.wire_of_ofWire? recognised
      simp only [answer, recognised]
      cases command with
      | statusRequest => exact answering_statusRequest status
      | auxiliary1576 => exact answering_auxiliary status (by decide)
      | auxiliaryC105 => exact answering_auxiliary status (by decide)

/-! ## Any sequence of uses -/

/-- What can be done with a device in memory. -/
inductive Use where
  /-- Bytes are written to it. -/
  | write (bytes : Bytes)
  /-- What is pending is read. -/
  | read
  /-- It is given another status to report. -/
  | report (status : Status)

/-- One use of a device in memory, over its link: the device afterwards, and the bytes that came
back, or the fault that came of it. -/
def use (name : String) (mock : Mock) : Use → Mock × Except IoFault Bytes
  | .write bytes =>
    let answer := (link name).write mock bytes
    (answer.state, answer.result.map fun _ => [])
  | .read =>
    let answer := (link name).read mock
    (answer.state, answer.result)
  | .report status => (mock.setStatus status, .ok [])

/-- Uses one after the other. -/
def run (name : String) : Mock → List Use → Mock × List (Except IoFault Bytes)
  | mock, [] => (mock, [])
  | mock, first :: later =>
    let (next, result) := mock.use name first
    let (last, results) := run name next later
    (last, result :: results)

/-- The bytes that came back. -/
def returned (results : List (Except IoFault Bytes)) : Bytes :=
  results.flatMap fun result => result.toOption.getD []

/-- The answers to all writes in order, each for the status that is reported when it is written. -/
def owed : Status → List Use → Bytes
  | _, [] => []
  | status, .write bytes :: later => answer status bytes ++ owed status later
  | status, .read :: later => owed status later
  | _, .report status :: later => owed status later

/-- A use never fails, and what it brings back and what is pending after it are what was pending and
what the use is owed. -/
theorem use_conserves
    (name : String)
    (mock : Mock)
    (first : Use)
    (later : List Use) :
    ∃ bytes, (mock.use name first).2 = .ok bytes ∧
      bytes ++ ((mock.use name first).1.pending ++ owed (mock.use name first).1.status later) =
        mock.pending ++ owed mock.status (first :: later) := by
  cases first with
  | write bytes =>
      refine ⟨[], rfl, ?_⟩
      simp only [use, link, write, owed, List.nil_append, List.append_assoc]
  | read => exact ⟨mock.pending, rfl, rfl⟩
  | report status => exact ⟨[], rfl, rfl⟩

/-- So it is for any number of uses, one after the other. -/
theorem run_conserves
    (name : String)
    (mock : Mock)
    (uses : List Use) :
    (∀ result ∈ (run name mock uses).2, ∃ bytes, result = .ok bytes) ∧
      returned (run name mock uses).2 ++ (run name mock uses).1.pending =
        mock.pending ++ owed mock.status uses := by
  induction uses generalizing mock with
  | nil => exact ⟨List.forall_mem_nil _, (List.append_nil mock.pending).symm⟩
  | cons first later inductionHypothesis =>
      obtain ⟨bytes, came, kept⟩ := use_conserves name mock first later
      obtain ⟨allCame, allKept⟩ := inductionHypothesis (mock.use name first).1
      refine ⟨?_, ?_⟩
      · exact List.forall_mem_cons.mpr ⟨⟨bytes, came⟩, allCame⟩
      · rw [← kept, ← allKept, ← List.append_assoc]
        simp only [run, returned, came, List.flatMap_cons]
        rfl

/-- However a device in memory is used, nothing fails, and what has been read and what is pending
are together the answers to all writes, in order and each for the status at its own time.  A read
takes everything that is pending, and the bytes written alone decide which kind of answer they
get. -/
theorem answers_are_conserved
    (name : String)
    (status : Status)
    (uses : List Use) :
    let (mock, results) := run name (.new status) uses
    (∀ result ∈ results, ∃ bytes, result = .ok bytes) ∧
      returned results ++ mock.pending = owed status uses ∧
      mock.use name .read = ({ mock with pending := [] }, .ok mock.pending) ∧
      ∀ reported bytes, Answering reported bytes (answer reported bytes) := by
  obtain ⟨came, kept⟩ := run_conserves name (.new status) uses
  exact ⟨came, kept, rfl, answering_answer⟩

/-- Two frames that nobody has read are each of the status of their own time, also when they are read
under a third. -/
example (first second third : Status) :
    (run "mock" (.new first)
        [.write Command.statusRequest.wire, .report second, .write Command.statusRequest.wire,
          .report third, .read]).2.getLast? =
      some (.ok (Frame.encode first ++ [0x0D, 0x0A] ++ (Frame.encode second ++ [0x0D, 0x0A]))) :=
  by rfl

end Mock
end Device
end SerialShare
