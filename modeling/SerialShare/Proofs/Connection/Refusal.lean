import SerialShare.Proofs.Connection.Conversation
import SerialShare.Proofs.Lines.Intake
import SerialShare.Proofs.Lines.RoundTrip

/-!
# Refusals are right, and little is held

A splitter that sees no newline refuses a line before all of it is there, so that it never holds
much.  It is `Prudent` when such a refusal is always right, whatever is still to come, when
otherwise it holds no more than the limit and one byte, which may be a carriage return, and when no
line within the limit is lost because of the pieces it came in.

Every limit makes for a prudent splitter but the largest there is: the sum of that limit and the
one byte is not a number of 64 bits, so that looking at a buffer without a newline panics.
Handlers have another limit, so that what one of them holds while it waits is bounded.
-/

namespace SerialShare
namespace Lines

/-! ## What the plain reading tells -/

/-- Where reading ends with a refusal before the first line, that line is over the limit. -/
theorem lt_length_content_of_refused
    {limit : Nat}
    {bytes line : Bytes}
    {fault : IoFault}
    (refused : plain limit bytes = ⟨[], some fault⟩)
    (first : line ∈ (items bytes).head?) :
    limit < (content line).length := by
  obtain ⟨later, shape⟩ := List.head?_eq_some_iff.mp first
  rw [plain, shape, plainLines] at refused
  by_contra within
  rw [plainLine_of_fits (Nat.not_lt.mp within)] at refused
  have lines := congrArg Transcript.lines refused
  cases lines

/-- Where nothing is read and nothing is refused yet, there is no newline, and no more than a
carriage return could bring within the limit. -/
theorem held_of_plainSoFar_eq_nil
    {limit : UInt64}
    {bytes : Bytes}
    (nothing : plainSoFar limit.toNat bytes = ⟨[], none⟩) :
    newline ∉ bytes ∧ bytes.length ≤ limit.toNat + 1 := by
  obtain absent | ⟨line, rest, absent, rfl⟩ := not_mem_or_eq_append_newline bytes
  · refine ⟨absent, ?_⟩
    by_contra long
    rw [plainSoFar, terminated_of_not_mem absent, remainder_of_not_mem absent,
      if_pos (Nat.not_le.mp long)] at nothing
    cases nothing
  · rw [plainSoFar_append_newline limit absent] at nothing
    cases judged : lineText limit line with
    | ok text =>
        rw [judged] at nothing
        have lines := congrArg Transcript.lines nothing
        cases lines
    | error fault =>
        rw [judged] at nothing
        cases nothing

/-- A byte string of one line is read as this line. -/
theorem plainSoFar_of_fits
    {limit : UInt64}
    {line : Bytes}
    (absent : newline ∉ line)
    (fits : Fits limit.toNat line) :
    plainSoFar limit.toNat (line ++ [newline]) = ⟨[textOf line], none⟩ := by
  rw [plainSoFar_append_newline limit absent, lineText_eq_plainLine, plainLine_of_fits fits,
    plainSoFar_of_not_mem List.not_mem_nil (Nat.zero_le _)]
  rfl

/-! ## Prudence -/

/-- What cutting a line off an intake now would give. -/
def Intake.next (intake : Intake) : Outcome :=
  (intake.splitter.decode intake.buffer).result

/-- However a splitter with a limit is used, its refusals are right, it holds little, and it loses
no line because of how the line is delivered. -/
structure Prudent (limit : UInt64) : Prop where
  /-- When a line is refused, nothing that could still arrive would bring the first line within the
  limit, whether a newline ends it or the end of everything does. -/
  refused : ∀ uses fault, ((Intake.new limit).after uses).next = .refused fault →
    ∀ more, ∀ line ∈ (items (((Intake.new limit).after uses).buffer ++ more)).head?,
      limit.toNat < (content line).length
  /-- When there is no line yet, no more is held than the limit and one byte. -/
  bounded : ∀ uses, ((Intake.new limit).after uses).next = .nothing →
    ((Intake.new limit).after uses).buffer.length ≤ limit.toNat + 1
  /-- Looking for a line never overflows. -/
  answered : ∀ uses, ((Intake.new limit).after uses).next ≠ .overflow
  /-- A line within the limit is given out, however it is delivered. -/
  delivered : ∀ line chunks, newline ∉ line → Fits limit.toNat line →
    chunks.flatten = line ++ [newline] →
      (Splitter.new limit).feed [] chunks = some (⟨[textOf line], none⟩, [])

theorem prudent_of_roomy
    {limit : UInt64}
    (roomy : Roomy limit) :
    Prudent limit := by
  have faithful : ∀ uses, Faithful limit false ((Intake.new limit).after uses).buffer
      (((Intake.new limit).after uses).splitter.decode ((Intake.new limit).after uses).buffer) := by
    intro uses
    have sound := (Intake.sound_run roomy uses).1
    have kept := Splitter.faithful_decode (sound.limit_eq.symm ▸ roomy) sound.looked
    rwa [sound.limit_eq] at kept
  refine ⟨?_, ?_, ?_, ?_⟩
  · intro uses fault refused more line first
    have unfinished : Extends false true more := by rintro ⟨⟩
    have read := (faithful uses).refused fault refused true more unfinished
    exact lt_length_content_of_refused read first
  · intro uses nothing
    have read := ((faithful uses).nothing nothing).2
    exact (held_of_plainSoFar_eq_nil read).2
  · exact fun uses => (faithful uses).answered
  · intro line chunks absent fits whole
    have read := plainSoFar_of_fits absent fits
    rw [← whole] at read
    rw [Splitter.feed_new_of_read roomy read, whole, remainder_append_newline absent,
      remainder_of_not_mem List.not_mem_nil]

/-- A splitter whose limit leaves no room for the one byte panics before anything has arrived. -/
theorem not_prudent_of_not_roomy
    {limit : UInt64}
    (full : ¬Roomy limit) :
    ¬Prudent limit := by
  intro prudent
  have overflow : (Intake.new limit).next = .overflow :=
    congrArg Reading.result (Splitter.decode_of_not_roomy full List.not_mem_nil)
  exact prudent.answered [] overflow

end Lines

/-! ## What a handler holds -/

namespace Exchange

open Lines (newline Prudent Roomy)

/-- A handler that waits for more holds no newline, and no more than its limit and one byte. -/
theorem Sound.held
    {bytes : Bytes}
    {exchange : Exchange}
    (sound : exchange.Sound bytes)
    (waits : exchange.connection.handler.phase = .receiving) :
    newline ∉ exchange.connection.handler.buffer ∧
      exchange.connection.handler.buffer.length ≤ 1024 + 1 := by
  obtain ⟨⟨sent, _, carries⟩, _⟩ := sound
  obtain ⟨arrived, _, follows⟩ := carries.arrived
  obtain ⟨running, _, idle⟩ := (Handler.phase_eq_receiving_iff _).mp waits
  have read := (follows.waiting running idle).2
  exact Lines.held_of_plainSoFar_eq_nil read

/-- Refusals are right, little is held and no line is lost exactly at the limits that leave room
for one byte more, which are all but the largest.  Whatever a client sends and however it arrives,
its handler holds no more than its limit and one byte between receiving and receiving. -/
theorem refusals_are_right_below_the_largest_limit (limit : UInt64) :
    (Prudent limit ↔ Roomy limit) ∧
      ∀ (capacity : Nat) (bytes : Bytes) (schedule : Nat → Act) (moment : Nat),
        let handler := ((start capacity bytes).after schedule moment).connection.handler
        handler.phase = .receiving →
          newline ∉ handler.buffer ∧ handler.buffer.length ≤ 1024 + 1 := by
  refine ⟨⟨?_, Lines.prudent_of_roomy⟩, ?_⟩
  · intro prudent
    by_contra full
    exact Lines.not_prudent_of_not_roomy full prudent
  · intro capacity bytes schedule moment handler waits
    exact (sound_after capacity bytes schedule moment).held waits

end Exchange

namespace Lines

/-- At the largest limit a line of one byte is given out when its newline comes with it, and looking
panics when the newline comes later. -/
theorem largest_limit_overflows_before_a_newline :
    ¬Prudent 18446744073709551615 ∧
      (Intake.new 18446744073709551615).answers [.append [0x61, 0x0A], .decode] =
        [⟨.line "a", []⟩] ∧
      (Intake.new 18446744073709551615).answers [.append [0x61], .decode] =
        [⟨.overflow, [0x61]⟩] := by
  refine ⟨not_prudent_of_not_roomy (by decide), ?_, ?_⟩
  · decide +kernel
  · decide +kernel

end Lines
end SerialShare
