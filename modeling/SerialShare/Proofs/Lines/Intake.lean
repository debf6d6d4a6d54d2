import SerialShare.Proofs.Lines.Framing

/-!
# A splitter used in any order

An intake is a splitter with its buffer.  Bytes are appended to the buffer and lines are cut off it
in any order, also after a refusal, and also after lines have been cut off as if the end had come.

What the splitter remembers stays true all the while, so that it has no part in any answer: `Search`
remembers nothing, looks at the whole buffer each time, and gives the same answers.  When lines are
cut off an open buffer only, what has left the buffer is a number of whole lines, and the lines among
them that are within the limit are those that were given out.
-/

namespace SerialShare
namespace Lines

/-- What can be done with a splitter and its buffer. -/
inductive Use where
  /-- Bytes arrive. -/
  | append (chunk : Bytes)
  /-- The next line is cut off. -/
  | decode
  /-- The next line is cut off, as if no more bytes were to arrive. -/
  | decodeEnd
  deriving DecidableEq

/-- What came of cutting off a line, and what it left of the buffer. -/
structure Answer where
  /-- What was read. -/
  result : Outcome
  /-- The rest of the buffer. -/
  buffer : Bytes
  deriving DecidableEq

/-- What uses come to, one after the other: the state afterwards, and the answers. -/
def run {State : Type} (step : State → Use → State × Option Answer) :
    State → List Use → State × List Answer
  | state, [] => (state, [])
  | state, use :: later =>
    let (next, answer) := step state use
    let (last, answers) := run step next later
    (last, answer.toList ++ answers)

/-- Whatever two ways of doing the same have in common, and keep while they answer alike, they have
in common after any uses, and their answers are the same. -/
theorem run_related
    {State Other : Type}
    {step : State → Use → State × Option Answer}
    {otherStep : Other → Use → Other × Option Answer}
    {Related : State → Other → Prop}
    (kept : ∀ state other use, Related state other →
      Related (step state use).1 (otherStep other use).1 ∧
        (step state use).2 = (otherStep other use).2)
    {state : State}
    {other : Other}
    (related : Related state other)
    (uses : List Use) :
    Related (run step state uses).1 (run otherStep other uses).1 ∧
      (run step state uses).2 = (run otherStep other uses).2 := by
  induction uses generalizing state other with
  | nil => exact ⟨related, rfl⟩
  | cons use later inductionHypothesis =>
      obtain ⟨nextRelated, sameAnswer⟩ := kept state other use related
      obtain ⟨lastRelated, sameAnswers⟩ := inductionHypothesis nextRelated
      refine ⟨lastRelated, ?_⟩
      simp only [run, sameAnswer, sameAnswers]

/-! ## With a splitter -/

/-- A splitter with its buffer. -/
structure Intake where
  /-- Cuts lines off the buffer. -/
  splitter : Splitter
  /-- What has arrived and not yet been cut off. -/
  buffer : Bytes

namespace Intake

/-- A splitter that has not looked at anything yet, and nothing to look at. -/
def new (limit : UInt64) : Intake := ⟨.new limit, []⟩

/-- One use of a splitter. -/
def step (intake : Intake) : Use → Intake × Option Answer
  | .append chunk => ({ intake with buffer := intake.buffer ++ chunk }, none)
  | .decode =>
    let reading := intake.splitter.decode intake.buffer
    (⟨reading.splitter, reading.buffer⟩, some ⟨reading.result, reading.buffer⟩)
  | .decodeEnd =>
    let reading := intake.splitter.decodeEnd intake.buffer
    (⟨reading.splitter, reading.buffer⟩, some ⟨reading.result, reading.buffer⟩)

/-- The intake after uses of it. -/
def after (intake : Intake) (uses : List Use) : Intake := (run step intake uses).1

/-- The answers to uses. -/
def answers (intake : Intake) (uses : List Use) : List Answer := (run step intake uses).2

/-- The limit is as it was, and the cursor lies within the buffer and behind no newline. -/
structure Sound (limit : UInt64) (intake : Intake) : Prop where
  /-- The limit stays. -/
  limit_eq : intake.splitter.limit = limit
  /-- The splitter can go on with the buffer. -/
  looked : intake.splitter.Looked intake.buffer

theorem sound_new (limit : UInt64) : (new limit).Sound limit :=
  ⟨rfl, Splitter.looked_of_cursor_eq_zero rfl []⟩

end Intake

/-! ## Without a memory -/

namespace Search

/-- Cut the next line off a buffer, looking at all of it. -/
def decode (limit : Nat) (buffer : Bytes) : Answer :=
  if newline ∈ buffer then
    { result := .ofLine (plainLine limit (buffer.takeWhile (· ≠ newline)))
      buffer := (buffer.dropWhile (· ≠ newline)).tail }
  else if limit + 1 < buffer.length then ⟨.refused (overlong limit), buffer⟩
  else ⟨.nothing, buffer⟩

/-- Cut the next line off a buffer to which nothing will be added, looking at all of it. -/
def decodeEnd (limit : Nat) (buffer : Bytes) : Answer :=
  let answer := decode limit buffer
  match answer.result with
  | .nothing =>
    if answer.buffer = [] then ⟨.nothing, []⟩
    else ⟨.ofLine (plainLine limit answer.buffer), []⟩
  | _ => answer

/-- One use of a buffer. -/
def step (limit : Nat) (buffer : Bytes) : Use → Bytes × Option Answer
  | .append chunk => (buffer ++ chunk, none)
  | .decode => ((decode limit buffer).buffer, some (decode limit buffer))
  | .decodeEnd => ((decodeEnd limit buffer).buffer, some (decodeEnd limit buffer))

theorem decode_of_not_mem
    {limit : Nat}
    {buffer : Bytes}
    (absent : newline ∉ buffer) :
    decode limit buffer =
      if limit + 1 < buffer.length then ⟨.refused (overlong limit), buffer⟩
      else ⟨.nothing, buffer⟩ := by
  rw [decode, if_neg absent]

theorem decode_append_newline
    {line rest : Bytes}
    (limit : Nat)
    (absent : newline ∉ line) :
    decode limit (line ++ newline :: rest) = ⟨.ofLine (plainLine limit line), rest⟩ := by
  have kept : ∀ byte ∈ line, decide (byte ≠ newline) = true := by
    intro byte present
    rw [decide_eq_true_iff]
    rintro rfl
    exact absent present
  have here : newline ∈ line ++ newline :: rest :=
    List.mem_append_right line List.mem_cons_self
  rw [decode, if_pos here, List.takeWhile_append_of_pos kept, List.dropWhile_append_of_pos kept]
  simp

end Search

/-! ## One and the same -/

section Agreement

variable {limit : UInt64} {intake : Intake}

/-- Cutting a line off gives what a search of the whole buffer gives. -/
theorem decode_eq_search
    (roomy : Roomy limit)
    (sound : intake.Sound limit) :
    (⟨(intake.splitter.decode intake.buffer).result,
        (intake.splitter.decode intake.buffer).buffer⟩ : Answer) =
      Search.decode limit.toNat intake.buffer := by
  obtain ⟨splitter, buffer⟩ := intake
  obtain ⟨rfl, looked⟩ := sound
  obtain absent | ⟨line, rest, absent, rfl⟩ := not_mem_or_eq_append_newline buffer
  · rw [Splitter.decode_of_not_mem roomy absent, Search.decode_of_not_mem absent]
    split <;> rfl
  · rw [Splitter.decode_append_newline looked absent, Search.decode_append_newline _ absent,
      lineText_eq_plainLine]

/-- The same holds of a buffer to which nothing will be added. -/
theorem decodeEnd_eq_search
    (roomy : Roomy limit)
    (sound : intake.Sound limit) :
    (⟨(intake.splitter.decodeEnd intake.buffer).result,
        (intake.splitter.decodeEnd intake.buffer).buffer⟩ : Answer) =
      Search.decodeEnd limit.toNat intake.buffer := by
  have searched := decode_eq_search roomy sound
  have limitEqual := (Splitter.faithful_decode (sound.limit_eq ▸ roomy) sound.looked).limit_eq
  rw [sound.limit_eq] at limitEqual
  rw [Search.decodeEnd, ← searched, Splitter.decodeEnd]
  cases result : (intake.splitter.decode intake.buffer).result with
  | overflow => simp only [result]
  | refused fault => simp only [result]
  | line text => simp only [result]
  | nothing =>
      simp only [List.isEmpty_iff, limitEqual, lineText_eq_plainLine]
      split
      · rename_i empty
        rw [empty]
      · rfl

/-- Every use of an intake keeps it sound, and leaves and answers what a search does. -/
theorem Intake.Sound.step
    (roomy : Roomy limit)
    (sound : intake.Sound limit)
    (use : Use) :
    (intake.step use).1.Sound limit ∧
      ((intake.step use).1.buffer, (intake.step use).2) =
        Search.step limit.toNat intake.buffer use := by
  have roomyHere : Roomy intake.splitter.limit := sound.limit_eq.symm ▸ roomy
  cases use with
  | append chunk => exact ⟨⟨sound.limit_eq, sound.looked.append chunk⟩, rfl⟩
  | decode =>
      have faithful := Splitter.faithful_decode roomyHere sound.looked
      refine ⟨⟨faithful.limit_eq.trans sound.limit_eq, faithful.looked⟩, ?_⟩
      simp only [Intake.step, Search.step, ← decode_eq_search roomy sound]
  | decodeEnd =>
      have faithful := Splitter.faithful_decodeEnd roomyHere sound.looked
      refine ⟨⟨faithful.limit_eq.trans sound.limit_eq, faithful.looked⟩, ?_⟩
      simp only [Intake.step, Search.step, ← decodeEnd_eq_search roomy sound]

end Agreement

/-- After any uses an intake is sound, and holds and has answered what a search has. -/
theorem Intake.sound_run
    {limit : UInt64}
    (roomy : Roomy limit)
    (uses : List Use) :
    ((Intake.new limit).after uses).Sound limit ∧
      ((Intake.new limit).after uses).buffer = (run (Search.step limit.toNat) [] uses).1 ∧
      (Intake.new limit).answers uses = (run (Search.step limit.toNat) [] uses).2 := by
  have kept : ∀ (intake : Intake) (buffer : Bytes) (use : Use),
      intake.Sound limit ∧ intake.buffer = buffer →
        ((intake.step use).1.Sound limit ∧
            (intake.step use).1.buffer = (Search.step limit.toNat buffer use).1) ∧
          (intake.step use).2 = (Search.step limit.toNat buffer use).2 := by
    rintro intake buffer use ⟨sound, rfl⟩
    obtain ⟨soundAgain, same⟩ := sound.step roomy use
    rw [← same]
    exact ⟨⟨soundAgain, rfl⟩, rfl⟩
  obtain ⟨⟨sound, sameBuffer⟩, sameAnswers⟩ := run_related kept ⟨sound_new limit, rfl⟩ uses
  exact ⟨sound, sameBuffer, sameAnswers⟩

/-! ## What has left the buffer -/

/-- The bytes that arrive with a use. -/
def Use.arriving : Use → Bytes
  | .append chunk => chunk
  | _ => []

/-- The bytes that arrive with uses. -/
def appended (uses : List Use) : Bytes := uses.flatMap Use.arriving

/-- The lines among answers. -/
def given (answers : List Answer) : List String :=
  answers.filterMap fun answer =>
    match answer.result with
    | .line text => some text
    | _ => none

/-- The texts of the complete lines of a byte string that are within a limit. -/
def within (limit : Nat) (bytes : Bytes) : List String :=
  (terminated bytes).filterMap fun line => (plainLine limit line).toOption

theorem given_append (earlier later : List Answer) :
    given (earlier ++ later) = given earlier ++ given later :=
  List.filterMap_append

/-- Where one byte string ends with a line, the lines of the next come after its own. -/
theorem within_append
    {bytes : Bytes}
    (complete : remainder bytes = [])
    (limit : Nat)
    (more : Bytes) :
    within limit (bytes ++ more) = within limit bytes ++ within limit more := by
  rw [within, terminated_append, complete, List.nil_append, List.filterMap_append]
  rfl

namespace Search

/-- A use other than the one for the end takes a complete line off the buffer, or nothing.  It gives
that line out if it is within the limit, and nothing otherwise. -/
theorem exists_taken_step
    {use : Use}
    (open_ : use ≠ .decodeEnd)
    (limit : Nat)
    (buffer : Bytes) :
    ∃ taken, taken ++ (step limit buffer use).1 = buffer ++ use.arriving ∧ remainder taken = [] ∧
      given (step limit buffer use).2.toList = within limit taken := by
  cases use with
  | append chunk => exact ⟨[], rfl, rfl, rfl⟩
  | decodeEnd => exact absurd rfl open_
  | decode =>
      obtain absent | ⟨line, rest, absent, rfl⟩ := not_mem_or_eq_append_newline buffer
      · refine ⟨[], ?_, rfl, ?_⟩
        · simp only [step, decode_of_not_mem absent, Use.arriving, List.append_nil]
          split <;> rfl
        · simp only [step, decode_of_not_mem absent]
          split <;> rfl
      · refine ⟨line ++ [newline], ?_, ?_, ?_⟩
        · simp [step, decode_append_newline limit absent, Use.arriving]
        · exact remainder_append_newline absent []
        · rw [within, terminated_append_newline absent [], terminated_of_not_mem List.not_mem_nil]
          simp only [step, decode_append_newline limit absent, given, Option.toList_some,
            List.filterMap_cons, List.filterMap_nil]
          cases plainLine limit line with
          | ok text => rfl
          | error fault => rfl

/-- The same of any number of uses: a number of complete lines has left the buffer. -/
theorem exists_taken_run
    {uses : List Use}
    (open_ : .decodeEnd ∉ uses)
    (limit : Nat)
    (buffer : Bytes) :
    ∃ taken, taken ++ (run (step limit) buffer uses).1 = buffer ++ appended uses ∧
      remainder taken = [] ∧ given (run (step limit) buffer uses).2 = within limit taken := by
  induction uses generalizing buffer with
  | nil => exact ⟨[], (List.append_nil buffer).symm, rfl, rfl⟩
  | cons use later inductionHypothesis =>
      rw [List.mem_cons, not_or] at open_
      obtain ⟨first, firstWhole, firstComplete, firstGiven⟩ :=
        exists_taken_step (Ne.symm open_.1) limit buffer
      obtain ⟨rest, restWhole, restComplete, restGiven⟩ :=
        inductionHypothesis open_.2 (step limit buffer use).1
      refine ⟨first ++ rest, ?_, ?_, ?_⟩
      · calc first ++ rest ++ (run (step limit) (step limit buffer use).1 later).1
          _ = first ++ ((step limit buffer use).1 ++ appended later) := by
            rw [List.append_assoc, restWhole]
          _ = buffer ++ appended (use :: later) := by
            rw [← List.append_assoc, firstWhole, List.append_assoc]
            rfl
      · rw [← remainder_remainder_append, firstComplete, List.nil_append, restComplete]
      · rw [within_append firstComplete, ← firstGiven, ← restGiven]
        exact given_append _ _

end Search

/-! ## Any schedule -/

/-- However a splitter and its buffer are used, the cursor lies within the buffer and behind no
newline, and the answers and the rest of the buffer are those of a search that remembers nothing.
As long as the end is not thought to have come, what has left the buffer is a number of complete
lines, and the lines given out are those of them that are within the limit. -/
theorem cursor_has_no_part_in_answers
    (limit : UInt64)
    (roomy : Roomy limit)
    (uses : List Use) :
    let intake := (Intake.new limit).after uses
    let answers := (Intake.new limit).answers uses
    intake.splitter.cursor ≤ intake.buffer.length ∧
      newline ∉ intake.buffer.take intake.splitter.cursor ∧
      intake.buffer = (run (Search.step limit.toNat) [] uses).1 ∧
      answers = (run (Search.step limit.toNat) [] uses).2 ∧
      (.decodeEnd ∉ uses →
        ∃ taken, taken ++ intake.buffer = appended uses ∧ remainder taken = [] ∧
          given answers = within limit.toNat taken) := by
  obtain ⟨sound, sameBuffer, sameAnswers⟩ := Intake.sound_run roomy uses
  refine ⟨sound.looked.inside, sound.looked.absent, sameBuffer, sameAnswers, fun open_ => ?_⟩
  obtain ⟨taken, whole, complete, lines⟩ := Search.exists_taken_run open_ limit.toNat []
  refine ⟨taken, ?_, complete, ?_⟩
  · rw [sameBuffer, whole, List.nil_append]
  · rw [sameAnswers, lines]

/-- A line that was refused before its newline came is refused again, and the good one behind it
comes out whole. -/
theorem cursor_has_no_part_in_answers_after_a_refusal :
    Roomy 2 ∧
      (let uses : List Use :=
        [.append [0x61, 0x62, 0x63, 0x64], .decode, .append [0x0A, 0x6F], .decode, .decode,
          .append [0x6B, 0x0D, 0x0A], .decode]
      given ((Intake.new 2).answers uses) = ["ok"] ∧ ((Intake.new 2).after uses).buffer = []) := by
  have roomy : Roomy 2 := by decide
  have course := cursor_has_no_part_in_answers 2 roomy
    [.append [0x61, 0x62, 0x63, 0x64], .decode, .append [0x0A, 0x6F], .decode, .decode,
      .append [0x6B, 0x0D, 0x0A], .decode]
  obtain ⟨_, _, buffer, answers, _⟩ := course
  refine ⟨roomy, ?_, ?_⟩
  · rw [answers]
    decide +kernel
  · rw [buffer]
    decide +kernel

end Lines
end SerialShare
