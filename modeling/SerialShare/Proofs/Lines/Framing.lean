import SerialShare.Proofs.Lines.Plain

/-!
# Splitters read what is there

A splitter is `Looked` at a buffer when its cursor lies within the buffer and no newline lies before
the cursor.  Every operation keeps this, and under it the answer of an operation is the one that the
plain reading of the buffer gives, whatever is appended later.

The main statement follows by induction along the deliveries: lines and refusal are those of the
plain reading of all bytes together, however they are cut into chunks.
-/

namespace SerialShare
namespace Lines

/-- A splitter's cursor lies within a buffer, and no newline lies before it. -/
structure Splitter.Looked (splitter : Splitter) (buffer : Bytes) : Prop where
  /-- The cursor lies within the buffer. -/
  inside : splitter.cursor ≤ buffer.length
  /-- What lies before the cursor holds no newline. -/
  absent : newline ∉ buffer.take splitter.cursor

/-- The limit and the one byte that a carriage return may take are a number of 64 bits. -/
def Roomy (limit : UInt64) : Prop :=
  limit.toNat + 1 < UInt64.size

instance (limit : UInt64) : Decidable (Roomy limit) :=
  inferInstanceAs (Decidable (limit.toNat + 1 < UInt64.size))

namespace Splitter

/-- A splitter that starts over has nothing to remember. -/
theorem looked_of_cursor_eq_zero
    {splitter : Splitter}
    (start : splitter.cursor = 0)
    (buffer : Bytes) :
    splitter.Looked buffer := by
  refine ⟨?_, ?_⟩
  · rw [start]
    exact Nat.zero_le _
  · rw [start, List.take_zero]
    exact List.not_mem_nil

theorem Looked.append
    {splitter : Splitter}
    {buffer : Bytes}
    (looked : splitter.Looked buffer)
    (chunk : Bytes) :
    splitter.Looked (buffer ++ chunk) := by
  refine ⟨?_, ?_⟩
  · rw [List.length_append]
    exact Nat.le_add_right_of_le looked.inside
  · rw [List.take_append_of_le_length looked.inside]
    exact looked.absent

/-- The cursor never runs past the first newline. -/
theorem Looked.cursor_le
    {splitter : Splitter}
    {line rest : Bytes}
    (looked : splitter.Looked (line ++ newline :: rest)) :
    splitter.cursor ≤ line.length := by
  by_contra beyond
  apply looked.absent
  have reached : line.length + 1 ≤ splitter.cursor := by omega
  rw [List.take_append, List.mem_append]
  right
  rw [show splitter.cursor - line.length = splitter.cursor - line.length - 1 + 1 by omega,
    List.take_succ_cons]
  exact List.mem_cons_self

/-! ## One operation -/

theorem findIdx?_drop_of_not_mem
    {bytes : Bytes}
    (absent : newline ∉ bytes)
    (count : Nat) :
    (bytes.drop count).findIdx? (· == newline) = none := by
  rw [List.findIdx?_eq_none_iff]
  intro byte present
  rw [beq_eq_false_iff_ne]
  rintro rfl
  exact absent (List.mem_of_mem_drop present)

/-- A buffer with a newline gives up its first line. -/
theorem decode_append_newline
    {splitter : Splitter}
    {line rest : Bytes}
    (looked : splitter.Looked (line ++ newline :: rest))
    (absent : newline ∉ line) :
    splitter.decode (line ++ newline :: rest) =
      { result := .ofLine (lineText splitter.limit line)
        splitter := { splitter with cursor := 0 }
        buffer := rest } := by
  have within := looked.cursor_le
  have found :
      ((line ++ newline :: rest).drop splitter.cursor).findIdx? (· == newline) =
        some (line.length - splitter.cursor) := by
    rw [List.drop_append_of_le_length within, List.findIdx?_append,
      findIdx?_drop_of_not_mem absent]
    simp [List.findIdx?_cons]
  have position : splitter.cursor + (line.length - splitter.cursor) = line.length := by omega
  simp only [decode, found, position, List.take_left]
  rw [← List.drop_drop, List.drop_left]
  rfl

/-- A buffer without a newline is refused when it is too long, and left as it is otherwise. -/
theorem decode_of_not_mem
    {splitter : Splitter}
    {buffer : Bytes}
    (roomy : Roomy splitter.limit)
    (absent : newline ∉ buffer) :
    splitter.decode buffer =
      if splitter.limit.toNat + 1 < buffer.length then
        { result := .refused (tooLong splitter.limit), splitter, buffer }
      else
        { result := .nothing
          splitter := { splitter with cursor := buffer.length }
          buffer } := by
  simp only [decode, findIdx?_drop_of_not_mem absent, if_neg (Nat.not_le.mpr roomy)]

/-- A limit without room for one byte more overflows as soon as there is no newline. -/
theorem decode_of_not_roomy
    {splitter : Splitter}
    {buffer : Bytes}
    (full : ¬Roomy splitter.limit)
    (absent : newline ∉ buffer) :
    splitter.decode buffer = { result := .overflow, splitter, buffer } := by
  simp only [decode, findIdx?_drop_of_not_mem absent, if_pos (Nat.not_lt.mp full)]

/-- Where an open buffer gives an answer, the finished one gives the same. -/
theorem decodeEnd_of_answer
    {splitter : Splitter}
    {buffer : Bytes}
    (answered : (splitter.decode buffer).result ≠ .nothing) :
    splitter.decodeEnd buffer = splitter.decode buffer := by
  rw [decodeEnd]
  split
  · contradiction
  · rfl

/-- What is left of a finished buffer without a newline is its last line. -/
theorem decodeEnd_of_not_mem
    {splitter : Splitter}
    {buffer : Bytes}
    (roomy : Roomy splitter.limit)
    (absent : newline ∉ buffer)
    (fits : buffer.length ≤ splitter.limit.toNat + 1)
    (present : buffer ≠ []) :
    splitter.decodeEnd buffer =
      { result := .ofLine (lineText splitter.limit buffer)
        splitter := { splitter with cursor := 0 }
        buffer := [] } := by
  have filled : buffer.isEmpty = false := List.isEmpty_eq_false_iff.mpr present
  simp only [decodeEnd, decode_of_not_mem roomy absent, if_neg (Nat.not_lt.mpr fits), filled,
    Bool.false_eq_true, if_false]

/-- Cut the next line off a buffer, knowing whether more may be added to it. -/
def cut (splitter : Splitter) (ended : Bool) (buffer : Bytes) : Reading :=
  if ended then splitter.decodeEnd buffer else splitter.decode buffer

end Splitter

/-- What may become of a byte string: when it is known to have ended, nothing is added and it is
still known to have ended. -/
def Extends (ended later : Bool) (more : Bytes) : Prop :=
  ended = true → later = true ∧ more = []

/-- The answer to cutting a line off a buffer says the right thing about the plain reading of
everything that may become of the buffer. -/
structure Faithful (limit : UInt64) (ended : Bool) (buffer : Bytes) (answer : Reading) : Prop where
  /-- The limit stays. -/
  limit_eq : answer.splitter.limit = limit
  /-- The splitter can go on with what is left. -/
  looked : answer.splitter.Looked answer.buffer
  /-- A line is the first line, and what is left holds the others. -/
  line : ∀ text, answer.result = .line text →
    answer.buffer.length < buffer.length ∧
      ∀ later more, Extends ended later more →
        reading limit.toNat later (buffer ++ more) =
          (reading limit.toNat later (answer.buffer ++ more)).after [text]
  /-- Nothing is there, and nothing is taken away. -/
  nothing : answer.result = .nothing →
    answer.buffer = buffer ∧ reading limit.toNat ended buffer = ⟨[], none⟩
  /-- A refusal is the end. -/
  refused : ∀ fault, answer.result = .refused fault →
    ∀ later more, Extends ended later more →
      reading limit.toNat later (buffer ++ more) = ⟨[], some fault⟩
  /-- There is an answer. -/
  answered : answer.result ≠ .overflow

namespace Splitter

/-- What became of one complete line is what the plain reading begins with. -/
theorem faithful_of_line
    {limit : UInt64}
    {ended : Bool}
    {buffer rest : Bytes}
    {line : Bytes}
    {splitter : Splitter}
    (limitEqual : splitter.limit = limit)
    (start : splitter.cursor = 0)
    (shorter : rest.length < buffer.length)
    (follows : ∀ later more, Extends ended later more →
      reading limit.toNat later (buffer ++ more) =
        (reading limit.toNat later (rest ++ more)).follow (lineText limit line)) :
    Faithful limit ended buffer
      { result := .ofLine (lineText limit line), splitter, buffer := rest } := by
  have looked := looked_of_cursor_eq_zero start rest
  cases judged : lineText limit line with
  | ok found =>
      refine ⟨limitEqual, looked, ?_, ?_, ?_, ?_⟩
      · rintro text ⟨⟩
        refine ⟨shorter, fun later more grows => ?_⟩
        rw [follows later more grows, judged]
        rfl
      · rintro ⟨⟩
      · rintro fault ⟨⟩
      · rintro ⟨⟩
  | error found =>
      refine ⟨limitEqual, looked, ?_, ?_, ?_, ?_⟩
      · rintro text ⟨⟩
      · rintro ⟨⟩
      · rintro fault ⟨⟩ later more grows
        rw [follows later more grows, judged]
        rfl
      · rintro ⟨⟩

/-- What became of a first line with its newline is what the plain reading begins with. -/
theorem faithful_of_append_newline
    {splitter : Splitter}
    {line rest : Bytes}
    (absent : newline ∉ line)
    (ended : Bool) :
    Faithful splitter.limit ended (line ++ newline :: rest)
      { result := .ofLine (lineText splitter.limit line)
        splitter := { splitter with cursor := 0 }
        buffer := rest } := by
  refine faithful_of_line rfl rfl ?_ fun later more _ => ?_
  · rw [List.length_append, List.length_cons]
    omega
  · rw [List.append_assoc, List.cons_append]
    exact reading_append_newline splitter.limit later absent (rest ++ more)

/-- A refusal for want of a newline is right. -/
theorem faithful_of_long
    {splitter : Splitter}
    {buffer : Bytes}
    (looked : splitter.Looked buffer)
    (absent : newline ∉ buffer)
    (long : splitter.limit.toNat + 1 < buffer.length)
    (ended : Bool) :
    Faithful splitter.limit ended buffer
      { result := .refused (tooLong splitter.limit), splitter, buffer } := by
  refine ⟨rfl, looked, ?_, ?_, ?_, ?_⟩
  · rintro text ⟨⟩
  · rintro ⟨⟩
  · rintro fault ⟨⟩ later more _
    exact reading_of_long absent long later more
  · rintro ⟨⟩

theorem faithful_decode
    {splitter : Splitter}
    {buffer : Bytes}
    (roomy : Roomy splitter.limit)
    (looked : splitter.Looked buffer) :
    Faithful splitter.limit false buffer (splitter.decode buffer) := by
  obtain absent | ⟨line, rest, absent, rfl⟩ := not_mem_or_eq_append_newline buffer
  · rw [decode_of_not_mem roomy absent]
    by_cases long : splitter.limit.toNat + 1 < buffer.length
    · rw [if_pos long]
      exact faithful_of_long looked absent long _
    · rw [if_neg long]
      refine ⟨rfl, ⟨Nat.le_refl _, ?_⟩, ?_, ?_, ?_, ?_⟩
      · rw [List.take_length]
        exact absent
      · rintro text ⟨⟩
      · intro _
        exact ⟨rfl, plainSoFar_of_not_mem absent (by omega)⟩
      · rintro fault ⟨⟩
      · rintro ⟨⟩
  · rw [decode_append_newline looked absent]
    exact faithful_of_append_newline absent _

theorem faithful_decodeEnd
    {splitter : Splitter}
    {buffer : Bytes}
    (roomy : Roomy splitter.limit)
    (looked : splitter.Looked buffer) :
    Faithful splitter.limit true buffer (splitter.decodeEnd buffer) := by
  obtain absent | ⟨line, rest, absent, rfl⟩ := not_mem_or_eq_append_newline buffer
  · rw [decodeEnd, decode_of_not_mem roomy absent]
    by_cases long : splitter.limit.toNat + 1 < buffer.length
    · rw [if_pos long]
      exact faithful_of_long looked absent long _
    · rw [if_neg long]
      cases buffer with
      | nil =>
          refine ⟨rfl, looked_of_cursor_eq_zero rfl [], ?_, ?_, ?_, ?_⟩
          · rintro text ⟨⟩
          · intro _
            exact ⟨rfl, rfl⟩
          · rintro fault ⟨⟩
          · rintro ⟨⟩
      | cons byte buffer =>
          refine faithful_of_line rfl rfl ?_ fun later more grows => ?_
          · exact Nat.succ_pos buffer.length
          · obtain ⟨rfl, rfl⟩ := grows rfl
            rw [List.append_nil]
            exact plain_of_not_mem splitter.limit absent (List.cons_ne_nil byte buffer)
  · have whole : splitter.decodeEnd (line ++ newline :: rest) =
        splitter.decode (line ++ newline :: rest) := by
      apply decodeEnd_of_answer
      rw [decode_append_newline looked absent]
      exact Outcome.ofLine_ne_nothing _
    rw [whole, decode_append_newline looked absent]
    exact faithful_of_append_newline absent _

/-- Under the invariant every cut is faithful. -/
theorem faithful_cut
    {splitter : Splitter}
    {buffer : Bytes}
    (roomy : Roomy splitter.limit)
    (looked : splitter.Looked buffer)
    (ended : Bool) :
    Faithful splitter.limit ended buffer (splitter.cut ended buffer) := by
  cases ended with
  | false => exact faithful_decode roomy looked
  | true => exact faithful_decodeEnd roomy looked

/-! ## Operations until nothing comes -/

theorem drain_of_line
    {splitter : Splitter}
    {buffer : Bytes}
    {line : String}
    (cut : (splitter.decode buffer).result = .line line) :
    splitter.drain buffer =
      (line :: ((splitter.decode buffer).splitter.drain (splitter.decode buffer).buffer).1,
        ((splitter.decode buffer).splitter.drain (splitter.decode buffer).buffer).2) := by
  rw [drain]
  split
  · rename_i found equal
    rw [cut] at equal
    cases equal
    rfl
  · rename_i other
    exact absurd cut (other line)

theorem drain_of_no_line
    {splitter : Splitter}
    {buffer : Bytes}
    (none : ∀ line, (splitter.decode buffer).result ≠ .line line) :
    splitter.drain buffer = ([], splitter.decode buffer) := by
  rw [drain]
  split
  · rename_i found equal
    exact absurd equal (none found)
  · rfl

/-- Taking lines off an open buffer until nothing comes: the lines are those that the plain reading
begins with, and the last answer is a refusal or leaves the rest of the buffer to be read. -/
theorem faithful_drain
    {splitter : Splitter}
    {buffer : Bytes}
    (roomy : Roomy splitter.limit)
    (looked : splitter.Looked buffer) :
    (∃ fault, (splitter.drain buffer).2.result = .refused fault ∧
      ∀ later more, reading splitter.limit.toNat later (buffer ++ more) =
        ⟨(splitter.drain buffer).1, some fault⟩) ∨
    ((splitter.drain buffer).2.result = .nothing ∧
      (splitter.drain buffer).2.splitter.limit = splitter.limit ∧
      (splitter.drain buffer).2.splitter.Looked (splitter.drain buffer).2.buffer ∧
      ∀ later more, reading splitter.limit.toNat later (buffer ++ more) =
        (reading splitter.limit.toNat later ((splitter.drain buffer).2.buffer ++ more)).after
          (splitter.drain buffer).1) := by
  induction size : buffer.length using Nat.strongRecOn generalizing splitter buffer with
  | ind size inductionHypothesis =>
      have faithful := faithful_decode roomy looked
      have unfinished : ∀ later more, Extends false later more := by
        rintro later more ⟨⟩
      cases result : (splitter.decode buffer).result with
      | overflow => exact absurd result faithful.answered
      | refused fault =>
          rw [drain_of_no_line fun line equal => by rw [result] at equal; cases equal]
          left
          exact ⟨fault, result, fun later more =>
            faithful.refused fault result later more (unfinished later more)⟩
      | nothing =>
          rw [drain_of_no_line fun line equal => by rw [result] at equal; cases equal]
          right
          refine ⟨result, faithful.limit_eq, faithful.looked, fun later more => ?_⟩
          rw [(faithful.nothing result).1]
          rfl
      | line text =>
          rw [drain_of_line result]
          obtain ⟨shorter, first⟩ := faithful.line text result
          have rest := inductionHypothesis _ (size ▸ shorter)
            (by rw [faithful.limit_eq]; exact roomy) faithful.looked rfl
          rw [faithful.limit_eq] at rest
          obtain ⟨fault, refused, whole⟩ | ⟨finished, limitEqual, leftLooked, whole⟩ := rest
          · left
            refine ⟨fault, refused, fun later more => ?_⟩
            rw [first later more (unfinished later more), whole later more]
            rfl
          · right
            refine ⟨finished, limitEqual, leftLooked, fun later more => ?_⟩
            rw [first later more (unfinished later more), whole later more]
            rfl

/-- An answer without a line leaves the buffer as it is. -/
theorem buffer_decode_of_none
    {splitter : Splitter}
    {buffer : Bytes}
    (nothing : (splitter.decode buffer).result = .nothing) :
    (splitter.decode buffer).buffer = buffer := by
  unfold decode at nothing ⊢
  split at nothing
  · exact absurd nothing (Outcome.ofLine_ne_nothing _)
  · split
    · rfl
    · split <;> rfl

/-- A line cut off a finished buffer takes at least one byte with it. -/
theorem length_buffer_decodeEnd_lt
    {splitter : Splitter}
    {buffer : Bytes}
    {line : String}
    (cut : (splitter.decodeEnd buffer).result = .line line) :
    (splitter.decodeEnd buffer).buffer.length < buffer.length := by
  by_cases nothing : (splitter.decode buffer).result = .nothing
  · simp only [decodeEnd, nothing, buffer_decode_of_none nothing] at cut ⊢
    cases buffer with
    | nil => cases cut
    | cons byte buffer => exact Nat.succ_pos buffer.length
  · rw [decodeEnd_of_answer nothing] at cut ⊢
    exact length_buffer_decode_lt cut

/-- Take lines off a finished buffer until nothing comes.  There is no transcript if the limit
overflows. -/
def drainEnd (splitter : Splitter) (buffer : Bytes) : Option Transcript :=
  match _cut : (splitter.decodeEnd buffer).result with
  | .line line =>
    let answer := splitter.decodeEnd buffer
    (answer.splitter.drainEnd answer.buffer).map (·.after [line])
  | .nothing => some ⟨[], none⟩
  | .refused fault => some ⟨[], some fault⟩
  | .overflow => none
termination_by buffer.length
decreasing_by exact length_buffer_decodeEnd_lt _cut

/-- Append chunks to a buffer one after the other, take lines off it after each until nothing
comes, and do the same with the finished buffer after the last one.  The first refusal is the
end.  There is no transcript if the limit overflows. -/
def readChunks (splitter : Splitter) (buffer : Bytes) : List Bytes → Option Transcript
  | [] => splitter.drainEnd buffer
  | chunk :: later =>
    let (lines, last) := splitter.drain (buffer ++ chunk)
    match last.result with
    | .refused fault => some ⟨lines, some fault⟩
    | .overflow => none
    | _ => (last.splitter.readChunks last.buffer later).map (·.after lines)

/-- Taking lines off a finished buffer until nothing comes is the plain reading of it. -/
theorem drainEnd_eq_plain
    {splitter : Splitter}
    {buffer : Bytes}
    (roomy : Roomy splitter.limit)
    (looked : splitter.Looked buffer) :
    splitter.drainEnd buffer = some (plain splitter.limit.toNat buffer) := by
  induction size : buffer.length using Nat.strongRecOn generalizing splitter buffer with
  | ind size inductionHypothesis =>
      have faithful := faithful_decodeEnd roomy looked
      have finished : Extends true true [] := fun _ => ⟨rfl, rfl⟩
      rw [drainEnd]
      split
      · rename_i line result
        obtain ⟨shorter, first⟩ := faithful.line line result
        have rest := inductionHypothesis _ (size ▸ shorter)
          (by rw [faithful.limit_eq]; exact roomy) faithful.looked rfl
        have whole := first true [] finished
        simp only [List.append_nil, reading, if_true] at whole
        rw [faithful.limit_eq] at rest
        simp only [rest, Option.map_some, whole]
      · rename_i result
        exact congrArg some (faithful.nothing result).2.symm
      · rename_i fault result
        have whole := faithful.refused fault result true [] finished
        simp only [List.append_nil, reading, if_true] at whole
        exact congrArg some whole.symm
      · rename_i result
        exact absurd result faithful.answered

/-- Reading chunks is the plain reading of the buffer with all of them. -/
theorem readChunks_eq_plain
    {splitter : Splitter}
    {buffer : Bytes}
    (roomy : Roomy splitter.limit)
    (looked : splitter.Looked buffer)
    (chunks : List Bytes) :
    splitter.readChunks buffer chunks =
      some (plain splitter.limit.toNat (buffer ++ chunks.flatten)) := by
  induction chunks generalizing splitter buffer with
  | nil =>
      rw [List.flatten_nil, List.append_nil]
      exact drainEnd_eq_plain roomy looked
  | cons chunk later inductionHypothesis =>
      rw [readChunks, List.flatten_cons, ← List.append_assoc]
      obtain ⟨fault, refused, whole⟩ | ⟨finished, limitEqual, leftLooked, whole⟩ :=
        faithful_drain roomy (looked.append chunk)
      · simp only [refused]
        exact congrArg some (whole true later.flatten).symm
      · have rest := inductionHypothesis (limitEqual ▸ roomy) leftLooked
        simp only [finished]
        rw [rest, limitEqual]
        exact congrArg some (whole true later.flatten).symm

theorem readChunks_new
    {limit : UInt64}
    (roomy : Roomy limit)
    (chunks : List Bytes) :
    (new limit).readChunks [] chunks = some (plain limit.toNat chunks.flatten) := by
  have looked : (new limit).Looked [] := looked_of_cursor_eq_zero rfl []
  have read := readChunks_eq_plain roomy looked chunks
  rw [List.nil_append] at read
  exact read

end Splitter

/-! ## Deliveries do not matter -/

/-- However a byte string is cut into chunks, a fresh splitter reads the lines of the plain reading
out of them and ends as that does, without an overflow.  The plain reading itself loses no byte and
moves none. -/
theorem chunks_read_plainly
    (limit : UInt64)
    (roomy : Roomy limit)
    (chunks : List Bytes) :
    (Splitter.new limit).readChunks [] chunks = some (plain limit.toNat chunks.flatten) ∧
      (terminated chunks.flatten).flatMap (· ++ [newline]) ++ remainder chunks.flatten =
        chunks.flatten :=
  ⟨Splitter.readChunks_new roomy chunks, flatMap_terminated_append_remainder chunks.flatten⟩

/-- A carriage return that ends one chunk and a newline that starts the next end a line of the
greatest length together, and the byte that is too many ends everything. -/
theorem chunks_read_plainly_between_return_and_newline :
    Roomy 2 ∧
      (Splitter.new 2).readChunks [] [[0x61], [], [0x62, 0x0D], [0x0A, 0x63, 0x64, 0x65, 0x0A]] =
        some ⟨["ab"], some ⟨.invalidData, "Line longer than 2 bytes"⟩⟩ := by
  refine ⟨by decide, ?_⟩
  rw [(chunks_read_plainly 2 (by decide) _).1]
  decide +kernel

end Lines
end SerialShare
