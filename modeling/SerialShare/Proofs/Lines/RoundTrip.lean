import SerialShare.Proofs.Lines.Text

/-!
# Which lines come back

Texts are written as lines, and the bytes arrive at a splitter in chunks.  After each chunk lines
are taken off the buffer until nothing comes.  What is left then is what follows the last newline of
all bytes so far, so a splitter that is fed in this way reads the bytes plainly and holds on to
nothing else.

The main statement follows: the texts that come back as they were are exactly those without newlines
that do not end in a carriage return and are within the limit.
-/

namespace SerialShare
namespace Lines

open Text (utf8)

namespace Splitter

/-- Taking lines off a buffer with a first line begins with that line. -/
theorem drain_append_newline
    {splitter : Splitter}
    {line rest : Bytes}
    (looked : splitter.Looked (line ++ newline :: rest))
    (absent : newline ∉ line) :
    splitter.drain (line ++ newline :: rest) =
      match lineText splitter.limit line with
      | .ok text =>
        (text :: ({ splitter with cursor := 0 }.drain rest).1,
          ({ splitter with cursor := 0 }.drain rest).2)
      | .error fault => ([], ⟨.refused fault, { splitter with cursor := 0 }, rest⟩) := by
  have cut := decode_append_newline looked absent
  cases judged : lineText splitter.limit line with
  | ok text =>
      rw [judged] at cut
      rw [drain_of_line (by rw [cut]; rfl), cut]
  | error fault =>
      rw [judged] at cut
      rw [drain_of_no_line (by rw [cut]; rintro line ⟨⟩), cut]
      rfl

/-- When no line comes any more, what follows the last newline is left, and it is not longer than a
line that a carriage return could bring within the limit. -/
theorem buffer_drain
    {splitter : Splitter}
    {buffer : Bytes}
    (roomy : Roomy splitter.limit)
    (looked : splitter.Looked buffer)
    (finished : (splitter.drain buffer).2.result = .nothing) :
    (splitter.drain buffer).2.buffer = remainder buffer ∧
      (remainder buffer).length ≤ splitter.limit.toNat + 1 := by
  induction buffer using lineInduction generalizing splitter with
  | unterminated bytes absent =>
      have silent : ∀ line, (splitter.decode bytes).result ≠ .line line := by
        intro line
        rw [decode_of_not_mem roomy absent]
        split <;> rintro ⟨⟩
      rw [drain_of_no_line silent, decode_of_not_mem roomy absent] at finished ⊢
      rw [remainder_of_not_mem absent]
      by_cases long : splitter.limit.toNat + 1 < bytes.length
      · rw [if_pos long] at finished
        cases finished
      · rw [if_neg long]
        exact ⟨rfl, Nat.not_lt.mp long⟩
  | line line rest absent inductionHypothesis =>
      rw [drain_append_newline looked absent] at finished ⊢
      rw [remainder_append_newline absent]
      cases judged : lineText splitter.limit line with
      | ok text =>
          rw [judged] at finished
          exact inductionHypothesis roomy (looked_of_cursor_eq_zero rfl rest) finished
      | error fault =>
          rw [judged] at finished
          cases finished

/-! ## Feeding a splitter -/

/-- Append chunks to a buffer one after the other, and take lines off it after each until nothing
comes.  The first refusal is the end.  Also gives what is left of the buffer.  There is neither if
the limit overflows. -/
def feed (splitter : Splitter) (buffer : Bytes) : List Bytes → Option (Transcript × Bytes)
  | [] => some (⟨[], none⟩, buffer)
  | chunk :: later =>
    let (lines, last) := splitter.drain (buffer ++ chunk)
    match last.result with
    | .refused fault => some (⟨lines, some fault⟩, last.buffer)
    | .overflow => none
    | _ =>
      (last.splitter.feed last.buffer later).map fun (transcript, left) =>
        (transcript.after lines, left)

/-- A splitter that is fed reads everything plainly, and is left with what follows the last
newline. -/
theorem feed_eq_plainSoFar
    {splitter : Splitter}
    {buffer : Bytes}
    (roomy : Roomy splitter.limit)
    (looked : splitter.Looked buffer)
    (waiting : newline ∉ buffer ∧ buffer.length ≤ splitter.limit.toNat + 1)
    (chunks : List Bytes) :
    ∃ left,
      splitter.feed buffer chunks =
        some (plainSoFar splitter.limit.toNat (buffer ++ chunks.flatten), left) ∧
      ((plainSoFar splitter.limit.toNat (buffer ++ chunks.flatten)).refusal = none →
        left = remainder (buffer ++ chunks.flatten)) := by
  induction chunks generalizing splitter buffer with
  | nil =>
      obtain ⟨absent, fits⟩ := waiting
      rw [List.flatten_nil, List.append_nil, plainSoFar_of_not_mem absent fits,
        remainder_of_not_mem absent]
      exact ⟨buffer, rfl, fun _ => rfl⟩
  | cons chunk later inductionHypothesis =>
      have lookedAgain := looked.append chunk
      rw [feed, List.flatten_cons, ← List.append_assoc]
      obtain ⟨fault, refused, whole⟩ | ⟨finished, limitEqual, leftLooked, whole⟩ :=
        faithful_drain roomy lookedAgain
      · have read := whole false later.flatten
        rw [reading, if_neg Bool.false_ne_true] at read
        simp only [refused, read]
        refine ⟨_, rfl, ?_⟩
        rintro ⟨⟩
      · obtain ⟨left, fits⟩ := buffer_drain roomy lookedAgain finished
        have absent := newline_not_mem_remainder (buffer ++ chunk)
        rw [← left] at fits absent
        obtain ⟨rest, fed, restLeft⟩ := inductionHypothesis (limitEqual ▸ roomy) leftLooked
          ⟨absent, limitEqual ▸ fits⟩
        have read := whole false later.flatten
        simp only [reading, if_neg Bool.false_ne_true] at read
        rw [limitEqual] at fed restLeft
        simp only [finished, fed, read, Option.map_some]
        refine ⟨rest, rfl, fun unrefused => ?_⟩
        rw [restLeft unrefused, left, remainder_remainder_append]

theorem feed_new
    {limit : UInt64}
    (roomy : Roomy limit)
    (chunks : List Bytes) :
    ∃ left,
      (new limit).feed [] chunks = some (plainSoFar limit.toNat chunks.flatten, left) ∧
      ((plainSoFar limit.toNat chunks.flatten).refusal = none →
        left = remainder chunks.flatten) := by
  have looked : (new limit).Looked [] := looked_of_cursor_eq_zero rfl []
  have fed := feed_eq_plainSoFar roomy looked ⟨List.not_mem_nil, Nat.zero_le _⟩ chunks
  rw [List.nil_append] at fed
  exact fed

/-- Where nothing is refused, a fresh splitter gives out the lines and is left with what follows the
last newline. -/
theorem feed_new_of_read
    {limit : UInt64}
    {chunks : List Bytes}
    {lines : List String}
    (roomy : Roomy limit)
    (read : plainSoFar limit.toNat chunks.flatten = ⟨lines, none⟩) :
    (new limit).feed [] chunks = some (⟨lines, none⟩, remainder chunks.flatten) := by
  obtain ⟨left, fed, complete⟩ := feed_new roomy chunks
  rw [read] at fed complete
  rw [fed, complete rfl]

end Splitter

/-! ## Texts -/

variable {limit : UInt64} {line : String}

/-- A clean text is its only line. -/
theorem Clean.ofRequest_eq (clean : Clean limit line) : ofRequest line = [line] := by
  rw [ofRequest, List.splitOn_eq_singleton clean.unbroken, List.map_singleton,
    withoutReturn_of_getLast?_ne clean.unreturned, String.ofList_toList]

theorem ofText_joined_of_clean
    {lines : List String}
    (clean : ∀ line ∈ lines, Clean limit line) :
    ofText (joined lines) = lines := by
  rw [ofText_joined, List.flatMap_congr fun line present => (clean line present).ofRequest_eq,
    List.flatMap_singleton']

theorem withoutReturn_isPrefix (piece : List Char) : withoutReturn piece <+: piece := by
  rw [withoutReturn, getD_dropSuffix?_singleton]
  split
  · exact List.dropLast_prefix piece
  · exact List.prefix_rfl

/-- A piece that stays whole does not end in a carriage return. -/
theorem getLast?_ne_of_withoutReturn_eq
    {piece : List Char}
    (whole : withoutReturn piece = piece) :
    piece.getLast? ≠ some '\r' := by
  intro returned
  obtain ⟨front, rfl⟩ := List.getLast?_eq_some_iff.mp returned
  rw [withoutReturn_append_return] at whole
  have shorter := congrArg List.length whole
  rw [List.length_append, List.length_singleton] at shorter
  omega

/-- A text that is its own first line, and within the limit, is clean. -/
theorem clean_of_first_eq
    (whole : first line = line)
    (short : (utf8 line).length ≤ limit.toNat) :
    Clean limit line := by
  have characters : withoutReturn (line.toList.takeWhile (· ≠ '\n')) = line.toList := by
    have equal := congrArg String.toList whole
    rwa [first, String.toList_ofList] at equal
  have front : line.toList.takeWhile (· ≠ '\n') <+: line.toList := List.takeWhile_prefix _
  have kept : line.toList.takeWhile (· ≠ '\n') = line.toList := by
    apply front.eq_of_length_le
    have within := (withoutReturn_isPrefix (line.toList.takeWhile (· ≠ '\n'))).length_le
    rwa [characters] at within
  refine ⟨?_, ?_, short⟩
  · intro present
    rw [← kept] at present
    have different := List.all_eq_true.mp List.all_takeWhile '\n' present
    simp at different
  · rw [kept] at characters
    exact getLast?_ne_of_withoutReturn_eq characters

theorem terminated_encode (line : String) :
    terminated (encode line) =
      (line.toList.splitOn '\n').map fun piece => piece.flatMap String.utf8EncodeChar := by
  rw [terminated, encode, List.splitOn_append_cons_self, utf8, splitOn_flatMap_utf8EncodeChar]
  exact List.dropLast_concat

/-- The first line that is read out of one written text. -/
theorem head?_lines_encode
    (limit : UInt64)
    (line : String) :
    (plainSoFar limit.toNat (encode line)).lines.head? =
      if (utf8 (first line)).length ≤ limit.toNat then some (first line) else none := by
  obtain ⟨later, pieces⟩ : ∃ later,
      line.toList.splitOn '\n' = line.toList.takeWhile (· ≠ '\n') :: later :=
    List.head?_eq_some_iff.mp (head?_splitOn '\n' line.toList)
  have text : String.ofList (withoutReturn (line.toList.takeWhile (· ≠ '\n'))) = first line := rfl
  rw [plainSoFar, terminated_encode, pieces, List.map_cons, plainLines, ← lineText_eq_plainLine,
    lineText_flatMap_utf8EncodeChar, text]
  by_cases short : (utf8 (first line)).length ≤ limit.toNat
  · rw [if_pos short, if_pos short, Transcript.follow, Transcript.after, List.singleton_append,
      List.head?_cons]
  · rw [if_neg short, if_neg short, Transcript.follow, List.head?_nil]

/-- A text that is all that is read out of its own line is clean. -/
theorem clean_of_plainSoFar_encode
    (survives : (plainSoFar limit.toNat (encode line)).lines = [line]) :
    Clean limit line := by
  have same := head?_lines_encode limit line
  rw [survives, List.head?_cons] at same
  split at same
  · rename_i short
    have whole := (Option.some.inj same).symm
    rw [whole] at short
    exact clean_of_first_eq whole short
  · cases same

theorem remainder_encode (line : String) : remainder (encode line) = [] := by
  have joinedRemainder := remainder_utf8_joined [line]
  rwa [utf8_joined, List.flatMap_singleton] at joinedRemainder

/-- A written text is finished, so that nothing more is read at its end. -/
theorem plain_encode
    (limit : Nat)
    (line : String) :
    plain limit (encode line) = plainSoFar limit (encode line) := by
  rw [plain, items, plainSoFar, remainder_encode, if_pos rfl, List.append_nil, List.length_nil,
    if_neg (Nat.not_lt_zero _)]

/-! ## One text -/

/-- Writing a clean text adds one line to what was written before. -/
theorem Clean.terminated_append_encode
    (clean : Clean limit line)
    (before : Bytes) :
    terminated (before ++ encode line) = terminated before ++ [remainder before ++ utf8 line] ∧
      remainder (before ++ encode line) = [] := by
  induction before using lineInduction with
  | unterminated before absent =>
      have whole : newline ∉ before ++ utf8 line := by
        rw [List.mem_append, not_or]
        exact ⟨absent, clean.newline_not_mem⟩
      rw [encode, ← List.append_assoc, terminated_append_newline whole,
        remainder_append_newline whole, terminated_of_not_mem absent, remainder_of_not_mem absent]
      exact ⟨rfl, rfl⟩
  | line first rest absent inductionHypothesis =>
      rw [List.append_assoc, List.cons_append, terminated_append_newline absent,
        remainder_append_newline absent, terminated_append_newline absent,
        remainder_append_newline absent, inductionHypothesis.1]
      exact ⟨rfl, inductionHypothesis.2⟩

/-- The bytes of a clean text are read as this text. -/
theorem Clean.plainSoFar_encode (clean : Clean limit line) :
    plainSoFar limit.toNat (encode line) = ⟨[line], none⟩ := by
  rw [encode, plainSoFar_append_newline limit clean.newline_not_mem, clean.lineText_utf8,
    plainSoFar_of_not_mem List.not_mem_nil (Nat.zero_le _)]
  rfl

/-- However the bytes of a clean text arrive, a fresh splitter reads this text, and nothing is left
for the end. -/
theorem Clean.feed_encode
    (clean : Clean limit line)
    (roomy : Roomy limit)
    {chunks : List Bytes}
    (whole : chunks.flatten = encode line) :
    (Splitter.new limit).feed [] chunks = some (⟨[line], none⟩, []) ∧
      (Splitter.new limit).readChunks [] chunks = some ⟨[line], none⟩ := by
  have read := clean.plainSoFar_encode
  rw [← whole] at read
  have fed := Splitter.feed_new_of_read roomy read
  have finished := Splitter.readChunks_new roomy chunks
  rw [whole, remainder_encode] at fed
  rw [whole, plain_encode, ← whole, read] at finished
  exact ⟨fed, finished⟩

/-! ## The texts that come back -/

/-- Clean texts, written one after the other, all come back from a fresh splitter as they were,
however their bytes are cut into chunks, and nothing is left.  A text that is not clean never comes
back as itself alone, whether or not its end is known. -/
theorem clean_texts_come_back
    (limit : UInt64)
    (roomy : Roomy limit) :
    (∀ (lines : List String) (chunks : List Bytes),
      (∀ line ∈ lines, Clean limit line) →
      chunks.flatten = lines.flatMap encode →
      (Splitter.new limit).feed [] chunks = some (⟨lines, none⟩, [])) ∧
    (∀ (line : String) (chunks : List Bytes),
      ¬Clean limit line →
      chunks.flatten = encode line →
      (∃ transcript left, (Splitter.new limit).feed [] chunks = some (transcript, left) ∧
          transcript.lines ≠ [line]) ∧
        ∃ transcript, (Splitter.new limit).readChunks [] chunks = some transcript ∧
          transcript.lines ≠ [line]) := by
  refine ⟨?_, ?_⟩
  · intro lines chunks clean whole
    have texts := ofText_joined_of_clean clean
    have short : ∀ line ∈ ofText (joined lines), (utf8 line).length ≤ limit.toNat := by
      rw [texts]
      exact fun line present => (clean line present).short
    have read := reading_utf8_joined short
    rw [reading, if_neg Bool.false_ne_true, texts, utf8_joined, ← whole] at read
    rw [Splitter.feed_new_of_read roomy read, whole, ← utf8_joined, remainder_utf8_joined]
  · intro line chunks unclean whole
    obtain ⟨left, fed, _⟩ := Splitter.feed_new roomy chunks
    have finished := Splitter.readChunks_new roomy chunks
    rw [whole] at fed finished
    rw [plain_encode] at finished
    have altered : (plainSoFar limit.toNat (encode line)).lines ≠ [line] :=
      fun survives => unclean (clean_of_plainSoFar_encode survives)
    exact ⟨⟨_, left, fed, altered⟩, _, finished, altered⟩

/-- Three texts come back though a cut goes through a character of two bytes, and a text with a
carriage return at its end does not. -/
theorem clean_texts_come_back_through_a_character :
    Roomy 3 ∧
      (Splitter.new 3).feed [] [[0x61, 0x0D, 0x62], [], [0x0A, 0x0A, 0xC3], [0xA9, 0x0A]] =
        some (⟨["a\rb", "", "é"], none⟩, []) ∧
      ∃ transcript left,
        (Splitter.new 3).feed [] [[0x61, 0x0D], [0x0A]] = some (transcript, left) ∧
          transcript.lines ≠ ["a\r"] := by
  have roomy : Roomy 3 := by decide
  obtain ⟨come, stay⟩ := clean_texts_come_back 3 roomy
  refine ⟨roomy, ?_, ?_⟩
  · apply come
    · simp only [List.forall_mem_cons]
      exact ⟨⟨by decide, by decide, by decide⟩, ⟨by decide, by decide, by decide⟩,
        ⟨by decide, by decide, by decide⟩, nofun⟩
    · decide
  · refine (stay "a\r" _ ?_ ?_).1
    · intro clean
      exact clean.unreturned (by decide)
    · decide

end Lines
end SerialShare
